/-
# Reading what was written

Some pokes have one text (`CodeText.write`): their lines, joined by the line separator, and it is
cut into just these lines.  The code text of some patches is the text of the pokes that carry them
out, in order (`Patch.encode_eq_ok_iff`).  Reading it gives these pokes back, less those whose
address has no room in six digits (`CodeText.read_encode`): their lines are longer than a code.  One
more line separator at the end makes no difference, so the printed text is read as the text itself.
-/

import CheatCode.Proofs.CodeText.Grammar
import CheatCode.Proofs.Program.OnMachine

namespace CheatCode

namespace CodeText

/-- The text with the lines of some pokes. -/
def write (codes : List Poke) : String :=
  Patch.lineSeparator.intercalate (codes.map fun code => String.ofList code.line)

theorem toList_write (codes : List Poke) :
    (write codes).toList = List.intercalate ['\n'] (codes.map Poke.line) := by
  rw [write, String.toList_intercalate, List.map_map]
  simp only [Function.comp_def, String.toList_ofList]
  rfl

/-- **A written text has the lines of its pokes.** -/
theorem lines_write (codes : List Poke) :
    Text.lines (write codes).toList = codes.map Poke.line := by
  rw [toList_write, Poke.lines_intercalate_line]

end CodeText

namespace Patch

/-- The code text of some patches is the text of their pokes, if there are any. -/
theorem encode_eq_ok_iff {patches : List Patch} {text : String} :
    encode patches = .ok text ↔
      patches.flatMap pokes ≠ [] ∧ text = CodeText.write (patches.flatMap pokes) := by
  unfold encode
  cases patches.flatMap pokes with
  | nil => simp
  | cons code codes => simp [CodeText.write, eq_comm]

/-- A code text has the lines of its pokes, of which there is at least one. -/
theorem toList_of_encode {patches : List Patch} {text : String} (h : encode patches = .ok text) :
    patches.flatMap pokes ≠ [] ∧
      text.toList = List.intercalate ['\n'] ((patches.flatMap pokes).map Poke.line) := by
  obtain ⟨hne, rfl⟩ := encode_eq_ok_iff.1 h
  exact ⟨hne, CodeText.toList_write _⟩

end Patch

namespace CodeText

/-- A text whose lines are those of some pokes gives them back, less those whose address has no
room in six digits. -/
theorem pokes_of_lines {text : String} {codes : List Poke}
    (h : Text.lines text.toList = codes.map Poke.line) :
    pokes text = codes.filter fun code => code.address.toNat < 2 ^ 24 := by
  have hcode : Poke.isCode ∘ Poke.line = fun code => decide (code.address.toNat < 2 ^ 24) :=
    funext fun code => Bool.eq_iff_iff.2 (Poke.isCode_line_iff.trans decide_eq_true_iff.symm)
  rw [pokes, h, List.filter_map, List.map_map, hcode]
  refine (List.map_congr_left fun code hmem => ?_).trans (List.map_id _)
  have hroom := (List.mem_filter.1 hmem).2
  exact Poke.ofWords_of_spells (Poke.spells_line (of_decide_eq_true hroom))

/-- The lines of a written text are those of its pokes, one for each. -/
theorem lines_of_encode {patches : List Patch} {text : String}
    (h : Patch.encode patches = .ok text) :
    Text.lines text.toList = (patches.flatMap Patch.pokes).map Poke.line := by
  obtain ⟨-, rfl⟩ := Patch.encode_eq_ok_iff.1 h
  exact lines_write _

/-- **A written text is read as the pokes that it was written for**, less those whose address has
no room in six digits: all of them, if every address has.  One more line separator makes no
difference, and this is what is printed. -/
theorem read_encode {patches : List Patch} {text : String} (h : Patch.encode patches = .ok text) :
    let kept := (patches.flatMap Patch.pokes).filter fun code => code.address.toNat < 2 ^ 24
    (read text).value = kept ∧ (read (text ++ Patch.lineSeparator)).value = kept ∧
      ((∀ code ∈ patches.flatMap Patch.pokes, code.address.toNat < 2 ^ 24) →
        kept = patches.flatMap Patch.pokes) ∧
      ∀ (machine : Machine) (format : Format) (encrypted : Bool),
        machine.attempt (Program.printCodes format encrypted patches) =
          (.ok (), { machine with output := machine.output ++ (text ++ Patch.lineSeparator) }) := by
  obtain ⟨hne, htext⟩ := Patch.toList_of_encode h
  have hlines : ∀ line ∈ (patches.flatMap Patch.pokes).map Poke.line,
      '\n' ∉ line ∧ line.getLast? ≠ some '\r' := by
    intro line hline
    obtain ⟨code, -, rfl⟩ := List.mem_map.1 hline
    exact ⟨code.not_mem_line (by decide) rfl, fun hlast =>
      code.not_mem_line (by decide) rfl (List.mem_of_getLast? hlast)⟩
  -- without a separator at the end an empty last line would be lost
  have hlast : ((patches.flatMap Patch.pokes).map Poke.line).getLast? ≠ some [] := fun hlast => by
    obtain ⟨code, -, hnil⟩ := List.mem_map.1 (List.mem_of_getLast? hlast)
    exact code.line_ne_nil hnil
  refine ⟨pokes_of_lines ?_, pokes_of_lines ?_, fun hall => ?_, fun machine format encrypted => ?_⟩
  · rw [htext, Text.lines_intercalate hlines hlast]
  · rw [String.toList_append, htext]
    exact Text.lines_intercalate_append (mt List.map_eq_nil_iff.1 hne) hlines
  · exact List.filter_eq_self.2 fun code hcode => decide_eq_true (hall code hcode)
  · rw [Machine.attempt_printCodes, h, ← String.append_assoc]
    rfl

/-- Two patches, one around the end of the addresses and one across the end of six digits. -/
def edgePatches : List Patch := [⟨0xFFFFFFFFFFFFFFFF, 2, 0xBEEF⟩, ⟨0xFFFFFF, 2, 0x1234⟩]

/-- Each of the two has one poke that is written and not read. -/
theorem edgePatches_read :
    let text := "FFFFFFFFFFFFFFFF EF\n000000 BE\nFFFFFF 34\n1000000 12"
    Patch.encode edgePatches = .ok text ∧
      (read text).value = [⟨0, 0xBE⟩, ⟨0xFFFFFF, 0x34⟩] := by
  intro text
  have h : Patch.encode edgePatches = .ok text := by rfl
  exact ⟨h, (read_encode h).1.trans (by decide)⟩

end CodeText
end CheatCode
