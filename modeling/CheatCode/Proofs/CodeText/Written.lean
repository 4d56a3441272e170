/-
# The form in which codes are written

The text of some pokes is cut into their lines again, and a line tells its poke, so no two lists of
pokes have the same text (`CodeText.write_injective`), whatever their addresses.  The code text of
some patches is the text of their pokes, and there is one as soon as there is a poke
(`Patch.encode_faithful`).

Reading a text and writing what was read puts the text into its normal form.

| the text | its normal form |
| --- | --- |
| a line that is a code | the line in upper case |
| any other line | nothing |
| `\r\n` at the end of a line, or a separator at the end of the text | one separator between lines |

The normal form is read as the text itself, and it is its own normal form
(`CodeText.normal_form`).
-/

import CheatCode.Proofs.CodeText.RoundTrip
import CheatCode.Proofs.Patch.Bytes

namespace CheatCode

namespace CodeText

/-- **Different pokes have different texts.** -/
theorem write_injective : Function.Injective write := by
  intro codes others h
  have hlines := congrArg (fun text => Text.lines text.toList) h
  simp only [lines_write] at hlines
  exact List.map_injective_iff.2 Poke.line_injective hlines

/-- No separator ends a written text. -/
theorem getLast?_write (codes : List Poke) : (write codes).toList.getLast? ≠ some '\n' := by
  rw [toList_write]
  cases hlast : codes.getLast? with
  | none =>
    rw [List.getLast?_eq_none_iff.1 hlast]
    simp
  | some code =>
    have hline : (codes.map Poke.line).getLast? = some code.line := by
      rw [List.getLast?_map, hlast, Option.map_some]
    rw [Text.getLast?_intercalate hline code.line_ne_nil]
    exact fun hend => code.not_mem_line (by decide) rfl (List.mem_of_getLast? hend)

end CodeText

namespace Patch

/-- Patches have no code text exactly if none of them has a byte to write. -/
theorem encode_eq_empty_iff {patches : List Patch} :
    encode patches = .error .empty ↔ ∀ p ∈ patches, p.width = 0 := by
  have hempty : patches.flatMap pokes = [] ↔ ∀ p ∈ patches, p.width = 0 := by
    rw [List.flatMap_eq_nil_iff]
    refine forall₂_congr fun p _ => ?_
    rw [← List.length_eq_zero_iff, length_pokes, ← UInt64.toNat_inj]
    rfl
  rw [← hempty]
  unfold encode
  cases patches.flatMap pokes with
  | nil => simp
  | cons code codes => simp

/-- **Written text is faithful, at all addresses of 64 bits.**  There is no text exactly if every
patch has width zero.  Otherwise there is one.  It is cut into the lines of the pokes of all
patches, in order, and in no other way; it has as many lines as the patches are wide together, and
does not end in a separator.  If other patches have a text as well, it is the same one exactly if
they have the same pokes. -/
theorem encode_faithful (patches others : List Patch) :
    (encode patches = .error .empty ↔ ∀ p ∈ patches, p.width = 0) ∧
      ((∃ p ∈ patches, p.width ≠ 0) → ∃ text, encode patches = .ok text) ∧
      ∀ text, encode patches = .ok text →
        (∀ lines, Text.CutInto text.toList lines ↔
          lines = (patches.flatMap pokes).map Poke.line) ∧
        (Text.lines text.toList).length = (patches.map fun p => p.width.toNat).sum ∧
        text.toList.getLast? ≠ some '\n' ∧
        ∀ other, encode others = .ok other →
          (text = other ↔ patches.flatMap pokes = others.flatMap pokes) := by
  refine ⟨encode_eq_empty_iff, fun ⟨p, hp, hwidth⟩ => ?_, fun text htext => ?_⟩
  · cases hencode : encode patches with
    | ok text => exact ⟨text, rfl⟩
    | error e =>
      cases e
      exact absurd (encode_eq_empty_iff.1 hencode p hp) hwidth
  · obtain ⟨-, rfl⟩ := encode_eq_ok_iff.1 htext
    refine ⟨fun lines => ?_, ?_, CodeText.getLast?_write _, fun other hother => ?_⟩
    · rw [Text.cutInto_iff, CodeText.lines_write, eq_comm]
    · simp only [CodeText.lines_write, List.length_map, List.length_flatMap, length_pokes]
    · obtain ⟨-, rfl⟩ := encode_eq_ok_iff.1 hother
      exact CodeText.write_injective.eq_iff

/-- A patch above the six digits and the one a digit shorter: their texts are told apart by the
number of digits alone. -/
example : encode [⟨0x1000000, 1, 0⟩] = .ok "1000000 00" ∧
    encode [⟨0x100000, 1, 0⟩] = .ok "100000 00" := by
  constructor <;> rfl

end Patch

namespace CodeText

/-- A text with nothing but its codes, each in the form in which it is written. -/
def normalize (text : String) : String := write (pokes text)

/-- The lines written for the pokes of a text are its codes in upper case. -/
theorem map_line_pokes (text : String) :
    (pokes text).map Poke.line =
      ((Text.lines text.toList).filter fun line => ∃ p, Poke.Spells line p).map
        (List.map Char.toUpper) := by
  have hfilter : (Text.lines text.toList).filter Poke.isCode =
      (Text.lines text.toList).filter fun line => ∃ p, Poke.Spells line p :=
    List.filter_congr fun line _ =>
      Bool.eq_iff_iff.2 (Poke.isCode_iff.trans decide_eq_true_iff.symm)
  rw [← hfilter, pokes, List.map_map]
  refine List.map_congr_left fun line hline => ?_
  obtain ⟨p, hp⟩ := Poke.isCode_iff.1 (List.mem_filter.1 hline).2
  rw [Function.comp_apply, Poke.ofWords_of_spells hp, hp.line_eq]

/-- The pokes of a text are read back from the text that is written for them. -/
theorem pokes_normalize (text : String) : pokes (normalize text) = pokes text := by
  have hroom : ∀ code ∈ pokes text, code.address.toNat < 2 ^ 24 :=
    (sorts_filter (Text.lines text.toList)).address_lt
  rw [normalize, pokes_of_lines (lines_write _)]
  exact List.filter_eq_self.2 fun code hcode => decide_eq_true (hroom code hcode)

/-- **Reading a text and writing what was read gives its normal form.**  The lines that are written
are those lines of the text that spell a poke, in order and in upper case.  The normal form is read
as the text itself is, and it is its own normal form. -/
theorem normal_form (text : String) :
    ∃ lines, (∀ rows, Text.CutInto text.toList rows ↔ rows = lines) ∧
      (read text).value.map Poke.line =
        (lines.filter fun line => ∃ p, Poke.Spells line p).map (List.map Char.toUpper) ∧
      normalize text = Patch.lineSeparator.intercalate
        ((read text).value.map fun code => String.ofList code.line) ∧
      (read (normalize text)).value = (read text).value ∧
      normalize (normalize text) = normalize text := by
  have hread : ∀ text, (read text).value = pokes text := fun _ => rfl
  simp only [hread, pokes_normalize, true_and]
  refine ⟨Text.lines text.toList, fun rows => ?_, map_line_pokes text, ?_, ?_⟩
  · rw [Text.cutInto_iff, eq_comm]
  · rw [normalize, write]
  · rw [normalize, pokes_normalize, ← normalize]

/-- Letters come out in upper case, and what is no code is gone. -/
example : normalize "7e00aB fF\r\n\n 7E0000 01\n000000 00\n" = "7E00AB FF\n000000 00" := by
  decide +kernel

end CodeText
end CheatCode
