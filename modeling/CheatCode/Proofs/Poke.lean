/-
# Which lines are codes

A line spells a poke (`Poke.Spells`) if six digits denote its address, two digits its byte, and one
blank stands between them; nothing is said of who reads or writes the line.  The lines taken for
codes are those that spell a poke (`Poke.isCode_iff`), and the words of such a line are read as that
poke (`Poke.ofWords_of_spells`), never by the zero that stands for a fault (`Poke.Spells.words`).
The line written for a poke spells it if its address has room in six digits (`Poke.spells_line`) and
is no code otherwise (`Poke.isCode_line_iff`).  It is the one line in upper case that spells the
poke (`Poke.Spells.line_eq`), and no other poke has it (`Poke.line_injective`).
-/

import CheatCode.Poke
import CheatCode.Proofs.Numeral
import CheatCode.Proofs.Text.Lines

namespace CheatCode
namespace Poke

/-- A line spells a poke: six hexadecimal digits for the address, a blank, two for the value. -/
def Spells (line : List Char) (p : Poke) : Prop :=
  ∃ high low, line = high ++ ' ' :: low ∧ high.length = 6 ∧ low.length = 2 ∧
    Numeral.Denotes 16 high p.address.toNat ∧ Numeral.Denotes 16 low p.value.toNat

/-- **The lines taken for codes are those that spell a poke.** -/
theorem isCode_iff {line : List Char} : isCode line = true ↔ ∃ p, Spells line p := by
  constructor
  · intro h
    unfold isCode at h
    split at h
    · rename_i a b c d e f x y
      have hdigit : ∀ digit ∈ [a, b, c, d, e, f, x, y], ∃ v, Numeral.IsDigit 16 digit v :=
        fun digit hmem => Numeral.isSome_digitValue?_iff.1 (List.all_eq_true.1 h digit hmem)
      obtain ⟨n, hn⟩ : ∃ n, Numeral.Denotes 16 [a, b, c, d, e, f] n :=
        Numeral.exists_denotes_iff.2 fun digit hmem =>
          hdigit digit (List.mem_append_left [x, y] hmem)
      obtain ⟨v, hv⟩ : ∃ v, Numeral.Denotes 16 [x, y] v :=
        Numeral.exists_denotes_iff.2 fun digit hmem =>
          hdigit digit (List.mem_append_right [a, b, c, d, e, f] hmem)
      have hn' : n < 16 ^ 6 := hn.lt (by omega)
      have hv' : v < 16 ^ 2 := hv.lt (by omega)
      refine ⟨⟨UInt64.ofNat n, UInt8.ofNat v⟩, [a, b, c, d, e, f], [x, y], rfl, rfl, rfl, ?_, ?_⟩
      · rwa [UInt64.toNat_ofNat_of_lt' (Nat.lt_trans hn' (by decide))]
      · rwa [UInt8.toNat_ofNat_of_lt' hv']
    · cases h
  · rintro ⟨p, high, low, rfl, hhigh, hlow, haddress, hvalue⟩
    match high, hhigh, low, hlow with
    | [a, b, c, d, e, f], _, [x, y], _ =>
      have haddress := Numeral.exists_denotes_iff.1 ⟨_, haddress⟩
      have hvalue := Numeral.exists_denotes_iff.1 ⟨_, hvalue⟩
      refine List.all_eq_true.2 fun digit hmem => Numeral.isSome_digitValue?_iff.2 ?_
      rcases List.mem_append.1 (show digit ∈ [a, b, c, d, e, f] ++ [x, y] from hmem) with h | h
      · exact haddress digit h
      · exact hvalue digit h

instance (line : List Char) : Decidable (∃ p, Spells line p) := decidable_of_iff _ isCode_iff

/-- The words of a line that spells a poke are numerals of its address and its value. -/
theorem Spells.words {line : List Char} {p : Poke} (h : Spells line p) :
    ∃ high low, Text.fields ' ' line = [high, low] ∧
      Numeral.read 16 UInt64.size high = .ok p.address.toNat ∧
      Numeral.read 16 UInt64.size low = .ok p.value.toNat := by
  obtain ⟨high, low, rfl, hhigh, hlow, haddress, hvalue⟩ := h
  refine ⟨high, low, ?_, ?_, ?_⟩
  · rw [Text.fields_append_cons low (haddress.not_mem rfl),
      Text.fields_of_not_mem (hvalue.not_mem rfl)]
  · exact Numeral.read_of_denotes (by omega) haddress (List.ne_nil_of_length_eq_add_one hhigh)
      p.address.toNat_lt_size
  · exact Numeral.read_of_denotes (by omega) hvalue (List.ne_nil_of_length_eq_add_one hlow)
      (Nat.lt_of_lt_of_le p.value.toNat_lt_size (by decide))

/-- **The words of a line are read as the poke that it spells.** -/
theorem ofWords_of_spells {line : List Char} {p : Poke} (h : Spells line p) : ofWords line = p := by
  obtain ⟨high, low, hwords, haddress, hvalue⟩ := h.words
  have hhigh := Numeral.hexOrZero_of_read haddress p.address.toNat_lt_size
  have hlow := Numeral.hexOrZero_of_read hvalue p.value.toNat_lt_size
  rw [ofWords, hwords]
  simp only [List.getElem?_cons_zero, List.getElem?_cons_succ, hhigh, hlow, UInt64.ofNat_toNat,
    UInt8.ofNat_toNat]

/-- A line spells one poke at most. -/
theorem Spells.unique {line : List Char} {p q : Poke} (hp : Spells line p) (hq : Spells line q) :
    p = q :=
  (ofWords_of_spells hp).symm.trans (ofWords_of_spells hq)

/-- Six digits have no room for more. -/
theorem Spells.address_lt {line : List Char} {p : Poke} (h : Spells line p) :
    p.address.toNat < 2 ^ 24 := by
  obtain ⟨high, low, -, hhigh, -, haddress, -⟩ := h
  have hlt := haddress.lt (by omega)
  rwa [hhigh] at hlt

/-! ## Written lines -/

/-- **A poke whose address has room in six digits is spelled by its line.** -/
theorem spells_line {p : Poke} (h : p.address.toNat < 2 ^ 24) : Spells p.line p :=
  ⟨_, _, rfl, (Numeral.length_hex_eq_iff (by omega) _).2 h,
    (Numeral.length_hex_eq_iff (by omega) _).2 p.value.toNat_lt_size,
    Numeral.denotes_hex _ _, Numeral.denotes_hex _ _⟩

/-- **The line of a poke is a code exactly if its address has room in six digits.** -/
theorem isCode_line_iff {p : Poke} : isCode p.line = true ↔ p.address.toNat < 2 ^ 24 := by
  refine ⟨fun h => ?_, fun h => isCode_iff.2 ⟨p, spells_line h⟩⟩
  obtain ⟨q, high, low, hline, hhigh, hlow, -, -⟩ := isCode_iff.1 h
  -- a code has nine characters, so its written address has no more than six
  have hlength := congrArg List.length hline
  have htwo : (Numeral.hex 2 p.value.toNat).length = 2 :=
    (Numeral.length_hex_eq_iff (by omega) _).2 p.value.toNat_lt_size
  rw [line, List.length_append, List.length_append, List.length_cons, List.length_cons, htwo, hhigh,
    hlow, Nat.add_left_inj] at hlength
  exact (Numeral.length_hex_eq_iff (by omega) _).1 hlength

/-- **The line written for a poke that some line spells is that line in upper case.** -/
theorem Spells.line_eq {line : List Char} {p : Poke} (h : Spells line p) :
    p.line = line.map Char.toUpper := by
  obtain ⟨high, low, rfl, hhigh, hlow, haddress, hvalue⟩ := h
  have hhigh' := haddress.hex_eq (List.ne_nil_of_length_eq_add_one hhigh)
  have hlow' := hvalue.hex_eq (List.ne_nil_of_length_eq_add_one hlow)
  rw [hhigh] at hhigh'
  rw [hlow] at hlow'
  rw [Poke.line, hhigh', hlow', List.map_append, List.map_cons]
  rfl

theorem fields_line (p : Poke) :
    Text.fields ' ' p.line = [Numeral.hex 6 p.address.toNat, Numeral.hex 2 p.value.toNat] := by
  rw [line, Text.fields_append_cons _ ((Numeral.denotes_hex 6 _).not_mem rfl),
    Text.fields_of_not_mem ((Numeral.denotes_hex 2 _).not_mem rfl)]

/-- **Different pokes have different lines**, also where an address has more than six digits. -/
theorem line_injective : Function.Injective line := by
  intro p q h
  have hfields := congrArg (Text.fields ' ') h
  rw [fields_line, fields_line, List.cons.injEq, List.cons.injEq] at hfields
  obtain ⟨hhigh, hlow, -⟩ := hfields
  have haddress : p.address.toNat = q.address.toNat :=
    (Numeral.denotes_hex 6 _).unique (hhigh ▸ Numeral.denotes_hex 6 _)
  have hvalue : p.value.toNat = q.value.toNat :=
    (Numeral.denotes_hex 2 _).unique (hlow ▸ Numeral.denotes_hex 2 _)
  obtain ⟨address, value⟩ := p
  obtain ⟨address', value'⟩ := q
  rw [Poke.mk.injEq]
  exact ⟨UInt64.toNat_inj.1 haddress, UInt8.toNat_inj.1 hvalue⟩

/-- A written line has nothing but digits and a blank. -/
theorem not_mem_line {c : Char} (hblank : c ≠ ' ') (hdigit : Numeral.digitValue? c = none)
    (p : Poke) : c ∉ p.line := fun hmem => by
  rcases List.mem_append.1 hmem with h | h
  · exact (Numeral.denotes_hex 6 _).not_mem hdigit h
  · rcases List.mem_cons.1 h with h | h
    · exact hblank h
    · exact (Numeral.denotes_hex 2 _).not_mem hdigit h

theorem line_ne_nil (p : Poke) : p.line ≠ [] :=
  List.append_ne_nil_of_right_ne_nil _ (List.cons_ne_nil _ _)

/-- **Written lines, joined by line feeds, are cut into themselves.** -/
theorem lines_intercalate_line (codes : List Poke) :
    Text.lines (List.intercalate ['\n'] (codes.map line)) = codes.map line := by
  refine Text.lines_intercalate (List.forall_mem_map.2 fun p _ => ⟨?_, fun hlast => ?_⟩)
    fun hlast => ?_
  · exact p.not_mem_line (by decide) rfl
  · exact p.not_mem_line (by decide) rfl (List.mem_of_getLast? hlast)
  · obtain ⟨p, -, hnil⟩ := List.mem_map.1 (List.mem_of_getLast? hlast)
    exact p.line_ne_nil hnil

end Poke
end CheatCode
