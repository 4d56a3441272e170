/-
# Numerals as users write them

| a number | is spelled |
| --- | --- |
| in a base (`Numeral.Spells`) | digits, at least one, after a `+` or without it |
| in base sixteen (`Numeral.SpellsHex`) | in the base, after `0x` or `0X` or without it |

The mark comes before the sign, and each of them comes once at most.  A reader gives the number that
a text spells, if that is in range, and no text that spells none is read
(`Numeral.read_eq_ok_iff`, `Numeral.readHex_eq_ok_iff`, `Numeral.readDecimal_eq_ok_iff`).
-/

import CheatCode.Proofs.Numeral

namespace CheatCode
namespace Numeral

/-- A text spells a number in a base: digits, at least one, after a plus sign or without it. -/
def Spells (base : Nat) (cs : List Char) (n : Nat) : Prop :=
  ∃ digits, (cs = digits ∨ cs = '+' :: digits) ∧ digits ≠ [] ∧ Denotes base digits n

/-- What may stand before a numeral of base sixteen. -/
def hexMarks : List (List Char) := [[], ['0', 'x'], ['0', 'X']]

/-- A text spells a number in base sixteen, after a mark of the base or without it. -/
def SpellsHex (cs : List Char) (n : Nat) : Prop :=
  ∃ mark ∈ hexMarks, ∃ rest, cs = mark ++ rest ∧ Spells 16 rest n

/-! ## Digits -/

/-- Digits that are read have a value, and it is in range. -/
theorem value?_of_readDigits {base bound acc n : Nat} {cs : List Char}
    (h : readDigits base bound acc cs = .ok n) (hacc : acc < bound) :
    value? base acc cs = some n ∧ n < bound := by
  induction cs generalizing acc with
  | nil =>
    obtain rfl : acc = n := Except.ok.inj h
    exact ⟨rfl, hacc⟩
  | cons c cs ih =>
    rw [readDigits] at h
    split at h
    · cases h
    · rename_i d hd
      split at h
      · rename_i hlt
        rw [value?, hd]
        exact ih h hlt
      · cases h

/-- A row that has a value denotes it. -/
theorem denotes_of_value? {base n : Nat} {cs : List Char} (h : value? base 0 cs = some n) :
    Denotes base cs n := by
  obtain ⟨m, hm⟩ := exists_denotes_iff.2 (isDigit_of_value? h)
  obtain rfl : m = n := Option.some.inj ((value?_of_denotes hm).symm.trans h)
  exact hm

/-- **A row is read as a number exactly if it denotes it** and it is in range. -/
theorem readDigits_eq_ok_iff {base bound n : Nat} {cs : List Char} (hbase : 0 < base)
    (hbound : 0 < bound) : readDigits base bound 0 cs = .ok n ↔ Denotes base cs n ∧ n < bound := by
  constructor
  · intro h
    obtain ⟨hvalue, hlt⟩ := value?_of_readDigits h hbound
    exact ⟨denotes_of_value? hvalue, hlt⟩
  · rintro ⟨hdenotes, hlt⟩
    exact readDigits_of_denotes hbase hdenotes hlt

/-! ## Signs and marks -/

/-- **A text is read as a number exactly if it spells it** and it is in range. -/
theorem read_eq_ok_iff {base bound n : Nat} {cs : List Char} (hbase : 0 < base)
    (hbound : 0 < bound) : read base bound cs = .ok n ↔ Spells base cs n ∧ n < bound := by
  constructor
  · intro h
    unfold read at h
    split at h
    · cases h
    · obtain ⟨hdenotes, hlt⟩ := (readDigits_eq_ok_iff hbase hbound).1 h
      exact ⟨⟨_, .inr rfl, List.cons_ne_nil _ _, hdenotes⟩, hlt⟩
    · obtain ⟨hdenotes, hlt⟩ := (readDigits_eq_ok_iff hbase hbound).1 h
      exact ⟨⟨_, .inl rfl, List.cons_ne_nil _ _, hdenotes⟩, hlt⟩
  · rintro ⟨⟨digits, rfl | rfl, hne, hdenotes⟩, hlt⟩
    · exact read_of_denotes hbase hdenotes hne hlt
    · obtain ⟨c, cs, rfl⟩ := List.exists_cons_of_ne_nil hne
      rw [read]
      exact readDigits_of_denotes hbase hdenotes hlt

/-- A character that is neither a digit nor a plus sign stands in no spelling. -/
theorem Spells.not_mem {base n : Nat} {cs : List Char} (h : Spells base cs n) {c : Char}
    (hdigit : digitValue? c = none) (hsign : c ≠ '+') : c ∉ cs := by
  obtain ⟨digits, rfl | rfl, -, hdenotes⟩ := h
  · exact hdenotes.not_mem hdigit
  · exact List.not_mem_cons_of_ne_of_not_mem hsign (hdenotes.not_mem hdigit)

/-- The mark that is dropped is one of the marks. -/
theorem exists_mark (cs : List Char) : ∃ mark ∈ hexMarks, cs = mark ++ dropHexMark cs := by
  unfold dropHexMark
  split
  · exact ⟨['0', 'x'], by decide, rfl⟩
  · exact ⟨['0', 'X'], by decide, rfl⟩
  · exact ⟨[], by decide, rfl⟩

/-- Nothing of a spelling is taken for a mark. -/
theorem dropHexMark_append {mark rest : List Char} {n : Nat} (hmark : mark ∈ hexMarks)
    (h : Spells 16 rest n) : dropHexMark (mark ++ rest) = rest := by
  have hlower : 'x' ∉ rest := h.not_mem rfl (by decide)
  have hupper : 'X' ∉ rest := h.not_mem rfl (by decide)
  simp only [hexMarks, List.mem_cons, List.not_mem_nil, or_false] at hmark
  rcases hmark with rfl | rfl | rfl
  · rw [List.nil_append]
    unfold dropHexMark
    split
    · simp at hlower
    · simp at hupper
    · rfl
  · rfl
  · rfl

/-- Without its mark a text of base sixteen spells the number in the base. -/
theorem spellsHex_iff {cs : List Char} {n : Nat} :
    SpellsHex cs n ↔ Spells 16 (dropHexMark cs) n := by
  constructor
  · rintro ⟨mark, hmark, rest, rfl, h⟩
    rwa [dropHexMark_append hmark h]
  · intro h
    obtain ⟨mark, hmark, hcs⟩ := exists_mark cs
    exact ⟨mark, hmark, _, hcs, h⟩

/-- A character that is neither a digit, a sign nor part of a mark stands in no spelling. -/
theorem SpellsHex.not_mem {cs : List Char} {n : Nat} (h : SpellsHex cs n) {c : Char}
    (hdigit : digitValue? c = none) (hsign : c ≠ '+') (hmark : ∀ mark ∈ hexMarks, c ∉ mark) :
    c ∉ cs := by
  obtain ⟨mark, hmem, rest, rfl, hspells⟩ := h
  rw [List.mem_append]
  exact not_or.2 ⟨hmark mark hmem, hspells.not_mem hdigit hsign⟩

/-- The digits of a number in base ten spell it. -/
theorem spells_decimal (n : Nat) : Spells 10 (Nat.toDigits 10 n) n :=
  ⟨_, .inl rfl, Nat.toDigits_ne_nil, denotes_decimal n⟩

/-- The row that is written for a number spells it. -/
theorem spellsHex_hex (n : Nat) : SpellsHex (hex 1 n) n := by
  have hne : hex 1 n ≠ [] := by simp [hex, Nat.toDigits_ne_nil]
  exact ⟨[], by decide, _, rfl, _, .inl rfl, hne, denotes_hex 1 n⟩

/-! ## Words -/

/-- A word is read exactly if its number is. -/
theorem map_ofNat_eq_ok_iff {base : Nat} (hbase : 0 < base) {cs : List Char} {n : UInt64} :
    (read base UInt64.size cs).map UInt64.ofNat = .ok n ↔ Spells base cs n.toNat := by
  constructor
  · intro h
    cases hread : read base UInt64.size cs with
    | error fault =>
      rw [hread] at h
      cases h
    | ok m =>
      rw [hread] at h
      obtain ⟨hspells, hlt⟩ := (read_eq_ok_iff hbase (by decide)).1 hread
      obtain rfl : UInt64.ofNat m = n := Except.ok.inj h
      rwa [UInt64.toNat_ofNat_of_lt' hlt]
  · intro h
    rw [(read_eq_ok_iff hbase (by decide)).2 ⟨h, n.toNat_lt_size⟩]
    exact congrArg Except.ok UInt64.ofNat_toNat

/-- **A text is read as a word of base sixteen exactly if it spells it.** -/
theorem readHex_eq_ok_iff {cs : List Char} {n : UInt64} :
    readHex (String.ofList cs) = .ok n ↔ SpellsHex cs n.toNat := by
  rw [readHex, String.toList_ofList, map_ofNat_eq_ok_iff (by omega), spellsHex_iff]

/-- **A text is read as a word of base ten exactly if it spells it.** -/
theorem readDecimal_eq_ok_iff {cs : List Char} {n : UInt64} :
    readDecimal (String.ofList cs) = .ok n ↔ Spells 10 cs n.toNat := by
  rw [readDecimal, String.toList_ofList, map_ofNat_eq_ok_iff (by omega)]

/-- A text with a fault spells no word of base sixteen. -/
theorem not_spellsHex_of_fault {cs : List Char} {fault : Fault}
    (h : readHex (String.ofList cs) = .error fault) : ¬ ∃ n : UInt64, SpellsHex cs n.toNat := by
  rintro ⟨n, hn⟩
  rw [readHex_eq_ok_iff.2 hn] at h
  cases h

/-- A text with a fault spells no word of base ten. -/
theorem not_spells_of_fault {cs : List Char} {fault : Fault}
    (h : readDecimal (String.ofList cs) = .error fault) : ¬ ∃ n : UInt64, Spells 10 cs n.toNat := by
  rintro ⟨n, hn⟩
  rw [readDecimal_eq_ok_iff.2 hn] at h
  cases h

end Numeral
end CheatCode
