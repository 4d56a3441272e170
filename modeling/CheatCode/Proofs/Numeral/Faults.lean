/-
# Why a text is no numeral

A text of base sixteen has parts (`Numeral.Parts`): what follows its mark, and what of this follows
its sign.

| its parts | it is read as |
| --- | --- |
| digits only, their number in range | the number |
| nothing after the mark | `empty` |
| digits up to some point, their number out of range | `tooLarge` |
| anything else | `invalidDigit` |

The fault that comes first decides: a bad character after digits that are out of range already is
not looked at, and digits after a bad character are not (`Numeral.readHex_classifies`).
-/

import CheatCode.CommandLine
import CheatCode.Proofs.Numeral.Spelled

namespace CheatCode
namespace Numeral

/-- The longest row of digits that a text starts with denotes a number out of range. -/
def Exceeds (base bound : Nat) (cs : List Char) : Prop :=
  ∃ row rest n, cs = row ++ rest ∧ (∀ c ∈ rest.head?, ∀ d, ¬ IsDigit base c d) ∧
    Denotes base row n ∧ bound ≤ n

/-- The parts of a text of base sixteen: `rest` follows its mark, and `digits` follows the sign of
`rest`.  A plus sign that nothing follows is no sign. -/
structure Parts (cs rest digits : List Char) : Prop where
  mark : cs = '0' :: 'x' :: rest ∨ cs = '0' :: 'X' :: rest ∨
    cs = rest ∧ ¬ ['0', 'x'] <+: cs ∧ ¬ ['0', 'X'] <+: cs
  sign : rest = '+' :: digits ∧ digits ≠ [] ∨
    rest = digits ∧ (rest.head? = some '+' → rest = ['+'])

/-! ## Digits -/

theorem le_of_value? {base acc n : Nat} (hbase : 0 < base) {row : List Char}
    (h : value? base acc row = some n) : acc ≤ n := by
  induction row generalizing acc with
  | nil => exact le_of_eq (Option.some.inj h)
  | cons c row ih =>
    obtain ⟨d, -, hrow⟩ := Option.bind_eq_some_iff.1 h
    calc acc ≤ acc * base := Nat.le_mul_of_pos_right _ hbase
      _ ≤ acc * base + d := Nat.le_add_right _ _
      _ ≤ n := ih hrow

/-- **Digits in range are read and then forgotten**: what follows them is read as if their number
alone stood there. -/
theorem readDigits_append_of_lt {base bound acc n : Nat} (hbase : 0 < base) {row : List Char}
    (h : value? base acc row = some n) (hlt : n < bound) (rest : List Char) :
    readDigits base bound acc (row ++ rest) = readDigits base bound n rest := by
  induction row generalizing acc with
  | nil =>
    obtain rfl : acc = n := Option.some.inj h
    rfl
  | cons c row ih =>
    obtain ⟨d, hd, hrow⟩ := Option.bind_eq_some_iff.1 h
    have hstep : acc * base + d < bound := lt_of_le_of_lt (le_of_value? hbase hrow) hlt
    rw [List.cons_append, readDigits, hd]
    simp only [if_pos hstep]
    exact ih hrow

/-- **Digits out of range are the fault**, whatever follows them. -/
theorem readDigits_append_of_le {base bound acc n : Nat} {row : List Char}
    (h : value? base acc row = some n) (hle : bound ≤ n) (hacc : acc < bound)
    (rest : List Char) : readDigits base bound acc (row ++ rest) = .error .tooLarge := by
  induction row generalizing acc with
  | nil =>
    obtain rfl : acc = n := Option.some.inj h
    omega
  | cons c row ih =>
    obtain ⟨d, hd, hrow⟩ := Option.bind_eq_some_iff.1 h
    rw [List.cons_append, readDigits, hd]
    by_cases hstep : acc * base + d < bound
    · simp only [if_pos hstep]
      exact ih hrow hstep
    · simp only [if_neg hstep]

/-- Every text is a row of digits and a rest that starts with none. -/
theorem exists_row (base : Nat) (cs : List Char) :
    ∃ row rest n, cs = row ++ rest ∧ (∀ c ∈ rest.head?, ∀ d, ¬ IsDigit base c d) ∧
      Denotes base row n := by
  induction cs with
  | nil => exact ⟨[], [], 0, rfl, by simp, denotes_nil base⟩
  | cons c cs ih =>
    by_cases hc : ∃ d, IsDigit base c d
    · obtain ⟨row, rest, n, rfl, hrest, hrow⟩ := ih
      have hdigits : ∀ e ∈ c :: row, ∃ d, IsDigit base e d :=
        List.forall_mem_cons.2 ⟨hc, exists_denotes_iff.1 ⟨n, hrow⟩⟩
      obtain ⟨m, hm⟩ := exists_denotes_iff.2 hdigits
      exact ⟨c :: row, rest, m, rfl, hrest, hm⟩
    · refine ⟨[], c :: cs, 0, rfl, fun e he d hd => hc ⟨d, ?_⟩, denotes_nil base⟩
      obtain rfl : c = e := Option.some.inj he
      exact hd

/-- **Digits are too large exactly if the longest row that they start with is out of range.** -/
theorem readDigits_eq_tooLarge_iff {base bound : Nat} (hbase : 0 < base) (hbound : 0 < bound)
    {cs : List Char} : readDigits base bound 0 cs = .error .tooLarge ↔ Exceeds base bound cs := by
  constructor
  · intro h
    obtain ⟨row, rest, n, rfl, hrest, hrow⟩ := exists_row base cs
    refine ⟨row, rest, n, rfl, hrest, hrow, Nat.le_of_not_lt fun hlt => ?_⟩
    -- the rest has no digit to exceed the range with
    rw [readDigits_append_of_lt hbase (value?_of_denotes hrow) hlt] at h
    cases rest with
    | nil => cases h
    | cons c rest =>
      have hc : digit? base c = none :=
        Option.eq_none_iff_forall_ne_some.2 fun d hd => hrest c rfl d (digit?_eq_some_iff.1 hd)
      rw [readDigits, hc] at h
      cases h
  · rintro ⟨row, rest, n, rfl, -, hrow, hle⟩
    exact readDigits_append_of_le (value?_of_denotes hrow) hle hbound rest

/-- Digits have no other faults than these two. -/
theorem fault_of_readDigits {base bound acc : Nat} {cs : List Char} {fault : Fault}
    (h : readDigits base bound acc cs = .error fault) :
    fault = .invalidDigit ∨ fault = .tooLarge := by
  induction cs generalizing acc with
  | nil => cases h
  | cons c cs ih =>
    rw [readDigits] at h
    split at h
    · exact .inl (Except.error.inj h).symm
    · split at h
      · exact ih h
      · exact .inr (Except.error.inj h).symm

/-- Zeros before some digits are not seen. -/
theorem readDigits_zeros {base bound : Nat} (hbase : 0 < base) (hbound : 0 < bound) (count : Nat)
    (cs : List Char) :
    readDigits base bound 0 (List.replicate count '0' ++ cs) = readDigits base bound 0 cs := by
  have hzeros : Denotes base (List.replicate count '0') 0 := by
    simpa using (denotes_nil base).replicate_append hbase count
  exact readDigits_append_of_lt hbase (value?_of_denotes hzeros) hbound cs

/-! ## Parts -/

theorem Parts.dropHexMark_eq {cs rest digits : List Char} (h : Parts cs rest digits) :
    dropHexMark cs = rest := by
  obtain rfl | rfl | ⟨rfl, hlower, hupper⟩ := h.mark
  · rfl
  · rfl
  · unfold dropHexMark
    split
    · exact absurd (List.prefix_append ['0', 'x'] _) hlower
    · exact absurd (List.prefix_append ['0', 'X'] _) hupper
    · rfl

theorem Parts.rest_eq_nil_iff {cs rest digits : List Char} (h : Parts cs rest digits) :
    rest = [] ↔ digits = [] := by
  obtain ⟨rfl, hne⟩ | ⟨rfl, -⟩ := h.sign
  · simp [hne]
  · exact Iff.rfl

/-- What follows the mark is read as the digits, if there are any. -/
theorem Parts.read_rest {cs rest digits : List Char} (h : Parts cs rest digits)
    (hne : digits ≠ []) (base bound : Nat) :
    read base bound rest = readDigits base bound 0 digits := by
  obtain ⟨c, ds, rfl⟩ := List.exists_cons_of_ne_nil hne
  obtain ⟨rfl, -⟩ | ⟨rfl, hsign⟩ := h.sign
  · rw [read]
  · unfold read
    split
    · rename_i hnil
      cases hnil
    · rename_i hplus
      rw [hplus] at hsign
      cases hsign rfl
    · rename_i hcons
      rw [hcons]

theorem exists_parts (cs : List Char) : ∃ rest digits, Parts cs rest digits := by
  obtain ⟨rest, hmark⟩ : ∃ rest, cs = '0' :: 'x' :: rest ∨ cs = '0' :: 'X' :: rest ∨
      cs = rest ∧ ¬ ['0', 'x'] <+: cs ∧ ¬ ['0', 'X'] <+: cs := by
    by_cases hlower : ['0', 'x'] <+: cs
    · obtain ⟨rest, rfl⟩ := hlower
      exact ⟨rest, .inl rfl⟩
    · by_cases hupper : ['0', 'X'] <+: cs
      · obtain ⟨rest, rfl⟩ := hupper
        exact ⟨rest, .inr (.inl rfl)⟩
      · exact ⟨cs, .inr (.inr ⟨rfl, hlower, hupper⟩)⟩
  by_cases hsign : ∃ digits, rest = '+' :: digits ∧ digits ≠ []
  · obtain ⟨digits, hdigits⟩ := hsign
    exact ⟨rest, digits, hmark, .inl hdigits⟩
  · refine ⟨rest, rest, hmark, .inr ⟨rfl, fun hhead => ?_⟩⟩
    cases rest with
    | nil => cases hhead
    | cons c digits =>
      obtain rfl : c = '+' := Option.some.inj hhead
      by_cases hne : digits = []
      · rw [hne]
      · exact absurd ⟨digits, rfl, hne⟩ hsign

/-! ## Words of base sixteen -/

/-- A text is read as a number exactly if its digits denote it and there are some. -/
theorem Parts.readHex_eq_ok_iff {text : String} {rest digits : List Char}
    (h : Parts text.toList rest digits) {n : UInt64} :
    readHex text = .ok n ↔ digits ≠ [] ∧ Denotes 16 digits n.toNat := by
  have hlt : n.toNat < UInt64.size := n.toNat_lt_size
  have hspells : Spells 16 rest n.toNat ↔ read 16 UInt64.size rest = .ok n.toNat := by
    rw [read_eq_ok_iff (by omega) (by decide), and_iff_left hlt]
  rw [readHex, h.dropHexMark_eq, map_ofNat_eq_ok_iff (by omega), hspells]
  by_cases hne : digits = []
  · rw [h.rest_eq_nil_iff.2 hne, read]
    simp [hne]
  · rw [h.read_rest hne, readDigits_eq_ok_iff (by omega) (by decide), and_iff_left hlt,
      and_iff_right hne]

/-- A text has a fault exactly if there are no digits or the digits have it. -/
theorem Parts.readHex_eq_error_iff {text : String} {rest digits : List Char}
    (h : Parts text.toList rest digits) {fault : Fault} :
    readHex text = .error fault ↔
      digits = [] ∧ fault = .empty ∨
        digits ≠ [] ∧ readDigits 16 UInt64.size 0 digits = .error fault := by
  rw [readHex, h.dropHexMark_eq]
  by_cases hne : digits = []
  · rw [h.rest_eq_nil_iff.2 hne, read]
    simp [hne, Except.map, eq_comm]
  · rw [h.read_rest hne]
    cases readDigits 16 UInt64.size 0 digits <;> simp [hne, Except.map]

theorem Parts.readHex_eq_empty_iff {text : String} {rest digits : List Char}
    (h : Parts text.toList rest digits) : readHex text = .error .empty ↔ rest = [] := by
  rw [h.readHex_eq_error_iff, h.rest_eq_nil_iff]
  constructor
  · rintro (⟨hnil, -⟩ | ⟨-, hread⟩)
    · exact hnil
    · rcases fault_of_readDigits hread with hfault | hfault <;> cases hfault
  · exact fun hnil => .inl ⟨hnil, rfl⟩

theorem Parts.readHex_eq_tooLarge_iff {text : String} {rest digits : List Char}
    (h : Parts text.toList rest digits) :
    readHex text = .error .tooLarge ↔ readDigits 16 UInt64.size 0 digits = .error .tooLarge := by
  rw [h.readHex_eq_error_iff]
  constructor
  · rintro (⟨-, hfault⟩ | ⟨-, hread⟩)
    · cases hfault
    · exact hread
  · intro hread
    refine .inr ⟨?_, hread⟩
    rintro rfl
    cases hread

/-- A digit is invalid exactly if the text is neither a number nor has another fault. -/
theorem readHex_eq_invalidDigit_iff (text : String) :
    readHex text = .error .invalidDigit ↔
      (∀ n, readHex text ≠ .ok n) ∧ readHex text ≠ .error .empty ∧
        readHex text ≠ .error .tooLarge := by
  obtain ⟨rest, digits, h⟩ := exists_parts text.toList
  constructor
  · intro hread
    simp [hread]
  · rintro ⟨hok, hempty, hlarge⟩
    cases hread : readHex text with
    | ok n => exact absurd hread (hok n)
    | error fault =>
      rcases h.readHex_eq_error_iff.1 hread with ⟨-, rfl⟩ | ⟨-, hdigits⟩
      · exact absurd hread hempty
      · rcases fault_of_readDigits hdigits with rfl | rfl
        · rfl
        · exact absurd hread hlarge

/-- What starts with a sign, or with any other character that is no digit, has an invalid digit. -/
theorem readDigits_cons_of_none {base bound acc : Nat} {c : Char} (hc : digitValue? c = none)
    (cs : List Char) : readDigits base bound acc (c :: cs) = .error .invalidDigit := by
  rw [readDigits, digit?, hc]
  rfl

/-! ## What is told -/

/-- The faults have different wordings. -/
theorem Fault.message_injective : Function.Injective Fault.message := by
  intro fault fault' h
  cases fault <;> cases fault' <;> first | rfl | exact absurd h (by decide)

/-- The command line tells a fault by its wording, after the word that was given. -/
theorem readAddress_eq_error_iff {word : String} {fault : Fault} :
    readHex word = .error fault ↔
      CommandLine.readAddress word = .error (.unfitValue (word ++ ": " ++ fault.message)) := by
  rw [CommandLine.readAddress]
  cases readHex word with
  | ok n => simp [Except.mapError]
  | error fault' =>
    simp only [Except.mapError, Patch.fieldMessage, Except.error.injEq,
      Arguments.Fault.unfitValue.injEq]
    refine ⟨fun h => by rw [h], fun h => Fault.message_injective ?_⟩
    have hlist := congrArg String.toList h
    simp only [String.toList_append] at hlist
    exact String.toList_injective (List.append_cancel_left hlist)

/-- **A text of base sixteen is a number, empty, too large or not made of digits.**  It has parts,
and by them it is read as the number that its digits denote exactly if there are digits, nothing
else, and the number is in range.  It is empty exactly if nothing follows the mark.  It is too large
exactly if the longest row of digits that it starts with is out of range, where zeros in front do
not count.  In every other case a digit is invalid, so for a sign alone and for a minus sign.  The
wording of the fault follows the text as it was given. -/
theorem readHex_classifies (text : String) :
    (∃ rest digits, Parts text.toList rest digits) ∧
      ∀ rest digits, Parts text.toList rest digits →
        (∀ n : UInt64, readHex text = .ok n ↔ digits ≠ [] ∧ Denotes 16 digits n.toNat) ∧
          (readHex text = .error .empty ↔ rest = []) ∧
          (readHex text = .error .tooLarge ↔ Exceeds 16 UInt64.size digits) ∧
          (readHex text = .error .invalidDigit ↔
            (∀ n < UInt64.size, ¬ (digits ≠ [] ∧ Denotes 16 digits n)) ∧ rest ≠ [] ∧
              ¬ Exceeds 16 UInt64.size digits) ∧
          (rest = ['+'] ∨ digits.head? = some '-' → readHex text = .error .invalidDigit) ∧
          (∀ count shorter, digits = List.replicate count '0' ++ shorter →
            (readHex text = .error .tooLarge ↔ Exceeds 16 UInt64.size shorter)) ∧
          ∀ fault, readHex text = .error fault ↔ CommandLine.readAddress text =
            .error (.unfitValue (text ++ ": " ++ fault.message)) := by
  refine ⟨exists_parts _, fun rest digits h => ⟨fun n => h.readHex_eq_ok_iff,
    h.readHex_eq_empty_iff, ?_, ?_, ?_, ?_, fun fault => readAddress_eq_error_iff⟩⟩
  · rw [h.readHex_eq_tooLarge_iff, readDigits_eq_tooLarge_iff (by omega) (by decide)]
  · rw [readHex_eq_invalidDigit_iff, Ne, Ne, h.readHex_eq_empty_iff, h.readHex_eq_tooLarge_iff,
      readDigits_eq_tooLarge_iff (by omega) (by decide)]
    refine and_congr_left fun _ => ⟨fun hok n hlt hdigits => hok (UInt64.ofNat n) ?_, ?_⟩
    · rwa [h.readHex_eq_ok_iff, UInt64.toNat_ofNat_of_lt' hlt]
    · exact fun hnone n hok => hnone n.toNat n.toNat_lt_size (h.readHex_eq_ok_iff.1 hok)
  · -- a sign alone and a minus sign stand where the first digit should
    have hfirst : ∀ {c : Char} {ds : List Char}, digits = c :: ds → digitValue? c = none →
        readHex text = .error .invalidDigit := by
      rintro c ds rfl hc
      exact h.readHex_eq_error_iff.2
        (.inr ⟨List.cons_ne_nil _ _, readDigits_cons_of_none hc _⟩)
    rintro (rfl | hhead)
    · obtain ⟨hcons, hne⟩ | ⟨hrest, -⟩ := h.sign
      · exact absurd (List.cons.inj hcons).2.symm hne
      · exact hfirst hrest.symm rfl
    · obtain ⟨ds, hds⟩ := List.head?_eq_some_iff.1 hhead
      exact hfirst hds rfl
  · rintro count shorter rfl
    rw [h.readHex_eq_tooLarge_iff, readDigits_zeros (by omega) (by decide),
      readDigits_eq_tooLarge_iff (by omega) (by decide)]

/-- Seventeen digits after zeros, and then a character that is none: the range is left first. -/
theorem longRow_tooLarge : readHex "0X+000010000000000000000g" = .error .tooLarge := by
  have hparts : Parts "0X+000010000000000000000g".toList "+000010000000000000000g".toList
      "000010000000000000000g".toList :=
    ⟨.inr (.inl (by decide)), .inl (by decide)⟩
  have hstop : ∀ c ∈ ['g'].head?, ∀ d, ¬ IsDigit 16 c d := by
    rintro c hc d hd
    obtain rfl : 'g' = c := Option.some.inj hc
    cases digit?_eq_some_iff.2 hd
  have hexceeds : Exceeds 16 UInt64.size "000010000000000000000g".toList :=
    ⟨"000010000000000000000".toList, ['g'], UInt64.size, by decide, hstop,
      denotes_of_value? (by decide), le_rfl⟩
  exact (((readHex_classifies _).2 _ _ hparts).2.2.1).2 hexceeds

end Numeral
end CheatCode
