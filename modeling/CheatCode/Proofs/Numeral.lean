/-
# What a row of digits denotes

A row of digits denotes a number in a base (`Numeral.Denotes`), said by the list of its digits and
by nothing of the readers or the writer.  The reader of digits gives the number that a row denotes
as long as it is in range (`Numeral.read_of_denotes`).  The writer's row denotes the number written
(`Numeral.denotes_hex`), and it is as long as it is told to be exactly for the numbers that have
room (`Numeral.length_hex_eq_iff`).  A row that has been read is written again as it was, but with
its letters in upper case (`Numeral.Denotes.hex_eq`).
-/

import CheatCode.Numeral
import Mathlib.Data.List.Forall2
import Mathlib.Data.List.Induction
import Mathlib.Data.Nat.Digits.Defs
import Mathlib.Tactic.IntervalCases
import Mathlib.Tactic.Ring

namespace CheatCode
namespace Numeral

/-- The digits in the order of their values, letters in upper case. -/
def upperDigits : List Char :=
  ['0', '1', '2', '3', '4', '5', '6', '7', '8', '9', 'A', 'B', 'C', 'D', 'E', 'F']

/-- The digits in the order of their values, letters in lower case. -/
def lowerDigits : List Char :=
  ['0', '1', '2', '3', '4', '5', '6', '7', '8', '9', 'a', 'b', 'c', 'd', 'e', 'f']

/-- A character is the digit of some value in a base, in either case. -/
def IsDigit (base : Nat) (c : Char) (d : Nat) : Prop :=
  d < base ∧ (upperDigits[d]? = some c ∨ lowerDigits[d]? = some c)

instance (base : Nat) (c : Char) (d : Nat) : Decidable (IsDigit base c d) :=
  inferInstanceAs (Decidable (_ ∧ _))

/-- A row of digits, the highest first, denotes a number. -/
def Denotes (base : Nat) (cs : List Char) (n : Nat) : Prop :=
  ∃ ds, List.Forall₂ (IsDigit base) cs ds ∧ Nat.ofDigits base ds.reverse = n

/-! ## Digits -/

/-- A character of a stretch of the alphabet stands in a table at its place in the stretch. -/
theorem getElem?_of_stretch {table : List Char} {first count place : Nat}
    (htable : ∀ i < count, table[i + place]? = some (Char.ofNat (first + i))) {c : Char}
    (hfirst : first ≤ c.toNat) (hlast : c.toNat < first + count) :
    table[c.toNat - first + place]? = some c := by
  rw [htable _ (by omega), Nat.add_sub_cancel' hfirst, Char.ofNat_toNat]

/-- A character that counts as a digit is the one of its value. -/
theorem digitValue?_eq_some {c : Char} {d : Nat} (h : digitValue? c = some d) :
    upperDigits[d]? = some c ∨ lowerDigits[d]? = some c := by
  unfold digitValue? at h
  split_ifs at h with hnumber hupper hlower
  · obtain ⟨hfirst, hlast⟩ : 48 ≤ c.toNat ∧ c.toNat ≤ 57 := hnumber
    obtain rfl : c.toNat - 48 = d := Option.some.inj h
    have htable : ∀ i < 10, upperDigits[i + 0]? = some (Char.ofNat (48 + i)) := by decide
    exact .inl (getElem?_of_stretch htable hfirst (by omega))
  · obtain ⟨hfirst, hlast⟩ : 65 ≤ c.toNat ∧ c.toNat ≤ 70 := hupper
    obtain rfl : c.toNat - 65 + 10 = d := Option.some.inj h
    have htable : ∀ i < 6, upperDigits[i + 10]? = some (Char.ofNat (65 + i)) := by decide
    exact .inl (getElem?_of_stretch htable hfirst (by omega))
  · obtain ⟨hfirst, hlast⟩ : 97 ≤ c.toNat ∧ c.toNat ≤ 102 := hlower
    obtain rfl : c.toNat - 97 + 10 = d := Option.some.inj h
    have htable : ∀ i < 6, lowerDigits[i + 10]? = some (Char.ofNat (97 + i)) := by decide
    exact .inr (getElem?_of_stretch htable hfirst (by omega))

theorem digitValue?_eq_some_iff {c : Char} {d : Nat} :
    digitValue? c = some d ↔ upperDigits[d]? = some c ∨ lowerDigits[d]? = some c := by
  refine ⟨digitValue?_eq_some, fun h => ?_⟩
  have hd : d < 16 := by
    rcases h with h | h <;> exact (List.getElem?_eq_some_iff.1 h).1
  interval_cases d <;> rcases h with h | h <;> cases h <;> decide

theorem digit?_eq_some_iff {base : Nat} {c : Char} {d : Nat} :
    digit? base c = some d ↔ IsDigit base c d := by
  rw [digit?, Option.filter_eq_some_iff, digitValue?_eq_some_iff, IsDigit, decide_eq_true_iff,
    and_comm]

/-- In base sixteen every character that counts as a digit is one. -/
theorem isSome_digitValue?_iff {c : Char} : (digitValue? c).isSome ↔ ∃ d, IsDigit 16 c d := by
  rw [Option.isSome_iff_exists]
  refine exists_congr fun d => ⟨fun h => ?_, fun h => digitValue?_eq_some_iff.2 h.2⟩
  have hd := digitValue?_eq_some_iff.1 h
  refine ⟨?_, hd⟩
  rcases hd with hd | hd <;> exact (List.getElem?_eq_some_iff.1 hd).1

/-! ## Rows -/

theorem denotes_nil (base : Nat) : Denotes base [] 0 := ⟨[], .nil, by simp⟩

/-- One more digit at the end of a row. -/
theorem Denotes.concat {base : Nat} {cs : List Char} {c : Char} {n d : Nat}
    (h : Denotes base cs n) (hc : IsDigit base c d) : Denotes base (cs ++ [c]) (n * base + d) := by
  obtain ⟨ds, hds, rfl⟩ := h
  refine ⟨ds ++ [d], List.rel_append hds (.cons hc .nil), ?_⟩
  rw [List.reverse_append, List.reverse_singleton, List.singleton_append, Nat.ofDigits_cons,
    Nat.mul_comm, Nat.add_comm]

/-- Zeros before a row. -/
theorem Denotes.replicate_append {base : Nat} {cs : List Char} {n : Nat} (h : Denotes base cs n)
    (hbase : 0 < base) (count : Nat) : Denotes base (List.replicate count '0' ++ cs) n := by
  obtain ⟨ds, hds, rfl⟩ := h
  refine ⟨List.replicate count 0 ++ ds, List.rel_append ?_ hds, ?_⟩
  · induction count with
    | zero => exact .nil
    | succ count ih => exact .cons ⟨hbase, .inl rfl⟩ ih
  · rw [List.reverse_append, List.reverse_replicate, Nat.ofDigits_append_replicate_zero]

/-- A row denotes a number exactly if it has nothing but digits. -/
theorem exists_denotes_iff {base : Nat} {cs : List Char} :
    (∃ n, Denotes base cs n) ↔ ∀ c ∈ cs, ∃ d, IsDigit base c d := by
  constructor
  · rintro ⟨_, ds, hds, -⟩
    induction hds with
    | nil => exact List.forall_mem_nil _
    | cons hc _ ih => exact List.forall_mem_cons.2 ⟨⟨_, hc⟩, ih⟩
  · intro h
    induction cs using List.reverseRecOn with
    | nil => exact ⟨0, denotes_nil base⟩
    | append_singleton cs c ih =>
      obtain ⟨n, hn⟩ := ih fun c hc => h c (List.mem_append_left _ hc)
      obtain ⟨d, hd⟩ := h c (List.mem_append_right _ (List.mem_singleton_self c))
      exact ⟨_, hn.concat hd⟩

/-- The values of digits are below the base. -/
theorem lt_of_forall₂ {base : Nat} {cs : List Char} {ds : List Nat}
    (h : List.Forall₂ (IsDigit base) cs ds) : ∀ d ∈ ds.reverse, d < base := by
  simp only [List.mem_reverse]
  induction h with
  | nil => exact List.forall_mem_nil _
  | cons hc _ ih => exact List.forall_mem_cons.2 ⟨hc.1, ih⟩

/-- A row of `k` digits denotes a number below the `k`-th power of the base. -/
theorem Denotes.lt {base : Nat} {cs : List Char} {n : Nat} (h : Denotes base cs n)
    (hbase : 1 < base) : n < base ^ cs.length := by
  obtain ⟨ds, hds, rfl⟩ := h
  rw [hds.length_eq, ← List.length_reverse]
  exact Nat.ofDigits_lt_base_pow_length hbase (lt_of_forall₂ hds)

/-- A character that counts as no digit stands in no row of digits. -/
theorem Denotes.not_mem {base : Nat} {cs : List Char} {n : Nat} (h : Denotes base cs n) {c : Char}
    (hc : digitValue? c = none) : c ∉ cs := fun hmem => by
  obtain ⟨d, hd⟩ := exists_denotes_iff.1 ⟨n, h⟩ c hmem
  rw [digitValue?_eq_some_iff.2 hd.2] at hc
  cases hc

/-! ## Reading -/

/-- A row of digits after a number, from its first digit on. -/
theorem ofDigits_reverse_cons (base acc d : Nat) (ds : List Nat) :
    acc * base ^ (d :: ds).length + Nat.ofDigits base (d :: ds).reverse =
      (acc * base + d) * base ^ ds.length + Nat.ofDigits base ds.reverse := by
  rw [List.reverse_cons, Nat.ofDigits_append, List.length_cons, List.length_reverse,
    Nat.ofDigits_singleton]
  ring

/-- **A row of digits in range is read as the number that it denotes**, after any digits read
before it. -/
theorem readDigits_of_forall₂ {base bound : Nat} (hbase : 0 < base) {cs : List Char}
    {ds : List Nat} (h : List.Forall₂ (IsDigit base) cs ds) {acc : Nat}
    (hlt : acc * base ^ ds.length + Nat.ofDigits base ds.reverse < bound) :
    readDigits base bound acc cs =
      .ok (acc * base ^ ds.length + Nat.ofDigits base ds.reverse) := by
  induction h generalizing acc with
  | nil => simp [readDigits]
  | @cons c d cs ds hc _ ih =>
    rw [ofDigits_reverse_cons] at hlt ⊢
    have hstep : acc * base + d < bound :=
      calc acc * base + d ≤ (acc * base + d) * base ^ ds.length :=
            Nat.le_mul_of_pos_right _ (Nat.pow_pos hbase)
        _ ≤ _ := Nat.le_add_right _ _
        _ < bound := hlt
    rw [readDigits, digit?_eq_some_iff.2 hc]
    simp only
    rw [if_pos hstep, ih hlt]

/-- Without a bound every row of digits has the value that it denotes. -/
theorem value?_of_denotes {base : Nat} {cs : List Char} {n : Nat} (h : Denotes base cs n) :
    value? base 0 cs = some n := by
  have hrow : ∀ {cs : List Char} {ds : List Nat}, List.Forall₂ (IsDigit base) cs ds → ∀ acc,
      value? base acc cs = some (acc * base ^ ds.length + Nat.ofDigits base ds.reverse) := by
    intro cs ds h
    induction h with
    | nil => simp [value?]
    | @cons c d cs ds hc _ ih =>
      intro acc
      rw [value?, digit?_eq_some_iff.2 hc, Option.bind_some, ih, ofDigits_reverse_cons]
  obtain ⟨ds, hds, rfl⟩ := h
  simpa using hrow hds 0

/-- A row of digits denotes one number. -/
theorem Denotes.unique {base : Nat} {cs : List Char} {m n : Nat} (hm : Denotes base cs m)
    (hn : Denotes base cs n) : m = n :=
  Option.some.inj ((value?_of_denotes hm).symm.trans (value?_of_denotes hn))

/-- Only digits have a value. -/
theorem isDigit_of_value? {base acc n : Nat} {cs : List Char} (h : value? base acc cs = some n) :
    ∀ c ∈ cs, ∃ d, IsDigit base c d := by
  induction cs generalizing acc with
  | nil => exact List.forall_mem_nil _
  | cons c cs ih =>
    obtain ⟨d, hd, hrest⟩ := Option.bind_eq_some_iff.1 h
    exact List.forall_mem_cons.2 ⟨⟨d, digit?_eq_some_iff.1 hd⟩, ih hrest⟩

theorem readDigits_of_denotes {base bound : Nat} (hbase : 0 < base) {cs : List Char} {n : Nat}
    (h : Denotes base cs n) (hlt : n < bound) : readDigits base bound 0 cs = .ok n := by
  obtain ⟨ds, hds, rfl⟩ := h
  have hread : readDigits base bound 0 cs = _ :=
    readDigits_of_forall₂ hbase hds (by simpa using hlt)
  simpa using hread

/-- A row of digits is read as a numeral, none of them being a sign. -/
theorem read_of_denotes {base bound : Nat} (hbase : 0 < base) {cs : List Char} {n : Nat}
    (h : Denotes base cs n) (hne : cs ≠ []) (hlt : n < bound) : read base bound cs = .ok n := by
  rw [← readDigits_of_denotes hbase h hlt]
  obtain ⟨ds, hds, -⟩ := h
  cases hds with
  | nil => exact absurd rfl hne
  | @cons c d cs ds hc _ =>
    have hsign : c ≠ '+' := by
      rintro rfl
      cases digit?_eq_some_iff.2 hc
    unfold read
    split
    · rename_i h
      cases h
    · rename_i h
      exact absurd (List.cons.inj h).1 hsign
    · rename_i h
      rw [h]

/-- A numeral in range is read without a fallback. -/
theorem hexOrZero_of_read {bound : Nat} {token : List Char} {n : Nat}
    (h : read 16 UInt64.size token = .ok n) (hlt : n < bound) :
    hexOrZero bound (some token) = n := by
  rw [hexOrZero, h]
  exact if_pos hlt

/-! ## Writing -/

/-- The digits of a number denote it, in any spelling of the digits. -/
theorem denotes_toDigits {base : Nat} (hbase : 1 < base) {spell : Char → Char}
    (hdigit : ∀ d < base, IsDigit base (spell (Nat.digitChar d)) d) (n : Nat) :
    Denotes base ((Nat.toDigits base n).map spell) n := by
  induction n using Nat.strongRecOn with
  | ind n ih =>
    by_cases hn : n < base
    · rw [Nat.toDigits_of_lt_base hn]
      simpa using (denotes_nil base).concat (hdigit n hn)
    · have hle := Nat.le_of_not_lt hn
      rw [Nat.toDigits_of_base_le hbase hle, List.map_append, List.map_singleton]
      have hrow := (ih (n / base) (Nat.div_lt_self (by omega) hbase)).concat
        (hdigit (n % base) (Nat.mod_lt _ (by omega)))
      rwa [Nat.div_add_mod'] at hrow

/-- **The row that is written for a number denotes it.** -/
theorem denotes_hex (width n : Nat) : Denotes 16 (hex width n) n :=
  (denotes_toDigits (by omega) (by decide) n).replicate_append (by omega) _

/-- In base ten the digits of a number denote it as they are. -/
theorem denotes_decimal (n : Nat) : Denotes 10 (Nat.toDigits 10 n) n := by
  have h : Denotes 10 ((Nat.toDigits 10 n).map id) n := denotes_toDigits (by omega) (by decide) n
  rwa [List.map_id] at h

/-- They start with a zero for zero alone. -/
theorem head?_toDigits {n : Nat} (h : n ≠ 0) : (Nat.toDigits 10 n).head? ≠ some '0' := by
  have hdigit : ∀ d < 10, d ≠ 0 → Nat.digitChar d ≠ '0' := by decide
  induction n using Nat.strongRecOn with
  | ind n ih =>
    by_cases hn : n < 10
    · rw [Nat.toDigits_of_lt_base hn]
      exact fun hhead => hdigit n hn h (Option.some.inj hhead)
    · rw [Nat.toDigits_of_base_le (by omega) (by omega)]
      have hfront := ih (n / 10) (by omega) (by omega)
      cases hdigits : Nat.toDigits 10 (n / 10) with
      | nil => exact absurd hdigits Nat.toDigits_ne_nil
      | cons c cs => rwa [hdigits] at hfront

/-- **A written row is as long as it is told to be exactly if the number has room in it.** -/
theorem length_hex_eq_iff {width : Nat} (hwidth : 0 < width) (n : Nat) :
    (hex width n).length = width ↔ n < 16 ^ width := by
  rw [← Nat.length_toDigits_le_iff (by omega) hwidth, hex]
  simp only [List.length_append, List.length_replicate, List.length_map]
  omega

/-! ## Upper case -/

/-- A digit in upper case is the one of the table. -/
theorem IsDigit.toUpper {c : Char} {d : Nat} (h : IsDigit 16 c d) :
    upperDigits[d]? = some c.toUpper := by
  obtain ⟨hd, h⟩ := h
  interval_cases d <;> rcases h with h | h <;> cases h <;> decide

theorem IsDigit.toUpper_toUpper {c : Char} {d : Nat} (h : IsDigit 16 c d) :
    c.toUpper.toUpper = c.toUpper := by
  obtain ⟨hd, h⟩ := h
  interval_cases d <;> rcases h with h | h <;> cases h <;> decide

/-- In upper case a row of digits is told by their values. -/
theorem map_toUpper_of_forall₂ {cs : List Char} {ds : List Nat}
    (h : List.Forall₂ (IsDigit 16) cs ds) :
    (cs.map Char.toUpper).map some = ds.map (upperDigits[·]?) := by
  induction h with
  | nil => rfl
  | cons hc _ ih => rw [List.map_cons, List.map_cons, List.map_cons, ih, hc.toUpper]

/-- **Rows of one length that denote one number differ in the case of their digits alone.** -/
theorem Denotes.map_toUpper_eq {cs cs' : List Char} {n : Nat} (h : Denotes 16 cs n)
    (h' : Denotes 16 cs' n) (hlength : cs.length = cs'.length) :
    cs.map Char.toUpper = cs'.map Char.toUpper := by
  obtain ⟨ds, hds, rfl⟩ := h
  obtain ⟨ds', hds', hsame⟩ := h'
  have hdigits : ds.reverse = ds'.reverse := by
    refine Nat.ofDigits_inj_of_len_eq (by omega) ?_ (lt_of_forall₂ hds) (lt_of_forall₂ hds')
      hsame.symm
    rw [List.length_reverse, List.length_reverse, ← hds.length_eq, ← hds'.length_eq, hlength]
  obtain rfl := List.reverse_injective hdigits
  refine List.map_injective_iff.2 (Option.some_injective Char) ?_
  rw [map_toUpper_of_forall₂ hds, map_toUpper_of_forall₂ hds']

/-- A written row is in upper case. -/
theorem map_toUpper_hex (width n : Nat) : (hex width n).map Char.toUpper = hex width n := by
  have hdigit : ∀ c ∈ Nat.toDigits 16 n, c.toUpper.toUpper = c.toUpper := by
    intro c hc
    have hrow : Denotes 16 ((Nat.toDigits 16 n).map id) n :=
      denotes_toDigits (by omega) (by decide) n
    rw [List.map_id] at hrow
    obtain ⟨d, hd⟩ := exists_denotes_iff.1 ⟨n, hrow⟩ c hc
    exact hd.toUpper_toUpper
  rw [hex, List.map_append, List.map_replicate, List.map_map]
  exact congrArg₂ _ rfl (List.map_congr_left hdigit)

/-- **A row of digits is written again in upper case**, from its number and its length. -/
theorem Denotes.hex_eq {cs : List Char} {n : Nat} (h : Denotes 16 cs n) (hne : cs ≠ []) :
    hex cs.length n = cs.map Char.toUpper := by
  have hlength : (hex cs.length n).length = cs.length :=
    (length_hex_eq_iff (List.length_pos_iff.2 hne) n).2 (h.lt (by omega))
  rw [← map_toUpper_hex, (denotes_hex cs.length n).map_toUpper_eq h hlength]

end Numeral
end CheatCode
