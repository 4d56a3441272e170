/-
# What bytes have to do with a word

Byte `i` of a word is digit `i` of its number in base 256 (`Word.toNat_byte`), as long as the
distance of the shift does not wrap around in its 32 bits; after `2 ^ 29` bytes it does, and the
bytes come again from the first (`Word.byte_mod`).  A row of bytes makes the number with these
digits (`Word.ofBytes_eq_sum`).  Sums and differences of words that are no words can be told by
looking at words alone (`Word.toNat_add?`, `Word.toNat_sub?`).
-/

import CheatCode.Word
import Mathlib.Algebra.BigOperators.Ring.Finset
import Mathlib.Tactic.Ring

namespace CheatCode
namespace Word

/-- The distance of the shift has 32 bits, in which it wraps around after `2 ^ 29` bytes. -/
theorem toNat_distance_mod (i : Nat) : (8 * UInt32.ofNat i).toNat = 8 * (i % 2 ^ 29) := by
  rw [UInt32.toNat_mul, UInt32.toNat_ofNat']
  show 8 * (i % 2 ^ 32) % 2 ^ 32 = 8 * (i % 2 ^ 29)
  omega

/-- The distance of the shift is what it is meant to be as long as it has room in 32 bits. -/
theorem toNat_distance {i : Nat} (h : i < 2 ^ 29) : (8 * UInt32.ofNat i).toNat = 8 * i := by
  rw [toNat_distance_mod, Nat.mod_eq_of_lt h]

/-- The bytes of a word come again where the distance wraps around. -/
theorem byte_mod (word : UInt64) (i : Nat) : byte word i = byte word (i % 2 ^ 29) := by
  have hdistance : 8 * UInt32.ofNat i = 8 * UInt32.ofNat (i % 2 ^ 29) := by
    refine UInt32.toNat_inj.1 ?_
    rw [toNat_distance_mod, toNat_distance_mod, Nat.mod_mod]
  rw [byte, byte, hdistance]

/-- A word has eight digits in base 256; the further ones are zero. -/
theorem digit_eq_zero (word : UInt64) {i : Nat} (h : 8 ≤ i) : word.toNat / 256 ^ i % 256 = 0 := by
  have hsmall : word.toNat < 256 ^ i :=
    calc word.toNat < 256 ^ 8 := word.toNat_lt
      _ ≤ 256 ^ i := Nat.pow_le_pow_right (by omega) h
  rw [Nat.div_eq_of_lt hsmall, Nat.zero_mod]

/-- **Byte `i` of a word is digit `i` of its number in base 256**, and so zero from the eighth byte
on, as long as eight times `i` has room in 32 bits. -/
theorem toNat_byte {word : UInt64} {i : Nat} (h : i < 2 ^ 29) :
    (byte word i).toNat = word.toNat / 256 ^ i % 256 := by
  have hlt : 8 * UInt32.ofNat i < 64 ↔ 8 * i < 64 := by
    rw [UInt32.lt_iff_toNat_lt, toNat_distance h]
    exact Iff.rfl
  have hpow : (256 : Nat) ^ i = 2 ^ (8 * i) := by rw [Nat.pow_mul]
  by_cases hi : i < 8
  · have hmod : 8 * i % 64 = 8 * i := Nat.mod_eq_of_lt (by omega)
    simp only [byte, if_pos (hlt.2 (by omega)), UInt64.toNat_toUInt8, UInt64.toNat_shiftRight,
      UInt32.toNat_toUInt64, toNat_distance h, hmod, Nat.shiftRight_eq_div_pow, hpow]
  · rw [byte, if_neg (mt hlt.1 (by omega)), digit_eq_zero word (by omega)]
    rfl

/-- At any place a byte is a digit of the word: from `2 ^ 29` on, one that has been there before. -/
theorem toNat_byte_mod (word : UInt64) (i : Nat) :
    (byte word i).toNat = word.toNat / 256 ^ (i % 2 ^ 29) % 256 := by
  rw [byte_mod, toNat_byte (Nat.mod_lt _ (Nat.two_pow_pos _))]

theorem byte_eq_ofNat {word : UInt64} {i : Nat} (h : i < 2 ^ 29) :
    byte word i = UInt8.ofNat (word.toNat / 256 ^ i) := by
  refine UInt8.toNat_inj.1 ?_
  rw [toNat_byte h, UInt8.toNat_ofNat']

/-- **A row of bytes makes the number whose digits in base 256 they are**, the lowest first. -/
theorem ofBytes_eq_sum (bytes : List UInt8) :
    ofBytes bytes = ∑ i ∈ Finset.range bytes.length, (bytes[i]?.getD 0).toNat * 256 ^ i := by
  induction bytes with
  | nil => rfl
  | cons b bytes ih =>
    have hstep : ofBytes (b :: bytes) = b.toNat + 256 * ofBytes bytes := rfl
    rw [hstep, ih, List.length_cons, Finset.sum_range_succ', Finset.mul_sum, Nat.add_comm]
    simp only [List.getElem?_cons_succ, List.getElem?_cons_zero, Option.getD_some, Nat.pow_succ,
      Nat.pow_zero, Nat.mul_one]
    refine congrArg (· + b.toNat) (Finset.sum_congr rfl fun i _ => ?_)
    ring

/-! ## Sums and differences that are words -/

/-- The difference of two words, if it is a word. -/
def sub? (a b : UInt64) : Option UInt64 := if b ≤ a then some (a - b) else none

/-- The sum of two words, if it is a word: one that wraps around comes out below its parts. -/
def add? (a b : UInt64) : Option UInt64 := if a ≤ a + b then some (a + b) else none

/-- A word counted up by a number is the sum as long as it does not wrap around. -/
theorem toNat_add_ofNat {word : UInt64} {i : Nat} (h : word.toNat + i < 2 ^ 64) :
    (word + UInt64.ofNat i).toNat = word.toNat + i := by
  have hi : i < UInt64.size := Nat.lt_of_le_of_lt (Nat.le_add_left _ _) h
  rw [UInt64.toNat_add, UInt64.toNat_ofNat_of_lt' hi, Nat.mod_eq_of_lt h]

theorem toNat_sub? (a b : UInt64) :
    (sub? a b).map UInt64.toNat =
      if b.toNat ≤ a.toNat then some (a.toNat - b.toNat) else none := by
  unfold sub?
  by_cases h : b ≤ a
  · rw [if_pos h, if_pos (UInt64.le_iff_toNat_le.1 h), Option.map_some,
      UInt64.toNat_sub_of_le _ _ h]
  · rw [if_neg h, if_neg (mt UInt64.le_iff_toNat_le.2 h), Option.map_none]

theorem toNat_add? (a b : UInt64) :
    (add? a b).map UInt64.toNat =
      if a.toNat + b.toNat < 2 ^ 64 then some (a.toNat + b.toNat) else none := by
  have hsum : (a + b).toNat = (a.toNat + b.toNat) % 2 ^ 64 := UInt64.toNat_add a b
  have ha := a.toNat_lt
  have hb := b.toNat_lt
  unfold add?
  by_cases h : a.toNat + b.toNat < 2 ^ 64
  · rw [Nat.mod_eq_of_lt h] at hsum
    have hle : a ≤ a + b := UInt64.le_iff_toNat_le.2 (by omega)
    rw [if_pos hle, if_pos h, Option.map_some, hsum]
  · have hgt : ¬ a ≤ a + b := fun hle => by
      have := UInt64.le_iff_toNat_le.1 hle
      omega
    rw [if_neg hgt, if_neg h, Option.map_none]

end Word
end CheatCode
