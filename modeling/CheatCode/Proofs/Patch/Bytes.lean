/-
# The bytes of a patch

A patch is carried out by as many pokes as it is wide, counted up from its address
(`Patch.getElem?_pokes`).  Poke `i` is meant to hold digit `i` of the value in base 256.  The
distance of the shift that cuts out a byte has 32 bits:

| `i` | distance | byte |
| --- | --- | --- |
| below 8 | `8 * i` | digit `i` of the value |
| from 8, below `2 ^ 29` | `8 * i`, at least 64 | zero, as digit `i` is |
| from `2 ^ 29` | `8 * (i % 2 ^ 29)` | digit `i % 2 ^ 29` of the value |

So the pokes hold the digits of the value exactly if the patch is no wider than `2 ^ 29`, or the
digits that come again are zero (`Patch.pokes_digits`).  A write into an image puts in the same
bytes at any width.
-/

import CheatCode.Patch
import CheatCode.Proofs.Memory.Image
import CheatCode.Proofs.Word

namespace CheatCode

/-- The lowest digits of a number are zero exactly if it is a multiple of that power of the base. -/
theorem Word.pow_dvd_iff_digits {base : Nat} (hbase : 0 < base) {n count : Nat} :
    base ^ count ∣ n ↔ ∀ i < count, n / base ^ i % base = 0 := by
  rw [Nat.dvd_iff_mod_eq_zero]
  induction count with
  | zero => simp [Nat.mod_one]
  | succ count ih =>
    rw [Nat.forall_lt_succ_right, ← ih, Nat.mod_pow_succ]
    have hpow : 0 < base ^ count := Nat.pow_pos hbase
    constructor
    · intro hsum
      obtain ⟨hlow, hhigh⟩ := Nat.add_eq_zero_iff.1 hsum
      exact ⟨hlow, (Nat.mul_eq_zero.1 hhigh).resolve_left (by omega)⟩
    · rintro ⟨hlow, hdigit⟩
      rw [hlow, hdigit, Nat.mul_zero]

namespace Patch

theorem length_pokes (p : Patch) : p.pokes.length = p.width.toNat := by
  rw [pokes, List.length_map, List.length_range]

/-- Poke `i` of a patch, if the patch is so wide. -/
theorem getElem?_pokes {p : Patch} {i : Nat} (h : i < p.width.toNat) :
    p.pokes[i]? = some ⟨p.address + UInt64.ofNat i, Word.byte p.value i⟩ := by
  rw [pokes, List.getElem?_map, List.getElem?_range h, Option.map_some]

/-- Addresses are counted up modulo `2 ^ 64`. -/
theorem toNat_address_add (p : Patch) (i : Nat) :
    (p.address + UInt64.ofNat i).toNat = (p.address.toNat + i) % 2 ^ 64 := by
  rw [UInt64.toNat_add, UInt64.toNat_ofNat', Nat.add_mod_mod]

/-- The pokes of a patch hold the digits of its value in base 256. -/
def HoldsDigits (p : Patch) : Prop :=
  ∀ i < p.width.toNat, ∀ code, p.pokes[i]? = some code →
    code.value.toNat = p.value.toNat / 256 ^ i % 256

/-- **The pokes hold the digits exactly if the digits that come again are zero**, and of a patch no
wider than `2 ^ 29` none comes again. -/
theorem holdsDigits_iff {p : Patch} :
    p.HoldsDigits ↔ 256 ^ (p.width.toNat - 2 ^ 29) ∣ p.value.toNat := by
  rw [Word.pow_dvd_iff_digits (by omega)]
  constructor
  · intro h j hj
    by_cases hsmall : j < 8
    · -- the poke that should hold a zero and holds digit `j` again
      obtain ⟨i, hwide, hagain, hfar⟩ : ∃ i, i < p.width.toNat ∧ i % 2 ^ 29 = j ∧ 8 ≤ i :=
        ⟨j + 2 ^ 29, by omega, by omega, by omega⟩
      have hbyte : (Word.byte p.value i).toNat = _ := h i hwide _ (getElem?_pokes hwide)
      rw [Word.toNat_byte_mod, hagain, Word.digit_eq_zero p.value hfar] at hbyte
      exact hbyte
    · exact Word.digit_eq_zero p.value (by omega)
  · intro h i hi code hcode
    rw [getElem?_pokes hi, Option.some.injEq] at hcode
    subst hcode
    rw [Word.toNat_byte_mod]
    by_cases hroom : i < 2 ^ 29
    · rw [Nat.mod_eq_of_lt hroom]
    · rw [h (i % 2 ^ 29) (by omega), Word.digit_eq_zero p.value (by omega)]

/-- **The pokes of a patch, at every width.**  There are as many as the patch is wide.  Poke `i` is
for the address `i` after the patch's own, modulo `2 ^ 64`, and holds a digit of the value in base
256: digit `i` up to `2 ^ 29`, and from there on the digits from the first on again.  The distance
of no shift wraps around exactly if the patch is no wider than that; the pokes are the digits of the
value exactly if, besides, a wider one repeats only zeros.  A write that an image takes puts the
same bytes at the same places. -/
theorem pokes_digits (p : Patch) :
    p.pokes.length = p.width.toNat ∧
      (∀ i < p.width.toNat, ∃ code, p.pokes[i]? = some code ∧
        code.address.toNat = (p.address.toNat + i) % 2 ^ 64 ∧
        code.value.toNat = p.value.toNat / 256 ^ (i % 2 ^ 29) % 256 ∧
        (8 ≤ i → i < 2 ^ 29 → code.value = 0)) ∧
      ((∀ i < p.width.toNat, (8 * UInt32.ofNat i).toNat = 8 * i) ↔ p.width.toNat ≤ 2 ^ 29) ∧
      (p.HoldsDigits ↔ 256 ^ (p.width.toNat - 2 ^ 29) ∣ p.value.toNat) ∧
      ∀ image : Image, image.Covers p.address p.width → ∀ i < p.width.toNat,
        (Accessor.write image p.address p.width p.value).value.byteAt? (p.address.toNat + i) =
          (p.pokes[i]?).map Poke.value := by
  refine ⟨p.length_pokes, fun i hi => ?_, ?_, holdsDigits_iff, fun image hcovers i hi => ?_⟩
  · refine ⟨_, getElem?_pokes hi, p.toNat_address_add i, Word.toNat_byte_mod _ _, ?_⟩
    intro h8 hroom
    refine UInt8.toNat_inj.1 ?_
    rw [Word.toNat_byte hroom, Word.digit_eq_zero p.value h8]
    rfl
  · constructor
    · intro h
      by_contra hwide
      have hwrapped := h (2 ^ 29) (by omega)
      rw [Word.toNat_distance_mod] at hwrapped
      omega
    · exact fun hroom i hi => Word.toNat_distance (by omega)
  · rw [Image.byteAt?_write p.value hcovers, if_pos (by omega), getElem?_pokes hi,
      Nat.add_sub_cancel_left, Option.map_some]

/-- The number one, one byte wider than what the distance of the shift has room for. -/
def wideOne : Patch := ⟨0, 0x20000001, 1⟩

/-- Its last poke holds a one, not the zero that a byte past the eighth should be. -/
theorem wideOne_repeats :
    wideOne.pokes[2 ^ 29]? = some ⟨0x20000000, 1⟩ ∧ ¬ wideOne.HoldsDigits := by
  have hwide : 2 ^ 29 < wideOne.width.toNat := by decide
  constructor
  · rw [getElem?_pokes hwide, Word.byte_mod, Nat.mod_self]
    rfl
  · rw [holdsDigits_iff]
    decide

end Patch
end CheatCode
