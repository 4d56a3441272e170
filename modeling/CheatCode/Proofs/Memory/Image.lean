/-
# What a write does to an image

An image is read by its bytes: `Image.byteAt?` gives the byte for an address, which is a number
without a bound, and `none` beside the row.  An access is served exactly if its bytes lie inside
the row as unbounded numbers (`Image.offset?_eq`), so no address or size near `2 ^ 64` wraps
around.  A write that is served puts the bytes of its value at its addresses and changes no other
byte (`Image.byteAt?_write`); one that is not changes nothing (`Image.write_of_not_covers`).  Base
and length stay (`Image.base_write`, `Image.size_write`).
-/

import CheatCode.Memory.Image

namespace CheatCode

namespace Word

/-- The lowest byte of a word made from a byte is that byte. -/
theorem byte_toUInt64_zero (value : UInt8) : byte value.toUInt64 0 = value := by
  simp [byte]

end Word

namespace Image

/-- The byte that an image holds for an address. -/
def byteAt? (image : Image) (address : Nat) : Option UInt8 :=
  if image.base.toNat ≤ address then image.bytes[address - image.base.toNat]? else none

/-- All bytes of an access lie inside the row. -/
def Covers (image : Image) (address size : UInt64) : Prop :=
  image.base.toNat ≤ address.toNat ∧
    address.toNat + size.toNat ≤ image.base.toNat + image.bytes.size

instance (image : Image) (address size : UInt64) : Decidable (image.Covers address size) :=
  inferInstanceAs (Decidable (_ ∧ _))

/-- Byte `i` of the row is the byte for the address `i` after the base. -/
theorem byteAt?_base_add (image : Image) (i : Nat) :
    image.byteAt? (image.base.toNat + i) = image.bytes[i]? := by
  rw [byteAt?, if_pos (Nat.le_add_right _ _), Nat.add_sub_cancel_left]

/-- There is a byte for exactly the addresses of the row. -/
theorem isSome_byteAt? (image : Image) (address : Nat) :
    (image.byteAt? address).isSome ↔
      image.base.toNat ≤ address ∧ address < image.base.toNat + image.bytes.size := by
  unfold byteAt?
  split <;> simp <;> omega

/-- There is a byte for each address that an access inside the row covers. -/
theorem Covers.exists_byteAt? {image : Image} {address size : UInt64}
    (h : image.Covers address size) {n : Nat}
    (hn : address.toNat ≤ n ∧ n < address.toNat + size.toNat) :
    ∃ byte, image.byteAt? n = some byte := by
  obtain ⟨hbase, hend⟩ := h
  refine Option.isSome_iff_exists.1 ((image.isSome_byteAt? n).2 ⟨?_, ?_⟩)
  · omega
  · omega

/-- **An access is served exactly if all its bytes lie inside the row.** -/
theorem offset?_eq (image : Image) (address size : UInt64) :
    image.offset? address size =
      if image.Covers address size then some (address.toNat - image.base.toNat) else none := by
  simp only [offset?, UInt64.le_iff_toNat_le]
  by_cases h : image.Covers address size
  · obtain ⟨hbase, hend⟩ := id h
    rw [if_pos h, if_pos hbase, if_pos (by omega)]
  · rw [if_neg h]
    by_cases hbase : image.base.toNat ≤ address.toNat
    · rw [if_pos hbase, if_neg fun hend => h ⟨hbase, by omega⟩]
    · rw [if_neg hbase]

theorem store_succ (bytes : Array UInt8) (offset size : Nat) (value : UInt64) :
    store bytes offset (size + 1) value =
      (store bytes offset size value).setIfInBounds (offset + size) (Word.byte value size) := by
  simp [store]

theorem size_store (bytes : Array UInt8) (offset size : Nat) (value : UInt64) :
    (store bytes offset size value).size = bytes.size := by
  induction size with
  | zero => simp [store]
  | succ size ih => rw [store_succ, Array.size_setIfInBounds, ih]

/-- A stored number takes the places from its offset on, one for each of its bytes. -/
theorem getElem?_store (bytes : Array UInt8) (offset size : Nat) (value : UInt64) (i : Nat) :
    (store bytes offset size value)[i]? =
      if offset ≤ i ∧ i < offset + size then bytes[i]?.map fun _ => Word.byte value (i - offset)
      else bytes[i]? := by
  induction size with
  | zero => rw [if_neg (by omega)]; simp [store]
  | succ size ih =>
    rw [store_succ, Array.getElem?_setIfInBounds, size_store, ih]
    by_cases hlast : offset + size = i
    · subst hlast
      rw [if_pos rfl, if_pos (⟨by omega, by omega⟩ : _ ∧ _), Nat.add_sub_cancel_left]
      by_cases hlt : offset + size < bytes.size
      · rw [if_pos hlt, Array.getElem?_eq_getElem hlt, Option.map_some]
      · rw [if_neg hlt, Array.getElem?_eq_none (by omega), Option.map_none]
    · rw [if_neg hlast]
      by_cases hold : offset ≤ i ∧ i < offset + size
      · rw [if_pos hold, if_pos (by omega)]
      · rw [if_neg hold, if_neg (by omega)]

theorem write_of_covers {image : Image} {address size : UInt64} (value : UInt64)
    (h : image.Covers address size) :
    Accessor.write image address size value =
      pure { image with
        bytes := store image.bytes (address.toNat - image.base.toNat) size.toNat value } := by
  simp only [Accessor.write, offset?_eq, if_pos h]

theorem write_of_not_covers {image : Image} {address size : UInt64} (value : UInt64)
    (h : ¬ image.Covers address size) :
    Accessor.write image address size value = do
      Traced.emit (.outOfRange .write address size)
      return image := by
  simp only [Accessor.write, offset?_eq, if_neg h]

@[simp] theorem base_write (image : Image) (address size value : UInt64) :
    (Accessor.write image address size value).value.base = image.base := by
  by_cases h : image.Covers address size
  · rw [write_of_covers value h, Traced.value_pure]
  · rw [write_of_not_covers value h, Traced.value_bind, Traced.value_pure]

@[simp] theorem size_write (image : Image) (address size value : UInt64) :
    (Accessor.write image address size value).value.bytes.size = image.bytes.size := by
  by_cases h : image.Covers address size
  · rw [write_of_covers value h, Traced.value_pure, size_store]
  · rw [write_of_not_covers value h, Traced.value_bind, Traced.value_pure]

/-- **A write that is served puts the bytes of its value at its addresses and nothing else
anywhere.** -/
theorem byteAt?_write {image : Image} {address size : UInt64} (value : UInt64)
    (h : image.Covers address size) (n : Nat) :
    (Accessor.write image address size value).value.byteAt? n =
      if address.toNat ≤ n ∧ n < address.toNat + size.toNat then
        some (Word.byte value (n - address.toNat))
      else image.byteAt? n := by
  obtain ⟨hbase, hend⟩ := h
  rw [write_of_covers value ⟨hbase, hend⟩, Traced.value_pure]
  simp only [byteAt?, getElem?_store]
  by_cases hn : image.base.toNat ≤ n
  · rw [if_pos hn, if_pos hn]
    by_cases hin : address.toNat ≤ n ∧ n < address.toNat + size.toNat
    · have hlt : n - image.base.toNat < image.bytes.size := by omega
      rw [if_pos (by omega), if_pos hin, Array.getElem?_eq_getElem hlt, Option.map_some]
      congr 2
      omega
    · rw [if_neg (by omega), if_neg hin]
  · rw [if_neg hn, if_neg hn, if_neg (by omega)]

/-- **A write of one byte changes the byte for its address, if there is one, and no other.** -/
theorem byteAt?_write_one (image : Image) (address : UInt64) (value : UInt8) (n : Nat) :
    (Accessor.write image address 1 value.toUInt64).value.byteAt? n =
      (image.byteAt? n).map fun byte => if address.toNat = n then value else byte := by
  have hone : (1 : UInt64).toNat = 1 := rfl
  by_cases h : image.Covers address 1
  · rw [byteAt?_write _ h, hone]
    by_cases hn : address.toNat = n
    · subst hn
      have hsome : (image.byteAt? address.toNat).isSome := by
        rw [isSome_byteAt?]
        obtain ⟨hbase, hend⟩ := h
        omega
      obtain ⟨byte, hbyte⟩ := Option.isSome_iff_exists.1 hsome
      rw [if_pos (by omega), hbyte, Option.map_some, if_pos rfl, Nat.sub_self,
        Word.byte_toUInt64_zero]
    · rw [if_neg (by omega)]
      simp only [if_neg hn, Option.map_id']
  · rw [write_of_not_covers _ h, Traced.value_bind, Traced.value_pure]
    by_cases hn : address.toNat = n
    · subst hn
      have hnone : image.byteAt? address.toNat = none := by
        rw [← Option.not_isSome_iff_eq_none, isSome_byteAt?]
        rintro ⟨hbase, hend⟩
        exact h ⟨hbase, by omega⟩
      rw [hnone, Option.map_none]
    · simp only [if_neg hn, Option.map_id']

/-- Two images of one base and one length are the same if they hold the same bytes. -/
theorem ext_byteAt? {a b : Image} (hbase : a.base = b.base)
    (h : ∀ n, a.byteAt? n = b.byteAt? n) : a = b := by
  obtain ⟨base, bytes⟩ := a
  obtain ⟨base', bytes'⟩ := b
  obtain rfl : base = base' := hbase
  congr 1
  refine Array.ext_getElem? fun i => ?_
  rw [← byteAt?_base_add ⟨base, bytes⟩, ← byteAt?_base_add ⟨base, bytes'⟩]
  exact h _

end Image
end CheatCode
