/-
# Memory images

A row of bytes mapped at a base address.  An access is served only if all its bytes lie inside
the row.  One that does not is reported; such a read answers zero and such a write changes
nothing.  A read of more than eight bytes looks at the first eight, and a write of more fills the
others with zeros.
-/

import CheatCode.Memory
import CheatCode.Word

namespace CheatCode

/-- A row of bytes at a base address. -/
structure Image where
  base : UInt64
  bytes : Array UInt8
  deriving DecidableEq, Repr

namespace Image

/-- An image of `length` zeros. -/
def zeroed (base : UInt64) (length : Nat) : Image := ⟨base, Array.replicate length 0⟩

/-- Where in the row an access starts, if all of it lies inside. -/
def offset? (image : Image) (address size : UInt64) : Option Nat :=
  if image.base ≤ address then
    let offset := address.toNat - image.base.toNat
    if offset + size.toNat ≤ image.bytes.size then some offset else none
  else none

/-- The row with the bytes of a number put in from `offset` on. -/
def store (bytes : Array UInt8) (offset size : Nat) (value : UInt64) : Array UInt8 :=
  size.fold (fun i _ bytes => bytes.setIfInBounds (offset + i) (Word.byte value i)) bytes

instance : Accessor Image where
  read image address size :=
    match image.offset? address size with
    | some offset =>
      let bytes := image.bytes.extract offset (offset + min size.toNat 8)
      pure (UInt64.ofNat (Word.ofBytes bytes.toList), image)
    | none => do
      Traced.emit (.outOfRange .read address size)
      return (0, image)
  write image address size value :=
    match image.offset? address size with
    | some offset => pure { image with bytes := store image.bytes offset size.toNat value }
    | none => do
      Traced.emit (.outOfRange .write address size)
      return image

end Image
end CheatCode
