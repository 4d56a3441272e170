/-
# Words and their bytes

A 64-bit word as little-endian bytes: byte `i` holds the bits from `8 * i` on.  Past the eighth
byte a word has only zeros.
-/

namespace CheatCode
namespace Word

/-- Byte `i` of a word, the lowest first.  The distance of the shift is itself a 32-bit word. -/
def byte (word : UInt64) (i : Nat) : UInt8 :=
  let distance : UInt32 := 8 * UInt32.ofNat i
  if distance < 64 then (word >>> distance.toUInt64).toUInt8 else 0

/-- The number whose little-endian bytes are given. -/
def ofBytes (bytes : List UInt8) : Nat :=
  bytes.foldr (fun b rest => b.toNat + 256 * rest) 0

end Word
end CheatCode
