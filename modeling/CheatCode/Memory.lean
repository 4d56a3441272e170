/-
# Memories

What codes are written into.  A memory answers reads of some bytes at an address with the number
they hold, lowest byte first, and takes writes of a number in the same way.  How it treats an
access that it cannot serve is its own affair; it may report one.
-/

import CheatCode.Traced

namespace CheatCode

/-- A memory that can be read and written by address. -/
class Accessor (μ : Type) where
  /-- The number held by `size` bytes at `address`, and the memory after the read. -/
  read (memory : μ) (address size : UInt64) : Traced (UInt64 × μ)
  /-- The memory after a number is put into `size` bytes at `address`. -/
  write (memory : μ) (address size value : UInt64) : Traced μ

namespace Accessor

variable {μ : Type} [Accessor μ]

/-- Reads one byte. -/
def readByte (memory : μ) (address : UInt64) : Traced (UInt8 × μ) := do
  let (value, memory) ← read memory address 1
  return (value.toUInt8, memory)

/-- Writes one byte. -/
def writeByte (memory : μ) (address : UInt64) (value : UInt8) : Traced μ :=
  write memory address 1 value.toUInt64

/-- Reads two bytes. -/
def readPair (memory : μ) (address : UInt64) : Traced (UInt16 × μ) := do
  let (value, memory) ← read memory address 2
  return (value.toUInt16, memory)

/-- Writes two bytes. -/
def writePair (memory : μ) (address : UInt64) (value : UInt16) : Traced μ :=
  write memory address 2 value.toUInt64

end Accessor

/-- A memory reached through another hand: every access is passed on. -/
structure Forwarded (μ : Type) where
  inner : μ

instance {μ : Type} [Accessor μ] : Accessor (Forwarded μ) where
  read memory address size := do
    let (value, inner) ← Accessor.read memory.inner address size
    return (value, ⟨inner⟩)
  write memory address size value := do
    let inner ← Accessor.write memory.inner address size value
    return ⟨inner⟩

end CheatCode
