/-
# Calls of a memory

All ways to use a memory: to read or to write some bytes at an address, one byte or two.  A call
takes the memory, and leaves it with an answer.
-/

import CheatCode.Memory

namespace CheatCode
namespace Accessor

/-- A call of a memory. -/
inductive Call where
  | read (address size : UInt64)
  | readByte (address : UInt64)
  | readPair (address : UInt64)
  | write (address size value : UInt64)
  | writeByte (address : UInt64) (value : UInt8)
  | writePair (address : UInt64) (value : UInt16)
  deriving DecidableEq, Repr

/-- What a call answers. -/
inductive Answer where
  | nothing
  | word (value : UInt64)
  | byte (value : UInt8)
  | pair (value : UInt16)
  deriving DecidableEq, Repr

variable {μ : Type} [Accessor μ]

/-- What a call answers, and the memory after it. -/
def call (memory : μ) : Call → Traced (Answer × μ)
  | .read address size => do
    let (value, memory) ← read memory address size
    return (.word value, memory)
  | .readByte address => do
    let (value, memory) ← readByte memory address
    return (.byte value, memory)
  | .readPair address => do
    let (value, memory) ← readPair memory address
    return (.pair value, memory)
  | .write address size value => do
    let memory ← write memory address size value
    return (.nothing, memory)
  | .writeByte address value => do
    let memory ← writeByte memory address value
    return (.nothing, memory)
  | .writePair address value => do
    let memory ← writePair memory address value
    return (.nothing, memory)

end Accessor
end CheatCode
