/-
# Patches

A patch asks for a value of some width at an address.  It is carried out by pokes, one a byte, the
lowest byte first; addresses wrap around at `2 ^ 64`, and a patch wider than a word is filled up
with zeros.
-/

import CheatCode.Poke
import CheatCode.Word

namespace CheatCode

/-- A value of some width for an address. -/
structure Patch where
  address : UInt64
  width : UInt64
  value : UInt64
  deriving DecidableEq, Repr, Inhabited

namespace Patch

/-- The pokes that carry out a patch. -/
def pokes (p : Patch) : List Poke :=
  (List.range p.width.toNat).map fun i => ⟨p.address + UInt64.ofNat i, Word.byte p.value i⟩

/-- Why a list of patches has no code text. -/
inductive EncodeError where
  /-- There is no byte to write. -/
  | empty
  deriving DecidableEq, Repr

/-- The wording of an error. -/
def EncodeError.message : EncodeError → String
  | .empty => "no code lines to generate"

/-- What separates the lines of a code text. -/
def lineSeparator : String := "\n"

/-- The code text that carries out a list of patches, in order. -/
def encode (patches : List Patch) : Except EncodeError String :=
  match patches.flatMap pokes with
  | [] => .error .empty
  | codes => .ok (lineSeparator.intercalate (codes.map fun code => String.ofList code.line))

end Patch
end CheatCode
