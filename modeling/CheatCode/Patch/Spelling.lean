/-
# Spelling of patches

A patch is spelled `ADDRESS:WIDTH:VALUE`, the address and the value in base sixteen, with or
without `0x`, the width in base ten.  Of several bad fields the leftmost is reported.
-/

import CheatCode.Patch
import CheatCode.Text.Lines

namespace CheatCode
namespace Patch

/-- Why a text spells no patch. -/
inductive SpellingError where
  /-- The text does not have three fields. -/
  | shape (text : String)
  /-- A field is no number of 64 bits. -/
  | field (text : String) (fault : Numeral.Fault)
  deriving DecidableEq, Repr

/-- The wording of a bad number: the text as it was given, then the fault. -/
def fieldMessage (text : String) (fault : Numeral.Fault) : String :=
  text ++ ": " ++ fault.message

/-- The wording of an error. -/
def SpellingError.message : SpellingError → String
  | .shape text => "expected ADDRESS:WIDTH:VALUE, got " ++ text
  | .field text fault => fieldMessage text fault

/-- Reads a patch. -/
def read (text : String) : Except SpellingError Patch :=
  match (Text.fields ':' text.toList).map String.ofList with
  | [address, width, value] => do
    let a ← (Numeral.readHex address).mapError (.field address)
    let w ← (Numeral.readDecimal width).mapError (.field width)
    let v ← (Numeral.readHex value).mapError (.field value)
    .ok ⟨a, w, v⟩
  | _ => .error (.shape text)

end Patch
end CheatCode
