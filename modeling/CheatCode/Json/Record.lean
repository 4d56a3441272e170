/-
# Records in JSON

Pokes, patches and formats as JSON texts.  A record is written as an object with its fields in
order and no white space.  It is read from an object with each field once, in any order and among
any others, or from an array of exactly its fields in order; a format from its keyword, or from
an object with that one name and `null`.
-/

import CheatCode.Format
import CheatCode.Json.Value
import CheatCode.Patch

namespace CheatCode

namespace Json

/-- The value of the one member of a name, if there is one and no other of that name. -/
def member? (members : List (Option String × Value)) (name : String) : Option Value :=
  match members.filter (·.1 = some name) with
  | [(_, value)] => some value
  | _ => none

/-- The fields of a record, in order. -/
def fields? (names : List String) : Value → Option (List Value)
  | .array items => if items.length = names.length then some items else none
  | .object members =>
    if members.all (·.1.isSome) then names.mapM (member? members) else none
  | _ => none

/-- The natural number that a value is, if it is below a bound. -/
def natural? (bound : Nat) : Value → Option Nat
  | .number (some n) => if n < bound then some n else none
  | _ => none

/-- The text of a record of numbers. -/
def record (fields : List (String × Nat)) : String :=
  "\x7b" ++ ",".intercalate (fields.map fun f => "\"" ++ f.1 ++ "\":" ++ toString f.2) ++ "\x7d"

end Json

/-- The poke that a JSON value stands for. -/
def Poke.ofJson? (v : Json.Value) : Option Poke := do
  match ← Json.fields? ["address", "value"] v with
  | [address, value] =>
    some ⟨UInt64.ofNat (← Json.natural? UInt64.size address),
      UInt8.ofNat (← Json.natural? UInt8.size value)⟩
  | _ => none

/-- The JSON text of a poke. -/
def Poke.toJson (p : Poke) : String :=
  Json.record [("address", p.address.toNat), ("value", p.value.toNat)]

/-- The patch that a JSON value stands for. -/
def Patch.ofJson? (v : Json.Value) : Option Patch := do
  match ← Json.fields? ["address", "width", "value"] v with
  | [address, width, value] =>
    some ⟨UInt64.ofNat (← Json.natural? UInt64.size address),
      UInt64.ofNat (← Json.natural? UInt64.size width),
      UInt64.ofNat (← Json.natural? UInt64.size value)⟩
  | _ => none

/-- The JSON text of a patch. -/
def Patch.toJson (p : Patch) : String :=
  Json.record
    [("address", p.address.toNat), ("width", p.width.toNat), ("value", p.value.toNat)]

/-- The format that a JSON value stands for. -/
def Format.ofJson? : Json.Value → Option Format
  | .string (some keyword) => Format.ofKeyword? keyword
  | .object [(some keyword, .null)] => Format.ofKeyword? keyword
  | _ => none

/-- The JSON text of a format. -/
def Format.toJson (format : Format) : String := "\"" ++ format.keyword ++ "\""

end CheatCode
