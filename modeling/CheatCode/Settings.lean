/-
# Settings

The settings file gives defaults for what the command line leaves open.  Each setting may be set
or not.  A file that is missing, is no document or sets one of them to something unfit counts as
one that sets none.

| name | value |
| --- | --- |
| `variant` | a format's keyword; a table of that one name whose value is an empty table or array |
| `interval-ms`, `base-address` | an integer from 0 to `2 ^ 63 - 1` |
| `cycles` | an integer from 0 to `2 ^ 32 - 1` |
| `log-dir` | a string |
-/

import CheatCode.Format
import CheatCode.Toml.Document

namespace CheatCode

/-- Settings; `none` where one is not set. -/
structure Settings where
  format : Option Format := none
  intervalMs : Option UInt64 := none
  cycles : Option UInt32 := none
  baseAddress : Option UInt64 := none
  logDir : Option String := none
  deriving DecidableEq, Repr, Inhabited

namespace Settings

/-- Where the settings are read from if the command line names no file. -/
def defaultPath : String := "parcheat.toml"

/-- The time between two cycles if nothing sets it. -/
def defaultIntervalMs : UInt64 := 16

/-- The number of cycles if nothing sets it. -/
def defaultCycles : UInt32 := 60

/-- The address of the first byte of a memory image if nothing sets it. -/
def defaultBaseAddress : UInt64 := 0x7E0000

/-- Whether a value has nothing in it. -/
def isEmpty : Toml.Value → Bool
  | .table _ entries => entries.isEmpty
  | .array items => items.isEmpty
  | _ => false

/-- The format that a value names. -/
def format? : Toml.Value → Option Format
  | .string text => Format.ofKeyword? text
  | .table _ [(name, value)] => if isEmpty value then Format.ofKeyword? name else none
  | _ => none

/-- The number that a value is, if it is below a bound. -/
def number? (bound : Nat) : Toml.Value → Option Nat
  | .integer n => if 0 ≤ n ∧ n < bound then some n.toNat else none
  | _ => none

/-- The text that a value is. -/
def text? : Toml.Value → Option String
  | .string text => some text
  | _ => none

/-- One setting of a document: `none` if its value is unfit, `some none` if it is not set. -/
def field {α : Type} (entries : Toml.Entries) (name : String) (read : Toml.Value → Option α) :
    Option (Option α) :=
  match entries.lookup name with
  | none => some none
  | some value => (read value).map some

/-- The settings of a document, if none is unfit. -/
def ofEntries? (entries : Toml.Entries) : Option Settings := do
  let format ← field entries "variant" format?
  let intervalMs ← field entries "interval-ms" fun v => (number? UInt64.size v).map UInt64.ofNat
  let cycles ← field entries "cycles" fun v => (number? UInt32.size v).map UInt32.ofNat
  let baseAddress ← field entries "base-address" fun v => (number? UInt64.size v).map UInt64.ofNat
  let logDir ← field entries "log-dir" text?
  some { format, intervalMs, cycles, baseAddress, logDir }

/-- The settings of a file's content. -/
def ofBytes (content : ByteArray) : Settings :=
  (do ofEntries? (← Toml.parse? (← String.fromUTF8? content))).getD {}

end Settings
end CheatCode
