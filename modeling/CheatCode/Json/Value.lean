/-
# Values of a JSON text

A text is one value, with white space around it and between its parts.  Of a number only what the
records of this library need is kept: its value if it is a natural number in plain digits, and
`none` if it has a sign, a fraction or an exponent.  A string is `none` if its escapes name half of
a pair of surrogates without the other half.
-/

import CheatCode.Numeral
import CheatCode.Text.Reader

namespace CheatCode
namespace Json

open Text (Reader)
open Text.Reader

/-- A value. -/
inductive Value where
  | null
  | boolean (truth : Bool)
  | number (natural : Option Nat)
  | string (text : Option String)
  | array (items : List Value)
  | object (members : List (Option String × Value))
  deriving Repr, Inhabited

/-- White space. -/
def space : Reader Unit := discard (span fun c => c = ' ' || c = '\n' || c = '\t' || c = '\r')

/-! ## Strings -/

/-- A character of a string, or half of a pair of surrogates. -/
inductive Piece where
  | char (c : Char)
  | half (code : Nat)
  deriving DecidableEq, Repr

/-- Four hexadecimal digits. -/
def codeUnit : Reader Piece := fun
  | a :: b :: c :: d :: cs =>
    match Numeral.value? 16 0 [a, b, c, d] with
    | some n => some (if n.isValidChar then .char (Char.ofNat n) else .half n, cs)
    | none => none
  | _ => none

/-- What follows the backslash of an escape. -/
def escaped : Reader Piece := fun
  | '"' :: cs => some (.char '"', cs)
  | '\\' :: cs => some (.char '\\', cs)
  | '/' :: cs => some (.char '/', cs)
  | 'b' :: cs => some (.char '\x08', cs)
  | 'f' :: cs => some (.char '\x0c', cs)
  | 'n' :: cs => some (.char '\n', cs)
  | 'r' :: cs => some (.char '\r', cs)
  | 't' :: cs => some (.char '\t', cs)
  | 'u' :: cs => codeUnit cs
  | _ => none

/-- One piece of a string. -/
def piece : Reader Piece :=
  (do return .char (← next fun c => c.toNat ≥ 0x20 && c ≠ '"' && c ≠ '\\'))
  <|> do char '\\'; escaped

/-- The characters of some pieces: a high half and the low half after it are one character, and no
half stands alone. -/
def join : List Piece → Option (List Char)
  | [] => some []
  | .char c :: rest => (join rest).map (c :: ·)
  | .half high :: .half low :: rest =>
    if high < 0xDC00 ∧ 0xDC00 ≤ low then
      (join rest).map (Char.ofNat (0x10000 + (high - 0xD800) * 0x400 + (low - 0xDC00)) :: ·)
    else none
  | .half _ :: _ => none

/-- A string. -/
def string : Reader (Option String) := do
  char '"'
  let pieces ← many piece
  char '"'
  return (join pieces).map String.ofList

/-! ## Numbers -/

/-- One decimal digit or more. -/
def digits : Reader (List Char) := do
  let first ← next Char.isDigit
  return first :: (← span Char.isDigit)

/-- A number. -/
def number : Reader Value := do
  let minus ← maybe (char '-')
  let whole ← (do char '0'; return ['0']) <|> digits
  let fraction ← maybe do char '.'; digits
  let exponent ← maybe do
    discard (next fun c => c = 'e' || c = 'E')
    discard (maybe (next fun c => c = '+' || c = '-'))
    digits
  return .number <|
    if minus.isNone && fraction.isNone && exponent.isNone then Numeral.value? 10 0 whole else none

/-! ## Values -/

/-- A value that holds no others. -/
def scalar : Reader Value :=
  (do literal ['n', 'u', 'l', 'l']; return .null)
  <|> (do literal ['t', 'r', 'u', 'e']; return .boolean true)
  <|> (do literal ['f', 'a', 'l', 's', 'e']; return .boolean false)
  <|> (do return .string (← string))
  <|> number

/-- An array of items. -/
def array (item : Reader Value) : Reader Value := do
  char '['
  let items ← separated (do space; let value ← item; space; return value) (char ',')
  space
  char ']'
  return .array items

/-- An object of members. -/
def object (item : Reader Value) : Reader Value := do
  char '\x7b'
  let members ← separated (do
    space
    let name ← string
    space
    char ':'
    space
    let value ← item
    space
    return (name, value)) (char ',')
  space
  char '\x7d'
  return .object members

/-- A value in which arrays and objects stand in each other at most so deep. -/
def value : Nat → Reader Value
  | 0 => scalar
  | depth + 1 => scalar <|> array (value depth) <|> object (value depth)

/-- The value of a text.  Nothing can stand deeper in a text than the text is long. -/
def parse? (text : String) : Option Value :=
  let cs := text.toList
  whole (do space; let v ← value cs.length; space; return v) cs

end Json
end CheatCode
