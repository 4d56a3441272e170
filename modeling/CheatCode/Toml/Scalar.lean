/-
# Strings, numbers and dates of a settings file

| form | for instance |
| --- | --- |
| string | `"a\tb"`, `'a\b'`, and over several lines between three quotes each |
| integer, 64 bits with sign | `10`, `+1_000`, `0xFF`, `0o17`, `0b101` |
| number with a fraction | `1.5`, `1e3`, `-inf`, `nan` |
| date and time | `1979-05-27T07:32:00Z`, `1979-05-27`, `07:32:00.5` |

Between two digits of a number one underscore may stand.  A number with a fraction has to be below
infinity once it is rounded to double precision.
-/

import CheatCode.Numeral
import CheatCode.Text.Reader
import CheatCode.Toml.Value

namespace CheatCode
namespace Toml

open Text (Reader)
open Text.Reader

/-! ## Characters -/

/-- Blank and tab. -/
def isBlank (c : Char) : Bool := c = ' ' || c = '\t'

/-- What may stand in a comment or, unescaped, in some string: no control but the tab. -/
def isPlain (c : Char) : Bool := c = '\t' || (c.toNat ≥ 0x20 && c.toNat ≠ 0x7F)

/-- Blanks, as many as there are. -/
def blanks : Reader Unit := discard (span isBlank)

/-- The end of a line. -/
def newline : Reader Unit := char '\n' <|> literal ['\r', '\n']

/-- A comment, up to the end of its line. -/
def comment : Reader Unit := do
  char '#'
  discard (span isPlain)

/-! ## Strings -/

/-- A character given by so many hexadecimal digits. -/
def codePoint (digits : Nat) : Reader Char := fun cs =>
  let code := cs.take digits
  if code.length = digits then
    match Numeral.value? 16 0 code with
    | some n => if n.isValidChar then some (Char.ofNat n, cs.drop digits) else none
    | none => none
  else none

/-- What follows the backslash of an escape. -/
def escaped : Reader Char := fun
  | 'b' :: cs => some ('\x08', cs)
  | 't' :: cs => some ('\t', cs)
  | 'n' :: cs => some ('\n', cs)
  | 'f' :: cs => some ('\x0c', cs)
  | 'r' :: cs => some ('\r', cs)
  | '"' :: cs => some ('"', cs)
  | '\\' :: cs => some ('\\', cs)
  | 'u' :: cs => codePoint 4 cs
  | 'U' :: cs => codePoint 8 cs
  | _ => none

/-- A character of a string between double quotes. -/
def basicChar : Reader Char :=
  next (fun c => isPlain c && c ≠ '"' && c ≠ '\\') <|> do char '\\'; escaped

/-- A character of a string between single quotes. -/
def literalChar : Reader Char := next fun c => isPlain c && c ≠ '\''

/-- A string on one line between double quotes. -/
def basicString : Reader (List Char) := do
  char '"'
  let text ← many basicChar
  char '"'
  return text

/-- A string on one line between single quotes. -/
def literalString : Reader (List Char) := do
  char '\''
  let text ← many literalChar
  char '\''
  return text

/-- One or two quotes inside a string that ends with three. -/
def innerQuotes (quote : Char) : Reader (List Char) := fun
  | a :: b :: c :: cs =>
    if a = quote ∧ b = quote ∧ c ≠ quote then some ([a, b], c :: cs)
    else if a = quote ∧ b ≠ quote then some ([a], b :: c :: cs)
    else none
  | [a, b] => if a = quote ∧ b ≠ quote then some ([a], [b]) else none
  | _ => none

/-- Three quotes that end a string; up to two more before them belong to it. -/
def closingQuotes (quote : Char) : Reader (List Char) :=
  (do literal (List.replicate 5 quote); return [quote, quote])
  <|> (do literal (List.replicate 4 quote); return [quote])
  <|> (do literal (List.replicate 3 quote); return [])

/-- A backslash at the end of a line: it takes the line's end and all blanks and line ends after
that out of the string. -/
def lineContinuation : Reader Unit := do
  char '\\'
  blanks
  newline
  discard (many (discard (next isBlank) <|> newline))

/-- A string over several lines; `piece` reads what it holds besides quotes and line ends, and each
line end counts as one line feed. -/
def longString (quote : Char) (piece : Reader (List Char)) : Reader (List Char) := do
  literal (List.replicate 3 quote)
  discard (maybe newline)
  let pieces ← many (piece <|> (do newline; return ['\n']) <|> innerQuotes quote)
  let closing ← closingQuotes quote
  return pieces.flatten ++ closing

/-- A string of any form. -/
def string : Reader (List Char) :=
  longString '"' ((do lineContinuation; return []) <|> (do return [← basicChar]))
  <|> basicString
  <|> longString '\'' (do return [← literalChar])
  <|> literalString

/-! ## Numbers -/

/-- Digits of a base, an underscore allowed between two of them. -/
def digitRun (base : Nat) : Reader (List Char) := do
  let isDigit := fun c => (Numeral.digit? base c).isSome
  let first ← next isDigit
  let rest ← many ((do char '_'; next isDigit) <|> next isDigit)
  return first :: rest

/-- The sign before a number: whether it is negative. -/
def sign : Reader Bool :=
  (do char '-'; return true) <|> (do char '+'; return false) <|> return false

/-- A decimal numeral without a leading zero, and whether it is negative. -/
def decimal : Reader (Bool × List Char) := do
  let negative ← sign
  let digits ← (do char '0'; return ['0']) <|> digitRun 10
  return (negative, digits)

/-- The integer of some digits, if it has 64 bits. -/
def integerOf (negative : Bool) (base : Nat) (digits : List Char) : Option Value := do
  let magnitude ← Numeral.value? base 0 digits
  let number : Int := if negative then -(magnitude : Int) else magnitude
  if -(Numeral.signedBound : Int) ≤ number ∧ number < Numeral.signedBound then
    some (.integer number)
  else none

/-- An integer marked with its base. -/
def markedInteger (mark : Char) (base : Nat) : Reader Value := do
  literal ['0', mark]
  let digits ← digitRun base
  integerOf false base digits

/-- An integer. -/
def integer : Reader Value :=
  markedInteger 'x' 16 <|> markedInteger 'o' 8 <|> markedInteger 'b' 2 <|> do
    let (negative, digits) ← decimal
    integerOf negative 10 digits

/-- Half way from the greatest number of double precision to the next power of two: from here on a
number rounds to infinity. -/
def floatBound : Nat := (Nat.pow 2 54 - 1) * Nat.pow 2 970

/-- Whether the number `digits * 10 ^ exponent` rounds to infinity.  It has `magnitude` digits
before its point, which alone decides all but a few cases. -/
def roundsToInfinity (digits : Nat) (exponent : Int) : Bool :=
  if digits = 0 then false
  else
    let magnitude := ((Nat.toDigits 10 digits).length : Int) + exponent
    if magnitude > 310 then true
    else if magnitude < 300 then false
    else if exponent ≥ 0 then digits * Nat.pow 10 exponent.toNat ≥ floatBound
    else digits ≥ floatBound * Nat.pow 10 (-exponent).toNat

/-- The exponent of a number. -/
def exponent : Reader Int := do
  discard (next fun c => c = 'e' || c = 'E')
  let negative ← sign
  let digits ← digitRun 10
  let magnitude ← Numeral.value? 10 0 digits
  return if negative then -(magnitude : Int) else magnitude

/-- A number with a fraction, an exponent or both. -/
def finiteFloat : Reader Value := do
  let (negative, whole) ← decimal
  let fraction ← maybe do char '.'; digitRun 10
  let power ← match fraction with
    | none => exponent
    | some _ => (·.getD 0) <$> maybe exponent
  let part := fraction.getD []
  let digits ← Numeral.value? 10 0 (whole ++ part)
  if !negative && roundsToInfinity digits (power - part.length) then failure
  return .float

/-- A number with a fraction, or one of the two words for what is no number. -/
def float : Reader Value :=
  finiteFloat <|> do
    discard sign
    literal ['i', 'n', 'f'] <|> literal ['n', 'a', 'n']
    return .float

/-! ## Dates -/

/-- A number of exactly so many decimal digits, within bounds. -/
def numberWithin (width low high : Nat) : Reader Nat := fun cs =>
  let digits := cs.take width
  if digits.length = width then
    match Numeral.value? 10 0 digits with
    | some n => if low ≤ n ∧ n ≤ high then some (n, cs.drop width) else none
    | none => none
  else none

/-- How many days a month has. -/
def daysIn (year month : Nat) : Nat :=
  if month = 2 then
    if year % 4 = 0 ∧ (year % 100 ≠ 0 ∨ year % 400 = 0) then 29 else 28
  else if month = 4 ∨ month = 6 ∨ month = 9 ∨ month = 11 then 30
  else 31

/-- A day of the calendar. -/
def day : Reader Unit := do
  let year ← numberWithin 4 0 9999
  char '-'
  let month ← numberWithin 2 1 12
  char '-'
  discard (numberWithin 2 1 (daysIn year month))

/-- A time of day, a leap second included. -/
def time : Reader Unit := do
  discard (numberWithin 2 0 23)
  char ':'
  discard (numberWithin 2 0 59)
  char ':'
  discard (numberWithin 2 0 60)
  discard (maybe do char '.'; digitsOnly)
where
  /-- One decimal digit or more. -/
  digitsOnly : Reader Unit := do
    discard (next Char.isDigit)
    discard (span Char.isDigit)

/-- The distance of a local time from universal time. -/
def offset : Reader Unit :=
  discard (next fun c => c = 'Z' || c = 'z') <|> do
    discard (next fun c => c = '+' || c = '-')
    discard (numberWithin 2 0 23)
    char ':'
    discard (numberWithin 2 0 59)

/-- A day, a time or both. -/
def date : Reader Value := do
  (do
    day
    discard (maybe do
      discard (next fun c => c = 'T' || c = 't' || c = ' ')
      time
      maybe offset)) <|> time
  return .date

/-! ## All of them -/

/-- A truth value. -/
def boolean : Reader Value :=
  (do literal ['t', 'r', 'u', 'e']; return .boolean true)
  <|> (do literal ['f', 'a', 'l', 's', 'e']; return .boolean false)

/-- A value that holds no others. -/
def scalar : Reader Value :=
  (do return .string (String.ofList (← string)))
  <|> date <|> float <|> integer <|> boolean

end Toml
end CheatCode
