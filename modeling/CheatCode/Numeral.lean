/-
# Numerals

Whole numbers written in base ten or sixteen.

A reader takes digits from the left and stops at the first fault, so that of two faults in one
numeral the earlier one is reported: `tooLarge` as soon as the digits read so far denote a number
out of range, `invalidDigit` at a character that is no digit.  One leading `+` is allowed before a
digit; a sign alone is an invalid digit.

| spelling | base 16, below `2 ^ 64` |
| --- | --- |
| `7E0010`, `7e0010`, `+7E0010` | the number |
| empty | `empty` |
| `+`, `-1`, `12g` | `invalidDigit` |
| `10000000000000000g` | `tooLarge` |
-/

namespace CheatCode
namespace Numeral

/-- Why a text is no numeral of the wanted range. -/
inductive Fault where
  | empty
  | invalidDigit
  | tooLarge
  | tooSmall
  deriving DecidableEq, Repr

/-- The wording of a fault. -/
def Fault.message : Fault → String
  | .empty => "cannot parse integer from empty string"
  | .invalidDigit => "invalid digit found in string"
  | .tooLarge => "number too large to fit in target type"
  | .tooSmall => "number too small to fit in target type"

/-- The value of a hexadecimal digit of either case. -/
def digitValue? (c : Char) : Option Nat :=
  if '0' ≤ c ∧ c ≤ '9' then some (c.toNat - '0'.toNat)
  else if 'A' ≤ c ∧ c ≤ 'F' then some (c.toNat - 'A'.toNat + 10)
  else if 'a' ≤ c ∧ c ≤ 'f' then some (c.toNat - 'a'.toNat + 10)
  else none

/-- The value of a digit of the given base, at most sixteen. -/
def digit? (base : Nat) (c : Char) : Option Nat :=
  (digitValue? c).filter (· < base)

/-- The number that a row of digits denotes after `acc`, or `none` if one of them is no digit. -/
def value? (base acc : Nat) : List Char → Option Nat
  | [] => some acc
  | c :: cs => (digit? base c).bind fun d => value? base (acc * base + d) cs

/-- Reads digits to the end of the text, keeping the number below `bound`. -/
def readDigits (base bound acc : Nat) : List Char → Except Fault Nat
  | [] => .ok acc
  | c :: cs =>
    match digit? base c with
    | none => .error .invalidDigit
    | some d =>
      if acc * base + d < bound then readDigits base bound (acc * base + d) cs
      else .error .tooLarge

/-- Reads a number below `bound`: digits, with at most one `+` before them. -/
def read (base bound : Nat) : List Char → Except Fault Nat
  | [] => .error .empty
  | '+' :: c :: cs => readDigits base bound 0 (c :: cs)
  | c :: cs => readDigits base bound 0 (c :: cs)

/-- What signed numbers of 64 bits stay below. -/
def signedBound : Nat := 0x8000000000000000

/-- Reads a number from `-bound` to `bound - 1`: digits, with at most one sign before them. -/
def readSigned (base bound : Nat) : List Char → Except Fault Int
  | '-' :: c :: cs =>
    match readDigits base (bound + 1) 0 (c :: cs) with
    | .ok n => .ok (-(n : Int))
    | .error .tooLarge => .error .tooSmall
    | .error fault => .error fault
  | cs => (read base bound cs).map Int.ofNat

/-- The text without one leading `0x` or `0X`. -/
def dropHexMark : List Char → List Char
  | '0' :: 'x' :: cs => cs
  | '0' :: 'X' :: cs => cs
  | cs => cs

/-- Reads a 64-bit number in base sixteen, with or without a mark. -/
def readHex (text : String) : Except Fault UInt64 :=
  (read 16 UInt64.size (dropHexMark text.toList)).map UInt64.ofNat

/-- The number below `bound` that a token spells in base sixteen, zero if there is no token, it is
no numeral of 64 bits or its number is out of range. -/
def hexOrZero (bound : Nat) : Option (List Char) → Nat
  | none => 0
  | some token =>
    match read 16 UInt64.size token with
    | .ok n => if n < bound then n else 0
    | .error _ => 0

/-- Reads a 64-bit number in base ten. -/
def readDecimal (text : String) : Except Fault UInt64 :=
  (read 10 UInt64.size text.toList).map UInt64.ofNat

/-- The digits of `n` in base sixteen, letters in upper case, filled up with zeros on the left to
at least `width` digits. -/
def hex (width n : Nat) : List Char :=
  let digits := (Nat.toDigits 16 n).map Char.toUpper
  List.replicate (width - digits.length) '0' ++ digits

end Numeral
end CheatCode
