/-
# Pokes

A poke puts one byte at one address.  Written as a code it is one line: the address in at least
six hexadecimal digits, a blank, the byte in two.  Codes are read more strictly than they are
written: exactly six digits, of either case, so an address from `2 ^ 24` on has a written form
that is no code.
-/

import CheatCode.Numeral
import CheatCode.Text.Lines

namespace CheatCode

/-- One byte for one address. -/
structure Poke where
  address : UInt64
  value : UInt8
  deriving DecidableEq, Repr, Inhabited

namespace Poke

/-- The line that stands for a poke. -/
def line (p : Poke) : List Char :=
  Numeral.hex 6 p.address.toNat ++ ' ' :: Numeral.hex 2 p.value.toNat

/-- Whether a line is a code: six hexadecimal digits, a blank, two hexadecimal digits, and nothing
else. -/
def isCode : List Char → Bool
  | [a, b, c, d, e, f, ' ', x, y] =>
    [a, b, c, d, e, f, x, y].all fun digit => (Numeral.digitValue? digit).isSome
  | _ => false

/-- The poke that the first two words of a line spell: a word that is missing, unreadable or too
large counts as zero. -/
def ofWords (line : List Char) : Poke :=
  let words := Text.fields ' ' line
  { address := UInt64.ofNat (Numeral.hexOrZero UInt64.size words[0]?)
    value := UInt8.ofNat (Numeral.hexOrZero UInt8.size words[1]?) }

end Poke
end CheatCode
