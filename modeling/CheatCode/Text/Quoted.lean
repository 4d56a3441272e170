/-
# Quoted text

A text between double quotes, on one line, with nothing in it that a terminal could not show:

| character | written |
| --- | --- |
| `"`, `\` | the character after a backslash |
| tab, carriage return, line feed, null | `\t`, `\r`, `\n`, `\0` |
| combining or unprintable | `\u{h}`, `h` its code point in lower-case hexadecimal |
| any other | as it is |
-/

import CheatCode.Text.Combining
import CheatCode.Text.Unprintable

namespace CheatCode
namespace Text

/-- The written form of one character between double quotes. -/
def escape (c : Char) : List Char :=
  if c = '"' then ['\\', '"']
  else if c = '\\' then ['\\', '\\']
  else if c = '\t' then ['\\', 't']
  else if c = '\r' then ['\\', 'r']
  else if c = '\n' then ['\\', 'n']
  else if c.toNat = 0 then ['\\', '0']
  else if isCombining c || isUnprintable c then
    ['\\', 'u', '\x7b'] ++ Nat.toDigits 16 c.toNat ++ ['\x7d']
  else [c]

/-- A text between double quotes. -/
def quote (cs : List Char) : List Char :=
  '"' :: (cs.flatMap escape ++ ['"'])

end Text
end CheatCode
