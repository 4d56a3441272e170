/-
# Tame text

A text that is safe to show: the control characters that a terminal takes for a command, or for
the start of one, are spelled out.

| character | shown |
| --- | --- |
| bell, backspace, form feed, escape, delete | `\xhh`, `hh` its code point in hexadecimal |
| the controls from `U+0080` to `U+009F` | `\u{hh}` |
| any other, line feeds included | as it is |
-/

namespace CheatCode
namespace Text

/-- The single characters that are spelled out. -/
def wildChars : List Char := ['\x07', '\x08', '\x0c', '\x1b', '\x7f']

/-- The safe form of one character. -/
def tameChar (c : Char) : List Char :=
  let digits := [Nat.digitChar (c.toNat / 16), Nat.digitChar (c.toNat % 16)]
  if wildChars.contains c then '\\' :: 'x' :: digits
  else if 0x80 ≤ c.toNat ∧ c.toNat ≤ 0x9F then ['\\', 'u', '\x7b'] ++ digits ++ ['\x7d']
  else [c]

/-- The safe form of a text. -/
def tame (cs : List Char) : List Char := cs.flatMap tameChar

end Text
end CheatCode
