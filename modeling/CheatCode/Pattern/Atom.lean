/-
# Atoms of a pattern

The smallest parts of a pattern, and the switches that decide which of them may be used.

| atom | spelled |
| --- | --- |
| a character | itself, or a sign after a backslash, or `\n` and the like |
| a character by its code point | `\xhh`, `\uhhhh`, `\Uhhhhhhhh` |
| a kind of character | `\d`, `\s`, `\w`, and in upper case all others |
| a general category | `\pL`, `\PL`, with a letter of `CLMNPSZ` in any case |
| a place between words | `\b`, `\B`, `\<`, `\>` |
| a place in the text | `^`, `$`, `\A`, `\z` |
| any character | `.` |

A pattern matches texts and is run one byte at a time.  So an atom for bytes has to keep to ASCII,
lest it match half a character, and a place between words can be found among bytes only.
-/

import CheatCode.Numeral
import CheatCode.Text.WhiteSpace

namespace CheatCode
namespace Pattern

/-! ## Switches -/

/-- The switches of a pattern that bear on what may stand in it. -/
structure Flags where
  /-- White space between the parts is passed over, and so are comments (`x`). -/
  spaced : Bool := false
  /-- Upper and lower case are the same (`i`). -/
  caseless : Bool := false
  /-- The pattern is one of characters and not of bytes (`u`). -/
  unicode : Bool := true
  deriving DecidableEq, Repr

namespace Flags

/-- The letters of the switches. -/
def letters : List Char := ['i', 'm', 's', 'U', 'u', 'R', 'x']

/-- The state of a switch after a word that turns letters on and, after a minus sign, off. -/
def after (word : List Char) (letter : Char) (before : Bool) : Bool :=
  if word.contains letter then (word.takeWhile (· ≠ '-')).contains letter else before

/-- The switches after a word, in which nothing may stand twice nor the minus sign at the end. -/
def switch? (flags : Flags) (word : List Char) : Option Flags :=
  if word.all (fun c => c = '-' || letters.contains c) && word.eraseDups.length = word.length
      && word.getLast? ≠ some '-' then
    some ⟨after word 'x' flags.spaced, after word 'i' flags.caseless,
      after word 'u' flags.unicode⟩
  else none

end Flags

/-! ## White space and comments -/

/-- The text without the white space and the comments at its front.  A comment begins at `#` and
ends with its line. -/
def dropSpace (inComment : Bool) : List Char → List Char
  | [] => []
  | c :: cs =>
    if inComment then dropSpace (c ≠ '\n') cs
    else if c = '#' then dropSpace true cs
    else if Text.isWhiteSpace c then dropSpace false cs
    else c :: cs

/-- The text from its next part on. -/
def Flags.skip (flags : Flags) (cs : List Char) : List Char :=
  if flags.spaced then dropSpace false cs else cs

/-! ## Atoms -/

/-- A smallest part of a pattern. -/
inductive Atom where
  /-- A character; `byte` if it is spelled as one byte. -/
  | literal (c : Char) (byte : Bool)
  /-- The characters of a kind, or all others. -/
  | kind (others : Bool)
  /-- The characters of a general category. -/
  | category
  /-- A place between words. -/
  | wordPlace
  /-- A place in the text. -/
  | place
  /-- Any character. -/
  | any
  deriving DecidableEq, Repr

/-- Whether a character is one of ASCII. -/
def isAscii (c : Char) : Bool := c.toNat < 0x80

/-- Whether an atom may stand by itself. -/
def Atom.isAllowed (flags : Flags) : Atom → Bool
  | literal c byte => flags.unicode || isAscii c || !(byte || flags.caseless)
  | kind others => flags.unicode || !others
  | category | any => flags.unicode
  | wordPlace => !flags.unicode
  | place => true

/-- Whether an atom may stand in a class. -/
def Atom.isMember (flags : Flags) : Atom → Bool
  | literal c _ => flags.unicode || isAscii c
  | kind others => flags.unicode || !others
  | category => flags.unicode
  | wordPlace | place | any => false

/-- Digits in base sixteen, a number of them. -/
def hexDigits? (flags : Flags) : Nat → List Char → Option (List Char × List Char)
  | 0, cs => some ([], cs)
  | count + 1, cs =>
    match flags.skip cs with
    | [] => none
    | c :: rest => do
      let _ ← Numeral.digitValue? c
      let (digits, rest) ← hexDigits? flags count rest
      return (c :: digits, rest)

/-- A character spelled with its code point. -/
def codePoint? (flags : Flags) (count : Nat) (byte : Bool) (cs : List Char) :
    Option (Atom × List Char) := do
  let (digits, rest) ← hexDigits? flags count cs
  let code ← Numeral.value? 16 0 digits
  if code.isValidChar then return (.literal (Char.ofNat code) byte, rest) else none

/-- The letters of the general categories, in lower case. -/
def categories : List Char := ['c', 'l', 'm', 'n', 'p', 's', 'z']

/-- A general category by its letter. -/
def category? (flags : Flags) (cs : List Char) : Option (Atom × List Char) :=
  match flags.skip cs with
  | c :: rest => if categories.contains c.toLower then some (.category, rest) else none
  | [] => none

/-- The atom that follows a backslash. -/
def escaped? (flags : Flags) : List Char → Option (Atom × List Char)
  | [] => none
  | c :: cs =>
    let literal c := some (.literal c false, cs)
    match c with
    | 'd' | 's' | 'w' => some (.kind false, cs)
    | 'D' | 'S' | 'W' => some (.kind true, cs)
    | 'p' | 'P' => category? flags cs
    | 'b' | 'B' | '<' | '>' => some (.wordPlace, cs)
    | 'A' | 'z' => some (.place, cs)
    | 'x' => codePoint? flags 2 true cs
    | 'u' => codePoint? flags 4 false cs
    | 'U' => codePoint? flags 8 false cs
    | 'a' => literal '\x07'
    | 'f' => literal '\x0c'
    | 'n' => literal '\n'
    | 'r' => literal '\r'
    | 't' => literal '\t'
    | 'v' => literal '\x0b'
    | c => if isAscii c && !c.isAlphanum then literal c else none

end Pattern
end CheatCode
