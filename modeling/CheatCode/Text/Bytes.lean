/-
# Cuts at bytes

Characters take one to four bytes in UTF-8.  A cut at a number of bytes is one between two
characters, or there is none.
-/

namespace CheatCode
namespace Text

/-- How many bytes a text takes. -/
def byteCount : List Char → Nat
  | [] => 0
  | c :: cs => c.utf8Size + byteCount cs

/-- What follows the first bytes of a text. -/
def dropBytes? : Nat → List Char → Option (List Char)
  | 0, cs => some cs
  | _ + 1, [] => none
  | count + 1, c :: cs =>
    if c.utf8Size ≤ count + 1 then dropBytes? (count + 1 - c.utf8Size) cs else none

/-- The first bytes of a text. -/
def takeBytes? : Nat → List Char → Option (List Char)
  | 0, _ => some []
  | _ + 1, [] => none
  | count + 1, c :: cs =>
    if c.utf8Size ≤ count + 1 then (takeBytes? (count + 1 - c.utf8Size) cs).map (c :: ·) else none

end Text
end CheatCode
