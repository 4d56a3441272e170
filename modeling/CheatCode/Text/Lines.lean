/-
# Lines of a text

A line ends at a line feed; one carriage return directly before that line feed belongs to the end
of the line.  A carriage return anywhere else, also at the end of the text, is a character of its
line.  Nothing follows the last line feed: a text that ends with one has no empty last line.
-/

namespace CheatCode
namespace Text

/-- The lines of a text, without their ends. -/
def lines : List Char → List (List Char)
  | [] => []
  | '\n' :: cs => [] :: lines cs
  | '\r' :: '\n' :: cs => [] :: lines cs
  | c :: cs =>
    match lines cs with
    | [] => [[c]]
    | line :: rest => (c :: line) :: rest

/-- The fields of a text between the separators: one more than there are separators. -/
def fields (separator : Char) : List Char → List (List Char)
  | [] => [[]]
  | c :: cs =>
    if c = separator then [] :: fields separator cs
    else
      match fields separator cs with
      | [] => [[c]]
      | field :: rest => (c :: field) :: rest

end Text
end CheatCode
