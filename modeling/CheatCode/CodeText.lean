/-
# Code texts

A code text holds one code a line.  Lines that are no codes are skipped, each with a report of its
own, and change nothing for the others.
-/

import CheatCode.Poke
import CheatCode.Text.Lines
import CheatCode.Traced

namespace CheatCode
namespace CodeText

/-- The pokes of a text, in the order of its lines. -/
def pokes (text : String) : List Poke :=
  ((Text.lines text.toList).filter Poke.isCode).map Poke.ofWords

/-- The lines of a text that are no codes. -/
def skipped (text : String) : List (List Char) :=
  (Text.lines text.toList).filter fun line => !Poke.isCode line

/-- Reads a text: its pokes, with a report of each line skipped. -/
def read (text : String) : Traced (List Poke) where
  value := pokes text
  trace := ((skipped text).map fun line => Moment.event (.skipped line)).toArray

/-- The address of the first poke of a text, zero if it has none. -/
def firstAddress (text : String) : Traced UInt64 := do
  let codes ← read text
  return match codes with
    | [] => 0
    | first :: _ => first.address

end CodeText
end CheatCode
