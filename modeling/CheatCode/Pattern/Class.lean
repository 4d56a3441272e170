/-
# Classes of a pattern

A class is a set of characters between square brackets.

| part | spelled |
| --- | --- |
| a character, a kind or a category | as an atom |
| a range | two characters with `-` between them, the lower one first |
| a named kind | `[:alpha:]` and the like, or `[:^alpha:]` for all others |
| a class | itself |
| common, without, in one alone | two sets with `&&`, `--` or `~~` between them |

All characters but those of a class are spelled with `^` after its bracket.  A `-` at the front of
a class stands for itself, and so does a `]` that comes first.  A class for bytes keeps to ASCII,
so it is never all characters but some.

Of what is read only the depth is kept: how far classes and operators are nested.
-/

import CheatCode.Pattern.Atom

namespace CheatCode
namespace Pattern

/-- The depth of parts side by side: one that stands alone adds none. -/
def depthOf : List Nat → Nat
  | [] => 0
  | [depth] => depth
  | depths => depths.foldl max 0 + 1

/-- A class up to the place that the reader has reached. -/
structure Bracket where
  /-- The depth of what stands before the last operator. -/
  operand : Option Nat := none
  /-- The depths of the parts since then, the latest first. -/
  parts : List Nat := []
  /-- Whether only `-` has been read so far. -/
  fresh : Bool := true

namespace Bracket

/-- The depth of the set. -/
def depth (bracket : Bracket) : Nat :=
  match bracket.operand with
  | none => depthOf bracket.parts
  | some left => max left (depthOf bracket.parts) + 1

/-- One part more. -/
def push (bracket : Bracket) (depth : Nat) : Bracket :=
  { bracket with parts := depth :: bracket.parts, fresh := false }

/-- The set so far as what stands before an operator. -/
def operate (bracket : Bracket) : Bracket := ⟨some bracket.depth, [], false⟩

end Bracket

/-- The kinds of characters that have names. -/
def kinds : List String :=
  ["alnum", "alpha", "ascii", "blank", "cntrl", "digit", "graph", "lower", "print", "punct",
    "space", "upper", "word", "xdigit"]

/-- What follows a named kind between colons and a bracket, and whether it means all others. -/
def namedKind? : List Char → Option (Bool × List Char)
  | ':' :: cs =>
    let others := cs.head? = some '^'
    let cs := if others then cs.drop 1 else cs
    match cs.dropWhile (· ≠ ':') with
    | ':' :: ']' :: rest =>
      if kinds.contains (String.ofList (cs.takeWhile (· ≠ ':'))) then some (others, rest) else none
    | _ => none
  | _ => none

/-- A character, or the atom that a backslash begins. -/
def member? (flags : Flags) : List Char → Option (Atom × List Char)
  | [] => none
  | '\\' :: cs => escaped? flags cs
  | c :: cs => some (.literal c false, cs)

/-- The character that tells a range from a `-` at the end.  In a comment nothing but white space
is passed over. -/
def beyond (flags : Flags) (cs : List Char) : Option Char :=
  if flags.spaced then
    match cs.dropWhile Text.isWhiteSpace with
    | [] => cs.head?
    | '#' :: comment =>
      match comment.dropWhile Text.isWhiteSpace with
      | [] => cs.head?
      | c :: _ => some c
    | c :: _ => some c
  else cs.head?

/-- Reads past a single member or a range of a class. -/
def range? (flags : Flags) (cs : List Char) : Option (List Char) := do
  let (first, rest) ← member? flags cs
  let single := if first.isMember flags then some rest else none
  match flags.skip rest with
  | '-' :: after =>
    if beyond flags after = some ']' || beyond flags after = some '-' then single
    else
      match first, ← member? flags (flags.skip after) with
      | .literal low lowByte, (.literal high highByte, rest) =>
        if low ≤ high && (Atom.literal low lowByte).isMember flags
            && (Atom.literal high highByte).isMember flags then
          some rest
        else none
      | _, _ => none
  | _ => single

/-- Where the reader of a class gets to: into a class, with those around it and the text ahead, or
past the outermost one, with its depth and the text after it. -/
inductive ClassStep where
  | inside (bracket : Bracket) (outer : List Bracket) (ahead : List Char)
  | closed (depth : Nat) (after : List Char)

/-- The text of a class after its bracket and the sign for all other characters. -/
def opened? (flags : Flags) (cs : List Char) : Option (List Char) :=
  match flags.skip cs with
  | '^' :: rest => if flags.unicode then some rest else none
  | rest => some rest

/-- Reads past the next part of a class. -/
def classStep? (flags : Flags) (bracket : Bracket) (outer : List Bracket) :
    List Char → Option ClassStep
  | [] => none
  | c :: cs =>
    if c = '-' && bracket.fresh then
      some (.inside { bracket.push 0 with fresh := true } outer cs)
    else if c = ']' && bracket.fresh && bracket.parts.isEmpty then
      some (.inside (bracket.push 0) outer cs)
    else if c = '[' then
      match namedKind? cs with
      | some (others, rest) =>
        if flags.unicode || !others then some (.inside (bracket.push 0) outer rest) else none
      | none => (opened? flags cs).map (.inside {} (bracket :: outer))
    else if c = ']' then
      match outer with
      | [] => some (.closed (bracket.depth + 1) cs)
      | parent :: outer => some (.inside (parent.push (bracket.depth + 1)) outer cs)
    else if ['&', '-', '~'].contains c && cs.head? = some c then
      some (.inside bracket.operate outer (cs.drop 1))
    else (range? flags (c :: cs)).map (.inside (bracket.push 0) outer)

/-- Reads a class to its end: its depth and the text after it. -/
def readClass? (flags : Flags) (bracket : Bracket) (outer : List Bracket) (cs : List Char) :
    Option (Nat × List Char) :=
  match classStep? flags bracket outer (flags.skip cs) with
  | none => none
  | some (.closed depth rest) => some (depth, rest)
  | some (.inside bracket outer rest) =>
    if rest.length < cs.length then readClass? flags bracket outer rest else none
termination_by cs.length

/-- The class that a bracket begins: its depth and the text after it. -/
def class? (flags : Flags) (cs : List Char) : Option (Nat × List Char) := do
  readClass? flags {} [] (← opened? flags cs)

end Pattern
end CheatCode
