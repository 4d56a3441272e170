/-
# Patterns

A pattern is a regular expression.  No pattern is ever run here, so a text is read only to tell
whether it is a pattern at all: whether its parts are spelled right, may be used under the switches
in force, and are not nested too deep.

| part | spelled |
| --- | --- |
| one part after the other | side by side |
| one of several alternatives | with a bar between them |
| any number of times, at least once, at most once | `*`, `+`, `?` after the part |
| the same, but as few times as possible | `*?`, `+?`, `??` |
| a group | `(…)` |
| a group with a name of its own | `(?<NAME>…)`, `(?P<NAME>…)` |
| a group under other switches | `(?SWITCHES:…)` |
| other switches up to the end of the group | `(?SWITCHES)` |

The smallest parts are atoms and classes.  An opening brace is none: outside a class it has to
follow a backslash.
-/

import CheatCode.Pattern.Class
import CheatCode.Text.Alphanumeric

namespace CheatCode
namespace Pattern

/-- A group up to the place that the reader has reached. -/
structure Group where
  /-- The depths of the alternatives that are complete. -/
  alternatives : List Nat := []
  /-- The depths of the parts of the last alternative, the latest first; none for switches, which
  cannot be repeated. -/
  parts : List (Option Nat) := []

namespace Group

/-- The depth of what is in the group. -/
def depth (group : Group) : Nat :=
  depthOf (depthOf (group.parts.map (·.getD 0)) :: group.alternatives)

/-- One part more. -/
def push (group : Group) (part : Option Nat) : Group :=
  { group with parts := part :: group.parts }

/-- The group at the start of another alternative. -/
def alternate (group : Group) : Group :=
  ⟨depthOf (group.parts.map (·.getD 0)) :: group.alternatives, []⟩

/-- The group with its last part repeated. -/
def repeat? (group : Group) : Option Group :=
  match group.parts with
  | some depth :: parts => some { group with parts := some (depth + 1) :: parts }
  | _ => none

end Group

/-- How far a pattern has been read: the switches in force, the names given so far, the innermost
group, and those around it with the switches in force there. -/
structure Reading where
  flags : Flags := {}
  names : List (List Char) := []
  group : Group := {}
  outer : List (Flags × Group) := []

namespace Reading

/-- The reading after a part. -/
def push (reading : Reading) (part : Option Nat) : Reading :=
  { reading with group := reading.group.push part }

/-- The reading at the start of a group under some switches. -/
def enter (reading : Reading) (flags : Flags) : Reading :=
  ⟨flags, reading.names, {}, (reading.flags, reading.group) :: reading.outer⟩

/-- The reading after the innermost group. -/
def leave? (reading : Reading) : Option Reading :=
  match reading.outer with
  | [] => none
  | (flags, group) :: outer =>
    some ⟨flags, reading.names, group.push (some (reading.group.depth + 1)), outer⟩

end Reading

/-- Whether a character may stand in a name after the first. -/
def isNameChar (c : Char) : Bool :=
  ['_', '.', '[', ']'].contains c || Text.isAlphanumeric c

/-- Whether a text is a name. -/
def isName : List Char → Bool
  | [] => false
  | c :: cs => (c == '_' || Text.isAlphabetic c) && cs.all isNameChar

/-- Enters a group with a name of its own, from the name on. -/
def named? (reading : Reading) (cs : List Char) : Option (Reading × List Char) :=
  let name := cs.takeWhile (· ≠ '>')
  match cs.dropWhile (· ≠ '>') with
  | _ :: rest =>
    if isName name && !reading.names.contains name then
      some ({ reading with names := name :: reading.names }.enter reading.flags, rest)
    else none
  | [] => none

/-- Turns switches for a group or for the rest of one, from the switches on. -/
def switched? (reading : Reading) (cs : List Char) : Option (Reading × List Char) := do
  let word := cs.takeWhile fun c => c ≠ ':' && c ≠ ')'
  let flags ← reading.flags.switch? word
  match cs.dropWhile fun c => c ≠ ':' && c ≠ ')' with
  | ':' :: rest => return (reading.enter flags, rest)
  | ')' :: rest =>
    if word.isEmpty then none
    else return ({ reading with flags := flags }.push none, rest)
  | _ => none

/-- Reads on after an opening parenthesis. -/
def opening? (reading : Reading) (cs : List Char) : Option (Reading × List Char) :=
  match reading.flags.skip cs with
  | '?' :: 'P' :: '<' :: rest => named? reading rest
  | '?' :: '<' :: rest => named? reading rest
  | '?' :: rest => switched? reading rest
  | rest => some (reading.enter reading.flags, rest)

/-- Reads past an atom. -/
def atom? (reading : Reading) (atom : Atom) (rest : List Char) : Option (Reading × List Char) :=
  if atom.isAllowed reading.flags then some (reading.push (some 0), rest) else none

/-- Reads past the next sign of a pattern. -/
def step? (reading : Reading) : List Char → Option (Reading × List Char)
  | [] => none
  | '(' :: cs => opening? reading cs
  | ')' :: cs => reading.leave?.map (·, cs)
  | '|' :: cs => some ({ reading with group := reading.group.alternate }, cs)
  | '[' :: cs => do
    let (depth, rest) ← class? reading.flags cs
    return (reading.push (some depth), rest)
  | '\\' :: cs => do
    let (atom, rest) ← escaped? reading.flags cs
    atom? reading atom rest
  | '.' :: cs => atom? reading .any cs
  | c :: cs =>
    if ['*', '+', '?'].contains c then do
      let group ← reading.group.repeat?
      return ({ reading with group := group }, if cs.head? = some '?' then cs.drop 1 else cs)
    else if c = '\x7b' then none
    else if c = '^' || c = '$' then atom? reading .place cs
    else atom? reading (.literal c false) cs

/-- Reads a pattern to its end. -/
def read? (reading : Reading) (cs : List Char) : Option Reading :=
  match reading.flags.skip cs with
  | [] => some reading
  | ahead =>
    match step? reading ahead with
    | none => none
    | some (reading, rest) => if rest.length < cs.length then read? reading rest else none
termination_by cs.length

/-- How deep the parts of a pattern may be nested. -/
def depthLimit : Nat := 250

/-- Whether a text is a pattern. -/
def isPattern (cs : List Char) : Bool :=
  match read? {} cs with
  | some reading => reading.outer.isEmpty && reading.group.depth ≤ depthLimit
  | none => false

end Pattern
end CheatCode
