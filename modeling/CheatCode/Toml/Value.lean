/-
# Values of a settings file

A document is a table: names with their values.  How a table came to be decides what may still be
added to it:

| kind | comes from | may be added to by |
| --- | --- | --- |
| `closed` | braces | nothing |
| `defined` | a header of its own | its own lines, deeper headers |
| `implied` | a deeper header | its own header, deeper headers |
| `dotted` | a dotted name | dotted names of the same section, deeper headers |
-/

namespace CheatCode
namespace Toml

/-- How a table came to be. -/
inductive Kind where
  | closed
  | defined
  | implied
  | dotted
  deriving DecidableEq, Repr

/-- A value.  Of numbers with a fraction and of dates only their presence is kept. -/
inductive Value where
  | string (text : String)
  | integer (number : Int)
  | boolean (truth : Bool)
  | float
  | date
  | array (items : List Value)
  | table (kind : Kind) (entries : List (String × Value))
  /-- Tables under one repeated header. -/
  | tables (elements : List (List (String × Value)))
  deriving Repr, Inhabited

/-- The entries of a table: names with their values, each name once. -/
abbrev Entries := List (String × Value)

namespace Entries

/-- The entries with the value of one name put in, in its place if it has one, else at the end. -/
def set (entries : Entries) (name : String) (value : Value) : Entries :=
  match entries with
  | [] => [(name, value)]
  | (n, v) :: rest => if n = name then (n, value) :: rest else (n, v) :: set rest name value

/-- Changes the table that a path of names leads to.  A table that is not there yet is made, of
kind `made`; the last of repeated tables stands for all.  A dotted name does not lead into a table
that has a header. -/
def descend (made : Kind) (change : Kind → Entries → Option Entries) :
    Kind → List String → Entries → Option Entries
  | kind, [], entries => change kind entries
  | _, name :: path, entries =>
    match entries.lookup name with
    | none => do
      let inner ← descend made change made path []
      some (entries.set name (.table made inner))
    | some (.table .closed _) => none
    | some (.table kind inner) =>
      if made = .dotted ∧ kind = .defined then none
      else do
        let inner ← descend made change kind path inner
        some (entries.set name (.table kind inner))
    | some (.tables elements) =>
      match elements.getLast? with
      | none => none
      | some last => do
        let last ← descend made change .defined path last
        some (entries.set name (.tables (elements.dropLast ++ [last])))
    | some _ => none

/-- Gives a value to a name with no value yet, in the table that a dotted path leads to.  That
table has to be one that dotted names made, or the one that the path starts from. -/
def assign (entries : Entries) (path : List String) (name : String) (value : Value) :
    Option Entries :=
  descend .dotted (fun kind inner =>
    if (kind = .dotted) = (path = []) then none
    else if (inner.lookup name).isSome then none
    else some (inner.set name value)) .defined path entries

end Entries
end Toml
end CheatCode
