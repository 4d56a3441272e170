/-
# Settings documents

A document is read in two stages.  Its text is a list of statements, one a line: a dotted name
gets a value, or a header opens a section.  The statements then build a table, in which no name
gets a value twice and no table is defined twice.
-/

import CheatCode.Toml.Scalar

namespace CheatCode
namespace Toml

open Text (Reader)
open Text.Reader

/-- What a line of a document says.  The path leads to the table, the name is in it. -/
inductive Statement where
  | assign (path : List String) (name : String) (value : Value)
  | section (path : List String) (name : String)
  | element (path : List String) (name : String)
  deriving Repr

/-! ## From the text to statements -/

/-- How deep arrays and tables in braces may stand in each other. -/
def depthLimit : Nat := 79

/-- One name of a dotted name. -/
def simpleName : Reader String := do
  let isBare := fun (c : Char) => c.isAlphanum || c = '-' || c = '_'
  let text ← basicString <|> literalString <|> do
    let first ← next isBare
    return first :: (← span isBare)
  return String.ofList text

/-- A dotted name, split into the path and the last name. -/
def dottedName : Reader (List String × String) := do
  let names ← separated (do blanks; let name ← simpleName; blanks; return name) (char '.')
  match names.getLast? with
  | some last => if names.length ≤ depthLimit then return (names.dropLast, last) else failure
  | none => failure

/-- What may stand between the items of an array. -/
def gap : Reader Unit :=
  discard (many (discard (next isBlank) <|> newline <|> do comment; newline))

/-- An array of items. -/
def array (item : Reader Value) : Reader Value := do
  char '['
  let items ← separated (do gap; let value ← item; gap; return value) (char ',')
  if !items.isEmpty then discard (maybe (char ','))
  gap
  char ']'
  return .array items

/-- A table in braces, on one line. -/
def bracedTable (item : Reader Value) : Reader Value := do
  char '\x7b'
  let assignments ← separated (do
    let (path, name) ← dottedName
    char '='
    blanks
    let value ← item
    blanks
    return (path, name, value)) (char ',')
  blanks
  char '\x7d'
  let entries ← assignments.foldlM (fun (entries : Entries) a => entries.assign a.1 a.2.1 a.2.2) []
  return .table .closed entries

/-- A value in which arrays and tables stand in each other at most so deep. -/
def value : Nat → Reader Value
  | 0 => scalar
  | depth + 1 => scalar <|> array (value depth) <|> bracedTable (value depth)

/-- A statement. -/
def statement : Reader Statement :=
  (do
    literal ['[', '[']
    let (path, name) ← dottedName
    literal [']', ']']
    return .element path name)
  <|> (do
    char '['
    let (path, name) ← dottedName
    char ']'
    return .section path name)
  <|> (do
    let (path, name) ← dottedName
    char '='
    blanks
    return .assign path name (← value depthLimit))

/-- A line, with a statement or without. -/
def line : Reader (Option Statement) := do
  blanks
  let content ← maybe statement
  blanks
  discard (maybe comment)
  newline <|> finish
  return content

/-- The statements of a text, which may start with a byte order mark. -/
def statements? (text : List Char) : Option (List Statement) :=
  let body := match text with
    | '\ufeff' :: rest => rest
    | _ => text
  (whole (many line) body).map (·.filterMap id)

/-! ## From statements to a table -/

/-- A header and the assignments below it; the assignments before the first header have none. -/
structure Section where
  header : Option Statement
  assignments : List (List String × String × Value)
  deriving Repr

/-- The sections of some statements. -/
def sections : List Statement → List Section
  | [] => [⟨none, []⟩]
  | .assign path name value :: rest =>
    match sections rest with
    | ⟨none, assignments⟩ :: later => ⟨none, (path, name, value) :: assignments⟩ :: later
    | later => ⟨none, [(path, name, value)]⟩ :: later
  | header :: rest =>
    match sections rest with
    | ⟨none, assignments⟩ :: later => ⟨none, []⟩ :: ⟨some header, assignments⟩ :: later
    | later => ⟨none, []⟩ :: ⟨some header, []⟩ :: later

/-- The entries of a section, added to those that its table has already. -/
def Section.body (s : Section) (entries : Entries) : Option Entries :=
  s.assignments.foldlM (fun entries a => Entries.assign entries a.1 a.2.1 a.2.2) entries

/-- Adds a section to a document.  A header may open a table that deeper headers have implied, and
no other that is there already; a repeated header adds an element to its tables. -/
def Section.addTo (root : Entries) (s : Section) : Option Entries :=
  match s.header with
  | some (.section path name) =>
    Entries.descend .implied (fun _ parent =>
      match parent.lookup name with
      | none => return parent.set name (.table .defined (← s.body []))
      | some (.table .implied inner) => return parent.set name (.table .defined (← s.body inner))
      | some _ => none) .defined path root
  | some (.element path name) =>
    Entries.descend .implied (fun _ parent =>
      match parent.lookup name with
      | none => return parent.set name (.tables [← s.body []])
      | some (.tables elements) => return parent.set name (.tables (elements ++ [← s.body []]))
      | some _ => none) .defined path root
  | _ => s.body root

/-- The table that a text stands for. -/
def parse? (text : String) : Option Entries := do
  let statements ← statements? text.toList
  (sections statements).foldlM Section.addTo []

end Toml
end CheatCode
