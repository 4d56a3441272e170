/-
# Arguments of a command

How words given to a command are sorted into options, values and places.

* `--name` is an option, `--name=value` one with its value; the value of an option that needs one
  may also be the next word.  `-x` is a one-letter option.  `-` alone is a plain word.
* After a word `--` every word is a plain one.
* A plain word fills the next place, or names a command, whose own words follow.

A word is not put into the record when it is seen but when the next option, the next place or the
end shows that it is complete.  Of two faults the one that comes first in this order is reported.
-/

namespace CheatCode
namespace Arguments

/-- Why words are no command.  The first three are not mistakes: something else is asked for. -/
inductive Fault where
  /-- Help is asked for. -/
  | help
  /-- The version is asked for. -/
  | version
  /-- Nothing is said at all, which asks for help too. -/
  | nothing
  /-- A word names no command. -/
  | unknownCommand
  /-- No command is named. -/
  | missingCommand
  /-- An option or a word has no meaning here. -/
  | unknownArgument
  /-- A place is not filled. -/
  | missingArgument
  /-- An option has no value, or a value is empty that must not be. -/
  | emptyValue
  /-- A value cannot be read. -/
  | unfitValue (message : String)
  /-- An option with no value is given one. -/
  | needlessValue
  /-- An option is given twice. -/
  | repeated
  deriving DecidableEq, Repr

variable {σ τ : Type}

/-- How a word is put into a record. -/
abbrev Entry (σ : Type) := String → σ → Except Fault σ

/-- What an option does to a record. -/
inductive Reaction (σ : Type) where
  /-- An option with no value. -/
  | flag (apply : σ → Except Fault σ)
  /-- An option with a value. -/
  | valued (entry : Entry σ)

/-- A reaction on the first part of a record. -/
def Reaction.first : Reaction σ → Reaction (σ × τ)
  | .flag apply => .flag fun r => return (← apply r.1, r.2)
  | .valued entry => .valued fun word r => return (← entry word r.1, r.2)

/-- A reaction on the second part of a record. -/
def Reaction.second : Reaction τ → Reaction (σ × τ)
  | .flag apply => .flag fun r => return (r.1, ← apply r.2)
  | .valued entry => .valued fun word r => return (r.1, ← entry word r.2)

/-- A place for plain words. -/
inductive Place (σ : Type) where
  | one (entry : Entry σ)
  | several (entry : Entry σ)

/-- What words may be given to a command. -/
structure Grammar (σ : Type) where
  /-- The options by name. -/
  options : List (String × Reaction σ)
  /-- The one-letter options; each asks for something else than the command. -/
  letters : List (Char × Fault)
  /-- The places, in order. -/
  places : List (Place σ) := []
  /-- The names of the commands that may follow. -/
  commands : List String := []

/-- The words seen last that are not yet put into the record. -/
inductive Pending (σ : Type) where
  | nothing
  /-- An option whose value is still to come. -/
  | lacking
  /-- A word for an option or for a place of its own. -/
  | word (entry : Entry σ) (word : String)
  /-- Words for a place of several. -/
  | several (entry : Entry σ) (words : List String)

/-- How far the sorting has come. -/
structure Progress (σ : Type) where
  record : σ
  pending : Pending σ := .nothing
  /-- The option whose value the next plain word is. -/
  awaiting : Option (Entry σ) := none
  places : List (Place σ)
  /-- Whether every word that follows is a plain one. -/
  plainOnly : Bool := false

/-- The record with the pending words put in. -/
def Progress.settle (p : Progress σ) : Except Fault σ :=
  match p.pending with
  | .nothing => .ok p.record
  | .lacking => .error .emptyValue
  | .word entry word => entry word p.record
  | .several entry words => words.foldlM (fun record word => entry word record) p.record

/-- What a word looks like. -/
inductive Shape where
  | escape
  | long (name : String) (value : Option String)
  | letter (c : Char)
  | plain
  deriving DecidableEq, Repr

/-- The look of a word. -/
def shape (word : String) : Shape :=
  match word.toList with
  | ['-', '-'] => .escape
  | '-' :: '-' :: cs =>
    let name := cs.takeWhile (· ≠ '=')
    match cs.dropWhile (· ≠ '=') with
    | [] => .long (String.ofList name) none
    | _ :: value => .long (String.ofList name) (some (String.ofList value))
  | '-' :: c :: _ => .letter c
  | _ => .plain

namespace Grammar

/-- The fault of a plain word that has no place. -/
def surplus (g : Grammar σ) (plainOnly : Bool) (word : String) : Fault :=
  if g.commands.isEmpty then .unknownArgument
  else if plainOnly && g.commands.contains word then .unknownArgument
  else .unknownCommand

/-- Takes a plain word that is no value. -/
def place (g : Grammar σ) (p : Progress σ) (word : String) : Except Fault (Progress σ) :=
  match p.places with
  | [] => .error (g.surplus p.plainOnly word)
  | .one entry :: places => do
    return { p with record := ← p.settle, pending := .word entry word, places }
  | .several entry :: _ =>
    match p.pending with
    | .several entry words => .ok { p with pending := .several entry (words ++ [word]) }
    | _ => do return { p with record := ← p.settle, pending := .several entry [word] }

/-- Takes an option. -/
def option (g : Grammar σ) (p : Progress σ) (name : String) (value : Option String) :
    Except Fault (Progress σ) :=
  match g.options.lookup name, value with
  | none, _ => .error .unknownArgument
  | some (.flag _), some _ => .error .needlessValue
  | some (.flag apply), none => do
    return { p with record := ← apply (← p.settle), pending := .nothing, awaiting := none }
  | some (.valued entry), some value => do
    return { p with record := ← entry value (← p.settle), pending := .nothing, awaiting := none }
  | some (.valued entry), none => do
    return { p with record := ← p.settle, pending := .lacking, awaiting := some entry }

/-- Sorts words up to their end or to the name of a command, which is given back with the words
after it. -/
def sort (g : Grammar σ) (p : Progress σ) :
    List String → Except Fault (Progress σ × Option (String × List String))
  | [] => .ok (p, none)
  | word :: words =>
    if p.plainOnly then do g.sort (← g.place p word) words
    else if p.awaiting.isNone && g.commands.contains word then .ok (p, some (word, words))
    else
      match shape word with
      | .escape => g.sort { p with plainOnly := true } words
      | .long name value => do g.sort (← g.option p name value) words
      | .letter c =>
        match g.letters.lookup c with
        | none => .error .unknownArgument
        | some fault => do
          let _ ← p.settle
          .error fault
      | .plain =>
        match p.awaiting with
        | some entry => g.sort { p with pending := .word entry word, awaiting := none } words
        | none => do g.sort (← g.place p word) words

/-- Sorts all words of a command that no other follows. -/
def read (g : Grammar σ) (start : σ) (words : List String) : Except Fault σ := do
  let (p, _) ← g.sort { record := start, places := g.places } words
  p.settle

end Grammar

/-- The entry of a value that may be given once. -/
def once {α : Type} (get : σ → Option α) (put : σ → α → σ) (read : String → Except Fault α) :
    Entry σ := fun word record => do
  if (get record).isSome then .error .repeated else return put record (← read word)

end Arguments
end CheatCode
