/-
# Readers

A reader takes a value from the front of a text and gives the rest back, or fails and takes
nothing.  Readers form a monad; `p <|> q` reads with `q` what `p` fails on.  A repetition ends
where its reader fails or stands still, so it always ends.
-/

namespace CheatCode
namespace Text

/-- A reader of values. -/
abbrev Reader (α : Type) := StateT (List Char) Option α

namespace Reader

variable {α β : Type}

/-- The next character, if it is one of a class. -/
def next (accepts : Char → Bool) : Reader Char := fun
  | c :: rest => if accepts c then some (c, rest) else none
  | [] => none

/-- Exactly this character. -/
def char (c : Char) : Reader Unit := fun
  | d :: rest => if c = d then some ((), rest) else none
  | [] => none

/-- Exactly these characters. -/
def literal : List Char → Reader Unit
  | [] => pure ()
  | c :: cs => do char c; literal cs

/-- The characters of a class up to the first that is none. -/
def span (accepts : Char → Bool) : Reader (List Char) := fun cs =>
  some (cs.takeWhile accepts, cs.dropWhile accepts)

/-- The end of the text. -/
def finish : Reader Unit := fun
  | [] => some ((), [])
  | _ => none

/-- A value, or nothing where the reader fails. -/
def maybe (p : Reader α) : Reader (Option α) := some <$> p <|> pure none

/-- Values one after the other, as many as there are. -/
def many (p : Reader α) (cs : List Char) : Option (List α × List Char) :=
  match p cs with
  | none => some ([], cs)
  | some (a, rest) =>
    if rest.length < cs.length then
      match many p rest with
      | none => some ([a], rest)
      | some (as, rest) => some (a :: as, rest)
    else some ([], cs)
termination_by cs.length

/-- Values with a separator between each two, as many as there are. -/
def separated (p : Reader α) (separator : Reader β) : Reader (List α) :=
  (do
    let first ← p
    let rest ← many (do let _ ← separator; p)
    return first :: rest) <|> pure []

/-- The value of a whole text. -/
def whole (p : Reader α) (cs : List Char) : Option α :=
  match p cs with
  | some (a, []) => some a
  | _ => none

end Reader
end Text
end CheatCode
