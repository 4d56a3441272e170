/-
# Directives of a log filter

A directive has a target and a threshold.  It speaks of the events whose source starts with the
target; it may speak only of those that have some field, or of spans, which no event is.

| written | target | threshold |
| --- | --- | --- |
| `LEVEL` | empty | that level |
| `TARGET` | that text | everything |
| `TARGET=LEVEL` | what is before the first `=` | that level, everything if it is left out |
| `TARGET[SPAN]=LEVEL` | | of that span only; `=LEVEL` may be left out |
| `TARGET[{FIELD}]=LEVEL` | what is before `[` | of what has that field only, likewise |
| `TARGET[{FIELD=VALUE}]=LEVEL` | | of spans with that value only, likewise |

The target may be empty before `[`, and `SPAN` may stand before `{`.  A value is a number or a
pattern.  A level is a word in any case or the number of its place in
`off, error, warn, info, debug, trace`.  The first character of a directive that is no white space
is a letter, a number, `-`, `:`, `_` or `[`.

White space at the ends does not count for where the parts of a directive lie, but the parts are
then cut at these places from the whole text.  So after white space every part but the last begins
and ends too early, by as many bytes, and white space at the end belongs to the level.  A part that
would begin or end within a character cannot be cut, and reading breaks off on it
(`Log.Fault.torn`), which is not the same as to refuse a text (`Log.Fault.unreadable`).
-/

import CheatCode.Event
import CheatCode.Numeral
import CheatCode.Pattern
import CheatCode.Text.Bytes

namespace CheatCode
namespace Log

/-- What a directive speaks of. -/
inductive Subject where
  /-- Every event. -/
  | events
  /-- What has a field. -/
  | having (field : List Char)
  /-- Spans alone. -/
  | spans
  deriving DecidableEq, Repr

/-- What a filter says of the events from one target; no threshold shows none of them. -/
structure Directive where
  target : List Char
  subject : Subject
  threshold : Option Level
  deriving DecidableEq, Repr

/-- Why a text is not read as a filter. -/
inductive Fault where
  /-- The text is refused. -/
  | unreadable
  /-- Reading breaks off on a part that begins or ends within a character. -/
  | torn
  deriving DecidableEq, Repr

/-- What has been found, or the fault if nothing has. -/
def orFault {α : Type} (found : Option α) (fault : Fault) : Except Fault α :=
  found.elim (.error fault) .ok

namespace Directive

/-! ## Meaning -/

/-- The one field of an event. -/
def eventField : List Char := "message".toList

/-- Whether the directive speaks of an event. -/
def covers (directive : Directive) (event : Event) : Bool :=
  directive.target.isPrefixOf event.source.toList &&
    match directive.subject with
    | .events => true
    | .having field => field = eventField
    | .spans => false

/-- Whether an event matters enough for the directive. -/
def shows (directive : Directive) (event : Event) : Bool :=
  match directive.threshold with
  | some level => level.weight ≤ event.level.weight
  | none => false

/-- How special a directive is: a longer target counts for more, then a field. -/
def rank (directive : Directive) : Nat :=
  2 * directive.target.length +
    match directive.subject with
    | .having _ => 1
    | .events | .spans => 0

/-! ## Levels and values -/

/-- The thresholds by name, each at the place of its number. -/
def thresholds : List (String × Option Level) :=
  [("off", none), ("error", some .error), ("warn", some .warn), ("info", some .info),
    ("debug", some .debug), ("trace", some .trace)]

/-- The threshold that a word names. -/
def threshold? (word : List Char) : Option (Option Level) :=
  match Numeral.readDecimal (String.ofList word) with
  | .ok number => thresholds[number.toNat]?.map (·.2)
  | .error _ => thresholds.lookup ((String.ofList word).map Char.toLower)

/-- What follows one sign at the front. -/
def unsigned : List Char → List Char
  | '+' :: cs | '-' :: cs => cs
  | cs => cs

/-- Whether a text is the exponent of a number, or nothing. -/
def isExponent : List Char → Bool
  | [] => true
  | 'e' :: cs => !(unsigned cs).isEmpty && (unsigned cs).all Char.isDigit
  | _ => false

/-- Whether a text is a number without a sign: digits, which may have a point before, among or
after them, and an exponent. -/
def isDecimal (cs : List Char) : Bool :=
  match cs.dropWhile Char.isDigit with
  | '.' :: rest =>
    ((cs.head?.any Char.isDigit) || (rest.head?.any Char.isDigit))
      && isExponent (rest.dropWhile Char.isDigit)
  | rest => (cs.head?.any Char.isDigit) && isExponent rest

/-- Whether a text is a number. -/
def isNumber (cs : List Char) : Bool :=
  let word := (unsigned cs).map Char.toLower
  ["inf", "infinity", "nan"].contains (String.ofList word) || isDecimal word

/-- What a directive speaks of if this stands between its braces: a field, and after a `=` its
value.  What follows another `=` is passed over. -/
def ofField? (text : List Char) : Option Subject :=
  match text.dropWhile (· ≠ '=') with
  | [] => some (.having text)
  | _ :: rest =>
    let value := rest.takeWhile (· ≠ '=')
    if isNumber value || Pattern.isPattern value then some .spans else none

/-! ## Reading -/

/-- A text without the white space at its ends. -/
def trim (cs : List Char) : List Char :=
  ((cs.dropWhile Text.isWhiteSpace).reverse.dropWhile Text.isWhiteSpace).reverse

/-- Whether a directive may begin with a character. -/
def isInitial (c : Char) : Bool :=
  c == '-' || c == ':' || c == '_' || c == '[' || Text.isAlphanumeric c

/-- The part of a text from the place where `first` begins in the trimmed text on. -/
def rest (text first : List Char) : Except Fault (List Char) :=
  orFault (Text.dropBytes? (Text.byteCount (trim text) - Text.byteCount first) text) .torn

/-- The part of a text from the place where `first` begins in the trimmed text to that where
`last` begins. -/
def part (text first last : List Char) : Except Fault (List Char) := do
  let rest ← rest text first
  orFault (Text.takeBytes? (Text.byteCount first - Text.byteCount last) rest) .torn

/-- The threshold after a target or a span: everything if no level follows. -/
def suffix (text : List Char) : List Char → Except Fault (Option Level)
  | [] => return some .trace
  | '=' :: level => do
    match ← rest text level with
    | [] => return some .trace
    | word => orFault (threshold? word) .unreadable
  | _ => throw .unreadable

/-- What stands between braces and before the bracket that closes them, and what follows it. -/
def field (text field : List Char) : Except Fault (Subject × List Char) := do
  match field.dropWhile (· ≠ '\x7d') with
  | [] => throw .unreadable
  | brace :: afterBrace =>
    let name ← part text field (brace :: afterBrace)
    if name.isEmpty then throw .unreadable
    let subject ← orFault (ofField? name) .unreadable
    match afterBrace with
    | ']' :: rest => return (subject, rest)
    | _ => throw .unreadable

/-- What stands between brackets, and what follows them. -/
def span (text span : List Char) : Except Fault (Subject × List Char) := do
  match span.dropWhile fun c => c ≠ ']' && c ≠ '\x7b' with
  | [] => throw .unreadable
  | mark :: afterMark =>
    let name ← part text span (mark :: afterMark)
    if mark = ']' then return (.spans, afterMark)
    let (subject, rest) ← field text afterMark
    return (if name.isEmpty then subject else .spans, rest)

/-- The directive that a text without signs spells: a level, or a target. -/
def ofWord (text : List Char) : Directive :=
  match threshold? text with
  | some threshold => ⟨[], .events, threshold⟩
  | none => ⟨text, .events, some .trace⟩

/-- The directive that a text spells. -/
def ofChars (text : List Char) : Except Fault Directive := do
  let written := trim text
  unless written.head?.any isInitial do throw .unreadable
  let afterTarget := written.dropWhile fun c => c ≠ '=' && c ≠ '['
  if afterTarget.isEmpty then return ofWord text
  let target ← part text written afterTarget
  match afterTarget with
  | '[' :: inner =>
    let (subject, rest) ← span text inner
    return ⟨target, subject, ← suffix text rest⟩
  | rest => return ⟨target, .events, ← suffix text rest⟩

end Directive
end Log
end CheatCode
