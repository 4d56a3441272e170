/-
# Events

What the program reports of its work.  An event is a value; its level, its source and its wording
are functions of it.  The source is a path, its parts joined by `::`, by which a log filter selects
events.

| event | level | message |
| --- | --- | --- |
| `skipped` | trace | `skipped: "LINE"` |
| `started` | debug | `NAME: start N codes` |
| `stopped` | debug | `NAME: stop` |
| `wrote` | trace | `NAME: wrote N codes` |
| `outOfRange` | warn | `read out of range: ADDRESS (N bytes)`, or `write …` |
| `cycle` | debug | `cycle N`, counted from zero |
| `cyclesDone` | info | `NAME: N cycles done` |
| `engineError` | warn | the engine's own words |
| `saved` | info | `saved PATH` |
-/

import CheatCode.Format
import CheatCode.Numeral
import CheatCode.Text.Quoted
import CheatCode.Text.Tame

namespace CheatCode

/-- How much an event matters. -/
inductive Level where
  | trace
  | debug
  | info
  | warn
  | error
  deriving DecidableEq, Repr

namespace Level

/-- The weight of a level: a greater one matters more. -/
def weight : Level → Nat
  | .trace => 0
  | .debug => 1
  | .info => 2
  | .warn => 3
  | .error => 4

/-- The label of a level. -/
def label : Level → String
  | .trace => "TRACE"
  | .debug => "DEBUG"
  | .info => "INFO"
  | .warn => "WARN"
  | .error => "ERROR"

end Level

/-- The two ways to use a memory. -/
inductive Direction where
  | read
  | write
  deriving DecidableEq, Repr

/-- The word for a direction. -/
def Direction.word : Direction → String
  | .read => "read"
  | .write => "write"

/-- A report. -/
inductive Event where
  /-- A line of a code text is no code. -/
  | skipped (line : List Char)
  /-- The engine has taken codes. -/
  | started (format : Format) (count : Nat)
  /-- The engine has let its codes go. -/
  | stopped (format : Format)
  /-- The engine has put its codes into the memory once. -/
  | wrote (format : Format) (count : Nat)
  /-- An access does not lie inside the memory. -/
  | outOfRange (direction : Direction) (address size : UInt64)
  /-- A cycle is over. -/
  | cycle (index : Nat)
  /-- All cycles are over. -/
  | cyclesDone (format : Format) (count : Nat)
  /-- What the engine has to say of its last failure. -/
  | engineError (text : String)
  /-- The memory has been written to a file. -/
  | saved (path : String)
  deriving DecidableEq, Repr

namespace Event

/-- The level of an event. -/
def level : Event → Level
  | .skipped _ | .wrote _ _ => .trace
  | .started _ _ | .stopped _ | .cycle _ => .debug
  | .cyclesDone _ _ | .saved _ => .info
  | .outOfRange _ _ _ | .engineError _ => .warn

/-- The path by which filters select an event. -/
def source : Event → String
  | .skipped _ => "parcheat_lib::code"
  | .started _ _ | .stopped _ | .wrote _ _ => "parcheat_lib::par_plugin"
  | .outOfRange _ _ _ => "parcheat_lib::memory_accessors::ram_image"
  | .cycle _ | .cyclesDone _ _ => "parcheat::host"
  | .engineError _ | .saved _ => "parcheat"

/-- The wording of an event. -/
def message : Event → String
  | .skipped line => "skipped: " ++ String.ofList (Text.quote line)
  | .started format count => s!"{format.name}: start {count} codes"
  | .stopped format => s!"{format.name}: stop"
  | .wrote format count => s!"{format.name}: wrote {count} codes"
  | .outOfRange direction address size =>
    s!"{direction.word} out of range: {String.ofList (Numeral.hex 6 address.toNat)} ({size} bytes)"
  | .cycle index => s!"cycle {index}"
  | .cyclesDone format count => s!"{format.name}: {count} cycles done"
  | .engineError text => text
  | .saved path => "saved " ++ path

/-- The message in a form that is safe to show. -/
def shown (event : Event) : String := String.ofList (Text.tame event.message.toList)

end Event
end CheatCode
