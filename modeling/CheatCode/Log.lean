/-
# The log

Where events go.  An event that the log's filter allows is reported; one that matters as much as a
warning is also kept in the log's file, if it has one.
-/

import CheatCode.Host
import CheatCode.Log.Filter
import CheatCode.Traced

namespace CheatCode

/-- A filter and the path of a file for what matters most. -/
structure Log where
  filter : Log.Filter := Log.Filter.standard
  file : Option String := none
  deriving DecidableEq, Repr

namespace Log

/-- The name of a log's file. -/
def fileName : String := "parcheat.log"

/-- The path of the log's file in a directory. -/
def pathIn (directory : String) : String :=
  if directory.isEmpty || directory.toList.getLast? == some '/' then directory ++ fileName
  else directory ++ "/" ++ fileName

/-- Whether an event is kept in the log's file. -/
def keeps (log : Log) (event : Event) : Bool :=
  log.filter.allows event && Level.warn.weight ≤ event.level.weight

variable {m : Type → Type} [Monad m] [Host m]

/-- Takes note of an event. -/
def note (log : Log) (event : Event) : m Unit := do
  if log.filter.allows event then Host.report (.event event)
  match log.file with
  | some path => if log.keeps event then Host.appendLog path event
  | none => pure ()

/-- Lives through a moment of a trace. -/
def play (log : Log) : Moment → m Unit
  | .event event => log.note event
  | .pause milliseconds => Host.wait milliseconds

/-- Lives through the making of a traced value. -/
def relay {α : Type} (log : Log) (x : Traced α) : m α := do
  x.trace.toList.forM log.play
  return x.value

end Log
end CheatCode
