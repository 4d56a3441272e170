/-
# Driving an engine

A running game overwrites its memory all the time, so an engine has to put its codes in again and
again.  Driving it means to let it execute a number of times, a period apart: the first time at
once, and no two closer than a millisecond or further apart than thirty years.
-/

import CheatCode.Engine

namespace CheatCode
namespace Engine

variable {μ : Type} [Accessor μ]

/-- Thirty years of 365 days, in milliseconds. -/
def longestPause : Nat := 30 * 365 * 24 * 60 * 60 * 1000

/-- The time between two cycles for a period in milliseconds. -/
def pauseFor (period : Nat) : Nat := min (max period 1) longestPause

/-- One cycle: the pause before it, the execution and the report of its end. -/
def cycle (engine : Engine) (period : Nat) (memory : μ) (index : Nat) : Traced μ := do
  if index ≠ 0 then Traced.pause (pauseFor period)
  let memory ← engine.execute memory
  Traced.emit (.cycle index)
  return memory

/-- Lets the engine execute `count` times, `period` milliseconds apart. -/
def drive (engine : Engine) (memory : μ) (count period : Nat) : Traced μ := do
  let memory ← count.fold (fun index _ sofar =>
    sofar >>= fun memory => engine.cycle period memory index) (pure memory)
  Traced.emit (.cyclesDone engine.format count)
  return memory

end Engine
end CheatCode
