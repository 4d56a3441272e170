/-
# What calls do to an engine and a memory

One call is told by two equations: what it makes of the engine, whatever the memory
(`Engine.engine_call`), and what it makes of the memory (`Engine.memory_call`).  Some calls one
after the other (`Engine.calls`) are taken apart at their last one (`Engine.engine_calls_append`,
`Engine.memory_calls_append`).  A memory that records its accesses (`Recorder`) is left as any other
memory is, with the writes of an execution on record (`Engine.poked_recorder`).
-/

import CheatCode.Engine.Call
import CheatCode.Memory.Probe
import CheatCode.Proofs.Engine.Overlay

namespace CheatCode

/-- A memory that keeps all accesses on record, in order, and passes them on. -/
structure Recorder (μ : Type) where
  inner : μ
  accesses : List Access := []

instance {μ : Type} [Accessor μ] : Accessor (Recorder μ) where
  read memory address size := do
    let (value, inner) ← Accessor.read memory.inner address size
    return (value, { inner, accesses := memory.accesses ++ [.read address size] })
  write memory address size value := do
    let inner ← Accessor.write memory.inner address size value
    return { inner, accesses := memory.accesses ++ [.write address size value] }

/-- The access by which a poke is put into a memory. -/
def Poke.access (p : Poke) : Access := .write p.address 1 p.value.toUInt64

namespace Engine

variable {μ : Type} [Accessor μ]

/-- The pokes reach the memory inside, and their writes are all that is recorded. -/
theorem poked_recorder (memory : Recorder μ) (codes : List Poke) :
    poked memory codes =
      { inner := poked memory.inner codes
        accesses := memory.accesses ++ codes.map Poke.access } := by
  induction codes generalizing memory with
  | nil => simp [poked]
  | cons code codes ih =>
    rw [poked, List.foldl_cons, ← poked, ih, List.map_cons, List.append_cons]
    rfl

/-- An execution makes one access for each active code, in order. -/
theorem accesses_execute (engine : Engine) (memory : Recorder μ) :
    (engine.execute memory).value.accesses =
      memory.accesses ++ engine.activeCodes.map Poke.access := by
  rw [value_execute, poked_recorder]

/-! ## One call -/

/-- Whether a call lets the codes go. -/
def Call.ends : Call → Bool
  | .stop | .dispose => true
  | _ => false

/-- The text of a call that is a start. -/
def Call.startText? : Call → Option String
  | .start text _ => some text
  | _ => none

/-- **A start takes the codes of its text, an end lets the codes go, and no other call changes the
engine.** -/
theorem engine_call (engine : Engine) (memory : μ) (c : Call) :
    (engine.call memory c).value.1.1 =
      match c.startText? with
      | some text => { engine with codes := some (CodeText.pokes text) }
      | none => if c.ends then { engine with codes := none } else engine := by
  cases c with
  | encode patches encrypted =>
    simp only [call, encode_eq]
    cases Patch.encode patches <;> rfl
  | start text encrypted => exact engine.value_start text encrypted
  | stop => exact engine.value_stop
  | dispose => exact engine.value_stop
  | _ => rfl

/-- **An execution puts the active codes into the memory, and no other call uses it.** -/
theorem memory_call (engine : Engine) (memory : μ) (c : Call) :
    (engine.call memory c).value.2 =
      if c = .execute then poked memory engine.activeCodes else memory := by
  cases c with
  | encode patches encrypted =>
    simp only [call, encode_eq]
    cases Patch.encode patches <;> rfl
  | execute => exact engine.value_execute memory
  | _ => rfl

/-- An execution leaves the engine as it is and puts its codes into the memory. -/
theorem value_call_execute (engine : Engine) (memory : μ) :
    (engine.call memory .execute).value =
      ((engine, .nothing), poked memory engine.activeCodes) := by
  simp only [call, Traced.value_bind, Traced.value_pure, value_execute]

/-! ## Calls one after the other -/

/-- What some calls make of an engine and a memory, the answers left aside. -/
def calls (engine : Engine) (memory : μ) (cs : List Call) : Traced (Engine × μ) :=
  Traced.fold (fun (engine, memory) c => do
    let ((engine, _), memory) ← engine.call memory c
    return (engine, memory)) (engine, memory) cs

/-- The last of some calls meets the engine and the memory that the others leave. -/
theorem value_calls_append (engine : Engine) (memory : μ) (cs : List Call) (c : Call) :
    (engine.calls memory (cs ++ [c])).value =
      let before := (engine.calls memory cs).value
      let after := (before.1.call before.2 c).value
      (after.1.1, after.2) := by
  simp only [calls, Traced.value_fold, List.foldl_append, List.foldl_cons, List.foldl_nil,
    Traced.value_bind, Traced.value_pure]

/-- The first of some calls leaves an engine and a memory to the others. -/
theorem value_calls_cons (engine : Engine) (memory : μ) (c : Call) (cs : List Call) :
    (engine.calls memory (c :: cs)).value =
      ((engine.call memory c).value.1.1.calls (engine.call memory c).value.2 cs).value := by
  simp only [calls, Traced.fold_cons, Traced.value_bind, Traced.value_pure]

theorem engine_calls_append (engine : Engine) (memory : μ) (cs : List Call) (c : Call) :
    (engine.calls memory (cs ++ [c])).value.1 =
      match c.startText? with
      | some text => { (engine.calls memory cs).value.1 with codes := some (CodeText.pokes text) }
      | none =>
        if c.ends then { (engine.calls memory cs).value.1 with codes := none }
        else (engine.calls memory cs).value.1 := by
  rw [value_calls_append]
  exact engine_call _ _ c

theorem memory_calls_append (engine : Engine) (memory : μ) (cs : List Call) (c : Call) :
    (engine.calls memory (cs ++ [c])).value.2 =
      if c = .execute then
        poked (engine.calls memory cs).value.2 (engine.calls memory cs).value.1.activeCodes
      else (engine.calls memory cs).value.2 := by
  rw [value_calls_append]
  exact memory_call _ _ c

end Engine
end CheatCode
