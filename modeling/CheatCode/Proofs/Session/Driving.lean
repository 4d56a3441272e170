/-
# Driving and stepping by hand

An engine that is driven does what it does if it is executed as often by hand, one execution right
after the other (`Engine.stepped`).

| | by hand | driven |
| --- | --- | --- |
| memory and accesses | those of each execution | the same |
| events | those of each execution | those of each, then `cycle`; `cyclesDone` at the end |
| time | that of the executions | besides, a pause before each but the first |

So it makes no difference to a memory whether an engine is driven once or in parts
(`Engine.drive_drive`).  The memories of a session take no time, so there the pauses are all
(`Engine.elapsed_drive_memory`).
-/

import CheatCode.Proofs.Engine.Calls
import CheatCode.Proofs.Engine.Events
import CheatCode.Proofs.Session.Route

namespace CheatCode
namespace Engine

section

variable {μ : Type} [Accessor μ]

/-- An engine executed by hand, some number of times. -/
def stepped (engine : Engine) (memory : μ) (count : Nat) : Traced (Engine × μ) :=
  engine.calls memory (List.replicate count .execute)

/-- One more execution meets the memory that the others leave. -/
theorem stepped_succ (engine : Engine) (memory : μ) (count : Nat) :
    engine.stepped memory (count + 1) =
      engine.stepped memory count >>= fun before =>
        (fun memory => (before.1, memory)) <$> before.1.execute before.2 := by
  simp only [stepped, calls, Traced.fold, List.replicate_succ', List.foldl_append, List.foldl_cons,
    List.foldl_nil, call, map_eq_pure_bind, bind_assoc, pure_bind]

/-- Executions change the memory alone. -/
theorem value_stepped (engine : Engine) (memory : μ) (count : Nat) :
    (engine.stepped memory count).value =
      (engine, (fun memory => (engine.execute memory).value)^[count] memory) := by
  induction count with
  | zero => rfl
  | succ count ih =>
    rw [stepped_succ, Traced.value_bind, Traced.value_map, ih, Function.iterate_succ_apply']

/-- **Driving an engine leaves the engine and the memory that stepping it leaves.** -/
theorem value_stepped_eq_drive (engine : Engine) (memory : μ) (count period : Nat) :
    (engine.stepped memory count).value = (engine, (engine.drive memory count period).value) := by
  rw [value_stepped, value_drive]

/-- The accesses of some executions are those of one, over and over, and the memory inside is left
as it would be without a record. -/
theorem memory_stepped_recorder (engine : Engine) (memory : Recorder μ) (count : Nat) :
    (engine.stepped memory count).value.2 =
      { inner := (engine.stepped memory.inner count).value.2
        accesses := memory.accesses ++
          (List.replicate count (engine.activeCodes.map Poke.access)).flatten } := by
  induction count with
  | zero => simp [stepped, calls]
  | succ count ih =>
    simp only [value_stepped] at ih ⊢
    rw [Function.iterate_succ_apply', Function.iterate_succ_apply', ih, value_execute,
      poked_recorder, value_execute, List.replicate_succ', List.flatten_append,
      List.flatten_singleton, List.append_assoc]

/-- **An engine may be driven in parts.** -/
theorem drive_drive (engine : Engine) (memory : μ) (count more period : Nat) :
    (engine.drive (engine.drive memory count period).value more period).value =
      (engine.drive memory (count + more) period).value := by
  rw [value_drive, value_drive, value_drive, Nat.add_comm, Function.iterate_add_apply]

/-! ## Time -/

/-- Every cycle but the first begins with a pause. -/
theorem elapsed_cycle (engine : Engine) (period : Nat) (memory : μ) (index : Nat) :
    (engine.cycle period memory index).elapsed =
      (if index = 0 then 0 else pauseFor period) + (engine.execute memory).elapsed := by
  by_cases h : index = 0 <;> simp [cycle, h]

/-- **The pauses come between the cycles**, and all other time is that of the executions. -/
theorem elapsed_drive (engine : Engine) (memory : μ) (count period : Nat) :
    (engine.drive memory count period).elapsed =
      (engine.stepped memory count).elapsed + (count - 1) * pauseFor period := by
  simp only [drive, Traced.elapsed_bind, Traced.elapsed_emit, Traced.elapsed_pure, Nat.add_zero]
  induction count with
  | zero => simp [stepped, calls]
  | succ count ih =>
    have hstepped : (engine.stepped memory (count + 1)).elapsed =
        (engine.stepped memory count).elapsed +
          (engine.execute
            ((fun memory => (engine.execute memory).value)^[count] memory)).elapsed := by
      rw [stepped_succ, Traced.elapsed_bind, Traced.elapsed_map, value_stepped]
    rw [Nat.fold_succ, Traced.elapsed_bind, ih, elapsed_cycle, value_fold_cycle, hstepped]
    cases count with
    | zero => simp
    | succ count =>
      simp only [Nat.add_sub_cancel, Nat.succ_ne_zero, if_false, Nat.succ_mul]
      omega

end

/-- Writing to a memory of a session takes no time. -/
theorem elapsed_write_memory (memory : Memory) (address size value : UInt64) :
    (Accessor.write memory address size value).elapsed = 0 := by
  cases memory with
  | image image =>
    rw [Memory.write_image, Traced.elapsed_map]
    by_cases h : image.Covers address size
    · rw [Image.write_of_covers value h, Traced.elapsed_pure]
    · rw [Image.write_of_not_covers value h]
      rfl
  | probe probe =>
    rw [Memory.write_probe, Traced.elapsed_map]
    rfl

theorem elapsed_execute_memory (engine : Engine) (memory : Memory) :
    (engine.execute memory).elapsed = 0 := by
  have hwrites : ∀ codes : List Poke, (Traced.fold (fun memory (code : Poke) =>
      Accessor.write memory code.address 1 code.value.toUInt64) memory codes).elapsed = 0 := by
    intro codes
    induction codes generalizing memory with
    | nil => rfl
    | cons code codes ih => rw [Traced.fold_cons, Traced.elapsed_bind, ih, elapsed_write_memory]
  unfold execute
  cases engine.codes with
  | none => rfl
  | some codes => simp [hwrites]

theorem elapsed_stepped_memory (engine : Engine) (memory : Memory) (count : Nat) :
    (engine.stepped memory count).elapsed = 0 := by
  induction count with
  | zero => rfl
  | succ count ih =>
    rw [stepped_succ, Traced.elapsed_bind, Traced.elapsed_map, ih, elapsed_execute_memory]

/-- **Driving an engine over a memory of a session takes the pauses and nothing else.** -/
theorem elapsed_drive_memory (engine : Engine) (memory : Memory) (count period : Nat) :
    (engine.drive memory count period).elapsed = (count - 1) * pauseFor period := by
  rw [elapsed_drive, elapsed_stepped_memory, Nat.zero_add]

/-- The pauses are as long as the period, a millisecond at least, exactly if there is none of them
or the period is not longer than the longest pause. -/
theorem pauses_eq_iff {count period : Nat} :
    (count - 1) * pauseFor period = (count - 1) * max period 1 ↔
      count ≤ 1 ∨ period ≤ longestPause := by
  have hlongest : 1 ≤ longestPause := by decide
  by_cases hcount : count ≤ 1
  · have hnone : count - 1 = 0 := by omega
    simp [hnone, hcount]
  · rw [Nat.mul_left_cancel_iff (by omega), pauseFor]
    omega

/-! ## Driving in a session -/

/-- A step that drives the engine of a session tells the time that it took. -/
theorem value_step_cycles (session : Session) (count period : Nat) (route : Session.Route) :
    (session.step (.cycles count period route)).value =
      ({ session with
          memory := (session.engine.drive session.memory.cleared count period).value },
        .elapsed ((count - 1) * pauseFor period)) := by
  simp only [Session.step, Session.perform, Session.through_drive, Session.withMemory,
    Traced.value_bind, Traced.value_pure, Traced.elapsed_bind, Traced.elapsed_pure, Nat.add_zero,
    elapsed_drive_memory]

/-- **Driving an engine is stepping it by hand, with pauses in between.**  Whatever the engine and
the memory, to drive it leaves both as so many executions by hand do, the engine unchanged, and
makes the same accesses to the memory: those of one execution, over and over.  The events are those
of each execution and then the number of its cycle, and at the end the number of all cycles.
Besides the time of the executions it takes a pause before each of them but the first, which lasts
for the period, for a millisecond at least and thirty years at most; so the pauses are the period
over and over exactly if there is none or the period is not longer than thirty years.  To drive the
engine twice leaves the memory, and makes the accesses, that driving it once for all cycles does.
In a session, whatever its memory and by whatever route, the pauses are all the time that it
takes. -/
theorem drive_as_stepped {μ : Type} [Accessor μ] (engine : Engine) (memory : μ)
    (count more period : Nat) :
    let stepped := engine.stepped memory
    let driven := engine.drive memory count period
    let fresh := Recorder.mk memory []
    let recorded := (engine.drive fresh count period).value
    let pauses := (count - 1) * min (max period 1) longestPause
    (stepped count).value = (engine, driven.value) ∧
      (engine.stepped fresh count).value = (engine, recorded) ∧
      recorded.inner = driven.value ∧
      recorded.accesses = (List.replicate count (engine.activeCodes.map Poke.access)).flatten ∧
      driven.events = (List.range count).flatMap (fun k =>
        (engine.execute (stepped k).value.2).events ++ [.cycle k]) ++
          [.cyclesDone engine.format count] ∧
      driven.elapsed = (stepped count).elapsed + pauses ∧
      (engine.drive driven.value more period).value =
        (engine.drive memory (count + more) period).value ∧
      (engine.drive recorded more period).value =
        (engine.drive fresh (count + more) period).value ∧
      (pauses = (count - 1) * max period 1 ↔ count ≤ 1 ∨ period ≤ longestPause) ∧
      ∀ (held : Memory) (closed : Bool) (route : Session.Route),
        (Session.step { engine, closed, memory := held } (.cycles count period route)).value =
          ({ engine, closed, memory := (engine.drive held.cleared count period).value },
            .elapsed pauses) := by
  intro stepped driven fresh recorded pauses
  have hfresh : (engine.stepped fresh count).value = (engine, recorded) :=
    engine.value_stepped_eq_drive fresh count period
  have hmemory : (stepped count).value = (engine, driven.value) :=
    engine.value_stepped_eq_drive memory count period
  have hrecorded : recorded = _ :=
    (congrArg Prod.snd hfresh).symm.trans (engine.memory_stepped_recorder fresh count)
  refine ⟨hmemory, hfresh, ?_, ?_, ?_, engine.elapsed_drive memory count period,
    engine.drive_drive memory count more period, engine.drive_drive fresh count more period,
    pauses_eq_iff, fun held closed route => value_step_cycles _ count period route⟩
  · rw [hrecorded]
    exact congrArg Prod.snd hmemory
  · rw [hrecorded]
    exact List.nil_append _
  · simp only [driven, stepped, events_drive, value_stepped]

/-- Two cycles a trillion milliseconds apart end after thirty years. -/
theorem farApart_elapsed :
    let driven := drive { format := .standard } (Memory.image (Image.zeroed 0 1)) 2 1000000000000
    driven.elapsed = 946080000000 ∧ driven.elapsed ≠ (2 - 1) * max 1000000000000 1 := by
  decide

end Engine
end CheatCode
