/-
# The way to the memory

A memory that is reached through another hand is used as it would be directly: each access makes the
same events and leaves the same memory, behind the hand.  This carries over from accesses to all
that is made of them, up to the steps of a session: a step by any route is the same step taken
directly (`Session.perform_direct`).
-/

import CheatCode.Session

namespace CheatCode

/-- Folds agree along a map if their steps do. -/
theorem Traced.fold_map {α β γ : Type} {step : β → α → Traced β} {step' : γ → α → Traced γ}
    {f : β → γ} (hstep : ∀ b a, step' (f b) a = f <$> step b a) (start : β) (items : List α) :
    Traced.fold step' (f start) items = f <$> Traced.fold step start items := by
  induction items generalizing start with
  | nil => simp
  | cons item items ih =>
    rw [Traced.fold_cons, Traced.fold_cons, hstep, map_bind, bind_map_left]
    simp only [ih]

namespace Memory

theorem read_image (image : Image) (address size : UInt64) :
    Accessor.read (Memory.image image) address size =
      (fun (value, image) => (value, Memory.image image)) <$> Accessor.read image address size :=
  rfl

theorem read_probe (probe : Probe) (address size : UInt64) :
    Accessor.read (Memory.probe probe) address size =
      (fun (value, probe) => (value, Memory.probe probe)) <$> Accessor.read probe address size :=
  rfl

theorem write_image (image : Image) (address size value : UInt64) :
    Accessor.write (Memory.image image) address size value =
      Memory.image <$> Accessor.write image address size value := rfl

theorem write_probe (probe : Probe) (address size value : UInt64) :
    Accessor.write (Memory.probe probe) address size value =
      Memory.probe <$> Accessor.write probe address size value := rfl

end Memory

namespace Forwarded

variable {μ : Type} [Accessor μ]

theorem read_mk (memory : μ) (address size : UInt64) :
    Accessor.read (mk memory) address size =
      (fun (value, memory) => (value, mk memory)) <$> Accessor.read memory address size := rfl

theorem write_mk (memory : μ) (address size value : UInt64) :
    Accessor.write (mk memory) address size value =
      mk <$> Accessor.write memory address size value := rfl

/-- A call makes the same use of a memory behind another hand. -/
theorem call_mk (memory : μ) (c : Accessor.Call) :
    Accessor.call (mk memory) c =
      (fun (answer, memory) => (answer, mk memory)) <$> Accessor.call memory c := by
  cases c <;> simp [Accessor.call, Accessor.readByte, Accessor.readPair, Accessor.writeByte,
    Accessor.writePair, read_mk, write_mk]

/-- An execution writes to a memory behind another hand what it writes to the memory. -/
theorem execute_mk (engine : Engine) (memory : μ) :
    engine.execute (mk memory) = mk <$> engine.execute memory := by
  unfold Engine.execute
  cases engine.codes with
  | none => simp
  | some codes =>
    have hfold : Traced.fold (fun memory (code : Poke) =>
        Accessor.write memory code.address 1 code.value.toUInt64) (mk memory) codes =
        mk <$> Traced.fold (fun memory (code : Poke) =>
          Accessor.write memory code.address 1 code.value.toUInt64) memory codes :=
      Traced.fold_map (fun memory code => write_mk memory _ _ _) memory codes
    simp [hfold]

theorem cycle_mk (engine : Engine) (period : Nat) (memory : μ) (index : Nat) :
    engine.cycle period (mk memory) index = mk <$> engine.cycle period memory index := by
  by_cases h : index = 0 <;> simp [Engine.cycle, execute_mk, h]

theorem drive_mk (engine : Engine) (memory : μ) (count period : Nat) :
    engine.drive (mk memory) count period = mk <$> engine.drive memory count period := by
  have hcycles : count.fold (fun index _ sofar =>
      sofar >>= fun memory => engine.cycle period memory index) (pure (mk memory)) =
      mk <$> count.fold (fun index _ sofar =>
        sofar >>= fun memory => engine.cycle period memory index) (pure memory) := by
    induction count with
    | zero => simp
    | succ count ih => simp only [Nat.fold_succ, ih, bind_map_left, cycle_mk, map_bind]
  simp [Engine.drive, hcycles]

theorem engineCall_mk (engine : Engine) (memory : μ) (c : Engine.Call) :
    engine.call (mk memory) c =
      (fun (answer, memory) => (answer, mk memory)) <$> engine.call memory c := by
  cases c with
  | encode patches encrypted =>
    simp only [Engine.call]
    cases engine.encode patches encrypted <;> simp
  | _ => simp [Engine.call, execute_mk]

end Forwarded

namespace Session

/-- A step with its memory reached directly. -/
def Step.direct : Step → Step
  | .execute _ => .execute .direct
  | .cycles count period _ => .cycles count period .direct
  | .read place size _ => .read place size .direct
  | .readByte place _ => .readByte place .direct
  | .readPair place _ => .readPair place .direct
  | .write place size value _ => .write place size value .direct
  | .writeByte place value _ => .writeByte place value .direct
  | .writePair place value _ => .writePair place value .direct
  | step => step

theorem calling_direct (session : Session) (route : Route) (call : Engine.Call) :
    session.calling route call = session.calling .direct call := by
  cases route with
  | direct => rfl
  | forwarded => simp [calling, Route.reading, Forwarded.engineCall_mk]

theorem accessing_direct (session : Session) (route : Route) (call : Accessor.Call) :
    session.accessing route call = session.accessing .direct call := by
  cases route with
  | direct => rfl
  | forwarded => simp [accessing, Route.reading, Forwarded.call_mk]

theorem through_drive (route : Route) (engine : Engine) (memory : Memory) (count period : Nat) :
    route.through memory (fun memory => engine.drive memory count period) =
      engine.drive memory count period := by
  cases route with
  | direct => rfl
  | forwarded => simp [Route.through, Forwarded.drive_mk]

/-- **A step by any route is the step taken directly.** -/
theorem perform_direct (session : Session) (step : Step) :
    session.perform step = session.perform step.direct := by
  cases step with
  | execute route => exact session.calling_direct route .execute
  | cycles count period route => simp only [perform, Step.direct, through_drive]
  | read address size route => exact session.accessing_direct route _
  | readByte address route => exact session.accessing_direct route _
  | readPair address route => exact session.accessing_direct route _
  | write address size value route => exact session.accessing_direct route _
  | writeByte address value route => exact session.accessing_direct route _
  | writePair address value route => exact session.accessing_direct route _
  | _ => rfl

end Session
end CheatCode
