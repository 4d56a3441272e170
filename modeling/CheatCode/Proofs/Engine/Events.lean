/-
# What an engine reports

Driving an engine reports what its executions report, each followed by the end of its cycle
(`Engine.events_drive`).  What a write to an image reports depends on where the image lies and on
how long it is, and a write changes neither.  So every execution over an image reports the same: one
warning for each active code beside the image, in the order of the codes, and then how many codes
there are (`Engine.events_execute`).

| call | events |
| --- | --- |
| `start` | one for each line skipped, then `started` |
| `stop`, `dispose` | `stopped` if the engine is active |
| `execute` | the warnings, then `wrote`, if the engine is active |
-/

import CheatCode.Proofs.CodeText.Grammar
import CheatCode.Proofs.Engine.Overlay

namespace CheatCode

namespace Image

/-- The warnings that some codes give when they are put into an image: one for each code beside
it. -/
def warnings (image : Image) (codes : List Poke) : List Event :=
  (codes.filter fun code => ¬ image.Covers code.address 1).map fun code =>
    .outOfRange .write code.address 1

/-- Where an image lies decides what it covers. -/
theorem covers_congr {a b : Image} (hbase : b.base = a.base) (hsize : b.bytes.size = a.bytes.size)
    (address size : UInt64) : b.Covers address size ↔ a.Covers address size := by
  rw [Covers, Covers, hbase, hsize]

theorem warnings_congr {a b : Image} (hbase : b.base = a.base)
    (hsize : b.bytes.size = a.bytes.size) (codes : List Poke) :
    b.warnings codes = a.warnings codes := by
  simp only [warnings, covers_congr hbase hsize]

/-- A write inside an image reports nothing, and one that leaves it gives one warning. -/
theorem events_write (image : Image) (address size value : UInt64) :
    (Accessor.write image address size value).events =
      if image.Covers address size then [] else [.outOfRange .write address size] := by
  by_cases h : image.Covers address size
  · rw [write_of_covers value h, if_pos h, Traced.events_pure]
  · rw [write_of_not_covers value h, if_neg h]
    rfl

end Image

namespace Engine

/-! ## One call -/

/-- A start reports the lines that it skips, and then how many codes it has taken. -/
theorem events_start (engine : Engine) (text : String) (encrypted : Bool) :
    (engine.start text encrypted).events =
      (CodeText.skipped text).map .skipped ++
        [.started engine.format (CodeText.pokes text).length] := by
  simp only [start, plainText_eq, Traced.events_bind, CodeText.events_read, Traced.events_emit,
    Traced.events_pure, List.append_nil]
  rfl

/-- A stop is reported by an active engine alone. -/
theorem events_stop (engine : Engine) :
    engine.stop.events = if engine.isActive then [.stopped engine.format] else [] := by
  unfold stop
  split <;> rfl

/-- The writes of some codes give their warnings. -/
theorem events_fold_write (image : Image) (codes : List Poke) :
    (Traced.fold (fun memory (code : Poke) =>
      Accessor.write memory code.address 1 code.value.toUInt64) image codes).events =
      image.warnings codes := by
  induction codes generalizing image with
  | nil => rfl
  | cons code codes ih =>
    rw [Traced.fold_cons, Traced.events_bind, ih, Image.events_write,
      Image.warnings_congr (Image.base_write _ _ _ _) (Image.size_write _ _ _ _)]
    by_cases h : image.Covers code.address 1
    · rw [if_pos h, List.nil_append, Image.warnings, Image.warnings,
        List.filter_cons_of_neg (by simpa using h)]
    · rw [if_neg h, Image.warnings, Image.warnings, List.filter_cons_of_pos (by simpa using h),
        List.map_cons, List.singleton_append]

/-- **An execution over an image reports each code beside it, and then its own end**; an idle engine
reports nothing. -/
theorem events_execute (engine : Engine) (image : Image) :
    (engine.execute image).events =
      match engine.codes with
      | none => []
      | some codes => image.warnings codes ++ [.wrote engine.format codes.length] := by
  unfold execute
  cases engine.codes with
  | none => rfl
  | some codes =>
    simp only [Traced.events_bind, events_fold_write, Traced.events_emit, Traced.events_pure,
      List.append_nil]

/-- Executions over images that lie alike report the same. -/
theorem events_execute_congr (engine : Engine) {a b : Image} (hbase : b.base = a.base)
    (hsize : b.bytes.size = a.bytes.size) :
    (engine.execute b).events = (engine.execute a).events := by
  rw [events_execute, events_execute]
  cases engine.codes with
  | none => rfl
  | some codes => simp only [Image.warnings_congr hbase hsize]

/-! ## Driving -/

section

variable {μ : Type} [Accessor μ]

/-- A cycle reports its execution and then its end, and leaves what the execution leaves. -/
theorem events_cycle (engine : Engine) (period : Nat) (memory : μ) (index : Nat) :
    (engine.cycle period memory index).events =
      (engine.execute memory).events ++ [.cycle index] := by
  by_cases h : index = 0 <;> simp [cycle, h]

/-- **Driving an engine reports its executions, each followed by the end of its cycle**, and then
the end of all cycles.  Execution `k` meets the memory that the `k` before it leave. -/
theorem events_drive (engine : Engine) (memory : μ) (count period : Nat) :
    (engine.drive memory count period).events =
      (List.range count).flatMap (fun k =>
        (engine.execute ((fun memory => (engine.execute memory).value)^[k] memory)).events ++
          [.cycle k]) ++ [.cyclesDone engine.format count] := by
  simp only [drive, Traced.events_bind, Traced.events_emit, Traced.events_pure, List.append_nil]
  congr 1
  induction count with
  | zero => rfl
  | succ count ih =>
    rw [Nat.fold_succ, Traced.events_bind, ih, List.range_succ, List.flatMap_append,
      List.flatMap_singleton, events_cycle, value_fold_cycle]

end

/-- Executions neither move an image nor change its length. -/
theorem base_size_iterate_execute (engine : Engine) (image : Image) (count : Nat) :
    let after := (fun image => (engine.execute image).value)^[count] image
    after.base = image.base ∧ after.bytes.size = image.bytes.size := by
  induction count with
  | zero => exact ⟨rfl, rfl⟩
  | succ count ih =>
    rw [Function.iterate_succ_apply']
    exact ⟨(base_execute _ _).trans ih.1, (size_execute _ _).trans ih.2⟩

/-- **Each cycle over an image reports what the first one does.** -/
theorem events_drive_image (engine : Engine) (image : Image) (count period : Nat) :
    (engine.drive image count period).events =
      (List.range count).flatMap (fun k => (engine.execute image).events ++ [.cycle k]) ++
        [.cyclesDone engine.format count] := by
  rw [events_drive]
  congr 2
  funext k
  obtain ⟨hbase, hsize⟩ := base_size_iterate_execute engine image k
  rw [events_execute_congr engine hbase hsize]

end Engine
end CheatCode
