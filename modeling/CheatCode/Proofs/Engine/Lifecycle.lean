/-
# The life of an engine

A new engine takes calls in any order.  What it is after them is told by the calls alone, without a
look at the engine on the way: it is active exactly if a start has not been ended since
(`Engine.Call.Running`), its codes are then those of the most recent start, and it keeps its format
and has no failure to tell of.  All that it does to a memory is that each execution writes the codes
active at that moment (`Engine.used_lifecycle`).
-/

import CheatCode.Proofs.Engine.Calls
import Mathlib.Data.List.Basic
import Mathlib.Data.List.Induction

namespace CheatCode
namespace Engine

/-- Some start has no end of it after it. -/
def Call.Running (cs : List Call) : Prop :=
  ∃ before text encrypted after,
    cs = before ++ .start text encrypted :: after ∧ ∀ later ∈ after, later.ends = false

theorem Call.not_running_nil : ¬ Running [] := fun ⟨before, _, _, _, h, _⟩ => by
  cases before <;> cases h

/-- The last call decides if it is a start or an end, and leaves the decision to the others if
it is neither. -/
theorem Call.running_append_iff {cs : List Call} {c : Call} :
    Running (cs ++ [c]) ↔ c.startText?.isSome ∨ c.ends = false ∧ Running cs := by
  constructor
  · rintro ⟨before, text, encrypted, after, h, hafter⟩
    rcases List.eq_nil_or_concat after with rfl | ⟨after, last, rfl⟩
    · obtain ⟨-, rfl⟩ := List.append_singleton_inj.1 h
      exact .inl rfl
    · rw [List.concat_eq_append] at h hafter
      rw [← List.cons_append, ← List.append_assoc] at h
      obtain ⟨rfl, rfl⟩ := List.append_singleton_inj.1 h
      exact .inr ⟨hafter c (List.mem_append_right _ (List.mem_singleton_self c)),
        before, text, encrypted, after, rfl, fun later hlater =>
          hafter later (List.mem_append_left _ hlater)⟩
  · rintro (hstart | ⟨hends, before, text, encrypted, after, rfl, hafter⟩)
    · cases c with
      | start text encrypted => exact ⟨cs, text, encrypted, [], rfl, List.forall_mem_nil _⟩
      | _ => cases hstart
    · refine ⟨before, text, encrypted, after ++ [c], ?_, fun later hlater => ?_⟩
      · rw [List.append_assoc, List.cons_append]
      · rcases List.mem_append.1 hlater with hlater | hlater
        · exact hafter later hlater
        · rwa [List.mem_singleton.1 hlater]

variable {μ : Type} [Accessor μ]

/-- Calls leave the format and the error as they are. -/
theorem format_error_calls (engine : Engine) (memory : μ) (cs : List Call) :
    (engine.calls memory cs).value.1.format = engine.format ∧
      (engine.calls memory cs).value.1.error = engine.error := by
  induction cs using List.reverseRecOn with
  | nil => exact ⟨rfl, rfl⟩
  | append_singleton cs c ih =>
    rw [engine_calls_append]
    cases c.startText? with
    | some text => exact ih
    | none => cases c.ends <;> exact ih

/-- The engine after some calls does not depend on the memory. -/
theorem engine_calls_eq {ν : Type} [Accessor ν] (engine : Engine) (memory : μ) (other : ν)
    (cs : List Call) : (engine.calls memory cs).value.1 = (engine.calls other cs).value.1 := by
  induction cs using List.reverseRecOn with
  | nil => rfl
  | append_singleton cs c ih => rw [engine_calls_append, engine_calls_append, ih]

/-- **A new engine is active exactly if a start has not been ended since.** -/
theorem isActive_calls_iff (format : Format) (memory : μ) (cs : List Call) :
    (calls { format } memory cs).value.1.isActive = true ↔ Call.Running cs := by
  induction cs using List.reverseRecOn with
  | nil => exact iff_of_false Bool.false_ne_true Call.not_running_nil
  | append_singleton cs c ih =>
    rw [engine_calls_append, Call.running_append_iff, ← ih]
    cases c.startText? with
    | some text => exact iff_of_true rfl (.inl rfl)
    | none => cases hends : c.ends <;> simp [isActive]

/-- **The codes held are those of the most recent start.** -/
theorem exists_startText_of_codes {format : Format} {memory : μ} {cs : List Call}
    {codes : List Poke} (h : (calls { format } memory cs).value.1.codes = some codes) :
    ∃ text, (cs.filterMap Call.startText?).getLast? = some text ∧ codes = CodeText.pokes text := by
  induction cs using List.reverseRecOn with
  | nil => cases h
  | append_singleton cs c ih =>
    rw [engine_calls_append] at h
    rw [List.filterMap_append]
    cases hstart : c.startText? with
    | some text =>
      rw [hstart] at h
      refine ⟨text, ?_, (Option.some.inj h).symm⟩
      rw [List.filterMap_cons_some hstart, List.filterMap_nil, List.getLast?_concat]
    | none =>
      rw [List.filterMap_cons_none hstart, List.filterMap_nil, List.append_nil]
      rw [hstart] at h
      cases hends : c.ends with
      | true =>
        rw [hends] at h
        cases h
      | false =>
        rw [hends] at h
        exact ih h

/-- A new engine and a memory that records, after some calls. -/
def used (format : Format) (memory : μ) (cs : List Call) : Engine × Recorder μ :=
  (calls { format } (Recorder.mk memory []) cs).value

/-- What call number `i` writes: the codes active at that moment, if it is an execution. -/
def writesAt (format : Format) (memory : μ) (cs : List Call) (i : Nat) : List Access :=
  if cs[i]? = some .execute then (used format memory (cs.take i)).1.activeCodes.map Poke.access
  else []

/-- The record changes nothing. -/
theorem value_calls_eq_used (format : Format) (memory : μ) (cs : List Call) :
    (calls { format } memory cs).value =
      ((used format memory cs).1, (used format memory cs).2.inner) := by
  refine Prod.ext (engine_calls_eq _ _ _ cs) ?_
  induction cs using List.reverseRecOn with
  | nil => rfl
  | append_singleton cs c ih =>
    rw [memory_calls_append, used, memory_calls_append, ← used, ih,
      engine_calls_eq _ memory (Recorder.mk memory []), ← used]
    split
    · rw [poked_recorder]
    · rfl

/-- The calls on record are the writes of the executions, one after the other. -/
theorem accesses_used (format : Format) (memory : μ) (cs : List Call) :
    (used format memory cs).2.accesses =
      (List.range cs.length).flatMap (writesAt format memory cs) := by
  -- from the last call: it meets the engine that the others leave, and their writes stay
  induction cs using List.reverseRecOn with
  | nil => rfl
  | append_singleton cs c ih =>
    have hbefore : ∀ i ∈ List.range cs.length,
        writesAt format memory (cs ++ [c]) i = writesAt format memory cs i := fun i hi => by
      have hlt := List.mem_range.1 hi
      rw [writesAt, List.getElem?_append_left hlt, List.take_append_of_le_length (Nat.le_of_lt hlt),
        ← writesAt]
    have hlast : writesAt format memory (cs ++ [c]) cs.length =
        if c = .execute then (used format memory cs).1.activeCodes.map Poke.access else [] := by
      rw [writesAt, List.getElem?_concat_length, List.take_left]
      simp only [Option.some.injEq]
    rw [List.length_append, List.length_singleton, List.range_succ, List.flatMap_append,
      List.flatMap_congr hbefore, ← ih, List.flatMap_singleton, hlast, used, memory_calls_append,
      ← used]
    split
    · rw [poked_recorder]
    · rw [List.append_nil]

/-- **The life of an engine, told by its calls.**  After any calls, in any order and with any
arguments, a new engine is active exactly if a start has not been ended since.  While active it
holds the codes of its most recent start and of no other, and while idle none.  Its format stays
and it has no error to tell of.  Whatever the memory, the accesses made to it are the writes of the
codes active at each execution, and a memory without a record is left the same. -/
theorem used_lifecycle (format : Format) (memory : μ) (cs : List Call) :
    let engine := (used format memory cs).1
    (engine.isActive = true ↔ Call.Running cs) ∧
      (engine.isActive = true → ∃ text, (cs.filterMap Call.startText?).getLast? = some text ∧
        engine.activeCodes = (CodeText.read text).value) ∧
      (engine.isActive = false → engine.activeCodes = []) ∧
      engine.format = format ∧ engine.errorText = "" ∧
      (used format memory cs).2.accesses =
        (List.range cs.length).flatMap (writesAt format memory cs) ∧
      (calls { format } memory cs).value = (engine, (used format memory cs).2.inner) := by
  intro engine
  obtain ⟨hformat, herror⟩ := format_error_calls { format } (Recorder.mk memory []) cs
  refine ⟨isActive_calls_iff format _ cs, fun hactive => ?_, fun hidle => ?_, hformat, herror,
    accesses_used format memory cs, value_calls_eq_used format memory cs⟩
  · obtain ⟨codes, hcodes⟩ := Option.isSome_iff_exists.1 hactive
    obtain ⟨text, htext, rfl⟩ := exists_startText_of_codes hcodes
    exact ⟨text, htext, by rw [activeCodes, hcodes]; rfl⟩
  · rw [activeCodes, Option.isNone_iff_eq_none.1 (Option.isSome_eq_false_iff.1 hidle)]
    rfl

end Engine
end CheatCode
