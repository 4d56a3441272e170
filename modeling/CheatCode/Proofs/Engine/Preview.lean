/-
# The address told beforehand

An engine can tell what address a code text writes to without taking the text.  It reads the text to
its end for this, though it wants the first code alone, so a preview and a start of one text report
the same lines (`Engine.trace_start`).  The address told is the one that the first access of an
execution goes to, and zero where an execution makes no access (`Engine.address_foretells`).

| | codes of the engine | events |
| --- | --- | --- |
| `address` | as before | one for each line skipped |
| `start` | those of the text | one for each line skipped, then `started` |
-/

import CheatCode.Proofs.Engine.Calls

namespace CheatCode
namespace Engine

/-- The address told is the one of the first code. -/
theorem value_address (engine : Engine) (text : String) (encrypted : Bool) :
    (engine.address text encrypted).value =
      match CodeText.pokes text with
      | [] => 0
      | first :: _ => first.address := by
  rw [address, plainText_eq]
  rfl

/-- Telling the address reads the whole text. -/
theorem trace_address (engine : Engine) (text : String) (encrypted : Bool) :
    (engine.address text encrypted).trace = (CodeText.read text).trace := by
  rw [address, plainText_eq, CodeText.firstAddress, Traced.trace_bind, Traced.trace_pure,
    Array.append_empty]

/-- **A start reports what a preview does**, and then how many codes it has taken. -/
theorem trace_start (engine : Engine) (text : String) (previewed started : Bool) :
    (engine.start text started).trace =
      (engine.address text previewed).trace.push
        (.event (.started engine.format (CodeText.pokes text).length)) := by
  simp only [start, plainText_eq, trace_address, Traced.trace_bind, Traced.trace_pure,
    Array.append_empty]
  rfl

/-- **The address told beforehand is the one that is written to first.**  Whatever the engine is
doing and whatever the memory, if a start with the text and an execution after it make an access at
all, then the first is a write at the address told for the text; if they make none, the address told
is zero.  Neither answer depends on whether the text is said to be encrypted.  A preview reports the
lines skipped and nothing else, the start reports the same lines and then the number of codes, and
the preview leaves the engine and the memory as they were. -/
theorem address_foretells {μ : Type} [Accessor μ] (engine : Engine) (memory : μ) (text : String)
    (previewed started : Bool) :
    let preview := engine.address text previewed
    let active := engine.start text started
    let accesses := (active.value.execute (Recorder.mk memory [])).value.accesses
    (accesses = [] ∧ preview.value = 0 ∨
        ∃ value rest, accesses = .write preview.value 1 value :: rest) ∧
      (∃ lines : List (List Char),
        preview.trace.toList = lines.map fun line => .event (.skipped line)) ∧
      active.trace = preview.trace.push (.event (.started engine.format accesses.length)) ∧
      (engine.call memory (.address text previewed)).value =
        ((engine, .address preview.value), memory) := by
  intro preview active accesses
  have haccesses : accesses = (CodeText.pokes text).map Poke.access := by
    simp only [accesses, active, accesses_execute, value_start, List.nil_append]
    rfl
  refine ⟨?_, ⟨CodeText.skipped text, ?_⟩, ?_, rfl⟩
  · have hvalue : preview.value = _ := engine.value_address text previewed
    rw [haccesses, hvalue]
    cases CodeText.pokes text with
    | nil => exact .inl ⟨rfl, rfl⟩
    | cons first codes => exact .inr ⟨first.value.toUInt64, codes.map Poke.access, rfl⟩
  · have htrace : preview.trace = _ := engine.trace_address text previewed
    rw [htrace]
    rfl
  · rw [haccesses, List.length_map]
    exact engine.trace_start text previewed started

/-- A text whose first code comes late and one whose first address is zero: the first tells the
address of its code, and the second a zero that is written to. -/
example : (address { format := .sfcPar } "bad\n\n7E1234 00" true).value = 0x7E1234 ∧
    (address { format := .snesPar } "000000 01\n7E1234 00" false).value = 0 := by
  decide

end Engine
end CheatCode
