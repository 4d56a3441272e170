/-
# Codes against a host that writes

A host takes turns with an engine: at each turn it calls the engine or uses the memory itself
(`Engine.Turn`), so it may overwrite what the engine has put there.  It can do no more than that:
the engine after some turns is the one that its own calls have made (`Engine.engine_turns`).  Each
execution therefore puts the codes of the most recent start in force again, the last code winning
where several are for one address (`Poke.IsLast`), and touches no other byte
(`Engine.turns_execute`).
-/

import CheatCode.Proofs.Engine.Lifecycle
import CheatCode.Proofs.Memory.ByteMap

namespace CheatCode

namespace Poke

/-- A poke is the last one for an address: none after it is for the same one. -/
def IsLast (codes : List Poke) (n : Nat) (code : Poke) : Prop :=
  ∃ before after, codes = before ++ code :: after ∧ code.address.toNat = n ∧
    ∀ later ∈ after, later.address.toNat ≠ n

/-- There is no value for an address that no poke is for. -/
theorem lastValue?_eq_none {codes : List Poke} {n : Nat}
    (h : ∀ code ∈ codes, code.address.toNat ≠ n) : lastValue? codes n = none := by
  induction codes with
  | nil => rfl
  | cons code codes ih =>
    obtain ⟨hcode, hcodes⟩ := List.forall_mem_cons.1 h
    rw [lastValue?_cons, ih hcodes, if_neg hcode]
    rfl

/-- **The value for an address is that of the last poke for it**, whatever stands before. -/
theorem IsLast.lastValue? {codes : List Poke} {n : Nat} {code : Poke} (h : IsLast codes n code) :
    lastValue? codes n = some code.value := by
  obtain ⟨before, after, rfl, haddress, hafter⟩ := h
  rw [lastValue?_append, lastValue?_cons, lastValue?_eq_none hafter, if_pos haddress]
  rfl

/-- Where a poke is for an address, one is the last for it. -/
theorem exists_isLast {codes : List Poke} {n : Nat} (h : ∃ code ∈ codes, code.address.toNat = n) :
    ∃ last, IsLast codes n last := by
  induction codes with
  | nil =>
    obtain ⟨_, hmem, _⟩ := h
    cases hmem
  | cons code codes ih =>
    by_cases hrest : ∃ other ∈ codes, other.address.toNat = n
    · obtain ⟨last, before, after, rfl, haddress, hafter⟩ := ih hrest
      exact ⟨last, code :: before, after, rfl, haddress, hafter⟩
    · -- no other poke is for the address, so the first one is
      have hafter : ∀ later ∈ codes, later.address.toNat ≠ n := fun later hlater heq =>
        hrest ⟨later, hlater, heq⟩
      obtain ⟨found, hmem, hfound⟩ := h
      rcases List.mem_cons.1 hmem with rfl | hmem
      · exact ⟨found, [], codes, rfl, hfound, hafter⟩
      · exact absurd hfound (hafter found hmem)

end Poke

namespace Engine

/-- What happens at one turn: a call of the engine, or one of the memory by the host. -/
inductive Turn where
  | engine (call : Call)
  | memory (call : Accessor.Call)
  deriving DecidableEq, Repr

/-- The call of the engine, if the turn is one. -/
def Turn.call? : Turn → Option Call
  | .engine c => some c
  | .memory _ => none

section

variable {μ : Type} [Accessor μ]

/-- Takes a turn, the answer left aside. -/
def turn (engine : Engine) (memory : μ) : Turn → Traced (Engine × μ)
  | .engine c => do
    let ((engine, _), memory) ← engine.call memory c
    return (engine, memory)
  | .memory c => do
    let (_, memory) ← Accessor.call memory c
    return (engine, memory)

/-- Takes some turns, one after the other. -/
def turns (engine : Engine) (memory : μ) (ts : List Turn) : Traced (Engine × μ) :=
  Traced.fold (fun (engine, memory) t => engine.turn memory t) (engine, memory) ts

/-- The last of some turns meets the engine and the memory that the others leave. -/
theorem value_turns_append (engine : Engine) (memory : μ) (ts : List Turn) (t : Turn) :
    (engine.turns memory (ts ++ [t])).value =
      ((engine.turns memory ts).value.1.turn (engine.turns memory ts).value.2 t).value := by
  simp only [turns, Traced.value_fold, List.foldl_append, List.foldl_cons, List.foldl_nil]

/-- **What the host does to the memory does not reach the engine**, which is made by its own calls
alone. -/
theorem engine_turns (engine : Engine) (memory : μ) (ts : List Turn) :
    (engine.turns memory ts).value.1 =
      (engine.calls memory (ts.filterMap Turn.call?)).value.1 := by
  -- the two memories have parted by now, but no call lets the engine see its memory
  induction ts using List.reverseRecOn with
  | nil => rfl
  | append_singleton ts t ih =>
    rw [value_turns_append, List.filterMap_append]
    cases t with
    | engine c =>
      have hcall : [Turn.engine c].filterMap Turn.call? = [c] := rfl
      rw [hcall, engine_calls_append, ← ih]
      exact engine_call _ _ c
    | memory c =>
      have hcall : [Turn.memory c].filterMap Turn.call? = [] := rfl
      rw [hcall, List.append_nil, ← ih]
      rfl

/-- An execution puts the codes active after the other turns into the memory and leaves the engine
as it is. -/
theorem value_turns_execute (engine : Engine) (memory : μ) (ts : List Turn) :
    (engine.turns memory (ts ++ [.engine .execute])).value =
      ((engine.turns memory ts).value.1,
        poked (engine.turns memory ts).value.2 (engine.turns memory ts).value.1.activeCodes) := by
  rw [value_turns_append, turn, Traced.value_bind, value_call_execute]
  rfl

end

/-! ## Turns on an image -/

/-- No turn moves an image or changes its length. -/
theorem base_size_turn (engine : Engine) (image : Image) (t : Turn) :
    (engine.turn image t).value.2.base = image.base ∧
      (engine.turn image t).value.2.bytes.size = image.bytes.size := by
  cases t with
  | engine c =>
    have hmemory : (engine.turn image (.engine c)).value.2 =
        if c = .execute then poked image engine.activeCodes else image := memory_call engine image c
    rw [hmemory]
    split
    · exact ⟨base_poked _ _, size_poked _ _⟩
    · exact ⟨rfl, rfl⟩
  | memory c =>
    have hmemory : (engine.turn image (.memory c)).value.2 =
        (Accessor.use image c.access).value.2 := congrArg Prod.snd (image.value_call c)
    rw [hmemory]
    exact ⟨image.base_use _, image.size_use _⟩

theorem base_size_turns (engine : Engine) (image : Image) (ts : List Turn) :
    (engine.turns image ts).value.2.base = image.base ∧
      (engine.turns image ts).value.2.bytes.size = image.bytes.size := by
  induction ts using List.reverseRecOn with
  | nil => exact ⟨rfl, rfl⟩
  | append_singleton ts t ih =>
    have hturn := base_size_turn (engine.turns image ts).value.1 (engine.turns image ts).value.2 t
    rw [value_turns_append]
    exact ⟨hturn.1.trans ih.1, hturn.2.trans ih.2⟩

/-- Some codes are in force in an image that was another one before: each byte that they are for
is that of the last of them, and every other byte is what it was. -/
structure InForce (codes : List Poke) (before after : Image) : Prop where
  base : after.base = before.base
  size : after.bytes.size = before.bytes.size
  held : ∀ n, (before.byteAt? n).isSome → (∃ code ∈ codes, code.address.toNat = n) →
    ∃ last, Poke.IsLast codes n last ∧ after.byteAt? n = some last.value
  kept : ∀ n, (∀ code ∈ codes, code.address.toNat ≠ n) → after.byteAt? n = before.byteAt? n

/-- **Codes that are put into an image are in force in it.** -/
theorem inForce_poked (image : Image) (codes : List Poke) :
    InForce codes image (poked image codes) where
  base := base_poked image codes
  size := size_poked image codes
  held n hbyte hcode := by
    obtain ⟨last, hlast⟩ := Poke.exists_isLast hcode
    obtain ⟨byte, hbyte⟩ := Option.isSome_iff_exists.1 hbyte
    refine ⟨last, hlast, ?_⟩
    rw [byteAt?_poked, hbyte, Option.map_some, hlast.lastValue?, Option.getD_some]
  kept n hnone := by
    rw [byteAt?_poked, Poke.lastValue?_eq_none hnone]
    exact Option.map_id'

/-- **Each execution puts the codes in force, whatever the host has done.**  A new engine and a host
take turns at an image in any way.  The engine is then active exactly if a start has not been ended
since, with the codes of the most recent start.  An execution now leaves these codes in force
(`InForce`), and one more with nothing in between changes nothing; an idle engine leaves the image
as it is. -/
theorem turns_execute (format : Format) (image : Image) (ts : List Turn) :
    let now := (turns { format } image ts).value
    let after := (turns { format } image (ts ++ [.engine .execute])).value
    let own := ts.filterMap Turn.call?
    (now.1.isActive = true ↔ Call.Running own) ∧
      (now.1.isActive = true →
        (∃ text, (own.filterMap Call.startText?).getLast? = some text ∧
          now.1.activeCodes = (CodeText.read text).value) ∧
        InForce now.1.activeCodes now.2 after.2) ∧
      (now.1.isActive = false → after.2 = now.2) ∧
      after.1 = now.1 ∧
      (turns { format } image (ts ++ [.engine .execute] ++ [.engine .execute])).value = after ∧
      after.2.base = image.base ∧ after.2.bytes.size = image.bytes.size := by
  intro now after own
  have hengine : now.1 = (calls { format } image own).value.1 := engine_turns { format } image ts
  have hafter : after = (now.1, poked now.2 now.1.activeCodes) :=
    value_turns_execute { format } image ts
  obtain ⟨hbase, hsize⟩ := base_size_turns { format } image (ts ++ [.engine .execute])
  refine ⟨?_, fun hactive => ⟨?_, ?_⟩, fun hidle => ?_, ?_, ?_, hbase, hsize⟩
  · rw [hengine]
    exact isActive_calls_iff format image own
  · obtain ⟨codes, hcodes⟩ := Option.isSome_iff_exists.1 hactive
    obtain ⟨text, htext, rfl⟩ := exists_startText_of_codes (hengine ▸ hcodes)
    exact ⟨text, htext, by rw [activeCodes, hcodes]; rfl⟩
  · rw [hafter]
    exact inForce_poked _ _
  · have hcodes : now.1.codes = none :=
      Option.isNone_iff_eq_none.1 (Option.isSome_eq_false_iff.1 hidle)
    rw [hafter, activeCodes, hcodes]
    rfl
  · rw [hafter]
  · have htwice : (turns { format } image (ts ++ [.engine .execute] ++ [.engine .execute])).value =
        (after.1, poked after.2 after.1.activeCodes) := value_turns_execute { format } image _
    rw [htwice, hafter, poked_poked]

end Engine
end CheatCode
