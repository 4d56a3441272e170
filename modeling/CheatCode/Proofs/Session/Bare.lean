/-
# Formats and encryption do not interfere

To make an event bare means to put the standard format in the place of the one it names; to make a
step bare, to let it ask for no format, no encryption, no closed handle and no other hand.  All that
an engine does can be made bare before or after it is done, which is one equation for each of its
parts, from the events of a reading up to a step of a session (`Session.bare_step`).  So two
sessions with the same bare steps agree in all but the names (`Session.agree_step`).

| step | made bare |
| --- | --- |
| `start`, `address`, `encode` | not encrypted |
| `newEngine` | of the standard format, open |
| a use of the memory | direct |
| any other | as it is |
-/

import CheatCode.Proofs.Session.Lifetimes

namespace CheatCode

/-! ## Traces -/

/-- An event with the standard format in the place of the one that it names. -/
def Event.bare : Event → Event
  | .started _ count => .started .standard count
  | .stopped _ => .stopped .standard
  | .wrote _ count => .wrote .standard count
  | .cyclesDone _ count => .cyclesDone .standard count
  | other => other

/-- A moment with its event made bare. -/
def Moment.bare : Moment → Moment
  | .event e => .event e.bare
  | .pause milliseconds => .pause milliseconds

namespace Traced

variable {α β : Type}

/-- A traced value with its trace made bare. -/
def bare (x : Traced α) : Traced α := ⟨x.value, x.trace.map Moment.bare⟩

@[simp] theorem trace_bare (x : Traced α) : x.bare.trace = x.trace.map Moment.bare := rfl

@[simp] theorem bare_pure (a : α) : (pure a : Traced α).bare = pure a := by
  simp [bare, pure]

@[simp] theorem bare_bind (x : Traced α) (f : α → Traced β) :
    (x >>= f).bare = x.bare >>= fun a => (f a).bare := by
  simp [bare, bind]

@[simp] theorem bare_map (f : α → β) (x : Traced α) : (f <$> x).bare = f <$> x.bare := by
  simp only [map_eq_pure_bind, bare_bind, bare_pure]

@[simp] theorem bare_emit (event : Event) : (emit event).bare = emit event.bare := by
  simp [bare, emit, Moment.bare]

@[simp] theorem bare_pause (milliseconds : Nat) :
    (pause milliseconds).bare = pause milliseconds := by
  simp [bare, pause, Moment.bare]

theorem bare_fold (step : β → α → Traced β) (start : β) (items : List α) :
    (fold step start items).bare = fold (fun b a => (step b a).bare) start items := by
  induction items generalizing start with
  | nil => exact bare_pure start
  | cons item items ih => simp only [fold_cons, bare_bind, ih]

/-- The pauses stay. -/
theorem elapsed_bare (x : Traced α) : x.bare.elapsed = x.elapsed := by
  simp only [elapsed, trace_bare, Array.toList_map, List.foldr_map]
  congr 1
  funext moment total
  cases moment <;> rfl

end Traced

/-! ## Memories -/

/-- A memory that names no format in what it reports. -/
class Accessor.Bare (μ : Type) [Accessor μ] : Prop where
  bare_read : ∀ (memory : μ) (address size : UInt64),
    (Accessor.read memory address size).bare = Accessor.read memory address size
  bare_write : ∀ (memory : μ) (address size value : UInt64),
    (Accessor.write memory address size value).bare = Accessor.write memory address size value

attribute [simp] Accessor.Bare.bare_read Accessor.Bare.bare_write

instance : Accessor.Bare Image where
  bare_read image address size := by
    simp only [Accessor.read]
    split <;> simp [Event.bare]
  bare_write image address size value := by
    simp only [Accessor.write]
    split <;> simp [Event.bare]

instance : Accessor.Bare Probe where
  bare_read _ _ _ := Traced.bare_pure _
  bare_write _ _ _ _ := Traced.bare_pure _

instance : Accessor.Bare Memory where
  bare_read memory address size := by
    cases memory <;> simp [Memory.read_image, Memory.read_probe]
  bare_write memory address size value := by
    cases memory <;> simp [Memory.write_image, Memory.write_probe]

variable {μ : Type} [Accessor μ] [Accessor.Bare μ]

/-- No other call of such a memory names one. -/
theorem Accessor.bare_call (memory : μ) (c : Call) : (call memory c).bare = call memory c := by
  cases c <;> simp [call, readByte, readPair, writeByte, writePair]

/-! ## Engines -/

/-- A reading of a code text names no format. -/
theorem CodeText.bare_read (text : String) : (read text).bare = read text := by
  simp [read, Traced.bare, Moment.bare, Event.bare]

namespace Engine

/-- An engine of the standard format with the same codes. -/
def bare (engine : Engine) : Engine := { engine with format := .standard }

theorem bare_start (engine : Engine) (text : String) (encrypted : Bool) :
    bare <$> (engine.start text encrypted).bare = engine.bare.start text false := by
  simp [start, CodeText.bare_read, Event.bare, bare]

theorem bare_stop (engine : Engine) : bare <$> engine.stop.bare = engine.bare.stop := by
  unfold stop
  have hactive : engine.bare.isActive = engine.isActive := rfl
  rw [hactive]
  split <;> simp [Event.bare, bare]

theorem bare_execute (engine : Engine) (memory : μ) :
    (engine.execute memory).bare = engine.bare.execute memory := by
  obtain ⟨format, codes, error⟩ := engine
  cases codes with
  | none => simp [execute, bare]
  | some codes => simp [execute, bare, Traced.bare_fold, Event.bare]

theorem bare_cycle (engine : Engine) (period : Nat) (memory : μ) (index : Nat) :
    (engine.cycle period memory index).bare = engine.bare.cycle period memory index := by
  unfold cycle
  split <;> simp [bare_execute, Event.bare]

theorem bare_drive (engine : Engine) (memory : μ) (count period : Nat) :
    (engine.drive memory count period).bare = engine.bare.drive memory count period := by
  have hcycles : (count.fold (fun index _ sofar =>
      sofar >>= fun memory => engine.cycle period memory index) (pure memory)).bare =
      count.fold (fun index _ sofar =>
        sofar >>= fun memory => engine.bare.cycle period memory index) (pure memory) := by
    induction count with
    | zero => simp
    | succ count ih => simp only [Nat.fold_succ, Traced.bare_bind, ih, bare_cycle]
  simp [drive, hcycles, Event.bare, bare]

/-- A call that asks for no encryption. -/
def Call.bare : Call → Call
  | .start text _ => .start text false
  | .address text _ => .address text false
  | .encode patches _ => .encode patches false
  | other => other

/-- An answer with the standard format in the place of the one that it tells of. -/
def Answer.bare : Answer → Answer
  | .info i => .info { i with format := .standard }
  | other => other

/-- **A call can be made bare before or after it is made.** -/
theorem bare_call (engine : Engine) (memory : μ) (c : Call) :
    (fun result => ((result.1.1.bare, result.1.2.bare), result.2)) <$> (engine.call memory c).bare =
      engine.bare.call memory c.bare := by
  cases c with
  | start text encrypted => simp [call, Call.bare, ← bare_start engine text encrypted, Answer.bare]
  | stop => simp [call, Call.bare, ← bare_stop, Answer.bare]
  | dispose => simp [call, Call.bare, dispose, ← bare_stop, Answer.bare]
  | execute => simp [call, Call.bare, ← bare_execute, Answer.bare]
  | address text encrypted =>
    simp [call, Call.bare, address, CodeText.firstAddress, CodeText.bare_read, Answer.bare]
  | encode patches encrypted =>
    simp only [call, Call.bare, encode_eq]
    cases Patch.encode patches <;> simp [Answer.bare]
  | encrypt text => simp [call, Call.bare, encrypt, Answer.bare]
  | decrypt text => simp [call, Call.bare, decrypt, Answer.bare]
  | info =>
    simp [call, Call.bare, Answer.bare, info, canGetAddress, canEncrypt, errorText, bare]

end Engine

/-! ## Sessions -/

namespace Session

/-- The open session of the standard format with the same codes and memory. -/
def bare (session : Session) : Session :=
  { session with engine := session.engine.bare, closed := false }

/-- A step that reaches the memory directly, asks for no encryption and brings only open engines of
the standard format. -/
def Step.bare (s : Step) : Step :=
  match s.direct with
  | .start text _ => .start text false
  | .address text _ => .address text false
  | .encode patches _ => .encode patches false
  | .newEngine _ _ => .newEngine .standard false
  | other => other

/-- A reply with the standard format in the place of the one that it tells of. -/
def Reply.bare : Reply → Reply
  | .info i => .info { i with format := .standard }
  | other => other

theorem bare_replyTo (answer : Engine.Answer) : (replyTo answer).bare = replyTo answer.bare := by
  cases answer <;> rfl

theorem bare_replyOf (answer : Accessor.Answer) : (replyOf answer).bare = replyOf answer := by
  cases answer <;> rfl

theorem bare_calling (session : Session) (c : Engine.Call) :
    (fun result => (result.1.bare, result.2.bare)) <$> (session.calling .direct c).bare =
      session.bare.calling .direct c.bare := by
  have hcall := session.engine.bare_call session.memory c
  simp only [calling, Route.reading, bare] at hcall ⊢
  rw [← hcall]
  simp [bare_replyTo]

theorem bare_accessing (session : Session) (c : Accessor.Call) :
    (fun result => (result.1.bare, result.2.bare)) <$> (session.accessing .direct c).bare =
      session.bare.accessing .direct c := by
  simp [accessing, Route.reading, Accessor.bare_call, bare_replyOf, bare]

/-- **A step can be made bare before or after it is taken.** -/
theorem bare_perform (session : Session) (s : Step) :
    (fun result => (result.1.bare, result.2.bare)) <$> (session.perform s).bare =
      session.bare.perform s.bare := by
  rw [perform_direct]
  cases s with
  | start text encrypted => exact session.bare_calling (.start text encrypted)
  | stop => exact session.bare_calling .stop
  | dispose => exact session.bare_calling .dispose
  | execute route => exact session.bare_calling .execute
  | cycles count period route =>
    have hdrive := session.engine.bare_drive session.memory count period
    simp only [Step.direct, Step.bare, perform, withMemory, Route.through, bare] at hdrive ⊢
    rw [← hdrive]
    simp [Traced.elapsed_bare, Reply.bare]
  | address text encrypted => exact session.bare_calling (.address text encrypted)
  | encode patches encrypted => exact session.bare_calling (.encode patches encrypted)
  | encrypt text => exact session.bare_calling (.encrypt text)
  | decrypt text => exact session.bare_calling (.decrypt text)
  | info => exact session.bare_calling .info
  | read | readByte | readPair | write | writeByte | writePair => exact session.bare_accessing _
  | newEngine format closed =>
    simp only [Step.direct, Step.bare, perform, bare, Engine.dispose]
    rw [← Engine.bare_stop]
    simp [Reply.bare, Engine.bare]
  | newMemory memory =>
    simp only [Step.direct, Step.bare, perform, bare]
    cases session.memory <;> simp [Reply.bare]
  | drop =>
    simp only [Step.direct, Step.bare, perform, bare, Engine.dispose]
    rw [← Engine.bare_stop]
    simp [Reply.bare, Engine.bare]

theorem bare_step (session : Session) (s : Step) :
    (fun result => (result.1.bare, result.2.bare)) <$> (session.step s).bare =
      session.bare.step s.bare :=
  bare_perform { session with memory := session.memory.cleared } s

theorem bare_after (session : Session) (steps : List Step) :
    (session.after steps).bare = session.bare.after (steps.map Step.bare) := by
  induction steps generalizing session with
  | nil => rfl
  | cons s steps ih =>
    have hstep : (session.step s).value.1.bare = (session.bare.step s.bare).value.1 := by
      rw [← bare_step]
      rfl
    rw [List.map_cons, after, List.foldl_cons, ← after, ih, hstep]
    rfl

/-- Only `info` has a reply that tells of a format. -/
theorem bare_reply (session : Session) {s : Step} (h : s ≠ .info) :
    (session.step s).value.2.bare = (session.step s).value.2 := by
  have hcalling : ∀ (session : Session) (c : Engine.Call), c ≠ .info →
      (session.calling .direct c).value.2.bare = (session.calling .direct c).value.2 := by
    intro session c hc
    cases c with
    | info => exact absurd rfl hc
    | encode patches encrypted =>
      simp only [calling, Route.reading, Engine.call, Engine.encode_eq]
      cases Patch.encode patches <;> rfl
    | _ => rfl
  have haccessing : ∀ (session : Session) (c : Accessor.Call),
      (session.accessing .direct c).value.2.bare = (session.accessing .direct c).value.2 :=
    fun session c => bare_replyOf _
  rw [step, perform_direct]
  cases s with
  | info => exact absurd rfl h
  | cycles | newEngine | drop => rfl
  | newMemory memory =>
    simp only [Step.direct, perform]
    cases session.memory.cleared <;> rfl
  | read | readByte | readPair | write | writeByte | writePair => exact haccessing _ _
  | _ => exact hcalling _ _ fun hinfo => by cases hinfo

theorem Step.eq_info_of_bare {s : Step} (h : s.bare = Step.info.bare) : s = .info := by
  cases s <;> first | rfl | cases h

/-- **Steps with one bare form, taken in sessions with one bare form, agree in all but the
names.** -/
theorem agree_step {a b : Session} {s s' : Step} (hsession : a.bare = b.bare)
    (hstep : s.bare = s'.bare) :
    (s ≠ .info → (a.step s).value.2 = (b.step s').value.2) ∧
      (a.step s).value.1.bare = (b.step s').value.1.bare ∧
      (a.step s).trace.map Moment.bare = (b.step s').trace.map Moment.bare := by
  have hsame : (fun result : Session × Reply => (result.1.bare, result.2.bare)) <$>
        (a.step s).bare =
      (fun result : Session × Reply => (result.1.bare, result.2.bare)) <$> (b.step s').bare := by
    rw [bare_step, bare_step, hsession, hstep]
  have hvalue := congrArg Traced.value hsame
  refine ⟨fun hinfo => ?_, congrArg Prod.fst hvalue, ?_⟩
  · have hinfo' : s' ≠ .info := fun h => hinfo (Step.eq_info_of_bare (hstep.trans (h ▸ rfl)))
    rw [← a.bare_reply hinfo, ← b.bare_reply hinfo']
    exact congrArg Prod.snd hvalue
  · simpa using congrArg Traced.trace hsame

end Session
end CheatCode
