/-
# Starts and stops of a session

The events of a session are kept with the number of the engine that reports them (`Session.told`):
an engine that is replaced makes place for the next number, and its last events are still its own.
What such a record says of an engine (`standing`) is its last start, unless a stop has come after
it.  Each step reports only what fits: a stop or a writing of codes where a start stands, with its
format and its number of codes.  And after each step the record says of the engine what the engine
is (`Session.allFit_step`).  So a stop, and every writing, has its start before it with no stop in
between (`Session.told_lifetimes`).

| step | what it tells of the engine's life |
| --- | --- |
| `start` | `started` with the number of codes |
| `stop`, `dispose`, `newEngine`, `drop` | `stopped` if the engine is active |
| `execute` | `wrote` with the number of codes if the engine is active |
| `cycles` | as many times that |
| any other | nothing |
-/

import CheatCode.Proofs.Engine.Events
import CheatCode.Proofs.Engine.Lifecycle
import CheatCode.Proofs.Session.Route

namespace CheatCode

/-! ## Events that tell of a life -/

namespace Event

/-- Whether an event tells of the life of an engine. -/
def tellsOfLife : Event → Bool
  | .started _ _ | .stopped _ | .wrote _ _ => true
  | _ => false

/-- Whether an event is a start of an engine. -/
def isStart : Event → Bool
  | .started _ _ => true
  | _ => false

/-- Whether an event is the end of an engine's activity. -/
def isStop : Event → Bool
  | .stopped _ => true
  | _ => false

end Event

namespace Traced

variable {α β : Type}

/-- The events that tell of the life of an engine. -/
def life (x : Traced α) : List Event := x.events.filter Event.tellsOfLife

@[simp] theorem life_pure (a : α) : (pure a : Traced α).life = [] := rfl

@[simp] theorem life_bind (x : Traced α) (f : α → Traced β) :
    (x >>= f).life = x.life ++ (f x.value).life := by
  simp [life]

@[simp] theorem life_map (f : α → β) (x : Traced α) : (f <$> x).life = x.life := by
  simp [life]

end Traced

namespace Session

/-- A memory has nothing to tell of an engine's life when it is written to. -/
theorem life_write (memory : Memory) (address size value : UInt64) :
    (Accessor.write memory address size value).life = [] := by
  cases memory with
  | image image =>
    rw [Memory.write_image, Traced.life_map, Traced.life, Image.events_write]
    split <;> rfl
  | probe probe => rfl

theorem life_read (memory : Memory) (address size : UInt64) :
    (Accessor.read memory address size).life = [] := by
  cases memory with
  | image image =>
    rw [Memory.read_image, Traced.life_map]
    simp only [Accessor.read]
    split <;> rfl
  | probe probe => rfl

/-- Nor does any other call of a memory tell of one. -/
theorem life_accessorCall (memory : Memory) (c : Accessor.Call) :
    (Accessor.call memory c).life = [] := by
  cases c <;> simp [Accessor.call, Accessor.readByte, Accessor.readPair, Accessor.writeByte,
    Accessor.writePair, life_read, life_write]

theorem life_fold_write (memory : Memory) (codes : List Poke) :
    (Traced.fold (fun memory (code : Poke) =>
      Accessor.write memory code.address 1 code.value.toUInt64) memory codes).life = [] := by
  induction codes generalizing memory with
  | nil => rfl
  | cons code codes ih => rw [Traced.fold_cons, Traced.life_bind, life_write, ih, List.append_nil]

end Session

/-- To read a code text tells of no engine. -/
theorem CodeText.life_read (text : String) : (read text).life = [] := by
  rw [Traced.life, events_read]
  simp [List.filter_map, Function.comp_def, Event.tellsOfLife]

namespace Engine

/-- What an execution tells of the life of its engine. -/
def writing (engine : Engine) : List Event :=
  match engine.codes with
  | none => []
  | some codes => [.wrote engine.format codes.length]

theorem life_execute (engine : Engine) (memory : Memory) :
    (engine.execute memory).life = engine.writing := by
  unfold execute writing
  cases engine.codes with
  | none => rfl
  | some codes =>
    simp only [Traced.life_bind, Session.life_fold_write, Traced.life_pure, List.append_nil,
      List.nil_append]
    rfl

theorem life_drive (engine : Engine) (memory : Memory) (count period : Nat) :
    (engine.drive memory count period).life =
      (List.range count).flatMap fun _ => engine.writing := by
  have hcycle : ∀ memory : Memory, (engine.execute memory).events.filter Event.tellsOfLife =
      engine.writing := engine.life_execute
  rw [Traced.life, events_drive]
  simp only [List.filter_append, List.filter_flatMap, hcycle]
  simp [Event.tellsOfLife]

/-- A start tells of the codes that the engine has taken. -/
theorem life_start (engine : Engine) (text : String) (encrypted : Bool) :
    (engine.start text encrypted).life =
      [.started engine.format (CodeText.pokes text).length] := by
  simp only [start, plainText_eq, Traced.life_bind, CodeText.life_read, Traced.life_pure,
    List.nil_append, List.append_nil]
  rfl

theorem life_address (engine : Engine) (text : String) (encrypted : Bool) :
    (engine.address text encrypted).life = [] := by
  simp [address, CodeText.firstAddress, CodeText.life_read]

theorem life_stop (engine : Engine) :
    engine.stop.life = if engine.isActive then [.stopped engine.format] else [] := by
  rw [Traced.life, events_stop]
  split <;> rfl

/-- What a call tells of the life of its engine. -/
def Call.life (engine : Engine) : Call → List Event
  | .start text _ => [.started engine.format (CodeText.pokes text).length]
  | .stop | .dispose => if engine.isActive then [.stopped engine.format] else []
  | .execute => engine.writing
  | _ => []

theorem life_call (engine : Engine) (memory : Memory) (c : Call) :
    (engine.call memory c).life = c.life engine := by
  cases c with
  | start text encrypted => simp [call, Call.life, life_start]
  | stop => simp [call, Call.life, life_stop]
  | dispose => simp [call, Call.life, dispose, life_stop]
  | execute => simp [call, Call.life, life_execute]
  | address text encrypted => simp [call, Call.life, life_address]
  | encode patches encrypted =>
    simp only [call, encode_eq]
    cases Patch.encode patches <;> rfl
  | _ => rfl

end Engine

/-! ## One step -/

namespace Session

theorem life_calling (session : Session) (c : Engine.Call) :
    (session.calling .direct c).life = c.life session.engine := by
  simp [calling, Route.reading, Engine.life_call]

theorem life_accessing (session : Session) (c : Accessor.Call) :
    (session.accessing .direct c).life = [] := by
  simp [accessing, Route.reading, life_accessorCall]

/-- What a step tells of the life of the engine that is there. -/
def Step.life (engine : Engine) : Step → List Event
  | .start text _ => [.started engine.format (CodeText.pokes text).length]
  | .stop | .dispose | .newEngine .. | .drop =>
    if engine.isActive then [.stopped engine.format] else []
  | .execute _ => engine.writing
  | .cycles count _ _ => (List.range count).flatMap fun _ => engine.writing
  | _ => []

theorem life_perform (session : Session) (s : Step) :
    (session.perform s).life = s.life session.engine := by
  rw [perform_direct]
  cases s with
  | read | readByte | readPair | write | writeByte | writePair => exact session.life_accessing _
  | cycles count period route =>
    simp [perform, Step.direct, Step.life, withMemory, through_drive, Engine.life_drive]
  | newEngine format closed =>
    simp [perform, Step.direct, Step.life, Engine.dispose, Engine.life_stop]
  | drop => simp [perform, Step.direct, Step.life, Engine.dispose, Engine.life_stop]
  | newMemory memory => rfl
  | _ => exact session.life_calling _

/-- **Each step tells of the engine that is there when it is taken, and of no other.** -/
theorem life_step (session : Session) (s : Step) :
    (session.step s).life = s.life session.engine :=
  life_perform { session with memory := session.memory.cleared } s

/-- The call of the engine that a step is: one that replaces the engine disposes of it. -/
def Step.call? : Step → Option Engine.Call
  | .start text encrypted => some (.start text encrypted)
  | .stop => some .stop
  | .dispose | .newEngine .. | .drop => some .dispose
  | .execute _ => some .execute
  | _ => none

/-- The format of the engine that a step puts in the place of another. -/
def Step.fresh? : Step → Option Format
  | .newEngine format _ => some format
  | .drop => some .standard
  | _ => none

/-- Whether a step is an end of the engine's activity. -/
def Step.ends (s : Step) : Bool := (s.call?.map Engine.Call.ends).getD false

theorem engine_calling (session : Session) (c : Engine.Call) :
    (session.calling .direct c).value.1.engine =
      match c.startText? with
      | some text => { session.engine with codes := some (CodeText.pokes text) }
      | none => if c.ends then { session.engine with codes := none } else session.engine :=
  session.engine.engine_call session.memory c

/-- The codes after a step are those of its call. -/
theorem codes_step (session : Session) (s : Step) :
    (session.step s).value.1.engine.codes =
      match s.call? with
      | none => session.engine.codes
      | some c =>
        match c.startText? with
        | some text => some (CodeText.pokes text)
        | none => if c.ends then none else session.engine.codes := by
  rw [step, perform_direct]
  cases s with
  | start text encrypted => exact congrArg Engine.codes (engine_calling _ (.start text encrypted))
  | stop => exact congrArg Engine.codes (engine_calling _ .stop)
  | dispose => exact congrArg Engine.codes (engine_calling _ .dispose)
  | execute => exact congrArg Engine.codes (engine_calling _ .execute)
  | encode patches encrypted =>
    exact congrArg Engine.codes (engine_calling _ (.encode patches encrypted))
  | _ => rfl

/-- Only a new engine brings a new format. -/
theorem format_step (session : Session) (s : Step) :
    (session.step s).value.1.engine.format = s.fresh?.getD session.engine.format := by
  have hcalling : ∀ (session : Session) (c : Engine.Call),
      (session.calling .direct c).value.1.engine.format = session.engine.format := by
    intro session c
    rw [engine_calling]
    cases c.startText? with
    | some text => rfl
    | none => cases c.ends <;> rfl
  rw [step, perform_direct]
  cases s with
  | start | stop | dispose | execute | encode => exact hcalling _ _
  | _ => rfl

/-! ## What a record says -/

/-- The last start that stands, as its format and its number of codes, after one more event. -/
def note (now : Option (Format × Nat)) : Event → Option (Format × Nat)
  | .started format count => some (format, count)
  | .stopped _ => none
  | _ => now

/-- An event fits what stands: a stop and a writing need a start. -/
def Fits (now : Option (Format × Nat)) : Event → Prop
  | .stopped format => ∃ count, now = some (format, count)
  | .wrote format count => now = some (format, count)
  | _ => True

/-- Events that fit, one after the other. -/
def AllFit (now : Option (Format × Nat)) : List Event → Prop
  | [] => True
  | event :: events => Fits now event ∧ AllFit (note now event) events

/-- An event that tells of no life leaves standing what stands. -/
theorem note_of_not_life (now : Option (Format × Nat)) {event : Event}
    (h : event.tellsOfLife = false) : note now event = now := by
  cases event <;> first | rfl | cases h

theorem fits_of_not_life (now : Option (Format × Nat)) {event : Event}
    (h : event.tellsOfLife = false) : Fits now event := by
  cases event <;> first | exact trivial | cases h

/-- Only the events that tell of a life count for what stands. -/
theorem foldl_note_filter (now : Option (Format × Nat)) (events : List Event) :
    (events.filter Event.tellsOfLife).foldl note now = events.foldl note now := by
  induction events generalizing now with
  | nil => rfl
  | cons event events ih =>
    cases h : event.tellsOfLife with
    | true => rw [List.filter_cons_of_pos h, List.foldl_cons, List.foldl_cons, ih]
    | false =>
      rw [List.filter_cons_of_neg (by simp [h]), List.foldl_cons, note_of_not_life now h, ih]

/-- And only they can fail to fit. -/
theorem allFit_of_filter {now : Option (Format × Nat)} {events : List Event}
    (h : AllFit now (events.filter Event.tellsOfLife)) : AllFit now events := by
  induction events generalizing now with
  | nil => trivial
  | cons event events ih =>
    cases hlife : event.tellsOfLife with
    | true =>
      rw [List.filter_cons_of_pos hlife] at h
      exact ⟨h.1, ih h.2⟩
    | false =>
      rw [List.filter_cons_of_neg (by simp [hlife])] at h
      exact ⟨fits_of_not_life now hlife, ih (by rwa [note_of_not_life now hlife])⟩

theorem allFit_append (now : Option (Format × Nat)) (events later : List Event) :
    AllFit now (events ++ later) ↔ AllFit now events ∧ AllFit (events.foldl note now) later := by
  induction events generalizing now with
  | nil => exact (iff_of_eq (true_and _)).symm
  | cons event events ih => simp only [List.cons_append, AllFit, ih, List.foldl_cons, and_assoc]

/-- What stands was started, and neither stopped nor started again since. -/
theorem exists_started {events : List Event} {format : Format} {count : Nat}
    (h : events.foldl note none = some (format, count)) :
    ∃ earlier between, events = earlier ++ .started format count :: between ∧
      ∀ event ∈ between, event.isStart = false ∧ event.isStop = false := by
  induction events using List.reverseRecOn with
  | nil => cases h
  | append_singleton events event ih =>
    rw [List.foldl_concat] at h
    have hkeep (hstart : event.isStart = false) (hstop : event.isStop = false)
        (hnote : note (events.foldl note none) event = events.foldl note none) :
        ∃ earlier between, events ++ [event] = earlier ++ .started format count :: between ∧
          ∀ event ∈ between, event.isStart = false ∧ event.isStop = false := by
      obtain ⟨earlier, between, rfl, hbetween⟩ := ih (hnote ▸ h)
      refine ⟨earlier, between ++ [event], by simp, fun later hlater => ?_⟩
      rcases List.mem_append.1 hlater with hlater | hlater
      · exact hbetween later hlater
      · exact List.mem_singleton.1 hlater ▸ ⟨hstart, hstop⟩
    cases event with
    | started format' count' =>
      cases h
      exact ⟨events, [], rfl, List.forall_mem_nil _⟩
    | stopped format' => cases h
    | _ => exact hkeep rfl rfl rfl

/-- The start that stands for an engine: its format and the number of its codes. -/
def standing (engine : Engine) : Option (Format × Nat) :=
  engine.codes.map fun codes => (engine.format, codes.length)

theorem allFit_writing (engine : Engine) :
    AllFit (standing engine) engine.writing ∧
      engine.writing.foldl note (standing engine) = standing engine := by
  unfold standing Engine.writing
  cases engine.codes with
  | none => exact ⟨trivial, rfl⟩
  | some codes => exact ⟨⟨rfl, trivial⟩, rfl⟩

/-- Writing the codes of an engine fits as often as one likes, and nothing changes by it. -/
theorem allFit_writings (engine : Engine) (cycles : List Nat) :
    AllFit (standing engine) (cycles.flatMap fun _ => engine.writing) ∧
      (cycles.flatMap fun _ => engine.writing).foldl note (standing engine) = standing engine := by
  obtain ⟨hfit, hnote⟩ := allFit_writing engine
  induction cycles with
  | nil => exact ⟨trivial, rfl⟩
  | cons cycle cycles ih =>
    rw [List.flatMap_cons, allFit_append, List.foldl_append, hnote]
    exact ⟨⟨hfit, ih.1⟩, ih.2⟩

/-- **What a step tells fits the engine that is there**, and leaves standing what this engine is
after the step. -/
theorem allFit_step (session : Session) (s : Step) :
    AllFit (standing session.engine) (session.step s).events ∧
      (session.step s).events.foldl note (standing session.engine) =
        (session.step s).value.1.engine.codes.map fun codes =>
          (session.engine.format, codes.length) := by
  have hlife : (session.step s).events.filter Event.tellsOfLife = s.life session.engine :=
    session.life_step s
  suffices h : AllFit (standing session.engine) (s.life session.engine) ∧
      (s.life session.engine).foldl note (standing session.engine) =
        (session.step s).value.1.engine.codes.map fun codes =>
          (session.engine.format, codes.length) by
    rw [← hlife, foldl_note_filter] at h
    exact ⟨allFit_of_filter h.1, h.2⟩
  rw [codes_step]
  have hend : AllFit (standing session.engine)
        (if session.engine.isActive then [Event.stopped session.engine.format] else []) ∧
      (if session.engine.isActive then [Event.stopped session.engine.format] else []).foldl note
        (standing session.engine) = none := by
    unfold standing Engine.isActive
    cases session.engine.codes with
    | none => exact ⟨trivial, rfl⟩
    | some codes => exact ⟨⟨⟨codes.length, rfl⟩, trivial⟩, rfl⟩
  cases s with
  | start text encrypted => exact ⟨⟨trivial, trivial⟩, rfl⟩
  | stop | dispose | newEngine | drop => exact hend
  | execute route => exact allFit_writing session.engine
  | cycles count period route => exact allFit_writings session.engine (List.range count)
  | _ => exact ⟨trivial, rfl⟩

/-! ## The record of a session -/

/-- The session after some steps. -/
def after (session : Session) (steps : List Step) : Session :=
  steps.foldl (fun session s => (session.step s).value.1) session

theorem after_append (session : Session) (steps later : List Step) :
    session.after (steps ++ later) = (session.after steps).after later :=
  List.foldl_append

theorem after_concat (session : Session) (steps : List Step) (s : Step) :
    session.after (steps ++ [s]) = ((session.after steps).step s).value.1 :=
  session.after_append steps [s]

/-- The number of the engine that is there after a step, from the number of the one before. -/
def Step.numberAfter (s : Step) (number : Nat) : Nat :=
  if s.fresh?.isSome then number + 1 else number

/-- The events of some steps, each with the number of the engine it is reported under. -/
def told (session : Session) (number : Nat) : List Step → List (Nat × Event)
  | [] => []
  | s :: steps =>
    (session.step s).events.map (number, ·) ++
      told (session.step s).value.1 (s.numberAfter number) steps

/-- The events of one engine, in their order. -/
def eventsOf (number : Nat) (record : List (Nat × Event)) : List Event :=
  (record.filter (·.1 == number)).map (·.2)

theorem eventsOf_append (number : Nat) (record later : List (Nat × Event)) :
    eventsOf number (record ++ later) = eventsOf number record ++ eventsOf number later := by
  simp [eventsOf]

theorem eventsOf_map (number own : Nat) (events : List Event) :
    eventsOf number (events.map (own, ·)) = if own = number then events else [] := by
  rw [eventsOf, List.filter_map, List.map_map]
  split <;> simp_all [Function.comp_def]

/-- **All events of an engine fit.**  They begin at what stands when the record begins, for the
engine that is there, and at nothing for any other. -/
theorem allFit_told (session : Session) (own number : Nat) (steps : List Step) :
    AllFit (if own = number then standing session.engine else none)
      (eventsOf number (session.told own steps)) := by
  induction steps generalizing session own with
  | nil => exact trivial
  | cons s steps ih =>
    obtain ⟨hfit, hnote⟩ := session.allFit_step s
    have hnext := ih (session.step s).value.1 (s.numberAfter own)
    -- an engine that has just come holds no codes
    have hfresh : s.fresh?.isSome → (session.step s).value.1.engine.codes = none := by
      rw [codes_step]
      cases s <;> first | exact fun _ => rfl | exact fun h => nomatch h
    have hstanding : (if s.numberAfter own = number then
          standing (session.step s).value.1.engine else none) =
        if own = number then
          (session.step s).value.1.engine.codes.map fun codes =>
            (session.engine.format, codes.length)
        else none := by
      unfold standing Step.numberAfter
      cases hnew : s.fresh? with
      | none => rw [format_step, hnew]; rfl
      | some format =>
        rw [hfresh (by rw [hnew]; rfl)]
        simp
    rw [hstanding] at hnext
    rw [told, eventsOf_append, eventsOf_map]
    split
    · rename_i hown
      rw [if_pos hown] at hnext
      exact (allFit_append ..).2 ⟨hfit, hnote ▸ hnext⟩
    · rename_i hown
      rwa [if_neg hown] at hnext

/-- Each event of an engine fits what stands at its place. -/
theorem fits_of_split {events before after : List Event} {event : Event}
    (h : AllFit none events) (hsplit : events = before ++ event :: after) :
    Fits (before.foldl note none) event := by
  subst hsplit
  exact ((allFit_append ..).1 h).2.1

theorem told_append (session : Session) (number : Nat) (steps later : List Step) :
    session.told number (steps ++ later) =
      session.told number steps ++
        (session.after steps).told (steps.foldl (fun n s => s.numberAfter n) number) later := by
  induction steps generalizing session number with
  | nil => rfl
  | cons s steps ih => rw [List.cons_append, told, told, ih, List.append_assoc]; rfl

theorem le_numberAfter (s : Step) (number : Nat) : number ≤ s.numberAfter number := by
  unfold Step.numberAfter
  split <;> omega

theorem le_of_mem_told {session : Session} {number : Nat} {steps : List Step} {e : Nat × Event}
    (h : e ∈ session.told number steps) : number ≤ e.1 := by
  induction steps generalizing session number with
  | nil => cases h
  | cons s steps ih =>
    rcases List.mem_append.1 h with h | h
    · obtain ⟨event, -, rfl⟩ := List.mem_map.1 h
      exact Nat.le_refl _
    · exact Nat.le_trans (le_numberAfter s number) (ih h)

/-- **The events of an engine are all before those of the engines after it.** -/
theorem told_ordered (session : Session) (number : Nat) (steps : List Step) :
    (session.told number steps).Pairwise fun e later => e.1 ≤ later.1 := by
  induction steps generalizing session number with
  | nil => exact .nil
  | cons s steps ih =>
    refine List.pairwise_append.2 ⟨?_, ih _ _, fun e he later hlater => ?_⟩
    · exact List.pairwise_map.2 (List.pairwise_of_forall fun _ _ => Nat.le_refl _)
    · obtain ⟨event, -, rfl⟩ := List.mem_map.1 he
      exact Nat.le_trans (le_numberAfter s number) (le_of_mem_told hlater)

/-! ## Periods of activity -/

/-- Some start has no end after it: the engine that is there is active. -/
def Running (steps : List Step) : Prop := Engine.Call.Running (steps.filterMap Step.call?)

theorem running_concat_iff {steps : List Step} {s : Step} :
    Running (steps ++ [s]) ↔
      (s.call?.bind Engine.Call.startText?).isSome ∨ s.ends = false ∧ Running steps := by
  unfold Running
  rw [List.filterMap_append]
  cases hcall : s.call? with
  | none => simp [hcall, Step.ends]
  | some c =>
    simp only [List.filterMap_cons_some hcall, List.filterMap_nil, Engine.Call.running_append_iff,
      Option.bind_some, Step.ends, hcall, Option.map_some, Option.getD_some]

/-- No start is an end. -/
theorem Step.ends_of_startText {s : Step} (h : (s.call?.bind Engine.Call.startText?).isSome) :
    s.ends = false := by
  cases s <;> first | rfl | cases h

/-- **The engine of a session is active exactly if a start has not been ended since.** -/
theorem isActive_after_iff (format : Format) (closed : Bool) (memory : Memory)
    (steps : List Step) :
    (after { engine := { format }, closed, memory } steps).engine.isActive = true ↔
      Running steps := by
  induction steps using List.reverseRecOn with
  | nil => exact iff_of_false Bool.false_ne_true Engine.Call.not_running_nil
  | append_singleton steps s ih =>
    rw [after_concat, Engine.isActive, codes_step, running_concat_iff, ← ih, Engine.isActive,
      Step.ends]
    cases s.call? with
    | none => simp
    | some c =>
      simp only [Option.bind_some, Option.map_some, Option.getD_some]
      cases c.startText? with
      | some text => simp
      | none => cases c.ends <;> simp

/-- The stops that a step tells of: that of the engine that is there, if the step ends its
activity. -/
theorem stops_step (session : Session) (s : Step) :
    (session.step s).events.filter Event.isStop =
      if s.ends ∧ session.engine.isActive then [.stopped session.engine.format] else [] := by
  have hstops : (session.step s).events.filter Event.isStop =
      (s.life session.engine).filter Event.isStop := by
    rw [← life_step, Traced.life, List.filter_filter]
    refine List.filter_congr fun event _ => ?_
    cases event <;> rfl
  have hwriting : session.engine.writing.filter Event.isStop = [] := by
    unfold Engine.writing
    cases session.engine.codes <;> rfl
  rw [hstops]
  cases s with
  | stop | dispose | newEngine | drop =>
    show List.filter Event.isStop (if _ then _ else _) = _
    simp only [Step.ends, Step.call?, Option.map_some, Option.getD_some, Engine.Call.ends,
      true_and]
    split <;> rfl
  | execute route => exact hwriting
  | cycles count period route =>
    show List.filter Event.isStop (List.flatMap _ _) = _
    simp only [List.filter_flatMap, hwriting]
    simp [Step.ends, Step.call?]
  | _ => rfl

/-- A step that brings a new engine reports the stop of the one before, and nothing else. -/
theorem events_fresh (session : Session) {s : Step} (h : s.fresh?.isSome) :
    (session.step s).events = (session.step s).events.filter Event.isStop := by
  have hdispose : session.engine.dispose.events =
      session.engine.dispose.events.filter Event.isStop := by
    rw [Engine.dispose, Engine.events_stop]
    split <;> rfl
  cases s with
  | newEngine format closed => simpa [step, perform] using hdispose
  | drop => simpa [step, perform] using hdispose
  | _ => cases h

/-- A maximal stretch of activity of one engine: idle before it, active after each of its steps,
and idle again after the step that follows. -/
structure Period (before period : List Step) (last : Step) : Prop where
  idle : ¬ Running before
  nonempty : period ≠ []
  active : ∀ part, part ≠ [] → part <+: period → Running (before ++ part)
  ended : ¬ Running (before ++ period ++ [last])

namespace Period

variable {before period : List Step} {last : Step}

/-- No step of a period is an end, whatever starts it holds. -/
theorem ends_of_mem (h : Period before period last) {s : Step} (hs : s ∈ period) :
    s.ends = false := by
  obtain ⟨part, rest, rfl⟩ := List.append_of_mem hs
  have hrunning := h.active (part ++ [s]) (by simp) ⟨rest, by simp⟩
  rw [← List.append_assoc, running_concat_iff] at hrunning
  exact hrunning.elim Step.ends_of_startText And.left

theorem running (h : Period before period last) : Running (before ++ period) :=
  h.active period h.nonempty List.prefix_rfl

/-- The step after a period is its end. -/
theorem ends_last (h : Period before period last) : last.ends = true := by
  by_contra hends
  exact h.ended (running_concat_iff.2 (.inr ⟨Bool.eq_false_iff.2 hends, h.running⟩))

end Period

/-- Steps that are no ends keep the engine, and report no stop. -/
theorem keeps_of_not_ends (session : Session) (number : Nat) {steps : List Step}
    (h : ∀ s ∈ steps, s.ends = false) :
    (session.told number steps).filter (·.2.isStop) = [] ∧
      steps.foldl (fun n s => s.numberAfter n) number = number ∧
      (session.after steps).engine.format = session.engine.format := by
  induction steps generalizing session with
  | nil => exact ⟨rfl, rfl, rfl⟩
  | cons s steps ih =>
    obtain ⟨hs, hsteps⟩ := List.forall_mem_cons.1 h
    have hfresh : s.fresh? = none := by
      cases s <;> first | rfl | cases hs
    have hnumber : s.numberAfter number = number := by rw [Step.numberAfter, hfresh]; rfl
    have hformat : (session.step s).value.1.engine.format = session.engine.format := by
      rw [format_step, hfresh]
      rfl
    obtain ⟨hstops, hnumbers, hformats⟩ := ih (session.step s).value.1 hsteps
    refine ⟨?_, ?_, hformats.trans hformat⟩
    · rw [told, hnumber, List.filter_append, hstops, List.append_nil, List.filter_map]
      have hown : (session.step s).events.filter Event.isStop = [] := by
        rw [stops_step, if_neg (by simp [hs])]
      exact congrArg (List.map (number, ·)) hown
    · rw [List.foldl_cons, hnumber, hnumbers]

/-- **There is one stop for each period of activity**, and the step that ends it reports it. -/
theorem stops_period (format : Format) (closed : Bool) (memory : Memory) (number : Nat)
    {before period : List Step} {last : Step} (h : Period before period last) :
    let session := after { engine := { format }, closed, memory } before
    (session.told number (period ++ [last])).filter (·.2.isStop) =
      [(number, .stopped session.engine.format)] := by
  intro session
  obtain ⟨hstops, hnumber, hformat⟩ := session.keeps_of_not_ends number fun s => h.ends_of_mem
  have hactive : (session.after period).engine.isActive = true := by
    rw [← after_append, isActive_after_iff]
    exact h.running
  have hlast : ((session.after period).step last).events.filter Event.isStop =
      [.stopped session.engine.format] := by
    rw [stops_step, if_pos ⟨h.ends_last, hactive⟩, hformat]
  rw [told_append, List.filter_append, hstops, hnumber, List.nil_append, told, told,
    List.append_nil, List.filter_map]
  exact congrArg (List.map (number, ·)) hlast

/-! ## Every session -/

/-- **Starts and stops pair up over every session.**  Let a session open with an engine of any
format, open or closed, and any memory, and take any steps; its events are kept with the number of
the engine that reports them.

* Each stop of an engine has a start of this engine before it with no stop between them; and each
  writing of `count` codes has a start with `count` codes before it, with neither a stop nor another
  start between them.
* The events of an engine are all before those of the engines after it.
* The engine is active exactly if a start has not been ended since; a step reports the stop of the
  engine if it ends the activity, and no stop else; and a step that replaces or drops the engine
  reports nothing but this.
* So each period of activity has one stop, whatever steps are in it. -/
theorem told_lifetimes (format : Format) (closed : Bool) (memory : Memory) (steps : List Step) :
    let session : Session := { engine := { format }, closed, memory }
    let record := session.told 0 steps
    (∀ number earlier format later,
        eventsOf number record = earlier ++ .stopped format :: later →
          ∃ past count between, earlier = past ++ .started format count :: between ∧
            ∀ event ∈ between, event.isStop = false) ∧
      (∀ number earlier format count later,
        eventsOf number record = earlier ++ .wrote format count :: later →
          ∃ past between, earlier = past ++ .started format count :: between ∧
            ∀ event ∈ between, event.isStart = false ∧ event.isStop = false) ∧
      record.Pairwise (fun e later => e.1 ≤ later.1) ∧
      (∀ before s rest, steps = before ++ s :: rest →
        let engine := (session.after before).engine
        let reported := ((session.after before).step s).events
        (engine.isActive = true ↔ Running before) ∧
          reported.filter Event.isStop =
            (if s.ends ∧ engine.isActive then [.stopped engine.format] else []) ∧
          (s.fresh?.isSome →
            reported = if engine.isActive then [.stopped engine.format] else [])) ∧
      ∀ before period last rest, steps = before ++ period ++ last :: rest →
        Period before period last →
          ((session.after before).told (before.foldl (fun n s => s.numberAfter n) 0)
              (period ++ [last])).filter (·.2.isStop) =
            [(before.foldl (fun n s => s.numberAfter n) 0,
              .stopped (session.after before).engine.format)] := by
  intro session record
  have hfit : ∀ number, AllFit none (eventsOf number record) := fun number => by
    have h := session.allFit_told 0 number steps
    have hidle : standing session.engine = none := rfl
    rwa [hidle, ite_self] at h
  refine ⟨?_, ?_, session.told_ordered 0 steps, ?_, ?_⟩
  · intro number earlier format later hsplit
    obtain ⟨count, hcount⟩ := fits_of_split (hfit number) hsplit
    obtain ⟨past, between, rfl, hbetween⟩ := exists_started hcount
    exact ⟨past, count, between, rfl, fun event hevent => (hbetween event hevent).2⟩
  · intro number earlier format count later hsplit
    exact exists_started (fits_of_split (hfit number) hsplit)
  · intro before s rest hsplit engine reported
    refine ⟨isActive_after_iff format closed memory before, stops_step _ s, fun hfresh => ?_⟩
    have hends : s.ends = true := by
      cases s <;> first | rfl | cases hfresh
    rw [show reported = reported.filter Event.isStop from events_fresh _ hfresh]
    show List.filter Event.isStop ((session.after before).step s).events = _
    rw [stops_step]
    simp [hends, engine]
  · intro before period last rest hsplit hperiod
    exact stops_period format closed memory _ hperiod

end Session
end CheatCode
