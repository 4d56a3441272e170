/-
# Traced values

A value together with the trace of making it: the events reported and the pauses taken, in order.
Traced values form a monad whose `bind` joins the traces.
-/

import CheatCode.Event

namespace CheatCode

/-- A moment of a trace. -/
inductive Moment where
  | event (event : Event)
  | pause (milliseconds : Nat)
  deriving DecidableEq, Repr

namespace Moment

/-- The event of a moment that is one. -/
def event? : Moment → Option Event
  | .event e => some e
  | .pause _ => none

/-- How long a moment lasts. -/
def duration : Moment → Nat
  | .event _ => 0
  | .pause milliseconds => milliseconds

end Moment

/-- A value and the trace of making it. -/
structure Traced (α : Type) where
  value : α
  trace : Array Moment := #[]

namespace Traced

variable {α β : Type}

instance : Monad Traced where
  pure a := ⟨a, #[]⟩
  bind x f :=
    let y := f x.value
    ⟨y.value, x.trace ++ y.trace⟩

@[simp] theorem value_pure (a : α) : (pure a : Traced α).value = a := rfl

@[simp] theorem trace_pure (a : α) : (pure a : Traced α).trace = #[] := rfl

@[simp] theorem value_bind (x : Traced α) (f : α → Traced β) :
    (x >>= f).value = (f x.value).value := rfl

@[simp] theorem trace_bind (x : Traced α) (f : α → Traced β) :
    (x >>= f).trace = x.trace ++ (f x.value).trace := rfl

instance : LawfulMonad Traced := LawfulMonad.mk' Traced
  (fun x => by cases x; simp [Functor.map])
  (fun a f => by simp [bind, pure])
  (fun x f g => by simp [bind, Array.append_assoc])

@[simp] theorem value_map (f : α → β) (x : Traced α) : (f <$> x).value = f x.value := rfl

@[simp] theorem trace_map (f : α → β) (x : Traced α) : (f <$> x).trace = x.trace := by
  simp only [map_eq_pure_bind, trace_bind, trace_pure, Array.append_empty]

/-- Reports an event. -/
def emit (event : Event) : Traced Unit := ⟨(), #[.event event]⟩

/-- Takes a pause. -/
def pause (milliseconds : Nat) : Traced Unit := ⟨(), #[.pause milliseconds]⟩

/-- Folds a list from the left, one traced step for each element. -/
def fold (step : β → α → Traced β) (start : β) (items : List α) : Traced β :=
  items.foldl (fun sofar item => sofar >>= (step · item)) (pure start)

@[simp] theorem fold_nil (step : β → α → Traced β) (start : β) :
    fold step start [] = pure start := rfl

/-- A fold that starts with a traced value. -/
theorem foldl_bind (step : β → α → Traced β) (x : Traced β) (items : List α) :
    items.foldl (fun sofar item => sofar >>= (step · item)) x =
      x >>= fun start => fold step start items := by
  induction items generalizing x with
  | nil => simp
  | cons item items ih =>
    have hstart : ∀ start, fold step start (item :: items) =
        step start item >>= fun next => fold step next items := fun start => by
      rw [fold, List.foldl_cons, pure_bind, ih]
    simp only [List.foldl_cons, hstart]
    rw [ih, bind_assoc]

@[simp] theorem fold_cons (step : β → α → Traced β) (start : β) (item : α) (items : List α) :
    fold step start (item :: items) = step start item >>= fun next => fold step next items := by
  rw [fold, List.foldl_cons, pure_bind, foldl_bind]

/-- The value of a fold is the fold of the values. -/
theorem value_fold (step : β → α → Traced β) (start : β) (items : List α) :
    (fold step start items).value = items.foldl (fun b a => (step b a).value) start := by
  induction items generalizing start with
  | nil => rfl
  | cons item items ih => rw [fold_cons, value_bind, ih, List.foldl_cons]

/-- The events of a trace, in order. -/
def events (x : Traced α) : List Event := x.trace.toList.filterMap Moment.event?

/-- The time that the pauses of a trace take together. -/
def elapsed (x : Traced α) : Nat :=
  x.trace.toList.foldr (fun moment total => moment.duration + total) 0

@[simp] theorem events_pure (a : α) : (pure a : Traced α).events = [] := rfl

@[simp] theorem events_bind (x : Traced α) (f : α → Traced β) :
    (x >>= f).events = x.events ++ (f x.value).events := by
  simp [events]

@[simp] theorem events_map (f : α → β) (x : Traced α) : (f <$> x).events = x.events := by
  simp only [events, trace_map]

@[simp] theorem events_emit (event : Event) : (emit event).events = [event] := rfl

@[simp] theorem events_pause (milliseconds : Nat) : (pause milliseconds).events = [] := rfl

@[simp] theorem elapsed_pure (a : α) : (pure a : Traced α).elapsed = 0 := rfl

@[simp] theorem elapsed_bind (x : Traced α) (f : α → Traced β) :
    (x >>= f).elapsed = x.elapsed + (f x.value).elapsed := by
  simp only [elapsed, trace_bind, Array.toList_append, List.foldr_append]
  induction x.trace.toList with
  | nil => simp only [List.foldr_nil, Nat.zero_add]
  | cons moment rest ih => simp only [List.foldr_cons, ih, Nat.add_assoc]

@[simp] theorem elapsed_map (f : α → β) (x : Traced α) : (f <$> x).elapsed = x.elapsed := by
  simp only [elapsed, trace_map]

@[simp] theorem elapsed_emit (event : Event) : (emit event).elapsed = 0 := rfl

@[simp] theorem elapsed_pause (milliseconds : Nat) :
    (pause milliseconds).elapsed = milliseconds := by
  simp [pause, elapsed, Moment.duration]

end Traced
end CheatCode
