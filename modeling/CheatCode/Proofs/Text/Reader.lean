/-
# How readers read

A reader made of others reads as its parts do, one after the other or the one in the place of the
other; so a reading is told by equations, from the front of the text on.  A repetition reads pieces
that its reader reads, up to where the reader fails (`Text.Reader.many_pieces`).

Of what a reader gives, whatever the text, something can be said by its parts alone
(`Text.Reader.Gives`): a reader gives what the last of its steps gives, and a choice what one of
the two gives.
-/

import CheatCode.Text.Reader
import Mathlib.Data.List.Forall2

namespace CheatCode
namespace Text
namespace Reader

variable {α β : Type}

/-! ## Equations -/

@[simp] theorem pure_apply (a : α) (cs : List Char) : (pure a : Reader α) cs = some (a, cs) := rfl

@[simp] theorem bind_apply (p : Reader α) (f : α → Reader β) (cs : List Char) :
    (p >>= f) cs = (p cs).bind fun r => f r.1 r.2 := rfl

@[simp] theorem map_apply (f : α → β) (p : Reader α) (cs : List Char) :
    (f <$> p) cs = (p cs).map fun r => (f r.1, r.2) := by
  show Option.bind (p cs) _ = _
  cases p cs <;> rfl

@[simp] theorem orElse_apply (p q : Reader α) (cs : List Char) :
    (p <|> q) cs = (p cs).or (q cs) := by
  show Option.orElse (p cs) _ = _
  cases p cs <;> rfl

@[simp] theorem discard_apply (p : Reader α) (cs : List Char) :
    (discard p : Reader PUnit) cs = (p cs).map fun r => (⟨⟩, r.2) :=
  map_apply _ p cs

theorem discard_bind_apply (p : Reader α) (f : PUnit → Reader β) (cs : List Char) :
    (discard p >>= f) cs = (p >>= fun _ => f ⟨⟩) cs := by
  rw [bind_apply, discard_apply, bind_apply]
  cases p cs <;> rfl

@[simp] theorem maybe_apply (p : Reader α) (cs : List Char) :
    maybe p cs = some (((p cs).map fun r => (some r.1, r.2)).getD (none, cs)) := by
  simp only [maybe, orElse_apply, map_apply, pure_apply]
  cases p cs <;> rfl

@[simp] theorem lift_apply (x : Option α) (cs : List Char) :
    (liftM x : Reader α) cs = x.map fun a => (a, cs) := by
  show Option.bind x _ = _
  cases x <;> rfl

@[simp] theorem char_cons_self (c : Char) (cs : List Char) : char c (c :: cs) = some ((), cs) :=
  if_pos rfl

theorem char_cons_of_ne {c d : Char} (h : d ≠ c) (cs : List Char) : char c (d :: cs) = none :=
  if_neg (Ne.symm h)

theorem next_cons_of_pos {accepts : Char → Bool} {c : Char} (h : accepts c = true)
    (cs : List Char) : next accepts (c :: cs) = some (c, cs) :=
  if_pos h

theorem next_cons_of_neg {accepts : Char → Bool} {c : Char} (h : accepts c = false)
    (cs : List Char) : next accepts (c :: cs) = none :=
  if_neg (by simp [h])

theorem literal_cons (c : Char) (cs : List Char) :
    literal (c :: cs) = char c >>= fun _ => literal cs := rfl

/-- A span takes what is of its class up to the first character that is not. -/
theorem span_append {accepts : Char → Bool} {front rest : List Char}
    (hfront : ∀ c ∈ front, accepts c = true) (hrest : ∀ c ∈ rest.head?, accepts c = false) :
    span accepts (front ++ rest) = some (front, rest) := by
  have hstop : rest.takeWhile accepts = [] ∧ rest.dropWhile accepts = rest := by
    cases rest with
    | nil => exact ⟨rfl, rfl⟩
    | cons c rest => simp [hrest c rfl]
  rw [span, List.takeWhile_append_of_pos hfront, List.dropWhile_append_of_pos hfront, hstop.1,
    hstop.2, List.append_nil]

/-! ## Repetitions -/

theorem many_of_none {p : Reader α} {cs : List Char} (h : p cs = none) :
    many p cs = some ([], cs) := by
  rw [many, h]

/-- A repetition ends where its reader stands still. -/
theorem many_of_stay {p : Reader α} {cs : List Char} {a : α} (h : p cs = some (a, cs)) :
    many p cs = some ([], cs) := by
  rw [many, h]
  simp

theorem many_of_some {p : Reader α} {cs rest rest' : List Char} {a : α} {as : List α}
    (h : p cs = some (a, rest)) (hlt : rest.length < cs.length)
    (hrest : many p rest = some (as, rest')) : many p cs = some (a :: as, rest') := by
  rw [many, h]
  simp [hlt, hrest]

/-- **A repetition reads pieces that its reader reads**, up to where the reader fails. -/
theorem many_pieces {p : Reader α} {pieces : List (List Char)} {as : List α} {rest : List Char}
    (h : List.Forall₂ (fun piece a => piece ≠ [] ∧ ∀ later, p (piece ++ later) = some (a, later))
      pieces as) (hrest : p rest = none) :
    many p (pieces.flatten ++ rest) = some (as, rest) := by
  induction h with
  | nil => exact many_of_none hrest
  | @cons piece a pieces as hpiece _ ih =>
    rw [List.flatten_cons, List.append_assoc]
    refine many_of_some (hpiece.2 _) ?_ ih
    have hpos := List.length_pos_iff.2 hpiece.1
    simp only [List.length_append]
    omega

/-! ## What a reader gives -/

/-- All that a reader gives has some property, whatever the text. -/
def Gives (p : Reader α) (property : α → Prop) : Prop :=
  ∀ cs a rest, p cs = some (a, rest) → property a

variable {property : α → Prop} {later : β → Prop}

theorem gives_pure {a : α} (h : property a) : Gives (pure a) property := by
  intro cs a rest hread
  cases hread
  exact h

theorem Gives.bind {p : Reader α} {f : α → Reader β} (hp : Gives p property)
    (hf : ∀ a, property a → Gives (f a) later) : Gives (p >>= f) later := by
  intro cs b rest hread
  obtain ⟨⟨a, middle⟩, ha, hb⟩ := Option.bind_eq_some_iff.1 hread
  exact hf a (hp _ _ _ ha) _ _ _ hb

/-- What is read first may be of no concern. -/
theorem gives_bind {p : Reader α} {f : α → Reader β} (hf : ∀ a, Gives (f a) later) :
    Gives (p >>= f) later := by
  intro cs b rest hread
  obtain ⟨⟨a, middle⟩, -, hb⟩ := Option.bind_eq_some_iff.1 hread
  exact hf a _ _ _ hb

theorem Gives.orElse {p q : Reader α} (hp : Gives p property) (hq : Gives q property) :
    Gives (p <|> q) property := by
  intro cs a rest hread
  rw [orElse_apply, Option.or_eq_some_iff] at hread
  rcases hread with hread | ⟨-, hread⟩
  · exact hp _ _ _ hread
  · exact hq _ _ _ hread

theorem gives_lift {x : Option α} (h : ∀ a, x = some a → property a) :
    Gives (liftM x : Reader α) property := by
  intro cs a rest hread
  rw [lift_apply, Option.map_eq_some_iff] at hread
  obtain ⟨_, hx, hpair⟩ := hread
  cases hpair
  exact h _ hx

theorem Gives.maybe {p : Reader α} (h : Gives p property) :
    Gives (maybe p) fun found => ∀ a, found = some a → property a := by
  intro cs found rest hread a hfound
  subst hfound
  rw [maybe_apply] at hread
  cases hp : p cs with
  | none => simp [hp] at hread
  | some r =>
    simp only [hp, Option.map_some, Option.getD_some, Option.some.injEq, Prod.mk.injEq] at hread
    exact h _ _ _ (hp.trans (congrArg (fun a => some (a, r.2)) hread.1))

theorem Gives.many {p : Reader α} (h : Gives p property) :
    Gives (many p) fun as => ∀ a ∈ as, property a := by
  intro cs as rest hread
  fun_induction Reader.many p cs generalizing as rest with
  | case1 cs hnone => cases hread; exact List.forall_mem_nil _
  | case2 cs a middle hfirst hlt hmany ih =>
    cases hread
    exact List.forall_mem_singleton.2 (h _ _ _ hfirst)
  | case3 cs a middle hfirst hlt as' rest' hmany ih =>
    cases hread
    exact List.forall_mem_cons.2 ⟨h _ _ _ hfirst, ih _ _ hmany⟩
  | case4 cs a middle hread' hstay => cases hread; exact List.forall_mem_nil _

end Reader
end Text
end CheatCode
