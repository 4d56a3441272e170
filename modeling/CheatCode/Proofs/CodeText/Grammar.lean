/-
# What is read from a code text

The lines of a text are sorted (`CodeText.Sorts`): one that spells a poke gives that poke, and every
other is set aside, each kind in the order of the lines and each line without a look at the others.
There is one way to sort some lines (`CodeText.Sorts.unique`).  Reading a text gives exactly the
pokes of its lines, and reports exactly the lines set aside, one event a line
(`CodeText.read_sorts`).
-/

import CheatCode.CodeText
import CheatCode.Proofs.Poke

namespace CheatCode
namespace CodeText

/-- Some lines are sorted into the pokes that they spell and the lines that spell none. -/
inductive Sorts : List (List Char) → List Poke → List (List Char) → Prop
  | nil : Sorts [] [] []
  /-- A line that spells a poke gives that poke. -/
  | code {line : List Char} {lines others : List (List Char)} {p : Poke} {codes : List Poke}
      (hspells : Poke.Spells line p) (hrest : Sorts lines codes others) :
      Sorts (line :: lines) (p :: codes) others
  /-- Any other line is set aside. -/
  | other {line : List Char} {lines others : List (List Char)} {codes : List Poke}
      (hother : ∀ p, ¬ Poke.Spells line p) (hrest : Sorts lines codes others) :
      Sorts (line :: lines) codes (line :: others)

/-- The lines of a text are sorted into its pokes and its skipped lines. -/
theorem sorts_filter (lines : List (List Char)) :
    Sorts lines ((lines.filter Poke.isCode).map Poke.ofWords)
      (lines.filter fun line => !Poke.isCode line) := by
  induction lines with
  | nil => exact .nil
  | cons line lines ih =>
    by_cases h : Poke.isCode line = true
    · obtain ⟨p, hp⟩ := Poke.isCode_iff.1 h
      rw [List.filter_cons_of_pos h, List.filter_cons_of_neg (by simp [h]), List.map_cons,
        Poke.ofWords_of_spells hp]
      exact .code hp ih
    · rw [List.filter_cons_of_neg h, List.filter_cons_of_pos (by simpa using h)]
      exact .other (fun p hp => h (Poke.isCode_iff.2 ⟨p, hp⟩)) ih

/-- **There is one way to sort some lines.** -/
theorem Sorts.unique {lines others others' : List (List Char)} {codes codes' : List Poke}
    (h : Sorts lines codes others) (h' : Sorts lines codes' others') :
    codes = codes' ∧ others = others' := by
  induction h generalizing codes' others' with
  | nil =>
    cases h'
    exact ⟨rfl, rfl⟩
  | code hspells _ ih =>
    cases h' with
    | code hspells' hrest' =>
      obtain ⟨rfl, rfl⟩ := ih hrest'
      exact ⟨by rw [hspells.unique hspells'], rfl⟩
    | other hother' _ => exact absurd hspells (hother' _)
  | other hother _ ih =>
    cases h' with
    | code hspells' _ => exact absurd hspells' (hother _)
    | other _ hrest' =>
      obtain ⟨rfl, rfl⟩ := ih hrest'
      exact ⟨rfl, rfl⟩

/-- Each line is counted once. -/
theorem Sorts.length {lines others : List (List Char)} {codes : List Poke}
    (h : Sorts lines codes others) : codes.length + others.length = lines.length := by
  induction h with
  | nil => rfl
  | code _ _ ih =>
    rw [List.length_cons, List.length_cons, ← ih]
    omega
  | other _ _ ih =>
    rw [List.length_cons, List.length_cons, ← ih]
    omega

/-- The addresses of the pokes have room in six digits. -/
theorem Sorts.address_lt {lines others : List (List Char)} {codes : List Poke}
    (h : Sorts lines codes others) : ∀ p ∈ codes, p.address.toNat < 2 ^ 24 := by
  induction h with
  | nil => exact List.forall_mem_nil _
  | code hspells _ ih => exact List.forall_mem_cons.2 ⟨hspells.address_lt, ih⟩
  | other _ _ ih => exact ih

/-- The events of reading a text are the reports of its skipped lines. -/
theorem events_read (text : String) : (read text).events = (skipped text).map Event.skipped := by
  simp only [Traced.events, read, List.filterMap_map]
  exact congrFun List.filterMap_eq_map _

/-- **A text is read by its lines alone.**  A text has one row of lines, and they are sorted in one
way: into the pokes that reading gives, none with an address of more than six digits, and into the
lines that it reports as skipped, each by one event and with no other event or pause.  So pokes and
events are as many as the lines.  Both words of a line that spells a poke are read as they stand. -/
theorem read_sorts (text : String) :
    ∃ lines others,
      (∀ rows, Text.CutInto text.toList rows ↔ rows = lines) ∧
      (∀ codes rest, Sorts lines codes rest ↔ codes = (read text).value ∧ rest = others) ∧
      (∀ p ∈ (read text).value, p.address.toNat < 2 ^ 24) ∧
      (read text).trace.toList = others.map (fun line => Moment.event (.skipped line)) ∧
      (read text).value.length + (read text).events.length = lines.length ∧
      ∀ line ∈ lines, ∀ p, Poke.Spells line p → ∃ high low, Text.fields ' ' line = [high, low] ∧
        Numeral.read 16 UInt64.size high = .ok p.address.toNat ∧
        Numeral.read 16 UInt64.size low = .ok p.value.toNat := by
  have hsorts : Sorts (Text.lines text.toList) (read text).value (skipped text) := sorts_filter _
  refine ⟨Text.lines text.toList, skipped text, fun rows => ?_, fun codes rest => ?_,
    hsorts.address_lt, rfl, ?_, fun line _ p hspells => hspells.words⟩
  · rw [Text.cutInto_iff, eq_comm]
  · constructor
    · exact fun h => h.unique hsorts
    · rintro ⟨rfl, rfl⟩
      exact hsorts
  · rw [events_read, List.length_map, hsorts.length]

end CodeText
end CheatCode
