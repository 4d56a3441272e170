/-
# What words do to a record

| words | what they do |
| --- | --- |
| `--name` | the reaction of an option with no value |
| `--name=value`, `--name value` | the reaction of an option with a value |
| a plain word | the entry of the next place |
| the name of a command | an end: the words after it are left to the command |

A word is put into the record only when a later one shows that it is complete.  What words do is
therefore said about the record with the pending words put in (`Progress.Stands`); so said, it
does not depend on the words around them (`Grammar.Takes`), and rows of words are put together
(`Grammar.Takes.append`).
-/

import CheatCode.Arguments.Grammar
import Mathlib.Data.List.TakeWhile

namespace CheatCode
namespace Arguments

variable {σ : Type} {g : Grammar σ}

/-! ## Words and what they do -/

/-- A word starts with a hyphen. -/
def Dashed (word : String) : Prop := word.toList.head? = some '-'

instance (word : String) : Decidable (Dashed word) :=
  inferInstanceAs (Decidable (word.toList.head? = some '-'))

/-- What a reaction does to a record, given a value or none. -/
def Reaction.tell : Reaction σ → Option String → σ → Except Fault σ
  | .flag apply, none => apply
  | .flag _, some _ => fun _ => .error .needlessValue
  | .valued entry, some value => entry value
  | .valued _, none => fun _ => .error .emptyValue

/-- What a plain word does: it is the one word of the next place, or one of its several. -/
inductive Puts (word : String) (r r' : σ) : List (Place σ) → List (Place σ) → Prop
  | one {entry : Entry σ} {later : List (Place σ)} (h : entry word r = .ok r') :
      Puts word r r' (.one entry :: later) later
  | several {entry : Entry σ} {later : List (Place σ)} (h : entry word r = .ok r') :
      Puts word r r' (.several entry :: later) (.several entry :: later)

/-! ## Looks -/

theorem dashed_append (name : String) : Dashed ("--" ++ name) := by
  rw [Dashed, String.toList_append]
  rfl

theorem shape_of_not_dashed {word : String} (h : ¬ Dashed word) : shape word = .plain := by
  unfold Dashed at h
  unfold shape
  split <;> simp_all

theorem shape_of_toList {word : String} {cs : List Char} (h : word.toList = '-' :: '-' :: cs)
    (hne : cs ≠ []) :
    shape word = match cs.dropWhile (· ≠ '=') with
      | [] => .long (String.ofList (cs.takeWhile (· ≠ '='))) none
      | _ :: value =>
        .long (String.ofList (cs.takeWhile (· ≠ '='))) (some (String.ofList value)) := by
  obtain ⟨c, cs, rfl⟩ := List.exists_cons_of_ne_nil hne
  rw [shape, h]
  rfl

theorem shape_option {name : String} (hne : name ≠ "") (hname : '=' ∉ name.toList) :
    shape ("--" ++ name) = .long name none := by
  have hall : ∀ c ∈ name.toList, decide (c ≠ '=') = true :=
    fun c hc => decide_eq_true fun heq => hname (heq ▸ hc)
  have htext : ("--" ++ name).toList = '-' :: '-' :: name.toList := by
    simp [String.toList_append]
  rw [shape_of_toList htext (by simpa using hne), List.dropWhile_eq_nil_iff.2 hall,
    List.takeWhile_eq_self_iff.2 hall, String.ofList_toList]

theorem shape_joined {name : String} (hname : '=' ∉ name.toList) (value : String) :
    shape ("--" ++ name ++ "=" ++ value) = .long name (some value) := by
  have hall : ∀ c ∈ name.toList, decide (c ≠ '=') = true :=
    fun c hc => decide_eq_true fun heq => hname (heq ▸ hc)
  have htext : ("--" ++ name ++ "=" ++ value).toList =
      '-' :: '-' :: (name.toList ++ '=' :: value.toList) := by
    simp [String.toList_append]
  rw [shape_of_toList htext (by simp), List.dropWhile_append_of_pos hall,
    List.takeWhile_append_of_pos hall]
  simp

/-! ## Standing between words -/

/-- The sorting stands between words of which each is complete: the record with the pending words
put in and the places left are these. -/
structure Progress.Stands (p : Progress σ) (record : σ) (left : List (Place σ)) : Prop where
  settled : p.settle = .ok record
  awaiting : p.awaiting = none
  plainOnly : p.plainOnly = false
  places : p.places = left
  /-- Pending words for a place of several are for the next place. -/
  several : ∀ entry words, p.pending = .several entry words →
    ∃ later, left = .several entry :: later

/-- Whatever stands before and after them, words lead from one record and the places left to
others. -/
def Grammar.Takes (g : Grammar σ) (words : List String) (record : σ) (places : List (Place σ))
    (record' : σ) (places' : List (Place σ)) : Prop :=
  ∀ p : Progress σ, p.Stands record places → ∃ p' : Progress σ, p'.Stands record' places' ∧
    ∀ later, g.sort p (words ++ later) = g.sort p' later

namespace Grammar

variable {record record' record'' : σ} {places places' places'' : List (Place σ)}
  {words words' : List String}

theorem Takes.nil : g.Takes [] record places record places :=
  fun p hp => ⟨p, hp, fun _ => rfl⟩

theorem Takes.append (h : g.Takes words record places record' places')
    (h' : g.Takes words' record' places' record'' places'') :
    g.Takes (words ++ words') record places record'' places'' := by
  intro p hp
  obtain ⟨p', hp', hsort⟩ := h p hp
  obtain ⟨p'', hp'', hsort'⟩ := h' p' hp'
  exact ⟨p'', hp'', fun later => by rw [List.append_assoc, hsort, hsort']⟩

/-! ## Options -/

theorem sort_long {p : Progress σ} {word name : String} {value : Option String}
    (hshape : shape word = .long name value) (hcommand : word ∉ g.commands)
    (hplain : p.plainOnly = false) (words : List String) :
    g.sort p (word :: words) = (g.option p name value).bind fun p => g.sort p words := by
  have hcontains : g.commands.contains word = false := by simpa using hcommand
  rw [sort, hplain, hcontains, Bool.and_false, hshape]
  rfl

theorem sort_value {p : Progress σ} {word : String} {entry : Entry σ} (h : ¬ Dashed word)
    (hawaiting : p.awaiting = some entry) (hplain : p.plainOnly = false) (words : List String) :
    g.sort p (word :: words) =
      g.sort { p with pending := .word entry word, awaiting := none } words := by
  rw [sort, hplain, hawaiting, shape_of_not_dashed h]
  rfl

theorem option_of_tell {p : Progress σ} {name : String} {reaction : Reaction σ}
    {value : Option String} (hlookup : g.options.lookup name = some reaction)
    (hsettle : p.settle = .ok record) (htell : reaction.tell value record = .ok record') :
    g.option p name value =
      .ok { p with record := record', pending := .nothing, awaiting := none } := by
  cases reaction with
  | flag apply =>
    cases value with
    | none =>
      simp only [option, hlookup, hsettle]
      exact congrArg (Except.map _) htell
    | some value => cases htell
  | valued entry =>
    cases value with
    | none => cases htell
    | some value =>
      simp only [option, hlookup, hsettle]
      exact congrArg (Except.map _) htell

/-- A word with all that an option needs is complete. -/
theorem takes_long {word name : String} {reaction : Reaction σ} {value : Option String}
    (hshape : shape word = .long name value) (hcommand : word ∉ g.commands)
    (hlookup : g.options.lookup name = some reaction)
    (htell : reaction.tell value record = .ok record') :
    g.Takes [word] record places record' places := by
  intro p hp
  refine ⟨{ p with record := record', pending := .nothing, awaiting := none },
    ⟨rfl, rfl, hp.plainOnly, hp.places, by simp⟩, fun later => ?_⟩
  rw [List.singleton_append, sort_long hshape hcommand hp.plainOnly,
    option_of_tell hlookup hp.settled htell]
  rfl

section Option

variable {name : String} (hname : '=' ∉ name.toList)
  (hcommands : ∀ command ∈ g.commands, ¬ Dashed command)
include hname hcommands

/-- **An option with no value does what its reaction does.** -/
theorem takes_alone {reaction : Reaction σ} (hne : name ≠ "")
    (hlookup : g.options.lookup name = some reaction)
    (htell : reaction.tell none record = .ok record') :
    g.Takes ["--" ++ name] record places record' places :=
  takes_long (shape_option hne hname) (fun hmem => hcommands _ hmem (dashed_append name)) hlookup
    htell

/-- **An option with its value in one word does what its reaction does.** -/
theorem takes_joined {reaction : Reaction σ} {value : String}
    (hlookup : g.options.lookup name = some reaction)
    (htell : reaction.tell (some value) record = .ok record') :
    g.Takes ["--" ++ name ++ "=" ++ value] record places record' places := by
  refine takes_long (shape_joined hname value) (fun hmem => hcommands _ hmem ?_) hlookup htell
  rw [String.append_assoc, String.append_assoc]
  exact dashed_append _

/-- **An option with its value in the next word does what its reaction does,** unless the value
looks like an option. -/
theorem takes_separate {reaction : Reaction σ} {value : String} (hne : name ≠ "")
    (hlookup : g.options.lookup name = some reaction) (hvalue : ¬ Dashed value)
    (htell : reaction.tell (some value) record = .ok record') :
    g.Takes ["--" ++ name, value] record places record' places := by
  intro p hp
  obtain _ | entry := reaction
  · cases htell
  have hoption : g.option p name none =
      .ok { p with record, pending := .lacking, awaiting := some entry } := by
    simp only [option, hlookup, hp.settled]
    rfl
  refine ⟨{ p with record, pending := .word entry value, awaiting := none },
    ⟨htell, rfl, hp.plainOnly, hp.places, by simp⟩, fun later => ?_⟩
  rw [List.cons_append, List.singleton_append, sort_long (shape_option hne hname)
    (fun hmem => hcommands _ hmem (dashed_append name)) hp.plainOnly, hoption, Except.bind]
  exact sort_value (p := { p with record, pending := .lacking, awaiting := some entry }) hvalue
    rfl hp.plainOnly later

end Option

/-! ## Plain words -/

theorem sort_plain {p : Progress σ} {word : String} (h : ¬ Dashed word)
    (hcommands : g.commands = []) (hawaiting : p.awaiting = none) (hplain : p.plainOnly = false)
    (words : List String) :
    g.sort p (word :: words) = (g.place p word).bind fun p => g.sort p words := by
  rw [sort, hplain, hcommands, shape_of_not_dashed h, hawaiting]
  rfl

/-- **A plain word is put into the next place.** -/
theorem takes_plain {word : String} (hcommands : g.commands = []) (h : ¬ Dashed word)
    (hputs : Puts word record record' places places') :
    g.Takes [word] record places record' places' := by
  intro p hp
  have hsort := sort_plain h hcommands hp.awaiting hp.plainOnly
  rw [place, hp.places] at hsort
  cases hputs with
  | one hentry =>
    rw [hp.settled] at hsort
    refine ⟨_, ?_, hsort⟩
    exact ⟨hentry, hp.awaiting, hp.plainOnly, rfl, fun _ _ heq => nomatch heq⟩
  | @several entry later hentry =>
    have hone : [word].foldlM (fun record word => entry word record) record = .ok record' := by
      simpa using hentry
    simp only at hsort
    split at hsort
    · -- words for this place are pending already, and this is one more
      rename_i entry' words hpending
      obtain ⟨_, heq⟩ := hp.several entry' words hpending
      obtain rfl : entry = entry' := Place.several.inj (List.cons.inj heq).1
      have hsettled : words.foldlM (fun record word => entry word record) p.record =
          .ok record := by
        simpa only [Progress.settle, hpending] using hp.settled
      refine ⟨_, ?_, hsort⟩
      refine ⟨?_, hp.awaiting, hp.plainOnly, rfl, fun _ _ heq => ⟨later, ?_⟩⟩
      · simp only [Progress.settle, List.foldlM_append, hsettled]
        exact hone
      · rw [(Pending.several.inj heq).1]
    · rw [hp.settled] at hsort
      refine ⟨_, ?_, hsort⟩
      refine ⟨hone, hp.awaiting, hp.plainOnly, rfl, fun _ _ heq => ⟨later, ?_⟩⟩
      rw [(Pending.several.inj heq).1]

/-! ## Whole rows of words -/

/-- **What all words do is what a command is read as.** -/
theorem read_of_takes {words : List String} (h : g.Takes words record g.places record' places) :
    g.read record words = .ok record' := by
  obtain ⟨p, hp, hsort⟩ := h { record, places := g.places }
    ⟨rfl, rfl, rfl, rfl, by simp⟩
  have hend : g.sort { record, places := g.places } words = .ok (p, none) := by
    rw [← List.append_nil words, hsort, sort]
  rw [read, hend]
  exact hp.settled

/-- **Words up to the name of a command leave the words after it to the command.** -/
theorem sort_of_takes {words : List String} {name : String}
    (h : g.Takes words record g.places record' places) (hname : name ∈ g.commands)
    (rest : List String) :
    ∃ p : Progress σ, p.settle = .ok record' ∧
      g.sort { record, places := g.places } (words ++ name :: rest) =
        .ok (p, some (name, rest)) := by
  obtain ⟨p, hp, hsort⟩ := h { record, places := g.places }
    ⟨rfl, rfl, rfl, rfl, by simp⟩
  have hcontains : g.commands.contains name = true := by simpa using hname
  refine ⟨p, hp.settled, ?_⟩
  rw [hsort, sort, hp.plainOnly, hp.awaiting, hcontains]
  rfl

end Grammar
end Arguments
end CheatCode
