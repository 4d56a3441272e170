/-
# What a document holds

Whatever its text, a document that is read gives each of its names one value, and an integer among
these has 64 bits (`Toml.sound_parse?`).  Both are followed from the reading to the table: integers
are held to their range where they are read, and a value is put in only where a name has none or
where the value before it is replaced.
-/

import CheatCode.Proofs.Text.Reader
import CheatCode.Toml.Document

namespace CheatCode
namespace Toml

open Text.Reader

/-! ## What is read -/

/-- An integer has 64 bits, its sign included. -/
def Value.Sound (value : Value) : Prop :=
  ∀ n, value = .integer n → -(Numeral.signedBound : Int) ≤ n ∧ n < Numeral.signedBound

theorem sound_integerOf {negative : Bool} {base : Nat} {digits : List Char} {value : Value}
    (h : integerOf negative base digits = some value) : value.Sound := by
  rintro n rfl
  obtain ⟨magnitude, -, h⟩ := Option.bind_eq_some_iff.1 h
  simp only at h
  generalize (if negative then -(magnitude : Int) else magnitude) = number at h
  split at h
  · rename_i hrange
    cases h
    exact hrange
  · cases h

theorem gives_integer : Gives integer Value.Sound := by
  have hmarked : ∀ mark base, Gives (markedInteger mark base) Value.Sound := fun mark base =>
    gives_bind fun _ => gives_bind fun _ => gives_lift fun _ => sound_integerOf
  exact (hmarked _ _).orElse ((hmarked _ _).orElse ((hmarked _ _).orElse
    (gives_bind fun _ => gives_lift fun _ => sound_integerOf)))

/-- No value that is no integer needs a range. -/
theorem gives_pure_sound {value : Value} (h : ∀ n, value ≠ .integer n) :
    Gives (pure value) Value.Sound :=
  gives_pure fun n hn => absurd hn (h n)

theorem gives_finiteFloat : Gives finiteFloat Value.Sound := by
  refine gives_bind fun _ => gives_bind fun fraction => ?_
  -- the exponent is optional after a fraction, and what follows it is the same
  cases fraction with
  | none =>
    refine gives_bind fun _ => gives_bind fun _ => ?_
    split
    · exact gives_bind fun _ => gives_pure_sound fun _ => nofun
    · exact gives_pure_sound fun _ => nofun
  | some part =>
    refine gives_bind fun _ => gives_bind fun _ => ?_
    split
    · exact gives_bind fun _ => gives_pure_sound fun _ => nofun
    · exact gives_pure_sound fun _ => nofun

theorem gives_scalar : Gives scalar Value.Sound := by
  have hstring : Gives (do return .string (String.ofList (← string))) Value.Sound :=
    gives_bind fun _ => gives_pure_sound fun _ => nofun
  have hdate : Gives date Value.Sound := gives_bind fun _ => gives_pure_sound fun _ => nofun
  have hfloat : Gives float Value.Sound :=
    gives_finiteFloat.orElse
      (gives_bind fun _ => gives_bind fun _ => gives_pure_sound fun _ => nofun)
  have hboolean : Gives boolean Value.Sound :=
    Gives.orElse (gives_bind fun _ => gives_pure_sound fun _ => nofun)
      (gives_bind fun _ => gives_pure_sound fun _ => nofun)
  exact hstring.orElse (hdate.orElse (hfloat.orElse (gives_integer.orElse hboolean)))

theorem gives_value (depth : Nat) : Gives (value depth) Value.Sound := by
  cases depth with
  | zero => exact gives_scalar
  | succ depth =>
    have harray : Gives (array (value depth)) Value.Sound := by
      have hclose : ∀ items, Gives (do gap; char ']'; return Value.array items) Value.Sound :=
        fun _ => gives_bind fun _ => gives_bind fun _ => gives_pure_sound fun _ => nofun
      refine gives_bind fun _ => gives_bind fun items => ?_
      simp only
      split
      · exact gives_bind fun _ => hclose items
      · exact hclose items
    have hbraced : Gives (bracedTable (value depth)) Value.Sound := by
      refine gives_bind fun _ => gives_bind fun _ => gives_bind fun _ => gives_bind fun _ => ?_
      exact gives_bind fun _ => gives_pure_sound fun _ => nofun
    exact gives_scalar.orElse (harray.orElse hbraced)

/-- What a statement gives to a name is sound. -/
def Statement.Sound : Statement → Prop
  | .assign _ _ value => value.Sound
  | _ => True

theorem gives_statement : Gives statement Statement.Sound := by
  unfold statement
  refine Gives.orElse ?_ (Gives.orElse ?_ ?_)
  · exact gives_bind fun _ => gives_bind fun _ => gives_bind fun _ => gives_pure trivial
  · exact gives_bind fun _ => gives_bind fun _ => gives_bind fun _ => gives_pure trivial
  · exact gives_bind fun _ => gives_bind fun _ => gives_bind fun _ =>
      (gives_value depthLimit).bind fun _ hvalue => gives_pure hvalue

theorem sound_statements? {text : List Char} {statements : List Statement}
    (h : statements? text = some statements) : ∀ s ∈ statements, s.Sound := by
  have hline : Gives line fun content => ∀ s, content = some s → s.Sound :=
    gives_bind fun _ => gives_statement.maybe.bind fun _ hcontent => gives_bind fun _ =>
      gives_bind fun _ => gives_bind fun _ => gives_pure hcontent
  obtain ⟨contents, hcontents, rfl⟩ := Option.map_eq_some_iff.1 h
  obtain ⟨body, hbody⟩ : ∃ body, many line body = some (contents, []) := by
    unfold whole at hcontents
    split at hcontents
    · rename_i hbody
      cases hcontents
      exact ⟨_, hbody⟩
    · cases hcontents
  intro s hs
  obtain ⟨content, hcontent, hsome⟩ := List.mem_filterMap.1 hs
  exact hline.many _ _ _ hbody content hcontent s hsome

/-! ## What is put together -/

namespace Entries

/-- No name has two values, and the values are sound. -/
structure Sound (entries : Entries) : Prop where
  nodup : (entries.map (·.1)).Nodup
  values : ∀ e ∈ entries, e.2.Sound

theorem sound_nil : Sound [] := ⟨List.nodup_nil, List.forall_mem_nil _⟩

/-- The names after a value is put in: one more at the end if the name is new. -/
theorem map_set (entries : Entries) (name : String) (value : Value) :
    (entries.set name value).map (·.1) =
      if name ∈ entries.map (·.1) then entries.map (·.1) else entries.map (·.1) ++ [name] := by
  induction entries with
  | nil => rfl
  | cons e entries ih =>
    obtain ⟨n, v⟩ := e
    by_cases h : n = name
    · simp [set, h]
    · simp only [set, if_neg h, List.map_cons, ih, List.mem_cons, Ne.symm h, false_or]
      split <;> rfl

theorem mem_set {entries : Entries} {name : String} {value : Value} {e : String × Value}
    (h : e ∈ entries.set name value) : e = (name, value) ∨ e ∈ entries := by
  induction entries with
  | nil => exact .inl (List.mem_singleton.1 h)
  | cons first entries ih =>
    obtain ⟨n, v⟩ := first
    unfold set at h
    split at h
    · rename_i hname
      rcases List.mem_cons.1 h with rfl | h
      · exact .inl (by rw [hname])
      · exact .inr (List.mem_cons_of_mem _ h)
    · rcases List.mem_cons.1 h with rfl | h
      · exact .inr List.mem_cons_self
      · exact (ih h).imp_right (List.mem_cons_of_mem _)

/-- Putting a sound value in keeps entries sound. -/
theorem Sound.set {entries : Entries} (h : entries.Sound) (name : String) {value : Value}
    (hvalue : value.Sound) : (entries.set name value).Sound := by
  refine ⟨?_, fun e he => ?_⟩
  · rw [map_set]
    split
    · exact h.nodup
    · rename_i hname
      refine List.nodup_append.2 ⟨h.nodup, by simp, fun n hn m hm => ?_⟩
      rw [List.mem_singleton.1 hm]
      rintro rfl
      exact hname hn
  · rcases mem_set he with rfl | he
    · exact hvalue
    · exact h.values e he

/-- A name has the value that is found for it, and no other. -/
theorem Sound.lookup_eq_some_iff {entries : Entries} (h : entries.Sound) {name : String}
    {value : Value} : entries.lookup name = some value ↔ (name, value) ∈ entries := by
  obtain ⟨hnodup, -⟩ := h
  induction entries with
  | nil => simp
  | cons e entries ih =>
    obtain ⟨n, v⟩ := e
    obtain ⟨hnew, hrest⟩ := List.nodup_cons.1 hnodup
    by_cases hname : name = n
    · subst hname
      have hother : (name, value) ∉ entries := fun hmem =>
        hnew (List.mem_map.2 ⟨(name, value), hmem, rfl⟩)
      simp [hother, eq_comm]
    · rw [List.lookup_cons, beq_false_of_ne hname]
      simp [hname, ih hrest]

theorem sound_table (kind : Kind) (inner : Entries) : Value.Sound (.table kind inner) :=
  fun _ h => nomatch h

/-- A change deeper down puts a table in, and one that is not deeper down has to be sound. -/
theorem Sound.descend {made kind : Kind} {change : Kind → Entries → Option Entries}
    (hchange : ∀ kind entries out, Sound entries → change kind entries = some out → Sound out)
    {path : List String} {entries out : Entries} (h : entries.Sound)
    (hdescend : descend made change kind path entries = some out) : out.Sound := by
  cases path with
  | nil => exact hchange kind entries out h (by simpa [Entries.descend] using hdescend)
  | cons name path =>
    unfold Entries.descend at hdescend
    split at hdescend
    · obtain ⟨inner, -, hout⟩ := Option.bind_eq_some_iff.1 hdescend
      cases hout
      exact h.set name (sound_table _ _)
    · cases hdescend
    · split at hdescend
      · cases hdescend
      · obtain ⟨inner, -, hout⟩ := Option.bind_eq_some_iff.1 hdescend
        cases hout
        exact h.set name (sound_table _ _)
    · split at hdescend
      · cases hdescend
      · obtain ⟨last, -, hout⟩ := Option.bind_eq_some_iff.1 hdescend
        cases hout
        exact h.set name fun _ h => nomatch h
    · cases hdescend

theorem Sound.assign {entries out : Entries} {path : List String} {name : String} {value : Value}
    (h : entries.Sound) (hvalue : value.Sound)
    (hassign : entries.assign path name value = some out) : out.Sound := by
  refine h.descend (fun kind inner out hinner hout => ?_) hassign
  split at hout
  · cases hout
  · split at hout
    · cases hout
    · cases hout
      exact hinner.set name hvalue

end Entries

/-- A section has no unsound value. -/
def Section.Sound (s : Section) : Prop := ∀ a ∈ s.assignments, a.2.2.Sound

/-- A header opens a section, with the assignments that no header stands before. -/
def opened (header : Statement) : List Section → List Section
  | ⟨none, assignments⟩ :: later => ⟨none, []⟩ :: ⟨some header, assignments⟩ :: later
  | later => ⟨none, []⟩ :: ⟨some header, []⟩ :: later

theorem sound_opened (header : Statement) {later : List Section} (h : ∀ s ∈ later, s.Sound) :
    ∀ s ∈ opened header later, s.Sound := by
  have hnone : Section.Sound ⟨none, []⟩ := List.forall_mem_nil _
  unfold opened
  split
  · obtain ⟨hassignments, hlater⟩ := List.forall_mem_cons.1 h
    exact List.forall_mem_cons.2 ⟨hnone, List.forall_mem_cons.2 ⟨hassignments, hlater⟩⟩
  · exact List.forall_mem_cons.2 ⟨hnone, List.forall_mem_cons.2 ⟨hnone, h⟩⟩

theorem sound_sections {statements : List Statement} (h : ∀ s ∈ statements, s.Sound) :
    ∀ s ∈ sections statements, s.Sound := by
  induction statements with
  | nil => exact List.forall_mem_singleton.2 (List.forall_mem_nil _)
  | cons first rest ih =>
    obtain ⟨hfirst, hrest⟩ := List.forall_mem_cons.1 h
    have hlater := ih hrest
    cases first with
    | assign path name value =>
      unfold sections
      split
      · rename_i assignments later heq
        rw [heq] at hlater
        obtain ⟨hassignments, hlater⟩ := List.forall_mem_cons.1 hlater
        exact List.forall_mem_cons.2 ⟨List.forall_mem_cons.2 ⟨hfirst, hassignments⟩, hlater⟩
      · exact List.forall_mem_cons.2 ⟨List.forall_mem_singleton.2 hfirst, hlater⟩
    | «section» path name => exact sound_opened (.section path name) hlater
    | element path name => exact sound_opened (.element path name) hlater

/-- What each step of a fold keeps, the fold keeps. -/
theorem foldlM_keeps {α β : Type} {property : β → Prop} {f : β → α → Option β} {items : List α}
    (hstep : ∀ b, ∀ a ∈ items, ∀ next, property b → f b a = some next → property next)
    {start out : β} (h : property start) (hfold : items.foldlM f start = some out) :
    property out := by
  induction items generalizing start with
  | nil =>
    cases hfold
    exact h
  | cons a items ih =>
    rw [List.foldlM_cons] at hfold
    obtain ⟨next, hnext, hrest⟩ := Option.bind_eq_some_iff.1 hfold
    exact ih (fun b a ha => hstep b a (List.mem_cons_of_mem _ ha))
      (hstep start a List.mem_cons_self next h hnext) hrest

theorem Section.Sound.body {s : Section} (hs : s.Sound) {entries out : Entries}
    (h : entries.Sound) (hbody : s.body entries = some out) : out.Sound :=
  foldlM_keeps (fun _ a ha _ hentries hassign => hentries.assign (hs a ha) hassign) h hbody

theorem Section.Sound.addTo {s : Section} (hs : s.Sound) {root out : Entries}
    (h : root.Sound) (hadd : s.addTo root = some out) : out.Sound := by
  unfold Section.addTo at hadd
  split at hadd
  · refine h.descend (fun _ parent out hparent hout => ?_) hadd
    split at hout
    · obtain ⟨inner, -, hout⟩ := Option.bind_eq_some_iff.1 hout
      cases hout
      exact hparent.set _ (Entries.sound_table _ _)
    · obtain ⟨inner, -, hout⟩ := Option.bind_eq_some_iff.1 hout
      cases hout
      exact hparent.set _ (Entries.sound_table _ _)
    · cases hout
  · refine h.descend (fun _ parent out hparent hout => ?_) hadd
    split at hout
    · obtain ⟨inner, -, hout⟩ := Option.bind_eq_some_iff.1 hout
      cases hout
      exact hparent.set _ fun _ h => nomatch h
    · obtain ⟨inner, -, hout⟩ := Option.bind_eq_some_iff.1 hout
      cases hout
      exact hparent.set _ fun _ h => nomatch h
    · cases hout
  · exact hs.body h hadd

/-- **A document that is read gives no name two values, and its integers have 64 bits.** -/
theorem sound_parse? {text : String} {entries : Entries} (h : parse? text = some entries) :
    entries.Sound := by
  obtain ⟨statements, hstatements, hfold⟩ := Option.bind_eq_some_iff.1 h
  have hsections := sound_sections (sound_statements? hstatements)
  exact foldlM_keeps (fun _ s hs _ hroot hadd => (hsections s hs).addTo hroot hadd)
    Entries.sound_nil hfold

end Toml
end CheatCode
