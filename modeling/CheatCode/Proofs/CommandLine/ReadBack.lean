/-
# Command lines are read back

A record has of each option what it has been told, in whatever order (`CommandLine.Told`,
`CommandLine.Common.Holds`, `CommandLine.RunDraft.Holds`).

* An option that is told for the first time is added to what the record has, and a plain word goes
  to its place: one step for each part of the words (`CommandLine.Follows`).
* So the record has, at the end of a row of words, all that they tell (`CommandLine.Follows.takes`).
* A record that has been told each option of a line is the line's
  (`CommandLine.Chosen.eq_of_holds`).

A line is therefore read back from every way to write it (`CommandLine.read_written`).  A number of
cycles that is spelled with a hyphen at its start stands in the word of its option; in the next word
it would be taken for an option (`CommandLine.hyphened_cycles`).
-/

import CheatCode.Proofs.Arguments.Taken
import CheatCode.Proofs.CommandLine.Written

namespace CheatCode
namespace CommandLine

open Arguments

/-! ## What is told -/

/-- A part of a record has the value that is told, or none if none is. -/
def Told {α : Type} (kind : α → Choice) (told : List Choice) (value : Option α) : Prop :=
  ∀ a, value = some a ↔ kind a ∈ told

section Told

variable {α : Type} {kind : α → Choice} {told told' : List Choice} {value value' : Option α}

theorem Told.nil : Told kind [] (none : Option α) := by simp [Told]

/-- An option of another kind tells nothing about the part. -/
theorem Told.append_other (h : Told kind told value) {c : Choice} (hother : ∀ a, kind a ≠ c) :
    Told kind (told ++ [c]) value := by
  intro a
  rw [h a, List.mem_append, List.mem_singleton, or_iff_left (hother a)]

theorem Told.eq_none (h : Told kind told value) (hnew : ∀ a, kind a ∉ told) : value = none :=
  Option.eq_none_iff_forall_ne_some.2 fun a ha => hnew a ((h a).1 ha)

/-- A new option tells the part its value. -/
theorem told_append_new (hinj : kind.Injective) (hnew : ∀ a, kind a ∉ told) (a : α) :
    Told kind (told ++ [kind a]) (some a) := by
  intro b
  rw [List.mem_append, List.mem_singleton, or_iff_right (hnew b), hinj.eq_iff, Option.some.injEq,
    eq_comm]

theorem Told.congr (h : Told kind told value) (hsame : ∀ a, kind a ∈ told ↔ kind a ∈ told') :
    Told kind told' value :=
  fun a => (h a).trans (hsame a)

theorem Told.unique (h : Told kind told value) (h' : Told kind told value') : value = value' :=
  Option.ext fun a => (h a).trans (h' a).symm

/-- Where two rows of options do not both tell the part its value, one of them does. -/
theorem Told.orElse (h : Told kind told value) (h' : Told kind told' value')
    (hdisjoint : ∀ a b, kind a ∈ told → kind b ∉ told') :
    Told kind (told ++ told') (value' <|> value) := by
  intro a
  rw [List.mem_append, ← h a, ← h' a]
  cases hvalue : value' with
  | none => simp
  | some b =>
    have hnone : value = none := Option.eq_none_iff_forall_ne_some.2 fun c hc =>
      hdisjoint c b ((h c).1 hc) ((h' b).1 hvalue)
    simp [hnone]

end Told

/-- No option of this name is told yet. -/
def Choice.New (c : Choice) (told : List Choice) : Prop := c.name ∉ told.map Choice.name

theorem Choice.New.not_mem {c : Choice} {told : List Choice} (h : c.New told) {k : Choice}
    (hname : k.name = c.name) : k ∉ told :=
  fun hk => h (hname ▸ List.mem_map_of_mem hk)

/-- An option that may be given once is told a value that it does not have yet. -/
theorem tell_once {σ α : Type} {get : σ → Option α} {put : σ → α → σ}
    {read : String → Except Fault α} {word : String} {record : σ} {a : α}
    (hget : get record = none) (hread : read word = .ok a) :
    (Reaction.valued (once get put read)).tell (some word) record = .ok (put record a) := by
  rw [Reaction.tell, once, hget, hread]
  rfl

/-! ## The options of all commands -/

/-- The options of all commands are as they are told. -/
structure Common.Holds (common : Common) (told : List Choice) : Prop where
  config : Told .config told common.config
  format : Told .format told common.format
  encrypted : common.encrypted = true ↔ .encrypted ∈ told

theorem Common.Holds.nil : ({} : Common).Holds [] :=
  ⟨.nil, .nil, by simp⟩

/-- **An option of all commands that is new is told to the record.** -/
theorem Common.Holds.tell {common : Common} {told : List Choice} (h : common.Holds told)
    {c : Choice} (hcommon : c.IsCommon) (hnew : c.New told) {value : Option String}
    (hvalue : c.Spelled value) :
    ∃ reaction common', commonOptions.lookup c.name = some reaction ∧
      reaction.tell value common = .ok common' ∧ common'.Holds (told ++ [c]) := by
  cases hvalue with
  | config path =>
    have hnone := h.config.eq_none fun _ => hnew.not_mem rfl
    refine ⟨_, { common with config := some path }, rfl, tell_once hnone rfl, ?_, ?_, ?_⟩
    · exact told_append_new (fun _ _ => Choice.config.inj) (fun _ => hnew.not_mem rfl) path
    · exact h.format.append_other (by simp)
    · simpa using h.encrypted
  | @format word format hread =>
    have hnone := h.format.eq_none fun _ => hnew.not_mem rfl
    refine ⟨_, { common with format := some format }, rfl, tell_once hnone hread, ?_, ?_, ?_⟩
    · exact h.config.append_other (by simp)
    · exact told_append_new (fun _ _ => Choice.format.inj) (fun _ => hnew.not_mem rfl) format
    · simpa using h.encrypted
  | encrypted =>
    have hfalse : common.encrypted = false :=
      Bool.eq_false_iff.2 fun htrue => hnew.not_mem rfl (h.encrypted.1 htrue)
    refine ⟨_, { common with encrypted := true }, rfl, ?_, ?_, ?_, ?_⟩
    · simp [Reaction.tell, hfalse]
    · exact h.config.append_other (by simp)
    · exact h.format.append_other (by simp)
    · simp
  | base | cycles | intervalMs | output => exact hcommon.elim

/-! ## Words that write options -/

theorem Choice.name_ne_empty (c : Choice) : c.name ≠ "" := by
  cases c <;> simp [name]

theorem Choice.equals_not_mem_name (c : Choice) : '=' ∉ c.name.toList := by
  cases c <;> simp [name]

/-- **In whatever way an option is written, it is told to the record.** -/
theorem Choice.Written.takes {σ : Type} {g : Grammar σ} {record : σ} {places : List (Place σ)}
    {c : Choice} {words : List String} (h : c.Written words) (hnamed : c.Named)
    (hcommands : ∀ command ∈ g.commands, ¬ Dashed command) {holds : σ → Prop}
    (htell : ∀ value, c.Spelled value → ∃ reaction record',
      g.options.lookup c.name = some reaction ∧ reaction.tell value record = .ok record' ∧
        holds record') :
    ∃ record', g.Takes words record places record' places ∧ holds record' := by
  have hne := c.name_ne_empty
  have hname := c.equals_not_mem_name
  cases h with
  | flag hvalue =>
    obtain ⟨reaction, record', hlookup, htell, hholds⟩ := htell _ hvalue
    exact ⟨record', Grammar.takes_alone hname hcommands hne hlookup htell, hholds⟩
  | joined hvalue =>
    obtain ⟨reaction, record', hlookup, htell, hholds⟩ := htell _ hvalue
    exact ⟨record', Grammar.takes_joined hname hcommands hlookup htell, hholds⟩
  | separate hvalue hcycles =>
    obtain ⟨reaction, record', hlookup, htell, hholds⟩ := htell _ hvalue
    exact ⟨record', Grammar.takes_separate hname hcommands hne hlookup
      (hvalue.not_dashed hnamed hcycles) htell, hholds⟩

/-! ## Rows of words -/

/-- How a record follows what words say: `holds` says how it stands after some options and plain
words, and `left` which places are left then. -/
structure Follows {σ : Type} (g : Grammar σ) (allowed : Choice → Prop) (all : List String)
    (holds : σ → List Choice → List String → Prop) (left : List String → List (Place σ)) :
    Prop where
  commands : ∀ command ∈ g.commands, ¬ Dashed command
  /-- A new option is told to the record. -/
  option : ∀ {record told given c value}, holds record told given → allowed c → c.New told →
    c.Spelled value → ∃ reaction record', g.options.lookup c.name = some reaction ∧
      reaction.tell value record = .ok record' ∧ holds record' (told ++ [c]) given
  /-- The next plain word is put into its place. -/
  plain : ∀ {record told given word}, holds record told given → given ++ [word] <+: all →
    g.commands = [] ∧ ¬ Dashed word ∧ ∃ record',
      Puts word record record' (left given) (left (given ++ [word])) ∧
      holds record' told (given ++ [word])

/-- **A record follows words from the first to the last.** -/
theorem Follows.takes {σ : Type} {g : Grammar σ} {allowed : Choice → Prop} {all : List String}
    {holds : σ → List Choice → List String → Prop} {left : List String → List (Place σ)}
    (h : Follows g allowed all holds left) {choices : List Choice} {plain words : List String}
    (hmixed : Mixed choices plain words) (hallowed : ∀ c ∈ choices, allowed c ∧ c.Named)
    {record : σ} {told : List Choice} {given : List String} (hholds : holds record told given)
    (hnodup : ((told ++ choices).map Choice.name).Nodup) (hall : given ++ plain <+: all) :
    ∃ record', g.Takes words record (left given) record' (left (given ++ plain)) ∧
      holds record' (told ++ choices) (given ++ plain) := by
  induction hmixed generalizing record told given with
  | nil =>
    rw [List.append_nil, List.append_nil]
    exact ⟨record, .nil, hholds⟩
  | @option c choices plain words rest hwritten _ ih =>
    obtain ⟨⟨hc, hnamed⟩, hallowed⟩ := List.forall_mem_cons.1 hallowed
    have hnew : c.New told := by
      rw [List.map_append, List.map_cons, List.nodup_middle] at hnodup
      exact fun hmem => (List.nodup_cons.1 hnodup).1 (List.mem_append_left _ hmem)
    obtain ⟨record₁, hfirst, hholds₁⟩ := hwritten.takes hnamed h.commands
      fun value hvalue => h.option hholds hc hnew hvalue
    rw [List.append_cons] at hnodup ⊢
    obtain ⟨record₂, hrest, hholds₂⟩ := ih hallowed hholds₁ hnodup hall
    exact ⟨record₂, hfirst.append hrest, hholds₂⟩
  | @plain word choices plain rest _ ih =>
    rw [List.append_cons] at hall ⊢
    obtain ⟨hcommands, hword, record₁, hputs, hholds₁⟩ :=
      h.plain hholds ((List.prefix_append _ _).trans hall)
    obtain ⟨record₂, hrest, hholds₂⟩ := ih hallowed hholds₁ hnodup hall
    exact ⟨record₂, (Grammar.takes_plain hcommands hword hputs).append hrest, hholds₂⟩

/-- The options before the name of a command are followed. -/
theorem follows_top : Follows topGrammar Choice.IsCommon []
    (fun common told _ => common.Holds told) (fun _ => []) where
  commands := by decide
  option := by
    intro common told given c value hholds hcommon hnew hvalue
    obtain ⟨reaction, common', hlookup, htell, hholds'⟩ := hholds.tell hcommon hnew hvalue
    refine ⟨reaction, common', ?_, htell, hholds'⟩
    rw [topGrammar, List.lookup_append, hlookup]
    rfl
  plain := fun _ hprefix => by simp at hprefix

/-! ## Drafts of commands -/

theorem tell_first {σ τ : Type} {reaction : Reaction σ} {value : Option String} {r r' : σ}
    (h : reaction.tell value r = .ok r') (t : τ) :
    (reaction.first (τ := τ)).tell value (r, t) = .ok (r', t) := by
  cases reaction <;> cases value <;> first | cases h | exact congrArg (Except.map (·, t)) h

theorem tell_second {σ τ : Type} {reaction : Reaction τ} {value : Option String} {t t' : τ}
    (h : reaction.tell value t = .ok t') (r : σ) :
    (reaction.second (σ := σ)).tell value (r, t) = .ok (r, t') := by
  cases reaction <;> cases value <;> first | cases h | exact congrArg (Except.map (r, ·)) h

/-- Options of a command's own tell nothing about those of all commands. -/
theorem Common.Holds.append_own {common : Common} {told : List Choice} (h : common.Holds told)
    {c : Choice} (hc : ¬ c.IsCommon) : common.Holds (told ++ [c]) := by
  have hother : ∀ k : Choice, k.IsCommon → k ≠ c := fun k hk heq => hc (heq ▸ hk)
  refine ⟨h.config.append_other fun _ => hother _ trivial,
    h.format.append_other fun _ => hother _ trivial, ?_⟩
  rw [h.encrypted, List.mem_append, List.mem_singleton,
    or_iff_left (hother .encrypted trivial)]

theorem lookup_grammar {δ : Type} {own : List (String × Reaction δ)} {places : List (Place δ)}
    {c : Choice} (hc : c.IsCommon) {reaction : Reaction Common}
    (hlookup : commonOptions.lookup c.name = some reaction) :
    (grammar own places).options.lookup c.name = some reaction.first := by
  cases c with
  | config | format | encrypted =>
    obtain rfl := Option.some.inj hlookup
    rfl
  | base | cycles | intervalMs | output => exact hc.elim

/-- How the draft of a command follows what words say to it. -/
structure Drafts {δ : Type} (command : Command) (g : Grammar (Common × δ)) (all : List String)
    (holds : δ → List Choice → List String → Prop)
    (left : List String → List (Place (Common × δ))) : Prop where
  /-- What all commands have is not the draft's. -/
  common : ∀ {draft told given c}, holds draft told given → c.IsCommon →
    holds draft (told ++ [c]) given
  /-- A new option of the command is told to the draft. -/
  option : ∀ {draft told given c value}, holds draft told given → c ∈ command.choices →
    c.New told → c.Spelled value → ∃ reaction draft',
      g.options.lookup c.name = some (.second reaction) ∧
      reaction.tell value draft = .ok draft' ∧ holds draft' (told ++ [c]) given
  /-- The next plain word is put into its place of the draft. -/
  plain : ∀ {draft told given word}, holds draft told given → given ++ [word] <+: all →
    ¬ Dashed word ∧ ∃ draft', (∀ common : Common,
      Puts word (common, draft) (common, draft') (left given) (left (given ++ [word]))) ∧
      holds draft' told (given ++ [word])

/-- **What is told to the draft of a command and what is told to all commands is followed side by
side.** -/
theorem Drafts.follows {δ : Type} {command : Command} {own : List (String × Reaction δ)}
    {places : List (Place δ)} {all : List String} {holds : δ → List Choice → List String → Prop}
    {left : List String → List (Place (Common × δ))}
    (h : Drafts command (grammar own places) all holds left) :
    Follows (grammar own places) (fun c => c.IsCommon ∨ c ∈ command.choices) all
      (fun record told given => record.1.Holds told ∧ holds record.2 told given) left where
  commands := by simp [grammar]
  option := by
    rintro ⟨common, draft⟩ told given c value ⟨hcommon, hdraft⟩ hallowed hnew hvalue
    rcases hallowed with hc | hc
    · obtain ⟨reaction, common', hlookup, htell, hcommon'⟩ := hcommon.tell hc hnew hvalue
      exact ⟨reaction.first, (common', draft), lookup_grammar hc hlookup, tell_first htell draft,
        hcommon', h.common hdraft hc⟩
    · obtain ⟨reaction, draft', hlookup, htell, hdraft'⟩ := h.option hdraft hc hnew hvalue
      exact ⟨_, (common, draft'), hlookup, tell_second htell common,
        hcommon.append_own (not_isCommon_of_mem hc), hdraft'⟩
  plain := by
    rintro ⟨common, draft⟩ told given word ⟨hcommon, hdraft⟩ hprefix
    obtain ⟨hword, draft', hputs, hdraft'⟩ := h.plain hdraft hprefix
    exact ⟨rfl, hword, (common, draft'), hputs common, hcommon, hdraft'⟩

/-- **Words that write options and all plain words of a command are read as its draft.** -/
theorem Drafts.read {δ : Type} {command : Command} {g : Grammar (Common × δ)}
    {own : List (String × Reaction δ)} {places : List (Place δ)} {all : List String}
    {holds : δ → List Choice → List String → Prop}
    {left : List String → List (Place (Common × δ))} (h : Drafts command g all holds left)
    (hg : g = grammar own places) (start : δ) (hstart : holds start [] [])
    (hleft : left [] = g.places) {choices : List Choice} {words : List String}
    (hmixed : Mixed choices all words)
    (hallowed : ∀ c ∈ choices, (c.IsCommon ∨ c ∈ command.choices) ∧ c.Named)
    (hnodup : (choices.map Choice.name).Nodup) :
    ∃ common draft, g.read ({}, start) words = .ok (common, draft) ∧ common.Holds choices ∧
      holds draft choices all := by
  subst hg
  have hboth : (({}, start) : Common × δ).1.Holds [] ∧ holds (({}, start) : Common × δ).2 [] [] :=
    ⟨.nil, hstart⟩
  obtain ⟨⟨common, draft⟩, htakes, hcommon, hdraft⟩ :=
    h.follows.takes hmixed hallowed hboth hnodup List.prefix_rfl
  rw [hleft] at htakes
  exact ⟨common, draft, Grammar.read_of_takes htakes, hcommon, hdraft⟩

/-! ## The commands -/

theorem readPath_of_isName {path : String} (h : IsName path) : readPath path = .ok path := by
  rw [readPath, if_neg (by simpa using h.1)]

/-- The draft of a run is as it is told. -/
structure RunDraft.Holds (draft : RunDraft) (told : List Choice) (given : List String) : Prop where
  base : Told .base told draft.base
  cycles : Told .cycles told draft.cycles
  intervalMs : Told .intervalMs told draft.intervalMs
  output : Told .output told draft.output
  codeFile : draft.codeFile = given[0]?
  memoryImage : draft.memoryImage = given[1]?

theorem drafts_run {request : RunRequest} (h : (Command.run request).Sound) :
    Drafts (.run request) runGrammar [request.codeFile, request.memoryImage] RunDraft.Holds
      (fun given => runGrammar.places.drop given.length) where
  common := by
    intro draft told given c hholds hc
    have hother : ∀ k : Choice, ¬ k.IsCommon → k ≠ c := fun k hk heq => hk (heq ▸ hc)
    exact ⟨hholds.base.append_other fun _ => hother _ id,
      hholds.cycles.append_other fun _ => hother _ id,
      hholds.intervalMs.append_other fun _ => hother _ id,
      hholds.output.append_other fun _ => hother _ id, hholds.codeFile, hholds.memoryImage⟩
  option := by
    intro draft told given c value hholds hmem hnew hvalue
    cases hvalue with
    | config | format | encrypted => exact absurd trivial (not_isCommon_of_mem hmem)
    | @base word address hread =>
      have hnone := hholds.base.eq_none fun _ => hnew.not_mem rfl
      refine ⟨_, { draft with base := some address }, rfl, tell_once hnone hread, ?_, ?_, ?_, ?_,
        hholds.codeFile, hholds.memoryImage⟩
      · exact told_append_new (fun _ _ => Choice.base.inj) (fun _ => hnew.not_mem rfl) address
      · exact hholds.cycles.append_other (by simp)
      · exact hholds.intervalMs.append_other (by simp)
      · exact hholds.output.append_other (by simp)
    | @cycles word count hread =>
      have hnone := hholds.cycles.eq_none fun _ => hnew.not_mem rfl
      refine ⟨_, { draft with cycles := some count }, rfl, tell_once hnone hread, ?_, ?_, ?_, ?_,
        hholds.codeFile, hholds.memoryImage⟩
      · exact hholds.base.append_other (by simp)
      · exact told_append_new (fun _ _ => Choice.cycles.inj) (fun _ => hnew.not_mem rfl) count
      · exact hholds.intervalMs.append_other (by simp)
      · exact hholds.output.append_other (by simp)
    | @intervalMs word period hread =>
      have hnone := hholds.intervalMs.eq_none fun _ => hnew.not_mem rfl
      refine ⟨_, { draft with intervalMs := some period }, rfl, tell_once hnone hread, ?_, ?_, ?_,
        ?_, hholds.codeFile, hholds.memoryImage⟩
      · exact hholds.base.append_other (by simp)
      · exact hholds.cycles.append_other (by simp)
      · exact told_append_new (fun _ _ => Choice.intervalMs.inj) (fun _ => hnew.not_mem rfl) period
      · exact hholds.output.append_other (by simp)
    | output path =>
      have hnone := hholds.output.eq_none fun _ => hnew.not_mem rfl
      have hpath : request.output = some path := by simpa [Command.choices] using hmem
      refine ⟨_, { draft with output := some path }, rfl,
        tell_once hnone (readPath_of_isName (h.2.2 path hpath)), ?_, ?_, ?_, ?_,
        hholds.codeFile, hholds.memoryImage⟩
      · exact hholds.base.append_other (by simp)
      · exact hholds.cycles.append_other (by simp)
      · exact hholds.intervalMs.append_other (by simp)
      · exact told_append_new (fun _ _ => Choice.output.inj) (fun _ => hnew.not_mem rfl) path
  plain := by
    intro draft told given word hholds hprefix
    cases given with
    | nil =>
      obtain ⟨rfl, -⟩ := List.cons_prefix_cons.1 hprefix
      refine ⟨h.1.2, { draft with codeFile := some request.codeFile }, fun common => .one ?_,
        hholds.base, hholds.cycles, hholds.intervalMs, hholds.output, rfl, hholds.memoryImage⟩
      simp only [readPath_of_isName h.1]
      rfl
    | cons first given =>
      cases given with
      | nil =>
        obtain ⟨rfl, -⟩ := List.cons_prefix_cons.1 (List.cons_prefix_cons.1 hprefix).2
        refine ⟨h.2.1.2, { draft with memoryImage := some request.memoryImage },
          fun common => .one ?_, hholds.base, hholds.cycles, hholds.intervalMs, hholds.output,
          hholds.codeFile, rfl⟩
        simp only [readPath_of_isName h.2.1]
        rfl
      | cons second given => simp at hprefix

theorem drafts_address {codeFile : String} (h : IsName codeFile) :
    Drafts (.address codeFile) addressGrammar [codeFile] (fun draft _ given => draft = given.head?)
      (fun given => addressGrammar.places.drop given.length) where
  common := fun hholds _ => hholds
  option := fun _ hmem => nomatch hmem
  plain := by
    intro draft told given word hholds hprefix
    cases given with
    | nil =>
      obtain ⟨rfl, -⟩ := List.cons_prefix_cons.1 hprefix
      refine ⟨h.2, some word, fun common => .one ?_, rfl⟩
      simp only [readPath_of_isName h]
      rfl
    | cons first given => simp at hprefix

theorem drafts_encode {patches : List Patch} {words : List String}
    (h : List.Forall₂ (fun word patch => readPatch word = .ok patch) words patches) :
    Drafts (.encode patches) encodeGrammar words
      (fun draft _ given => List.Forall₂ (fun word patch => readPatch word = .ok patch) given draft)
      (fun _ => encodeGrammar.places) where
  common := fun hholds _ => hholds
  option := fun _ hmem => nomatch hmem
  plain := by
    intro draft told given word hholds hprefix
    have hmem : word ∈ words := hprefix.subset (List.mem_append_right _ (List.mem_singleton_self _))
    obtain ⟨place, hplace, rfl⟩ := List.getElem_of_mem hmem
    have hpatch : place < patches.length := h.length_eq ▸ hplace
    have hread : readPatch words[place] = .ok patches[place] := h.get hplace hpatch
    refine ⟨not_dashed_patch hread, draft ++ [patches[place]], fun common => .several ?_,
      List.rel_append hholds (.cons hread .nil)⟩
    simp only [hread]
    rfl

theorem drafts_info : Drafts .info infoGrammar [] (fun _ _ _ => True) (fun _ => []) where
  common := fun _ _ => trivial
  option := fun _ hmem => nomatch hmem
  plain := fun _ hprefix => by simp at hprefix

/-! ## Whole lines -/

theorem told_choices (request : RunRequest) :
    Told .base (Command.run request).choices request.base ∧
      Told .cycles (Command.run request).choices request.cycles ∧
      Told .intervalMs (Command.run request).choices request.intervalMs ∧
      Told .output (Command.run request).choices request.output := by
  simp [Told, Command.choices]

/-- **Words that write a command and options are read as the command**, and the options of all
commands are as they are told. -/
theorem read_command {command : Command} (h : command.Sound) {choices : List Choice}
    {plain words : List String} (hplain : command.Plain plain) (hmixed : Mixed choices plain words)
    (hallowed : ∀ c ∈ choices, (c.IsCommon ∨ c ∈ command.choices) ∧ c.Named)
    (hown : ∀ c ∈ command.choices, c ∈ choices) (hnodup : (choices.map Choice.name).Nodup) :
    ∃ reader common, commands.lookup command.name = some reader ∧
      reader words = .ok (common, command) ∧ common.Holds choices := by
  cases hplain with
  | run request =>
    obtain ⟨common, draft, hread, hcommon, hdraft⟩ := (drafts_run h).read rfl {}
      ⟨.nil, .nil, .nil, .nil, rfl, rfl⟩ rfl hmixed hallowed hnodup
    have hsame : ∀ c : Choice, ¬ c.IsCommon → (c ∈ (Command.run request).choices ↔ c ∈ choices) :=
      fun c hc => ⟨hown c, fun hmem => (hallowed c hmem).1.resolve_left hc⟩
    obtain ⟨hbase, hcycles, hintervalMs, houtput⟩ := told_choices request
    obtain ⟨codeFile, memoryImage, base, cycles, intervalMs, output⟩ := draft
    obtain rfl : base = request.base := hdraft.base.unique (hbase.congr fun _ => hsame _ id)
    obtain rfl : cycles = request.cycles :=
      hdraft.cycles.unique (hcycles.congr fun _ => hsame _ id)
    obtain rfl : intervalMs = request.intervalMs :=
      hdraft.intervalMs.unique (hintervalMs.congr fun _ => hsame _ id)
    obtain rfl : output = request.output :=
      hdraft.output.unique (houtput.congr fun _ => hsame _ id)
    obtain rfl : codeFile = some request.codeFile := hdraft.codeFile
    obtain rfl : memoryImage = some request.memoryImage := hdraft.memoryImage
    refine ⟨readRun, common, rfl, ?_, hcommon⟩
    rw [readRun, hread]
    rfl
  | address codeFile =>
    obtain ⟨common, draft, hread, hcommon, rfl⟩ :=
      (drafts_address h).read rfl none rfl rfl hmixed hallowed hnodup
    refine ⟨readAddressCommand, common, rfl, ?_, hcommon⟩
    rw [readAddressCommand, hread]
    rfl
  | @encode patches words hpatches =>
    obtain ⟨common, draft, hread, hcommon, hdraft⟩ :=
      (drafts_encode hpatches).read rfl [] .nil rfl hmixed hallowed hnodup
    refine ⟨readEncode, common, rfl, ?_, hcommon⟩
    have hunique : Relator.RightUnique fun word patch => readPatch word = .ok patch :=
      fun _ _ _ h h' => Except.ok.inj (h.symm.trans h')
    obtain rfl : draft = patches := List.right_unique_forall₂' hunique hdraft hpatches
    obtain ⟨patch, patches, rfl⟩ := List.exists_cons_of_ne_nil h
    rw [readEncode, hread]
    rfl
  | info =>
    obtain ⟨common, draft, hread, hcommon, -⟩ :=
      drafts_info.read rfl () trivial rfl hmixed hallowed hnodup
    refine ⟨readInfo, common, rfl, ?_, hcommon⟩
    rw [readInfo, hread]
    rfl

/-- Options before the name of a command and others after it are told to all commands together. -/
theorem Common.Holds.override {before among : Common} {told told' : List Choice}
    (h : before.Holds told) (h' : among.Holds told')
    (hnodup : ((told ++ told').map Choice.name).Nodup) :
    (before.override among).Holds (told ++ told') := by
  have hdisjoint : ∀ c ∈ told, ∀ c' ∈ told', c.name ≠ c'.name := by
    rw [List.map_append, List.nodup_append] at hnodup
    exact fun c hc c' hc' => hnodup.2.2 _ (List.mem_map_of_mem hc) _ (List.mem_map_of_mem hc')
  refine ⟨h.config.orElse h'.config fun _ _ hc hc' => hdisjoint _ hc _ hc' rfl,
    h.format.orElse h'.format fun _ _ hc hc' => hdisjoint _ hc _ hc' rfl, ?_⟩
  rw [Common.override, Bool.or_eq_true, h.encrypted, h'.encrypted, List.mem_append, or_comm]

/-- Options before the name of a command are told to all commands. -/
theorem sort_before {before : List Choice} {first : List String} (hfirst : Mixed before [] first)
    (hallowed : ∀ c ∈ before, c.IsCommon ∧ c.Named) (hnodup : (before.map Choice.name).Nodup)
    (command : Command) (rest : List String) :
    ∃ p common, topGrammar.sort { record := {}, places := [] } (first ++ command.name :: rest) =
      .ok (p, some (command.name, rest)) ∧ p.settle = .ok common ∧ common.Holds before := by
  have hprefix : ([] : List String) ++ [] <+: [] := List.prefix_rfl
  have hname : command.name ∈ topGrammar.commands := by
    cases command <;> simp [topGrammar, commands, Command.name]
  obtain ⟨common, htakes, hholds⟩ :=
    follows_top.takes hfirst hallowed Common.Holds.nil hnodup hprefix
  obtain ⟨p, hsettle, hsort⟩ := Grammar.sort_of_takes (g := topGrammar) htakes hname rest
  exact ⟨p, common, hsort, hsettle, hholds⟩

/-- What is told is all of a line but its command. -/
theorem Chosen.eq_of_holds {line : CommandLine} {told : List Choice} (h : line.Chosen told)
    {common : Common} (hholds : common.Holds told) :
    ({ config := common.config.getD Settings.defaultPath, format := common.format,
       encrypted := common.encrypted, command := line.command } : CommandLine) = line := by
  obtain ⟨hconfig, hformat, hencrypted⟩ := mem_choices_iff line
  have htold : ∀ c : Choice, (∀ path, c ≠ .config path) → (c ∈ told ↔ c ∈ line.choices) :=
    fun c hc => ⟨fun hmem => (h.mem hmem).resolve_left (hc _), h.of_mem⟩
  have hpath : common.config.getD Settings.defaultPath = line.config := by
    rcases h with hperm | ⟨hdefault, hperm⟩
    · rw [(hholds.config line.config).2 (hperm.mem_iff.2 List.mem_cons_self), Option.getD_some]
    · rw [hholds.config.eq_none fun path hmem => hconfig path (hperm.mem_iff.1 hmem),
        Option.getD_none, hdefault]
  have hsame : common.format = line.format := Option.ext fun format => by
    rw [hholds.format format, htold _ (by simp), hformat]
  have hflag : common.encrypted = line.encrypted := Bool.eq_iff_iff.2 <| by
    rw [hholds.encrypted, htold _ (by simp), hencrypted]
  rw [hpath, hsame, hflag]

theorem Written.read_eq {line : CommandLine} {words : List String} (hwritten : line.Written words)
    (h : line.Sound) : read words = .ok line := by
  obtain @⟨before, among, plain, first, rest, hcommon, hchosen, hplain, hfirst, hrest⟩ := hwritten
  have hnamed : ∀ c ∈ before ++ among, c.Named := fun c hc => hchosen.named h hc
  obtain ⟨hnodupBefore, hnodupAmong, -⟩ := List.nodup_append.1 (List.map_append ▸ hchosen.nodup)
  obtain ⟨p, common, hsort, hsettle, hholds⟩ := sort_before hfirst
    (fun c hc => ⟨hcommon c hc, hnamed c (List.mem_append_left _ hc)⟩) hnodupBefore line.command
    rest
  have hown : ∀ c ∈ line.command.choices, c ∈ among := by
    intro c hc
    have hline : c ∈ line.choices := by simp [choices, hc]
    exact (List.mem_append.1 (hchosen.of_mem hline)).resolve_left
      fun hbefore => not_isCommon_of_mem hc (hcommon c hbefore)
  obtain ⟨reader, common', hlookup, hread, hholds'⟩ := read_command h.command hplain hrest
    (fun c hc => ⟨hchosen.isCommon_or_mem (List.mem_append_right _ hc),
      hnamed c (List.mem_append_right _ hc)⟩) hown hnodupAmong
  rw [← hchosen.eq_of_holds (hholds.override hholds' hchosen.nodup)]
  simp only [read, hsort, bind, Except.bind, hlookup, hread, hsettle]
  rfl

/-- **Every line can be written, and is read back from every way to write it.** -/
theorem read_written {line : CommandLine} (h : line.Sound) :
    (∃ words, line.Written words) ∧ ∀ words, line.Written words → read words = .ok line :=
  ⟨exists_written line, fun _ hwritten => hwritten.read_eq h⟩

/-- A run with options of both kinds. -/
def scattered : CommandLine where
  format := some .snesPar
  encrypted := true
  command := .run {
    codeFile := "codes.txt", memoryImage := "wram.bin", base := some 0x7E0000, cycles := some 5 }

/-- Options on both sides of the command's name and of the file names, in several spellings. -/
theorem scattered_read :
    scattered.Sound ∧ read ["--variant", "SnesPAR", "run", "--base=0X7e0000", "codes.txt",
      "--encrypted", "wram.bin", "--cycles", "+5"] = .ok scattered := by
  have hsound : scattered.Sound :=
    ⟨⟨by decide, by decide⟩, ⟨by decide, by decide⟩, ⟨by decide, by decide⟩,
      fun _ hpath => nomatch hpath⟩
  have hformat : (Choice.format .snesPar).Written ["--variant", "SnesPAR"] :=
    .separate (.format rfl) (by simp)
  have hbase : (Choice.base 0x7E0000).Written ["--base=0X7e0000"] :=
    @Choice.Written.joined _ "0X7e0000" (.base rfl)
  have hread : readCycles "+5" = .ok 5 := by decide +kernel
  have hcycles : (Choice.cycles 5).Written ["--cycles", "+5"] :=
    .separate (.cycles hread) fun _ _ => by decide
  have hfirst : Mixed [.format .snesPar] [] ["--variant", "SnesPAR"] := .option hformat .nil
  have hrest : Mixed [.base 0x7E0000, .encrypted, .cycles 5] ["codes.txt", "wram.bin"]
      ["--base=0X7e0000", "codes.txt", "--encrypted", "wram.bin", "--cycles", "+5"] :=
    .option hbase <| .plain <| .option (.flag .encrypted) <| .plain <| .option hcycles .nil
  have hchosen : scattered.Chosen
      ([.format .snesPar] ++ [.base 0x7E0000, .encrypted, .cycles 5]) := .inr ⟨rfl, by decide⟩
  exact ⟨hsound, (read_written hsound).2 _
    (.intro (by simp [Choice.IsCommon]) hchosen (.run _) hfirst hrest)⟩

/-- **A number of cycles may be spelled with a hyphen at its start, but not in a word of its
own.** -/
theorem hyphened_cycles :
    readCycles "-0" = .ok 0 ∧
      read ["run", "a", "b", "--cycles=-0"] =
        .ok { command := .run { codeFile := "a", memoryImage := "b", cycles := some 0 } } ∧
      read ["run", "a", "b", "--cycles", "-0"] = .error .unknownArgument :=
  ⟨rfl, rfl, rfl⟩

end CommandLine
end CheatCode
