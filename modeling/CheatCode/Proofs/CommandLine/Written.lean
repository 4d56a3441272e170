/-
# Ways to write a command line

| a part of a line | is written as |
| --- | --- |
| `encrypted` | `--encrypted` |
| an option with a value | `--name=value` or `--name value`, with any spelling of the value |
| a file name | itself |
| a patch | any spelling that is read as it |
| a command | its name |

The options of all commands stand before the name of the command or among its words, those of the
command among its words; they stand in any order, each once, anywhere among the plain words, which
alone keep their order (`CommandLine.Written`).

A value that starts with a hyphen cannot stand in the next word, where it would be taken for an
option.  Of the values that are read only a number of cycles can be spelled so
(`CommandLine.Choice.Spelled.not_dashed`).  Every line can be written
(`CommandLine.exists_written`).
-/

import CheatCode.CommandLine
import CheatCode.Proofs.Arguments.Taken
import CheatCode.Proofs.Patch.Spelling
import Mathlib.Data.List.Nodup

namespace CheatCode

namespace CommandLine

open Arguments

/-! ## Options -/

/-- An option with its value. -/
inductive Choice where
  | config (path : String)
  | format (format : Format)
  | encrypted
  | base (address : UInt64)
  | cycles (count : UInt32)
  | intervalMs (period : UInt64)
  | output (path : String)
  deriving DecidableEq, Repr

/-- A name of a file: not empty and with no hyphen at its start. -/
def IsName (text : String) : Prop := text ≠ "" ∧ ¬ Dashed text

namespace Choice

/-- The name of the option. -/
def name : Choice → String
  | .config _ => "config"
  | .format _ => "variant"
  | .encrypted => "encrypted"
  | .base _ => "base"
  | .cycles _ => "cycles"
  | .intervalMs _ => "interval-ms"
  | .output _ => "output"

/-- The option is one that all commands have. -/
def IsCommon : Choice → Prop
  | .config _ | .format _ | .encrypted => True
  | _ => False

/-- If the value is text, it is the name of a file. -/
def Named : Choice → Prop
  | .config path | .output path => IsName path
  | _ => True

/-- The spellings of the value, if there is one. -/
inductive Spelled : Choice → Option String → Prop
  | config (path : String) : Spelled (.config path) (some path)
  | format {word : String} {format : Format} (h : readFormat word = .ok format) :
      Spelled (.format format) (some word)
  | encrypted : Spelled .encrypted none
  | base {word : String} {address : UInt64} (h : readAddress word = .ok address) :
      Spelled (.base address) (some word)
  | cycles {word : String} {count : UInt32} (h : readCycles word = .ok count) :
      Spelled (.cycles count) (some word)
  | intervalMs {word : String} {period : UInt64} (h : readMilliseconds word = .ok period) :
      Spelled (.intervalMs period) (some word)
  | output (path : String) : Spelled (.output path) (some path)

/-- The ways to write an option. -/
inductive Written (c : Choice) : List String → Prop
  | flag (h : c.Spelled none) : Written c ["--" ++ c.name]
  | joined {value : String} (h : c.Spelled (some value)) :
      Written c ["--" ++ c.name ++ "=" ++ value]
  | separate {value : String} (h : c.Spelled (some value))
      (hcycles : ∀ count, c = .cycles count → ¬ Dashed value) :
      Written c ["--" ++ c.name, value]

end Choice

/-- Words write some options and some plain words, both in their order, each option anywhere among
the plain words. -/
inductive Mixed : List Choice → List String → List String → Prop
  | nil : Mixed [] [] []
  | option {c : Choice} {choices : List Choice} {plain words rest : List String}
      (h : c.Written words) (hrest : Mixed choices plain rest) :
      Mixed (c :: choices) plain (words ++ rest)
  | plain {word : String} {choices : List Choice} {plain rest : List String}
      (hrest : Mixed choices plain rest) : Mixed choices (word :: plain) (word :: rest)

end CommandLine

/-! ## Lines -/

namespace Command

open CommandLine (Choice IsName)

/-- The name of a command. -/
def name : Command → String
  | .run _ => "run"
  | .address _ => "address"
  | .encode _ => "encode"
  | .info => "info"

/-- The options of a command of its own. -/
def choices : Command → List Choice
  | .run request =>
    request.base.toList.map .base ++ (request.cycles.toList.map .cycles ++
      (request.intervalMs.toList.map .intervalMs ++ request.output.toList.map .output))
  | _ => []

/-- The plain words of a command. -/
inductive Plain : Command → List String → Prop
  | run (request : RunRequest) : Plain (.run request) [request.codeFile, request.memoryImage]
  | address (codeFile : String) : Plain (.address codeFile) [codeFile]
  | encode {patches : List Patch} {words : List String}
      (h : List.Forall₂ (fun word patch => CommandLine.readPatch word = .ok patch) words patches) :
      Plain (.encode patches) words
  | info : Plain .info []

/-- The files of a command have names, and there is something to encode. -/
def Sound : Command → Prop
  | .run request => IsName request.codeFile ∧ IsName request.memoryImage ∧
      ∀ path, request.output = some path → IsName path
  | .address codeFile => IsName codeFile
  | .encode patches => patches ≠ []
  | .info => True

end Command

namespace CommandLine

open Arguments

/-- The options of a line that have to be told. -/
def choices (line : CommandLine) : List Choice :=
  line.format.toList.map .format ++
    ((if line.encrypted then [.encrypted] else []) ++ line.command.choices)

/-- The files of a line have names, and there is something to encode. -/
structure Sound (line : CommandLine) : Prop where
  config : IsName line.config
  command : line.command.Sound

/-- What is told is each option of a line once, in any order; the settings file may be left out if
it is the default one. -/
def Chosen (line : CommandLine) (told : List Choice) : Prop :=
  told.Perm (.config line.config :: line.choices) ∨
    line.config = Settings.defaultPath ∧ told.Perm line.choices

/-- The ways to write a line: options of all commands before the name of the command, the other
options after it, mixed with the plain words. -/
inductive Written (line : CommandLine) : List String → Prop
  | intro {before among : List Choice} {plain words rest : List String}
      (hcommon : ∀ c ∈ before, c.IsCommon) (hchosen : line.Chosen (before ++ among))
      (hplain : line.command.Plain plain) (hwords : Mixed before [] words)
      (hrest : Mixed among plain rest) : Written line (words ++ line.command.name :: rest)

/-! ## What has to be told -/

theorem not_isCommon_of_mem {command : Command} {c : Choice} (h : c ∈ command.choices) :
    ¬ c.IsCommon := by
  cases command with
  | run request =>
    simp only [Command.choices, List.mem_append, List.mem_map] at h
    rcases h with ⟨_, -, rfl⟩ | ⟨_, -, rfl⟩ | ⟨_, -, rfl⟩ | ⟨_, -, rfl⟩ <;> exact id
  | address | encode | info => cases h

theorem names_sublist {α : Type} (kind : α → Choice) (name : String)
    (h : ∀ a, (kind a).name = name) (value : Option α) :
    ((value.toList.map kind).map Choice.name).Sublist [name] := by
  cases value with
  | none => exact List.nil_sublist _
  | some a => rw [Option.toList_some, List.map_singleton, List.map_singleton, h a]

theorem names_choices_command (command : Command) :
    (command.choices.map Choice.name).Sublist ["base", "cycles", "interval-ms", "output"] := by
  cases command with
  | run request =>
    simp only [Command.choices, List.map_append]
    exact (names_sublist .base "base" (fun _ => rfl) request.base).append
      ((names_sublist .cycles "cycles" (fun _ => rfl) request.cycles).append
        ((names_sublist .intervalMs "interval-ms" (fun _ => rfl) request.intervalMs).append
          (names_sublist .output "output" (fun _ => rfl) request.output)))
  | address | encode | info => exact List.nil_sublist _

/-- A line has each option once. -/
theorem nodup_choices (line : CommandLine) :
    ((.config line.config :: line.choices).map Choice.name).Nodup := by
  have hencrypted : ((if line.encrypted then [Choice.encrypted] else []).map Choice.name).Sublist
      ["encrypted"] := by
    split
    · exact List.Sublist.refl _
    · exact List.nil_sublist _
  have hnames := (names_sublist .format "variant" (fun _ => rfl) line.format).append
    (hencrypted.append (names_choices_command line.command))
  simp only [choices, List.map_cons, List.map_append]
  exact (hnames.cons_cons "config").nodup (by decide)

theorem mem_choices_iff (line : CommandLine) :
    (∀ path, .config path ∉ line.choices) ∧
      (∀ format, .format format ∈ line.choices ↔ line.format = some format) ∧
      (.encrypted ∈ line.choices ↔ line.encrypted = true) := by
  have hown : ∀ c : Choice, c.IsCommon → c ∉ line.command.choices :=
    fun c hc hmem => not_isCommon_of_mem hmem hc
  have hconfig := fun path => hown (.config path) trivial
  have hformat := fun format => hown (.format format) trivial
  have hencrypted := hown .encrypted trivial
  simp [choices, hconfig, hformat, hencrypted, Option.mem_toList]

namespace Chosen

variable {line : CommandLine} {told : List Choice}

theorem nodup (h : line.Chosen told) : (told.map Choice.name).Nodup := by
  rcases h with hperm | ⟨-, hperm⟩
  · exact (hperm.map _).nodup_iff.2 (nodup_choices line)
  · exact (hperm.map _).nodup_iff.2 (List.nodup_cons.1 (nodup_choices line)).2

theorem mem (h : line.Chosen told) {c : Choice} (hc : c ∈ told) :
    c = .config line.config ∨ c ∈ line.choices := by
  rcases h with hperm | ⟨-, hperm⟩
  · exact List.mem_cons.1 (hperm.mem_iff.1 hc)
  · exact .inr (hperm.mem_iff.1 hc)

theorem of_mem (h : line.Chosen told) {c : Choice} (hc : c ∈ line.choices) : c ∈ told := by
  rcases h with hperm | ⟨-, hperm⟩
  · exact hperm.mem_iff.2 (List.mem_cons_of_mem _ hc)
  · exact hperm.mem_iff.2 hc

/-- What is told is for all commands or for that of the line. -/
theorem isCommon_or_mem (h : line.Chosen told) {c : Choice} (hc : c ∈ told) :
    c.IsCommon ∨ c ∈ line.command.choices := by
  rcases h.mem hc with rfl | hc
  · exact .inl trivial
  simp only [choices, List.mem_append, List.mem_map] at hc
  rcases hc with ⟨_, -, rfl⟩ | hc | hc
  · exact .inl trivial
  · split at hc
    · obtain rfl := List.mem_singleton.1 hc
      exact .inl trivial
    · cases hc
  · exact .inr hc

theorem named (h : line.Chosen told) (hsound : line.Sound) {c : Choice} (hc : c ∈ told) :
    c.Named := by
  cases c with
  | config path =>
    rcases h.mem hc with heq | hmem
    · obtain rfl := Choice.config.inj heq
      exact hsound.config
    · exact absurd hmem ((mem_choices_iff line).1 path)
  | output path =>
    have hmem := (h.isCommon_or_mem hc).resolve_left id
    have hcommand := hsound.command
    cases hline : line.command with
    | run request =>
      rw [hline] at hmem hcommand
      exact hcommand.2.2 path (by simpa [Command.choices] using hmem)
    | address | encode | info =>
      rw [hline] at hmem
      cases hmem
  | format | encrypted | base | cycles | intervalMs => trivial

end Chosen

/-! ## Spellings that start with a hyphen -/

theorem eq_ok_of_mapError {ε ε' α : Type} {f : ε → ε'} {x : Except ε α} {a : α}
    (h : x.mapError f = .ok a) : x = .ok a := by
  cases x with
  | error e => cases h
  | ok b => rw [Except.ok.inj h]

theorem not_dashed_of_not_mem {word : String} (h : '-' ∉ word.toList) : ¬ Dashed word :=
  fun hdashed => h (List.mem_of_head? hdashed)

theorem not_dashed_format {word : String} {format : Format} (h : readFormat word = .ok format) :
    ¬ Dashed word := by
  intro hdashed
  obtain ⟨cs, hcs⟩ := List.head?_eq_some_iff.1 hdashed
  have hfolded : String.ofList (word.toList.map Char.toLower) =
      String.ofList ('-' :: cs.map Char.toLower) := by
    rw [hcs]
    rfl
  have hne : ∀ text : String, text.toList.head? ≠ some '-' →
      String.ofList ('-' :: cs.map Char.toLower) ≠ text := by
    rintro text hhead rfl
    exact hhead (by rw [String.toList_ofList]; rfl)
  have hread := eq_ok_of_mapError h
  rw [Format.read, hfolded, if_neg, if_neg] at hread
  · cases hread
  · exact not_or.2 ⟨hne _ (by decide), hne _ (by decide)⟩
  · exact not_or.2 ⟨hne _ (by decide), hne _ (by decide)⟩

theorem not_dashed_address {word : String} {address : UInt64} (h : readAddress word = .ok address) :
    ¬ Dashed word := by
  have hread := eq_ok_of_mapError h
  rw [← String.ofList_toList (s := word), Numeral.readHex_eq_ok_iff] at hread
  exact not_dashed_of_not_mem (hread.not_mem rfl (by decide) (by decide))

theorem not_dashed_milliseconds {word : String} {period : UInt64}
    (h : readMilliseconds word = .ok period) : ¬ Dashed word := by
  have hread := eq_ok_of_mapError h
  rw [← String.ofList_toList (s := word), Numeral.readDecimal_eq_ok_iff] at hread
  exact not_dashed_of_not_mem (hread.not_mem rfl (by decide))

theorem not_dashed_patch {word : String} {patch : Patch} (h : readPatch word = .ok patch) :
    ¬ Dashed word := by
  intro hdashed
  have hreads := Patch.reads_read word
  rw [eq_ok_of_mapError h] at hreads
  cases hreads with
  | patch hspells =>
    obtain ⟨address, width, value, hfields, haddress, -, -⟩ := hspells
    have hfree : '-' ∉ address := haddress.not_mem rfl (by decide) (by decide)
    rw [Dashed, hfields.joined] at hdashed
    cases address with
    | nil => cases hdashed
    | cons c address => exact hfree (Option.some.inj hdashed ▸ List.mem_cons_self)

/-- **Only a number of cycles is read from a spelling that starts with a hyphen.** -/
theorem Choice.Spelled.not_dashed {c : Choice} {value : String} (h : c.Spelled (some value))
    (hnamed : c.Named) (hcycles : ∀ count, c = .cycles count → ¬ Dashed value) :
    ¬ Dashed value := by
  cases h with
  | config path => exact hnamed.2
  | format h => exact not_dashed_format h
  | base h => exact not_dashed_address h
  | cycles h => exact hcycles _ rfl
  | intervalMs h => exact not_dashed_milliseconds h
  | output path => exact hnamed.2

/-! ## Every line can be written -/

theorem exists_address (n : UInt64) : ∃ word, readAddress word = .ok n := by
  have hread := Numeral.readHex_eq_ok_iff.2 (Numeral.spellsHex_hex n.toNat)
  exact ⟨_, by rw [readAddress, hread]; rfl⟩

theorem exists_milliseconds (n : UInt64) : ∃ word, readMilliseconds word = .ok n := by
  have hread := Numeral.readDecimal_eq_ok_iff.2 (Numeral.spells_decimal n.toNat)
  exact ⟨_, by rw [readMilliseconds, hread]; rfl⟩

theorem exists_cycles (n : UInt32) : ∃ word, readCycles word = .ok n := by
  have hdenotes := Numeral.denotes_decimal n.toNat
  have hsign : '-' ∉ Nat.toDigits 10 n.toNat := hdenotes.not_mem rfl
  have hbound : n.toNat < Numeral.signedBound := n.toNat_lt.trans (by decide)
  have hread : Numeral.readSigned 10 Numeral.signedBound (Nat.toDigits 10 n.toNat) =
      .ok (n.toNat : Int) := by
    unfold Numeral.readSigned
    split
    · rename_i heq
      exact absurd (heq ▸ List.mem_cons_self) hsign
    · rw [Numeral.read_of_denotes (by omega) hdenotes Nat.toDigits_ne_nil hbound]
      rfl
  refine ⟨String.ofList (Nat.toDigits 10 n.toNat), ?_⟩
  rw [readCycles, String.toList_ofList, hread]
  simp only
  rw [if_pos ⟨by omega, by exact_mod_cast n.toNat_lt_size⟩, Int.toNat_natCast, UInt32.ofNat_toNat]

theorem exists_patch (patch : Patch) : ∃ word, readPatch word = .ok patch := by
  have haddress := Numeral.spellsHex_hex patch.address.toNat
  have hwidth := Numeral.spells_decimal patch.width.toNat
  have hvalue := Numeral.spellsHex_hex patch.value.toNat
  have hfields : Patch.HasFields _ _ _ _ :=
    ⟨rfl, haddress.not_mem rfl (by decide) (by decide), hwidth.not_mem rfl (by decide),
      hvalue.not_mem rfl (by decide) (by decide)⟩
  obtain ⟨cs, hspells⟩ : ∃ cs, Patch.Spells cs patch :=
    ⟨_, _, _, _, hfields, haddress, hwidth, hvalue⟩
  have hread : Patch.read (String.ofList cs) = .ok patch :=
    Patch.read_of_spells (by rwa [String.toList_ofList])
  exact ⟨_, by rw [readPatch, hread]; rfl⟩

theorem Choice.exists_written (c : Choice) : ∃ words, c.Written words := by
  cases c with
  | config path => exact ⟨_, .joined (.config path)⟩
  | format format =>
    have hread : readFormat format.keyword = .ok format := by cases format <;> rfl
    exact ⟨_, .joined (.format hread)⟩
  | encrypted => exact ⟨_, .flag .encrypted⟩
  | base address =>
    obtain ⟨word, hread⟩ := exists_address address
    exact ⟨_, .joined (.base hread)⟩
  | cycles count =>
    obtain ⟨word, hread⟩ := exists_cycles count
    exact ⟨_, .joined (.cycles hread)⟩
  | intervalMs period =>
    obtain ⟨word, hread⟩ := exists_milliseconds period
    exact ⟨_, .joined (.intervalMs hread)⟩
  | output path => exact ⟨_, .joined (.output path)⟩

theorem exists_plain (command : Command) : ∃ plain, command.Plain plain := by
  cases command with
  | run request => exact ⟨_, .run request⟩
  | address codeFile => exact ⟨_, .address codeFile⟩
  | encode patches =>
    choose word hword using exists_patch
    refine ⟨patches.map word, .encode ?_⟩
    rw [List.forall₂_map_left_iff, List.forall₂_same]
    exact fun patch _ => hword patch
  | info => exact ⟨_, .info⟩

theorem exists_mixed (told : List Choice) (plain : List String) :
    ∃ words, Mixed told plain words := by
  induction told with
  | nil =>
    induction plain with
    | nil => exact ⟨[], .nil⟩
    | cons word plain ih =>
      obtain ⟨words, hwords⟩ := ih
      exact ⟨_, .plain hwords⟩
  | cons c told ih =>
    obtain ⟨first, hfirst⟩ := c.exists_written
    obtain ⟨words, hwords⟩ := ih
    exact ⟨_, .option hfirst hwords⟩

/-- **Every line can be written.** -/
theorem exists_written (line : CommandLine) : ∃ words, Written line words := by
  obtain ⟨plain, hplain⟩ := exists_plain line.command
  obtain ⟨rest, hrest⟩ := exists_mixed (.config line.config :: line.choices) plain
  exact ⟨_, .intro (List.forall_mem_nil _) (.inl (List.Perm.refl _)) hplain .nil hrest⟩

end CommandLine
end CheatCode
