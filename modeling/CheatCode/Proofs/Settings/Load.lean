/-
# Settings are loaded all or not at all

What a settings file sets is told by the table that it is read as, name by name (`Settings.Fit`):
a setting is set if its name has a value, and then to what this value is fit for.  If a name has a
value that is fit for nothing (`Settings.Unfit`), no setting is set.  So other names do not count,
nor does the order of names.  The lines of some settings, in any order, are loaded back as these
settings (`Settings.loads_all_or_nothing`).

| name | fit values |
| --- | --- |
| `variant` | a format's keyword; a table of that one name whose value is an empty table or array |
| `interval-ms`, `base-address` | an integer from 0 to `2 ^ 63 - 1` |
| `cycles` | an integer from 0 to `2 ^ 32 - 1` |
| `log-dir` | a string |
-/

import CheatCode.Proofs.Program.OnMachine
import CheatCode.Proofs.Toml.Document
import CheatCode.Settings

namespace CheatCode
namespace Settings

open Toml (Value Entries)

/-! ## Fit values -/

/-- A value with nothing in it: a table without names. -/
def EmptyTable (value : Value) : Prop := ∃ kind, value = .table kind []

/-- A value with nothing in it: a table without names, or an array without items. -/
def Empty (value : Value) : Prop := EmptyTable value ∨ value = .array []

/-- A value names a format: by its keyword, or by a table of that one name with nothing in it. -/
inductive Names (nothing : Value → Prop) : Value → Format → Prop
  | keyword (format : Format) : Names nothing (.string format.keyword) format
  | table (format : Format) {kind : Toml.Kind} {value : Value} (h : nothing value) :
      Names nothing (.table kind [(format.keyword, value)]) format

/-- A value is a number below a bound. -/
def Counts (bound : Nat) (value : Value) (n : Nat) : Prop := value = .integer n ∧ n < bound

variable {α : Type}

/-- A setting is what the value of its name is fit for, and not set if the name has none. -/
def FieldFit (entries : Entries) (name : String) (fit : Value → α → Prop) (setting : Option α) :
    Prop :=
  (∃ value a, (name, value) ∈ entries ∧ fit value a ∧ setting = some a) ∨
    (∀ value, (name, value) ∉ entries) ∧ setting = none

/-- A name has a value that is fit for nothing. -/
def FieldUnfit (entries : Entries) (name : String) (fit : Value → α → Prop) : Prop :=
  ∃ value, (name, value) ∈ entries ∧ ∀ a, ¬ fit value a

/-- Settings are what a table sets, each by its name. -/
structure Fit (entries : Entries) (s : Settings) : Prop where
  format : FieldFit entries "variant" (Names Empty) s.format
  intervalMs : FieldFit entries "interval-ms" (fun v n => Counts (2 ^ 63) v n.toNat) s.intervalMs
  cycles : FieldFit entries "cycles" (fun v n => Counts (2 ^ 32) v n.toNat) s.cycles
  baseAddress : FieldFit entries "base-address" (fun v n => Counts (2 ^ 63) v n.toNat) s.baseAddress
  logDir : FieldFit entries "log-dir" (fun v text => v = .string text) s.logDir

/-- Some setting's name has a value that is fit for nothing. -/
def Unfit (entries : Entries) : Prop :=
  FieldUnfit entries "variant" (Names Empty) ∨
    FieldUnfit entries "interval-ms" (fun v (n : UInt64) => Counts (2 ^ 63) v n.toNat) ∨
    FieldUnfit entries "cycles" (fun v (n : UInt32) => Counts (2 ^ 32) v n.toNat) ∨
    FieldUnfit entries "base-address" (fun v (n : UInt64) => Counts (2 ^ 63) v n.toNat) ∨
    FieldUnfit entries "log-dir" (fun v (text : String) => v = .string text)

/-! ## Reading them -/

theorem ofKeyword?_eq_some_iff {text : String} {format : Format} :
    Format.ofKeyword? text = some format ↔ text = format.keyword := by
  unfold Format.ofKeyword?
  split_ifs with hsfc hsnes
  · subst hsfc
    cases format <;> decide
  · subst hsnes
    cases format <;> decide
  · cases format
    · exact iff_of_false nofun hsfc
    · exact iff_of_false nofun hsnes

theorem isEmpty_iff {value : Value} : isEmpty value = true ↔ Empty value := by
  unfold isEmpty Empty EmptyTable
  split <;> simp_all

theorem format?_eq_some_iff {value : Value} {format : Format} :
    format? value = some format ↔ Names Empty value format := by
  constructor
  · intro h
    unfold format? at h
    split at h
    · rw [ofKeyword?_eq_some_iff] at h
      subst h
      exact .keyword format
    · split at h
      · rename_i hempty
        rw [ofKeyword?_eq_some_iff] at h
        subst h
        exact .table format (isEmpty_iff.1 hempty)
      · cases h
    · cases h
  · rintro (⟨⟩ | ⟨_, hempty⟩)
    · exact ofKeyword?_eq_some_iff.2 rfl
    · exact (if_pos (isEmpty_iff.2 hempty)).trans (ofKeyword?_eq_some_iff.2 rfl)

theorem number?_eq_some_iff {bound n : Nat} {value : Value} :
    number? bound value = some n ↔ Counts bound value n := by
  constructor
  · intro h
    unfold number? at h
    split at h
    · split at h
      · rename_i m hrange
        obtain rfl : m.toNat = n := Option.some.inj h
        exact ⟨congrArg Value.integer (Int.toNat_of_nonneg hrange.1).symm, by omega⟩
      · cases h
    · cases h
  · rintro ⟨rfl, hlt⟩
    exact if_pos ⟨by omega, by omega⟩

/-- An integer of a document is below `2 ^ 63`, so no greater bound lets more through. -/
theorem milliseconds_eq_some_iff {value : Value} (h : value.Sound) {n : UInt64} :
    (number? UInt64.size value).map UInt64.ofNat = some n ↔ Counts (2 ^ 63) value n.toNat := by
  have hsigned : Numeral.signedBound = 2 ^ 63 := by decide
  constructor
  · intro hread
    obtain ⟨m, hm, rfl⟩ := Option.map_eq_some_iff.1 hread
    obtain ⟨hvalue, hlt⟩ := number?_eq_some_iff.1 hm
    have hrange := (h m hvalue).2
    rw [hsigned] at hrange
    rw [UInt64.toNat_ofNat_of_lt' hlt]
    exact ⟨hvalue, Int.ofNat_lt.1 hrange⟩
  · rintro ⟨hvalue, -⟩
    rw [number?_eq_some_iff.2 ⟨hvalue, n.toNat_lt⟩, Option.map_some, UInt64.ofNat_toNat]

theorem cycles_eq_some_iff {value : Value} {n : UInt32} :
    (number? UInt32.size value).map UInt32.ofNat = some n ↔ Counts (2 ^ 32) value n.toNat := by
  constructor
  · intro hread
    obtain ⟨m, hm, rfl⟩ := Option.map_eq_some_iff.1 hread
    obtain ⟨hvalue, hlt⟩ := number?_eq_some_iff.1 hm
    rw [UInt32.toNat_ofNat_of_lt' hlt]
    exact ⟨hvalue, hlt⟩
  · rintro ⟨hvalue, -⟩
    rw [number?_eq_some_iff.2 ⟨hvalue, n.toNat_lt⟩, Option.map_some, UInt32.ofNat_toNat]

theorem text?_eq_some_iff {value : Value} {text : String} :
    text? value = some text ↔ value = .string text := by
  cases value <;> simp [text?]

/-- **A setting is read as the name's value says**, the value being the only one. -/
theorem field_eq_some_iff {entries : Entries} (hsound : entries.Sound) (name : String)
    {read : Value → Option α} {fit : Value → α → Prop}
    (hread : ∀ value a, value.Sound → (read value = some a ↔ fit value a)) (setting : Option α) :
    field entries name read = some setting ↔ FieldFit entries name fit setting := by
  unfold field FieldFit
  cases hlookup : entries.lookup name with
  | none =>
    have hnone : ∀ value, (name, value) ∉ entries := fun value hmem => by
      rw [hsound.lookup_eq_some_iff.2 hmem] at hlookup
      cases hlookup
    simp [hnone, eq_comm]
  | some value =>
    have hmem := hsound.lookup_eq_some_iff.1 hlookup
    have hunique : ∀ other, (name, other) ∈ entries → other = value := fun other hother => by
      rw [hsound.lookup_eq_some_iff.2 hother] at hlookup
      exact Option.some.inj hlookup
    have hfit := fun a => hread value a (hsound.values _ hmem)
    constructor
    · intro h
      obtain ⟨a, ha, rfl⟩ := Option.map_eq_some_iff.1 h
      exact .inl ⟨value, a, hmem, (hfit a).1 ha, rfl⟩
    · rintro (⟨other, a, hother, ha, rfl⟩ | ⟨hnone, -⟩)
      · obtain rfl := hunique other hother
        exact Option.map_eq_some_iff.2 ⟨a, (hfit a).2 ha, rfl⟩
      · exact absurd hmem (hnone value)

/-- The setting of a name is fit or unfit. -/
theorem exists_fieldFit {entries : Entries} {name : String} {fit : Value → α → Prop}
    (h : ¬ FieldUnfit entries name fit) : ∃ setting, FieldFit entries name fit setting := by
  by_cases hnone : ∀ value, (name, value) ∉ entries
  · exact ⟨none, .inr ⟨hnone, rfl⟩⟩
  · obtain ⟨value, hmem⟩ := not_forall_not.1 hnone
    obtain ⟨a, ha⟩ : ∃ a, fit value a := by
      by_contra hfit
      exact h ⟨value, hmem, fun a ha => hfit ⟨a, ha⟩⟩
    exact ⟨some a, .inl ⟨value, a, hmem, ha, rfl⟩⟩

theorem not_fieldFit {entries : Entries} (hsound : entries.Sound) {name : String}
    {fit : Value → α → Prop} (h : FieldUnfit entries name fit) (setting : Option α) :
    ¬ FieldFit entries name fit setting := by
  obtain ⟨value, hmem, hunfit⟩ := h
  rintro (⟨other, a, hother, ha, -⟩ | ⟨hnone, -⟩)
  · have heq := hsound.lookup_eq_some_iff.2 hother
    rw [hsound.lookup_eq_some_iff.2 hmem] at heq
    exact hunfit a (Option.some.inj heq ▸ ha)
  · exact hnone value hmem

/-- **Settings are read from a table exactly if they are what it sets.** -/
theorem ofEntries?_eq_some_iff {entries : Entries} (hsound : entries.Sound) {s : Settings} :
    ofEntries? entries = some s ↔ Fit entries s := by
  have hformat : ∀ setting, field entries "variant" format? = some setting ↔
      FieldFit entries "variant" (Names Empty) setting :=
    field_eq_some_iff hsound _ fun _ _ _ => format?_eq_some_iff
  have hmilliseconds : ∀ name setting,
      field entries name (fun v => (number? UInt64.size v).map UInt64.ofNat) = some setting ↔
        FieldFit entries name (fun v n => Counts (2 ^ 63) v n.toNat) setting := fun _ =>
    field_eq_some_iff hsound _ fun _ _ hvalue => milliseconds_eq_some_iff hvalue
  have hcycles : ∀ setting,
      field entries "cycles" (fun v => (number? UInt32.size v).map UInt32.ofNat) = some setting ↔
        FieldFit entries "cycles" (fun v n => Counts (2 ^ 32) v n.toNat) setting :=
    field_eq_some_iff hsound _ fun _ _ _ => cycles_eq_some_iff
  have hlogDir : ∀ setting, field entries "log-dir" text? = some setting ↔
      FieldFit entries "log-dir" (fun v text => v = .string text) setting :=
    field_eq_some_iff hsound _ fun _ _ _ => text?_eq_some_iff
  constructor
  · intro h
    obtain ⟨format, h1, h⟩ := Option.bind_eq_some_iff.1 h
    obtain ⟨intervalMs, h2, h⟩ := Option.bind_eq_some_iff.1 h
    obtain ⟨cycles, h3, h⟩ := Option.bind_eq_some_iff.1 h
    obtain ⟨baseAddress, h4, h⟩ := Option.bind_eq_some_iff.1 h
    obtain ⟨logDir, h5, h⟩ := Option.bind_eq_some_iff.1 h
    cases h
    exact ⟨(hformat _).1 h1, (hmilliseconds _ _).1 h2, (hcycles _).1 h3, (hmilliseconds _ _).1 h4,
      (hlogDir _).1 h5⟩
  · rintro ⟨h1, h2, h3, h4, h5⟩
    rw [ofEntries?, (hformat _).2 h1, (hmilliseconds _ _).2 h2, (hcycles _).2 h3,
      (hmilliseconds _ _).2 h4, (hlogDir _).2 h5]
    rfl

/-- What is fit in all its names is fit as a whole. -/
theorem exists_fit {entries : Entries} (h : ¬ Unfit entries) : ∃ s, Fit entries s := by
  obtain ⟨h1, h⟩ := not_or.1 h
  obtain ⟨h2, h⟩ := not_or.1 h
  obtain ⟨h3, h⟩ := not_or.1 h
  obtain ⟨h4, h5⟩ := not_or.1 h
  obtain ⟨format, hformat⟩ := exists_fieldFit h1
  obtain ⟨intervalMs, hintervalMs⟩ := exists_fieldFit h2
  obtain ⟨cycles, hcycles⟩ := exists_fieldFit h3
  obtain ⟨baseAddress, hbaseAddress⟩ := exists_fieldFit h4
  obtain ⟨logDir, hlogDir⟩ := exists_fieldFit h5
  exact ⟨{ format, intervalMs, cycles, baseAddress, logDir },
    ⟨hformat, hintervalMs, hcycles, hbaseAddress, hlogDir⟩⟩

theorem not_fit {entries : Entries} (hsound : entries.Sound) (h : Unfit entries) (s : Settings) :
    ¬ Fit entries s := by
  rintro ⟨h1, h2, h3, h4, h5⟩
  rcases h with h | h | h | h | h
  · exact not_fieldFit hsound h _ h1
  · exact not_fieldFit hsound h _ h2
  · exact not_fieldFit hsound h _ h3
  · exact not_fieldFit hsound h _ h4
  · exact not_fieldFit hsound h _ h5

/-! ## Files -/

/-- The content of a file is read as a table. -/
def Parses (content : ByteArray) (entries : Entries) : Prop :=
  ∃ text, String.fromUTF8? content = some text ∧ Toml.parse? text = some entries

theorem ofBytes_of_parses {content : ByteArray} {entries : Entries} (h : Parses content entries) :
    ofBytes content = (ofEntries? entries).getD {} := by
  obtain ⟨text, htext, hparse⟩ := h
  rw [ofBytes, htext, Option.bind_eq_bind, Option.bind_some, hparse]
  rfl

theorem Parses.sound {content : ByteArray} {entries : Entries} (h : Parses content entries) :
    entries.Sound := by
  obtain ⟨text, -, hparse⟩ := h
  exact Toml.sound_parse? hparse

/-- **Settings that a file's table sets are loaded.** -/
theorem ofBytes_of_fit {content : ByteArray} {entries : Entries} (h : Parses content entries)
    {s : Settings} (hs : Fit entries s) : ofBytes content = s := by
  rw [ofBytes_of_parses h, (ofEntries?_eq_some_iff h.sound).2 hs]
  rfl

/-- **An unfit value leaves all of them unset.** -/
theorem ofBytes_of_unfit {content : ByteArray} {entries : Entries} (h : Parses content entries)
    (hunfit : Unfit entries) : ofBytes content = {} := by
  rw [ofBytes_of_parses h]
  cases hs : ofEntries? entries with
  | none => rfl
  | some s => exact absurd ((ofEntries?_eq_some_iff h.sound).1 hs) (not_fit h.sound hunfit s)

/-- The names of all settings. -/
def names : List String := ["variant", "interval-ms", "cycles", "base-address", "log-dir"]

theorem fieldFit_congr {entries entries' : Entries} {name : String}
    (h : ∀ value, (name, value) ∈ entries' ↔ (name, value) ∈ entries) {fit : Value → α → Prop}
    {setting : Option α} (hfit : FieldFit entries name fit setting) :
    FieldFit entries' name fit setting := by
  simpa only [FieldFit, h] using hfit

/-- Names of no setting do not count, nor does the order of names. -/
theorem Fit.congr {entries entries' : Entries} {s : Settings} (hfit : Fit entries s)
    (h : ∀ name ∈ names, ∀ value, (name, value) ∈ entries' ↔ (name, value) ∈ entries) :
    Fit entries' s :=
  ⟨fieldFit_congr (h _ (by simp [names])) hfit.format,
    fieldFit_congr (h _ (by simp [names])) hfit.intervalMs,
    fieldFit_congr (h _ (by simp [names])) hfit.cycles,
    fieldFit_congr (h _ (by simp [names])) hfit.baseAddress,
    fieldFit_congr (h _ (by simp [names])) hfit.logDir⟩

theorem ofBytes_congr {content content' : ByteArray} {entries entries' : Entries}
    (h : Parses content entries) (h' : Parses content' entries')
    (hsame : ∀ name ∈ names, ∀ value, (name, value) ∈ entries' ↔ (name, value) ∈ entries) :
    ofBytes content' = ofBytes content := by
  by_cases hunfit : Unfit entries
  · have hunfit' : Unfit entries' := by
      by_contra hfit
      obtain ⟨s, hs⟩ := exists_fit hfit
      exact not_fit h.sound hunfit s (hs.congr fun name hname value =>
        (hsame name hname value).symm)
    rw [ofBytes_of_unfit h hunfit, ofBytes_of_unfit h' hunfit']
  · obtain ⟨s, hs⟩ := exists_fit hunfit
    rw [ofBytes_of_fit h hs, ofBytes_of_fit h' (hs.congr hsame)]

/-! ## Files that set some settings -/

/-- A setting that is set, with its name and a value for it. -/
def named (name : String) (write : α → Value) (setting : Option α) : Entries :=
  setting.toList.map fun a => (name, write a)

/-- The names of the settings that are set, each with a value that sets it. -/
def entries (s : Settings) : Entries :=
  named "variant" (fun format => .string format.keyword) s.format ++
    (named "interval-ms" (fun n => .integer n.toNat) s.intervalMs ++
      (named "cycles" (fun n => .integer n.toNat) s.cycles ++
        (named "base-address" (fun n => .integer n.toNat) s.baseAddress ++
          named "log-dir" .string s.logDir)))

/-- The numbers are integers of a document. -/
structure InRange (s : Settings) : Prop where
  intervalMs : ∀ n ∈ s.intervalMs, n.toNat < 2 ^ 63
  baseAddress : ∀ n ∈ s.baseAddress, n.toNat < 2 ^ 63

/-- A file holds plain lines that give names their values, in this order. -/
def Holds (content : ByteArray) (order : Entries) : Prop :=
  ∃ text lines, String.fromUTF8? content = some text ∧ Text.CutInto text.toList lines ∧
    Toml.WritesLines order lines

theorem mem_named {name : String} {write : α → Value} {setting : Option α}
    {e : String × Value} :
    e ∈ named name write setting ↔ ∃ a, setting = some a ∧ e = (name, write a) := by
  cases setting <;> simp [named]

theorem names_named (name : String) (write : α → Value) (setting : Option α) :
    ((named name write setting).map (·.1)).Sublist [name] := by
  cases setting
  · exact List.nil_sublist _
  · exact List.Sublist.refl _

theorem names_entries (s : Settings) : (s.entries.map (·.1)).Sublist names := by
  simp only [entries, List.map_append]
  exact (names_named _ _ _).append ((names_named _ _ _).append ((names_named _ _ _).append
    ((names_named _ _ _).append (names_named _ _ _))))

theorem nodup_entries (s : Settings) : (s.entries.map (·.1)).Nodup :=
  s.names_entries.nodup (by decide)

theorem mem_entries {s : Settings} {e : String × Value} :
    e ∈ s.entries ↔
      (∃ format, s.format = some format ∧ e = ("variant", .string format.keyword)) ∨
      (∃ n, s.intervalMs = some n ∧ e = ("interval-ms", .integer n.toNat)) ∨
      (∃ n, s.cycles = some n ∧ e = ("cycles", .integer n.toNat)) ∨
      (∃ n, s.baseAddress = some n ∧ e = ("base-address", .integer n.toNat)) ∨
      ∃ text, s.logDir = some text ∧ e = ("log-dir", .string text) := by
  simp only [entries, List.mem_append, mem_named]

/-- A table whose value for a name is written for a setting sets it to the same. -/
theorem fieldFit_of_write {order : Entries} {name : String} {fit : Value → α → Prop}
    {write : α → Value} {setting : Option α}
    (hmem : ∀ value, (name, value) ∈ order ↔ ∃ a, setting = some a ∧ value = write a)
    (hfit : ∀ a ∈ setting, fit (write a) a) : FieldFit order name fit setting := by
  cases setting with
  | none =>
    refine .inr ⟨fun value h => ?_, rfl⟩
    obtain ⟨a, ha, -⟩ := (hmem value).1 h
    cases ha
  | some a => exact .inl ⟨write a, a, (hmem _).2 ⟨a, rfl, rfl⟩, hfit a rfl, rfl⟩

/-- **The names and values of settings set these settings**, in any order. -/
theorem InRange.fit {s : Settings} (hrange : s.InRange) {order : Entries}
    (horder : order.Perm s.entries) : Fit order s where
  format := fieldFit_of_write (fun value => by simp [horder.mem_iff, mem_entries])
    fun format _ => .keyword format
  intervalMs := fieldFit_of_write (fun value => by simp [horder.mem_iff, mem_entries])
    fun n hn => ⟨rfl, hrange.intervalMs n hn⟩
  cycles := fieldFit_of_write (fun value => by simp [horder.mem_iff, mem_entries])
    fun n _ => ⟨rfl, n.toNat_lt⟩
  baseAddress := fieldFit_of_write (fun value => by simp [horder.mem_iff, mem_entries])
    fun n hn => ⟨rfl, hrange.baseAddress n hn⟩
  logDir := fieldFit_of_write (fun value => by simp [horder.mem_iff, mem_entries]) fun _ _ => rfl

/-- A setting's name is written as it is. -/
theorem bare_of_mem_names {name : String} (h : name ∈ names) : Toml.Bare name := by
  simp only [names, List.mem_cons, List.not_mem_nil, or_false] at h
  rcases h with rfl | rfl | rfl | rfl | rfl <;> decide

/-- Each value can be written on its line. -/
theorem InRange.exists_writes {s : Settings} (hrange : s.InRange) {e : String × Value}
    (he : e ∈ s.entries) : ∃ written, Toml.Writes e.2 written := by
  have hsigned : Numeral.signedBound = 2 ^ 63 := by decide
  have hstring : ∀ text : String, ∃ written, Toml.Writes (.string text) written := fun text =>
    (Toml.exists_quotes text.toList).imp fun _ => .string
  have hinteger : ∀ n < 2 ^ 63, ∃ written, Toml.Writes (.integer (n : Nat)) written :=
    fun n hn => ⟨_, .integer n (hsigned ▸ hn)⟩
  rcases mem_entries.1 he with ⟨format, -, rfl⟩ | ⟨n, hn, rfl⟩ | ⟨n, -, rfl⟩ | ⟨n, hn, rfl⟩ |
    ⟨text, -, rfl⟩
  · exact hstring format.keyword
  · exact hinteger _ (hrange.intervalMs n hn)
  · exact hinteger _ (n.toNat_lt.trans (by decide))
  · exact hinteger _ (hrange.baseAddress n hn)
  · exact hstring text

/-- A text is read back from its bytes. -/
theorem fromUTF8?_toUTF8 (text : String) : String.fromUTF8? text.toUTF8 = some text :=
  dif_pos text.isValidUTF8

/-- **Settings can be written to a file**, in any order. -/
theorem InRange.exists_holds {s : Settings} (hrange : s.InRange) {order : Entries}
    (horder : order.Perm s.entries) : ∃ content, Holds content order := by
  have hwritten : ∀ e ∈ order, Toml.Bare e.1 ∧ ∃ written, Toml.Writes e.2 written := by
    intro e he
    have hmem := horder.mem_iff.1 he
    exact ⟨bare_of_mem_names (s.names_entries.subset (List.mem_map_of_mem hmem)),
      hrange.exists_writes hmem⟩
  obtain ⟨chars, lines, hcut, hlines⟩ := Toml.exists_text hwritten
  exact ⟨_, _, lines, fromUTF8?_toUTF8 (String.ofList chars), by rwa [String.toList_ofList],
    hlines⟩

/-- A file of plain lines for different names is read as these lines say. -/
theorem Holds.parses {content : ByteArray} {order : Entries} (h : Holds content order)
    (hnames : (order.map (·.1)).Nodup) : Parses content order := by
  obtain ⟨text, lines, htext, hcut, hlines⟩ := h
  exact ⟨text, htext, Toml.parse?_written hcut hlines hnames⟩

/-- **Settings are loaded back from the lines that set them.** -/
theorem InRange.ofBytes_of_holds {s : Settings} (hrange : s.InRange) {order : Entries}
    (horder : order.Perm s.entries) {content : ByteArray} (h : Holds content order) :
    ofBytes content = s :=
  ofBytes_of_fit (h.parses ((horder.map _).nodup_iff.2 s.nodup_entries)) (hrange.fit horder)

/-! ## Loading -/

/-- **Settings are loaded all or not at all.**  Loading them always gives some, and changes nothing
on the machine.  None is set if the file cannot be read, or is no text, or is no document.  A
document that has no unfit value for a setting's name sets what it says, and one that has an unfit
value sets nothing; names of no setting and the order of names do not count.  And settings in range
are loaded back from any file that holds them, of which there is one for each order of their
lines. -/
theorem loads_all_or_nothing :
    (∀ (machine : Machine) (path : String),
      (∀ error, machine.disk.read path = .error error →
        machine.run (Program.loadSettings path) = ({}, machine)) ∧
      ∀ file, machine.disk.read path = .ok file →
        machine.run (Program.loadSettings path) = (ofBytes file.bytes, machine)) ∧
    (∀ content, (String.fromUTF8? content = none → ofBytes content = {}) ∧
      ∀ text, String.fromUTF8? content = some text → Toml.parse? text = none →
        ofBytes content = {}) ∧
    (∀ content entries, Parses content entries →
      (entries.map (·.1)).Nodup ∧
      (¬ Unfit entries → Fit entries (ofBytes content)) ∧
      (Unfit entries → ofBytes content = {}) ∧
      ∀ content' entries', Parses content' entries' →
        (∀ name ∈ names, ∀ value, (name, value) ∈ entries' ↔ (name, value) ∈ entries) →
        ofBytes content' = ofBytes content) ∧
    ∀ s : Settings, s.InRange → ∀ order : Entries, order.Perm s.entries →
      (∃ content, Holds content order) ∧ ∀ content, Holds content order → ofBytes content = s := by
  refine ⟨fun machine path => ⟨fun error herror => ?_, fun file hfile => ?_⟩,
    fun content => ⟨fun hnone => ?_, fun text htext hnone => ?_⟩,
    fun content entries hparses => ⟨hparses.sound.nodup, fun hfit => ?_,
      ofBytes_of_unfit hparses, fun _ _ => ofBytes_congr hparses⟩,
    fun s hrange order horder => ⟨hrange.exists_holds horder,
      fun _ => hrange.ofBytes_of_holds horder⟩⟩
  · rw [machine.run_loadSettings, Disk.settings, herror]
  · rw [machine.run_loadSettings, Disk.settings, hfile]
  · rw [ofBytes, hnone]
    rfl
  · rw [ofBytes, htext, Option.bind_eq_bind, Option.bind_some, hnone]
    rfl
  · obtain ⟨s, hs⟩ := exists_fit hfit
    rwa [ofBytes_of_fit hparses hs]

/-- A format's name with an empty array, beside a number of cycles. -/
def withEmptyArray : String := "cycles = 9\nvariant.snes-par = []"

/-- Whether a table names its format with an empty array. -/
def namesByArray (entries : Entries) : Bool :=
  match entries.lookup "variant" with
  | some (.table _ [(_, .array [])]) => true
  | _ => false

/-- Such a name is fit only if an array is taken for a value with nothing in it. -/
theorem fieldUnfit_of_namesByArray {entries : Entries} (hsound : entries.Sound)
    (h : namesByArray entries = true) : FieldUnfit entries "variant" (Names EmptyTable) := by
  unfold namesByArray at h
  split at h
  · rename_i kind name hvalue
    refine ⟨_, hsound.lookup_eq_some_iff.1 hvalue, fun format hnames => ?_⟩
    generalize hvalue : Value.table kind [(name, .array [])] = value at hnames
    rcases hnames with ⟨⟩ | ⟨_, kind, rfl⟩
    · cases hvalue
    · simp at hvalue
  · cases h

/-- **An empty table is not the only value with nothing in it:** an empty array names the format as
well, and the number of cycles beside it is loaded. -/
theorem withEmptyArray_loads :
    ∃ entries, Parses withEmptyArray.toUTF8 entries ∧
      FieldUnfit entries "variant" (Names EmptyTable) ∧
      ofBytes withEmptyArray.toUTF8 = { format := some .snesPar, cycles := some 9 } := by
  have hnames : (Toml.parse? withEmptyArray).any namesByArray = true := by decide +kernel
  obtain ⟨entries, hparse, hnames⟩ := (Option.any_eq_true _ _).1 hnames
  have hparses : Parses withEmptyArray.toUTF8 entries := ⟨_, fromUTF8?_toUTF8 _, hparse⟩
  exact ⟨entries, hparses, fieldUnfit_of_namesByArray hparses.sound hnames, by decide +kernel⟩

end Settings
end CheatCode
