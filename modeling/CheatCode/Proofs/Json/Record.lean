/-
# Records are read back from JSON texts

A record of numbers has a layout: the names of its fields in order, each with what its numbers stay
below (`Json.Codec`).

| the value that a text writes | the text is read as |
| --- | --- |
| an object with each field once, and others besides, in any order | the record of the numbers |
| an array of the numbers, in the order of the fields | the record of the numbers |
| an object or array in which a field is missing or out of range, any other value | nothing |

In the first two rows the numbers are written by their digits alone, and the names are texts.  The
compact text of a record is one of these texts (`Json.records_read_back`).
-/

import CheatCode.Json.Record
import CheatCode.Proofs.Json.Written
import CheatCode.Proofs.Numeral.Spelled
import Mathlib.Data.List.Nodup

namespace CheatCode
namespace Json

/-! ## What a value holds -/

/-- Members of an object whose names are texts. -/
def named (members : List (String × Value)) : List (Option String × Value) :=
  members.map fun m => (some m.1, m.2)

/-- A value holds some fields: an object has each of them once, in any order and among members of
other names, or an array is the list of their values. -/
inductive Holds (fields : List (String × Value)) : Value → Prop
  | object {members others : List (String × Value)}
      (hothers : ∀ m ∈ others, m.1 ∉ fields.map Prod.fst)
      (hperm : members.Perm (fields ++ others)) : Holds fields (.object (named members))
  | array : Holds fields (.array (fields.map Prod.snd))

/-- A natural number below a bound, written by its digits alone. -/
def InRange (bound : Nat) (v : Value) : Prop := ∃ n < bound, v = .number (some n)

/-- A value does not hold the fields of a layout, or not with numbers in range. -/
inductive Unfit (layout : List (String × Nat)) : Value → Prop
  | missing {members : List (Option String × Value)} {name : String} {bound : Nat}
      (hfield : (name, bound) ∈ layout) (h : ∀ m ∈ members, m.1 ≠ some name) :
      Unfit layout (.object members)
  | member {members : List (Option String × Value)} {name : String} {bound : Nat} {v : Value}
      (hfield : (name, bound) ∈ layout) (hmember : (some name, v) ∈ members)
      (h : ¬ InRange bound v) : Unfit layout (.object members)
  | short {items : List Value} (h : items.length < layout.length) : Unfit layout (.array items)
  | item {items : List Value} {place : Nat} {name : String} {bound : Nat} {v : Value}
      (hfield : layout[place]? = some (name, bound)) (hitem : items[place]? = some v)
      (h : ¬ InRange bound v) : Unfit layout (.array items)
  | other {v : Value} (hobject : ∀ members, v ≠ .object members)
      (harray : ∀ items, v ≠ .array items) : Unfit layout v

/-! ## Members -/

theorem mapM_eq_some_iff {α β : Type} {f : α → Option β} {as : List α} {bs : List β} :
    as.mapM f = some bs ↔ List.Forall₂ (fun a b => f a = some b) as bs := by
  induction as generalizing bs with
  | nil => simp [eq_comm]
  | cons a as ih =>
    simp only [List.mapM_cons, Option.bind_eq_bind, Option.bind_eq_some_iff, Option.pure_def,
      Option.some.injEq, List.forall₂_cons_left_iff, ih]
    constructor
    · rintro ⟨b, hb, bs, hbs, rfl⟩
      exact ⟨b, bs, hb, hbs, rfl⟩
    · rintro ⟨b, bs, hb, hbs, rfl⟩
      exact ⟨b, hb, bs, hbs, rfl⟩

theorem member?_eq_some_iff {members : List (Option String × Value)} {name : String} {v : Value} :
    member? members name = some v ↔
      members.filter (·.1 = some name) = [(some name, v)] := by
  unfold member?
  constructor
  · intro h
    split at h
    · rename_i found value hfilter
      have hfound : found = some name := by
        have hmem := List.mem_filter.1 (hfilter ▸ List.mem_singleton_self (found, value))
        simpa using hmem.2
      rw [hfilter, hfound, Option.some.inj h]
    · cases h
  · intro h
    rw [h]

theorem filter_named (members : List (String × Value)) (name : String) :
    (named members).filter (·.1 = some name) = named (members.filter (·.1 = name)) := by
  rw [named, named, List.filter_map]
  congr 2
  funext m
  simp

/-- Members are named exactly if every name is a text. -/
theorem exists_named {members : List (Option String × Value)}
    (h : ∀ m ∈ members, m.1.isSome = true) : ∃ inner, members = named inner := by
  induction members with
  | nil => exact ⟨[], rfl⟩
  | cons m members ih =>
    obtain ⟨hm, hmembers⟩ := List.forall_mem_cons.1 h
    obtain ⟨inner, rfl⟩ := ih hmembers
    obtain ⟨name, hname⟩ := Option.isSome_iff_exists.1 hm
    have hhead : m = (some name, m.2) := Prod.ext hname rfl
    exact ⟨(name, m.2) :: inner, congrArg (· :: named inner) hhead⟩

/-- Members of which each field is the only one of its name are these fields, and others. -/
theorem perm_of_forall₂ {members : List (String × Value)} {names : List String}
    {values : List Value} (hnodup : names.Nodup)
    (h : List.Forall₂ (fun name v => members.filter (·.1 = name) = [(name, v)]) names values) :
    (members.filter (·.1 ∈ names)).Perm (names.zip values) := by
  induction h with
  | nil => simp
  | @cons name v names values hfirst _ ih =>
    obtain ⟨hnew, hnodup⟩ := List.nodup_cons.1 hnodup
    -- the members of the names split into those of the first name and those of the others
    have hsplit := List.filter_append_perm (fun m : String × Value => m.1 = name)
      (members.filter (·.1 ∈ name :: names))
    have hhead : (members.filter (·.1 ∈ name :: names)).filter (fun m => m.1 = name) =
        [(name, v)] := by
      rw [← hfirst, List.filter_filter]
      refine List.filter_congr fun m _ => ?_
      by_cases hm : m.1 = name <;> simp [hm]
    have htail : (members.filter (·.1 ∈ name :: names)).filter (fun m => !decide (m.1 = name)) =
        members.filter (·.1 ∈ names) := by
      rw [List.filter_filter]
      refine List.filter_congr fun m _ => ?_
      by_cases hm : m.1 = name
      · simp [hm, hnew]
      · simp [hm]
    rw [hhead, htail] at hsplit
    exact hsplit.symm.trans ((ih hnodup).cons (name, v))

/-- Where each name comes once, a member is the only one of its name. -/
theorem filter_of_mem {fields : List (String × Value)} (hnodup : (fields.map Prod.fst).Nodup)
    {m : String × Value} (hm : m ∈ fields) : fields.filter (·.1 = m.1) = [m] := by
  induction fields with
  | nil => cases hm
  | cons f fields ih =>
    obtain ⟨hnew, hnodup⟩ := List.nodup_cons.1 hnodup
    obtain rfl | hm := List.mem_cons.1 hm
    · rw [List.filter_cons_of_pos (by simp), List.filter_eq_nil_iff.2]
      intro g hg
      simp only [decide_eq_true_eq]
      exact fun heq => hnew (heq ▸ List.mem_map_of_mem hg)
    · have hne : f.1 ≠ m.1 := fun heq => hnew (heq ▸ List.mem_map_of_mem hm)
      rw [List.filter_cons_of_neg (by simpa using hne), ih hnodup hm]

/-- **The values of some fields are those that a value holds.** -/
theorem fields?_eq_some_iff {names : List String} {values : List Value} (hnodup : names.Nodup)
    {v : Value} :
    fields? names v = some values ↔ values.length = names.length ∧ Holds (names.zip values) v := by
  constructor
  · intro h
    unfold fields? at h
    split at h
    · rename_i items
      split at h
      · rename_i hlength
        obtain rfl := Option.some.inj h
        refine ⟨hlength, ?_⟩
        have harray : Holds (names.zip items) (.array ((names.zip items).map Prod.snd)) := .array
        rwa [List.map_snd_zip hlength.le] at harray
      · cases h
    · rename_i members
      split at h
      · rename_i hall
        obtain ⟨inner, rfl⟩ := exists_named (List.all_eq_true.1 hall)
        have hfields := mapM_eq_some_iff.1 h
        have honly : List.Forall₂ (fun name v => inner.filter (·.1 = name) = [(name, v)]) names
            values := by
          refine hfields.imp fun name v hmember => ?_
          rw [member?_eq_some_iff, filter_named] at hmember
          obtain ⟨m, hm, heq⟩ := List.map_eq_singleton_iff.1 hmember
          rw [hm]
          obtain ⟨hname, hvalue⟩ := Prod.mk.inj heq
          rw [← Option.some.inj hname, ← hvalue]
        have hsplit := List.filter_append_perm (fun m : String × Value => m.1 ∈ names) inner
        refine ⟨hfields.length_eq.symm,
          .object ?_ (hsplit.symm.trans ((perm_of_forall₂ hnodup honly).append_right _))⟩
        intro m hm
        rw [List.map_fst_zip hfields.length_eq.le]
        simpa using (List.mem_filter.1 hm).2
      · cases h
    · cases h
  · rintro ⟨hlength, h⟩
    cases h with
    | @object members others hothers hperm =>
      rw [List.map_fst_zip hlength.ge] at hothers
      have hall : (named members).all (·.1.isSome) = true := by
        rw [named, List.all_map, List.all_eq_true]
        exact fun _ _ => rfl
      rw [fields?, if_pos hall, mapM_eq_some_iff, List.forall₂_iff_zip]
      refine ⟨hlength.symm, fun {name v} hfield => ?_⟩
      have hzip : ((names.zip values).map Prod.fst).Nodup := by
        rwa [List.map_fst_zip hlength.ge]
      have hnone : others.filter (·.1 = name) = [] := by
        refine List.filter_eq_nil_iff.2 fun m hm => ?_
        simp only [decide_eq_true_eq]
        exact fun heq => hothers m hm (heq ▸ (List.of_mem_zip hfield).1)
      have hfilter := hperm.filter (·.1 = name)
      rw [List.filter_append, filter_of_mem hzip hfield, hnone, List.append_nil,
        List.perm_singleton] at hfilter
      rw [member?_eq_some_iff, filter_named, hfilter]
      rfl
    | array => rw [fields?, List.map_snd_zip hlength.le, if_pos hlength]

/-! ## Records -/

/-- A name that is written as it is: no character of it is escaped. -/
def IsPlain (name : String) : Prop :=
  ∀ c ∈ name.toList, 0x20 ≤ c.toNat ∧ c ≠ '"' ∧ c ≠ '\\'

instance (name : String) : Decidable (IsPlain name) := List.decidableBAll _ name.toList

/-- How the records of a type stand in JSON texts. -/
structure Codec (α : Type) where
  /-- The names of the fields in order, each with what its numbers stay below. -/
  layout : List (String × Nat)
  /-- The numbers of a record, in the order of the fields. -/
  numbers : α → List Nat
  /-- The record that a value stands for. -/
  ofJson? : Value → Option α
  /-- The compact text of a record. -/
  toJson : α → String

namespace Codec

variable {α : Type}

/-- The record that a text is read as. -/
def read (codec : Codec α) (text : String) : Option α := (parse? text).bind codec.ofJson?

/-- The fields of a record, with their numbers. -/
def fields (codec : Codec α) (a : α) : List (String × Nat) :=
  (codec.layout.map Prod.fst).zip (codec.numbers a)

/-- The fields of a record as members of an object. -/
def members (codec : Codec α) (a : α) : List (String × Value) :=
  (codec.fields a).map fun f => (f.1, .number (some f.2))

/-- **Records are read back.** -/
structure ReadsBack (codec : Codec α) : Prop where
  /-- The compact text of a record is read as the record. -/
  compact : ∀ a, codec.read (codec.toJson a) = some a
  /-- The texts that are read as a record are those that write an object with each of its fields
  once, or the array of its numbers. -/
  held : ∀ (v : Value) (text : String), WritesText v text.toList →
    ∀ a, codec.read text = some a ↔ Holds (codec.members a) v
  /-- A text without a field, or with one that is no number in range, is refused. -/
  refused : ∀ (v : Value) (text : String), WritesText v text.toList → Unfit codec.layout v →
    codec.read text = none

/-- The names of a layout are plain and come once, records have a number in range for each of them,
and are read and written by them. -/
structure Lawful (codec : Codec α) : Prop where
  ne_nil : codec.layout ≠ []
  nodup : (codec.layout.map Prod.fst).Nodup
  plain : ∀ f ∈ codec.layout, IsPlain f.1
  fits : ∀ a, List.Forall₂ (fun f n => n < f.2) codec.layout (codec.numbers a)
  reads : ∀ v a, codec.ofJson? v = some a ↔
    fields? (codec.layout.map Prod.fst) v = some ((codec.numbers a).map fun n => .number (some n))
  writes : ∀ a, codec.toJson a = record (codec.fields a)

end Codec

/-! ## Compact texts -/

theorem Padded.bare {α : Type} {writes : α → List Char → Prop} {a : α} {cs : List Char}
    (h : writes a cs) : Padded writes a cs :=
  ⟨[], cs, [], List.forall_mem_nil _, List.forall_mem_nil _, h, by simp⟩

theorem row_intercalate {α : Type} {writes : α → List Char → Prop} {as : List α}
    {pieces : List (List Char)} (h : List.Forall₂ writes as pieces) (hne : as ≠ []) :
    Row writes as (List.intercalate [','] pieces) := by
  induction h with
  | nil => exact absurd rfl hne
  | @cons a piece as pieces hpiece hrest ih =>
    cases hrest with
    | nil =>
      rw [List.intercalate_singleton]
      exact .one (.bare hpiece)
    | cons _ _ =>
      rw [List.intercalate_cons_cons, List.append_assoc, List.singleton_append]
      exact .cons (.bare hpiece) (ih (List.cons_ne_nil _ _))

theorem quotes_plain {name : String} (h : IsPlain name) :
    Quotes (some name) ('"' :: name.toList ++ ['"']) := by
  refine ⟨name.toList.map .char, name.toList.map fun c => [c], ?_, ?_, ?_⟩
  · rw [List.forall₂_map_left_iff, List.forall₂_map_right_iff, List.forall₂_same]
    exact fun c hc => .plain (h c hc).1 (h c hc).2.1 (h c hc).2.2
  · rw [← List.flatMap_def, List.flatMap_singleton']
  · have hjoin : ∀ cs : List Char, join (cs.map .char) = some cs := by
      intro cs
      induction cs with
      | nil => rfl
      | cons c cs ih => rw [List.map_cons, join, ih]; rfl
    rw [hjoin, Option.map_some, String.ofList_toList]

theorem whole_toDigits (n : Nat) : Whole (Nat.toDigits 10 n) := by
  refine ⟨⟨Nat.toDigits_ne_nil, fun c hc => Nat.isDigit_of_mem_toDigits (by omega) le_rfl hc⟩, ?_⟩
  intro hhead
  by_cases hn : n = 0
  · subst hn
    rfl
  · exact absurd hhead (Numeral.head?_toDigits hn)

theorem writesNumber_toDigits (n : Nat) : WritesNumber (some n) (Nat.toDigits 10 n) :=
  .natural (whole_toDigits n) (Numeral.denotes_decimal n)

/-- A member by its name as it is and the digits of its number. -/
theorem member_compact {name : String} (n : Nat) (h : IsPlain name) :
    Member (Writes 0) (some name, .number (some n))
      ('"' :: name.toList ++ ['"'] ++ ':' :: Nat.toDigits 10 n) :=
  ⟨_, [], [], _, quotes_plain h, List.forall_mem_nil _, List.forall_mem_nil _,
    .number (writesNumber_toDigits n), rfl⟩

/-- **The compact text of some fields writes the object of these fields.** -/
theorem writesText_record {fields : List (String × Nat)} (hne : fields ≠ [])
    (h : ∀ f ∈ fields, IsPlain f.1) :
    WritesText (.object (named (fields.map fun f => (f.1, .number (some f.2)))))
      (record fields).toList := by
  let piece (f : String × Nat) := '"' :: f.1.toList ++ ['"'] ++ ':' :: Nat.toDigits 10 f.2
  have hpieces : List.Forall₂ (Member (Writes 0))
      (named (fields.map fun f => (f.1, .number (some f.2)))) (fields.map piece) := by
    rw [named, List.map_map, List.forall₂_map_left_iff, List.forall₂_map_right_iff,
      List.forall₂_same]
    exact fun f hf => member_compact f.2 (h f hf)
  have htext : (record fields).toList =
      '\x7b' :: (List.intercalate [','] (fields.map piece) ++ ['\x7d']) := by
    have hmember : ∀ f : String × Nat,
        ("\"" ++ f.1 ++ "\":" ++ toString f.2).toList = piece f := by
      intro f
      simp only [String.toList_append, Nat.toString_eq_ofList_toDigits, String.toList_ofList]
      simp [piece]
    have hmap : fields.map (String.toList ∘ fun f => "\"" ++ f.1 ++ "\":" ++ toString f.2) =
        fields.map piece := List.map_congr_left fun f _ => hmember f
    simp only [record, String.toList_append, String.toList_intercalate, List.map_map]
    rw [hmap]
    rfl
  rw [htext]
  exact ⟨1, .bare (.inr (.object (.some (row_intercalate hpieces (by simpa [named] using hne)))))⟩

/-! ## Lawful codecs -/

namespace Codec

variable {α : Type} {codec : Codec α}

theorem Lawful.length_eq (h : codec.Lawful) (a : α) :
    (codec.layout.map Prod.fst).length = (codec.numbers a).length := by
  rw [List.length_map, (h.fits a).length_eq]

theorem Lawful.names_fields (h : codec.Lawful) (a : α) :
    (codec.fields a).map Prod.fst = codec.layout.map Prod.fst :=
  List.map_fst_zip (h.length_eq a).le

theorem Lawful.names_members (h : codec.Lawful) (a : α) :
    (codec.members a).map Prod.fst = codec.layout.map Prod.fst := by
  rw [members, List.map_map, ← h.names_fields a]
  rfl

theorem Lawful.values_members (h : codec.Lawful) (a : α) :
    (codec.members a).map Prod.snd = (codec.numbers a).map fun n => .number (some n) := by
  have hnumbers : (codec.fields a).map Prod.snd = codec.numbers a :=
    List.map_snd_zip (h.length_eq a).ge
  rw [members, List.map_map, ← hnumbers, List.map_map]
  rfl

/-- A value stands for a record exactly if it holds its fields. -/
theorem Lawful.ofJson?_eq_some_iff (h : codec.Lawful) {v : Value} {a : α} :
    codec.ofJson? v = some a ↔ Holds (codec.members a) v := by
  have hzip : (codec.layout.map Prod.fst).zip
      ((codec.numbers a).map fun n => Value.number (some n)) = codec.members a := by
    rw [List.zip_map_right]
    rfl
  rw [h.reads, fields?_eq_some_iff h.nodup, hzip, List.length_map, ← h.length_eq,
    and_iff_right rfl]

/-- The numbers of a record are in range, field by field. -/
theorem Lawful.inRange_of_mem (h : codec.Lawful) {a : α} {name : String} {bound : Nat} {v : Value}
    (hfield : (name, bound) ∈ codec.layout) (hmember : (name, v) ∈ codec.members a) :
    InRange bound v := by
  obtain ⟨f, hf, heq⟩ := List.mem_map.1 hmember
  obtain ⟨hname, rfl⟩ := Prod.mk.inj heq
  rw [fields, List.zip_map_left] at hf
  obtain ⟨⟨g, n⟩, hzip, rfl⟩ := List.mem_map.1 hf
  have hsame : g = (name, bound) :=
    List.inj_on_of_nodup_map h.nodup (List.of_mem_zip hzip).1 hfield hname
  have hlt : n < g.2 := List.forall₂_zip (h.fits a) hzip
  rw [hsame] at hlt
  exact ⟨n, hlt, rfl⟩

/-- A value that does not hold the fields in range stands for no record. -/
theorem Lawful.not_holds_of_unfit (h : codec.Lawful) {v : Value} (hunfit : Unfit codec.layout v)
    (a : α) : ¬ Holds (codec.members a) v := by
  intro hholds
  cases hunfit with
  | @missing members name bound hfield hmissing =>
    cases hholds with
    | @object inner others _ hperm =>
      have hname : name ∈ (codec.members a).map Prod.fst := by
        rw [h.names_members a]
        exact List.mem_map_of_mem hfield
      obtain ⟨m, hm, rfl⟩ := List.mem_map.1 hname
      have hinner : m ∈ inner := hperm.mem_iff.2 (List.mem_append_left _ hm)
      exact hmissing _ (List.mem_map_of_mem hinner) rfl
  | @member members name bound v hfield hmember hbad =>
    cases hholds with
    | @object inner others hothers hperm =>
      obtain ⟨m, hm, heq⟩ := List.mem_map.1 hmember
      obtain ⟨hname, rfl⟩ := Prod.mk.inj heq
      obtain rfl := Option.some.inj hname
      rcases List.mem_append.1 (hperm.mem_iff.1 hm) with hm | hm
      · exact hbad (h.inRange_of_mem hfield hm)
      · refine hothers m hm ?_
        rw [h.names_members a]
        exact List.mem_map_of_mem hfield
  | short hlength =>
    cases hholds with
    | array =>
      rw [h.values_members a, List.length_map, ← (h.fits a).length_eq] at hlength
      exact lt_irrefl _ hlength
  | @item items place name bound v hfield hitem hbad =>
    cases hholds with
    | array =>
      rw [List.getElem?_map] at hitem
      obtain ⟨m, hm, rfl⟩ := Option.map_eq_some_iff.1 hitem
      have hname : m.1 = name := by
        have hnames := congrArg (·[place]?) (h.names_members a)
        simpa [List.getElem?_map, hm, hfield] using hnames
      have hmem : (name, m.2) ∈ codec.members a := hname ▸ List.mem_of_getElem? hm
      exact hbad (h.inRange_of_mem (List.mem_of_getElem? hfield) hmem)
  | other hobject harray =>
    cases hholds with
    | object _ _ => exact hobject _ rfl
    | array => exact harray _ rfl

/-- **The records of a lawful codec are read back.** -/
theorem Lawful.readsBack (h : codec.Lawful) : codec.ReadsBack := by
  have hheld : ∀ (v : Value) (text : String), WritesText v text.toList →
      ∀ a, codec.read text = some a ↔ Holds (codec.members a) v := by
    intro v text htext a
    rw [read, parse?_written htext, Option.bind_some, h.ofJson?_eq_some_iff]
  refine ⟨fun a => ?_, hheld, fun v text htext hunfit => ?_⟩
  · have hne : codec.fields a ≠ [] := fun hnil => h.ne_nil <| List.map_eq_nil_iff.1 <| by
      rw [← h.names_fields a, hnil, List.map_nil]
    have hplain : ∀ f ∈ codec.fields a, IsPlain f.1 := by
      intro f hf
      obtain ⟨g, hg, hname⟩ := List.mem_map.1 (List.of_mem_zip hf).1
      rw [← hname]
      exact h.plain g hg
    rw [h.writes, hheld _ _ (writesText_record hne hplain)]
    exact .object (fun m hm => absurd hm List.not_mem_nil) (by rw [List.append_nil]; rfl)
  · refine Option.eq_none_iff_forall_ne_some.2 fun a hread => ?_
    exact h.not_holds_of_unfit hunfit a ((hheld v text htext a).1 hread)

end Codec

/-! ## Pokes and patches -/

theorem natural?_eq_some_iff {bound n : Nat} {v : Value} :
    natural? bound v = some n ↔ v = .number (some n) ∧ n < bound := by
  unfold natural?
  split
  · split
    · simp; omega
    · simp; omega
  · rename_i hne
    simp only [reduceCtorEq, false_iff, not_and]
    exact fun hv => absurd hv (hne n)

theorem natural?_of_lt {bound n : Nat} (h : n < bound) :
    natural? bound (.number (some n)) = some n :=
  natural?_eq_some_iff.2 ⟨rfl, h⟩

end Json

/-- Pokes in JSON texts. -/
def Poke.codec : Json.Codec Poke where
  layout := [("address", UInt64.size), ("value", UInt8.size)]
  numbers p := [p.address.toNat, p.value.toNat]
  ofJson? := Poke.ofJson?
  toJson := Poke.toJson

/-- Patches in JSON texts. -/
def Patch.codec : Json.Codec Patch where
  layout := [("address", UInt64.size), ("width", UInt64.size), ("value", UInt64.size)]
  numbers p := [p.address.toNat, p.width.toNat, p.value.toNat]
  ofJson? := Patch.ofJson?
  toJson := Patch.toJson

namespace Json

theorem lawful_poke : Poke.codec.Lawful where
  ne_nil := by decide
  nodup := by decide
  plain := by decide
  fits p := .cons p.address.toNat_lt_size (.cons p.value.toNat_lt_size .nil)
  reads v p := by
    simp only [Poke.codec, Poke.ofJson?, List.map_cons, List.map_nil]
    constructor
    · intro h
      obtain ⟨values, hvalues, h⟩ := Option.bind_eq_some_iff.1 h
      split at h
      · simp only [Option.bind_eq_bind, Option.bind_eq_some_iff, natural?_eq_some_iff,
          Option.some.injEq] at h
        obtain ⟨a, ⟨rfl, ha⟩, x, ⟨rfl, hx⟩, rfl⟩ := h
        rw [hvalues, UInt64.toNat_ofNat_of_lt' ha, UInt8.toNat_ofNat_of_lt' hx]
      · cases h
    · intro h
      simp only [h, Option.bind_eq_bind, Option.bind_some, natural?_of_lt p.address.toNat_lt_size,
        natural?_of_lt p.value.toNat_lt_size, UInt64.ofNat_toNat, UInt8.ofNat_toNat]
  writes _ := rfl

theorem lawful_patch : Patch.codec.Lawful where
  ne_nil := by decide
  nodup := by decide
  plain := by decide
  fits p := .cons p.address.toNat_lt_size
    (.cons p.width.toNat_lt_size (.cons p.value.toNat_lt_size .nil))
  reads v p := by
    simp only [Patch.codec, Patch.ofJson?, List.map_cons, List.map_nil]
    constructor
    · intro h
      obtain ⟨values, hvalues, h⟩ := Option.bind_eq_some_iff.1 h
      split at h
      · simp only [Option.bind_eq_bind, Option.bind_eq_some_iff, natural?_eq_some_iff,
          Option.some.injEq] at h
        obtain ⟨a, ⟨rfl, ha⟩, w, ⟨rfl, hw⟩, x, ⟨rfl, hx⟩, rfl⟩ := h
        rw [hvalues, UInt64.toNat_ofNat_of_lt' ha, UInt64.toNat_ofNat_of_lt' hw,
          UInt64.toNat_ofNat_of_lt' hx]
      · cases h
    · intro h
      simp only [h, Option.bind_eq_bind, Option.bind_some, natural?_of_lt p.address.toNat_lt_size,
        natural?_of_lt p.width.toNat_lt_size, natural?_of_lt p.value.toNat_lt_size,
        UInt64.ofNat_toNat]
  writes _ := rfl

/-- **Pokes and patches are read back from their compact texts, and from every text that writes an
object with each field once, or the array of the numbers in order; texts without a field, or with
one that is no natural number in range, are refused.** -/
theorem records_read_back : Poke.codec.ReadsBack ∧ Patch.codec.ReadsBack :=
  ⟨lawful_poke.readsBack, lawful_patch.readsBack⟩

/-- A name that is no text: one escape, of half of a pair of code units. -/
theorem quotes_loneHalf : Quotes none ['"', '\\', 'u', 'd', '8', '3', 'd', '"'] := by
  refine ⟨[.half 0xd83d], [['\\', 'u', 'd', '8', '3', 'd']], .cons ?_ .nil, rfl, rfl⟩
  exact .half rfl (Numeral.denotes_of_value? (by decide)) (by decide) (by decide)

/-- **An object that holds a poke's fields is refused if another of its names is no text.** -/
theorem loneHalf_refused :
    WritesText (.object (named (Poke.codec.members ⟨1, 2⟩) ++ [(none, .number (some 1))]))
      "\x7b\"address\":1,\"value\":2,\"\\ud83d\":1\x7d".toList ∧
    Poke.codec.read "\x7b\"address\":1,\"value\":2,\"\\ud83d\":1\x7d" = none := by
  have hlone : Member (Writes 0) (none, .number (some 1))
      ['"', '\\', 'u', 'd', '8', '3', 'd', '"', ':', '1'] :=
    ⟨_, [], [], _, quotes_loneHalf, List.forall_mem_nil _, List.forall_mem_nil _,
      .number (writesNumber_toDigits 1), rfl⟩
  have htext : WritesText
      (.object (named (Poke.codec.members ⟨1, 2⟩) ++ [(none, .number (some 1))]))
      "\x7b\"address\":1,\"value\":2,\"\\ud83d\":1\x7d".toList :=
    ⟨1, .bare <| .inr <| .object <| .some <| row_intercalate
      (.cons (member_compact 1 (by decide)) (.cons (member_compact 2 (by decide))
        (.cons hlone .nil))) (List.cons_ne_nil _ _)⟩
  refine ⟨htext, ?_⟩
  rw [Codec.read, parse?_written htext]
  rfl

end Json
end CheatCode
