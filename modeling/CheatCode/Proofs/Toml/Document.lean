/-
# Documents of plain lines

A plain line gives a name its value: the name as it is, an equals sign between blanks, and the
value as it is written.  A text that is cut into plain lines, for names all different, is read as
the table of these names and values, in the order of the lines (`Toml.parse?_written`).
-/

import CheatCode.Proofs.Text.Lines
import CheatCode.Proofs.Toml.Sound
import CheatCode.Proofs.Toml.Written

namespace CheatCode
namespace Toml

open Text (Reader CutInto)
open Text.Reader

/-! ## From a line to a statement -/

/-- What a name may hold that is written as it is. -/
def IsBare (c : Char) : Prop := c.isAlphanum = true ∨ c = '-' ∨ c = '_'

/-- A name that is written as it is. -/
structure Bare (name : String) : Prop where
  nonempty : name.toList ≠ []
  chars : ∀ c ∈ name.toList, IsBare c

theorem Bare.exists_cons {name : String} (h : Bare name) :
    ∃ first later, name.toList = first :: later ∧ IsBare first ∧ ∀ c ∈ later, IsBare c := by
  obtain ⟨first, later, hlist⟩ := List.exists_cons_of_ne_nil h.nonempty
  have hchars := h.chars
  rw [hlist] at hchars
  exact ⟨first, later, hlist, List.forall_mem_cons.1 hchars⟩

/-- A line gives a name its value. -/
def WritesLine (e : String × Value) (line : List Char) : Prop :=
  ∃ written, Writes e.2 written ∧ line = e.1.toList ++ ' ' :: '=' :: ' ' :: written

/-- Some characters stand in no bare name. -/
theorem IsBare.ne {c d : Char} (h : IsBare c) (hd : ¬ IsBare d) : c ≠ d := fun heq => hd (heq ▸ h)

instance (c : Char) : Decidable (IsBare c) := inferInstanceAs (Decidable (_ ∨ _))

instance (name : String) : Decidable (Bare name) :=
  decidable_of_iff (name.toList ≠ [] ∧ name.toList.all (fun c => decide (IsBare c)) = true)
    ⟨fun h => ⟨h.1, by simpa using h.2⟩, fun h => ⟨h.nonempty, by simpa using h.chars⟩⟩

theorem blanks_of_head {rest : List Char} (h : ∀ c ∈ rest.head?, isBlank c = false) :
    blanks rest = some ((), rest) := by
  have hspan : span isBlank ([] ++ rest) = some ([], rest) :=
    span_append (List.forall_mem_nil _) h
  rw [blanks, discard_apply]
  exact congrArg (Option.map _) hspan

/-- One blank before what is none. -/
theorem blanks_cons {rest : List Char} (h : ∀ c ∈ rest.head?, isBlank c = false) :
    blanks (' ' :: rest) = some ((), rest) := by
  have hspan : span isBlank ([' '] ++ rest) = some ([' '], rest) :=
    span_append (List.forall_mem_singleton.2 rfl) h
  rw [blanks, discard_apply]
  exact congrArg (Option.map _) hspan

/-- **A bare name is read up to the blank after it.** -/
theorem simpleName_bare {name : String} (h : Bare name) (rest : List Char) :
    simpleName (name.toList ++ ' ' :: rest) = some (name, ' ' :: rest) := by
  obtain ⟨first, later, hlist, hfirst, hlater⟩ := h.exists_cons
  rw [hlist]
  have haccepts : ∀ c, IsBare c → (c.isAlphanum || c = '-' || c = '_') = true := by
    simp [IsBare, or_assoc]
  have hbasic : basicString (first :: later ++ ' ' :: rest) = none := by
    rw [basicString, bind_apply, List.cons_append, char_cons_of_ne (hfirst.ne (by decide))]
    rfl
  have hliteral : literalString (first :: later ++ ' ' :: rest) = none := by
    rw [literalString, bind_apply, List.cons_append, char_cons_of_ne (hfirst.ne (by decide))]
    rfl
  have hspan : span (fun c => c.isAlphanum || c = '-' || c = '_') (later ++ ' ' :: rest) =
      some (later, ' ' :: rest) :=
    span_append (fun c hc => haccepts c (hlater c hc)) (by simp)
  have hnext : next (fun c => c.isAlphanum || c = '-' || c = '_') (first :: later ++ ' ' :: rest) =
      some (first, later ++ ' ' :: rest) := next_cons_of_pos (haccepts first hfirst) _
  rw [simpleName]
  simp only [bind_apply, orElse_apply, hbasic, hliteral, hnext, hspan, Option.none_or,
    Option.bind_some, pure_apply]
  rw [← hlist, String.ofList_toList]

/-- A bare name starts with no blank. -/
theorem Bare.blanks {name : String} (h : Bare name) (rest : List Char) :
    blanks (name.toList ++ rest) = some ((), name.toList ++ rest) := by
  obtain ⟨first, later, hlist, hfirst, -⟩ := h.exists_cons
  refine blanks_of_head fun c hc => ?_
  rw [hlist] at hc
  obtain rfl : first = c := Option.some.inj hc
  simp [isBlank, hfirst.ne (show ¬ IsBare ' ' by decide), hfirst.ne (show ¬ IsBare '\t' by decide)]

/-- One part of a dotted name, with the blanks around it. -/
def namePart : Reader String := do blanks; let name ← simpleName; blanks; return name

/-- **So is a dotted name of one part, with the blank after it.** -/
theorem dottedName_bare {name : String} (h : Bare name) (rest : List Char) :
    dottedName (name.toList ++ ' ' :: '=' :: rest) = some (([], name), '=' :: rest) := by
  have hpart : namePart (name.toList ++ ' ' :: '=' :: rest) = some (name, '=' :: rest) := by
    have hblanks : blanks (' ' :: '=' :: rest) = some ((), '=' :: rest) :=
      blanks_cons fun c hc => by cases hc; rfl
    simp only [namePart, bind_apply, h.blanks, simpleName_bare h, hblanks, Option.bind_some,
      pure_apply]
  have hmany : many (do let _ ← char '.'; namePart) ('=' :: rest) = some ([], '=' :: rest) :=
    many_of_none rfl
  have hseparated : separated namePart (char '.') (name.toList ++ ' ' :: '=' :: rest) =
      some ([name], '=' :: rest) := by
    rw [separated, orElse_apply, bind_apply, hpart, Option.bind_some, bind_apply, hmany]
    rfl
  rw [dottedName, ← namePart, bind_apply, hseparated]
  rfl

/-- What starts with a bare name opens no section. -/
theorem char_bare_none {name : String} (h : Bare name) {c : Char} (hc : ¬ IsBare c)
    (rest : List Char) : char c (name.toList ++ rest) = none := by
  obtain ⟨first, later, hlist, hfirst, -⟩ := h.exists_cons
  rw [hlist]
  exact char_cons_of_ne (hfirst.ne hc) _

/-- What is written for a value starts with no blank. -/
theorem Writes.blanks_cons {v : Value} {written : List Char} (h : Writes v written)
    (rest : List Char) : blanks (' ' :: (written ++ rest)) = some ((), written ++ rest) := by
  refine Toml.blanks_cons fun c hc => ?_
  cases h with
  | string h =>
    obtain ⟨pieces, -, rfl⟩ := h
    cases hc
    rfl
  | integer n _ =>
    obtain ⟨first, later, hlist, hfirst⟩ := exists_toDigits_cons n
    rw [hlist] at hc
    obtain rfl : first = c := Option.some.inj hc
    have hmem := hfirst.mem
    simp only [isBlank, Bool.or_eq_false_iff, decide_eq_false_iff_not]
    constructor <;> rintro rfl <;> revert hmem <;> decide

/-- **A line is read as an assignment**, where an end of the line comes next. -/
theorem statement_written {e : String × Value} (hbare : Bare e.1) {content rest : List Char}
    (h : WritesLine e content) (hrest : AtEnd rest) :
    statement (content ++ rest) = some (.assign [] e.1 e.2, rest) := by
  obtain ⟨written, hwritten, rfl⟩ := h
  rw [List.append_assoc, List.cons_append, List.cons_append, List.cons_append]
  rw [statement, orElse_apply, orElse_apply, bind_apply, bind_apply, literal_cons, bind_apply,
    char_bare_none hbare (by decide)]
  simp only [bind_apply, dottedName_bare hbare, char_cons_self, hwritten.blanks_cons,
    value_written hwritten hrest, Option.bind_some, Option.bind_none, Option.none_or, pure_apply]

/-- **A line is read with the end of the line after it.** -/
theorem line_written {e : String × Value} (hbare : Bare e.1) {content rest left : List Char}
    (h : WritesLine e content) (hrest : AtEnd rest)
    (hline : (newline <|> finish : Reader Unit) rest = some ((), left)) :
    line (content ++ rest) = some (some (.assign [] e.1 e.2), left) := by
  have hfront : blanks (content ++ rest) = some ((), content ++ rest) := by
    obtain ⟨written, hwritten, rfl⟩ := h
    rw [List.append_assoc]
    exact hbare.blanks _
  have hblanks : blanks rest = some ((), rest) :=
    blanks_of_head fun c hc => by rcases hrest c hc with rfl | rfl <;> rfl
  have hend : Trails [] rest := ⟨List.forall_mem_nil _, hrest⟩
  have hmark : char '#' rest = none := hend.char_none (by decide)
  have hcomment : comment rest = none := by
    rw [comment, bind_apply, hmark]
    rfl
  rw [line]
  simp only [bind_apply, hfront, maybe_apply, statement_written hbare h hrest, hblanks,
    discard_apply, hcomment, hline, Option.bind_some, Option.map_some, Option.map_none,
    Option.getD_some, Option.getD_none, pure_apply]

/-! ## From a text to a table -/

/-- The statement of a plain line. -/
def assignment (e : String × Value) : Statement := .assign [] e.1 e.2

/-- Lines that give bare names their values. -/
def WritesLines (entries : Entries) (lines : List (List Char)) : Prop :=
  List.Forall₂ (fun e line => Bare e.1 ∧ WritesLine e line) entries lines

/-- A line starts as the name does. -/
theorem WritesLine.exists_cons {e : String × Value} {content : List Char} (hbare : Bare e.1)
    (h : WritesLine e content) : ∃ first later, content = first :: later ∧ IsBare first := by
  obtain ⟨written, -, rfl⟩ := h
  obtain ⟨first, later, hlist, hfirst, -⟩ := hbare.exists_cons
  rw [hlist]
  exact ⟨first, _, rfl, hfirst⟩

/-- **A text of plain lines is read line by line**, whatever ends them. -/
theorem many_line {text : List Char} {lines : List (List Char)} {entries : Entries}
    (hcut : CutInto text lines) (h : WritesLines entries lines) :
    many line text = some (entries.map fun e => some (assignment e), []) := by
  have hfinish : (newline <|> finish : Reader Unit) [] = some ((), []) := rfl
  have hempty : many line [] = some ([], []) := many_of_stay (a := none) rfl
  induction hcut generalizing entries with
  | nil =>
    cases h
    exact hempty
  | @last content hne _ =>
    obtain ⟨e, he, rfl⟩ : ∃ e, (Bare e.1 ∧ WritesLine e content) ∧ entries = [e] := by
      cases h with
      | cons he hrest => cases hrest; exact ⟨_, he, rfl⟩
    have hline : line (content ++ []) = some (some (assignment e), []) :=
      line_written he.1 he.2 nofun hfinish
    rw [List.append_nil] at hline
    exact many_of_some hline (List.length_pos_iff.2 hne) hempty
  | @feed content rest lines _ _ _ ih =>
    cases h with
    | @cons e _ entries _ he hrest =>
      have hline : line (content ++ '\n' :: rest) = some (some (assignment e), rest) :=
        line_written he.1 he.2 (fun c hc => .inl (Option.some.inj hc).symm) rfl
      exact many_of_some hline (by simp only [List.length_append, List.length_cons]; omega)
        (ih hrest)
  | @returnFeed content rest lines _ _ ih =>
    cases h with
    | @cons e _ entries _ he hrest =>
      have hline : line (content ++ '\r' :: '\n' :: rest) = some (some (assignment e), rest) :=
        line_written he.1 he.2 (fun c hc => .inr (Option.some.inj hc).symm) rfl
      exact many_of_some hline (by simp only [List.length_append, List.length_cons]; omega)
        (ih hrest)

/-- Such a text starts with no byte order mark. -/
theorem ne_mark_of_cutInto {text : List Char} {lines : List (List Char)} {entries : Entries}
    (hcut : CutInto text lines) (h : WritesLines entries lines) (rest : List Char) :
    text ≠ '\ufeff' :: rest := by
  have hfirst : ∀ {e : String × Value} {content : List Char} (later : List Char),
      Bare e.1 ∧ WritesLine e content → content ++ later ≠ '\ufeff' :: rest := by
    rintro e content later ⟨hbare, hline⟩ heq
    obtain ⟨first, _, rfl, hbarefirst⟩ := hline.exists_cons hbare
    exact hbarefirst.ne (show ¬ IsBare '\ufeff' by decide) (List.cons.inj heq).1
  cases hcut with
  | nil => nofun
  | last =>
    cases h with
    | cons he _ => simpa using hfirst [] he
  | feed =>
    cases h with
    | cons he _ => exact hfirst _ he
  | returnFeed =>
    cases h with
    | cons he _ => exact hfirst _ he

theorem statements?_written {text : List Char} {lines : List (List Char)} {entries : Entries}
    (hcut : CutInto text lines) (h : WritesLines entries lines) :
    statements? text = some (entries.map assignment) := by
  have hbody : statements? text = (whole (many line) text).map (·.filterMap id) := by
    unfold statements?
    split
    · exact absurd rfl (ne_mark_of_cutInto hcut h _)
    · rfl
  rw [hbody, whole, many_line hcut h]
  simp [List.filterMap_map]

theorem sections_assignments (entries : Entries) :
    sections (entries.map assignment) = [⟨none, entries.map fun e => ([], e.1, e.2)⟩] := by
  induction entries with
  | nil => rfl
  | cons e entries ih => rw [List.map_cons, assignment, sections, ih]; rfl

/-- A new name is put in at the end. -/
theorem Entries.assign_new {entries : Entries} {name : String} (value : Value)
    (h : name ∉ entries.map (·.1)) :
    entries.assign [] name value = some (entries ++ [(name, value)]) := by
  have hset : entries.set name value = entries ++ [(name, value)] := by
    induction entries with
    | nil => rfl
    | cons e entries ih =>
      obtain ⟨hne, hrest⟩ := not_or.1 (mt List.mem_cons.2 h)
      rw [Entries.set, if_neg (Ne.symm hne), ih hrest, List.cons_append]
  have hlookup : entries.lookup name = none := by
    rw [List.lookup_eq_none_iff]
    refine fun e he => bne_iff_ne.2 fun heq => h ?_
    rw [heq]
    exact List.mem_map_of_mem he
  simp [assign, descend, hset, hlookup]

theorem foldlM_assign {before entries : Entries} (h : ((before ++ entries).map (·.1)).Nodup) :
    entries.foldlM (fun sofar e => Entries.assign sofar [] e.1 e.2) before =
      some (before ++ entries) := by
  induction entries generalizing before with
  | nil => simp
  | cons e entries ih =>
    have hnew : e.1 ∉ before.map (·.1) := by
      rw [List.map_append, List.map_cons, List.nodup_append] at h
      exact fun hmem => h.2.2 _ hmem _ List.mem_cons_self rfl
    have hsplit : before ++ e :: entries = before ++ [e] ++ entries := by simp
    rw [hsplit] at h ⊢
    rw [List.foldlM_cons, Entries.assign_new e.2 hnew]
    exact ih h

/-- **A text of plain lines is read as the table of their names and values.** -/
theorem parse?_written {text : String} {lines : List (List Char)} {entries : Entries}
    (hcut : CutInto text.toList lines) (h : WritesLines entries lines)
    (hnames : (entries.map (·.1)).Nodup) : parse? text = some entries := by
  have hbody : Section.body ⟨none, entries.map fun e => ([], e.1, e.2)⟩ [] = some entries := by
    rw [Section.body, List.foldlM_map]
    exact foldlM_assign hnames
  rw [parse?, statements?_written hcut h, Option.bind_eq_bind, Option.bind_some,
    sections_assignments]
  simp [Section.addTo, hbody]

/-- **Names and values that can be written have a text of plain lines.** -/
theorem exists_text {entries : Entries}
    (h : ∀ e ∈ entries, Bare e.1 ∧ ∃ written, Writes e.2 written) :
    ∃ text lines, CutInto text lines ∧ WritesLines entries lines := by
  have hfeed : ¬ IsBare '\n' := by decide
  obtain ⟨lines, hlines, hrows⟩ : ∃ lines, WritesLines entries lines ∧
      ∀ content ∈ lines, '\n' ∉ content ∧ content.getLast? ≠ some '\r' ∧ content ≠ [] := by
    induction entries with
    | nil => exact ⟨[], .nil, List.forall_mem_nil _⟩
    | cons e entries ih =>
      obtain ⟨⟨hbare, written, hwritten⟩, hrest⟩ := List.forall_mem_cons.1 h
      obtain ⟨lines, hlines, hrows⟩ := ih hrest
      refine ⟨_ :: lines, .cons ⟨hbare, written, hwritten, rfl⟩ hlines,
        List.forall_mem_cons.2 ⟨?_, hrows⟩⟩
      obtain ⟨hnone, front, last, rfl, hlast⟩ := hwritten.on_line
      have hend : e.1.toList ++ ' ' :: '=' :: ' ' :: (front ++ [last]) =
          (e.1.toList ++ ' ' :: '=' :: ' ' :: front) ++ [last] := by simp
      have hname : '\n' ∉ e.1.toList := fun hmem => hfeed (hbare.chars _ hmem)
      refine ⟨by simpa [hname] using hnone, ?_, by simp⟩
      rw [hend, List.getLast?_concat]
      exact fun h => hlast (Option.some.inj h)
  refine ⟨List.intercalate ['\n'] lines, lines, Text.cutInto_iff.2 (Text.lines_intercalate
    (fun content hcontent => ⟨(hrows content hcontent).1, (hrows content hcontent).2.1⟩)
    fun hlast => ?_), hlines⟩
  exact (hrows [] (List.mem_of_getLast? hlast)).2.2 rfl

end Toml
end CheatCode
