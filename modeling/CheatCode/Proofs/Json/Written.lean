/-
# JSON texts

A text writes a value by the rules of the format, which are said here without a reader
(`Json.WritesText`).

| a value | is written as |
| --- | --- |
| `null`, a truth | its word |
| a natural number | its decimal digits, with no zero before others |
| any other number | such digits, with a sign, a fraction or an exponent |
| a string | pieces between quotes: characters, escaped letters, code units |
| an array | its items between brackets, with commas |
| an object | its members between braces, with commas: a name, a colon, a value |

White space may stand around every value and every name.  A text is read as the value that it
writes, however deep values stand in it (`Json.parse?_written`).
-/

import CheatCode.Json.Value
import CheatCode.Proofs.Numeral
import CheatCode.Proofs.Text.Reader

namespace CheatCode
namespace Json

open Text (Reader)
open Text.Reader

/-! ## The format -/

/-- A character of white space. -/
def IsBlank (c : Char) : Prop := c = ' ' ∨ c = '\n' ∨ c = '\t' ∨ c = '\r'

/-- White space, or nothing. -/
def Blank (cs : List Char) : Prop := ∀ c ∈ cs, IsBlank c

/-- The letters that stand for a character after a backslash. -/
def letters : List (Char × Char) := [('"', '"'), ('\\', '\\'), ('/', '/'), ('b', '\x08'),
  ('f', '\x0c'), ('n', '\n'), ('r', '\r'), ('t', '\t')]

/-- The ways to write a piece of a string. -/
inductive Spells : Piece → List Char → Prop
  | plain {c : Char} (hcontrol : 0x20 ≤ c.toNat) (hquote : c ≠ '"') (hbackslash : c ≠ '\\') :
      Spells (.char c) [c]
  | letter {letter c : Char} (h : (letter, c) ∈ letters) : Spells (.char c) ['\\', letter]
  | code {digits : List Char} {c : Char} (hlength : digits.length = 4)
      (h : Numeral.Denotes 16 digits c.toNat) : Spells (.char c) ('\\' :: 'u' :: digits)
  | half {digits : List Char} {n : Nat} (hlength : digits.length = 4)
      (h : Numeral.Denotes 16 digits n) (hfirst : 0xD800 ≤ n) (hlast : n ≤ 0xDFFF) :
      Spells (.half n) ('\\' :: 'u' :: digits)

/-- A string is written as pieces between quotes.  Its text is that of the pieces, if no half of a
pair of code units stands alone. -/
def Quotes (text : Option String) (written : List Char) : Prop :=
  ∃ pieces rows, List.Forall₂ Spells pieces rows ∧ written = '"' :: rows.flatten ++ ['"'] ∧
    text = (join pieces).map String.ofList

/-- One decimal digit or more. -/
structure Digits (cs : List Char) : Prop where
  ne_nil : cs ≠ []
  digits : ∀ c ∈ cs, c.isDigit = true

/-- Decimal digits with no zero before others. -/
structure Whole (cs : List Char) : Prop where
  digits : Digits cs
  zero : cs.head? = some '0' → cs = ['0']

/-- A fraction, or nothing. -/
inductive Fraction : List Char → Prop
  | none : Fraction []
  | some {digits : List Char} (h : Digits digits) : Fraction ('.' :: digits)

/-- An exponent, or nothing. -/
inductive Exponent : List Char → Prop
  | none : Exponent []
  | some {mark : Char} {sign digits : List Char} (hmark : mark = 'e' ∨ mark = 'E')
      (hsign : sign ∈ [[], ['+'], ['-']]) (h : Digits digits) : Exponent (mark :: (sign ++ digits))

/-- The ways to write a number: a natural one by its digits alone. -/
inductive WritesNumber : Option Nat → List Char → Prop
  | natural {digits : List Char} {n : Nat} (hwhole : Whole digits)
      (h : Numeral.Denotes 10 digits n) : WritesNumber (some n) digits
  | other {minus digits fraction exponent : List Char} (hminus : minus ∈ [[], ['-']])
      (hwhole : Whole digits) (hfraction : Fraction fraction) (hexponent : Exponent exponent)
      (h : minus ≠ [] ∨ fraction ≠ [] ∨ exponent ≠ []) :
      WritesNumber none (minus ++ (digits ++ (fraction ++ exponent)))

/-- The ways to write a value that holds no others. -/
inductive WritesScalar : Value → List Char → Prop
  | null : WritesScalar .null ['n', 'u', 'l', 'l']
  | yes : WritesScalar (.boolean true) ['t', 'r', 'u', 'e']
  | no : WritesScalar (.boolean false) ['f', 'a', 'l', 's', 'e']
  | string {text : Option String} {cs : List Char} (h : Quotes text cs) :
      WritesScalar (.string text) cs
  | number {natural : Option Nat} {cs : List Char} (h : WritesNumber natural cs) :
      WritesScalar (.number natural) cs

variable {α : Type}

/-- What a relation writes, with white space around it. -/
def Padded (writes : α → List Char → Prop) (a : α) (cs : List Char) : Prop :=
  ∃ before body after, Blank before ∧ Blank after ∧ writes a body ∧ cs = before ++ (body ++ after)

/-- Values with white space around each and a comma between each two. -/
inductive Row (writes : α → List Char → Prop) : List α → List Char → Prop
  | one {a : α} {cs : List Char} (h : Padded writes a cs) : Row writes [a] cs
  | cons {a : α} {as : List α} {cs rest : List Char} (h : Padded writes a cs)
      (hrest : Row writes as rest) : Row writes (a :: as) (cs ++ ',' :: rest)

/-- A row, or white space for no values. -/
inductive Listed (writes : α → List Char → Prop) : List α → List Char → Prop
  | none {cs : List Char} (h : Blank cs) : Listed writes [] cs
  | some {as : List α} {cs : List Char} (h : Row writes as cs) : Listed writes as cs

/-- A member of an object: its name, a colon and its value. -/
def Member (writes : Value → List Char → Prop) (m : Option String × Value) (cs : List Char) :
    Prop :=
  ∃ name before after body, Quotes m.1 name ∧ Blank before ∧ Blank after ∧ writes m.2 body ∧
    cs = name ++ (before ++ ':' :: (after ++ body))

/-- The ways to write a value that holds others. -/
inductive WritesCompound (writes : Value → List Char → Prop) : Value → List Char → Prop
  | array {items : List Value} {cs : List Char} (h : Listed writes items cs) :
      WritesCompound writes (.array items) ('[' :: (cs ++ [']']))
  | object {members : List (Option String × Value)} {cs : List Char}
      (h : Listed (Member writes) members cs) :
      WritesCompound writes (.object members) ('\x7b' :: (cs ++ ['\x7d']))

/-- The ways to write a value in which arrays and objects stand in each other at most so deep. -/
def Writes : Nat → Value → List Char → Prop
  | 0 => WritesScalar
  | depth + 1 => fun v cs => WritesScalar v cs ∨ WritesCompound (Writes depth) v cs

/-- A text writes a value: white space may stand around it. -/
def WritesText (v : Value) (cs : List Char) : Prop := ∃ depth, Padded (Writes depth) v cs

/-! ## White space -/

/-- A text does not start with white space. -/
def Starts (cs : List Char) : Prop := ∀ c ∈ cs.head?, ¬ IsBlank c

/-- What may follow a value and the white space after it: a comma, a closing mark or nothing. -/
def Closes (rest : List Char) : Prop := ∀ c ∈ rest.head?, c = ',' ∨ c = ']' ∨ c = '\x7d'

/-- What may follow a value: white space, a comma, a closing mark or nothing. -/
def Ends (rest : List Char) : Prop :=
  ∀ c ∈ rest.head?, IsBlank c ∨ c = ',' ∨ c = ']' ∨ c = '\x7d'

theorem Closes.starts {rest : List Char} (h : Closes rest) : Starts rest := by
  intro c hc
  obtain rfl | rfl | rfl := h c hc <;> simp [IsBlank]

theorem Closes.ends_append {after rest : List Char} (hafter : Blank after) (h : Closes rest) :
    Ends (after ++ rest) := by
  cases after with
  | nil => exact fun c hc => .inr (h c hc)
  | cons d after =>
    intro c hc
    obtain rfl : d = c := Option.some.inj hc
    exact .inl (hafter d List.mem_cons_self)

theorem space_append {cs rest : List Char} (h : Blank cs) (hrest : Starts rest) :
    space (cs ++ rest) = some ((), rest) := by
  have hspan : span (fun c => c = ' ' || c = '\n' || c = '\t' || c = '\r') (cs ++ rest) =
      some (cs, rest) := by
    refine span_append (fun c hc => ?_) fun c hc => ?_
    · simpa [IsBlank, or_assoc] using h c hc
    · simpa [IsBlank, and_assoc] using hrest c hc
  rw [space, discard_apply, hspan]
  rfl

/-! ## Strings -/

theorem codeUnit_digits {digits : List Char} {n : Nat} (hlength : digits.length = 4)
    (h : Numeral.Denotes 16 digits n) (rest : List Char) :
    codeUnit (digits ++ rest) =
      some (if n.isValidChar then .char (Char.ofNat n) else .half n, rest) := by
  obtain ⟨a, b, c, d, rfl⟩ := List.length_eq_four.1 hlength
  simp only [List.cons_append, List.nil_append, codeUnit, Numeral.value?_of_denotes h]

/-- **Each piece is read back from any of its spellings.** -/
theorem piece_spelled {p : Piece} {row : List Char} (h : Spells p row) (rest : List Char) :
    piece (row ++ rest) = some (p, rest) := by
  have hescape : ∀ cs, piece ('\\' :: cs) = escaped cs := by
    intro cs
    rw [piece, orElse_apply, bind_apply, next_cons_of_neg rfl, Option.bind_none, Option.none_or,
      bind_apply, char_cons_self, Option.bind_some]
  cases h with
  | @plain c hcontrol hquote hbackslash =>
    have haccepts : (c.toNat ≥ 0x20 && c ≠ '"' && c ≠ '\\') = true := by
      simp [hcontrol, hquote, hbackslash]
    rw [piece, orElse_apply, bind_apply, List.singleton_append, next_cons_of_pos haccepts,
      Option.bind_some, pure_apply, Option.some_or]
  | letter hletter =>
    rw [List.cons_append, hescape]
    simp only [letters, List.mem_cons, Prod.mk.injEq, List.not_mem_nil, or_false] at hletter
    obtain ⟨rfl, rfl⟩ | ⟨rfl, rfl⟩ | ⟨rfl, rfl⟩ | ⟨rfl, rfl⟩ | ⟨rfl, rfl⟩ | ⟨rfl, rfl⟩ |
      ⟨rfl, rfl⟩ | ⟨rfl, rfl⟩ := hletter <;> rfl
  | @code digits c hlength hdigits =>
    have hvalid : c.toNat.isValidChar := c.valid
    rw [List.cons_append, hescape, List.cons_append, escaped, codeUnit_digits hlength hdigits,
      if_pos hvalid, Char.ofNat_toNat]
  | @half digits n hlength hdigits hfirst hlast =>
    have hvalid : ¬ n.isValidChar := by
      rintro (hlow | ⟨hhigh, -⟩) <;> omega
    rw [List.cons_append, hescape, List.cons_append, escaped, codeUnit_digits hlength hdigits,
      if_neg hvalid]

theorem Spells.exists_cons {p : Piece} {row : List Char} (h : Spells p row) :
    ∃ first later, row = first :: later := by
  cases h <;> exact ⟨_, _, rfl⟩

theorem string_quoted {text : Option String} {written : List Char} (h : Quotes text written)
    (rest : List Char) : string (written ++ rest) = some (text, rest) := by
  obtain ⟨pieces, rows, hrows, rfl, rfl⟩ := h
  have hmany : many piece (rows.flatten ++ '"' :: rest) = some (pieces, '"' :: rest) := by
    refine many_pieces (hrows.flip.imp fun row p hrow => ⟨?_, piece_spelled hrow⟩) rfl
    obtain ⟨first, later, rfl⟩ := hrow.exists_cons
    exact List.cons_ne_nil _ _
  rw [List.cons_append, List.cons_append, List.append_assoc, List.singleton_append, string,
    bind_apply, char_cons_self, Option.bind_some, bind_apply, hmany, Option.bind_some, bind_apply,
    char_cons_self]
  rfl

theorem Quotes.exists_cons {text : Option String} {written : List Char} (h : Quotes text written) :
    ∃ later, written = '"' :: later := by
  obtain ⟨_, _, _, rfl, _⟩ := h
  exact ⟨_, rfl⟩

/-! ## Numbers -/

theorem digits_append {cs rest : List Char} (h : Digits cs)
    (hrest : ∀ c ∈ rest.head?, c.isDigit = false) : digits (cs ++ rest) = some (cs, rest) := by
  obtain ⟨c, cs, rfl⟩ := List.exists_cons_of_ne_nil h.ne_nil
  obtain ⟨hc, hcs⟩ := List.forall_mem_cons.1 h.digits
  rw [digits, bind_apply, List.cons_append, next_cons_of_pos hc, Option.bind_some, bind_apply,
    span_append hcs hrest]
  rfl

theorem Digits.exists_cons {cs : List Char} (h : Digits cs) :
    ∃ c later, cs = c :: later ∧ c.isDigit = true := by
  obtain ⟨c, later, rfl⟩ := List.exists_cons_of_ne_nil h.ne_nil
  exact ⟨c, later, rfl, h.digits c List.mem_cons_self⟩

theorem whole_append {cs rest : List Char} (h : Whole cs)
    (hrest : ∀ c ∈ rest.head?, c.isDigit = false) :
    ((do char '0'; return ['0']) <|> digits : Reader (List Char)) (cs ++ rest) =
      some (cs, rest) := by
  obtain ⟨c, later, hcs, -⟩ := h.digits.exists_cons
  by_cases hc : c = '0'
  · rw [h.zero (by rw [hcs, hc]; rfl)]
    rfl
  · rw [orElse_apply, bind_apply, digits_append h.digits hrest, hcs, List.cons_append,
      char_cons_of_ne hc]
    rfl

/-- What may follow the digits of a fraction. -/
theorem head?_exponent_append {exponent rest : List Char} (h : Exponent exponent)
    (hrest : Ends rest) : ∀ c ∈ (exponent ++ rest).head?, c.isDigit = false ∧ c ≠ '.' := by
  intro c hc
  cases h with
  | none =>
    obtain (rfl | rfl | rfl | rfl) | rfl | rfl | rfl := hrest c hc <;> decide
  | some hmark =>
    obtain rfl := Option.some.inj hc
    obtain rfl | rfl := hmark <;> decide

theorem fraction_append {fraction rest : List Char} (h : Fraction fraction)
    (hrest : ∀ c ∈ rest.head?, c.isDigit = false ∧ c ≠ '.') :
    ∃ found, maybe (do char '.'; digits) (fraction ++ rest) = some (found, rest) ∧
      (found.isNone = true ↔ fraction = []) := by
  cases h with
  | none =>
    have hpoint : char '.' rest = none := by
      cases rest with
      | nil => rfl
      | cons c rest => exact char_cons_of_ne (hrest c rfl).2 rest
    exact ⟨none, by simp [hpoint], by simp⟩
  | @some digits h =>
    refine ⟨some digits, ?_, by simp⟩
    simp [digits_append h fun c hc => (hrest c hc).1]

theorem exponent_append {exponent rest : List Char} (h : Exponent exponent) (hrest : Ends rest) :
    ∃ found, maybe (do
        discard (next fun c => c = 'e' || c = 'E')
        discard (maybe (next fun c => c = '+' || c = '-'))
        digits) (exponent ++ rest) = some (found, rest) ∧
      (found.isNone = true ↔ exponent = []) := by
  have hend : ∀ c ∈ rest.head?, c.isDigit = false ∧ (c = 'e' || c = 'E') = false := by
    intro c hc
    obtain (rfl | rfl | rfl | rfl) | rfl | rfl | rfl := hrest c hc <;> decide
  cases h with
  | none =>
    have hmark : next (fun c => c = 'e' || c = 'E') rest = none := by
      cases rest with
      | nil => rfl
      | cons c rest => exact next_cons_of_neg (hend c rfl).2 rest
    refine ⟨none, ?_, by simp⟩
    rw [List.nil_append, maybe_apply, discard_bind_apply, bind_apply, hmark]
    rfl
  | @some mark sign digits hmark hsign h =>
    refine ⟨some digits, ?_, by simp⟩
    have hnext : next (fun c => c = 'e' || c = 'E') (mark :: (sign ++ digits ++ rest)) =
        some (mark, sign ++ digits ++ rest) := next_cons_of_pos (by simpa using hmark) _
    have hread : (discard (maybe (next fun c => c = '+' || c = '-')) >>= fun _ => Json.digits)
        (sign ++ digits ++ rest) = some (digits, rest) := by
      have hdigits := digits_append h fun c hc => (hend c hc).1
      simp only [List.mem_cons, List.not_mem_nil, or_false] at hsign
      obtain rfl | rfl | rfl := hsign
      · obtain ⟨c, later, rfl, hc⟩ := h.exists_cons
        have hnone : next (fun c => c = '+' || c = '-') (c :: (later ++ rest)) = none := by
          refine next_cons_of_neg ?_ _
          simp only [Bool.or_eq_false_iff, decide_eq_false_iff_not]
          constructor <;> rintro rfl <;> cases hc
        rw [discard_bind_apply, bind_apply, maybe_apply, List.nil_append, List.cons_append, hnone]
        exact hdigits
      · exact hdigits
      · exact hdigits
    rw [List.cons_append, maybe_apply, discard_bind_apply, bind_apply, hnext, Option.bind_some,
      hread]
    rfl

/-- A number is read to its end, and its value is kept if it has digits alone. -/
theorem number_append {minus digits fraction exponent rest : List Char}
    (hminus : minus ∈ [[], ['-']]) (hwhole : Whole digits) (hfraction : Fraction fraction)
    (hexponent : Exponent exponent) (hrest : Ends rest) :
    number (minus ++ (digits ++ (fraction ++ (exponent ++ rest)))) =
      some (.number (if minus = [] ∧ fraction = [] ∧ exponent = [] then
        Numeral.value? 10 0 digits else none), rest) := by
  obtain ⟨foundExponent, hreadExponent, hnoExponent⟩ := exponent_append hexponent hrest
  have hafter := head?_exponent_append hexponent hrest
  obtain ⟨foundFraction, hreadFraction, hnoFraction⟩ := fraction_append hfraction hafter
  have hfront : ∀ c ∈ (fraction ++ (exponent ++ rest)).head?, c.isDigit = false := by
    cases hfraction with
    | none => exact fun c hc => (hafter c hc).1
    | some _ =>
      intro c hc
      obtain rfl := Option.some.inj hc
      rfl
  have hreadWhole := whole_append hwhole hfront
  obtain ⟨foundMinus, hreadMinus, hnoMinus⟩ : ∃ found, maybe (char '-')
      (minus ++ (digits ++ (fraction ++ (exponent ++ rest)))) =
        some (found, digits ++ (fraction ++ (exponent ++ rest))) ∧
      (found.isNone = true ↔ minus = []) := by
    simp only [List.mem_cons, List.not_mem_nil, or_false] at hminus
    obtain rfl | rfl := hminus
    · obtain ⟨c, later, rfl, hc⟩ := hwhole.digits.exists_cons
      have hne : c ≠ '-' := by
        rintro rfl
        cases hc
      exact ⟨none, by simp [char_cons_of_ne hne], by simp⟩
    · exact ⟨some (), by simp, by simp⟩
  have hbare : (foundMinus.isNone && foundFraction.isNone && foundExponent.isNone) =
      decide (minus = [] ∧ fraction = [] ∧ exponent = []) := by
    rw [Bool.eq_iff_iff]
    simp only [Bool.and_eq_true, decide_eq_true_eq, hnoMinus, hnoFraction, hnoExponent, and_assoc]
  rw [number, bind_apply, hreadMinus, Option.bind_some, bind_apply, hreadWhole, Option.bind_some,
    bind_apply, hreadFraction, Option.bind_some, bind_apply, hreadExponent, Option.bind_some,
    pure_apply, hbare]
  simp only [decide_eq_true_eq]

theorem number_written {natural : Option Nat} {cs rest : List Char} (h : WritesNumber natural cs)
    (hrest : Ends rest) : number (cs ++ rest) = some (.number natural, rest) := by
  cases h with
  | @natural digits n hwhole h =>
    have hminus : [] ∈ [[], ['-']] := List.mem_cons_self
    simpa [Numeral.value?_of_denotes h] using number_append hminus hwhole .none .none hrest
  | @other minus digits fraction exponent hminus hwhole hfraction hexponent h =>
    have hread := number_append hminus hwhole hfraction hexponent hrest
    rw [if_neg (by tauto)] at hread
    simpa only [List.append_assoc] using hread

theorem WritesNumber.exists_cons {natural : Option Nat} {cs : List Char}
    (h : WritesNumber natural cs) :
    ∃ c later, cs = c :: later ∧ (c = '-' ∨ c.isDigit = true) := by
  cases h with
  | natural hwhole _ =>
    obtain ⟨c, later, rfl, hc⟩ := hwhole.digits.exists_cons
    exact ⟨c, later, rfl, .inr hc⟩
  | other hminus hwhole _ _ _ =>
    simp only [List.mem_cons, List.not_mem_nil, or_false] at hminus
    obtain rfl | rfl := hminus
    · obtain ⟨c, later, rfl, hc⟩ := hwhole.digits.exists_cons
      exact ⟨c, _, rfl, .inr hc⟩
    · exact ⟨'-', _, rfl, .inl rfl⟩

/-! ## Values that hold no others -/

theorem literal_cons_of_ne {c d : Char} (h : d ≠ c) (cs ds : List Char) :
    literal (c :: cs) (d :: ds) = none := by
  rw [literal_cons, bind_apply, char_cons_of_ne h]
  rfl

theorem scalar_written {v : Value} {cs rest : List Char} (h : WritesScalar v cs)
    (hrest : Ends rest) : scalar (cs ++ rest) = some (v, rest) := by
  cases h with
  | null | yes | no => rfl
  | @string text cs h =>
    have hstring := string_quoted h rest
    obtain ⟨later, rfl⟩ := h.exists_cons
    rw [List.cons_append] at hstring ⊢
    simp [scalar, literal_cons_of_ne, hstring]
  | @number natural cs h =>
    have hnumber := number_written h hrest
    obtain ⟨c, later, rfl, hc⟩ := h.exists_cons
    have hne : ∀ d ∈ ['n', 't', 'f', '"'], c ≠ d := by
      rintro d hd rfl
      simp only [List.mem_cons, List.not_mem_nil, or_false] at hd
      obtain rfl | rfl | rfl | rfl := hd <;> revert hc <;> decide
    have hstring : string (c :: (later ++ rest)) = none := by
      rw [string, bind_apply, char_cons_of_ne (hne '"' (by decide))]
      rfl
    rw [List.cons_append] at hnumber ⊢
    simp [scalar, literal_cons_of_ne (hne 'n' (by decide)),
      literal_cons_of_ne (hne 't' (by decide)), literal_cons_of_ne (hne 'f' (by decide)), hstring,
      hnumber]

/-- No value that holds no others starts with a bracket or a brace. -/
theorem scalar_mark {c : Char} (hc : c ∈ ['[', ']', '\x7b', '\x7d']) (cs : List Char) :
    scalar (c :: cs) = none := by
  simp only [List.mem_cons, List.not_mem_nil, or_false] at hc
  obtain rfl | rfl | rfl | rfl := hc <;> rfl

theorem WritesScalar.exists_cons {v : Value} {cs : List Char} (h : WritesScalar v cs) :
    ∃ c later, cs = c :: later ∧ ¬ IsBlank c := by
  cases h with
  | null | yes | no => exact ⟨_, _, rfl, by simp [IsBlank]⟩
  | string h =>
    obtain ⟨later, rfl⟩ := h.exists_cons
    exact ⟨_, _, rfl, by simp [IsBlank]⟩
  | number h =>
    obtain ⟨c, later, rfl, hc⟩ := h.exists_cons
    refine ⟨c, later, rfl, ?_⟩
    rintro (rfl | rfl | rfl | rfl) <;> revert hc <;> decide

/-! ## Rows -/

/-- A reader reads what a relation writes, before anything that may follow a value. -/
structure Reads (p : Reader α) (writes : α → List Char → Prop) : Prop where
  starts : ∀ a cs, writes a cs → ∃ c later, cs = c :: later ∧ ¬ IsBlank c
  reads : ∀ a cs, writes a cs → ∀ rest, Ends rest → p (cs ++ rest) = some (a, rest)

theorem Reads.starts_append {p : Reader α} {writes : α → List Char → Prop} (h : Reads p writes)
    {a : α} {cs : List Char} (hcs : writes a cs) (rest : List Char) : Starts (cs ++ rest) := by
  obtain ⟨c, later, rfl, hc⟩ := h.starts a cs hcs
  intro d hd
  obtain rfl : c = d := Option.some.inj hd
  exact hc

/-- White space around a value is read with it. -/
theorem Reads.padded {p : Reader α} {writes : α → List Char → Prop} (h : Reads p writes) {a : α}
    {cs rest : List Char} (hcs : Padded writes a cs) (hrest : Closes rest) :
    (do space; let value ← p; space; return value : Reader α) (cs ++ rest) = some (a, rest) := by
  obtain ⟨before, body, after, hbefore, hafter, hbody, rfl⟩ := hcs
  simp only [List.append_assoc]
  rw [bind_apply, space_append hbefore (h.starts_append hbody _), Option.bind_some, bind_apply,
    h.reads a body hbody _ (hrest.ends_append hafter), Option.bind_some, bind_apply,
    space_append hafter hrest.starts]
  rfl

theorem closes_cons {c : Char} (h : c = ',' ∨ c = ']' ∨ c = '\x7d') (rest : List Char) :
    Closes (c :: rest) := by
  intro d hd
  obtain rfl : c = d := Option.some.inj hd
  exact h

section Row

variable {p : Reader α} {writes : α → List Char → Prop}

/-- After a comma a row is read to its end. -/
theorem many_row
    (hp : ∀ a cs, Padded writes a cs → ∀ rest, Closes rest → p (cs ++ rest) = some (a, rest))
    {as : List α} {cs rest : List Char} (h : Row writes as cs) (hrest : Closes rest)
    (hend : (do let _ ← char ','; p : Reader α) rest = none) :
    many (do let _ ← char ','; p) (',' :: (cs ++ rest)) = some (as, rest) := by
  have hstep : ∀ {a piece later}, Padded writes a piece → Closes later →
      (do let _ ← char ','; p : Reader α) (',' :: (piece ++ later)) = some (a, later) := by
    intro a piece later hpiece hlater
    rw [bind_apply, char_cons_self, Option.bind_some, hp a piece hpiece later hlater]
  induction h with
  | one h =>
    exact many_of_some (hstep h hrest)
      (by simp only [List.length_cons, List.length_append]; omega) (many_of_none hend)
  | cons h _ ih =>
    rw [List.append_assoc, List.cons_append]
    exact many_of_some (hstep h (closes_cons (.inl rfl) _))
      (by simp only [List.length_cons, List.length_append]; omega) ih

/-- **A list is read up to its closing mark**, or up to the white space before it. -/
theorem separated_listed
    (hp : ∀ a cs, Padded writes a cs → ∀ rest, Closes rest → p (cs ++ rest) = some (a, rest))
    {mark : Char} (hmark : mark = ']' ∨ mark = '\x7d') (rest : List Char)
    (hfail : ∀ blank, Blank blank → p (blank ++ mark :: rest) = none) {as : List α}
    {cs : List Char} (h : Listed writes as cs) :
    ∃ blank, Blank blank ∧
      separated p (char ',') (cs ++ mark :: rest) = some (as, blank ++ mark :: rest) := by
  have hcloses : Closes (mark :: rest) := closes_cons (.inr hmark) rest
  have hend : (do let _ ← char ','; p : Reader α) (mark :: rest) = none := by
    have hcomma : mark ≠ ',' := by
      rintro rfl
      obtain h | h := hmark <;> cases h
    rw [bind_apply, char_cons_of_ne hcomma]
    rfl
  cases h with
  | none h =>
    refine ⟨cs, h, ?_⟩
    rw [separated, orElse_apply, bind_apply, hfail cs h]
    rfl
  | some h =>
    refine ⟨[], List.forall_mem_nil _, ?_⟩
    cases h with
    | @one a cs h =>
      rw [separated, orElse_apply, bind_apply, hp a cs h _ hcloses, Option.bind_some, bind_apply,
        many_of_none hend]
      rfl
    | @cons a as first later h hrow =>
      rw [separated, orElse_apply, bind_apply, List.append_assoc, List.cons_append,
        hp a first h _ (closes_cons (.inl rfl) _), Option.bind_some, bind_apply,
        many_row hp hrow hcloses hend]
      rfl

end Row

/-! ## Values that hold others -/

section Compound

variable {item : Reader Value} {writes : Value → List Char → Prop}

theorem starts_mark {c : Char} (hc : c ∈ ['[', ']', '\x7b', '\x7d', '"', ':']) (cs : List Char) :
    Starts (c :: cs) := by
  intro d hd
  obtain rfl : c = d := Option.some.inj hd
  simp only [List.mem_cons, List.not_mem_nil, or_false] at hc
  obtain rfl | rfl | rfl | rfl | rfl | rfl := hc <;> simp [IsBlank]

theorem array_written (h : Reads item writes) (hfail : ∀ rest, item (']' :: rest) = none)
    {items : List Value} {cs : List Char} (hcs : Listed writes items cs) (rest : List Char) :
    array item ('[' :: (cs ++ ']' :: rest)) = some (.array items, rest) := by
  have hmark : Starts (']' :: rest) := starts_mark (by decide) rest
  obtain ⟨blank, hblank, hread⟩ := separated_listed
    (p := do space; let value ← item; space; return value)
    (fun a piece hpiece later hlater => h.padded hpiece hlater) (.inl rfl) rest
    (fun blank hblank => by
      rw [bind_apply, space_append hblank hmark, Option.bind_some, bind_apply, hfail]
      rfl) hcs
  rw [array, bind_apply, char_cons_self, Option.bind_some, bind_apply, hread, Option.bind_some,
    bind_apply, space_append hblank hmark, Option.bind_some, bind_apply, char_cons_self]
  rfl

theorem member_written (h : Reads item writes) {m : Option String × Value} {cs : List Char}
    (hcs : Padded (Member writes) m cs) {rest : List Char} (hrest : Closes rest) :
    (do
      space
      let name ← string
      space
      char ':'
      space
      let value ← item
      space
      return (name, value) : Reader (Option String × Value)) (cs ++ rest) = some (m, rest) := by
  obtain ⟨before, body, after, hbefore, hafter, ⟨name, left, right, value, hname, hleft, hright,
    hvalue, rfl⟩, rfl⟩ := hcs
  obtain ⟨later, hquote⟩ := hname.exists_cons
  have hopen : Starts (name ++ (left ++ ':' :: (right ++ value)) ++ (after ++ rest)) := by
    rw [hquote]
    exact starts_mark (by decide) _
  have hcolon : Starts (':' :: (right ++ (value ++ (after ++ rest)))) := starts_mark (by decide) _
  rw [List.append_assoc, List.append_assoc, bind_apply, space_append hbefore hopen]
  simp only [Option.bind_some, List.append_assoc, List.cons_append]
  rw [bind_apply, string_quoted hname, Option.bind_some, bind_apply, space_append hleft hcolon,
    Option.bind_some, bind_apply, char_cons_self, Option.bind_some, bind_apply,
    space_append hright (h.starts_append hvalue _), Option.bind_some, bind_apply,
    h.reads _ _ hvalue _ (hrest.ends_append hafter), Option.bind_some, bind_apply,
    space_append hafter hrest.starts]
  rfl

theorem object_written (h : Reads item writes) {members : List (Option String × Value)}
    {cs : List Char} (hcs : Listed (Member writes) members cs) (rest : List Char) :
    object item ('\x7b' :: (cs ++ '\x7d' :: rest)) = some (.object members, rest) := by
  have hmark : Starts ('\x7d' :: rest) := starts_mark (by decide) rest
  obtain ⟨blank, hblank, hread⟩ := separated_listed
    (fun m piece hpiece later hlater => member_written h hpiece hlater) (.inr rfl) rest
    (fun blank hblank => by
      rw [bind_apply, space_append hblank hmark]
      rfl) hcs
  rw [object, bind_apply, char_cons_self, Option.bind_some, bind_apply, hread, Option.bind_some,
    bind_apply, space_append hblank hmark, Option.bind_some, bind_apply, char_cons_self]
  rfl

theorem compound_written (h : Reads item writes) (hfail : ∀ rest, item (']' :: rest) = none)
    {v : Value} {cs : List Char} (hcs : WritesCompound writes v cs) (rest : List Char) :
    (array item <|> object item : Reader Value) (cs ++ rest) = some (v, rest) := by
  cases hcs with
  | array hlist =>
    rw [List.cons_append, List.append_assoc, List.singleton_append, orElse_apply,
      array_written h hfail hlist]
    rfl
  | object hlist =>
    have harray : ∀ later, array item ('\x7b' :: later) = none := fun _ => rfl
    rw [List.cons_append, List.append_assoc, List.singleton_append, orElse_apply, harray,
      object_written h hlist]
    rfl

end Compound

/-- A value of some depth does not start with a closing bracket. -/
theorem value_bracket (depth : Nat) (rest : List Char) : value depth (']' :: rest) = none := by
  have hscalar : scalar (']' :: rest) = none := scalar_mark (by decide) rest
  cases depth with
  | zero => exact hscalar
  | succ depth =>
    rw [value, orElse_apply, hscalar]
    rfl

theorem WritesCompound.exists_mark {writes : Value → List Char → Prop} {v : Value}
    {cs : List Char} (h : WritesCompound writes v cs) :
    ∃ mark later, cs = mark :: later ∧ (mark = '[' ∨ mark = '\x7b') := by
  cases h with
  | array _ => exact ⟨_, _, rfl, .inl rfl⟩
  | object _ => exact ⟨_, _, rfl, .inr rfl⟩

/-- **A value is read by a reader of its depth.** -/
theorem reads_value (depth : Nat) : Reads (value depth) (Writes depth) := by
  induction depth with
  | zero =>
    exact ⟨fun _ _ h => h.exists_cons, fun _ _ h _ hrest => scalar_written h hrest⟩
  | succ depth ih =>
    constructor
    · rintro v cs (h | h)
      · exact h.exists_cons
      · obtain ⟨mark, later, rfl, rfl | rfl⟩ := h.exists_mark <;>
          exact ⟨_, _, rfl, by simp [IsBlank]⟩
    · rintro v cs (h | h) rest hrest
      · rw [value, orElse_apply, scalar_written h hrest]
        rfl
      · obtain ⟨mark, later, hcs, hmark⟩ := h.exists_mark
        have hscalar : scalar (cs ++ rest) = none := by
          rw [hcs, List.cons_append]
          exact scalar_mark (by obtain rfl | rfl := hmark <;> decide) _
        rw [value, orElse_apply, hscalar, Option.none_or,
          compound_written ih (value_bracket depth) h]

/-! ## Depth -/

section Depth

variable {writes writes' : α → List Char → Prop}

theorem Padded.imp {a : α} {cs : List Char} (h : Padded writes a cs)
    (himp : ∀ body, body.length ≤ cs.length → writes a body → writes' a body) :
    Padded writes' a cs := by
  obtain ⟨before, body, after, hbefore, hafter, hbody, rfl⟩ := h
  exact ⟨before, body, after, hbefore, hafter, himp body (by simp; omega) hbody, rfl⟩

theorem Row.imp {as : List α} {cs : List Char} (h : Row writes as cs)
    (himp : ∀ a body, body.length ≤ cs.length → writes a body → writes' a body) :
    Row writes' as cs := by
  induction h with
  | one h => exact .one (h.imp (himp _))
  | cons h _ ih =>
    refine .cons (h.imp fun body hle => himp _ body ?_) (ih fun a body hle => himp a body ?_)
    all_goals
      simp only [List.length_append, List.length_cons]
      omega

theorem Listed.imp {as : List α} {cs : List Char} (h : Listed writes as cs)
    (himp : ∀ a body, body.length ≤ cs.length → writes a body → writes' a body) :
    Listed writes' as cs := by
  cases h with
  | none h => exact .none h
  | some h => exact .some (h.imp himp)

end Depth

theorem Member.imp {writes writes' : Value → List Char → Prop} {m : Option String × Value}
    {cs : List Char} (h : Member writes m cs)
    (himp : ∀ body, body.length ≤ cs.length → writes m.2 body → writes' m.2 body) :
    Member writes' m cs := by
  obtain ⟨name, before, after, body, hname, hbefore, hafter, hbody, rfl⟩ := h
  exact ⟨name, before, after, body, hname, hbefore, hafter, himp body (by simp; omega) hbody, rfl⟩

theorem WritesScalar.writes {v : Value} {cs : List Char} (h : WritesScalar v cs) (depth : Nat) :
    Writes depth v cs := by
  cases depth with
  | zero => exact h
  | succ depth => exact .inl h

/-- **Nothing stands deeper in a text than the text is long.** -/
theorem Writes.of_length_le {depth bound : Nat} {v : Value} {cs : List Char}
    (h : Writes depth v cs) (hle : cs.length ≤ bound) : Writes bound v cs := by
  induction depth generalizing bound v cs with
  | zero => exact WritesScalar.writes h bound
  | succ depth ih =>
    obtain h | h := h
    · exact h.writes bound
    · -- the marks of an array or an object are longer than its depth
      cases h with
      | array hlist =>
        simp only [List.length_cons, List.length_append, List.length_nil] at hle
        obtain ⟨bound, rfl⟩ := Nat.exists_eq_add_of_le' (show 1 ≤ bound by omega)
        exact .inr (.array (hlist.imp fun a body hbody hwrites => ih hwrites (by omega)))
      | object hlist =>
        simp only [List.length_cons, List.length_append, List.length_nil] at hle
        obtain ⟨bound, rfl⟩ := Nat.exists_eq_add_of_le' (show 1 ≤ bound by omega)
        exact .inr (.object (hlist.imp fun m piece hpiece hmember =>
          hmember.imp fun body hbody hwrites => ih hwrites (by omega)))

/-- **A text is read as the value that it writes.** -/
theorem parse?_written {v : Value} {text : String} (h : WritesText v text.toList) :
    parse? text = some v := by
  obtain ⟨depth, hpadded⟩ := h
  have hdeep : Padded (Writes text.toList.length) v text.toList :=
    hpadded.imp fun body hle hbody => hbody.of_length_le hle
  have hend : Closes [] := nofun
  have hread := (reads_value _).padded hdeep hend
  rw [List.append_nil] at hread
  rw [parse?, whole, hread]

end Json
end CheatCode
