/-
# Values as they are written

A string is written between double quotes, each character as it is or by an escape
(`Toml.Spells`), and an integer by its decimal digits.  A value so written is read back where a
line ends after it (`Toml.value_written`).

| a character | may be written |
| --- | --- |
| any but a control, `"` and `\` | as it is |
| backspace, tab, line feed, form feed, carriage return, `"`, `\` | by a backslash and a letter |
| any | by `\u` and four hexadecimal digits, or `\U` and eight, that denote its code |
-/

import CheatCode.Proofs.Numeral
import CheatCode.Proofs.Text.Reader
import CheatCode.Toml.Document

namespace CheatCode
namespace Toml

open Text (Reader)
open Text.Reader

/-! ## Strings -/

/-- The letters that stand for a character after a backslash. -/
def letters : List (Char × Char) := [('b', '\x08'), ('t', '\t'), ('n', '\n'), ('f', '\x0c'),
  ('r', '\r'), ('"', '"'), ('\\', '\\')]

/-- The ways to write a character between double quotes. -/
inductive Spells (c : Char) : List Char → Prop
  | plain (h : c = '\t' ∨ 0x20 ≤ c.toNat ∧ c.toNat ≠ 0x7F) (hquote : c ≠ '"')
      (hbackslash : c ≠ '\\') : Spells c [c]
  | letter {letter : Char} (h : (letter, c) ∈ letters) : Spells c ['\\', letter]
  | four {digits : List Char} (hlength : digits.length = 4)
      (h : Numeral.Denotes 16 digits c.toNat) : Spells c ('\\' :: 'u' :: digits)
  | eight {digits : List Char} (hlength : digits.length = 8)
      (h : Numeral.Denotes 16 digits c.toNat) : Spells c ('\\' :: 'U' :: digits)

theorem exists_spells (c : Char) : ∃ piece, Spells c piece := by
  refine ⟨_, .eight ((Numeral.length_hex_eq_iff (by omega) c.toNat).2 ?_)
    (Numeral.denotes_hex 8 c.toNat)⟩
  exact c.val.toNat_lt

/-- No piece of a string starts with the quote that ends it. -/
theorem Spells.exists_cons {c : Char} {piece : List Char} (h : Spells c piece) :
    ∃ first rest, piece = first :: rest ∧ first ≠ '"' := by
  cases h with
  | plain _ hquote _ => exact ⟨c, [], rfl, hquote⟩
  | letter _ => exact ⟨_, _, rfl, by decide⟩
  | four _ _ => exact ⟨_, _, rfl, by decide⟩
  | eight _ _ => exact ⟨_, _, rfl, by decide⟩

theorem codePoint_digits {count : Nat} {digits : List Char} {c : Char}
    (hlength : digits.length = count) (h : Numeral.Denotes 16 digits c.toNat)
    (rest : List Char) : codePoint count (digits ++ rest) = some (c, rest) := by
  subst hlength
  have hvalid : c.toNat.isValidChar := c.valid
  simp only [codePoint, List.take_left, List.drop_left, if_true, Numeral.value?_of_denotes h,
    if_pos hvalid, Char.ofNat_toNat]

/-- **A character is read back from any of its spellings.** -/
theorem basicChar_piece {c : Char} {piece : List Char} (h : Spells c piece) (rest : List Char) :
    basicChar (piece ++ rest) = some (c, rest) := by
  have hescape : ∀ cs, basicChar ('\\' :: cs) = escaped cs := by
    intro cs
    rw [basicChar, orElse_apply, next_cons_of_neg rfl, Option.none_or, bind_apply, char_cons_self,
      Option.bind_some]
  cases h with
  | plain hplain hquote hbackslash =>
    have haccepts : (isPlain c && c ≠ '"' && c ≠ '\\') = true := by
      simp only [isPlain, Bool.and_eq_true, Bool.or_eq_true, decide_eq_true_eq]
      exact ⟨⟨hplain, hquote⟩, hbackslash⟩
    rw [basicChar, orElse_apply, List.singleton_append, next_cons_of_pos haccepts, Option.some_or]
  | letter hletter =>
    rw [List.cons_append, hescape]
    simp only [letters, List.mem_cons, Prod.mk.injEq, List.not_mem_nil, or_false] at hletter
    obtain ⟨rfl, rfl⟩ | ⟨rfl, rfl⟩ | ⟨rfl, rfl⟩ | ⟨rfl, rfl⟩ | ⟨rfl, rfl⟩ | ⟨rfl, rfl⟩ |
      ⟨rfl, rfl⟩ := hletter <;> rfl
  | four hlength hdigits =>
    rw [List.cons_append, hescape, List.cons_append]
    exact codePoint_digits hlength hdigits rest
  | eight hlength hdigits =>
    rw [List.cons_append, hescape, List.cons_append]
    exact codePoint_digits hlength hdigits rest

/-- A text is written as pieces between two quotes. -/
def Quotes (text written : List Char) : Prop :=
  ∃ pieces, List.Forall₂ Spells text pieces ∧ written = '"' :: pieces.flatten ++ ['"']

theorem exists_quotes (text : List Char) : ∃ written, Quotes text written := by
  suffices h : ∃ pieces, List.Forall₂ Spells text pieces from
    h.elim fun pieces hpieces => ⟨_, pieces, hpieces, rfl⟩
  induction text with
  | nil => exact ⟨[], .nil⟩
  | cons c text ih =>
    obtain ⟨pieces, hpieces⟩ := ih
    obtain ⟨piece, hpiece⟩ := exists_spells c
    exact ⟨piece :: pieces, .cons hpiece hpieces⟩

/-- No spelling breaks the line. -/
theorem Spells.feed_not_mem {c : Char} {piece : List Char} (h : Spells c piece) : '\n' ∉ piece := by
  have hdigits : ∀ {digits : List Char} {n : Nat}, Numeral.Denotes 16 digits n → '\n' ∉ digits :=
    fun h => h.not_mem (by decide)
  cases h with
  | plain hplain _ _ =>
    rintro hmem
    obtain rfl := List.mem_singleton.1 hmem
    revert hplain
    decide
  | letter hletter =>
    have hfeed : ∀ pair ∈ letters, '\n' ≠ pair.1 := by decide
    simpa using hfeed _ hletter
  | four _ h => simpa using hdigits h
  | eight _ h => simpa using hdigits h

theorem basicString_quoted {text written : List Char} (h : Quotes text written)
    (rest : List Char) : basicString (written ++ rest) = some (text, rest) := by
  obtain ⟨pieces, hpieces, rfl⟩ := h
  have hmany : many basicChar (pieces.flatten ++ '"' :: rest) = some (text, '"' :: rest) := by
    refine many_pieces (hpieces.flip.imp fun piece c hpiece => ⟨?_, basicChar_piece hpiece⟩) rfl
    obtain ⟨first, later, rfl, -⟩ := hpiece.exists_cons
    exact List.cons_ne_nil _ _
  rw [List.cons_append, List.cons_append, List.append_assoc, List.singleton_append, basicString,
    bind_apply, char_cons_self, Option.bind_some, bind_apply, hmany, Option.bind_some, bind_apply,
    char_cons_self]
  rfl

/-- What is left of a text starts with an end of the line, if there is anything left. -/
def AtEnd (rest : List Char) : Prop := ∀ c ∈ rest.head?, c = '\n' ∨ c = '\r'

/-- A string on one line does not look like one over several lines. -/
theorem longString_quoted {text written : List Char} (h : Quotes text written) {rest : List Char}
    (hrest : AtEnd rest) (piece : Reader (List Char)) :
    longString '"' piece (written ++ rest) = none := by
  obtain ⟨pieces, hpieces, rfl⟩ := h
  have hliteral :
      literal (List.replicate 3 '"') ('"' :: (pieces.flatten ++ '"' :: rest)) = none := by
    show literal ['"', '"', '"'] _ = none
    cases hpieces with
    | nil =>
      cases rest with
      | nil => rfl
      | cons c rest =>
        have hc : c ≠ '"' := by
          rcases hrest c rfl with rfl | rfl <;> decide
        simp [literal_cons, char_cons_of_ne hc]
    | cons hpiece _ =>
      obtain ⟨first, later, rfl, hfirst⟩ := hpiece.exists_cons
      simp [literal_cons, char_cons_of_ne hfirst]
  rw [List.cons_append, List.cons_append, List.append_assoc, List.singleton_append, longString,
    bind_apply, hliteral]
  rfl

theorem string_quoted {text written : List Char} (h : Quotes text written) {rest : List Char}
    (hrest : AtEnd rest) : string (written ++ rest) = some (text, rest) := by
  rw [string, orElse_apply, orElse_apply, orElse_apply, longString_quoted h hrest,
    basicString_quoted h]
  rfl

/-! ## Integers -/

/-- What starts with neither kind of quote is no string. -/
theorem string_none {c : Char} (hdouble : c ≠ '"') (hsingle : c ≠ '\'') (cs : List Char) :
    string (c :: cs) = none := by
  have hlong : ∀ (quote : Char) (piece : Reader (List Char)), c ≠ quote →
      longString quote piece (c :: cs) = none := by
    intro quote piece hquote
    rw [longString, List.replicate_succ, literal_cons, bind_apply, bind_apply,
      char_cons_of_ne hquote]
    rfl
  rw [string, orElse_apply, orElse_apply, orElse_apply, hlong _ _ hdouble, hlong _ _ hsingle,
    basicString, literalString, bind_apply, bind_apply, char_cons_of_ne hdouble,
    char_cons_of_ne hsingle]
  rfl

/-- The decimal digits. -/
def decimals : List Char := ['0', '1', '2', '3', '4', '5', '6', '7', '8', '9']

/-- A decimal digit. -/
def IsDecimal (c : Char) : Prop := ∃ d, Numeral.IsDigit 10 c d

/-- Some digits, and the end of the line. -/
structure Trails (digits rest : List Char) : Prop where
  digits : ∀ c ∈ digits, IsDecimal c
  rest : AtEnd rest

theorem IsDecimal.mem {c : Char} (h : IsDecimal c) : c ∈ decimals := by
  obtain ⟨d, hd, hc⟩ := h
  interval_cases d <;> rcases hc with hc | hc <;> cases hc <;> decide

/-- An end of the line is no digit. -/
theorem AtEnd.not_isDecimal {c : Char} {rest : List Char} (h : AtEnd (c :: rest)) :
    ¬ IsDecimal c := fun hc => by
  have hmem := hc.mem
  rcases h c rfl with rfl | rfl <;> revert hmem <;> decide

/-- No character but a digit and the two that end a line comes next. -/
theorem Trails.char_none {digits rest : List Char} (h : Trails digits rest) {c : Char}
    (hc : c ∉ decimals ++ ['\n', '\r']) :
    char c (digits ++ rest) = none := by
  cases digits with
  | nil =>
    cases rest with
    | nil => rfl
    | cons d rest =>
      refine char_cons_of_ne (fun hd => hc (List.mem_append_right _ ?_)) rest
      rcases h.rest d rfl with hend | hend <;> simp [← hd, hend]
  | cons d digits =>
    refine char_cons_of_ne (fun hd => hc (List.mem_append_left _ ?_)) _
    exact hd ▸ (h.digits d List.mem_cons_self).mem

/-- A number of some width takes its digits from the digits there are, and leaves the others. -/
theorem numberWithin_trails {width low high n : Nat} {digits rest left : List Char}
    (h : Trails digits rest)
    (hread : numberWithin width low high (digits ++ rest) = some (n, left)) :
    ∃ later, left = later ++ rest ∧ Trails later rest := by
  unfold numberWithin at hread
  simp only at hread
  split at hread
  · rename_i hlength
    split at hread
    · rename_i value hvalue
      split at hread
      · cases hread
        -- the end of the line is no digit, so there are enough digits before it
        have hle : width ≤ digits.length := by
          by_contra hlt
          obtain ⟨extra, hextra⟩ := Nat.exists_eq_add_of_lt (Nat.lt_of_not_le hlt)
          cases rest with
          | nil => simp at hlength; omega
          | cons c rest =>
            refine h.rest.not_isDecimal (Numeral.isDigit_of_value? hvalue c ?_)
            rw [List.take_append, hextra]
            refine List.mem_append_right _ ?_
            rw [show digits.length + extra + 1 - digits.length = extra + 1 by omega,
              List.take_succ_cons]
            exact List.mem_cons_self
        refine ⟨digits.drop width, List.drop_append_of_le_length hle, ?_, h.rest⟩
        exact fun c hc => h.digits c (List.mem_of_mem_drop hc)
      · cases hread
    · cases hread
  · cases hread

/-- A number of some width, and then a character that cannot come next. -/
theorem numberWithin_char_none {width low high : Nat} {digits rest : List Char}
    (h : Trails digits rest) {c : Char}
    (hc : c ∉ decimals ++ ['\n', '\r']) {α : Type}
    (next : Nat → Reader α) :
    (numberWithin width low high >>= fun n => char c >>= fun _ => next n) (digits ++ rest) =
      none := by
  rw [bind_apply]
  cases hread : numberWithin width low high (digits ++ rest) with
  | none => rfl
  | some found =>
    obtain ⟨n, left⟩ := found
    obtain ⟨later, rfl, htrails⟩ := numberWithin_trails h hread
    rw [Option.bind_some, bind_apply, htrails.char_none hc]
    rfl

theorem date_none {digits rest : List Char} (h : Trails digits rest) :
    date (digits ++ rest) = none := by
  have hday : day (digits ++ rest) = none := numberWithin_char_none h (by decide) _
  have htime : time (digits ++ rest) = none :=
    (discard_bind_apply _ _ _).trans (numberWithin_char_none h (by decide) _)
  rw [date, bind_apply, orElse_apply, bind_apply, hday, htime]
  rfl

theorem sign_trails {digits rest : List Char} (h : Trails digits rest) :
    sign (digits ++ rest) = some (false, digits ++ rest) := by
  rw [sign, orElse_apply, orElse_apply, bind_apply, bind_apply, h.char_none (by decide),
    h.char_none (by decide)]
  rfl

/-- The decimal digits of a number trail off at the end of a line. -/
theorem trails_toDigits (n : Nat) {rest : List Char} (hrest : AtEnd rest) :
    Trails (Nat.toDigits 10 n) rest :=
  ⟨Numeral.exists_denotes_iff.1 ⟨n, Numeral.denotes_decimal n⟩, hrest⟩

theorem exists_toDigits_cons (n : Nat) :
    ∃ first later, Nat.toDigits 10 n = first :: later ∧ IsDecimal first := by
  have hne : Nat.toDigits 10 n ≠ [] := Nat.toDigits_ne_nil
  obtain ⟨first, later, hlist⟩ := List.exists_cons_of_ne_nil hne
  have hdigits := (trails_toDigits n (show AtEnd [] from nofun)).digits
  exact ⟨first, later, hlist, hdigits first (hlist ▸ List.mem_cons_self)⟩

theorem isSome_digit?_iff {c : Char} : (Numeral.digit? 10 c).isSome = true ↔ IsDecimal c := by
  rw [Option.isSome_iff_exists]
  exact exists_congr fun _ => Numeral.digit?_eq_some_iff

/-- One more digit of a run, which may have an underscore before it. -/
def furtherDigit : Reader Char :=
  (do char '_'; next fun c => (Numeral.digit? 10 c).isSome) <|>
    next fun c => (Numeral.digit? 10 c).isSome

theorem furtherDigit_digit {c : Char} (h : IsDecimal c) (rest : List Char) :
    furtherDigit ([c] ++ rest) = some (c, rest) := by
  have hunderscore : c ≠ '_' := by
    rintro rfl
    exact absurd h.mem (by decide)
  rw [furtherDigit, orElse_apply, bind_apply, List.singleton_append, char_cons_of_ne hunderscore,
    next_cons_of_pos (isSome_digit?_iff.2 h)]
  rfl

theorem furtherDigit_end {rest : List Char} (h : AtEnd rest) : furtherDigit rest = none := by
  have hrest : Trails [] rest := ⟨List.forall_mem_nil _, h⟩
  have hunderscore : char '_' rest = none := hrest.char_none (by decide)
  rw [furtherDigit, orElse_apply, bind_apply, hunderscore, Option.bind_none, Option.none_or]
  cases rest with
  | nil => rfl
  | cons c rest =>
    refine next_cons_of_neg (Bool.eq_false_iff.2 fun hc => ?_) rest
    exact h.not_isDecimal (isSome_digit?_iff.1 hc)

/-- A run of digits is read to its end. -/
theorem digitRun_trails {first : Char} {later rest : List Char}
    (h : Trails (first :: later) rest) :
    digitRun 10 (first :: later ++ rest) = some (first :: later, rest) := by
  obtain ⟨hfirst, hlater⟩ := List.forall_mem_cons.1 h.digits
  have hmany :
      many furtherDigit ((later.map fun c => [c]).flatten ++ rest) = some (later, rest) := by
    refine many_pieces (List.forall₂_map_left_iff.2 (List.forall₂_same.2 fun c hc => ?_))
      (furtherDigit_end h.rest)
    exact ⟨List.cons_ne_nil _ _, furtherDigit_digit (hlater c hc)⟩
  rw [← List.flatMap_def, List.flatMap_singleton'] at hmany
  have hnext : next (fun c => (Numeral.digit? 10 c).isSome) (first :: (later ++ rest)) =
      some (first, later ++ rest) := next_cons_of_pos (isSome_digit?_iff.2 hfirst) _
  have hrun : digitRun 10 = do
      let first ← next fun c => (Numeral.digit? 10 c).isSome
      let rest ← many furtherDigit
      return first :: rest := rfl
  rw [hrun, List.cons_append]
  simp only [bind_apply, hnext, Option.bind_some, hmany]
  rfl

/-- **A decimal numeral is read to its end.** -/
theorem decimal_toDigits (n : Nat) {rest : List Char} (hrest : AtEnd rest) :
    decimal (Nat.toDigits 10 n ++ rest) = some ((false, Nat.toDigits 10 n), rest) := by
  have htrails := trails_toDigits n hrest
  suffices hdigits : ((do char '0'; return ['0']) <|> digitRun 10 : Reader (List Char))
      (Nat.toDigits 10 n ++ rest) = some (Nat.toDigits 10 n, rest) by
    rw [decimal, bind_apply, sign_trails htrails, Option.bind_some, bind_apply, hdigits]
    rfl
  by_cases hzero : n = 0
  · subst hzero
    rfl
  · obtain ⟨first, later, hlist, -⟩ := exists_toDigits_cons n
    have hhead := Numeral.head?_toDigits hzero
    rw [hlist] at hhead htrails ⊢
    have hfirst : first ≠ '0' := fun h => hhead (congrArg some h)
    rw [orElse_apply, bind_apply, List.cons_append, char_cons_of_ne hfirst, ← List.cons_append,
      digitRun_trails htrails]
    rfl

theorem float_none (n : Nat) {rest : List Char} (hrest : AtEnd rest) :
    float (Nat.toDigits 10 n ++ rest) = none := by
  have htrails := trails_toDigits n hrest
  have hend : Trails [] rest := ⟨List.forall_mem_nil _, hrest⟩
  have hpoint : char '.' rest = none := hend.char_none (by decide)
  have hexponent : exponent rest = none := by
    have hmark : next (fun c => c = 'e' || c = 'E') rest = none := by
      cases rest with
      | nil => rfl
      | cons c rest =>
        refine next_cons_of_neg ?_ rest
        rcases hrest c rfl with rfl | rfl <;> rfl
    rw [exponent, discard_bind_apply, bind_apply, hmark]
    rfl
  have hfinite : finiteFloat (Nat.toDigits 10 n ++ rest) = none := by
    rw [finiteFloat]
    simp [decimal_toDigits n hrest, hpoint, hexponent]
  have hwords : (discard sign >>= fun _ => (literal ['i', 'n', 'f'] <|> literal ['n', 'a', 'n']) >>=
      fun _ => return Value.float : Reader Value) (Nat.toDigits 10 n ++ rest) = none := by
    have hinf : char 'i' (Nat.toDigits 10 n ++ rest) = none := htrails.char_none (by decide)
    have hnan : char 'n' (Nat.toDigits 10 n ++ rest) = none := htrails.char_none (by decide)
    simp [sign_trails htrails, literal_cons, hinf, hnan]
  rw [float, orElse_apply, hfinite, Option.none_or]
  exact hwords

theorem integerOf_eq {negative : Bool} {base magnitude : Nat} {digits : List Char}
    (h : Numeral.value? base 0 digits = some magnitude) :
    integerOf negative base digits =
      let number : Int := if negative then -(magnitude : Int) else magnitude
      if -(Numeral.signedBound : Int) ≤ number ∧ number < Numeral.signedBound then
        some (.integer number)
      else none := by
  rw [integerOf, h]
  rfl

theorem integerOf_toDigits {n : Nat} (hn : n < Numeral.signedBound) :
    integerOf false 10 (Nat.toDigits 10 n) = some (.integer n) := by
  have hrange : ∀ bound : Nat, n < bound → -(bound : Int) ≤ n ∧ (n : Int) < bound := by
    omega
  rw [integerOf_eq (Numeral.value?_of_denotes (Numeral.denotes_decimal n)),
    if_neg Bool.false_ne_true]
  exact if_pos (hrange _ hn)

/-- **A decimal numeral in range is read as an integer.** -/
theorem integer_toDigits {n : Nat} (hn : n < Numeral.signedBound) {rest : List Char}
    (hrest : AtEnd rest) :
    integer (Nat.toDigits 10 n ++ rest) = some (.integer n, rest) := by
  have htrails := trails_toDigits n hrest
  have hmarked : ∀ mark base, mark ∉ decimals ++ ['\n', '\r'] →
      markedInteger mark base (Nat.toDigits 10 n ++ rest) = none := by
    intro mark base hmark
    obtain ⟨first, later, hlist, -⟩ := exists_toDigits_cons n
    rw [hlist] at htrails ⊢
    have hlater : Trails later rest := ⟨(List.forall_mem_cons.1 htrails.digits).2, hrest⟩
    by_cases hfirst : first = '0'
    · subst hfirst
      simp [markedInteger, literal_cons, hlater.char_none hmark]
    · simp [markedInteger, literal_cons, char_cons_of_ne hfirst]
  rw [integer, orElse_apply, orElse_apply, orElse_apply, hmarked 'x' 16 (by decide),
    hmarked 'o' 8 (by decide), hmarked 'b' 2 (by decide)]
  simp [decimal_toDigits n hrest, integerOf_toDigits hn]

/-! ## Values -/

/-- The ways to write a string or an integer that is not negative. -/
inductive Writes : Value → List Char → Prop
  | string {text : String} {written : List Char} (h : Quotes text.toList written) :
      Writes (.string text) written
  | integer (n : Nat) (h : n < Numeral.signedBound) : Writes (.integer n) (Nat.toDigits 10 n)

/-- What is written for a value stays on one line. -/
theorem Writes.on_line {v : Value} {written : List Char} (h : Writes v written) :
    '\n' ∉ written ∧ ∃ front last, written = front ++ [last] ∧ last ≠ '\r' := by
  cases h with
  | string h =>
    obtain ⟨pieces, hpieces, rfl⟩ := h
    refine ⟨?_, _, _, rfl, by decide⟩
    have hpieces : '\n' ∉ pieces.flatten := by
      generalize String.toList _ = text at hpieces
      induction hpieces with
      | nil => exact List.not_mem_nil
      | cons hpiece _ ih =>
        rw [List.flatten_cons, List.mem_append]
        exact not_or.2 ⟨hpiece.feed_not_mem, ih⟩
    simpa using hpieces
  | integer n _ =>
    have hdecimal := (trails_toDigits n (show AtEnd [] from nofun)).digits
    have hne : ∀ c ∈ Nat.toDigits 10 n, c ≠ '\n' ∧ c ≠ '\r' := by
      intro c hc
      have hmem := (hdecimal c hc).mem
      constructor <;> rintro rfl <;> revert hmem <;> decide
    refine ⟨fun hmem => (hne _ hmem).1 rfl, _, _,
      (List.dropLast_append_getLast Nat.toDigits_ne_nil).symm, ?_⟩
    exact (hne _ (List.getLast_mem _)).2

/-- **What is written for a value is read back.** -/
theorem value_written {v : Value} {written : List Char} (h : Writes v written)
    {rest : List Char} (hrest : AtEnd rest) (depth : Nat) :
    value depth (written ++ rest) = some (v, rest) := by
  have hscalar : scalar (written ++ rest) = some (v, rest) := by
    cases h with
    | @string text written h => simp [scalar, string_quoted h hrest]
    | integer n hn =>
      have htrails := trails_toDigits n hrest
      have hstring : string (Nat.toDigits 10 n ++ rest) = none := by
        obtain ⟨first, later, hlist, hdecimal⟩ := exists_toDigits_cons n
        rw [hlist]
        have hfirst := hdecimal.mem
        refine string_none ?_ ?_ _ <;> rintro rfl <;> revert hfirst <;> decide
      simp [scalar, hstring, date_none htrails, float_none n hrest, integer_toDigits hn hrest]
  cases depth with
  | zero => exact hscalar
  | succ depth => rw [value, orElse_apply, hscalar]; rfl

end Toml
end CheatCode
