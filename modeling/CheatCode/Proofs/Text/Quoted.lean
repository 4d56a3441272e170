/-
# Quoted text is one line and can be read back

Between its two quotes a quoted text is a row of pieces, one for each character, and a reader that
knows the escapes and nothing of the tables reads the characters back (`Text.unescape_escape`).  So
a quoted text stands for one text.  No piece has a quote or a backslash in it that is not part of an
escape (`Text.guarded_escape`), and no piece has a character without a printable form
(`Text.isVisible_escape`): none that ends a line, and none that a terminal would take for a command.
-/

import CheatCode.Proofs.Numeral
import CheatCode.Proofs.Text.Reader
import CheatCode.Text.Quoted
import CheatCode.Text.Tame

namespace CheatCode
namespace Text

open Reader

/-! ## Undoing the escapes -/

/-- The character of a code point between braces, the first of which has been read. -/
def braced : Reader Char := do
  let digits ← span (· ≠ '\x7d')
  char '\x7d'
  match Numeral.value? 16 0 digits with
  | some n => if n.isValidChar then return Char.ofNat n else failure
  | none => failure

/-- What is read after the backslash of an escape. -/
def escapeEnd : Reader Char := fun
  | '"' :: cs => some ('"', cs)
  | '\\' :: cs => some ('\\', cs)
  | 't' :: cs => some ('\t', cs)
  | 'r' :: cs => some ('\r', cs)
  | 'n' :: cs => some ('\n', cs)
  | '0' :: cs => some ('\x00', cs)
  | 'u' :: '\x7b' :: cs => braced cs
  | _ => none

/-- One character between quotes: as it is, or by an escape. -/
def unescapeOne : Reader Char :=
  next (fun c => c ≠ '"' && c ≠ '\\') <|> do char '\\'; escapeEnd

/-- The characters that a row stands for between quotes. -/
def unescape (cs : List Char) : Option (List Char) := whole (many unescapeOne) cs

/-! ## What stands between quotes -/

/-- Every quote stands behind a backslash, and every backslash takes one character with it, so that
the first quote without one is the end. -/
inductive Guarded : List Char → Prop
  | nil : Guarded []
  | plain {c : Char} {cs : List Char} (hquote : c ≠ '"') (hbackslash : c ≠ '\\')
      (hrest : Guarded cs) : Guarded (c :: cs)
  | escape {c : Char} {cs : List Char} (hrest : Guarded cs) : Guarded ('\\' :: c :: cs)

theorem Guarded.append {cs ds : List Char} (h : Guarded cs) (h' : Guarded ds) :
    Guarded (cs ++ ds) := by
  induction h with
  | nil => exact h'
  | plain hquote hbackslash _ ih => exact .plain hquote hbackslash ih
  | escape _ ih => exact .escape ih

/-- The characters that end a line, for one reader or another. -/
def lineBreaks : List Char :=
  ['\n', '\r', '\x0b', '\x0c', '\u0085', '\u2028', '\u2029']

/-- A character has a printable form of its own. -/
def isVisible (c : Char) : Bool := !(isCombining c || isUnprintable c)

/-- A character outside all of some ranges lies in none of them. -/
theorem inRanges_eq_false {ranges : List (Nat × Nat)} {c : Char}
    (h : ∀ range ∈ ranges, c.toNat < range.1 ∨ range.2 < c.toNat) : inRanges ranges c = false := by
  rw [inRanges, List.any_eq_false]
  intro range hrange hin
  have hout := h range hrange
  simp only [Bool.and_eq_true, decide_eq_true_eq] at hin
  omega

/-- The characters of a plain keyboard have printable forms. -/
theorem isVisible_of_ascii {c : Char} (hfirst : 0x20 ≤ c.toNat) (hlast : c.toNat ≤ 0x7E) :
    isVisible c = true := by
  have hcombining : ∀ range ∈ combiningRanges, 0x7E < range.1 := by decide +kernel
  have hunprintable : ∀ range ∈ unprintableRanges, 0x7E < range.1 ∨ range.2 < 0x20 := by
    decide +kernel
  have h₁ : isCombining c = false := inRanges_eq_false fun range hrange =>
    .inl (lt_of_le_of_lt hlast (hcombining range hrange))
  have h₂ : isUnprintable c = false := inRanges_eq_false fun range hrange =>
    (hunprintable range hrange).imp (lt_of_le_of_lt hlast) fun h => lt_of_lt_of_le h hfirst
  rw [isVisible, h₁, h₂]
  rfl

theorem isVisible_of_all {cs : List Char}
    (h : cs.all (fun c => 0x20 ≤ c.toNat ∧ c.toNat ≤ 0x7E) = true) {c : Char} (hc : c ∈ cs) :
    isVisible c = true := by
  obtain ⟨hfirst, hlast⟩ := of_decide_eq_true (List.all_eq_true.1 h c hc)
  exact isVisible_of_ascii hfirst hlast

theorem isUnprintable_of_isVisible {c : Char} (h : isVisible c = true) :
    isUnprintable c = false := by
  simp only [isVisible, Bool.not_eq_true', Bool.or_eq_false_iff] at h
  exact h.2

/-! ## Pieces -/

/-- The escapes of one character after the backslash. -/
def shortEscapes : List (Char × Char) :=
  [('"', '"'), ('\\', '\\'), ('\t', 't'), ('\r', 'r'), ('\n', 'n'), ('\x00', '0')]

/-- The three ways in which a character is written between quotes. -/
inductive Piece (c : Char) : List Char → Prop
  | short {letter : Char} (h : (c, letter) ∈ shortEscapes) : Piece c ['\\', letter]
  | point : Piece c (['\\', 'u', '\x7b'] ++ Nat.toDigits 16 c.toNat ++ ['\x7d'])
  | plain (hquote : c ≠ '"') (hbackslash : c ≠ '\\') (h : isVisible c = true) : Piece c [c]

theorem piece_escape (c : Char) : Piece c (escape c) := by
  unfold escape
  split_ifs with hquote hbackslash htab hreturn hfeed hnull hpoint
  · exact .short (by rw [hquote]; decide)
  · exact .short (by rw [hbackslash]; decide)
  · exact .short (by rw [htab]; decide)
  · exact .short (by rw [hreturn]; decide)
  · exact .short (by rw [hfeed]; decide)
  · obtain rfl : c = '\x00' := Char.toNat_inj.1 hnull
    exact .short (by decide)
  · exact .point
  · exact .plain hquote hbackslash (by simpa [isVisible] using hpoint)

/-- The digits of a number in base sixteen, as they are. -/
theorem denotes_sixteen (n : Nat) : Numeral.Denotes 16 (Nat.toDigits 16 n) n := by
  have h : Numeral.Denotes 16 ((Nat.toDigits 16 n).map id) n :=
    Numeral.denotes_toDigits (by omega) (by decide) n
  rwa [List.map_id] at h

theorem braced_toDigits (c : Char) (rest : List Char) :
    braced (Nat.toDigits 16 c.toNat ++ '\x7d' :: rest) = some (c, rest) := by
  have hdigits := denotes_sixteen c.toNat
  have hfront : ∀ d ∈ Nat.toDigits 16 c.toNat, (d ≠ '\x7d' : Bool) = true := by
    intro d hd
    have hne : d ≠ '\x7d' := by
      rintro rfl
      exact hdigits.not_mem (by decide) hd
    simpa using hne
  have hvalid : c.toNat.isValidChar := c.valid
  rw [braced, bind_apply, span_append hfront (by simp), Option.bind_some, bind_apply,
    char_cons_self, Option.bind_some, Numeral.value?_of_denotes hdigits]
  simp [hvalid, Char.ofNat_toNat]

/-- **Each piece is read back as its character.** -/
theorem Piece.unescapeOne_append {c : Char} {piece : List Char} (h : Piece c piece)
    (rest : List Char) : unescapeOne (piece ++ rest) = some (c, rest) := by
  have hescape : ∀ cs, unescapeOne ('\\' :: cs) = escapeEnd cs := by
    intro cs
    rw [unescapeOne, orElse_apply, next_cons_of_neg rfl, Option.none_or, bind_apply,
      char_cons_self, Option.bind_some]
  cases h with
  | short h =>
    rw [List.cons_append, hescape]
    simp only [shortEscapes, List.mem_cons, Prod.mk.injEq, List.not_mem_nil, or_false] at h
    obtain ⟨rfl, rfl⟩ | ⟨rfl, rfl⟩ | ⟨rfl, rfl⟩ | ⟨rfl, rfl⟩ | ⟨rfl, rfl⟩ | ⟨rfl, rfl⟩ := h <;> rfl
  | point =>
    rw [List.append_assoc, List.append_assoc, List.cons_append, hescape]
    exact braced_toDigits c rest
  | plain hquote hbackslash _ =>
    have haccepts : (c ≠ '"' && c ≠ '\\') = true := by simp [hquote, hbackslash]
    rw [unescapeOne, orElse_apply, List.singleton_append, next_cons_of_pos haccepts,
      Option.some_or]

theorem Piece.guarded {c : Char} {piece : List Char} (h : Piece c piece) : Guarded piece := by
  cases h with
  | short _ => exact .escape .nil
  | point =>
    have hdigits : ∀ {digits : List Char}, (∀ d ∈ digits, ∃ n, Numeral.IsDigit 16 d n) →
        Guarded (digits ++ ['\x7d']) := by
      intro digits h
      induction digits with
      | nil => exact .plain (by decide) (by decide) .nil
      | cons d digits ih =>
        obtain ⟨⟨n, hn⟩, hrest⟩ := List.forall_mem_cons.1 h
        refine .plain ?_ ?_ (ih hrest)
        all_goals
          rintro rfl
          cases Numeral.digit?_eq_some_iff.2 hn
    rw [List.append_assoc]
    exact .escape (.plain (by decide) (by decide)
      (hdigits (Numeral.exists_denotes_iff.1 ⟨_, denotes_sixteen c.toNat⟩)))
  | plain hquote hbackslash _ => exact .plain hquote hbackslash .nil

theorem Piece.isVisible {c : Char} {piece : List Char} (h : Piece c piece) :
    ∀ d ∈ piece, isVisible d = true := by
  have hbackslash : Text.isVisible '\\' = true := isVisible_of_ascii (by decide) (by decide)
  cases h with
  | short h =>
    have hletters : ∀ pair ∈ shortEscapes, 0x20 ≤ pair.2.toNat ∧ pair.2.toNat ≤ 0x7E := by decide
    obtain ⟨hfirst, hlast⟩ := hletters _ h
    exact List.forall_mem_cons.2
      ⟨hbackslash, List.forall_mem_singleton.2 (isVisible_of_ascii hfirst hlast)⟩
  | point =>
    intro d hd
    simp only [List.mem_append] at hd
    rcases hd with (hd | hd) | hd
    · exact isVisible_of_all (by decide) hd
    · obtain ⟨n, -, hn⟩ :=
        Numeral.exists_denotes_iff.1 ⟨_, denotes_sixteen c.toNat⟩ d hd
      have hdigit : d ∈ Numeral.upperDigits ++ Numeral.lowerDigits :=
        List.mem_append.2 (hn.imp List.mem_of_getElem? List.mem_of_getElem?)
      exact isVisible_of_all (by decide) hdigit
    · exact isVisible_of_all (by decide) hd
  | plain _ _ h => exact List.forall_mem_singleton.2 h

/-! ## Rows -/

/-- **The escapes undone give the text back.** -/
theorem unescape_escape (cs : List Char) : unescape (cs.flatMap escape) = some cs := by
  have hpieces : List.Forall₂ (fun piece c => piece ≠ [] ∧
      ∀ later, unescapeOne (piece ++ later) = some (c, later)) (cs.map escape) cs := by
    induction cs with
    | nil => exact .nil
    | cons c cs ih =>
      have hc := piece_escape c
      refine .cons ⟨?_, hc.unescapeOne_append⟩ ih
      intro hnil
      rw [hnil] at hc
      cases hc
  have hread : many unescapeOne ((cs.map escape).flatten ++ []) = some (cs, []) :=
    many_pieces hpieces rfl
  rw [List.append_nil, ← List.flatMap_def] at hread
  rw [unescape, whole, hread]

theorem guarded_escape (cs : List Char) : Guarded (cs.flatMap escape) := by
  induction cs with
  | nil => exact .nil
  | cons c cs ih => exact (piece_escape c).guarded.append ih

theorem isVisible_escape (cs : List Char) : ∀ d ∈ cs.flatMap escape, isVisible d = true := by
  intro d hd
  obtain ⟨c, -, hdc⟩ := List.mem_flatMap.1 hd
  exact (piece_escape c).isVisible d hdc

/-- What ends a line has no printable form. -/
theorem not_mem_lineBreaks {c : Char} (h : isVisible c = true) : c ∉ lineBreaks := by
  have hbreaks : lineBreaks.all isUnprintable = true := by decide +kernel
  intro hc
  cases (isUnprintable_of_isVisible h).symm.trans (List.all_eq_true.1 hbreaks c hc)

/-- A character with a printable form needs no taming. -/
theorem tameChar_of_isVisible {c : Char} (h : isVisible c = true) : tameChar c = [c] := by
  have hprintable := isUnprintable_of_isVisible h
  have hwild : wildChars.all isUnprintable = true := by decide +kernel
  have hc : c ∉ wildChars := fun hc => by
    rw [List.all_eq_true.1 hwild c hc] at hprintable
    cases hprintable
  have hcontrol : ¬ (0x80 ≤ c.toNat ∧ c.toNat ≤ 0x9F) := by
    rintro ⟨hfirst, hlast⟩
    have hrange : isUnprintable c = true :=
      List.any_eq_true.2 ⟨(0x7F, 0xA0), by decide, by simp; omega⟩
    rw [hrange] at hprintable
    cases hprintable
  rw [tameChar, if_neg (by simpa using hc), if_neg hcontrol]

theorem tame_of_isVisible {cs : List Char} (h : ∀ c ∈ cs, isVisible c = true) : tame cs = cs := by
  induction cs with
  | nil => rfl
  | cons c cs ih =>
    obtain ⟨hc, hcs⟩ := List.forall_mem_cons.1 h
    rw [tame, List.flatMap_cons, tameChar_of_isVisible hc, ← tame, ih hcs, List.singleton_append]

end Text
end CheatCode
