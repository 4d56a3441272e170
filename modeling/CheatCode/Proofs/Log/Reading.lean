/-
# When a wish has a filter

A wish has a filter unless reading it breaks off, and then the filter decides on an event by how
much it matters and where it comes from alone (`Log.Decides`).

The parts of a directive are found in its trimmed text and cut from the whole one, so a cut may come
to lie within a character.  All parts can be cut

| from a text | because the places are |
| --- | --- |
| without white space at its front | the same in both |
| of characters that take one byte | between two characters wherever they are |

(`Log.Directive.Whole`).  Reading such a text does not break off, part by part
(`Log.Directive.untorn_ofChars`), so a wish made of such directives has a filter
(`Log.Filter.Plain.decides`).
-/

import CheatCode.Log.Filter

namespace CheatCode

/-! ## Cuts -/

namespace Text

theorem byteCount_append (cs more : List Char) :
    byteCount (cs ++ more) = byteCount cs + byteCount more := by
  induction cs with
  | nil => simp [byteCount]
  | cons c cs ih => simp [byteCount, ih, Nat.add_assoc]

theorem byteCount_le_of_sublist {cs more : List Char} (h : cs.Sublist more) :
    byteCount cs ≤ byteCount more := by
  induction h with
  | slnil => exact Nat.le_refl _
  | cons c _ ih => exact Nat.le_trans ih (Nat.le_add_left _ _)
  | cons_cons c _ ih => exact Nat.add_le_add_left ih _

theorem dropBytes?_cons (c : Char) (count : Nat) (cs : List Char) :
    dropBytes? (c.utf8Size + count) (c :: cs) = dropBytes? count cs := by
  have hpos := c.utf8Size_pos
  have hcount : c.utf8Size + count = c.utf8Size - 1 + count + 1 := by omega
  rw [hcount, dropBytes?, if_pos (by omega), ← hcount, Nat.add_sub_cancel_left]

theorem takeBytes?_cons (c : Char) (count : Nat) (cs : List Char) :
    takeBytes? (c.utf8Size + count) (c :: cs) = (takeBytes? count cs).map (c :: ·) := by
  have hpos := c.utf8Size_pos
  have hcount : c.utf8Size + count = c.utf8Size - 1 + count + 1 := by omega
  rw [hcount, takeBytes?, if_pos (by omega), ← hcount, Nat.add_sub_cancel_left]

theorem dropBytes?_append (front rest : List Char) :
    dropBytes? (byteCount front) (front ++ rest) = some rest := by
  induction front with
  | nil => rw [byteCount, List.nil_append, dropBytes?]
  | cons c front ih => rw [byteCount, List.cons_append, dropBytes?_cons, ih]

theorem takeBytes?_append (front rest : List Char) :
    takeBytes? (byteCount front) (front ++ rest) = some front := by
  induction front with
  | nil => rw [byteCount, takeBytes?]
  | cons c front ih => rw [byteCount, List.cons_append, takeBytes?_cons, ih, Option.map_some]

/-- A text has so many bytes before the place between two of its characters. -/
def CutAt (text : List Char) (count : Nat) : Prop :=
  ∃ front rest, text = front ++ rest ∧ byteCount front = count

/-- **What lies between two cuts of a text can be taken out.** -/
theorem CutAt.exists_between {text : List Char} {first last : Nat} (hfirst : CutAt text first)
    (hlast : CutAt text last) (hle : first ≤ last) :
    ∃ rest part, dropBytes? first text = some rest ∧
      takeBytes? (last - first) rest = some part := by
  obtain ⟨front, rest, rfl, rfl⟩ := hfirst
  obtain ⟨front', rest', htext, rfl⟩ := hlast
  obtain ⟨part, rfl, rfl⟩ | ⟨beyond, rfl, rfl⟩ := List.append_eq_append_iff.1 htext
  · refine ⟨_, part, dropBytes?_append front _, ?_⟩
    rw [byteCount_append, Nat.add_sub_cancel_left]
    exact takeBytes?_append part rest'
  · rw [byteCount_append] at hle ⊢
    refine ⟨rest, [], ?_, ?_⟩
    · rw [← byteCount_append]
      exact dropBytes?_append _ rest
    · rw [show byteCount front' - (byteCount front' + byteCount beyond) = 0 by omega, takeBytes?]

/-- Characters of one byte each can be cut anywhere. -/
theorem cutAt_of_forall {text : List Char} (h : ∀ c ∈ text, c.utf8Size = 1) {count : Nat}
    (hle : count ≤ byteCount text) : CutAt text count := by
  have hlength : ∀ cs : List Char, (∀ c ∈ cs, c.utf8Size = 1) → byteCount cs = cs.length := by
    intro cs hcs
    induction cs with
    | nil => rfl
    | cons c cs ih =>
      obtain ⟨hc, hcs⟩ := List.forall_mem_cons.1 hcs
      rw [byteCount, hc, ih hcs, List.length_cons, Nat.add_comm]
  refine ⟨text.take count, text.drop count, (List.take_append_drop count text).symm, ?_⟩
  rw [hlength _ fun c hc => h c (List.mem_of_mem_take hc), List.length_take, ← hlength text h]
  omega

end Text

namespace Log

/-! ## Reading that does not break off -/

/-- Reading does not break off: it refuses a text, or gives what has some property. -/
inductive Untorn {α : Type} (property : α → Prop) : Except Fault α → Prop
  | unreadable : Untorn property (.error .unreadable)
  | ok {a : α} (h : property a) : Untorn property (.ok a)

/-- Readings one after the other do not break off if none of them does. -/
theorem Untorn.bind {α β : Type} {property : α → Prop} {later : β → Prop} {x : Except Fault α}
    {f : α → Except Fault β} (hx : Untorn property x) (hf : ∀ a, property a → Untorn later (f a)) :
    Untorn later (x >>= f) := by
  cases hx with
  | unreadable => exact .unreadable
  | ok h => exact hf _ h

theorem untorn_orFault {α : Type} (found : Option α) :
    Untorn (fun _ => True) (orFault found .unreadable) := by
  cases found with
  | none => exact .unreadable
  | some a => exact .ok trivial

theorem untorn_mapM {α β : Type} {f : α → Except Fault β} {l : List α}
    (h : ∀ a ∈ l, Untorn (fun _ => True) (f a)) : Untorn (fun _ => True) (l.mapM f) := by
  induction l with
  | nil => exact .ok trivial
  | cons a l ih =>
    obtain ⟨ha, hl⟩ := List.forall_mem_cons.1 h
    rw [List.mapM_cons]
    exact ha.bind fun _ _ => (ih hl).bind fun _ _ => .ok trivial

namespace Directive

/-- Each part of the trimmed text can be cut from the whole one. -/
def Whole (text : List Char) : Prop :=
  ∀ first, first <:+ trim text →
    Text.CutAt text (Text.byteCount (trim text) - Text.byteCount first)

/-- A trimmed text lies at the front of the whole one if no white space is there. -/
theorem trim_prefix {text : List Char} (h : ∀ c ∈ text.head?, Text.isWhiteSpace c = false) :
    trim text <+: text := by
  have hfront : text.dropWhile Text.isWhiteSpace = text := by
    cases text with
    | nil => rfl
    | cons c cs => exact List.dropWhile_cons_of_neg (by simp [h c rfl])
  rw [trim, hfront, ← List.reverse_suffix, List.reverse_reverse]
  exact List.dropWhile_suffix _

theorem trim_sublist (text : List Char) : (trim text).Sublist text := by
  have hback := (List.dropWhile_sublist (l := (text.dropWhile Text.isWhiteSpace).reverse)
    Text.isWhiteSpace).reverse
  rw [List.reverse_reverse] at hback
  exact hback.trans (List.dropWhile_sublist _)

/-- **After no white space all parts can be cut.** -/
theorem whole_of_head {text : List Char} (h : ∀ c ∈ text.head?, Text.isWhiteSpace c = false) :
    Whole text := by
  rintro first ⟨front, hfront⟩
  obtain ⟨blanks, hblanks⟩ := trim_prefix h
  refine ⟨front, first ++ blanks, ?_, ?_⟩
  · rw [← List.append_assoc, hfront, hblanks]
  · rw [← hfront, Text.byteCount_append, Nat.add_sub_cancel]

/-- **Among characters of one byte each all parts can be cut.** -/
theorem whole_of_forall {text : List Char} (h : ∀ c ∈ text, c.utf8Size = 1) : Whole text := by
  intro first _
  exact Text.cutAt_of_forall h
    (Nat.le_trans (Nat.sub_le _ _) (Text.byteCount_le_of_sublist (trim_sublist text)))

/-! ## Parts -/

section Whole

variable {text : List Char} (hwhole : Whole text)
include hwhole

theorem untorn_rest {first : List Char} (hfirst : first <:+ trim text) :
    Untorn (fun _ => True) (rest text first) := by
  obtain ⟨rest, _, hrest, -⟩ :=
    (hwhole first hfirst).exists_between (hwhole first hfirst) (Nat.le_refl _)
  rw [Directive.rest, hrest]
  exact .ok trivial

theorem untorn_part {first last : List Char} (hfirst : first <:+ trim text)
    (hlast : last <:+ first) : Untorn (fun _ => True) (part text first last) := by
  have hle := Text.byteCount_le_of_sublist hlast.sublist
  have hle' := Text.byteCount_le_of_sublist hfirst.sublist
  obtain ⟨rest, part, hrest, hpart⟩ := (hwhole first hfirst).exists_between
    (hwhole last (hlast.trans hfirst)) (by omega)
  have hcount : Text.byteCount (trim text) - Text.byteCount last -
      (Text.byteCount (trim text) - Text.byteCount first) =
        Text.byteCount first - Text.byteCount last := by omega
  rw [hcount] at hpart
  rw [Directive.part, Directive.rest, hrest]
  show Untorn _ (orFault (Text.takeBytes? _ rest) .torn)
  rw [hpart]
  exact .ok trivial

theorem untorn_suffix {after : List Char} (hafter : after <:+ trim text) :
    Untorn (fun _ => True) (suffix text after) := by
  unfold suffix
  split
  · exact .ok trivial
  · rename_i level
    refine (untorn_rest hwhole ((List.suffix_cons '=' level).trans hafter)).bind fun word _ => ?_
    cases word with
    | nil => exact .ok trivial
    | cons c word => exact untorn_orFault _
  · exact .unreadable

theorem untorn_field {inner : List Char} (hinner : inner <:+ trim text) :
    Untorn (fun found => found.2 <:+ inner) (field text inner) := by
  unfold field
  split
  · exact .unreadable
  · rename_i brace afterBrace hbrace
    have hlast : brace :: afterBrace <:+ inner := hbrace ▸ List.dropWhile_suffix _
    refine (untorn_part hwhole hinner hlast).bind fun name _ => ?_
    simp only
    split
    · exact .unreadable
    · refine (untorn_orFault _).bind fun subject _ => ?_
      cases afterBrace with
      | nil => exact .unreadable
      | cons bracket after =>
        split
        · rename_i hbracket
          cases hbracket
          have hafter := (List.suffix_cons ']' after).trans (List.suffix_cons brace _)
          exact .ok (hafter.trans hlast)
        · exact .unreadable

theorem untorn_span {inner : List Char} (hinner : inner <:+ trim text) :
    Untorn (fun found => found.2 <:+ inner) (span text inner) := by
  unfold span
  split
  · exact .unreadable
  · rename_i mark afterMark hmark
    have hlast : mark :: afterMark <:+ inner := hmark ▸ List.dropWhile_suffix _
    have hafter := (List.suffix_cons mark afterMark).trans hlast
    refine (untorn_part hwhole hinner hlast).bind fun name _ => ?_
    split
    · exact .ok hafter
    · exact (untorn_field hwhole (hafter.trans hinner)).bind fun found hfound =>
        .ok (hfound.trans hafter)

/-- **No directive whose parts can all be cut is torn.** -/
theorem untorn_ofChars : Untorn (fun _ => True) (ofChars text) := by
  unfold ofChars
  simp only
  split
  · split
    · exact .ok trivial
    · have hlast := List.dropWhile_suffix (l := trim text) fun c => c ≠ '=' && c ≠ '['
      generalize List.dropWhile _ (trim text) = afterTarget at hlast ⊢
      refine (untorn_part hwhole List.suffix_rfl hlast).bind fun target _ => ?_
      split
      · rename_i inner
        have hinner := (List.suffix_cons '[' inner).trans hlast
        exact (untorn_span hwhole hinner).bind fun found hfound =>
          (untorn_suffix hwhole (hfound.trans hinner)).bind fun _ _ => .ok trivial
      · exact (untorn_suffix hwhole hlast).bind fun _ _ => .ok trivial
  · exact .unreadable

end Whole
end Directive

namespace Filter

/-- Of the directives of a wish none stands after white space, or its characters take one byte
each. -/
def Plain (wish : Option String) : Prop :=
  ∀ text ∈ wish, ∀ directive ∈ Text.fields ',' text.toList,
    (∀ c ∈ directive.head?, Text.isWhiteSpace c = false) ∨ ∀ c ∈ directive, c.utf8Size = 1

/-! ## What a filter decides on -/

/-- **A filter decides on an event by how much it matters and where it comes from.** -/
theorem allows_congr (filter : Filter) {event event' : Event} (hlevel : event.level = event'.level)
    (hsource : event.source = event'.source) : filter.allows event = filter.allows event' := by
  have hcovers : ∀ directive : Directive, directive.covers event = directive.covers event' := by
    intro directive
    rw [Directive.covers, Directive.covers, hsource]
  have hbetter : better event = better event' := by
    funext sofar directive
    simp only [better, hcovers]
  have hshows : (fun directive : Directive => directive.shows event) = (·.shows event') := by
    funext directive
    simp only [Directive.shows, hlevel]
  rw [allows, allows, decisive?, decisive?, hbetter, hshows]

end Filter

/-- A wish has a filter, which decides on an event by how much it matters and where it comes from
alone. -/
def Decides (wish : Option String) : Prop :=
  ∃ filter, Filter.ofWish wish = some filter ∧ ∀ {event event' : Event},
    event.level = event'.level → event.source = event'.source →
      filter.allows event = filter.allows event'

theorem decides_iff {wish : Option String} :
    Decides wish ↔ ∃ filter, Filter.ofWish wish = some filter :=
  ⟨fun ⟨filter, h, _⟩ => ⟨filter, h⟩, fun ⟨filter, h⟩ => ⟨filter, h, filter.allows_congr⟩⟩

/-- Without a filter that decides there is none. -/
theorem ofWish_eq_none {wish : Option String} (h : ¬ Decides wish) :
    Filter.ofWish wish = none :=
  Option.eq_none_iff_forall_ne_some.2 fun filter hfilter => h (decides_iff.2 ⟨filter, hfilter⟩)

/-- **A plain wish has a filter.** -/
theorem Filter.Plain.decides {wish : Option String} (h : Filter.Plain wish) : Decides wish := by
  cases wish with
  | none => exact decides_iff.2 ⟨_, rfl⟩
  | some text =>
    have hread : Untorn (fun _ => True) (Filter.read text) := by
      unfold Filter.read
      split
      · exact .ok trivial
      · refine untorn_mapM fun directive hdirective => Directive.untorn_ofChars ?_
        obtain hhead | hsmall := h text rfl directive (List.mem_filter.1 hdirective).1
        · exact Directive.whole_of_head hhead
        · exact Directive.whole_of_forall hsmall
    rw [decides_iff, Filter.ofWish]
    generalize Filter.read text = found at hread ⊢
    cases hread with
    | unreadable => exact ⟨_, rfl⟩
    | ok _ => exact ⟨_, rfl⟩

/-- Not every wish is plain: after the blank, the end of the target is looked for a byte too early,
within its letter. -/
example : Filter.ofWish (some " é=info") = none := by decide

end Log
end CheatCode
