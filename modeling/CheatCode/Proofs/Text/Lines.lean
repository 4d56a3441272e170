/-
# How a text is cut

Into lines: `Text.CutInto` says by its four rules which rows of characters are the lines of a text,
without an order of reading, and the lines that are cut are the only ones that it allows
(`Text.cutInto_iff`).  Rows that hold no line feed and do not end in a carriage return, joined by
line feeds, are cut into themselves again, with one more line feed at the end or without it
(`Text.lines_intercalate`, `Text.lines_intercalate_append`).  Whatever follows a text goes to its
last row, if that has not been ended, and leaves the others as they are
(`Text.exists_open_row`).  A carriage return put before each line feed is not seen in the lines
(`Text.lines_returnFeeds`).

Into fields: a text without the separator is one field (`Text.fields_of_not_mem`), and the first
separator ends the first field (`Text.fields_append_cons`).  The fields are one more than the
separators (`Text.length_fields`), hold none themselves, and joined by them they are the text again
(`Text.intercalate_fields`).
-/

import CheatCode.Text.Lines

namespace CheatCode
namespace Text

/-! ## Lines -/

/-- Some rows of characters are the lines of a text. -/
inductive CutInto : List Char → List (List Char) → Prop
  /-- Nothing follows the last line feed. -/
  | nil : CutInto [] []
  /-- What follows the last line feed is a line as it is. -/
  | last {line : List Char} (hne : line ≠ []) (hfeed : '\n' ∉ line) : CutInto line [line]
  /-- A line feed ends a line. -/
  | feed {line rest : List Char} {lines : List (List Char)} (hfeed : '\n' ∉ line)
      (hreturn : line.getLast? ≠ some '\r') (hrest : CutInto rest lines) :
      CutInto (line ++ '\n' :: rest) (line :: lines)
  /-- One carriage return directly before a line feed ends the line with it. -/
  | returnFeed {line rest : List Char} {lines : List (List Char)} (hfeed : '\n' ∉ line)
      (hrest : CutInto rest lines) :
      CutInto (line ++ '\r' :: '\n' :: rest) (line :: lines)

/-- A character that ends no line goes to the front of the first line. -/
theorem lines_cons {c : Char} {cs : List Char} (hfeed : c ≠ '\n')
    (hreturn : c = '\r' → cs.head? ≠ some '\n') :
    lines (c :: cs) = match lines cs with
      | [] => [[c]]
      | line :: rest => (c :: line) :: rest := by
  have hcs : ∀ rest, c = '\r' → cs = '\n' :: rest → False := by
    rintro rest hc rfl
    exact hreturn hc rfl
  refine (lines.eq_4 c cs hfeed hcs).trans ?_
  cases lines cs <;> rfl

theorem lines_of_not_mem {cs : List Char} (hne : cs ≠ []) (hfeed : '\n' ∉ cs) :
    lines cs = [cs] := by
  induction cs with
  | nil => exact absurd rfl hne
  | cons c cs ih =>
    obtain ⟨hc, hcs⟩ := not_or.1 (mt List.mem_cons.2 hfeed)
    rw [lines_cons (Ne.symm hc) fun _ h => hcs (List.mem_of_mem_head? h)]
    cases cs with
    | nil => rfl
    | cons d ds => rw [ih (List.cons_ne_nil _ _) hcs]

theorem lines_append_feed {line : List Char} (rest : List Char) (hfeed : '\n' ∉ line)
    (hreturn : line.getLast? ≠ some '\r') :
    lines (line ++ '\n' :: rest) = line :: lines rest := by
  induction line with
  | nil => rw [List.nil_append, lines]
  | cons c line ih =>
    obtain ⟨hc, hline⟩ := not_or.1 (mt List.mem_cons.2 hfeed)
    cases line with
    | nil =>
      have hc' : c ≠ '\r' := fun h => hreturn (by rw [h]; rfl)
      rw [List.singleton_append, lines_cons (Ne.symm hc) fun h => absurd h hc', lines]
    | cons d ds =>
      have hd : d ≠ '\n' := fun h => hline (by rw [h]; exact List.mem_cons_self ..)
      rw [List.cons_append, lines_cons (Ne.symm hc) fun _ h => hd (by simpa using h),
        ih hline (by simpa using hreturn)]

theorem lines_append_returnFeed {line : List Char} (rest : List Char) (hfeed : '\n' ∉ line) :
    lines (line ++ '\r' :: '\n' :: rest) = line :: lines rest := by
  induction line with
  | nil => rw [List.nil_append, lines]
  | cons c line ih =>
    obtain ⟨hc, hline⟩ := not_or.1 (mt List.mem_cons.2 hfeed)
    have hhead : (line ++ '\r' :: '\n' :: rest).head? ≠ some '\n' := by
      cases line with
      | nil => simp
      | cons d ds => exact fun h => hline (Option.some.inj h ▸ List.mem_cons_self ..)
    rw [List.cons_append, lines_cons (Ne.symm hc) fun _ => hhead, ih hline]

/-- The lines of a text are rows that it may be cut into. -/
theorem cutInto_lines (cs : List Char) : CutInto cs (lines cs) := by
  induction hlength : cs.length using Nat.strongRecOn generalizing cs with
  | ind n ih =>
    by_cases hfeed : '\n' ∈ cs
    · obtain ⟨line, rest, rfl, hline⟩ := List.eq_append_cons_of_mem hfeed
      have hrest : CutInto rest (lines rest) := by
        refine ih rest.length ?_ rest rfl
        rw [← hlength, List.length_append, List.length_cons]
        omega
      by_cases hreturn : line.getLast? = some '\r'
      · obtain ⟨line, rfl⟩ := List.getLast?_eq_some_iff.1 hreturn
        have hline' : '\n' ∉ line := fun h => hline (List.mem_append_left _ h)
        rw [List.append_assoc, List.singleton_append, lines_append_returnFeed rest hline']
        exact .returnFeed hline' hrest
      · rw [lines_append_feed rest hline hreturn]
        exact .feed hline hreturn hrest
    · by_cases hne : cs = []
      · subst hne
        exact .nil
      · rw [lines_of_not_mem hne hfeed]
        exact .last hne hfeed

/-- **The lines that are cut are the only ones that the rules allow.** -/
theorem cutInto_iff {cs : List Char} {ls : List (List Char)} : CutInto cs ls ↔ lines cs = ls := by
  constructor
  · intro h
    induction h with
    | nil => rfl
    | last hne hfeed => exact lines_of_not_mem hne hfeed
    | feed hfeed hreturn _ ih => rw [lines_append_feed _ hfeed hreturn, ih]
    | returnFeed hfeed _ ih => rw [lines_append_returnFeed _ hfeed, ih]
  · rintro rfl
    exact cutInto_lines cs

/-- **Rows joined by line feeds are cut into themselves**, if none holds a line feed or ends in a
carriage return and the last is not empty. -/
theorem lines_intercalate {ls : List (List Char)}
    (h : ∀ l ∈ ls, '\n' ∉ l ∧ l.getLast? ≠ some '\r') (hlast : ls.getLast? ≠ some []) :
    lines (List.intercalate ['\n'] ls) = ls := by
  induction ls with
  | nil => rfl
  | cons l ls ih =>
    obtain ⟨⟨hfeed, hreturn⟩, hls⟩ := List.forall_mem_cons.1 h
    cases ls with
    | nil =>
      rw [List.intercalate_singleton]
      exact lines_of_not_mem (fun hnil => hlast (by rw [hnil]; rfl)) hfeed
    | cons l' ls =>
      rw [List.intercalate_cons_cons, List.append_assoc, List.singleton_append,
        lines_append_feed _ hfeed hreturn, ih hls (by simpa using hlast)]

/-- **One more line feed at the end of such a text makes no difference**; with it the last row may
be empty too. -/
theorem lines_intercalate_append {ls : List (List Char)} (hne : ls ≠ [])
    (h : ∀ l ∈ ls, '\n' ∉ l ∧ l.getLast? ≠ some '\r') :
    lines (List.intercalate ['\n'] ls ++ ['\n']) = ls := by
  induction ls with
  | nil => exact absurd rfl hne
  | cons l ls ih =>
    obtain ⟨⟨hfeed, hreturn⟩, hls⟩ := List.forall_mem_cons.1 h
    cases ls with
    | nil =>
      rw [List.intercalate_singleton, lines_append_feed [] hfeed hreturn, lines]
    | cons l' ls =>
      rw [List.intercalate_cons_cons, List.append_assoc, List.append_assoc, List.singleton_append,
        lines_append_feed _ hfeed hreturn, ih (List.cons_ne_nil _ _) hls]

/-- Joined rows end as the last one does, if that is not empty. -/
theorem getLast?_intercalate {ls : List (List Char)} {last : List Char}
    (hlast : ls.getLast? = some last) (hne : last ≠ []) :
    (List.intercalate ['\n'] ls).getLast? = last.getLast? := by
  induction ls with
  | nil => cases hlast
  | cons l ls ih =>
    cases ls with
    | nil =>
      obtain rfl : l = last := Option.some.inj hlast
      rw [List.intercalate_singleton]
    | cons l' ls =>
      obtain ⟨c, hc⟩ := Option.isSome_iff_exists.1 (List.getLast?_isSome.2 hne)
      rw [List.intercalate_cons_cons, List.getLast?_append, ih (by simpa using hlast), hc,
        Option.some_or]

/-- **A text is some rows that are ended and one that is open.**  The open row is what follows the
last line feed, and it may be empty; what comes after the text is cut together with this row
alone. -/
theorem exists_open_row (cs : List Char) :
    ∃ ended row, '\n' ∉ row ∧ row <:+ cs ∧
      ∀ rest, lines (cs ++ rest) = ended ++ lines (row ++ rest) := by
  have hcut := cutInto_lines cs
  generalize lines cs = rows at hcut
  induction hcut with
  | nil => exact ⟨[], [], List.not_mem_nil, List.suffix_rfl, fun _ => rfl⟩
  | last _ hfeed => exact ⟨[], _, hfeed, List.suffix_rfl, fun _ => rfl⟩
  | @feed line rest _ hfeed hreturn _ ih =>
    obtain ⟨ended, row, hrow, hsuffix, hlines⟩ := ih
    refine ⟨line :: ended, row, hrow, ?_, fun more => ?_⟩
    · exact hsuffix.trans ((List.suffix_cons _ _).trans (List.suffix_append _ _))
    · rw [List.append_assoc, List.cons_append, lines_append_feed _ hfeed hreturn, hlines,
        List.cons_append]
  | @returnFeed line rest _ hfeed _ ih =>
    obtain ⟨ended, row, hrow, hsuffix, hlines⟩ := ih
    refine ⟨line :: ended, row, hrow, ?_, fun more => ?_⟩
    · exact hsuffix.trans
        ((List.suffix_append ['\r', '\n'] rest).trans (List.suffix_append _ _))
    · rw [List.append_assoc, List.cons_append, List.cons_append, lines_append_returnFeed _ hfeed,
        hlines, List.cons_append]

/-- A text with a carriage return put before each of its line feeds. -/
def returnFeeds (cs : List Char) : List Char :=
  cs.flatMap fun c => if c = '\n' then ['\r', '\n'] else [c]

theorem returnFeeds_of_not_mem {cs : List Char} (h : '\n' ∉ cs) : returnFeeds cs = cs := by
  induction cs with
  | nil => rfl
  | cons c cs ih =>
    obtain ⟨hc, hcs⟩ := not_or.1 (mt List.mem_cons.2 h)
    rw [returnFeeds, List.flatMap_cons, ← returnFeeds, ih hcs, if_neg (Ne.symm hc),
      List.singleton_append]

theorem returnFeeds_append_feed {line : List Char} (rest : List Char) (h : '\n' ∉ line) :
    returnFeeds (line ++ '\n' :: rest) = line ++ '\r' :: '\n' :: returnFeeds rest := by
  have hline := returnFeeds_of_not_mem h
  rw [returnFeeds] at hline
  rw [returnFeeds, List.flatMap_append, hline, List.flatMap_cons, ← returnFeeds]
  rfl

/-- **Carriage returns before the line feeds are not seen in the lines** of a text that has no
others. -/
theorem lines_returnFeeds {cs : List Char} (h : '\r' ∉ cs) :
    lines (returnFeeds cs) = lines cs := by
  have hcut := cutInto_lines cs
  generalize lines cs = rows at hcut ⊢
  induction hcut with
  | nil => rfl
  | last hne hfeed => rw [returnFeeds_of_not_mem hfeed, lines_of_not_mem hne hfeed]
  | @feed line rest _ hfeed _ _ ih =>
    have hrest : '\r' ∉ rest := fun hmem =>
      h (List.mem_append_right _ (List.mem_cons_of_mem _ hmem))
    rw [returnFeeds_append_feed _ hfeed, lines_append_returnFeed _ hfeed, ih hrest]
  | returnFeed => exact absurd (List.mem_append_right _ (List.mem_cons_self ..)) h

/-! ## Fields -/

theorem fields_ne_nil (separator : Char) (cs : List Char) : fields separator cs ≠ [] := by
  cases cs with
  | nil => exact List.cons_ne_nil _ _
  | cons c cs =>
    rw [fields]
    split
    · exact List.cons_ne_nil _ _
    · split <;> exact List.cons_ne_nil _ _

theorem fields_of_not_mem {separator : Char} {cs : List Char} (h : separator ∉ cs) :
    fields separator cs = [cs] := by
  induction cs with
  | nil => rfl
  | cons c cs ih =>
    obtain ⟨hc, hcs⟩ := not_or.1 (mt List.mem_cons.2 h)
    rw [fields, if_neg (Ne.symm hc), ih hcs]

theorem fields_append_cons {separator : Char} {field : List Char} (rest : List Char)
    (h : separator ∉ field) :
    fields separator (field ++ separator :: rest) = field :: fields separator rest := by
  induction field with
  | nil => rw [List.nil_append, fields, if_pos rfl]
  | cons c cs ih =>
    obtain ⟨hc, hcs⟩ := not_or.1 (mt List.mem_cons.2 h)
    rw [List.cons_append, fields, if_neg (Ne.symm hc), ih hcs]

/-- There is one field more than there are separators. -/
theorem length_fields (separator : Char) (cs : List Char) :
    (fields separator cs).length = cs.count separator + 1 := by
  induction cs with
  | nil => rfl
  | cons c cs ih =>
    by_cases h : c = separator
    · rw [fields, if_pos h, List.length_cons, ih, h, List.count_cons_self]
    · obtain ⟨field, rest, hfields⟩ := List.exists_cons_of_ne_nil (fields_ne_nil separator cs)
      rw [List.count_cons_of_ne h, ← ih, fields, if_neg h, hfields, List.length_cons,
        List.length_cons]

/-- No field holds a separator. -/
theorem not_mem_of_mem_fields {separator : Char} {cs field : List Char}
    (h : field ∈ fields separator cs) : separator ∉ field := by
  induction cs generalizing field with
  | nil =>
    rw [List.mem_singleton.1 h]
    exact List.not_mem_nil
  | cons c cs ih =>
    by_cases hc : c = separator
    · rw [fields, if_pos hc] at h
      rcases List.mem_cons.1 h with rfl | h
      · exact List.not_mem_nil
      · exact ih h
    · obtain ⟨first, rest, hfields⟩ := List.exists_cons_of_ne_nil (fields_ne_nil separator cs)
      rw [fields, if_neg hc, hfields] at h
      rw [hfields] at ih
      rcases List.mem_cons.1 h with rfl | h
      · exact List.not_mem_cons_of_ne_of_not_mem (Ne.symm hc) (ih (List.mem_cons_self ..))
      · exact ih (List.mem_cons_of_mem _ h)

/-- **The fields joined by the separator are the text.** -/
theorem intercalate_fields (separator : Char) (cs : List Char) :
    List.intercalate [separator] (fields separator cs) = cs := by
  induction cs with
  | nil => rfl
  | cons c cs ih =>
    obtain ⟨first, rest, hfields⟩ := List.exists_cons_of_ne_nil (fields_ne_nil separator cs)
    rw [hfields] at ih
    by_cases hc : c = separator
    · rw [fields, if_pos hc, hfields, List.intercalate_cons_cons, ih, hc, List.nil_append,
        List.singleton_append]
    · rw [fields, if_neg hc, hfields]
      cases rest with
      | nil => rw [List.intercalate_singleton] at ih ⊢; rw [ih]
      | cons next rest =>
        rw [List.intercalate_cons_cons] at ih ⊢
        rw [← ih, List.cons_append, List.cons_append]

/-- The last field of a text is empty only if the text is or ends in a separator. -/
theorem getLast?_fields_ne_nil {separator : Char} {cs : List Char} (hne : cs ≠ [])
    (hlast : cs.getLast? ≠ some separator) : (fields separator cs).getLast? ≠ some [] := by
  induction cs with
  | nil => exact absurd rfl hne
  | cons c cs ih =>
    cases cs with
    | nil =>
      have hc : c ≠ separator := fun h => hlast (by rw [h]; rfl)
      simp [fields, hc]
    | cons d ds =>
      have ih := ih (List.cons_ne_nil _ _) (by simpa using hlast)
      obtain ⟨field, rest, hfields⟩ :=
        List.exists_cons_of_ne_nil (fields_ne_nil separator (d :: ds))
      rw [hfields] at ih
      rw [fields, hfields]
      split
      · simpa using ih
      · cases rest with
        | nil => simp
        | cons next rest => simpa using ih

end Text
end CheatCode
