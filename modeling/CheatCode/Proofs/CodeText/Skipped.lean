/-
# What the report of a skipped line tells

The report of a line that is no code quotes the line (`Text.quote`).  So the report stays on one
line of the log whatever the text holds, it ends where its second bare quote stands, and the line
can be read back from it.  A line can neither look like the report of another one nor like more
reports than one (`CodeText.skipped_tells_line`).
-/

import CheatCode.Proofs.CodeText.Grammar
import CheatCode.Proofs.Text.Quoted

namespace CheatCode
namespace CodeText

theorem message_skipped (line : List Char) :
    (Event.skipped line).message =
      "skipped: \"" ++ String.ofList (line.flatMap Text.escape) ++ "\"" := by
  refine String.toList_injective ?_
  simp only [Event.message, Text.quote, String.toList_append, String.toList_ofList]
  rfl

theorem isVisible_message (line : List Char) :
    ∀ c ∈ (Event.skipped line).message.toList, Text.isVisible c = true := by
  intro c hc
  simp only [message_skipped, String.toList_append, String.toList_ofList, List.mem_append] at hc
  rcases hc with (hc | hc) | hc
  · exact Text.isVisible_of_all (by decide) hc
  · exact Text.isVisible_escape line c hc
  · obtain rfl : c = '"' := List.mem_singleton.1 hc
    exact Text.isVisible_of_ascii (by decide) (by decide)

/-- The escapes between the quotes tell the line. -/
theorem message_skipped_injective {line other : List Char}
    (h : (Event.skipped line).message = (Event.skipped other).message) : line = other := by
  have hlist := congrArg String.toList h
  simp only [message_skipped, String.toList_append, String.toList_ofList] at hlist
  have hbody := List.append_cancel_left (List.append_cancel_right hlist)
  have hread := Text.unescape_escape line
  rw [hbody, Text.unescape_escape] at hread
  exact (Option.some.inj hread).symm

/-- **The report of a skipped line cannot be mistaken.**  Every event of reading a text is the
report of one of its skipped lines.  Its message is the line between two quotes, each character as
it is or by its escape, and inside the quotes every other quote is escaped.  No character of the
message ends a line, and the message is shown as it is.  The escapes undone give the line back, so
another line has another message. -/
theorem skipped_tells_line (text : String) :
    ∀ event ∈ (read text).events, ∃ line ∈ skipped text, ∃ body,
      event = .skipped line ∧ event.message = "skipped: \"" ++ String.ofList body ++ "\"" ∧
        body = line.flatMap Text.escape ∧ Text.Guarded body ∧
        (∀ c ∈ event.message.toList, c ∉ Text.lineBreaks) ∧ event.shown = event.message ∧
        Text.unescape body = some line ∧
        ∀ other, (Event.skipped other).message = event.message → other = line := by
  intro event hevent
  rw [events_read] at hevent
  obtain ⟨line, hline, rfl⟩ := List.mem_map.1 hevent
  refine ⟨line, hline, _, rfl, message_skipped line, rfl, Text.guarded_escape line,
    fun c hc => Text.not_mem_lineBreaks (isVisible_message line c hc), ?_,
    Text.unescape_escape line, fun other => message_skipped_injective⟩
  rw [Event.shown, Text.tame_of_isVisible (isVisible_message line), String.ofList_toList]

/-- A line that closes the quotes, goes back to the front of the row, and looks like an escape. -/
theorem closedQuotes_told :
    Event.skipped "\"\r\\u\x7b41\x7d\u0301".toList ∈
        (read "\"\r\\u\x7b41\x7d\u0301\r\n").events ∧
      (Event.skipped "\"\r\\u\x7b41\x7d\u0301".toList).shown =
        "skipped: \"\\\"\\r\\\\u\x7b41\x7d\\u\x7b301\x7d\"" := by
  have hevent : Event.skipped "\"\r\\u\x7b41\x7d\u0301".toList ∈
      (read "\"\r\\u\x7b41\x7d\u0301\r\n").events := by
    rw [events_read]
    decide
  obtain ⟨_, -, _, -, -, -, -, -, hshown, -, -⟩ := skipped_tells_line _ _ hevent
  refine ⟨hevent, hshown.trans ?_⟩
  decide +kernel

end CodeText
end CheatCode
