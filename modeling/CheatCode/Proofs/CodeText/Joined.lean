/-
# Texts one after the other

A text joined to another by a line end is read as the one and then the other
(`CodeText.read_joined`).

| between the texts | the codes of both, if |
| --- | --- |
| `\r\n` | always |
| `\n` | the first text does not end in `\r` |

A carriage return at the end of the first text is a character of its last line as long as no line
feed comes after it; with the line feed it belongs to the end of the line.  Nothing else tells the
joined text from the two: it may have an empty line between them that neither has, but this is no
code.
-/

import CheatCode.Proofs.CodeText.Grammar

namespace CheatCode
namespace CodeText

/-- A row is a code or not, whether it is a line of its own or an empty rest that is none. -/
theorem filter_isCode_lines {row : List Char} (h : '\n' ∉ row) :
    (Text.lines row).filter Poke.isCode = [row].filter Poke.isCode := by
  by_cases hne : row = []
  · rw [hne]
    rfl
  · rw [Text.lines_of_not_mem hne h]

/-- **What ends the open row of a text joins it to another one.** -/
theorem pokes_join {a ending b : String}
    (hends : ∀ row, '\n' ∉ row → row <:+ a.toList →
      Text.lines (row ++ (ending.toList ++ b.toList)) = row :: Text.lines b.toList) :
    pokes (a ++ ending ++ b) = pokes a ++ pokes b := by
  obtain ⟨ended, row, hrow, hsuffix, hlines⟩ := Text.exists_open_row a.toList
  have hfirst : Text.lines a.toList = ended ++ Text.lines row := by
    simpa only [List.append_nil] using hlines []
  have hboth : Text.lines (a ++ ending ++ b).toList = ended ++ ([row] ++ Text.lines b.toList) := by
    rw [String.toList_append, String.toList_append, List.append_assoc, hlines,
      hends row hrow hsuffix, List.singleton_append]
  simp only [pokes, hfirst, hboth, List.filter_append, List.map_append, filter_isCode_lines hrow,
    List.append_assoc]

theorem pokes_append_returnFeed (a b : String) :
    pokes (a ++ "\r\n" ++ b) = pokes a ++ pokes b :=
  pokes_join fun _ hrow _ => Text.lines_append_returnFeed _ hrow

theorem pokes_append_feed {a : String} (b : String) (h : a.toList.getLast? ≠ some '\r') :
    pokes (a ++ "\n" ++ b) = pokes a ++ pokes b := by
  refine pokes_join fun row hrow hsuffix => Text.lines_append_feed _ hrow fun hlast => h ?_
  obtain ⟨front, hfront⟩ := hsuffix
  rw [← hfront, List.getLast?_append, hlast, Option.some_or]

/-- The text with a carriage return put before each of its line feeds. -/
def withReturns (text : String) : String := String.ofList (Text.returnFeeds text.toList)

/-- **Joined texts are read one after the other.**  With `\r\n` between them this is so for any two
texts, and with `\n` for any two of which the first does not end in a carriage return.  So the two
ends of a line do not differ: a text without carriage returns is read the same, its reports
included, if one is put before each line feed. -/
theorem read_joined (a b : String) :
    (read (a ++ "\r\n" ++ b)).value = (read a).value ++ (read b).value ∧
      (a.toList.getLast? ≠ some '\r' →
        (read (a ++ "\n" ++ b)).value = (read a).value ++ (read b).value) ∧
      ('\r' ∉ a.toList → read (withReturns a) = read a) := by
  refine ⟨pokes_append_returnFeed a b, pokes_append_feed b, fun hreturn => ?_⟩
  have hlines : Text.lines (withReturns a).toList = Text.lines a.toList := by
    rw [withReturns, String.toList_ofList, Text.lines_returnFeeds hreturn]
  simp only [read, pokes, skipped, hlines]

/-- A text with a line that is no code and an empty one, before a text in lower case. -/
theorem threeCodes_joined :
    let codes := [⟨0x7E0020, 0xFF⟩, ⟨0x7E0021, 0x01⟩, ⟨0x7E0022, 0x0A⟩]
    (read ("7E0020 FF\nbad\n\n7E0021 01" ++ "\n" ++ "7e0022 0a")).value = codes ∧
      read (withReturns "7E0020 FF\nbad\n\n7E0021 01") = read "7E0020 FF\nbad\n\n7E0021 01" := by
  obtain ⟨-, hfeed, hreturns⟩ := read_joined "7E0020 FF\nbad\n\n7E0021 01" "7e0022 0a"
  exact ⟨(hfeed (by decide)).trans (by decide), hreturns (by decide)⟩

/-- After a carriage return the line feed alone makes a code of a line that is none. -/
example : (read "000000 01\r").value = [] ∧ (read "000000 01\r\n").value = [⟨0, 1⟩] := by
  decide

end CodeText
end CheatCode
