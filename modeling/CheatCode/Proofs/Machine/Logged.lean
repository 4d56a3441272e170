/-
# What a log writes down, and what it cannot change

A log puts the events that its filter allows on the channel for reports, and those of them that it
keeps into its file.  While a machine lives through a trace, its log file gets just the warnings
among the lines that are put on the channel, in their order (`Machine.Keeps`); one moment keeps this
up (`Machine.Keeps.lived`), and so does a file that is written elsewhere.

Two logs with one file may have different filters.  What they leave is the same to anyone who looks
neither at that file nor at the events on the channel (`Machine.AlikeBut`), moment by moment
(`Machine.AlikeBut.lived`) and so in the end (`Machine.AlikeBut.lived_all`).
-/

import CheatCode.Proofs.Machine.Alike
import CheatCode.Proofs.Program.Atomicity
import CheatCode.Proofs.Program.Reports

namespace CheatCode

namespace Line

/-- The event of a line that is one. -/
def event? : Line → Option Event
  | .event e => some e
  | .text _ => none

/-- The text of a line that is no event. -/
def text? : Line → Option String
  | .event _ => none
  | .text t => some t

/-- The warnings among some lines. -/
def warnings (lines : List Line) : List Event :=
  (lines.filterMap event?).filter fun event => event.level = .warn

theorem warnings_append (lines more : List Line) :
    warnings (lines ++ more) = warnings lines ++ warnings more := by
  rw [warnings, List.filterMap_append, List.filter_append]
  rfl

end Line

/-- Nothing matters more than a warning. -/
theorem Event.warn_le_level_iff (event : Event) :
    Level.warn.weight ≤ event.level.weight ↔ event.level = .warn := by
  cases event <;> simp [level, Level.weight]

/-- **A log keeps the warnings among the events that it shows.** -/
theorem Log.warnings_shown (log : Log) (event : Event) :
    Line.warnings (([event].filter log.filter.allows).map .event) = [event].filter log.keeps := by
  have hkeeps : log.keeps event =
      (log.filter.allows event && decide (event.level = .warn)) := by
    rw [keeps, Bool.eq_iff_iff, Bool.and_eq_true, Bool.and_eq_true, decide_eq_true_iff,
      decide_eq_true_iff, event.warn_le_level_iff]
  cases hallows : log.filter.allows event with
  | false => simp [hkeeps, hallows, Line.warnings]
  | true =>
    by_cases hwarn : event.level = .warn <;>
      simp [hkeeps, hallows, hwarn, Line.warnings, Line.event?]

namespace Machine

/-! ## The file of the log -/

/-- A machine keeps a log in the file at a location, where a path leads.  It held `file` when the
log was opened, and has got the warnings among the lines that have been reported since, which are
those after `start`. -/
structure Keeps (path : String) (location : Location) (file : File) (start : List Line)
    (machine : Machine) : Prop where
  slot : machine.disk.slot path = .ok location
  entries : ∃ shown, machine.reports.toList = start ++ shown ∧
    machine.disk.fileAt? location = some { file with events := file.events ++ Line.warnings shown }

namespace Keeps

variable {path : String} {location : Location} {file : File} {start : List Line}
  {machine : Machine}

/-- An event that is noted goes to both places or to one. -/
theorem noted (h : machine.Keeps path location file start) {log : Log}
    (hfile : log.file = some path) (event : Event) :
    (machine.noted log event).Keeps path location file start := by
  obtain ⟨shown, hreports, hentries⟩ := h.entries
  have hdisk : (machine.noted log event).disk =
      if log.keeps event then machine.disk.append path event else machine.disk := by
    rw [Machine.noted, hfile]
  refine ⟨?_, shown ++ ([event].filter log.filter.allows).map .event, ?_, ?_⟩
  · rw [(log.entered_noted machine event).tree.slot_eq]
    exact h.slot
  · rw [reports_noted, hreports, List.append_assoc]
  · rw [Line.warnings_append, log.warnings_shown, hdisk]
    cases hkeeps : log.keeps event with
    | false => simp [hkeeps, hentries]
    | true =>
      simp only [if_true, Disk.append, h.slot, hentries, Disk.fileAt?_put_self]
      simp [hkeeps]

/-- **A moment adds to the log file just what it adds to the warnings reported.** -/
theorem lived (h : machine.Keeps path location file start) {log : Log}
    (hfile : log.file = some path) (moment : Moment) :
    (machine.lived log moment).Keeps path location file start := by
  cases moment with
  | event event => exact h.noted hfile event
  | pause milliseconds => exact ⟨h.slot, h.entries⟩

/-- So does a whole trace. -/
theorem lived_all (h : machine.Keeps path location file start) {log : Log}
    (hfile : log.file = some path) (moments : List Moment) :
    (moments.foldl (Machine.lived log) machine).Keeps path location file start := by
  induction moments generalizing machine with
  | nil => exact h
  | cons moment moments ih => exact ih (h.lived hfile moment)

/-- A file put at another location is no entry. -/
theorem put (h : machine.Keeps path location file start) {other : Location} (hne : other ≠ location)
    (content : File) :
    Keeps path location file start { machine with disk := machine.disk.put other content } := by
  obtain ⟨shown, hreports, hentries⟩ := h.entries
  have hdir := fun location => machine.disk.isDirectory_put other location content
  have hhere := machine.disk.here_put other content
  refine ⟨Disk.slot_congr hhere hdir h.slot, shown, hreports, ?_⟩
  rw [← hentries]
  exact Disk.fileAt?_put_of_ne _ content hne.symm

/-- Lines of text are no warnings. -/
theorem told_all (h : machine.Keeps path location file start) (texts : List String) :
    (texts.foldl told machine).Keeps path location file start := by
  induction texts generalizing machine with
  | nil => exact h
  | cons text texts ih =>
    obtain ⟨shown, hreports, hentries⟩ := h.entries
    refine ih ⟨h.slot, shown ++ [.text text], ?_, ?_⟩
    · rw [told, Array.toList_push, hreports, List.append_assoc]
    · rw [Line.warnings_append, show Line.warnings [.text text] = [] from rfl, List.append_nil]
      exact hentries

end Keeps

/-! ## Everything else -/

/-- Two machines are alike but for the files at some locations and the events reported. -/
structure AlikeBut (excepted : Location → Prop) (a b : Machine) : Prop where
  disk : a.disk.AlikeBut excepted b.disk
  output : b.output = a.output
  texts : b.reports.toList.filterMap Line.text? = a.reports.toList.filterMap Line.text?
  clock : b.clock = a.clock

namespace AlikeBut

variable {excepted : Location → Prop} {a b : Machine}

theorem refl (excepted : Location → Prop) (machine : Machine) : AlikeBut excepted machine machine :=
  ⟨.refl _ _, rfl, rfl, rfl⟩

theorem mono {more : Location → Prop} (h : a.AlikeBut excepted b)
    (hmore : ∀ {location}, excepted location → more location) : a.AlikeBut more b :=
  ⟨⟨h.disk.tree, h.disk.same.mono hmore⟩, h.output, h.texts, h.clock⟩

/-- One file put on both keeps two machines alike. -/
theorem put (h : a.AlikeBut excepted b) (location : Location) (content : File) :
    AlikeBut excepted { a with disk := a.disk.put location content }
      { b with disk := b.disk.put location content } :=
  ⟨h.disk.put location fun _ => rfl, h.output, h.texts, h.clock⟩

/-- To note an event, whoever looks on, changes the disk alone. -/
theorem noted (h : a.AlikeBut excepted b) {log log' : Log} (event : Event)
    (hdisk : (a.noted log event).disk.AlikeBut excepted (b.noted log' event).disk) :
    (a.noted log event).AlikeBut excepted (b.noted log' event) := by
  have htexts : ∀ (log : Log) (machine : Machine),
      (machine.noted log event).reports.toList.filterMap Line.text? =
        machine.reports.toList.filterMap Line.text? := by
    intro log machine
    have hevents : ∀ events : List Event, (events.map Line.event).filterMap Line.text? = [] :=
      fun events => by simp [List.filterMap_map, Function.comp_def, Line.text?]
    rw [reports_noted, List.filterMap_append, hevents, List.append_nil]
  exact ⟨hdisk, h.output, (htexts log' b).trans (h.texts.trans (htexts log a).symm), h.clock⟩

/-- **A moment leaves two machines alike** whose logs have one file, where an exception is made for
that file. -/
theorem lived (h : a.AlikeBut excepted b) {log log' : Log} (hfile : log'.file = log.file)
    (hlog : ∀ location, log.location? a.disk = some location → excepted location)
    (moment : Moment) : (a.lived log moment).AlikeBut excepted (b.lived log' moment) := by
  cases moment with
  | pause milliseconds => exact ⟨h.disk, h.output, h.texts, congrArg (· + milliseconds) h.clock⟩
  | event event =>
    have hlog' : ∀ location, log'.location? b.disk = some location → excepted location := by
      intro location hlocation
      refine hlog location ?_
      rw [← hlocation]
      simp only [Log.location?, hfile, h.disk.tree.slot_eq]
    have ha := (log.entered_noted a event).alikeBut hlog
    have hb := (log'.entered_noted b event).alikeBut hlog'
    exact h.noted event (ha.symm.trans (h.disk.trans hb))

/-- So does a whole trace. -/
theorem lived_all (h : a.AlikeBut excepted b) {log log' : Log} (hfile : log'.file = log.file)
    (hlog : ∀ location, log.location? a.disk = some location → excepted location)
    (moments : List Moment) :
    (moments.foldl (Machine.lived log) a).AlikeBut excepted
      (moments.foldl (Machine.lived log') b) := by
  induction moments generalizing a b with
  | nil => exact h
  | cons moment moments ih =>
    refine ih (h.lived hfile hlog moment) fun location hlocation => hlog location ?_
    rwa [← (log.entered_lived a [moment]).location?_eq]

theorem told_all (h : a.AlikeBut excepted b) (texts : List String) :
    (texts.foldl told a).AlikeBut excepted (texts.foldl told b) := by
  induction texts generalizing a b with
  | nil => exact h
  | cons text texts ih =>
    refine ih ⟨h.disk, h.output, ?_, h.clock⟩
    simp only [told, Array.toList_push, List.filterMap_append, h.texts]

end AlikeBut

end Machine
end CheatCode
