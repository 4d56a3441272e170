/-
# What a run leaves alone

A run reads its code text and its image before it does anything else, so a fault there leaves the
machine as it was.  What comes next moves the clock and reports events; of the disk it touches the
log's own file at most (`Log.entered_lived`), and every path leads where it led before.  The one
writing comes last.  Whether it can be done is thus settled when the run starts, and it touches one
file (`Machine.attempt_run_atomic`).

| code text | image | output path | the run | files that change |
| --- | --- | --- | --- | --- |
| unreadable | | | fails on the code text | none |
| read | unreadable | | fails on the image | none |
| read | read | cannot be opened | fails on the output | none |
| read | read | can be opened | ends well | the output |

A log that keeps its events in a file puts them there as well, from the third line on.
-/

import CheatCode.Proofs.Machine.Alike
import CheatCode.Proofs.Program.OnMachine

namespace CheatCode

namespace Log

/-- Where a log keeps its events, if it has a file and the path of it leads to a location. -/
def location? (log : Log) (disk : Disk) : Option Location :=
  log.file.bind fun path => (disk.slot path).toOption

/-- A disk has become another one by entries in a log. -/
structure Entered (log : Log) (before after : Disk) : Prop where
  tree : before.SameTree after
  same : before.SameBut (fun location => log.location? before = some location) after

variable {log : Log} {a b c : Disk}

theorem Entered.refl (log : Log) (disk : Disk) : log.Entered disk disk := ⟨.refl _, .refl _ _⟩

/-- A log keeps its events at the same location all the time. -/
theorem Entered.location?_eq (h : log.Entered a b) : log.location? b = log.location? a := by
  simp only [location?, h.tree.slot_eq]

theorem Entered.trans (hab : log.Entered a b) (hbc : log.Entered b c) : log.Entered a c :=
  ⟨hab.tree.trans hbc.tree, hab.same.trans (hbc.same.mono fun h => hab.location?_eq ▸ h)⟩

/-- Entries in a log leave the disk as it was but for the log's own file. -/
theorem Entered.alikeBut {excepted : Location → Prop} (h : log.Entered a b)
    (hlog : ∀ location, log.location? a = some location → excepted location) :
    a.AlikeBut excepted b :=
  ⟨h.tree, h.same.mono fun {location} => hlog location⟩

/-- To take note of an event is an entry in the log at most. -/
theorem entered_noted (log : Log) (machine : Machine) (event : Event) :
    log.Entered machine.disk (machine.noted log event).disk := by
  obtain ⟨filter, file⟩ := log
  cases file with
  | none => exact .refl _ _
  | some path =>
    by_cases hkeeps : Log.keeps ⟨filter, some path⟩ event = true
    · have hdisk : (machine.noted ⟨filter, some path⟩ event).disk =
          machine.disk.append path event := by
        simp only [Machine.noted, if_pos hkeeps]
      rw [hdisk]
      refine ⟨machine.disk.sameTree_append path event,
        (machine.disk.sameBut_append path event).mono fun hslot => ?_⟩
      rw [location?, Option.bind_some, hslot]
      rfl
    · rw [Machine.disk_noted_of_not_keeps (by simpa using hkeeps)]
      exact .refl _ _

/-- **What is lived through leaves nothing on a disk but entries in the log.** -/
theorem entered_lived (log : Log) (machine : Machine) (moments : List Moment) :
    log.Entered machine.disk (moments.foldl (Machine.lived log) machine).disk := by
  induction moments generalizing machine with
  | nil => exact .refl _ _
  | cons moment moments ih =>
    refine Entered.trans ?_ (ih (machine.lived log moment))
    cases moment with
    | event event => exact entered_noted log machine event
    | pause milliseconds => exact .refl _ _

end Log

namespace Machine

variable {machine : Machine} {code : String} {image : File}

/-- **Whether the writing of a run can be done is settled when the run starts**, if its code text
and its image can be read: what is lived through before the writing does not move the output. -/
theorem attempt_run_of_read (log : Log) (format : Format) (encrypted : Bool) {plan : Plan}
    (hcode : machine.disk.readText plan.codeFile = .ok code)
    (himage : machine.disk.read plan.memoryImage = .ok image) :
    let applied := plan.apply format encrypted code image.bytes.data
    ∃ driven : Machine, log.Entered machine.disk driven.disk ∧
      machine.attempt (Program.run log format encrypted plan) =
        match machine.disk.slot plan.output with
        | .error cause => (.error (.unwritable plan.output cause), driven)
        | .ok location =>
          let disk := driven.disk.put location { bytes := ⟨applied.value.2⟩ }
          (.ok (), noted log { driven with disk } (.saved plan.output)) := by
  intro applied
  have hentered := Log.entered_lived log machine applied.trace.toList
  refine ⟨_, hentered, ?_⟩
  have hslot := hentered.tree.slot_eq plan.output
  rw [attempt_run, hcode]
  simp only [himage]
  cases hplace : machine.disk.slot plan.output with
  | error cause => rw [Disk.write, hslot, hplace]; rfl
  | ok location => rw [Disk.write, hslot, hplace]; rfl

/-- **A run fails before it has done anything, or by its writing, and writes one file.**  The
settings are loaded first, which leaves the machine as it was.  A code text or an image that cannot
be read is what the run fails on, the code text if it is both, and then nothing has happened: no
file, no output, no report and no time.  If both can be read, the run fails exactly if the output
path lets no file be written, and then no file has changed.  If it lets one be written, the run ends
well, this file has been replaced by what its cycles leave, and no other one has changed, by
whatever path it is read.  The file of the log is excepted, if the log has one. -/
theorem attempt_run_atomic (machine : Machine) (log : Log) (line : CommandLine)
    (request : RunRequest) :
    let settings := machine.disk.settings line.config
    let format := line.chosenFormat settings
    let plan := request.plan settings
    let ended := machine.attempt (Program.run log format line.encrypted plan)
    let logged := fun location => log.location? machine.disk = some location
    machine.run (Program.loadSettings line.config) = (settings, machine) ∧
      (∀ cause, machine.disk.readText plan.codeFile = .error cause →
        ended = (.error (.unreadable plan.codeFile cause), machine)) ∧
      (∀ code cause, machine.disk.readText plan.codeFile = .ok code →
        machine.disk.read plan.memoryImage = .error cause →
        ended = (.error (.unreadable plan.memoryImage cause), machine)) ∧
      ∀ code image, machine.disk.readText plan.codeFile = .ok code →
        machine.disk.read plan.memoryImage = .ok image →
        let bytes := (plan.apply format line.encrypted code image.bytes.data).value.2
        (∀ cause, machine.disk.slot plan.output = .error cause →
          ended.1 = .error (.unwritable plan.output cause) ∧
            machine.disk.SameBut logged ended.2.disk) ∧
        ∀ location, machine.disk.slot plan.output = .ok location →
          ended.1 = .ok () ∧ ended.2.disk.fileAt? location = some { bytes := ⟨bytes⟩ } ∧
            machine.disk.SameBut (fun other => other = location ∨ logged other) ended.2.disk ∧
            ∀ path other, machine.disk.Leads path other → other ≠ location → ¬ logged other →
              ended.2.disk.read path = machine.disk.read path := by
  intro settings format plan ended logged
  refine ⟨machine.run_loadSettings line.config, fun cause hcode => ?_,
    fun code cause hcode himage => ?_, fun code image hcode himage => ?_⟩
  · have hended : ended = _ := machine.attempt_run log format line.encrypted plan
    rw [hended, hcode]
  · have hended : ended = _ := machine.attempt_run log format line.encrypted plan
    rw [hended, hcode]
    simp only [himage]
  · -- up to the writing there have been entries in the log at most
    intro bytes
    obtain ⟨driven, hentered, hended⟩ :=
      attempt_run_of_read log format line.encrypted hcode himage
    refine ⟨fun cause hslot => ?_, fun location hslot => ?_⟩
    · rw [hslot] at hended
      have hfail : ended = (.error (.unwritable plan.output cause), driven) := hended
      rw [hfail]
      exact ⟨rfl, hentered.same⟩
    · rw [hslot] at hended
      have hresult : ended.1 = .ok () := congrArg Prod.fst hended
      have hdisk : ended.2.disk = driven.disk.put location { bytes := ⟨bytes⟩ } :=
        (congrArg (fun result => result.2.disk) hended).trans
          (disk_noted_of_not_keeps (log.keeps_saved plan.output) _)
      have hsame : machine.disk.SameBut (fun other => other = location ∨ logged other)
          ended.2.disk := by
        rw [hdisk]
        exact (hentered.same.mono .inr).trans ((driven.disk.sameBut_put location _).mono .inl)
      refine ⟨hresult, ?_, hsame, fun path other hleads hlocation hlog => ?_⟩
      · rw [hdisk, Disk.fileAt?_put_self]
      · exact hsame.read hleads fun hexcepted => hexcepted.elim hlocation hlog

end Machine
end CheatCode
