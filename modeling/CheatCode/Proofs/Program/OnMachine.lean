/-
# The program on a machine of values

What the parts of the program do to a machine, each said by one equation: living through a trace
(`Machine.attempt_relay`), a run of codes over an image (`Machine.attempt_run`), and a command line
carried out (`Machine.run_carryOut`).

A run reads its two files before anything else, and a fault there leaves the machine as it was.
Then the trace of its cycles is lived through, and the only file that it writes comes last.
-/

import CheatCode.Machine
import CheatCode.Program
import CheatCode.Proofs.Machine.Disk

namespace CheatCode

/-- The text that a path leads to. -/
def Disk.readText (disk : Disk) (path : String) : Except FileError String := do
  match String.fromUTF8? (← disk.read path).bytes with
  | some text => .ok text
  | none => .error .notText

/-- The settings in the file at a path; one that cannot be read sets none. -/
def Disk.settings (disk : Disk) (path : String) : Settings :=
  match disk.read path with
  | .ok file => Settings.ofBytes file.bytes
  | .error _ => {}

/-- The disk with the log file that the settings ask for made sure of. -/
def Settings.openLog (settings : Settings) (disk : Disk) : Except FileError Disk :=
  match settings.logDir with
  | some directory => disk.ensure (Log.pathIn directory)
  | none => .ok disk

/-- Opening a log only adds to a disk. -/
theorem Settings.extends_openLog {settings : Settings} {disk opened : Disk}
    (h : settings.openLog disk = .ok opened) : disk.Extends opened := by
  unfold openLog at h
  split at h
  · exact Disk.extends_ensure h
  · cases h
    exact .refl _

/-- The log does not keep what a run reports last. -/
theorem Log.keeps_saved (log : Log) (path : String) : log.keeps (.saved path) = false := by
  simp [Log.keeps, Event.level, Level.weight]

namespace Machine

/-- The machine after an event is noted in a log. -/
def noted (log : Log) (machine : Machine) (event : Event) : Machine where
  disk := match log.file with
    | some path => if log.keeps event then machine.disk.append path event else machine.disk
    | none => machine.disk
  output := machine.output
  reports :=
    if log.filter.allows event then machine.reports.push (.event event) else machine.reports
  clock := machine.clock

/-- The machine after a moment is lived through. -/
def lived (log : Log) (machine : Machine) : Moment → Machine
  | .event event => machine.noted log event
  | .pause milliseconds => { machine with clock := machine.clock + milliseconds }

/-- The machine after a line of text is reported. -/
def told (machine : Machine) (text : String) : Machine :=
  { machine with reports := machine.reports.push (.text text) }

theorem disk_foldl_told (machine : Machine) (texts : List String) :
    (texts.foldl told machine).disk = machine.disk := by
  induction texts generalizing machine with
  | nil => rfl
  | cons text texts ih => rw [List.foldl_cons, ih]; rfl

/-- An event that the log does not keep leaves the disk as it is. -/
theorem disk_noted_of_not_keeps {log : Log} {event : Event} (h : log.keeps event = false)
    (machine : Machine) : (machine.noted log event).disk = machine.disk := by
  simp only [noted, h, Bool.false_eq_true, if_false]
  split <;> rfl

/-! ## Programs that may fail -/

section

variable {ε : Type}

/-- Runs a program that may fail. -/
def attempt {α : Type} (machine : Machine) (program : ExceptT ε (StateM Machine) α) :
    Except ε α × Machine :=
  machine.run program.run

theorem attempt_bind {α β : Type} (machine : Machine) (x : ExceptT ε (StateM Machine) α)
    (f : α → ExceptT ε (StateM Machine) β) :
    machine.attempt (x >>= f) =
      match machine.attempt x with
      | (.ok a, next) => next.attempt (f a)
      | (.error e, next) => (.error e, next) := by
  simp only [attempt, run, ExceptT.run_bind, StateT.run_bind]
  rcases StateT.run x.run machine with ⟨_ | a, next⟩ <;> rfl

theorem attempt_note (machine : Machine) (log : Log) (event : Event) :
    machine.attempt (log.note event : ExceptT ε (StateM Machine) Unit) =
      (.ok (), machine.noted log event) := by
  obtain ⟨filter, file⟩ := log
  by_cases hallows : filter.allows event
  · cases file with
    | none => simp only [Log.note, noted, hallows]; rfl
    | some path =>
      by_cases hkeeps : Log.keeps ⟨filter, some path⟩ event <;>
        simp only [Log.note, noted, hallows, hkeeps] <;> rfl
  · cases file with
    | none => simp only [Log.note, noted, hallows]; rfl
    | some path =>
      by_cases hkeeps : Log.keeps ⟨filter, some path⟩ event <;>
        simp only [Log.note, noted, hallows, hkeeps] <;> rfl

theorem attempt_play (machine : Machine) (log : Log) (moment : Moment) :
    machine.attempt (log.play moment : ExceptT ε (StateM Machine) Unit) =
      (.ok (), machine.lived log moment) := by
  cases moment with
  | event event => exact machine.attempt_note log event
  | pause milliseconds => rfl

/-- **Making a traced value lives through its trace, moment by moment.** -/
theorem attempt_relay {α : Type} (machine : Machine) (log : Log) (x : Traced α) :
    machine.attempt (log.relay x : ExceptT ε (StateM Machine) α) =
      (.ok x.value, x.trace.toList.foldl (lived log) machine) := by
  have hforM : ∀ (moments : List Moment) (machine : Machine),
      machine.attempt (moments.forM log.play : ExceptT ε (StateM Machine) PUnit) =
        (.ok (), moments.foldl (lived log) machine) := by
    intro moments
    induction moments with
    | nil => intro machine; rfl
    | cons moment moments ih =>
      intro machine
      rw [List.forM, attempt_bind, attempt_play]
      exact ih _
  rw [Log.relay, attempt_bind, hforM]
  rfl

theorem attempt_readFile (machine : Machine) (path : String) :
    machine.attempt (Host.readFile path : ExceptT ε (StateM Machine) (Except FileError ByteArray)) =
      (.ok ((machine.disk.read path).map File.bytes), machine) := rfl

theorem attempt_writeFile (machine : Machine) (path : String) (content : ByteArray) :
    machine.attempt
        (Host.writeFile path content : ExceptT ε (StateM Machine) (Except FileError Unit)) =
      match machine.disk.write path content with
      | .ok disk => (.ok (.ok ()), { machine with disk })
      | .error e => (.ok (.error e), machine) := by
  simp only [attempt, run, Host.writeFile, ExceptT.run_lift]
  rw [StateT.run_map, StateT.run, change]
  cases machine.disk.write path content <;> rfl

end

/-! ## The files of a run -/

theorem attempt_readBytes (machine : Machine) (path : String) :
    machine.attempt (Program.readBytes path) =
      match machine.disk.read path with
      | .ok file => (.ok file.bytes, machine)
      | .error e => (.error (.unreadable path e), machine) := by
  rw [Program.readBytes, attempt_bind, attempt_readFile]
  cases machine.disk.read path <;> rfl

theorem attempt_readText (machine : Machine) (path : String) :
    machine.attempt (Program.readText path) =
      match machine.disk.readText path with
      | .ok text => (.ok text, machine)
      | .error e => (.error (.unreadable path e), machine) := by
  rw [Program.readText, attempt_bind, attempt_readBytes, Disk.readText]
  cases machine.disk.read path with
  | error e => rfl
  | ok file =>
    simp only [bind, Except.bind]
    cases String.fromUTF8? file.bytes <;> rfl

theorem attempt_writeBytes (machine : Machine) (path : String) (content : ByteArray) :
    machine.attempt (Program.writeBytes path content) =
      match machine.disk.write path content with
      | .ok disk => (.ok (), { machine with disk })
      | .error e => (.error (.unwritable path e), machine) := by
  rw [Program.writeBytes, attempt_bind, attempt_writeFile]
  cases machine.disk.write path content <;> rfl

/-- **A run, from its two readings to its one writing.** -/
theorem attempt_run (machine : Machine) (log : Log) (format : Format) (encrypted : Bool)
    (plan : Plan) :
    machine.attempt (Program.run log format encrypted plan) =
      match machine.disk.readText plan.codeFile with
      | .error e => (.error (.unreadable plan.codeFile e), machine)
      | .ok code =>
        match machine.disk.read plan.memoryImage with
        | .error e => (.error (.unreadable plan.memoryImage e), machine)
        | .ok image =>
          let applied := plan.apply format encrypted code image.bytes.data
          let driven := applied.trace.toList.foldl (lived log) machine
          match driven.disk.write plan.output ⟨applied.value.2⟩ with
          | .error e => (.error (.unwritable plan.output e), driven)
          | .ok disk => (.ok (), noted log { driven with disk } (.saved plan.output)) := by
  rw [Program.run, attempt_bind, attempt_readText]
  cases machine.disk.readText plan.codeFile with
  | error e => rfl
  | ok code =>
    simp only
    rw [attempt_bind, attempt_readBytes]
    cases machine.disk.read plan.memoryImage with
    | error e => rfl
    | ok image =>
      simp only
      rw [attempt_bind, attempt_relay]
      simp only
      rw [attempt_bind, attempt_writeBytes]
      cases Disk.write _ _ _ with
      | error e => rfl
      | ok disk =>
        simp only
        rw [attempt_bind, attempt_note]
        simp only
        -- the engine has been stopped before the write, so disposing of it has no trace
        rw [Plan.value_apply, Engine.dispose, Engine.stop_of_idle rfl, attempt_bind, attempt_relay]
        rfl

/-- A run that goes well has read a text and an image, and has written what its cycles left. -/
theorem attempt_run_ok {machine after : Machine} {log : Log} {format : Format} {encrypted : Bool}
    {plan : Plan} (h : machine.attempt (Program.run log format encrypted plan) = (.ok (), after)) :
    ∃ code image, machine.disk.readText plan.codeFile = .ok code ∧
      machine.disk.read plan.memoryImage = .ok image ∧
      let applied := plan.apply format encrypted code image.bytes.data
      let driven := applied.trace.toList.foldl (lived log) machine
      ∃ disk, driven.disk.write plan.output ⟨applied.value.2⟩ = .ok disk ∧
        after = noted log { driven with disk } (.saved plan.output) := by
  rw [attempt_run] at h
  cases hcode : machine.disk.readText plan.codeFile with
  | error e => simp [hcode] at h
  | ok code =>
    cases himage : machine.disk.read plan.memoryImage with
    | error e => simp [hcode, himage] at h
    | ok image =>
      refine ⟨code, image, rfl, rfl, ?_⟩
      simp only [hcode, himage] at h
      split at h
      · cases h
      · rename_i disk hwrite
        exact ⟨disk, hwrite, (congrArg Prod.snd h).symm⟩

/-! ## The output of an encoding -/

/-- The code text of some patches is printed as a line, and nothing where they have none. -/
theorem attempt_printCodes (machine : Machine) (format : Format) (encrypted : Bool)
    (patches : List Patch) :
    machine.attempt (Program.printCodes format encrypted patches) =
      match Patch.encode patches with
      | .ok text => (.ok (), { machine with output := machine.output ++ text ++ "\n" })
      | .error e => (.error (.unencodable e), machine) := by
  rw [Program.printCodes, Engine.encode_eq]
  cases Patch.encode patches <;> rfl

/-! ## The whole program -/

theorem run_bind {α β : Type} (machine : Machine) (x : StateM Machine α)
    (f : α → StateM Machine β) :
    machine.run (x >>= f) = (machine.run x).2.run (f (machine.run x).1) := rfl

theorem run_loadSettings (machine : Machine) (path : String) :
    machine.run (Program.loadSettings path) = (machine.disk.settings path, machine) := by
  have hread : machine.run (Host.readFile path : StateM Machine (Except FileError ByteArray)) =
      ((machine.disk.read path).map File.bytes, machine) := rfl
  rw [Program.loadSettings, run_bind, hread, Disk.settings]
  cases machine.disk.read path <;> rfl

theorem run_report_all (machine : Machine) (texts : List String) :
    machine.run (texts.forM fun text => Host.report (.text text)) =
      ((), texts.foldl told machine) := by
  induction texts generalizing machine with
  | nil => rfl
  | cons text texts ih =>
    rw [List.forM, run_bind, List.foldl_cons]
    exact ih _

theorem run_openLog (machine : Machine) (path : String) :
    machine.run (Host.openLog path : StateM Machine (Except FileError Unit)) =
      match machine.disk.ensure path with
      | .ok disk => (.ok (), { machine with disk })
      | .error e => (.error e, machine) := by
  simp only [run, Host.openLog]
  rw [StateT.run, change]
  cases machine.disk.ensure path <;> rfl

/-- Carrying out a command and telling how that went. -/
theorem run_perform (machine : Machine) (log : Log) (settings : Settings) (line : CommandLine) :
    (machine.run do
      match ← (Program.perform log settings line).run with
      | .ok () => return Program.Outcome.success
      | .error failure =>
        failure.report.forM fun text => Host.report (.text text)
        return .failure) =
      match machine.attempt (Program.perform log settings line) with
      | (.ok (), next) => (.success, next)
      | (.error failure, next) => (.failure, failure.report.foldl told next) := by
  rw [run_bind, attempt]
  rcases run machine (Program.perform log settings line).run with ⟨failure | _, next⟩
  · simp only
    rw [run_bind, run_report_all]
    rfl
  · rfl

/-- **A command line that has been read**: the log that the settings ask for is opened, and the
command is carried out on the machine that this leaves. -/
theorem run_carryOut (machine : Machine) (filter : Log.Filter) (settings : Settings)
    (line : CommandLine) :
    machine.run (Program.carryOut filter settings line) =
      match settings.openLog machine.disk with
      | .error e => (.noLog, machine.told ("Failed to open the log: " ++ e.message))
      | .ok disk =>
        let log : Log := { filter, file := settings.logDir.map Log.pathIn }
        match { machine with disk }.attempt (Program.perform log settings line) with
        | (.ok (), next) => (.success, next)
        | (.error failure, next) => (.failure, failure.report.foldl told next) := by
  rw [Program.carryOut]
  unfold Settings.openLog
  cases settings.logDir with
  | none =>
    simp only [Option.map_none]
    rw [pure_bind]
    exact machine.run_perform _ _ line
  | some directory =>
    simp only [Option.map_some]
    rw [run_bind, run_openLog]
    cases machine.disk.ensure (Log.pathIn directory) with
    | error e => rfl
    | ok disk => exact run_perform _ _ _ line

/-- A command line is carried out well if the log can be opened and then the command goes well. -/
theorem run_carryOut_eq_success {machine after : Machine} {filter : Log.Filter}
    {settings : Settings} {line : CommandLine}
    (h : machine.run (Program.carryOut filter settings line) = (.success, after)) :
    ∃ disk, settings.openLog machine.disk = .ok disk ∧
      { machine with disk }.attempt
        (Program.perform { filter, file := settings.logDir.map Log.pathIn } settings line) =
          (.ok (), after) := by
  rw [run_carryOut] at h
  cases hopen : settings.openLog machine.disk with
  | error e => simp [hopen] at h
  | ok disk =>
    refine ⟨disk, rfl, ?_⟩
    simp only [hopen] at h
    split at h
    · rename_i next hnext
      obtain rfl : next = after := congrArg Prod.snd h
      exact hnext
    · cases h

/-- **A program whose words can be read** loads the settings and carries out what the words say, if
there is a filter.  If reading the filter breaks off, the program has done nothing and says so. -/
theorem run_execute {words : List String} {line : CommandLine}
    (h : CommandLine.read words = .ok line) (machine : Machine) (wish : Option String) :
    machine.run (Program.execute words wish) =
      match Log.Filter.ofWish wish with
      | some filter =>
        machine.run (Program.carryOut filter (machine.disk.settings line.config) line)
      | none => (.noFilter, machine.told Program.tornFilter) := by
  rw [Program.execute, h]
  simp only
  rw [run_bind, run_loadSettings]
  cases Log.Filter.ofWish wish <;> rfl

/-- With a filter the words are carried out under it. -/
theorem run_execute_of_filter {words : List String} {line : CommandLine} {wish : Option String}
    {filter : Log.Filter} (hread : CommandLine.read words = .ok line)
    (hfilter : Log.Filter.ofWish wish = some filter) (machine : Machine) :
    machine.run (Program.execute words wish) =
      machine.run (Program.carryOut filter (machine.disk.settings line.config) line) := by
  rw [run_execute hread, hfilter]

/-- A program whose words can be read and which ends well has a filter. -/
theorem run_execute_eq_success {machine after : Machine} {words : List String} {line : CommandLine}
    {wish : Option String} (hread : CommandLine.read words = .ok line)
    (h : machine.run (Program.execute words wish) = (.success, after)) :
    ∃ filter, Log.Filter.ofWish wish = some filter ∧
      machine.run (Program.carryOut filter (machine.disk.settings line.config) line) =
        (.success, after) := by
  rw [run_execute hread] at h
  cases hfilter : Log.Filter.ofWish wish with
  | none => simp [hfilter] at h
  | some filter => exact ⟨filter, rfl, by rwa [hfilter] at h⟩

end Machine
end CheatCode
