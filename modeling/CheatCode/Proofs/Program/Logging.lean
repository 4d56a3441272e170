/-
# Logging observes and does not interfere

What a command does can be told without its log: it lives through some moments, may then write a
file and print some lines, and ends in one way (`Course`).  A command has one course for all logs
(`Machine.exists_course`), so the filter that is asked for decides on nothing but what is shown.

| | depends on the filter |
| --- | --- |
| outcome, output, lines of text, clock | no |
| files, but for the log's own | no |
| events reported | yes |
| entries in the log file | yes: the warnings among the events reported |

The bytes and entries that the log file had stay before the new ones, unless the command writes this
very file (`Machine.logging_observes`).

A wish on which reading breaks off has no filter (`Log.Decides`).  The program then ends before its
log is open, having said so and done nothing else.
-/

import CheatCode.Proofs.Log.Reading
import CheatCode.Proofs.Machine.Logged
import CheatCode.Proofs.Program.Output

namespace CheatCode

/-- The writing of a file: where it is, what it holds, and the path by which it is asked for. -/
structure Writing where
  location : Location
  content : ByteArray
  path : String

/-- What a command does, told without a log: what it lives through, what it then writes and prints,
and how it ends. -/
structure Course where
  moments : List Moment := []
  writing : Option Writing := none
  printed : List String := []
  result : Except Failure Unit := .ok ()

namespace Course

/-- The machine that a course leaves under a log, but for what is printed. -/
def left (course : Course) (log : Log) (machine : Machine) : Machine :=
  let driven := course.moments.foldl (Machine.lived log) machine
  match course.writing with
  | none => driven
  | some writing =>
    let disk := driven.disk.put writing.location { bytes := writing.content }
    Machine.noted log { driven with disk } (.saved writing.path)

/-- A course is followed under a log. -/
def follow (course : Course) (log : Log) (machine : Machine) : Except Failure Unit × Machine :=
  let left := course.left log machine
  (course.result, { left with
    output := course.printed.foldl (fun output text => output ++ text ++ "\n") left.output })

/-- How a program ends that takes a course. -/
def outcome (course : Course) : Program.Outcome :=
  match course.result with
  | .ok () => .success
  | .error _ => .failure

/-- What is told of a failure. -/
def report (course : Course) : List String :=
  match course.result with
  | .ok () => []
  | .error failure => failure.report

/-- A course is followed under a log, and a failure is told. -/
def ended (course : Course) (log : Log) (machine : Machine) : Program.Outcome × Machine :=
  (course.outcome, course.report.foldl Machine.told (course.follow log machine).2)

variable {machine : Machine} {log : Log}

/-- **A course keeps the log file**, if it writes another one or none. -/
theorem keeps_ended (course : Course) {path : String} {location : Location} {file : File}
    {start : List Line} (h : machine.Keeps path location file start) (hfile : log.file = some path)
    (hother : ∀ writing, course.writing = some writing → writing.location ≠ location) :
    (course.ended log machine).2.Keeps path location file start := by
  have hdriven := h.lived_all hfile course.moments
  have hleft : (course.left log machine).Keeps path location file start := by
    unfold left
    cases hwriting : course.writing with
    | none => exact hdriven
    | some writing => exact (hdriven.put (hother writing hwriting) _).noted hfile _
  have hfollow : (course.follow log machine).2.Keeps path location file start :=
    ⟨hleft.slot, hleft.entries⟩
  exact hfollow.told_all course.report

/-- **A course leaves the same under two filters**, but for the log file and the events reported. -/
theorem alike_ended (course : Course) (machine : Machine) (file : Option String)
    (filter filter' : Log.Filter) :
    (course.ended { filter, file } machine).2.AlikeBut
      (fun location => Log.location? { filter, file } machine.disk = some location)
      (course.ended { filter := filter', file } machine).2 := by
  let log : Log := { filter, file }
  let log' : Log := { filter := filter', file }
  let logged := fun location => log.location? machine.disk = some location
  have hfile : log'.file = log.file := rfl
  have hdriven := (Machine.AlikeBut.refl logged machine).lived_all hfile
    (fun _ hlocation => hlocation) course.moments
  have hleft : (course.left log machine).AlikeBut logged (course.left log' machine) := by
    unfold left
    cases course.writing with
    | none => exact hdriven
    | some writing =>
      have hput := hdriven.put writing.location { bytes := writing.content }
      refine hput.noted _ ?_
      -- no log keeps what is said of the saving
      rw [Machine.disk_noted_of_not_keeps (log.keeps_saved _),
        Machine.disk_noted_of_not_keeps (log'.keeps_saved _)]
      exact hput.disk
  have hfollow : (course.follow log machine).2.AlikeBut logged (course.follow log' machine).2 := by
    refine ⟨hleft.disk, ?_, hleft.texts, hleft.clock⟩
    rw [follow, follow, hleft.output]
  exact hfollow.told_all course.report

/-- A course touches the log file and the file that it writes, and no other. -/
theorem sameBut_ended (course : Course) (log : Log) (machine : Machine) :
    machine.disk.SameBut (fun location => log.location? machine.disk = some location ∨
      ∃ writing, course.writing = some writing ∧ location = writing.location)
      (course.ended log machine).2.disk := by
  have hdriven := (log.entered_lived machine course.moments).same
  rw [ended, Machine.disk_foldl_told]
  show Disk.SameBut _ _ (course.left log machine).disk
  unfold left
  cases course.writing with
  | none => exact hdriven.mono .inl
  | some writing =>
    simp only [Machine.disk_noted_of_not_keeps (log.keeps_saved _)]
    exact (hdriven.mono .inl).trans
      ((Disk.sameBut_put _ writing.location _).mono fun heq => .inr ⟨writing, rfl, heq⟩)

end Course

namespace Machine

/-! ## Commands -/

theorem attempt_printAddress (machine : Machine) (log : Log) (format : Format) (encrypted : Bool)
    (path : String) :
    machine.attempt (Program.printAddress log format encrypted path) =
      match machine.disk.readText path with
      | .error e => (.error (.unreadable path e), machine)
      | .ok code =>
        let asked := Engine.address { format } code encrypted
        let driven := asked.trace.toList.foldl (lived log) machine
        let printed := String.ofList (Numeral.hex 6 asked.value.toNat)
        (.ok (), { driven with output := driven.output ++ printed ++ "\n" }) := by
  rw [Program.printAddress, attempt_bind, attempt_readText]
  cases machine.disk.readText path with
  | error e => rfl
  | ok code =>
    simp only
    rw [attempt_bind, attempt_relay]
    rfl

theorem attempt_print_all (machine : Machine) (texts : List String) :
    machine.attempt
        (texts.forM fun text => Host.print text : ExceptT Failure (StateM Machine) PUnit) =
      (.ok (), { machine with
        output := texts.foldl (fun output text => output ++ text ++ "\n") machine.output }) := by
  induction texts generalizing machine with
  | nil => rfl
  | cons text texts ih =>
    rw [List.forM, attempt_bind]
    exact ih _

/-- The course of a run. -/
theorem exists_course_run (machine : Machine) (format : Format) (encrypted : Bool) (plan : Plan) :
    ∃ course : Course,
      (∀ log, machine.attempt (Program.run log format encrypted plan) = course.follow log machine) ∧
      ∀ writing, course.writing = some writing →
        machine.disk.slot plan.output = .ok writing.location := by
  cases hcode : machine.disk.readText plan.codeFile with
  | error e =>
    refine ⟨{ result := .error (.unreadable plan.codeFile e) }, fun log => ?_, nofun⟩
    rw [attempt_run, hcode]
    rfl
  | ok code =>
    cases himage : machine.disk.read plan.memoryImage with
    | error e =>
      refine ⟨{ result := .error (.unreadable plan.memoryImage e) }, fun log => ?_, nofun⟩
      rw [attempt_run, hcode]
      simp only [himage]
      rfl
    | ok image =>
      have hrun := fun log : Log => machine.attempt_run log format encrypted plan
      simp only [hcode, himage] at hrun
      -- what the cycles are does not matter from here on
      generalize plan.apply format encrypted code image.bytes.data = applied at hrun
      have hslot : ∀ log : Log,
          (applied.trace.toList.foldl (lived log) machine).disk.slot plan.output =
            machine.disk.slot plan.output := fun log =>
        (log.entered_lived machine applied.trace.toList).tree.slot_eq plan.output
      cases hplace : machine.disk.slot plan.output with
      | error e =>
        refine ⟨{ moments := applied.trace.toList, result := .error (.unwritable plan.output e) },
          fun log => ?_, nofun⟩
        rw [hrun, Disk.write, hslot, hplace]
        rfl
      | ok location =>
        let writing : Writing := ⟨location, ⟨applied.value.2⟩, plan.output⟩
        refine ⟨{ moments := applied.trace.toList, writing := some writing }, fun log => ?_, ?_⟩
        · rw [hrun, Disk.write, hslot, hplace]
          rfl
        · rintro _ ⟨⟩
          rfl

/-- **A command has one course for all logs**, and the only file that it writes is the output of a
run. -/
theorem exists_course (machine : Machine) (settings : Settings) (line : CommandLine) :
    ∃ course : Course,
      (∀ log, machine.attempt (Program.perform log settings line) = course.follow log machine) ∧
      ∀ writing, course.writing = some writing → ∃ request, line.command = .run request ∧
        machine.disk.slot (request.plan settings).output = .ok writing.location := by
  unfold Program.perform
  cases line.command with
  | run request =>
    obtain ⟨course, hcourse, hwriting⟩ := machine.exists_course_run (line.chosenFormat settings)
      line.encrypted (request.plan settings)
    exact ⟨course, hcourse, fun writing h => ⟨request, rfl, hwriting writing h⟩⟩
  | address path =>
    simp only [attempt_printAddress]
    cases machine.disk.readText path with
    | error e => exact ⟨{ result := .error (.unreadable path e) }, fun _ => rfl, nofun⟩
    | ok code =>
      let asked := Engine.address { format := line.chosenFormat settings } code line.encrypted
      let printed := [String.ofList (Numeral.hex 6 asked.value.toNat)]
      exact ⟨{ moments := asked.trace.toList, printed }, fun _ => rfl, nofun⟩
  | encode patches =>
    simp only [attempt_printCodes]
    cases Patch.encode patches with
    | error e => exact ⟨{ result := .error (.unencodable e) }, fun _ => rfl, nofun⟩
    | ok text => exact ⟨{ printed := [text] }, fun _ => rfl, nofun⟩
  | info =>
    simp only [attempt_print_all]
    let printed := Program.infoLines (Engine.info { format := line.chosenFormat settings })
    exact ⟨{ printed }, fun _ => rfl, nofun⟩

/-- So has a command line, once the log is open. -/
theorem exists_course_carryOut {machine : Machine} {settings : Settings} {opened : Disk}
    (hopen : settings.openLog machine.disk = .ok opened) (line : CommandLine) :
    ∃ course : Course,
      (∀ filter, machine.run (Program.carryOut filter settings line) =
        course.ended { filter, file := settings.logDir.map Log.pathIn }
          { machine with disk := opened }) ∧
      ∀ writing, course.writing = some writing → ∃ request, line.command = .run request ∧
        opened.slot (request.plan settings).output = .ok writing.location := by
  obtain ⟨course, hcourse, hwriting⟩ :=
    exists_course { machine with disk := opened } settings line
  refine ⟨course, fun filter => ?_, hwriting⟩
  rw [run_carryOut]
  simp only [hopen, hcourse]
  rw [Course.ended, Course.outcome, Course.report, Course.follow]
  cases course.result with
  | ok done => rfl
  | error failure => rfl

/-! ## The program -/

/-- Words that cannot be read have something printed at most, whatever is wished for. -/
theorem run_execute_of_error {words : List String} {fault : Arguments.Fault}
    (h : CommandLine.read words = .error fault) (machine : Machine) :
    ∃ outcome output, ∀ wish,
      machine.run (Program.execute words wish) = (outcome, { machine with output }) := by
  cases fault with
  | help => exact ⟨.success, machine.output, fun wish => by rw [Program.execute, h]; rfl⟩
  | version =>
    exact ⟨.success, machine.output ++ Program.banner ++ "\n",
      fun wish => by rw [Program.execute, h]; rfl⟩
  | _ => exact ⟨.misuse, machine.output, fun wish => by rw [Program.execute, h]; rfl⟩

/-- **What the log file gets**: it has been there with some content, and it ends with this content
and the warnings among the lines reported.  The output of a run may take its place. -/
theorem execute_logged {machine : Machine} {words : List String} {line : CommandLine}
    (hread : CommandLine.read words = .ok line) {wish : Option String} {filter : Log.Filter}
    (hfilter : Log.Filter.ofWish wish = some filter) {directory : String}
    {opened : Disk} (hdirectory : (machine.disk.settings line.config).logDir = some directory)
    (hopened : machine.disk.ensure (Log.pathIn directory) = .ok opened) :
    let path := Log.pathIn directory
    let ended := machine.run (Program.execute words wish)
    ∃ location, opened.Leads path location ∧
      let old := (machine.disk.fileAt? location).getD {}
      (∀ file, machine.disk.read path = .ok file → file = old) ∧
        ((∀ request, line.command = .run request →
            opened.slot (request.plan (machine.disk.settings line.config)).output ≠ .ok location) →
          ∃ shown, ended.2.reports.toList = machine.reports.toList ++ shown ∧
            ended.2.disk.read path =
              .ok { old with events := old.events ++ Line.warnings shown }) := by
  intro path ended
  obtain ⟨location, hslot, hfile⟩ := Disk.exists_slot_ensure hopened
  have hleads := Disk.leads_of_slot hslot
  refine ⟨location, hleads, fun file hfound => ?_, fun hother => ?_⟩
  · have hstill := (Disk.extends_ensure hopened).read hfound
    rw [hleads.read hfile, Except.ok.injEq] at hstill
    exact hstill.symm
  · have hopen : (machine.disk.settings line.config).openLog machine.disk = .ok opened := by
      rw [Settings.openLog, hdirectory]
      exact hopened
    obtain ⟨course, hcourse, hwriting⟩ := exists_course_carryOut hopen line
    have hended : ended = _ := (run_execute_of_filter hread hfilter machine).trans (hcourse filter)
    have hkept : ended.2.Keeps path location ((machine.disk.fileAt? location).getD {})
        machine.reports.toList := by
      rw [hended]
      refine course.keeps_ended ⟨hslot, [], (List.append_nil _).symm, ?_⟩ ?_ ?_
      · rw [show Line.warnings [] = [] from rfl, List.append_nil]
        exact hfile
      · rw [hdirectory]
        rfl
      · intro writing hsome heq
        obtain ⟨request, hrun, hplace⟩ := hwriting writing hsome
        exact hother request hrun (heq ▸ hplace)
    obtain ⟨shown, hreports, hentries⟩ := hkept.entries
    exact ⟨shown, hreports, (Disk.leads_of_slot hkept.slot).read hentries⟩

/-- **Without a directory for it no log file is made**, nor anything but the output of a run. -/
theorem execute_unlogged {machine : Machine} {words : List String} {line : CommandLine}
    (hread : CommandLine.read words = .ok line) {wish : Option String} {filter : Log.Filter}
    (hfilter : Log.Filter.ofWish wish = some filter)
    (hdirectory : (machine.disk.settings line.config).logDir = none) :
    machine.disk.SameBut (fun location => ∃ request, line.command = .run request ∧
        machine.disk.slot (request.plan (machine.disk.settings line.config)).output = .ok location)
      (machine.run (Program.execute words wish)).2.disk := by
  have hopen : (machine.disk.settings line.config).openLog machine.disk = .ok machine.disk := by
    rw [Settings.openLog, hdirectory]
  obtain ⟨course, hcourse, hwriting⟩ := exists_course_carryOut hopen line
  rw [run_execute_of_filter hread hfilter, hcourse, hdirectory]
  refine (course.sameBut_ended _ machine).mono fun {location} htouched => ?_
  obtain hlog | ⟨writing, hsome, rfl⟩ := htouched
  · cases hlog
  · exact hwriting writing hsome

/-- The location of the log file, if the words are read, the settings name a directory for it, and
the file can be made sure of there. -/
def LogsAt (machine : Machine) (words : List String) (location : Location) : Prop :=
  ∃ line directory opened, CommandLine.read words = .ok line ∧
    (machine.disk.settings line.config).logDir = some directory ∧
    machine.disk.ensure (Log.pathIn directory) = .ok opened ∧
    opened.slot (Log.pathIn directory) = .ok location

/-- A log that is open keeps its events where the words have it. -/
theorem logsAt_of_location? {machine : Machine} {words : List String} {line : CommandLine}
    {opened : Disk} {filter : Log.Filter} {location : Location}
    (hread : CommandLine.read words = .ok line)
    (hopen : (machine.disk.settings line.config).openLog machine.disk = .ok opened)
    (hlocation : Log.location?
      { filter, file := (machine.disk.settings line.config).logDir.map Log.pathIn } opened =
        some location) : machine.LogsAt words location := by
  cases hdirectory : (machine.disk.settings line.config).logDir with
  | none =>
    rw [hdirectory] at hlocation
    cases hlocation
  | some directory =>
    simp only [Settings.openLog, hdirectory] at hopen
    refine ⟨line, directory, opened, hread, hdirectory, hopen, ?_⟩
    rw [hdirectory] at hlocation
    simp only [Log.location?, Option.map_some, Option.bind_some] at hlocation
    cases hslot : opened.slot (Log.pathIn directory) with
    | error e =>
      rw [hslot] at hlocation
      cases hlocation
    | ok place =>
      rw [hslot] at hlocation
      cases hlocation
      rfl

/-- **Two wishes that have a filter end in the same way**, and leave the same but for the log file
and the events reported. -/
theorem execute_alike (machine : Machine) {words : List String} {wish wish' : Option String}
    (hdecide : ∀ line, CommandLine.read words = .ok line →
      Log.Decides wish ∧ Log.Decides wish') :
    let ended := machine.run (Program.execute words wish)
    let ended' := machine.run (Program.execute words wish')
    ended'.1 = ended.1 ∧ ended.2.AlikeBut (machine.LogsAt words) ended'.2 := by
  intro ended ended'
  cases hread : CommandLine.read words with
  | error fault =>
    obtain ⟨outcome, output, hended⟩ := run_execute_of_error hread machine
    rw [show ended = _ from hended wish, show ended' = _ from hended wish']
    exact ⟨rfl, .refl _ _⟩
  | ok line =>
    obtain ⟨⟨filter, hfilter, -⟩, ⟨filter', hfilter', -⟩⟩ := hdecide line hread
    have hended : ended = _ := run_execute_of_filter hread hfilter machine
    have hended' : ended' = _ := run_execute_of_filter hread hfilter' machine
    cases hopen : (machine.disk.settings line.config).openLog machine.disk with
    | error e =>
      simp only [run_carryOut, hopen] at hended hended'
      rw [hended, hended']
      exact ⟨rfl, .refl _ _⟩
    | ok opened =>
      obtain ⟨course, hcourse, -⟩ := exists_course_carryOut hopen line
      rw [hcourse] at hended hended'
      rw [hended, hended']
      exact ⟨rfl, (course.alike_ended _ _ _ _).mono fun {location} hlocation =>
        logsAt_of_location? hread hopen hlocation⟩

/-- **Logging observes and does not interfere**, under any filter that decides on each event by how
much it matters and where it comes from alone.  For any words that can be read:

* If the settings name a directory for the log and the file can be made sure of there, what this
  file holds afterwards is what it held before and then the warnings among the lines reported, in
  their order, unless the output of the run is written where it lies.  If it cannot be made sure of,
  nothing is done but to say so.
* If they name none, no file and no directory is made or changed but the output of a run.

For words that cannot be read, no file is touched and nothing is reported.  Whatever the words are,
two wishes for a filter make no difference to the outcome, to the output, to the lines of text
reported, to the clock, and to any file but that of the log.

A wish has no such filter only if reading it breaks off; then nothing is done but to say so.  It
does not break off on a wish none of whose directives stands after white space and holds a character
of more than one byte. -/
theorem logging_observes (machine : Machine) (words : List String) (wish wish' : Option String) :
    let ended := machine.run (Program.execute words wish)
    let ended' := machine.run (Program.execute words wish')
    (∀ line, CommandLine.read words = .ok line → Log.Decides wish →
      let settings := machine.disk.settings line.config
      (∀ directory, settings.logDir = some directory →
        let path := Log.pathIn directory
        (∀ opened, machine.disk.ensure path = .ok opened →
          ∃ location, opened.Leads path location ∧
            let old := (machine.disk.fileAt? location).getD {}
            (∀ file, machine.disk.read path = .ok file → file = old) ∧
              ((∀ request, line.command = .run request →
                  opened.slot (request.plan settings).output ≠ .ok location) →
                ∃ shown, ended.2.reports.toList = machine.reports.toList ++ shown ∧
                  ended.2.disk.read path =
                    .ok { old with events := old.events ++ Line.warnings shown })) ∧
        ∀ cause, machine.disk.ensure path = .error cause →
          ended = (.noLog, machine.told ("Failed to open the log: " ++ cause.message))) ∧
      (settings.logDir = none →
        machine.disk.SameBut (fun location => ∃ request, line.command = .run request ∧
          machine.disk.slot (request.plan settings).output = .ok location) ended.2.disk)) ∧
    (∀ fault, CommandLine.read words = .error fault →
      ended.2.disk = machine.disk ∧ ended.2.reports = machine.reports) ∧
    ((∀ line, CommandLine.read words = .ok line → Log.Decides wish ∧ Log.Decides wish') →
      ended'.1 = ended.1 ∧ ended.2.AlikeBut (machine.LogsAt words) ended'.2 ∧
        ∀ path, (∀ location, ended.2.disk.Leads path location → ¬ machine.LogsAt words location) →
          ended'.2.disk.read path = ended.2.disk.read path) ∧
    (∀ line, CommandLine.read words = .ok line → ¬ Log.Decides wish →
      ended = (.noFilter, machine.told Program.tornFilter)) ∧
    (Log.Filter.Plain wish → Log.Decides wish) := by
  intro ended ended'
  refine ⟨fun line hread ⟨filter, hfilter, _⟩ => ⟨fun directory hdirectory =>
    ⟨fun opened hopened => ?_, fun cause hcause => ?_⟩, ?_⟩, fun fault hfault => ?_,
    fun hdecide => ?_, fun line hread hbreaks => ?_, Log.Filter.Plain.decides⟩
  · exact execute_logged hread hfilter hdirectory hopened
  · have hended : ended = _ := run_execute_of_filter hread hfilter machine
    simp only [run_carryOut, Settings.openLog, hdirectory, hcause] at hended
    exact hended
  · exact execute_unlogged hread hfilter
  · obtain ⟨outcome, output, hended⟩ := run_execute_of_error hfault machine
    rw [show ended = _ from hended wish]
    exact ⟨rfl, rfl⟩
  · obtain ⟨houtcome, halike⟩ := machine.execute_alike hdecide
    exact ⟨houtcome, halike, fun path hpath => halike.disk.read hpath⟩
  · have hended : ended = _ := run_execute hread machine wish
    rw [hended, Log.ofWish_eq_none hbreaks]

/-- A small machine with a log from before and with settings that name its directory. -/
def smallLogger : Machine where
  disk :=
    { files := CompletedRun.smallMachine.disk.files ++ [
        (⟨["parcheat.toml", "work"]⟩, { bytes := "log-dir = \"logs\"".toUTF8 }),
        (⟨["parcheat.log", "logs", "work"]⟩, { bytes := "old".toUTF8 })]
      directories := [⟨["logs", "work"]⟩] }

/-- How a run of the small logger ends, under a wish for a filter. -/
def smallLogged (wish : Option String) : Program.Outcome × Machine :=
  smallLogger.run (Program.execute ["run", "c", "m", "--base", "10"] wish)

/-- A run adds its warnings to the log from before, and ends in the same way if it shows none. -/
theorem smallLogger_adds :
    (smallLogged none).2.disk.read "logs/parcheat.log" =
        .ok { bytes := "old".toUTF8
              events := Line.warnings (smallLogged none).2.reports.toList } ∧
      (smallLogged (some "error")).1 = (smallLogged none).1 ∧
      (smallLogged (some "error")).2.output = (smallLogged none).2.output := by
  unfold smallLogged
  have hread : CommandLine.read ["run", "c", "m", "--base", "10"] =
      .ok { command := .run { codeFile := "c", memoryImage := "m", base := some 0x10 } } := by rfl
  have hsettings : smallLogger.disk.settings "parcheat.toml" = { logDir := some "logs" } := by
    decide +kernel
  have hpath : Log.pathIn "logs" = "logs/parcheat.log" := by rfl
  have hopened : smallLogger.disk.ensure (Log.pathIn "logs") = .ok smallLogger.disk := by rfl
  have hwalk : smallLogger.disk.walk (smallLogger.disk.start (Log.pathIn "logs"))
      (Disk.names (Log.pathIn "logs")) = .ok ⟨["parcheat.log", "logs", "work"]⟩ := by
    decide +kernel
  have hold : smallLogger.disk.fileAt? ⟨["parcheat.log", "logs", "work"]⟩ =
      some { bytes := "old".toUTF8 } := by rfl
  have hnone : Log.Decides none := Log.decides_iff.2 ⟨_, rfl⟩
  have herror : Log.Decides (some "error") :=
    Log.decides_iff.2 ⟨[⟨[], .events, some .error⟩], by decide +kernel⟩
  obtain ⟨hlines, -, halike, -⟩ :=
    logging_observes smallLogger ["run", "c", "m", "--base", "10"] none (some "error")
  obtain ⟨houtcome, halike, -⟩ := halike fun _ _ => ⟨hnone, herror⟩
  refine ⟨?_, houtcome, halike.output⟩
  obtain ⟨hlogged, -⟩ := hlines _ hread hnone
  obtain ⟨location, hleads, -, hentries⟩ :=
    (hlogged "logs" (congrArg Settings.logDir hsettings)).1 _ hopened
  cases hwalk.symm.trans hleads.2
  obtain ⟨shown, hshown, hfile⟩ := hentries fun request hrequest => by
    cases hrequest
    decide +kernel
  rw [hshown, show smallLogger.reports.toList = [] from rfl, List.nil_append]
  rw [hold, Option.getD_some, List.nil_append, hpath] at hfile
  exact hfile

end Machine
end CheatCode
