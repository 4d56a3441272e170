/-
# Two runs that differ in their names

Two command lines ask for the same run, the one perhaps in another format or for encrypted text;
their settings are the same but for the format that they name, and their disks but for some files
that neither reads as its code text or its image, such as the settings themselves (`TwinRuns`).  The
cycles of both then leave the same bytes, and of what is told on the way the log keeps the same:
only warnings are kept, and no warning names a format.  So the disks stay alike to the end.

| | first run | second run |
| --- | --- | --- |
| code text, image | the same | the same |
| base, cycles, pause, output, log file | the same | the same |
| format, encryption | any | any |
-/

import CheatCode.Proofs.Machine.Alike
import CheatCode.Proofs.Program.Output
import CheatCode.Proofs.Session.Bare

namespace CheatCode

/-! ## What the log keeps -/

/-- A log keeps only events that name no format. -/
theorem Log.bare_of_keeps {log : Log} {event : Event} (h : log.keeps event = true) :
    event.bare = event := by
  have hlevel : Level.warn.weight ≤ event.level.weight := by
    rw [keeps, Bool.and_eq_true, decide_eq_true_eq] at h
    exact h.2
  cases event <;> first | rfl | simp [Event.level, Level.weight] at hlevel

/-- Whether an event is kept does not depend on the format that it names. -/
theorem Log.keeps_bare (log : Log) (event : Event) : log.keeps event.bare = log.keeps event := by
  cases event <;> rfl

namespace Machine

/-- **Events that differ in names alone leave the same in a log.** -/
theorem alike_noted {excepted : Location → Prop} {a b : Machine}
    (h : a.disk.AlikeBut excepted b.disk) (log : Log) {event event' : Event}
    (hevent : event.bare = event'.bare) :
    (a.noted log event).disk.AlikeBut excepted (b.noted log event').disk := by
  have hkeeps : log.keeps event' = log.keeps event := by
    rw [← log.keeps_bare, ← hevent, log.keeps_bare]
  cases hkept : log.keeps event with
  | false =>
    rw [disk_noted_of_not_keeps hkept, disk_noted_of_not_keeps (hkeeps.trans hkept)]
    exact h
  | true =>
    have hsame : event' = event := by
      rw [← Log.bare_of_keeps hkept, hevent, Log.bare_of_keeps (hkeeps.trans hkept)]
    subst hsame
    obtain ⟨filter, file⟩ := log
    cases file with
    | none => exact h
    | some path =>
      simp only [noted, hkept, if_true]
      exact h.append path event'

theorem alike_lived {excepted : Location → Prop} {a b : Machine}
    (h : a.disk.AlikeBut excepted b.disk) (log : Log) {moments moments' : List Moment}
    (hmoments : moments.map Moment.bare = moments'.map Moment.bare) :
    (moments.foldl (lived log) a).disk.AlikeBut excepted (moments'.foldl (lived log) b).disk := by
  induction moments generalizing a b moments' with
  | nil =>
    obtain rfl := List.map_eq_nil_iff.1 hmoments.symm
    exact h
  | cons moment moments ih =>
    obtain ⟨moment', rest, rfl, hfirst, hrest⟩ := List.map_eq_cons_iff.1 hmoments.symm
    rw [List.foldl_cons, List.foldl_cons]
    refine ih ?_ hrest.symm
    cases moment with
    | event event =>
      cases moment' with
      | event event' => exact alike_noted h log (Moment.event.inj hfirst.symm)
      | pause milliseconds => cases hfirst
    | pause milliseconds =>
      cases moment' with
      | event event' => cases hfirst
      | pause milliseconds' => exact h

end Machine

/-- The trace of a run's cycles, and the bytes that they leave, are the same but for the names. -/
theorem Plan.bare_apply (plan : Plan) (format : Format) (encrypted : Bool) (code : String)
    (bytes : Array UInt8) :
    (fun result => (result.1.bare, result.2)) <$> (plan.apply format encrypted code bytes).bare =
      plan.apply .standard false code bytes := by
  have hreport : ∀ (engine : Engine) (bytes : Array UInt8),
      (fun result : Engine × Array UInt8 => (result.1.bare, result.2)) <$>
        (if !engine.errorText.isEmpty then do
          Traced.emit (.engineError engine.errorText)
          pure (engine, bytes)
        else pure (engine, bytes) : Traced (Engine × Array UInt8)).bare =
      if !engine.errorText.isEmpty then do
        Traced.emit (.engineError engine.errorText)
        pure (engine.bare, bytes)
      else pure (engine.bare, bytes) := by
    intro engine bytes
    split <;> simp [Event.bare]
  have hstart : Engine.start { format := .standard } code false =
      Engine.bare <$> (Engine.start { format } code encrypted).bare :=
    (Engine.bare_start { format } code encrypted).symm
  have herror : ∀ engine : Engine, engine.bare.errorText = engine.errorText := fun _ => rfl
  unfold apply
  simp only [hstart, ← Engine.bare_drive, ← Engine.bare_stop, Traced.bare_bind, map_bind,
    bind_map_left, herror, hreport]

/-- So two runs by one plan agree in all but the names. -/
theorem Plan.agree_apply (plan : Plan) (format format' : Format) (encrypted encrypted' : Bool)
    (code : String) (bytes : Array UInt8) :
    let applied := plan.apply format encrypted code bytes
    let applied' := plan.apply format' encrypted' code bytes
    applied.value.2 = applied'.value.2 ∧
      applied.trace.toList.map Moment.bare = applied'.trace.toList.map Moment.bare := by
  intro applied applied'
  have hsame : (fun result : Engine × Array UInt8 => (result.1.bare, result.2)) <$> applied.bare =
      (fun result : Engine × Array UInt8 => (result.1.bare, result.2)) <$> applied'.bare := by
    rw [bare_apply, bare_apply]
  refine ⟨congrArg (fun x => x.value.2) hsame, ?_⟩
  simpa using congrArg (fun x => x.trace.toList) hsame

namespace Machine

variable {excepted : Location → Prop} {a b : Machine}

/-- How an attempt of a run ends on two machines: with one result, on disks that stay alike, and if
it ends well then with one output. -/
structure EndAlike (excepted : Location → Prop) (output : String)
    (x y : Except Failure Unit × Machine) : Prop where
  result : y.1 = x.1
  disk : x.2.disk.AlikeBut excepted y.2.disk
  output : x.1 = .ok () → y.2.disk.read output = x.2.disk.read output

/-- **Runs by one plan, whatever their formats and encryption, leave disks alike alike.** -/
theorem attempt_run_alike (h : a.disk.AlikeBut excepted b.disk) (log : Log)
    (format format' : Format) (encrypted encrypted' : Bool) (plan : Plan)
    (hpaths : ∀ path ∈ [plan.codeFile, plan.memoryImage], ∀ location,
      a.disk.Leads path location → ¬ excepted location) :
    EndAlike excepted plan.output (a.attempt (Program.run log format encrypted plan))
      (b.attempt (Program.run log format' encrypted' plan)) := by
  have hcode : b.disk.readText plan.codeFile = a.disk.readText plan.codeFile := by
    rw [Disk.readText, Disk.readText, h.read (hpaths _ (by simp))]
  have himage : b.disk.read plan.memoryImage = a.disk.read plan.memoryImage :=
    h.read (hpaths _ (by simp))
  rw [attempt_run, attempt_run, hcode, himage]
  cases a.disk.readText plan.codeFile with
  | error e => exact ⟨rfl, h, fun hok => by cases hok⟩
  | ok code =>
    cases a.disk.read plan.memoryImage with
    | error e => exact ⟨rfl, h, fun hok => by cases hok⟩
    | ok image =>
      simp only
      obtain ⟨hbytes, htrace⟩ := plan.agree_apply format format' encrypted encrypted' code
        image.bytes.data
      have hwrite := (alike_lived h log htrace).write plan.output
        ⟨(plan.apply format encrypted code image.bytes.data).value.2⟩
      rw [← hbytes]
      generalize hx : Disk.write _ _ _ = x at hwrite ⊢
      generalize hy : Disk.write _ _ _ = y at hwrite ⊢
      cases hwrite with
      | error e => exact ⟨rfl, alike_lived h log htrace, fun hok => by cases hok⟩
      | ok hdisk =>
        refine ⟨rfl, alike_noted hdisk log rfl, fun _ => ?_⟩
        simp only [disk_noted_of_not_keeps (log.keeps_saved _)]
        rw [Disk.read_write hx, Disk.read_write hy]

end Machine

/-- Two command lines that ask for the same run, to be carried out on two machines: the settings
differ in the format at most, and the disks in some files at most, none of which either run reads
as its code text or its image. -/
structure TwinRuns where
  words : List String
  words' : List String
  wish : Option String
  line : CommandLine
  line' : CommandLine
  request : RunRequest
  before : Machine
  before' : Machine
  excepted : Location → Prop
  reads : CommandLine.read words = .ok line
  reads' : CommandLine.read words' = .ok line'
  asks : line.command = .run request
  asks' : line'.command = .run request
  settings : { before'.disk.settings line'.config with format := none } =
    { before.disk.settings line.config with format := none }
  disks : before.disk.AlikeBut excepted before'.disk
  apart : ∀ disk, (before.disk.settings line.config).openLog before.disk = .ok disk →
    ∀ path ∈ [request.codeFile, request.memoryImage], ∀ location, disk.Leads path location →
      ¬ excepted location

namespace TwinRuns

/-- How the first run ends. -/
def ended (twins : TwinRuns) : Program.Outcome × Machine :=
  twins.before.run (Program.execute twins.words twins.wish)

/-- How the second run ends. -/
def ended' (twins : TwinRuns) : Program.Outcome × Machine :=
  twins.before'.run (Program.execute twins.words' twins.wish)

/-- The file that is written. -/
def outputPath (twins : TwinRuns) : String :=
  twins.request.output.getD twins.request.memoryImage

/-- The plan of a run does not depend on the format that its settings name. -/
theorem plan_eq (request : RunRequest) {settings settings' : Settings}
    (h : { settings' with format := none } = { settings with format := none }) :
    request.plan settings' = request.plan settings ∧ settings'.logDir = settings.logDir := by
  obtain ⟨format, intervalMs, cycles, baseAddress, logDir⟩ := settings
  obtain ⟨format', intervalMs', cycles', baseAddress', logDir'⟩ := settings'
  simp only [Settings.mk.injEq, true_and] at h
  obtain ⟨rfl, rfl, rfl, rfl⟩ := h
  exact ⟨rfl, rfl⟩

/-- **The runs end alike**: as well or as badly, on disks that are alike, and if they end well with
the same output. -/
theorem ended_alike (twins : TwinRuns) :
    twins.ended'.1 = twins.ended.1 ∧
      twins.ended.2.disk.AlikeBut twins.excepted twins.ended'.2.disk ∧
      (twins.ended.1 = .success →
        twins.ended'.2.disk.read twins.outputPath = twins.ended.2.disk.read twins.outputPath) := by
  obtain ⟨hplan, hlogDir⟩ := plan_eq twins.request twins.settings
  have hopen : Both (Disk.AlikeBut twins.excepted)
      ((twins.before.disk.settings twins.line.config).openLog twins.before.disk)
      ((twins.before'.disk.settings twins.line'.config).openLog twins.before'.disk) := by
    unfold Settings.openLog
    rw [hlogDir]
    split
    · exact twins.disks.ensure _
    · exact .ok twins.disks
  have hapart := twins.apart
  rw [ended, ended', Machine.run_execute twins.reads, Machine.run_execute twins.reads']
  cases Log.Filter.ofWish twins.wish with
  | none => exact ⟨rfl, twins.disks, fun hsuccess => by cases hsuccess⟩
  | some filter =>
    simp only [Machine.run_carryOut, Program.perform, twins.asks, twins.asks', hplan, hlogDir]
    generalize Settings.openLog _ _ = x at hopen hapart ⊢
    generalize Settings.openLog _ _ = y at hopen ⊢
    cases hopen with
    | error e => exact ⟨rfl, twins.disks, fun hsuccess => by cases hsuccess⟩
    | @ok disk disk' hdisk =>
      have hend := Machine.attempt_run_alike (a := { twins.before with disk })
        (b := { twins.before' with disk := disk' }) hdisk
        { filter, file := (twins.before.disk.settings twins.line.config).logDir.map Log.pathIn }
        (twins.line.chosenFormat (twins.before.disk.settings twins.line.config))
        (twins.line'.chosenFormat (twins.before'.disk.settings twins.line'.config))
        twins.line.encrypted twins.line'.encrypted
        (twins.request.plan (twins.before.disk.settings twins.line.config)) (hapart disk rfl)
      revert hend
      simp only
      generalize Machine.attempt _ _ = first
      generalize Machine.attempt _ _ = second
      rintro ⟨hresult, hdisks, houtput⟩
      obtain ⟨result, left⟩ := first
      obtain ⟨result', left'⟩ := second
      obtain rfl : result' = result := hresult
      cases result' with
      | ok done => exact ⟨rfl, hdisks, fun _ => houtput rfl⟩
      | error failure =>
        refine ⟨rfl, ?_, fun hsuccess => by cases hsuccess⟩
        simpa only [Machine.disk_foldl_told] using hdisks

end TwinRuns

/-- **Formats and encryption do not interfere.**  Two sessions open with the same memory, and their
steps are the same but for the formats and handles of the engines that they bring, what is said of
encryption, and the way to the memory.  Then at each place both steps have the same answer, if they
do not ask for information, both memories have the same bytes and accesses, both engines are
active or idle with the same codes, and what the two steps report is the same with one format in the
place of the others.

Likewise two command lines ask for the same run, the settings differing in the format at most, and
the disks in files at most that are neither code text nor image.  Then both runs end as well or as
badly, on disks with one tree and with the same files but for these, by whatever path they are
read; and what a run that ends well has written is the same in any case. -/
theorem indifference (format format' : Format) (closed closed' : Bool) (memory : Memory)
    {steps steps' : List Session.Step}
    (hsteps : steps.map Session.Step.bare = steps'.map Session.Step.bare) (twins : TwinRuns) :
    (∀ before s later before' s' later', steps = before ++ s :: later →
      steps' = before' ++ s' :: later' → before.length = before'.length →
      let taken := (Session.after { engine := { format }, closed, memory } before).step s
      let taken' := (Session.after
        { engine := { format := format' }, closed := closed', memory } before').step s'
      (s ≠ .info → taken.value.2 = taken'.value.2) ∧
        taken.value.1.memory = taken'.value.1.memory ∧
        taken.value.1.engine.isActive = taken'.value.1.engine.isActive ∧
        taken.value.1.engine.activeCodes = taken'.value.1.engine.activeCodes ∧
        taken.trace.map Moment.bare = taken'.trace.map Moment.bare) ∧
      twins.ended'.1 = twins.ended.1 ∧
      twins.ended.2.disk.AlikeBut twins.excepted twins.ended'.2.disk ∧
      (∀ path, (∀ location, twins.ended.2.disk.Leads path location → ¬ twins.excepted location) →
        twins.ended'.2.disk.read path = twins.ended.2.disk.read path) ∧
      (twins.ended.1 = .success →
        twins.ended'.2.disk.read twins.outputPath = twins.ended.2.disk.read twins.outputPath) := by
  refine ⟨?_, ?_⟩
  · intro before s later before' s' later' hsplit hsplit' hlength taken taken'
    obtain ⟨hbefore, hlater⟩ : before.map Session.Step.bare = before'.map Session.Step.bare ∧
        (s :: later).map Session.Step.bare = (s' :: later').map Session.Step.bare := by
      refine List.append_inj ?_ (by simpa using hlength)
      rw [← List.map_append, ← List.map_append, ← hsplit, ← hsplit', hsteps]
    have hopening : Session.bare { engine := { format }, closed, memory } =
        Session.bare { engine := { format := format' }, closed := closed', memory } := rfl
    obtain ⟨hreply, hsession, htrace⟩ := Session.agree_step
      (a := Session.after { engine := { format }, closed, memory } before)
      (b := Session.after { engine := { format := format' }, closed := closed', memory } before')
      (by rw [Session.bare_after, Session.bare_after, hopening, hbefore])
      (List.cons.inj hlater).1
    exact ⟨hreply, (congrArg Session.memory hsession :),
      (congrArg (fun session => session.engine.isActive) hsession :),
      (congrArg (fun session => session.engine.activeCodes) hsession :), htrace⟩
  · obtain ⟨houtcome, hdisks, houtput⟩ := twins.ended_alike
    exact ⟨houtcome, hdisks, fun path hpath => hdisks.read hpath, houtput⟩

/-- The small machine with some settings. -/
def smallMachineWith (settings : String) : Machine where
  disk := CompletedRun.smallMachine.disk.put ⟨["parcheat.toml", "work"]⟩
    { bytes := settings.toUTF8 }

/-- Two runs of the small machine, in each of the two formats: once as the settings say, and once as
the words do. -/
def smallTwins : TwinRuns where
  words := ["run", "c", "m", "--base", "10"]
  words' := ["run", "--variant", "sfc-par", "c", "m", "--encrypted", "--base", "10"]
  wish := none
  line := { command := .run { codeFile := "c", memoryImage := "m", base := some 0x10 } }
  line' := { format := some .sfcPar, encrypted := true,
             command := .run { codeFile := "c", memoryImage := "m", base := some 0x10 } }
  request := { codeFile := "c", memoryImage := "m", base := some 0x10 }
  before := smallMachineWith "variant = \"snes-par\"\ncycles = 2"
  before' := smallMachineWith "cycles = 2"
  excepted location := location = ⟨["parcheat.toml", "work"]⟩
  reads := by rfl
  reads' := by rfl
  asks := rfl
  asks' := rfl
  settings := by decide +kernel
  disks := (Disk.AlikeBut.refl _ _).put _ fun h => absurd rfl h
  apart := by
    intro disk hopen path hpath location hleads
    have hsettings : (smallMachineWith "variant = \"snes-par\"\ncycles = 2").disk.settings
        "parcheat.toml" = { format := some .snesPar, cycles := some 2 } := by decide +kernel
    have hwalk : ∀ path ∈ ["c", "m"], disk.walk (disk.start path) (Disk.names path) =
        .ok ⟨[path, "work"]⟩ := by
      rw [show CommandLine.config { command := _ } = "parcheat.toml" from rfl, hsettings] at hopen
      cases hopen
      decide +kernel
    rintro rfl
    cases (hleads.2.symm.trans (hwalk path hpath))
    revert hpath
    decide

/-- Both runs write the same image, and in both sessions the same codes reach it. -/
theorem smallTwins_alike :
    smallTwins.ended'.2.disk.read "m" = smallTwins.ended.2.disk.read "m" ∧
      (Session.after
          { engine := { format := .sfcPar }, closed := true, memory := .image (.zeroed 0x10 2) }
          [.start "000011 07" true, .execute .forwarded]).memory =
        (Session.after
          { engine := { format := .snesPar }, closed := false, memory := .image (.zeroed 0x10 2) }
          [.start "000011 07" false, .execute .direct]).memory := by
  obtain ⟨hsessions, -, -, -, houtput⟩ := indifference .sfcPar .snesPar true false
    (.image (.zeroed 0x10 2))
    (show List.map Session.Step.bare [.start "000011 07" true, .execute .forwarded] =
      List.map Session.Step.bare [.start "000011 07" false, .execute .direct] from rfl) smallTwins
  have hsuccess : smallTwins.ended.1 = .success := by decide +kernel
  obtain ⟨-, hmemory, -⟩ := hsessions [_] _ [] [_] _ [] rfl rfl rfl
  exact ⟨houtput hsuccess, hmemory⟩

end CheatCode
