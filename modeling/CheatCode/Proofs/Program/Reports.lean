/-
# What a run reports

A run of the whole program that ends well is followed from its first event to its last
(`CompletedRun.story`), and what it has reported in the end is this, as far as the filter lets it
through (`CompletedRun.reports_story`).

| while | events | level |
| --- | --- | --- |
| the code text is read | one for each line that is no code | trace |
| the engine is started | how many codes there are | debug |
| a cycle goes on | a warning for each code beside the image | warn |
| | how many codes were written | trace |
| | the number of the cycle | debug |
| the cycles end | how many there were | info |
| the engine is stopped | that it is | debug |
| the image is saved | where | info |

The engine has been stopped by the time that it is disposed of, so this leaves no trace, however
often it is done.
-/

import CheatCode.Proofs.Engine.Events
import CheatCode.Proofs.Program.Output

namespace CheatCode

/-- Every event comes from the program. -/
theorem Event.isPrefixOf_source (event : Event) :
    "parcheat".toList.isPrefixOf event.source.toList = true := by
  have hsources : ∀ source ∈ ["parcheat", "parcheat::host", "parcheat_lib::code",
      "parcheat_lib::par_plugin", "parcheat_lib::memory_accessors::ram_image"],
      "parcheat".toList.isPrefixOf source.toList = true := by decide +kernel
  refine hsources _ ?_
  cases event <;> simp [source]

/-- The better of two directives is one of them. -/
theorem Log.Filter.better_some (event : Event) (best directive : Directive) :
    better event (some best) directive = some best ∨
      better event (some best) directive = some directive := by
  unfold better
  split
  · simp only
    split
    · exact .inr rfl
    · exact .inl rfl
  · exact .inl rfl

/-- The filter in force if none is asked for lets every event through. -/
theorem Log.Filter.allows_standard (event : Event) : Log.Filter.standard.allows event = true := by
  let first : Directive := ⟨"parcheat".toList, .events, some .trace⟩
  let second : Directive := ⟨"parcheat_lib".toList, .events, some .trace⟩
  have hcovers : first.covers event = true :=
    (Bool.and_true _).trans event.isPrefixOf_source
  have hfirst : better event none first = some first := by rw [better, if_pos hcovers]
  have hdecisive : standard.decisive? event = better event (better event none first) second := rfl
  rw [allows, hdecisive, hfirst]
  -- whichever is the better one, its threshold is the lowest
  have hlowest : decide (Level.trace.weight ≤ event.level.weight) = true :=
    decide_eq_true (Nat.zero_le _)
  rcases better_some event first second with h | h
  · rw [h]
    exact hlowest
  · rw [h]
    exact hlowest

namespace Machine

/-- Noting an event reports it if the filter allows. -/
theorem reports_noted (log : Log) (machine : Machine) (event : Event) :
    (machine.noted log event).reports.toList =
      machine.reports.toList ++ ([event].filter log.filter.allows).map .event := by
  by_cases h : log.filter.allows event = true
  · simp [noted, h]
  · simp [noted, h]

/-- **Living through a trace reports its events**, as far as the filter allows. -/
theorem reports_lived (log : Log) (machine : Machine) (moments : List Moment) :
    (moments.foldl (lived log) machine).reports.toList =
      machine.reports.toList ++
        ((moments.filterMap Moment.event?).filter log.filter.allows).map .event := by
  induction moments generalizing machine with
  | nil => simp
  | cons moment moments ih =>
    rw [List.foldl_cons, ih]
    cases moment with
    | event event =>
      have hevent : (lived log machine (.event event)).reports.toList = _ :=
        reports_noted log machine event
      have hcons : (Moment.event event :: moments).filterMap Moment.event? =
          [event] ++ moments.filterMap Moment.event? := rfl
      rw [hevent, hcons, List.filter_append, List.map_append, List.append_assoc]
    | pause milliseconds => rfl

end Machine

/-- The events of a run's cycles. -/
theorem Plan.events_apply (plan : Plan) (format : Format) (encrypted : Bool) (code : String)
    (bytes : Array UInt8) :
    (plan.apply format encrypted code bytes).events =
      (CodeText.skipped code).map .skipped ++
        .started format (CodeText.pokes code).length ::
        (List.range plan.cycles.toNat).flatMap (fun k =>
          (Image.mk plan.base bytes).warnings (CodeText.pokes code) ++
            [.wrote format (CodeText.pokes code).length, .cycle k]) ++
        [.cyclesDone format plan.cycles.toNat, .stopped format] := by
  simp only [apply, Traced.events_bind, Engine.value_start, Engine.events_start,
    Engine.events_drive_image, Engine.events_execute, Engine.value_stop, Engine.events_stop]
  simp [Engine.isActive, Engine.errorText]

namespace CompletedRun

/-- The codes that are for no byte of an image. -/
def beside (run : CompletedRun) (codes : List Poke) (image : ByteArray) : List Poke :=
  codes.filter fun code => ¬ (run.base.toNat ≤ code.address.toNat ∧
    code.address.toNat + 1 ≤ run.base.toNat + image.size)

/-- The events of a run, from the reading of its code text to the end of its engine: `skipped` are
the lines of the text that are no codes, and `image` is what the codes are put into. -/
def story (run : CompletedRun) (codes : List Poke) (skipped : List (List Char))
    (image : ByteArray) : List Event :=
  let format := run.line.chosenFormat run.settings
  skipped.map .skipped ++ .started format codes.length ::
    (List.range run.cycles.toNat).flatMap (fun k =>
      (run.beside codes image).map (fun code => .outOfRange .write code.address 1) ++
        [.wrote format codes.length, .cycle k]) ++
    [.cyclesDone format run.cycles.toNat, .stopped format, .saved run.outputPath]

/-- How much each event of a story matters. -/
theorem level_story (run : CompletedRun) (codes : List Poke) (skipped : List (List Char))
    (image : ByteArray) :
    (run.story codes skipped image).map Event.level =
      List.replicate skipped.length .trace ++ .debug ::
        (List.range run.cycles.toNat).flatMap (fun _ =>
          List.replicate (run.beside codes image).length .warn ++ [.trace, .debug]) ++
        [.info, .debug, .info] := by
  have hskipped : Event.level ∘ Event.skipped = Function.const _ .trace := rfl
  have hwarning : (Event.level ∘ fun code : Poke => Event.outOfRange .write code.address 1) =
      Function.const _ .warn := rfl
  simp only [story, List.map_append, List.map_cons, List.map_nil, List.map_map, List.map_flatMap,
    hskipped, hwarning, List.map_const]
  rfl

/-- The events of the cycles, and then of the saving, are the story of the run. -/
theorem events_applied (run : CompletedRun) (code : String) (image : ByteArray) :
    (run.applied code image).events ++ [.saved run.outputPath] =
      run.story (CodeText.pokes code) (CodeText.skipped code) image := by
  rw [applied, Plan.events_apply, List.append_assoc]
  rfl

/-- **A run that ends well reports its story and nothing else.**  The lines of its code text are
sorted into codes and others.  The reports that the machine had before are followed by the events of
the story that the filter lets through, and by default this is all of them.  The engine that is left
has no more to report, however often it is disposed of. -/
theorem reports_story (run : CompletedRun) :
    ∃ code image codes skipped, run.Finds code image ∧
      (∀ text, run.before.disk.readText run.request.codeFile = .ok text → code = text) ∧
      (∀ file, run.before.disk.read run.request.memoryImage = .ok file → image = file.bytes) ∧
      CodeText.Sorts (Text.lines code.toList) codes skipped ∧
      run.after.reports.toList = run.before.reports.toList ++
        ((run.story codes skipped image).filter run.log.filter.allows).map .event ∧
      (run.wish = none → ∀ event, run.log.filter.allows event = true) ∧
      (run.story codes skipped image).map Event.level =
        List.replicate skipped.length .trace ++ .debug ::
          (List.range run.cycles.toNat).flatMap (fun _ =>
            List.replicate (run.beside codes image).length .warn ++ [.trace, .debug]) ++
          [.info, .debug, .info] ∧
      (run.applied code image).value.1.dispose = pure (run.applied code image).value.1 := by
  obtain ⟨code, image, disk, written, hfinds, -, hafter⟩ := run.exists_finds_after
  refine ⟨code, image, _, _, hfinds, fun _ => hfinds.code_eq, fun _ => hfinds.image_eq,
    CodeText.sorts_filter _, ?_, fun hwish event => ?_, run.level_story _ _ _, ?_⟩
  · rw [hafter, Machine.reports_noted, Machine.reports_lived, List.append_assoc, ← List.map_append,
      ← List.filter_append]
    exact congrArg (fun story => run.before.reports.toList ++
      (story.filter run.log.filter.allows).map .event) (run.events_applied code image)
  · simp only [log, hwish, Log.Filter.ofWish, Option.get_some]
    exact Log.Filter.allows_standard event
  · rw [applied, Plan.value_apply]
    exact Engine.stop_of_idle rfl

/-- Of the three codes of the small machine the last is beside its image, so both cycles give a
warning. -/
theorem twoCycles_reports : twoCycles.after.reports.toList = [
    .event (.started .sfcPar 3),
    .event (.outOfRange .write 0x12 1), .event (.wrote .sfcPar 3), .event (.cycle 0),
    .event (.outOfRange .write 0x12 1), .event (.wrote .sfcPar 3), .event (.cycle 1),
    .event (.cyclesDone .sfcPar 2), .event (.stopped .sfcPar), .event (.saved "m")] := by
  obtain ⟨code, image, codes, skipped, -, hcode, himage, hsorts, hreports, hallows, -⟩ :=
    twoCycles.reports_story
  have htext : smallMachine.disk.readText "c" = .ok "000011 07\n000011 08\n000012 09" := by rfl
  have hfile : smallMachine.disk.read "m" = .ok { bytes := ⟨#[1, 2]⟩ } := by rfl
  obtain rfl := hcode _ htext
  obtain rfl := himage _ hfile
  obtain ⟨rfl, rfl⟩ := hsorts.unique (CodeText.sorts_filter _)
  rw [hreports, List.filter_eq_self.2 fun event _ => hallows rfl event]
  decide +kernel

end CompletedRun
end CheatCode
