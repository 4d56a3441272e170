/-
# What a run leaves in its output file

A run of the whole program that ends well (`CompletedRun`) is followed from its words to the file
that it writes.  Its choices are the command line's, else the settings', else the defaults
(`CompletedRun.base`, `CompletedRun.cycles`), and its output file then holds the image with its
codes laid over it (`CompletedRun.output_bytes`).  Neither the number of cycles from one on, nor
the pauses between them, nor the format, nor whether the text is said to be encrypted makes a
difference.
-/

import CheatCode.Proofs.Engine.Overlay
import CheatCode.Proofs.Program.OnMachine

namespace CheatCode

/-- A run of the whole program that ends well: the words ask for it, and it takes one machine to
another. -/
structure CompletedRun where
  words : List String
  wish : Option String
  line : CommandLine
  request : RunRequest
  before : Machine
  after : Machine
  reads : CommandLine.read words = .ok line
  asks : line.command = .run request
  succeeds : before.run (Program.execute words wish) = (.success, after)

namespace CompletedRun

/-- The settings in the file that the command line names. -/
def settings (run : CompletedRun) : Settings := run.before.disk.settings run.line.config

/-- The address of the first byte of the image. -/
def base (run : CompletedRun) : UInt64 :=
  (run.request.base <|> run.settings.baseAddress).getD Settings.defaultBaseAddress

/-- The number of cycles. -/
def cycles (run : CompletedRun) : UInt32 :=
  (run.request.cycles <|> run.settings.cycles).getD Settings.defaultCycles

/-- The file that is written. -/
def outputPath (run : CompletedRun) : String := run.request.output.getD run.request.memoryImage

/-- What the code file and the image hold when the run starts, the log being open. -/
def Finds (run : CompletedRun) (code : String) (image : ByteArray) : Prop :=
  ∃ disk, run.settings.openLog run.before.disk = .ok disk ∧
    disk.readText run.request.codeFile = .ok code ∧
    (disk.read run.request.memoryImage).map File.bytes = .ok image

/-- What the output file holds in the end, with nothing after it. -/
def Leaves (run : CompletedRun) (output : ByteArray) : Prop :=
  run.after.disk.read run.outputPath = .ok { bytes := output }

/-- The engine of the run, started with a text. -/
def engine (run : CompletedRun) (code : String) : Engine where
  format := run.line.chosenFormat run.settings
  codes := some (CodeText.pokes code)

/-- The image after the cycles of the run, with the codes of a text. -/
def driven (run : CompletedRun) (code : String) (image : ByteArray) : Image :=
  ((run.engine code).drive (Image.mk run.base image.data) run.cycles.toNat
    (run.request.plan run.settings).intervalMs.toNat).value

/-- A run finds one text and one image. -/
theorem Finds.unique {run : CompletedRun} {code code' : String} {image image' : ByteArray}
    (h : run.Finds code image) (h' : run.Finds code' image') : code = code' ∧ image = image' := by
  obtain ⟨disk, hopen, hcode, himage⟩ := h
  obtain ⟨disk', hopen', hcode', himage'⟩ := h'
  obtain rfl : disk = disk' := Except.ok.inj (hopen.symm.trans hopen')
  exact ⟨Except.ok.inj (hcode.symm.trans hcode'), Except.ok.inj (himage.symm.trans himage')⟩

/-- A text that was there before the run is the one that it finds. -/
theorem Finds.code_eq {run : CompletedRun} {code text : String} {image : ByteArray}
    (h : run.Finds code image)
    (hbefore : run.before.disk.readText run.request.codeFile = .ok text) :
    code = text := by
  obtain ⟨disk, hopen, hcode, -⟩ := h
  rw [Disk.readText, bind_eq_ok] at hbefore
  obtain ⟨file, hfile, htext⟩ := hbefore
  rw [Disk.readText, (Settings.extends_openLog hopen).read hfile] at hcode
  exact Except.ok.inj (hcode.symm.trans htext)

/-- An image that was there before the run is the one that it finds. -/
theorem Finds.image_eq {run : CompletedRun} {code : String} {image : ByteArray} {file : File}
    (h : run.Finds code image) (hbefore : run.before.disk.read run.request.memoryImage = .ok file) :
    image = file.bytes := by
  obtain ⟨disk, hopen, -, himage⟩ := h
  rw [(Settings.extends_openLog hopen).read hbefore] at himage
  exact (Except.ok.inj himage).symm

/-- A run that ends well has a filter. -/
theorem isSome_ofWish (run : CompletedRun) : (Log.Filter.ofWish run.wish).isSome := by
  obtain ⟨filter, hfilter, -⟩ := Machine.run_execute_eq_success run.reads run.succeeds
  rw [hfilter]
  rfl

/-- The log of the run. -/
def log (run : CompletedRun) : Log where
  filter := (Log.Filter.ofWish run.wish).get run.isSome_ofWish
  file := run.settings.logDir.map Log.pathIn

/-- What the cycles of the run do to the bytes of an image, with the codes of a text. -/
def applied (run : CompletedRun) (code : String) (image : ByteArray) :
    Traced (Engine × Array UInt8) :=
  (run.request.plan run.settings).apply (run.line.chosenFormat run.settings) run.line.encrypted
    code image.data

/-- A run that ends well has found a text and an image.  It has then lived through its cycles,
written what they leave and told that it has. -/
theorem exists_finds_after (run : CompletedRun) :
    ∃ code image disk written, run.Finds code image ∧
      let driven := (run.applied code image).trace.toList.foldl (Machine.lived run.log)
        { run.before with disk }
      driven.disk.write run.outputPath ⟨(run.applied code image).value.2⟩ = .ok written ∧
        run.after = ({ driven with disk := written } : Machine).noted run.log
          (.saved run.outputPath) := by
  obtain ⟨filter, hfilter, h⟩ := Machine.run_execute_eq_success run.reads run.succeeds
  obtain ⟨disk, hopen, hperform⟩ := Machine.run_carryOut_eq_success h
  have hlog : run.log = { filter, file := run.settings.logDir.map Log.pathIn } := by
    simp only [log, hfilter, Option.get_some]
  simp only [Program.perform, run.asks] at hperform
  rw [hlog]
  obtain ⟨code, file, hcode, hfile, written, hwrite, hafter⟩ := Machine.attempt_run_ok hperform
  exact ⟨code, file.bytes, disk, written,
    ⟨disk, hopen, hcode, congrArg (Except.map File.bytes) hfile⟩, hwrite, hafter⟩

/-- A run that ends well has found a text and an image, and leaves what driving has left. -/
theorem exists_finds_leaves (run : CompletedRun) :
    ∃ code image, run.Finds code image ∧ run.Leaves ⟨(run.driven code image).bytes⟩ := by
  obtain ⟨code, image, _, written, hfinds, hwrite, hafter⟩ := run.exists_finds_after
  refine ⟨code, image, hfinds, ?_⟩
  rw [applied, Plan.value_apply] at hwrite
  rw [Leaves, hafter, Machine.disk_noted_of_not_keeps (Log.keeps_saved _ _)]
  exact Disk.read_write hwrite

/-- No cycle leaves the image. -/
theorem driven_of_cycles_eq_zero {run : CompletedRun} (h : run.cycles = 0) (code : String)
    (image : ByteArray) : (run.driven code image).bytes = image.data := by
  rw [driven, Engine.value_drive, h]
  rfl

/-- One cycle or more leaves what an execution leaves. -/
theorem driven_of_cycles_ne_zero {run : CompletedRun} (h : run.cycles ≠ 0) (code : String)
    (image : ByteArray) :
    run.driven code image =
      ((run.engine code).execute (Image.mk run.base image.data)).value := by
  have hpos : 0 < run.cycles.toNat := by
    rw [Nat.pos_iff_ne_zero]
    exact fun hzero => h (UInt32.toNat_inj.1 hzero)
  exact Engine.value_drive_of_pos _ _ hpos _

/-- One cycle or more lays the codes over the image. -/
theorem getElem?_driven {run : CompletedRun} (h : run.cycles ≠ 0) (code : String)
    (image : ByteArray) (j : Nat) :
    (run.driven code image).bytes[j]? = image.data[j]?.map fun byte =>
      (Poke.lastValue? (CodeText.pokes code) (run.base.toNat + j)).getD byte := by
  have hbase : (run.driven code image).base = run.base := by
    rw [driven_of_cycles_ne_zero h, Engine.base_execute]
  rw [← Image.byteAt?_base_add, hbase, driven_of_cycles_ne_zero h, Engine.byteAt?_execute]
  exact congrArg _ (Image.byteAt?_base_add (Image.mk run.base image.data) j)

theorem size_driven (run : CompletedRun) (code : String) (image : ByteArray) :
    (run.driven code image).bytes.size = image.size := by
  by_cases h : run.cycles = 0
  · rw [driven_of_cycles_eq_zero h]
    rfl
  · rw [driven_of_cycles_ne_zero h, Engine.size_execute]
    rfl

/-- **A run leaves the image with its codes laid over it.**  The output file gets as many bytes as
the image has.  After no cycle they are the image's.  After any number of cycles from one on, byte
`j` is the value of the last code for the address `base + j`, and the image's byte where no code is
for it, so that another run that finds the same text and image at the same base leaves the same
bytes, whatever its cycles, its pauses, its format and its encryption.  What the run finds is what
the files held before it, except that a log file may have been made. -/
theorem output_bytes (run : CompletedRun) :
    ∃ code image output, run.Finds code image ∧ run.Leaves output ∧
      (∀ text, run.before.disk.readText run.request.codeFile = .ok text → code = text) ∧
      (∀ file, run.before.disk.read run.request.memoryImage = .ok file → image = file.bytes) ∧
      output.size = image.size ∧
      (run.cycles = 0 → output = image) ∧
      (run.cycles ≠ 0 → ∀ j, output.data[j]? = image.data[j]?.map fun byte =>
        (Poke.lastValue? (CodeText.pokes code) (run.base.toNat + j)).getD byte) ∧
      ∀ other : CompletedRun, other.Finds code image → other.base = run.base →
        run.cycles ≠ 0 → other.cycles ≠ 0 → other.Leaves output := by
  obtain ⟨code, image, hfinds, hleaves⟩ := run.exists_finds_leaves
  refine ⟨code, image, _, hfinds, hleaves, fun _ => hfinds.code_eq, fun _ => hfinds.image_eq,
    run.size_driven code image, fun hzero => ?_,
    fun hcycles j => getElem?_driven hcycles code image j,
    fun other hother hbase hcycles hcycles' => ?_⟩
  · rw [driven_of_cycles_eq_zero hzero]
  · obtain ⟨code', image', hfinds', hleaves'⟩ := other.exists_finds_leaves
    obtain ⟨rfl, rfl⟩ := hother.unique hfinds'
    have hsame : (other.driven code image).bytes = (run.driven code image).bytes := by
      refine Array.ext_getElem? fun j => ?_
      rw [getElem?_driven hcycles', getElem?_driven hcycles, hbase]
    rwa [hsame] at hleaves'

/-- A machine with a code file, two of whose codes are for one address, and an image of two
bytes. -/
def smallMachine : Machine where
  disk := { files := [
    (⟨["c", "work"]⟩, { bytes := "000011 07\n000011 08\n000012 09".toUTF8 }),
    (⟨["m", "work"]⟩, { bytes := ⟨#[1, 2]⟩ })] }

theorem smallMachine_succeeds : (smallMachine.run
    (Program.execute ["run", "c", "m", "--base", "10", "--cycles", "2"] none)).1 = .success := by
  decide +kernel

/-- Two cycles over the image of the small machine. -/
def twoCycles : CompletedRun where
  words := ["run", "c", "m", "--base", "10", "--cycles", "2"]
  wish := none
  line := { command := .run { codeFile := "c", memoryImage := "m", base := some 0x10,
                              cycles := some 2 } }
  request := { codeFile := "c", memoryImage := "m", base := some 0x10, cycles := some 2 }
  before := smallMachine
  after := (smallMachine.run
    (Program.execute ["run", "c", "m", "--base", "10", "--cycles", "2"] none)).2
  reads := by rfl
  asks := rfl
  succeeds := by rw [← smallMachine_succeeds]

/-- The second byte gets the value of the later of its two codes. -/
theorem twoCycles_leaves : twoCycles.Leaves ⟨#[1, 8]⟩ := by
  obtain ⟨code, image, output, -, hleaves, hcode, himage, -, -, hbytes, -⟩ :=
    twoCycles.output_bytes
  have htext : smallMachine.disk.readText "c" = .ok "000011 07\n000011 08\n000012 09" := by rfl
  have hfile : smallMachine.disk.read "m" = .ok { bytes := ⟨#[1, 2]⟩ } := by rfl
  obtain rfl := hcode _ htext
  obtain rfl := himage _ hfile
  have hcycles : twoCycles.cycles ≠ 0 := by decide +kernel
  have hbase : twoCycles.base.toNat = 0x10 := by decide +kernel
  have hpokes : CodeText.pokes "000011 07\n000011 08\n000012 09" =
      [⟨0x11, 7⟩, ⟨0x11, 8⟩, ⟨0x12, 9⟩] := by decide +kernel
  have hdata : output = ⟨#[1, 8]⟩ := by
    refine ByteArray.ext (Array.ext_getElem? fun j => ?_)
    rw [hbytes hcycles, hbase, hpokes]
    rcases j with _ | _ | j
    · decide
    · decide
    · rfl
  exact hdata ▸ hleaves

end CompletedRun
end CheatCode
