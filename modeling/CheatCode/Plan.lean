/-
# Plans

The choices of a run.  A choice that the command line leaves open is taken from the settings, and
one that they leave open too from the defaults.  The memory image is written back to its own file
unless another is named.
-/

import CheatCode.CommandLine
import CheatCode.Engine.Drive
import CheatCode.Memory.Image

namespace CheatCode

/-- All choices of a run, made. -/
structure Plan where
  codeFile : String
  memoryImage : String
  base : UInt64
  cycles : UInt32
  intervalMs : UInt64
  output : String
  deriving DecidableEq, Repr

/-- The plan for a request under some settings. -/
def RunRequest.plan (request : RunRequest) (settings : Settings) : Plan where
  codeFile := request.codeFile
  memoryImage := request.memoryImage
  base := (request.base <|> settings.baseAddress).getD Settings.defaultBaseAddress
  cycles := (request.cycles <|> settings.cycles).getD Settings.defaultCycles
  intervalMs := (request.intervalMs <|> settings.intervalMs).getD Settings.defaultIntervalMs
  output := request.output.getD request.memoryImage

/-- The format in which a command line is carried out under some settings. -/
def CommandLine.chosenFormat (line : CommandLine) (settings : Settings) : Format :=
  (line.format <|> settings.format).getD .standard

/-- What a run's cycles do to the bytes of an image: a new engine is started, driven and stopped.
What it then has to say of a failure is reported. -/
def Plan.apply (plan : Plan) (format : Format) (encrypted : Bool) (code : String)
    (bytes : Array UInt8) : Traced (Engine × Array UInt8) := do
  let engine ← Engine.start { format } code encrypted
  let image ← engine.drive (Image.mk plan.base bytes) plan.cycles.toNat plan.intervalMs.toNat
  let engine ← engine.stop
  if !engine.errorText.isEmpty then Traced.emit (.engineError engine.errorText)
  return (engine, image.bytes)

/-- A run's cycles end with an idle engine and the bytes that driving the started one leaves. -/
theorem Plan.value_apply (plan : Plan) (format : Format) (encrypted : Bool) (code : String)
    (bytes : Array UInt8) :
    (plan.apply format encrypted code bytes).value =
      ({ format }, (Engine.drive { format, codes := some (CodeText.pokes code) }
        (Image.mk plan.base bytes) plan.cycles.toNat plan.intervalMs.toNat).value.bytes) := by
  simp [apply, Engine.errorText]

end CheatCode
