/-
# The program

What each command does on a host, and the program as a whole: it reads its command line and the
settings, opens its log, carries out the command and says how that went.

* `run` reads a code text and a memory image, lets an engine put the codes into the image cycle by
  cycle, and writes the image back or to another file.
* `address` prints the address of the first code of a text.
* `encode` prints the code text for some patches.
* `info` prints what a format can do.
-/

import CheatCode.Failure
import CheatCode.Log
import CheatCode.Plan

namespace CheatCode

namespace Program

variable {m : Type → Type} [Monad m] [Host m]

/-- The content of a file. -/
def readBytes (path : String) : ExceptT Failure m ByteArray := do
  match ← Host.readFile path with
  | .ok content => return content
  | .error e => throw (.unreadable path e)

/-- The content of a file, as text. -/
def readText (path : String) : ExceptT Failure m String := do
  match String.fromUTF8? (← readBytes path) with
  | some text => return text
  | none => throw (.unreadable path .notText)

/-- Writes a file. -/
def writeBytes (path : String) (content : ByteArray) : ExceptT Failure m Unit := do
  match ← Host.writeFile path content with
  | .ok () => return ()
  | .error e => throw (.unwritable path e)

/-- Carries out a run.  The engine is disposed of in the end. -/
def run (log : Log) (format : Format) (encrypted : Bool) (plan : Plan) :
    ExceptT Failure m Unit := do
  let code ← readText plan.codeFile
  let content ← readBytes plan.memoryImage
  let (engine, bytes) ← log.relay (plan.apply format encrypted code content.data)
  writeBytes plan.output ⟨bytes⟩
  log.note (.saved plan.output)
  let _ ← log.relay engine.dispose

/-- Prints the address of the first code of a text. -/
def printAddress (log : Log) (format : Format) (encrypted : Bool) (path : String) :
    ExceptT Failure m Unit := do
  let code ← readText path
  let address ← log.relay (Engine.address { format } code encrypted)
  Host.print (String.ofList (Numeral.hex 6 address.toNat))

/-- Prints the code text for some patches. -/
def printCodes (format : Format) (encrypted : Bool) (patches : List Patch) :
    ExceptT Failure m Unit := do
  match Engine.encode { format } patches encrypted with
  | .ok text => Host.print text
  | .error e => throw (.unencodable e)

/-- The lines that tell what a format can do. -/
def infoLines (info : Engine.Info) : List String := [
  s!"name: {info.format.name}",
  s!"can get address: {info.canGetAddress}",
  s!"can encrypt: {info.canEncrypt}",
  s!"accepts encrypted code: {info.format.acceptsEncrypted}"]

/-- Carries out a command under some settings. -/
def perform (log : Log) (settings : Settings) (line : CommandLine) : ExceptT Failure m Unit :=
  let format := line.chosenFormat settings
  match line.command with
  | .run request => run log format line.encrypted (request.plan settings)
  | .address path => printAddress log format line.encrypted path
  | .encode patches => printCodes format line.encrypted patches
  | .info => (infoLines (Engine.info { format })).forM fun text => Host.print text

/-- The settings in a file; one that cannot be read sets none. -/
def loadSettings (path : String) : m Settings := do
  match ← Host.readFile path with
  | .ok content => return Settings.ofBytes content
  | .error _ => return {}

/-- The name of the program and its version. -/
def banner : String := "parcheat 0.1.0"

/-- How a program ends. -/
inductive Outcome where
  | success
  | failure
  /-- The command line cannot be read. -/
  | misuse
  /-- The reading of the log filter breaks off. -/
  | noFilter
  /-- The log cannot be opened. -/
  | noLog
  deriving DecidableEq, Repr

/-- The exit code of an outcome. -/
def Outcome.code : Outcome → UInt8
  | .success => 0
  | .failure => 1
  | .misuse => 2
  | .noFilter | .noLog => 101

/-- Carries out a command line under some settings, which may ask for a log file. -/
def carryOut (filter : Log.Filter) (settings : Settings) (line : CommandLine) : m Outcome := do
  let file := settings.logDir.map Log.pathIn
  let opened ← match file with
    | some path => Host.openLog path
    | none => pure (.ok ())
  match opened with
  | .error e =>
    Host.report (.text ("Failed to open the log: " ++ e.message))
    return .noLog
  | .ok () =>
    match ← (perform { filter, file } settings line).run with
    | .ok () => return .success
    | .error failure =>
      failure.report.forM fun text => Host.report (.text text)
      return .failure

/-- What is told if the reading of the log filter breaks off. -/
def tornFilter : String := "Failed to read the log filter: a part of it is torn"

/-- The whole program, given its words and the log filter that is asked for.  The texts of help
and of misuse are not part of it. -/
def execute (words : List String) (wish : Option String) : m Outcome := do
  match CommandLine.read words with
  | .ok line =>
    let settings ← loadSettings line.config
    match Log.Filter.ofWish wish with
    | some filter => carryOut filter settings line
    | none =>
      Host.report (.text tornFilter)
      return .noFilter
  | .error .help => return .success
  | .error .version =>
    Host.print banner
    return .success
  | .error _ => return .misuse

end Program
end CheatCode
