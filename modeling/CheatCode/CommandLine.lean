/-
# The command line

| command | places | options |
| --- | --- | --- |
| `run` | code file, memory image | `--base`, `--cycles`, `--interval-ms`, `--output` |
| `address` | code file | |
| `encode` | one patch or more | |
| `info` | | |

`--config`, `--variant` and `--encrypted` may stand before the name of the command or among its
words; where one is given in both, the command's own counts.
-/

import CheatCode.Arguments.Grammar
import CheatCode.Patch.Spelling
import CheatCode.Settings

namespace CheatCode

/-- What a run is asked to do; `none` leaves a choice to the settings. -/
structure RunRequest where
  codeFile : String
  memoryImage : String
  base : Option UInt64 := none
  cycles : Option UInt32 := none
  intervalMs : Option UInt64 := none
  output : Option String := none
  deriving DecidableEq, Repr

/-- A command. -/
inductive Command where
  | run (request : RunRequest)
  | address (codeFile : String)
  | encode (patches : List Patch)
  | info
  deriving DecidableEq, Repr

/-- A command with the options that all commands have. -/
structure CommandLine where
  config : String := Settings.defaultPath
  format : Option Format := none
  encrypted : Bool := false
  command : Command
  deriving DecidableEq, Repr

namespace CommandLine

open Arguments

/-! ## Values -/

/-- A file name: any text but the empty one. -/
def readPath (word : String) : Except Fault String :=
  if word.isEmpty then .error .emptyValue else .ok word

/-- A format. -/
def readFormat (word : String) : Except Fault Format :=
  (Format.read word).mapError fun e => .unfitValue e.message

/-- An address in base sixteen. -/
def readAddress (word : String) : Except Fault UInt64 :=
  (Numeral.readHex word).mapError fun e => .unfitValue (Patch.fieldMessage word e)

/-- A patch. -/
def readPatch (word : String) : Except Fault Patch :=
  (Patch.read word).mapError fun e => .unfitValue e.message

/-- A number of cycles: a signed number of 64 bits, then held to its range. -/
def readCycles (word : String) : Except Fault UInt32 :=
  match Numeral.readSigned 10 Numeral.signedBound word.toList with
  | .error e => .error (.unfitValue e.message)
  | .ok n =>
    if 0 ≤ n ∧ n < UInt32.size then .ok (UInt32.ofNat n.toNat)
    else .error (.unfitValue s!"{n} is not in 0..=4294967295")

/-- A number of milliseconds. -/
def readMilliseconds (word : String) : Except Fault UInt64 :=
  (Numeral.readDecimal word).mapError fun e => .unfitValue e.message

/-! ## The options of all commands -/

/-- The options of all commands, as far as they are given. -/
structure Common where
  config : Option String := none
  format : Option Format := none
  encrypted : Bool := false
  deriving DecidableEq, Repr

/-- Whether no option is given. -/
def Common.isEmpty (common : Common) : Bool :=
  common.config.isNone && common.format.isNone && !common.encrypted

/-- Options given before the name of a command, with those among its words put over them. -/
def Common.override (before among : Common) : Common where
  config := among.config <|> before.config
  format := among.format <|> before.format
  encrypted := among.encrypted || before.encrypted

/-- What the options of all commands do. -/
def commonOptions : List (String × Reaction Common) := [
  ("config", .valued (once (·.config) (fun r v => { r with config := some v }) .ok)),
  ("variant", .valued (once (·.format) (fun r v => { r with format := some v }) readFormat)),
  ("encrypted", .flag fun r =>
    if r.encrypted then .error .repeated else .ok { r with encrypted := true }),
  ("help", .flag fun _ => .error .help)]

/-! ## Commands -/

/-- A grammar with the options of all commands and some of its own. -/
def grammar {σ : Type} (own : List (String × Reaction σ)) (places : List (Place σ)) :
    Grammar (Common × σ) where
  options := commonOptions.map (fun o => (o.1, o.2.first)) ++ own.map fun o => (o.1, o.2.second)
  letters := [('h', .help)]
  places := places.map fun
    | .one entry => .one fun word r => return (r.1, ← entry word r.2)
    | .several entry => .several fun word r => return (r.1, ← entry word r.2)

/-- The words of `run`, as far as they are given. -/
structure RunDraft where
  codeFile : Option String := none
  memoryImage : Option String := none
  base : Option UInt64 := none
  cycles : Option UInt32 := none
  intervalMs : Option UInt64 := none
  output : Option String := none
  deriving DecidableEq, Repr

/-- The grammar of `run`. -/
def runGrammar : Grammar (Common × RunDraft) := grammar
  [("base", .valued (once (·.base) (fun r v => { r with base := some v }) readAddress)),
    ("cycles", .valued (once (·.cycles) (fun r v => { r with cycles := some v }) readCycles)),
    ("interval-ms",
      .valued (once (·.intervalMs) (fun r v => { r with intervalMs := some v }) readMilliseconds)),
    ("output", .valued (once (·.output) (fun r v => { r with output := some v }) readPath))]
  [.one fun word r => return { r with codeFile := some (← readPath word) },
    .one fun word r => return { r with memoryImage := some (← readPath word) }]

/-- Reads the words of `run`. -/
def readRun (words : List String) : Except Fault (Common × Command) := do
  let (common, draft) ← runGrammar.read ({}, {}) words
  match draft.codeFile, draft.memoryImage with
  | some codeFile, some memoryImage => return (common, .run {
      codeFile, memoryImage, base := draft.base, cycles := draft.cycles
      intervalMs := draft.intervalMs, output := draft.output })
  | _, _ => .error .missingArgument

/-- The grammar of `address`. -/
def addressGrammar : Grammar (Common × Option String) :=
  grammar [] [.one fun word _ => return some (← readPath word)]

/-- Reads the words of `address`. -/
def readAddressCommand (words : List String) : Except Fault (Common × Command) := do
  match ← addressGrammar.read ({}, none) words with
  | (common, some codeFile) => return (common, .address codeFile)
  | (_, none) => .error .missingArgument

/-- The grammar of `encode`. -/
def encodeGrammar : Grammar (Common × List Patch) :=
  grammar [] [.several fun word patches => return patches ++ [← readPatch word]]

/-- Reads the words of `encode`. -/
def readEncode (words : List String) : Except Fault (Common × Command) := do
  match ← encodeGrammar.read ({}, []) words with
  | (_, []) => .error .missingArgument
  | (common, patches) => return (common, .encode patches)

/-- The grammar of `info`. -/
def infoGrammar : Grammar (Common × Unit) := grammar [] []

/-- Reads the words of `info`. -/
def readInfo (words : List String) : Except Fault (Common × Command) := do
  let (common, _) ← infoGrammar.read ({}, ()) words
  return (common, .info)

/-! ## The whole line -/

/-- The commands by name. -/
def commands : List (String × (List String → Except Fault (Common × Command))) :=
  [("run", readRun), ("address", readAddressCommand), ("encode", readEncode), ("info", readInfo)]

/-- The name of the command that asks for help. -/
def helpName : String := "help"

/-- The grammar of what stands before a command. -/
def topGrammar : Grammar Common where
  options := commonOptions ++ [("version", .flag fun _ => .error .version)]
  letters := [('h', .help), ('V', .version)]
  commands := helpName :: commands.map (·.1)

/-- What a request for help comes to: it may name one command. -/
def helpFault : List String → Fault
  | [] => .help
  | [name] => if topGrammar.commands.contains name then .help else .unknownCommand
  | _ => .unknownCommand

/-- Reads a command line: the words after the name of the program. -/
def read (words : List String) : Except Fault CommandLine := do
  let (p, found) ← topGrammar.sort { record := {}, places := [] } words
  match found with
  | none =>
    let common ← p.settle
    .error (if common.isEmpty then .nothing else .missingCommand)
  | some (name, rest) =>
    match commands.lookup name with
    | none => .error (helpFault rest)
    | some reader =>
      let (among, command) ← reader rest
      let common := (← p.settle).override among
      return {
        config := common.config.getD Settings.defaultPath
        format := common.format
        encrypted := common.encrypted
        command }

end CommandLine
end CheatCode
