/-
# The program on a real machine

The host that reads and writes the files of the machine it runs on, and the entry of the program.
-/

import CheatCode.Program

namespace CheatCode

/-- The file error with a number of the operating system.  Some calls give the number as it is and
others what it lacks to zero. -/
def FileError.ofNumber? (number : UInt32) : Option FileError :=
  match min number (0 - number) with
  | 2 => some .notFound
  | 13 => some (.other "Permission denied (os error 13)")
  | 20 => some .notDirectory
  | 21 => some .isDirectory
  | 36 => some .nameTooLong
  | _ => none

/-- The file error that a failure of the machine comes to. -/
def FileError.ofMachine (e : IO.Error) : FileError :=
  let known := match e with
    | .noFileOrDirectory _ number _ | .inappropriateType _ number _
    | .invalidArgument _ number _ | .permissionDenied _ number _ => ofNumber? number
    | _ => none
  known.getD (.other (toString e))

/-- Takes an action whose failures are file errors. -/
def attempt {α : Type} (act : IO α) : IO (Except FileError α) := do
  try
    return .ok (← act)
  catch e =>
    return .error (.ofMachine e)

instance : Host IO where
  readFile path := attempt (IO.FS.readBinFile path)
  writeFile path content := attempt (IO.FS.writeBinFile path content)
  openLog path := attempt do
    let directory := "/".intercalate (path.splitOn "/").dropLast
    unless directory.isEmpty do IO.FS.createDirAll directory
    let handle ← IO.FS.Handle.mk path .append
    handle.flush
  appendLog path event := do
    let handle ← IO.FS.Handle.mk path .append
    handle.putStrLn s!"{event.level.label} {event.shown}"
  print text := IO.println text
  report
    | .event event => IO.eprintln s!"{event.level.label} {event.shown}"
    | .text text => IO.eprintln text
  wait milliseconds := do
    let longest := 0x80000000
    for _ in [0 : milliseconds / longest] do IO.sleep (UInt32.ofNat longest)
    IO.sleep (UInt32.ofNat (milliseconds % longest))

end CheatCode

/-- Runs the program. -/
def main (words : List String) : IO UInt32 := do
  let wish ← IO.getEnv "RUST_LOG"
  let outcome ← (CheatCode.Program.execute words wish : IO CheatCode.Program.Outcome)
  return outcome.code.toUInt32
