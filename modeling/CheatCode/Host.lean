/-
# Hosts

What the program needs of the machine it runs on: files by path, a log kept in a file, two output
channels and a clock.  The program is written once over any host.
-/

import CheatCode.Event

namespace CheatCode

/-- Why a file cannot be used. -/
inductive FileError where
  | notFound
  | isDirectory
  | notDirectory
  | nameTooLong
  /-- The path has a zero character in it. -/
  | zeroInName
  /-- The content was to be text and is not. -/
  | notText
  /-- Any other reason, in the machine's words. -/
  | other (message : String)
  deriving DecidableEq, Repr

/-- The wording of a file error. -/
def FileError.message : FileError → String
  | .notFound => "No such file or directory (os error 2)"
  | .isDirectory => "Is a directory (os error 21)"
  | .notDirectory => "Not a directory (os error 20)"
  | .nameTooLong => "File name too long (os error 36)"
  | .zeroInName => "file name contained an unexpected NUL byte"
  | .notText => "stream did not contain valid UTF-8"
  | .other message => message

/-- What is put on the channel for reports. -/
inductive Line where
  | event (event : Event)
  | text (text : String)
  deriving DecidableEq, Repr

/-- A machine to run on. -/
class Host (m : Type → Type) where
  /-- The content of the file at a path. -/
  readFile (path : String) : m (Except FileError ByteArray)
  /-- Makes or replaces the file at a path. -/
  writeFile (path : String) (content : ByteArray) : m (Except FileError Unit)
  /-- Makes sure that there is a file at a path, and the directories above it: a file that is there
  already is kept. -/
  openLog (path : String) : m (Except FileError Unit)
  /-- Appends an event to a file that has been made sure of. -/
  appendLog (path : String) (event : Event) : m Unit
  /-- Prints a line of output. -/
  print (text : String) : m Unit
  /-- Puts something on the channel for reports. -/
  report (line : Line) : m Unit
  /-- Lets some milliseconds pass. -/
  wait (milliseconds : Nat) : m Unit

/-- Work that may fail runs on the host that its steps run on. -/
instance {ε : Type} {m : Type → Type} [Monad m] [Host m] : Host (ExceptT ε m) where
  readFile path := ExceptT.lift (Host.readFile path)
  writeFile path content := ExceptT.lift (Host.writeFile path content)
  openLog path := ExceptT.lift (Host.openLog path)
  appendLog path event := ExceptT.lift (Host.appendLog path event)
  print text := ExceptT.lift (Host.print text)
  report line := ExceptT.lift (Host.report line)
  wait milliseconds := ExceptT.lift (Host.wait milliseconds)

end CheatCode
