/-
# Failures

Why a command cannot be carried out, and how that is told: what failed, and the cause below it.
-/

import CheatCode.Host
import CheatCode.Patch

namespace CheatCode

/-- Why a command fails. -/
inductive Failure where
  | unreadable (path : String) (cause : FileError)
  | unwritable (path : String) (cause : FileError)
  | unencodable (error : Patch.EncodeError)
  deriving DecidableEq, Repr

namespace Failure

/-- The texts that tell of a failure: what failed and, if there is one, the cause. -/
def chain : Failure → List String
  | .unreadable path cause => ["Failed to read " ++ path, cause.message]
  | .unwritable path cause => ["Failed to write " ++ path, cause.message]
  | .unencodable error => [error.message]

/-- The report of a failure. -/
def report (failure : Failure) : List String :=
  match failure.chain with
  | [] => []
  | [text] => ["Error: " ++ text]
  | text :: causes => ["Error: " ++ text, "", "Caused by:"] ++ causes.map ("    " ++ ·)

end Failure

end CheatCode
