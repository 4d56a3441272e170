/-
# Code formats

The two formats of codes for this console.  They differ in their names and in whether their
devices took encrypted codes; their lines read the same.

| format | keyword | name | also read from |
| --- | --- | --- | --- |
| `sfcPar` | `sfc-par` | `SFC PAR` | `sfc par` |
| `snesPar` | `snes-par` | `SnesPAR` | `snespar` |
-/

namespace CheatCode

/-- A format of codes. -/
inductive Format where
  | sfcPar
  | snesPar
  deriving DecidableEq, Repr, Inhabited

namespace Format

/-- The format that is meant where none is named. -/
def standard : Format := .sfcPar

/-- The name of the device. -/
def name : Format → String
  | .sfcPar => "SFC PAR"
  | .snesPar => "SnesPAR"

/-- The keyword of the format on the command line and in files. -/
def keyword : Format → String
  | .sfcPar => "sfc-par"
  | .snesPar => "snes-par"

/-- Whether the device took encrypted codes. -/
def acceptsEncrypted : Format → Bool
  | .sfcPar => true
  | .snesPar => false

/-- The format of exactly this keyword. -/
def ofKeyword? (text : String) : Option Format :=
  if text = "sfc-par" then some .sfcPar
  else if text = "snes-par" then some .snesPar
  else none

/-- A text that names no format. -/
structure Unknown where
  text : String
  deriving DecidableEq, Repr

/-- The wording of the fault. -/
def Unknown.message (u : Unknown) : String := "unknown code format: " ++ u.text

/-- The format that a user means: a keyword or a name, with the letters `A` to `Z` of either
case. -/
def read (text : String) : Except Unknown Format :=
  let folded := String.ofList (text.toList.map Char.toLower)
  if folded = "sfc-par" ∨ folded = "sfc par" then .ok .sfcPar
  else if folded = "snes-par" ∨ folded = "snespar" then .ok .snesPar
  else .error ⟨text⟩

end Format
end CheatCode
