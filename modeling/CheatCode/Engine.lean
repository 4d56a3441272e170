/-
# Engines

An engine holds the codes of a format and puts them into a memory.  It is idle until it is
started with a code text and active until it is stopped; a further start while active takes the
new codes in place of the old.  The device's encryption is not known here: encrypted and plain
text are taken to be the same.
-/

import CheatCode.CodeText
import CheatCode.Memory
import CheatCode.Patch

namespace CheatCode

/-- An engine; `codes` is `none` while it is idle, and `error` tells of its last failure. -/
structure Engine where
  format : Format
  codes : Option (List Poke) := none
  error : String := ""
  deriving DecidableEq, Repr

namespace Engine

/-- What can be asked of an engine. -/
structure Info where
  format : Format
  canGetAddress : Bool
  canEncrypt : Bool
  errorText : String
  deriving DecidableEq, Repr

/-- Whether the engine has been started and not stopped since. -/
def isActive (engine : Engine) : Bool := engine.codes.isSome

/-- The codes that the engine puts into memory: none while it is idle. -/
def activeCodes (engine : Engine) : List Poke := engine.codes.getD []

/-- What the engine has to say of its last failure, nothing if there was none. -/
def errorText (engine : Engine) : String := engine.error

/-- Whether the engine can tell the address of a code text. -/
def canGetAddress (_ : Engine) : Bool := true

/-- Whether the engine knows the device's encryption. -/
def canEncrypt (_ : Engine) : Bool := false

/-- The encrypted form of a code text. -/
def encrypt (_ : Engine) (text : String) : String := text

/-- The plain form of an encrypted code text. -/
def decrypt (_ : Engine) (text : String) : String := text

/-- What can be asked of an engine, answered. -/
def info (engine : Engine) : Info where
  format := engine.format
  canGetAddress := engine.canGetAddress
  canEncrypt := engine.canEncrypt
  errorText := engine.errorText

/-- The plain form of a code text that is encrypted if it is said to be and the format allows
it. -/
def plainText (engine : Engine) (text : String) (encrypted : Bool) : String :=
  if encrypted && engine.format.acceptsEncrypted then engine.decrypt text else text

/-- Encrypted text is taken to be plain. -/
@[simp] theorem plainText_eq (engine : Engine) (text : String) (encrypted : Bool) :
    engine.plainText text encrypted = text := by
  unfold plainText
  split <;> rfl

/-- The address that the first code of a text writes to, zero if it has none. -/
def address (engine : Engine) (text : String) (encrypted : Bool) : Traced UInt64 :=
  CodeText.firstAddress (engine.plainText text encrypted)

/-- The code text that carries out some patches. -/
def encode (engine : Engine) (patches : List Patch) (encrypted : Bool) :
    Except Patch.EncodeError String := do
  let text ← Patch.encode patches
  return if encrypted && engine.format.acceptsEncrypted then engine.encrypt text else text

/-- Encrypted or not, the codes written are the same. -/
@[simp] theorem encode_eq (engine : Engine) (patches : List Patch) (encrypted : Bool) :
    engine.encode patches encrypted = Patch.encode patches := by
  unfold encode
  cases Patch.encode patches with
  | error e => rfl
  | ok text => exact congrArg Except.ok (ite_self text)

/-- Takes the codes of a text in place of any held before. -/
def start (engine : Engine) (text : String) (encrypted : Bool) : Traced Engine := do
  let codes ← CodeText.read (engine.plainText text encrypted)
  Traced.emit (.started engine.format codes.length)
  return { engine with codes := some codes }

/-- A start puts the codes of its text in the place of all others. -/
@[simp] theorem value_start (engine : Engine) (text : String) (encrypted : Bool) :
    (engine.start text encrypted).value = { engine with codes := some (CodeText.pokes text) } := by
  simp [start, CodeText.read]

/-- Lets the codes go; nothing happens to an idle engine. -/
def stop (engine : Engine) : Traced Engine := do
  if engine.isActive then Traced.emit (.stopped engine.format)
  return { engine with codes := none }

/-- A stop leaves no codes. -/
@[simp] theorem value_stop (engine : Engine) :
    engine.stop.value = { engine with codes := none } := by
  unfold stop
  split <;> rfl

/-- Ends the engine's work: the same as stopping it. -/
def dispose (engine : Engine) : Traced Engine := engine.stop

/-- There is nothing to end where no codes are held. -/
theorem stop_of_idle {engine : Engine} (h : engine.codes = none) : engine.stop = pure engine := by
  obtain ⟨format, codes, error⟩ := engine
  obtain rfl : codes = none := h
  rfl

/-- Puts every code into the memory, in order; an idle engine touches nothing. -/
def execute {μ : Type} [Accessor μ] (engine : Engine) (memory : μ) : Traced μ :=
  match engine.codes with
  | none => pure memory
  | some codes => do
    let memory ← Traced.fold (fun memory (code : Poke) =>
      Accessor.write memory code.address 1 code.value.toUInt64) memory codes
    Traced.emit (.wrote engine.format codes.length)
    return memory

end Engine
end CheatCode
