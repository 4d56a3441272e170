/-
# Sessions

An engine and a memory used step by step.  The engine of a session may be held behind a closed
handle, which takes every step but does not show the codes inside; and a step may reach the memory
directly or through another hand.  Neither changes what a step does.
-/

import CheatCode.Engine.Call
import CheatCode.Engine.Drive
import CheatCode.Memory.Call
import CheatCode.Memory.Image
import CheatCode.Memory.Probe

namespace CheatCode

/-- The memory of a session. -/
inductive Memory where
  | image (image : Image)
  | probe (probe : Probe)
  deriving DecidableEq, Repr

namespace Memory

instance : Accessor Memory where
  read memory address size :=
    match memory with
    | .image i => do
      let (value, i) ← Accessor.read i address size
      return (value, .image i)
    | .probe p => do
      let (value, p) ← Accessor.read p address size
      return (value, .probe p)
  write memory address size value :=
    match memory with
    | .image i => return .image (← Accessor.write i address size value)
    | .probe p => return .probe (← Accessor.write p address size value)

/-- The memory with no access on record. -/
def cleared : Memory → Memory
  | .image i => .image i
  | .probe p => .probe { p with accesses := #[] }

end Memory

/-- An engine, open or behind a closed handle, and a memory. -/
structure Session where
  engine : Engine
  closed : Bool
  memory : Memory
  deriving DecidableEq, Repr

namespace Session

/-- How a step reaches the memory. -/
inductive Route where
  | direct
  | forwarded
  deriving DecidableEq, Repr

/-- One step of a session. -/
inductive Step where
  | start (text : String) (encrypted : Bool)
  | stop
  | dispose
  | execute (route : Route)
  | cycles (count period : Nat) (route : Route)
  | address (text : String) (encrypted : Bool)
  | encode (patches : List Patch) (encrypted : Bool)
  | encrypt (text : String)
  | decrypt (text : String)
  | info
  | read (address size : UInt64) (route : Route)
  | readByte (address : UInt64) (route : Route)
  | readPair (address : UInt64) (route : Route)
  | write (address size value : UInt64) (route : Route)
  | writeByte (address : UInt64) (value : UInt8) (route : Route)
  | writePair (address : UInt64) (value : UInt16) (route : Route)
  | newEngine (format : Format) (closed : Bool)
  | newMemory (memory : Memory)
  | drop
  deriving DecidableEq, Repr

/-- What a step answers. -/
inductive Reply where
  | nothing
  | elapsed (milliseconds : Nat)
  | address (address : UInt64)
  | text (text : String)
  | failed (error : Patch.EncodeError)
  | info (info : Engine.Info)
  | word (value : UInt64)
  | byte (value : UInt8)
  | pair (value : UInt16)
  | bytes (bytes : Array UInt8)
  deriving DecidableEq, Repr

/-- What a step answers that is a call of the engine. -/
def replyTo : Engine.Answer → Reply
  | .nothing => .nothing
  | .address address => .address address
  | .text text => .text text
  | .failed error => .failed error
  | .info info => .info info

/-- What a step answers that is a call of the memory. -/
def replyOf : Accessor.Answer → Reply
  | .nothing => .nothing
  | .word value => .word value
  | .byte value => .byte value
  | .pair value => .pair value

/-- Lets a computation use the memory by a route. -/
def Route.through (route : Route) (memory : Memory)
    (use : {μ : Type} → [Accessor μ] → μ → Traced μ) : Traced Memory :=
  match route with
  | .direct => use memory
  | .forwarded => do return (← use (Forwarded.mk memory)).inner

/-- Lets a computation that answers something use the memory by a route. -/
def Route.reading {α : Type} (route : Route) (memory : Memory)
    (use : {μ : Type} → [Accessor μ] → μ → Traced (α × μ)) : Traced (α × Memory) :=
  match route with
  | .direct => use memory
  | .forwarded => do
    let (value, memory) ← use (Forwarded.mk memory)
    return (value, memory.inner)

/-- The session with its memory changed. -/
def withMemory (session : Session) (memory : Traced Memory) : Traced Session := do
  return { session with memory := ← memory }

/-- Calls the engine of a session, which reaches the memory by a route. -/
def calling (session : Session) (route : Route) (call : Engine.Call) :
    Traced (Session × Reply) := do
  let ((engine, answer), memory) ←
    route.reading session.memory fun memory => session.engine.call memory call
  return ({ session with engine, memory }, replyTo answer)

/-- Calls the memory of a session by a route. -/
def accessing (session : Session) (route : Route) (call : Accessor.Call) :
    Traced (Session × Reply) := do
  let (answer, memory) ← route.reading session.memory fun memory => Accessor.call memory call
  return ({ session with memory }, replyOf answer)

/-- What a step does to a session whose memory has no access on record, and what it answers. -/
def perform (session : Session) : Step → Traced (Session × Reply)
  | .start text encrypted => session.calling .direct (.start text encrypted)
  | .stop => session.calling .direct .stop
  | .dispose => session.calling .direct .dispose
  | .execute route => session.calling route .execute
  | .cycles count period route =>
    let driven := session.withMemory
      (route.through session.memory fun memory => session.engine.drive memory count period)
    do return (← driven, .elapsed driven.elapsed)
  | .address text encrypted => session.calling .direct (.address text encrypted)
  | .encode patches encrypted => session.calling .direct (.encode patches encrypted)
  | .encrypt text => session.calling .direct (.encrypt text)
  | .decrypt text => session.calling .direct (.decrypt text)
  | .info => session.calling .direct .info
  | .read address size route => session.accessing route (.read address size)
  | .readByte address route => session.accessing route (.readByte address)
  | .readPair address route => session.accessing route (.readPair address)
  | .write address size value route => session.accessing route (.write address size value)
  | .writeByte address value route => session.accessing route (.writeByte address value)
  | .writePair address value route => session.accessing route (.writePair address value)
  | .newEngine format closed => do
    let _ ← session.engine.dispose
    return ({ session with engine := { format }, closed }, .nothing)
  | .newMemory memory =>
    let reply : Reply := match session.memory with
      | .image image => .bytes image.bytes
      | .probe _ => .nothing
    return ({ session with memory }, reply)
  | .drop => do
    let _ ← session.engine.dispose
    return ({ session with engine := { format := .standard }, closed := false }, .nothing)

/-- Takes one step: the memory keeps record of the accesses of this step alone. -/
def step (session : Session) (s : Step) : Traced (Session × Reply) :=
  { session with memory := session.memory.cleared }.perform s

end Session
end CheatCode
