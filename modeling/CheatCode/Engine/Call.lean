/-
# Calls

All that a host can ask of an engine.  A call takes the engine and a memory, and leaves both with an
answer.  Only `start`, `stop` and `dispose` change an engine, and only `execute` uses the memory.
-/

import CheatCode.Engine

namespace CheatCode
namespace Engine

/-- A call of an engine. -/
inductive Call where
  | start (text : String) (encrypted : Bool)
  | stop
  | dispose
  | execute
  | address (text : String) (encrypted : Bool)
  | encode (patches : List Patch) (encrypted : Bool)
  | encrypt (text : String)
  | decrypt (text : String)
  | info
  deriving DecidableEq, Repr

/-- What a call answers. -/
inductive Answer where
  | nothing
  | address (address : UInt64)
  | text (text : String)
  | failed (error : Patch.EncodeError)
  | info (info : Info)
  deriving DecidableEq, Repr

variable {μ : Type} [Accessor μ]

/-- What a call answers, and the engine and the memory after it. -/
def call (engine : Engine) (memory : μ) : Call → Traced ((Engine × Answer) × μ)
  | .start text encrypted => do
    let engine ← engine.start text encrypted
    return ((engine, .nothing), memory)
  | .stop => do
    let engine ← engine.stop
    return ((engine, .nothing), memory)
  | .dispose => do
    let engine ← engine.dispose
    return ((engine, .nothing), memory)
  | .execute => do
    let memory ← engine.execute memory
    return ((engine, .nothing), memory)
  | .address text encrypted => do
    let address ← engine.address text encrypted
    return ((engine, .address address), memory)
  | .encode patches encrypted =>
    match engine.encode patches encrypted with
    | .ok text => return ((engine, .text text), memory)
    | .error error => return ((engine, .failed error), memory)
  | .encrypt text => return ((engine, .text (engine.encrypt text)), memory)
  | .decrypt text => return ((engine, .text (engine.decrypt text)), memory)
  | .info => return ((engine, .info engine.info), memory)

end Engine
end CheatCode
