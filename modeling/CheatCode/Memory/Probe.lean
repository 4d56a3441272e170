/-
# Memory probes

A memory that serves every access: each read answers the same number, and all accesses are kept in
order.
-/

import CheatCode.Memory

namespace CheatCode

/-- One access to a memory. -/
inductive Access where
  | read (address size : UInt64)
  | write (address size value : UInt64)
  deriving DecidableEq, Repr

/-- A memory that records how it is used. -/
structure Probe where
  answer : UInt64
  accesses : Array Access := #[]
  deriving DecidableEq, Repr

instance : Accessor Probe where
  read probe address size :=
    pure (probe.answer, { probe with accesses := probe.accesses.push (.read address size) })
  write probe address size value :=
    pure { probe with accesses := probe.accesses.push (.write address size value) }

end CheatCode
