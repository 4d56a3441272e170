/-
# Machines

A machine made of values: a disk, what has been put on its two channels, and a clock that moves
only while the program waits.  Programs run on it as functions of its state.
-/

import CheatCode.Host
import CheatCode.Machine.Disk

namespace CheatCode

/-- The state of a machine. -/
structure Machine where
  disk : Disk := {}
  output : String := ""
  reports : Array Line := #[]
  clock : Nat := 0

namespace Machine

/-- Runs a program on the machine. -/
def run {α : Type} (machine : Machine) (program : StateM Machine α) : α × Machine :=
  StateT.run program machine

/-- A change of the disk that may fail, in which case the disk stays. -/
def change (act : Disk → Except FileError Disk) : StateM Machine (Except FileError Unit) :=
  fun machine =>
    match act machine.disk with
    | .ok disk => (.ok (), { machine with disk })
    | .error e => (.error e, machine)

instance : Host (StateM Machine) where
  readFile path := fun machine => ((machine.disk.read path).map File.bytes, machine)
  writeFile path content := change fun disk => disk.write path content
  openLog path := change fun disk => disk.ensure path
  appendLog path event := modify fun machine =>
    { machine with disk := machine.disk.append path event }
  print text := modify fun machine => { machine with output := machine.output ++ text ++ "\n" }
  report line := modify fun machine => { machine with reports := machine.reports.push line }
  wait milliseconds := modify fun machine =>
    { machine with clock := machine.clock + milliseconds }

end Machine
end CheatCode
