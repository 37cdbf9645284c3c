import Retimer.Action
import Retimer.Bench.RegisterFile

/-!
# A bus that follows a plan

To see the driver meet trouble, the bench has a bus whose troubles are laid out beforehand. It is a
register file with two additions: *scripts*, values that reads of a register give before its
content shows again, and *planned faults*, accesses that fail.

A planned fault lets a number of accesses through before it strikes, and may strike only so many
times. For each access the plan is walked in order up to the first fault that strikes. Those passed
on the way that were still letting accesses through have let one more through.
-/

namespace Retimer.Bench

/-! ## Planned faults -/

/-- Which way a byte goes. -/
inductive Direction
  | read
  | write
deriving DecidableEq

/-- A fault laid out beforehand. -/
structure PlannedFault where
  /-- The way it concerns; none means both. -/
  direction? : Option Direction
  /-- The address it concerns; none means all. -/
  address? : Option UInt8
  /-- What the access reports when it strikes. -/
  fault : BusFault
  /-- How many accesses it still lets through. -/
  skip : Nat
  /-- How many times it still strikes; none means without limit. -/
  remaining? : Option Nat

namespace PlannedFault

/-- Whether the fault has to do with an access. -/
def concerns (f : PlannedFault) (direction : Direction) (address : UInt8) : Bool :=
  f.direction?.all (· = direction) && f.address?.all (· = address)

/-- Walks a plan for one access: the fault that strikes, if one does, and the plan afterwards. -/
def walk (direction : Direction) (address : UInt8) :
    List PlannedFault → Option BusFault × List PlannedFault
  | [] => (none, [])
  | f :: fs =>
    let pass (f : PlannedFault) :=
      let (struck, fs) := walk direction address fs
      (struck, f :: fs)
    if !f.concerns direction address then pass f
    else if 0 < f.skip then pass { f with skip := f.skip - 1 }
    else
      match f.remaining? with
      | none => (some f.fault, f :: fs)
      | some 0 => pass f
      | some (k + 1) => (some f.fault, { f with remaining? := some k } :: fs)

end PlannedFault

/-! ## Scripts -/

/-- Values that reads of an address give, in order. -/
structure Script where
  /-- The address. -/
  address : UInt8
  /-- The values still to be given. -/
  values : List UInt8

/-- Takes the next value for an address, from the first script for it that has one left. -/
def Script.take (address : UInt8) : List Script → Option (UInt8 × List Script)
  | [] => none
  | s :: ss =>
    match s.values with
    | v :: vs =>
      if s.address = address then some (v, { s with values := vs } :: ss)
      else (take address ss).map fun (v, ss) => (v, s :: ss)
    | [] => (take address ss).map fun (v, ss) => (v, s :: ss)

/-! ## The bus -/

/-- A register file with scripts and planned faults. -/
structure ScriptedBus where
  /-- The registers. -/
  registers : RegisterFile
  /-- The scripts. -/
  scripts : List Script
  /-- The plan of faults. -/
  plan : List PlannedFault

namespace ScriptedBus

/-- Registers of zero, no scripts, and no trouble. -/
def blank : ScriptedBus := ⟨.blank, [], []⟩

/-- Runs an access unless a planned fault strikes it. -/
def guarded {α : Type} (direction : Direction) (address : UInt8) (bus : ScriptedBus)
    (access : ScriptedBus → α × ScriptedBus) : Except BusFault α × ScriptedBus :=
  match PlannedFault.walk direction address bus.plan with
  | (some fault, plan) => (.error fault, { bus with plan })
  | (none, plan) =>
    let (answer, bus) := access { bus with plan }
    (.ok answer, bus)

instance : Bus ScriptedBus where
  readByte address bus := bus.guarded .read address fun bus =>
    match Script.take address bus.scripts with
    | some (value, scripts) => (value, { bus with scripts })
    | none => (bus.registers.get address, bus)
  writeByte address value bus := bus.guarded .write address fun bus =>
    ((), { bus with registers := bus.registers.set address value })

/-! ### Setting up -/

/-- A change to the set-up: registers to store, and new scripts or a new plan where given. -/
structure Setup where
  /-- Bytes to store in turn. -/
  contents : List (UInt8 × UInt8)
  /-- Scripts in place of the present ones. -/
  scripts? : Option (List Script)
  /-- A plan in place of the present one. -/
  plan? : Option (List PlannedFault)

/-- Applies a change to the set-up. -/
def setUp (bus : ScriptedBus) (change : Setup) : ScriptedBus :=
  ⟨bus.registers.setAll change.contents, change.scripts?.getD bus.scripts,
    change.plan?.getD bus.plan⟩

end ScriptedBus

end Retimer.Bench
