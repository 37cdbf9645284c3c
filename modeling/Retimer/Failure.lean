/-!
# Failures

Two layers can go wrong. The transport that carries single register accesses reports a `BusFault`,
which names what happened on the wires. The driver itself reports a `Failure`, which names what it
could not do. The driver never acts on which fault it met: every fault becomes the one failure
`Failure.ioFailure`, and the fault survives only in the record that is kept of it.

Both kinds are numbered for the outside world, from one upwards.
-/

namespace Retimer

/-! ## Faults of the transport -/

/-- What the transport reports when a register access does not go through. -/
inductive BusFault
  /-- The device address was not acknowledged. -/
  | noDevice
  /-- A byte written to the device was not acknowledged. -/
  | noRegister
  /-- The bus locked up and was reset. -/
  | busLocked
  /-- The bus was reset during the access. -/
  | busReset
  /-- The controller appeared busy and was reset. -/
  | controllerBusy
deriving DecidableEq

namespace BusFault

/-- Every fault, in the order of its code. -/
def all : List BusFault := [noDevice, noRegister, busLocked, busReset, controllerBusy]

/-- The number by which a fault is known outside. -/
def code : BusFault → Nat
  | noDevice => 1
  | noRegister => 2
  | busLocked => 3
  | busReset => 4
  | controllerBusy => 5

/-- The fault with a given number, if there is one. -/
def ofCode? (n : Nat) : Option BusFault := all.find? (·.code = n)

end BusFault

/-! ## Failures of the driver -/

/-- Why an operation of the driver did not succeed. -/
inductive Failure
  /-- A register access failed on the bus. -/
  | ioFailure
  /-- The channel configuration names no known topology. -/
  | unknownTopology
  /-- There is no recipe for the requested mode. -/
  | unsupportedMode
  /-- The requested channel has no endpoint. -/
  | invalidChannel
  /-- The binding arguments are not exactly one channel cell. -/
  | invalidBinding
  /-- An endpoint could not be created. -/
  | allocationFailure
deriving DecidableEq

namespace Failure

/-- Every failure, in the order of its code. -/
def all : List Failure :=
  [ioFailure, unknownTopology, unsupportedMode, invalidChannel, invalidBinding, allocationFailure]

/-- The number by which a failure is known outside. -/
def code : Failure → Nat
  | ioFailure => 1
  | unknownTopology => 2
  | unsupportedMode => 3
  | invalidChannel => 4
  | invalidBinding => 5
  | allocationFailure => 6

/-- The failure with a given number, if there is one. -/
def ofCode? (n : Nat) : Option Failure := all.find? (·.code = n)

/-- A fault of the transport, as the driver reports it: which fault it was makes no difference. -/
def ofBusFault (_ : BusFault) : Failure := ioFailure

end Failure

/-! ## Numbers and names agree -/

/-- A number names a fault exactly when it is that fault's code. -/
theorem BusFault.ofCode?_eq_some_iff {n : Nat} {f : BusFault} :
    ofCode? n = some f ↔ f.code = n := by
  constructor
  · intro h
    simpa using List.find?_some h
  · rintro rfl
    cases f <;> rfl

/-- A number names a failure exactly when it is that failure's code. -/
theorem Failure.ofCode?_eq_some_iff {n : Nat} {f : Failure} :
    ofCode? n = some f ↔ f.code = n := by
  constructor
  · intro h
    simpa using List.find?_some h
  · rintro rfl
    cases f <;> rfl

end Retimer
