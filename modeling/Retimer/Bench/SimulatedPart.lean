import Retimer.Bench.RegisterFile
import Retimer.Topology

/-!
# A simulated part

The simplest part to try the driver on: a register file that remembers every access made to it.
Some of its registers may refuse to be read and some to be written. An access that is refused is
remembered all the same.
-/

namespace Retimer.Bench

/-- An access, whether or not it went through. -/
inductive Access
  | read (address : UInt8)
  | write (address value : UInt8)
deriving DecidableEq

/-- A register file that remembers its accesses. -/
structure SimulatedPart where
  /-- The registers. -/
  registers : RegisterFile
  /-- The accesses so far, oldest first. -/
  log : List Access
  /-- The addresses that refuse to be read. -/
  unreadable : List UInt8
  /-- The addresses that refuse to be written. -/
  unwritable : List UInt8

namespace SimulatedPart

/-! ## Setting up -/

/-- Registers of zero, none of which refuses anything. -/
def blank : SimulatedPart := ⟨.blank, [], [], []⟩

/-- Stores a byte, past the log. -/
def holding (part : SimulatedPart) (address value : UInt8) : SimulatedPart :=
  { part with registers := part.registers.set address value }

/-- A part in good health that reports a channel configuration. -/
def healthy (configId : UInt8) : SimulatedPart :=
  { blank with
    registers := RegisterFile.blank.setAll [(Register.deviceId.address, knownDeviceId),
      (Register.version.address, 0x03), (Register.channelConfigId.address, 0xF0 ||| configId),
      (Register.channelVersion.address, 0x21)] }

/-- Makes an address refuse to be read. -/
def refusingRead (part : SimulatedPart) (address : UInt8) : SimulatedPart :=
  { part with unreadable := part.unreadable ++ [address] }

/-- Makes an address refuse to be written. -/
def refusingWrite (part : SimulatedPart) (address : UInt8) : SimulatedPart :=
  { part with unwritable := part.unwritable ++ [address] }

/-- Forgets the accesses so far. -/
def forget (part : SimulatedPart) : SimulatedPart := { part with log := [] }

/-! ## Behaviour -/

/-- Remembers an access. -/
def remember (part : SimulatedPart) (access : Access) : SimulatedPart :=
  { part with log := part.log ++ [access] }

instance : Bus SimulatedPart where
  readByte address part :=
    let after := part.remember (.read address)
    if address ∈ part.unreadable then (.error .noRegister, after)
    else (.ok (part.registers.get address), after)
  writeByte address value part :=
    let after := part.remember (.write address value)
    if address ∈ part.unwritable then (.error .noDevice, after)
    else (.ok (), after.holding address value)

/-! ## Looking at the log -/

/-- How many reads were tried. -/
def reads (part : SimulatedPart) : Nat :=
  part.log.countP fun
    | .read _ => true
    | .write .. => false

/-- The writes that were tried, in order, each with its address and byte. -/
def writes (part : SimulatedPart) : List (UInt8 × UInt8) :=
  part.log.filterMap fun
    | .read _ => none
    | .write address value => some (address, value)

end SimulatedPart

end Retimer.Bench
