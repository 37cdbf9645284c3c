import Retimer.Provider.Basic

/-!
# Operations

What can be asked of the driver, as data. A `Command` goes to the part itself; an `Operation` goes
to a provider, which may pass a command on to the part it holds. Each has one meaning, as an action
that gives a `Reply`.

A run of the driver is then a list, and what holds of every run can be said by induction on it.
-/

namespace Retimer

/-! ## Asking -/

/-- What can be asked of a part. -/
inductive Command
  /-- Read the masked bits of a register. -/
  | read (register : Register) (mask : UInt8)
  /-- Carry a masked write out. -/
  | write (change : MaskedWrite)
  /-- Read a byte, past the driver. -/
  | readByte (address : UInt8)
  /-- Write a byte, past the driver. -/
  | writeByte (address value : UInt8)
  /-- Identify the part. -/
  | discover
  /-- Program a channel. -/
  | configure (channel : Channel) (rate : LineRate)
deriving DecidableEq

/-- What can be asked of a provider. -/
inductive Operation
  /-- Identify the part and make its endpoints. -/
  | probe
  /-- Give all endpoints up. -/
  | remove
  /-- Which member of the family was declared? -/
  | variant
  /-- Which endpoint do binding arguments call for? -/
  | resolve (args : List UInt32)
  /-- Which endpoint does a channel have? -/
  | endpoint (channel : Channel)
  /-- Change the mode of the endpoint that arguments call for. -/
  | setMode (args : List UInt32) (mode : PhyMode) (submode : InterfaceMode)
  /-- The same, with the mode given by numbers. -/
  | setModeRaw (args : List UInt32) (mode submode : UInt32)
  /-- Use the bus directly. -/
  | command (command : Command)
deriving DecidableEq

/-! ## Answering -/

/-- What comes back. -/
inductive Reply (η : Type)
  /-- It was done, or not. -/
  | done (outcome : Except Failure Unit)
  /-- Bits of a register. -/
  | bits (outcome : Except Failure UInt8)
  /-- A byte read past the driver. -/
  | byteRead (outcome : Except BusFault UInt8)
  /-- A byte written past the driver. -/
  | byteWritten (outcome : Except BusFault Unit)
  /-- What the part told about itself. -/
  | topology (outcome : Except Failure Topology)
  /-- The declared member of the family. -/
  | variant (declared : Variant)
  /-- The endpoint that arguments call for. -/
  | resolved (outcome : Except Failure (Endpoint η))
  /-- The endpoint of a channel. -/
  | endpoint (found : Option (Endpoint η))
  /-- The mode was not changed, for there is no endpoint to change it on. -/
  | unresolved (failure : Failure)
  /-- There is no provider to ask. -/
  | noProvider

/-! ## Meaning -/

variable {σ η : Type} [Bus σ]

/-- What a command does. -/
def Command.perform : Command → Action σ η (Reply η)
  | read register mask => return .bits (← (readRegister register mask).run)
  | write change => return .done (← change.apply.run)
  | readByte address => return .byteRead (← Action.readByte address)
  | writeByte address value => return .byteWritten (← Action.writeByte address value)
  | discover => return .topology (← Topology.discover.run)
  | configure channel rate => return .done (← (Retimer.configure channel rate).run)

namespace Provider

/-- Resolves arguments, and does something with the endpoint they call for. -/
def withEndpoint (p : Provider η) (args : List UInt32)
    (use : Endpoint η → Attempt σ η Unit) : Action σ η (Reply η) := do
  match ← (p.resolve args).run with
  | .ok e => return .done (← (use e).run)
  | .error failure => return .unresolved failure

/-- What an operation does: its reply, and the provider afterwards. -/
def perform [Factory σ η] (p : Provider η) : Operation → Action σ η (Reply η × Provider η)
  | .probe => do
    let (outcome, p) ← p.probe
    return (.done outcome, p)
  | .remove => return (.done (.ok ()), ← p.remove)
  | .variant => return (.variant p.variant, p)
  | .resolve args => return (.resolved (← (p.resolve args).run), p)
  | .endpoint channel => return (.endpoint (p.endpoint? channel), p)
  | .setMode args mode submode => return (← p.withEndpoint args (·.setMode mode submode), p)
  | .setModeRaw args mode submode => return (← p.withEndpoint args (·.setModeRaw mode submode), p)
  | .command command => return (← command.perform, p)

/-- What a list of operations does: the replies in order, and the provider afterwards. -/
def performAll [Factory σ η] (p : Provider η) :
    List Operation → Action σ η (List (Reply η) × Provider η)
  | [] => return ([], p)
  | op :: ops => do
    let (reply, p) ← p.perform op
    let (replies, p) ← p.performAll ops
    return (reply :: replies, p)

end Provider

end Retimer
