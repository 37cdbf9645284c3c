import Retimer.Channel
import Retimer.Mode
import Retimer.Register.Basic
import Retimer.Variant

/-!
# Records

Everything the driver does that someone may later want to know leaves a `Record`. A record is a
plain value: it says what happened, and nothing is decided by it.
-/

namespace Retimer

/-- One thing worth remembering. -/
inductive Record
  /-- Nothing yet. -/
  | none
  /-- Reading a register failed. -/
  | readFailed (register : Register) (fault : BusFault)
  /-- Writing a register failed; `value` is the byte that was put on the bus. -/
  | writeFailed (register : Register) (value : UInt8) (fault : BusFault)
  /-- What the part calls itself. -/
  | identity (deviceId version : UInt8)
  /-- The part is none that the driver was tried with. -/
  | unknownDeviceId (deviceId : UInt8)
  /-- The channel configuration stands for no known size. -/
  | unknownChannelConfig (configId : UInt8)
  /-- The size the part reports. -/
  | channels (count : ChannelCount)
  /-- The revisions of the channel registers and of the shared ones. -/
  | versions (channel share : UInt8)
  /-- The size the part reports is not the one its declared member is sold with. -/
  | variantMismatch (variant : Variant) (count : ChannelCount)
  /-- An endpoint was created. -/
  | endpointCreated (channel : Channel)
  /-- An endpoint could not be created. -/
  | endpointCreateFailed (channel : Channel) (failure : Failure)
  /-- An endpoint was destroyed. -/
  | endpointDestroyed (channel : Channel)
  /-- Binding arguments came with a wrong number of cells. -/
  | badBindingArgs (cells : Nat)
  /-- A mode was asked for that has no rate. -/
  | unsupportedMode (channel : Channel) (mode : PhyMode) (submode : InterfaceMode)
  /-- A mode was asked for by numbers that are not both the number of a mode. -/
  | unsupportedRawMode (channel : Channel) (mode submode : UInt32)
  /-- A channel was programmed, every step of it. -/
  | configured (channel : Channel) (rate : LineRate)
deriving DecidableEq

end Retimer
