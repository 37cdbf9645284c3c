import Retimer.Register.Access

/-!
# Topology

Before the driver can use a part it has to know how many channels there are. *Discovery* reads the
four registers by which a part identifies itself and asks nothing else of it.

Of the answers only the channel configuration decides anything. An identity the driver does not
know is noted and passed over, since the part may well be compatible; the rest is kept for whoever
wants to look.
-/

namespace Retimer

/-- The identity of every part the driver was tried with. -/
def knownDeviceId : UInt8 := 0x10

/-- The bits of the channel configuration register that tell the size. -/
def configIdMask : UInt8 := 0x0F

/-- What a part told about itself. -/
structure Topology where
  /-- Its identity. -/
  deviceId : UInt8
  /-- Its revision. -/
  version : UInt8
  /-- The channel configuration. -/
  configId : UInt8
  /-- The size that the configuration stands for. -/
  channels : ChannelCount
  /-- The revision of the channel registers. -/
  channelVersion : UInt8
  /-- The revision of the shared registers. -/
  shareVersion : UInt8
deriving DecidableEq

variable {σ η : Type}

namespace Topology

/-- Notes what the part calls itself. -/
def noteIdentity (deviceId version : UInt8) : Attempt σ η Unit := do
  Attempt.record (.identity deviceId version)
  if deviceId ≠ knownDeviceId then
    Attempt.record (.unknownDeviceId deviceId)

/-- The size a channel configuration stands for, noted; a configuration that stands for none ends
the attempt. -/
def recogniseSize (configId : UInt8) : Attempt σ η ChannelCount := do
  match ChannelCount.ofConfigId? configId with
  | some count =>
    Attempt.record (.channels count)
    return count
  | none =>
    Attempt.record (.unknownChannelConfig configId)
    throw .unknownTopology

/-- Reads the two revisions, and notes them. -/
def readVersions [Bus σ] : Attempt σ η ChannelVersion := do
  let versions : ChannelVersion := ⟨← readRegister .channelVersion fullMask⟩
  Attempt.record (.versions versions.channel versions.share)
  return versions

/-- Identifies the part. A failed read ends discovery at once. -/
def discover [Bus σ] : Attempt σ η Topology := do
  let deviceId ← readRegister .deviceId fullMask
  let version ← readRegister .version fullMask
  noteIdentity deviceId version
  let configId ← readRegister .channelConfigId configIdMask
  let channels ← recogniseSize configId
  let versions ← readVersions
  return ⟨deviceId, version, configId, channels, versions.channel, versions.share⟩

end Topology

end Retimer
