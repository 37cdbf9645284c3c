/-!
# Registers

The part has 256 byte registers, of which the driver knows twelve. Six of them exist once per
channel: which copy an access reaches is decided by the channel select register. The others are
shared by the whole part.

A `MaskedWrite` changes some bits of a register and leaves the others as they are. The recipes are
lists of these.
-/

namespace Retimer

/-! ## The register map -/

/-- The registers the driver uses. -/
inductive Register
  /-- Resets the registers of the selected channel. -/
  | channelReset
  /-- Holds the clock recovery of the selected channel in reset. -/
  | cdrControl
  /-- The line rate of the selected channel. -/
  | rateSelect
  /-- Filter enable (bit 7), main cursor sign (bit 6) and magnitude (bits 4 to 0). -/
  | mainCursor
  /-- Pre-cursor sign (bit 6) and magnitude (bits 3 to 0). -/
  | preCursor
  /-- Post-cursor sign (bit 6) and magnitude (bits 3 to 0). -/
  | postCursor
  /-- The channel configuration, in its low half. -/
  | channelConfigId
  /-- The revision of the part. -/
  | version
  /-- The identity of the part. -/
  | deviceId
  /-- The revisions of the channel registers and of the shared registers. -/
  | channelVersion
  /-- One bit per channel: where accesses to the registers of a channel go. -/
  | channelSelect
  /-- Whether accesses reach the shared registers or those of the selected channels. -/
  | smbusControl
deriving DecidableEq

namespace Register

/-- Every register the driver uses, in ascending order of address. -/
def all : List Register :=
  [channelReset, cdrControl, rateSelect, mainCursor, preCursor, postCursor, channelConfigId,
    version, deviceId, channelVersion, channelSelect, smbusControl]

/-- Where a register is. -/
def address : Register → UInt8
  | channelReset => 0x00
  | cdrControl => 0x0A
  | rateSelect => 0x2F
  | mainCursor => 0x3D
  | preCursor => 0x3E
  | postCursor => 0x3F
  | channelConfigId => 0xEF
  | version => 0xF0
  | deviceId => 0xF1
  | channelVersion => 0xF3
  | channelSelect => 0xFC
  | smbusControl => 0xFF

/-- The register at an address, if the driver uses it. -/
def ofAddress? (n : Nat) : Option Register := all.find? (·.address.toNat = n)

/-- A number names a register exactly when it is that register's address. -/
theorem ofAddress?_eq_some_iff {n : Nat} {r : Register} :
    ofAddress? n = some r ↔ r.address.toNat = n := by
  constructor
  · intro h
    simpa using List.find?_some h
  · rintro rfl
    cases r <;> rfl

/-- No two registers share an address. -/
theorem address_injective {r s : Register} (h : r.address = s.address) : r = s := by
  have := ofAddress?_eq_some_iff.mpr (congrArg UInt8.toNat h)
  rwa [ofAddress?_eq_some_iff.mpr rfl, Option.some.injEq, eq_comm] at this

end Register

/-! ## Masked writes -/

/-- The mask that covers a whole register. -/
def fullMask : UInt8 := 0xFF

/-- A change to the bits of one register that `mask` covers. -/
structure MaskedWrite where
  /-- The register to change. -/
  register : Register
  /-- What the covered bits become. -/
  value : UInt8
  /-- Which bits are covered. -/
  mask : UInt8
deriving DecidableEq

/-- What a register holds after the write, if it held `prior` before. -/
def MaskedWrite.merge (w : MaskedWrite) (prior : UInt8) : UInt8 :=
  (w.value &&& w.mask) ||| (prior &&& ~~~w.mask)

/-! ## The version byte -/

/-- The byte of the channel version register. -/
structure ChannelVersion where
  /-- The byte as read. -/
  raw : UInt8
deriving DecidableEq

namespace ChannelVersion

/-- The revision of the channel registers: the high half. -/
def channel (v : ChannelVersion) : UInt8 := v.raw >>> 4

/-- The revision of the shared registers: the low half. -/
def share (v : ChannelVersion) : UInt8 := v.raw &&& 0x0F

/-- The byte and its two halves, written out. -/
def describe (v : ChannelVersion) : String :=
  "ChannelVersion \x7b .0: " ++ toString v.raw.toNat ++ ", channel: " ++ toString v.channel.toNat
    ++ ", share: " ++ toString v.share.toNat ++ " \x7d"

end ChannelVersion

end Retimer
