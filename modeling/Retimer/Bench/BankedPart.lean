import Retimer.Bench.SimulatedPart

/-!
# A part with a bank of registers for each channel

A plain register file shows what the driver writes and in which order, but it has one copy of every
register. A real part has a *bank* for each channel, and which bank an access reaches is decided
by the channel select register. That is where channels could get in each other's way: a write that
is meant for one lands in the bank of whichever channel is selected.

A bank is reached while the channel select holds the one bit of its channel. What becomes of an
access to a channel's register while it holds anything else is not laid down anywhere, so here it
is part of the part: `BankedPart.stray` may answer anything and leave anything behind.
-/

namespace Retimer

/-- Whether there is one such register for each channel. -/
def Register.isPerChannel : Register → Bool
  | channelReset | cdrControl | rateSelect | mainCursor | preCursor | postCursor => true
  | _ => false

/-- Whether an address is that of a register of the channels. -/
def isPerChannelAddress (address : UInt8) : Bool :=
  Register.all.any fun r => r.isPerChannel && r.address == address

@[simp] theorem isPerChannelAddress_address (r : Register) :
    isPerChannelAddress r.address = r.isPerChannel := by
  cases r <;> rfl

namespace Bench

/-! ## Contents -/

/-- What the registers of a part hold. -/
structure Contents where
  /-- The registers that all channels share. -/
  shared : RegisterFile
  /-- The registers of a channel. -/
  bank : Channel → RegisterFile

namespace Contents

/-- The contents with another bank for one channel. -/
def setBank (x : Contents) (c : Channel) (file : RegisterFile) : Contents :=
  { x with bank := fun d => if d = c then file else x.bank d }

@[simp] theorem shared_setBank (x : Contents) (c : Channel) (file : RegisterFile) :
    (x.setBank c file).shared = x.shared := rfl

@[simp] theorem bank_setBank (x : Contents) (c d : Channel) (file : RegisterFile) :
    (x.setBank c file).bank d = if d = c then file else x.bank d := rfl

/-- The channel that is selected, if it is exactly one. -/
def selected? (x : Contents) : Option Channel :=
  Channel.all.find? (·.selectMask = x.shared.get Register.channelSelect.address)

/-- The registers that an access to an address reaches. -/
def reached? (x : Contents) (address : UInt8) : Option RegisterFile :=
  if isPerChannelAddress address then x.selected?.map x.bank else some x.shared

/-- The contents after a byte was written to an address. -/
def write? (x : Contents) (address value : UInt8) : Option Contents :=
  if isPerChannelAddress address then
    x.selected?.map fun c => x.setBank c ((x.bank c).set address value)
  else
    some { x with shared := x.shared.set address value }

variable {x : Contents} {c : Channel} {address : UInt8}

theorem reached?_of_shared (h : isPerChannelAddress address = false) :
    x.reached? address = some x.shared := by
  rw [reached?, h, if_neg Bool.false_ne_true]

theorem reached?_of_selected (h : isPerChannelAddress address = true)
    (hc : x.selected? = some c) : x.reached? address = some (x.bank c) := by
  rw [reached?, if_pos h, hc, Option.map_some]

theorem write?_of_shared (h : isPerChannelAddress address = false) (value : UInt8) :
    x.write? address value = some { x with shared := x.shared.set address value } := by
  rw [write?, h, if_neg Bool.false_ne_true]

theorem write?_of_selected (h : isPerChannelAddress address = true) (hc : x.selected? = some c)
    (value : UInt8) :
    x.write? address value = some (x.setBank c ((x.bank c).set address value)) := by
  rw [write?, if_pos h, hc, Option.map_some]

end Contents

/-! ## The part -/

/-- A part with a bank of registers for each channel. -/
structure BankedPart where
  /-- What the registers hold. -/
  contents : Contents
  /-- What an access comes to that reaches no registers: the byte a read gives, and what the
  registers hold afterwards. -/
  stray : Access → Contents → UInt8 × Contents

instance : Bus BankedPart where
  readByte address part :=
    match part.contents.reached? address with
    | some file => (.ok (file.get address), part)
    | none =>
      let (value, contents) := part.stray (.read address) part.contents
      (.ok value, { part with contents })
  writeByte address value part :=
    match part.contents.write? address value with
    | some contents => (.ok (), { part with contents })
    | none =>
      (.ok (), { part with contents := (part.stray (.write address value) part.contents).2 })

end Bench

end Retimer
