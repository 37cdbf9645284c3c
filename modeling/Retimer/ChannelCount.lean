/-!
# Channel counts

The family has two sizes, and the part tells which one it is through the low half of its channel
configuration register. Any other value there is a topology nobody knows how to drive.
-/

namespace Retimer

/-- How many channels a part has. -/
inductive ChannelCount
  | four
  | eight
deriving DecidableEq

namespace ChannelCount

/-- The size as a number. -/
def toNat : ChannelCount → Nat
  | four => 4
  | eight => 8

/-- The size that a channel configuration value stands for. -/
def ofConfigId? (id : UInt8) : Option ChannelCount :=
  if id = 0xC then some eight else if id = 0xE then some four else none

end ChannelCount

end Retimer
