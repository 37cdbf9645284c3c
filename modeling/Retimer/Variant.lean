import Retimer.ChannelCount

/-!
# Family members

Whoever binds the driver declares which member of the family is fitted, by one of two spellings.
The declaration is not trusted: what counts is the size that discovery finds, and a disagreement
between the two is only noted.
-/

namespace Retimer

/-- A member of the family. -/
inductive Variant
  | ds250df410
  | ds250df810
deriving DecidableEq

namespace Variant

/-- The member that a device tree's compatible string names. -/
def ofCompatible? (name : String) : Option Variant :=
  if name = "ti,ds250df410" then some ds250df410
  else if name = "ti,ds250df810" then some ds250df810
  else none

/-- The member that a bus device table names. -/
def ofDeviceName? (name : String) : Option Variant :=
  if name = "ds250df410" then some ds250df410
  else if name = "ds250df810" then some ds250df810
  else none

/-- The size the member is sold with. -/
def channelCount : Variant → ChannelCount
  | ds250df410 => .four
  | ds250df810 => .eight

end Variant

end Retimer
