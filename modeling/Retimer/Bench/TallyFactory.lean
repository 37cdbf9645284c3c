import Retimer.Action

/-!
# A factory that keeps a tally

The factory that goes with a simulated part notes which channels it made endpoints for and which
endpoints came back. A handle is the channel itself, so an endpoint made anew has the handle of the
one before it. One channel may be refused, always.
-/

namespace Retimer.Bench

/-- A factory that notes what it made and what came back. -/
structure TallyFactory where
  /-- The channels that endpoints were made for, in order. -/
  created : List Channel
  /-- The handles that came back, in order. -/
  destroyed : List Channel
  /-- The place of the channel that is refused, if one is. -/
  refused? : Option Nat

namespace TallyFactory

/-- Nothing made yet; the channel at `refused?` is refused. -/
def blank (refused? : Option Nat) : TallyFactory := ⟨[], [], refused?⟩

instance : Factory TallyFactory Channel where
  create channel f :=
    if f.refused? = some channel.toNat then (.error .allocationFailure, f)
    else (.ok channel, { f with created := f.created ++ [channel] })
  destroy handle f := { f with destroyed := f.destroyed ++ [handle] }

/-- The channels that were made and never came back. -/
def live (f : TallyFactory) : List Channel := f.created.filter (· ∉ f.destroyed)

end TallyFactory

end Retimer.Bench
