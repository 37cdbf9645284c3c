import Retimer.Action

/-!
# A factory that follows a plan

The factory that goes with a scripted bus numbers its endpoints from one and never uses a number
again. Which channels it refuses, why, and how many times is laid out beforehand.
-/

namespace Retimer.Bench

/-- A refusal laid out beforehand. -/
structure PlannedRefusal where
  /-- The place of the channel that is refused. -/
  channel : Nat
  /-- The reason given. -/
  failure : Failure
  /-- How many times it is still refused; none means without limit. -/
  remaining? : Option Nat

namespace PlannedRefusal

/-- Walks a plan for one channel: the reason of the first refusal that applies, if one does, and
the plan afterwards. -/
def walk (channel : Channel) : List PlannedRefusal → Option Failure × List PlannedRefusal
  | [] => (none, [])
  | r :: rs =>
    let pass :=
      let (refused, rs) := walk channel rs
      (refused, r :: rs)
    if r.channel ≠ channel.toNat then pass
    else
      match r.remaining? with
      | none => (some r.failure, r :: rs)
      | some 0 => pass
      | some (k + 1) => (some r.failure, { r with remaining? := some k } :: rs)

end PlannedRefusal

/-- A factory with numbered endpoints and planned refusals. -/
structure ScriptedFactory where
  /-- How many endpoints were made so far. -/
  made : Nat
  /-- The plan of refusals. -/
  plan : List PlannedRefusal

namespace ScriptedFactory

/-- Nothing made yet, and nothing refused. -/
def blank : ScriptedFactory := ⟨0, []⟩

instance : Factory ScriptedFactory Nat where
  create channel f :=
    match PlannedRefusal.walk channel f.plan with
    | (some failure, plan) => (.error failure, { f with plan })
    | (none, plan) => (.ok (f.made + 1), ⟨f.made + 1, plan⟩)
  destroy _ f := f

end ScriptedFactory

end Retimer.Bench
