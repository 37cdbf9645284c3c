import Retimer.Register.Access

/-!
# Recipes

A channel is programmed for a line rate by a fixed sequence of masked writes. Equalisation and
clock recovery are set once and for all for the boards the part sits on, so the two rates differ
in one field only.

The first two writes choose the channel, and the rest go to that channel's own registers. They
hold the clock recovery in reset while the rate and the filter change, and release it at the end.

Programming does not stop at a failure. Every step is tried, so that the part ends up as far along
as it can be brought.

## Main definitions

* `recipe`: the sequence
* `MaskedWrite.applyAll`: trying every write of a list
* `configure`, `configureAll`: programming a channel, or several in turn
-/

namespace Retimer

/-! ## The sequence -/

/-- How many writes a recipe has. -/
abbrev recipeLength : Nat := 13

/-- The field of the rate register that stands for a rate. -/
def rateField : LineRate → UInt8
  | .tenG => 0x00
  | .twentyFiveG => 0x50

/-- The writes that program a channel for a rate. -/
def recipe (channel : Channel) (rate : LineRate) : Vector MaskedWrite recipeLength :=
  #v[
    -- accesses go to the registers of one channel
    ⟨.smbusControl, 0x01, 0x03⟩,
    ⟨.channelSelect, channel.selectMask, fullMask⟩,
    -- reset them
    ⟨.channelReset, 0x04, 0x04⟩,
    -- hold the clock recovery while the rate changes
    ⟨.cdrControl, 0x0C, 0x0C⟩,
    ⟨.rateSelect, rateField rate, 0xF0⟩,
    -- enable the filter
    ⟨.mainCursor, 0x80, 0x80⟩,
    -- main cursor +15
    ⟨.mainCursor, 0x00, 0x40⟩,
    ⟨.mainCursor, 0x0F, 0x1F⟩,
    -- pre-cursor -4
    ⟨.preCursor, 0x40, 0x40⟩,
    ⟨.preCursor, 0x04, 0x0F⟩,
    -- post-cursor -4
    ⟨.postCursor, 0x40, 0x40⟩,
    ⟨.postCursor, 0x04, 0x0F⟩,
    -- release the clock recovery
    ⟨.cdrControl, 0x00, 0x0C⟩]

/-! ## Carrying it out -/

variable {σ η : Type} [Bus σ]

/-- Tries each write of a list in turn, whatever became of the ones before, and says how each one
went. -/
def MaskedWrite.applyAll : List MaskedWrite → Action σ η (List (Except Failure Unit))
  | [] => return []
  | w :: ws => do
    let outcome ← w.apply.run
    let outcomes ← applyAll ws
    return outcome :: outcomes

/-- Programs a channel for a rate. The success is recorded, and reported, only if every step went
through. -/
def configure (channel : Channel) (rate : LineRate) : Attempt σ η Unit := ExceptT.mk do
  let outcomes ← MaskedWrite.applyAll (recipe channel rate).toList
  if outcomes.all Except.isOk then
    Action.record (.configured channel rate)
    return .ok ()
  else
    return .error .ioFailure

/-- Programs channels in turn, each for its rate, and says how each programming went. -/
def configureAll : List (Channel × LineRate) → Action σ η (List (Except Failure Unit))
  | [] => return []
  | (channel, rate) :: calls => do
    let outcome ← (configure channel rate).run
    let outcomes ← configureAll calls
    return outcome :: outcomes

end Retimer
