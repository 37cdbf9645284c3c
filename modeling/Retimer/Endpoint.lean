import Retimer.Recipe

/-!
# Endpoints

An endpoint is a channel that is in use, together with the handle by which the factory knows it.
Through an endpoint the framework asks for the channel's mode. A request that no rate serves is
refused and recorded before the bus is touched.

The driver keeps its endpoints in an `EndpointMap`, keyed by channel. The map has no order that
shows: endpoints are found by key, and listed by going through the channels. It has room for one
endpoint per channel and refuses to hold more.
-/

namespace Retimer

/-- A channel in use. -/
structure Endpoint (η : Type) where
  /-- The channel. -/
  channel : Channel
  /-- The factory's handle for it. -/
  handle : η
deriving DecidableEq

/-! ## Mode requests -/

namespace Endpoint

variable {σ η : Type} [Bus σ]

/-- Programs the endpoint's channel for a mode. -/
def setMode (e : Endpoint η) (mode : PhyMode) (submode : InterfaceMode) : Attempt σ η Unit := do
  match LineRate.forMode mode submode with
  | .ok rate => configure e.channel rate
  | .error failure =>
    Attempt.record (.unsupportedMode e.channel mode submode)
    throw failure

/-- Programs the endpoint's channel for a mode given by numbers. -/
def setModeRaw (e : Endpoint η) (mode submode : UInt32) : Attempt σ η Unit := do
  match PhyMode.ofCode? mode.toNat, InterfaceMode.ofCode? submode.toNat with
  | some mode, some submode => e.setMode mode submode
  | _, _ =>
    Attempt.record (.unsupportedRawMode e.channel mode submode)
    throw .unsupportedMode

end Endpoint

/-! ## Keeping endpoints -/

/-- Endpoints by channel. -/
structure EndpointMap (η : Type) where
  /-- The pairs of a channel and its endpoint. -/
  pairs : List (Channel × Endpoint η)
  /-- No channel has two endpoints. -/
  nodup_keys : (pairs.map Prod.fst).Nodup

namespace EndpointMap

variable {η : Type}

/-- A map without endpoints. -/
def empty : EndpointMap η := ⟨[], .nil⟩

/-- The endpoint of a channel, if there is one. -/
def find? (m : EndpointMap η) (c : Channel) : Option (Endpoint η) :=
  (m.pairs.find? (·.1 = c)).map (·.2)

/-- The map without the endpoint of a channel. -/
def erase (m : EndpointMap η) (c : Channel) : EndpointMap η :=
  ⟨m.pairs.filter (·.1 ≠ c), m.nodup_keys.sublist (List.filter_sublist.map _)⟩

/-- The map with an endpoint for a channel, in place of the one that may have been there. -/
def insert (m : EndpointMap η) (c : Channel) (e : Endpoint η) : EndpointMap η :=
  ⟨(c, e) :: (m.erase c).pairs, List.nodup_cons.mpr ⟨by simp [erase], (m.erase c).nodup_keys⟩⟩

/-- As `insert`, but a map that has no room for another channel refuses it. -/
def insert? (m : EndpointMap η) (c : Channel) (e : Endpoint η) : Option (EndpointMap η) :=
  if (m.insert c e).pairs.length ≤ maxChannels then some (m.insert c e) else none

/-- The endpoints, in ascending order of channel. -/
def toList (m : EndpointMap η) : List (Endpoint η) := Channel.all.filterMap m.find?

/-! ### Finding after a change -/

@[simp] theorem find?_empty (c : Channel) : (empty : EndpointMap η).find? c = none := rfl

@[simp] theorem find?_erase (m : EndpointMap η) (c d : Channel) :
    (m.erase c).find? d = if d = c then none else m.find? d := by
  simp only [find?, erase, List.find?_filter]
  by_cases h : d = c
  · simp [h]
  · rw [if_neg h]
    congr 2
    funext p
    by_cases hp : p.1 = d <;> simp [hp, h]

@[simp] theorem find?_insert (m : EndpointMap η) (c d : Channel) (e : Endpoint η) :
    (m.insert c e).find? d = if d = c then some e else m.find? d := by
  by_cases h : d = c
  · simp [find?, insert, h]
  · have herase := m.find?_erase c d
    simp only [find?, h, if_false] at herase ⊢
    rw [← herase, insert, List.find?_cons_of_neg (by simpa using Ne.symm h)]

end EndpointMap

end Retimer
