import Retimer.Endpoint
import Retimer.Topology

/-!
# Providers

A provider stands between a part and the framework. *Probing* it identifies the part and makes one
endpoint per channel; *removing* it gives all endpoints up again. In between the framework resolves
its bindings to endpoints and changes their modes.

Endpoints belong to the factory, so each one that was made has to be given up exactly once. The
rule that sees to it is that there is one way out: whether the framework removes the provider or
an endpoint of a half-finished probe could not be made, the same walk over all channels takes every
endpoint out of the map and hands its handle back.

A provider is a value, and an operation that changes it gives the changed provider beside its
result. The world in which it operates stays outside.

## Main definitions

* `Provider.probe`, `Provider.remove`: its life
* `Provider.resolve`, `Provider.endpoint?`, `Provider.endpoints`: three ways to look endpoints up
-/

namespace Retimer

/-- Where a provider is in its life. -/
inductive ProviderState
  /-- Not probed yet, or removed. -/
  | uninit
  /-- The part is being identified. -/
  | discovering
  /-- Endpoints are being made. -/
  | creatingEndpoints
  /-- Endpoints can be resolved. -/
  | ready
  /-- The last probe failed. -/
  | failed
deriving DecidableEq

/-- A part as the framework sees it. -/
structure Provider (η : Type) where
  /-- The member of the family that was declared. -/
  variant : Variant
  /-- Where the provider is in its life. -/
  state : ProviderState
  /-- What the last probe found, if it succeeded. -/
  topology? : Option Topology
  /-- The endpoints that exist. -/
  endpointMap : EndpointMap η

namespace Provider

variable {σ η : Type}

/-- A provider for a declared member of the family, not probed yet. -/
def new (variant : Variant) : Provider η := ⟨variant, .uninit, none, .empty⟩

/-! ## Giving endpoints up -/

/-- Takes the endpoints of the given channels out of a map and hands their handles back. Channels
without an endpoint are passed over. -/
def dismantle [Factory σ η] : List Channel → EndpointMap η → Action σ η (EndpointMap η)
  | [], m => return m
  | c :: cs, m =>
    match m.find? c with
    | none => dismantle cs m
    | some e => do
      Action.destroy e.handle
      Action.record (.endpointDestroyed c)
      dismantle cs (m.erase c)

/-- Gives every endpoint up, in ascending order of channel. -/
def remove [Factory σ η] (p : Provider η) : Action σ η (Provider η) := do
  let endpointMap ← dismantle Channel.all p.endpointMap
  return { p with endpointMap, topology? := none, state := .uninit }

/-! ## Probing -/

/-- Makes an endpoint for each of the given channels. At the first one that cannot be made, or that
there is no room for, those that exist are given up again. -/
def populate [Factory σ η] :
    List Channel → Provider η → Action σ η (Except Failure Unit × Provider η)
  | [], p => return (.ok (), p)
  | c :: cs, p => do
    match ← Action.create c with
    | .ok handle =>
      match p.endpointMap.insert? c ⟨c, handle⟩ with
      | some endpointMap =>
        Action.record (.endpointCreated c)
        populate cs { p with endpointMap }
      | none =>
        Action.destroy handle
        let p ← p.remove
        return (.error .allocationFailure, p)
    | .error failure =>
      Action.record (.endpointCreateFailed c failure)
      let p ← p.remove
      return (.error failure, p)

/-- Notes a part whose size is not that of the declared member. -/
def noteMismatch (p : Provider η) (found : Topology) : Action σ η Unit :=
  if found.channels ≠ p.variant.channelCount then
    Action.record (.variantMismatch p.variant found.channels)
  else
    return ()

/-- Makes the endpoints that a topology calls for. -/
def install [Factory σ η] (p : Provider η) (found : Topology) :
    Action σ η (Except Failure Unit × Provider η) := do
  p.noteMismatch found
  let (outcome, p) ←
    populate (Channel.first found.channels.toNat) { p with state := .creatingEndpoints }
  match outcome with
  | .ok () => return (.ok (), { p with topology? := some found, state := .ready })
  | .error failure => return (.error failure, { p with state := .failed })

/-- Identifies the part and makes its endpoints. A provider that is ready is left alone; one whose
probe fails has no endpoints, and may be probed again. -/
def probe [Bus σ] [Factory σ η] (p : Provider η) : Action σ η (Except Failure Unit × Provider η) :=
  if p.state = .ready then
    return (.ok (), p)
  else do
    match ← Topology.discover.run with
    | .ok found => install { p with topology? := none, state := .discovering } found
    | .error failure => return (.error failure, { p with topology? := none, state := .failed })

/-! ## Looking endpoints up -/

/-- The endpoint of a channel, if the channel is populated. -/
def endpoint? (p : Provider η) (c : Channel) : Option (Endpoint η) := p.endpointMap.find? c

/-- The populated channels' endpoints, in ascending order of channel. -/
def endpoints (p : Provider η) : List (Endpoint η) := p.endpointMap.toList

/-- The endpoint that binding arguments call for. Arguments that are not a single cell are
recorded. -/
def resolve (p : Provider η) (args : List UInt32) : Attempt σ η (Endpoint η) := do
  match Channel.ofArgs args with
  | .ok c =>
    match p.endpoint? c with
    | some e => return e
    | none => throw .invalidChannel
  | .error failure =>
    if failure = .invalidBinding then
      Attempt.record (.badBindingArgs args.length)
    throw failure

end Provider

end Retimer
