import Retimer.Proofs.History
import Retimer.Proofs.Provider.Renewal

/-!
# A probe does everything or nothing

A probe asks the factory for one endpoint after another, and the factory may refuse any of them for
any reason. A provider with some of its endpoints would be of no use to anyone, so the ones that
were made go back, and the caller is told what the factory said.

What the factory is going to say is described here apart from the probe: `Factory.grant` asks for
channels in turn, stops at the first refusal, and knows neither maps nor providers nor records. A
probe is then told in full by two things, what the identification comes to and what the factory
grants after it. Either the provider is ready with exactly what was granted, or it is as empty as a
new one and the factory has got back exactly what it had granted, in the same order.

The map in which a probe keeps its endpoints, and the walk over all channels by which they go back,
do not appear in this. That they leave no trace is what has to be shown, and it is taken from the
journal: a journal is what happened, so that the calls of the factory in it are those of `grant`.

## Main results

* `Factory.grant_of_happened`: endpoints that a journal says were made are granted ones
* `Provider.probe_all_or_nothing`: what a probe comes to
-/

namespace Retimer

variable {σ η : Type}

/-! ## What a factory grants -/

/-- What comes of asking a factory for channels in turn. -/
structure Granted (σ η : Type) where
  /-- The endpoints that were made, in order. -/
  endpoints : List (Endpoint η)
  /-- The channel that was refused, if one was, and why. -/
  refused? : Option (Channel × Failure)
  /-- The world afterwards. -/
  world : σ

namespace Factory

/-- Asks for channels in turn, up to the first refusal. -/
def grant [Factory σ η] : List Channel → σ → Granted σ η
  | [], w => ⟨[], none, w⟩
  | c :: cs, w =>
    match Factory.create c w with
    | (.ok handle, w') =>
      let rest := grant cs w'
      { rest with endpoints := ⟨c, handle⟩ :: rest.endpoints }
    | (.error failure, w') => ⟨[], some (c, failure), w'⟩

/-- The world after endpoints were given back in turn. -/
def reclaim [Factory σ η] : List (Endpoint η) → σ → σ
  | [], w => w
  | e :: es, w => reclaim es (Factory.destroy e.handle w)

variable [Bus σ] [Factory σ η]

/-- Endpoints that a journal says were made are those that are granted. -/
theorem grant_of_happened {es : List (Endpoint η)} {w w' : σ}
    (h : Happened w (es.flatMap Endpoint.made) w') (cs : List Channel) :
    grant (es.map Endpoint.channel ++ cs) w =
      { grant cs w' with endpoints := es ++ (grant cs w').endpoints } := by
  induction es generalizing w with
  | nil => rw [show w' = w from h]; rfl
  | cons e es ih =>
    obtain ⟨hanswer, hrest⟩ := h
    have hcreate : Factory.create e.channel w = (.ok e.handle, (Factory.create e.channel w).2) :=
      Prod.ext hanswer.symm rfl
    rw [List.map_cons, List.cons_append, grant, hcreate]
    simp only [ih hrest, List.cons_append]

theorem reclaim_of_happened {es : List (Endpoint η)} {w w' : σ}
    (h : Happened w (es.flatMap Endpoint.givenUp) w') : reclaim es w = w' := by
  induction es generalizing w with
  | nil => exact Eq.symm h
  | cons e es ih => exact ih h

/-- If nothing was refused, they are all there is. -/
theorem grant_eq_all {es : List (Endpoint η)} {cs : List Channel} {w w' : σ}
    (hes : es.map Endpoint.channel = cs) (h : Happened w (es.flatMap Endpoint.made) w') :
    grant cs w = ⟨es, none, w'⟩ := by
  rw [← hes, ← List.append_nil (es.map _), grant_of_happened h []]
  simp [grant]

/-- And if they were given up because one was refused, the factory has got them back. -/
theorem grant_eq_refused {es : List (Endpoint η)} {c : Channel} {cs rest : List Channel}
    {failure : Failure} {w w' : σ} (hes : es.map Endpoint.channel ++ c :: rest = cs)
    (h : Happened w (es.flatMap Endpoint.made ++ refusal c failure ++
      es.flatMap Endpoint.givenUp) w') :
    ∃ w'', grant cs w = ⟨es, some (c, failure), w''⟩ ∧ reclaim es w'' = w' := by
  obtain ⟨w₂, hasked, hgiven⟩ := h.of_append
  obtain ⟨w₁, hmade, hanswer, hrest⟩ := hasked.of_append
  have hcreate : Factory.create c w₁ = (.error failure, w₂) := Prod.ext hanswer.symm hrest.symm
  refine ⟨w₂, ?_, reclaim_of_happened hgiven⟩
  rw [← hes, grant_of_happened hmade, grant, hcreate]
  simp

end Factory

/-! ## A probe -/

/-- An identification compares its size with no other one. -/
theorem Topology.Discovered.notMem_variantMismatch {value : Except Failure Topology}
    {journal : List (Event η)} (h : Discovered value journal) (variant : Variant)
    (channels : ChannelCount) : .record (.variantMismatch variant channels) ∉ journal := by
  have hidentity (deviceId version : UInt8) :
      (.record (.variantMismatch variant channels) : Event η) ∉ identityRead deviceId version := by
    unfold identityRead
    split <;> simp
  cases h <;> simp [unread, sizeRead, versionsRead, hidentity]

theorem Topology.discover_notMem_variantMismatch [Bus σ] (w : σ) (variant : Variant)
    (channels : ChannelCount) : .record (.variantMismatch variant channels) ∉
      ((discover : Attempt σ η Topology).run.run w).journal := by
  obtain ⟨value, journal, w', hdiscovered, -, hrun⟩ := @discover_run σ η _ w
  rw [hrun]
  exact hdiscovered.notMem_variantMismatch variant channels

namespace Provider

variable [Bus σ] [Factory σ η]

/-- What a probe does once the part is identified leads on from there. -/
theorem probe_happened {p : Provider η} {w : σ} {found : Topology} {rest : List (Event η)}
    (hjournal : (p.probe.run w).journal =
      ((Topology.discover : Attempt σ η Topology).run.run w).journal ++ p.mismatch found ++ rest) :
    Happened ((Topology.discover : Attempt σ η Topology).run.run w).world rest
      (p.probe.run w).world := by
  have hall : Happened w (p.probe.run w).journal (p.probe.run w).world := probe_faithful p w
  rw [hjournal] at hall
  obtain ⟨w₁, hnoted, hrest⟩ := hall.of_append
  obtain ⟨w₂, hfound, hmismatch⟩ := hnoted.of_append
  obtain rfl : w₁ = w₂ := by
    unfold mismatch at hmismatch
    split at hmismatch <;> exact hmismatch
  obtain rfl := Happened.unique (Topology.discover_faithful w) hfound
  exact hrest

omit [Factory σ η] in
/-- All that a probe does on the bus is to identify the part. -/
theorem Probed.filter_onBus {p : Provider η} {w : σ}
    {o : Outcome σ η (Except Failure Unit × Provider η)} (h : Probed p w o)
    (hready : p.state ≠ .ready) : o.journal.filter Event.onBus =
      ((Topology.discover : Attempt σ η Topology).run.run w).journal.filter Event.onBus := by
  cases h with
  | idle h run => exact absurd h hready
  | unidentified failure h hfound value journal => rw [journal]
  | complete found es h hfound hes value journal => simp [journal]
  | refused found es c rest failure h hfound hes value journal => simp [journal]

/-- A part that is not identified leaves a provider with nothing in it. -/
theorem probe_of_unidentified {p : Provider η} (hp : p.Coherent) (hready : p.state ≠ .ready)
    {w : σ} {failure : Failure}
    (hfailure : ((Topology.discover : Attempt σ η Topology).run.run w).value = .error failure) :
    p.probe.run w = ⟨(.error failure, bare p.variant .failed),
      ((Topology.discover : Attempt σ η Topology).run.run w).world,
      ((Topology.discover : Attempt σ η Topology).run.run w).journal⟩ := by
  have hprobe : p.probe.run w = ⟨(.error failure, { p with topology? := none, state := .failed }),
      ((Topology.discover : Attempt σ η Topology).run.run w).world,
      ((Topology.discover : Attempt σ η Topology).run.run w).journal⟩ := by
    simp [probe, hready, hfailure]
  rw [hprobe, bare, ← hp.vacant hready]

/-- A part that is identified is followed by what the factory grants. -/
theorem probe_of_identified {p : Provider η} (hp : p.Coherent) (hready : p.state ≠ .ready)
    {w : σ} {topology : Topology}
    (htopology : ((Topology.discover : Attempt σ η Topology).run.run w).value = .ok topology) :
    let found := (Topology.discover : Attempt σ η Topology).run.run w
    let cs := Channel.first topology.channels.toNat
    let granted : Granted σ η := Factory.grant cs found.world
    let made := granted.endpoints.flatMap Endpoint.made
    (granted.refused? = none ∧ granted.endpoints.map Endpoint.channel = cs ∧
      p.probe.run w =
        ⟨(.ok (), ⟨p.variant, .ready, some topology,
          EndpointMap.empty.insertAll granted.endpoints⟩), granted.world,
          found.journal ++ p.mismatch topology ++ made⟩) ∨
    ∃ c rest failure, granted.refused? = some (c, failure) ∧
      granted.endpoints.map Endpoint.channel ++ c :: rest = cs ∧
      p.probe.run w =
        ⟨(.error failure, bare p.variant .failed),
          Factory.reclaim granted.endpoints granted.world,
          found.journal ++ p.mismatch topology ++
            (made ++ refusal c failure ++ granted.endpoints.flatMap Endpoint.givenUp)⟩ := by
  intro found cs granted made
  have hprobed := probe_run hp.vacant w
  have hhappened {rest : List (Event η)} := @probe_happened σ η _ _ p w topology rest
  generalize p.probe.run w = o at hprobed hhappened ⊢
  obtain ⟨value, world, journal⟩ := o
  cases hprobed with
  | idle h run => exact absurd h hready
  | unidentified failure h hfound => cases hfound.symm.trans htopology
  | complete topology' es h hfound hes hvalue hjournal =>
    obtain rfl : topology' = topology := Except.ok.inj (hfound.symm.trans htopology)
    have hgrant : granted = ⟨es, none, world⟩ := Factory.grant_eq_all hes (hhappened hjournal)
    obtain rfl : value = _ := hvalue
    obtain rfl : journal = _ := hjournal
    left
    simp only [made, hgrant]
    exact ⟨trivial, hes, rfl⟩
  | refused topology' es c rest failure h hfound hes hvalue hjournal =>
    obtain rfl : topology' = topology := Except.ok.inj (hfound.symm.trans htopology)
    obtain ⟨w', hgrant, hreclaim⟩ := Factory.grant_eq_refused hes (hhappened hjournal)
    have hgranted : granted = ⟨es, some (c, failure), w'⟩ := hgrant
    obtain rfl : value = _ := hvalue
    obtain rfl : journal = _ := hjournal
    right
    refine ⟨c, rest, failure, ?_⟩
    simp only [made, hgranted, hreclaim, bare]
    exact ⟨trivial, hes, rfl⟩

/-- **A probe does everything or nothing.**

Take a provider as any run leaves it, and a world as it may be now. If the provider is ready, a
probe does nothing at all. Otherwise it identifies the part first, and this is all it does on the
bus. If the identification fails, so does the probe, for that reason and without a call of the
factory. If it succeeds, a part of another size than the declared one is recorded, and the factory
is asked for channels from the first one upwards. If it grants them all, the provider is ready, and
its endpoints are those that were granted, one for each channel of the part. If it refuses one, the
probe fails for the factory's reason, no channel after that is asked for, those before it are given
back in ascending order, once each, and nothing is left in the provider. -/
theorem probe_all_or_nothing (variant : Variant) (ops : List Operation) (w₀ w : σ) :
    let p := ((serve variant ops : Action σ η _).run w₀).value.2
    let found := (Topology.discover : Attempt σ η Topology).run.run w
    let o := p.probe.run w
    (p.state = .ready → o = ⟨(.ok (), p), w, []⟩) ∧
    (p.state ≠ .ready →
      o.journal.filter Event.onBus = found.journal.filter Event.onBus ∧
      (∀ e ∈ found.journal, e.onFactory = false) ∧
      (∀ declared channels, .record (.variantMismatch declared channels) ∉ found.journal) ∧
      (∀ failure, found.value = .error failure →
        o = ⟨(.error failure, bare variant .failed), found.world, found.journal⟩) ∧
      ∀ topology, found.value = .ok topology →
        let count := topology.channels.toNat
        let granted : Granted σ η := Factory.grant (Channel.first count) found.world
        let noted : List (Event η) := if topology.channels ≠ variant.channelCount then
          [.record (.variantMismatch variant topology.channels)] else []
        let made := granted.endpoints.flatMap Endpoint.made
        (granted.refused? = none →
          ∃ q : Provider η, o = ⟨(.ok (), q), granted.world, found.journal ++ noted ++ made⟩ ∧
            q.variant = variant ∧ q.state = .ready ∧ q.topology? = some topology ∧
            q.endpoints = granted.endpoints ∧
            granted.endpoints.map (·.channel.toNat) = List.range count) ∧
        ∀ c failure, granted.refused? = some (c, failure) →
          o = ⟨(.error failure, bare variant .failed),
            Factory.reclaim granted.endpoints granted.world,
            found.journal ++ noted ++
              (made ++ refusal c failure ++ granted.endpoints.flatMap Endpoint.givenUp)⟩ ∧
          granted.endpoints.map (·.channel.toNat) = List.range c.toNat ∧ c.toNat < count) := by
  intro p found o
  have hp : p.Coherent := coherent_serve variant ops w₀
  have hvariant : p.variant = variant := variant_serve variant ops w₀
  have hprobed : Probed p w o := probe_run hp.vacant w
  refine ⟨fun hready => by simp [o, probe, hready], fun hready =>
    ⟨hprobed.filter_onBus hready, Topology.discover_quiet w,
      Topology.discover_notMem_variantMismatch w, ?_, ?_⟩⟩
  · intro failure hfailure
    rw [← hvariant]
    exact probe_of_unidentified hp hready hfailure
  · intro topology htopology count granted noted made
    have hcount : count ≤ maxChannels := topology.channels.toNat_le
    have hnoted : noted = p.mismatch topology := by rw [mismatch, hvariant]
    rw [hnoted, ← hvariant]
    rcases probe_of_identified hp hready htopology with
      ⟨hall, hchannels, hrun⟩ | ⟨c, rest, failure, hrefused, hchannels, hrun⟩
    · refine ⟨fun _ => ⟨_, hrun, rfl, rfl, rfl, ?_, ?_⟩, fun c failure hrefused => ?_⟩
      · exact EndpointMap.toList_insertAll_of_eq hchannels
      · rw [← Channel.map_toNat_first hcount, ← hchannels, List.map_map]
        rfl
      · cases hall.symm.trans hrefused
    · refine ⟨?_, ?_⟩
      · intro hall
        cases hall.symm.trans hrefused
      intro c' failure' hrefused'
      obtain ⟨rfl, rfl⟩ : c = c' ∧ failure = failure' := by
        simpa using hrefused.symm.trans hrefused'
      obtain ⟨hbefore, hlt⟩ := Channel.range_of_append_cons hcount hchannels
      rw [List.map_map] at hbefore
      exact ⟨hrun, hbefore, hlt⟩

open Bench in
/-- The factory refuses the third channel of four, and gets the first two back. -/
example :
    let w : Board SimulatedPart TallyFactory := ⟨.healthy 0xE, .blank (some 2)⟩
    let o := (new .ds250df410 : Provider Channel).probe.run w
    o.value = (.error .allocationFailure, bare .ds250df410 .failed) ∧
      o.world.factory.created = [⟨0⟩, ⟨1⟩] ∧ o.world.factory.destroyed = [⟨0⟩, ⟨1⟩] :=
  ⟨rfl, rfl, rfl⟩

end Provider

end Retimer
