import Mathlib.Data.List.Induction
import Retimer.Proofs.Provider.Life

/-!
# State, topology and endpoints agree

A provider keeps three things that could contradict each other: where it is in its life, what it
found, and which endpoints exist. `Provider.Coherent` says that they do not. It holds of a provider
that nothing was asked of yet, and no operation breaks it, whatever the bus and the factory answer.

What it leaves open is where the endpoints come from. A ready provider is, to the last handle, what
its latest effective probe made it: `Provider.MadeBy` names that probe in the run.

## Main results

* `Provider.coherent_serve`: whatever was asked of it, a provider is coherent
* `Provider.exists_madeBy`: a ready provider is what one probe of the run made it
* `Provider.serve_consistent`: both, spelled out
-/

namespace Retimer

variable {σ η : Type} [Bus σ] [Factory σ η]

/-! ## Runs -/

/-- A provider put to work from the start: what it replies, and what becomes of it. -/
def serve (variant : Variant) (ops : List Operation) :
    Action σ η (List (Reply η) × Provider η) :=
  (Provider.new variant).performAll ops

namespace Provider

/-- One more operation is performed on what the others left. -/
theorem performAll_concat (p : Provider η) (ops : List Operation) (op : Operation) (w : σ) :
    (p.performAll (ops ++ [op])).run w =
      let first := (p.performAll ops).run w
      let second := (first.value.2.perform op).run first.world
      ⟨(first.value.1 ++ [second.value.1], second.value.2), second.world,
        first.journal ++ second.journal⟩ := by
  induction ops generalizing p w with
  | nil => simp [performAll]
  | cons o ops ih => simp [performAll, ih]

theorem serve_concat (variant : Variant) (ops : List Operation) (op : Operation) (w : σ) :
    (serve variant (ops ++ [op])).run w =
      let first := (serve variant ops).run w
      let second := (first.value.2.perform op).run first.world
      ⟨(first.value.1 ++ [second.value.1], second.value.2), second.world,
        first.journal ++ second.journal⟩ :=
  performAll_concat _ _ _ _

/-! ## Coherence -/

/-- Where a provider is in its life, what it found and which endpoints it has agree. -/
structure Coherent (p : Provider η) : Prop where
  /-- It is not in the middle of anything. -/
  settled : p.state = .uninit ∨ p.state = .ready ∨ p.state = .failed
  /-- It knows what it found exactly while it is ready. -/
  found : p.topology?.isSome ↔ p.state = .ready
  /-- Endpoints are kept under their own channels. -/
  keyed : p.endpointMap.Keyed
  /-- It has the endpoints that what it found calls for. -/
  populated : ∀ t, p.topology? = some t →
    p.endpoints.map Endpoint.channel = Channel.first t.channels.toNat
  /-- Only a ready provider has any. -/
  vacant : p.state ≠ .ready → p.endpointMap = .empty

omit [Bus σ] [Factory σ η] in
theorem coherent_new (variant : Variant) : Coherent (new variant : Provider η) where
  settled := .inl rfl
  found := by simp [new]
  keyed := EndpointMap.keyed_empty
  populated := nofun
  vacant _ := rfl

omit [Bus σ] [Factory σ η] in
theorem coherent_removed (p : Provider η) : p.removed.Coherent where
  settled := .inl rfl
  found := by simp [removed]
  keyed := EndpointMap.keyed_empty
  populated := nofun
  vacant _ := rfl

theorem Coherent.probe {p : Provider η} (hp : p.Coherent) (w : σ) :
    (p.probe.run w).value.2.Coherent := by
  cases probe_run hp.vacant w with
  | idle h run =>
    rw [run]
    exact hp
  | unidentified failure h hfound value journal =>
    rw [value]
    refine ⟨.inr (.inr rfl), by simp, hp.keyed, ?_, fun _ => hp.vacant h⟩
    intro t ht
    cases ht
  | complete found es h hfound hes value journal =>
    rw [value]
    refine ⟨.inr (.inl rfl), by simp, EndpointMap.keyed_empty.insertAll es, ?_, ?_⟩
    · intro t ht
      obtain rfl := Option.some.inj ht
      rw [endpoints, EndpointMap.toList_insertAll_of_eq hes, hes]
    · intro hne
      exact absurd rfl hne
  | refused found es c rest failure h hfound hes value journal =>
    rw [value]
    refine ⟨.inr (.inr rfl), by simp, EndpointMap.keyed_empty, ?_, fun _ => rfl⟩
    intro t ht
    cases ht

/-- **No operation breaks coherence.** -/
theorem Coherent.perform {p : Provider η} (hp : p.Coherent) (op : Operation) (w : σ) :
    ((p.perform op).run w).value.2.Coherent := by
  by_cases hprobe : op = .probe
  · subst hprobe
    simpa using hp.probe w
  by_cases hremove : op = .remove
  · subst hremove
    simpa [(remove_run hp.keyed w).1] using p.coherent_removed
  · rw [(perform_of_ne hprobe hremove p w).1]
    exact hp

theorem coherent_serve (variant : Variant) (ops : List Operation) (w : σ) :
    ((serve variant ops).run w).value.2.Coherent := by
  induction ops using List.reverseRecOn with
  | nil => exact coherent_new variant
  | append_singleton ops op ih =>
    rw [serve_concat]
    exact ih.perform op _

/-! ## Where endpoints come from -/

/-- A provider is what one probe of a run made it: a probe that found the provider not ready and
left it as it is, with the handles that the factory gave out in that probe, and that nothing
asked `later` took effect on. -/
structure MadeBy (variant : Variant) (w : σ) (earlier later : List Operation) (p : Provider η) :
    Prop where
  /-- The probe had something to do. -/
  effective : ((serve variant earlier).run w).value.2.state ≠ .ready
  /-- It succeeded, and left the provider as it is. -/
  result : (((serve variant earlier).run w).value.2.probe.run
    ((serve variant earlier).run w).world).value = (.ok (), p)
  /-- The endpoints are those that the factory made in that probe. -/
  endpoints : createdOf (((serve variant earlier).run w).value.2.probe.run
    ((serve variant earlier).run w).world).journal = p.endpoints
  /-- The provider has been as it is ever since. -/
  since : ∀ asked, asked <+: later →
    ((serve variant (earlier ++ .probe :: asked)).run w).value.2 = p

/-- A probe of a provider that is not ready is where the endpoints come from, if it leaves the
provider ready. -/
theorem createdOf_probe {p : Provider η} (hp : p.Coherent) (hready : p.state ≠ .ready) {w : σ}
    (h : (p.probe.run w).value.2.state = .ready) :
    (p.probe.run w).value = (.ok (), (p.probe.run w).value.2) ∧
      createdOf (p.probe.run w).journal = (p.probe.run w).value.2.endpoints := by
  cases probe_run hp.vacant w with
  | idle hidle run => exact absurd hidle hready
  | unidentified failure _ hfound value journal => simp [value] at h
  | refused found es c rest failure _ hfound hes value journal => simp [value] at h
  | complete found es _ hfound hes value journal =>
    have hquiet := createdOf_eq_nil (p.quiet_until_populated found w)
    rw [value, journal, createdOf_append, hquiet, createdOf_flatMap_made, List.nil_append]
    exact ⟨rfl, (EndpointMap.toList_insertAll_of_eq hes).symm⟩

/-- What takes no effect on a provider does not change where its endpoints come from. -/
theorem MadeBy.concat {variant : Variant} {w : σ} {earlier later : List Operation}
    {p : Provider η} (h : MadeBy variant w earlier later p) {op : Operation}
    (hop : ((serve variant (earlier ++ .probe :: later ++ [op])).run w).value.2 = p) :
    MadeBy variant w earlier (later ++ [op]) p where
  effective := h.effective
  result := h.result
  endpoints := h.endpoints
  since asked hasked := by
    rcases List.prefix_concat_iff.mp hasked with rfl | hasked
    · rwa [← List.cons_append, ← List.append_assoc]
    · exact h.since asked hasked

/-- **A ready provider is what one probe of the run made it.** -/
theorem exists_madeBy {variant : Variant} {ops : List Operation} {w : σ}
    (h : ((serve variant ops : Action σ η _).run w).value.2.state = .ready) :
    ∃ earlier later, ops = earlier ++ .probe :: later ∧
      MadeBy variant w earlier later ((serve variant ops).run w).value.2 := by
  induction ops using List.reverseRecOn with
  | nil => simp [serve, performAll, new] at h
  | append_singleton ops op ih =>
    have hp : ((serve variant ops : Action σ η _).run w).value.2.Coherent :=
      coherent_serve variant ops w
    have hlast := congrArg (fun o => o.value.2) (serve_concat variant ops op w)
    -- An operation that leaves the provider as it was leaves its history as it was.
    have hkept (hq : ((serve variant (ops ++ [op])).run w).value.2 =
        ((serve variant ops : Action σ η _).run w).value.2) :
        ∃ earlier later, ops ++ [op] = earlier ++ .probe :: later ∧
          MadeBy variant w earlier later ((serve variant (ops ++ [op])).run w).value.2 := by
      obtain ⟨earlier, later, rfl, hmade⟩ := ih (hq ▸ h)
      exact ⟨earlier, later ++ [op], by simp, hq ▸ hmade.concat hq⟩
    by_cases hprobe : op = .probe
    · subst hprobe
      by_cases hready : ((serve variant ops : Action σ η _).run w).value.2.state = .ready
      · refine hkept (hlast.trans ?_)
        simp [probe, hready]
      · have hq : ((serve variant (ops ++ [.probe])).run w).value.2 =
            (((serve variant ops : Action σ η _).run w).value.2.probe.run
              ((serve variant ops).run w).world).value.2 := by
          rw [hlast]
          simp
        obtain ⟨hresult, hcreated⟩ := createdOf_probe hp hready (hq ▸ h)
        refine ⟨ops, [], rfl, hready, hq ▸ hresult, hq ▸ hcreated, ?_⟩
        intro asked hasked
        rw [List.prefix_nil.mp hasked]
    by_cases hremove : op = .remove
    · subst hremove
      rw [hlast] at h
      simp [(remove_run hp.keyed _).1, removed] at h
    · exact hkept (hlast.trans (perform_of_ne hprobe hremove _ _).1)

/-- **State, topology and endpoints agree, whatever was asked and whatever was answered.**

A provider is at rest, and ready exactly while it knows a topology. A ready one has the channels
below the size it found, each once, under the endpoint's own channel, and with the handle that the
factory gave out for it in the latest probe that took effect. One that is not ready has none. And
the listing ascends, however the pairs of the map may be ordered. -/
theorem serve_consistent (variant : Variant) (ops : List Operation) (w : σ) :
    let p := ((serve variant ops : Action σ η _).run w).value.2
    (p.state = .uninit ∨ p.state = .ready ∨ p.state = .failed) ∧
      (p.topology?.isSome ↔ p.state = .ready) ∧
      (p.state ≠ .ready → p.endpointMap.pairs = []) ∧
      (∀ t, p.topology? = some t →
        (p.endpointMap.pairs.map fun q => q.1.toNat).Perm (List.range t.channels.toNat) ∧
        (∀ q ∈ p.endpointMap.pairs, q.2.channel = q.1) ∧
        ∃ earlier later, ops = earlier ++ .probe :: later ∧ MadeBy variant w earlier later p) ∧
      ∀ m : EndpointMap η, m.pairs.Perm p.endpointMap.pairs →
        m.toList = p.endpoints ∧ m.toList.Perm (m.pairs.map Prod.snd) ∧
          (m.toList.map fun e => e.channel.toNat).Pairwise (· < ·) := by
  intro p
  have hp : p.Coherent := coherent_serve variant ops w
  refine ⟨hp.settled, hp.found, ?_, ?_, ?_⟩
  · intro hne
    rw [hp.vacant hne]
    rfl
  · intro t ht
    have hready : p.state = .ready := hp.found.mp (by rw [ht]; rfl)
    have hkeys := hp.keyed.keys_perm.map Channel.toNat
    rw [List.map_map] at hkeys
    refine ⟨?_, ?_, exists_madeBy hready⟩
    · rw [← Channel.map_toNat_first t.channels.toNat_le, ← hp.populated t ht]
      exact hkeys
    · intro q hq
      exact hp.keyed q.1 q.2 (EndpointMap.find?_eq_some_iff.mpr hq)
  · intro m hm
    have hlist : m.toList = p.endpoints := EndpointMap.toList_congr hm
    rw [hlist]
    exact ⟨rfl, hp.keyed.toList_perm.trans (hm.symm.map _), hp.keyed.ascending_toList⟩

end Provider

end Retimer
