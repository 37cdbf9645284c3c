import Retimer.Bench.Board
import Retimer.Bench.Faulty
import Retimer.Bench.TallyFactory
import Retimer.Proofs.Provider.Coherence

/-!
# A provider that is not ready is as good as new

Probes fail, endpoints are rolled back, providers are removed and probed again, and all of this in
any order. It would be a poor provider in which some of it stayed: an endpoint left in the map, a
topology of a part that is gone, a handle that was given up. Whatever was asked of a provider and
whatever the part and the factory answered, nothing stays in one that is not ready but which member
of the family was declared, and whether the last probe failed.

The second is all that tells such a provider from a new one, and it is looked at by nobody. Until
the next probe the two reply alike and do the same; a probe then leaves the same provider of
either, and from there on there is nothing left to compare.

## Main results

* `Provider.Coherent.eq_bare`: what is left in a provider that is not ready
* `Provider.performAll_bare`: until a probe, it does as a new one does
* `Provider.performAll_bare_of_probe`: from a probe on, it is the provider that a new one becomes
* `Provider.renewed_by_probe`: the two, for what any run leaves
-/

namespace Retimer

variable {σ η : Type}

namespace Provider

/-! ## What is left -/

/-- A provider with nothing in it. -/
def bare (variant : Variant) (state : ProviderState) : Provider η := ⟨variant, state, none, .empty⟩

/-- **Nothing is left in a provider that is not ready**, but the declared variant and where it is in
its life. -/
theorem Coherent.eq_bare {p : Provider η} (hp : p.Coherent) (h : p.state ≠ .ready) :
    p = bare p.variant p.state := by
  have htopology : p.topology? = none := by
    rw [← Option.not_isSome_iff_eq_none, hp.found]
    exact h
  rw [bare, ← htopology, ← hp.vacant h]

variable [Bus σ] [Factory σ η]

/-- No operation changes what was declared. -/
theorem Coherent.variant_perform {p : Provider η} (hp : p.Coherent) (op : Operation) (w : σ) :
    ((p.perform op).run w).value.2.variant = p.variant := by
  by_cases hprobe : op = .probe
  · subst hprobe
    rw [perform_probe_run]
    cases probe_run hp.vacant w with
    | idle h run => rw [run]
    | unidentified failure h hfound value journal => rw [value]
    | complete found es h hfound hes value journal => rw [value]
    | refused found es c rest failure h hfound hes value journal => rw [value]
  by_cases hremove : op = .remove
  · subst hremove
    rw [perform_remove_run, (remove_run hp.keyed w).1, removed]
  · rw [(perform_of_ne hprobe hremove p w).1]

theorem variant_serve (variant : Variant) (ops : List Operation) (w : σ) :
    ((serve variant ops : Action σ η _).run w).value.2.variant = variant := by
  induction ops using List.reverseRecOn with
  | nil => rfl
  | append_singleton ops op ih =>
    rw [serve_concat]
    exact ((coherent_serve variant ops w).variant_perform op _).trans ih

/-! ## Until the next probe -/

/-- What a bare provider does is what a new one does, whatever its state, and it stays bare. -/
theorem perform_bare {op : Operation} (hop : op ≠ .probe) (variant : Variant)
    {state : ProviderState} (hstate : state ≠ .ready) (w : σ) :
    ∃ state', state' ≠ .ready ∧
      let o := ((new variant : Provider η).perform op).run w
      o.value.2 = new variant ∧
        ((bare variant state : Provider η).perform op).run w =
          ⟨(o.value.1, bare variant state'), o.world, o.journal⟩ := by
  cases op with
  | probe => exact absurd rfl hop
  | remove => exact ⟨.uninit, nofun, rfl, rfl⟩
  | variant => exact ⟨state, hstate, rfl, rfl⟩
  | resolve args => exact ⟨state, hstate, rfl, rfl⟩
  | endpoint c => exact ⟨state, hstate, rfl, rfl⟩
  | setMode args mode submode => exact ⟨state, hstate, rfl, rfl⟩
  | setModeRaw args mode submode => exact ⟨state, hstate, rfl, rfl⟩
  | command command => exact ⟨state, hstate, rfl, rfl⟩

/-- A bare provider does as a new one does, as long as it is not probed. -/
theorem performAll_bare {ops : List Operation} (hops : .probe ∉ ops) (variant : Variant)
    {state : ProviderState} (hstate : state ≠ .ready) (w : σ) :
    ∃ state', state' ≠ .ready ∧
      let o := ((new variant : Provider η).performAll ops).run w
      o.value.2 = new variant ∧
        ((bare variant state : Provider η).performAll ops).run w =
          ⟨(o.value.1, bare variant state'), o.world, o.journal⟩ := by
  induction ops using List.reverseRecOn with
  | nil => exact ⟨state, hstate, rfl, rfl⟩
  | append_singleton ops op ih =>
    rw [List.mem_append, List.mem_singleton, not_or] at hops
    obtain ⟨state₁, hstate₁, hnew, hrun⟩ := ih hops.1
    obtain ⟨state₂, hstate₂, hnew', hrun'⟩ := perform_bare (Ne.symm hops.2) variant hstate₁
      (((new variant : Provider η).performAll ops).run w).world
    refine ⟨state₂, hstate₂, ?_⟩
    simp only [performAll_concat, hnew, hrun]
    exact ⟨hnew', by rw [hrun']⟩

/-! ## From the next probe on -/

/-- A probe leaves the same provider of any bare one. -/
theorem perform_probe_bare (variant : Variant) {state : ProviderState} (hstate : state ≠ .ready) :
    ((bare variant state).perform .probe : Action σ η _) = (new variant).perform .probe := by
  have hprobe : ((bare variant state).probe : Action σ η _) = (new variant).probe := by
    have hnew : (new variant : Provider η).state ≠ .ready := nofun
    have hbare : (bare variant state : Provider η).state ≠ .ready := hstate
    rw [probe, probe, if_neg hbare, if_neg hnew]
    rfl
  rw [perform, perform, hprobe]

theorem performAll_bare_of_probe {before : List Operation} (hbefore : .probe ∉ before)
    (later : List Operation) (variant : Variant) {state : ProviderState} (hstate : state ≠ .ready)
    (w : σ) :
    ((bare variant state : Provider η).performAll (before ++ .probe :: later)).run w =
      ((new variant : Provider η).performAll (before ++ .probe :: later)).run w := by
  induction later using List.reverseRecOn with
  | nil =>
    obtain ⟨state', hstate', hnew, hrun⟩ := @performAll_bare σ η _ _ _ hbefore variant _ hstate w
    simp only [performAll_concat, hnew, hrun, perform_probe_bare variant hstate']
  | append_singleton later op ih =>
    rw [← List.cons_append, ← List.append_assoc, performAll_concat, ih, ← performAll_concat]

/-- **Nothing of the past survives in a provider that is not ready.**

Take a provider after any run that left it unprobed or failed, and a new one for the same variant,
in the world as it is now. What is asked of them until the next probe, lookups, mode changes and
removals included, gets the same replies, changes the world alike and leaves the same in the
journal: each access to the bus, each call of the factory and each record, in the same order. From
the probe on they are moreover the same provider, in state, topology and endpoints. As this is said
of every sequence, it is said after every operation of a sequence. -/
theorem renewed_by_probe (variant : Variant) (ops : List Operation) (w : σ) :
    let p := ((serve variant ops : Action σ η _).run w).value.2
    let now := ((serve variant ops : Action σ η _).run w).world
    p.state = .uninit ∨ p.state = .failed → ∀ before : List Operation, .probe ∉ before →
      (let o := (p.performAll before).run now
        let o' := ((new variant : Provider η).performAll before).run now
        o.value.1 = o'.value.1 ∧ o.world = o'.world ∧ o.journal = o'.journal) ∧
      ∀ later : List Operation, (p.performAll (before ++ .probe :: later)).run now =
        ((new variant : Provider η).performAll (before ++ .probe :: later)).run now := by
  intro p now hstate before hbefore
  have hp : p.Coherent := coherent_serve variant ops w
  have hready : p.state ≠ .ready := by
    rcases hstate with h | h <;> simp [h]
  have hvariant : p.variant = variant := variant_serve variant ops w
  have hbare : p = bare variant p.state := hvariant ▸ hp.eq_bare hready
  rw [hbare]
  refine ⟨?_, fun later => performAll_bare_of_probe hbefore later variant hready now⟩
  obtain ⟨state', -, -, hrun⟩ := @performAll_bare σ η _ _ _ hbefore variant _ hready now
  rw [hrun]
  exact ⟨rfl, rfl, rfl⟩

open Bench

/-- A part with four channels whose first access fails. -/
def slowToAnswer : Board (Faulty SimulatedPart) TallyFactory where
  bus :=
    { part := .healthy 0xE
      past := []
      pattern := fun past => if past.length = 1 then some .noDevice else none }
  factory := .blank none

/-- There, a probe fails, and then an endpoint is looked for in vain, and the part probed again. -/
theorem renewed_by_second_probe :
    let p := ((serve .ds250df410 [.probe]).run slowToAnswer).value.2
    let now := ((serve .ds250df410 [.probe]).run slowToAnswer).world
    p.state = .failed ∧ (p.performAll [.resolve [0], .probe]).run now =
      ((new .ds250df410).performAll [.resolve [0], .probe]).run now := by
  have hfailed : ((serve .ds250df410 [.probe]).run slowToAnswer).value.2.state = .failed := rfl
  obtain ⟨-, hrenewed⟩ := renewed_by_probe .ds250df410 [.probe] slowToAnswer (.inr hfailed)
    [.resolve [0]] (by decide)
  exact ⟨hfailed, hrenewed []⟩

end Provider

end Retimer
