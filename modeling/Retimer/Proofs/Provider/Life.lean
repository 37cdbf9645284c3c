import Retimer.Proofs.Confinement
import Retimer.Proofs.EndpointMap
import Retimer.Proofs.Journal

/-!
# What each step of a provider's life comes to

A probe may end in four ways, and a provider is changed by nothing but a probe or a removal. This
module says, once for each, what the result is, what the provider is afterwards, and what the
journal shows. Whatever is to hold of every run of a provider is then a matter of these cases, and
nothing later opens `probe` or `remove` again.

The journal is told through the endpoints it is about: `Endpoint.made` and `Endpoint.givenUp` are
the two events that the making and the giving up of one endpoint leave.

The map of a provider that is probed is taken to be empty. It is so whenever a probe does anything,
which is proved where the whole of a provider's life is looked at.

## Main results

* `Provider.remove_run`: every endpoint goes, in ascending order
* `Provider.populate_run`: all channels are populated, or none
* `Provider.probe_run`: the four ways a probe may end
* `Provider.perform_of_ne`: no other operation changes a provider or calls the factory
-/

namespace Retimer

variable {σ η : Type}

/-! ## Making one endpoint and giving it up -/

namespace Endpoint

/-- What the making of an endpoint leaves in a journal. -/
def made (e : Endpoint η) : List (Event η) :=
  [.create e.channel (.ok e.handle), .record (.endpointCreated e.channel)]

/-- What the giving up of an endpoint leaves in a journal. -/
def givenUp (e : Endpoint η) : List (Event η) :=
  [.destroy e.handle, .record (.endpointDestroyed e.channel)]

end Endpoint

@[simp] theorem createdOf_flatMap_made (es : List (Endpoint η)) :
    createdOf (es.flatMap Endpoint.made) = es := by
  induction es with
  | nil => rfl
  | cons e es ih => rw [List.flatMap_cons, createdOf_append, ih]; rfl

@[simp] theorem createdOf_flatMap_givenUp (es : List (Endpoint η)) :
    createdOf (es.flatMap Endpoint.givenUp) = [] := by
  induction es with
  | nil => rfl
  | cons e es ih => rw [List.flatMap_cons, createdOf_append, ih]; rfl

@[simp] theorem destroyedOf_flatMap_made (es : List (Endpoint η)) :
    destroyedOf (es.flatMap Endpoint.made) = [] := by
  induction es with
  | nil => rfl
  | cons e es ih => rw [List.flatMap_cons, destroyedOf_append, ih]; rfl

@[simp] theorem destroyedOf_flatMap_givenUp (es : List (Endpoint η)) :
    destroyedOf (es.flatMap Endpoint.givenUp) = es.map Endpoint.handle := by
  induction es with
  | nil => rfl
  | cons e es ih => rw [List.flatMap_cons, destroyedOf_append, ih]; rfl

/-- What a refused creation leaves in a journal. -/
def refusal (c : Channel) (failure : Failure) : List (Event η) :=
  [.create c (.error failure), .record (.endpointCreateFailed c failure)]

@[simp] theorem createdOf_refusal (c : Channel) (failure : Failure) :
    createdOf (refusal c failure : List (Event η)) = [] := rfl

@[simp] theorem destroyedOf_refusal (c : Channel) (failure : Failure) :
    destroyedOf (refusal c failure : List (Event η)) = [] := rfl

@[simp] theorem filter_onBus_flatMap_made (es : List (Endpoint η)) :
    (es.flatMap Endpoint.made).filter Event.onBus = [] := by
  simp [List.filter_flatMap, Endpoint.made, Event.onBus]

@[simp] theorem filter_onBus_flatMap_givenUp (es : List (Endpoint η)) :
    (es.flatMap Endpoint.givenUp).filter Event.onBus = [] := by
  simp [List.filter_flatMap, Endpoint.givenUp, Event.onBus]

@[simp] theorem filter_onBus_refusal (c : Channel) (failure : Failure) :
    (refusal c failure : List (Event η)).filter Event.onBus = [] := rfl

namespace Provider

variable [Factory σ η]

/-! ## Giving endpoints up -/

/-- The channels named are emptied in the order given; the others keep what they have. -/
theorem dismantle_run {cs : List Channel} (hnd : cs.Nodup) {m : EndpointMap η} (hm : m.Keyed)
    (w : σ) :
    ((dismantle cs m).run w).journal = (cs.filterMap m.find?).flatMap Endpoint.givenUp ∧
      ∀ d, ((dismantle cs m).run w).value.find? d = if d ∈ cs then none else m.find? d := by
  induction cs generalizing m w with
  | nil => simp [dismantle]
  | cons c cs ih =>
    obtain ⟨hc, hcs⟩ := List.nodup_cons.mp hnd
    cases hf : m.find? c with
    | none =>
      obtain ⟨hjournal, hfind⟩ := ih hcs hm w
      simp only [dismantle, hf, List.filterMap_cons]
      refine ⟨hjournal, ?_⟩
      intro d
      rw [hfind]
      by_cases hd : d = c
      · subst hd; simp [hf]
      · simp [hd]
    | some e =>
      obtain ⟨hjournal, hfind⟩ := ih hcs (hm.erase c) (Factory.destroy e.handle w)
      have hrest : cs.filterMap (m.erase c).find? = cs.filterMap m.find? := by
        refine List.filterMap_congr ?_
        intro d hd
        have hne : d ≠ c := ne_of_mem_of_not_mem hd hc
        rw [EndpointMap.find?_erase, if_neg hne]
      rw [hrest] at hjournal
      simp only [dismantle, hf, List.filterMap_cons]
      refine ⟨?_, ?_⟩
      · simp [hjournal, Endpoint.givenUp, hm c e hf]
      · intro d
        simp only [Action.run_bind, Action.run_destroy, Action.run_record, hfind,
          EndpointMap.find?_erase, List.mem_cons]
        by_cases hd : d = c <;> simp [hd]

/-- The provider without endpoints that a removal leaves. -/
def removed (p : Provider η) : Provider η :=
  { p with endpointMap := .empty, topology? := none, state := .uninit }

/-- **Removal gives every endpoint up, in ascending order of channel.** -/
theorem remove_run {p : Provider η} (hp : p.endpointMap.Keyed) (w : σ) :
    (p.remove.run w).value = p.removed ∧
      (p.remove.run w).journal = p.endpoints.flatMap Endpoint.givenUp := by
  obtain ⟨hjournal, hfind⟩ := dismantle_run Channel.nodup_all hp w
  have hempty : ((dismantle Channel.all p.endpointMap).run w).value = .empty := by
    refine EndpointMap.eq_empty_of_find? ?_
    intro c
    rw [hfind, if_pos c.mem_all]
  refine ⟨by simp [remove, removed, hempty], ?_⟩
  simp [remove, hjournal, endpoints, EndpointMap.toList]

/-! ## Making endpoints -/

/-- How the making of endpoints for some channels may end. -/
inductive Populated (p : Provider η) (cs : List Channel)
    (o : Outcome σ η (Except Failure Unit × Provider η)) : Prop
  /-- Every channel has got its endpoint. -/
  | all (es : List (Endpoint η)) (hes : es.map Endpoint.channel = cs)
    (value : o.value = (.ok (), { p with endpointMap := p.endpointMap.insertAll es }))
    (journal : o.journal = es.flatMap Endpoint.made)
  /-- One was refused, and those that had been made were given up again. -/
  | none (es : List (Endpoint η)) (c : Channel) (rest : List Channel) (failure : Failure)
    (hes : es.map Endpoint.channel ++ c :: rest = cs)
    (value : o.value = (.error failure, p.removed))
    (journal : o.journal = es.flatMap Endpoint.made ++ refusal c failure ++
      (p.endpointMap.insertAll es).toList.flatMap Endpoint.givenUp)

theorem populate_run {p : Provider η} (hp : p.endpointMap.Keyed) (cs : List Channel) (w : σ) :
    Populated p cs ((populate cs p).run w) := by
  induction cs generalizing p w with
  | nil => exact .all [] rfl rfl rfl
  | cons c cs ih =>
    cases hc : (Factory.create c w).1 with
    | error failure =>
      obtain ⟨hvalue, hjournal⟩ := remove_run hp (Factory.create c w).2
      refine .none [] c cs failure rfl ?_ ?_
      · simp [populate, hc, hvalue]
      · simp [populate, hc, hjournal, refusal, endpoints]
    | ok handle =>
      have hnext := ih (p := { p with endpointMap := p.endpointMap.insert c ⟨c, handle⟩ })
        (hp.insert ⟨c, handle⟩) (Factory.create c w).2
      rcases hnext with ⟨es, hes, hvalue, hjournal⟩ | ⟨es, d, rest, failure, hes, hvalue, hjournal⟩
      · refine .all (⟨c, handle⟩ :: es) (by simp [hes]) ?_ ?_
        · simp [populate, hc, hvalue]
        · simp [populate, hc, hjournal, Endpoint.made]
      · refine .none (⟨c, handle⟩ :: es) d rest failure (by simp [hes]) ?_ ?_
        · simp [populate, hc, hvalue, removed]
        · simp [populate, hc, hjournal, Endpoint.made]

/-! ## Probing -/

/-- What the comparison of the size found with the size declared leaves in the journal. -/
def mismatch (p : Provider η) (found : Topology) : List (Event η) :=
  if found.channels ≠ p.variant.channelCount then
    [.record (.variantMismatch p.variant found.channels)]
  else []

omit [Factory σ η] in
@[simp] theorem filter_onBus_mismatch (p : Provider η) (found : Topology) :
    (p.mismatch found).filter Event.onBus = [] := by
  unfold mismatch
  split <;> rfl

omit [Factory σ η] in
theorem noteMismatch_run (p : Provider η) (found : Topology) (w : σ) :
    (p.noteMismatch found).run w = ⟨(), w, p.mismatch found⟩ := by
  unfold noteMismatch mismatch
  split <;> rfl

variable [Bus σ]

omit [Factory σ η] in
/-- Until the first endpoint is asked for, a probe does not call the factory. -/
theorem quiet_until_populated (p : Provider η) (found : Topology) (w : σ) :
    ∀ e ∈ ((Topology.discover : Attempt σ η Topology).run.run w).journal ++ p.mismatch found,
      e.onFactory = false := by
  intro e he
  rcases List.mem_append.mp he with he | he
  · exact Topology.discover_quiet w e he
  · unfold mismatch at he
    split at he
    · rw [List.mem_singleton.mp he]; rfl
    · cases he

/-- How a probe may end, from a state of the world. -/
inductive Probed (p : Provider η) (w : σ) (o : Outcome σ η (Except Failure Unit × Provider η)) :
    Prop
  /-- The provider was ready, and nothing was done. -/
  | idle (h : p.state = .ready) (run : o = ⟨(.ok (), p), w, []⟩)
  /-- The part was not identified. -/
  | unidentified (failure : Failure) (h : p.state ≠ .ready)
    (hfound : ((Topology.discover : Attempt σ η Topology).run.run w).value = .error failure)
    (value : o.value = (.error failure, { p with topology? := none, state := .failed }))
    (journal : o.journal = ((Topology.discover : Attempt σ η Topology).run.run w).journal)
  /-- The part was identified, and every channel has got its endpoint. -/
  | complete (found : Topology) (es : List (Endpoint η)) (h : p.state ≠ .ready)
    (hfound : ((Topology.discover : Attempt σ η Topology).run.run w).value = .ok found)
    (hes : es.map Endpoint.channel = Channel.first found.channels.toNat)
    (value : o.value =
      (.ok (), ⟨p.variant, .ready, some found, EndpointMap.empty.insertAll es⟩))
    (journal : o.journal = ((Topology.discover : Attempt σ η Topology).run.run w).journal ++
      p.mismatch found ++ es.flatMap Endpoint.made)
  /-- The part was identified, and then an endpoint was refused. -/
  | refused (found : Topology) (es : List (Endpoint η)) (c : Channel) (rest : List Channel)
    (failure : Failure) (h : p.state ≠ .ready)
    (hfound : ((Topology.discover : Attempt σ η Topology).run.run w).value = .ok found)
    (hes : es.map Endpoint.channel ++ c :: rest = Channel.first found.channels.toNat)
    (value : o.value = (.error failure, ⟨p.variant, .failed, none, .empty⟩))
    (journal : o.journal = ((Topology.discover : Attempt σ η Topology).run.run w).journal ++
      p.mismatch found ++
      (es.flatMap Endpoint.made ++ refusal c failure ++ es.flatMap Endpoint.givenUp))

/-- **The four ways a probe may end.** -/
theorem probe_run {p : Provider η} (hp : p.state ≠ .ready → p.endpointMap = .empty) (w : σ) :
    Probed p w (p.probe.run w) := by
  by_cases h : p.state = .ready
  · exact .idle h (by simp [probe, h])
  obtain ⟨variant, state, topology?, endpointMap⟩ := p
  obtain rfl : endpointMap = .empty := hp h
  generalize hd : (Topology.discover : Attempt σ η Topology).run.run w = d
  cases hfound : d.value with
  | error failure =>
    refine .unidentified failure h (by rw [hd, hfound]) ?_ ?_
    · simp [probe, h, hd, hfound]
    · simp [probe, h, hd, hfound]
  | ok found =>
    have hpop := populate_run (p := ⟨variant, .creatingEndpoints, none, .empty⟩)
      EndpointMap.keyed_empty (Channel.first found.channels.toNat) d.world
    rcases hpop with ⟨es, hes, hvalue, hjournal⟩ | ⟨es, c, rest, failure, hes, hvalue, hjournal⟩
    · refine .complete found es h (by rw [hd, hfound]) hes ?_ ?_
      · simp [probe, h, hd, hfound, install, noteMismatch_run, hvalue]
      · simp [probe, h, hd, hfound, install, noteMismatch_run, mismatch, hvalue, hjournal]
    · have hlisted : ((EndpointMap.empty : EndpointMap η).insertAll es).toList = es :=
        EndpointMap.toList_insertAll (hes ▸ List.prefix_append _ _)
      refine .refused found es c rest failure h (by rw [hd, hfound]) hes ?_ ?_
      · simp [probe, h, hd, hfound, install, noteMismatch_run, hvalue, removed]
      · simp [probe, h, hd, hfound, install, noteMismatch_run, mismatch, hvalue, hjournal, hlisted]

/-! ## Operations -/

@[simp] theorem perform_probe_run (p : Provider η) (w : σ) :
    (p.perform .probe).run w =
      ⟨(.done (p.probe.run w).value.1, (p.probe.run w).value.2), (p.probe.run w).world,
        (p.probe.run w).journal⟩ := by
  simp [perform]

@[simp] theorem perform_remove_run (p : Provider η) (w : σ) :
    (p.perform .remove).run w =
      ⟨(.done (.ok ()), (p.remove.run w).value), (p.remove.run w).world,
        (p.remove.run w).journal⟩ := by
  simp [perform]

/-- Nothing but a probe or a removal changes a provider, or calls the factory. -/
theorem perform_of_ne {op : Operation} (hprobe : op ≠ .probe) (hremove : op ≠ .remove)
    (p : Provider η) (w : σ) :
    ((p.perform op).run w).value.2 = p ∧
      ∀ e ∈ ((p.perform op).run w).journal, e.onFactory = false := by
  cases op with
  | probe => exact absurd rfl hprobe
  | remove => exact absurd rfl hremove
  | variant => exact ⟨rfl, by simp [perform]⟩
  | resolve args =>
    refine ⟨rfl, ?_⟩
    exact (resolve_only fun _ => rfl).bind (fun _ => Action.only_pure _) w
  | endpoint c => exact ⟨rfl, by simp [perform]⟩
  | setMode args mode submode =>
    refine ⟨rfl, ?_⟩
    exact (withEndpoint_only (fun _ => rfl) fun e => e.setMode_only _ _).bind
      (fun _ => Action.only_pure _) w
  | setModeRaw args mode submode =>
    refine ⟨rfl, ?_⟩
    exact (withEndpoint_only (fun _ => rfl) fun e => e.setModeRaw_only _ _).bind
      (fun _ => Action.only_pure _) w
  | command command =>
    refine ⟨rfl, ?_⟩
    exact command.perform_only.bind (fun _ => Action.only_pure _) w

end Provider

end Retimer
