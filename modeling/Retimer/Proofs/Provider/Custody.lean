import Mathlib.Algebra.Order.Group.Multiset
import Retimer.Proofs.History

/-!
# Every handle comes back once

An endpoint belongs to the factory. The driver has it for a while, and what matters is that it
gives back all it was given, nothing twice, and nothing it never had.

A factory may hand out the same handle for two channels, so a handle that comes back does not tell
which endpoint it was. `Ledger` is an account of a journal that settles this one way or another: it
names, for each handle that comes back, an endpoint that is out and has that handle. A statement
about every ledger of a journal holds however the handles are read.

A ledger says by itself that nothing comes back that is not out. That no channel has two endpoints
out takes more, since endpoints with one handle could be mistaken for each other over and over. But
they cannot be mistaken across *rounds*: when the driver starts to make endpoints, everything has
come back, so at any time only the endpoints made since are out.

## Main results

* `Ledger.balance`: what is out is what was made and did not come back
* `Provider.Coherent.ledger`: every operation leaves a journal that has a ledger
* `Provider.handles_returned_once`: nothing is leaked and nothing comes back twice
-/

namespace Retimer

variable {σ η : Type}

/-! ## Ledgers -/

/-- What becomes of the endpoints that are out when an event happens. -/
def Event.Moves (out : Multiset (Endpoint η)) (e : Event η) (next : Multiset (Endpoint η)) : Prop :=
  match e with
  | .create c (.ok handle) => next = ⟨c, handle⟩ ::ₘ out
  | .destroy handle => ∃ lost : Endpoint η, lost.handle = handle ∧ out = lost ::ₘ next
  | _ => next = out

theorem Event.moves_balance {out next : Multiset (Endpoint η)} {e : Event η}
    (h : e.Moves out next) :
    out.map Endpoint.handle + (e.created?.toList.map Endpoint.handle : Multiset η) =
      (e.destroyed?.toList : Multiset η) + next.map Endpoint.handle := by
  match e with
  | .create c (.ok handle) =>
    obtain rfl : next = ⟨c, handle⟩ ::ₘ out := h
    simp [created?, destroyed?, add_comm]
  | .destroy handle =>
    obtain ⟨lost, rfl, rfl⟩ := h
    simp [created?, destroyed?]
  | .create c (.error failure) | .read .. | .write .. | .record entry =>
    obtain rfl : next = out := h
    simp [created?, destroyed?]

theorem Event.moves_le {out next : Multiset (Endpoint η)} {e : Event η} (h : e.Moves out next) :
    next ≤ out + (e.created?.toList : Multiset (Endpoint η)) := by
  match e with
  | .create c (.ok handle) =>
    obtain rfl : next = ⟨c, handle⟩ ::ₘ out := h
    rw [← Multiset.singleton_add, add_comm]
    simp [created?]
  | .destroy handle =>
    obtain ⟨lost, _, rfl⟩ := h
    simpa [created?] using Multiset.le_cons_self next lost
  | .create c (.error failure) | .read .. | .write .. | .record entry =>
    obtain rfl : next = out := h
    simp [created?]

theorem Event.moves_of_onFactory {e : Event η} (h : e.onFactory = false)
    (out : Multiset (Endpoint η)) : e.Moves out out := by
  cases e <;> simp_all [Moves, onFactory]

/-- An account of the endpoints that are out, from the beginning of a journal to its end. -/
def Ledger : Multiset (Endpoint η) → List (Event η) → Multiset (Endpoint η) → Prop
  | out, [], last => out = last
  | out, e :: journal, last => ∃ next, e.Moves out next ∧ Ledger next journal last

namespace Ledger

variable {out between last : Multiset (Endpoint η)} {j k : List (Event η)}

theorem append_iff :
    Ledger out (j ++ k) last ↔ ∃ between, Ledger out j between ∧ Ledger between k last := by
  induction j generalizing out with
  | nil => simp [Ledger]
  | cons e j ih =>
    simp only [List.cons_append, Ledger, ih]
    constructor
    · rintro ⟨next, hmoves, between, hj, hk⟩
      exact ⟨between, ⟨next, hmoves, hj⟩, hk⟩
    · rintro ⟨between, ⟨next, hmoves, hj⟩, hk⟩
      exact ⟨next, hmoves, between, hj, hk⟩

theorem append (hj : Ledger out j between) (hk : Ledger between k last) :
    Ledger out (j ++ k) last :=
  append_iff.mpr ⟨between, hj, hk⟩

/-- **What is out is what was made and did not come back.** -/
theorem balance (h : Ledger out j last) :
    out.map Endpoint.handle + ((createdOf j).map Endpoint.handle : Multiset η) =
      (destroyedOf j : Multiset η) + last.map Endpoint.handle := by
  induction j generalizing out with
  | nil => simp [show out = last from h]
  | cons e j ih =>
    obtain ⟨next, hmoves, hrest⟩ := h
    rw [createdOf_cons, destroyedOf_cons, List.map_append, ← Multiset.coe_add, ← Multiset.coe_add,
      ← add_assoc, Event.moves_balance hmoves, add_assoc, ih hrest, add_assoc]

/-- Nothing is out that was not made. -/
theorem le_created (h : Ledger out j last) :
    last ≤ out + (createdOf j : Multiset (Endpoint η)) := by
  induction j generalizing out with
  | nil => simp [show out = last from h]
  | cons e j ih =>
    obtain ⟨next, hmoves, hrest⟩ := h
    rw [createdOf_cons, ← Multiset.coe_add, ← add_assoc]
    exact (ih hrest).trans (add_le_add_left (Event.moves_le hmoves) _)

/-- What does not concern the factory leaves everything where it is. -/
theorem of_quiet (h : ∀ e ∈ j, e.onFactory = false) : Ledger out j out := by
  induction j with
  | nil => rfl
  | cons e j ih =>
    obtain ⟨he, hj⟩ := List.forall_mem_cons.mp h
    exact ⟨out, Event.moves_of_onFactory he out, ih hj⟩

theorem made (es : List (Endpoint η)) :
    Ledger out (es.flatMap Endpoint.made) (out + (es : Multiset (Endpoint η))) := by
  induction es generalizing out with
  | nil => exact (add_zero out).symm
  | cons e es ih =>
    refine ⟨e ::ₘ out, rfl, e ::ₘ out, rfl, ?_⟩
    rw [← Multiset.cons_coe, Multiset.add_cons, ← Multiset.cons_add]
    exact ih

theorem made_of_none (es : List (Endpoint η)) : Ledger 0 (es.flatMap Endpoint.made) es := by
  have h : Ledger (0 : Multiset (Endpoint η)) (es.flatMap Endpoint.made) (0 + es) := made es
  rwa [zero_add] at h

theorem refused (c : Channel) (failure : Failure) : Ledger out (refusal c failure) out :=
  ⟨out, rfl, out, rfl, rfl⟩

theorem givenUp (es : List (Endpoint η)) :
    Ledger (es : Multiset (Endpoint η)) (es.flatMap Endpoint.givenUp) 0 := by
  induction es with
  | nil => rfl
  | cons e es ih => exact ⟨es, ⟨e, rfl, rfl⟩, es, rfl, ih⟩

end Ledger

/-! ## Rounds -/

/-- Everything made in a first part of a journal came back there, and no channel has got two
endpoints in the rest. -/
def InRound (journal : List (Event η)) : Prop :=
  ∃ settled recent, journal = settled ++ recent ∧
    ((createdOf settled).map Endpoint.handle : Multiset η) = destroyedOf settled ∧
    ((createdOf recent).map Endpoint.channel).Nodup

namespace InRound

theorem nil : InRound ([] : List (Event η)) := ⟨[], [], rfl, rfl, List.nodup_nil⟩

/-- **However handles are read, no channel has two endpoints out.** -/
theorem nodup_channel {journal : List (Event η)} (h : InRound journal)
    {out : Multiset (Endpoint η)} (hout : Ledger 0 journal out) :
    (out.map Endpoint.channel).Nodup := by
  obtain ⟨settled, recent, rfl, hsettled, hrecent⟩ := h
  obtain ⟨between, hfirst, hrest⟩ := Ledger.append_iff.mp hout
  have hback := hfirst.balance
  rw [hsettled, Multiset.map_zero, zero_add, left_eq_add, Multiset.map_eq_zero] at hback
  subst hback
  have hle := hrest.le_created
  rw [zero_add] at hle
  exact Multiset.nodup_of_le (Multiset.map_le_map hle) (by simpa using hrecent)

/-- A round goes on as long as nothing is made. -/
theorem append_of_created_eq_nil {j k : List (Event η)} (h : InRound j) (hk : createdOf k = []) :
    InRound (j ++ k) := by
  obtain ⟨settled, recent, rfl, hsettled, hrecent⟩ := h
  exact ⟨settled, recent ++ k, List.append_assoc .., hsettled, by simpa [hk] using hrecent⟩

/-- A round may start when nothing is out. -/
theorem start {j k : List (Event η)} (hj : Ledger 0 j 0)
    (hk : ((createdOf k).map Endpoint.channel).Nodup) : InRound (j ++ k) :=
  ⟨j, k, rfl, by simpa using hj.balance, hk⟩

end InRound

/-! ## What operations leave in custody -/

namespace Provider

variable [Bus σ] [Factory σ η]

/-- **Every operation leaves a journal that has a ledger**, from the endpoints there were to the
endpoints there are. -/
theorem Coherent.ledger {p : Provider η} (hp : p.Coherent) (op : Operation) (w : σ) :
    Ledger (p.endpoints : Multiset (Endpoint η)) ((p.perform op).run w).journal
      ((p.perform op).run w).value.2.endpoints := by
  by_cases hprobe : op = .probe
  · subst hprobe
    rw [perform_probe_run]
    cases probe_run hp.vacant w with
    | idle h run =>
      rw [run]
      rfl
    | unidentified failure h hfound value journal =>
      rw [value, journal]
      exact .of_quiet (Topology.discover_quiet w)
    | complete found es h hfound hes value journal =>
      have hlisted := EndpointMap.toList_insertAll_of_eq hes
      rw [value, journal, endpoints, endpoints, hp.vacant h, hlisted]
      exact (Ledger.of_quiet (p.quiet_until_populated found w)).append (.made_of_none es)
    | refused found es c rest failure h hfound hes value journal =>
      rw [value, journal, endpoints, endpoints, hp.vacant h]
      exact (Ledger.of_quiet (p.quiet_until_populated found w)).append
        (((Ledger.made_of_none es).append (.refused c failure)).append (.givenUp es))
  by_cases hremove : op = .remove
  · subst hremove
    obtain ⟨hvalue, hjournal⟩ := remove_run hp.keyed w
    simpa [hvalue, hjournal, removed, endpoints] using Ledger.givenUp p.endpoints
  · obtain ⟨hvalue, hquiet⟩ := perform_of_ne hprobe hremove p w
    rw [hvalue]
    exact .of_quiet hquiet

/-- Endpoints are made only when there are none, and one for each channel. -/
theorem Coherent.createdOf_perform {p : Provider η} (hp : p.Coherent) (op : Operation) (w : σ) :
    createdOf ((p.perform op).run w).journal = [] ∨
      p.endpoints = [] ∧
        ((createdOf ((p.perform op).run w).journal).map Endpoint.channel).Nodup := by
  by_cases hprobe : op = .probe
  · subst hprobe
    rw [perform_probe_run]
    cases probe_run hp.vacant w with
    | idle h run => exact .inl (by rw [run]; rfl)
    | unidentified failure h hfound value journal =>
      exact .inl (by rw [journal, createdOf_eq_nil (Topology.discover_quiet w)])
    | complete found es h hfound hes value journal =>
      refine .inr ⟨by rw [endpoints, hp.vacant h, EndpointMap.toList_empty], ?_⟩
      rw [journal, createdOf_append, createdOf_eq_nil (p.quiet_until_populated found w)]
      simpa [hes] using Channel.nodup_first _
    | refused found es c rest failure h hfound hes value journal =>
      refine .inr ⟨by rw [endpoints, hp.vacant h, EndpointMap.toList_empty], ?_⟩
      rw [journal, createdOf_append, createdOf_eq_nil (p.quiet_until_populated found w)]
      have hnodup := hes ▸ Channel.nodup_first found.channels.toNat
      simpa using hnodup.sublist (List.sublist_append_left _ _)
  by_cases hremove : op = .remove
  · subst hremove
    exact .inl (by simp [(remove_run hp.keyed w).2])
  · exact .inl (createdOf_eq_nil (perform_of_ne hprobe hremove p w).2)

/-! ## Whole runs -/

theorem ledger_serve (variant : Variant) (ops : List Operation) (w : σ) :
    Ledger 0 ((serve variant ops).run w).journal
      (((serve variant ops).run w).value.2.endpoints : Multiset (Endpoint η)) := by
  induction ops using List.reverseRecOn with
  | nil => rfl
  | append_singleton ops op ih =>
    rw [serve_concat]
    exact ih.append ((coherent_serve variant ops w).ledger op _)

/-- At every moment of a run, the driver is in a round. -/
theorem inRound_serve (variant : Variant) (ops : List Operation) (w : σ)
    {j : List (Event η)} (hj : j <+: ((serve variant ops).run w).journal) : InRound j := by
  induction ops using List.reverseRecOn generalizing j with
  | nil =>
    obtain rfl := List.prefix_nil.mp hj
    exact .nil
  | append_singleton ops op ih =>
    rw [serve_concat] at hj
    rcases prefix_append_cases hj with hj | ⟨k, hk, rfl⟩
    · exact ih hj
    have hmade := createdOf_prefix hk
    have hp : ((serve variant ops : Action σ η _).run w).value.2.Coherent :=
      coherent_serve variant ops w
    rcases hp.createdOf_perform op ((serve variant ops).run w).world with hnone | ⟨hvacant, hnodup⟩
    · rw [hnone] at hmade
      exact (ih List.prefix_rfl).append_of_created_eq_nil (List.prefix_nil.mp hmade)
    · have hledger := ledger_serve (σ := σ) variant ops w
      rw [hvacant] at hledger
      exact .start hledger (hnodup.sublist (hmade.sublist.map _))

/-- **Nothing is leaked and nothing comes back twice**, whatever was asked, whatever the bus and
the factory answered, and however often endpoints were made and given up before.

What is in the journal is what happened, the removal at the end of the run included. At every moment
of it the handles that came back are among those that were made, and no channel has two endpoints
out. Between operations those out are the ones that are listed. After the removal none is: every
handle made has come back once. -/
theorem handles_returned_once (variant : Variant) (ops : List Operation) (w : σ) :
    let served := (serve variant ops : Action σ η _).run w
    let dropped := served.value.2.remove.run served.world
    Happened w (served.journal ++ dropped.journal) dropped.world ∧
      (∀ j, j <+: served.journal ++ dropped.journal →
        (destroyedOf j : Multiset η) ≤ ((createdOf j).map Endpoint.handle : Multiset η) ∧
        (∃ out, Ledger 0 j out) ∧
        ∀ out, Ledger 0 j out → (out.map Endpoint.channel).Nodup) ∧
      Ledger 0 served.journal (served.value.2.endpoints : Multiset (Endpoint η)) ∧
      ((createdOf served.journal).map Endpoint.handle : Multiset η) =
        (destroyedOf served.journal : Multiset η) +
          (served.value.2.endpoints.map Endpoint.handle : Multiset η) ∧
      ((createdOf (served.journal ++ dropped.journal)).map Endpoint.handle : Multiset η) =
        destroyedOf (served.journal ++ dropped.journal) := by
  intro served dropped
  have hp : served.value.2.Coherent := coherent_serve variant ops w
  have hserved : Ledger 0 served.journal served.value.2.endpoints := ledger_serve variant ops w
  have hdropped : Ledger 0 (served.journal ++ dropped.journal) 0 := by
    rw [(remove_run hp.keyed served.world).2]
    exact hserved.append (.givenUp _)
  -- The removal at the end is one more operation of the run.
  have hwhole : served.journal ++ dropped.journal =
      ((serve variant (ops ++ [.remove])).run w).journal := by
    simp [serve_concat, served, dropped]
  refine ⟨happened_serve_remove variant ops w, ?_, hserved, by simpa using hserved.balance,
    by simpa using hdropped.balance⟩
  rintro j ⟨k, hk⟩
  rw [← hk] at hdropped
  obtain ⟨out, hout, _⟩ := Ledger.append_iff.mp hdropped
  refine ⟨?_, ⟨out, hout⟩, ?_⟩
  · have hbalance := hout.balance
    rw [Multiset.map_zero, zero_add] at hbalance
    rw [hbalance]
    exact Multiset.le_add_right _ _
  · intro other hother
    have hround : InRound j := inRound_serve variant (ops ++ [.remove]) w (hwhole ▸ ⟨k, hk⟩)
    exact hround.nodup_channel hother

end Provider

end Retimer
