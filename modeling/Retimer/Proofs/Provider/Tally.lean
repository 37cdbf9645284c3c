import Retimer.Proofs.Provider.Atomicity
import Retimer.Proofs.Provider.Traffic

/-!
# What a tally tells of a provider

A factory that keeps a tally looks like a good witness against leaks. It notes the channels that
endpoints were made for and the handles that came back, and what is in the first list but not in the
second is said to be live. For a provider that is probed once and removed once this is so. But both
lists only grow, and in the tally a handle is no more than its channel. A channel that came back
once is in the second list for good, so an endpoint that is made for it anew is never live.

What a tally does tell is found by following both lists through a run. The endpoints of a provider
come and go all together: those that there are were made last, and of all that was made before them
the channel has come back. So what is live is what there is, less the channels that have come back
before. On a part that is not written to past the driver, every probe that gets as far as the
factory asks for the same channels and is refused the same one. Then what comes back is every time
all that can be made, and from the first time on nothing is live.

## Main results

* `Provider.Coherent.turnover`: what an operation makes and gives back
* `Happened.entered`: a tally has what the journal has
* `Provider.tallied_serve`, `Provider.Tallied.live_eq`: what is live after a run, on any bus
* `Provider.live_until_returned`: the tally shows the endpoints until something has come back
* `Provider.live_misses_remade`: and after that it does not
-/

namespace Retimer

open Bench (SimulatedPart Board TallyFactory)

/-! ## What an operation makes and gives back -/

namespace Provider

section Turnover

variable {σ η : Type}

/-- What becomes of the endpoints of a provider when some are made and handles are given back. -/
inductive Turnover (before after made : List (Endpoint η)) (returned : List η) : Prop
  /-- Nothing was made, and nothing was given back. -/
  | kept (hafter : after = before) (hmade : made = []) (hreturned : returned = [])
  /-- There were none, and those that were made are there. -/
  | filled (hbefore : before = []) (hafter : after = made) (hreturned : returned = [])
  /-- There were none, and those that were made went back at once. -/
  | undone (hbefore : before = []) (hafter : after = [])
    (hreturned : returned = made.map Endpoint.handle)
  /-- Those that there were went back. -/
  | emptied (hafter : after = []) (hmade : made = [])
    (hreturned : returned = before.map Endpoint.handle)

variable [Bus σ] [Factory σ η]

/-- **Endpoints come and go all together.** -/
theorem Coherent.turnover {p : Provider η} (hp : p.Coherent) (op : Operation) (w : σ) :
    Turnover p.endpoints ((p.perform op).run w).value.2.endpoints
      (createdOf ((p.perform op).run w).journal) (destroyedOf ((p.perform op).run w).journal) := by
  by_cases hprobe : op = .probe
  · subst hprobe
    have hquiet (found : Topology) := p.quiet_until_populated found w
    rw [perform_probe_run]
    cases probe_run hp.vacant w with
    | idle h run =>
      rw [run]
      exact .kept rfl rfl rfl
    | unidentified failure h hfound value journal =>
      rw [value, journal]
      exact .kept rfl (createdOf_eq_nil (Topology.discover_quiet w))
        (destroyedOf_eq_nil (Topology.discover_quiet w))
    | complete found es h hfound hes value journal =>
      have hmade := createdOf_eq_nil (hquiet found)
      have hreturned := destroyedOf_eq_nil (hquiet found)
      rw [value, journal, createdOf_append, destroyedOf_append, hmade, hreturned]
      refine .filled ?_ ?_ (by simp)
      · rw [endpoints, hp.vacant h, EndpointMap.toList_empty]
      · rw [createdOf_flatMap_made, List.nil_append]
        exact EndpointMap.toList_insertAll_of_eq hes
    | refused found es c rest failure h hfound hes value journal =>
      have hmade := createdOf_eq_nil (hquiet found)
      have hreturned := destroyedOf_eq_nil (hquiet found)
      rw [value, journal, createdOf_append, destroyedOf_append, hmade, hreturned]
      refine .undone ?_ rfl (by simp)
      rw [endpoints, hp.vacant h, EndpointMap.toList_empty]
  by_cases hremove : op = .remove
  · subst hremove
    obtain ⟨hvalue, hjournal⟩ := remove_run hp.keyed w
    rw [perform_remove_run, hvalue, hjournal]
    exact .emptied rfl (by simp) (by simp)
  · obtain ⟨hvalue, hquiet⟩ := perform_of_ne hprobe hremove p w
    rw [hvalue]
    exact .kept rfl (createdOf_eq_nil hquiet) (destroyedOf_eq_nil hquiet)

end Turnover

end Provider

/-! ## The entries of a tally -/

/-- What a journal leaves in a tally. -/
structure Entered (before : TallyFactory) (journal : List (Event Channel)) (after : TallyFactory) :
    Prop where
  /-- What was made is noted at the end. -/
  created : after.created = before.created ++ (createdOf journal).map Endpoint.channel
  /-- And so is what came back. -/
  destroyed : after.destroyed = before.destroyed ++ destroyedOf journal
  /-- The same channel is refused as before. -/
  refused?_eq : after.refused? = before.refused?
  /-- An endpoint is known by its channel. -/
  handle_eq : ∀ e ∈ createdOf journal, e.handle = e.channel

namespace Entered

variable {β : Type} {f g h : TallyFactory} {a b : List (Event Channel)}

theorem of_quiet (hquiet : ∀ e ∈ a, e.onFactory = false) : Entered f a f := by
  refine ⟨?_, ?_, rfl, ?_⟩ <;> simp [createdOf_eq_nil hquiet, destroyedOf_eq_nil hquiet]

theorem append (ha : Entered f a g) (hb : Entered g b h) : Entered f (a ++ b) h where
  created := by rw [hb.created, ha.created, createdOf_append, List.map_append, List.append_assoc]
  destroyed := by rw [hb.destroyed, ha.destroyed, destroyedOf_append, List.append_assoc]
  refused?_eq := hb.refused?_eq.trans ha.refused?_eq
  handle_eq := by
    rw [createdOf_append, List.forall_mem_append]
    exact ⟨ha.handle_eq, hb.handle_eq⟩

theorem cons_quiet {e : Event Channel} (he : e.onFactory = false) (ha : Entered f a g) :
    Entered f (e :: a) g :=
  (of_quiet (List.forall_mem_singleton.mpr he)).append ha

theorem create (c : Channel) (w : Board β TallyFactory) :
    Entered w.factory [.create c (Factory.create c w).1] (Factory.create c w).2.factory := by
  by_cases hrefused : w.factory.refused? = some c.toNat
  · have hcreate : Factory.create c w = (.error .allocationFailure, w) := by
      simp [Factory.create, hrefused]
    rw [hcreate]
    refine ⟨(List.append_nil _).symm, (List.append_nil _).symm, rfl, ?_⟩
    exact fun _ he => nomatch he
  · have hcreate : Factory.create c w = (.ok c, { w with
        factory := { w.factory with created := w.factory.created ++ [c] } }) := by
      simp [Factory.create, hrefused]
    rw [hcreate]
    exact ⟨rfl, (List.append_nil _).symm, rfl, List.forall_mem_singleton.mpr rfl⟩

theorem destroy (handle : Channel) (w : Board β TallyFactory) :
    Entered w.factory [.destroy handle] (Factory.destroy handle w).factory :=
  ⟨(List.append_nil _).symm, rfl, rfl, fun _ he => nomatch he⟩

end Entered

/-- **A tally has what the journal has.** -/
theorem Happened.entered {β : Type} [Bus β] {w w' : Board β TallyFactory}
    {journal : List (Event Channel)} (h : Happened w journal w') :
    Entered w.factory journal w'.factory := by
  induction journal generalizing w with
  | nil =>
    obtain rfl : w' = w := h
    exact .of_quiet (by simp)
  | cons e journal ih =>
    cases e with
    | read address answer => exact .cons_quiet rfl (ih (w := (Bus.readByte address w).2) h.2)
    | write address value answer =>
      exact .cons_quiet rfl (ih (w := (Bus.writeByte address value w).2) h.2)
    | record entry => exact .cons_quiet rfl (ih h)
    | create c answer =>
      rw [h.1]
      exact (Entered.create c w).append (ih h.2)
    | destroy handle => exact (Entered.destroy handle w).append (ih h)

namespace Provider

/-! ## What is live -/

theorem map_handle_eq {es : List (Endpoint Channel)} (h : ∀ e ∈ es, e.handle = e.channel) :
    es.map Endpoint.handle = es.map Endpoint.channel := List.map_congr_left h

/-- A tally agrees with the endpoints there are. -/
structure Tallied (shown : List (Endpoint Channel)) (f : TallyFactory) : Prop where
  /-- They are known by their channels. -/
  handle_eq : ∀ e ∈ shown, e.handle = e.channel
  /-- They are the ones made last, and a channel of those before them has come back. -/
  past : ∃ past, f.created = past ++ shown.map Endpoint.channel ∧ ∀ c ∈ past, c ∈ f.destroyed

namespace Tallied

variable {f g : TallyFactory} {shown after : List (Endpoint Channel)}
  {journal : List (Event Channel)}

theorem blank (refused? : Option Nat) : Tallied [] (.blank refused?) :=
  ⟨by simp, [], rfl, by simp⟩

theorem mem_destroyed_of_mem_created (h : Tallied [] f) {c : Channel} (hc : c ∈ f.created) :
    c ∈ f.destroyed := by
  obtain ⟨past, hcreated, hpast⟩ := h.past
  rw [List.map_nil, List.append_nil] at hcreated
  exact hpast c (hcreated ▸ hc)

/-- What is made and given back is noted as it should be. -/
theorem step (h : Tallied shown f)
    (hturn : Turnover shown after (createdOf journal) (destroyedOf journal))
    (hentered : Entered f journal g) : Tallied after g := by
  have hcreated := hentered.created
  have hdestroyed := hentered.destroyed
  cases hturn with
  | kept hafter hmade hreturned =>
    obtain ⟨past, hpast, hback⟩ := h.past
    rw [hmade, List.map_nil, List.append_nil] at hcreated
    rw [hreturned, List.append_nil] at hdestroyed
    exact ⟨hafter ▸ h.handle_eq, past, by rw [hcreated, hpast, hafter], hdestroyed ▸ hback⟩
  | filled hbefore hafter hreturned =>
    subst hbefore
    rw [hreturned, List.append_nil] at hdestroyed
    refine ⟨hafter ▸ hentered.handle_eq, f.created, by rw [hcreated, hafter], ?_⟩
    intro c hc
    rw [hdestroyed]
    exact h.mem_destroyed_of_mem_created hc
  | undone hbefore hafter hreturned =>
    subst hbefore hafter
    refine ⟨by simp, g.created, (List.append_nil _).symm, ?_⟩
    rw [hcreated, hdestroyed, hreturned, map_handle_eq hentered.handle_eq]
    intro c hc
    rcases List.mem_append.mp hc with hc | hc
    · exact List.mem_append_left _ (h.mem_destroyed_of_mem_created hc)
    · exact List.mem_append_right _ hc
  | emptied hafter hmade hreturned =>
    subst hafter
    obtain ⟨past, hpast, hback⟩ := h.past
    refine ⟨by simp, g.created, (List.append_nil _).symm, ?_⟩
    rw [hcreated, hdestroyed, hreturned, hmade, map_handle_eq h.handle_eq, hpast, List.map_nil,
      List.append_nil]
    intro c hc
    rcases List.mem_append.mp hc with hc | hc
    · exact List.mem_append_left _ (hback c hc)
    · exact List.mem_append_right _ hc

/-- What is live is what there is, but for channels that have come back before. -/
theorem live_eq (h : Tallied shown f) :
    f.live = (shown.map Endpoint.channel).filter (· ∉ f.destroyed) := by
  obtain ⟨past, hcreated, hback⟩ := h.past
  have hnone : past.filter (· ∉ f.destroyed) = [] := by simpa using hback
  rw [TallyFactory.live, hcreated, List.filter_append, hnone, List.nil_append]

end Tallied

section

variable {β : Type} [Bus β]

/-- **After any run, on any bus, the tally agrees with the endpoints.** -/
theorem tallied_serve (variant : Variant) (ops : List Operation) (bus : β)
    (refused? : Option Nat) :
    let served := (serve variant ops).run (⟨bus, .blank refused?⟩ : Board β TallyFactory)
    Tallied served.value.2.endpoints served.world.factory := by
  induction ops using List.reverseRecOn with
  | nil => exact .blank refused?
  | append_singleton ops op ih =>
    rw [serve_concat]
    have hp := coherent_serve variant ops (⟨bus, .blank refused?⟩ : Board β TallyFactory)
    exact ih.step (hp.turnover op _) (perform_faithful _ op _).entered

end

/-! ## What a probe can get -/

/-- The endpoints that are granted are those of the channels before the one that is refused. -/
theorem map_channel_grant {β : Type} (cs : List Channel) (w : Board β TallyFactory) :
    (Factory.grant cs w : Granted (Board β TallyFactory) Channel).endpoints.map Endpoint.channel =
      cs.takeWhile fun c => w.factory.refused? ≠ some c.toNat := by
  induction cs generalizing w with
  | nil => rfl
  | cons c cs ih =>
    by_cases hrefused : w.factory.refused? = some c.toNat
    · simp [Factory.grant, Factory.create, hrefused]
    · have hrest := ih { w with factory := { w.factory with created := w.factory.created ++ [c] } }
      simp only [Factory.grant, Factory.create, hrefused, if_false, List.map_cons, hrest]
      simp [hrefused]

/-- The channels that a probe makes endpoints for, if it can identify the part. -/
def obtainable (w : Board SimulatedPart TallyFactory) : List Channel :=
  (Topology.shownBy? w.bus.registers).elim [] fun t =>
    (Channel.first t.channels.toNat).takeWhile fun c => w.factory.refused? ≠ some c.toNat

/-- Endpoints are made for all of these channels, or for none. -/
theorem Coherent.map_channel_createdOf {p : Provider Channel} (hp : p.Coherent) (op : Operation)
    (w : Board SimulatedPart TallyFactory) :
    createdOf ((p.perform op).run w).journal = [] ∨
      (createdOf ((p.perform op).run w).journal).map Endpoint.channel = obtainable w := by
  by_cases hprobe : op = .probe
  · subst hprobe
    rw [perform_probe_run]
    by_cases hready : p.state = .ready
    · exact .inl (by simp [Provider.probe, hready])
    cases hfound : ((Topology.discover :
        Attempt (Board SimulatedPart TallyFactory) Channel Topology).run.run w).value with
    | error failure =>
      rw [probe_of_unidentified hp hready hfound]
      exact .inl (createdOf_eq_nil (Topology.discover_quiet w))
    | ok t =>
      right
      have hfaithful :=
        @Topology.discover_faithful (Board SimulatedPart TallyFactory) Channel _ _ w
      have hrefused := hfaithful.entered.refused?_eq
      have hquiet := createdOf_eq_nil (p.quiet_until_populated t w)
      rw [obtainable, Topology.shownBy?_of_discover hfound, Option.elim_some, ← hrefused,
        ← map_channel_grant]
      rcases probe_of_identified hp hready hfound with ⟨-, -, hrun⟩ | ⟨c, rest, failure, -, -, hrun⟩
      · rw [hrun, createdOf_append, hquiet]
        simp
      · rw [hrun, createdOf_append, hquiet]
        simp
  by_cases hremove : op = .remove
  · subst hremove
    exact .inl (by simp [(remove_run hp.keyed w).2])
  · exact .inl (createdOf_eq_nil (perform_of_ne hprobe hremove p w).2)

/-- What can be got is the same all through a run that does not use the bus directly. -/
theorem obtainable_serve {variant : Variant} {ops : List Operation}
    (hops : ∀ op ∈ ops, op.direct = false) (w : Board SimulatedPart TallyFactory) :
    obtainable ((serve variant ops : Action _ Channel _).run w).world = obtainable w := by
  have hrefused := (serve_faithful variant ops w).entered.refused?_eq
  rw [obtainable, obtainable, Topology.shownBy?_serve hops w, hrefused]

/-- Of the channels that can be got, all are in use or none, and all have come back or nothing
has. -/
structure Recurring (all : List Channel) (shown : List (Endpoint Channel)) (f : TallyFactory) :
    Prop where
  shown : shown = [] ∨ shown.map Endpoint.channel = all
  destroyed : f.destroyed = [] ∨ ∀ c ∈ all, c ∈ f.destroyed

theorem Recurring.step {all : List Channel} {f g : TallyFactory}
    {shown after : List (Endpoint Channel)} {journal : List (Event Channel)}
    (h : Recurring all shown f) (htallied : Tallied shown f)
    (hmade : createdOf journal = [] ∨ (createdOf journal).map Endpoint.channel = all)
    (hturn : Turnover shown after (createdOf journal) (destroyedOf journal))
    (hentered : Entered f journal g) : Recurring all after g := by
  have hdestroyed := hentered.destroyed
  -- Whatever goes back does so after the others, and it is nothing or all.
  have hback {es : List (Endpoint Channel)} (hes : es = [] ∨ es.map Endpoint.channel = all)
      (hhandle : ∀ e ∈ es, e.handle = e.channel)
      (hreturned : destroyedOf journal = es.map Endpoint.handle) :
      g.destroyed = [] ∨ ∀ c ∈ all, c ∈ g.destroyed := by
    rw [hdestroyed, hreturned, map_handle_eq hhandle]
    rcases hes with rfl | rfl
    · simpa using h.destroyed
    · exact .inr fun c hc => List.mem_append_right _ hc
  cases hturn with
  | kept hafter _ hreturned =>
    exact ⟨hafter ▸ h.shown, hback (.inl rfl) (by simp) hreturned⟩
  | filled hbefore hafter hreturned =>
    exact ⟨hafter ▸ hmade, hback (.inl rfl) (by simp) hreturned⟩
  | undone hbefore hafter hreturned =>
    exact ⟨.inl hafter, hback hmade hentered.handle_eq hreturned⟩
  | emptied hafter _ hreturned =>
    exact ⟨.inl hafter, hback h.shown htallied.handle_eq hreturned⟩

theorem recurring_serve {variant : Variant} {ops : List Operation}
    (hops : ∀ op ∈ ops, op.direct = false) (part : SimulatedPart) (refused? : Option Nat) :
    let w : Board SimulatedPart TallyFactory := ⟨part, .blank refused?⟩
    let served := (serve variant ops).run w
    Recurring (obtainable w) served.value.2.endpoints served.world.factory := by
  intro w
  induction ops using List.reverseRecOn with
  | nil => exact ⟨.inl rfl, .inl rfl⟩
  | append_singleton ops op ih =>
    have hearlier : ∀ op ∈ ops, op.direct = false := fun op hop => hops op (by simp [hop])
    have hp := coherent_serve variant ops w
    rw [serve_concat]
    refine (ih hearlier).step (tallied_serve variant ops part refused?) ?_ (hp.turnover op _)
      (perform_faithful _ op _).entered
    rw [← @obtainable_serve variant ops hearlier w]
    exact hp.map_channel_createdOf op _

/-- **A tally tells what is live until something comes back.** Take any run that does not use the
bus directly, on a simulated part of any kind, with a factory that may refuse a channel. The journal
tells which handles have come back, and it is what happened.

As long as no handle has come back, what is live are the channels of the endpoints that the provider
lists, in that order. Once a handle has come back nothing is live, whatever the provider lists. And
when the provider is removed at the end nothing is live either. -/
theorem live_until_returned (variant : Variant) (ops : List Operation)
    (hops : ∀ op ∈ ops, op.direct = false) (part : SimulatedPart) (refused? : Option Nat) :
    let served := (serve variant ops).run
      (⟨part, .blank refused?⟩ : Board SimulatedPart TallyFactory)
    let dropped := served.value.2.remove.run served.world
    Happened ⟨part, .blank refused?⟩ served.journal served.world ∧
    served.world.factory.live =
      (if destroyedOf served.journal = [] then served.value.2.endpoints.map Endpoint.channel
        else []) ∧
    dropped.world.factory.live = [] := by
  intro served dropped
  have htallied : Tallied served.value.2.endpoints served.world.factory :=
    tallied_serve variant ops part refused?
  have hrecurring : Recurring _ served.value.2.endpoints served.world.factory :=
    recurring_serve hops part refused?
  have hdestroyed : served.world.factory.destroyed = destroyedOf served.journal :=
    (serve_faithful variant ops _).entered.destroyed
  rw [htallied.live_eq, ← hdestroyed]
  refine ⟨serve_faithful variant ops _, ?_, ?_⟩
  · split
    case isTrue hnone =>
      rw [hnone]
      exact List.filter_eq_self.mpr (by simp)
    case isFalse hsome =>
      rw [List.filter_eq_nil_iff]
      intro c hc
      have hall := hrecurring.destroyed.resolve_left hsome
      rcases hrecurring.shown with hshown | hshown
      · rw [hshown] at hc
        cases hc
      · simpa using hall c (hshown ▸ hc)
  · have hp := coherent_serve variant ops
      (⟨part, .blank refused?⟩ : Board SimulatedPart TallyFactory)
    have hlast := htallied.step (hp.turnover .remove served.world)
      (perform_faithful _ .remove served.world).entered
    rw [perform_remove_run, (remove_run hp.keyed served.world).1] at hlast
    exact hlast.live_eq

/-- Two requests to a provider that was probed once do not disturb the tally. -/
theorem live_until_returned_fourChannels :
    let ops : List Operation := [.probe, .setMode [1] .ethernet .tenGBaseR, .resolve [7]]
    let served := (serve .ds250df810 ops).run fourChannels
    served.world.factory.live = [⟨0⟩, ⟨1⟩, ⟨2⟩, ⟨3⟩] ∧
      (served.value.2.remove.run served.world).world.factory.live = [] := by
  intro ops served
  obtain ⟨-, hlive, hdropped⟩ :=
    live_until_returned .ds250df810 ops (by decide) (.healthy 0xE) none
  exact ⟨hlive.trans (by decide +kernel), hdropped⟩

/-- **An endpoint made anew is missed.** A part with eight channels is probed, removed and probed
again. All of its channels have endpoints, and none is live. -/
theorem live_misses_remade :
    let w : Board SimulatedPart TallyFactory := ⟨.healthy 0xC, .blank none⟩
    let served := (serve .ds250df810 [.probe, .remove, .probe]).run w
    served.value.2.endpoints.map Endpoint.channel = Channel.all ∧
      served.world.factory.live = [] ∧
      served.world.factory.live ≠ served.value.2.endpoints.map Endpoint.channel := by
  exact ⟨by decide +kernel, by decide +kernel, by decide +kernel⟩

end Provider

end Retimer
