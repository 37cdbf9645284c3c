import Retimer.Proofs.Provider.Coherence
import Retimer.Proofs.Provider.ModeRequest

/-!
# Three ways to look an endpoint up

An endpoint is found by the arguments of a binding, by its channel, or by going through a listing.
What lies between the three is a place on the part, which is said in three ways: as a cell of 32
bits in a list of any length, as one of eight channels, and as a position among the endpoints that
exist. The look-ups agree because these are compared as numbers and in full. A cell cut down to its
low byte would call for an endpoint that nobody asked for.

A ready provider has the channels from the first one upwards, and lists them in that order. So an
endpoint's position in the listing is its channel's place, and as the listing is what the factory
made in one probe, a channel's endpoint is the one that this probe was handed for it.

## Main results

* `EndpointMap.Keyed.find?_eq_some_iff_mem`: what is found is what is listed
* `Provider.Coherent.endpoint?_eq_getElem?`: an endpoint is listed at its channel's place
* `Provider.lookups_agree`: the three look-ups, and what each leaves behind
-/

namespace Retimer

variable {σ η : Type}

/-! ## Places -/

namespace Channel

/-- Among the first few channels each stands at its own place. -/
theorem getElem?_first_eq_some_iff {count i : Nat} {c : Channel} :
    (first count)[i]? = some c ↔ c.toNat = i ∧ i < count := by
  have hall : all[i]? = some c ↔ c.toNat = i := by
    rw [← ofIndex?_eq_some_iff, ofIndex?, all, List.getElem?_map]
    by_cases hi : i < maxChannels <;> simp [hi]
  rw [first, List.getElem?_take]
  split <;> simp_all

theorem length_first {count : Nat} (h : count ≤ maxChannels) : (first count).length = count := by
  simp [first, all, Nat.min_eq_left h]

theorem ofArgs_eq_invalidBinding_iff {args : List UInt32} :
    ofArgs args = .error .invalidBinding ↔ args.length ≠ 1 := by
  rw [Ne, List.length_eq_one_iff]
  constructor
  · rintro h ⟨cell, rfl⟩
    rw [ofArgs] at h
    split at h <;> cases h
  · intro h
    rw [ofArgs]
    exact fun cell hargs => h ⟨cell, hargs⟩

end Channel

/-! ## Finding and listing -/

/-- What is found under a channel is what is listed with it. -/
theorem EndpointMap.Keyed.find?_eq_some_iff_mem {m : EndpointMap η} (hm : m.Keyed) {c : Channel}
    {e : Endpoint η} : m.find? c = some e ↔ e ∈ m.toList ∧ e.channel = c := by
  rw [mem_toList_iff]
  constructor
  · intro h
    exact ⟨⟨c, h⟩, hm c e h⟩
  · rintro ⟨⟨d, hd⟩, rfl⟩
    rwa [hm d e hd]

namespace Provider

/-- An endpoint is listed at its channel's place. -/
theorem Coherent.endpoint?_eq_getElem? {p : Provider η} (hp : p.Coherent)
    {t : Topology} (ht : p.topology? = some t) (c : Channel) :
    p.endpoint? c = p.endpoints[c.toNat]? := by
  have hplace {i : Nat} {e : Endpoint η} (he : p.endpoints[i]? = some e) : e.channel.toNat = i := by
    have hchannel : (p.endpoints.map Endpoint.channel)[i]? = some e.channel := by
      rw [List.getElem?_map, he]
      rfl
    rw [hp.populated t ht] at hchannel
    exact (Channel.getElem?_first_eq_some_iff.mp hchannel).1
  ext e
  rw [endpoint?, hp.keyed.find?_eq_some_iff_mem]
  constructor
  · rintro ⟨hmem, rfl⟩
    obtain ⟨i, hi⟩ := List.getElem?_of_mem hmem
    rwa [hplace hi]
  · intro he
    exact ⟨List.mem_of_getElem? he, Channel.ext_toNat (hplace he)⟩

/-! ## Resolving -/

section Resolving

variable {p : Provider η} {args : List UInt32} {value : Except Failure (Endpoint η)}
  {journal : List (Event η)}

theorem Resolved.eq_ok_iff_endpoint? (h : p.Resolved args value journal) {e : Endpoint η} :
    value = .ok e ↔ ∃ c, Channel.ofArgs args = .ok c ∧ p.endpoint? c = some e := by
  cases h <;> simp_all

/-- Arguments are resolved to what is listed at the place they name. -/
theorem Resolved.eq_ok_iff (h : p.Resolved args value journal) (hp : p.Coherent)
    {e : Endpoint η} :
    value = .ok e ↔
      ∃ cell, args = [cell] ∧ e ∈ p.endpoints ∧ e.channel.toNat = cell.toNat := by
  simp only [h.eq_ok_iff_endpoint?, Channel.ofArgs_eq_ok_iff, endpoint?,
    hp.keyed.find?_eq_some_iff_mem]
  constructor
  · rintro ⟨c, ⟨cell, hargs, hcell⟩, hmem, rfl⟩
    exact ⟨cell, hargs, hmem, hcell.symm⟩
  · rintro ⟨cell, hargs, hmem, hcell⟩
    exact ⟨e.channel, ⟨cell, hargs, hcell.symm⟩, hmem, rfl⟩

theorem Resolved.eq_invalidBinding_iff (h : p.Resolved args value journal) :
    value = .error .invalidBinding ↔ args.length ≠ 1 := by
  rw [← Channel.ofArgs_eq_invalidBinding_iff]
  cases h <;> simp_all

/-- A single cell that names nobody's place calls for no channel. -/
theorem Resolved.eq_invalidChannel_iff (h : p.Resolved args value journal) (hp : p.Coherent) :
    value = .error .invalidChannel ↔
      ∃ cell, args = [cell] ∧ ∀ e ∈ p.endpoints, e.channel.toNat ≠ cell.toNat := by
  have hok (e : Endpoint η) := h.eq_ok_iff hp (e := e)
  have hbinding := h.eq_invalidBinding_iff
  have hcases : (∃ e, value = .ok e) ∨ value = .error .invalidChannel ∨
      value = .error .invalidBinding := by
    cases h <;> simp
  constructor
  · rintro rfl
    obtain ⟨cell, rfl⟩ : ∃ cell, args = [cell] := by
      rw [← List.length_eq_one_iff]
      exact not_not.mp fun hne => nomatch hbinding.mpr hne
    refine ⟨cell, rfl, ?_⟩
    intro e hmem hcell
    exact nomatch (hok e).mpr ⟨cell, rfl, hmem, hcell⟩
  · rintro ⟨cell, rfl, hnobody⟩
    rcases hcases with ⟨e, he⟩ | hchannel | hmiscounted
    · obtain ⟨cell', hcells, hmem, hcell⟩ := (hok e).mp he
      obtain rfl : cell = cell' := by simpa using hcells
      exact absurd hcell (hnobody e hmem)
    · exact hchannel
    · exact absurd rfl (hbinding.mp hmiscounted)

/-- Only a wrong number of cells is recorded. -/
theorem Resolved.journal_eq (h : p.Resolved args value journal) :
    journal = if args.length = 1 then [] else [.record (.badBindingArgs args.length)] := by
  have hbinding := h.eq_invalidBinding_iff
  cases h <;> simp_all

end Resolving

/-! ## The three together -/

variable [Bus σ] [Factory σ η]

/-- **The look-ups agree.** Take a provider as any run leaves it, arguments of any number, and the
world as it may be now.

Resolving the arguments gives an endpoint exactly if they are a single cell, and that endpoint is
listed with the cell's number for its place. What is found under a channel is what is listed with
it. If the provider is ready, the channels with an endpoint are those that the part was found to
have, and each has the one that its latest effective probe was handed at the channel's place. A
number of cells other than one is refused for that, and recorded. A single cell that is nobody's
place names no channel, as does every cell beyond a byte, and leaves no record. And no look-up
changes the provider or the world. -/
theorem lookups_agree (variant : Variant) (ops : List Operation) (w₀ w : σ)
    (args : List UInt32) :
    let p := ((serve variant ops : Action σ η _).run w₀).value.2
    let o := (p.resolve args : Attempt σ η _).run.run w
    (∀ e, o.value = .ok e ↔
      ∃ cell, args = [cell] ∧ e ∈ p.endpoints ∧ e.channel.toNat = cell.toNat) ∧
    (∀ c e, p.endpoint? c = some e ↔ e ∈ p.endpoints ∧ e.channel = c) ∧
    (p.state = .ready → ∃ t earlier later,
      p.topology? = some t ∧ ops = earlier ++ .probe :: later ∧ MadeBy variant w₀ earlier later p ∧
      (∀ c, (p.endpoint? c).isSome ↔ c.toNat < t.channels.toNat) ∧
      let before := (serve variant earlier).run w₀
      let made := createdOf (before.value.2.probe.run before.world).journal
      made.length = t.channels.toNat ∧ ∀ c, p.endpoint? c = made[c.toNat]?) ∧
    (o.value = .error .invalidBinding ↔ args.length ≠ 1) ∧
    (o.value = .error .invalidChannel ↔
      ∃ cell, args = [cell] ∧ ∀ e ∈ p.endpoints, e.channel.toNat ≠ cell.toNat) ∧
    (∀ cell, args = [cell] → 255 < cell.toNat → o.value = .error .invalidChannel) ∧
    o.world = w ∧
    o.journal = (if args.length = 1 then [] else [.record (.badBindingArgs args.length)]) ∧
    (p.perform (.resolve args)).run w = ⟨(.resolved o.value, p), w, o.journal⟩ ∧
    ∀ c, (p.perform (.endpoint c)).run w = ⟨(.endpoint (p.endpoint? c), p), w, []⟩ := by
  intro p o
  have hp : p.Coherent := coherent_serve variant ops w₀
  obtain ⟨value, journal, hresolved, hrun⟩ := p.resolve_run args w
  have ho : o = ⟨value, w, journal⟩ := hrun
  have hchannel := hresolved.eq_invalidChannel_iff hp
  rw [ho]
  refine ⟨fun e => hresolved.eq_ok_iff hp, fun c e => hp.keyed.find?_eq_some_iff_mem, ?_,
    hresolved.eq_invalidBinding_iff, hchannel, ?_, rfl, hresolved.journal_eq, ?_, fun c => rfl⟩
  · intro hready
    obtain ⟨t, ht⟩ := Option.isSome_iff_exists.mp (hp.found.mpr hready)
    obtain ⟨earlier, later, hops, hmade⟩ := exists_madeBy hready
    have hlength : p.endpoints.length = t.channels.toNat := by
      rw [← List.length_map Endpoint.channel, hp.populated t ht,
        Channel.length_first t.channels.toNat_le]
    refine ⟨t, earlier, later, ht, hops, hmade, ?_, ?_⟩
    · intro c
      simp [hp.endpoint?_eq_getElem? ht, hlength]
    · intro before made
      have hmadeNow : made = p.endpoints := hmade.endpoints
      rw [hmadeNow]
      exact ⟨hlength, hp.endpoint?_eq_getElem? ht⟩
  · rintro cell rfl hcell
    refine hchannel.mpr ⟨cell, rfl, ?_⟩
    intro e _ hplace
    have hlt : e.channel.toNat < 8 := e.channel.toNat_lt
    omega
  · simp [perform, hrun]

end Provider

end Retimer
