import Retimer.Bench.Board
import Retimer.Bench.SimulatedPart
import Retimer.Bench.TallyFactory
import Retimer.Proofs.History

/-!
# Who writes to the part

Of all that can be asked of a provider, only a mode request writes. A probe reads, a look-up and a
removal leave the bus alone. So each write of a run can be traced back: to a request, from there to
the endpoint that the request was for, and from the endpoint to the probe that made it. The size
that this probe found bounds the channels that are ever selected, whatever size was declared.

The registers by which a part identifies itself are not among those of a recipe. On a part that is
a plain register file, they hold at the end of a run what they held at the beginning, and every
probe that succeeds finds the same.

## Main results

* `Provider.asked_write`: whose write it is, and where it goes
* `Topology.shownBy?_serve`: what a part tells about itself does not change
* `serve_traffic`: both, for whole runs
-/

namespace Retimer

open Bench (RegisterFile SimulatedPart Board TallyFactory)

variable {σ η φ : Type}

/-! ## Writes of a recipe -/

/-- The registers by which a part identifies itself. -/
def Register.identification : List Register := [channelConfigId, version, deviceId, channelVersion]

theorem eq_of_mem_recipe_of_channelSelect {c : Channel} {rate : LineRate} {m : MaskedWrite}
    (hm : m ∈ (recipe c rate).toList) (hr : m.register = .channelSelect) :
    m = ⟨.channelSelect, c.selectMask, fullMask⟩ := by
  have honly : (recipe c rate).toList.filter (·.register = .channelSelect) =
      [⟨.channelSelect, c.selectMask, fullMask⟩] := rfl
  have hmem : m ∈ (recipe c rate).toList.filter (·.register = .channelSelect) := by
    simp [hm, hr]
  rw [honly] at hmem
  exact List.mem_singleton.mp hmem

theorem not_mem_identification_of_mem_recipe {c : Channel} {rate : LineRate} {m : MaskedWrite}
    (hm : m ∈ (recipe c rate).toList) : m.register ∉ Register.identification := by
  have hall : (recipe c rate).toList.all fun m => m.register ∉ Register.identification := rfl
  simpa using List.all_eq_true.mp hall m hm

/-- Programming writes to the registers of its recipe, and selects its own channel. -/
theorem configure_write [Bus σ] {c : Channel} {rate : LineRate} {w : σ} {address value : UInt8}
    {answer : Except BusFault Unit}
    (h : .write address value answer ∈
      ((configure c rate : Attempt σ η Unit).run.run w).journal) :
    (address = Register.channelSelect.address → value = c.selectMask) ∧
      ∀ r ∈ Register.identification, address ≠ r.address := by
  obtain ⟨blocks, w', hblocks, -, hrun⟩ := @configure_run σ η _ c rate w
  rw [hrun] at h
  obtain ⟨block, hblock, hmem⟩ : ∃ block ∈ blocks, .write address value answer ∈ block := by
    rcases List.mem_append.mp h with h | h
    · exact List.mem_flatten.mp h
    · split at h <;> simp at h
  obtain ⟨m, hm, hshape⟩ : ∃ m ∈ (recipe c rate).toList, m.Block block := by
    obtain ⟨i, hi, rfl⟩ := List.getElem_of_mem hblock
    have hlength := hblocks.length_eq
    exact ⟨_, List.getElem_mem (hlength ▸ hi), hblocks.get _ _⟩
  obtain ⟨rfl, hvalue⟩ := hshape.write_mem hmem
  refine ⟨?_, ?_⟩
  · intro haddress
    obtain rfl := eq_of_mem_recipe_of_channelSelect hm (Register.address_injective haddress)
    exact hvalue rfl
  · intro r hr haddress
    obtain rfl := Register.address_injective haddress
    exact not_mem_identification_of_mem_recipe hm hr

/-! ## What is asked after other things -/

section Asked

variable [Bus σ] [Factory σ η]

/-- What an operation comes to that is asked of a provider after others. -/
def asked (variant : Variant) (earlier : List Operation) (op : Operation) (w : σ) :
    Outcome σ η (Reply η × Provider η) :=
  let served := (serve variant earlier).run w
  (served.value.2.perform op).run served.world

/-- Whether an operation uses the bus directly. -/
def Operation.direct : Operation → Bool
  | command _ => true
  | _ => false

namespace Provider

/-- What happens in a run happens in one of its operations. -/
theorem mem_journal_serve {variant : Variant} {ops : List Operation} {w : σ} {e : Event η}
    (h : e ∈ ((serve variant ops).run w).journal) :
    ∃ earlier op later,
      ops = earlier ++ op :: later ∧ e ∈ (asked variant earlier op w).journal := by
  induction ops using List.reverseRecOn with
  | nil => cases h
  | append_singleton ops op ih =>
    rw [serve_concat] at h
    rcases List.mem_append.mp h with h | h
    · obtain ⟨earlier, other, later, rfl, hmem⟩ := ih h
      exact ⟨earlier, other, later ++ [op], by simp, hmem⟩
    · exact ⟨ops, op, [], rfl, h⟩

/-! ### Operations that do not write -/

theorem forall_mem_made {P : Event η → Prop} (hcreate : ∀ c answer, P (.create c answer))
    (hrecord : ∀ entry, P (.record entry)) (es : List (Endpoint η)) :
    ∀ e ∈ es.flatMap Endpoint.made, P e := by
  rw [List.forall_mem_flatMap]
  intro endpoint _
  exact List.forall_mem_cons.mpr ⟨hcreate _ _, List.forall_mem_singleton.mpr (hrecord _)⟩

theorem forall_mem_givenUp {P : Event η → Prop} (hdestroy : ∀ handle, P (.destroy handle))
    (hrecord : ∀ entry, P (.record entry)) (es : List (Endpoint η)) :
    ∀ e ∈ es.flatMap Endpoint.givenUp, P e := by
  rw [List.forall_mem_flatMap]
  intro endpoint _
  exact List.forall_mem_cons.mpr ⟨hdestroy _, List.forall_mem_singleton.mpr (hrecord _)⟩

theorem Resolved.onBus {p : Provider η} {args : List UInt32}
    {value : Except Failure (Endpoint η)} {journal : List (Event η)}
    (h : p.Resolved args value journal) : ∀ e ∈ journal, e.onBus = false := by
  cases h <;> simp [Event.onBus]

omit [Bus σ] in
/-- A removal leaves the bus alone. -/
theorem Coherent.remove_onBus {p : Provider η} (hp : p.Coherent) (w : σ) :
    ∀ e ∈ (p.remove.run w).journal, e.onBus = false := by
  rw [(remove_run hp.keyed w).2]
  exact forall_mem_givenUp (fun _ => rfl) (fun _ => rfl) _

/-- Nothing but probes, mode requests and direct uses of the bus gets to the bus. -/
theorem Coherent.perform_onBus {p : Provider η} (hp : p.Coherent) {op : Operation}
    (hprobe : op ≠ .probe) (hmode : op.modeArgs? = none) (hdirect : op.direct = false) (w : σ) :
    ∀ e ∈ ((p.perform op).run w).journal, e.onBus = false := by
  cases op with
  | remove =>
    rw [perform_remove_run]
    exact hp.remove_onBus w
  | resolve args =>
    obtain ⟨value, journal, hresolved, hrun⟩ := p.resolve_run args w
    simpa [Provider.perform, hrun] using hresolved.onBus
  | variant | endpoint => simp [Provider.perform]
  | probe => exact absurd rfl hprobe
  | setMode | setModeRaw => cases hmode
  | command => cases hdirect

/-- A probe reads, calls the factory and records. -/
theorem Coherent.forall_mem_probe {P : Event η → Prop}
    (hread : ∀ address answer, P (.read address answer))
    (hcreate : ∀ c answer, P (.create c answer)) (hdestroy : ∀ handle, P (.destroy handle))
    (hrecord : ∀ entry, P (.record entry)) {p : Provider η} (hp : p.Coherent) (w : σ) :
    ∀ e ∈ (p.probe.run w).journal, P e := by
  have hdiscover : ∀ e ∈ ((Topology.discover : Attempt σ η Topology).run.run w).journal, P e :=
    Topology.discover_only hread hrecord w
  have hmismatch (found : Topology) : ∀ e ∈ (p.mismatch found : List (Event η)), P e := by
    unfold mismatch
    split
    · simpa using hrecord _
    · simp
  cases probe_run hp.vacant w with
  | idle h run => simp [run]
  | unidentified failure h hfound value journal =>
    rw [journal]
    exact hdiscover
  | complete found es h hfound hes value journal =>
    rw [journal, List.forall_mem_append, List.forall_mem_append]
    exact ⟨⟨hdiscover, hmismatch found⟩, forall_mem_made hcreate hrecord es⟩
  | refused found es c rest failure h hfound hes value journal =>
    have hrefusal : ∀ e ∈ (refusal c failure : List (Event η)), P e :=
      List.forall_mem_cons.mpr ⟨hcreate _ _, List.forall_mem_singleton.mpr (hrecord _)⟩
    rw [journal, List.forall_mem_append, List.forall_mem_append, List.forall_mem_append,
      List.forall_mem_append]
    exact ⟨⟨hdiscover, hmismatch found⟩, ⟨forall_mem_made hcreate hrecord es, hrefusal⟩,
      forall_mem_givenUp hdestroy hrecord es⟩

/-- A probe that succeeds leaves the provider ready. -/
theorem Coherent.ready_of_probe {p : Provider η} (hp : p.Coherent) {w : σ}
    (h : (p.probe.run w).value.1 = .ok ()) : (p.probe.run w).value.2.state = .ready := by
  cases probe_run hp.vacant w with
  | idle hidle run => simpa [run] using hidle
  | unidentified failure _ hfound value journal => simp [value] at h
  | complete found es _ hfound hes value journal => rw [value]
  | refused found es c rest failure _ hfound hes value journal => simp [value] at h

/-! ### Mode requests -/

omit [Bus σ] [Factory σ η] in
/-- A channel with an endpoint is one that the part was found to have. -/
theorem Coherent.lt_of_endpoint? {p : Provider η} (hp : p.Coherent) {c : Channel} {e : Endpoint η}
    (he : p.endpoint? c = some e) :
    e.channel = c ∧ ∃ t, p.topology? = some t ∧ c.toNat < t.channels.toNat := by
  have hc : e.channel = c := hp.keyed c e he
  have hready : p.state = .ready := by
    by_contra hne
    rw [endpoint?, hp.vacant hne] at he
    cases he
  obtain ⟨t, ht⟩ := Option.isSome_iff_exists.mp (hp.found.mpr hready)
  refine ⟨hc, t, ht, ?_⟩
  have hmem : e ∈ p.endpoints := EndpointMap.mem_toList_iff.mpr ⟨c, he⟩
  have hchannel : e.channel ∈ p.endpoints.map Endpoint.channel := List.mem_map_of_mem hmem
  rw [hp.populated t ht, hc] at hchannel
  exact Channel.mem_first_iff.mp hchannel

/-- What a provider knows of the part is what the probe found that made it. -/
theorem MadeBy.discovered {variant : Variant} {w : σ} {before since : List Operation}
    {p : Provider η} (h : MadeBy variant w before since p) {t : Topology}
    (ht : p.topology? = some t) :
    ((Topology.discover : Attempt σ η Topology).run.run
      ((serve variant before : Action σ η _).run w).world).value = .ok t := by
  have hq : ((serve variant before : Action σ η _).run w).value.2.Coherent :=
    coherent_serve variant before w
  have hresult := h.result
  cases probe_run hq.vacant ((serve variant before : Action σ η _).run w).world with
  | idle hidle run => exact absurd hidle h.effective
  | unidentified failure _ hfound value journal => simp [value] at hresult
  | refused found es c rest failure _ hfound hes value journal => simp [value] at hresult
  | complete found es _ hfound hes value journal =>
    rw [value] at hresult
    obtain rfl : _ = p := (Prod.mk.inj hresult).2
    obtain rfl : found = t := Option.some.inj ht
    exact hfound

/-- After what was asked earlier, an operation asks for the mode of a channel, and the provider has
an endpoint for it, which goes back to the probe that found a topology. -/
structure Solicited (variant : Variant) (w : σ) (earlier : List Operation) (op : Operation)
    (c : Channel) (found : Topology) : Prop where
  /-- The operation is a mode request, and its arguments name the channel. -/
  request : ∃ args, op.modeArgs? = some args ∧ Channel.ofArgs args = .ok c
  /-- The channel has an endpoint, which is its own. -/
  resolved : ∃ e, ((serve variant earlier : Action σ η _).run w).value.2.endpoint? c = some e ∧
    e.channel = c
  /-- The provider is what its latest effective probe made it, and that probe found the topology. -/
  probed : ∃ before since, earlier = before ++ .probe :: since ∧
    MadeBy variant w before since ((serve variant earlier : Action σ η _).run w).value.2 ∧
    ((Topology.discover : Attempt σ η Topology).run.run
      ((serve variant before : Action σ η _).run w).world).value = .ok found
  /-- The part has that many channels. -/
  within : c.toNat < found.channels.toNat

/-- **Whose write it is, and where it goes.** -/
theorem asked_write {variant : Variant} {earlier : List Operation} {op : Operation} {w : σ}
    (hdirect : op.direct = false) {address value : UInt8} {answer : Except BusFault Unit}
    (h : .write address value answer ∈ (asked variant earlier op w).journal) :
    ∃ c found, Solicited variant w earlier op c found ∧
      (address = Register.channelSelect.address → value = c.selectMask) ∧
      ∀ r ∈ Register.identification, address ≠ r.address := by
  have hp : ((serve variant earlier : Action σ η _).run w).value.2.Coherent :=
    coherent_serve variant earlier w
  rw [asked] at h
  cases hmode : op.modeArgs? with
  | none =>
    -- Nothing else writes.
    by_cases hprobe : op = .probe
    · subst hprobe
      rw [perform_probe_run] at h
      have hnot := hp.forall_mem_probe (P := fun e => e.isWrite = false) (fun _ _ => rfl)
        (fun _ _ => rfl) (fun _ => rfl) (fun _ => rfl) _ _ h
      cases hnot
    · have hnot := hp.perform_onBus hprobe hmode hdirect _ _ h
      cases hnot
  | some args =>
    have hrequested := modeRequest_run hmode ((serve variant earlier : Action σ η _).run w).value.2
      ((serve variant earlier : Action σ η _).run w).world
    generalize ((((serve variant earlier : Action σ η _).run w).value.2.perform op).run
      ((serve variant earlier : Action σ η _).run w).world) = o at h hrequested
    cases hrequested with
    | unresolved hresolved =>
      have hnot := hresolved.onBus _ h
      cases hnot
    | refused hresolved hrate => simp at h
    | @programmed e rate o hresolved hrate ho =>
      subst ho
      cases hresolved with
      | @found c _ hargs he =>
        obtain ⟨rfl, t, ht, hlt⟩ := hp.lt_of_endpoint? he
        obtain ⟨before, since, heq, hmade⟩ :=
          exists_madeBy (hp.found.mp (Option.isSome_iff_exists.mpr ⟨t, ht⟩))
        refine ⟨e.channel, t, ?_, configure_write h⟩
        exact ⟨⟨args, hmode, hargs⟩, ⟨e, he, rfl⟩,
          ⟨before, since, heq, hmade, hmade.discovered ht⟩, hlt⟩

end Provider

end Asked

/-! ## A part that is a plain register file -/

section Plain

/-- What registers tell about a part, if it can be identified by them. -/
def Topology.shownBy? (file : RegisterFile) : Option Topology :=
  let configId := file.get Register.channelConfigId.address &&& configIdMask
  let versions : ChannelVersion := ⟨file.get Register.channelVersion.address⟩
  (ChannelCount.ofConfigId? configId).map fun channels =>
    ⟨file.get Register.deviceId.address, file.get Register.version.address, configId, channels,
      versions.channel, versions.share⟩

/-- A byte stored elsewhere makes no difference to that. -/
theorem Topology.shownBy?_set (file : RegisterFile) {address : UInt8}
    (h : ∀ r ∈ Register.identification, address ≠ r.address) (value : UInt8) :
    shownBy? (file.set address value) = shownBy? file := by
  have hget (r : Register) (hr : r ∈ Register.identification) :
      (file.set address value).get r.address = file.get r.address :=
    if_neg (h r hr).symm
  rw [shownBy?, shownBy?, hget .channelConfigId (by decide), hget .version (by decide),
    hget .deviceId (by decide), hget .channelVersion (by decide)]

theorem Bench.readByte_registers (address : UInt8) (w : Board SimulatedPart φ) :
    (Bus.readByte address w).2.bus.registers = w.bus.registers ∧
      ∀ value, (Bus.readByte address w).1 = .ok value → value = w.bus.registers.get address := by
  by_cases h : address ∈ w.bus.unreadable
  · simp [Bus.readByte, h, SimulatedPart.remember]
  · simp [Bus.readByte, h, SimulatedPart.remember, eq_comm]

theorem Bench.writeByte_registers (address value : UInt8) (w : Board SimulatedPart φ) :
    (Bus.writeByte address value w).2.bus.registers = w.bus.registers ∨
      (Bus.writeByte address value w).2.bus.registers = w.bus.registers.set address value := by
  by_cases h : address ∈ w.bus.unwritable
  · simp [Bus.writeByte, h, SimulatedPart.remember]
  · simp [Bus.writeByte, h, SimulatedPart.remember, SimulatedPart.holding]

/-- Where nothing is written, what is read is what was there. -/
theorem Answered.read_eq {w w' : Board SimulatedPart φ} {journal : List (Event η)}
    (h : Answered w journal w') (hreads : ∀ e ∈ journal, e.isWrite = false)
    {address value : UInt8} (hmem : .read address (.ok value) ∈ journal) :
    value = w.bus.registers.get address := by
  induction journal generalizing w with
  | nil => cases hmem
  | cons e journal ih =>
    obtain ⟨he, hrest⟩ := List.forall_mem_cons.mp hreads
    cases e with
    | read other answer =>
      obtain ⟨hanswer, hjournal⟩ := h
      obtain ⟨hkept, hvalue⟩ := Bench.readByte_registers other w
      rcases List.mem_cons.mp hmem with hhead | hmem
      · obtain ⟨rfl, rfl⟩ := Event.read.inj hhead
        exact hvalue value hanswer.symm
      · rw [← hkept]
        exact ih hjournal hrest hmem
    | record entry => exact ih h hrest ((List.mem_cons.mp hmem).resolve_left nofun)
    | write => cases he
    | create | destroy => exact h.elim

/-- An identification that succeeds finds what the registers tell. -/
theorem Topology.shownBy?_of_discover {w : Board SimulatedPart φ} {t : Topology}
    (h : ((discover : Attempt (Board SimulatedPart φ) η Topology).run.run w).value = .ok t) :
    shownBy? w.bus.registers = some t := by
  obtain ⟨value, journal, w', hdiscovered, hanswered, hrun⟩ :=
    @discover_run (Board SimulatedPart φ) η _ w
  rw [hrun] at h
  obtain rfl : value = .ok t := h
  have hreads : ∀ e ∈ journal, e.isWrite = false := by
    have honly : (discover : Attempt (Board SimulatedPart φ) η Topology).run.Only
        fun e => e.isWrite = false := discover_only (fun _ _ => rfl) fun _ => rfl
    have hjournal := honly w
    rwa [hrun] at hjournal
  have hread {address value : UInt8} (hmem : .read address (.ok value) ∈ journal) :=
    hanswered.read_eq hreads hmem
  cases hdiscovered with
  | identified deviceId version config count versions hsize =>
    have hid := @hread Register.deviceId.address deviceId (by simp [identityRead])
    have hversion := @hread Register.version.address version (by simp [identityRead])
    have hconfig := @hread Register.channelConfigId.address config (by simp [sizeRead])
    have hversions := @hread Register.channelVersion.address versions.raw (by simp [versionsRead])
    rw [shownBy?, ← hid, ← hversion, ← hconfig, ← hversions, hsize]
    rfl

variable [Factory φ η]

/-- **What a part tells about itself does not change**, whatever is asked of a provider. -/
theorem Topology.shownBy?_serve {variant : Variant} {ops : List Operation}
    (hops : ∀ op ∈ ops, op.direct = false) (w : Board SimulatedPart φ) :
    shownBy? ((serve variant ops : Action (Board SimulatedPart φ) η _).run w).world.bus.registers =
      shownBy? w.bus.registers := by
  have hhappened := @Provider.serve_faithful (Board SimulatedPart φ) η _ _ variant ops w
  refine hhappened.keeps (f := fun w => shownBy? w.bus.registers) ?_
  intro e he
  cases e with
  | read address answer =>
    intro w
    exact congrArg shownBy? (Bench.readByte_registers address w).1
  | write address value answer =>
    intro w
    obtain ⟨earlier, op, later, rfl, hmem⟩ := Provider.mem_journal_serve he
    obtain ⟨c, found, -, -, hidentification⟩ := Provider.asked_write (hops op (by simp)) hmem
    rcases Bench.writeByte_registers address value w with hkept | hset
    · exact congrArg shownBy? hkept
    · exact (congrArg shownBy? hset).trans (shownBy?_set _ hidentification value)
  | create c answer => exact fun _ => rfl
  | destroy handle => exact fun _ => rfl
  | record entry => trivial

/-- On a part that is a plain register file, every probe that succeeds finds what the registers told
when the run began. -/
theorem topology?_of_probe {variant : Variant} {earlier : List Operation}
    (hearlier : ∀ op ∈ earlier, op.direct = false) {w : Board SimulatedPart φ}
    (h : (asked variant earlier .probe w : Outcome (Board SimulatedPart φ) η _).value.1 =
      .done (.ok ())) :
    ∃ t, (asked variant earlier .probe w : Outcome (Board SimulatedPart φ) η _).value.2.topology? =
      some t ∧ Topology.shownBy? w.bus.registers = some t := by
  have hp : ((serve variant earlier : Action (Board SimulatedPart φ) η _).run w).value.2.Coherent :=
    Provider.coherent_serve variant earlier w
  have hserved : (asked variant earlier .probe w : Outcome (Board SimulatedPart φ) η _).value.2 =
      ((serve variant (earlier ++ [.probe])).run w).value.2 := by
    rw [Provider.serve_concat]
    rfl
  have hok : (((serve variant earlier : Action (Board SimulatedPart φ) η _).run w).value.2.probe.run
      ((serve variant earlier).run w).world).value.1 = .ok () := by
    rw [asked, Provider.perform_probe_run] at h
    exact Reply.done.inj h
  have hready :
      (asked variant earlier .probe w : Outcome (Board SimulatedPart φ) η _).value.2.state =
        .ready := by
    rw [asked, Provider.perform_probe_run]
    exact hp.ready_of_probe hok
  -- The probe that it goes back to may be an earlier one, but the registers told the same then.
  rw [hserved] at hready ⊢
  obtain ⟨before, since, heq, hmade⟩ := Provider.exists_madeBy hready
  obtain ⟨t, ht⟩ := Option.isSome_iff_exists.mp
    ((Provider.coherent_serve variant (earlier ++ [.probe]) w).found.mpr hready)
  refine ⟨t, ht, ?_⟩
  rw [← Topology.shownBy?_of_discover (hmade.discovered ht)]
  refine (Topology.shownBy?_serve ?_ w).symm
  intro op hop
  have hmem : op ∈ earlier ++ [.probe] := heq ▸ List.mem_append_left _ hop
  rcases List.mem_append.mp hmem with hmem | hmem
  · exact hearlier op hmem
  · rw [List.mem_singleton.mp hmem]
    rfl

/-- **Only mode requests write, and only to channels that there are.** In a run that does not use
the bus directly, whatever it asks in whichever order and whatever the bus and the factory answer,
the journal is what happened. In it a probe reads and the other operations leave the bus alone, the
removal at the end included. A write belongs to a request for the mode of a channel with an
endpoint, which is one of the channels that the latest effective probe found. It selects no other
channel, and never goes to a register by which the part identifies itself. So on a part that is a
plain register file with registers that refuse to be read or written, the probes of a run that
succeed all find the same. -/
theorem serve_traffic [Bus σ] [Factory σ η] (variant : Variant) (ops : List Operation)
    (hops : ∀ op ∈ ops, op.direct = false) (w : σ) (board : Board SimulatedPart φ) :
    let served := (serve variant ops : Action σ η _).run w
    let dropped := served.value.2.remove.run served.world
    Happened w (served.journal ++ dropped.journal) dropped.world ∧
    (∀ e ∈ served.journal, ∃ earlier op later,
      ops = earlier ++ op :: later ∧ e ∈ (asked variant earlier op w).journal) ∧
    (∀ earlier op later, ops = earlier ++ op :: later →
      (op = .probe → ∀ e ∈ (asked variant earlier op w).journal, e.isWrite = false) ∧
      (op ≠ .probe → op.modeArgs? = none →
        ∀ e ∈ (asked variant earlier op w).journal, e.onBus = false) ∧
      ∀ address value answer, .write address value answer ∈ (asked variant earlier op w).journal →
        ∃ c found, Provider.Solicited variant w earlier op c found ∧
          (address = Register.channelSelect.address → value = c.selectMask) ∧
          ∀ r ∈ Register.identification, address ≠ r.address) ∧
    (∀ e ∈ dropped.journal, e.onBus = false) ∧
    ∀ earlier, earlier ++ [.probe] <+: ops →
      let o := (asked variant earlier .probe board : Outcome (Board SimulatedPart φ) η _)
      o.value.1 = .done (.ok ()) →
        ∃ t, o.value.2.topology? = some t ∧ Topology.shownBy? board.bus.registers = some t := by
  intro served dropped
  have hp (ops : List Operation) : ((serve variant ops : Action σ η _).run w).value.2.Coherent :=
    Provider.coherent_serve variant ops w
  refine ⟨Provider.happened_serve_remove variant ops w,
    fun e he => Provider.mem_journal_serve he, ?_, (hp ops).remove_onBus _, ?_⟩
  · rintro earlier op later rfl
    have hdirect : op.direct = false := hops op (by simp)
    refine ⟨?_, ?_, ?_⟩
    · rintro rfl
      rw [asked, Provider.perform_probe_run]
      exact (hp earlier).forall_mem_probe (fun _ _ => rfl) (fun _ _ => rfl) (fun _ => rfl)
        (fun _ => rfl) _
    · intro hprobe hmode
      exact (hp earlier).perform_onBus hprobe hmode hdirect _
    · intro address value answer hmem
      exact Provider.asked_write hdirect hmem
  · intro earlier hearlier
    refine topology?_of_probe ?_
    intro op hop
    exact hops op (hearlier.subset (List.mem_append_left _ hop))

/-- A part with four channels, and a factory that refuses none. -/
def fourChannels : Board SimulatedPart TallyFactory := ⟨.healthy 0xE, .blank none⟩

/-- There, declared as a part with eight channels, a request for the third one. -/
theorem serve_traffic_fourChannels :
    (∃ c found, Provider.Solicited .ds250df810 fourChannels [.probe]
        (.setMode [2] .ethernet .tenGBaseR) c found ∧
      c.selectMask = 0x04 ∧
      ∀ r ∈ Register.identification, Register.channelSelect.address ≠ r.address) ∧
    ∃ t, (asked .ds250df810 [] .probe fourChannels).value.2.topology? = some t ∧
      Topology.shownBy? fourChannels.bus.registers = some t := by
  obtain ⟨-, -, hasked, -, hfound⟩ := serve_traffic .ds250df810
    [.probe, .setMode [2] .ethernet .tenGBaseR] (by decide) fourChannels fourChannels
  -- the channel select is written by the third access of the request
  obtain ⟨c, found, hsolicited, hselects, hspared⟩ :=
    (hasked [.probe] _ [] rfl).2.2 Register.channelSelect.address 0x04 (.ok ())
      (List.mem_of_getElem? (i := 2) rfl)
  exact ⟨⟨c, found, hsolicited, (hselects rfl).symm, hspared⟩, hfound [] ⟨_, rfl⟩ rfl⟩

end Plain

end Retimer
