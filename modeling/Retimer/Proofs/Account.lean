import Retimer.Proofs.Discovery
import Retimer.Proofs.Programming
import Retimer.Proofs.Provider.Custody
import Retimer.Proofs.Provider.ModeRequest

/-!
# What the records tell

A record is written at one place and the thing it tells of happens at another: before it, or after
it, or a function further down. That the two always go together is a property of every path through
the driver, failures and roll-backs included.

An *account* of a journal says what its records tell, by topic. Those about endpoints tell the calls
of the factory, one for one and in order, and name the channel where a call has only the handle.
Those about failures tell the accesses that failed. Those about successes tell which channels were
programmed; that they are the ones asked for is said where it is known what was asked. The remaining
records tell nothing about the journal, and an account passes over them.

Accounts of journals in succession make an account of the whole, so it is enough to give one for
each piece that a journal is made of.

## Main definitions

* `Chronicled`: calls of a factory, told by records
* `Accounted`: an account of a journal

## Main results

* `Accounted.append`: accounts of successive journals
* `Provider.Coherent.accounted`: every operation leaves an account
-/

namespace Retimer

variable {σ η : Type}

/-! ## Topics -/

namespace Record

/-- Whether the record tells of a call of the factory. -/
def onFactory : Record → Bool
  | endpointCreated .. | endpointCreateFailed .. | endpointDestroyed .. => true
  | _ => false

/-- Whether the record tells of an access that failed. -/
def isFault : Record → Bool
  | readFailed .. | writeFailed .. => true
  | _ => false

/-- The programming that the record says went through. -/
def configured? : Record → Option (Channel × LineRate)
  | configured c rate => some (c, rate)
  | _ => Option.none

/-- Whether the record tells of nothing in the journal. -/
def isNote (entry : Record) : Bool :=
  !entry.onFactory && !entry.isFault && entry.configured?.isNone

theorem onFactory_of_isFault {entry : Record} (h : entry.isFault = true) :
    entry.onFactory = false := by
  cases entry <;> first | rfl | cases h

theorem configured?_of_isFault {entry : Record} (h : entry.isFault = true) :
    entry.configured? = Option.none := by
  cases entry <;> first | rfl | cases h

end Record

theorem Event.isFault_of_fault? {e : Event η} {entry : Record} (h : e.fault? = some entry) :
    entry.isFault = true := by
  match e with
  | .read address (.error fault) | .write address value (.error fault) =>
    obtain ⟨r, -, rfl⟩ := Option.map_eq_some_iff.mp h
    rfl
  | .read address (.ok value) | .write address value (.ok _) | .create .. | .destroy _
  | .record _ => cases h

/-! ## Accounts -/

/-- Records tell the calls of a factory, one for one and in order, from some endpoints that are out
to others. -/
inductive Chronicled : Multiset (Endpoint η) → List (Event η) → List Record →
    Multiset (Endpoint η) → Prop
  /-- No call, no record. -/
  | nil (out : Multiset (Endpoint η)) : Chronicled out [] [] out
  /-- An endpoint was made. -/
  | created {out last : Multiset (Endpoint η)} {calls : List (Event η)} {records : List Record}
    (e : Endpoint η) (rest : Chronicled (e ::ₘ out) calls records last) :
    Chronicled out (.create e.channel (.ok e.handle) :: calls)
      (.endpointCreated e.channel :: records) last
  /-- An endpoint was refused. -/
  | refused {out last : Multiset (Endpoint η)} {calls : List (Event η)} {records : List Record}
    (c : Channel) (failure : Failure) (rest : Chronicled out calls records last) :
    Chronicled out (.create c (.error failure) :: calls)
      (.endpointCreateFailed c failure :: records) last
  /-- An endpoint that was out was given up. -/
  | destroyed {out last : Multiset (Endpoint η)} {calls : List (Event η)} {records : List Record}
    (e : Endpoint η) (rest : Chronicled out calls records last) :
    Chronicled (e ::ₘ out) (.destroy e.handle :: calls)
      (.endpointDestroyed e.channel :: records) last

theorem Chronicled.append {out between last : Multiset (Endpoint η)} {a b : List (Event η)}
    {r s : List Record} (h : Chronicled out a r between) (k : Chronicled between b s last) :
    Chronicled out (a ++ b) (r ++ s) last := by
  induction h with
  | nil => exact k
  | created e _ ih => exact .created e (ih k)
  | refused c failure _ ih => exact .refused c failure (ih k)
  | destroyed e _ ih => exact .destroyed e (ih k)

/-- What the records in a journal tell about it: from the endpoints that are `out` to the `last`
ones, with the channels that were `done`. -/
structure Accounted (out : Multiset (Endpoint η)) (journal : List (Event η))
    (done : List (Channel × LineRate)) (last : Multiset (Endpoint η)) : Prop where
  /-- Records about endpoints tell the calls of the factory. -/
  calls : Chronicled out (journal.filter Event.onFactory)
    ((recordsOf journal).filter Record.onFactory) last
  /-- Records about failures are those that the failed accesses call for. -/
  faults : (recordsOf journal).filter Record.isFault = faultsOf journal
  /-- Every failed access calls for one. -/
  failures : (faultsOf journal).length = journal.countP Event.failed
  /-- Records about successes tell which channels were programmed. -/
  successes : (recordsOf journal).filterMap Record.configured? = done

namespace Accounted

variable {out between last : Multiset (Endpoint η)} {a b : List (Event η)}
  {done more : List (Channel × LineRate)}

theorem nil (out : Multiset (Endpoint η)) : Accounted out [] [] out := ⟨.nil out, rfl, rfl, rfl⟩

/-- **Accounts of successive journals are an account of the whole.** -/
theorem append (ha : Accounted out a done between) (hb : Accounted between b more last) :
    Accounted out (a ++ b) (done ++ more) last where
  calls := by simpa using ha.calls.append hb.calls
  faults := by simp [ha.faults, hb.faults]
  failures := by simp [ha.failures, hb.failures]
  successes := by simp [ha.successes, hb.successes]

theorem note {entry : Record} (h : entry.isNote = true) : Accounted out [.record entry] [] out := by
  cases entry with
  | endpointCreated | endpointCreateFailed | endpointDestroyed | readFailed | writeFailed
  | configured => cases h
  | _ => exact ⟨.nil out, rfl, rfl, rfl⟩

theorem configured (c : Channel) (rate : LineRate) :
    Accounted out [.record (.configured c rate)] [(c, rate)] out :=
  ⟨.nil out, rfl, rfl, rfl⟩

theorem read (address value : UInt8) : Accounted out [.read address (.ok value)] [] out :=
  ⟨.nil out, rfl, rfl, rfl⟩

/-- Journals of accesses that record their failures and nothing else. -/
theorem of_faults {journal : List (Event η)} (hquiet : ∀ e ∈ journal, e.onFactory = false)
    (hrecords : recordsOf journal = faultsOf journal)
    (hfailures : (faultsOf journal).length = journal.countP Event.failed) :
    Accounted out journal [] out := by
  have hfault : ∀ entry ∈ faultsOf journal, entry.isFault = true := by
    intro entry hentry
    obtain ⟨e, -, he⟩ := List.mem_filterMap.mp hentry
    exact Event.isFault_of_fault? he
  have hcalls : journal.filter Event.onFactory = [] := by
    rw [List.filter_eq_nil_iff]
    intro e he
    simp [hquiet e he]
  have htold : (faultsOf journal).filter Record.onFactory = [] := by
    rw [List.filter_eq_nil_iff]
    intro entry hentry
    simp [Record.onFactory_of_isFault (hfault entry hentry)]
  refine ⟨?_, ?_, hfailures, ?_⟩
  · rw [hrecords, hcalls, htold]
    exact .nil out
  · rw [hrecords, List.filter_eq_self.mpr hfault]
  · rw [hrecords, List.filterMap_eq_nil_iff]
    intro entry hentry
    exact Record.configured?_of_isFault (hfault entry hentry)

/-! ### Pieces of an identification -/

theorem unread (r : Register) (fault : BusFault) :
    Accounted out (Topology.unread r fault) [] out :=
  of_faults (by simp [Topology.unread, Event.onFactory])
    (by simp [Topology.unread, recordsOf, List.filterMap_cons, Event.record?, faultsOf_cons])
    (by simp [Topology.unread, faultsOf_cons, List.countP_cons, Event.failed])

theorem identityRead (deviceId version : UInt8) :
    Accounted out (Topology.identityRead deviceId version) [] out := by
  have hreads : Accounted out
      [.read Register.deviceId.address (.ok deviceId), .read Register.version.address (.ok version),
        .record (.identity deviceId version)] [] out := ⟨.nil out, rfl, rfl, rfl⟩
  have hunknown : Accounted out
      (if deviceId ≠ knownDeviceId then [.record (.unknownDeviceId deviceId)] else []) [] out := by
    split
    · exact note rfl
    · exact nil out
  exact hreads.append hunknown

/-- An identification is accounted for, however it ends. -/
theorem of_discovered {value : Except Failure Topology} {journal : List (Event η)}
    (h : Topology.Discovered value journal) : Accounted out journal [] out := by
  have hnoted (address value : UInt8) {entry : Record} (hentry : entry.isNote = true) :
      Accounted out [.read address (.ok value), .record entry] [] out :=
    (read address value).append (note hentry)
  cases h with
  | identityUnread fault => exact unread _ fault
  | versionUnread deviceId fault => exact (read _ deviceId).append (unread _ fault)
  | configUnread deviceId version fault =>
    exact (identityRead deviceId version).append (unread _ fault)
  | sizeUnknown deviceId version config hsize =>
    exact (identityRead deviceId version).append (hnoted _ config rfl)
  | versionsUnread deviceId version config count fault hsize =>
    exact ((identityRead deviceId version).append (hnoted _ config rfl)).append (unread _ fault)
  | identified deviceId version config count versions hsize =>
    exact ((identityRead deviceId version).append (hnoted _ config rfl)).append
      (hnoted _ versions.raw rfl)

/-! ### Pieces of a probe -/

theorem made (es : List (Endpoint η)) :
    Accounted out (es.flatMap Endpoint.made) [] (out + (es : Multiset (Endpoint η))) := by
  induction es generalizing out with
  | nil => simpa using nil out
  | cons e es ih =>
    have hone : Accounted out e.made [] (e ::ₘ out) := ⟨.created e (.nil _), rfl, rfl, rfl⟩
    rw [← Multiset.cons_coe, Multiset.add_cons, ← Multiset.cons_add]
    exact hone.append ih

theorem givenUp (es : List (Endpoint η)) :
    Accounted (es : Multiset (Endpoint η)) (es.flatMap Endpoint.givenUp) [] 0 := by
  induction es with
  | nil => exact nil 0
  | cons e es ih =>
    have hone : Accounted (e ::ₘ (es : Multiset (Endpoint η))) e.givenUp [] es :=
      ⟨.destroyed e (.nil _), rfl, rfl, rfl⟩
    exact hone.append ih

theorem refused (c : Channel) (failure : Failure) : Accounted out (refusal c failure) [] out :=
  ⟨.refused c failure (.nil out), rfl, rfl, rfl⟩

end Accounted

/-! ## What was asked for -/

/-- Whether a reply says that something was done. -/
def Reply.succeeded : Reply η → Bool
  | done (.ok ()) => true
  | _ => false

/-- Whether a command gets past the driver. -/
def Command.raw : Command → Bool
  | readByte _ | writeByte .. => true
  | _ => false

/-- The programming that a command asks for. -/
def Command.asked? : Command → Option (Channel × LineRate)
  | configure c rate => some (c, rate)
  | read .. | write .. | readByte .. | writeByte .. | discover => none

namespace Operation

/-- Whether an operation gets past the driver. -/
def raw : Operation → Bool
  | command c => c.raw
  | _ => false

/-- The programming that an operation asks for. -/
def asked? (op : Operation) : Option (Channel × LineRate) :=
  match op with
  | command c => c.asked?
  | op => do
    let args ← op.modeArgs?
    let c ← (Channel.ofArgs args).toOption
    let rate ← op.rate?
    return (c, rate)

theorem asked?_of_modeArgs? {op : Operation} {args : List UInt32} {c : Channel} {rate : LineRate}
    (hop : op.modeArgs? = some args) (hargs : Channel.ofArgs args = .ok c)
    (hrate : op.rate? = some rate) : op.asked? = some (c, rate) := by
  cases op with
  | command c => cases hop
  | _ => simp [asked?, hop, hargs, hrate, Except.toOption]

theorem isNote_refusal (op : Operation) (c : Channel) : (op.refusal c).isNote = true := by
  cases op with
  | setModeRaw args mode submode =>
    rw [refusal]
    split <;> rfl
  | _ => rfl

end Operation

/-- The programming that was asked for and, as the reply says, done. -/
def Reply.done? (asked? : Option (Channel × LineRate)) (reply : Reply η) :
    List (Channel × LineRate) :=
  if reply.succeeded then asked?.toList else []

@[simp] theorem Reply.done?_none (reply : Reply η) : reply.done? none = [] := by
  rw [done?]
  split <;> rfl

@[simp] theorem Reply.done?_done (outcome : Except Failure Unit)
    (asked : Channel × LineRate) :
    (done outcome : Reply η).done? (some asked) = if outcome.isOk then [asked] else [] := by
  cases outcome <;> rfl

/-! ## Accounts of what was asked for -/

section Commands

variable [Bus σ]

theorem Topology.discover_accounted (out : Multiset (Endpoint η)) (w : σ) :
    Accounted out ((discover : Attempt σ η Topology).run.run w).journal [] out := by
  obtain ⟨value, journal, w', hdiscovered, -, hrun⟩ := @discover_run σ η _ w
  rw [hrun]
  exact .of_discovered hdiscovered

theorem Answered.quiet {w w' : σ} {journal : List (Event η)} (h : Answered w journal w') :
    ∀ e ∈ journal, e.onFactory = false := by
  induction journal generalizing w with
  | nil => simp
  | cons e journal ih =>
    rw [List.forall_mem_cons]
    cases e with
    | read address answer => exact ⟨rfl, ih h.2⟩
    | write address value answer => exact ⟨rfl, ih h.2⟩
    | record entry => exact ⟨rfl, ih h⟩
    | create | destroy => exact h.elim

theorem configure_accounted (out : Multiset (Endpoint η)) (c : Channel) (rate : LineRate) (w : σ) :
    let o := (configure c rate : Attempt σ η Unit).run.run w
    Accounted out o.journal (if o.value.isOk then [(c, rate)] else []) out := by
  obtain ⟨blocks, w', hblocks, hanswered, hrun⟩ := @configure_run σ η _ c rate w
  have hflatten : Accounted out blocks.flatten [] out :=
    .of_faults hanswered.quiet (MaskedWrite.recordsOf_flatten hblocks)
      (MaskedWrite.length_faultsOf_flatten hblocks)
  intro o
  rw [show o = _ from hrun]
  cases (verdict blocks.flatten).isOk with
  | true => exact hflatten.append (.configured c rate)
  | false => exact hflatten.append (.nil out)

/-- Every command leaves an account. -/
theorem Command.accounted {command : Command} (hraw : command.raw = false)
    (out : Multiset (Endpoint η)) (w : σ) :
    let o := (command.perform : Action σ η (Reply η)).run w
    Accounted out o.journal (o.value.done? command.asked?) out := by
  intro o
  cases command with
  | read r mask =>
    obtain ⟨answer, w', h⟩ : ∃ x w', Bus.readByte r.address w = (x, w') := ⟨_, _, rfl⟩
    cases answer with
    | ok value =>
      have hrun : o = ⟨.bits (.ok (value &&& mask)), w', [.read r.address (.ok value)]⟩ := by
        simp [o, perform, readRegister_run_ok h]
      rw [hrun, asked?, Reply.done?_none]
      exact .read _ value
    | error fault =>
      have hrun : o = ⟨.bits (.error .ioFailure), w', Topology.unread r fault⟩ := by
        simp [o, perform, readRegister_run_error h, Topology.unread]
      rw [hrun, asked?, Reply.done?_none]
      exact .unread r fault
  | write change =>
    obtain ⟨journal, w', hblock, hanswered, hrun⟩ := @MaskedWrite.apply_run σ η _ change w
    have hdone : o = ⟨.done (verdict journal), w', journal⟩ := by simp [o, perform, hrun]
    rw [hdone, asked?, Reply.done?_none]
    exact .of_faults hanswered.quiet hblock.recordsOf_eq hblock.length_faultsOf
  | discover =>
    simpa [o, perform, asked?] using Topology.discover_accounted out w
  | configure c rate =>
    have haccount := configure_accounted out c rate w
    simpa [o, perform, asked?] using haccount
  | readByte | writeByte => cases hraw

end Commands

/-! ## Accounts of a provider's life -/

namespace Provider

variable [Bus σ] [Factory σ η]

theorem Resolved.accounted {p : Provider η} {args : List UInt32}
    {value : Except Failure (Endpoint η)} {journal : List (Event η)}
    (h : p.Resolved args value journal) (out : Multiset (Endpoint η)) :
    Accounted out journal [] out := by
  cases h with
  | found | vacant | beyond => exact .nil out
  | miscounted hargs => exact .note rfl

theorem Coherent.probe_accounted {p : Provider η} (hp : p.Coherent) (w : σ) :
    Accounted (p.endpoints : Multiset (Endpoint η)) (p.probe.run w).journal []
      (p.probe.run w).value.2.endpoints := by
  have hdiscover (out : Multiset (Endpoint η)) := Topology.discover_accounted out w
  have hmismatch (out : Multiset (Endpoint η)) (found : Topology) :
      Accounted out (p.mismatch found) [] out := by
    unfold mismatch
    split
    · exact .note rfl
    · exact .nil out
  have hmade (es : List (Endpoint η)) : Accounted 0 (es.flatMap Endpoint.made) [] es := by
    have h := @Accounted.made η 0 es
    rwa [zero_add] at h
  have hvacant (h : p.state ≠ .ready) : (p.endpoints : Multiset (Endpoint η)) = 0 := by
    rw [endpoints, hp.vacant h]
    rfl
  cases probe_run hp.vacant w with
  | idle h run =>
    rw [run]
    exact .nil _
  | unidentified failure h hfound value journal =>
    rw [value, journal]
    exact hdiscover _
  | complete found es h hfound hes value journal =>
    rw [value, journal, hvacant h, endpoints, EndpointMap.toList_insertAll_of_eq hes]
    exact ((hdiscover 0).append (hmismatch 0 found)).append (hmade es)
  | refused found es c rest failure h hfound hes value journal =>
    rw [value, journal, hvacant h]
    exact ((hdiscover 0).append (hmismatch 0 found)).append
      (((hmade es).append (.refused c failure)).append (.givenUp es))

theorem Coherent.modeRequest_accounted {p : Provider η} (hp : p.Coherent) {op : Operation}
    {args : List UInt32} (hop : op.modeArgs? = some args) (w : σ) :
    let o := (p.perform op).run w
    Accounted (p.endpoints : Multiset (Endpoint η)) o.journal (o.value.1.done? op.asked?)
      o.value.2.endpoints := by
  have hrequested := modeRequest_run hop p w
  intro o
  rw [show (p.perform op).run w = o from rfl] at hrequested
  generalize o = o at hrequested ⊢
  cases hrequested with
  | unresolved h => exact h.accounted _
  | @refused e h hrate => exact .note (op.isNote_refusal e.channel)
  | @programmed e rate o h hrate ho =>
    cases h with
    | @found c _ hargs he =>
      obtain rfl : e.channel = c := hp.keyed c e he
      subst ho
      rw [Operation.asked?_of_modeArgs? hop hargs hrate, Reply.done?_done]
      exact configure_accounted _ e.channel rate w

/-- **Every operation leaves an account**, from the endpoints there were to the endpoints there
are. -/
theorem Coherent.accounted {p : Provider η} (hp : p.Coherent) {op : Operation}
    (hraw : op.raw = false) (w : σ) :
    let o := (p.perform op).run w
    Accounted (p.endpoints : Multiset (Endpoint η)) o.journal (o.value.1.done? op.asked?)
      o.value.2.endpoints := by
  intro o
  cases op with
  | probe => simpa [o, Operation.asked?, Operation.modeArgs?] using hp.probe_accounted w
  | remove =>
    have hgiven := Accounted.givenUp p.endpoints
    obtain ⟨hvalue, hjournal⟩ := remove_run hp.keyed w
    simpa [o, hvalue, hjournal, removed, endpoints, Operation.asked?, Operation.modeArgs?]
      using hgiven
  | variant | endpoint => exact .nil _
  | resolve args =>
    obtain ⟨value, journal, hresolved, hrun⟩ := p.resolve_run args w
    simpa [o, Provider.perform, hrun, Operation.asked?, Operation.modeArgs?]
      using hresolved.accounted p.endpoints
  | setMode args mode submode => exact hp.modeRequest_accounted rfl w
  | setModeRaw args mode submode => exact hp.modeRequest_accounted rfl w
  | command command =>
    have haccount := Command.accounted hraw (p.endpoints : Multiset (Endpoint η)) w
    simpa [o, Provider.perform, Operation.asked?] using haccount

end Provider

end Retimer
