import Retimer.Bench.Faulty
import Retimer.Proofs.Observer.Provider

/-!
# No fault is acted on by its name

The transport has five names for an access that failed, and the driver has one: `ioFailure`. The
name is not lost, for it goes into the record of the failure. But it passes through the error path
of every layer on the way there, past the places where programming is carried on, where discovery
gives up and where a probe falls back, and in none of them may it have a say.

`Observer.ofOutcomes` is someone who sees that an access failed but not with what, and sees
everything else. Two buses which fail at the same accesses with different faults are one to that
observer, and so are the two runs, whatever was asked. What goes past the driver is set apart: there
the fault itself is the answer.

That a failure is told at all is the other half. It is not a matter of two runs: an operation in
which an access failed reports `ioFailure`, on any bus.

## Main results

* `Provider.Coherent.failure?_of_failed`: an operation in which an access failed says so
* `serve_blind_to_faults`: two runs on buses that differ in their faults
* `Bench.SameOutcomes.confuses`: buses that do
-/

namespace Retimer

variable {σ τ η β φ : Type}

/-! ## Failures are told -/

/-- The failure that a reply tells of, if it does. -/
def Reply.failure? : Reply η → Option Failure
  | done (.error failure) | bits (.error failure) | topology (.error failure)
  | resolved (.error failure) | unresolved failure => some failure
  | _ => none

/-- Where there was no access, none failed. -/
theorem any_failed_of_onBus {journal : List (Event η)} (h : ∀ e ∈ journal, e.onBus = false) :
    journal.any Event.failed = false := by
  rw [List.any_eq_false]
  intro e he hfailed
  have hbus := h e he
  cases e <;> simp_all [Event.onBus, Event.failed]

/-- An identification in which an access failed ends there. -/
theorem Topology.Discovered.eq_of_failed {value : Except Failure Topology}
    {journal : List (Event η)} (h : Discovered value journal)
    (hfailed : journal.any Event.failed = true) : value = .error .ioFailure := by
  have hidentity (d v : UInt8) : (identityRead d v : List (Event η)).any Event.failed = false := by
    unfold identityRead
    split <;> rfl
  cases h with
  | identityUnread | versionUnread | configUnread | versionsUnread => rfl
  | sizeUnknown => simp [hidentity, Event.failed] at hfailed
  | identified => simp [hidentity, sizeRead, versionsRead, Event.failed] at hfailed

section Operations

variable [Bus σ]

theorem Topology.discover_of_failed {w : σ}
    (h : ((discover : Attempt σ η Topology).run.run w).journal.any Event.failed = true) :
    ((discover : Attempt σ η Topology).run.run w).value = .error .ioFailure := by
  obtain ⟨value, journal, w', hdiscovered, -, hrun⟩ := @discover_run σ η _ w
  rw [hrun] at h ⊢
  exact hdiscovered.eq_of_failed h

theorem configure_of_failed {c : Channel} {rate : LineRate} {w : σ}
    (h : ((configure c rate : Attempt σ η Unit).run.run w).journal.any Event.failed = true) :
    ((configure c rate : Attempt σ η Unit).run.run w).value = .error .ioFailure := by
  obtain ⟨blocks, w', -, -, hrun⟩ := @configure_run σ η _ c rate w
  have hrecord : (if (verdict blocks.flatten).isOk then [.record (.configured c rate)]
      else [] : List (Event η)).any Event.failed = false := by
    split <;> rfl
  rw [hrun] at h ⊢
  rw [List.any_append, hrecord, Bool.or_false] at h
  exact verdict_of_failed h

theorem Command.failure?_of_failed {command : Command} (hraw : command.raw = false) {w : σ}
    (h : ((command.perform : Action σ η (Reply η)).run w).journal.any Event.failed = true) :
    ((command.perform : Action σ η (Reply η)).run w).value.failure? = some .ioFailure := by
  cases command with
  | read r mask =>
    cases hread : Bus.readByte r.address w with
    | mk answer w' =>
      cases answer with
      | ok prior => simp [perform, readRegister_run_ok hread, Event.failed] at h
      | error fault => simp [perform, readRegister_run_error hread, Reply.failure?]
  | write change =>
    obtain ⟨journal, w', -, -, hrun⟩ := @MaskedWrite.apply_run σ η _ change w
    simp only [perform, Action.run_bind, Action.run_pure, hrun, List.append_nil] at h ⊢
    rw [verdict_of_failed h]
    rfl
  | discover =>
    simp only [perform, Action.run_bind, Action.run_pure, List.append_nil] at h ⊢
    rw [Topology.discover_of_failed h]
    rfl
  | configure c rate =>
    simp only [perform, Action.run_bind, Action.run_pure, List.append_nil] at h ⊢
    rw [configure_of_failed h]
    rfl
  | readByte | writeByte => cases hraw

variable [Factory σ η]

namespace Provider

theorem Coherent.probe_of_failed {p : Provider η} (hp : p.Coherent) {w : σ}
    (h : (p.probe.run w).journal.any Event.failed = true) :
    (p.probe.run w).value.1 = .error .ioFailure := by
  -- Once the part is identified, there are no further accesses that could fail.
  have hfound {found : Topology}
      (hvalue : ((Topology.discover : Attempt σ η Topology).run.run w).value = .ok found) :
      ((Topology.discover : Attempt σ η Topology).run.run w).journal.any Event.failed = false := by
    rw [Bool.eq_false_iff]
    intro hfailed
    rw [Topology.discover_of_failed hfailed] at hvalue
    cases hvalue
  have hmismatch (found : Topology) :
      (p.mismatch found : List (Event η)).any Event.failed = false := by
    unfold mismatch
    split <;> rfl
  have hmade (es : List (Endpoint η)) : (es.flatMap Endpoint.made).any Event.failed = false :=
    any_failed_of_onBus (forall_mem_made (fun _ _ => rfl) (fun _ => rfl) es)
  have hgivenUp (es : List (Endpoint η)) : (es.flatMap Endpoint.givenUp).any Event.failed = false :=
    any_failed_of_onBus (forall_mem_givenUp (fun _ => rfl) (fun _ => rfl) es)
  cases probe_run hp.vacant w with
  | idle _ run => simp [run] at h
  | unidentified failure _ hvalue value journal =>
    rw [journal] at h
    obtain rfl : failure = .ioFailure :=
      Except.error.inj (hvalue.symm.trans (Topology.discover_of_failed h))
    rw [value]
  | complete found es _ hvalue hes value journal =>
    simp [journal, hfound hvalue, hmismatch, hmade] at h
  | refused found es c rest failure _ hvalue hes value journal =>
    simp [journal, hfound hvalue, hmismatch, hmade, hgivenUp, refusal, Event.failed] at h

/-- **An operation in which an access failed says so**, unless it went past the driver. -/
theorem Coherent.failure?_of_failed {p : Provider η} (hp : p.Coherent) {op : Operation}
    (hraw : op.raw = false) {w : σ} (h : ((p.perform op).run w).journal.any Event.failed = true) :
    ((p.perform op).run w).value.1.failure? = some .ioFailure := by
  by_cases hprobe : op = .probe
  · subst hprobe
    rw [perform_probe_run] at h ⊢
    rw [hp.probe_of_failed h]
    rfl
  cases hmode : op.modeArgs? with
  | some args =>
    generalize ho : (p.perform op).run w = o at h ⊢
    cases ho ▸ modeRequest_run hmode p w with
    | unresolved hresolved =>
      rw [any_failed_of_onBus hresolved.onBus] at h
      cases h
    | refused => cases h
    | programmed _ _ hconfigure =>
      subst hconfigure
      simp only [configure_of_failed h, Reply.failure?]
  | none =>
    cases hdirect : op.direct with
    | false =>
      rw [any_failed_of_onBus (hp.perform_onBus hprobe hmode hdirect w)] at h
      cases h
    | true =>
      cases op with
      | command command =>
        simp only [Provider.perform, Action.run_bind, Action.run_pure, List.append_nil] at h ⊢
        exact command.failure?_of_failed hraw h
      | _ => cases hdirect

end Provider

end Operations

/-! ## Faults by any name -/

/-- The record with one fault for all. -/
def Record.forgetFault : Record → Record
  | readFailed r _ => readFailed r .noDevice
  | writeFailed r value _ => writeFailed r value .noDevice
  | entry => entry

/-- Whoever sees that an access failed, but not with which fault. -/
def Observer.ofOutcomes : Observer where
  bits _ := fullMask
  fault _ := .noDevice
  variant := some
  note entry := some entry.forgetFault
  bits_of_notMem _ _ := rfl
  configIdMask_bits := by decide
  note_readFailed _ _ _ _ := rfl
  note_writeFailed _ _ _ _ _ := rfl
  note_identity := .inl ⟨rfl, rfl⟩
  note_versions := .inl rfl
  note_variantMismatch := .inl (Option.some_injective _)

theorem Provider.Alike.eq {O : Observer} {p q : Provider η} (h : p.Alike O q) (hreads : O.Reads)
    (hvariant : O.variant.Injective) : p = q := by
  obtain ⟨variant, state, found, endpoints⟩ := p
  obtain ⟨variant', state', found', endpoints'⟩ := q
  obtain ⟨hdeclared, rfl, hfound, rfl⟩ := h
  obtain rfl : variant = variant' := hvariant hdeclared
  obtain rfl : found = found' := by
    cases hfound with
    | some halike => rw [halike.eq hreads]
    | none => rfl
  rfl

/-- **No fault is acted on by its name.**

Take two worlds whose factories answer alike and whose buses fail at the same accesses and otherwise
answer the same, while the faults may differ in every failure. Ask the same of two providers for the
same member of the family, anything but to use the bus past the driver. The journals are what
happened in either world. The providers reply the same and become the same, after every operation,
as this is said of every sequence; they access the same registers in the same order and write the
same bytes to them, and make the same calls of the factory with the same answers; and they leave the
same records, up to the faults in the records of failures. In either world, an operation in which an
access failed reports `ioFailure`. -/
theorem serve_blind_to_faults [Bus σ] [Factory σ η] [Bus τ] [Factory τ η] {R : σ → τ → Prop}
    (hR : Observer.ofOutcomes.Confuses R) {w : σ} {v : τ} (hwv : R w v) (variant : Variant)
    {ops : List Operation} (hops : ∀ op ∈ ops, op.raw = false) :
    let o := (serve variant ops).run w
    let o' := (serve variant ops).run v
    Happened w o.journal o.world ∧ Happened v o'.journal o'.world ∧
      o.value = o'.value ∧
      accessesOf o.journal = accessesOf o'.journal ∧
      o.journal.filter Event.onFactory = o'.journal.filter Event.onFactory ∧
      (recordsOf o.journal).map Record.forgetFault =
        (recordsOf o'.journal).map Record.forgetFault ∧
      ∀ earlier op later, ops = earlier ++ op :: later →
        let a := asked variant earlier op w
        let b := asked variant earlier op v
        (a.journal.any Event.failed → a.value.1.failure? = some .ioFailure) ∧
          (b.journal.any Event.failed → b.value.1.failure? = some .ioFailure) := by
  intro o o'
  have hreads : Observer.ofOutcomes.Reads := fun _ => rfl
  have hknown : Observer.ofOutcomes.variant.Injective := Option.some_injective _
  have hfollowed : ∀ op ∈ ops, op.Followed Observer.ofOutcomes := by
    intro op hop
    have hraw := hops op hop
    cases op with
    | command => exact ⟨hraw, hreads⟩
    | variant => exact hknown
    | probe | remove | resolve | endpoint | setMode | setModeRaw => trivial
  have halike : o.Alike _ _ _ o' := Provider.serve_alike hR hfollowed variant variant rfl w v hwv
  obtain ⟨hreplies, hprovider⟩ := halike.value
  have hvalue : o.value = o'.value := Prod.ext hreplies (hprovider.eq hreads hknown)
  have hnote : Observer.ofOutcomes.note = some ∘ Record.forgetFault := rfl
  have hrecords := halike.filterMap_note_eq
  rw [hnote, List.filterMap_eq_map] at hrecords
  refine ⟨Provider.serve_faithful variant ops w, Provider.serve_faithful variant ops v, hvalue,
    halike.accessesOf_eq, halike.filter_onFactory_eq, hrecords, ?_⟩
  intro earlier op later hsplit a b
  have hraw : op.raw = false := by
    refine hops op ?_
    rw [hsplit]
    exact List.mem_append_right _ List.mem_cons_self
  exact ⟨(Provider.coherent_serve variant earlier w).failure?_of_failed hraw,
    (Provider.coherent_serve variant earlier v).failure?_of_failed hraw⟩

/-! ## Parts that fail -/

namespace Bench

/-- Two boards on which the same accesses fail. -/
structure SameOutcomes (w v : Board (Faulty β) φ) : Prop where
  /-- The parts are the same. -/
  part : w.bus.part = v.bus.part
  /-- What was accessed so far is the same. -/
  past : w.bus.past = v.bus.past
  /-- An access fails on one board if it does on the other. -/
  pattern : ∀ accesses, (w.bus.pattern accesses).isSome = (v.bus.pattern accesses).isSome
  /-- The factories are the same. -/
  factory : w.factory = v.factory

/-- An access either fails on both boards or on neither. -/
theorem SameOutcomes.fault?_cases {w v : Board (Faulty β) φ} (h : SameOutcomes w v)
    (access : Access) :
    (∃ f g, w.bus.fault? access = some f ∧ v.bus.fault? access = some g) ∨
      w.bus.fault? access = none ∧ v.bus.fault? access = none := by
  have hsome := h.pattern (w.bus.past ++ [access])
  rw [Faulty.fault?, Faulty.fault?, ← h.past]
  cases hw : w.bus.pattern (w.bus.past ++ [access]) with
  | none =>
    rw [hw] at hsome
    exact .inr ⟨rfl, Option.not_isSome_iff_eq_none.mp (by rw [← hsome]; exact Bool.false_ne_true)⟩
  | some f =>
    rw [hw] at hsome
    obtain ⟨g, hg⟩ := Option.isSome_iff_exists.mp hsome.symm
    exact .inl ⟨f, g, rfl, hg⟩

/-- Whoever sees no faults cannot tell such boards apart. -/
theorem SameOutcomes.confuses [Bus β] [Factory φ η] :
    Observer.ofOutcomes.Confuses (SameOutcomes : Board (Faulty β) φ → _ → Prop) where
  read {w v} h r := by
    have hpast : w.bus.past ++ [.read r.address] = v.bus.past ++ [.read r.address] := by rw [h.past]
    rw [Board.readByte_eq, Board.readByte_eq]
    rcases h.fault?_cases (.read r.address) with ⟨f, g, hw, hv⟩ | ⟨hw, hv⟩
    · rw [Faulty.readByte_of_fault hw, Faulty.readByte_of_fault hv]
      exact ⟨rfl, h.part, hpast, h.pattern, h.factory⟩
    · rw [Faulty.readByte_of_none hw, Faulty.readByte_of_none hv, h.part]
      exact ⟨rfl, rfl, hpast, h.pattern, h.factory⟩
  write {w v} h r value := by
    have hpast : w.bus.past ++ [.write r.address value] =
        v.bus.past ++ [.write r.address value] := by rw [h.past]
    rw [Board.writeByte_eq, Board.writeByte_eq]
    rcases h.fault?_cases (.write r.address value) with ⟨f, g, hw, hv⟩ | ⟨hw, hv⟩
    · rw [Faulty.writeByte_of_fault hw, Faulty.writeByte_of_fault hv]
      exact ⟨rfl, h.part, hpast, h.pattern, h.factory⟩
    · rw [Faulty.writeByte_of_none hw, Faulty.writeByte_of_none hv, h.part]
      exact ⟨rfl, rfl, hpast, h.pattern, h.factory⟩
  create {w v} h c := by
    simp only [Factory.create, h.factory]
    exact ⟨trivial, h.part, h.past, h.pattern, rfl⟩
  destroy {w v} h handle := by
    simp only [Factory.destroy, h.factory]
    exact ⟨h.part, h.past, h.pattern, rfl⟩

/-- A part with four channels that cannot be written to, and what it fails with. -/
def writeProtected (fault : BusFault) : Board (Faulty SimulatedPart) TallyFactory where
  bus :=
    { part := .healthy 0xE
      past := []
      pattern := fun past =>
        match past.getLast? with
        | some (.write ..) => some fault
        | _ => none }
  factory := .blank none

end Bench

/-- There, it makes no difference to a mode request how a write fails. -/
theorem serve_blind_to_faults_writeProtected :
    let ops := [.probe, .setMode [1] .ethernet .twentyFiveGBaseR]
    ((serve .ds250df410 ops).run (Bench.writeProtected .noDevice)).value =
      ((serve .ds250df410 ops).run (Bench.writeProtected .busLocked)).value := by
  have hsame : Bench.SameOutcomes (Bench.writeProtected .noDevice)
      (Bench.writeProtected .busLocked) := by
    refine ⟨rfl, rfl, ?_, rfl⟩
    intro accesses
    simp only [Bench.writeProtected]
    split <;> rfl
  exact (serve_blind_to_faults Bench.SameOutcomes.confuses hsame .ds250df410 (by decide)).2.2.1

end Retimer
