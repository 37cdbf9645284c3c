import Retimer.Proofs.Observer.Provider

/-!
# Only the size decides

A part tells four things about itself, and the framework declares a fifth. Of all this the driver
acts on one half of one byte, the channel configuration. Identity and revisions are read in the
middle of the code that decides how many endpoints there will be, an unknown identity is warned of
there, and so is a size that was not declared; but none of it may have a bearing on what happens.

`Observer.ofSize` is someone who sees nothing of these diagnostics and everything else: every
access and every call of the factory, every record that is not itself about the diagnostics, every
fault by its name. Two parts that differ in nothing but the diagnostics are one to that observer,
whichever members of the family they are declared as, and so are the two runs.

## Main results

* `serve_decided_by_size`: two runs on parts that differ in their diagnostics
* `Bench.SameSize.confuses`: simulated parts that do
-/

namespace Retimer

variable {σ τ η φ : Type}

/-- Whether the record tells of what is read and declared for information only. -/
def Record.isDiagnostic : Record → Bool
  | identity .. | unknownDeviceId _ | versions .. | variantMismatch .. => true
  | _ => false

/-- Whoever sees no diagnostics: of the registers by which a part identifies itself only the bits
that tell the size, and nothing of what was declared. -/
def Observer.ofSize : Observer where
  bits address :=
    if address = Register.channelConfigId.address then configIdMask
    else if address = Register.version.address ∨ address = Register.deviceId.address ∨
      address = Register.channelVersion.address then 0
    else fullMask
  fault := id
  variant _ := none
  note entry := if entry.isDiagnostic then none else some entry
  bits_of_notMem r := by cases r <;> decide
  configIdMask_bits := by decide
  note_readFailed _ _ _ h := by obtain rfl := h; rfl
  note_writeFailed _ _ _ _ h := by obtain rfl := h; rfl
  note_identity := .inr ⟨fun _ _ => rfl, fun _ => rfl⟩
  note_versions := .inr fun _ _ => rfl
  note_variantMismatch := .inr fun _ _ => rfl

theorem Observer.filterMap_note_ofSize (records : List Record) :
    records.filterMap Observer.ofSize.note = records.filter (!·.isDiagnostic) := by
  rw [← List.filterMap_eq_filter]
  refine List.filterMap_congr ?_
  intro entry _
  cases h : entry.isDiagnostic <;> simp [ofSize, Option.guard, h]

/-- **Only the size decides.**

Take two providers, for whatever members of the family, and two worlds whose factories answer alike
and whose buses answer every access alike, with the same faults, save that the identity, the
revision, the revisions of the registers and the high half of the channel configuration may differ
in every reading. Ask the same of both, anything but what was declared and anything but to use the
bus directly. The journals are what happened in either world. The providers reply the same, access
the same registers in the same order and write the same bytes to them, make the same calls of the
factory with the same answers, and leave the same records in the journal except for those about the
diagnostics. After every operation, as this is said of every sequence, they are in the same state
and have the same endpoints with the same handles, and they found the same configuration and size,
or nothing. -/
theorem serve_decided_by_size [Bus σ] [Factory σ η] [Bus τ] [Factory τ η] {R : σ → τ → Prop}
    (hR : Observer.ofSize.Confuses R) {w : σ} {v : τ} (hwv : R w v) (variant variant' : Variant)
    {ops : List Operation} (hops : ∀ op ∈ ops, op.direct = false ∧ op ≠ .variant) :
    let o := (serve variant ops).run w
    let o' := (serve variant' ops).run v
    let p := o.value.2
    let q := o'.value.2
    Happened w o.journal o.world ∧ Happened v o'.journal o'.world ∧
      o.value.1 = o'.value.1 ∧
      accessesOf o.journal = accessesOf o'.journal ∧
      o.journal.filter Event.onFactory = o'.journal.filter Event.onFactory ∧
      (recordsOf o.journal).filter (!·.isDiagnostic) =
        (recordsOf o'.journal).filter (!·.isDiagnostic) ∧
      p.state = q.state ∧ p.endpointMap = q.endpointMap ∧
      (p.topology?.map fun t => (t.configId, t.channels)) =
        q.topology?.map fun t => (t.configId, t.channels) := by
  intro o o' p q
  have hfollowed : ∀ op ∈ ops, op.Followed Observer.ofSize := by
    intro op hop
    obtain ⟨hdirect, hvariant⟩ := hops op hop
    cases op with
    | command => cases hdirect
    | variant => exact absurd rfl hvariant
    | probe | remove | resolve | endpoint | setMode | setModeRaw => trivial
  have halike : o.Alike _ _ _ o' := Provider.serve_alike hR hfollowed variant variant' rfl w v hwv
  obtain ⟨hreplies, hprovider⟩ := halike.value
  have hrecords := halike.filterMap_note_eq
  rw [Observer.filterMap_note_ofSize, Observer.filterMap_note_ofSize] at hrecords
  refine ⟨Provider.serve_faithful variant ops w, Provider.serve_faithful variant' ops v, hreplies,
    halike.accessesOf_eq, halike.filter_onFactory_eq, hrecords, hprovider.state,
    hprovider.endpointMap, ?_⟩
  have hfound := hprovider.topology?
  generalize p.topology? = found, q.topology? = found' at hfound ⊢
  cases hfound with
  | some h => simp [h.configId, h.channels]
  | none => rfl

/-! ## Simulated parts -/

namespace Bench

/-- Two boards that differ in nothing but the diagnostics: their registers agree in the bits that
are not among them, they refuse the same accesses, and they have the same factory. What was accessed
before makes no difference. -/
structure SameSize (w v : Board SimulatedPart φ) : Prop where
  /-- The registers agree where they tell more than diagnostics. -/
  registers : ∀ r : Register, w.bus.registers.get r.address &&& Observer.ofSize.bits r.address =
    v.bus.registers.get r.address &&& Observer.ofSize.bits r.address
  /-- The same registers refuse to be read. -/
  unreadable : w.bus.unreadable = v.bus.unreadable
  /-- The same registers refuse to be written. -/
  unwritable : w.bus.unwritable = v.bus.unwritable
  /-- The factories are the same. -/
  factory : w.factory = v.factory

/-- Whoever sees no diagnostics cannot tell such boards apart. -/
theorem SameSize.confuses [Factory φ η] :
    Observer.ofSize.Confuses (SameSize : Board SimulatedPart φ → _ → Prop) where
  read {w v} h r := by
    by_cases hr : r.address ∈ v.bus.unreadable
    · have hw : r.address ∈ w.bus.unreadable := h.unreadable ▸ hr
      simp only [Bus.readByte, if_pos hr, if_pos hw]
      exact ⟨trivial, h.registers, h.unreadable, h.unwritable, h.factory⟩
    · have hw : r.address ∉ w.bus.unreadable := h.unreadable ▸ hr
      simp only [Bus.readByte, if_neg hr, if_neg hw]
      exact ⟨congrArg Except.ok (h.registers r), h.registers, h.unreadable, h.unwritable, h.factory⟩
  write {w v} h r value := by
    by_cases hr : r.address ∈ v.bus.unwritable
    · have hw : r.address ∈ w.bus.unwritable := h.unwritable ▸ hr
      simp only [Bus.writeByte, if_pos hr, if_pos hw]
      exact ⟨trivial, h.registers, h.unreadable, h.unwritable, h.factory⟩
    · have hw : r.address ∉ w.bus.unwritable := h.unwritable ▸ hr
      simp only [Bus.writeByte, if_neg hr, if_neg hw]
      refine ⟨trivial, ?_, h.unreadable, h.unwritable, h.factory⟩
      intro s
      simp only [SimulatedPart.holding, SimulatedPart.remember, RegisterFile.get_set]
      split
      · rfl
      · exact h.registers s
  create {w v} h c := by
    simp only [Factory.create, h.factory]
    exact ⟨trivial, h.registers, h.unreadable, h.unwritable, rfl⟩
  destroy {w v} h handle := by
    simp only [Factory.destroy, h.factory]
    exact ⟨h.registers, h.unreadable, h.unwritable, rfl⟩

/-- A part of a make that the driver does not know, with four channels. -/
def unknownMake : Board SimulatedPart TallyFactory where
  bus :=
    { SimulatedPart.blank with
      registers := RegisterFile.blank.setAll [(Register.deviceId.address, 0x55),
        (Register.version.address, 0x07), (Register.channelConfigId.address, 0x1E),
        (Register.channelVersion.address, 0xFF)] }
  factory := .blank none

end Bench

/-- On such a part, declared as one with eight channels, a request for the third channel goes as it
does on a part of a known make. -/
theorem serve_decided_by_size_unknownMake :
    let ops := [.probe, .setMode [2] .ethernet .tenGBaseR, .remove]
    accessesOf ((serve .ds250df410 ops).run fourChannels).journal =
      accessesOf ((serve .ds250df810 ops).run Bench.unknownMake).journal := by
  have hsame : Bench.SameSize fourChannels Bench.unknownMake := by
    refine ⟨?_, rfl, rfl, rfl⟩
    intro r
    cases r <;> decide
  exact (serve_decided_by_size Bench.SameSize.confuses hsame _ _ (by decide)).2.2.2.1

end Retimer
