import Retimer.Proofs.Observer.Basic

/-!
# An observer of the driver's work on the bus

Identification and programming, looked at by an `Observer` in two worlds that it cannot tell apart.
The reads of a programming are made out entirely, so two programmings compose the same bytes and
write them to the same registers. Of an identification only the size is sure to be the same. The
rest may differ as far as it is not made out, and what is recorded of it is then passed over.

How far two attempts agree is a matter of the fault they met as well. The attempts fail alike, but
the records of the failure are the same only to an observer who takes the one fault for the other.

## Main results

* `MaskedWrite.apply_alike`, `configure_alike`: programming
* `Topology.discover_alike`: identification, which finds `Topology.Alike` topologies
-/

namespace Retimer

variable {σ τ η : Type} [Bus σ] [Factory σ η] [Bus τ] [Factory τ η] {O : Observer}
  {R : σ → τ → Prop}

/-! ## Register access -/

/-- What is read are the bits that are made out, if the mask asks for no others. -/
theorem and_mask_eq_of_and_eq {a b mask bits : UInt8} (hmask : mask &&& bits = mask)
    (h : a &&& bits = b &&& bits) : a &&& mask = b &&& mask := by
  have hpart (x : UInt8) : x &&& mask = (x &&& bits) &&& mask := by
    rw [UInt8.and_assoc, UInt8.and_comm bits, hmask]
  rw [hpart a, hpart b, h]

/-- Two reads succeed with bytes that look the same to the observer, or fail alike. -/
theorem readRegister_alike (hR : O.Confuses R) (r : Register) (mask : UInt8)
    {V : UInt8 → UInt8 → Prop}
    (hV : ∀ a b, a &&& O.bits r.address = b &&& O.bits r.address → V (a &&& mask) (b &&& mask)) :
    Attempt.Alike O R V (readRegister r mask : Attempt σ η UInt8) (readRegister r mask) := by
  refine (Action.alike_readByte hR r).bind ?_
  intro x y hxy
  match x, y, hxy with
  | .ok a, .ok b, hxy => exact Action.alike_pure (.ok (hV a b (Except.ok.inj hxy)))
  | .error f, .error g, hxy =>
    have hnote := O.note_readFailed r (Except.error.inj hxy)
    exact (Action.alike_record hnote).bind_eq fun _ => Action.alike_pure (.error .ioFailure)

/-- Two reads of bits that are made out are the same. -/
theorem readRegister_alike_eq (hR : O.Confuses R) {r : Register} {mask : UInt8}
    (hmask : mask &&& O.bits r.address = mask) :
    Attempt.Alike O R Eq (readRegister r mask : Attempt σ η UInt8) (readRegister r mask) :=
  readRegister_alike hR r mask fun _ _ => and_mask_eq_of_and_eq hmask

/-- Two reads of a whole register are the same as far as it is made out. -/
theorem readRegister_alike_full (hR : O.Confuses R) (r : Register) :
    Attempt.Alike O R (fun a b => O.bits r.address = fullMask → a = b)
      (readRegister r fullMask : Attempt σ η UInt8) (readRegister r fullMask) := by
  refine readRegister_alike hR r fullMask ?_
  intro a b hab hfull
  rwa [hfull] at hab

theorem storeRegister_alike (hR : O.Confuses R) (r : Register) (value : UInt8) :
    Attempt.Alike O R Eq (storeRegister r value : Attempt σ η Unit) (storeRegister r value) := by
  refine (Action.alike_writeByte hR r value).bind ?_
  intro x y hxy
  match x, y, hxy with
  | .ok (), .ok (), _ => exact Action.alike_pure (.ok rfl)
  | .error f, .error g, hxy =>
    have hnote := O.note_writeFailed r value (Except.error.inj hxy)
    exact (Action.alike_record hnote).bind_eq fun _ => Action.alike_pure (.error .ioFailure)

namespace MaskedWrite

/-- A masked write to a register that is made out puts the same byte on the bus. -/
theorem apply_alike (hR : O.Confuses R) {m : MaskedWrite}
    (hbits : O.bits m.register.address = fullMask) :
    Attempt.Alike O R Eq (m.apply : Attempt σ η Unit) m.apply := by
  have hcompose : Attempt.Alike O R Eq (m.compose : Attempt σ η UInt8) m.compose := by
    have hmask : ~~~m.mask &&& O.bits m.register.address = ~~~m.mask := by
      rw [hbits]
      exact UInt8.and_neg_one
    unfold compose
    split
    · exact Attempt.alike_pure rfl
    · exact (readRegister_alike_eq hR hmask).bind_eq fun _ => Attempt.alike_pure rfl
  exact hcompose.bind_eq fun value => storeRegister_alike hR m.register value

theorem applyAll_alike (hR : O.Confuses R) {ms : List MaskedWrite}
    (hbits : ∀ m ∈ ms, O.bits m.register.address = fullMask) :
    Action.Alike O R Eq (applyAll ms : Action σ η _) (applyAll ms) := by
  induction ms with
  | nil => exact Action.alike_pure rfl
  | cons m ms ih =>
    obtain ⟨hm, hms⟩ := List.forall_mem_cons.mp hbits
    exact (apply_alike hR hm).run_eq.bind_eq fun _ =>
      (ih hms).bind_eq fun _ => Action.alike_pure rfl

end MaskedWrite

/-! ## Programming -/

/-- Two programmings are the same. -/
theorem configure_alike (hR : O.Confuses R) (c : Channel) (rate : LineRate) :
    Attempt.Alike O R Eq (configure c rate : Attempt σ η Unit) (configure c rate) := by
  have hbits : ∀ m ∈ (recipe c rate).toList, O.bits m.register.address = fullMask :=
    fun m hm => O.bits_of_notMem _ (not_mem_identification_of_mem_recipe hm)
  refine (MaskedWrite.applyAll_alike hR hbits).bind_eq fun outcomes => ?_
  split
  · exact (Action.alike_record rfl).bind_eq fun _ => Action.alike_pure (.ok rfl)
  · exact Action.alike_pure (.error .ioFailure)

namespace Endpoint

theorem setMode_alike (hR : O.Confuses R) (e : Endpoint η) (mode : PhyMode)
    (submode : InterfaceMode) :
    Attempt.Alike O R Eq (e.setMode mode submode : Attempt σ η Unit) (e.setMode mode submode) := by
  unfold setMode
  split
  · exact configure_alike hR e.channel _
  · exact (Attempt.alike_record rfl).bind_eq fun _ => Attempt.alike_throw _

theorem setModeRaw_alike (hR : O.Confuses R) (e : Endpoint η) (mode submode : UInt32) :
    Attempt.Alike O R Eq (e.setModeRaw mode submode : Attempt σ η Unit)
      (e.setModeRaw mode submode) := by
  unfold setModeRaw
  split
  · exact setMode_alike hR e _ _
  · exact (Attempt.alike_record rfl).bind_eq fun _ => Attempt.alike_throw _

end Endpoint

/-! ## Identification -/

namespace Topology

/-- Two topologies look the same to an observer: of the same size, and in the rest the same as far
as it is made out. -/
structure Alike (O : Observer) (t t' : Topology) : Prop where
  /-- The configurations are the same. -/
  configId : t.configId = t'.configId
  /-- The sizes are the same. -/
  channels : t.channels = t'.channels
  /-- The identities are, if they are made out. -/
  deviceId : O.bits Register.deviceId.address = fullMask → t.deviceId = t'.deviceId
  /-- The revisions of the part are, if they are made out. -/
  version : O.bits Register.version.address = fullMask → t.version = t'.version
  /-- So are the revisions of the registers. -/
  versions : O.bits Register.channelVersion.address = fullMask →
    t.channelVersion = t'.channelVersion ∧ t.shareVersion = t'.shareVersion

omit [Bus σ] [Factory σ η] [Bus τ] [Factory τ η] in
/-- What is noted of an identity looks the same if the identity does, for it is passed over
otherwise. -/
theorem noteIdentity_alike {deviceId deviceId' version version' : UInt8}
    (hdevice : O.bits Register.deviceId.address = fullMask → deviceId = deviceId')
    (hversion : O.bits Register.version.address = fullMask → version = version') :
    Attempt.Alike O R Eq (noteIdentity deviceId version : Attempt σ η Unit)
      (noteIdentity deviceId' version') := by
  intro w v hwv
  rw [noteIdentity_run, noteIdentity_run]
  refine ⟨.ok rfl, hwv, ?_⟩
  rcases O.note_identity with ⟨hdeviceBits, hversionBits⟩ | ⟨hidentity, hunknown⟩
  · rw [hdevice hdeviceBits, hversion hversionBits]
  · have hnothing (d v : UInt8) :
        O.seen (.record (.identity d v) ::
          if d ≠ knownDeviceId then [.record (.unknownDeviceId d)] else [] :
            List (Event η)) = [] := by
      split <;> simp [Observer.seen, Observer.event, hidentity, hunknown]
    rw [hnothing, hnothing]

omit [Bus σ] [Factory σ η] [Bus τ] [Factory τ η] in
theorem recogniseSize_alike (configId : UInt8) :
    Attempt.Alike O R Eq (recogniseSize configId : Attempt σ η ChannelCount)
      (recogniseSize configId) := by
  unfold recogniseSize
  split
  · exact (Attempt.alike_record rfl).bind_eq fun _ => Attempt.alike_pure rfl
  · exact (Attempt.alike_record rfl).bind_eq fun _ => Attempt.alike_throw _

theorem readVersions_alike (hR : O.Confuses R) :
    Attempt.Alike O R (fun a b => O.bits Register.channelVersion.address = fullMask → a = b)
      (readVersions : Attempt σ η ChannelVersion) readVersions := by
  refine (readRegister_alike_full hR .channelVersion).bind ?_
  intro a b hab
  have hnote : O.note (.versions (ChannelVersion.mk a).channel (ChannelVersion.mk a).share) =
      O.note (.versions (ChannelVersion.mk b).channel (ChannelVersion.mk b).share) := by
    rcases O.note_versions with hbits | hnone
    · rw [hab hbits]
    · rw [hnone, hnone]
  refine (Attempt.alike_record hnote).bind_eq fun _ => Attempt.alike_pure ?_
  intro hbits
  rw [hab hbits]

/-- **Two identifications end alike**, and find topologies that look the same. -/
theorem discover_alike (hR : O.Confuses R) :
    Attempt.Alike O R (Topology.Alike O) (discover : Attempt σ η Topology) discover := by
  refine (readRegister_alike_full hR .deviceId).bind fun deviceId deviceId' hdevice => ?_
  refine (readRegister_alike_full hR .version).bind fun version version' hversion => ?_
  refine (noteIdentity_alike hdevice hversion).bind_eq fun _ => ?_
  refine (readRegister_alike_eq hR O.configIdMask_bits).bind_eq fun configId => ?_
  refine (recogniseSize_alike configId).bind_eq fun channels => ?_
  refine (readVersions_alike hR).bind fun versions versions' hversions => ?_
  refine Attempt.alike_pure ⟨rfl, rfl, hdevice, hversion, ?_⟩
  intro hbits
  rw [hversions hbits]
  exact ⟨rfl, rfl⟩

end Topology

end Retimer
