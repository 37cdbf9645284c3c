import Retimer.Proofs.MaskedWrite
import Retimer.Topology

/-!
# What an identification comes to

A part is identified by four reads, and each of them may be the last. `Topology.Discovered` lists
the ways in which that may end: what it gives, and what it leaves in the journal down to the last
event. A case says which reads were made and what they answered, so that what is reported can be
compared with what was read.

## Main results

* `Topology.fromIdentity_run`: how it goes on once the part has said who it is
* `Topology.discover_run`: an identification ends in one of the six ways
-/

namespace Retimer

variable {σ η : Type}

namespace Topology

/-! ## Pieces of a journal -/

/-- A register that could not be read. -/
def unread (r : Register) (fault : BusFault) : List (Event η) :=
  [.read r.address (.error fault), .record (.readFailed r fault)]

/-- Identity and revision, as far as they tell anything. -/
def identityRead (deviceId version : UInt8) : List (Event η) :=
  .read Register.deviceId.address (.ok deviceId) :: .read Register.version.address (.ok version) ::
    .record (.identity deviceId version) ::
      if deviceId ≠ knownDeviceId then [.record (.unknownDeviceId deviceId)] else []

/-- A channel configuration that stands for a size. -/
def sizeRead (config : UInt8) (count : ChannelCount) : List (Event η) :=
  [.read Register.channelConfigId.address (.ok config), .record (.channels count)]

/-- The two revisions in one byte. -/
def versionsRead (versions : ChannelVersion) : List (Event η) :=
  [.read Register.channelVersion.address (.ok versions.raw),
    .record (.versions versions.channel versions.share)]

/-! ## How it may end -/

/-- How an identification may end, and what it leaves. -/
inductive Discovered : Except Failure Topology → List (Event η) → Prop
  /-- The identity could not be read. -/
  | identityUnread (fault : BusFault) : Discovered (.error .ioFailure) (unread .deviceId fault)
  /-- The revision could not be read. -/
  | versionUnread (deviceId : UInt8) (fault : BusFault) :
    Discovered (.error .ioFailure)
      (.read Register.deviceId.address (.ok deviceId) :: unread .version fault)
  /-- The channel configuration could not be read. -/
  | configUnread (deviceId version : UInt8) (fault : BusFault) :
    Discovered (.error .ioFailure) (identityRead deviceId version ++ unread .channelConfigId fault)
  /-- The channel configuration stands for no size. -/
  | sizeUnknown (deviceId version config : UInt8)
    (hsize : ChannelCount.ofConfigId? (config &&& configIdMask) = none) :
    Discovered (.error .unknownTopology) (identityRead deviceId version ++
      [.read Register.channelConfigId.address (.ok config),
        .record (.unknownChannelConfig (config &&& configIdMask))])
  /-- The revisions of the registers could not be read. -/
  | versionsUnread (deviceId version config : UInt8) (count : ChannelCount) (fault : BusFault)
    (hsize : ChannelCount.ofConfigId? (config &&& configIdMask) = some count) :
    Discovered (.error .ioFailure)
      (identityRead deviceId version ++ sizeRead config count ++ unread .channelVersion fault)
  /-- All four could be read, and there is such a size. -/
  | identified (deviceId version config : UInt8) (count : ChannelCount) (versions : ChannelVersion)
    (hsize : ChannelCount.ofConfigId? (config &&& configIdMask) = some count) :
    Discovered
      (.ok ⟨deviceId, version, config &&& configIdMask, count, versions.channel, versions.share⟩)
      (identityRead deviceId version ++ sizeRead config count ++ versionsRead versions)

end Topology

/-! ## One part after another -/

namespace Attempt

variable {α β : Type} {a : Attempt σ η α} {f : α → Attempt σ η β} {w w₁ w₂ : σ}
  {j₁ j₂ : List (Event η)}

theorem run_bind_of_ok {x : α} {value : Except Failure β} (ha : a.run.run w = ⟨.ok x, w₁, j₁⟩)
    (hf : (f x).run.run w₁ = ⟨value, w₂, j₂⟩) :
    (a >>= f).run.run w = ⟨value, w₂, j₁ ++ j₂⟩ := by
  rw [ExceptT.run_bind, Action.run_bind, ha]
  simp only [hf]

theorem run_bind_of_error {failure : Failure} (ha : a.run.run w = ⟨.error failure, w₁, j₁⟩) :
    (a >>= f).run.run w = ⟨.error failure, w₁, j₁⟩ := by
  rw [ExceptT.run_bind, Action.run_bind, ha]
  simp

end Attempt

namespace Topology

theorem noteIdentity_run (deviceId version : UInt8) (w : σ) :
    (noteIdentity deviceId version : Attempt σ η Unit).run.run w =
      ⟨.ok (), w, .record (.identity deviceId version) ::
        if deviceId ≠ knownDeviceId then [.record (.unknownDeviceId deviceId)] else []⟩ := by
  unfold noteIdentity
  split <;> simp [Attempt.record]

theorem recogniseSize_run_some {id : UInt8} {count : ChannelCount}
    (h : ChannelCount.ofConfigId? id = some count) (w : σ) :
    (recogniseSize id : Attempt σ η _).run.run w = ⟨.ok count, w, [.record (.channels count)]⟩ := by
  rw [recogniseSize, h]
  rfl

theorem recogniseSize_run_none {id : UInt8} (h : ChannelCount.ofConfigId? id = none) (w : σ) :
    (recogniseSize id : Attempt σ η _).run.run w =
      ⟨.error .unknownTopology, w, [.record (.unknownChannelConfig id)]⟩ := by
  simp [recogniseSize, h, Attempt.record]

variable [Bus σ]

theorem readVersions_run_ok {w w' : σ} {byte : UInt8}
    (h : Bus.readByte Register.channelVersion.address w = (.ok byte, w')) :
    (readVersions : Attempt σ η _).run.run w = ⟨.ok ⟨byte⟩, w', versionsRead ⟨byte⟩⟩ := by
  exact Attempt.run_bind_of_ok (readRegister_run_whole h) rfl

/-- What is left of an identification once the part has said who it is. -/
def fromIdentity (deviceId version : UInt8) : Attempt σ η Topology := do
  let configId ← readRegister .channelConfigId configIdMask
  let channels ← recogniseSize configId
  let versions ← readVersions
  return ⟨deviceId, version, configId, channels, versions.channel, versions.share⟩

theorem discover_run_of_identity {w w₁ w₂ : σ} {deviceId version : UInt8}
    (h₁ : Bus.readByte Register.deviceId.address w = (.ok deviceId, w₁))
    (h₂ : Bus.readByte Register.version.address w₁ = (.ok version, w₂)) :
    (discover : Attempt σ η Topology).run.run w =
      let o := (fromIdentity deviceId version : Attempt σ η Topology).run.run w₂
      ⟨o.value, o.world, identityRead deviceId version ++ o.journal⟩ := by
  generalize hrest : (fromIdentity deviceId version : Attempt σ η Topology).run.run w₂ = o
  obtain ⟨value, w', journal⟩ := o
  have hrun : (discover : Attempt σ η Topology).run.run w = ⟨value, w', _⟩ :=
    Attempt.run_bind_of_ok (readRegister_run_whole h₁)
      (Attempt.run_bind_of_ok (readRegister_run_whole h₂)
        (Attempt.run_bind_of_ok (noteIdentity_run _ _ _) hrest))
  exact hrun

theorem fromIdentity_run (deviceId version : UInt8) (w : σ) :
    ∃ (value : Except Failure Topology) (rest : List (Event η)) (w' : σ),
      Discovered value (identityRead deviceId version ++ rest) ∧ Answered w rest w' ∧
      (fromIdentity deviceId version : Attempt σ η Topology).run.run w = ⟨value, w', rest⟩ := by
  obtain ⟨answer, w₁, h₁⟩ : ∃ x w', Bus.readByte Register.channelConfigId.address w = (x, w') :=
    ⟨_, _, rfl⟩
  cases answer with
  | error fault =>
    refine ⟨_, _, w₁, .configUnread deviceId version fault, by simp [unread, Answered, h₁], ?_⟩
    exact Attempt.run_bind_of_error (readRegister_run_error h₁)
  | ok config =>
  have hconfig := @readRegister_run_ok σ η _ _ configIdMask _ _ _ h₁
  cases hsize : ChannelCount.ofConfigId? (config &&& configIdMask) with
  | none =>
    refine ⟨_, _, w₁, .sizeUnknown deviceId version config hsize, by simp [Answered, h₁], ?_⟩
    exact Attempt.run_bind_of_ok hconfig
      (Attempt.run_bind_of_error (recogniseSize_run_none hsize w₁))
  | some count =>
  have hcount := @recogniseSize_run_some σ η _ _ hsize w₁
  obtain ⟨answer, w₂, h₂⟩ : ∃ x w', Bus.readByte Register.channelVersion.address w₁ = (x, w') :=
    ⟨_, _, rfl⟩
  cases answer with
  | error fault =>
    have hdiscovered := @Discovered.versionsUnread η deviceId version config count fault hsize
    have hrun : (fromIdentity deviceId version : Attempt σ η Topology).run.run w = ⟨_, w₂, _⟩ :=
      Attempt.run_bind_of_ok hconfig (Attempt.run_bind_of_ok hcount
        (Attempt.run_bind_of_error (Attempt.run_bind_of_error (readRegister_run_error h₂))))
    rw [List.append_assoc] at hdiscovered
    exact ⟨_, _, w₂, hdiscovered, by simp [sizeRead, unread, Answered, h₁, h₂], hrun⟩
  | ok byte =>
    have hdiscovered := @Discovered.identified η deviceId version config count ⟨byte⟩ hsize
    have hrun : (fromIdentity deviceId version : Attempt σ η Topology).run.run w = ⟨_, w₂, _⟩ :=
      Attempt.run_bind_of_ok hconfig (Attempt.run_bind_of_ok hcount
        (Attempt.run_bind_of_ok (readVersions_run_ok h₂) rfl))
    rw [List.append_assoc] at hdiscovered
    exact ⟨_, _, w₂, hdiscovered, by simp [sizeRead, versionsRead, Answered, h₁, h₂], hrun⟩

/-- **An identification ends in one of six ways**, with the answers of the bus. -/
theorem discover_run (w : σ) :
    ∃ (value : Except Failure Topology) (journal : List (Event η)) (w' : σ),
      Discovered value journal ∧ Answered w journal w' ∧
      (discover : Attempt σ η Topology).run.run w = ⟨value, w', journal⟩ := by
  obtain ⟨answer, w₁, h₁⟩ : ∃ x w', Bus.readByte Register.deviceId.address w = (x, w') :=
    ⟨_, _, rfl⟩
  cases answer with
  | error fault =>
    refine ⟨_, _, w₁, .identityUnread fault, by simp [unread, Answered, h₁], ?_⟩
    exact Attempt.run_bind_of_error (readRegister_run_error h₁)
  | ok deviceId =>
  obtain ⟨answer, w₂, h₂⟩ : ∃ x w', Bus.readByte Register.version.address w₁ = (x, w') :=
    ⟨_, _, rfl⟩
  cases answer with
  | error fault =>
    refine ⟨_, _, w₂, .versionUnread deviceId fault, by simp [unread, Answered, h₁, h₂], ?_⟩
    exact Attempt.run_bind_of_ok (readRegister_run_whole h₁)
      (Attempt.run_bind_of_error (readRegister_run_error h₂))
  | ok version =>
    obtain ⟨value, rest, w', hdiscovered, hanswered, hrun⟩ :=
      @fromIdentity_run σ η _ deviceId version w₂
    have hidentity : Answered w (identityRead deviceId version : List (Event η)) w₂ := by
      unfold identityRead
      split <;> simp [Answered, h₁, h₂]
    refine ⟨value, _, w', hdiscovered, hidentity.append hanswered, ?_⟩
    rw [discover_run_of_identity h₁ h₂, hrun]

end Topology

end Retimer
