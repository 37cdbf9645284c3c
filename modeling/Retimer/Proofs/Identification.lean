import Retimer.Proofs.Discovery

/-!
# What the part answered

The driver asks a part who it is in at most four reads, and takes every answer as it comes: a later
one may depend on the earlier ones, and any of them may fail. The answers are then all there is to
know. How far the driver goes, what it concludes and what it records are functions of them, and the
functions are written out here without a word about the driver.

## Main definitions

* `answersOf`: what the reads in a journal were answered
* `Topology.Unsettled`: whether answers leave something to ask
* `Topology.ReadFrom`: a topology says what was answered
* `Topology.identityNotes`, `sizeNotes`, `revisionNotes`, `faultNotes`: what answers call for

## Main results

* `ChannelVersion.halves_iff`: the two halves of a byte are the only way to put it together
* `Topology.Discovered.unsettled_take_iff`: how far it goes
* `Topology.discover_told_by_answers`: an identification is what its answers make it
-/

namespace Retimer

variable {σ η : Type}

/-! ## Answers -/

/-- What the event was answered, if it is a read. -/
def Event.answer? : Event η → Option (Except BusFault UInt8)
  | read _ answer => some answer
  | _ => none

/-- What the reads in a journal were answered, in order. -/
def answersOf (journal : List (Event η)) : List (Except BusFault UInt8) :=
  journal.filterMap Event.answer?

@[simp] theorem answersOf_nil : answersOf ([] : List (Event η)) = [] := rfl

@[simp] theorem answersOf_append (a b : List (Event η)) :
    answersOf (a ++ b) = answersOf a ++ answersOf b := List.filterMap_append

section Cons

variable (address : UInt8) (answer : Except BusFault UInt8) (entry : Record)
  (journal : List (Event η))

@[simp] theorem answersOf_cons_read :
    answersOf (.read address answer :: journal) = answer :: answersOf journal := rfl

@[simp] theorem answersOf_cons_record :
    answersOf (.record entry :: journal) = answersOf journal := rfl

@[simp] theorem recordsOf_cons_read :
    recordsOf (.read address answer :: journal) = recordsOf journal := rfl

@[simp] theorem recordsOf_cons_record :
    recordsOf (.record entry :: journal) = entry :: recordsOf journal := rfl

end Cons

/-! ## What answers stand for -/

theorem ChannelCount.ofConfigId?_eq_none_iff {id : UInt8} :
    ofConfigId? id = none ↔ id ≠ 0xC ∧ id ≠ 0xE := by
  unfold ofConfigId?
  split <;> simp_all

theorem ChannelCount.isSome_ofConfigId?_iff {id : UInt8} :
    (ofConfigId? id).isSome ↔ id = 0xC ∨ id = 0xE := by
  unfold ofConfigId?
  split <;> simp_all

theorem ChannelCount.ofConfigId?_eq_some_iff {id : UInt8} {count : ChannelCount} :
    ofConfigId? id = some count ↔ id = 0xC ∧ count = eight ∨ id = 0xE ∧ count = four := by
  unfold ofConfigId?
  split
  · simp_all [eq_comm]
  · simp_all [eq_comm]

/-- Two numbers below sixteen that make up the byte are its halves. -/
theorem ChannelVersion.halves_iff {v : ChannelVersion} {channel share : UInt8} :
    channel = v.channel ∧ share = v.share ↔
      channel.toNat * 16 + share.toNat = v.raw.toNat ∧ channel.toNat < 16 ∧ share.toNat < 16 := by
  have hchannel : v.channel.toNat = v.raw.toNat / 16 := by
    simp [ChannelVersion.channel, Nat.shiftRight_eq_div_pow]
  have hshare : v.share.toNat = v.raw.toNat % 16 := by
    simpa [ChannelVersion.share] using Nat.and_two_pow_sub_one_eq_mod v.raw.toNat 4
  have hraw := v.raw.toNat_lt
  rw [← UInt8.toNat_inj, ← UInt8.toNat_inj, hchannel, hshare]
  omega

namespace Topology

/-- The registers that an identification reads, in order. -/
def identifying : List Register := [.deviceId, .version, .channelConfigId, .channelVersion]

/-- These answers, the first of an identification, leave something to ask: there are fewer than
four, none failed, and if the size was among them, it is one of the two. -/
def Unsettled : List (Except BusFault UInt8) → Prop
  | [] | [.ok _] | [.ok _, .ok _] => True
  | [.ok _, .ok _, .ok config] => config &&& 0x0F = 0xC ∨ config &&& 0x0F = 0xE
  | _ => False

/-- Answers that leave something to ask did so from the beginning. -/
theorem Unsettled.take {answers : List (Except BusFault UInt8)} (h : Unsettled answers) (k : Nat) :
    Unsettled (answers.take k) := by
  match answers, k with
  | _, 0 | .ok _ :: _, 1 | .ok _ :: .ok _ :: _, 2 => exact trivial
  | [], _ + 1 | [.ok _], _ + 2 | [.ok _, .ok _], _ + 3 | [.ok _, .ok _, .ok _], _ + 3 =>
    simpa using h

theorem unsettled_size_iff (deviceId version config : UInt8) :
    Unsettled [.ok deviceId, .ok version, .ok config] ↔
      (ChannelCount.ofConfigId? (config &&& configIdMask)).isSome :=
  ChannelCount.isSome_ofConfigId?_iff.symm

/-- A topology says what the four registers were read as. -/
structure ReadFrom (t : Topology) (deviceId version config versions : UInt8) : Prop where
  /-- The identity is as read. -/
  deviceId_eq : t.deviceId = deviceId
  /-- So is the revision. -/
  version_eq : t.version = version
  /-- The configuration is the low half of what was read. -/
  configId_eq : t.configId = config &&& 0x0F
  /-- It stands for one of the two sizes. -/
  channels : t.configId = 0xC ∧ t.channels.toNat = 8 ∨ t.configId = 0xE ∧ t.channels.toNat = 4
  /-- The two revisions make up the byte that was read. -/
  versions_eq : t.channelVersion.toNat * 16 + t.shareVersion.toNat = versions.toNat
  /-- The revision of the channel registers is half a byte. -/
  channelVersion_lt : t.channelVersion.toNat < 16
  /-- So is that of the shared registers. -/
  shareVersion_lt : t.shareVersion.toNat < 16

/-! ## What answers call for

Each of the four answers is noted for what it tells, and a list of answers that is too short for one
of them calls for no such note. -/

/-- The first two say who it is, and are worth a note only together. -/
def identityNotes : List (Except BusFault UInt8) → List Record
  | .ok deviceId :: .ok version :: _ =>
    .identity deviceId version :: if deviceId ≠ 0x10 then [.unknownDeviceId deviceId] else []
  | _ => []

/-- The third says how large it is, or nothing that anyone knows. -/
def sizeNotes : List (Except BusFault UInt8) → List Record
  | _ :: _ :: .ok config :: _ =>
    if config &&& 0x0F = 0xC then [.channels .eight]
    else if config &&& 0x0F = 0xE then [.channels .four]
    else [.unknownChannelConfig (config &&& 0x0F)]
  | _ => []

/-- The fourth says which revisions its registers have. -/
def revisionNotes : List (Except BusFault UInt8) → List Record
  | _ :: _ :: _ :: .ok versions :: _ => [.versions (versions >>> 4) (versions &&& 0x0F)]
  | _ => []

/-- One that is a fault tells of the register that was asked. -/
def faultNotes (answers : List (Except BusFault UInt8)) : List Record :=
  (identifying.zip answers).filterMap fun
    | (r, .error fault) => some (.readFailed r fault)
    | (_, .ok _) => none

/-! ## The ways it may end, by their answers -/

section IdentityRead

variable (deviceId version : UInt8)

@[simp] theorem answersOf_identityRead :
    answersOf (identityRead deviceId version : List (Event η)) = [.ok deviceId, .ok version] := by
  unfold identityRead
  split <;> rfl

@[simp] theorem filter_onBus_identityRead :
    (identityRead deviceId version : List (Event η)).filter Event.onBus =
      [.read Register.deviceId.address (.ok deviceId),
        .read Register.version.address (.ok version)] := by
  unfold identityRead
  split <;> rfl

@[simp] theorem recordsOf_identityRead :
    recordsOf (identityRead deviceId version : List (Event η)) =
      identityNotes [.ok deviceId, .ok version] := by
  unfold identityRead
  by_cases h : deviceId = knownDeviceId <;> simp_all [identityNotes, knownDeviceId]

end IdentityRead

theorem sizeNotes_of_some (a b : Except BusFault UInt8) {config : UInt8} {count : ChannelCount}
    (h : ChannelCount.ofConfigId? (config &&& configIdMask) = some count)
    (rest : List (Except BusFault UInt8)) :
    sizeNotes (a :: b :: .ok config :: rest) = [.channels count] := by
  rcases ChannelCount.ofConfigId?_eq_some_iff.mp h with ⟨hid, rfl⟩ | ⟨hid, rfl⟩ <;>
    simp_all [sizeNotes, configIdMask]

theorem sizeNotes_of_none (a b : Except BusFault UInt8) {config : UInt8}
    (h : ChannelCount.ofConfigId? (config &&& configIdMask) = none)
    (rest : List (Except BusFault UInt8)) :
    sizeNotes (a :: b :: .ok config :: rest) =
      [.unknownChannelConfig (config &&& configIdMask)] := by
  obtain ⟨height, hfour⟩ := ChannelCount.ofConfigId?_eq_none_iff.mp h
  simp_all [sizeNotes, configIdMask]

/-- The bytes that were read leave no choice. -/
theorem readFrom_iff {t : Topology} {deviceId version config versions : UInt8} :
    t.ReadFrom deviceId version config versions ↔
      ∃ count, ChannelCount.ofConfigId? (config &&& configIdMask) = some count ∧
        t = ⟨deviceId, version, config &&& configIdMask, count,
          ChannelVersion.channel ⟨versions⟩, ChannelVersion.share ⟨versions⟩⟩ := by
  constructor
  · rintro ⟨rfl, rfl, hconfig, hsize, hversions, hchannel, hshare⟩
    obtain ⟨hchannel, hshare⟩ :=
      (@ChannelVersion.halves_iff ⟨versions⟩ _ _).mpr ⟨hversions, hchannel, hshare⟩
    have hid : config &&& configIdMask = t.configId := hconfig.symm
    rw [hid, ← hchannel, ← hshare]
    refine ⟨t.channels, ChannelCount.ofConfigId?_eq_some_iff.mpr ?_, rfl⟩
    cases h : t.channels <;> simpa [h, ChannelCount.toNat] using hsize
  · rintro ⟨count, hsize, rfl⟩
    obtain ⟨hversions, hchannel, hshare⟩ :=
      (@ChannelVersion.halves_iff ⟨versions⟩ _ _).mp ⟨rfl, rfl⟩
    refine ⟨rfl, rfl, rfl, ?_, hversions, hchannel, hshare⟩
    rcases ChannelCount.ofConfigId?_eq_some_iff.mp hsize with ⟨hid, rfl⟩ | ⟨hid, rfl⟩
    · exact .inl ⟨hid, rfl⟩
    · exact .inr ⟨hid, rfl⟩

section Discovered

variable {value : Except Failure Topology} {journal : List (Event η)}

/-- Nothing but the four registers is accessed, each at most once and in order. -/
theorem Discovered.filter_onBus (h : Discovered value journal) :
    journal.filter Event.onBus =
      List.zipWith Event.read (identifying.map Register.address) (answersOf journal) := by
  cases h <;>
    simp [identifying, unread, sizeRead, versionsRead, List.filter_cons, Event.onBus]

/-- In the end there is nothing left to ask. -/
theorem Discovered.not_unsettled (h : Discovered value journal) :
    ¬Unsettled (answersOf journal) := by
  cases h with
  | sizeUnknown deviceId version config hsize => simp [unsettled_size_iff, hsize]
  | _ => simp [unread, sizeRead, versionsRead, Unsettled]

/-- Before the last answer there was. -/
theorem Discovered.unsettled_dropLast (h : Discovered value journal) :
    Unsettled (answersOf journal).dropLast := by
  cases h with
  | versionsUnread deviceId version config count fault hsize =>
    simp [unread, sizeRead, unsettled_size_iff, hsize]
  | identified deviceId version config count versions hsize =>
    simp [sizeRead, versionsRead, unsettled_size_iff, hsize]
  | _ => simp [unread, Unsettled]

/-- There was one more read exactly while the answers so far left something to ask. -/
theorem Discovered.unsettled_take_iff (h : Discovered value journal) (k : Nat) :
    Unsettled ((answersOf journal).take k) ↔ k < (answersOf journal).length := by
  constructor
  · intro hunsettled
    by_contra hk
    rw [List.take_of_length_le (Nat.not_lt.mp hk)] at hunsettled
    exact h.not_unsettled hunsettled
  · intro hk
    have hearlier := h.unsettled_dropLast.take k
    rwa [List.dropLast_eq_take, List.take_take, Nat.min_eq_left (Nat.le_sub_one_of_lt hk)]
      at hearlier

theorem Discovered.eq_ioFailure_iff (h : Discovered value journal) :
    value = .error .ioFailure ↔ ∃ fault, .error fault ∈ answersOf journal := by
  cases h <;> simp [unread, sizeRead, versionsRead]

theorem Discovered.eq_unknownTopology_iff (h : Discovered value journal) :
    value = .error .unknownTopology ↔ ∃ deviceId version config,
      answersOf journal = [.ok deviceId, .ok version, .ok config] ∧
        config &&& 0x0F ≠ 0xC ∧ config &&& 0x0F ≠ 0xE := by
  cases h with
  | sizeUnknown deviceId version config hsize =>
    simpa [configIdMask] using ChannelCount.ofConfigId?_eq_none_iff.mp hsize
  | _ => simp [unread, sizeRead, versionsRead]

theorem Discovered.eq_ok_iff (h : Discovered value journal) (t : Topology) :
    value = .ok t ↔ ∃ deviceId version config versions,
      answersOf journal = [.ok deviceId, .ok version, .ok config, .ok versions] ∧
        t.ReadFrom deviceId version config versions := by
  cases h with
  | identified deviceId version config count versions hsize =>
    simp [sizeRead, versionsRead, readFrom_iff, hsize, eq_comm]
  | _ => simp [unread, sizeRead]

/-- There are two ways to fail. -/
theorem Discovered.failure_cases {failure : Failure}
    (h : Discovered (.error failure) journal) :
    failure = .ioFailure ∨ failure = .unknownTopology := by
  cases h with
  | sizeUnknown => exact .inr rfl
  | _ => exact .inl rfl

theorem Discovered.recordsOf_eq (h : Discovered value journal) :
    recordsOf journal = identityNotes (answersOf journal) ++ sizeNotes (answersOf journal) ++
      revisionNotes (answersOf journal) ++ faultNotes (answersOf journal) := by
  cases h with
  | identityUnread | versionUnread | configUnread =>
    simp [unread, identityNotes, sizeNotes, revisionNotes, faultNotes, identifying]
  | sizeUnknown deviceId version config hsize =>
    simp [sizeNotes_of_none _ _ hsize, identityNotes, revisionNotes, faultNotes, identifying]
  | versionsUnread deviceId version config count fault hsize =>
    simp [unread, sizeRead, sizeNotes_of_some _ _ hsize, identityNotes, revisionNotes, faultNotes,
      identifying]
  | identified deviceId version config count versions hsize =>
    simp [sizeRead, versionsRead, sizeNotes_of_some _ _ hsize, identityNotes, revisionNotes,
      faultNotes, identifying, ChannelVersion.channel, ChannelVersion.share]

end Discovered

/-! ## An identification on any bus -/

/-- **An identification is what its answers make it**, on a bus that may answer as it likes. It
reads from four registers in turn and accesses nothing else, and it goes on as long as no read has
failed and the size is not one that nobody knows. In the first of these cases it reports a failure
of the bus, in the second an unknown topology, and if it comes to the end, what was read. What it
records is what the answers call for. -/
theorem discover_told_by_answers [Bus σ] (w : σ) :
    let o := (discover : Attempt σ η Topology).run.run w
    let answers := answersOf o.journal
    Answered w o.journal o.world ∧
    o.journal.filter Event.onBus = List.zipWith Event.read [0xF1, 0xF0, 0xEF, 0xF3] answers ∧
    (∀ k, Unsettled (answers.take k) ↔ k < answers.length) ∧
    (o.value = .error .ioFailure ↔ ∃ fault, .error fault ∈ answers) ∧
    (o.value = .error .unknownTopology ↔ ∃ deviceId version config,
      answers = [.ok deviceId, .ok version, .ok config] ∧
        config &&& 0x0F ≠ 0xC ∧ config &&& 0x0F ≠ 0xE) ∧
    (∀ failure, o.value = .error failure → failure = .ioFailure ∨ failure = .unknownTopology) ∧
    (∀ t, o.value = .ok t ↔ ∃ deviceId version config versions,
      answers = [.ok deviceId, .ok version, .ok config, .ok versions] ∧
        t.ReadFrom deviceId version config versions) ∧
    recordsOf o.journal = identityNotes answers ++ sizeNotes answers ++ revisionNotes answers ++
      faultNotes answers := by
  intro o answers
  obtain ⟨value, journal, w', hdiscovered, hanswered, hrun⟩ := @discover_run σ η _ w
  have ho : o = ⟨value, w', journal⟩ := hrun
  subst answers
  rw [ho]
  refine ⟨hanswered, hdiscovered.filter_onBus, hdiscovered.unsettled_take_iff,
    hdiscovered.eq_ioFailure_iff, hdiscovered.eq_unknownTopology_iff, fun failure hfailed => ?_,
    hdiscovered.eq_ok_iff, hdiscovered.recordsOf_eq⟩
  have hvalue : value = .error failure := hfailed
  exact (hvalue ▸ hdiscovered).failure_cases

/-- A part that nobody knows and that then falls silent is noted for both. -/
example :
    let answers : List (Except BusFault UInt8) := [.ok 0x11, .ok 0x02, .error .noDevice]
    identityNotes answers ++ sizeNotes answers ++ revisionNotes answers ++ faultNotes answers =
      [.identity 0x11 0x02, .unknownDeviceId 0x11, .readFailed .channelConfigId .noDevice] := by
  decide

end Topology

end Retimer
