import Retimer.Bench.SimulatedPart
import Retimer.Proofs.Provider.Traffic

/-!
# What an observer sees of two runs

Some questions about the driver are about two runs at once. Would anything be different if the part
gave another revision? If the bus reported another fault? To ask this is to fix what counts as
different: an *observer* makes out some of the bits that are read, takes some faults for others and
passes some records over. The two runs may differ in whatever the observer does not see. What has
to be shown is that they differ in nothing else, and in particular that what is not seen at one time
does not lead to something that is seen later.

Not every way of looking can have that property. The observer of a run has to make out what the
driver decides by, and has to pass over the records that tell of readings it does not make out.
These conditions are fields of `Observer`, so there is nothing more to say about an observer once it
is there.

The worlds of the two runs may have nothing in common. They are related by some relation of which
`Observer.Confuses` says that it is kept up by whatever the driver can do: related worlds give
answers that look the same, and are related afterwards. `Action.Alike` says of two actions that in
related worlds they come to the same for the observer, up to a relation of their values. It passes
through the ways of putting actions together, so it is settled for each part of the driver once.

## Main definitions

* `Observer`, `Observer.seen`: who is looking, and what there is to see in a journal
* `Observer.Confuses`: worlds that an observer cannot tell apart
* `Action.Alike`, `Attempt.Alike`: actions that come to the same for an observer
-/

namespace Retimer

variable {σ τ η : Type}

/-! ## Observers -/

/-- Someone who looks at a run of the driver and does not see everything. -/
structure Observer where
  /-- The bits that are made out in a byte read from an address. -/
  bits : UInt8 → UInt8
  /-- What a fault is taken for. -/
  fault : BusFault → BusFault
  /-- What is known of the declared member of the family. -/
  variant : Variant → Option Variant
  /-- What a record is taken for, unless it is passed over. -/
  note : Record → Option Record
  /-- Registers that are written to are made out entirely. -/
  bits_of_notMem : ∀ r : Register, r ∉ Register.identification → bits r.address = fullMask
  /-- So is what tells the size. -/
  configIdMask_bits : configIdMask &&& bits Register.channelConfigId.address = configIdMask
  /-- Records of failed reads look the same where the faults do. -/
  note_readFailed : ∀ (r : Register) {f g : BusFault}, fault f = fault g →
    note (.readFailed r f) = note (.readFailed r g)
  /-- Records of failed writes look the same where the faults do. -/
  note_writeFailed : ∀ (r : Register) (value : UInt8) {f g : BusFault}, fault f = fault g →
    note (.writeFailed r value f) = note (.writeFailed r value g)
  /-- Records of the identity are passed over unless it is made out. -/
  note_identity :
    bits Register.deviceId.address = fullMask ∧ bits Register.version.address = fullMask ∨
      (∀ deviceId version, note (.identity deviceId version) = none) ∧
        ∀ deviceId, note (.unknownDeviceId deviceId) = none
  /-- Records of the revisions are passed over unless they are made out. -/
  note_versions : bits Register.channelVersion.address = fullMask ∨
    ∀ channel share, note (.versions channel share) = none
  /-- Records of a mismatch are passed over unless the declared member is known. -/
  note_variantMismatch : variant.Injective ∨
    ∀ declared count, note (.variantMismatch declared count) = none

namespace Observer

variable (O : Observer)

/-- What is made out in the answer to a read. -/
def answer (address : UInt8) : Except BusFault UInt8 → Except BusFault UInt8
  | .ok value => .ok (value &&& O.bits address)
  | .error fault => .error (O.fault fault)

/-- What is made out in the answer to a write. -/
def outcome : Except BusFault Unit → Except BusFault Unit
  | .ok _ => .ok ()
  | .error fault => .error (O.fault fault)

/-- What there is to see in an event. -/
def event : Event η → Option (Event η)
  | .read address answer => some (.read address (O.answer address answer))
  | .write address value answer => some (.write address value (O.outcome answer))
  | .create channel answer => some (.create channel answer)
  | .destroy handle => some (.destroy handle)
  | .record entry => (O.note entry).map .record

/-- What there is to see in a journal. -/
def seen (journal : List (Event η)) : List (Event η) := journal.filterMap O.event

@[simp] theorem seen_nil : O.seen ([] : List (Event η)) = [] := rfl

@[simp] theorem seen_append (a b : List (Event η)) : O.seen (a ++ b) = O.seen a ++ O.seen b :=
  List.filterMap_append

end Observer

/-! ### What every observer sees -/

/-- The access that an event is, whatever came of it. -/
def Event.access? : Event η → Option Bench.Access
  | read address _ => some (.read address)
  | write address value _ => some (.write address value)
  | _ => none

/-- The accesses in a journal, in order: which register was read, and which byte written where. -/
def accessesOf (journal : List (Event η)) : List Bench.Access := journal.filterMap Event.access?

namespace Observer

variable (O : Observer) (journal : List (Event η))

/-- Every observer sees the accesses. -/
theorem accessesOf_seen : accessesOf (O.seen journal) = accessesOf journal := by
  rw [accessesOf, seen, List.filterMap_filterMap, accessesOf]
  refine List.filterMap_congr ?_
  intro e _
  cases e with
  | record entry => cases h : O.note entry <;> simp [event, Event.access?, h]
  | read | write | create | destroy => rfl

/-- Every observer sees the calls of the factory. -/
theorem filter_onFactory_seen :
    (O.seen journal).filter Event.onFactory = journal.filter Event.onFactory := by
  rw [seen, List.filter_filterMap, ← List.filterMap_eq_filter]
  refine List.filterMap_congr ?_
  intro e _
  cases e with
  | record entry => cases h : O.note entry <;> simp [event, Event.onFactory, Option.guard, h]
  | read | write | create | destroy => rfl

/-- The records that an observer sees are those that it takes notice of. -/
theorem recordsOf_seen : recordsOf (O.seen journal) = (recordsOf journal).filterMap O.note := by
  rw [recordsOf, seen, List.filterMap_filterMap, recordsOf, List.filterMap_filterMap]
  refine List.filterMap_congr ?_
  intro e _
  cases e with
  | record entry => cases h : O.note entry <;> simp [event, Event.record?, h]
  | read | write | create | destroy => rfl

end Observer

/-! ## Worlds -/

/-- The observer cannot tell related worlds apart, by anything that the driver can do now or
later. -/
structure Observer.Confuses (O : Observer) [Bus σ] [Factory σ η] [Bus τ] [Factory τ η]
    (R : σ → τ → Prop) : Prop where
  /-- Reads look the same. -/
  read : ∀ {w : σ} {v : τ}, R w v → ∀ r : Register,
    O.answer r.address (Bus.readByte r.address w).1 =
        O.answer r.address (Bus.readByte r.address v).1 ∧
      R (Bus.readByte r.address w).2 (Bus.readByte r.address v).2
  /-- Writes look the same. -/
  write : ∀ {w : σ} {v : τ}, R w v → ∀ (r : Register) (value : UInt8),
    O.outcome (Bus.writeByte r.address value w).1 =
        O.outcome (Bus.writeByte r.address value v).1 ∧
      R (Bus.writeByte r.address value w).2 (Bus.writeByte r.address value v).2
  /-- The factory answers alike. -/
  create : ∀ {w : σ} {v : τ}, R w v → ∀ c : Channel,
    (Factory.create c w).1 = (Factory.create c v).1 ∧
      R (Factory.create c w).2 (Factory.create c v).2
  /-- Nothing is told by what is given up. -/
  destroy : ∀ {w : σ} {v : τ}, R w v → ∀ handle : η,
    R (Factory.destroy handle w) (Factory.destroy handle v)

/-! ## Actions -/

variable {α α' β β' : Type} {O : Observer} {R : σ → τ → Prop} {V : α → β → Prop}
  {W : α' → β' → Prop}

/-- Two outcomes come to the same for an observer: their values and worlds are related, and there is
the same to see in their journals. -/
structure Outcome.Alike (O : Observer) (R : σ → τ → Prop) (V : α → β → Prop)
    (o : Outcome σ η α) (o' : Outcome τ η β) : Prop where
  /-- The values are related. -/
  value : V o.value o'.value
  /-- The worlds are related. -/
  world : R o.world o'.world
  /-- The journals look the same. -/
  seen : O.seen o.journal = O.seen o'.journal

namespace Outcome.Alike

variable {o : Outcome σ η α} {o' : Outcome τ η β} (h : o.Alike O R V o')

include h

theorem accessesOf_eq : accessesOf o.journal = accessesOf o'.journal := by
  rw [← O.accessesOf_seen, h.seen, O.accessesOf_seen]

theorem filter_onFactory_eq :
    o.journal.filter Event.onFactory = o'.journal.filter Event.onFactory := by
  rw [← O.filter_onFactory_seen, h.seen, O.filter_onFactory_seen]

theorem filterMap_note_eq :
    (recordsOf o.journal).filterMap O.note = (recordsOf o'.journal).filterMap O.note := by
  rw [← O.recordsOf_seen, h.seen, O.recordsOf_seen]

end Outcome.Alike

namespace Action

/-- From related worlds, two actions come to the same for an observer. -/
def Alike (O : Observer) (R : σ → τ → Prop) (V : α → β → Prop) (a : Action σ η α)
    (b : Action τ η β) : Prop :=
  ∀ w v, R w v → (a.run w).Alike O R V (b.run v)

theorem alike_pure {x : α} {y : β} (h : V x y) :
    Alike O R V (pure x : Action σ η α) (pure y) := by
  intro w v hwv
  exact ⟨h, hwv, rfl⟩

theorem Alike.bind {a : Action σ η α} {b : Action τ η β} {f : α → Action σ η α'}
    {g : β → Action τ η β'} (ha : Alike O R V a b) (hf : ∀ x y, V x y → Alike O R W (f x) (g y)) :
    Alike O R W (a >>= f) (b >>= g) := by
  intro w v hwv
  have hfirst := ha w v hwv
  have hsecond := hf _ _ hfirst.value _ _ hfirst.world
  refine ⟨hsecond.value, hsecond.world, ?_⟩
  simp only [run_bind, Observer.seen_append, hfirst.seen, hsecond.seen]

/-- Equal values may be taken for one and the same. -/
theorem Alike.bind_eq {a : Action σ η α} {b : Action τ η α} {f : α → Action σ η α'}
    {g : α → Action τ η β'} (ha : Alike O R Eq a b) (hf : ∀ x, Alike O R W (f x) (g x)) :
    Alike O R W (a >>= f) (b >>= g) := by
  refine ha.bind ?_
  rintro x _ rfl
  exact hf x

theorem alike_record {entry entry' : Record} (h : O.note entry = O.note entry') :
    Alike O R Eq (record entry : Action σ η Unit) (record entry') := by
  intro w v hwv
  have hevent : O.event (.record entry : Event η) = O.event (.record entry') :=
    congrArg (Option.map Event.record) h
  refine ⟨rfl, hwv, ?_⟩
  simp only [run_record, Observer.seen, List.filterMap_cons, hevent]

section World

variable [Bus σ] [Factory σ η] [Bus τ] [Factory τ η] (hR : O.Confuses R)

include hR

theorem alike_readByte (r : Register) :
    Alike O R (fun x y => O.answer r.address x = O.answer r.address y)
      (readByte r.address : Action σ η _) (readByte r.address) := by
  intro w v hwv
  obtain ⟨hanswer, hworld⟩ := hR.read hwv r
  refine ⟨hanswer, hworld, ?_⟩
  simp [Observer.seen, Observer.event, hanswer]

theorem alike_writeByte (r : Register) (value : UInt8) :
    Alike O R (fun x y => O.outcome x = O.outcome y)
      (writeByte r.address value : Action σ η _) (writeByte r.address value) := by
  intro w v hwv
  obtain ⟨houtcome, hworld⟩ := hR.write hwv r value
  refine ⟨houtcome, hworld, ?_⟩
  simp [Observer.seen, Observer.event, houtcome]

theorem alike_create (c : Channel) : Alike O R Eq (create c : Action σ η _) (create c) := by
  intro w v hwv
  obtain ⟨hanswer, hworld⟩ := hR.create hwv c
  refine ⟨hanswer, hworld, ?_⟩
  rw [run_create, run_create, hanswer]

theorem alike_destroy (handle : η) :
    Alike O R Eq (destroy handle : Action σ η _) (destroy handle) := by
  intro w v hwv
  exact ⟨rfl, hR.destroy hwv handle, rfl⟩

end World

end Action

/-! ## Attempts -/

/-- Two attempts fail alike, or succeed with related values. -/
inductive Ends (V : α → β → Prop) : Except Failure α → Except Failure β → Prop
  /-- Both succeed. -/
  | ok {x : α} {y : β} (h : V x y) : Ends V (.ok x) (.ok y)
  /-- Both fail, and report the same. -/
  | error (failure : Failure) : Ends V (.error failure) (.error failure)

theorem ends_eq {x y : Except Failure α} : Ends Eq x y ↔ x = y := by
  constructor
  · rintro (rfl | failure) <;> rfl
  · rintro rfl
    cases x with
    | ok x => exact .ok rfl
    | error failure => exact .error failure

namespace Attempt

/-- From related worlds, two attempts come to the same for an observer. -/
def Alike (O : Observer) (R : σ → τ → Prop) (V : α → β → Prop) (a : Attempt σ η α)
    (b : Attempt τ η β) : Prop :=
  Action.Alike O R (Ends V) a.run b.run

/-- Attempts are actions whose values are related if they end alike. -/
theorem Alike.run {a : Attempt σ η α} {b : Attempt τ η β} (h : Alike O R V a b) :
    Action.Alike O R (Ends V) a.run b.run := h

/-- Attempts that end in equal values end in equal outcomes. -/
theorem Alike.run_eq {a : Attempt σ η α} {b : Attempt τ η α} (h : Alike O R Eq a b) :
    Action.Alike O R Eq a.run b.run := by
  intro w v hwv
  have hends := h.run w v hwv
  exact ⟨ends_eq.mp hends.value, hends.world, hends.seen⟩

theorem alike_pure {x : α} {y : β} (h : V x y) :
    Alike O R V (pure x : Attempt σ η α) (pure y) := Action.alike_pure (.ok h)

theorem alike_throw (failure : Failure) :
    Alike O R V (throw failure : Attempt σ η α) (throw failure) :=
  Action.alike_pure (.error failure)

/-- What comes after the first part of an attempt matters only if that part succeeds. -/
theorem Alike.bind {a : Attempt σ η α} {b : Attempt τ η β} {f : α → Attempt σ η α'}
    {g : β → Attempt τ η β'} (ha : Alike O R V a b) (hf : ∀ x y, V x y → Alike O R W (f x) (g y)) :
    Alike O R W (a >>= f) (b >>= g) := by
  refine ha.run.bind ?_
  rintro _ _ (h | failure)
  · exact hf _ _ h
  · exact Action.alike_pure (.error failure)

theorem Alike.bind_eq {a : Attempt σ η α} {b : Attempt τ η α} {f : α → Attempt σ η α'}
    {g : α → Attempt τ η β'} (ha : Alike O R Eq a b) (hf : ∀ x, Alike O R W (f x) (g x)) :
    Alike O R W (a >>= f) (b >>= g) := by
  refine ha.bind ?_
  rintro x _ rfl
  exact hf x

theorem alike_record {entry entry' : Record} (h : O.note entry = O.note entry') :
    Alike O R Eq (record entry : Attempt σ η Unit) (record entry') :=
  (Action.alike_record h).bind_eq fun _ => Action.alike_pure (.ok rfl)

end Attempt

end Retimer
