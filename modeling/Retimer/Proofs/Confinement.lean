import Retimer.Provider.Operation

/-!
# What the driver's actions are confined to

Most of what the driver does is of one kind: discovery reads and takes notes, programming reads,
writes and takes notes. `Action.Only` says that an action does nothing else, from whatever state of
the world. It passes through the two ways of putting actions together, so it is settled once for
each part of the driver and inherited by all that is made of that part.

The kind is a parameter. A lemma asks of it only that it admits the events which the action may
leave, so one lemma serves whoever asks about writes, about the factory, or about records.

## Main results

* `Topology.discover_only`: discovery reads and records
* `configure_only`: programming reads, writes and records
* `Command.perform_only`: no command calls the factory
-/

namespace Retimer

variable {σ η α β : Type} {P : Event η → Prop}

/-! ## Confinement -/

namespace Action

/-- From every state of the world, all that the action does is of one kind. -/
def Only (P : Event η → Prop) (a : Action σ η α) : Prop := ∀ w, ∀ e ∈ (a.run w).journal, P e

theorem only_pure (a : α) : Only P (pure a : Action σ η α) := by
  intro w e he
  cases he

theorem Only.bind {a : Action σ η α} {f : α → Action σ η β} (ha : Only P a)
    (hf : ∀ x, Only P (f x)) : Only P (a >>= f) := by
  intro w e he
  rcases List.mem_append.mp he with he | he
  · exact ha w e he
  · exact hf _ _ e he

theorem only_record {entry : Record} (h : P (.record entry)) :
    Only P (record entry : Action σ η Unit) := by
  intro w e he
  rwa [List.mem_singleton.mp he]

theorem only_readByte [Bus σ] {address : UInt8} (h : ∀ answer, P (.read address answer)) :
    Only P (readByte address : Action σ η _) := by
  intro w e he
  rw [List.mem_singleton.mp he]
  exact h _

theorem only_writeByte [Bus σ] {address value : UInt8}
    (h : ∀ answer, P (.write address value answer)) :
    Only P (writeByte address value : Action σ η _) := by
  intro w e he
  rw [List.mem_singleton.mp he]
  exact h _

end Action

namespace Attempt

/-- What comes after the first part of an attempt matters only if that part succeeds. -/
theorem only_bind {a : Attempt σ η α} {f : α → Attempt σ η β} (ha : a.run.Only P)
    (hf : ∀ x, (f x).run.Only P) : (a >>= f).run.Only P := by
  rw [ExceptT.run_bind]
  refine ha.bind fun x => ?_
  cases x with
  | ok x => exact hf x
  | error failure => exact Action.only_pure _

theorem only_pure (a : α) : (pure a : Attempt σ η α).run.Only P := Action.only_pure _

theorem only_throw (failure : Failure) : (throw failure : Attempt σ η α).run.Only P :=
  Action.only_pure _

theorem only_record {entry : Record} (h : P (.record entry)) :
    (record entry : Attempt σ η Unit).run.Only P :=
  (Action.only_record h).bind fun _ => Action.only_pure _

end Attempt

/-! ## Register access -/

section Bus

variable [Bus σ]

theorem readRegister_only {r : Register} {mask : UInt8}
    (hread : ∀ answer, P (.read r.address answer))
    (hrecord : ∀ entry, P (.record entry)) :
    (readRegister r mask : Attempt σ η UInt8).run.Only P := by
  refine (Action.only_readByte hread).bind fun x => ?_
  cases x with
  | ok value => exact Action.only_pure _
  | error fault => exact (Action.only_record (hrecord _)).bind fun _ => Action.only_pure _

theorem storeRegister_only {r : Register} {value : UInt8}
    (hwrite : ∀ answer, P (.write r.address value answer))
    (hrecord : ∀ entry, P (.record entry)) :
    (storeRegister r value : Attempt σ η Unit).run.Only P := by
  refine (Action.only_writeByte hwrite).bind fun x => ?_
  cases x with
  | ok _ => exact Action.only_pure _
  | error fault => exact (Action.only_record (hrecord _)).bind fun _ => Action.only_pure _

theorem MaskedWrite.apply_only {c : MaskedWrite}
    (hread : ∀ answer, P (.read c.register.address answer))
    (hwrite : ∀ value answer, P (.write c.register.address value answer))
    (hrecord : ∀ entry, P (.record entry)) :
    (c.apply : Attempt σ η Unit).run.Only P := by
  refine Attempt.only_bind ?_ fun value => storeRegister_only (hwrite value) hrecord
  unfold compose
  split
  · exact Attempt.only_pure _
  · exact Attempt.only_bind (readRegister_only hread hrecord) fun _ => Attempt.only_pure _

/-! ## Discovery -/

/-- Discovery reads and records. -/
theorem Topology.discover_only (hread : ∀ address answer, P (.read address answer))
    (hrecord : ∀ entry, P (.record entry)) :
    (discover : Attempt σ η Topology).run.Only P := by
  have hreg : ∀ r mask, (readRegister r mask : Attempt σ η UInt8).run.Only P :=
    fun r _ => readRegister_only (hread r.address) hrecord
  have hidentity : ∀ d v, (noteIdentity d v : Attempt σ η Unit).run.Only P := by
    intro d v
    refine Attempt.only_bind (Attempt.only_record (hrecord _)) fun _ => ?_
    split
    · exact Attempt.only_record (hrecord _)
    · exact Attempt.only_pure _
  have hsize : ∀ id, (recogniseSize id : Attempt σ η ChannelCount).run.Only P := by
    intro id
    unfold recogniseSize
    split
    · exact Attempt.only_bind (Attempt.only_record (hrecord _)) fun _ => Attempt.only_pure _
    · exact Attempt.only_bind (Attempt.only_record (hrecord _)) fun _ => Attempt.only_throw _
  have hversions : (readVersions : Attempt σ η ChannelVersion).run.Only P :=
    Attempt.only_bind (hreg _ _) fun _ =>
      Attempt.only_bind (Attempt.only_record (hrecord _)) fun _ => Attempt.only_pure _
  exact Attempt.only_bind (hreg _ _) fun d =>
    Attempt.only_bind (hreg _ _) fun v =>
    Attempt.only_bind (hidentity d v) fun _ =>
    Attempt.only_bind (hreg _ _) fun id =>
    Attempt.only_bind (hsize id) fun _ =>
    Attempt.only_bind hversions fun _ => Attempt.only_pure _

/-- Discovery leaves the factory alone. -/
theorem Topology.discover_quiet :
    (discover : Attempt σ η Topology).run.Only fun e => e.onFactory = false :=
  discover_only (fun _ _ => rfl) fun _ => rfl

/-! ## Programming -/

theorem MaskedWrite.applyAll_only {ws : List MaskedWrite}
    (hread : ∀ address answer, P (.read address answer))
    (hwrite : ∀ c ∈ ws, ∀ value answer, P (.write c.register.address value answer))
    (hrecord : ∀ entry, P (.record entry)) :
    (applyAll ws : Action σ η _).Only P := by
  induction ws with
  | nil => exact Action.only_pure _
  | cons c ws ih =>
    obtain ⟨hc, hws⟩ := List.forall_mem_cons.mp hwrite
    exact (apply_only (hread _) hc hrecord).bind fun _ =>
      (ih hws).bind fun _ => Action.only_pure _

/-- Programming reads and records, and writes to the registers of its recipe. -/
theorem configure_only {c : Channel} {rate : LineRate}
    (hread : ∀ address answer, P (.read address answer))
    (hwrite : ∀ m ∈ (recipe c rate).toList, ∀ value answer,
      P (.write m.register.address value answer))
    (hrecord : ∀ entry, P (.record entry)) :
    (configure c rate : Attempt σ η Unit).run.Only P := by
  refine (MaskedWrite.applyAll_only hread hwrite hrecord).bind fun outcomes => ?_
  split
  · exact (Action.only_record (hrecord _)).bind fun _ => Action.only_pure _
  · exact Action.only_pure _

/-! ## Commands and mode requests -/

/-- No command calls the factory. -/
theorem Command.perform_only (command : Command) :
    (command.perform : Action σ η (Reply η)).Only fun e => e.onFactory = false := by
  cases command with
  | read r mask =>
    exact (readRegister_only (fun _ => rfl) fun _ => rfl).bind fun _ => Action.only_pure _
  | write change =>
    exact (MaskedWrite.apply_only (fun _ => rfl) (fun _ _ => rfl) fun _ => rfl).bind
      fun _ => Action.only_pure _
  | readByte address => exact (Action.only_readByte fun _ => rfl).bind fun _ => Action.only_pure _
  | writeByte address value =>
    exact (Action.only_writeByte fun _ => rfl).bind fun _ => Action.only_pure _
  | discover =>
    exact Topology.discover_quiet.bind fun _ => Action.only_pure _
  | configure c rate =>
    exact (configure_only (fun _ _ => rfl) (fun _ _ _ _ => rfl) fun _ => rfl).bind
      fun _ => Action.only_pure _

/-- Nor does a mode request. -/
theorem Endpoint.setMode_only (e : Endpoint η) (mode : PhyMode) (submode : InterfaceMode) :
    (e.setMode mode submode : Attempt σ η Unit).run.Only fun e => e.onFactory = false := by
  unfold setMode
  split
  · exact configure_only (fun _ _ => rfl) (fun _ _ _ _ => rfl) fun _ => rfl
  · exact Attempt.only_bind (Attempt.only_record rfl) fun _ => Attempt.only_throw _

theorem Endpoint.setModeRaw_only (e : Endpoint η) (mode submode : UInt32) :
    (e.setModeRaw mode submode : Attempt σ η Unit).run.Only fun e => e.onFactory = false := by
  unfold setModeRaw
  split
  · exact e.setMode_only _ _
  · exact Attempt.only_bind (Attempt.only_record rfl) fun _ => Attempt.only_throw _

end Bus

/-! ## Looking endpoints up -/

theorem Provider.resolve_only {p : Provider η} {args : List UInt32}
    (hrecord : ∀ entry, P (.record entry)) :
    (p.resolve args : Attempt σ η (Endpoint η)).run.Only P := by
  unfold resolve
  split
  · split
    · exact Attempt.only_pure _
    · exact Attempt.only_throw _
  · dsimp only
    split
    · exact Attempt.only_bind (Attempt.only_record (hrecord _)) fun _ => Attempt.only_throw _
    · exact Attempt.only_throw _

theorem Provider.withEndpoint_only {p : Provider η} {args : List UInt32}
    {use : Endpoint η → Attempt σ η Unit} (hrecord : ∀ entry, P (.record entry))
    (huse : ∀ e, (use e).run.Only P) : (p.withEndpoint args use).Only P := by
  refine (resolve_only hrecord).bind fun x => ?_
  cases x with
  | ok e => exact (huse e).bind fun _ => Action.only_pure _
  | error failure => exact Action.only_pure _

end Retimer
