import Retimer.Endpoint

/-!
# Reading a journal

A journal keeps everything in one list. What a property is about is usually a part of it: the
endpoints that were made, the handles that went back, the accesses that failed. Here are those
parts, each a list in the order of the journal, and what becomes of them when journals are joined.

## Main definitions

* `createdOf`, `destroyedOf`: what the factory made, and what it got back
* `faultsOf`: the records that the failed accesses call for
* `verdict`: what an attempt made of a journal is to report
* `Answered`: the answers in a journal are those that the bus gives
-/

namespace Retimer

variable {η : Type}

/-! ## Parts of a journal -/

namespace Event

/-- The endpoint that the event brings into being, if it does. -/
def created? : Event η → Option (Endpoint η)
  | create c (.ok handle) => some ⟨c, handle⟩
  | _ => none

/-- The handle that the event gives back, if it does. -/
def destroyed? : Event η → Option η
  | destroy handle => some handle
  | _ => none

/-- The record that a failed access to a register calls for. -/
def fault? : Event η → Option Record
  | read address (.error fault) =>
    (Register.ofAddress? address.toNat).map fun r => .readFailed r fault
  | write address value (.error fault) =>
    (Register.ofAddress? address.toNat).map fun r => .writeFailed r value fault
  | _ => none

@[simp] theorem fault?_read_error (r : Register) (fault : BusFault) :
    (read r.address (.error fault) : Event η).fault? = some (.readFailed r fault) := by
  simp [fault?, Register.ofAddress?_eq_some_iff.mpr rfl]

@[simp] theorem fault?_write_error (r : Register) (value : UInt8) (fault : BusFault) :
    (write r.address value (.error fault) : Event η).fault? =
      some (.writeFailed r value fault) := by
  simp [fault?, Register.ofAddress?_eq_some_iff.mpr rfl]

@[simp] theorem fault?_record (entry : Record) : (record entry : Event η).fault? = none := rfl

/-- Whether the event is a read, whatever came of it. -/
def isRead : Event η → Bool
  | read .. => true
  | _ => false

/-- Whether the event is a write, whatever came of it. -/
def isWrite : Event η → Bool
  | write .. => true
  | _ => false

/-- Whether the event is an access to a register, whatever came of it. -/
def accesses (r : Register) : Event η → Bool
  | read address _ | write address _ _ => address = r.address
  | _ => false

/-- Whether the event is an access that failed. -/
def failed : Event η → Bool
  | read _ (.error _) | write _ _ (.error _) => true
  | _ => false

theorem created?_of_onFactory {e : Event η} (h : e.onFactory = false) : e.created? = none := by
  cases e <;> simp_all [onFactory, created?]

theorem destroyed?_of_onFactory {e : Event η} (h : e.onFactory = false) : e.destroyed? = none := by
  cases e <;> simp_all [onFactory, destroyed?]

end Event

/-- The endpoints that were made, in order. -/
def createdOf (journal : List (Event η)) : List (Endpoint η) := journal.filterMap Event.created?

/-- The handles that were given back, in order. -/
def destroyedOf (journal : List (Event η)) : List η := journal.filterMap Event.destroyed?

/-- The records that the failed accesses call for, in order. -/
def faultsOf (journal : List (Event η)) : List Record := journal.filterMap Event.fault?

@[simp] theorem createdOf_nil : createdOf ([] : List (Event η)) = [] := rfl

@[simp] theorem createdOf_append (a b : List (Event η)) :
    createdOf (a ++ b) = createdOf a ++ createdOf b := List.filterMap_append

theorem createdOf_cons (e : Event η) (journal : List (Event η)) :
    createdOf (e :: journal) = e.created?.toList ++ createdOf journal := by
  cases h : e.created? <;> simp [createdOf, h]

@[simp] theorem destroyedOf_nil : destroyedOf ([] : List (Event η)) = [] := rfl

@[simp] theorem destroyedOf_append (a b : List (Event η)) :
    destroyedOf (a ++ b) = destroyedOf a ++ destroyedOf b := List.filterMap_append

theorem destroyedOf_cons (e : Event η) (journal : List (Event η)) :
    destroyedOf (e :: journal) = e.destroyed?.toList ++ destroyedOf journal := by
  cases h : e.destroyed? <;> simp [destroyedOf, h]

@[simp] theorem faultsOf_nil : faultsOf ([] : List (Event η)) = [] := rfl

@[simp] theorem faultsOf_append (a b : List (Event η)) :
    faultsOf (a ++ b) = faultsOf a ++ faultsOf b := List.filterMap_append

theorem faultsOf_cons (e : Event η) (journal : List (Event η)) :
    faultsOf (e :: journal) = e.fault?.toList ++ faultsOf journal := by
  cases h : e.fault? <;> simp [faultsOf, h]

theorem createdOf_eq_nil {journal : List (Event η)} (h : ∀ e ∈ journal, e.onFactory = false) :
    createdOf journal = [] := by
  refine List.filterMap_eq_nil_iff.mpr ?_
  intro e he
  exact Event.created?_of_onFactory (h e he)

theorem destroyedOf_eq_nil {journal : List (Event η)} (h : ∀ e ∈ journal, e.onFactory = false) :
    destroyedOf journal = [] := by
  refine List.filterMap_eq_nil_iff.mpr ?_
  intro e he
  exact Event.destroyed?_of_onFactory (h e he)

theorem createdOf_prefix {a b : List (Event η)} (h : a <+: b) : createdOf a <+: createdOf b := by
  obtain ⟨c, rfl⟩ := h
  rw [createdOf_append]
  exact List.prefix_append _ _

/-- What an attempt made of a journal is to report: a failure if any access failed. -/
def verdict (journal : List (Event η)) : Except Failure Unit :=
  if journal.any Event.failed then .error .ioFailure else .ok ()

theorem verdict_of_failed {journal : List (Event η)} (h : journal.any Event.failed = true) :
    verdict journal = .error .ioFailure := by
  rw [verdict, if_pos h]

theorem isOk_verdict (journal : List (Event η)) :
    (verdict journal).isOk = !journal.any Event.failed := by
  cases h : journal.any Event.failed <;> simp [verdict, h, Except.isOk, Except.toBool]

/-- A moment of a joined journal is a moment of the first part, or one of the second after the
whole of the first. -/
theorem prefix_append_cases {j a b : List (Event η)} (h : j <+: a ++ b) :
    j <+: a ∨ ∃ k, k <+: b ∧ j = a ++ k := by
  rcases List.prefix_or_prefix_of_prefix h (List.prefix_append a b) with hj | ⟨k, rfl⟩
  · exact .inl hj
  · exact .inr ⟨k, (List.prefix_append_right_inj a).mp h, rfl⟩

/-! ## Whose answers they are -/

section Answered

variable {σ : Type} [Bus σ]

/-- From one state of the world to another, a journal of accesses and records holds the answers of
the bus: each access is answered from the state which the accesses before it left behind. -/
def Answered : σ → List (Event η) → σ → Prop
  | w, [], w' => w' = w
  | w, .read address answer :: journal, w' =>
    answer = (Bus.readByte address w).1 ∧ Answered (Bus.readByte address w).2 journal w'
  | w, .write address value answer :: journal, w' =>
    answer = (Bus.writeByte address value w).1 ∧
      Answered (Bus.writeByte address value w).2 journal w'
  | w, .record _ :: journal, w' => Answered w journal w'
  | _, .create .. :: _, _ | _, .destroy .. :: _, _ => False

/-- Accesses go on from where the ones before them ended. -/
theorem Answered.append {w w' w'' : σ} {a b : List (Event η)} (ha : Answered w a w')
    (hb : Answered w' b w'') : Answered w (a ++ b) w'' := by
  induction a generalizing w with
  | nil => rwa [← show w' = w from ha]
  | cons e a ih =>
    cases e with
    | read address answer => exact ⟨ha.1, ih ha.2⟩
    | write address value answer => exact ⟨ha.1, ih ha.2⟩
    | record entry => exact ih ha
    | create | destroy => exact ha.elim

end Answered

end Retimer
