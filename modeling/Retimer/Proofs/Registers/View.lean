import Retimer.Proofs.MaskedWrite
import Retimer.Proofs.Registers.LastWriter

/-!
# Registers seen through a bus

What a bus answers is its own affair, and most of what is proved of the driver assumes nothing of
it. But where the part behind the bus is known to store what is written to it, there is more to
say: what its registers hold after the driver has been at work.

A `RegisterView` is a way of seeing a register file in a world. It says where the registers are,
under which circumstances they are seen, and that accesses there behave: a read leaves them alone
and answers, if it does, with what is there; a write stores, if it goes through, and otherwise
leaves them alone. Circumstances are part of it because registers may come and go from sight, as
those of one channel do with the channel select.

Any access may fail, in any pattern. Masked writes through a view are then those of them that went
through, carried out on the register file, and nothing else.

## Main results

* `RegisterView.applyAll`: tried writes come to those of them that went through
* `RegisterView.applyAll_of_faultless`: on a bus without faults all of them do
-/

namespace Retimer

open Bench (RegisterFile)

variable {σ η : Type} [Bus σ]

/-! ## Views -/

/-- A way of seeing a register file in a world. -/
structure RegisterView (σ : Type) [Bus σ] where
  /-- What the registers hold. -/
  file : σ → RegisterFile
  /-- Whether they are in sight. -/
  holds : σ → Prop
  /-- Where they are. -/
  reaches : UInt8 → Prop
  /-- Reading keeps the registers in sight, and changes none of them. -/
  readByte : ∀ {address : UInt8} {w : σ}, reaches address → holds w →
    holds (Bus.readByte address w).2 ∧ file (Bus.readByte address w).2 = file w
  /-- What is read is what is there. -/
  answer : ∀ {address value : UInt8} {w : σ}, reaches address → holds w →
    (Bus.readByte address w).1 = .ok value → value = (file w).get address
  /-- Writing keeps the registers in sight, and stores the byte if it goes through. -/
  writeByte : ∀ {address value : UInt8} {w : σ}, reaches address → holds w →
    holds (Bus.writeByte address value w).2 ∧
      file (Bus.writeByte address value w).2 =
        if (Bus.writeByte address value w).1.isOk then (file w).set address value else file w

/-- The writes of a list that went through, given how each of them went. -/
def MaskedWrite.succeeded (ms : List MaskedWrite) (outcomes : List (Except Failure Unit)) :
    List MaskedWrite :=
  ((ms.zip outcomes).filter (·.2.isOk)).map Prod.fst

theorem MaskedWrite.succeeded_subset (ms : List MaskedWrite)
    (outcomes : List (Except Failure Unit)) : succeeded ms outcomes ⊆ ms := by
  intro m hm
  obtain ⟨p, hp, rfl⟩ := List.mem_map.mp hm
  exact (List.of_mem_zip (List.mem_of_mem_filter hp)).1

namespace RegisterView

variable (V : RegisterView σ) {w w' : σ}

theorem stored {r : Register} {value : UInt8} {journal : List (Event η)}
    (hr : V.reaches r.address) (hw : V.holds w) (hstored : Stored r value journal)
    (hanswered : Answered w journal w') :
    V.holds w' ∧ V.file w' =
      if (verdict journal).isOk then (V.file w).set r.address value else V.file w := by
  have hwrite : V.holds (Bus.writeByte r.address value w).2 ∧
      V.file (Bus.writeByte r.address value w).2 =
        if (Bus.writeByte r.address value w).1.isOk then (V.file w).set r.address value
        else V.file w := V.writeByte hr hw
  cases hstored with
  | through =>
    obtain ⟨hok, rfl⟩ : .ok () = (Bus.writeByte r.address value w).1 ∧
      w' = (Bus.writeByte r.address value w).2 := hanswered
    rw [← hok] at hwrite
    exact hwrite
  | refused fault =>
    obtain ⟨herror, rfl⟩ : .error fault = (Bus.writeByte r.address value w).1 ∧
      w' = (Bus.writeByte r.address value w).2 := hanswered
    rw [← herror] at hwrite
    exact hwrite

/-- What a masked write does to the registers is told by its verdict. -/
theorem block {m : MaskedWrite} {journal : List (Event η)} (hm : V.reaches m.register.address)
    (hw : V.holds w) (hblock : m.Block journal) (hanswered : Answered w journal w') :
    V.holds w' ∧ V.file w' = if (verdict journal).isOk then m.store (V.file w) else V.file w := by
  cases hblock with
  | whole hmask hstored =>
    have h := V.stored hm hw hstored hanswered
    rwa [← m.merge_of_mask_eq hmask ((V.file w).get m.register.address)] at h
  | @merged rest prior hmask hstored =>
    obtain ⟨hanswer, hrest⟩ := hanswered
    obtain ⟨hholds, hfile⟩ := V.readByte hm hw
    obtain rfl := V.answer hm hw hanswer.symm
    have h := V.stored hm hholds hstored hrest
    have hverdict : verdict
        (.read m.register.address (.ok ((V.file w).get m.register.address)) :: rest) =
          verdict rest := rfl
    rw [hfile] at h
    rwa [hverdict]
  | unread fault hmask =>
    obtain ⟨-, rfl⟩ := hanswered
    exact V.readByte hm hw

/-- **Tried writes come to those of them that went through.** -/
theorem applyAll {ms : List MaskedWrite} (hms : ∀ m ∈ ms, V.reaches m.register.address)
    (hw : V.holds w) :
    V.holds ((MaskedWrite.applyAll ms : Action σ η _).run w).world ∧
      V.file ((MaskedWrite.applyAll ms : Action σ η _).run w).world =
        MaskedWrite.storeAll
          (MaskedWrite.succeeded ms ((MaskedWrite.applyAll ms : Action σ η _).run w).value)
          (V.file w) := by
  induction ms generalizing w with
  | nil => exact ⟨hw, rfl⟩
  | cons m ms ih =>
    obtain ⟨hm, hms⟩ := List.forall_mem_cons.mp hms
    obtain ⟨journal, w₁, hblock, hanswered, hrun⟩ := @MaskedWrite.apply_run σ η _ m w
    obtain ⟨hholds, hfile⟩ := V.block hm hw hblock hanswered
    obtain ⟨hholds', hfile'⟩ := ih hms hholds
    simp only [MaskedWrite.applyAll, Action.run_bind, hrun, Action.run_pure]
    refine ⟨hholds', ?_⟩
    rw [hfile', hfile, MaskedWrite.succeeded, MaskedWrite.succeeded, List.zip_cons_cons,
      List.filter_cons]
    split <;> rfl

end RegisterView

/-! ## Without faults -/

/-- A bus on which every access goes through. -/
def Faultless (σ : Type) [Bus σ] : Prop :=
  ∀ (address : UInt8) (w : σ), (Bus.readByte address w).1.isOk ∧
    ∀ value, (Bus.writeByte address value w).1.isOk

theorem Answered.not_failed (hσ : Faultless σ) {w w' : σ} {journal : List (Event η)}
    (h : Answered w journal w') : ∀ e ∈ journal, e.failed = false := by
  induction journal generalizing w with
  | nil => simp
  | cons e journal ih =>
    rw [List.forall_mem_cons]
    match e, h with
    | .read address answer, ⟨hanswer, hrest⟩ =>
      have hok := (hσ address w).1
      rw [← hanswer] at hok
      refine ⟨?_, ih hrest⟩
      cases answer with
      | ok value => rfl
      | error fault => cases hok
    | .write address value answer, ⟨hanswer, hrest⟩ =>
      have hok := (hσ address w).2 value
      rw [← hanswer] at hok
      refine ⟨?_, ih hrest⟩
      cases answer with
      | ok value => rfl
      | error fault => cases hok
    | .record entry, hrest => exact ⟨rfl, ih hrest⟩

theorem Answered.verdict_eq_ok (hσ : Faultless σ) {w w' : σ} {journal : List (Event η)}
    (h : Answered w journal w') : verdict journal = .ok () := by
  have hnone : journal.any Event.failed = false := by
    rw [List.any_eq_false]
    intro e he
    simp [h.not_failed hσ e he]
  simp [verdict, hnone]

theorem MaskedWrite.applyAll_of_faultless (hσ : Faultless σ) (ms : List MaskedWrite) (w : σ) :
    ((applyAll ms : Action σ η _).run w).value = ms.map fun _ => .ok () := by
  induction ms generalizing w with
  | nil => rfl
  | cons m ms ih =>
    obtain ⟨journal, w₁, hblock, hanswered, hrun⟩ := @apply_run σ η _ m w
    simp [applyAll, hrun, hanswered.verdict_eq_ok hσ, ih]

theorem MaskedWrite.succeeded_all (ms : List MaskedWrite) :
    succeeded ms (ms.map fun _ => .ok ()) = ms := by
  induction ms with
  | nil => rfl
  | cons m ms ih => exact congrArg (m :: ·) ih

/-- On a bus without faults, writes tried through a view are all carried out. -/
theorem RegisterView.applyAll_of_faultless (V : RegisterView σ) (hσ : Faultless σ)
    {ms : List MaskedWrite} (hms : ∀ m ∈ ms, V.reaches m.register.address) {w : σ}
    (hw : V.holds w) :
    V.holds ((MaskedWrite.applyAll ms : Action σ η _).run w).world ∧
      V.file ((MaskedWrite.applyAll ms : Action σ η _).run w).world =
        MaskedWrite.storeAll ms (V.file w) := by
  have h := @RegisterView.applyAll σ η _ V w ms hms hw
  rwa [MaskedWrite.applyAll_of_faultless hσ, MaskedWrite.succeeded_all] at h

end Retimer
