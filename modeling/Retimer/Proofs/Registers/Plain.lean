import Retimer.Bench.Board
import Retimer.Bench.Faulty
import Retimer.Proofs.Programming
import Retimer.Proofs.Registers.View

/-!
# Plain registers behind a bus that fails

A recipe goes to the same register several times, each time for other bits. Every step but one
reads first, and so depends on what the steps before it left there. On a bus that fails now and
then some of those steps are missing, and what the later ones read is what the others left.

None of this is as entangled as it looks. On a part whose registers are plain bytes, a step either
goes through and decides the bits that its mask covers, or does not and decides none. It makes no
difference to that which of its accesses failed, or whether it had to read at all. So each bit ends
as the last step that went through left it.

`Plain` says of a world that there are such registers in it. Nothing is said of when an access
fails: that may depend on all that happened before.

## Main results

* `MaskedWrite.apply_file`: a masked write is carried out as a whole, or not at all
* `MaskedWrite.applyAll_bitwise`: each bit is as the last write left it that covers it and went
  through
-/

namespace Retimer

open Bench (RegisterFile SimulatedPart Faulty Board)

variable {σ η : Type}

/-! ## Worlds with plain registers -/

/-- There is a register at each address in the world, and accesses to them may fail. -/
class Plain (σ : Type) [Bus σ] where
  /-- What the registers hold. -/
  file : σ → RegisterFile
  /-- A read changes no register, and answers, if it does, with what is there. -/
  readByte : ∀ (address : UInt8) (w : σ), file (Bus.readByte address w).2 = file w ∧
    ∀ value, (Bus.readByte address w).1 = .ok value → value = (file w).get address
  /-- A write stores the byte if it goes through, and otherwise changes no register. -/
  writeByte : ∀ (address value : UInt8) (w : σ), file (Bus.writeByte address value w).2 =
    if (Bus.writeByte address value w).1.isOk then (file w).set address value else file w

instance : Plain SimulatedPart where
  file part := part.registers
  readByte address part := by
    by_cases h : address ∈ part.unreadable
    · simp [Bus.readByte, h, SimulatedPart.remember]
    · simp [Bus.readByte, h, SimulatedPart.remember, eq_comm]
  writeByte address value part := by
    by_cases h : address ∈ part.unwritable
    · simp [Bus.writeByte, h, SimulatedPart.remember, Except.isOk, Except.toBool]
    · simp [Bus.writeByte, h, SimulatedPart.remember, SimulatedPart.holding, Except.isOk,
        Except.toBool]

instance {β : Type} [Bus β] [Plain β] : Plain (Faulty β) where
  file w := Plain.file w.part
  readByte address w := by
    cases hf : w.fault? (.read address) with
    | some fault =>
      rw [Faulty.readByte_of_fault hf]
      exact ⟨rfl, nofun⟩
    | none =>
      rw [Faulty.readByte_of_none hf]
      exact Plain.readByte address w.part
  writeByte address value w := by
    cases hf : w.fault? (.write address value) with
    | some fault =>
      rw [Faulty.writeByte_of_fault hf]
      rfl
    | none =>
      rw [Faulty.writeByte_of_none hf]
      exact Plain.writeByte address value w.part

instance {β φ : Type} [Bus β] [Plain β] : Plain (Board β φ) where
  file w := Plain.file w.bus
  readByte address w := Plain.readByte address w.bus
  writeByte address value w := Plain.writeByte address value w.bus

variable [Bus σ] [Plain σ]

open Plain (file)

/-- All registers, which are always in sight. -/
def plainView (σ : Type) [Bus σ] [Plain σ] : RegisterView σ where
  file := file
  holds _ := True
  reaches _ := True
  readByte _ _ := ⟨trivial, (Plain.readByte _ _).1⟩
  answer _ _ := (Plain.readByte _ _).2 _
  writeByte _ _ := ⟨trivial, Plain.writeByte _ _ _⟩

/-! ## One write -/

namespace MaskedWrite

/-- What a block does to the registers is told by its verdict. -/
theorem Block.file_eq {m : MaskedWrite} {journal : List (Event η)} {w w' : σ}
    (h : m.Block journal) (hanswered : Answered w journal w') :
    file w' = if (verdict journal).isOk then m.store (file w) else file w :=
  ((plainView σ).block trivial trivial h hanswered).2

/-- **A masked write is carried out as a whole, or not at all**, and it reports which. -/
theorem apply_file (m : MaskedWrite) (w : σ) :
    let o := (m.apply : Attempt σ η Unit).run.run w
    o.value = verdict o.journal ∧
      file o.world = if o.journal.any Event.failed then file w else m.store (file w) := by
  obtain ⟨journal, w', hblock, hanswered, hrun⟩ := @apply_run σ η _ m w
  rw [hrun]
  refine ⟨rfl, ?_⟩
  have hfile := hblock.file_eq hanswered
  rw [isOk_verdict] at hfile
  cases hany : journal.any Event.failed <;> simpa [hany] using hfile

/-! ## Several in turn -/

/-- Tried writes come to those of them that went through. -/
theorem applyAll_file (ms : List MaskedWrite) (w : σ) :
    let o := (applyAll ms : Action σ η _).run w
    file o.world = storeAll (succeeded ms o.value) (file w) :=
  ((plainView σ).applyAll (fun _ _ => trivial) trivial).2

/-- What each write of a list comes to, carried out on what those before it left. -/
def attempts : List MaskedWrite → σ → List (Outcome σ η (Except Failure Unit))
  | [], _ => []
  | m :: ms, w =>
    let step := (m.apply : Attempt σ η Unit).run.run w
    step :: attempts ms step.world

/-- The writes of a list that no access failed in, given what each of them came to. -/
def unfailed (ms : List MaskedWrite) (steps : List (Outcome σ η (Except Failure Unit))) :
    List MaskedWrite :=
  ((ms.zip steps).filter fun p => !p.2.journal.any Event.failed).map Prod.fst

section

omit [Plain σ]

theorem applyAll_eq_attempts (ms : List MaskedWrite) (w : σ) :
    let steps : List (Outcome σ η (Except Failure Unit)) := attempts ms w
    ((applyAll ms : Action σ η _).run w).value = steps.map Outcome.value ∧
      ((applyAll ms : Action σ η _).run w).journal = steps.flatMap Outcome.journal := by
  induction ms generalizing w with
  | nil => exact ⟨rfl, rfl⟩
  | cons m ms ih =>
    obtain ⟨hvalue, hjournal⟩ := ih ((m.apply : Attempt σ η Unit).run.run w).world
    simp [applyAll, attempts, hvalue, hjournal]

theorem attempts_getElem? (before : List MaskedWrite) (m : MaskedWrite)
    (after : List MaskedWrite) (w : σ) :
    (attempts (before ++ m :: after) w)[before.length]? =
      some ((m.apply : Attempt σ η Unit).run.run
        ((applyAll before : Action σ η _).run w).world) := by
  induction before generalizing w with
  | nil => rfl
  | cons n before ih =>
    simp only [List.cons_append, attempts, List.length_cons, List.getElem?_cons_succ, ih]
    rfl

theorem value_of_mem_attempts {ms : List MaskedWrite} {w : σ}
    {step : Outcome σ η (Except Failure Unit)} (h : step ∈ attempts ms w) :
    step.value = verdict step.journal := by
  induction ms generalizing w with
  | nil => cases h
  | cons m ms ih =>
    rcases List.mem_cons.mp h with rfl | h
    · obtain ⟨journal, w', -, -, hrun⟩ := @apply_run σ η _ m w
      rw [hrun]
    · exact ih h

/-- The writes that report a success are those that no access failed in. -/
theorem succeeded_eq_unfailed (ms : List MaskedWrite) (w : σ) :
    succeeded ms ((attempts ms w : List (Outcome σ η _)).map Outcome.value) =
      unfailed ms (attempts ms w : List (Outcome σ η _)) := by
  rw [succeeded, unfailed, List.zip_map_right, List.filter_map, List.map_map]
  refine congrArg (List.map Prod.fst) (List.filter_congr ?_)
  intro p hp
  have hvalue := value_of_mem_attempts (List.of_mem_zip hp).2
  simp [hvalue, isOk_verdict]

end

/-- **Each bit is as the last write left it that covers it and went through.**

Take any writes, carried out in turn on plain registers whatever becomes of them, where accesses
fail in any pattern. The journal has the answers of the bus, and so has the part of it that each
write leaves. A write reports a success exactly if none of its own accesses failed. A bit of
a register is then what the last write to say so says that covers it, and if there is none, it is
as it was. And step by step, a write whose access failed changes no register, while one that went
through makes of the registers what its mask and value say, whether or not it had to read first. -/
theorem applyAll_bitwise (ms : List MaskedWrite) (w : σ) :
    let o := (applyAll ms : Action σ η _).run w
    let steps : List (Outcome σ η (Except Failure Unit)) := attempts ms w
    Answered w o.journal o.world ∧
    o.value = steps.map Outcome.value ∧ o.journal = steps.flatMap Outcome.journal ∧
    (∀ step ∈ steps,
      step.value = if step.journal.any Event.failed then .error .ioFailure else .ok ()) ∧
    (∀ address i, i < 8 → bitAt ((file o.world).get address) i =
      (lastWriter? (unfailed ms steps) address i).elim (bitAt ((file w).get address) i)
        fun m => bitAt m.value i) ∧
    ∀ before m after, ms = before ++ m :: after →
      let w' := ((applyAll before : Action σ η _).run w).world
      let step := (m.apply : Attempt σ η Unit).run.run w'
      steps[before.length]? = some step ∧ Answered w' step.journal step.world ∧
        file step.world = if step.journal.any Event.failed then file w' else m.store (file w') := by
  intro o steps
  obtain ⟨hvalue, hjournal⟩ := @applyAll_eq_attempts σ η _ ms w
  refine ⟨applyAll_answered ms w, hvalue, hjournal, fun step hstep => value_of_mem_attempts hstep,
    ?_, ?_⟩
  · intro address i hi
    have hfile : file o.world = storeAll (unfailed ms steps) (file w) := by
      rw [← succeeded_eq_unfailed, ← hvalue]
      exact applyAll_file ms w
    rw [hfile]
    exact bitAt_storeAll _ _ _ hi
  · rintro before m after rfl
    exact ⟨attempts_getElem? before m after w, m.apply_answered _, (apply_file m _).2⟩

end MaskedWrite

end Retimer
