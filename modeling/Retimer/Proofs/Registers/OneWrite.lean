import Retimer.Proofs.MaskedWrite
import Retimer.Proofs.Registers.LastWriter

/-!
# One masked write

Everything that the driver changes on a part it changes by masked writes, one after the other. What
a single one comes to is settled by three things that could each go wrong on their own: which
accesses are made, what is sent, and what is recorded when an access fails. The bus may answer as it
likes, so there is no more to go by than the journal.

A write that covers its whole register does not read it first. That is a short cut, and a short cut
has to lead to the same place: where the read would have gone through and changed nothing, the world
is left as if it had been made and its answer merged in.

## Main results

* `MaskedWrite.Block.filter_onBus`: the accesses of a write that keeps some bits
* `MaskedWrite.Block.recordsOf_cases`: what it records, and why
* `MaskedWrite.apply_once`: both for any write on any bus, and where the short cut leads
-/

namespace Retimer

variable {σ η : Type}

/-! ## Storing a byte -/

section Stored

variable {r : Register} {value : UInt8} {journal : List (Event η)}

theorem Stored.filter_onBus (h : Stored r value journal) :
    ∃ answer, journal.filter Event.onBus = [.write r.address value answer] := by
  cases h with
  | through => exact ⟨.ok (), rfl⟩
  | refused fault => exact ⟨.error fault, rfl⟩

/-- A byte that is stored leaves a record exactly if it could not be. -/
theorem Stored.recordsOf_cases (h : Stored r value journal) :
    journal.any Event.failed = false ∧ recordsOf journal = [] ∨
      ∃ fault, .write r.address value (.error fault) ∈ journal ∧
        recordsOf journal = [.writeFailed r value fault] := by
  cases h with
  | through => exact .inl ⟨rfl, rfl⟩
  | refused fault => exact .inr ⟨fault, by simp, rfl⟩

/-- The world afterwards is what the one access makes of the world before. -/
theorem Stored.world_eq [Bus σ] (h : Stored r value journal) {w w' : σ}
    (hanswered : Answered w journal w') : w' = (Bus.writeByte r.address value w).2 := by
  cases h with
  | through => exact hanswered.2
  | refused fault => exact hanswered.2

end Stored

namespace MaskedWrite

/-! ## Blocks -/

section Block

variable {m : MaskedWrite} {journal : List (Event η)}

/-- A write that keeps some bits reads, and then writes if it was answered. -/
theorem Block.filter_onBus (h : m.Block journal) (hmask : m.mask ≠ fullMask) :
    (∃ fault, journal.filter Event.onBus = [.read m.register.address (.error fault)]) ∨
      ∃ prior answer, journal.filter Event.onBus =
        [.read m.register.address (.ok prior),
          .write m.register.address (m.merge prior) answer] := by
  cases h with
  | whole hwhole => exact absurd hwhole hmask
  | merged prior _ hstored =>
    obtain ⟨answer, hwrite⟩ := hstored.filter_onBus
    exact .inr ⟨prior, answer, by rw [List.filter_cons_of_pos rfl, hwrite]⟩
  | unread fault => exact .inl ⟨fault, rfl⟩

/-- A block leaves a record exactly if an access in it failed, and then of that access. -/
theorem Block.recordsOf_cases (h : m.Block journal) :
    journal.any Event.failed = false ∧ recordsOf journal = [] ∨
      (∃ fault, .read m.register.address (.error fault) ∈ journal ∧
        recordsOf journal = [.readFailed m.register fault]) ∨
      ∃ sent fault, .write m.register.address sent (.error fault) ∈ journal ∧
        recordsOf journal = [.writeFailed m.register sent fault] := by
  cases h with
  | whole _ hstored =>
    rcases hstored.recordsOf_cases with hsilent | ⟨fault, hmem, hrecords⟩
    · exact .inl hsilent
    · exact .inr (.inr ⟨_, fault, hmem, hrecords⟩)
  | merged prior _ hstored =>
    rcases hstored.recordsOf_cases with ⟨hnone, hrecords⟩ | ⟨fault, hmem, hrecords⟩
    · exact .inl ⟨by simpa [Event.failed] using hnone, hrecords⟩
    · exact .inr (.inr ⟨_, fault, List.mem_cons_of_mem _ hmem, hrecords⟩)
  | unread fault => exact .inr (.inl ⟨fault, by simp, rfl⟩)

end Block

/-! ## A write on any bus -/

/-- **One masked write, on any bus.** If the mask covers the register, the value is written and
nothing is read. Otherwise the register is read, and if that succeeds, what it holds outside the
mask is written back with the value inside it; if it does not, nothing is written. No other register
is touched. The write succeeds exactly if none of its accesses failed, and then leaves no record; if
one failed, it leaves a record of that one.

The read that is left out would have changed nothing. Where it would have gone through without an
effect of its own, the world is as if it had been made, and its answer merged in. -/
theorem apply_once [Bus σ] (m : MaskedWrite) (w : σ) :
    let address := m.register.address
    let merged (prior : UInt8) := (m.value &&& m.mask) ||| (prior &&& ~~~m.mask)
    let o := (m.apply : Attempt σ η Unit).run.run w
    Answered w o.journal o.world ∧
    (m.mask = fullMask →
      ∃ answer, o.journal.filter Event.onBus = [.write address m.value answer]) ∧
    (m.mask ≠ fullMask →
      (∃ fault, o.journal.filter Event.onBus = [.read address (.error fault)]) ∨
      ∃ prior answer, o.journal.filter Event.onBus =
        [.read address (.ok prior), .write address (merged prior) answer]) ∧
    o.value = (if o.journal.any Event.failed then .error .ioFailure else .ok ()) ∧
    (o.value = .ok () → recordsOf o.journal = []) ∧
    (o.value = .error .ioFailure →
      (∃ fault, .read address (.error fault) ∈ o.journal ∧
        recordsOf o.journal = [.readFailed m.register fault]) ∨
      ∃ sent fault, .write address sent (.error fault) ∈ o.journal ∧
        recordsOf o.journal = [.writeFailed m.register sent fault]) ∧
    (m.mask = fullMask → ∀ prior, Bus.readByte address w = (.ok prior, w) →
      o.world = (Bus.writeByte address (merged prior) (Bus.readByte address w).2).2) := by
  intro address merged o
  obtain ⟨journal, w', hblock, hanswered, hrun⟩ := @apply_run σ η _ m w
  have ho : o = ⟨verdict journal, w', journal⟩ := hrun
  rw [ho]
  refine ⟨hanswered, fun hmask => (hblock.stored hmask).filter_onBus, hblock.filter_onBus, rfl,
    fun hok => ?_, fun herror => ?_, fun hmask prior hread => ?_⟩
  · rcases hblock.recordsOf_cases with ⟨-, hrecords⟩ | ⟨fault, hmem, -⟩ | ⟨sent, fault, hmem, -⟩
    · exact hrecords
    · exact nomatch hok.symm.trans (verdict_of_failed (List.any_eq_true.mpr ⟨_, hmem, rfl⟩))
    · exact nomatch hok.symm.trans (verdict_of_failed (List.any_eq_true.mpr ⟨_, hmem, rfl⟩))
  · rcases hblock.recordsOf_cases with ⟨hnone, -⟩ | hfailed
    · simp [verdict, hnone] at herror
    · exact hfailed
  · have hmerged : merged prior = m.value := merge_of_mask_eq hmask prior
    rw [hread, hmerged]
    exact (hblock.stored hmask).world_eq hanswered

end MaskedWrite

end Retimer
