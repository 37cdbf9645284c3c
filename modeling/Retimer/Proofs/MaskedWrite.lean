import Mathlib.Data.List.Forall2
import Retimer.Proofs.Journal
import Retimer.Recipe

/-!
# What a masked write does on the bus

A bus may fail at any access, so a masked write can come to several things: a plain write, a read
and a write, a read alone, each with or without a record. `MaskedWrite.Block` lists them. It says
what stands in the journal and in which order, and it says it without reference to any bus.

That a masked write leaves one of its blocks is a statement about shape. `Answered` adds that the
answers in the block are the bus's own, and `verdict` that the outcome can be read off them. With
the three together, nothing that happens in a masked write is left open, and what follows here is
counted on the blocks.

## Main results

* `MaskedWrite.apply_run`: a masked write leaves one of its blocks, and reports what is in it
* `MaskedWrite.applyAll_run`: the writes of a list leave a block each, in order
* `MaskedWrite.Block.countP_isRead`, `MaskedWrite.Block.countP_isWrite`: the accesses of a block
* `MaskedWrite.Block.recordsOf_eq`: a block records its failures and nothing else
-/

namespace Retimer

variable {σ η : Type}

/-! ## Blocks -/

/-- What storing a byte in a register may leave: the write, and a record if it failed. -/
inductive Stored (r : Register) (value : UInt8) : List (Event η) → Prop
  /-- The write went through. -/
  | through : Stored r value [.write r.address value (.ok ())]
  /-- The write failed. -/
  | refused (fault : BusFault) :
    Stored r value [.write r.address value (.error fault), .record (.writeFailed r value fault)]

/-- What a masked write may leave. -/
inductive MaskedWrite.Block (m : MaskedWrite) : List (Event η) → Prop
  /-- The mask covers the register: its value is stored unread. -/
  | whole {journal : List (Event η)} (hmask : m.mask = fullMask)
    (hstored : Stored m.register m.value journal) : Block m journal
  /-- The register was read, and what it holds outside the mask is stored with the value. -/
  | merged {journal : List (Event η)} (prior : UInt8) (hmask : m.mask ≠ fullMask)
    (hstored : Stored m.register (m.merge prior) journal) :
    Block m (.read m.register.address (.ok prior) :: journal)
  /-- The register could not be read, and nothing is stored. -/
  | unread (fault : BusFault) (hmask : m.mask ≠ fullMask) :
    Block m [.read m.register.address (.error fault), .record (.readFailed m.register fault)]

/-- A write whose mask covers the register stores its value. -/
theorem MaskedWrite.Block.stored {m : MaskedWrite} {journal : List (Event η)}
    (h : m.Block journal) (hmask : m.mask = fullMask) : Stored m.register m.value journal := by
  cases h with
  | whole _ hstored => exact hstored
  | merged prior hpart hstored => exact absurd hmask hpart
  | unread fault hpart => exact absurd hmask hpart

/-! ## Running -/

section Run

variable [Bus σ]

theorem readRegister_run_ok {r : Register} {mask prior : UInt8} {w w' : σ}
    (h : Bus.readByte r.address w = (.ok prior, w')) :
    (readRegister r mask : Attempt σ η UInt8).run.run w =
      ⟨.ok (prior &&& mask), w', [.read r.address (.ok prior)]⟩ := by
  simp [readRegister, h]

/-- Nothing is masked off when a whole register is read. -/
theorem readRegister_run_whole {r : Register} {w w' : σ} {x : UInt8}
    (h : Bus.readByte r.address w = (.ok x, w')) :
    (readRegister r fullMask : Attempt σ η UInt8).run.run w =
      ⟨.ok x, w', [.read r.address (.ok x)]⟩ := by
  have hfull : x &&& fullMask = x := UInt8.and_neg_one
  rw [readRegister_run_ok h, hfull]

theorem readRegister_run_error {r : Register} {mask : UInt8} {fault : BusFault} {w w' : σ}
    (h : Bus.readByte r.address w = (.error fault, w')) :
    (readRegister r mask : Attempt σ η UInt8).run.run w =
      ⟨.error .ioFailure, w', [.read r.address (.error fault), .record (.readFailed r fault)]⟩ := by
  simp [readRegister, h, Failure.ofBusFault]

theorem storeRegister_run (r : Register) (value : UInt8) (w : σ) :
    ∃ (journal : List (Event η)) (w' : σ), Stored r value journal ∧ Answered w journal w' ∧
      (storeRegister r value : Attempt σ η Unit).run.run w = ⟨verdict journal, w', journal⟩ := by
  obtain ⟨answer, w', h⟩ : ∃ x w', Bus.writeByte r.address value w = (x, w') := ⟨_, _, rfl⟩
  cases answer with
  | ok _ =>
    refine ⟨_, w', .through, ?_, ?_⟩
    · simp [Answered, h]
    · simp [storeRegister, h, verdict, Event.failed]
  | error fault =>
    refine ⟨_, w', .refused fault, ?_, ?_⟩
    · simp [Answered, h]
    · simp [storeRegister, h, verdict, Event.failed, Failure.ofBusFault]

namespace MaskedWrite

theorem apply_of_mask_ne {m : MaskedWrite} (hmask : m.mask ≠ fullMask) :
    (m.apply : Attempt σ η Unit) = readRegister m.register (~~~m.mask) >>=
      fun kept => storeRegister m.register ((m.value &&& m.mask) ||| kept) := by
  simp [apply, compose, hmask]

/-- A masked write leaves one of its blocks, with the answers of the bus in it, and fails exactly
if an access in that block failed. -/
theorem apply_run (m : MaskedWrite) (w : σ) :
    ∃ (journal : List (Event η)) (w' : σ), m.Block journal ∧ Answered w journal w' ∧
      (m.apply : Attempt σ η Unit).run.run w = ⟨verdict journal, w', journal⟩ := by
  by_cases hmask : m.mask = fullMask
  · obtain ⟨journal, w', hstored, hanswered, hrun⟩ :=
      @storeRegister_run σ η _ m.register m.value w
    refine ⟨journal, w', .whole hmask hstored, hanswered, ?_⟩
    simpa [apply, compose, hmask] using hrun
  obtain ⟨answer, w₁, h⟩ : ∃ x w', Bus.readByte m.register.address w = (x, w') := ⟨_, _, rfl⟩
  cases answer with
  | ok prior =>
    obtain ⟨journal, w', hstored, hanswered, hrun⟩ :=
      @storeRegister_run σ η _ m.register (m.merge prior) w₁
    refine ⟨_, w', .merged prior hmask hstored, ?_, ?_⟩
    · simpa [Answered, h] using hanswered
    · rw [apply_of_mask_ne hmask, ExceptT.run_bind, Action.run_bind, readRegister_run_ok h]
      rw [merge] at hrun
      simp [hrun, verdict, Event.failed]
  | error fault =>
    refine ⟨_, w₁, .unread fault hmask, ?_, ?_⟩
    · simp [Answered, h]
    · rw [apply_of_mask_ne hmask, ExceptT.run_bind, Action.run_bind, readRegister_run_error h]
      simp [verdict, Event.failed]

/-- The journal of a masked write has the answers of the bus. -/
theorem apply_answered (m : MaskedWrite) (w : σ) :
    let o := (m.apply : Attempt σ η Unit).run.run w
    Answered w o.journal o.world := by
  obtain ⟨journal, w', -, hanswered, hrun⟩ := @apply_run σ η _ m w
  rwa [hrun]

/-- Every write of a list leaves a block, in the order of the list, and reports on its own block
alone. -/
theorem applyAll_run (ms : List MaskedWrite) (w : σ) :
    ∃ (blocks : List (List (Event η))) (w' : σ),
      List.Forall₂ Block ms blocks ∧ Answered w blocks.flatten w' ∧
      (applyAll ms : Action σ η _).run w = ⟨blocks.map verdict, w', blocks.flatten⟩ := by
  induction ms generalizing w with
  | nil => exact ⟨[], w, .nil, rfl, rfl⟩
  | cons m ms ih =>
    obtain ⟨block, w₁, hblock, hanswered, hrun⟩ := @apply_run σ η _ m w
    obtain ⟨blocks, w₂, hblocks, hanswereds, hruns⟩ := ih w₁
    refine ⟨block :: blocks, w₂, .cons hblock hblocks, hanswered.append hanswereds, ?_⟩
    simp [applyAll, hrun, hruns]

theorem applyAll_answered (ms : List MaskedWrite) (w : σ) :
    let o := (applyAll ms : Action σ η _).run w
    Answered w o.journal o.world := by
  obtain ⟨blocks, w', -, hanswered, hrun⟩ := @applyAll_run σ η _ ms w
  rwa [hrun]

theorem applyAll_append (ms ns : List MaskedWrite) (w : σ) :
    (applyAll (ms ++ ns) : Action σ η _).run w =
      let first := (applyAll ms : Action σ η _).run w
      let second := (applyAll ns : Action σ η _).run first.world
      ⟨first.value ++ second.value, second.world, first.journal ++ second.journal⟩ := by
  induction ms generalizing w with
  | nil => rfl
  | cons m ms ih => simp [applyAll, ih]

end MaskedWrite

end Run

/-! ## Writes in a block -/

theorem Stored.write_mem {r : Register} {value : UInt8} {journal : List (Event η)}
    (h : Stored r value journal) {address written : UInt8} {answer : Except BusFault Unit}
    (hmem : .write address written answer ∈ journal) : address = r.address ∧ written = value := by
  cases h <;> simp_all

/-- A block writes to its own register only, and what its mask covers in full it writes as it is. -/
theorem MaskedWrite.Block.write_mem {m : MaskedWrite} {journal : List (Event η)}
    (h : m.Block journal) {address written : UInt8} {answer : Except BusFault Unit}
    (hmem : .write address written answer ∈ journal) :
    address = m.register.address ∧ (m.mask = fullMask → written = m.value) := by
  cases h with
  | whole hmask hstored =>
    obtain ⟨haddress, hwritten⟩ := hstored.write_mem hmem
    exact ⟨haddress, fun _ => hwritten⟩
  | merged prior hmask hstored =>
    have hrest := (List.mem_cons.mp hmem).resolve_left nofun
    exact ⟨(hstored.write_mem hrest).1, fun h => absurd h hmask⟩
  | unread fault hmask => simp at hmem

/-! ## Counting -/

theorem Stored.countP_isRead {r : Register} {value : UInt8} {journal : List (Event η)}
    (h : Stored r value journal) : journal.countP Event.isRead = 0 := by
  cases h <;> rfl

theorem Stored.countP_isWrite {r : Register} {value : UInt8} {journal : List (Event η)}
    (h : Stored r value journal) : journal.countP Event.isWrite = 1 := by
  cases h <;> rfl

theorem Stored.countP_unread {r : Register} {value : UInt8} {journal : List (Event η)}
    (h : Stored r value journal) : journal.countP (fun e => e.isRead && e.failed) = 0 := by
  cases h <;> rfl

theorem Stored.length_faultsOf {r : Register} {value : UInt8} {journal : List (Event η)}
    (h : Stored r value journal) : (faultsOf journal).length = journal.countP Event.failed := by
  cases h with
  | through => rfl
  | refused fault => simp [faultsOf_cons, List.countP_cons, Event.failed]

theorem Stored.recordsOf_eq {r : Register} {value : UInt8} {journal : List (Event η)}
    (h : Stored r value journal) : recordsOf journal = faultsOf journal := by
  cases h with
  | through => rfl
  | refused fault => simp [faultsOf_cons, recordsOf, List.filterMap_cons, Event.record?]

namespace MaskedWrite.Block

variable {m : MaskedWrite} {journal : List (Event η)}

/-- A block reads once, unless the mask covers the register. -/
theorem countP_isRead (h : m.Block journal) :
    journal.countP Event.isRead = if m.mask = fullMask then 0 else 1 := by
  cases h with
  | whole hmask hstored => rw [if_pos hmask, hstored.countP_isRead]
  | merged prior hmask hstored =>
    rw [if_neg hmask, List.countP_cons_of_pos rfl, hstored.countP_isRead]
  | unread fault hmask => rw [if_neg hmask]; rfl

/-- A block writes once, unless it could not read. -/
theorem countP_isWrite (h : m.Block journal) :
    journal.countP Event.isWrite + journal.countP (fun e => e.isRead && e.failed) = 1 := by
  cases h with
  | whole hmask hstored => rw [hstored.countP_isWrite, hstored.countP_unread]
  | merged prior hmask hstored =>
    rw [List.countP_cons_of_neg (by simp [Event.isWrite]),
      List.countP_cons_of_neg (by simp [Event.failed]), hstored.countP_isWrite,
      hstored.countP_unread]
  | unread fault hmask => rfl

/-- Each failure in a block calls for a record. -/
theorem length_faultsOf (h : m.Block journal) :
    (faultsOf journal).length = journal.countP Event.failed := by
  cases h with
  | whole hmask hstored => exact hstored.length_faultsOf
  | merged prior hmask hstored =>
    rw [List.countP_cons_of_neg (by simp [Event.failed])]
    exact hstored.length_faultsOf
  | unread fault hmask => simp [faultsOf_cons, List.countP_cons, Event.failed]

/-- A block records its failures and nothing else. -/
theorem recordsOf_eq (h : m.Block journal) : recordsOf journal = faultsOf journal := by
  cases h with
  | whole hmask hstored => exact hstored.recordsOf_eq
  | merged prior hmask hstored => exact hstored.recordsOf_eq
  | unread fault hmask => simp [faultsOf_cons, recordsOf, List.filterMap_cons, Event.record?]

end MaskedWrite.Block

end Retimer
