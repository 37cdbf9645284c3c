import Retimer.Proofs.MaskedWrite

/-!
# Programming a channel, whatever the bus does

Programming goes on when an access fails: the part is to end up as far along as it can be brought.
What that means on a bus which may fail at any access, in any pattern, is said here by cutting the
journal into blocks. There is one block for each write of the recipe, in the order of the recipe,
and what happened in one block has no bearing on whether the next one is there.

The outcome carries one bit, and the journal decides it. So a caller who is told of a failure can
find in the records which accesses failed, and a caller who is told of none knows that none did.

## Main results

* `configure_tries_every_write`: the blocks of a recipe, their accesses, their records, and the
  outcome
-/

namespace Retimer

variable {σ η : Type}

/-! ## Blocks in a row -/

namespace MaskedWrite

variable {ms : List MaskedWrite} {blocks : List (List (Event η))}

/-- Each write whose mask leaves bits uncovered reads once. -/
theorem countP_isRead_flatten (h : List.Forall₂ Block ms blocks) :
    blocks.flatten.countP Event.isRead = ms.countP (·.mask ≠ fullMask) := by
  induction h with
  | nil => rfl
  | @cons m _ _ _ hblock _ ih =>
    rw [List.flatten_cons, List.countP_append, hblock.countP_isRead, ih, List.countP_cons]
    by_cases hmask : m.mask = fullMask <;> simp [hmask, Nat.add_comm]

/-- Each write is put on the bus, save those whose read failed. -/
theorem countP_isWrite_flatten (h : List.Forall₂ Block ms blocks) :
    blocks.flatten.countP Event.isWrite
      + blocks.flatten.countP (fun e => e.isRead && e.failed) = ms.length := by
  induction h with
  | nil => rfl
  | cons hblock _ ih =>
    have hone := hblock.countP_isWrite
    rw [List.flatten_cons, List.countP_append, List.countP_append, List.length_cons]
    omega

theorem length_faultsOf_flatten (h : List.Forall₂ Block ms blocks) :
    (faultsOf blocks.flatten).length = blocks.flatten.countP Event.failed := by
  induction h with
  | nil => rfl
  | cons hblock _ ih =>
    rw [List.flatten_cons, faultsOf_append, List.length_append, List.countP_append,
      hblock.length_faultsOf, ih]

theorem recordsOf_flatten (h : List.Forall₂ Block ms blocks) :
    recordsOf blocks.flatten = faultsOf blocks.flatten := by
  induction h with
  | nil => rfl
  | cons hblock _ ih =>
    rw [List.flatten_cons, recordsOf_append, faultsOf_append, hblock.recordsOf_eq, ih]

end MaskedWrite

/-- Every block reports that it went through exactly if the whole of them did. -/
theorem all_isOk_verdict (blocks : List (List (Event η))) :
    (blocks.map verdict).all Except.isOk = (verdict blocks.flatten).isOk := by
  induction blocks with
  | nil => rfl
  | cons block blocks ih =>
    rw [List.map_cons, List.all_cons, ih, List.flatten_cons, isOk_verdict, isOk_verdict,
      isOk_verdict, List.any_append, Bool.not_or]

/-! ## The recipe -/

/-- All but one write of a recipe leave bits of their register as they are. -/
theorem countP_mask_recipe (c : Channel) (rate : LineRate) :
    (recipe c rate).toList.countP (·.mask ≠ fullMask) = 12 := rfl

variable [Bus σ]

/-- Programming leaves the blocks of its recipe, and then a record of the success if there was
one. -/
theorem configure_run (c : Channel) (rate : LineRate) (w : σ) :
    ∃ (blocks : List (List (Event η))) (w' : σ),
      List.Forall₂ MaskedWrite.Block (recipe c rate).toList blocks ∧
      Answered w blocks.flatten w' ∧
      (configure c rate : Attempt σ η Unit).run.run w =
        ⟨verdict blocks.flatten, w', blocks.flatten ++
          if (verdict blocks.flatten).isOk then [.record (.configured c rate)] else []⟩ := by
  obtain ⟨blocks, w', hblocks, hanswered, hrun⟩ :=
    @MaskedWrite.applyAll_run σ η _ (recipe c rate).toList w
  refine ⟨blocks, w', hblocks, hanswered, ?_⟩
  rw [configure, ExceptT.run_mk, Action.run_bind, hrun, all_isOk_verdict]
  cases hany : blocks.flatten.any Event.failed <;> simp [verdict, hany, Except.isOk, Except.toBool]

/-- The journal of a programming has the answers of the bus. -/
theorem configure_answered (c : Channel) (rate : LineRate) (w : σ) :
    let o := (configure c rate : Attempt σ η Unit).run.run w
    Answered w o.journal o.world := by
  obtain ⟨blocks, w', -, hanswered, hrun⟩ := @configure_run σ η _ c rate w
  rw [hrun]
  refine hanswered.append ?_
  split <;> rfl

/-- What becomes of the world is up to the writes alone. -/
theorem configure_world (c : Channel) (rate : LineRate) (w : σ) :
    ((configure c rate : Attempt σ η Unit).run.run w).world =
      ((MaskedWrite.applyAll (recipe c rate).toList : Action σ η _).run w).world := by
  rw [configure, ExceptT.run_mk, Action.run_bind]
  split <;> rfl

/-- What is reported is up to the outcomes of the writes alone. -/
theorem configure_value_eq_ite (c : Channel) (rate : LineRate) (w : σ) :
    ((configure c rate : Attempt σ η Unit).run.run w).value =
      if ((MaskedWrite.applyAll (recipe c rate).toList : Action σ η _).run w).value.all Except.isOk
      then .ok () else .error .ioFailure := by
  rw [configure, ExceptT.run_mk, Action.run_bind]
  split <;> rfl

/-- After the writes of its recipe, programming accesses nothing. -/
theorem configure_last (c : Channel) (rate : LineRate) (w : σ) :
    let o := (configure c rate : Attempt σ η Unit).run.run w
    ∃ last : List (Event η),
      o.journal = ((MaskedWrite.applyAll (recipe c rate).toList : Action σ η _).run w).journal ++
        last ∧
      ∀ e ∈ last, ∀ r, e.accesses r = false := by
  intro o
  by_cases hall : (((MaskedWrite.applyAll (recipe c rate).toList : Action σ η _).run w).value.all
      Except.isOk) = true
  · refine ⟨[.record (.configured c rate)], ?_, by simp [Event.accesses]⟩
    simp only [o, configure, ExceptT.run_mk, Action.run_bind, if_pos hall]
    rfl
  · refine ⟨[], ?_, by simp⟩
    simp only [o, configure, ExceptT.run_mk, Action.run_bind, if_neg hall]
    rfl

/-- Programming reports what its journal shows. -/
theorem configure_value (c : Channel) (rate : LineRate) (w : σ) :
    let o := (configure c rate : Attempt σ η Unit).run.run w
    o.value = verdict o.journal := by
  obtain ⟨blocks, w', -, -, hrun⟩ := @configure_run σ η _ c rate w
  rw [hrun]
  cases hany : blocks.flatten.any Event.failed <;>
    simp [verdict, hany, Except.isOk, Except.toBool, Event.failed]

/-- **Programming tries every write.** On any bus, whatever it answers, the journal of a programming
is one block for each write of the recipe, in order: twelve reads, and a write for each of the
thirteen writes save those whose read failed. It succeeds exactly if no access failed, it records
each failure once and in order, and it records the success last. -/
theorem configure_tries_every_write (c : Channel) (rate : LineRate) (w : σ) :
    ∃ (o : Outcome σ η (Except Failure Unit)) (blocks : List (List (Event η))),
      (configure c rate : Attempt σ η Unit).run.run w = o ∧
      Answered w o.journal o.world ∧
      List.Forall₂ MaskedWrite.Block (recipe c rate).toList blocks ∧
      o.journal = blocks.flatten
        ++ (if o.value.isOk then [.record (.configured c rate)] else []) ∧
      o.journal.countP Event.isRead = 12 ∧
      o.journal.countP Event.isWrite = 13 - o.journal.countP (fun e => e.isRead && e.failed) ∧
      o.value = (if o.journal.any Event.failed then .error .ioFailure else .ok ()) ∧
      (faultsOf o.journal).length = o.journal.countP Event.failed ∧
      recordsOf o.journal =
        faultsOf o.journal ++ (if o.value.isOk then [.configured c rate] else []) := by
  obtain ⟨blocks, w', hblocks, hanswered, hrun⟩ := @configure_run σ η _ c rate w
  have hreads := MaskedWrite.countP_isRead_flatten hblocks
  have hwrites := MaskedWrite.countP_isWrite_flatten hblocks
  have hfaults := MaskedWrite.length_faultsOf_flatten hblocks
  have hrecords := MaskedWrite.recordsOf_flatten hblocks
  rw [countP_mask_recipe] at hreads
  rw [Vector.length_toList, recipeLength] at hwrites
  refine ⟨_, blocks, hrun, ?_⟩
  cases hany : blocks.flatten.any Event.failed with
  | true =>
    have hverdict : verdict blocks.flatten = .error .ioFailure := by simp [verdict, hany]
    simp only [hverdict, Except.isOk, Except.toBool, Bool.false_eq_true, if_false, List.append_nil,
      hany, if_true, hrecords]
    exact ⟨hanswered, hblocks, trivial, hreads, by omega, trivial, hfaults, trivial⟩
  | false =>
    have hverdict : verdict blocks.flatten = .ok () := by simp [verdict, hany]
    have hdone : Answered w' [(.record (.configured c rate) : Event η)] w' := rfl
    simp only [hverdict, Except.isOk, Except.toBool, if_true]
    refine ⟨hanswered.append hdone, hblocks, trivial, ?_, ?_, ?_, ?_, ?_⟩
    · rw [List.countP_append, hreads]; rfl
    · rw [List.countP_append, List.countP_append]
      exact Nat.eq_sub_of_add_eq hwrites
    · simp [List.any_append, hany, Event.failed]
    · rw [faultsOf_append, List.length_append, hfaults, List.countP_append]; rfl
    · rw [recordsOf_append, faultsOf_append, hrecords, List.append_assoc]; rfl

end Retimer
