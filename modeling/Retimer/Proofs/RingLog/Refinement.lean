import Mathlib.Algebra.Group.Nat.Defs
import Retimer.Proofs.RingLog.Rotation
import Retimer.RingLog.Run

/-!
# A ring log keeps the latest runs

A ring of `n` slots cannot hold a history, only the end of one. What it holds is said here against
the runs of the sequence that was recorded, which know nothing of slots: the ring shows the last
`n` runs, or all of them if there are fewer, oldest to newest, and each as long as it was.

The invariant is about the rotated order. There the slots that were never written come first, and
then the latest runs; `Holds` is that equation together with the place of the latest slot. An entry
that joins a run changes the last slot and the last run, and an entry that starts one drops the
first slot and adds a run, so one step of recording is one step of `Run.extend`. All that a reader
can ask is then read off the invariant.

## Main results

* `RingLog.Holds.record`: recording keeps the invariant
* `RingLog.tryRecordEach_keeps_latest_runs`: what a ring shows after any sequence of entries
-/

namespace Retimer

variable {α : Type} {n : Nat}

/-! ## Runs in slots -/

/-- What a slot tells of a run. -/
def Slot.run (s : Slot α) : Run α := ⟨s.line, s.payload, s.count.toNat⟩

namespace Run

/-- A run can be told by a slot: it has an entry, and its length fits in a count. -/
def Fits (r : Run α) : Prop := 0 < r.length ∧ r.length ≤ maxLength

/-- The slot that holds run number `j` in a ring of `n`. -/
def slot (n j : Nat) (r : Run α) : Slot α :=
  ⟨r.line, .ofNat (j / n + 1), .ofNat r.length, r.payload⟩

/-- The slots that would hold some runs if none was overwritten. -/
def placed (n : Nat) (rs : List (Run α)) : List (Slot α) := rs.mapIdx fun j r => r.slot n j

theorem placed_concat (rs : List (Run α)) (r : Run α) :
    placed n (rs ++ [r]) = placed n rs ++ [r.slot n rs.length] := List.mapIdx_concat

theorem length_placed (rs : List (Run α)) : (placed n rs).length = rs.length := List.length_mapIdx

theorem Fits.toNat_ofNat_length {r : Run α} (h : r.Fits) :
    (UInt32.ofNat r.length).toNat = r.length := by
  have hmax : maxLength < UInt32.size := by decide
  exact UInt32.toNat_ofNat_of_lt' (Nat.lt_of_le_of_lt h.2 hmax)

theorem Fits.run_slot {r : Run α} (h : r.Fits) (j : Nat) : (r.slot n j).run = r := by
  rw [slot, Slot.run, h.toNat_ofNat_length]

theorem Fits.count_slot_ne {r : Run α} (h : r.Fits) (j : Nat) : (r.slot n j).count ≠ 0 := by
  intro hzero
  have hcount : (r.slot n j).count.toNat = r.length := h.toNat_ofNat_length
  rw [hzero] at hcount
  exact Nat.ne_of_lt h.1 hcount

theorem bump_slot (r : Run α) (j : Nat) : (r.slot n j).bump = r.lengthen.slot n j := by
  simp [slot, Slot.bump, lengthen, UInt32.ofNat_add]

theorem map_run_placed {rs : List (Run α)} (h : ∀ r ∈ rs, r.Fits) :
    (placed n rs).map Slot.run = rs := by
  refine List.ext_getElem (by simp [placed]) ?_
  intro j hj hj'
  have hfits : rs[j].Fits := h _ (List.getElem_mem hj')
  simp only [placed, List.getElem_map, List.getElem_mapIdx]
  exact hfits.run_slot j

variable [BEq α]

/-- An entry joins the slot of a run exactly if it belongs to the run. -/
theorem Fits.joins_slot {r : Run α} (h : r.Fits) (j : Nat) (line : UInt16) (payload : α) :
    (r.slot n j).joins line payload = r.takes line payload := by
  have hcount : (r.slot n j).count.toNat = r.length := h.toNat_ofNat_length
  have hroom : r.length + 1 < UInt32.size ↔ r.length < maxLength := by
    rw [maxLength, UInt32.size]; omega
  rw [Slot.joins, takes, hcount, decide_eq_decide.mpr hroom]
  rfl

/-- Every run of a sequence can be told by a slot. -/
theorem fits_extend {rs : List (Run α)} (h : ∀ r ∈ rs, r.Fits) (line : UInt16) (payload : α) :
    ∀ r ∈ extend rs line payload, r.Fits := by
  have hsingle : (single line payload).Fits :=
    ⟨Nat.one_pos, show 1 ≤ maxLength by decide⟩
  cases hr : rs.getLast? with
  | none =>
    rw [List.getLast?_eq_none_iff.mp hr]
    simpa [extend] using hsingle
  | some r =>
    obtain ⟨init, rfl⟩ := List.getLast?_eq_some_iff.mp hr
    rw [List.forall_mem_append, List.forall_mem_singleton] at h
    by_cases htakes : r.takes line payload
    · have hroom : r.length < maxLength := by simp_all [takes]
      rw [extend_of_takes init htakes, List.forall_mem_append, List.forall_mem_singleton]
      exact ⟨h.1, Nat.succ_pos _, hroom⟩
    · rw [extend_of_not_takes (by simpa using htakes), List.forall_mem_append,
        List.forall_mem_append, List.forall_mem_singleton, List.forall_mem_singleton]
      exact ⟨h, hsingle⟩

end Run

namespace RingLog

/-! ## What a ring shows of some runs -/

/-- A log in which nothing was recorded, whatever its slots are filled with. -/
def ofPayloads (payloads : Vector α n) : RingLog α n := ⟨none, payloads.map .blank⟩

/-- The slots of a ring that was to hold some runs, in the order in which they are overwritten:
those that were never written, and then those of the latest runs. -/
def shown (payloads : Vector α n) (rs : List (Run α)) : List (Slot α) :=
  (payloads.toList.drop rs.length).map .blank ++ (Run.placed n rs).drop (rs.length - n)

/-- A further run takes the place of the first slot, at the end. -/
theorem shown_concat (hn : 0 < n) (payloads : Vector α n) (rs : List (Run α)) (r : Run α) :
    shown payloads (rs ++ [r]) = (shown payloads rs).tail ++ [r.slot n rs.length] := by
  have hplaced : (Run.placed n (rs ++ [r])).drop (rs.length + 1 - n) =
      (Run.placed n rs).drop (rs.length + 1 - n) ++ [r.slot n rs.length] := by
    rw [Run.placed_concat, List.drop_append_of_le_length (by rw [Run.length_placed]; omega)]
  rw [shown, List.length_append, List.length_singleton, hplaced, ← List.append_assoc]
  refine congrArg (· ++ _) ?_
  rcases Nat.lt_or_ge rs.length n with hlt | hge
  · have hlt' : rs.length < payloads.toList.length := by simpa using hlt
    have hdrop := List.drop_eq_getElem_cons hlt'
    rw [shown, hdrop, show rs.length + 1 - n = 0 by omega, show rs.length - n = 0 by omega]
    rfl
  · have hdrop : ∀ k, n ≤ k → payloads.toList.drop k = [] := by
      intro k hk
      exact List.drop_of_length_le (by simpa using hk)
    rw [shown, hdrop rs.length hge, hdrop (rs.length + 1) (by omega), List.map_nil,
      List.nil_append, List.nil_append, List.tail_drop,
      show rs.length - n + 1 = rs.length + 1 - n by omega]

/-- The first slot was opened once less than it will have been when the next run is in it. -/
theorem generation_of_shown (hn : 0 < n) {payloads : Vector α n} {rs : List (Run α)} {s : Slot α}
    {rest : List (Slot α)} (h : shown payloads rs = s :: rest) :
    s.generation + 1 = .ofNat (rs.length / n + 1) := by
  -- Until the ring has gone round once the first slot is blank, and then it has a run in it.
  rcases Nat.lt_or_ge rs.length n with hlt | hge
  · have hlt' : rs.length < payloads.toList.length := by simpa using hlt
    rw [shown, List.drop_eq_getElem_cons hlt'] at h
    have hs : .blank payloads.toList[rs.length] = s := (List.cons.inj h).1
    rw [← hs, Nat.div_eq_of_lt hlt]
    rfl
  · have hdrop : payloads.toList.drop rs.length = [] :=
      List.drop_of_length_le (by simpa using hge)
    have hindex : rs.length - n < (Run.placed n rs).length := by
      rw [Run.length_placed]
      omega
    rw [shown, hdrop, List.map_nil, List.nil_append, List.drop_eq_getElem_cons hindex] at h
    have hs : (Run.placed n rs)[rs.length - n] = s := (List.cons.inj h).1
    rw [← hs, Nat.div_eq_sub_div hn hge]
    simp [Run.placed, Run.slot, UInt16.ofNat_add]

/-! ## The invariant -/

/-- A log holds the end of a sequence of runs. -/
structure Holds (payloads : Vector α n) (log : RingLog α n) (rs : List (Run α)) : Prop where
  /-- The latest run is where it belongs. -/
  last_eq : log.last = if rs.length = 0 then none else some ((rs.length - 1) % n)
  /-- The slots are those of the latest runs. -/
  rotated_eq : log.rotated = shown payloads rs
  /-- Every run can be told by a slot. -/
  fits : ∀ r ∈ rs, r.Fits

theorem holds_ofPayloads (payloads : Vector α n) : Holds payloads (ofPayloads payloads) [] := by
  refine ⟨rfl, ?_, by simp⟩
  have hlength : (payloads.map Slot.blank).toList.length = n := Vector.length_toList
  rw [ofPayloads, rotated, split, List.drop_of_length_le (Nat.le_of_eq hlength),
    List.take_of_length_le (Nat.le_of_eq hlength)]
  simp [shown, Run.placed, Vector.toList_map]

namespace Holds

variable {payloads : Vector α n} {log : RingLog α n} {rs : List (Run α)}

/-- The next slot is where the next run belongs. -/
theorem next_eq (h : Holds payloads log rs) (hn : 0 < n) : log.next = rs.length % n := by
  have hlast := h.last_eq
  cases hk : rs.length with
  | zero =>
    rw [hk, if_pos rfl] at hlast
    simp [next, hlast]
  | succ m =>
    rw [hk, if_neg (Nat.succ_ne_zero m), Nat.add_sub_cancel] at hlast
    have hm := Nat.mod_lt m hn
    rw [← Nat.mod_add_mod]
    by_cases hnext : m % n + 1 < n
    · simp [next, hlast, hnext, Nat.mod_eq_of_lt hnext]
    · have hwrap : m % n + 1 = n := by omega
      simp [next, hlast, hwrap]

/-- The latest slot holds the latest run. -/
theorem latest_eq (h : Holds payloads log rs) (hn : 0 < n) :
    log.latest = rs.getLast?.map (Run.slot n (rs.length - 1)) := by
  have hlast := h.last_eq
  cases hr : rs.getLast? with
  | none =>
    rw [List.getLast?_eq_none_iff.mp hr, List.length_nil, if_pos rfl] at hlast
    rw [latest, hlast]
    rfl
  | some r =>
    obtain ⟨init, rfl⟩ := List.getLast?_eq_some_iff.mp hr
    have hlength : (init ++ [r]).length = init.length + 1 := List.length_append
    have hi : init.length % n < n := Nat.mod_lt _ hn
    rw [hlength, if_neg (by omega)] at hlast
    rw [latest, hlast, Option.bind_some, hlength, Nat.add_sub_cancel, Vector.getElem?_eq_getElem hi]
    have hrotated := h.rotated_eq
    rw [rotated_of_last hlast hi, shown_concat hn] at hrotated
    exact congrArg some (List.append_singleton_inj.mp hrotated).2

/-- A reader finds the latest runs, oldest to newest. -/
theorem entries_eq (h : Holds payloads log rs) :
    log.entries = (Run.placed n rs).drop (rs.length - n) := by
  have hblank : ((payloads.toList.drop rs.length).map Slot.blank).filter (·.count != 0) = [] := by
    rw [List.filter_eq_nil_iff, List.forall_mem_map]
    intro _ _
    simp [Slot.blank]
  have hplaced : ∀ s ∈ (Run.placed n rs).drop (rs.length - n), s.count != 0 := by
    intro s hs
    obtain ⟨j, hj, rfl⟩ := List.mem_mapIdx.mp (List.mem_of_mem_drop hs)
    exact bne_iff_ne.mpr ((h.fits _ (List.getElem_mem hj)).count_slot_ne j)
  rw [entries, h.rotated_eq, shown, List.filter_append, hblank, List.nil_append,
    List.filter_eq_self.mpr hplaced]

theorem map_run_entries (h : Holds payloads log rs) :
    log.entries.map Slot.run = rs.drop (rs.length - n) := by
  rw [h.entries_eq, List.map_drop, Run.map_run_placed h.fits]

theorem map_run_latest (h : Holds payloads log rs) (hn : 0 < n) :
    log.latest.map Slot.run = rs.getLast? := by
  rw [h.latest_eq hn]
  cases hr : rs.getLast? with
  | none => rfl
  | some r => exact congrArg some ((h.fits r (List.mem_of_getLast? hr)).run_slot _)

/-- A run that is still held is in the slot of its number. -/
theorem getElem?_slots (h : Holds payloads log rs) (hn : 0 < n) {j : Nat} (hj : j < rs.length)
    (hheld : rs.length ≤ j + n) : log.slots[j % n]? = some (rs[j].slot n j) := by
  have hi : j + n - rs.length < n := by omega
  have hplace : (j + n - rs.length + log.next) % n = j % n := by
    rw [h.next_eq hn, Nat.add_mod_mod, Nat.sub_add_cancel hheld, Nat.add_mod_right]
  have hblank : ((payloads.toList.drop rs.length).map Slot.blank).length ≤ j + n - rs.length := by
    rw [List.length_map, List.length_drop, Vector.length_toList]
    omega
  rw [← hplace, ← log.getElem?_rotated hi, h.rotated_eq, shown, List.getElem?_append_right hblank,
    List.getElem?_drop, List.length_map, List.length_drop, Vector.length_toList,
    show rs.length - n + (j + n - rs.length - (n - rs.length)) = j by omega]
  simp [Run.placed, hj]

variable [BEq α]

/-- **Recording keeps the invariant**: one more entry in the log is one more entry in the runs. -/
theorem record (h : Holds payloads log rs) (hn : 0 < n) (line : UInt16) (payload : α) :
    Holds payloads (log.record hn line payload) (Run.extend rs line payload) := by
  have hfits := Run.fits_extend h.fits line payload
  cases log.record_step hn line payload with
  | joined rest s hlatest hjoins hbefore hafter hlast =>
    rw [h.latest_eq hn] at hlatest
    obtain ⟨r, hr, rfl⟩ := Option.map_eq_some_iff.mp hlatest
    obtain ⟨init, rfl⟩ := List.getLast?_eq_some_iff.mp hr
    have htakes : r.takes line payload := by
      rwa [(h.fits r (List.mem_of_getLast? hr)).joins_slot] at hjoins
    rw [Run.extend_of_takes init htakes] at hfits ⊢
    refine ⟨?_, ?_, hfits⟩
    · rw [hlast, h.last_eq]
      simp
    · rw [h.rotated_eq, shown_concat hn] at hbefore
      have hrest := (List.append_singleton_inj.mp hbefore).1
      rw [hafter, shown_concat hn, hrest, Run.bump_slot]
      simp
  | opened s rest hlatest hbefore hafter hlast =>
    have hnot : ∀ r, rs.getLast? = some r → ¬r.takes line payload := by
      intro r hr htakes
      have hslot : log.latest = some (r.slot n (rs.length - 1)) := by
        rw [h.latest_eq hn, hr]
        rfl
      refine hlatest _ hslot ?_
      rwa [(h.fits r (List.mem_of_getLast? hr)).joins_slot]
    rw [Run.extend_of_not_takes hnot] at hfits ⊢
    rw [h.rotated_eq] at hbefore
    refine ⟨?_, ?_, hfits⟩
    · rw [hlast, h.next_eq hn]
      simp
    · have hgeneration := generation_of_shown hn hbefore
      rw [hafter, shown_concat hn, hbefore, Slot.renew, hgeneration]
      rfl

end Holds

/-! ## Sequences of entries -/

variable [BEq α]

/-- Records entries in turn, each from its line. -/
def tryRecordEach (log : RingLog α n) (es : List (UInt16 × α)) : Except IndexError (RingLog α n) :=
  es.foldlM (fun log e => log.tryRecord e.1 e.2) log

/-- A ring with a slot refuses nothing. -/
theorem tryRecord_eq_ok (log : RingLog α n) (hn : 0 < n) (line : UInt16) (payload : α) :
    log.tryRecord line payload = .ok (log.record hn line payload) := by
  rw [tryRecord, dif_pos hn]

theorem exists_holds_tryRecordEach (hn : 0 < n) (payloads : Vector α n)
    (es : List (UInt16 × α)) :
    ∃ log, (ofPayloads payloads).tryRecordEach es = .ok log ∧
      Holds payloads log (Run.ofEntries es) := by
  induction es using List.reverseRecOn with
  | nil => exact ⟨_, rfl, holds_ofPayloads payloads⟩
  | append_singleton es e ih =>
    obtain ⟨log, hlog, h⟩ := ih
    refine ⟨log.record hn e.1 e.2, ?_, ?_⟩
    · rw [tryRecordEach, List.foldlM_append, ← tryRecordEach, hlog]
      exact congrArg (· >>= pure) (log.tryRecord_eq_ok hn e.1 e.2)
    · rw [Run.ofEntries_concat]
      exact h.record hn e.1 e.2

/-- **A ring keeps the latest runs.** After any sequence of entries, recorded in a ring whose slots
were never written, a reader finds the last `n` runs of the sequence, oldest to newest. The latest
slot is that of the last run, and a run still held lies in the slot of its number, counted round
the ring. Its generation is the number of rounds, up to wrapping. -/
theorem tryRecordEach_keeps_latest_runs (hn : 0 < n) (payloads : Vector α n)
    (es : List (UInt16 × α)) :
    ∃ (log : RingLog α n) (rs : List (Run α)),
      (ofPayloads payloads).tryRecordEach es = .ok log ∧ Run.ofEntries es = rs ∧
      log.entries.map Slot.run = rs.drop (rs.length - n) ∧
      log.latest.map Slot.run = rs.getLast? ∧
      log.last = (if rs.length = 0 then none else some ((rs.length - 1) % n)) ∧
      ∀ (j : Nat) (hj : j < rs.length), rs.length ≤ j + n →
        ∃ s, log.slots[j % n]? = some s ∧ s.run = rs[j] ∧
          s.generation.toNat = (j / n + 1) % 2 ^ 16 := by
  obtain ⟨log, hlog, h⟩ := exists_holds_tryRecordEach hn payloads es
  refine ⟨log, _, hlog, rfl, h.map_run_entries, h.map_run_latest hn, h.last_eq, ?_⟩
  intro j hj hheld
  refine ⟨_, h.getElem?_slots hn hj hheld, ?_, UInt16.toNat_ofNat⟩
  exact (h.fits _ (List.getElem_mem hj)).run_slot j

/-- A ring of two slots, after a run of two entries and two runs of one. -/
theorem tryRecordEach_in_two_slots :
    ∃ log, (ofPayloads #v[0, 0]).tryRecordEach [(10, 1), (10, 1), (10, 2), (11, 2)] = .ok log ∧
      log.entries.map Slot.run = [⟨10, 2, 1⟩, ⟨11, 2, 1⟩] := by
  obtain ⟨log, _, hlog, rfl, hentries, -⟩ :=
    tryRecordEach_keeps_latest_runs (by decide) #v[0, 0] [(10, 1), (10, 1), (10, 2), (11, 2)]
  exact ⟨log, hlog, hentries⟩

end RingLog

end Retimer
