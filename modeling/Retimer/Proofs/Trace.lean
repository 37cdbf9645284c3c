import Mathlib.Algebra.GroupWithZero.Nat
import Mathlib.Data.List.Chain
import Retimer.Proofs.RingLog.Refinement
import Retimer.Trace

/-!
# How often a record is found in the trace

Whoever asks the trace how often something was recorded gets a sum of counts. There is much that a
sum could miss. The record may have been made at many times with others in between, so its counts
lie in several slots; of a repeat only the count is left; and the oldest slots are overwritten by
and by. What the sum stands for is said here against the sequence of records alone.

The runs of a sequence cut it up: put one after the other, they are the sequence again. So the runs
that the trace still holds are the end of the sequence, and the sum is the number of times that the
record occurs in that end. Nothing is counted twice, and nothing is missed but what was recorded
before it.

The sum has to fit in thirty-two bits, as each of its parts does. It fits if the record was made
less than `2 ^ 32` times, however many others there were.

## Main results

* `Run.flatMap_payloads_ofEntries`: the runs of a sequence cut it up
* `Trace.holds_addAll`: a trace shows the latest runs of the records
* `Trace.traced_counts_records`: what the sum of counts is the number of
-/

namespace Retimer

/-! ## Cutting a sequence up -/

namespace Run

variable {α : Type}

/-- The payloads of a run's entries, where the test for repeats is equality. -/
def payloads (r : Run α) : List α := List.replicate r.length r.payload

theorem payloads_lengthen (r : Run α) : r.lengthen.payloads = r.payloads ++ [r.payload] :=
  List.replicate_succ'

variable [BEq α]

/-- A payload occurs as often as the runs that have it are long. -/
theorem count_flatMap_payloads [LawfulBEq α] (rs : List (Run α)) (payload : α) :
    (rs.flatMap payloads).count payload =
      ((rs.filter (·.payload == payload)).map (·.length)).sum := by
  induction rs with
  | nil => rfl
  | cons r rs ih =>
    rw [List.flatMap_cons, List.count_append, ih, payloads, List.count_replicate, List.filter_cons]
    cases r.payload == payload <;> simp

/-- What becomes of some runs when there is one more entry. -/
inductive Extended (rs after : List (Run α)) (line : UInt16) (payload : α) : Prop
  /-- The last run takes it. -/
  | lengthened (init : List (Run α)) (r : Run α) (hbefore : rs = init ++ [r])
    (htakes : r.takes line payload) (hafter : after = init ++ [r.lengthen])
  /-- It starts a run. -/
  | started (hnot : ∀ r, rs.getLast? = some r → ¬r.takes line payload)
    (hafter : after = rs ++ [single line payload])

theorem extended_extend (rs : List (Run α)) (line : UInt16) (payload : α) :
    Extended rs (extend rs line payload) line payload := by
  by_cases h : ∃ r, rs.getLast? = some r ∧ r.takes line payload
  · obtain ⟨r, hr, htakes⟩ := h
    obtain ⟨init, rfl⟩ := List.getLast?_eq_some_iff.mp hr
    exact .lengthened init r rfl htakes (extend_of_takes init htakes)
  · have hnot : ∀ r, rs.getLast? = some r → ¬r.takes line payload :=
      fun r hr htakes => h ⟨r, hr, htakes⟩
    exact .started hnot (extend_of_not_takes hnot)

theorem Extended.flatMap_payloads [LawfulBEq α] {rs after : List (Run α)} {line : UInt16}
    {payload : α} (h : Extended rs after line payload) :
    after.flatMap payloads = rs.flatMap payloads ++ [payload] := by
  cases h with
  | lengthened init r hbefore htakes hafter =>
    have hpayload : r.payload = payload := by simp_all [takes]
    simp [hbefore, hafter, payloads_lengthen, hpayload]
  | started hnot hafter =>
    rw [hafter, List.flatMap_append]
    rfl

/-- **The runs of a sequence cut it up**: one after the other, they are the sequence again. -/
theorem flatMap_payloads_ofEntries [LawfulBEq α] (es : List (UInt16 × α)) :
    (ofEntries es).flatMap payloads = es.map Prod.snd := by
  induction es using List.reverseRecOn with
  | nil => rfl
  | append_singleton es e ih =>
    rw [ofEntries_concat, (extended_extend _ _ _).flatMap_payloads, ih, List.map_append,
      List.map_singleton]

/-- Of two runs in a row, the first does not take the entry that starts the second. -/
def Apart (r s : Run α) : Prop := ¬r.takes s.line s.payload

/-- Where every entry has one line, and the runs are as long as they can be. -/
structure Tight (line : UInt16) (rs : List (Run α)) : Prop where
  /-- Every run can be told by a slot. -/
  fits : ∀ r ∈ rs, r.Fits
  /-- Every run has the line. -/
  lines : ∀ r ∈ rs, r.line = line
  /-- No run could have been longer. -/
  apart : rs.IsChain Apart

theorem Tight.extend {line : UInt16} {rs : List (Run α)} (h : Tight line rs) (payload : α) :
    Tight line (extend rs line payload) := by
  refine ⟨fits_extend h.fits line payload, ?_, ?_⟩
  · cases extended_extend rs line payload with
    | lengthened init r hbefore htakes hafter =>
      have hlines := h.lines
      rw [hbefore, List.forall_mem_append, List.forall_mem_singleton] at hlines
      rwa [hafter, List.forall_mem_append, List.forall_mem_singleton]
    | started hnot hafter =>
      rw [hafter, List.forall_mem_append, List.forall_mem_singleton]
      exact ⟨h.lines, rfl⟩
  · cases extended_extend rs line payload with
    | lengthened init r hbefore htakes hafter =>
      obtain ⟨hinit, -, hjoint⟩ := List.isChain_append.mp (hbefore ▸ h.apart)
      rw [hafter]
      refine hinit.append (.singleton _) ?_
      -- A longer run begins as it did.
      simpa [Apart, lengthen] using hjoint
    | started hnot hafter =>
      rw [hafter]
      refine h.apart.append (.singleton _) ?_
      simpa [Apart, single] using hnot

theorem tight_ofEntries (line : UInt16) (payloads : List α) :
    Tight line (ofEntries (payloads.map fun payload => (line, payload))) := by
  induction payloads using List.reverseRecOn with
  | nil => exact ⟨by simp [ofEntries], by simp [ofEntries], .nil⟩
  | append_singleton payloads payload ih =>
    rw [List.map_append, List.map_singleton, ofEntries_concat]
    exact ih.extend payload

/-- A run ends only where the payload changes, or a count can tell no more. -/
theorem Tight.length_eq_of_payload_eq [LawfulBEq α] {line : UInt16} {rs : List (Run α)}
    (h : Tight line rs) : rs.IsChain fun r s => r.payload = s.payload → r.length = maxLength := by
  refine h.apart.imp_of_mem_imp ?_
  intro r s hr hs hapart hpayload
  have hline : r.line = s.line := (h.lines r hr).trans (h.lines s hs).symm
  have hfull : ¬r.length < maxLength := by simpa [Apart, takes, hline, hpayload] using hapart
  exact Nat.le_antisymm (h.fits r hr).2 (Nat.le_of_not_lt hfull)

end Run

namespace Trace

/-! ## Adding counts up -/

theorem addCount?_eq_some_iff {sum count word : UInt32} :
    addCount? sum count = some word ↔ word.toNat = sum.toNat + count.toNat := by
  have hword : word.toNat < UInt32.size := word.toNat_lt_size
  rw [addCount?]
  split
  case isTrue hfits =>
    have hsum : (sum + count).toNat = sum.toNat + count.toNat := by
      rw [UInt32.toNat_add, Nat.mod_eq_of_lt hfits]
    rw [Option.some.injEq, ← UInt32.toNat_inj, hsum, eq_comm]
  case isFalse hfull =>
    simp only [reduceCtorEq, false_iff]
    omega

/-- Counts are added up in a word exactly if the word can hold their sum. -/
theorem foldlM_addCount?_eq_some_iff {counts : List UInt32} {sum word : UInt32} :
    counts.foldlM addCount? sum = some word ↔
      word.toNat = sum.toNat + (counts.map UInt32.toNat).sum := by
  induction counts generalizing sum with
  | nil => simp [← UInt32.toNat_inj, eq_comm]
  | cons count counts ih =>
    rw [List.foldlM_cons, Option.bind_eq_bind, Option.bind_eq_some_iff, List.map_cons,
      List.sum_cons, ← Nat.add_assoc]
    constructor
    · rintro ⟨next, hnext, hrest⟩
      rw [ih.mp hrest, addCount?_eq_some_iff.mp hnext]
    · intro hword
      -- No sum on the way is greater than the one they come to.
      have hfits : sum.toNat + count.toNat < UInt32.size :=
        Nat.lt_of_le_of_lt (hword ▸ Nat.le_add_right _ _) word.toNat_lt_size
      have hnext : (UInt32.ofNat (sum.toNat + count.toNat)).toNat = sum.toNat + count.toNat :=
        UInt32.toNat_ofNat_of_lt' hfits
      exact ⟨_, addCount?_eq_some_iff.mpr hnext, ih.mpr (by rw [hnext, hword])⟩

/-! ## What a trace holds -/

/-- **A trace shows the latest runs of the records.** -/
theorem holds_addAll (entries : List Record) :
    RingLog.Holds (Vector.replicate traceCapacity .none) (Trace.empty.addAll entries)
      (Run.ofEntries (entries.map fun entry => (Trace.line, entry))) := by
  induction entries using List.reverseRecOn with
  | nil =>
    have hempty : Trace.empty = RingLog.ofPayloads (Vector.replicate traceCapacity .none) := by
      simp [Trace.empty, RingLog.empty, RingLog.ofPayloads]
    rw [addAll, List.foldl_nil, hempty]
    exact RingLog.holds_ofPayloads _
  | append_singleton entries entry ih =>
    rw [List.map_append, List.map_singleton, Run.ofEntries_concat, addAll, List.foldl_append]
    exact ih.record (by decide) Trace.line entry

theorem traced_eq_count (t : Trace) (entry : Record) :
    t.traced entry = ((t.entries.map Slot.run).flatMap Run.payloads).count entry := by
  rw [Run.count_flatMap_payloads, List.filter_map, List.map_map]
  rfl

/-- The word comes out as the sum does, if there is a word for it. -/
theorem tracedWord?_eq_some_iff {t : Trace} {entry : Record} {word : UInt32} :
    t.tracedWord? entry = some word ↔ word.toNat = t.traced entry := by
  rw [tracedWord?, foldlM_addCount?_eq_some_iff, List.map_map, UInt32.toNat_zero, Nat.zero_add]
  rfl

/-- **The trace counts the records among its runs.** Take any sequence of records and one record
that occurs in it less than `2 ^ 32` times.

Cut the sequence up into its runs. They end only where the record changes or a count is full, and
the trace holds the last of them. What it tells of the record is how often that occurs in the end of
the sequence that these runs make up: all of it if there are no more runs than slots, and never more
than there is. Adding up the counts does not overflow. -/
theorem traced_counts_records (entries : List Record) (entry : Record)
    (hoccurs : entries.count entry < 2 ^ 32) :
    let t := Trace.empty.addAll entries
    let runs := Run.ofEntries (entries.map fun e => (Trace.line, e))
    let gone := (runs.take (runs.length - traceCapacity)).flatMap Run.payloads
    let held := (runs.drop (runs.length - traceCapacity)).flatMap Run.payloads
    (∀ r ∈ runs, 0 < r.length ∧ r.length ≤ 2 ^ 32 - 1) ∧
    runs.IsChain (fun r s => r.payload = s.payload → r.length = 2 ^ 32 - 1) ∧
    entries = gone ++ held ∧
    t.traced entry = held.count entry ∧
    (∃ word, t.tracedWord? entry = some word ∧ word.toNat = held.count entry) ∧
    (runs.length ≤ traceCapacity → t.traced entry = entries.count entry) ∧
    t.traced entry ≤ entries.count entry := by
  intro t runs gone held
  have htight : Run.Tight Trace.line runs := Run.tight_ofEntries Trace.line entries
  have hcut : entries = gone ++ held := by
    rw [← List.flatMap_append, List.take_append_drop, Run.flatMap_payloads_ofEntries, List.map_map]
    exact (List.map_id entries).symm
  have htraced : t.traced entry = held.count entry := by
    rw [traced_eq_count, (holds_addAll entries).map_run_entries]
  have hle : t.traced entry ≤ entries.count entry := by
    rw [htraced, hcut, List.count_append]
    exact Nat.le_add_left _ _
  refine ⟨htight.fits, htight.length_eq_of_payload_eq, hcut, htraced, ?_, ?_, hle⟩
  · have hword : (UInt32.ofNat (t.traced entry)).toNat = t.traced entry :=
      UInt32.toNat_ofNat_of_lt' (Nat.lt_of_le_of_lt hle hoccurs)
    exact ⟨_, tracedWord?_eq_some_iff.mpr hword, hword.trans htraced⟩
  · intro hfew
    have hnone : runs.length - traceCapacity = 0 := Nat.sub_eq_zero_of_le hfew
    have hgone : gone = [] := by simp only [gone, hnone, List.take_zero, List.flatMap_nil]
    rw [htraced, hcut, hgone, List.nil_append]

/-- Seventeen times over, a record that is made twice and then another one: more runs than there are
slots. -/
def recurring : List Record :=
  (List.replicate 17 [Record.readFailed .cdrControl .noRegister,
    .readFailed .cdrControl .noRegister, .readFailed .rateSelect .noRegister]).flatten

/-- Of the thirty-four times that the first of them was made, the trace has kept thirty-two. -/
theorem traced_counts_records_recurring :
    recurring.count (.readFailed .cdrControl .noRegister) = 34 ∧
      ∃ word, (Trace.empty.addAll recurring).tracedWord? (.readFailed .cdrControl .noRegister) =
        some word ∧ word.toNat = 32 := by
  obtain ⟨-, -, -, -, ⟨word, hword, hcount⟩, -⟩ :=
    traced_counts_records recurring (.readFailed .cdrControl .noRegister) (by decide)
  exact ⟨by decide, word, hword, hcount.trans (by decide +kernel)⟩

end Trace

end Retimer
