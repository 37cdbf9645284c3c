import Mathlib.Logic.Function.Iterate
import Retimer.Proofs.RingLog.Refinement

/-!
# A ring log recovers from any content

A ring that was never touched but by recording keeps the latest runs. Memory is not always so kind:
the index of the latest slot may point outside the ring, and slots may hold lines, counts and
generations that nobody recorded, some of which look just like the entry that comes next. Nothing
of this is refused, and none of it lasts.

What is said here holds of every content, so it cannot be said against the runs that led to it.
It is said of the *view*: all slots of the ring, those after the latest first. A log with no latest
slot in the ring is viewed as its slots lie. An entry raises the count at the end of the view if it
repeats what is there, and otherwise takes the slot at the front and puts it at the end. So after
as many openings as there are slots, every slot was taken once, and all that a slot still owes to
the content before is its generation.

The sequence may begin with entries that join the slot that was there. They open nothing, and they
are the only entries whose count is mixed with what was counted before. From the first opening on,
the slots that were opened show the runs of the sequence, as they do in a ring that was empty.

## Main results

* `RingLog.rotated_eq_view`: a reader goes through the view
* `RingLog.exists_overwritten_recordEach`: which part of the view a sequence overwrites, and how
* `RingLog.recovers`: reading, one entry, and a whole sequence, from any content
-/

namespace Retimer

variable {α : Type} {n : Nat}

/-! ## One slot -/

namespace Slot

@[simp] theorem run_renew (s : Slot α) (line : UInt16) (payload : α) :
    (s.renew line payload).run = .single line payload := rfl

@[simp] theorem generation_renew (s : Slot α) (line : UInt16) (payload : α) :
    (s.renew line payload).generation = s.generation + 1 := rfl

@[simp] theorem generation_bump (s : Slot α) : s.bump.generation = s.generation := rfl

variable [BEq α] {s : Slot α} {line : UInt16} {payload : α}

theorem joins_iff : s.joins line payload ↔
    s.line = line ∧ s.payload == payload ∧ s.count.toNat < 2 ^ 32 - 1 := by
  have hroom : s.count.toNat + 1 < UInt32.size ↔ s.count.toNat < 2 ^ 32 - 1 := by
    rw [UInt32.size]
    omega
  simp [joins, hroom, and_assoc]

/-- A slot with any content takes the entries that the run it tells of would take. -/
theorem takes_run : s.run.takes line payload = s.joins line payload := by
  have hroom : s.count.toNat < Run.maxLength ↔ s.count.toNat + 1 < UInt32.size := by
    rw [Run.maxLength, UInt32.size]
    omega
  simp [Run.takes, joins, run, hroom]

/-- A count that has room is raised without wrapping. -/
theorem run_bump (h : s.joins line payload) : s.bump.run = s.run.lengthen := by
  have hroom := (joins_iff.mp h).2.2
  have hcount : (s.count + 1).toNat = s.count.toNat + 1 := by
    rw [UInt32.toNat_add]
    exact Nat.mod_eq_of_lt (by simp; omega)
  rw [run, Run.lengthen, run, ← hcount, bump]

end Slot

namespace RingLog

/-! ## The view of a ring -/

/-- All slots of a ring: those after the latest, and then those up to it. Where no slot of the ring
is the latest, the slots as they lie. -/
def view (log : RingLog α n) : List (Slot α) :=
  match log.last with
  | none => log.slots.toList
  | some i =>
    if i < n then log.slots.toList.drop (i + 1) ++ log.slots.toList.take (i + 1)
    else log.slots.toList

/-- A reader goes through the view. -/
theorem rotated_eq_view (log : RingLog α n) : log.rotated = log.view := by
  have hwhole : log.slots.toList.drop n ++ log.slots.toList.take n = log.slots.toList := by
    rw [List.drop_of_length_le (by simp), List.take_of_length_le (by simp), List.nil_append]
  cases h : log.last with
  | none => simpa only [rotated, split, view, h] using hwhole
  | some i =>
    by_cases hi : i < n
    · simp only [rotated, split, view, h, if_pos hi, Nat.min_eq_left (Nat.succ_le_of_lt hi)]
    · have hmin : min (i + 1) n = n := by omega
      simpa only [rotated, split, view, h, if_neg hi, hmin] using hwhole

/-- Nothing is seen twice, and nothing is missed. -/
theorem view_perm (log : RingLog α n) : log.view.Perm log.slots.toList := by
  rw [← rotated_eq_view, rotated_eq_rotate_split]
  exact List.rotate_perm _ _

theorem length_view (log : RingLog α n) : log.view.length = n := by
  rw [log.view_perm.length_eq, Vector.length_toList]

theorem entries_eq_filter_view (log : RingLog α n) :
    log.entries = log.view.filter (·.count != 0) := by
  rw [entries, rotated_eq_view]

/-- The latest slot is at the end of the view. -/
theorem getLast?_view_of_latest {log : RingLog α n} {s : Slot α} (h : log.latest = some s) :
    log.view.getLast? = some s := by
  obtain ⟨i, hi, hlast, rfl⟩ := latest_eq_some_iff.mp h
  rw [← rotated_eq_view, rotated_of_last hlast hi, List.getLast?_concat]

/-! ## The part that was overwritten -/

/-- The generations of a view after one more opening. -/
def nextGenerations : List UInt16 → List UInt16
  | [] => []
  | g :: gs => gs ++ [g + 1]

/-- What is left of a ring from which the slots of some runs were opened, one for each run. -/
structure Overwritten (before after : RingLog α n) (rs : List (Run α)) : Prop where
  /-- From the end, the view shows the runs, as far as either of the two goes. -/
  runs : rs <:+ after.view.map Slot.run ∨ after.view.map Slot.run <:+ rs
  /-- The generations are those of before, raised once for each opening. -/
  generations : after.view.map (·.generation) =
    nextGenerations^[rs.length] (before.view.map (·.generation))
  /-- Once a slot was opened, the latest is in the ring. -/
  latest : rs ≠ [] → ∃ s, after.latest = some s

theorem overwritten_self (log : RingLog α n) : Overwritten log log [] :=
  ⟨.inl List.nil_suffix, rfl, fun h => absurd rfl h⟩

namespace Overwritten

variable {before after : RingLog α n} {rs : List (Run α)}

/-- The slot opened last shows the last run. -/
theorem getLast?_eq (h : Overwritten before after rs) {s : Slot α} (hs : after.latest = some s)
    (hrs : rs ≠ []) : rs.getLast? = some s.run := by
  have hview : (after.view.map Slot.run).getLast? = some s.run := by
    rw [List.getLast?_map, getLast?_view_of_latest hs]
    rfl
  have hne : after.view.map Slot.run ≠ [] := by
    intro hnil
    rw [hnil] at hview
    cases hview
  rcases h.runs with ⟨older, holder⟩ | ⟨older, holder⟩
  · rw [← hview, ← holder, List.getLast?_append_of_ne_nil older hrs]
  · rw [← hview, ← holder, List.getLast?_append_of_ne_nil older hne]

/-- When the ring was gone round, the whole view shows runs. -/
theorem map_run_view (h : Overwritten before after rs) (hlength : n ≤ rs.length) :
    after.view.map Slot.run = rs.drop (rs.length - n) := by
  have hview : (after.view.map Slot.run).length = n := by
    rw [List.length_map, length_view]
  rcases h.runs with hsuffix | hsuffix
  · have hwhole := hsuffix.eq_of_length_le (hview.symm ▸ hlength)
    rw [← hwhole] at hview
    rw [← hwhole, hview, Nat.sub_self, List.drop_zero]
  · have hdrop := List.suffix_iff_eq_drop.mp hsuffix
    rwa [hview] at hdrop

end Overwritten

/-! ## One entry -/

variable [BEq α]

/-- An entry repeats the latest one: there is a latest slot in the ring, it was recorded from the
same line with an equal payload, and its count is not yet full. -/
def Repeats (log : RingLog α n) (line : UInt16) (payload : α) : Prop :=
  ∃ (i : Nat) (hi : i < n), log.last = some i ∧ log.slots[i].line = line ∧
    log.slots[i].payload == payload ∧ log.slots[i].count.toNat < 2 ^ 32 - 1

theorem repeats_iff_latest {log : RingLog α n} {line : UInt16} {payload : α} :
    log.Repeats line payload ↔ ∃ s, log.latest = some s ∧ s.joins line payload := by
  simp only [latest_eq_some_iff, Slot.joins_iff]
  constructor
  · rintro ⟨i, hi, hlast, hrepeats⟩
    exact ⟨_, ⟨i, hi, hlast, rfl⟩, hrepeats⟩
  · rintro ⟨_, ⟨i, hi, hlast, rfl⟩, hrepeats⟩
    exact ⟨i, hi, hlast, hrepeats⟩

theorem repeats_iff_joined? {log : RingLog α n} {line : UInt16} {payload : α} :
    log.Repeats line payload ↔ (log.joined? line payload).isSome := by
  rw [Option.isSome_iff_exists]
  simp only [joined?_eq_some_iff, ← Slot.joins_iff, Repeats]
  constructor
  · rintro ⟨i, hi, hlast, hjoins⟩
    exact ⟨⟨i, hi⟩, hlast, hjoins⟩
  · rintro ⟨i, hlast, hjoins⟩
    exact ⟨i, i.isLt, hlast, hjoins⟩

/-- An entry always leaves a latest slot in the ring. -/
theorem exists_last_record (log : RingLog α n) (hn : 0 < n) (line : UInt16) (payload : α) :
    ∃ i < n, (log.record hn line payload).last = some i := by
  cases log.record_step hn line payload with
  | joined rest s hlatest hjoins hbefore hafter hlast =>
    obtain ⟨i, hi, hlast', -⟩ := latest_eq_some_iff.mp hlatest
    exact ⟨i, hi, hlast.trans hlast'⟩
  | opened s rest hlatest hbefore hafter hlast => exact ⟨_, log.next_lt hn, hlast⟩

theorem exists_latest_record (log : RingLog α n) (hn : 0 < n) (line : UInt16) (payload : α) :
    ∃ s, (log.record hn line payload).latest = some s := by
  obtain ⟨i, hi, hlast⟩ := log.exists_last_record hn line payload
  exact ⟨_, latest_eq_some_iff.mpr ⟨i, hi, hlast, rfl⟩⟩

/-- A repeat raises the count at the end of the view. -/
theorem view_record_of_repeats {log : RingLog α n} (hn : 0 < n) {line : UInt16} {payload : α}
    (h : log.Repeats line payload) :
    ∃ rest s, log.view = rest ++ [s] ∧ s.joins line payload ∧ log.latest = some s ∧
      (log.record hn line payload).view = rest ++ [s.bump] := by
  rw [← rotated_eq_view, ← rotated_eq_view]
  cases log.record_step hn line payload with
  | joined rest s hlatest hjoins hbefore hafter => exact ⟨rest, s, hbefore, hjoins, hlatest, hafter⟩
  | opened s rest hlatest =>
    obtain ⟨t, ht, hjoins⟩ := repeats_iff_latest.mp h
    exact absurd hjoins (hlatest t ht)

/-- Any other entry takes the slot at the front of the view, and puts it at the end. -/
theorem view_record_of_not_repeats {log : RingLog α n} (hn : 0 < n) {line : UInt16} {payload : α}
    (h : ¬log.Repeats line payload) :
    ∃ s rest, log.view = s :: rest ∧
      (log.record hn line payload).view = rest ++ [s.renew line payload] := by
  rw [← rotated_eq_view, ← rotated_eq_view]
  cases log.record_step hn line payload with
  | joined rest s hlatest hjoins => exact absurd (repeats_iff_latest.mpr ⟨s, hlatest, hjoins⟩) h
  | opened s rest hlatest hbefore hafter => exact ⟨s, rest, hbefore, hafter⟩

/-! ## Sequences of entries -/

/-- Records entries in turn, in a ring that has a slot. -/
def recordEach (log : RingLog α n) (hn : 0 < n) (es : List (UInt16 × α)) : RingLog α n :=
  es.foldl (fun log e => log.record hn e.1 e.2) log

theorem recordEach_concat (log : RingLog α n) (hn : 0 < n) (es : List (UInt16 × α))
    (e : UInt16 × α) :
    log.recordEach hn (es ++ [e]) = (log.recordEach hn es).record hn e.1 e.2 := by
  rw [recordEach, List.foldl_append]
  rfl

theorem tryRecordEach_eq_ok (log : RingLog α n) (hn : 0 < n) (es : List (UInt16 × α)) :
    log.tryRecordEach es = .ok (log.recordEach hn es) := by
  induction es using List.reverseRecOn with
  | nil => rfl
  | append_singleton es e ih =>
    rw [tryRecordEach, List.foldlM_append, ← tryRecordEach, ih, recordEach_concat]
    exact congrArg (· >>= pure) (tryRecord_eq_ok _ hn e.1 e.2)

/-- How many slots a sequence of entries opens. -/
def openings (log : RingLog α n) (hn : 0 < n) : List (UInt16 × α) → Nat
  | [] => 0
  | (line, payload) :: es =>
    (if (log.joined? line payload).isSome then 0 else 1) +
      (log.record hn line payload).openings hn es

theorem openings_append (log : RingLog α n) (hn : 0 < n) (es fs : List (UInt16 × α)) :
    log.openings hn (es ++ fs) = log.openings hn es + (log.recordEach hn es).openings hn fs := by
  induction es generalizing log with
  | nil => simp [openings, recordEach]
  | cons e es ih =>
    rw [List.cons_append, openings, ih, openings, Nat.add_assoc]
    rfl

theorem openings_concat_of_repeats {log : RingLog α n} (hn : 0 < n) {es : List (UInt16 × α)}
    {e : UInt16 × α} (h : (log.recordEach hn es).Repeats e.1 e.2) :
    log.openings hn (es ++ [e]) = log.openings hn es := by
  simp [openings_append, openings, repeats_iff_joined?.mp h]

theorem openings_concat_of_not_repeats {log : RingLog α n} (hn : 0 < n) {es : List (UInt16 × α)}
    {e : UInt16 × α} (h : ¬(log.recordEach hn es).Repeats e.1 e.2) :
    log.openings hn (es ++ [e]) = log.openings hn es + 1 := by
  rw [repeats_iff_joined?] at h
  simp [openings_append, openings, h]

/-! ### From one entry to the next -/

namespace Overwritten

variable {before after : RingLog α n} {rs : List (Run α)} {line : UInt16} {payload : α}

/-- A repeat of the slot that was there when nothing had been opened yet changes no more than its
count. -/
theorem record_of_repeats_old (h : Overwritten before after []) (hn : 0 < n)
    (hrepeats : after.Repeats line payload) :
    Overwritten before (after.record hn line payload) [] := by
  obtain ⟨rest, s, hview, -, -, hview'⟩ := view_record_of_repeats hn hrepeats
  refine ⟨.inl List.nil_suffix, ?_, fun hne => absurd rfl hne⟩
  rw [← h.generations, hview, hview']
  simp

/-- A repeat of a slot that was opened lengthens the last run. -/
theorem record_of_repeats (h : Overwritten before after rs) (hn : 0 < n)
    (hrepeats : after.Repeats line payload) (hrs : rs ≠ []) :
    Overwritten before (after.record hn line payload) (Run.extend rs line payload) ∧
      (Run.extend rs line payload).length = rs.length := by
  obtain ⟨rest, s, hview, hjoins, hlatest, hview'⟩ := view_record_of_repeats hn hrepeats
  obtain ⟨init, rfl⟩ := List.getLast?_eq_some_iff.mp (h.getLast?_eq hlatest hrs)
  have hextend : Run.extend (init ++ [s.run]) line payload = init ++ [s.run.lengthen] :=
    Run.extend_of_takes init (by rwa [Slot.takes_run])
  have hlength : (init ++ [s.run.lengthen]).length = (init ++ [s.run]).length := by simp
  have hruns := h.runs
  rw [hextend, hlength]
  refine ⟨⟨?_, ?_, fun _ => exists_latest_record _ hn _ _⟩, rfl⟩
  · -- The two end in the same element, before and after, and are the same as ever in front of it.
    rw [hview, List.map_append, List.map_singleton, List.suffix_append_inj_of_length_eq rfl,
      List.suffix_append_inj_of_length_eq rfl] at hruns
    rw [hview', List.map_append, List.map_singleton, Slot.run_bump hjoins,
      List.suffix_append_inj_of_length_eq rfl, List.suffix_append_inj_of_length_eq rfl]
    simpa using hruns
  · rw [hlength, ← h.generations, hview, hview']
    simp

/-- An entry that opens a slot adds a run. -/
theorem record_of_not_repeats (h : Overwritten before after rs) (hn : 0 < n)
    (hrepeats : ¬after.Repeats line payload) :
    Overwritten before (after.record hn line payload) (rs ++ [.single line payload]) ∧
      Run.extend rs line payload = rs ++ [.single line payload] := by
  obtain ⟨s, rest, hview, hview'⟩ := view_record_of_not_repeats hn hrepeats
  refine ⟨⟨?_, ?_, fun _ => exists_latest_record _ hn _ _⟩, ?_⟩
  · have hruns := h.runs
    rw [hview, List.map_cons, List.suffix_cons_iff] at hruns
    rw [hview', List.map_append, List.map_singleton, Slot.run_renew,
      List.suffix_append_inj_of_length_eq rfl, List.suffix_append_inj_of_length_eq rfl]
    rcases hruns with (hwhole | hshort) | hlong
    · exact .inr ⟨hwhole ▸ List.suffix_cons _ _, rfl⟩
    · exact .inl ⟨hshort, rfl⟩
    · exact .inr ⟨(List.suffix_cons _ _).trans hlong, rfl⟩
  · rw [List.length_append, List.length_singleton, Function.iterate_succ_apply', ← h.generations,
      hview, hview', List.map_cons, List.map_append]
    rfl
  · refine Run.extend_of_not_takes ?_
    intro r hr htakes
    have hrs : rs ≠ [] := by
      rintro rfl
      cases hr
    obtain ⟨t, ht⟩ := h.latest hrs
    rw [h.getLast?_eq ht hrs] at hr
    obtain rfl : t.run = r := Option.some.inj hr
    rw [Slot.takes_run] at htakes
    exact hrepeats (repeats_iff_latest.mpr ⟨t, ht, htakes⟩)

end Overwritten

/-- The part of a sequence that opened slots, and what it made of the ring. The entries `kept`
before it only raised the count of the slot that was there. -/
theorem exists_overwritten_recordEach (log : RingLog α n) (hn : 0 < n) (es : List (UInt16 × α)) :
    ∃ kept fresh, es = kept ++ fresh ∧ log.openings hn kept = 0 ∧
      (Run.ofEntries fresh).length = log.openings hn es ∧
      Overwritten log (log.recordEach hn es) (Run.ofEntries fresh) := by
  induction es using List.reverseRecOn with
  | nil => exact ⟨[], [], rfl, rfl, rfl, log.overwritten_self⟩
  | append_singleton es e ih =>
    obtain ⟨kept, fresh, rfl, hkept, hlength, h⟩ := ih
    rw [recordEach_concat]
    by_cases hrepeats : (log.recordEach hn (kept ++ fresh)).Repeats e.1 e.2
    · rw [openings_concat_of_repeats hn hrepeats, ← hlength]
      by_cases hfresh : fresh = []
      · subst hfresh
        have hopened : log.openings hn (kept ++ [] ++ [e]) = 0 := by
          rw [openings_concat_of_repeats hn hrepeats, List.append_nil, hkept]
        exact ⟨kept ++ [] ++ [e], [], (List.append_nil _).symm, hopened, rfl,
          h.record_of_repeats_old hn hrepeats⟩
      · obtain ⟨hstep, hsame⟩ := h.record_of_repeats hn hrepeats (Run.ofEntries_ne_nil hfresh)
        rw [← Run.ofEntries_concat] at hstep hsame
        exact ⟨kept, fresh ++ [e], List.append_assoc _ _ _, hkept, hsame, hstep⟩
    · obtain ⟨hstep, hextend⟩ := h.record_of_not_repeats hn hrepeats
      rw [← hextend, ← Run.ofEntries_concat] at hstep
      refine ⟨kept, fresh ++ [e], List.append_assoc _ _ _, hkept, ?_, hstep⟩
      rw [openings_concat_of_not_repeats hn hrepeats, ← hlength, Run.ofEntries_concat, hextend,
        List.length_append, List.length_singleton]

/-- **A ring log recovers from any content.**

A reader goes through the view and skips the slots that were never written, so that every other
slot is shown once. An entry is never refused and leaves the latest slot in the ring. If it repeats
the latest entry, it raises the count at the end of the view; if not, it takes the slot at the
front and puts it at the end, with the slot's generation raised by one.

After a sequence of entries that opened a slot at least `n` times, the slots show the last `n` runs
of the sequence and nothing of what was there before, their generations apart. These are as they
were, raised once for each time that a slot was opened. -/
theorem recovers (log : RingLog α n) (hn : 0 < n) :
    (log.entries = log.view.filter (·.count != 0) ∧ log.view.Perm log.slots.toList) ∧
    (∀ (line : UInt16) (payload : α), ∃ after, log.tryRecord line payload = .ok after ∧
      (∃ i < n, after.last = some i) ∧
      (log.Repeats line payload → ∃ rest s, log.view = rest ++ [s] ∧
        after.view = rest ++ [{ s with count := s.count + 1 }]) ∧
      (¬log.Repeats line payload → ∃ s rest, log.view = s :: rest ∧
        after.view = rest ++ [⟨line, s.generation + 1, 1, payload⟩])) ∧
    ∀ es : List (UInt16 × α), ∃ after, log.tryRecordEach es = .ok after ∧
      (n ≤ log.openings hn es → ∃ kept fresh, es = kept ++ fresh ∧ log.openings hn kept = 0 ∧
        (Run.ofEntries fresh).length = log.openings hn es ∧
        after.view.map Slot.run = (Run.ofEntries fresh).drop (log.openings hn es - n) ∧
        after.view.map (·.generation) =
          nextGenerations^[log.openings hn es] (log.view.map (·.generation))) := by
  refine ⟨⟨log.entries_eq_filter_view, log.view_perm⟩, ?_, ?_⟩
  · intro line payload
    refine ⟨_, tryRecord_eq_ok log hn line payload, log.exists_last_record hn line payload, ?_,
      fun h => view_record_of_not_repeats hn h⟩
    intro h
    obtain ⟨rest, s, hview, -, -, hview'⟩ := view_record_of_repeats hn h
    exact ⟨rest, s, hview, hview'⟩
  · intro es
    refine ⟨_, log.tryRecordEach_eq_ok hn es, ?_⟩
    intro hopenings
    obtain ⟨kept, fresh, hes, hkept, hlength, h⟩ := log.exists_overwritten_recordEach hn es
    refine ⟨kept, fresh, hes, hkept, hlength, ?_, hlength ▸ h.generations⟩
    rw [← hlength] at hopenings ⊢
    exact h.map_run_view hopenings

/-- Two slots that look like the entries to come, and a latest slot that is not in the ring. -/
def lookalikes : RingLog Nat 2 := ⟨some 7, #v[⟨10, 65535, 3, 1⟩, ⟨10, 4, 0, 1⟩]⟩

/-- There, the first entry already opens a slot, and what is left of the old slots are their
generations. -/
theorem recovers_lookalikes :
    ∃ after, lookalikes.tryRecordEach [(10, 1), (10, 1), (11, 1)] = .ok after ∧
      after.view.map Slot.run = [⟨10, 1, 2⟩, ⟨11, 1, 1⟩] ∧
      after.view.map (·.generation) = [0, 5] := by
  obtain ⟨after, hafter, hshown⟩ :=
    (recovers lookalikes (by decide)).2.2 [(10, 1), (10, 1), (11, 1)]
  obtain ⟨kept, fresh, hes, hkept, -, hruns, hgenerations⟩ := hshown (by decide)
  refine ⟨after, hafter, ?_, hgenerations⟩
  -- Nothing can be joined at first, so all runs are new.
  cases kept with
  | nil =>
    rw [List.nil_append] at hes
    rw [hruns, ← hes]
    rfl
  | cons e kept =>
    obtain ⟨rfl, -⟩ := List.cons.inj hes
    rw [openings] at hkept
    simp [joined?, lookalikes] at hkept

end RingLog

end Retimer
