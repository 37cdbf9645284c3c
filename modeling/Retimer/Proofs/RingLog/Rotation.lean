import Mathlib.Data.List.Rotate
import Retimer.RingLog.Basic

/-!
# A ring log seen from its oldest slot

Where the latest entry happens to lie is of no interest to a reader, and a nuisance in proofs.
`RingLog.rotated` does away with it: the slots in the order in which they are overwritten next. In
that order there are no indices to wrap around. Recording either raises the count of the last slot,
or takes the first one away and puts it back at the end with the new entry in it.

This is so for any content of the ring, whether or not recording ever led to it.

## Main results

* `RingLog.record_step`: what recording does to the slots in rotated order
* `RingLog.getElem?_rotated`: where a slot of that order lies in the ring
-/

namespace Retimer

namespace RingLog

variable {α : Type} {n : Nat}

/-! ## Taking one place out of a round -/

/-- What is in a ring besides the place `i`, in the order in which it follows that place. -/
def others (l : List α) (i : Nat) : List α := l.drop (i + 1) ++ l.take i

theorem others_set (l : List α) (i : Nat) (a : α) : others (l.set i a) i = others l i := by
  rw [others, List.drop_set_of_lt (Nat.lt_succ_self i), List.take_set_of_le (Nat.le_refl i), others]

/-- Seen from a place, it comes first. -/
theorem rotate_eq_cons_others {l : List α} {i : Nat} (h : i < l.length) :
    l.rotate i = l[i] :: others l i := by
  rw [List.rotate_eq_drop_append_take (Nat.le_of_lt h), List.drop_eq_getElem_cons h,
    List.cons_append, others]

/-- Seen from the place after it, it comes last. -/
theorem rotate_succ_eq_others_append {l : List α} {i : Nat} (h : i < l.length) :
    l.rotate (i + 1) = others l i ++ [l[i]] := by
  rw [← List.rotate_rotate, rotate_eq_cons_others h, List.rotate_cons_succ, List.rotate_zero]

/-! ## The rotated order -/

theorem rotated_eq_rotate_split (log : RingLog α n) :
    log.rotated = log.slots.toList.rotate log.split := by
  have hsplit : log.split ≤ n := by
    cases h : log.last with
    | none => simp [split, h]
    | some i => simpa only [split, h] using Nat.min_le_right (i + 1) n
  refine (List.rotate_eq_drop_append_take ?_).symm
  rwa [Vector.length_toList]

/-- The rotated order starts at the slot that is overwritten next. -/
theorem rotated_eq_rotate_next (log : RingLog α n) :
    log.rotated = log.slots.toList.rotate log.next := by
  have hfull : log.slots.toList.rotate n = log.slots.toList.rotate 0 := by
    simpa [log.slots.length_toList] using List.rotate_length log.slots.toList
  rw [rotated_eq_rotate_split]
  cases h : log.last with
  | none => simpa [split, next, h] using hfull
  | some i =>
    by_cases hi : i + 1 < n
    · simp [split, next, h, hi, show min (i + 1) n = i + 1 by omega]
    · simpa [split, next, h, hi, show min (i + 1) n = n by omega] using hfull

/-- Where a slot of the rotated order lies in the ring. -/
theorem getElem?_rotated (log : RingLog α n) {i : Nat} (h : i < n) :
    log.rotated[i]? = log.slots[(i + log.next) % n]? := by
  rw [rotated_eq_rotate_next, List.getElem?_rotate (by rwa [Vector.length_toList]),
    Vector.length_toList, Vector.getElem?_toList]

/-- A latest slot that is in the ring comes last in the rotated order. -/
theorem rotated_of_last {log : RingLog α n} {i : Nat} (h : log.last = some i) (hi : i < n) :
    log.rotated = others log.slots.toList i ++ [log.slots[i]] := by
  have hsplit : log.split = i + 1 := by simp [split, h, Nat.min_eq_left hi]
  rw [rotated_eq_rotate_split, hsplit, rotate_succ_eq_others_append (by simpa using hi),
    Vector.getElem_toList]

/-- Putting something in the latest slot changes only what comes last. -/
theorem rotated_set (slots : Vector (Slot α) n) {i : Nat} (hi : i < n) (s : Slot α) :
    (⟨some i, slots.set i s⟩ : RingLog α n).rotated = others slots.toList i ++ [s] := by
  rw [rotated_of_last rfl hi, Vector.toList_set, others_set, Vector.getElem_set_self]

theorem latest_eq_some_iff {log : RingLog α n} {s : Slot α} :
    log.latest = some s ↔ ∃ (i : Nat) (hi : i < n), log.last = some i ∧ log.slots[i] = s := by
  simp only [latest, Option.bind_eq_some_iff, Vector.getElem?_eq_some_iff]
  constructor
  · rintro ⟨i, hlast, hi, hs⟩
    exact ⟨i, hi, hlast, hs⟩
  · rintro ⟨i, hi, hlast, hs⟩
    exact ⟨i, hlast, hi, hs⟩

/-! ## Recording -/

variable [BEq α] {line : UInt16} {payload : α}

theorem joined?_eq_some_iff {log : RingLog α n} {i : Fin n} :
    log.joined? line payload = some i ↔
      log.last = some i.val ∧ (log.slots.get i).joins line payload := by
  cases h : log.last with
  | none => simp [joined?, h]
  | some k =>
    by_cases hk : k < n
    · simp only [joined?, h, hk, dite_true]
      split
      case isTrue hjoins =>
        constructor
        · rintro ⟨rfl⟩
          exact ⟨rfl, hjoins⟩
        · rintro ⟨⟨rfl⟩, -⟩
          rfl
      case isFalse hjoins =>
        refine iff_of_false (by simp) ?_
        rintro ⟨⟨rfl⟩, hi⟩
        exact hjoins hi
    · simp only [joined?, h, hk, dite_false]
      refine iff_of_false (by simp) ?_
      rintro ⟨⟨rfl⟩, -⟩
      exact hk i.isLt

/-- What recording does to a log, as a reader sees it. -/
inductive RecordStep (log after : RingLog α n) (line : UInt16) (payload : α) : Prop
  /-- The entry joined the latest slot. -/
  | joined (rest : List (Slot α)) (s : Slot α) (hlatest : log.latest = some s)
    (hjoins : s.joins line payload) (hbefore : log.rotated = rest ++ [s])
    (hafter : after.rotated = rest ++ [s.bump]) (hlast : after.last = log.last)
  /-- The entry opened the slot that was to be overwritten next. -/
  | opened (s : Slot α) (rest : List (Slot α))
    (hlatest : ∀ t, log.latest = some t → ¬t.joins line payload) (hbefore : log.rotated = s :: rest)
    (hafter : after.rotated = rest ++ [s.renew line payload]) (hlast : after.last = some log.next)

/-- Recording raises the count of the last slot, or moves the first one to the end with the new
entry in it. -/
theorem record_step (log : RingLog α n) (hn : 0 < n) (line : UInt16) (payload : α) :
    RecordStep log (log.record hn line payload) line payload := by
  cases hj : log.joined? line payload with
  | some i =>
    obtain ⟨hlast, hjoins⟩ := joined?_eq_some_iff.mp hj
    have hrecord : log.record hn line payload =
        ⟨some i.val, log.slots.set i log.slots[i].bump⟩ := by simp [record, hj, hlast]
    refine .joined (others log.slots.toList i) log.slots[i] ?_ hjoins
      (rotated_of_last hlast i.isLt) ?_ (by rw [hrecord, hlast])
    · exact latest_eq_some_iff.mpr ⟨i, i.isLt, hlast, rfl⟩
    · rw [hrecord, rotated_set]
  | none =>
    have hnext := log.next_lt hn
    have hrecord : log.record hn line payload =
        ⟨some log.next, log.slots.set log.next (log.slots[log.next].renew line payload)⟩ := by
      simp [record, hj]
    refine .opened log.slots[log.next] (others log.slots.toList log.next) ?_ ?_ ?_ (by rw [hrecord])
    · intro t ht hjoins
      obtain ⟨i, hi, hlast, rfl⟩ := latest_eq_some_iff.mp ht
      have hsome := joined?_eq_some_iff (i := ⟨i, hi⟩).mpr ⟨hlast, hjoins⟩
      rw [hj] at hsome
      cases hsome
    · rw [rotated_eq_rotate_next, rotate_eq_cons_others (by simpa using hnext),
        Vector.getElem_toList]
    · rw [hrecord, rotated_set]

end RingLog

end Retimer
