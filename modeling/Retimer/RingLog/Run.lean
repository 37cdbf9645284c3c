import Retimer.RingLog.Basic

/-!
# Runs

What a ring log would hold if it never ran out of slots: a *run* for each stretch of entries in
which every one repeats the first. Runs are as long as they can be. An entry starts a new one only
if it does not repeat the run before it, or if that run is as long as a count can tell.

Runs are found from the sequence alone. Nothing here speaks of slots, wrapping or generations, so
that what a log keeps can be compared with what there was to keep.

## Main results

* `Run.ofEntries_concat`: one more entry lengthens the last run or starts another
-/

namespace Retimer

/-- A stretch of entries that repeat the first of them. -/
structure Run (α : Type) where
  /-- The line of every entry. -/
  line : UInt16
  /-- The payload of the first entry. -/
  payload : α
  /-- How many entries there are. -/
  length : Nat
deriving DecidableEq

namespace Run

variable {α : Type} [BEq α]

/-- The greatest length of a run. -/
def maxLength : Nat := UInt32.size - 1

/-- The run of one entry. -/
def single (line : UInt16) (payload : α) : Run α := ⟨line, payload, 1⟩

/-- The run with one more entry. -/
def lengthen (r : Run α) : Run α := { r with length := r.length + 1 }

/-- Whether an entry belongs to a run that it follows. -/
def takes (r : Run α) (line : UInt16) (payload : α) : Bool :=
  r.line == line && r.payload == payload && r.length < maxLength

/-- The runs of an unfinished run and the entries after it. -/
def followedBy (r : Run α) : List (UInt16 × α) → List (Run α)
  | [] => [r]
  | (line, payload) :: es =>
    if r.takes line payload then r.lengthen.followedBy es
    else r :: (single line payload).followedBy es

/-- The runs of a sequence of entries, in order. -/
def ofEntries : List (UInt16 × α) → List (Run α)
  | [] => []
  | (line, payload) :: es => (single line payload).followedBy es

/-- Adds an entry at the end of a list of runs. -/
def extend (rs : List (Run α)) (line : UInt16) (payload : α) : List (Run α) :=
  match rs.getLast? with
  | none => [single line payload]
  | some r =>
    if r.takes line payload then rs.dropLast ++ [r.lengthen] else rs ++ [single line payload]

theorem extend_of_takes (rs : List (Run α)) {r : Run α} {line : UInt16} {payload : α}
    (h : r.takes line payload) : extend (rs ++ [r]) line payload = rs ++ [r.lengthen] := by
  simp [extend, h]

theorem extend_of_not_takes {rs : List (Run α)} {line : UInt16} {payload : α}
    (h : ∀ r, rs.getLast? = some r → ¬r.takes line payload) :
    extend rs line payload = rs ++ [single line payload] := by
  cases hr : rs.getLast? with
  | none => simp [extend, List.getLast?_eq_none_iff.mp hr]
  | some r => simp [extend, hr, h r hr]

theorem followedBy_ne_nil (r : Run α) (es : List (UInt16 × α)) : r.followedBy es ≠ [] := by
  induction es generalizing r with
  | nil => simp [followedBy]
  | cons e es ih => by_cases h : r.takes e.1 e.2 <;> simp [followedBy, h, ih]

theorem ofEntries_ne_nil {es : List (UInt16 × α)} (h : es ≠ []) : ofEntries es ≠ [] := by
  cases es with
  | nil => exact absurd rfl h
  | cons e es => exact followedBy_ne_nil _ es

/-- A run in front takes no part in what happens at the end. -/
theorem extend_cons (r : Run α) {rs : List (Run α)} (h : rs ≠ []) (line : UInt16) (payload : α) :
    extend (r :: rs) line payload = r :: extend rs line payload := by
  obtain ⟨s, hs⟩ : ∃ s, rs.getLast? = some s := ⟨_, List.getLast?_eq_some_getLast h⟩
  have hr : (r :: rs).getLast? = some s := by
    rw [List.getLast?_cons, hs]; rfl
  by_cases ht : s.takes line payload <;> simp [extend, hs, hr, ht, List.dropLast_cons_of_ne_nil h]

theorem followedBy_concat (r : Run α) (es : List (UInt16 × α)) (line : UInt16) (payload : α) :
    r.followedBy (es ++ [(line, payload)]) = extend (r.followedBy es) line payload := by
  induction es generalizing r with
  | nil => by_cases h : r.takes line payload <;> simp [followedBy, extend, h]
  | cons e es ih =>
    by_cases h : r.takes e.1 e.2
    · simp [followedBy, h, ih]
    · simp [followedBy, h, ih, extend_cons _ (followedBy_ne_nil _ _)]

/-- One more entry lengthens the last run or starts another. -/
theorem ofEntries_concat (es : List (UInt16 × α)) (line : UInt16) (payload : α) :
    ofEntries (es ++ [(line, payload)]) = extend (ofEntries es) line payload := by
  cases es with
  | nil => rfl
  | cons e es => exact followedBy_concat _ es line payload

end Run

end Retimer
