import Retimer.Failure

/-!
# Channels

A part of this family carries up to eight lanes, and a `Channel` is one of those eight places in
the register layout. Whether a particular part populates that place is not a property of the
channel; only discovery can tell.

A channel is selected by writing a one-hot byte, so eight is also as many as one select register
can hold.

## Main results

* `Channel.mem_first_iff`: the first `count` channels are those whose index is below `count`
* `Channel.ofArgs_eq_ok_iff`: binding arguments name a channel only as the single cell that holds
  its index
-/

namespace Retimer

/-- The number of channel places on the largest part of the family. -/
abbrev maxChannels : Nat := 8

/-- One lane of a part, by its place in the register layout. -/
structure Channel where
  /-- The place, counted from zero. -/
  index : Fin maxChannels
deriving DecidableEq

namespace Channel

/-- The place as a number. -/
def toNat (c : Channel) : Nat := c.index

/-- Channels are ordered by their place. -/
instance : Ord Channel := ⟨fun a b => compare a.toNat b.toNat⟩

/-- The channel at a place, if the layout has that place. -/
def ofIndex? (n : Nat) : Option Channel :=
  if h : n < maxChannels then some ⟨n, h⟩ else none

/-- The byte that selects this channel alone: one bit, at the channel's place. -/
def selectMask (c : Channel) : UInt8 := 1 <<< UInt8.ofNat c.toNat

/-- All channels in ascending order. -/
def all : List Channel := (List.finRange maxChannels).map Channel.mk

/-- The first `count` channels in ascending order; a larger count means all of them. -/
def first (count : Nat) : List Channel := all.take count

/-- Reads binding arguments: exactly one cell, which holds the channel's place. A cell too large
for the layout is refused as it stands and never cut down to its low bits. -/
def ofArgs : List UInt32 → Except Failure Channel
  | [cell] =>
    match ofIndex? cell.toNat with
    | some c => .ok c
    | none => .error .invalidChannel
  | _ => .error .invalidBinding

/-! ## Basic facts -/

@[ext] theorem ext_toNat {a b : Channel} (h : a.toNat = b.toNat) : a = b := by
  cases a; cases b
  simpa [toNat, Fin.ext_iff] using h

theorem toNat_lt (c : Channel) : c.toNat < maxChannels := c.index.isLt

@[simp] theorem toNat_mk (i : Fin maxChannels) : (Channel.mk i).toNat = i := rfl

theorem ofIndex?_eq_some_iff {n : Nat} {c : Channel} : ofIndex? n = some c ↔ c.toNat = n := by
  unfold ofIndex?
  split
  · rename_i h
    constructor
    · rintro ⟨⟩; rfl
    · rintro rfl; rfl
  · rename_i h
    constructor
    · nofun
    · rintro rfl; exact absurd c.toNat_lt h

theorem mem_all (c : Channel) : c ∈ all := by
  simp [all]

/-- The first `count` channels are those whose place is below `count`. -/
theorem mem_first_iff {count : Nat} {c : Channel} : c ∈ first count ↔ c.toNat < count := by
  simp only [first, all, List.mem_take_iff_getElem, List.getElem_map, List.getElem_finRange]
  constructor
  · rintro ⟨i, hi, rfl⟩
    exact (Nat.lt_min.mp hi).1
  · intro h
    exact ⟨c.toNat, by simpa using Nat.lt_min.mpr ⟨h, c.toNat_lt⟩, rfl⟩

/-- Binding arguments name a channel exactly when they are the single cell with its place. -/
theorem ofArgs_eq_ok_iff {args : List UInt32} {c : Channel} :
    ofArgs args = .ok c ↔ ∃ cell, args = [cell] ∧ cell.toNat = c.toNat := by
  unfold ofArgs
  split
  · rename_i cell
    split <;> rename_i h
    · rw [ofIndex?_eq_some_iff] at h
      simp only [Except.ok.injEq, List.cons.injEq, and_true, exists_eq_left']
      rw [← h]
      exact ⟨fun e => by rw [e], fun e => ext_toNat e⟩
    · simp only [List.cons.injEq, and_true, exists_eq_left', reduceCtorEq, false_iff]
      intro e
      rw [ofIndex?_eq_some_iff.mpr e.symm] at h
      nomatch h
  · rename_i h
    simp only [reduceCtorEq, false_iff]
    rintro ⟨cell, rfl, _⟩
    exact h cell rfl

end Channel

end Retimer
