import Retimer.RingLog.Basic
import Retimer.Action

/-!
# The trace

The driver's records go into one ring log. Every kind of record is written at one place, so all of
them may carry the same line: the line tells nothing that the record does not.
-/

namespace Retimer

/-- How many slots the trace has. -/
abbrev traceCapacity : Nat := 32

/-- The driver's log. -/
abbrev Trace : Type := RingLog Record traceCapacity

namespace Trace

/-- The line under which the driver records. -/
def line : UInt16 := 0

/-- A trace without records. -/
def empty : Trace := RingLog.empty .none

/-- Adds a record. -/
def add (t : Trace) (entry : Record) : Trace := t.record (by decide) line entry

/-- Adds records in turn. -/
def addAll (t : Trace) (entries : List Record) : Trace := entries.foldl add t

/-- How often a record occurs in what the trace still holds. -/
def traced (t : Trace) (entry : Record) : Nat :=
  ((t.entries.filter (·.payload = entry)).map (·.count.toNat)).foldr (· + ·) 0

/-- Adds a count to a sum of counts, unless thirty-two bits cannot hold what comes out. -/
def addCount? (sum count : UInt32) : Option UInt32 :=
  if sum.toNat + count.toNat < UInt32.size then some (sum + count) else none

/-- As `traced`, but added up in a word of thirty-two bits, from the oldest entry on. Nothing comes
out if a sum on the way does not fit. -/
def tracedWord? (t : Trace) (entry : Record) : Option UInt32 :=
  ((t.entries.filter (·.payload = entry)).map (·.count)).foldlM addCount? 0

end Trace

end Retimer
