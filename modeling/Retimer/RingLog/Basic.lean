/-!
# Ring logs

A ring log keeps the most recent of what was recorded, in a fixed number of slots. It stretches
that room by counting: an entry that repeats the latest one, from the same line and with an equal
payload, takes no slot of its own but raises the count of the slot that is there. A slot that is
used again for a new entry raises its *generation*, so that a reader who looks twice can tell an
old entry from a new one that looks the same.

Three words bound what a slot can say. Lines and generations have sixteen bits, and a generation
wraps around. A count has thirty-two bits and does not wrap: when it is full, a further repeat
opens a new slot.

Two payloads repeat each other when `==` says so, with the stored payload on its left. Nothing is
assumed of that test; a payload may differ from itself.

A log is an ordinary value, and any content is a log: the index of the latest slot may lie outside
the ring, and slots may hold counts and generations from anywhere. Recording copes with all of
them. The one thing it needs is a slot, so a ring of none refuses every entry.

## Main definitions

* `RingLog.record`, `RingLog.tryRecord`: record an entry, or refuse
* `RingLog.latest`, `RingLog.entries`: what a reader sees
* `RingLog.rotated`: all slots, in the order in which they are next overwritten
-/

namespace Retimer

/-! ## Slots -/

/-- One place of a ring log. A slot that was never written has count zero. -/
structure Slot (α : Type) where
  /-- The line that recorded the entry. -/
  line : UInt16
  /-- How often the slot was opened, up to wrapping. -/
  generation : UInt16
  /-- How often the entry was recorded in a row. -/
  count : UInt32
  /-- The entry's payload. -/
  payload : α
deriving DecidableEq

namespace Slot

variable {α : Type}

/-- A slot that was never written. -/
def blank (payload : α) : Slot α := ⟨0, 0, 0, payload⟩

/-- Whether an entry is counted in this slot: it repeats the entry that is there, and the count has
room. -/
def joins [BEq α] (s : Slot α) (line : UInt16) (payload : α) : Bool :=
  s.line == line && s.payload == payload && s.count.toNat + 1 < UInt32.size

/-- Whether two slots show the same, lines apart. -/
def shows [BEq α] (s t : Slot α) : Bool :=
  s.generation == t.generation && s.count == t.count && s.payload == t.payload

/-- The slot after one more repeat. -/
def bump (s : Slot α) : Slot α := { s with count := s.count + 1 }

/-- The slot opened again for a new entry. -/
def renew (s : Slot α) (line : UInt16) (payload : α) : Slot α :=
  ⟨line, s.generation + 1, 1, payload⟩

end Slot

/-! ## The log -/

/-- A log of `n` slots. -/
structure RingLog (α : Type) (n : Nat) where
  /-- Where the latest entry is, once there is one. -/
  last : Option Nat
  /-- The slots. -/
  slots : Vector (Slot α) n

/-- Why an entry was refused: the slot it would go to is not there. -/
structure IndexError where
  /-- How many slots there are. -/
  len : Nat
  /-- The slot that was wanted. -/
  index : Nat
deriving DecidableEq

/-- The refusal in words. -/
def IndexError.message (e : IndexError) : String :=
  "index out of bounds: the len is " ++ toString e.len ++ " but the index is " ++ toString e.index

namespace RingLog

variable {α : Type} {n : Nat}

/-- A log in which nothing was recorded; `payload` fills the slots until something is. -/
def empty (payload : α) : RingLog α n := ⟨none, Vector.replicate n (.blank payload)⟩

/-! ### Recording -/

/-- The slot a new entry opens: the one after the latest, or the first when that would be outside
the ring or nothing was recorded yet. -/
def next (log : RingLog α n) : Nat :=
  match log.last with
  | none => 0
  | some i => if i + 1 < n then i + 1 else 0

theorem next_lt (log : RingLog α n) (hn : 0 < n) : log.next < n := by
  cases h : log.last with
  | none => simpa [next, h]
  | some i => by_cases hi : i + 1 < n <;> simp [next, h, hi, hn]

/-- The slot that an entry joins, if it joins one: only ever the latest. -/
def joined? [BEq α] (log : RingLog α n) (line : UInt16) (payload : α) : Option (Fin n) :=
  match log.last with
  | none => none
  | some i =>
    if h : i < n then
      if log.slots[i].joins line payload then some ⟨i, h⟩ else none
    else none

/-- Records an entry in a ring that has a slot: it joins the latest slot or opens the next one. -/
def record [BEq α] (log : RingLog α n) (hn : 0 < n) (line : UInt16) (payload : α) :
    RingLog α n :=
  match log.joined? line payload with
  | some i => { log with slots := log.slots.set i log.slots[i].bump }
  | none =>
    have h := log.next_lt hn
    ⟨some log.next, log.slots.set log.next (log.slots[log.next].renew line payload)⟩

/-- Records an entry, unless the ring has no slot for it. -/
def tryRecord [BEq α] (log : RingLog α n) (line : UInt16) (payload : α) :
    Except IndexError (RingLog α n) :=
  if hn : 0 < n then .ok (log.record hn line payload) else .error ⟨n, log.next⟩

/-- Records one entry for each payload, in turn. -/
def tryRecordAll [BEq α] (log : RingLog α n) (line : UInt16) (payloads : List α) :
    Except IndexError (RingLog α n) :=
  payloads.foldlM (fun log payload => log.tryRecord line payload) log

/-- Goes through the payloads a given number of times, recording each in turn. -/
def tryRecordRounds [BEq α] (line : UInt16) (payloads : List α) :
    Nat → RingLog α n → Except IndexError (RingLog α n)
  | 0, log => .ok log
  | rounds + 1, log =>
    match log.tryRecordAll line payloads with
    | .ok log => tryRecordRounds line payloads rounds log
    | .error e => .error e

/-! ### Reading -/

/-- The latest slot. -/
def latest (log : RingLog α n) : Option (Slot α) := log.last.bind fun i => log.slots[i]?

/-- How many slots lie up to and including the latest. -/
def split (log : RingLog α n) : Nat :=
  match log.last with
  | none => n
  | some i => min (i + 1) n

/-- All slots, the one that is overwritten next in front: those after the latest, then those up to
it. -/
def rotated (log : RingLog α n) : List (Slot α) :=
  log.slots.toList.drop log.split ++ log.slots.toList.take log.split

/-- The slots that hold an entry, oldest to newest. -/
def entries (log : RingLog α n) : List (Slot α) := log.rotated.filter (·.count != 0)

/-- The slots in which two states of a log differ, lines apart, each with its place and its later
content. -/
def changes [BEq α] (before after : RingLog α n) : List (Nat × Slot α) :=
  (List.finRange n).filterMap fun i =>
    if before.slots[i].shows after.slots[i] then none else some (i.val, after.slots[i])

end RingLog

end Retimer
