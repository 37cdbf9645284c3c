import Retimer.Bench.SimulatedPart

/-!
# Faults in any pattern

To ask what a fault can do is to ask it of every fault, at every access, after anything that
happened before. `Faulty` puts such faults in front of a part that has none of its own: a pattern
says of every sequence of accesses whether the last of them fails. An access that fails does not
reach the part.
-/

namespace Retimer.Bench

/-- A part whose accesses may fail. -/
structure Faulty (β : Type) where
  /-- The part. -/
  part : β
  /-- The accesses so far, oldest first, those that failed included. -/
  past : List Access
  /-- What the last of some accesses fails with, if it fails. -/
  pattern : List Access → Option BusFault

variable {β : Type}

namespace Faulty

/-- The fault that an access meets, if it meets one. -/
def fault? (w : Faulty β) (access : Access) : Option BusFault := w.pattern (w.past ++ [access])

/-- Remembers an access. -/
def remember (w : Faulty β) (access : Access) : Faulty β := { w with past := w.past ++ [access] }

end Faulty

instance [Bus β] : Bus (Faulty β) where
  readByte address w :=
    let after := w.remember (.read address)
    match w.fault? (.read address) with
    | some fault => (.error fault, after)
    | none =>
      let (answer, part) := Bus.readByte address w.part
      (answer, { after with part })
  writeByte address value w :=
    let after := w.remember (.write address value)
    match w.fault? (.write address value) with
    | some fault => (.error fault, after)
    | none =>
      let (answer, part) := Bus.writeByte address value w.part
      (answer, { after with part })

namespace Faulty

variable [Bus β] {w : Faulty β} {address value : UInt8}

theorem readByte_of_fault {fault : BusFault} (h : w.fault? (.read address) = some fault) :
    Bus.readByte address w = (.error fault, w.remember (.read address)) := by
  simp only [Bus.readByte, h]

theorem readByte_of_none (h : w.fault? (.read address) = none) :
    Bus.readByte address w = ((Bus.readByte address w.part).1,
      { w.remember (.read address) with part := (Bus.readByte address w.part).2 }) := by
  simp only [Bus.readByte, h]

theorem writeByte_of_fault {fault : BusFault} (h : w.fault? (.write address value) = some fault) :
    Bus.writeByte address value w = (.error fault, w.remember (.write address value)) := by
  simp only [Bus.writeByte, h]

theorem writeByte_of_none (h : w.fault? (.write address value) = none) :
    Bus.writeByte address value w = ((Bus.writeByte address value w.part).1,
      { w.remember (.write address value) with
        part := (Bus.writeByte address value w.part).2 }) := by
  simp only [Bus.writeByte, h]

end Faulty

end Retimer.Bench
