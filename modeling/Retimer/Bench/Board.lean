import Retimer.Action

/-!
# Boards

A world put together from two halves that know nothing of each other: one that has the registers,
and one that makes endpoints.
-/

namespace Retimer.Bench

/-- A bus and a factory, side by side. -/
structure Board (β φ : Type) where
  /-- The half with the registers. -/
  bus : β
  /-- The half that makes endpoints. -/
  factory : φ

variable {β φ η : Type}

instance [Bus β] : Bus (Board β φ) where
  readByte address w :=
    let (answer, bus) := Bus.readByte address w.bus
    (answer, { w with bus })
  writeByte address value w :=
    let (answer, bus) := Bus.writeByte address value w.bus
    (answer, { w with bus })

namespace Board

/-- What is read is read from the half with the registers. -/
theorem readByte_eq [Bus β] (address : UInt8) (w : Board β φ) :
    Bus.readByte address w =
      ((Bus.readByte address w.bus).1, { w with bus := (Bus.readByte address w.bus).2 }) := rfl

/-- What is written is written there. -/
theorem writeByte_eq [Bus β] (address value : UInt8) (w : Board β φ) :
    Bus.writeByte address value w = ((Bus.writeByte address value w.bus).1,
      { w with bus := (Bus.writeByte address value w.bus).2 }) := rfl

end Board

instance [Factory φ η] : Factory (Board β φ) η where
  create channel w :=
    let (answer, factory) := Factory.create channel w.factory
    (answer, { w with factory })
  destroy handle w := { w with factory := Factory.destroy handle w.factory }

end Retimer.Bench
