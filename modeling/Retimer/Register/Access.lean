import Retimer.Action

/-!
# Register access

The bus moves whole bytes. The driver wants to read some bits of a register, and to change some
bits while leaving the others alone. The second takes two accesses, a read and a write, unless the
mask covers the whole register: then there is nothing to keep and the read is left out.

An access that fails is recorded with the fault met, and ends the attempt. So a masked write whose
read fails writes nothing.
-/

namespace Retimer

variable {σ η : Type} [Bus σ]

/-- Reads the bits of a register that `mask` covers. -/
def readRegister (register : Register) (mask : UInt8) : Attempt σ η UInt8 := ExceptT.mk do
  match ← Action.readByte register.address with
  | .ok value => return .ok (value &&& mask)
  | .error fault =>
    Action.record (.readFailed register fault)
    return .error (.ofBusFault fault)

/-- Writes a whole register. -/
def storeRegister (register : Register) (value : UInt8) : Attempt σ η Unit := ExceptT.mk do
  match ← Action.writeByte register.address value with
  | .ok () => return .ok ()
  | .error fault =>
    Action.record (.writeFailed register value fault)
    return .error (.ofBusFault fault)

namespace MaskedWrite

/-- The byte that the write puts on the bus: its own value where the mask covers the register, and
what the register holds elsewhere. -/
def compose (w : MaskedWrite) : Attempt σ η UInt8 :=
  if w.mask = fullMask then
    return w.value
  else do
    let kept ← readRegister w.register (~~~ w.mask)
    return (w.value &&& w.mask) ||| kept

/-- Carries the write out. -/
def apply (w : MaskedWrite) : Attempt σ η Unit := do
  storeRegister w.register (← w.compose)

end MaskedWrite

end Retimer
