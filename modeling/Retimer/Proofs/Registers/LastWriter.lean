import Mathlib.Data.List.Induction
import Retimer.Bench.RegisterFile
import Retimer.Register.Basic

/-!
# The last writer of a bit

A masked write changes the bits that its mask covers. When several writes go to one register, what
the register holds in the end is put together bit by bit: each bit was left there by the last of
the writes that covers it, and a bit that none of them covers is as it was.

So the writes that came before matter only where no later write covers. A list of writes that
covers at least what another list covers leaves no trace of it, and in particular a list carried
out twice, with the same masks but perhaps other values, comes to the second time alone.

## Main results

* `MaskedWrite.bitAt_storeAll`: every bit is what its last writer says
* `MaskedWrite.storeAll_storeAll`: writes that cover all that others covered undo them
-/

namespace Retimer

open Bench (RegisterFile)

/-! ## Bits -/

/-- The bit of a byte at a place, counted from the lowest. -/
def bitAt (value : UInt8) (i : Nat) : Bool := value.toBitVec.getLsbD i

theorem ext_bitAt {u v : UInt8} (h : ∀ i < 8, bitAt u i = bitAt v i) : u = v :=
  UInt8.toBitVec_inj.mp (BitVec.eq_of_getLsbD_eq h)

theorem bitAt_and (u v : UInt8) (i : Nat) : bitAt (u &&& v) i = (bitAt u i && bitAt v i) := by
  rw [bitAt, UInt8.toBitVec_and, BitVec.getLsbD_and]
  rfl

theorem bitAt_or (u v : UInt8) (i : Nat) : bitAt (u ||| v) i = (bitAt u i || bitAt v i) := by
  rw [bitAt, UInt8.toBitVec_or, BitVec.getLsbD_or]
  rfl

theorem bitAt_not (v : UInt8) {i : Nat} (h : i < 8) : bitAt (~~~v) i = !bitAt v i := by
  rw [bitAt, UInt8.toBitVec_not, BitVec.getLsbD_not, decide_eq_true h, Bool.true_and]
  rfl

theorem bitAt_fullMask {i : Nat} (h : i < 8) : bitAt fullMask i = true := by
  have hall : ∀ i : Fin 8, bitAt fullMask i = true := by decide
  exact hall ⟨i, h⟩

namespace MaskedWrite

/-! ## One write -/

/-- A masked write takes the covered bits from its value, and leaves the others. -/
theorem bitAt_merge (m : MaskedWrite) (prior : UInt8) {i : Nat} (h : i < 8) :
    bitAt (m.merge prior) i = if bitAt m.mask i then bitAt m.value i else bitAt prior i := by
  rw [merge, bitAt_or, bitAt_and, bitAt_and, bitAt_not _ h]
  cases hmask : bitAt m.mask i <;> simp

theorem merge_of_mask_eq {m : MaskedWrite} (hmask : m.mask = fullMask) (prior : UInt8) :
    m.merge prior = m.value := by
  refine ext_bitAt ?_
  intro i hi
  rw [bitAt_merge m prior hi, hmask, bitAt_fullMask hi, if_pos rfl]

theorem merge_and_mask (m : MaskedWrite) (prior : UInt8) :
    m.merge prior &&& m.mask = m.value &&& m.mask := by
  refine ext_bitAt ?_
  intro i hi
  rw [bitAt_and, bitAt_and, bitAt_merge m prior hi]
  cases bitAt m.mask i <;> simp

/-- A register file after the write. -/
def store (m : MaskedWrite) (file : RegisterFile) : RegisterFile :=
  file.set m.register.address (m.merge (file.get m.register.address))

theorem get_store (m : MaskedWrite) (file : RegisterFile) (address : UInt8) :
    (m.store file).get address =
      if address = m.register.address then m.merge (file.get address) else file.get address := by
  rw [store, RegisterFile.get_set]
  split
  case isTrue h => rw [h]
  case isFalse => rfl

/-- Whether the write decides a bit of the register at an address. -/
def covers (m : MaskedWrite) (address : UInt8) (i : Nat) : Bool :=
  m.register.address = address && bitAt m.mask i

theorem bitAt_store (m : MaskedWrite) (file : RegisterFile) (address : UInt8) {i : Nat}
    (h : i < 8) :
    bitAt ((m.store file).get address) i =
      if m.covers address i then bitAt m.value i else bitAt (file.get address) i := by
  rw [get_store]
  by_cases ha : m.register.address = address
  · rw [if_pos ha.symm, bitAt_merge m _ h]
    simp [covers, ha]
  · rw [if_neg (Ne.symm ha)]
    simp [covers, ha]

/-! ## Writes in a row -/

/-- A register file after the writes of a list, in turn. -/
def storeAll (ms : List MaskedWrite) (file : RegisterFile) : RegisterFile :=
  ms.foldl (fun file m => m.store file) file

@[simp] theorem storeAll_nil (file : RegisterFile) : storeAll [] file = file := rfl

@[simp] theorem storeAll_cons (m : MaskedWrite) (ms : List MaskedWrite) (file : RegisterFile) :
    storeAll (m :: ms) file = storeAll ms (m.store file) := rfl

theorem storeAll_concat (ms : List MaskedWrite) (m : MaskedWrite) (file : RegisterFile) :
    storeAll (ms ++ [m]) file = m.store (storeAll ms file) := by
  rw [storeAll, List.foldl_append]
  rfl

theorem storeAll_append (ms ns : List MaskedWrite) (file : RegisterFile) :
    storeAll (ms ++ ns) file = storeAll ns (storeAll ms file) := List.foldl_append

/-- What a register comes to is up to the writes to it. -/
theorem get_storeAll (ms : List MaskedWrite) (file : RegisterFile) (r : Register) :
    (storeAll ms file).get r.address =
      (ms.filter (·.register = r)).foldl (fun byte m => m.merge byte) (file.get r.address) := by
  induction ms generalizing file with
  | nil => rfl
  | cons m ms ih =>
    rw [storeAll_cons, ih, get_store]
    by_cases hr : m.register = r
    · rw [List.filter_cons_of_pos (by simpa using hr), if_pos (by rw [hr]), List.foldl_cons]
    · have hne : r.address ≠ m.register.address := fun h => hr (Register.address_injective h).symm
      rw [List.filter_cons_of_neg (by simpa using hr), if_neg hne]

/-- An address that none of the writes goes to is as it was. -/
theorem get_storeAll_of_notMem {ms : List MaskedWrite} {address : UInt8}
    (h : ∀ m ∈ ms, m.register.address ≠ address) (file : RegisterFile) :
    (storeAll ms file).get address = file.get address := by
  induction ms generalizing file with
  | nil => rfl
  | cons m ms ih =>
    obtain ⟨hm, hms⟩ := List.forall_mem_cons.mp h
    rw [storeAll_cons, ih hms, get_store, if_neg (Ne.symm hm)]

/-- A bit of a byte that masked writes go to, in turn. -/
theorem bitAt_foldl_merge (ms : List MaskedWrite) (old : UInt8) {i : Nat}
    (h : i < 8) :
    bitAt (ms.foldl (fun byte m => m.merge byte) old) i =
      ms.foldl (fun bit m => if bitAt m.mask i then bitAt m.value i else bit) (bitAt old i) := by
  induction ms generalizing old with
  | nil => rfl
  | cons m ms ih => rw [List.foldl_cons, ih, bitAt_merge m old h, List.foldl_cons]

/-- Masked writes to a byte come to keeping some bits and setting others, if they do so to every bit
by itself. -/
theorem foldl_merge_eq {ms : List MaskedWrite} {keep set : UInt8}
    (h : ∀ (i : Fin 8) (bit : Bool),
      ms.foldl (fun bit m => if bitAt m.mask i then bitAt m.value i else bit) bit =
        (bit && bitAt keep i || bitAt set i)) (old : UInt8) :
    ms.foldl (fun byte m => m.merge byte) old = (old &&& keep) ||| set := by
  refine ext_bitAt ?_
  intro i hi
  rw [bitAt_foldl_merge ms old hi, bitAt_or, bitAt_and]
  exact h ⟨i, hi⟩ (bitAt old i)

/-- The last of some writes that decides a bit. -/
def lastWriter? (ms : List MaskedWrite) (address : UInt8) (i : Nat) : Option MaskedWrite :=
  ms.reverse.find? (·.covers address i)

theorem lastWriter?_concat (ms : List MaskedWrite) (m : MaskedWrite) (address : UInt8) (i : Nat) :
    lastWriter? (ms ++ [m]) address i =
      if m.covers address i then some m else lastWriter? ms address i := by
  rw [lastWriter?, List.reverse_concat, List.find?_cons]
  cases m.covers address i <;> rfl

theorem lastWriter?_eq_none_iff {ms : List MaskedWrite} {address : UInt8} {i : Nat} :
    lastWriter? ms address i = none ↔ ∀ m ∈ ms, m.covers address i = false := by
  simp [lastWriter?]

/-- **Every bit is what its last writer says**, and a bit that has none is as it was. -/
theorem bitAt_storeAll (ms : List MaskedWrite) (file : RegisterFile) (address : UInt8) {i : Nat}
    (h : i < 8) :
    bitAt ((storeAll ms file).get address) i =
      (lastWriter? ms address i).elim (bitAt (file.get address) i) fun m => bitAt m.value i := by
  induction ms using List.reverseRecOn with
  | nil => rfl
  | append_singleton ms m ih =>
    rw [storeAll_concat, bitAt_store m _ _ h, ih, lastWriter?_concat]
    cases m.covers address i <;> rfl

/-! ## Overwriting -/

/-- Every bit that is decided by a write of the second list is decided by one of the first: for each
write there is one to the same register with the same mask. -/
def Overlay (ms others : List MaskedWrite) : Prop :=
  ∀ m ∈ others, ∃ n ∈ ms, n.register = m.register ∧ n.mask = m.mask

theorem overlay_of_map_eq {ms others : List MaskedWrite}
    (h : ms.map (fun m => (m.register, m.mask)) = others.map fun m => (m.register, m.mask)) :
    Overlay ms others := by
  intro m hm
  have hplace : (m.register, m.mask) ∈ ms.map fun m => (m.register, m.mask) :=
    h ▸ List.mem_map_of_mem hm
  obtain ⟨n, hn, heq⟩ := List.mem_map.mp hplace
  obtain ⟨hregister, hmask⟩ := Prod.mk.inj heq
  exact ⟨n, hn, hregister, hmask⟩

/-- **Writes that cover all that others covered undo them.** -/
theorem storeAll_storeAll {ms others : List MaskedWrite} (h : Overlay ms others)
    (file : RegisterFile) : storeAll ms (storeAll others file) = storeAll ms file := by
  refine RegisterFile.ext_get ?_
  intro address
  refine ext_bitAt ?_
  intro i hi
  rw [bitAt_storeAll ms _ _ hi, bitAt_storeAll ms file _ hi]
  cases hlast : lastWriter? ms address i with
  | some m => rfl
  | none =>
    have hnone : lastWriter? others address i = none := by
      rw [lastWriter?_eq_none_iff] at hlast ⊢
      intro m hm
      obtain ⟨n, hn, hregister, hmask⟩ := h m hm
      rw [covers, ← hregister, ← hmask]
      exact hlast n hn
    rw [Option.elim_none, bitAt_storeAll others file _ hi, hnone, Option.elim_none]

end MaskedWrite

end Retimer
