import Retimer.Bench.BankedPart
import Retimer.Bench.Board
import Retimer.Bench.Faulty
import Retimer.Proofs.Programming
import Retimer.Proofs.Registers.View

/-!
# Programming a part with banks

A recipe selects a channel and then writes to that channel's registers. On a part with banks the
first two writes go to the shared registers, and the others to the bank of whichever channel is
then selected. `Banked` says of a world that there is such a part in it, whose accesses may fail in
any pattern; an access that fails changes nothing.

The two halves of a recipe are two views. The shared registers are always in sight, and no access
to them changes a bank. The registers of a channel are in sight while that channel is selected, and
no access to them changes anything but its own bank. So what programming does to the banks hangs
on one thing: whether the channel select could be written.

## Main results

* `Channel.selecting_run`: selecting a channel selects it, or leaves the selection as it was
* `MaskedWrite.applyAll_lane`: writes to a channel's registers stay in the bank of the one selected
* `configure_bank_eq`: programming changes no bank but its own, unless the selection failed
* `configure_contents`: without faults, what the part holds after a programming
-/

namespace Retimer

open Bench (RegisterFile Contents BankedPart Faulty Board)

variable {σ η : Type}

/-! ## Selecting -/

theorem Channel.selectMask_injective {c d : Channel} (h : c.selectMask = d.selectMask) : c = d := by
  have hall : ∀ i j : Fin maxChannels,
      (Channel.mk i).selectMask = (Channel.mk j).selectMask → i = j := by decide
  exact congrArg Channel.mk (hall c.index d.index h)

namespace Bench.Contents

theorem selected?_eq_some_iff {x : Contents} {c : Channel} :
    x.selected? = some c ↔ x.shared.get Register.channelSelect.address = c.selectMask := by
  constructor
  · intro h
    have hmask : c.selectMask = x.shared.get Register.channelSelect.address := by
      simpa using List.find?_some h
    exact hmask.symm
  · intro h
    rw [selected?, h]
    obtain ⟨d, hd⟩ : ∃ d, Channel.all.find? (·.selectMask = c.selectMask) = some d :=
      Option.isSome_iff_exists.mp (List.find?_isSome.mpr ⟨c, c.mem_all, by simp⟩)
    have hmask : d.selectMask = c.selectMask := by simpa using List.find?_some hd
    rw [hd, Channel.selectMask_injective hmask]

theorem selected?_congr {x y : Contents} (h : x.shared.get Register.channelSelect.address =
    y.shared.get Register.channelSelect.address) : x.selected? = y.selected? := by
  rw [selected?, h, selected?]

@[simp] theorem selected?_setBank (x : Contents) (c : Channel) (file : RegisterFile) :
    (x.setBank c file).selected? = x.selected? := rfl

@[simp] theorem setBank_setBank (x : Contents) (c : Channel) (file other : RegisterFile) :
    (x.setBank c file).setBank c other = x.setBank c other := by
  rw [setBank, setBank, setBank]
  congr 1
  funext d
  by_cases h : d = c <;> simp [h]

@[simp] theorem setBank_bank (x : Contents) (c : Channel) : x.setBank c (x.bank c) = x := by
  rw [setBank]
  congr 1
  funext d
  by_cases h : d = c <;> simp [h]

end Bench.Contents

/-! ## The two halves of a recipe -/

/-- The writes of a recipe that select the channel. -/
def Channel.selecting (c : Channel) (rate : LineRate) : List MaskedWrite :=
  (recipe c rate).toList.take 2

/-- The writes of a recipe that follow, to the channel's own registers. -/
def laneWrites (c : Channel) (rate : LineRate) : List MaskedWrite := (recipe c rate).toList.drop 2

theorem selecting_append_laneWrites (c : Channel) (rate : LineRate) :
    c.selecting rate ++ laneWrites c rate = (recipe c rate).toList :=
  List.take_append_drop 2 _

theorem isPerChannel_laneWrites (c : Channel) (rate : LineRate) :
    ∀ m ∈ laneWrites c rate, isPerChannelAddress m.register.address = true := by
  have hall : (laneWrites c rate).all fun m => m.register.isPerChannel := rfl
  intro m hm
  rw [isPerChannelAddress_address]
  exact List.all_eq_true.mp hall m hm

theorem isPerChannel_selecting (c : Channel) (rate : LineRate) :
    ∀ m ∈ c.selecting rate, isPerChannelAddress m.register.address = false := by
  have hall : (c.selecting rate).all fun m => !m.register.isPerChannel := rfl
  intro m hm
  rw [isPerChannelAddress_address]
  simpa using List.all_eq_true.mp hall m hm

section Halves

variable [Bus σ]

theorem configure_world_halves (c : Channel) (rate : LineRate) (w : σ) :
    let first := (MaskedWrite.applyAll (c.selecting rate) : Action σ η _).run w
    let second := (MaskedWrite.applyAll (laneWrites c rate) : Action σ η _).run first.world
    ((configure c rate : Attempt σ η Unit).run.run w).world = second.world := by
  rw [configure_world, ← selecting_append_laneWrites, MaskedWrite.applyAll_append]

/-- What happens while the channel is selected happens in the programming. -/
theorem mem_configure_of_mem_selecting {c : Channel} {rate : LineRate} {w : σ} {e : Event η}
    (h : e ∈ ((MaskedWrite.applyAll (c.selecting rate) : Action σ η _).run w).journal) :
    e ∈ ((configure c rate : Attempt σ η Unit).run.run w).journal := by
  rw [configure, ExceptT.run_mk, Action.run_bind, ← selecting_append_laneWrites,
    MaskedWrite.applyAll_append]
  exact List.mem_append_left _ (List.mem_append_left _ h)

end Halves

/-! ## Worlds with banks -/

/-- There is a part with banks in the world, whose accesses may fail. -/
class Banked (σ : Type) [Bus σ] where
  /-- What the registers hold. -/
  contents : σ → Contents
  /-- A read that reaches registers changes none, and answers, if it does, with what is there. -/
  readByte : ∀ {address : UInt8} {w : σ} {file : RegisterFile},
    (contents w).reached? address = some file →
      contents (Bus.readByte address w).2 = contents w ∧
        ∀ value, (Bus.readByte address w).1 = .ok value → value = file.get address
  /-- A write that reaches registers stores the byte, if it goes through. -/
  writeByte : ∀ {address value : UInt8} {w : σ} {after : Contents},
    (contents w).write? address value = some after →
      contents (Bus.writeByte address value w).2 =
        if (Bus.writeByte address value w).1.isOk then after else contents w

instance : Banked BankedPart where
  contents part := part.contents
  readByte {address part file} h := by
    have hrun : Bus.readByte address part = (.ok (file.get address), part) := by
      simp only [Bus.readByte, h]
    rw [hrun]
    exact ⟨rfl, fun value hvalue => (Except.ok.inj hvalue).symm⟩
  writeByte {address value part after} h := by
    have hrun : Bus.writeByte address value part = (.ok (), { part with contents := after }) := by
      simp only [Bus.writeByte, h]
    rw [hrun]
    rfl

instance {β : Type} [Bus β] [Banked β] : Banked (Faulty β) where
  contents w := Banked.contents w.part
  readByte {address w file} h := by
    cases hf : w.fault? (.read address) with
    | some fault =>
      rw [Faulty.readByte_of_fault hf]
      exact ⟨rfl, nofun⟩
    | none =>
      rw [Faulty.readByte_of_none hf]
      exact Banked.readByte h
  writeByte {address value w after} h := by
    cases hf : w.fault? (.write address value) with
    | some fault =>
      rw [Faulty.writeByte_of_fault hf]
      rfl
    | none =>
      rw [Faulty.writeByte_of_none hf]
      exact Banked.writeByte h

instance {β φ : Type} [Bus β] [Banked β] : Banked (Board β φ) where
  contents w := Banked.contents w.bus
  readByte h := Banked.readByte h
  writeByte h := Banked.writeByte h

variable [Bus σ] [Banked σ]

open Banked (contents)

/-! ## Views -/

/-- The shared registers, which are in sight while the banks hold what they do. -/
def sharedView (bank : Channel → RegisterFile) : RegisterView σ where
  file w := (contents w).shared
  holds w := (contents w).bank = bank
  reaches address := isPerChannelAddress address = false
  readByte ha hw := by
    rw [(Banked.readByte (Contents.reached?_of_shared ha)).1]
    exact ⟨hw, rfl⟩
  answer ha _ hanswer := (Banked.readByte (Contents.reached?_of_shared ha)).2 _ hanswer
  writeByte ha hw := by
    rw [Banked.writeByte (Contents.write?_of_shared ha _)]
    split
    · exact ⟨hw, rfl⟩
    · exact ⟨hw, rfl⟩

/-- The registers of the channel that is selected, which are in sight while everything else holds
what it does. -/
def bankView {before : Contents} {c : Channel} (hc : before.selected? = some c) :
    RegisterView σ where
  file w := (contents w).bank c
  holds w := contents w = before.setBank c ((contents w).bank c)
  reaches address := isPerChannelAddress address = true
  readByte ha hw := by
    have hselected := (congrArg Contents.selected? hw).trans hc
    rw [(Banked.readByte (Contents.reached?_of_selected ha hselected)).1]
    exact ⟨hw, rfl⟩
  answer ha hw hanswer := by
    have hselected := (congrArg Contents.selected? hw).trans hc
    exact (Banked.readByte (Contents.reached?_of_selected ha hselected)).2 _ hanswer
  writeByte ha hw := by
    have hselected := (congrArg Contents.selected? hw).trans hc
    rw [Banked.writeByte (Contents.write?_of_selected ha hselected _)]
    split
    · refine ⟨?_, by simp⟩
      rw [hw]
      simp
    · exact ⟨hw, rfl⟩

/-! ## Carrying out the halves -/

/-- A write to another shared register than the channel select leaves banks and selection alone. -/
theorem MaskedWrite.Block.selected?_eq {m : MaskedWrite} {journal : List (Event η)} {w w' : σ}
    (h : m.Block journal) (hshared : isPerChannelAddress m.register.address = false)
    (hne : Register.channelSelect.address ≠ m.register.address)
    (hanswered : Answered w journal w') :
    (contents w').bank = (contents w).bank ∧
      (contents w').selected? = (contents w).selected? := by
  obtain ⟨hbank, hfile⟩ := (sharedView (contents w).bank).block hshared rfl h hanswered
  refine ⟨hbank, Contents.selected?_congr ?_⟩
  have hget := congrArg (·.get Register.channelSelect.address) hfile
  refine hget.trans ?_
  split
  · exact (m.get_store _ _).trans (if_neg hne)
  · rfl

/-- Storing to the channel select selects the channel, or leaves the selection as it was. -/
theorem Stored.selects {c : Channel} {journal : List (Event η)} {w w' : σ}
    (h : Stored .channelSelect c.selectMask journal) (hanswered : Answered w journal w') :
    (contents w').bank = (contents w).bank ∧
      ((contents w').selected? = some c ∨
        (contents w').selected? = (contents w).selected? ∧
          ∃ fault, .write Register.channelSelect.address c.selectMask (.error fault) ∈
            journal) := by
  obtain ⟨hbank, hfile⟩ := (sharedView (contents w).bank).stored (r := .channelSelect)
    rfl rfl h hanswered
  refine ⟨hbank, ?_⟩
  have hget := congrArg (·.get Register.channelSelect.address) hfile
  cases h with
  | through =>
    have hset : ((contents w).shared.set Register.channelSelect.address c.selectMask).get
        Register.channelSelect.address = c.selectMask := by simp [RegisterFile.get_set]
    exact .inl (Contents.selected?_eq_some_iff.mpr (hget.trans hset))
  | refused fault => exact .inr ⟨Contents.selected?_congr hget, fault, by simp⟩

/-- **Selecting a channel selects it, or fails and leaves the selection as it was.** The banks are
not touched either way. -/
theorem Channel.selecting_run (c : Channel) (rate : LineRate) (w : σ) :
    let o := (MaskedWrite.applyAll (c.selecting rate) : Action σ η _).run w
    (contents o.world).bank = (contents w).bank ∧
      ((contents o.world).selected? = some c ∨
        (contents o.world).selected? = (contents w).selected? ∧
          ∃ fault, .write Register.channelSelect.address c.selectMask (.error fault) ∈
            o.journal) := by
  let access : MaskedWrite := ⟨.smbusControl, 0x01, 0x03⟩
  let select : MaskedWrite := ⟨.channelSelect, c.selectMask, fullMask⟩
  obtain ⟨j₁, w₁, hblock₁, hanswered₁, hrun₁⟩ := @MaskedWrite.apply_run σ η _ access w
  obtain ⟨j₂, w₂, hblock₂, hanswered₂, hrun₂⟩ := @MaskedWrite.apply_run σ η _ select w₁
  have hrun : (MaskedWrite.applyAll (c.selecting rate) : Action σ η _).run w =
      ⟨[verdict j₁, verdict j₂], w₂, j₁ ++ j₂⟩ := by
    have heq : c.selecting rate = [access, select] := rfl
    simp [heq, MaskedWrite.applyAll, hrun₁, hrun₂]
  obtain ⟨hbank₁, hkept⟩ := hblock₁.selected?_eq rfl (by decide) hanswered₁
  obtain ⟨hbank₂, hselected⟩ := (hblock₂.stored rfl).selects hanswered₂
  rw [hrun]
  refine ⟨hbank₂.trans hbank₁, hselected.imp_right ?_⟩
  rintro ⟨hsame, fault, hfault⟩
  exact ⟨hsame.trans hkept, fault, List.mem_append_right _ hfault⟩

/-- **Writes to a channel's registers stay in the bank of the channel that is selected.** -/
theorem MaskedWrite.applyAll_lane {ms : List MaskedWrite}
    (hms : ∀ m ∈ ms, isPerChannelAddress m.register.address = true) {w : σ} {c : Channel}
    (hc : (contents w).selected? = some c) :
    contents ((applyAll ms : Action σ η _).run w).world =
      (contents w).setBank c
        (storeAll (succeeded ms ((applyAll ms : Action σ η _).run w).value)
          ((contents w).bank c)) := by
  obtain ⟨hholds, hfile⟩ := @RegisterView.applyAll σ η _ (bankView hc) w ms hms (by simp [bankView])
  exact hholds.trans (congrArg ((contents w).setBank c) hfile)

/-! ## Programming -/

/-- **Programming changes no bank but its own, unless the channel select could not be written.**
Then it may change the bank of the channel that was selected before. -/
theorem configure_bank_eq (c : Channel) (rate : LineRate) {w : σ} {d : Channel}
    (hd : (contents w).selected? = some d) {other : Channel} (hne : other ≠ c) :
    let o := (configure c rate : Attempt σ η Unit).run.run w
    (contents o.world).bank other = (contents w).bank other ∨
      other = d ∧
        ∃ fault, .write Register.channelSelect.address c.selectMask (.error fault) ∈ o.journal := by
  obtain ⟨hbank, hselected⟩ := @Channel.selecting_run σ η _ _ c rate w
  have hlane := fun e => @MaskedWrite.applyAll_lane σ η _ _ _ (isPerChannel_laneWrites c rate)
    ((MaskedWrite.applyAll (c.selecting rate) : Action σ η _).run w).world e
  intro o
  rw [show o.world = _ from configure_world_halves c rate w]
  rcases hselected with hc | ⟨hkept, fault, hfault⟩
  · left
    rw [hlane c hc, Contents.bank_setBank, if_neg hne, hbank]
  · by_cases hother : other = d
    · exact .inr ⟨hother, fault, mem_configure_of_mem_selecting hfault⟩
    · left
      rw [hlane d (hkept.trans hd), Contents.bank_setBank, if_neg hother, hbank]

/-- What a part with banks holds after a channel was programmed. -/
def Bench.Contents.programmed (x : Contents) (c : Channel) (rate : LineRate) : Contents :=
  (Contents.mk (MaskedWrite.storeAll (c.selecting rate) x.shared) x.bank).setBank c
    (MaskedWrite.storeAll (laneWrites c rate) (x.bank c))

/-- **Without faults, a programming is its shared writes and then its own, in its own bank**,
whichever channel was selected before, and if none was. -/
theorem configure_contents (hσ : Faultless σ) (c : Channel) (rate : LineRate) (w : σ) :
    contents ((configure c rate : Attempt σ η Unit).run.run w).world =
      (contents w).programmed c rate := by
  obtain ⟨hbank, hshared⟩ := @RegisterView.applyAll_of_faultless σ η _
    (sharedView (contents w).bank) hσ _ (isPerChannel_selecting c rate) w rfl
  generalize hfirst : (MaskedWrite.applyAll (c.selecting rate) : Action σ η _).run w = first
    at hbank hshared
  have hcontents : contents first.world =
      ⟨MaskedWrite.storeAll (c.selecting rate) (contents w).shared, (contents w).bank⟩ :=
    congr (congrArg Contents.mk hshared) hbank
  have hselected : (contents first.world).selected? = some c := by
    rw [Contents.selected?_eq_some_iff, hcontents]
    exact (MaskedWrite.get_store _ _ _).trans (MaskedWrite.merge_of_mask_eq rfl _)
  have hlane := @MaskedWrite.applyAll_lane σ η _ _ _ (isPerChannel_laneWrites c rate) _ _ hselected
  rw [MaskedWrite.applyAll_of_faultless hσ, MaskedWrite.succeeded_all] at hlane
  rw [configure_world_halves, hfirst, hlane, hcontents]
  rfl

end Retimer
