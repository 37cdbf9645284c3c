import Mathlib.Data.List.Forall2
import Retimer.Proofs.Registers.Simulated

/-!
# What programming shows of the choice

Which channel is programmed is to show in the channel select, and for which rate in the upper half
of the rate register. Two recipes differ there and nowhere else, so for one programming of a part
this is plain. For programmings in a row it is not: all steps but one write back what they read, and
a difference that got into the wrong bits once would be read there again and carried on by every
programming to come, past the refusals of some registers and not of others.

So two sequences of programmings are run side by side here, with any channels and any rates in
either. `SimulatedPart.Agree` says that the two parts differ at most where they may, in what they
hold and in what they logged. A masked write keeps it up, if the other side's write has the same
register and the same mask, and its value differs at most there too. That is a property of the
recipes, and it is all that is used of them.

The relation leaves open what is in the channel select. That is told of one sequence by itself: what
was put there is, in order, the bit of each channel.

## Main results

* `AgreeAt.merge`: masks that are the same keep a difference in its place
* `Bench.SimulatedPart.Agree.applyAll`: agreement is kept up by writes that match
* `Bench.SimulatedPart.selections_configureAll`: what is put in the channel select
* `configureAll_indifferent`: what two sequences of programmings have in common
-/

namespace Retimer

open Bench (SimulatedPart Access)

variable {η : Type}

/-! ## Bytes that agree -/

/-- The bits of the register at an address that the channel and the rate may decide. -/
def choiceBits (address : UInt8) : UInt8 :=
  if address = Register.channelSelect.address then 0xFF
  else if address = Register.rateSelect.address then 0xF0
  else 0x00

/-- Two bytes for the register at an address differ in those bits at most. -/
def AgreeAt (address x y : UInt8) : Prop :=
  x &&& ~~~choiceBits address = y &&& ~~~choiceBits address

namespace AgreeAt

variable {address x y : UInt8}

theorem refl (address x : UInt8) : AgreeAt address x x := rfl

/-- Any two bytes agree for the channel select. -/
theorem at_channelSelect (x y : UInt8) : AgreeAt Register.channelSelect.address x y := by
  rw [AgreeAt, choiceBits, if_pos rfl, show ~~~(0xFF : UInt8) = 0 from rfl, UInt8.and_zero,
    UInt8.and_zero]

theorem iff_bitAt :
    AgreeAt address x y ↔
      ∀ i < 8, bitAt (choiceBits address) i = false → bitAt x i = bitAt y i := by
  constructor
  · intro h i hi hfixed
    have hbit := congrArg (bitAt · i) h
    simpa [bitAt_and, bitAt_not _ hi, hfixed] using hbit
  · intro h
    refine ext_bitAt ?_
    intro i hi
    rw [bitAt_and, bitAt_and, bitAt_not _ hi]
    cases hfixed : bitAt (choiceBits address) i with
    | true => simp
    | false => rw [h i hi hfixed]

end AgreeAt

/-- Two masked writes go to the same bits of the same register, with values that agree there. -/
structure MaskedWrite.Matches (m n : MaskedWrite) : Prop where
  /-- The registers are the same. -/
  register : n.register = m.register
  /-- So are the masks. -/
  mask : n.mask = m.mask
  /-- The values agree. -/
  value : AgreeAt m.register.address m.value n.value

/-- **Masks that are the same keep a difference in its place.** -/
theorem AgreeAt.merge {m n : MaskedWrite} {x y : UInt8} (hmn : m.Matches n)
    (h : AgreeAt m.register.address x y) :
    AgreeAt m.register.address (m.merge x) (n.merge y) := by
  rw [iff_bitAt] at h ⊢
  intro i hi hfixed
  rw [m.bitAt_merge x hi, n.bitAt_merge y hi, hmn.mask]
  split
  · exact iff_bitAt.mp hmn.value i hi hfixed
  · exact h i hi hfixed

/-- Recipes match, whatever they are for. -/
theorem matches_recipe (c d : Channel) (rate other : LineRate) :
    List.Forall₂ MaskedWrite.Matches (recipe c rate).toList (recipe d other).toList := by
  have hsame (m : MaskedWrite) : m.Matches m := ⟨rfl, rfl, rfl⟩
  have hselect : MaskedWrite.Matches ⟨.channelSelect, c.selectMask, fullMask⟩
      ⟨.channelSelect, d.selectMask, fullMask⟩ := by
    refine ⟨rfl, rfl, .at_channelSelect _ _⟩
  have hrate : MaskedWrite.Matches ⟨.rateSelect, rateField rate, 0xF0⟩
      ⟨.rateSelect, rateField other, 0xF0⟩ := by
    refine ⟨rfl, rfl, ?_⟩
    have hbits : choiceBits Register.rateSelect.address = 0xF0 := by decide
    rw [AgreeAt, hbits]
    cases rate <;> cases other <;> rfl
  exact .cons (hsame _) <| .cons hselect <| .cons (hsame _) <| .cons (hsame _) <| .cons hrate <|
    List.forall₂_same.mpr fun m _ => hsame m

namespace Bench

/-! ## Parts that agree -/

/-- Two accesses go the same way to the same register, and write bytes that agree there. -/
inductive Access.Alike : Access → Access → Prop
  /-- Reads look the same. -/
  | read (address : UInt8) : Alike (.read address) (.read address)
  /-- Writes may differ where the choice shows. -/
  | write {address value other : UInt8} (h : AgreeAt address value other) :
    Alike (.write address value) (.write address other)

theorem Access.Alike.refl (access : Access) : access.Alike access := by
  cases access with
  | read address => exact .read address
  | write address value => exact .write (.refl address value)

theorem Access.Alike.place_eq {a b : Access} (h : a.Alike b) : a.place = b.place := by
  cases h <;> rfl

namespace SimulatedPart

/-- Two parts that refuse the same differ, in what they hold and what they logged, at most where the
choice shows. -/
structure Agree (part other : SimulatedPart) : Prop where
  /-- The same cannot be read. -/
  unreadable : other.unreadable = part.unreadable
  /-- The same cannot be written. -/
  unwritable : other.unwritable = part.unwritable
  /-- What the registers hold agrees. -/
  registers : ∀ address, AgreeAt address (part.registers.get address) (other.registers.get address)
  /-- The accesses so far are alike, one by one. -/
  log : List.Forall₂ Access.Alike part.log other.log

namespace Agree

variable {part other : SimulatedPart} {m n : MaskedWrite}

theorem refl (part : SimulatedPart) : part.Agree part where
  unreadable := rfl
  unwritable := rfl
  registers _ := rfl
  log := List.forall₂_same.mpr fun access _ => .refl access

theorem remember (h : part.Agree other) {a b : Access} (hab : a.Alike b) :
    (part.remember a).Agree (other.remember b) where
  unreadable := h.unreadable
  unwritable := h.unwritable
  registers := h.registers
  log := List.rel_append h.log (.cons hab .nil)

theorem put (h : part.Agree other) {address x y : UInt8} (hxy : AgreeAt address x y) :
    (part.put address x).Agree (other.put address y) where
  unreadable := h.unreadable
  unwritable := h.unwritable
  registers := by
    intro a
    rw [put_registers, put_registers, h.unwritable]
    split
    · exact h.registers a
    · rw [RegisterFile.get_set, RegisterFile.get_set]
      split
      case isTrue heq => exact heq ▸ hxy
      case isFalse => exact h.registers a
  log := List.rel_append h.log (.cons (.write hxy) .nil)

theorem queried (h : part.Agree other) (hmn : m.Matches n) :
    (part.queried m).Agree (other.queried n) := by
  rw [SimulatedPart.queried, SimulatedPart.queried, hmn.mask, hmn.register]
  split
  · exact h
  · exact h.remember (.read _)

theorem tries_eq (h : part.Agree other) (hmn : m.Matches n) : other.tries n = part.tries m := by
  rw [tries, tries, hmn.mask, hmn.register, h.unreadable]

theorem takes_eq (h : part.Agree other) (hmn : m.Matches n) : other.takes n = part.takes m := by
  rw [takes, takes, h.tries_eq hmn, hmn.register, h.unwritable]

/-- Writes that match come to the same, and keep agreement up. -/
theorem apply (h : part.Agree other) (hmn : m.Matches n) :
    let o := (m.apply : Attempt SimulatedPart η Unit).run.run part
    let o' := (n.apply : Attempt SimulatedPart η Unit).run.run other
    o'.value = o.value ∧ o.world.Agree o'.world := by
  intro o o'
  obtain ⟨hvalue, hworld⟩ := @apply_run η m part
  obtain ⟨hvalue', hworld'⟩ := @apply_run η n other
  rw [h.takes_eq hmn] at hvalue'
  rw [h.tries_eq hmn, hmn.register] at hworld'
  refine ⟨hvalue'.trans hvalue.symm, ?_⟩
  rw [show o.world = _ from hworld, show o'.world = _ from hworld']
  split
  · exact (h.queried hmn).put ((h.registers _).merge hmn)
  · exact h.queried hmn

/-- So do several, one after the other. -/
theorem applyAll {ms ns : List MaskedWrite} (hmatches : List.Forall₂ MaskedWrite.Matches ms ns)
    (h : part.Agree other) :
    let o := (MaskedWrite.applyAll ms : Action SimulatedPart η _).run part
    let o' := (MaskedWrite.applyAll ns : Action SimulatedPart η _).run other
    o'.value = o.value ∧ o.world.Agree o'.world := by
  induction hmatches generalizing part other with
  | nil => exact ⟨rfl, h⟩
  | cons hmn _ ih =>
    obtain ⟨hvalue, hagree⟩ := @apply η _ _ _ _ h hmn
    obtain ⟨hvalues, hagrees⟩ := ih hagree
    simp only [MaskedWrite.applyAll, Action.run_bind, Action.run_pure, hvalue, hvalues]
    exact ⟨trivial, hagrees⟩

/-- A programming comes to the same on either side, whatever channel and rate it is for. -/
theorem configure (h : part.Agree other) (c d : Channel) (rate rate' : LineRate) :
    let o := (Retimer.configure c rate : Attempt SimulatedPart η Unit).run.run part
    let o' := (Retimer.configure d rate' : Attempt SimulatedPart η Unit).run.run other
    o'.value = o.value ∧ o.world.Agree o'.world := by
  intro o o'
  obtain ⟨hvalues, hagree⟩ := @applyAll η _ _ _ _ (matches_recipe c d rate rate') h
  rw [show o.value = _ from configure_value_eq_ite c rate part,
    show o'.value = _ from configure_value_eq_ite d rate' other,
    show o.world = _ from configure_world c rate part,
    show o'.world = _ from configure_world d rate' other, hvalues]
  exact ⟨rfl, hagree⟩

/-- So do sequences of them that have the same length. -/
theorem configureAll {calls others : List (Channel × LineRate)}
    (hlength : calls.length = others.length) (h : part.Agree other) :
    let o := (Retimer.configureAll calls : Action SimulatedPart η _).run part
    let o' := (Retimer.configureAll others : Action SimulatedPart η _).run other
    o'.value = o.value ∧ o.world.Agree o'.world := by
  induction calls generalizing others part other with
  | nil =>
    obtain rfl := List.eq_nil_of_length_eq_zero hlength.symm
    exact ⟨rfl, h⟩
  | cons call calls ih =>
    cases others with
    | nil => cases hlength
    | cons call' others =>
      obtain ⟨hvalue, hagree⟩ := @configure η _ _ h call.1 call'.1 call.2 call'.2
      obtain ⟨hvalues, hagrees⟩ := ih (Nat.succ.inj hlength) hagree
      simp only [Retimer.configureAll, Action.run_bind, Action.run_pure, hvalue, hvalues]
      exact ⟨trivial, hagrees⟩

end Agree

end SimulatedPart

/-! ## Selections -/

/-- What an access puts in the channel select, if it writes there. -/
def Access.selected? : Access → Option UInt8
  | read _ => none
  | write address value => if address = Register.channelSelect.address then some value else none

namespace SimulatedPart

/-- What was put in the channel select so far, oldest first. -/
def selections (part : SimulatedPart) : List UInt8 := part.log.filterMap Access.selected?

theorem selections_put (part : SimulatedPart) (r : Register) (value : UInt8) :
    (part.put r.address value).selections =
      part.selections ++ if r = .channelSelect then [value] else [] := by
  rw [selections, put_log, List.filterMap_append]
  by_cases hr : r = .channelSelect
  · rw [if_pos hr, hr]
    rfl
  · have haddress : r.address ≠ Register.channelSelect.address :=
      fun h => hr (Register.address_injective h)
    rw [if_neg hr]
    simp [selections, Access.selected?, haddress]

theorem selections_queried (part : SimulatedPart) (m : MaskedWrite) :
    (part.queried m).selections = part.selections := by
  rw [selections, queried_log, List.filterMap_append]
  split <;> simp [selections, Access.selected?]

/-- A write that covers the channel select puts its value there, and one to another register puts
nothing there. -/
theorem selections_apply {m : MaskedWrite}
    (hfull : m.register = .channelSelect → m.mask = fullMask) (part : SimulatedPart) :
    ((m.apply : Attempt SimulatedPart η Unit).run.run part).world.selections =
      part.selections ++ if m.register = .channelSelect then [m.value] else [] := by
  rw [(apply_run m part).2]
  by_cases hr : m.register = .channelSelect
  · have htries : part.tries m = true := by simp [tries, hfull hr]
    rw [if_pos htries, selections_put, selections_queried, if_pos hr, if_pos hr,
      MaskedWrite.merge_of_mask_eq (hfull hr)]
  · rw [if_neg hr, List.append_nil]
    split
    · rw [selections_put, if_neg hr, List.append_nil, selections_queried]
    · exact selections_queried part m

theorem selections_applyAll {ms : List MaskedWrite}
    (hfull : ∀ m ∈ ms, m.register = .channelSelect → m.mask = fullMask) (part : SimulatedPart) :
    ((MaskedWrite.applyAll ms : Action SimulatedPart η _).run part).world.selections =
      part.selections ++ (ms.filter (·.register = .channelSelect)).map (·.value) := by
  induction ms generalizing part with
  | nil => exact (List.append_nil _).symm
  | cons m ms ih =>
    obtain ⟨hm, hms⟩ := List.forall_mem_cons.mp hfull
    have hrest := ih hms ((m.apply : Attempt SimulatedPart η Unit).run.run part).world
    simp only [MaskedWrite.applyAll, Action.run_bind, Action.run_pure, hrest,
      selections_apply hm, List.append_assoc]
    by_cases hr : m.register = .channelSelect <;> simp [hr]

/-- Whatever the part refuses, a programming puts the bit of its channel in the channel select. -/
theorem selections_configure (c : Channel) (rate : LineRate) (part : SimulatedPart) :
    ((configure c rate : Attempt SimulatedPart η Unit).run.run part).world.selections =
      part.selections ++ [1 <<< UInt8.ofNat c.toNat] := by
  rw [configure_world, selections_applyAll fun m hm => (mask_eq_fullMask_iff hm).mpr]
  exact congrArg (part.selections ++ ·) rfl

/-- **Programmings put the bit of each channel in the channel select**, in order, and nothing
else. -/
theorem selections_configureAll (calls : List (Channel × LineRate)) (part : SimulatedPart) :
    ((configureAll calls : Action SimulatedPart η _).run part).world.selections =
      part.selections ++ calls.map fun call => 1 <<< UInt8.ofNat call.1.toNat := by
  induction calls generalizing part with
  | nil => exact (List.append_nil _).symm
  | cons call calls ih =>
    have hrest := ih ((configure call.1 call.2 : Attempt SimulatedPart η Unit).run.run part).world
    rw [selections_configure, List.append_assoc] at hrest
    exact hrest

end SimulatedPart

end Bench

/-! ## Two sequences of programmings -/

/-- **Programming shows the choice of channel and rate only where it should.**

Program the same simulated part by either of two sequences of equal length, for any channels and
rates, whatever its registers hold and whatever it refuses. The calls report the same, one by one.
The logs have the same accesses in the same places, and what is written differs at most in the
channel select and in the upper half of the rate register. There the channel select gets the bit of
each call's own channel, in order. What the registers hold in the end differs at most there too. -/
theorem configureAll_indifferent (part : SimulatedPart) (calls others : List (Channel × LineRate))
    (hlength : calls.length = others.length) :
    let o := (configureAll calls : Action SimulatedPart η _).run part
    let o' := (configureAll others : Action SimulatedPart η _).run part
    o'.value = o.value ∧
    o'.world.log.map Access.place = o.world.log.map Access.place ∧
    List.Forall₂ Access.Alike o.world.log o'.world.log ∧
    o.world.selections =
      part.selections ++ calls.map (fun call => 1 <<< UInt8.ofNat call.1.toNat) ∧
    o'.world.selections =
      part.selections ++ others.map (fun call => 1 <<< UInt8.ofNat call.1.toNat) ∧
    ∀ address,
      AgreeAt address (o.world.registers.get address) (o'.world.registers.get address) := by
  intro o o'
  obtain ⟨hvalue, hagree⟩ := @SimulatedPart.Agree.configureAll η _ _ _ _ hlength (.refl part)
  have hplaces : List.Forall₂ (fun a b => a.place = b.place) o.world.log o'.world.log :=
    hagree.log.imp fun _ _ => Access.Alike.place_eq
  refine ⟨hvalue, ?_, hagree.log, SimulatedPart.selections_configureAll calls part,
    SimulatedPart.selections_configureAll others part, hagree.registers⟩
  rw [← List.forall₂_eq_eq_eq, List.forall₂_map_left_iff, List.forall₂_map_right_iff]
  exact hplaces.flip.imp fun _ _ => Eq.symm

/-- On a part that cannot be read in one place and written in another, two channels and one channel
twice. -/
theorem configureAll_indifferent_twoCalls :
    let part := (SimulatedPart.blank.refusingRead Register.preCursor.address).refusingWrite
      Register.cdrControl.address
    let calls := [(Channel.mk 0, .tenG), (Channel.mk 3, .twentyFiveG)]
    let others := [(Channel.mk 5, .twentyFiveG), (Channel.mk 5, .tenG)]
    let o := (configureAll calls : Action SimulatedPart Unit _).run part
    let o' := (configureAll others : Action SimulatedPart Unit _).run part
    calls.length = others.length ∧
      o'.value = o.value ∧
      o'.world.log.map Access.place = o.world.log.map Access.place ∧
      o.world.selections = [0x01, 0x08] ∧ o'.world.selections = [0x20, 0x20] := by
  intro part calls others o o'
  obtain ⟨hvalue, hplaces, -, hselections, hselections', -⟩ :=
    @configureAll_indifferent Unit part calls others rfl
  exact ⟨rfl, hvalue, hplaces, hselections, hselections'⟩

end Retimer
