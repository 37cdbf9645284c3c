import Retimer.Bench.ScriptedBus
import Retimer.Bench.SimulatedPart
import Retimer.Proofs.Programming
import Retimer.Proofs.Registers.LastWriter

/-!
# What programming leaves on a simulated part

A simulated part refuses accesses by address, and always the same ones. So it is settled beforehand
which steps of a recipe get as far as writing and which go through, whatever the registers hold and
whatever was done before. What is left to say is what those that go through add up to.

They add up to little. A recipe decides the same bits of the same registers for every channel and
every rate, and with the same refusals the same steps of it go through each time. So of any number
of programmings the last one alone can be seen, and what it makes of a register can be written down
as one expression in the byte that was there before the first.

## Main results

* `Bench.SimulatedPart.Wrote.of_applyAll`: what tried writes do to a simulated part
* `Bench.SimulatedPart.registers_configureAll`: of several programmings the last one shows
* `configureAll_simulated`: what the registers hold then, and what each call reports and logs
-/

namespace Retimer

open Bench (RegisterFile SimulatedPart Access Direction)

variable {σ η : Type}

namespace Bench

/-! ## What the log shows -/

/-- Which way an access goes, and where. -/
def Access.place : Access → Direction × UInt8
  | read address => (.read, address)
  | write address _ => (.write, address)

namespace SimulatedPart

theorem reads_eq (part : SimulatedPart) :
    part.reads = (part.log.map Access.place).countP (·.1 = .read) := by
  rw [reads, List.countP_map]
  refine List.countP_congr ?_
  intro access _
  cases access <;> simp [Access.place]

theorem map_fst_writes (part : SimulatedPart) :
    part.writes.map Prod.fst =
      ((part.log.map Access.place).filter (·.1 = .write)).map Prod.snd := by
  rw [writes]
  induction part.log with
  | nil => rfl
  | cons access log ih => cases access <;> simp [Access.place, ih]

/-! ## What a part refuses -/

/-- Whether a masked write gets as far as writing. -/
def tries (part : SimulatedPart) (m : MaskedWrite) : Bool :=
  m.mask = fullMask || m.register.address ∉ part.unreadable

/-- Whether a masked write goes through. -/
def takes (part : SimulatedPart) (m : MaskedWrite) : Bool :=
  part.tries m && m.register.address ∉ part.unwritable

/-- The accesses that a masked write makes. -/
def places (part : SimulatedPart) (m : MaskedWrite) : List (Direction × UInt8) :=
  (if m.mask = fullMask then [] else [(.read, m.register.address)]) ++
    if part.tries m then [(.write, m.register.address)] else []

/-- What some writes, tried in turn, make of a part: those that go through are carried out on the
registers, all their accesses are logged, and what the part refuses stays as it is. -/
structure Wrote (part : SimulatedPart) (ms : List MaskedWrite) (after : SimulatedPart) : Prop where
  /-- What cannot be read stays the same. -/
  unreadable : after.unreadable = part.unreadable
  /-- So does what cannot be written. -/
  unwritable : after.unwritable = part.unwritable
  /-- The writes that go through are carried out. -/
  registers : after.registers = MaskedWrite.storeAll (ms.filter part.takes) part.registers
  /-- The accesses of all of them are added to the log. -/
  log : ∃ added, after.log = part.log ++ added ∧
    added.map Access.place = ms.flatMap part.places

namespace Wrote

variable {part after last : SimulatedPart} {ms ns : List MaskedWrite}

theorem nil (part : SimulatedPart) : Wrote part [] part where
  unreadable := rfl
  unwritable := rfl
  registers := rfl
  log := ⟨[], by simp⟩

theorem tries_eq (h : Wrote part ms after) : after.tries = part.tries := by
  funext m
  rw [tries, tries, h.unreadable]

theorem takes_eq (h : Wrote part ms after) : after.takes = part.takes := by
  funext m
  rw [takes, takes, h.tries_eq, h.unwritable]

theorem places_eq (h : Wrote part ms after) : after.places = part.places := by
  funext m
  rw [places, places, h.tries_eq]

theorem append (h : Wrote part ms after) (h' : Wrote after ns last) :
    Wrote part (ms ++ ns) last where
  unreadable := h'.unreadable.trans h.unreadable
  unwritable := h'.unwritable.trans h.unwritable
  registers := by
    rw [h'.registers, h.takes_eq, h.registers, List.filter_append, MaskedWrite.storeAll_append]
  log := by
    obtain ⟨first, hfirst, hplaces⟩ := h.log
    obtain ⟨second, hsecond, hplaces'⟩ := h'.log
    refine ⟨first ++ second, by rw [hsecond, hfirst, List.append_assoc], ?_⟩
    rw [List.map_append, hplaces, hplaces', h.places_eq, List.flatMap_append]

end Wrote

/-! ## Carrying writes out -/

theorem readRegister_run (part : SimulatedPart) (r : Register) (mask : UInt8) :
    ∃ journal : List (Event η), (readRegister r mask : Attempt SimulatedPart η UInt8).run.run part =
      ⟨if r.address ∈ part.unreadable then .error .ioFailure
          else .ok (part.registers.get r.address &&& mask),
        part.remember (.read r.address), journal⟩ := by
  by_cases h : r.address ∈ part.unreadable
  · have hread : Bus.readByte r.address part =
        (.error .noRegister, part.remember (.read r.address)) := by
      simp [Bus.readByte, h]
    exact ⟨_, by rw [readRegister_run_error hread, if_pos h]⟩
  · have hread : Bus.readByte r.address part =
        (.ok (part.registers.get r.address), part.remember (.read r.address)) := by
      simp [Bus.readByte, h]
    exact ⟨_, by rw [readRegister_run_ok hread, if_neg h]⟩

/-- A part after a byte was put on the bus, whether or not it took the byte. -/
def put (part : SimulatedPart) (address value : UInt8) : SimulatedPart :=
  { part.remember (.write address value) with
    registers :=
      if address ∈ part.unwritable then part.registers else part.registers.set address value }

/-- A part after the read that comes before a masked write, if one does. -/
def queried (part : SimulatedPart) (m : MaskedWrite) : SimulatedPart :=
  if m.mask = fullMask then part else part.remember (.read m.register.address)

section Fields

variable (part : SimulatedPart) (address value : UInt8) (m : MaskedWrite)

@[simp]
theorem put_unreadable : (part.put address value).unreadable = part.unreadable := rfl

@[simp]
theorem put_unwritable : (part.put address value).unwritable = part.unwritable := rfl

@[simp]
theorem put_log : (part.put address value).log = part.log ++ [.write address value] := rfl

theorem put_registers :
    (part.put address value).registers =
      if address ∈ part.unwritable then part.registers else part.registers.set address value := rfl

@[simp]
theorem queried_unreadable : (part.queried m).unreadable = part.unreadable := by
  rw [queried]
  split <;> rfl

@[simp]
theorem queried_unwritable : (part.queried m).unwritable = part.unwritable := by
  rw [queried]
  split <;> rfl

@[simp]
theorem queried_registers : (part.queried m).registers = part.registers := by
  rw [queried]
  split <;> rfl

theorem queried_log :
    (part.queried m).log =
      part.log ++ if m.mask = fullMask then [] else [.read m.register.address] := by
  rw [queried]
  split
  · exact (List.append_nil _).symm
  · rfl

end Fields

theorem storeRegister_run (part : SimulatedPart) (r : Register) (value : UInt8) :
    let o := (storeRegister r value : Attempt SimulatedPart η Unit).run.run part
    o.value = (if r.address ∈ part.unwritable then .error .ioFailure else .ok ()) ∧
      o.world = part.put r.address value := by
  by_cases h : r.address ∈ part.unwritable
  · simp [storeRegister, Bus.writeByte, h, put, remember, Failure.ofBusFault]
  · simp [storeRegister, Bus.writeByte, h, put, remember, holding]

/-- A masked write goes through if the part takes it, and reports which. If it gets as far as
writing, it puts what it makes of the register on the bus. -/
theorem apply_run (m : MaskedWrite) (part : SimulatedPart) :
    let o := (m.apply : Attempt SimulatedPart η Unit).run.run part
    o.value = (if part.takes m then .ok () else .error .ioFailure) ∧
      o.world =
        if part.tries m then
          (part.queried m).put m.register.address (m.merge (part.registers.get m.register.address))
        else part.queried m := by
  intro o
  by_cases hmask : m.mask = fullMask
  · have hrun : o =
        (storeRegister m.register m.value : Attempt SimulatedPart η Unit).run.run part := by
      simp [o, MaskedWrite.apply, MaskedWrite.compose, hmask]
    obtain ⟨hvalue, hworld⟩ := @storeRegister_run η part m.register m.value
    rw [hrun, hvalue, hworld, MaskedWrite.merge_of_mask_eq hmask]
    simp [takes, tries, queried, hmask]
  · have hrun : o = (readRegister m.register (~~~m.mask) >>= fun kept =>
        storeRegister m.register ((m.value &&& m.mask) ||| kept) :
          Attempt SimulatedPart η Unit).run.run part := by
      rw [← MaskedWrite.apply_of_mask_ne hmask]
    obtain ⟨journal, hread⟩ := @readRegister_run η part m.register (~~~m.mask)
    rw [ExceptT.run_bind, Action.run_bind, hread] at hrun
    by_cases h : m.register.address ∈ part.unreadable
    · simp only [if_pos h] at hrun
      rw [hrun]
      simp [takes, tries, queried, hmask, h]
    · obtain ⟨hvalue, hworld⟩ := @storeRegister_run η (part.remember (.read m.register.address))
        m.register (m.merge (part.registers.get m.register.address))
      simp only [if_neg h, MaskedWrite.merge] at hrun hvalue hworld
      rw [hrun]
      simp only [hvalue, hworld]
      refine ⟨?_, ?_⟩
      · simp only [takes, tries, h, remember, not_false_iff]
        by_cases hw : m.register.address ∈ part.unwritable <;> simp [hw]
      · simp [tries, queried, hmask, h, MaskedWrite.merge]

/-- So it is carried out if the part takes it. -/
theorem Wrote.of_apply (m : MaskedWrite) (part : SimulatedPart) :
    let o := (m.apply : Attempt SimulatedPart η Unit).run.run part
    o.value = (if part.takes m then .ok () else .error .ioFailure) ∧ Wrote part [m] o.world := by
  intro o
  obtain ⟨hvalue, hworld⟩ := @apply_run η m part
  refine ⟨hvalue, ?_⟩
  rw [show o.world = _ from hworld]
  split
  case isTrue htries =>
    refine ⟨by simp, by simp, ?_, ⟨_, by rw [put_log, queried_log, List.append_assoc], ?_⟩⟩
    · by_cases hw : m.register.address ∈ part.unwritable <;>
        simp [put_registers, takes, htries, hw, MaskedWrite.store]
    · by_cases hmask : m.mask = fullMask <;> simp [places, htries, hmask, Access.place]
  case isFalse htries =>
    refine ⟨by simp, by simp, by simp [takes, htries], ⟨_, queried_log part m, ?_⟩⟩
    by_cases hmask : m.mask = fullMask <;> simp [places, htries, hmask, Access.place]

/-- Tried writes are carried out where the part takes them, and each of them reports which. -/
theorem Wrote.of_applyAll (ms : List MaskedWrite) (part : SimulatedPart) :
    let o := (MaskedWrite.applyAll ms : Action SimulatedPart η _).run part
    o.value = ms.map (fun m => if part.takes m then .ok () else .error .ioFailure) ∧
      Wrote part ms o.world := by
  induction ms generalizing part with
  | nil => exact ⟨rfl, .nil part⟩
  | cons m ms ih =>
    obtain ⟨hvalue, hwrote⟩ := @Wrote.of_apply η m part
    obtain ⟨hvalues, hwrotes⟩ := ih ((m.apply : Attempt SimulatedPart η Unit).run.run part).world
    refine ⟨?_, hwrote.append hwrotes⟩
    simp only [MaskedWrite.applyAll, Action.run_bind, Action.run_pure, hvalue, hvalues,
      hwrote.takes_eq, List.map_cons]

/-! ## Programming -/

/-- Programming tries the writes of its recipe, and succeeds if the part takes all of them. -/
theorem Wrote.of_configure (c : Channel) (rate : LineRate) (part : SimulatedPart) :
    let o := (configure c rate : Attempt SimulatedPart η Unit).run.run part
    o.value = (if (recipe c rate).toList.all part.takes then .ok () else .error .ioFailure) ∧
      Wrote part (recipe c rate).toList o.world := by
  intro o
  obtain ⟨hvalue, hwrote⟩ := @Wrote.of_applyAll η (recipe c rate).toList part
  refine ⟨?_, by rwa [show o.world = _ from configure_world c rate part]⟩
  have hall : (((recipe c rate).toList.map fun m =>
      if part.takes m then (.ok () : Except Failure Unit) else .error .ioFailure).all
        Except.isOk) = (recipe c rate).toList.all part.takes := by
    rw [List.all_map]
    congr 1
    funext m
    cases h : part.takes m <;> simp [h, Except.isOk, Except.toBool]
  rw [show o.value = _ from configure_value_eq_ite c rate part, hvalue, hall]

/-- So do several programmings in turn. -/
theorem Wrote.of_configureAll (calls : List (Channel × LineRate)) (part : SimulatedPart) :
    Wrote part (calls.flatMap fun call => (recipe call.1 call.2).toList)
      ((configureAll calls : Action SimulatedPart η _).run part).world := by
  induction calls generalizing part with
  | nil => exact .nil part
  | cons call calls ih =>
    have hwrote := (@Wrote.of_configure η call.1 call.2 part).2
    exact hwrote.append (ih _)

/-! ## Counting accesses -/

theorem countP_places (part : SimulatedPart) (ms : List MaskedWrite) :
    (ms.flatMap part.places).countP (·.1 = .read) = ms.countP (·.mask ≠ fullMask) := by
  induction ms with
  | nil => rfl
  | cons m ms ih =>
    rw [List.flatMap_cons, List.countP_append, ih, List.countP_cons]
    by_cases hmask : m.mask = fullMask <;> cases htries : part.tries m <;>
      simp [places, hmask, htries, Nat.add_comm]

theorem writes_places (part : SimulatedPart) (ms : List MaskedWrite) :
    ((ms.flatMap part.places).filter (·.1 = .write)).map Prod.snd =
      (ms.filter part.tries).map (·.register.address) := by
  induction ms with
  | nil => rfl
  | cons m ms ih =>
    rw [List.flatMap_cons, List.filter_append, List.map_append, ih, List.filter_cons]
    by_cases hmask : m.mask = fullMask <;> cases htries : part.tries m <;>
      simp [places, hmask, htries]

namespace Wrote

variable {part after : SimulatedPart} {ms : List MaskedWrite}

/-- Each write whose mask leaves bits uncovered reads once. -/
theorem reads_eq (h : Wrote part ms after) :
    after.reads = part.reads + ms.countP (·.mask ≠ fullMask) := by
  obtain ⟨added, hlog, hplaces⟩ := h.log
  rw [SimulatedPart.reads_eq, SimulatedPart.reads_eq, hlog, List.map_append, List.countP_append,
    hplaces, countP_places]

/-- Each write that gets that far is put on the bus, in order. -/
theorem writes_eq (h : Wrote part ms after) :
    after.writes.map Prod.fst =
      part.writes.map Prod.fst ++ (ms.filter part.tries).map (·.register.address) := by
  obtain ⟨added, hlog, hplaces⟩ := h.log
  rw [map_fst_writes, map_fst_writes, hlog, List.map_append, List.filter_append, List.map_append,
    hplaces, writes_places]

theorem log_prefix (h : Wrote part ms after) : part.log <+: after.log := by
  obtain ⟨added, hlog, -⟩ := h.log
  exact ⟨added, hlog.symm⟩

end Wrote

/-! ## The last programming shows -/

/-- As a part refuses the same accesses each time, what one recipe changes any other one changes
too. -/
theorem overlay_takes (part : SimulatedPart) (c : Channel) (rate : LineRate)
    (calls : List (Channel × LineRate)) :
    MaskedWrite.Overlay ((recipe c rate).toList.filter part.takes)
      ((calls.flatMap fun call => (recipe call.1 call.2).toList).filter part.takes) := by
  intro m hm
  obtain ⟨hm, htakes⟩ := List.mem_filter.mp hm
  obtain ⟨call, -, hm⟩ := List.mem_flatMap.mp hm
  have hover : MaskedWrite.Overlay (recipe c rate).toList (recipe call.1 call.2).toList :=
    MaskedWrite.overlay_of_map_eq rfl
  obtain ⟨n, hn, hregister, hmask⟩ := hover m hm
  refine ⟨n, List.mem_filter.mpr ⟨hn, ?_⟩, hregister, hmask⟩
  rwa [takes, tries, hregister, hmask]

/-- **Of several programmings the last one shows**, as far as the part takes it. -/
theorem registers_configureAll (calls : List (Channel × LineRate)) (c : Channel)
    (rate : LineRate) (part : SimulatedPart) :
    ((configureAll (calls ++ [(c, rate)]) : Action SimulatedPart η _).run part).world.registers =
      MaskedWrite.storeAll ((recipe c rate).toList.filter part.takes) part.registers := by
  rw [(Wrote.of_configureAll _ part).registers, List.flatMap_append, List.filter_append,
    MaskedWrite.storeAll_append, List.flatMap_singleton,
    MaskedWrite.storeAll_storeAll (overlay_takes part c rate calls)]

end SimulatedPart

end Bench

/-! ## The registers of a recipe -/

/-- What a recipe makes of the byte in a register, if its writes to that register go through. -/
def Register.tuned (c : Channel) (rate : LineRate) (old : UInt8) : Register → UInt8
  | smbusControl => (old &&& 0xFC) ||| 0x01
  | channelSelect => 1 <<< UInt8.ofNat c.toNat
  | channelReset => old ||| 0x04
  | cdrControl => old &&& 0xF3
  | rateSelect =>
    match rate with
    | .tenG => (old &&& 0x0F) ||| 0x00
    | .twentyFiveG => (old &&& 0x0F) ||| 0x50
  | mainCursor => (old &&& 0x20) ||| 0x8F
  | preCursor => (old &&& 0xB0) ||| 0x44
  | postCursor => (old &&& 0xB0) ||| 0x44
  | _ => old

/-- Which channel a recipe is for shows in the channel select only. -/
theorem filter_recipe_eq {r : Register} (hr : r ≠ .channelSelect) (c d : Channel)
    (rate : LineRate) :
    (recipe c rate).toList.filter (·.register = r) =
      (recipe d rate).toList.filter (·.register = r) := by
  cases r with
  | channelSelect => exact absurd rfl hr
  | _ => rfl

/-- Several steps go to one register, and this is what they add up to. -/
theorem foldl_merge_recipe (c : Channel) (rate : LineRate) (r : Register) (old : UInt8) :
    ((recipe c rate).toList.filter (·.register = r)).foldl (fun byte m => m.merge byte) old =
      r.tuned c rate old := by
  by_cases hr : r = .channelSelect
  · subst hr
    exact MaskedWrite.merge_of_mask_eq rfl old
  rw [filter_recipe_eq hr c (Channel.mk 0)]
  cases r with
  | channelSelect => exact absurd rfl hr
  | channelConfigId | version | deviceId | channelVersion => rfl
  | smbusControl | rateSelect | mainCursor | preCursor | postCursor =>
    cases rate <;> exact MaskedWrite.foldl_merge_eq (by decide) old
  | channelReset =>
    have hbits : [⟨.channelReset, 0x04, 0x04⟩].foldl (fun byte m => MaskedWrite.merge m byte) old =
        (old &&& 0xFF) ||| 0x04 := MaskedWrite.foldl_merge_eq (by decide) old
    exact hbits.trans (congrArg (· ||| 0x04) UInt8.and_neg_one)
  | cdrControl =>
    have hbits : [⟨.cdrControl, 0x0C, 0x0C⟩, ⟨.cdrControl, 0x00, 0x0C⟩].foldl
        (fun byte m => MaskedWrite.merge m byte) old =
        (old &&& 0xF3) ||| 0x00 := MaskedWrite.foldl_merge_eq (by decide) old
    exact hbits.trans UInt8.or_zero

/-- A recipe selects the channel with a whole byte, and changes some bits everywhere else. -/
theorem mask_eq_fullMask_iff {c : Channel} {rate : LineRate} {m : MaskedWrite}
    (hm : m ∈ (recipe c rate).toList) : m.mask = fullMask ↔ m.register = .channelSelect := by
  have hall : (recipe c rate).toList.all fun m =>
      decide (m.mask = fullMask ↔ m.register = .channelSelect) := rfl
  exact of_decide_eq_true (List.all_eq_true.mp hall m hm)

/-! ## Any number of programmings -/

/-- Each programming finds the world as those before it left it. -/
theorem configureAll_getElem? [Bus σ] (earlier : List (Channel × LineRate)) (c : Channel)
    (rate : LineRate) (later : List (Channel × LineRate)) (w : σ) :
    ((configureAll (earlier ++ (c, rate) :: later) : Action σ η _).run w).value[earlier.length]? =
      some ((configure c rate : Attempt σ η Unit).run.run
        ((configureAll earlier : Action σ η _).run w).world).value := by
  induction earlier generalizing w with
  | nil => rfl
  | cons call earlier ih => exact ih _

namespace Bench.SimulatedPart

variable {c : Channel} {rate : LineRate} {m : MaskedWrite} {part : SimulatedPart}

theorem tries_recipe (hm : m ∈ (recipe c rate).toList) :
    part.tries m = decide (m.register = .channelSelect ∨ m.register.address ∉ part.unreadable) := by
  rw [tries, ← Bool.decide_or]
  exact decide_eq_decide.mpr (or_congr_left (mask_eq_fullMask_iff hm))

theorem takes_recipe (hm : m ∈ (recipe c rate).toList) :
    part.takes m = true ↔ ¬(m.register.address ∈ part.unwritable ∨
      m.register ≠ .channelSelect ∧ m.register.address ∈ part.unreadable) := by
  rw [takes, tries_recipe hm, Bool.and_eq_true, decide_eq_true_iff, decide_eq_true_iff]
  tauto

/-- A part takes all that a recipe has for a register, or none of it. -/
theorem get_storeAll_takes (part : SimulatedPart) (c : Channel) (rate : LineRate) (r : Register) :
    (MaskedWrite.storeAll ((recipe c rate).toList.filter part.takes) part.registers).get r.address =
      if r.address ∈ part.unwritable ∨ r ≠ .channelSelect ∧ r.address ∈ part.unreadable then
        part.registers.get r.address
      else r.tuned c rate (part.registers.get r.address) := by
  rw [MaskedWrite.get_storeAll, List.filter_filter]
  split
  case isTrue hrefused =>
    rw [List.filter_eq_nil_iff.mpr]
    · rfl
    rintro m hm hboth
    obtain ⟨hregister, htakes⟩ := Bool.and_eq_true_iff.mp hboth
    obtain rfl := of_decide_eq_true hregister
    exact (takes_recipe hm).mp htakes hrefused
  case isFalse htaken =>
    rw [← foldl_merge_recipe]
    refine congrArg (List.foldl _ _) (List.filter_congr ?_)
    intro m hm
    by_cases hregister : m.register = r
    · obtain rfl := hregister
      rw [(takes_recipe hm).mpr htaken, Bool.and_true]
    · simp [hregister]

/-- What a programming reports and logs is told by what the part refused to begin with. -/
theorem Wrote.configure_reports {ms : List MaskedWrite} {before : SimulatedPart}
    (h : Wrote part ms before) (c : Channel) (rate : LineRate) :
    let call := (configure c rate : Attempt SimulatedPart η Unit).run.run before
    (call.value = .ok () ↔ ∀ m ∈ (recipe c rate).toList,
      m.register.address ∉ part.unwritable ∧
        (m.register ≠ .channelSelect → m.register.address ∉ part.unreadable)) ∧
    before.log <+: call.world.log ∧
    call.world.reads = before.reads + 12 ∧
    call.world.writes.map Prod.fst = before.writes.map Prod.fst ++
      ((recipe c rate).toList.filter fun m =>
        m.register = .channelSelect ∨ m.register.address ∉ part.unreadable).map
        (·.register.address) := by
  intro call
  obtain ⟨hvalue, hwrote⟩ := @Wrote.of_configure η c rate before
  refine ⟨?_, hwrote.log_prefix, ?_, ?_⟩
  · have hok : call.value = .ok () ↔ (recipe c rate).toList.all part.takes = true := by
      rw [show call.value = _ from hvalue, h.takes_eq]
      cases (recipe c rate).toList.all part.takes <;> simp
    rw [hok, List.all_eq_true]
    refine forall₂_congr ?_
    intro m hm
    rw [takes_recipe hm]
    tauto
  · rw [hwrote.reads_eq, countP_mask_recipe]
  · rw [hwrote.writes_eq, h.tries_eq]
    refine congrArg (before.writes.map Prod.fst ++ List.map _ ·) (List.filter_congr ?_)
    exact fun m hm => tries_recipe hm

end Bench.SimulatedPart

open Bench.SimulatedPart in
/-- **Of any number of programmings, the last one decides what the registers hold.**

Program a simulated part any number of times, at least once. Whatever its registers held and
whatever it refuses, a register of the recipe is then as the last programming wants it, starting
from the byte that was there before the first, unless it refuses the write or, being another one
than the channel select, the read; then it is as it was, and so is every register that the recipe
leaves alone. Each call succeeds exactly if the part refuses it nothing. It adds to the log twelve
reads, and a write for each step of the recipe whose register can be read or is the channel
select. -/
theorem configureAll_simulated (part : SimulatedPart) (calls : List (Channel × LineRate))
    (c : Channel) (rate : LineRate) :
    let o := (configureAll (calls ++ [(c, rate)]) : Action SimulatedPart η _).run part
    (∀ r : Register, o.world.registers.get r.address =
      if r.address ∈ part.unwritable ∨ r ≠ .channelSelect ∧ r.address ∈ part.unreadable then
        part.registers.get r.address
      else r.tuned c rate (part.registers.get r.address)) ∧
    (∀ address, Register.ofAddress? address.toNat = none →
      o.world.registers.get address = part.registers.get address) ∧
    ∀ earlier d other later, calls ++ [(c, rate)] = earlier ++ (d, other) :: later →
      let before := ((configureAll earlier : Action SimulatedPart η _).run part).world
      let call := (configure d other : Attempt SimulatedPart η Unit).run.run before
      o.value[earlier.length]? = some call.value ∧
      (call.value = .ok () ↔ ∀ m ∈ (recipe d other).toList,
        m.register.address ∉ part.unwritable ∧
          (m.register ≠ .channelSelect → m.register.address ∉ part.unreadable)) ∧
      before.log <+: call.world.log ∧
      call.world.reads = before.reads + 12 ∧
      call.world.writes.map Prod.fst = before.writes.map Prod.fst ++
        ((recipe d other).toList.filter fun m =>
          m.register = .channelSelect ∨ m.register.address ∉ part.unreadable).map
          (·.register.address) := by
  intro o
  have hregisters : o.world.registers = _ := registers_configureAll calls c rate part
  refine ⟨?_, ?_, ?_⟩
  · intro r
    rw [hregisters, get_storeAll_takes]
  · intro address hnone
    rw [hregisters]
    refine MaskedWrite.get_storeAll_of_notMem ?_ _
    rintro m - rfl
    rw [Register.ofAddress?_eq_some_iff.mpr rfl] at hnone
    cases hnone
  · intro earlier d other later hsplit
    have hget := @configureAll_getElem? SimulatedPart η _ earlier d other later part
    rw [← hsplit] at hget
    exact ⟨hget, (Wrote.of_configureAll earlier part).configure_reports d other⟩

end Retimer
