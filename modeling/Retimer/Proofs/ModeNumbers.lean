import Retimer.Proofs.Provider.ModeRequest

/-!
# Modes asked for by number

A mode may be asked for by two numbers of 32 bits each. Hardly any pair of such numbers means
anything: twenty numbers name a mode, thirty name an interface, and of the pairs of names two have a
rate. The others are refused before the bus is touched, in one of two ways. A pair of names is
refused as such, and the names are recorded; where a number names nothing, the numbers are.

Nothing else depends on the numbers. A pair that does name something is dealt with as if it had been
asked for by name, and a pair with a rate as if the programming itself had been asked for, on every
bus and whatever becomes of it there.

## Main results

* `exists_code_iff_le`: which numbers are names
* `Operation.rate?_setModeRaw_eq_some_iff`: which numbers have a rate
* `Endpoint.setModeRaw_by_number`: what comes of every pair of numbers
-/

namespace Retimer

variable {σ η : Type}

/-! ## Numbers that are names -/

/-- Names that are numbered from zero upwards have the numbers up to that of the last one. -/
theorem exists_code_iff_le {α : Type} {code : α → Nat} {all : List α} {last : UInt32}
    (hmem : ∀ a, a ∈ all) (hcodes : all.map code = List.range (last.toNat + 1)) {number : UInt32} :
    (∃ a, code a = number.toNat) ↔ number ≤ last := by
  rw [UInt32.le_iff_toNat_le, ← Nat.lt_succ_iff, ← List.mem_range, ← hcodes, List.mem_map]
  constructor
  · rintro ⟨a, ha⟩
    exact ⟨a, hmem a, ha⟩
  · rintro ⟨a, -, ha⟩
    exact ⟨a, ha⟩

theorem PhyMode.exists_code_iff {mode : UInt32} :
    (∃ named : PhyMode, named.code = mode.toNat) ↔ mode ≤ 19 :=
  exists_code_iff_le (fun named => by cases named <;> decide) (show all.map code = _ from rfl)

theorem InterfaceMode.exists_code_iff {submode : UInt32} :
    (∃ subnamed : InterfaceMode, subnamed.code = submode.toNat) ↔ submode ≤ 29 :=
  exists_code_iff_le (fun subnamed => by cases subnamed <;> decide) (show all.map code = _ from rfl)

namespace Operation

variable {args : List UInt32} {mode submode : UInt32}

/-! ## Numbers that have a rate -/

/-- **Two pairs of numbers have a rate.** -/
theorem rate?_setModeRaw_eq_some_iff {rate : LineRate} :
    (setModeRaw args mode submode).rate? = some rate ↔
      mode = 15 ∧ (submode = 27 ∧ rate = .tenG ∨ submode = 28 ∧ rate = .twentyFiveG) := by
  have hsome (named : PhyMode) (subnamed : InterfaceMode) :
      (LineRate.forMode named subnamed).toOption = some rate ↔
        LineRate.forMode named subnamed = .ok rate := by
    cases LineRate.forMode named subnamed <;> simp [Except.toOption]
  simp only [rate?, Option.bind_eq_bind, Option.bind_eq_some_iff, hsome, LineRate.forMode_eq_ok_iff,
    PhyMode.ofCode?_eq_some_iff, InterfaceMode.ofCode?_eq_some_iff, ← UInt32.toNat_inj]
  constructor
  · rintro ⟨named, hmode, subnamed, hsubmode, rfl, ⟨rfl, rfl⟩ | ⟨rfl, rfl⟩⟩
    · exact ⟨hmode.symm, .inl ⟨hsubmode.symm, rfl⟩⟩
    · exact ⟨hmode.symm, .inr ⟨hsubmode.symm, rfl⟩⟩
  · rintro ⟨hmode, ⟨hsubmode, rfl⟩ | ⟨hsubmode, rfl⟩⟩
    · exact ⟨.ethernet, hmode.symm, .tenGBaseR, hsubmode.symm, rfl, .inl ⟨rfl, rfl⟩⟩
    · exact ⟨.ethernet, hmode.symm, .twentyFiveGBaseR, hsubmode.symm, rfl, .inr ⟨rfl, rfl⟩⟩

theorem rate?_setModeRaw_eq_none (h : ¬(mode = 15 ∧ (submode = 27 ∨ submode = 28))) :
    (setModeRaw args mode submode).rate? = none := by
  refine Option.eq_none_iff_forall_ne_some.mpr ?_
  intro rate hrate
  obtain ⟨hmode, ⟨hsubmode, -⟩ | ⟨hsubmode, -⟩⟩ := rate?_setModeRaw_eq_some_iff.mp hrate
  · exact h ⟨hmode, .inl hsubmode⟩
  · exact h ⟨hmode, .inr hsubmode⟩

/-! ## What a refusal records -/

theorem refusal_setModeRaw_of_names {named : PhyMode} {subnamed : InterfaceMode}
    (hmode : named.code = mode.toNat) (hsubmode : subnamed.code = submode.toNat) (c : Channel) :
    (setModeRaw args mode submode).refusal c = .unsupportedMode c named subnamed := by
  rw [refusal, PhyMode.ofCode?_eq_some_iff.mpr hmode,
    InterfaceMode.ofCode?_eq_some_iff.mpr hsubmode]

theorem refusal_setModeRaw_of_nameless (h : ¬(mode ≤ 19 ∧ submode ≤ 29)) (c : Channel) :
    (setModeRaw args mode submode).refusal c = .unsupportedRawMode c mode submode := by
  rw [refusal]
  split
  · rename_i named subnamed hmode hsubmode
    rw [PhyMode.ofCode?_eq_some_iff] at hmode
    rw [InterfaceMode.ofCode?_eq_some_iff] at hsubmode
    exact absurd
      ⟨PhyMode.exists_code_iff.mp ⟨_, hmode⟩, InterfaceMode.exists_code_iff.mp ⟨_, hsubmode⟩⟩ h
  · rfl

end Operation

/-! ## What comes of a pair of numbers -/

namespace Endpoint

variable [Bus σ]

/-- A pair of numbers that has a rate asks for a programming, and nothing besides. -/
theorem setModeRaw_of_rate (e : Endpoint η) {mode submode : UInt32} {rate : LineRate}
    (h : (Operation.setModeRaw [] mode submode).rate? = some rate) :
    (e.setModeRaw mode submode : Attempt σ η Unit) = configure e.channel rate := by
  refine ExceptT.ext (Action.ext_run fun w => ?_)
  have hrun := @Operation.use_run σ η _ (.setModeRaw [] mode submode) _ rfl e w
  rwa [h] at hrun

/-- **What comes of every pair of numbers.** Two pairs program the endpoint's channel, each for its
rate. Every other pair is refused, leaving the world as it is and one record: of the names, if the
numbers are names, and else of the numbers. And numbers that are names come to what those names come
to. -/
theorem setModeRaw_by_number (e : Endpoint η) (mode submode : UInt32) :
    let asked : Attempt σ η Unit := e.setModeRaw mode submode
    (mode = 15 ∧ submode = 27 → asked = configure e.channel .tenG) ∧
    (mode = 15 ∧ submode = 28 → asked = configure e.channel .twentyFiveG) ∧
    (¬(mode = 15 ∧ (submode = 27 ∨ submode = 28)) → ∃ entry : Record,
      (∀ w, asked.run.run w = ⟨.error .unsupportedMode, w, [.record entry]⟩) ∧
      (mode ≤ 19 ∧ submode ≤ 29 → ∃ (named : PhyMode) (subnamed : InterfaceMode),
        named.code = mode.toNat ∧ subnamed.code = submode.toNat ∧
        entry = .unsupportedMode e.channel named subnamed) ∧
      (¬(mode ≤ 19 ∧ submode ≤ 29) → entry = .unsupportedRawMode e.channel mode submode)) ∧
    ∀ (named : PhyMode) (subnamed : InterfaceMode), named.code = mode.toNat →
      subnamed.code = submode.toNat → asked = e.setMode named subnamed := by
  intro asked
  refine ⟨?_, ?_, ?_, ?_⟩
  · rintro ⟨hmode, hsubmode⟩
    exact e.setModeRaw_of_rate
      (Operation.rate?_setModeRaw_eq_some_iff.mpr ⟨hmode, .inl ⟨hsubmode, rfl⟩⟩)
  · rintro ⟨hmode, hsubmode⟩
    exact e.setModeRaw_of_rate
      (Operation.rate?_setModeRaw_eq_some_iff.mpr ⟨hmode, .inr ⟨hsubmode, rfl⟩⟩)
  · intro hother
    let op : Operation := .setModeRaw [] mode submode
    have hrate : op.rate? = none := Operation.rate?_setModeRaw_eq_none hother
    refine ⟨op.refusal e.channel, ?_, ?_, ?_⟩
    · intro w
      have hrun := @Operation.use_run σ η _ op _ rfl e w
      rwa [hrate] at hrun
    · rintro ⟨hmode, hsubmode⟩
      obtain ⟨named, hnamed⟩ := PhyMode.exists_code_iff.mpr hmode
      obtain ⟨subnamed, hsubnamed⟩ := InterfaceMode.exists_code_iff.mpr hsubmode
      exact ⟨named, subnamed, hnamed, hsubnamed,
        Operation.refusal_setModeRaw_of_names hnamed hsubnamed _⟩
    · intro hnameless
      exact Operation.refusal_setModeRaw_of_nameless hnameless _
  · intro named subnamed hmode hsubmode
    simp only [asked, setModeRaw, PhyMode.ofCode?_eq_some_iff.mpr hmode,
      InterfaceMode.ofCode?_eq_some_iff.mpr hsubmode]

/-- A pair of names without a rate is recorded by name, and the number after the last name as it
is. -/
example (c : Channel) :
    (Operation.setModeRaw [] 6 27).refusal c = .unsupportedMode c .usbDevice .tenGBaseR ∧
      (Operation.setModeRaw [] 20 27).refusal c = .unsupportedRawMode c 20 27 :=
  ⟨rfl, rfl⟩

end Endpoint

end Retimer
