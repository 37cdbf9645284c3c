import Retimer.Provider.Operation

/-!
# What a mode request comes to

A mode request has two gates to pass before the bus is touched. Its arguments have to call for an
endpoint that there is, and its mode has to be one that a rate serves. A request that is stopped at
either gate leaves a record at most, and the world as it was. One that passes both is a programming
of the endpoint's channel, and nothing besides.

That is said here once, for the two ways of asking alike. What holds of programming on any bus then
holds of mode requests, and nothing later takes `setMode` or `resolve` apart again.

## Main results

* `Provider.resolve_run`: the four ways a look-up may end
* `Provider.modeRequest_run`: the three ways a mode request may end
-/

namespace Retimer

variable {σ η : Type}

/-! ## Asking -/

namespace Operation

/-- The arguments of a mode request. -/
def modeArgs? : Operation → Option (List UInt32)
  | setMode args _ _ | setModeRaw args _ _ => some args
  | _ => none

/-- The rate that serves the mode asked for, if one does. -/
def rate? : Operation → Option LineRate
  | setMode _ mode submode => (LineRate.forMode mode submode).toOption
  | setModeRaw _ mode submode => do
    let mode ← PhyMode.ofCode? mode.toNat
    let submode ← InterfaceMode.ofCode? submode.toNat
    (LineRate.forMode mode submode).toOption
  | _ => none

/-- What is recorded if no rate serves the mode asked for. -/
def refusal (c : Channel) : Operation → Record
  | setMode _ mode submode => .unsupportedMode c mode submode
  | setModeRaw _ mode submode =>
    match PhyMode.ofCode? mode.toNat, InterfaceMode.ofCode? submode.toNat with
    | some mode, some submode => .unsupportedMode c mode submode
    | _, _ => .unsupportedRawMode c mode submode
  | _ => .none

end Operation

/-! ## Programming, or refusing to -/

section Use

variable [Bus σ]

/-- What a mode request does with the endpoint. -/
def Operation.use (op : Operation) (e : Endpoint η) : Attempt σ η Unit :=
  match op with
  | .setMode _ mode submode => e.setMode mode submode
  | .setModeRaw _ mode submode => e.setModeRaw mode submode
  | _ => pure ()

theorem LineRate.forMode_eq_error {mode : PhyMode} {submode : InterfaceMode} {failure : Failure}
    (h : forMode mode submode = .error failure) : failure = .unsupportedMode := by
  unfold forMode at h
  split at h
  · cases h
  · cases h
  · exact (Except.error.inj h).symm

theorem Endpoint.setMode_run (e : Endpoint η) (mode : PhyMode) (submode : InterfaceMode) (w : σ) :
    (e.setMode mode submode : Attempt σ η Unit).run.run w =
      (LineRate.forMode mode submode).toOption.elim
        ⟨.error .unsupportedMode, w, [.record (.unsupportedMode e.channel mode submode)]⟩
        fun rate => (configure e.channel rate : Attempt σ η Unit).run.run w := by
  cases hmode : LineRate.forMode mode submode with
  | ok rate =>
    rw [setMode, hmode]
    rfl
  | error failure =>
    obtain rfl := LineRate.forMode_eq_error hmode
    simp [setMode, hmode, Attempt.record, Except.toOption]

/-- What a mode request does with the endpoint is to program its channel if there is a rate, and to
record the refusal if there is none. -/
theorem Operation.use_run {op : Operation} {args : List UInt32} (hop : op.modeArgs? = some args)
    (e : Endpoint η) (w : σ) :
    (op.use e : Attempt σ η Unit).run.run w =
      op.rate?.elim ⟨.error .unsupportedMode, w, [.record (op.refusal e.channel)]⟩
        fun rate => (configure e.channel rate : Attempt σ η Unit).run.run w := by
  cases op with
  | setMode args mode submode => exact e.setMode_run mode submode w
  | setModeRaw args mode submode =>
    cases hmode : PhyMode.ofCode? mode.toNat with
    | none => simp [use, Endpoint.setModeRaw, rate?, refusal, hmode, Attempt.record]
    | some named =>
      cases hsubmode : InterfaceMode.ofCode? submode.toNat with
      | none => simp [use, Endpoint.setModeRaw, rate?, refusal, hmode, hsubmode, Attempt.record]
      | some subnamed =>
        simp only [use, Endpoint.setModeRaw, rate?, refusal, hmode, hsubmode, Option.bind_eq_bind,
          Option.bind_some]
        exact e.setMode_run named subnamed w
  | probe | remove | variant | resolve | endpoint | command => cases hop

end Use

/-! ## Looking the endpoint up -/

theorem Channel.ofArgs_eq_error {args : List UInt32} {failure : Failure}
    (h : ofArgs args = .error failure) : failure = .invalidChannel ∨ failure = .invalidBinding := by
  unfold ofArgs at h
  split at h
  · split at h <;> simp_all
  · exact .inr (Except.error.inj h).symm

namespace Provider

/-- How a look-up may end, and what it leaves. -/
inductive Resolved (p : Provider η) (args : List UInt32) :
    Except Failure (Endpoint η) → List (Event η) → Prop
  /-- There is such an endpoint. -/
  | found {c : Channel} {e : Endpoint η} (hargs : Channel.ofArgs args = .ok c)
    (he : p.endpoint? c = some e) : Resolved p args (.ok e) []
  /-- The channel is not populated. -/
  | vacant {c : Channel} (hargs : Channel.ofArgs args = .ok c) (he : p.endpoint? c = none) :
    Resolved p args (.error .invalidChannel) []
  /-- There is no such channel. -/
  | beyond (hargs : Channel.ofArgs args = .error .invalidChannel) :
    Resolved p args (.error .invalidChannel) []
  /-- There is more or less than one cell. -/
  | miscounted (hargs : Channel.ofArgs args = .error .invalidBinding) :
    Resolved p args (.error .invalidBinding) [.record (.badBindingArgs args.length)]

/-- **The four ways a look-up may end.** None of them touches the world. -/
theorem resolve_run (p : Provider η) (args : List UInt32) (w : σ) :
    ∃ value journal, p.Resolved args value journal ∧
      (p.resolve args : Attempt σ η _).run.run w = ⟨value, w, journal⟩ := by
  cases hargs : Channel.ofArgs args with
  | ok c =>
    cases he : p.endpoint? c with
    | some e => exact ⟨_, _, .found hargs he, by simp [resolve, hargs, he]⟩
    | none => exact ⟨_, _, .vacant hargs he, by simp [resolve, hargs, he]⟩
  | error failure =>
    rcases Channel.ofArgs_eq_error hargs with rfl | rfl
    · exact ⟨_, _, .beyond hargs, by simp [resolve, hargs]⟩
    · exact ⟨_, _, .miscounted hargs, by simp [resolve, hargs, Attempt.record]⟩

/-! ## Changing the mode -/

variable [Bus σ]

/-- How a mode request may end. -/
inductive Requested (p : Provider η) (op : Operation) (args : List UInt32) (w : σ) :
    Outcome σ η (Reply η × Provider η) → Prop
  /-- The arguments call for no endpoint. -/
  | unresolved {failure : Failure} {journal : List (Event η)}
    (h : p.Resolved args (.error failure) journal) :
    Requested p op args w ⟨(.unresolved failure, p), w, journal⟩
  /-- No rate serves the mode. -/
  | refused {e : Endpoint η} (h : p.Resolved args (.ok e) []) (hrate : op.rate? = none) :
    Requested p op args w
      ⟨(.done (.error .unsupportedMode), p), w, [.record (op.refusal e.channel)]⟩
  /-- The endpoint's channel was programmed. -/
  | programmed {e : Endpoint η} {rate : LineRate} {o : Outcome σ η (Except Failure Unit)}
    (h : p.Resolved args (.ok e) []) (hrate : op.rate? = some rate)
    (ho : (configure e.channel rate : Attempt σ η Unit).run.run w = o) :
    Requested p op args w ⟨(.done o.value, p), o.world, o.journal⟩

/-- **The three ways a mode request may end.** -/
theorem modeRequest_run [Factory σ η] {op : Operation} {args : List UInt32}
    (hop : op.modeArgs? = some args) (p : Provider η) (w : σ) :
    Requested p op args w ((p.perform op).run w) := by
  have hperform : (p.perform op : Action σ η _) =
      do return (← p.withEndpoint args op.use, p) := by
    cases op <;> cases hop <;> rfl
  obtain ⟨value, journal, hresolved, hrun⟩ := p.resolve_run args w
  cases value with
  | error failure =>
    have hdone : (p.perform op).run w = ⟨(.unresolved failure, p), w, journal⟩ := by
      simp [hperform, withEndpoint, hrun]
    rw [hdone]
    exact .unresolved hresolved
  | ok e =>
    have hdone : (p.perform op).run w =
        ⟨(.done ((op.use e).run.run w).value, p), ((op.use e).run.run w).world,
          journal ++ ((op.use e).run.run w).journal⟩ := by
      simp [hperform, withEndpoint, hrun]
    obtain rfl : journal = [] := by
      cases hresolved
      rfl
    rw [hdone, Operation.use_run hop]
    cases hrate : op.rate? with
    | none => exact .refused hresolved hrate
    | some rate => exact .programmed hresolved hrate rfl

end Provider

end Retimer
