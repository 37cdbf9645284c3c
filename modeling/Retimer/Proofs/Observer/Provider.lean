import Retimer.Proofs.Account
import Retimer.Proofs.Observer.Driver

/-!
# An observer of a provider's life

Two providers look the same to an observer if they are in the same state, have the same endpoints
with the same handles, and found topologies that look the same. Whether they were declared as the
same member of the family is a question of whether the observer knows. Every operation keeps this
up: it replies the same to both, calls the factory alike, and leaves providers that look the same
again.

Every operation, that is, which the observer can follow. To ask what was declared is to find out,
and a command may read anything, past the driver even. `Operation.Followed` says what of this is
within the observer's means.

## Main results

* `Provider.probe_alike`: a probe, from discovery to the last endpoint
* `Provider.perform_alike`: one operation that the observer can follow
* `Provider.serve_alike`: a whole run of them
-/

namespace Retimer

variable {σ τ η : Type} {O : Observer} {R : σ → τ → Prop}

/-! ## Providers that look the same -/

/-- Two providers look the same to an observer. -/
structure Provider.Alike (O : Observer) (p q : Provider η) : Prop where
  /-- As far as is known they were declared as the same member. -/
  variant : O.variant p.variant = O.variant q.variant
  /-- They are in the same state. -/
  state : p.state = q.state
  /-- What they found looks the same. -/
  topology? : p.topology?.Rel (Topology.Alike O) q.topology?
  /-- They have the same endpoints. -/
  endpointMap : p.endpointMap = q.endpointMap

namespace Provider

theorem alike_new {variant variant' : Variant} (h : O.variant variant = O.variant variant') :
    (new variant : Provider η).Alike O (new variant') := ⟨h, rfl, .none, rfl⟩

theorem noteMismatch_alike {p q : Provider η} (h : p.Alike O q) {found found' : Topology}
    (hfound : found.Alike O found') :
    Action.Alike O R Eq (p.noteMismatch found : Action σ η Unit) (q.noteMismatch found') := by
  intro w v hwv
  rw [noteMismatch_run, noteMismatch_run]
  refine ⟨rfl, hwv, ?_⟩
  rcases O.note_variantMismatch with hinjective | hnone
  · rw [mismatch, mismatch, hinjective h.variant, hfound.channels]
  · have hnothing (r : Provider η) (t : Topology) : O.seen (r.mismatch t) = [] := by
      unfold mismatch
      split <;> simp [Observer.seen, Observer.event, hnone]
    rw [hnothing, hnothing]

theorem resolve_alike {p q : Provider η} (h : p.Alike O q) (args : List UInt32) :
    Attempt.Alike O R Eq (p.resolve args : Attempt σ η (Endpoint η)) (q.resolve args) := by
  have hendpoint (c : Channel) : q.endpoint? c = p.endpoint? c := by
    rw [endpoint?, endpoint?, h.endpointMap]
  unfold resolve
  split
  · simp only [hendpoint]
    split
    · exact Attempt.alike_pure rfl
    · exact Attempt.alike_throw _
  · dsimp only
    split
    · exact (Attempt.alike_record rfl).bind_eq fun _ => Attempt.alike_throw _
    · exact Attempt.alike_throw _

theorem withEndpoint_alike {p q : Provider η} (h : p.Alike O q) (args : List UInt32)
    {use : Endpoint η → Attempt σ η Unit} {use' : Endpoint η → Attempt τ η Unit}
    (huse : ∀ e, Attempt.Alike O R Eq (use e) (use' e)) :
    Action.Alike O R Eq (p.withEndpoint args use) (q.withEndpoint args use') := by
  refine (resolve_alike h args).run_eq.bind_eq fun x => ?_
  cases x with
  | ok e => exact (huse e).run_eq.bind_eq fun _ => Action.alike_pure rfl
  | error failure => exact Action.alike_pure rfl

variable [Bus σ] [Factory σ η] [Bus τ] [Factory τ η]

/-! ## Endpoints -/

theorem dismantle_alike (hR : O.Confuses R) (cs : List Channel) (m : EndpointMap η) :
    Action.Alike O R Eq (dismantle cs m : Action σ η _) (dismantle cs m) := by
  induction cs generalizing m with
  | nil => exact Action.alike_pure rfl
  | cons c cs ih =>
    unfold dismantle
    split
    · exact ih m
    · exact (Action.alike_destroy hR _).bind_eq fun _ =>
        (Action.alike_record rfl).bind_eq fun _ => ih _

theorem remove_alike (hR : O.Confuses R) {p q : Provider η} (h : p.Alike O q) :
    Action.Alike O R (Provider.Alike O) (p.remove : Action σ η _) q.remove := by
  unfold remove
  rw [h.endpointMap]
  exact (dismantle_alike hR _ _).bind_eq fun m => Action.alike_pure ⟨h.variant, rfl, .none, rfl⟩

/-- Two results look the same: the outcomes are equal, and the providers look the same. -/
def AlikeAfter (O : Observer) {β : Type} (x y : β × Provider η) : Prop :=
  x.1 = y.1 ∧ x.2.Alike O y.2

theorem populate_alike (hR : O.Confuses R) (cs : List Channel) {p q : Provider η}
    (h : p.Alike O q) :
    Action.Alike O R (AlikeAfter O) (populate cs p : Action σ η _) (populate cs q) := by
  induction cs generalizing p q with
  | nil => exact Action.alike_pure ⟨rfl, h⟩
  | cons c cs ih =>
    refine (Action.alike_create hR c).bind_eq fun answer => ?_
    cases answer with
    | ok handle =>
      dsimp only
      rw [h.endpointMap]
      split
      · exact (Action.alike_record rfl).bind_eq fun _ =>
          ih ⟨h.variant, h.state, h.topology?, rfl⟩
      · exact (Action.alike_destroy hR handle).bind_eq fun _ =>
          (remove_alike hR h).bind fun _ _ hremoved => Action.alike_pure ⟨rfl, hremoved⟩
    | error failure =>
      exact (Action.alike_record rfl).bind_eq fun _ =>
        (remove_alike hR h).bind fun _ _ hremoved => Action.alike_pure ⟨rfl, hremoved⟩

/-! ## Probing -/

theorem install_alike (hR : O.Confuses R) {p q : Provider η} (h : p.Alike O q)
    {found found' : Topology} (hfound : found.Alike O found') :
    Action.Alike O R (AlikeAfter O) (p.install found : Action σ η _) (q.install found') := by
  unfold install
  refine (noteMismatch_alike h hfound).bind_eq fun _ => ?_
  rw [hfound.channels]
  have hcreating : Provider.Alike O { p with state := .creatingEndpoints }
      { q with state := .creatingEndpoints } := ⟨h.variant, rfl, h.topology?, h.endpointMap⟩
  refine (populate_alike hR _ hcreating).bind ?_
  rintro ⟨outcome, p'⟩ ⟨_, q'⟩ ⟨rfl, h'⟩
  cases outcome with
  | ok _ => exact Action.alike_pure ⟨rfl, h'.variant, rfl, .some hfound, h'.endpointMap⟩
  | error failure => exact Action.alike_pure ⟨rfl, h'.variant, rfl, h'.topology?, h'.endpointMap⟩

/-- **Two probes come to the same.** -/
theorem probe_alike (hR : O.Confuses R) {p q : Provider η} (h : p.Alike O q) :
    Action.Alike O R (AlikeAfter O) (p.probe : Action σ η _) q.probe := by
  unfold probe
  rw [h.state]
  split
  · exact Action.alike_pure ⟨rfl, h⟩
  · refine (Topology.discover_alike hR).run.bind ?_
    rintro _ _ (hfound | failure)
    · have hdiscovering : Provider.Alike O { p with topology? := none, state := .discovering }
          { q with topology? := none, state := .discovering } :=
        ⟨h.variant, rfl, .none, h.endpointMap⟩
      exact install_alike hR hdiscovering hfound
    · exact Action.alike_pure ⟨rfl, h.variant, rfl, .none, h.endpointMap⟩

end Provider

/-! ## Operations -/

/-- Everything on the bus is made out, faults possibly apart. -/
def Observer.Reads (O : Observer) : Prop := ∀ address, O.bits address = fullMask

/-- The observer can follow what the operation is about. -/
def Operation.Followed (O : Observer) : Operation → Prop
  | .variant => O.variant.Injective
  | .command asked => asked.raw = false ∧ O.Reads
  | .probe | .remove | .resolve _ | .endpoint _ | .setMode .. | .setModeRaw .. => True

theorem Topology.Alike.eq {t t' : Topology} (h : t.Alike O t') (hO : O.Reads) : t = t' := by
  obtain ⟨hchannel, hshare⟩ := h.versions (hO _)
  have hdevice := h.deviceId (hO _)
  have hversion := h.version (hO _)
  have hconfig := h.configId
  have hchannels := h.channels
  cases t
  cases t'
  simp_all

variable [Bus σ] [Factory σ η] [Bus τ] [Factory τ η]

theorem Command.perform_alike (hR : O.Confuses R) {command : Command} (hraw : command.raw = false)
    (hO : O.Reads) :
    Action.Alike O R Eq (command.perform : Action σ η (Reply η)) command.perform := by
  cases command with
  | read r mask =>
    have hmask : mask &&& O.bits r.address = mask := by
      rw [hO]
      exact UInt8.and_neg_one
    exact (readRegister_alike_eq hR hmask).run_eq.bind_eq fun _ => Action.alike_pure rfl
  | write change =>
    exact (change.apply_alike hR (hO _)).run_eq.bind_eq fun _ => Action.alike_pure rfl
  | discover =>
    refine (Topology.discover_alike hR).run.bind ?_
    rintro _ _ (hfound | failure)
    · rw [hfound.eq hO]
      exact Action.alike_pure rfl
    · exact Action.alike_pure rfl
  | configure c rate =>
    exact (configure_alike hR c rate).run_eq.bind_eq fun _ => Action.alike_pure rfl
  | readByte | writeByte => cases hraw

namespace Provider

/-- **One operation that the observer can follow** gets the same reply, and leaves providers that
look the same. -/
theorem perform_alike (hR : O.Confuses R) {op : Operation} (hop : op.Followed O)
    {p q : Provider η} (h : p.Alike O q) :
    Action.Alike O R (AlikeAfter O) (p.perform op : Action σ η _) (q.perform op) := by
  cases op with
  | probe =>
    refine (probe_alike hR h).bind ?_
    rintro ⟨outcome, p'⟩ ⟨_, q'⟩ ⟨rfl, h'⟩
    exact Action.alike_pure ⟨rfl, h'⟩
  | remove => exact (remove_alike hR h).bind fun _ _ h' => Action.alike_pure ⟨rfl, h'⟩
  | variant =>
    have hknown : O.variant.Injective := hop
    exact Action.alike_pure ⟨congrArg Reply.variant (hknown h.variant), h⟩
  | resolve args => exact (resolve_alike h args).run_eq.bind_eq fun _ => Action.alike_pure ⟨rfl, h⟩
  | endpoint c =>
    refine Action.alike_pure ⟨?_, h⟩
    simp only [endpoint?, h.endpointMap]
  | setMode args mode submode =>
    exact (withEndpoint_alike h args fun e => e.setMode_alike hR mode submode).bind_eq
      fun _ => Action.alike_pure ⟨rfl, h⟩
  | setModeRaw args mode submode =>
    exact (withEndpoint_alike h args fun e => e.setModeRaw_alike hR mode submode).bind_eq
      fun _ => Action.alike_pure ⟨rfl, h⟩
  | command command =>
    exact (command.perform_alike hR hop.1 hop.2).bind_eq fun _ => Action.alike_pure ⟨rfl, h⟩

theorem performAll_alike (hR : O.Confuses R) {ops : List Operation}
    (hops : ∀ op ∈ ops, op.Followed O) {p q : Provider η} (h : p.Alike O q) :
    Action.Alike O R (AlikeAfter O) (p.performAll ops : Action σ η _) (q.performAll ops) := by
  induction ops generalizing p q with
  | nil => exact Action.alike_pure ⟨rfl, h⟩
  | cons op ops ih =>
    obtain ⟨hop, hops⟩ := List.forall_mem_cons.mp hops
    refine (perform_alike hR hop h).bind ?_
    rintro ⟨reply, p'⟩ ⟨_, q'⟩ ⟨rfl, h'⟩
    refine (ih hops h').bind ?_
    rintro ⟨replies, p''⟩ ⟨_, q''⟩ ⟨rfl, h''⟩
    exact Action.alike_pure ⟨rfl, h''⟩

/-- **Two runs of operations that an observer can follow** come to the same, in worlds that it
cannot tell apart. -/
theorem serve_alike (hR : O.Confuses R) {ops : List Operation} (hops : ∀ op ∈ ops, op.Followed O)
    (variant variant' : Variant) (h : O.variant variant = O.variant variant') :
    Action.Alike O R (AlikeAfter O) (serve variant ops : Action σ η _) (serve variant' ops) :=
  performAll_alike hR hops (alike_new h)

end Provider

end Retimer
