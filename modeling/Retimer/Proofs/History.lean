import Retimer.Proofs.Discovery
import Retimer.Proofs.Programming
import Retimer.Proofs.Provider.Coherence
import Retimer.Proofs.Provider.ModeRequest

/-!
# The journal is what happened

An action gives the next state of the world and a journal, and nothing in the notion of an action
ties the two together. For the driver they are tied: its journal holds every access and every call
there was, in order and with the answers the world gave, and the world afterwards is what these made
of the world before. `Happened` says so of a journal, and `Action.Faithful` of an action.

The use of it is that a question about the world becomes a question about a list. What is to stay as
it is in the world does so if no event of the journal could change it, and the events of a journal
are known from other lemmas.

## Main results

* `Provider.perform_faithful`: every operation leaves a true journal
* `Happened.keeps`: what no event of a journal changes is as it was
-/

namespace Retimer

variable {σ η α β : Type} [Bus σ] [Factory σ η]

/-! ## True journals -/

/-- From one state of the world to another, a journal holds what happened: each event is answered
from the state which the events before it left behind. -/
def Happened : σ → List (Event η) → σ → Prop
  | w, [], w' => w' = w
  | w, .read address answer :: journal, w' =>
    answer = (Bus.readByte address w).1 ∧ Happened (Bus.readByte address w).2 journal w'
  | w, .write address value answer :: journal, w' =>
    answer = (Bus.writeByte address value w).1 ∧
      Happened (Bus.writeByte address value w).2 journal w'
  | w, .create c answer :: journal, w' =>
    answer = (Factory.create c w).1 ∧ Happened (Factory.create c w).2 journal w'
  | w, .destroy handle :: journal, w' => Happened (Factory.destroy handle w) journal w'
  | w, .record _ :: journal, w' => Happened w journal w'

namespace Happened

variable {w w' w'' : σ} {a b : List (Event η)}

theorem append (ha : Happened w a w') (hb : Happened w' b w'') : Happened w (a ++ b) w'' := by
  induction a generalizing w with
  | nil => rwa [← show w' = w from ha]
  | cons e a ih =>
    cases e with
    | read address answer => exact ⟨ha.1, ih ha.2⟩
    | write address value answer => exact ⟨ha.1, ih ha.2⟩
    | create c answer => exact ⟨ha.1, ih ha.2⟩
    | destroy handle => exact ih ha
    | record entry => exact ih ha

/-- Where a first part of a journal leads, the rest of it sets out from. -/
theorem of_append (h : Happened w (a ++ b) w'') : ∃ w', Happened w a w' ∧ Happened w' b w'' := by
  induction a generalizing w with
  | nil => exact ⟨w, rfl, h⟩
  | cons e a ih =>
    cases e with
    | read address answer =>
      obtain ⟨w', ha, hb⟩ := ih h.2
      exact ⟨w', ⟨h.1, ha⟩, hb⟩
    | write address value answer =>
      obtain ⟨w', ha, hb⟩ := ih h.2
      exact ⟨w', ⟨h.1, ha⟩, hb⟩
    | create c answer =>
      obtain ⟨w', ha, hb⟩ := ih h.2
      exact ⟨w', ⟨h.1, ha⟩, hb⟩
    | destroy handle => exact ih h
    | record entry => exact ih h

/-- A journal leads to one state of the world. -/
theorem unique (h : Happened w a w') (h' : Happened w a w'') : w'' = w' := by
  induction a generalizing w with
  | nil => rw [show w' = w from h, show w'' = w from h']
  | cons e a ih =>
    cases e with
    | read address answer => exact ih h.2 h'.2
    | write address value answer => exact ih h.2 h'.2
    | create c answer => exact ih h.2 h'.2
    | destroy handle => exact ih h h'
    | record entry => exact ih h h'

theorem of_answered (h : Answered w a w') : Happened w a w' := by
  induction a generalizing w with
  | nil => exact h
  | cons e a ih =>
    cases e with
    | read address answer => exact ⟨h.1, ih h.2⟩
    | write address value answer => exact ⟨h.1, ih h.2⟩
    | record entry => exact ih h
    | create | destroy => exact h.elim

end Happened

/-- Whether an event leaves something of the world as it is, whatever the rest of the world. -/
def Event.Keeps {τ : Type} (f : σ → τ) : Event η → Prop
  | read address _ => ∀ w, f (Bus.readByte address w).2 = f w
  | write address value _ => ∀ w, f (Bus.writeByte address value w).2 = f w
  | create c _ => ∀ w : σ, f (Factory.create c w).2 = f w
  | destroy handle => ∀ w : σ, f (Factory.destroy handle w) = f w
  | record _ => True

/-- **What no event of a journal changes is as it was.** -/
theorem Happened.keeps {τ : Type} {f : σ → τ} {w w' : σ} {journal : List (Event η)}
    (h : Happened w journal w') (hkeep : ∀ e ∈ journal, e.Keeps f) : f w' = f w := by
  induction journal generalizing w with
  | nil => rw [show w' = w from h]
  | cons e journal ih =>
    obtain ⟨he, hrest⟩ := List.forall_mem_cons.mp hkeep
    cases e with
    | read address answer => exact (ih h.2 hrest).trans (he w)
    | write address value answer => exact (ih h.2 hrest).trans (he w)
    | create c answer => exact (ih h.2 hrest).trans (he w)
    | destroy handle => exact (ih h hrest).trans (he w)
    | record entry => exact ih h hrest

/-! ## Faithful actions -/

namespace Action

/-- From every state of the world, the journal of the action holds what happened. -/
def Faithful (a : Action σ η α) : Prop := ∀ w, Happened w (a.run w).journal (a.run w).world

theorem faithful_pure (a : α) : Faithful (pure a : Action σ η α) := fun _ => rfl

theorem Faithful.bind {a : Action σ η α} {f : α → Action σ η β} (ha : Faithful a)
    (hf : ∀ x, Faithful (f x)) : Faithful (a >>= f) :=
  fun w => (ha w).append (hf _ _)

theorem faithful_record (entry : Record) : Faithful (record entry : Action σ η Unit) :=
  fun _ => rfl

theorem faithful_create (c : Channel) : Faithful (create c : Action σ η _) :=
  fun _ => ⟨rfl, rfl⟩

theorem faithful_destroy (handle : η) : Faithful (destroy handle : Action σ η Unit) :=
  fun _ => rfl

end Action

/-! ## What is done on the bus -/

theorem Topology.discover_faithful : (discover : Attempt σ η Topology).run.Faithful := by
  intro w
  obtain ⟨value, journal, w', -, hanswered, hrun⟩ := @discover_run σ η _ w
  rw [hrun]
  exact .of_answered hanswered

theorem configure_faithful (c : Channel) (rate : LineRate) :
    (configure c rate : Attempt σ η Unit).run.Faithful :=
  fun w => .of_answered (configure_answered c rate w)

theorem Command.perform_faithful (command : Command) :
    (command.perform : Action σ η (Reply η)).Faithful := by
  cases command with
  | read r mask =>
    refine Action.Faithful.bind ?_ fun _ => Action.faithful_pure _
    intro w
    obtain ⟨answer, w', h⟩ : ∃ x w', Bus.readByte r.address w = (x, w') := ⟨_, _, rfl⟩
    cases answer with
    | ok value =>
      rw [readRegister_run_ok h]
      simp [Happened, h]
    | error fault =>
      rw [readRegister_run_error h]
      simp [Happened, h]
  | write change =>
    refine Action.Faithful.bind ?_ fun _ => Action.faithful_pure _
    exact fun w => .of_answered (change.apply_answered w)
  | readByte address => exact fun w => ⟨rfl, rfl⟩
  | writeByte address value => exact fun w => ⟨rfl, rfl⟩
  | discover => exact Topology.discover_faithful.bind fun _ => Action.faithful_pure _
  | configure c rate => exact (configure_faithful c rate).bind fun _ => Action.faithful_pure _

/-! ## What a provider does -/

namespace Provider

theorem dismantle_faithful (cs : List Channel) (m : EndpointMap η) :
    (dismantle cs m : Action σ η _).Faithful := by
  induction cs generalizing m with
  | nil => exact Action.faithful_pure _
  | cons c cs ih =>
    rw [dismantle]
    split
    · exact ih m
    · exact (Action.faithful_destroy _).bind fun _ =>
        (Action.faithful_record _).bind fun _ => ih _

theorem remove_faithful (p : Provider η) : (p.remove : Action σ η _).Faithful :=
  Action.Faithful.bind (dismantle_faithful _ _) fun _ => Action.faithful_pure _

theorem populate_faithful (cs : List Channel) (p : Provider η) :
    (populate cs p : Action σ η _).Faithful := by
  induction cs generalizing p with
  | nil => exact Action.faithful_pure _
  | cons c cs ih =>
    refine (Action.faithful_create c).bind fun answer => ?_
    split
    · split
      · exact (Action.faithful_record _).bind fun _ => ih _
      · exact (Action.faithful_destroy _).bind fun _ =>
          (remove_faithful p).bind fun _ => Action.faithful_pure _
    · exact (Action.faithful_record _).bind fun _ =>
        (remove_faithful p).bind fun _ => Action.faithful_pure _

theorem install_faithful (p : Provider η) (found : Topology) :
    (p.install found : Action σ η _).Faithful := by
  have hnote : (p.noteMismatch found : Action σ η Unit).Faithful := by
    unfold noteMismatch
    split
    · exact Action.faithful_record _
    · exact Action.faithful_pure _
  refine hnote.bind fun _ => (populate_faithful _ _).bind fun result => ?_
  obtain ⟨outcome, q⟩ := result
  cases outcome with
  | ok _ => exact @Action.faithful_pure σ η _ _ _ _
  | error failure => exact @Action.faithful_pure σ η _ _ _ _

theorem probe_faithful (p : Provider η) : (p.probe : Action σ η _).Faithful := by
  unfold probe
  split
  · exact Action.faithful_pure _
  · refine Topology.discover_faithful.bind fun result => ?_
    split
    · exact install_faithful _ _
    · exact Action.faithful_pure _

theorem Resolved.happened {p : Provider η} {args : List UInt32}
    {value : Except Failure (Endpoint η)} {journal : List (Event η)}
    (h : p.Resolved args value journal) (w : σ) : Happened w journal w := by
  cases h <;> rfl

theorem modeRequest_faithful {op : Operation} {args : List UInt32}
    (hop : op.modeArgs? = some args) (p : Provider η) :
    (p.perform op : Action σ η _).Faithful := by
  intro w
  have hrequested := modeRequest_run hop p w
  generalize (p.perform op).run w = o at hrequested ⊢
  cases hrequested with
  | unresolved h => exact h.happened w
  | refused h hrate => rfl
  | programmed h hrate ho =>
    subst ho
    exact configure_faithful _ _ w

/-- **Every operation leaves a true journal.** -/
theorem perform_faithful (p : Provider η) (op : Operation) :
    (p.perform op : Action σ η _).Faithful := by
  cases op with
  | probe => exact (probe_faithful p).bind fun _ => Action.faithful_pure _
  | remove => exact (remove_faithful p).bind fun _ => Action.faithful_pure _
  | variant => exact Action.faithful_pure _
  | resolve args =>
    refine Action.Faithful.bind ?_ fun _ => Action.faithful_pure _
    intro w
    obtain ⟨value, journal, hresolved, hrun⟩ := p.resolve_run args w
    rw [hrun]
    exact hresolved.happened w
  | endpoint c => exact Action.faithful_pure _
  | setMode args mode submode => exact modeRequest_faithful rfl p
  | setModeRaw args mode submode => exact modeRequest_faithful rfl p
  | command command => exact command.perform_faithful.bind fun _ => Action.faithful_pure _

/-- And so does a whole run. -/
theorem serve_faithful (variant : Variant) (ops : List Operation) :
    (serve variant ops : Action σ η _).Faithful := by
  intro w
  induction ops using List.reverseRecOn with
  | nil => rfl
  | append_singleton ops op ih =>
    rw [serve_concat]
    exact ih.append (perform_faithful _ op _)

/-- So does one that ends with a removal. -/
theorem happened_serve_remove (variant : Variant) (ops : List Operation) (w : σ) :
    let served := (serve variant ops : Action σ η _).run w
    let dropped := served.value.2.remove.run served.world
    Happened w (served.journal ++ dropped.journal) dropped.world :=
  (serve_faithful variant ops w).append (remove_faithful _ _)

end Provider

end Retimer
