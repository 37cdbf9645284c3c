import Retimer.Provider.Operation
import Retimer.Trace

/-!
# Sessions

A session is the driver at work: a world, the trace kept so far, and at most one provider. Its
steps attach a provider, put operations to it, and detach it again, which gives its endpoints up.
Whatever a step records goes into the trace.

A step may also change the world from outside, as if someone replaced the part.
-/

namespace Retimer

/-- The driver at work. -/
structure Session (σ η : Type) where
  /-- The world. -/
  world : σ
  /-- The records so far. -/
  trace : Trace
  /-- The provider, while there is one. -/
  provider? : Option (Provider η)

/-- One step of a session. -/
inductive Step (σ : Type)
  /-- Change the world from outside. -/
  | change (change : σ → σ)
  /-- Attach a provider, in place of the one there may be. -/
  | attach (variant : Variant)
  /-- Detach the provider, if there is one. -/
  | detach
  /-- Put an operation to the provider. -/
  | operate (operation : Operation)
  /-- Put a command to the part, past any provider. -/
  | command (command : Command)

namespace Session

variable {σ η : Type}

/-- A session in which nothing has happened. -/
def start (world : σ) : Session σ η := ⟨world, .empty, none⟩

/-- What a step came to: its reply, what happened, and the session afterwards. -/
structure Progress (σ η : Type) where
  /-- The reply. -/
  reply : Reply η
  /-- What happened, in order. -/
  journal : List (Event η)
  /-- The session afterwards. -/
  session : Session σ η

/-- Runs an action that gives a reply and settles which provider there is afterwards. -/
def act (s : Session σ η) (a : Action σ η (Reply η × Option (Provider η))) : Progress σ η :=
  let outcome := a.run s.world
  ⟨outcome.value.1, outcome.journal,
    ⟨outcome.world, s.trace.addAll (recordsOf outcome.journal), outcome.value.2⟩⟩

/-- Gives up the endpoints of the provider, if there is one. -/
def release [Factory σ η] (s : Session σ η) : Action σ η Unit :=
  match s.provider? with
  | none => return ()
  | some p => discard p.remove

variable [Bus σ] [Factory σ η]

/-- Takes one step. -/
def step (s : Session σ η) : Step σ → Progress σ η
  | .change change => { s with world := change s.world }.act (return (.done (.ok ()), s.provider?))
  | .attach variant => s.act do
    s.release
    return (.done (.ok ()), some (.new variant))
  | .detach => s.act do
    s.release
    return (.done (.ok ()), none)
  | .operate operation =>
    match s.provider? with
    | none => s.act (return (.noProvider, none))
    | some p => s.act do
      let (reply, p) ← p.perform operation
      return (reply, some p)
  | .command command => s.act do
    return (← command.perform, s.provider?)

/-- Takes steps in turn, and keeps what each came to. -/
def steps (s : Session σ η) : List (Step σ) → List (Progress σ η)
  | [] => []
  | x :: xs =>
    let progress := s.step x
    progress :: progress.session.steps xs

end Session

end Retimer
