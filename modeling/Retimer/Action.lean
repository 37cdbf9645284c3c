import Retimer.Record

/-!
# Actions and their journal

The driver is a guest in a world it does not own: a bus that may answer anything, and a factory
that makes and unmakes endpoints. An `Action` is what the driver does there. Run from a state of
the world it gives a value, the next state, and a *journal*: every register access, every call of
the factory and every record, in the order in which they happened.

Keeping the three kinds of event in one list is what makes their order a fact that can be stated.
What was on the bus, what the factory was asked, and what was recorded are views of that list.

Nothing is assumed of a world beyond the two classes below. In particular a bus may answer
differently each time, and its answers may depend on all that happened before.

## Main definitions

* `Bus`, `Factory`: what a world has to offer
* `Event`, `Action`, `Outcome`: doing something there
* `Attempt`: an action that stops at its first failure
-/

namespace Retimer

/-! ## What a world has to offer -/

/-- A world with byte registers that can be read and written, each access possibly failing. -/
class Bus (σ : Type) where
  /-- Reads the register at an address. -/
  readByte : UInt8 → σ → Except BusFault UInt8 × σ
  /-- Writes a whole byte to the register at an address. -/
  writeByte : UInt8 → UInt8 → σ → Except BusFault Unit × σ

/-- A world with a factory for endpoints, each known by a handle. -/
class Factory (σ : Type) (η : outParam Type) where
  /-- Makes the endpoint of a channel and hands out its handle. -/
  create : Channel → σ → Except Failure η × σ
  /-- Takes a handle back. -/
  destroy : η → σ → σ

/-! ## Events -/

/-- One entry of a journal. -/
inductive Event (η : Type)
  /-- A register was read. -/
  | read (address : UInt8) (answer : Except BusFault UInt8)
  /-- A byte was written to a register. -/
  | write (address value : UInt8) (answer : Except BusFault Unit)
  /-- An endpoint was asked for. -/
  | create (channel : Channel) (answer : Except Failure η)
  /-- An endpoint was given up. -/
  | destroy (handle : η)
  /-- Something was recorded. -/
  | record (entry : Record)

namespace Event

variable {η : Type}

/-- Whether the event is a register access. -/
def onBus : Event η → Bool
  | read .. | write .. => true
  | _ => false

/-- Whether the event is a call of the factory. -/
def onFactory : Event η → Bool
  | create .. | destroy .. => true
  | _ => false

/-- The record that the event leaves, if it leaves one. -/
def record? : Event η → Option Record
  | record entry => some entry
  | _ => none

end Event

/-- The records of a journal, in order. -/
def recordsOf {η : Type} (journal : List (Event η)) : List Record := journal.filterMap Event.record?

@[simp] theorem recordsOf_nil {η : Type} : recordsOf ([] : List (Event η)) = [] := rfl

@[simp] theorem recordsOf_append {η : Type} (a b : List (Event η)) :
    recordsOf (a ++ b) = recordsOf a ++ recordsOf b := List.filterMap_append

/-! ## Actions -/

/-- What running an action comes to. -/
structure Outcome (σ η α : Type) where
  /-- The value the action gives. -/
  value : α
  /-- The world afterwards. -/
  world : σ
  /-- What happened, in order. -/
  journal : List (Event η)

/-- Something to be done in a world. -/
structure Action (σ η α : Type) where
  /-- Does it, from a given state of the world. -/
  run : σ → Outcome σ η α

namespace Action

variable {σ η α β : Type}

@[ext] theorem ext_run {a b : Action σ η α} (h : ∀ w, a.run w = b.run w) : a = b := by
  cases a; cases b
  exact congrArg Action.mk (funext h)

instance : Monad (Action σ η) where
  pure a := ⟨fun w => ⟨a, w, []⟩⟩
  bind x f := ⟨fun w =>
    let first := x.run w
    let second := (f first.value).run first.world
    ⟨second.value, second.world, first.journal ++ second.journal⟩⟩

@[simp] theorem run_pure (a : α) (w : σ) :
    (pure a : Action σ η α).run w = ⟨a, w, []⟩ := rfl

@[simp] theorem run_bind (x : Action σ η α) (f : α → Action σ η β) (w : σ) :
    (x >>= f).run w =
      ⟨((f (x.run w).value).run (x.run w).world).value,
        ((f (x.run w).value).run (x.run w).world).world,
        (x.run w).journal ++ ((f (x.run w).value).run (x.run w).world).journal⟩ := rfl

instance : LawfulMonad (Action σ η) :=
  LawfulMonad.mk' _
    (fun x => by ext w; simp [Functor.map])
    (fun a f => by ext w; simp)
    (fun x f g => by ext w; simp)

@[simp] theorem run_map (f : α → β) (x : Action σ η α) (w : σ) :
    (f <$> x).run w = ⟨f (x.run w).value, (x.run w).world, (x.run w).journal⟩ := by
  rw [map_eq_pure_bind, run_bind]; simp

/-! ## The five things an action can do -/

/-- Reads the register at an address. -/
def readByte [Bus σ] (address : UInt8) : Action σ η (Except BusFault UInt8) :=
  ⟨fun w =>
    let (answer, w) := Bus.readByte address w
    ⟨answer, w, [.read address answer]⟩⟩

/-- Writes a byte to the register at an address. -/
def writeByte [Bus σ] (address value : UInt8) : Action σ η (Except BusFault Unit) :=
  ⟨fun w =>
    let (answer, w) := Bus.writeByte address value w
    ⟨answer, w, [.write address value answer]⟩⟩

/-- Asks for the endpoint of a channel. -/
def create [Factory σ η] (channel : Channel) : Action σ η (Except Failure η) :=
  ⟨fun w =>
    let (answer, w) := Factory.create channel w
    ⟨answer, w, [.create channel answer]⟩⟩

/-- Gives an endpoint up. -/
def destroy [Factory σ η] (handle : η) : Action σ η Unit :=
  ⟨fun w => ⟨(), Factory.destroy handle w, [.destroy handle]⟩⟩

/-- Records something. -/
def record (entry : Record) : Action σ η Unit :=
  ⟨fun w => ⟨(), w, [.record entry]⟩⟩

@[simp] theorem run_readByte [Bus σ] (address : UInt8) (w : σ) :
    (readByte address : Action σ η _).run w =
      ⟨(Bus.readByte address w).1, (Bus.readByte address w).2,
        [.read address (Bus.readByte address w).1]⟩ := rfl

@[simp] theorem run_writeByte [Bus σ] (address value : UInt8) (w : σ) :
    (writeByte address value : Action σ η _).run w =
      ⟨(Bus.writeByte address value w).1, (Bus.writeByte address value w).2,
        [.write address value (Bus.writeByte address value w).1]⟩ := rfl

@[simp] theorem run_create [Factory σ η] (channel : Channel) (w : σ) :
    (create channel : Action σ η _).run w =
      ⟨(Factory.create channel w).1, (Factory.create channel w).2,
        [.create channel (Factory.create channel w).1]⟩ := rfl

@[simp] theorem run_destroy [Factory σ η] (handle : η) (w : σ) :
    (destroy handle : Action σ η _).run w =
      ⟨(), Factory.destroy handle w, [.destroy handle]⟩ := rfl

@[simp] theorem run_record (entry : Record) (w : σ) :
    (record entry : Action σ η _).run w = ⟨(), w, [.record entry]⟩ := rfl

end Action

/-! ## Attempts -/

/-- An action that gives up at its first failure. -/
abbrev Attempt (σ η α : Type) : Type := ExceptT Failure (Action σ η) α

namespace Attempt

variable {σ η α : Type}

/-- Records something and goes on. -/
def record (entry : Record) : Attempt σ η Unit := ExceptT.lift (Action.record entry)

end Attempt

end Retimer
