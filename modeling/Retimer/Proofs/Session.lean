import Retimer.Bench.Board
import Retimer.Bench.SimulatedPart
import Retimer.Bench.TallyFactory
import Retimer.Proofs.Account
import Retimer.Proofs.History
import Retimer.Proofs.Trace
import Retimer.Session

/-!
# The trace of a session

What a session records goes into a trace that forgets. What is left of it can be trusted for three
reasons. The journal of a step holds what happened in the world. Nothing is in the records but what
is in the journal: each step leaves an account, and accounts add up. And nothing is in the trace but
the records: it shows the latest of their runs.

A byte read or written past the driver leaves no record, so the steps are taken to be without such
accesses.

## Main results

* `Session.step_happened`: the journal of a step is what happened
* `Session.Sound.step_accounted`: each step leaves an account
* `Session.trace_faithful`: the three together, for a session from its start
-/

namespace Retimer

open Bench (Board SimulatedPart TallyFactory)

variable {σ η : Type}

/-! ## Steps -/

namespace Step

/-- Whether a step gets past the driver. -/
def raw : Step σ → Bool
  | operate op => op.raw
  | command c => c.raw
  | _ => false

/-- The programming that a step asks for. -/
def asked? : Step σ → Option (Channel × LineRate)
  | operate op => op.asked?
  | command c => c.asked?
  | _ => none

end Step

namespace Session

/-- The endpoints that exist. -/
def held (s : Session σ η) : List (Endpoint η) := s.provider?.elim [] Provider.endpoints

/-- The provider, if there is one, is in order. -/
def Sound (s : Session σ η) : Prop := ∀ p, s.provider? = some p → p.Coherent

theorem sound_of_none {s : Session σ η} (h : s.provider? = none) : s.Sound := by
  intro p hp
  rw [h] at hp
  cases hp

variable [Bus σ] [Factory σ η]

/-- The session after some steps. -/
def after (s : Session σ η) (xs : List (Step σ)) : Session σ η :=
  xs.foldl (fun s x => (s.step x).session) s

/-- What happened in some steps. -/
def journalOf (s : Session σ η) (xs : List (Step σ)) : List (Event η) :=
  (s.steps xs).flatMap Progress.journal

/-- The programmings that were asked for in some steps and, as the replies say, done. -/
def doneIn (s : Session σ η) (xs : List (Step σ)) : List (Channel × LineRate) :=
  (xs.zip (s.steps xs)).flatMap fun q => q.2.reply.done? q.1.asked?

theorem step_operate_of_none {s : Session σ η} (hp : s.provider? = none) (op : Operation) :
    s.step (.operate op) = s.act (return (.noProvider, none)) := by
  rw [step, hp]

theorem step_operate_of_some {s : Session σ η} {p : Provider η} (hp : s.provider? = some p)
    (op : Operation) :
    s.step (.operate op) = s.act do
      let (reply, p) ← p.perform op
      return (reply, some p) := by
  rw [step, hp]

omit [Bus σ] in
theorem Sound.release_accounted {s : Session σ η} (hs : s.Sound) (w : σ) :
    Accounted (s.held : Multiset (Endpoint η)) (s.release.run w).journal [] 0 := by
  unfold release held
  cases hp : s.provider? with
  | none => exact .nil 0
  | some p =>
    have hgiven := Accounted.givenUp p.endpoints
    have hjournal := (Provider.remove_run (hs p hp).keyed w).2
    simpa [discard, map_const, hjournal] using hgiven

/-- **Each step leaves an account**, and the provider in order. -/
theorem Sound.step_accounted {s : Session σ η} (hs : s.Sound) {x : Step σ} (hraw : x.raw = false) :
    (s.step x).session.Sound ∧
      Accounted (s.held : Multiset (Endpoint η)) (s.step x).journal
        ((s.step x).reply.done? x.asked?) (s.step x).session.held := by
  cases x with
  | change change => exact ⟨hs, .nil _⟩
  | attach variant =>
    refine ⟨?_, ?_⟩
    · rintro p ⟨⟩
      exact Provider.coherent_new variant
    · have hreleased := hs.release_accounted s.world
      simpa [Session.step, act, Step.asked?, held, Provider.new, Provider.endpoints] using hreleased
  | detach =>
    refine ⟨sound_of_none rfl, ?_⟩
    have hreleased := hs.release_accounted s.world
    simpa [Session.step, act, Step.asked?, held] using hreleased
  | operate op =>
    cases hp : s.provider? with
    | none =>
      have hnone : (s.held : Multiset (Endpoint η)) = 0 := by
        rw [held, hp]
        rfl
      rw [step_operate_of_none hp, hnone]
      exact ⟨sound_of_none rfl, .nil 0⟩
    | some p =>
      have hperformed := (hs p hp).perform op s.world
      have haccount := (hs p hp).accounted hraw s.world
      rw [step_operate_of_some hp]
      refine ⟨?_, ?_⟩
      · simpa [Sound, act] using hperformed
      · simpa [act, held, hp, Step.asked?] using haccount
  | command c =>
    refine ⟨hs, ?_⟩
    have haccount := Command.accounted hraw (s.held : Multiset (Endpoint η)) s.world
    simpa [Session.step, act, Step.asked?, held] using haccount

/-- **The journal of a step is what happened**, unless the world was changed from outside. -/
theorem step_happened (s : Session σ η) {x : Step σ} (hx : ∀ change, x ≠ .change change) :
    Happened s.world (s.step x).journal (s.step x).session.world := by
  have hrelease : (s.release : Action σ η Unit).Faithful := by
    unfold release
    split
    · exact Action.faithful_pure _
    · exact Action.Faithful.bind (Provider.remove_faithful _) fun _ => Action.faithful_pure _
  cases x with
  | change change => exact absurd rfl (hx change)
  | attach variant => exact (hrelease.bind fun _ => Action.faithful_pure _) s.world
  | detach => exact (hrelease.bind fun _ => Action.faithful_pure _) s.world
  | operate op =>
    rw [step]
    split
    · rfl
    · exact ((Provider.perform_faithful _ op).bind fun _ => Action.faithful_pure _) s.world
  | command c => exact (c.perform_faithful.bind fun _ => Action.faithful_pure _) s.world

/-! ## Whole sessions -/

/-- Accounts add up. -/
theorem Sound.accounted {s : Session σ η} (hs : s.Sound) {xs : List (Step σ)}
    (hraw : ∀ x ∈ xs, x.raw = false) :
    Accounted (s.held : Multiset (Endpoint η)) (s.journalOf xs) (s.doneIn xs)
      (s.after xs).held := by
  induction xs generalizing s with
  | nil => exact .nil _
  | cons x xs ih =>
    obtain ⟨hx, hxs⟩ := List.forall_mem_cons.mp hraw
    obtain ⟨hsound, haccount⟩ := hs.step_accounted hx
    exact haccount.append (ih hsound hxs)

theorem trace_step (s : Session σ η) (x : Step σ) :
    (s.step x).session.trace = s.trace.addAll (recordsOf (s.step x).journal) := by
  cases x with
  | operate op =>
    rw [step]
    split <;> rfl
  | change | attach | detach | command => rfl

/-- Every record goes into the trace, in order. -/
theorem trace_after (s : Session σ η) (xs : List (Step σ)) :
    (s.after xs).trace = s.trace.addAll (recordsOf (s.journalOf xs)) := by
  induction xs generalizing s with
  | nil => rfl
  | cons x xs ih =>
    have hjournal : s.journalOf (x :: xs) =
        (s.step x).journal ++ (s.step x).session.journalOf xs := rfl
    rw [hjournal, recordsOf_append, Trace.addAll, List.foldl_append]
    have hrest := ih (s.step x).session
    rwa [trace_step] at hrest

/-- **The trace of a session is a faithful account of it**, whatever is attached, asked, detached or
done past the provider, and whatever the bus and the factory answer, as long as no byte is read or
written past the driver.

The journal of each step holds what happened in the world. The records about endpoints tell the
calls of the factory, one for one and in order, and by what they tell the endpoints that are out at
the end are those that exist. The records about failures are those of the accesses that failed, one
for one and in order. The records about successes are the programmings asked for that were reported
done, in order. And the trace shows the latest runs of the records. -/
theorem trace_faithful (w : σ) (xs : List (Step σ)) (hraw : ∀ x ∈ xs, x.raw = false) :
    let s : Session σ η := start w
    let journal := s.journalOf xs
    let records := recordsOf journal
    let runs := Run.ofEntries (records.map fun entry => (Trace.line, entry))
    (∀ earlier x later, xs = earlier ++ x :: later → (∀ change, x ≠ .change change) →
        Happened (s.after earlier).world ((s.after earlier).step x).journal
          ((s.after earlier).step x).session.world) ∧
      Chronicled 0 (journal.filter Event.onFactory) (records.filter Record.onFactory)
        (s.after xs).held ∧
      records.filter Record.isFault = faultsOf journal ∧
      (faultsOf journal).length = journal.countP Event.failed ∧
      records.filterMap Record.configured? = s.doneIn xs ∧
      (s.after xs).trace.entries.map Slot.run = runs.drop (runs.length - traceCapacity) := by
  intro s journal records runs
  have hsound : s.Sound := sound_of_none rfl
  have haccount := hsound.accounted hraw
  refine ⟨?_, haccount.calls, haccount.faults, haccount.failures, haccount.successes, ?_⟩
  · intro earlier x later _ hx
    exact (s.after earlier).step_happened hx
  · rw [trace_after]
    exact (Trace.holds_addAll records).map_run_entries

/-- A part is probed, one of its channels programmed, and the provider detached. -/
theorem trace_faithful_one_request :
    (recordsOf ((start (⟨.healthy 0xC, .blank none⟩ : Board SimulatedPart TallyFactory)).journalOf
      [.attach .ds250df810, .operate .probe, .operate (.setMode [1] .ethernet .tenGBaseR),
        .detach])).filterMap Record.configured? = [(Channel.mk 1, .tenG)] :=
  (trace_faithful (⟨.healthy 0xC, .blank none⟩ : Board SimulatedPart TallyFactory) _
    (by decide)).2.2.2.2.1.trans (by decide +kernel)

end Session

end Retimer
