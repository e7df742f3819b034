import HostAddresses.ReportFailure
import HostAddresses.Log.Event

/-!
# Traced computations

A computation that logs events and may fail with a `ReportFailure`. The events stand beside the
outcome and do not depend on who reads them, and those before a failure are kept.
-/

namespace HostAddresses

/-- The events of a computation, in order, and how it ended. -/
structure Traced (α : Type) where
  events : List Event
  outcome : Except ReportFailure α

namespace Traced

variable {α β : Type}

/-- One event. -/
def emit (event : Event) : Traced Unit := ⟨[event], .ok ()⟩

/-- Some events. -/
def emitAll (events : List Event) : Traced Unit := ⟨events, .ok ()⟩

/-- No event. -/
def ofExcept (outcome : Except ReportFailure α) : Traced α := ⟨[], outcome⟩

/-- A failure without an event. -/
def fail (e : ReportFailure) : Traced α := ofExcept (.error e)

/-- What follows a computation that succeeds. -/
def andThen (x : Traced α) (f : α → Traced β) : Traced β :=
  match x.outcome with
  | .ok a => ⟨x.events ++ (f a).events, (f a).outcome⟩
  | .error e => ⟨x.events, .error e⟩

instance : Monad Traced where
  pure a := ofExcept (.ok a)
  bind := andThen

theorem bind_of_ok {x : Traced α} {a : α} (h : x.outcome = .ok a) (f : α → Traced β) :
    x >>= f = ⟨x.events ++ (f a).events, (f a).outcome⟩ := by
  show andThen x f = _
  simp [andThen, h]

theorem bind_of_error {x : Traced α} {e : ReportFailure} (h : x.outcome = .error e)
    (f : α → Traced β) : x >>= f = ⟨x.events, .error e⟩ := by
  show andThen x f = _
  simp [andThen, h]

/-- The outcome of a sequence does not depend on the events. -/
theorem outcome_bind (x : Traced α) (f : α → Traced β) :
    (x >>= f).outcome = x.outcome >>= fun a => (f a).outcome := by
  cases h : x.outcome with
  | ok a => simp [bind_of_ok h]; rfl
  | error e => simp [bind_of_error h]; rfl

instance : LawfulMonad Traced :=
  LawfulMonad.mk' _
    (fun x => by
      show andThen x _ = x
      rcases x with ⟨events, _ | _⟩ <;> simp [andThen, ofExcept])
    (fun a f => by
      show andThen (ofExcept (.ok a)) f = f a
      simp [andThen, ofExcept])
    (fun x f g => by
      show andThen (andThen x f) g = andThen x fun a => andThen (f a) g
      rcases x with ⟨events, _ | a⟩
      · rfl
      · simp only [andThen]
        rcases hf : (f a).outcome with _ | b <;> simp)

end Traced

end HostAddresses
