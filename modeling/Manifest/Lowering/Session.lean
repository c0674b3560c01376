import Manifest.Lowering.Report

/-!
# Sessions of lowering

A session lowers declarations and scopes one after the other. It is made of the world of the
provider, the failures that nobody has taken yet, and the log. A fatal error ends the lowering of
what was given, but what has happened before it stays in the session.
-/

namespace Manifest

/-- What lowering changes. -/
structure Session (σ : Type) where
  world : σ
  failures : List Failure
  log : List LogEvent

namespace Session

variable {σ ι α β : Type}

def start (world : σ) : Session σ := ⟨world, [], []⟩

def note (session : Session σ) (event : LogEvent) : Session σ :=
  { session with log := session.log ++ [event] }

def inWorld (session : Session σ) (world : σ) : Session σ :=
  { session with world }

def addFailure (session : Session σ) (failure : Failure) : Session σ :=
  { session with failures := session.failures ++ [failure] }

/-- Hands out the failures, after which none is left. -/
def takeFailures (session : Session σ) : List Failure × Session σ :=
  (session.failures, { session with failures := [] })

end Session

/-- What lowering something leads to: a result or a fatal error, and in either case a session. -/
abbrev Outcome (σ α : Type) := Except LoweringError α × Session σ

/-- Goes on with a result. A fatal error ends everything. -/
def Outcome.andThen {σ α β : Type} (outcome : Outcome σ α) (next : α → Session σ → Outcome σ β) :
    Outcome σ β :=
  match outcome with
  | (.error fault, session) => (.error fault, session)
  | (.ok result, session) => next result session

theorem Outcome.andThen_assoc {σ α β γ : Type} (outcome : Outcome σ α)
    (first : α → Session σ → Outcome σ β) (second : β → Session σ → Outcome σ γ) :
    (outcome.andThen first).andThen second =
      outcome.andThen fun result after => (first result after).andThen second := by
  rcases outcome with ⟨fault | result, after⟩ <;> rfl

end Manifest
