import PodPipeline.Error
import PodPipeline.Log.Event

/-! The cancel signal and the time limit of a run.

A run waits for nothing but through its guard, which looks at the signal first, then at the clock,
and only then lets the work go on. -/
namespace PodPipeline

inductive CancelSignal where
  /-- Nobody can cancel the run. -/
  | absent
  | armed
  | sent
  /-- The one who could send the signal is gone, and the run has not noticed. -/
  | abandoned
  /-- The run has taken the signal, which cannot be asked for again. -/
  | spent
deriving DecidableEq, Repr

namespace CancelSignal

def send : CancelSignal → CancelSignal
  | .armed => .sent
  | s => s

/-- The sender goes away without sending. -/
def abandon : CancelSignal → CancelSignal
  | .armed => .abandoned
  | s => s

end CancelSignal

/-- How a run can be interrupted. -/
structure RunContext where
  signal : CancelSignal := .absent
  timeout : Option Duration := none
deriving DecidableEq, Repr

/-- A time limit that started to count at some moment. -/
structure TimeLimit where
  after : Duration
  deadline : Instant
deriving DecidableEq, Repr

structure RunGuard where
  step : String
  signal : CancelSignal
  limit : Option TimeLimit
deriving DecidableEq, Repr

/-- What comes of waiting once for some work. -/
inductive Waited (α : Type) where
  | done (value : α)
  | pending
  | interrupted (e : StepError)
  /-- The run breaks down, because the signal is asked for after it was taken. -/
  | aborted
deriving DecidableEq, Repr

namespace RunGuard

/-- The guard of a run that starts `now`. There is none if the clock cannot show its deadline. -/
def start? (step : String) (ctx : RunContext) (now : Instant) : Option RunGuard :=
  match ctx.timeout with
  | none => some ⟨step, ctx.signal, none⟩
  | some after => (now.add? after).map fun deadline => ⟨step, ctx.signal, some ⟨after, deadline⟩⟩

/-- A signal that nobody can send any more is no signal. -/
def settle (g : RunGuard) : RunGuard :=
  if g.signal = .abandoned then { g with signal := .absent } else g

def expired? (g : RunGuard) (now : Instant) : Option Duration :=
  (g.limit.filter fun l => l.deadline.reached now).map (·.after)

/-- What stands in the way of work: a signal, or else the clock. -/
def interruption? (g : RunGuard) (now : Instant) : Option (StepError × LogEvent) :=
  if g.signal = .sent then some (.cancelled g.step, .cancelled g.step)
  else (g.expired? now).map fun after => (.timeout g.step after, .timedOut g.step after)

/-- The guard once it has told of the signal or of the limit. -/
def afterInterruption (g : RunGuard) : RunGuard :=
  if g.signal = .sent then { g with signal := .spent } else g

end RunGuard

/-- A guard and a world after one try to go on with some work. -/
structure Attempt (σ α : Type) where
  guard : RunGuard
  world : σ
  waited : Waited α
  log : List LogEvent := []

/-- Goes on with work that changes the world and may have a result, unless the run is interrupted.
-/
def RunGuard.poll {σ α : Type} (g : RunGuard) (now : Instant) (work : σ → σ × Option α) (s : σ) :
    Attempt σ α :=
  let g := g.settle
  if g.signal = .spent then { guard := g, world := s, waited := .aborted }
  else match g.interruption? now with
    | some (e, event) =>
      { guard := g.afterInterruption, world := s, waited := .interrupted e, log := [event] }
    | none =>
      let (t, r) := work s
      { guard := g, world := t, waited := (r.map Waited.done).getD .pending }

end PodPipeline
