import PodPipeline.Run.Guard
import PodPipeline.Watch.Channel
import PodPipeline.Watch.Completion

/-! Reading a watch until the pod has finished or the run is interrupted. -/
namespace PodPipeline

variable {σ α : Type}

inductive Progress (α : Type) where
  /-- Nothing happens until something else does. -/
  | blocked
  | moved
  | ended (result : α)
  | aborted
deriving Repr

abbrev RunResult := Except StepError Outcome

/-- A watcher that waits for the events of a watch, and the world with the watch in it. -/
structure Wait (σ : Type) where
  world : σ
  guard : RunGuard
  watcher : CompletionWatcher

structure WaitTick (σ : Type) where
  wait : Wait σ
  progress : Progress RunResult
  log : List LogEvent := []

/-- Reading once, as work: it has a result when an event is there or the events have ended. -/
def EventSource.read (src : EventSource σ) (s : σ) : σ × Option (Option WatchEvent) :=
  match src.next s with
  | (t, .event e) => (t, some (some e))
  | (t, .ended) => (t, some none)
  | (t, .pending) => (t, none)

namespace Wait

/-- The watch is stopped, whatever the result is. -/
def finish (src : EventSource σ) (w : Wait σ) (r : RunResult) (log : List LogEvent) : WaitTick σ :=
  ⟨{ w with world := src.stop w.world }, .ended r, log⟩

/-- One small step: it takes the watcher's result, or else reads one event. -/
def tick (src : EventSource σ) (now : Instant) (w : Wait σ) : WaitTick σ :=
  match w.watcher.result with
  | some o => w.finish src (.ok o) []
  | none =>
    let a := w.guard.poll now src.read w.world
    let w := { w with guard := a.guard, world := a.world }
    match a.waited with
    | .pending => ⟨w, .blocked, a.log⟩
    | .aborted => ⟨w, .aborted, a.log⟩
    | .interrupted e => w.finish src (.error e) a.log
    | .done (some e) =>
      let (watcher, log) := w.watcher.observe e
      ⟨{ w with watcher }, .moved, a.log ++ log⟩
    | .done none =>
      let (watcher, log) := w.watcher.streamClosed
      { w with watcher }.finish src (.ok (watcher.result.getD watchClosedOutcome)) (a.log ++ log)

theorem read_event {src : EventSource σ} {s : σ} {e : WatchEvent}
    (h : (src.read s).2 = some (some e)) : src.next s = ((src.read s).1, .event e) := by
  unfold EventSource.read at h ⊢
  generalize src.next s = n at h ⊢
  obtain ⟨t, d⟩ := n
  cases d <;> simp_all

theorem poll_done {g : RunGuard} {now : Instant} {work : σ → σ × Option α} {s : σ} {a : α}
    (h : (g.poll now work s).waited = .done a) :
    (work s).2 = some a ∧ (g.poll now work s).world = (work s).1 := by
  unfold RunGuard.poll at h ⊢
  simp only at h ⊢
  split at h
  · simp at h
  · split at h
    · simp at h
    · rename_i h1 h2
      cases hr : (work s).2 with
      | none => simp [hr] at h
      | some b => simp_all

/-- A step that goes on has read one of the queued events. -/
theorem queued_tick_lt {src : EventSource σ} {now : Instant} {w : Wait σ}
    (h : (w.tick src now).progress = .moved) :
    src.queued (w.tick src now).wait.world < src.queued w.world := by
  unfold tick at h ⊢
  split at h
  · simp [finish] at h
  · simp only at h ⊢
    split at h <;> try simp [finish] at h
    rename_i e he
    obtain ⟨hr, hw⟩ := poll_done he
    simp only [hw]
    exact src.queued_next_lt (read_event hr)

/-- Goes on until the wait is blocked or over. -/
def run (src : EventSource σ) (now : Instant) (w : Wait σ) : WaitTick σ :=
  match _h : (w.tick src now).progress with
  | .moved =>
    let u := run src now (w.tick src now).wait
    { u with log := (w.tick src now).log ++ u.log }
  | _ => w.tick src now
termination_by src.queued w.world
decreasing_by exact queued_tick_lt (by assumption)

/-- Waits once: the watcher watches from now on. -/
def poll (src : EventSource σ) (now : Instant) (w : Wait σ) : WaitTick σ :=
  run src now { w with watcher := w.watcher.startWatching }

end Wait

end PodPipeline
