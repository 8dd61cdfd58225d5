import PodPipeline.Cluster.Reporter
import PodPipeline.Proofs.Store.Change

/-! The small steps of a reporter, between which anything may happen at the store. A reporter that
is not disturbed makes them in a row, which is one of its turns. -/
namespace PodPipeline

inductive ReportStage where
  /-- It waits for an event with a pod to work on. -/
  | waiting
  | reporting (pod : Pod)
  /-- Its watch is still open. -/
  | leaving (result : Option String)
  | done (result : Option String)
deriving DecidableEq, Repr

namespace ReportStage

def isDone : ReportStage → Bool
  | .done _ => true
  | _ => false

theorem isDone_iff {stage : ReportStage} : stage.isDone ↔ ∃ name, stage = .done name := by
  cases stage <;> simp [isDone]

/-- The stage after a turn, from the result of the turn. -/
def ofTurn : Option (Option String) → ReportStage
  | some name => .done name
  | none => .waiting

end ReportStage

namespace Reporter

/-- One small step: an event is read, the status is given, or the watch is stopped. -/
def step (r : Reporter) (stage : ReportStage) (s : PodStore) : PodStore × ReportStage :=
  match stage with
  | .waiting =>
    match s.next r.watch with
    | (s, .pending) => (s, .waiting)
    | (s, .ended) => (s, .leaving none)
    | (s, .event e) => (s, (subject? e).elim .waiting .reporting)
  | .reporting p =>
    let (s, name) := r.report s p
    (s, .leaving name)
  | .leaving name => (s.stop r.watch, .done name)
  | .done name => (s, .done name)

variable {r : Reporter} {s t : PodStore}

theorem step_pending (h : s.next r.watch = (t, .pending)) : r.step .waiting s = (t, .waiting) := by
  simp [step, h]

theorem step_ended (h : s.next r.watch = (t, .ended)) : r.step .waiting s = (t, .leaving none) := by
  simp [step, h]

theorem step_event {e : WatchEvent} (h : s.next r.watch = (t, .event e)) :
    r.step .waiting s = (t, (subject? e).elim .waiting .reporting) := by
  simp [step, h]

def steps (r : Reporter) : Nat → PodStore × ReportStage → PodStore × ReportStage
  | 0, x => x
  | n + 1, x => r.steps n (r.step x.2 x.1)

/-- A turn is some small steps in a row. -/
theorem turn_eq_steps (r : Reporter) (s : PodStore) :
    ∃ n, r.steps n (s, .waiting) = ((r.turn s).1, .ofTurn (r.turn s).2) := by
  fun_induction turn r s with
  | case1 s t h =>
    refine ⟨1, ?_⟩
    rw [steps, step_pending h]
    rfl
  | case2 s t h =>
    refine ⟨2, ?_⟩
    rw [steps, step_ended h]
    rfl
  | case3 s t e h hs ih =>
    obtain ⟨n, hn⟩ := ih
    refine ⟨n + 1, ?_⟩
    rw [steps, step_event h, hs]
    exact hn
  | case4 s t e h p hs t' name hr =>
    refine ⟨3, ?_⟩
    rw [steps, step_event h, hs]
    simp only [Option.elim_some, steps, step, hr]
    rfl

end Reporter

end PodPipeline
