import PodPipeline.Proofs.Run.Moves
import PodPipeline.Proofs.Run.Record
import PodPipeline.Proofs.Store.Change

/-! A run whose client is a store, with the record of what it has done. -/
namespace PodPipeline

theorem buildPod_ok {step : String} {c : StepConfig} {j : Job} {p : Pod}
    (h : buildPod step c j = .ok p) :
    p.metadata.name = some c.podName ∧ p.metadata.namespace = some j.namespace ∧
      p.status = none := by
  simp only [buildPod, bind, Except.bind] at h
  repeat' split at h
  all_goals cases h
  exact ⟨rfl, rfl, rfl⟩

theorem Pod.verdict_of_status_none {p : Pod} (h : p.status = none) : p.verdict = none := by
  have hf : p.failedContainers = [] := by
    simp [failedContainers, terminatedContainers, h]
  have hp : p.phase = .pending := by simp [phase, h]
  simp [verdict, hf, hp]

namespace PodStep

def key (s : PodStep) : PodKey := ⟨s.namespace, s.name⟩

theorem name_pod {s : PodStep} {p : Pod} (h : s.pod = .ok p) : p.name = s.name := by
  unfold Pod.name
  rw [(buildPod_ok h).1]
  rfl

theorem inNamespace_pod {s : PodStep} {p : Pod} (h : s.pod = .ok p) :
    p.inNamespace s.namespace = p := by
  obtain ⟨-, hns, -⟩ := buildPod_ok h
  unfold Pod.inNamespace
  rw [show some s.namespace = p.metadata.namespace from hns.symm]

theorem verdict_pod {s : PodStep} {p : Pod} (h : s.pod = .ok p) (ns : String) :
    (p.inNamespace ns).verdict = none :=
  Pod.verdict_of_status_none (buildPod_ok h).2.2

theorem verdictOf_eq {s : PodStep} {p : Pod} (h : p.key = s.key) : s.verdictOf p = p.verdict := by
  have hn : p.name = s.name := congrArg PodKey.name h
  simp [verdictOf, hn]

end PodStep

def Await.watch? : Await → Option WatchId
  | .watch => none
  | .lookup w | .create w | .reread w | .events w _ => some w

def RunStage.watch? : RunStage → Option WatchId
  | .active r => r.watch?
  | _ => none

theorem RunStage.watch?_active {r : ActiveRun} {a : Await} (ha : r.await = a) :
    (RunStage.active r).watch? = a.watch? := by
  subst ha
  rfl

theorem RunStage.watch?_looking {r : ActiveRun} {w : WatchId}
    (ha : r.await = .lookup w ∨ r.await = .reread w) : (RunStage.active r).watch? = some w := by
  rcases ha with ha | ha
  · exact watch?_active ha
  · exact watch?_active ha

@[simp] theorem RunStage.watch?_mapSignal (f : CancelSignal → CancelSignal) (s : RunStage) :
    (s.mapSignal f).watch? = s.watch? := by
  cases s <;> rfl

@[simp] theorem RunStage.isOver_mapSignal (f : CancelSignal → CancelSignal) (s : RunStage) :
    (s.mapSignal f).isOver = s.isOver := by
  cases s <;> rfl

theorem RunStage.mapSignal_of_isOver {f : CancelSignal → CancelSignal} {s : RunStage}
    (h : s.isOver) : s.mapSignal f = s := by
  cases s with
  | idle => cases h
  | active => cases h
  | finished => rfl
  | aborted => rfl

theorem RunStage.mapSignal_eq_active {f : CancelSignal → CancelSignal} {s : RunStage}
    {b : ActiveRun} (h : s.mapSignal f = .active b) : ∃ a, s = .active a ∧
      b = { a with guard := { a.guard with signal := f a.guard.signal } } := by
  cases s with
  | active a =>
    cases h
    exact ⟨a, rfl, rfl⟩
  | idle => cases h
  | finished => cases h
  | aborted => cases h

theorem RunStage.WasCut.isOver {step : String} {s : RunStage} (h : s.WasCut step) : s.isOver := by
  cases s with
  | idle => exact h.elim
  | active => exact h.elim
  | finished => rfl
  | aborted => rfl

theorem RunStage.watch?_of_isOver {s : RunStage} (h : s.isOver) : s.watch? = none := by
  cases s with
  | idle => cases h
  | active => cases h
  | finished => rfl
  | aborted => rfl

/-- The run, when it waits for something else. -/
def ActiveRun.onward (r : ActiveRun) (await : Await) : ActiveRun :=
  { r with guard := r.guard.settle, await, begun := false }

structure Runner where
  step : PodStep
  stage : RunStage
  record : Record := {}

namespace Runner

def key (r : Runner) : PodKey := r.step.key

def watch? (r : Runner) : Option WatchId := r.stage.watch?

def tick (r : Runner) (now : Instant) (s : PodStore) : PodStore × Runner :=
  let t := r.step.tick (Recorded.client PodStore.client) now r.stage ⟨s, r.record⟩
  (t.world.world, { r with stage := t.stage, record := t.world.record })

def signal (f : CancelSignal → CancelSignal) (r : Runner) : Runner :=
  { r with stage := r.stage.mapSignal f }

def drop (r : Runner) (s : PodStore) : PodStore × Runner :=
  if r.stage.isOver then (s, r)
  else (r.stage.release PodStore.client s, { r with stage := .aborted })

/-- The run is as runs are that began at the store: its watch is open, and no call is under way. -/
structure Attends (s : PodStore) (r : Runner) : Prop where
  listening : ∀ w, r.watch? = some w → ∃ q, s.Listening w r.key q
  active : ∀ a, r.stage = .active a → a.begun = false ∧ r.step.pod = .ok a.pod ∧
    a.guard.step = r.step.sectionName ∧
      ∀ w watcher, a.await = .events w watcher → watcher.podName = r.step.name

variable {s t : PodStore} {r : Runner}

theorem watch?_of_await {a : ActiveRun} {await : Await} (hs : r.stage = .active a)
    (ha : a.await = await) : r.watch? = await.watch? := by
  unfold watch?
  rw [hs]
  exact RunStage.watch?_active ha

theorem sameBut_release (s : PodStore) (a : ActiveRun) :
    s.SameBut a.watch? (a.release PodStore.client s) := by
  unfold ActiveRun.release
  split
  · rename_i w hw
    rw [hw]
    exact .stop s w
  · exact .refl s

theorem sameBut_drop (r : Runner) (s : PodStore) : s.SameBut r.watch? (r.drop s).1 := by
  unfold drop
  split
  · exact .refl s
  · obtain ⟨p, stage, rec⟩ := r
    cases stage with
    | active a => exact sameBut_release s a
    | idle => exact .refl s
    | finished => exact .refl s
    | aborted => exact .refl s

namespace Attends

variable {p : PodStep} {rec rec' : Record} {a : ActiveRun} {await : Await}

theorem of_isOver (h : r.stage.isOver) : Attends t r where
  listening w hw := by
    rw [watch?, RunStage.watch?_of_isOver h] at hw
    cases hw
  active a ha := by
    rw [ha] at h
    cases h

theorem listening_same (h : Attends s ⟨p, .active a, rec⟩)
    (ha : (RunStage.active a).watch? = await.watch?) (ht : s.SameBut none t) (w : WatchId)
    (hw : await.watch? = some w) : ∃ q, t.Listening w p.key q := by
  obtain ⟨q, hq⟩ := h.listening w (ha.trans hw)
  exact ⟨q, ht.listening (by simp) hq⟩

/-- The run waits for something else. -/
theorem onward (h : Attends s ⟨p, .active a, rec⟩)
    (hl : ∀ w, await.watch? = some w → ∃ q, t.Listening w p.key q)
    (hn : ∀ w watcher, await = .events w watcher → watcher.podName = p.name) :
    Attends t ⟨p, .active (a.onward await), rec'⟩ where
  listening := hl
  active b hb := by
    cases hb
    obtain ⟨-, hp, hg, -⟩ := h.active a rfl
    exact ⟨rfl, hp, (RunGuard.step_settle _).trans hg, hn⟩

/-- Another actor does something. -/
theorem drifts (h : Attends s r) (hd : s.Drifts t r.watch? r.key) : Attends t r where
  listening w hw := by
    obtain ⟨news, -, hq'⟩ := hd
    obtain ⟨q, hq⟩ := h.listening w hw
    exact ⟨q ++ news, hq' w q hw hq⟩
  active := h.active

theorem signal (h : Attends s r) (f : CancelSignal → CancelSignal) : Attends s (r.signal f) where
  listening w hw := h.listening w ((RunStage.watch?_mapSignal f r.stage).symm.trans hw)
  active b hb := by
    obtain ⟨a, ha, rfl⟩ := RunStage.mapSignal_eq_active hb
    exact h.active a ha

end Attends

end Runner

end PodPipeline
