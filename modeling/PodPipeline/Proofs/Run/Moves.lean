import PodPipeline.Proofs.Watch.Verdict
import PodPipeline.Run.Basic

/-! What one small step of a run does. `PodStep.tick_moves` lists all cases, for every client. -/
namespace PodPipeline

variable {σ α : Type}

namespace RunGuard

/-- Neither the signal nor the clock stands in the way of work. -/
def Clear (g : RunGuard) (now : Instant) : Prop :=
  g.settle.signal ≠ .spent ∧ g.settle.interruption? now = none

/-- The signal or the clock ends the run with an error, and logs it. -/
def Interrupts (g : RunGuard) (now : Instant) (e : StepError) (event : LogEvent) : Prop :=
  g.settle.signal ≠ .spent ∧ g.settle.interruption? now = some (e, event)

theorem poll_of_clear {g : RunGuard} {now : Instant} (h : g.Clear now) (work : σ → σ × Option α)
    (s : σ) : g.poll now work s =
      { guard := g.settle, world := (work s).1
        waited := ((work s).2.map Waited.done).getD .pending } := by
  simp [RunGuard.poll, h.1, h.2]

theorem poll_of_interrupts {g : RunGuard} {now : Instant} {e : StepError} {event : LogEvent}
    (h : g.Interrupts now e event) (work : σ → σ × Option α) (s : σ) : g.poll now work s =
      { guard := g.settle.afterInterruption, world := s, waited := .interrupted e
        log := [event] } := by
  simp [RunGuard.poll, h.1, h.2]

theorem poll_of_spent {g : RunGuard} (h : g.settle.signal = .spent) (now : Instant)
    (work : σ → σ × Option α) (s : σ) :
    g.poll now work s = { guard := g.settle, world := s, waited := .aborted } := by
  simp [RunGuard.poll, h]

theorem clear_or_cut (g : RunGuard) (now : Instant) :
    g.Clear now ∨ (∃ e event, g.Interrupts now e event) ∨ g.settle.signal = .spent := by
  by_cases hs : g.settle.signal = .spent
  · exact .inr (.inr hs)
  cases hi : g.settle.interruption? now with
  | none => exact .inl ⟨hs, hi⟩
  | some p => exact .inr (.inl ⟨p.1, p.2, hs, hi⟩)

theorem Interrupts.not_clear {g : RunGuard} {now : Instant} {e : StepError} {event : LogEvent}
    (h : g.Interrupts now e event) : ¬g.Clear now := by
  rintro ⟨-, hc⟩
  rw [h.2] at hc
  cases hc

@[simp] theorem step_settle (g : RunGuard) : g.settle.step = g.step := by
  unfold settle
  split <;> rfl

@[simp] theorem limit_settle (g : RunGuard) : g.settle.limit = g.limit := by
  unfold settle
  split <;> rfl

theorem step_start? {step : String} {ctx : RunContext} {now : Instant} {g : RunGuard}
    (h : start? step ctx now = some g) : g.step = step := by
  unfold start? at h
  split at h
  · cases h
    rfl
  · obtain ⟨_, -, rfl⟩ := Option.map_eq_some_iff.mp h
    rfl

theorem clear_iff {g : RunGuard} {now : Instant} :
    g.Clear now ↔ g.signal ≠ .spent ∧ g.signal ≠ .sent ∧ g.expired? now = none := by
  unfold Clear interruption? settle expired?
  cases hs : g.signal <;> simp [hs]

/-- An interruption is a cancellation that was sent or a limit that was reached. -/
theorem Interrupts.cause {g : RunGuard} {now : Instant} {e : StepError} {event : LogEvent}
    (h : g.Interrupts now e event) : e = .cancelled g.step ∧ g.signal = .sent ∨
      ∃ l, g.limit = some l ∧ l.deadline.reached now ∧ e = .timeout g.step l.after := by
  have hi := h.2
  unfold interruption? at hi
  split at hi
  · rename_i hs
    simp only [step_settle, Option.some.injEq, Prod.mk.injEq] at hi
    refine .inl ⟨hi.1.symm, ?_⟩
    unfold settle at hs
    split at hs
    · cases hs
    · exact hs
  · obtain ⟨after, hexp, he⟩ := Option.map_eq_some_iff.mp hi
    obtain ⟨l, hl, rfl⟩ := Option.map_eq_some_iff.mp hexp
    obtain ⟨hl, hr⟩ := Option.filter_eq_some_iff.mp hl
    rw [step_settle] at he
    rw [limit_settle] at hl
    exact .inr ⟨l, hl, hr, (Prod.mk.inj he).1.symm⟩

/-- An interruption is a cancellation or a timeout, and names the step. -/
theorem Interrupts.error {g : RunGuard} {now : Instant} {e : StepError} {event : LogEvent}
    (h : g.Interrupts now e event) :
    e = .cancelled g.step ∨ ∃ after, e = .timeout g.step after := by
  rcases h.cause with ⟨he, -⟩ | ⟨l, -, -, he⟩
  · exact .inl he
  · exact .inr ⟨_, he⟩

end RunGuard

/-- A run was given up, was cancelled or ran out of time. -/
def RunStage.WasCut (step : String) : RunStage → Prop
  | .aborted => True
  | .finished (.error (.cancelled t)) | .finished (.error (.timeout t _)) => t = step
  | _ => False

theorem RunGuard.Interrupts.wasCut {g : RunGuard} {now : Instant} {e : StepError}
    {event : LogEvent} (h : g.Interrupts now e event) :
    (RunStage.finished (.error e)).WasCut g.step := by
  rcases h.error with rfl | ⟨_, rfl⟩ <;> rfl

namespace Wait

inductive Moves (src : EventSource σ) (now : Instant) (w : Wait σ) : WaitTick σ → Prop where
  | decided {o} (hr : w.watcher.result = some o) :
    Moves src now w ⟨{ w with world := src.stop w.world }, .ended (.ok o), []⟩
  | interrupted {e event} (hr : w.watcher.result = none) (hg : w.guard.Interrupts now e event) :
    Moves src now w
      ⟨⟨src.stop w.world, w.guard.settle.afterInterruption, w.watcher⟩, .ended (.error e), [event]⟩
  | brokenDown (hr : w.watcher.result = none) (hg : w.guard.settle.signal = .spent) :
    Moves src now w ⟨{ w with guard := w.guard.settle }, .aborted, []⟩
  | blocked {t} (hr : w.watcher.result = none) (hc : w.guard.Clear now)
      (hn : src.next w.world = (t, .pending)) :
    Moves src now w ⟨⟨t, w.guard.settle, w.watcher⟩, .blocked, []⟩
  | read {t e} (hr : w.watcher.result = none) (hc : w.guard.Clear now)
      (hn : src.next w.world = (t, .event e)) :
    Moves src now w
      ⟨⟨t, w.guard.settle, (w.watcher.observe e).1⟩, .moved, (w.watcher.observe e).2⟩
  | ended {t} (hr : w.watcher.result = none) (hc : w.guard.Clear now)
      (hn : src.next w.world = (t, .ended)) :
    Moves src now w
      ⟨⟨src.stop t, w.guard.settle, w.watcher.streamClosed.1⟩, .ended (.ok watchClosedOutcome),
        w.watcher.streamClosed.2⟩

/-- Every small step of a wait is one of those listed. -/
theorem tick_moves (src : EventSource σ) (now : Instant) (w : Wait σ) :
    w.Moves src now (w.tick src now) := by
  unfold tick
  cases hr : w.watcher.result with
  | some o => exact .decided hr
  | none =>
    dsimp only
    rcases w.guard.clear_or_cut now with hc | ⟨e, event, hi⟩ | hs
    · rw [RunGuard.poll_of_clear hc]
      generalize hx : src.next w.world = x
      obtain ⟨t, d⟩ := x
      cases d with
      | event e =>
        simp only [EventSource.read, hx, Option.map_some, Option.getD_some]
        exact .read hr hc hx
      | ended =>
        simp only [EventSource.read, hx, Option.map_some, Option.getD_some, Wait.finish,
          w.watcher.result_streamClosed, hr, Option.getD_none]
        exact .ended hr hc hx
      | pending =>
        simp only [EventSource.read, hx, Option.map_none, Option.getD_none]
        exact .blocked hr hc hx
    · rw [RunGuard.poll_of_interrupts hi]
      exact .interrupted hr hi
    · rw [RunGuard.poll_of_spent hs]
      exact .brokenDown hr hs

end Wait

namespace PodStep

/-- The call that a run waits for, and the part of the run that it belongs to. -/
def awaited (s : PodStep) (pod : Pod) : Await → Option (ClientCall × CallPhase)
  | .watch => some (s.watchCall, .watch)
  | .lookup _ | .reread _ => some (s.getCall, .lookup)
  | .create _ => some (.create s.namespace pod, .create)
  | .events _ _ => none

theorem awaited_get (s : PodStep) (pod : Pod) {await : Await} {w : WatchId}
    (h : await = .lookup w ∨ await = .reread w) :
    s.awaited pod await = some (s.getCall, .lookup) := by
  rcases h with rfl | rfl <;> rfl

end PodStep

/-- A run makes no other calls. -/
theorem PodStep.awaited_eq {s : PodStep} {pod : Pod} {await : Await} {c : ClientCall}
    {phase : CallPhase} (h : s.awaited pod await = some (c, phase)) :
    c = s.watchCall ∨ c = s.getCall ∨ c = .create s.namespace pod := by
  cases await <;> simp_all [awaited]

/-- The outcome of the step, if the pod that it finds in its place has one. -/
def PodStep.verdictOf (s : PodStep) (p : Pod) : Option Outcome :=
  if p.name = s.name then p.verdict else none

/-- Whether a run goes on although the call that it waited for has failed: the first look-up may
find nothing, and the creation may find the pod there. -/
def Await.survives : Await → ClientError → Bool
  | .lookup _, e => e.isNotFound
  | .create _, e => e.isAlreadyExists
  | _, _ => false

inductive PodStep.Moves (client : PodClient σ) (now : Instant) (s : PodStep) :
    RunStage → σ → RunTick σ → Prop where
  | refused {ctx world fault} (hp : s.pod = .error fault) :
    Moves client now s (.idle ctx) world { world, stage := .finished (.error (.config fault)) }
  | undated {ctx world pod} (hp : s.pod = .ok pod)
      (hg : RunGuard.start? s.sectionName ctx now = none) :
    Moves client now s (.idle ctx) world { world, stage := .aborted }
  | begun {ctx world pod guard} (hp : s.pod = .ok pod)
      (hg : RunGuard.start? s.sectionName ctx now = some guard) :
    Moves client now s (.idle ctx) world
      { world, stage := .active { pod, guard, await := .watch }
        log := [.running s.sectionName s.name s.namespace] }
  | interrupted {r world e event} (hg : r.guard.Interrupts now e event)
      (hr : ∀ w watcher, r.await = .events w watcher → watcher.result = none) :
    Moves client now s (.active r) world
      { world := r.release client world, stage := .finished (.error e), log := [event] }
  | brokenDown {r world} (hg : r.guard.settle.signal = .spent)
      (hr : ∀ w watcher, r.await = .events w watcher → watcher.result = none) :
    Moves client now s (.active r) world { world := r.release client world, stage := .aborted }
  | waiting {r world world' c phase} (hc : r.guard.Clear now)
      (ha : s.awaited r.pod r.await = some (c, phase))
      (hw : client.poll now c r.begun world = (world', none)) :
    Moves client now s (.active r) world
      { world := world', stage := .active { r with guard := r.guard.settle, begun := true }
        blocked := true }
  | failed {r world world' c phase e} (hc : r.guard.Clear now)
      (ha : s.awaited r.pod r.await = some (c, phase)) (he : r.await.survives e = false)
      (hw : client.poll now c r.begun world = (world', some (.error e))) :
    Moves client now s (.active r) world
      { world := r.release client world', stage := .finished (.error (s.clientError phase e)) }
  | opened {r world world' watch} (hc : r.guard.Clear now) (ha : r.await = .watch)
      (hw : client.poll now s.watchCall r.begun world = (world', some (.ok watch))) :
    Moves client now s (.active r) world (r.goTo r.guard.settle (.lookup watch) world')
  | settled {r world world' watch existing o} (hc : r.guard.Clear now)
      (ha : r.await = .lookup watch ∨ r.await = .reread watch) (hv : s.verdictOf existing = some o)
      (hw : client.poll now s.getCall r.begun world = (world', some (.ok existing))) :
    Moves client now s (.active r) world
      { world := (client.source watch).stop world', stage := .finished (.ok o)
        log := (s.resume r.pod existing).2 }
  | resumed {r world world' watch existing} (hc : r.guard.Clear now)
      (ha : r.await = .lookup watch ∨ r.await = .reread watch) (hv : s.verdictOf existing = none)
      (hw : client.poll now s.getCall r.begun world = (world', some (.ok existing))) :
    Moves client now s (.active r) world
      { r.goTo r.guard.settle (.events watch { podName := s.name, state := .watching }) world' with
        log := (s.resume r.pod existing).2 }
  | missing {r world world' watch e} (hc : r.guard.Clear now) (ha : r.await = .lookup watch)
      (he : e.isNotFound)
      (hw : client.poll now s.getCall r.begun world = (world', some (.error e))) :
    Moves client now s (.active r) world (r.goTo r.guard.settle (.create watch) world')
  | created {r world world' watch p} (hc : r.guard.Clear now) (ha : r.await = .create watch)
      (hw : client.poll now (.create s.namespace r.pod) r.begun world = (world', some (.ok p))) :
    Moves client now s (.active r) world
      (r.goTo r.guard.settle (.events watch { podName := s.name, state := .watching }) world')
  | conflicted {r world world' watch e} (hc : r.guard.Clear now) (ha : r.await = .create watch)
      (he : e.isAlreadyExists)
      (hw : client.poll now (.create s.namespace r.pod) r.begun world = (world', some (.error e))) :
    Moves client now s (.active r) world (r.goTo r.guard.settle (.reread watch) world')
  | read {r world world' watch watcher e} (hc : r.guard.Clear now)
      (ha : r.await = .events watch watcher) (hr : watcher.result = none)
      (hn : (client.source watch).next world = (world', .event e)) :
    Moves client now s (.active r) world
      { world := world'
        stage := .active
          { r with guard := r.guard.settle, await := .events watch (watcher.observe e).1 }
        log := (watcher.observe e).2 }
  | blocked {r world world' watch watcher} (hc : r.guard.Clear now)
      (ha : r.await = .events watch watcher) (hr : watcher.result = none)
      (hn : (client.source watch).next world = (world', .pending)) :
    Moves client now s (.active r) world
      { world := world', stage := .active { r with guard := r.guard.settle }, blocked := true }
  | ended {r world world' watch watcher} (hc : r.guard.Clear now)
      (ha : r.await = .events watch watcher) (hr : watcher.result = none)
      (hn : (client.source watch).next world = (world', .ended)) :
    Moves client now s (.active r) world
      { world := (client.source watch).stop world', stage := .finished (.ok watchClosedOutcome)
        log := watcher.streamClosed.2 ++
          [.stepFinished s.sectionName s.name watchClosedOutcome] }
  | decided {r world watch watcher o} (ha : r.await = .events watch watcher)
      (hr : watcher.result = some o) :
    Moves client now s (.active r) world
      { world := (client.source watch).stop world, stage := .finished (.ok o)
        log := [.stepFinished s.sectionName s.name o] }
  | rested {stage world} (h : stage.isOver) :
    Moves client now s stage world { world, stage, blocked := true }

namespace PodStep

/-- The three ways in which an attempt at a call comes out. -/
private theorem call_moves {client : PodClient σ} {now : Instant} {s : PodStep} {r : ActiveRun}
    {c : ClientCall} {phase : CallPhase} {world : σ}
    {answered : RunGuard → σ → ClientResult c.Value → RunTick σ}
    (ha : s.awaited r.pod r.await = some (c, phase))
    (hv : ∀ world' v, r.guard.Clear now → client.poll now c r.begun world = (world', some v) →
      s.Moves client now (.active r) world (answered r.guard.settle world' v)) :
    s.Moves client now (.active r) world (r.call client now c world answered) := by
  have hr : ∀ w watcher, r.await = .events w watcher → watcher.result = none := by
    intro w watcher he
    simp [awaited, he] at ha
  unfold ActiveRun.call
  rcases r.guard.clear_or_cut now with hc | ⟨e, event, hi⟩ | hs
  · rw [RunGuard.poll_of_clear hc]
    generalize hp : client.poll now c r.begun world = p at hv ⊢
    obtain ⟨world', v⟩ := p
    cases v with
    | none => exact .waiting hc ha hp
    | some v => exact hv world' v hc rfl
  · rw [RunGuard.poll_of_interrupts hi]
    exact .interrupted hi hr
  · rw [RunGuard.poll_of_spent hs]
    exact .brokenDown hs hr

private theorem adopt_moves {client : PodClient σ} {now : Instant} {s : PodStep} {r : ActiveRun}
    {watch : WatchId} {existing : Pod} {world world' : σ} (hc : r.guard.Clear now)
    (ha : r.await = .lookup watch ∨ r.await = .reread watch)
    (hw : client.poll now s.getCall r.begun world = (world', some (.ok existing))) :
    s.Moves client now (.active r) world
      (s.adopt client r watch existing r.guard.settle world') := by
  have hres : (s.resume r.pod existing).1.result = s.verdictOf existing :=
    CompletionWatcher.result_observePod { podName := s.name } existing
  unfold adopt
  dsimp only
  cases hv : s.verdictOf existing with
  | some o =>
    rw [hres, hv]
    exact .settled hc ha hv hw
  | none =>
    have hwatch : (s.resume r.pod existing).1 = { podName := s.name } := by
      unfold verdictOf at hv
      simp [resume, CompletionWatcher.observePod, CompletionWatcher.decide?, hv,
        CompletionWatcher.result]
    rw [hres, hv, hwatch]
    exact .resumed hc ha hv hw

private theorem begin_moves (client : PodClient σ) (now : Instant) (s : PodStep) (ctx : RunContext)
    (world : σ) : s.Moves client now (.idle ctx) world (s.begin ctx now world) := by
  unfold begin
  cases hp : s.pod with
  | error fault => exact .refused hp
  | ok pod =>
    cases hg : RunGuard.start? s.sectionName ctx now with
    | none => exact .undated hp hg
    | some guard => exact .begun hp hg

private theorem events_moves {client : PodClient σ} {now : Instant} {s : PodStep} {r : ActiveRun}
    {watch : WatchId} {watcher : CompletionWatcher} (ha : r.await = .events watch watcher)
    (world : σ) : s.Moves client now (.active r) world (s.advance client now r world) := by
  have hrel : r.release client = (client.source watch).stop := by
    funext w
    simp [ActiveRun.release, ActiveRun.watch?, ha]
  have hwait {o : Option Outcome} (hr : watcher.result = o) :
      ∀ w watcher', r.await = .events w watcher' → watcher'.result = o := by
    intro w watcher' he
    rw [ha] at he
    cases he
    exact hr
  unfold advance
  rw [ha]
  have hm := Wait.tick_moves (client.source watch) now ⟨world, r.guard, watcher⟩
  dsimp only
  generalize Wait.tick (client.source watch) now ⟨world, r.guard, watcher⟩ = t at hm ⊢
  cases hm with
  | decided hr => exact .decided ha hr
  | interrupted hr hg =>
    rw [← hrel]
    exact .interrupted hg (hwait hr)
  | brokenDown hr hg =>
    rw [← hrel]
    exact .brokenDown hg (hwait hr)
  | blocked hr hc hn =>
    rw [← ha]
    exact .blocked hc ha hr hn
  | read hr hc hn => exact .read hc ha hr hn
  | ended hr hc hn => exact .ended hc ha hr hn

private theorem advance_moves (client : PodClient σ) (now : Instant) (s : PodStep) (r : ActiveRun)
    (world : σ) : s.Moves client now (.active r) world (s.advance client now r world) := by
  cases ha : r.await with
  | watch =>
    have hs : s.awaited r.pod r.await = some (s.watchCall, .watch) := by simp [awaited, ha]
    unfold advance
    rw [ha]
    refine call_moves hs fun world' v hc hw => ?_
    cases v with
    | ok watch => exact .opened hc ha hw
    | error e =>
      have hrel : r.release client world' = world' := by
        simp [ActiveRun.release, ActiveRun.watch?, ha]
      have hf := Moves.failed hc hs (by simp [Await.survives, ha]) hw
      rwa [hrel] at hf
  | lookup watch =>
    have hs : s.awaited r.pod r.await = some (s.getCall, .lookup) := by simp [awaited, ha]
    unfold advance
    rw [ha]
    refine call_moves hs fun world' v hc hw => ?_
    cases v with
    | ok existing => exact adopt_moves hc (.inl ha) hw
    | error e =>
      by_cases he : e.isNotFound
      · simpa [he] using Moves.missing hc ha he hw
      · have hf := Moves.failed hc hs (by simpa [Await.survives, ha] using he) hw
        simpa [he, ActiveRun.release, ActiveRun.watch?, ha, RunTick.finish] using hf
  | create watch =>
    have hs : s.awaited r.pod r.await = some (.create s.namespace r.pod, .create) := by
      simp [awaited, ha]
    unfold advance
    rw [ha]
    refine call_moves hs fun world' v hc hw => ?_
    cases v with
    | ok p => exact .created hc ha hw
    | error e =>
      by_cases he : e.isAlreadyExists
      · simpa [he] using Moves.conflicted hc ha he hw
      · have hf := Moves.failed hc hs (by simpa [Await.survives, ha] using he) hw
        simpa [he, ActiveRun.release, ActiveRun.watch?, ha, RunTick.finish] using hf
  | reread watch =>
    have hs : s.awaited r.pod r.await = some (s.getCall, .lookup) := by simp [awaited, ha]
    unfold advance
    rw [ha]
    refine call_moves hs fun world' v hc hw => ?_
    cases v with
    | ok existing => exact adopt_moves hc (.inr ha) hw
    | error e =>
      have hf := Moves.failed hc hs (by simp [Await.survives, ha]) hw
      simpa [ActiveRun.release, ActiveRun.watch?, ha, RunTick.finish] using hf
  | events watch watcher => exact events_moves ha world

/-- Every small step of a run is one of those listed. -/
theorem tick_moves (client : PodClient σ) (now : Instant) (s : PodStep) (stage : RunStage)
    (world : σ) : s.Moves client now stage world (s.tick client now stage world) := by
  cases stage with
  | idle ctx => exact begin_moves client now s ctx world
  | active r => exact advance_moves client now s r world
  | finished result => exact .rested rfl
  | aborted => exact .rested rfl

/-- What is true of the world stays true, if neither the calls of the run nor the reading and the
stopping of its watch spoil it. -/
theorem Moves.keeps {client : PodClient σ} {now : Instant} {s : PodStep} {stage : RunStage}
    {world : σ} {t : RunTick σ} {P : σ → Prop} (h : s.Moves client now stage world t)
    (hcall : ∀ r c phase, s.awaited r.pod r.await = some (c, phase) → stage = .active r →
      ∀ x, P x → P (client.poll now c r.begun x).1)
    (hwatch : ∀ r w, r.watch? = some w → stage = .active r →
      ∀ x, P x → P ((client.source w).next x).1 ∧ P ((client.source w).stop x))
    (hP : P world) : P t.world := by
  have hrelease {r : ActiveRun} {x : σ} (hs : stage = .active r) (hx : P x) :
      P (r.release client x) := by
    unfold ActiveRun.release
    split
    · rename_i w hw
      exact (hwatch r w hw hs x hx).2
    · exact hx
  have hpoll {r : ActiveRun} {c : ClientCall} {phase : CallPhase} {x y : σ}
      {answer : Option (ClientResult c.Value)} (hs : stage = .active r)
      (ha : s.awaited r.pod r.await = some (c, phase))
      (hw : client.poll now c r.begun x = (y, answer)) (hx : P x) : P y := by
    have := hcall r c phase ha hs x hx
    rwa [hw] at this
  have hread {r : ActiveRun} {w : WatchId} {watcher : CompletionWatcher} {x y : σ} {d : Delivery}
      (hs : stage = .active r) (ha : r.await = .events w watcher)
      (hn : (client.source w).next x = (y, d)) (hx : P x) : P y ∧ P ((client.source w).stop y) := by
    have hw : r.watch? = some w := by simp [ActiveRun.watch?, ha]
    have hy := (hwatch r w hw hs x hx).1
    rw [hn] at hy
    exact ⟨hy, (hwatch r w hw hs y hy).2⟩
  have hlooking {r : ActiveRun} {w : WatchId} (ha : r.await = .lookup w ∨ r.await = .reread w) :
      r.watch? = some w := by
    rcases ha with ha | ha <;> simp [ActiveRun.watch?, ha]
  cases h with
  | refused | undated | begun | rested => exact hP
  | interrupted | brokenDown => exact hrelease rfl hP
  | waiting _ ha hw => exact hpoll rfl ha hw hP
  | failed _ ha _ hw => exact hrelease rfl (hpoll rfl ha hw hP)
  | opened _ ha hw | missing _ ha _ hw | created _ ha hw | conflicted _ ha _ hw =>
    exact hpoll rfl (by rw [ha]; rfl) hw hP
  | settled _ ha _ hw =>
    exact (hwatch _ _ (hlooking ha) rfl _ (hpoll rfl (s.awaited_get _ ha) hw hP)).2
  | resumed _ ha _ hw => exact hpoll rfl (s.awaited_get _ ha) hw hP
  | read _ ha _ hn | blocked _ ha _ hn => exact (hread rfl ha hn hP).1
  | ended _ ha _ hn => exact (hread rfl ha hn hP).2
  | decided ha => exact (hwatch _ _ (by simp [ActiveRun.watch?, ha]) rfl _ hP).2

/-- A run that is under way has the pod of its step. -/
theorem Moves.pod {client : PodClient σ} {now : Instant} {s : PodStep} {stage : RunStage}
    {world : σ} {t : RunTick σ} (h : s.Moves client now stage world t)
    (hp : ∀ r, stage = .active r → s.pod = .ok r.pod) {r : ActiveRun} (hr : t.stage = .active r) :
    s.pod = .ok r.pod := by
  cases h with
  | begun hpod =>
    cases hr
    exact hpod
  | rested => exact hp r hr
  | waiting | opened | resumed | missing | created | conflicted | read | blocked =>
    have hpod := hp _ rfl
    cases hr
    exact hpod
  | _ => cases hr

/-- A run that is not clear ends, and does nothing to the world but let go of its watch. -/
theorem Moves.of_not_clear {client : PodClient σ} {now : Instant} {s : PodStep} {r : ActiveRun}
    {world : σ} {t : RunTick σ} (h : s.Moves client now (.active r) world t)
    (hc : ¬r.guard.Clear now) : t.world = r.release client world ∧
      ((∃ e event, r.guard.Interrupts now e event ∧ t.stage = .finished (.error e)) ∨
      (r.guard.settle.signal = .spent ∧ t.stage = .aborted) ∨
      ∃ w watcher o, r.await = .events w watcher ∧ watcher.result = some o) := by
  cases h with
  | interrupted hg => exact ⟨rfl, .inl ⟨_, _, hg, rfl⟩⟩
  | brokenDown hg => exact ⟨rfl, .inr (.inl ⟨hg, rfl⟩)⟩
  | decided ha hr =>
    refine ⟨?_, .inr (.inr ⟨_, _, _, ha, hr⟩)⟩
    simp [ActiveRun.release, ActiveRun.watch?, ha]
  | rested h => cases h
  | _ => contradiction

theorem Moves.of_aborted {client : PodClient σ} {now : Instant} {s : PodStep} {r : ActiveRun}
    {world : σ} {t : RunTick σ} (h : s.Moves client now (.active r) world t)
    (ha : t.stage = .aborted) : r.guard.settle.signal = .spent ∧
      ∀ w watcher, r.await = .events w watcher → watcher.result = none := by
  cases h with
  | brokenDown hg hr => exact ⟨hg, hr⟩
  | rested h => cases h
  | _ => cases ha

end PodStep

end PodPipeline
