import PodPipeline.Pod.Fingerprint
import PodPipeline.Run.Client
import PodPipeline.Run.Wait
import PodPipeline.Step

/-! Runs of steps.

A run subscribes to its pod before it does anything else, so that it cannot miss the end of the pod.
Then it looks for a pod that an earlier run has left, creates one if there is none, and waits. -/
namespace PodPipeline

variable {σ α : Type}

inductive Await where
  /-- The watch is being opened. -/
  | watch
  /-- A pod of an earlier run is looked for. -/
  | lookup (watch : WatchId)
  | create (watch : WatchId)
  /-- The pod that somebody else has created in the meantime is looked up. -/
  | reread (watch : WatchId)
  | events (watch : WatchId) (watcher : CompletionWatcher)
deriving DecidableEq, Repr

structure ActiveRun where
  /-- The pod that the step runs as. -/
  pod : Pod
  guard : RunGuard
  await : Await
  /-- The call that the run waits for has begun. -/
  begun : Bool := false
deriving DecidableEq, Repr

inductive RunStage where
  /-- The run has not begun. -/
  | idle (ctx : RunContext)
  | active (run : ActiveRun)
  | finished (result : RunResult)
  /-- The run has broken down, and there is no result. -/
  | aborted

/-- The outcome of one small step of a run. -/
structure RunTick (σ : Type) where
  world : σ
  stage : RunStage
  log : List LogEvent := []
  blocked : Bool := false

namespace PodStep

def watchCall (s : PodStep) : ClientCall := .watch s.namespace ⟨some s.name⟩

def getCall (s : PodStep) : ClientCall := .get s.namespace s.name

/-- The run begins: it needs a pod, and a deadline that the clock can show. -/
def begin (s : PodStep) (ctx : RunContext) (now : Instant) (world : σ) : RunTick σ :=
  match s.pod with
  | .error fault => { world, stage := .finished (.error (.config fault)) }
  | .ok pod =>
    match RunGuard.start? s.sectionName ctx now with
    | none => { world, stage := .aborted }
    | some guard =>
      { world, stage := .active { pod, guard, await := .watch }
        log := [.running s.sectionName s.name s.namespace] }

/-- The watcher's first look at a pod that was there before the run or without its doing. -/
def resume (s : PodStep) (desired existing : Pod) : CompletionWatcher × List LogEvent :=
  let (watcher, log) := CompletionWatcher.observePod { podName := s.name } existing
  let drift := if desired.sameSpec existing then []
    else [.otherConfiguration s.sectionName existing.name]
  (watcher, .resuming s.sectionName existing.name existing.phase :: (drift ++ log))

end PodStep

def RunTick.finish (client : PodClient σ) (watch : WatchId) (r : RunResult) (log : List LogEvent)
    (world : σ) : RunTick σ :=
  { world := (client.source watch).stop world, stage := .finished r, log }

namespace ActiveRun

def goTo (r : ActiveRun) (guard : RunGuard) (await : Await) (world : σ) : RunTick σ :=
  { world, stage := .active { r with guard, await, begun := false } }

/-- The watch that the run has opened. -/
def watch? (r : ActiveRun) : Option WatchId :=
  match r.await with
  | .watch => none
  | .lookup w | .create w | .reread w | .events w _ => some w

/-- Lets go of the watch, if there is one. -/
def release (client : PodClient σ) (r : ActiveRun) (world : σ) : σ :=
  match r.watch? with
  | some w => (client.source w).stop world
  | none => world

/-- Waits for the answer to a call and goes on with it, unless the run is interrupted. -/
def call (client : PodClient σ) (now : Instant) (r : ActiveRun) (c : ClientCall) (world : σ)
    (answered : RunGuard → σ → ClientResult c.Value → RunTick σ) : RunTick σ :=
  let a := r.guard.poll now (client.poll now c r.begun) world
  match a.waited with
  | .pending =>
    { world := a.world, stage := .active { r with guard := a.guard, begun := true }
      blocked := true }
  | .aborted => { world := r.release client a.world, stage := .aborted }
  | .interrupted e =>
    { world := r.release client a.world, stage := .finished (.error e), log := a.log }
  | .done v => answered a.guard a.world v

end ActiveRun

namespace PodStep

def clientError (s : PodStep) (phase : CallPhase) (e : ClientError) : StepError :=
  .client s.sectionName phase e

/-- Goes on with a pod that is already there: it may have finished, or else its events count. -/
def adopt (client : PodClient σ) (s : PodStep) (r : ActiveRun) (watch : WatchId) (existing : Pod)
    (guard : RunGuard) (world : σ) : RunTick σ :=
  let (watcher, log) := s.resume r.pod existing
  match watcher.result with
  | some o => .finish client watch (.ok o) log world
  | none => { r.goTo guard (.events watch watcher.startWatching) world with log }

/-- One small step of a run that is under way. -/
def advance (client : PodClient σ) (now : Instant) (s : PodStep) (r : ActiveRun) (world : σ) :
    RunTick σ :=
  match r.await with
  | .watch =>
    r.call client now s.watchCall world fun guard world answer =>
      match answer with
      | .ok watch => r.goTo guard (.lookup watch) world
      | .error e => { world, stage := .finished (.error (s.clientError .watch e)) }
  | .lookup watch =>
    r.call client now s.getCall world fun guard world answer =>
      match answer with
      | .ok existing => s.adopt client r watch existing guard world
      | .error e =>
        if e.isNotFound then r.goTo guard (.create watch) world
        else .finish client watch (.error (s.clientError .lookup e)) [] world
  | .create watch =>
    r.call client now (.create s.namespace r.pod) world fun guard world answer =>
      match answer with
      | .ok _ =>
        let watcher : CompletionWatcher := { podName := s.name }
        r.goTo guard (.events watch watcher.markCreated.startWatching) world
      | .error e =>
        if e.isAlreadyExists then r.goTo guard (.reread watch) world
        else .finish client watch (.error (s.clientError .create e)) [] world
  | .reread watch =>
    r.call client now s.getCall world fun guard world answer =>
      match answer with
      | .ok existing => s.adopt client r watch existing guard world
      | .error e => .finish client watch (.error (s.clientError .lookup e)) [] world
  | .events watch watcher =>
    let t := Wait.tick (client.source watch) now { world, guard := r.guard, watcher }
    match t.progress with
    | .blocked =>
      { world := t.wait.world, blocked := true
        stage := .active { r with guard := t.wait.guard, await := .events watch t.wait.watcher } }
    | .moved =>
      { world := t.wait.world, log := t.log
        stage := .active { r with guard := t.wait.guard, await := .events watch t.wait.watcher } }
    | .ended (.ok o) =>
      { world := t.wait.world, stage := .finished (.ok o)
        log := t.log ++ [.stepFinished s.sectionName s.name o] }
    | .ended (.error e) => { world := t.wait.world, stage := .finished (.error e), log := t.log }
    | .aborted => { world := (client.source watch).stop t.wait.world, stage := .aborted }

def tick (client : PodClient σ) (now : Instant) (s : PodStep) (stage : RunStage) (world : σ) :
    RunTick σ :=
  match stage with
  | .idle ctx => s.begin ctx now world
  | .active r => s.advance client now r world
  | stage => { world, stage, blocked := true }

end PodStep

namespace RunStage

/-- How many kinds of small steps a run may still have before it. -/
def rank : RunStage → Nat
  | .idle _ => 6
  | .active r =>
    match r.await with
    | .watch => 5
    | .lookup _ => 4
    | .create _ => 3
    | .reread _ => 2
    | .events _ _ => 1
  | _ => 0

/-- Changes the cancel signal of a run, as long as the run can see it. -/
def mapSignal (f : CancelSignal → CancelSignal) : RunStage → RunStage
  | .idle ctx => .idle { ctx with signal := f ctx.signal }
  | .active r => .active { r with guard := { r.guard with signal := f r.guard.signal } }
  | stage => stage

def isOver : RunStage → Bool
  | .idle _ | .active _ => false
  | .finished _ | .aborted => true

def deadline? : RunStage → Option Instant
  | .active r => r.guard.limit.map (·.deadline)
  | _ => none

/-- What a run lets go of when it is given up. -/
def release (client : PodClient σ) (world : σ) : RunStage → σ
  | .active r => r.release client world
  | _ => world

/-- How many events a run may still read without a sender's doing. -/
def queued (client : PodClient σ) (world : σ) : RunStage → Nat
  | .active { await := .events w _, .. } => (client.source w).queued world
  | _ => 0

end RunStage

namespace PodStep

theorem rank_call_lt {client : PodClient σ} {now : Instant} {r : ActiveRun} {c : ClientCall}
    {world : σ} {answered : RunGuard → σ → ClientResult c.Value → RunTick σ} {n : Nat}
    (hn : 0 < n) (ha : ∀ g w v, (answered g w v).stage.rank < n)
    (h : (r.call client now c world answered).blocked = false) :
    (r.call client now c world answered).stage.rank < n := by
  unfold ActiveRun.call at h ⊢
  simp only at h ⊢
  split at h <;> simp_all [RunStage.rank]

theorem rank_adopt_lt {client : PodClient σ} {s : PodStep} {r : ActiveRun} {watch : WatchId}
    {existing : Pod} {guard : RunGuard} {world : σ} :
    (s.adopt client r watch existing guard world).stage.rank < 2 := by
  unfold adopt
  simp only
  split <;> simp [RunTick.finish, ActiveRun.goTo, RunStage.rank]

/-- A small step that is not blocked leads on: to another kind of steps, or past an event. -/
theorem tick_decreases {client : PodClient σ} {now : Instant} {s : PodStep} {stage : RunStage}
    {world : σ} (h : (s.tick client now stage world).blocked = false) :
    Prod.Lex (· < ·) (· < ·)
      ((s.tick client now stage world).stage.rank,
        (s.tick client now stage world).stage.queued client
          (s.tick client now stage world).world)
      (stage.rank, stage.queued client world) := by
  match stage with
  | .idle ctx =>
    refine .left _ _ ?_
    simp only [tick, begin]
    split
    · simp [RunStage.rank]
    · split <;> simp [RunStage.rank]
  | .finished _ => simp [tick] at h
  | .aborted => simp [tick] at h
  | .active r =>
    obtain ⟨pod, guard, await, begun⟩ := r
    match await with
    | .watch =>
      refine .left _ _ (rank_call_lt (by simp [RunStage.rank]) (fun g w v => ?_) h)
      split <;> simp [ActiveRun.goTo, RunStage.rank]
    | .lookup _ =>
      refine .left _ _ (rank_call_lt (by simp [RunStage.rank]) (fun g w v => ?_) h)
      split
      · exact Nat.lt_trans rank_adopt_lt (by simp [RunStage.rank])
      · split <;> simp [ActiveRun.goTo, RunTick.finish, RunStage.rank]
    | .create _ =>
      refine .left _ _ (rank_call_lt (by simp [RunStage.rank]) (fun g w v => ?_) h)
      split
      · simp [ActiveRun.goTo, RunStage.rank]
      · split <;> simp [ActiveRun.goTo, RunTick.finish, RunStage.rank]
    | .reread _ =>
      refine .left _ _ (rank_call_lt (by simp [RunStage.rank]) (fun g w v => ?_) h)
      split
      · exact rank_adopt_lt
      · simp [RunTick.finish, RunStage.rank]
    | .events watch watcher =>
      simp only [tick, advance] at h ⊢
      split at h
      · simp at h
      · rename_i hp
        exact .right _ (Wait.queued_tick_lt hp)
      all_goals exact .left _ _ (by simp_all [RunStage.rank])

/-- Goes on with a run until it is blocked or over. -/
def poll (client : PodClient σ) (now : Instant) (s : PodStep) (stage : RunStage) (world : σ) :
    RunTick σ :=
  let t := s.tick client now stage world
  if _h : t.blocked then t
  else
    let u := s.poll client now t.stage t.world
    { u with log := t.log ++ u.log }
termination_by (stage.rank, stage.queued client world)
decreasing_by exact tick_decreases (by simpa using _h)

end PodStep

end PodPipeline
