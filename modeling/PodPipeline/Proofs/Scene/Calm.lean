import PodPipeline.Proofs.Scene.Runner
import PodPipeline.Proofs.Store.Register
import PodPipeline.Proofs.Watch.Waiting

/-! The small steps of a run at a store when nothing interrupts it: nobody has cancelled it, and it
has no time limit. What such a step does is known from the store alone. -/
namespace PodPipeline

/-- Nobody has cancelled the run, and it has no time limit. The sender of its signal may be there or
may have gone away. -/
structure RunContext.Calm (ctx : RunContext) : Prop where
  not_sent : ctx.signal ≠ .sent
  not_spent : ctx.signal ≠ .spent
  untimed : ctx.timeout = none

namespace RunGuard

structure Calm (g : RunGuard) : Prop where
  not_sent : g.signal ≠ .sent
  not_spent : g.signal ≠ .spent
  untimed : g.limit = none

variable {g : RunGuard}

theorem Calm.clear (h : g.Calm) (now : Instant) : g.Clear now :=
  clear_iff.mpr ⟨h.not_spent, h.not_sent, by simp [expired?, h.untimed]⟩

theorem calm_of_clear (hl : g.limit = none) {now : Instant} (hc : g.Clear now) : g.Calm :=
  have h := clear_iff.mp hc
  ⟨h.2.1, h.1, hl⟩

theorem Calm.settle (h : g.Calm) : g.settle.Calm :=
  calm_of_clear ((limit_settle g).trans h.untimed) (h.clear .zero).settle

theorem Calm.abandon (h : g.Calm) : Calm { g with signal := g.signal.abandon } :=
  calm_of_clear h.untimed (h.clear .zero).abandon

theorem start?_of_calm {ctx : RunContext} (h : ctx.Calm) (step : String) (now : Instant) :
    start? step ctx now = some ⟨step, ctx.signal, none⟩ := by
  unfold start?
  rw [h.untimed]

end RunGuard

namespace RunContext.Calm

variable {ctx : RunContext}

/-- The guard of a run that begins. -/
theorem guard (h : ctx.Calm) (step : String) : RunGuard.Calm ⟨step, ctx.signal, none⟩ :=
  ⟨h.not_sent, h.not_spent, rfl⟩

theorem abandon (h : ctx.Calm) : Calm { ctx with signal := ctx.signal.abandon } :=
  ⟨(h.guard "").abandon.not_sent, (h.guard "").abandon.not_spent, h.untimed⟩

end RunContext.Calm

/-- A call that is answered at once. -/
theorem ActiveRun.call_of_clear {σ : Type} {client : PodClient σ} {now : Instant} {r : ActiveRun}
    {c : ClientCall} {world world' : σ} {v : ClientResult c.Value} (hc : r.guard.Clear now)
    (hp : client.poll now c r.begun world = (world', some v))
    (answered : RunGuard → σ → ClientResult c.Value → RunTick σ) :
    r.call client now c world answered = answered r.guard.settle world' v := by
  unfold call
  rw [RunGuard.poll_of_clear hc, hp]
  rfl

/-- How a run that finds its pod finished stands, and the store with it: the run has `n` small steps
to make, and the store was `s` when it began. -/
inductive PodStep.Encore (p : PodStep) (o : Outcome) (s : PodStore) :
    Nat → RunStage → PodStore → Prop where
  | idle {ctx} (h : ctx.Calm) : Encore p o s 3 (.idle ctx) s
  | opening {pod g} (h : g.Calm) : Encore p o s 2 (.active { pod, guard := g, await := .watch }) s
  | looking {pod g} (h : g.Calm) :
    Encore p o s 1 (.active { pod, guard := g, await := .lookup ⟨s.watches.length⟩ })
      (s.act (.call p.watchCall))
  | returned :
    Encore p o s 0 (.finished (.ok o))
      (s.perform [.call p.watchCall, .call p.getCall, .stop ⟨s.watches.length⟩])

namespace PodStep

variable {p : PodStep} {pod existing : Pod} {ctx : RunContext} {g : RunGuard} {w : WatchId}
  {watcher : CompletionWatcher} {o : Outcome} {e : WatchEvent}
  {s s' : PodStore}

theorem tick_idle (hpod : p.pod = .ok pod) (hc : ctx.Calm) (s : PodStore) (now : Instant) :
    let t := p.tick PodStore.client now (.idle ctx) s
    t.world = s ∧
      t.stage = .active { pod, guard := ⟨p.sectionName, ctx.signal, none⟩, await := .watch } := by
  simp [tick, begin, hpod, RunGuard.start?_of_calm hc]

theorem tick_watch (hg : g.Calm) (s : PodStore) (now : Instant) :
    let t := p.tick PodStore.client now (.active { pod, guard := g, await := .watch }) s
    t.world = (s.watch p.namespace ⟨some p.name⟩).1 ∧
      t.stage = .active { pod, guard := g.settle, await := .lookup ⟨s.watches.length⟩ } := by
  unfold tick advance
  dsimp only
  rw [ActiveRun.call_of_clear (hg.clear now) rfl]
  exact ⟨rfl, rfl⟩

/-- The run finds no pod. -/
theorem tick_lookup_vacant (hg : g.Calm) (hf : s.pods.find? p.key = none)
    (now : Instant) :
    let t := p.tick PodStore.client now (.active { pod, guard := g, await := .lookup w }) s
    t.world = (s.get p.namespace p.name).1 ∧
      t.stage = .active { pod, guard := g.settle, await := .create w } := by
  have hpoll : PodStore.client.poll now p.getCall false s = ((s.get p.namespace p.name).1,
      some (.error (.notFound p.namespace p.name))) :=
    congrArg (_, some ·) (PodStore.get_of_vacant hf)
  unfold tick advance
  dsimp only
  rw [ActiveRun.call_of_clear (hg.clear now) hpoll]
  exact ⟨rfl, rfl⟩

/-- The run finds a pod that has finished. -/
theorem tick_lookup_finished (hg : g.Calm) (hf : s.pods.find? p.key = some existing)
    (hn : existing.name = p.name) (hv : existing.verdict = some o)
    (now : Instant) :
    let t := p.tick PodStore.client now (.active { pod, guard := g, await := .lookup w }) s
    t.world = (s.get p.namespace p.name).1.stop w ∧ t.stage = .finished (.ok o) := by
  have hpoll : PodStore.client.poll now p.getCall false s =
      ((s.get p.namespace p.name).1, some (.ok existing)) :=
    congrArg (_, some ·) (PodStore.get_of_find? hf)
  have hresult : (p.resume pod existing).1.result = some o := by
    have h : (p.resume pod existing).1.result = _ :=
      CompletionWatcher.result_observePod { podName := p.name } existing
    rw [h, if_pos hn, hv]
    rfl
  unfold tick advance
  dsimp only
  rw [ActiveRun.call_of_clear (hg.clear now) hpoll]
  simp only [adopt, hresult]
  exact ⟨rfl, rfl⟩

theorem tick_create (hg : g.Calm) (hf : s.pods.find? ⟨p.namespace, pod.name⟩ = none)
    (now : Instant) :
    let t := p.tick PodStore.client now (.active { pod, guard := g, await := .create w }) s
    t.world = (s.create p.namespace pod).1 ∧
      t.stage = .active { pod, guard := g.settle,
                          await := .events w { podName := p.name, state := .watching } } := by
  have hpoll : PodStore.client.poll now (.create p.namespace pod) false s =
      ((s.create p.namespace pod).1, some (.ok (pod.inNamespace p.namespace))) :=
    congrArg (_, some ·) (PodStore.create_of_vacant hf)
  unfold tick advance
  dsimp only
  rw [ActiveRun.call_of_clear (hg.clear now) hpoll]
  exact ⟨rfl, rfl⟩

theorem tick_events_read (hg : g.Calm) (hr : watcher.result = none)
    (hn : s.next w = (s', .event e)) (now : Instant) :
    let t := p.tick PodStore.client now (.active { pod, guard := g, await := .events w watcher }) s
    t.world = s' ∧
      t.stage = .active { pod, guard := g.settle, await := .events w (watcher.observe e).1 } := by
  have hnext : (PodStore.client.source w).next s = (s', .event e) := hn
  have hclear (work : PodStore → PodStore × Option (Option WatchEvent)) :=
    RunGuard.poll_of_clear (hg.clear now) work
  simp [tick, advance, Wait.tick, hr, hclear, EventSource.read, hnext]

/-- There is nothing to read yet. -/
theorem tick_events_pending (hg : g.Calm) (hr : watcher.result = none)
    (hn : s.next w = (s', .pending)) (now : Instant) :
    let t := p.tick PodStore.client now (.active { pod, guard := g, await := .events w watcher }) s
    t.world = s' ∧
      t.stage = .active { pod, guard := g.settle, await := .events w watcher } := by
  have hnext : (PodStore.client.source w).next s = (s', .pending) := hn
  have hclear (work : PodStore → PodStore × Option (Option WatchEvent)) :=
    RunGuard.poll_of_clear (hg.clear now) work
  simp [tick, advance, Wait.tick, hr, hclear, EventSource.read, hnext]

/-- The outcome has been read. -/
theorem tick_events_decided (hr : watcher.result = some o) (s : PodStore) (now : Instant) :
    let t := p.tick PodStore.client now (.active { pod, guard := g, await := .events w watcher }) s
    t.world = s.stop w ∧ t.stage = .finished (.ok o) := by
  simp only [tick, advance, Wait.tick, hr]
  exact ⟨rfl, rfl⟩

namespace Encore

variable {n : Nat} {stage : RunStage} {t : PodStore}

theorem tick (h : Encore p o s n stage t) (hpod : p.pod = .ok pod)
    (hf : s.pods.find? p.key = some existing) (hn : existing.name = p.name)
    (hv : existing.verdict = some o) (now : Instant) :
    Encore p o s (n - 1) (p.tick PodStore.client now stage t).stage
      (p.tick PodStore.client now stage t).world := by
  cases h with
  | idle h =>
    obtain ⟨hw, hs⟩ := tick_idle hpod h s now
    rw [hw, hs]
    exact .opening (h.guard _)
  | opening h =>
    obtain ⟨hw, hs⟩ := tick_watch h s now
    rw [hw, hs]
    exact .looking h.settle
  | looking h =>
    have hf' : (s.act (.call p.watchCall)).pods.find? p.key = some existing := hf
    obtain ⟨hw, hs⟩ := tick_lookup_finished h hf' hn hv now
    rw [hw, hs]
    exact .returned
  | returned => exact .returned

theorem abandon (h : Encore p o s n stage t) : Encore p o s n (stage.mapSignal .abandon) t := by
  cases h with
  | idle h => exact .idle h.abandon
  | opening h => exact .opening h.abandon
  | looking h => exact .looking h.abandon
  | returned => exact .returned

theorem pods (h : Encore p o s n stage t) : t.pods = s.pods := by
  cases h with
  | idle | opening | looking => rfl
  | returned =>
    have hget := PodStore.SameBut.get (s.act (.call p.watchCall)) p.namespace p.name
    exact (PodStore.SameBut.stop _ _).pods.trans hget.pods

theorem isOver_iff (h : Encore p o s n stage t) : stage.isOver ↔ n = 0 := by
  cases h <;> simp [RunStage.isOver]

theorem stage_eq (h : Encore p o s 0 stage t) : stage = .finished (.ok o) := by
  cases h
  rfl

/-- The run opens its watch and looks for the pod. -/
theorem actions (h : Encore p o s n stage t) : t.actions =
    s.actions ++ [.watch p.namespace ⟨some p.name⟩, .get p.namespace p.name].take (2 - n) := by
  cases h with
  | idle | opening => simp
  | looking => rfl
  | returned =>
    have hstop := PodStore.actions_stop (s.perform [.call p.watchCall, .call p.getCall])
      ⟨s.watches.length⟩
    have hget := PodStore.actions_get (s.act (.call p.watchCall)) p.namespace p.name
    refine hstop.trans (hget.trans ?_)
    simp [PodStore.act, PodStore.call, watchCall, PodStore.watch, PodStore.record]

theorem createCount (h : Encore p o s n stage t) : t.createCount = s.createCount := by
  rw [PodStore.createCount, h.actions, List.countP_append, PodStore.createCount,
    Nat.add_eq_left, List.countP_eq_zero]
  intro a ha
  have ha := List.mem_of_mem_take ha
  simp only [List.mem_cons, List.not_mem_nil, or_false] at ha
  rcases ha with rfl | rfl <;> simp

/-- The run leaves no watch open. -/
theorem openIds (h : Encore p o s 0 stage t) : t.openIds = s.openIds := by
  cases h
  have hfresh : ∀ w ∈ s.openIds, ⟨s.watches.length⟩ ≠ w := by
    rintro w hw rfl
    exact Nat.lt_irrefl _ (PodStore.mem_ids.mp (List.mem_filter.mp hw).1)
  rw [PodStore.openIds_perform]
  simpa [PodStore.leftOpen, PodStore.opened, StoreAct.ends, watchCall, getCall, PodStore.watch,
    PodStore.record] using hfresh

end Encore

end PodStep

end PodPipeline
