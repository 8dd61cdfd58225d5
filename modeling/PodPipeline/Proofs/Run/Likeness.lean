import PodPipeline.Proofs.Run.Moves

/-! Two runs of one step, each in a world of its own. If the two worlds answer alike, up to the
names of the watches, and the same stands in the way of both runs, then the runs go on alike. -/
namespace PodPipeline

variable {σ τ α : Type}

/-- The watches that two runs hold, if they do. -/
abbrev Held := Option (WatchId × WatchId)

/-- The same stands in the way of work behind either guard. -/
inductive RunGuard.Agree (now : Instant) (g g' : RunGuard) : Prop where
  | clear (h : g.Clear now) (h' : g'.Clear now)
  | interrupts {e event} (h : g.Interrupts now e event) (h' : g'.Interrupts now e event)
  | spent (h : g.settle.signal = .spent) (h' : g'.settle.signal = .spent)

/-- Two runs wait for the same, each with its own watch. -/
inductive Await.Like : Held → Await → Await → Prop where
  | watch : Like none .watch .watch
  | lookup {w v} : Like (some (w, v)) (.lookup w) (.lookup v)
  | create {w v} : Like (some (w, v)) (.create w) (.create v)
  | reread {w v} : Like (some (w, v)) (.reread w) (.reread v)
  | events {w v watcher} : Like (some (w, v)) (.events w watcher) (.events v watcher)

/-- Two runs are alike, whatever their guards are. -/
structure ActiveRun.Like (held : Held) (r r' : ActiveRun) : Prop where
  pod : r'.pod = r.pod
  begun : r'.begun = r.begun
  await : r.await.Like held r'.await

/-- Two runs are under way and alike, with the guards `g` and `g'`, or have ended alike. -/
inductive RunStage.Like (g g' : RunGuard) : Held → RunStage → RunStage → Prop where
  | active {held r r'} (h : r.Like held r') (hg : r.guard = g) (hg' : r'.guard = g') :
    Like g g' held (.active r) (.active r')
  | ended {stage} (h : stage.isOver) : Like g g' none stage stage

/-- Two runs have come to the same, each with its own watch. -/
inductive RunStage.Twins : Held → RunStage → RunStage → Prop where
  | idle {ctx} : Twins none (.idle ctx) (.idle ctx)
  | active {held r r'} (h : r.Like held r') (hg : r'.guard = r.guard) :
    Twins held (.active r) (.active r')
  | ended {stage} (h : stage.isOver) : Twins none stage stage

/-- Two answers to one call are alike: they say the same, up to what `V` allows of the values. -/
inductive AnswersAlike (R : Held → σ → τ → Prop) (held : Held) (V : α → α → Held → Prop) :
    σ × Option (ClientResult α) → τ × Option (ClientResult α) → Prop where
  | pending {x y} (h : R held x y) : AnswersAlike R held V (x, none) (y, none)
  | failed {x y e} (h : R held x y) :
    AnswersAlike R held V (x, some (.error e)) (y, some (.error e))
  | answered {x y v v' held'} (hv : V v v' held') (h : R held' x y) :
    AnswersAlike R held V (x, some (.ok v)) (y, some (.ok v'))

/-- Worlds that are related by `R` look the same to the runs of a step that hold the watches named.
-/
structure Likeness (client : PodClient σ) (client' : PodClient τ) (now : Instant) (s : PodStep)
    (pod : Pod) (R : Held → σ → τ → Prop) : Prop where
  watch : ∀ begun x y, R none x y → AnswersAlike R none (fun w v held => held = some (w, v))
    (client.poll now s.watchCall begun x) (client'.poll now s.watchCall begun y)
  get : ∀ held begun x y, R held x y → AnswersAlike R held (fun p q held' => q = p ∧ held' = held)
    (client.poll now s.getCall begun x) (client'.poll now s.getCall begun y)
  create : ∀ held begun x y, R held x y →
    AnswersAlike R held (fun p q held' => q = p ∧ held' = held)
      (client.poll now (.create s.namespace pod) begun x)
      (client'.poll now (.create s.namespace pod) begun y)
  next : ∀ w v x y, R (some (w, v)) x y →
    ((client'.source v).next y).2 = ((client.source w).next x).2 ∧
      R (some (w, v)) ((client.source w).next x).1 ((client'.source v).next y).1
  stop : ∀ w v x y, R (some (w, v)) x y →
    R none ((client.source w).stop x) ((client'.source v).stop y)

/-- Two small steps come out alike. -/
structure RunTick.Like (R : Held → σ → τ → Prop) (g g' : RunGuard) (held : Held) (t : RunTick σ)
    (t' : RunTick τ) : Prop where
  world : R held t.world t'.world
  stage : t.stage.Like g g' held t'.stage
  log : t'.log = t.log
  blocked : t'.blocked = t.blocked

section

variable {client : PodClient σ} {client' : PodClient τ} {now : Instant} {s : PodStep}
  {R : Held → σ → τ → Prop} {held : Held} {r r' : ActiveRun} {x : σ} {y : τ}

theorem ActiveRun.Like.release (h : r.Like held r') (hR : Likeness client client' now s r.pod R)
    (hxy : R held x y) : R none (r.release client x) (r'.release client' y) := by
  obtain ⟨pod, g, await, begun⟩ := r
  obtain ⟨pod', g', await', begun'⟩ := r'
  cases h.await with
  | watch => exact hxy
  | lookup | create | reread | events => exact hR.stop _ _ _ _ hxy

/-- The two runs wait for something else that is alike. -/
theorem ActiveRun.Like.goTo (h : r.Like held r') {await await' : Await} {held' : Held}
    (ha : await.Like held' await') {g g' : RunGuard} (hxy : R held' x y) :
    RunTick.Like R g g' held' (r.goTo g await x) (r'.goTo g' await' y) :=
  ⟨hxy, .active ⟨h.pod, rfl, ha⟩ rfl rfl, rfl, rfl⟩

theorem RunTick.Like.ended {g g' : RunGuard} (result : RunResult) (log : List LogEvent)
    (hxy : R none x y) : RunTick.Like R g g' none
      { world := x, stage := .finished result, log }
      { world := y, stage := .finished result, log } :=
  ⟨hxy, .ended rfl, rfl, rfl⟩

namespace PodStep

/-- Attempts at one call come out alike if the answers do. -/
theorem call_alike {c : ClientCall} {V : c.Value → c.Value → Held → Prop}
    {answered : RunGuard → σ → ClientResult c.Value → RunTick σ}
    {answered' : RunGuard → τ → ClientResult c.Value → RunTick τ}
    (hR : Likeness client client' now s r.pod R) (h : r.Like held r') (hxy : R held x y)
    (hg : r.guard.Agree now r'.guard)
    (hp : AnswersAlike R held V (client.poll now c r.begun x) (client'.poll now c r.begun y))
    (he : ∀ e x y, R held x y → ∃ held', RunTick.Like R r.guard.settle r'.guard.settle held'
      (answered r.guard.settle x (.error e)) (answered' r'.guard.settle y (.error e)))
    (hv : ∀ v v' held' x y, V v v' held' → R held' x y →
      ∃ held', RunTick.Like R r.guard.settle r'.guard.settle held'
        (answered r.guard.settle x (.ok v)) (answered' r'.guard.settle y (.ok v'))) :
    ∃ held', RunTick.Like R r.guard.settle r'.guard.settle held'
      (r.call client now c x answered) (r'.call client' now c y answered') := by
  unfold ActiveRun.call
  cases hg with
  | clear hc hc' =>
    rw [RunGuard.poll_of_clear hc, RunGuard.poll_of_clear hc', h.begun]
    generalize client.poll now c r.begun x = a at hp ⊢
    generalize client'.poll now c r.begun y = b at hp ⊢
    cases hp with
    | pending hxy => exact ⟨held, hxy, .active ⟨h.pod, rfl, h.await⟩ rfl rfl, rfl, rfl⟩
    | failed hxy => exact he _ _ _ hxy
    | answered hval hxy => exact hv _ _ _ _ _ hval hxy
  | interrupts hi hi' =>
    rw [RunGuard.poll_of_interrupts hi, RunGuard.poll_of_interrupts hi']
    exact ⟨none, .ended _ _ (h.release hR hxy)⟩
  | spent hs hs' =>
    rw [RunGuard.poll_of_spent hs, RunGuard.poll_of_spent hs']
    exact ⟨none, h.release hR hxy, .ended rfl, rfl, rfl⟩

theorem adopt_alike {w v : WatchId} (hR : Likeness client client' now s r.pod R)
    (h : r.Like held r') (hxy : R (some (w, v)) x y) (existing : Pod) (g g' : RunGuard) :
    ∃ held', RunTick.Like R g g' held' (s.adopt client r w existing g x)
      (s.adopt client' r' v existing g' y) := by
  unfold adopt
  rw [h.pod]
  dsimp only
  cases (s.resume r.pod existing).1.result with
  | some o => exact ⟨none, .ended _ _ (hR.stop _ _ _ _ hxy)⟩
  | none => exact ⟨_, hxy, .active ⟨h.pod, rfl, .events⟩ rfl rfl, rfl, rfl⟩

theorem events_alike {w v : WatchId} {watcher : CompletionWatcher}
    (hR : Likeness client client' now s r.pod R) (h : r.Like (some (w, v)) r')
    (ha : r.await = .events w watcher) (ha' : r'.await = .events v watcher)
    (hxy : R (some (w, v)) x y) (hg : watcher.result = none → r.guard.Agree now r'.guard) :
    ∃ held', RunTick.Like R r.guard.settle r'.guard.settle held' (s.advance client now r x)
      (s.advance client' now r' y) := by
  have hstop := hR.stop w v x y hxy
  unfold advance Wait.tick Wait.finish
  rw [ha, ha']
  dsimp only
  cases hres : watcher.result with
  | some o => exact ⟨none, .ended _ _ hstop⟩
  | none =>
    dsimp only
    cases hg hres with
    | clear hc hc' =>
      obtain ⟨hd, hnext⟩ := hR.next w v x y hxy
      rw [RunGuard.poll_of_clear hc, RunGuard.poll_of_clear hc']
      unfold EventSource.read
      generalize (client.source w).next x = a at hd hnext ⊢
      generalize (client'.source v).next y = b at hd hnext ⊢
      obtain ⟨x', d⟩ := a
      obtain ⟨y', d'⟩ := b
      obtain rfl : d' = d := hd
      cases d' with
      | event e => exact ⟨_, hnext, .active ⟨h.pod, h.begun, .events⟩ rfl rfl, rfl, rfl⟩
      | ended => exact ⟨none, .ended _ _ (hR.stop _ _ _ _ hnext)⟩
      | pending => exact ⟨_, hnext, .active ⟨h.pod, h.begun, .events⟩ rfl rfl, rfl, rfl⟩
    | interrupts hi hi' =>
      rw [RunGuard.poll_of_interrupts hi, RunGuard.poll_of_interrupts hi']
      exact ⟨none, .ended _ _ hstop⟩
    | spent hs hs' =>
      rw [RunGuard.poll_of_spent hs, RunGuard.poll_of_spent hs']
      exact ⟨none, hstop, .ended rfl, rfl, rfl⟩

/-- The next small steps of two runs come out alike, if the same stands in the way of both or both
have only to report an outcome. -/
theorem advance_alike (hR : Likeness client client' now s r.pod R) (h : r.Like held r')
    (hxy : R held x y)
    (hg : (∀ w watcher, r.await = .events w watcher → watcher.result = none) →
      r.guard.Agree now r'.guard) :
    ∃ held', RunTick.Like R r.guard.settle r'.guard.settle held' (s.advance client now r x)
      (s.advance client' now r' y) := by
  have hawait := h.await
  generalize ha : r.await = await at hawait
  generalize ha' : r'.await = await' at hawait
  cases hawait with
  | watch =>
    unfold advance
    rw [ha, ha']
    refine call_alike hR h hxy (hg (by simp [ha])) (hR.watch _ _ _ hxy) ?_ ?_
    · intro e x y hxy
      exact ⟨none, .ended _ _ hxy⟩
    · rintro w v held' x y rfl hxy
      exact ⟨_, h.goTo .lookup hxy⟩
  | lookup =>
    unfold advance
    rw [ha, ha']
    refine call_alike hR h hxy (hg (by simp [ha])) (hR.get _ _ _ _ hxy) ?_ ?_
    · intro e x y hxy
      dsimp only
      split
      · exact ⟨_, h.goTo .create hxy⟩
      · exact ⟨none, .ended _ _ (hR.stop _ _ _ _ hxy)⟩
    · rintro p q held' x y ⟨rfl, rfl⟩ hxy
      exact adopt_alike hR h hxy _ _ _
  | create =>
    unfold advance
    rw [ha, ha', h.pod]
    refine call_alike hR h hxy (hg (by simp [ha])) (hR.create _ _ _ _ hxy) ?_ ?_
    · intro e x y hxy
      dsimp only
      split
      · exact ⟨_, h.goTo .reread hxy⟩
      · exact ⟨none, .ended _ _ (hR.stop _ _ _ _ hxy)⟩
    · rintro p q held' x y ⟨rfl, rfl⟩ hxy
      exact ⟨_, h.goTo .events hxy⟩
  | reread =>
    unfold advance
    rw [ha, ha']
    refine call_alike hR h hxy (hg (by simp [ha])) (hR.get _ _ _ _ hxy) ?_ ?_
    · intro e x y hxy
      exact ⟨none, .ended _ _ (hR.stop _ _ _ _ hxy)⟩
    · rintro p q held' x y ⟨rfl, rfl⟩ hxy
      exact adopt_alike hR h hxy _ _ _
  | events =>
    refine events_alike hR h ha ha' hxy fun hres => hg fun w' watcher' he => ?_
    rw [ha] at he
    cases he
    exact hres

end PodStep

/-- Guards that tell of the same interruption, if of any, stand in the way of the same work. -/
theorem RunGuard.Agree.of_interruption {g g' : RunGuard} {now : Instant}
    (hs : g'.settle.signal = .spent ↔ g.settle.signal = .spent)
    (hi : g'.settle.interruption? now = g.settle.interruption? now) : g.Agree now g' := by
  rcases g.clear_or_cut now with ⟨hs₁, hi₁⟩ | ⟨e, event, hs₁, hi₁⟩ | hs₁
  · exact .clear ⟨hs₁, hi₁⟩ ⟨mt hs.mp hs₁, hi.trans hi₁⟩
  · exact .interrupts ⟨hs₁, hi₁⟩ ⟨mt hs.mp hs₁, hi.trans hi₁⟩
  · exact .spent hs₁ (hs.mpr hs₁)

theorem RunGuard.agree_self (g : RunGuard) (now : Instant) : g.Agree now g :=
  .of_interruption .rfl rfl

/-- Runs that have come to the same go on alike in worlds that look the same to them. -/
theorem PodStep.tick_alike {stage stage' : RunStage}
    (hR : ∀ pod, s.pod = .ok pod → Likeness client client' now s pod R)
    (hp : ∀ r, stage = .active r → s.pod = .ok r.pod) (h : stage.Twins held stage')
    (hxy : R held x y) :
    ∃ held', R held' (s.tick client now stage x).world (s.tick client' now stage' y).world ∧
      (s.tick client now stage x).stage.Twins held' (s.tick client' now stage' y).stage := by
  cases h with
  | @idle ctx =>
    refine ⟨none, ?_⟩
    change R none (s.begin ctx now x).world (s.begin ctx now y).world ∧
      RunStage.Twins none (s.begin ctx now x).stage (s.begin ctx now y).stage
    unfold PodStep.begin
    cases s.pod with
    | error fault => exact ⟨hxy, .ended rfl⟩
    | ok pod =>
      cases RunGuard.start? s.sectionName ctx now with
      | none => exact ⟨hxy, .ended rfl⟩
      | some guard => exact ⟨hxy, .active ⟨rfl, rfl, .watch⟩ rfl⟩
  | @active _ r r' h hg =>
    have hagree := r.guard.agree_self now
    obtain ⟨held', ht⟩ := advance_alike (hR r.pod (hp r rfl)) h hxy fun _ => hg.symm ▸ hagree
    refine ⟨held', ht.world, ?_⟩
    have hstage := ht.stage
    change (s.advance client now r x).stage.Twins held' (s.advance client' now r' y).stage
    generalize (s.advance client now r x).stage = a at hstage ⊢
    generalize (s.advance client' now r' y).stage = b at hstage ⊢
    cases hstage with
    | active hlike hguard hguard' => exact .active hlike (by rw [hguard, hguard', hg])
    | ended ho => exact .ended ho
  | ended ho =>
    cases stage with
    | idle | active => cases ho
    | finished | aborted => exact ⟨none, hxy, .ended rfl⟩

end

/-! Two runs in one world. -/

/-- The worlds of two runs are the same, and so are the watches that they hold. -/
def Held.Same (held : Held) (x y : σ) : Prop := x = y ∧ ∀ w v, held = some (w, v) → w = v

theorem AnswersAlike.same {V : α → α → Held → Prop} {held : Held}
    (hh : ∀ w v, held = some (w, v) → w = v) (a : σ × Option (ClientResult α))
    (hV : ∀ v (z : σ), ∃ held' : Held, V v v held' ∧ held'.Same z z) :
    AnswersAlike Held.Same held V a a := by
  obtain ⟨z, answer⟩ := a
  match answer with
  | none => exact .pending ⟨rfl, hh⟩
  | some (.error e) => exact .failed ⟨rfl, hh⟩
  | some (.ok v) =>
    obtain ⟨held', hv, hz⟩ := hV v z
    exact .answered hv hz

theorem likeness_same (client : PodClient σ) (now : Instant) (s : PodStep) (pod : Pod) :
    Likeness client client now s pod Held.Same := by
  constructor
  · rintro begun x y ⟨rfl, hh⟩
    refine .same hh _ fun w z => ⟨some (w, w), rfl, rfl, ?_⟩
    rintro _ _ ⟨⟩
    rfl
  · rintro held begun x y ⟨rfl, hh⟩
    exact .same hh _ fun p z => ⟨held, ⟨rfl, rfl⟩, rfl, hh⟩
  · rintro held begun x y ⟨rfl, hh⟩
    exact .same hh _ fun p z => ⟨held, ⟨rfl, rfl⟩, rfl, hh⟩
  · rintro w v x y ⟨rfl, hw⟩
    obtain rfl := hw w v rfl
    exact ⟨rfl, rfl, hw⟩
  · rintro w v x y ⟨rfl, hw⟩
    obtain rfl := hw w v rfl
    exact ⟨rfl, by simp⟩

/-- A run that is under way goes on behind another guard. -/
def RunStage.withGuard (g : RunGuard) : RunStage → RunStage
  | .active r => .active { r with guard := g }
  | stage => stage

theorem RunStage.withGuard_of_isOver {stage : RunStage} (h : stage.isOver) (g : RunGuard) :
    stage.withGuard g = stage := by
  cases stage <;> first | rfl | cases h

theorem Await.like_self (a : Await) :
    ∃ held : Held, a.Like held a ∧ ∀ w v, held = some (w, v) → w = v := by
  have hsame (w' : WatchId) (w v : WatchId) (h : some (w', w') = some (w, v)) : w = v := by
    cases h
    rfl
  cases a with
  | watch => exact ⟨_, .watch, by simp⟩
  | lookup w => exact ⟨_, .lookup, hsame w⟩
  | create w => exact ⟨_, .create, hsame w⟩
  | reread w => exact ⟨_, .reread, hsame w⟩
  | events w watcher => exact ⟨_, .events, hsame w⟩

theorem Await.Like.eq {held : Held} {a b : Await} (h : a.Like held b)
    (hh : ∀ w v, held = some (w, v) → w = v) : b = a := by
  cases h with
  | watch => rfl
  | lookup | create | reread | events =>
    obtain rfl := hh _ _ rfl
    rfl

namespace PodStep

variable {client : PodClient σ} {now : Instant} {s : PodStep} {r : ActiveRun} {g : RunGuard}

/-- A guard does nothing for a run but stand in its way. -/
theorem advance_withGuard (client : PodClient σ) (s : PodStep) (world : σ)
    (hg : (∀ w watcher, r.await = .events w watcher → watcher.result = none) →
      r.guard.Agree now g) :
    s.advance client now { r with guard := g } world = { s.advance client now r world with
        stage := (s.advance client now r world).stage.withGuard g.settle } ∧
      ((s.advance client now r world).stage.isOver ∨
        ∃ r₁, (s.advance client now r world).stage = .active r₁ ∧ r₁.guard = r.guard.settle) := by
  obtain ⟨held, ha, hh⟩ := r.await.like_self
  have hlike : r.Like held { r with guard := g } := ⟨rfl, rfl, ha⟩
  obtain ⟨held', ⟨hworld, hsame⟩, hstage, hlog, hblocked⟩ :=
    advance_alike (likeness_same client now s r.pod) hlike ⟨rfl, hh⟩ hg (x := world)
  generalize s.advance client now r world = t at *
  generalize s.advance client now { r with guard := g } world = t' at *
  obtain ⟨world₁, stage, log, blocked⟩ := t
  obtain ⟨world₁', stage', log', blocked'⟩ := t'
  obtain rfl : world₁ = world₁' := hworld
  obtain rfl : log' = log := hlog
  obtain rfl : blocked' = blocked := hblocked
  cases hstage with
  | ended h => cases stage <;> simp_all [RunStage.withGuard, RunStage.isOver]
  | @active _ r₁ r₁' h hg₁ hg₁' =>
    obtain ⟨pod, g₁, await, begun⟩ := r₁
    obtain ⟨pod', g₁', await', begun'⟩ := r₁'
    obtain rfl : pod' = pod := h.pod
    obtain rfl : begun' = begun := h.begun
    obtain rfl : await' = await := h.await.eq hsame
    obtain rfl : g₁' = g.settle := hg₁'
    exact ⟨rfl, .inr ⟨_, rfl, hg₁⟩⟩

/-- A run that is under way ends or goes on, and has noticed if nobody can cancel it any more. -/
theorem stage_advance (client : PodClient σ) (now : Instant) (s : PodStep) (r : ActiveRun)
    (world : σ) : (s.advance client now r world).stage.isOver ∨
      ∃ r₁, (s.advance client now r world).stage = .active r₁ ∧ r₁.guard = r.guard.settle :=
  (advance_withGuard client s world fun _ => r.guard.agree_self now).2

end PodStep

end PodPipeline
