import PodPipeline.Proofs.Run.Interruption

/-! A time limit that is not reached makes no difference to a run, if the clock can show its end. If
the clock cannot, the run breaks down before its first call. -/
namespace PodPipeline

variable {σ : Type}

/-- A limit that is not reached stands in nobody's way. -/
theorem RunGuard.agree_unlimited {g : RunGuard} {now : Instant} (h : g.expired? now = none) :
    g.Agree now { g with limit := none } := by
  have hsignal : ({ g with limit := none } : RunGuard).settle.signal = g.settle.signal := by
    rw [signal_settle, signal_settle]
  refine .of_interruption (by rw [hsignal]) ?_
  have hexp : g.settle.expired? now = none := by rwa [expired?, limit_settle]
  unfold interruption?
  rw [hsignal, hexp, step_settle, step_settle, expired?, limit_settle]
  rfl

/-- The stage of the same run without a time limit. -/
def RunStage.unlimited : RunStage → RunStage
  | .idle ctx => .idle { ctx with timeout := none }
  | .active r => .active { r with guard := { r.guard with limit := none } }
  | stage => stage

theorem RunStage.unlimited_of_isOver {stage : RunStage} (h : stage.isOver) :
    stage.unlimited = stage := by
  cases stage with
  | idle | active => cases h
  | finished | aborted => rfl

theorem RunStage.isOver_unlimited (stage : RunStage) : stage.unlimited.isOver = stage.isOver := by
  cases stage <;> rfl

theorem RunStage.mapSignal_unlimited (f : CancelSignal → CancelSignal) (stage : RunStage) :
    stage.unlimited.mapSignal f = (stage.mapSignal f).unlimited := by
  cases stage <;> rfl

/-- The end of the time limit does not depend on what happens once the run has begun. -/
theorem RunContext.deadline?_tick (ctx : RunContext) (acts late : List (RunAct σ)) (now : Instant) :
    ctx.deadline? (acts ++ .tick now :: late) = ctx.deadline? (acts ++ [.tick now]) := by
  have hbegun : ∃ begun, RunAct.start? (acts ++ [.tick now]) = some begun := by
    cases h : RunAct.start? acts with
    | none => exact ⟨now, start?_concat h _⟩
    | some begun => exact ⟨begun, start?_append h _⟩
  obtain ⟨begun, hb⟩ := hbegun
  unfold deadline?
  rw [List.append_cons, start?_append hb, hb]

namespace Course

variable {client : PodClient σ} {s : PodStep} {ctx : RunContext} {c : Course σ}
  {acts late : List (RunAct σ)} {deadline : Instant} {pod : Pod}

def unlimited (c : Course σ) : Course σ := { c with stage := c.stage.unlimited }

theorem unlimited_tick_idle {ctx' : RunContext} {world : Recorded σ} {log : List LogEvent}
    {now : Instant} (hg : (RunStage.idle ctx').Guarded s ctx acts)
    (hd : ctx.deadline? (acts ++ [.tick now]) = some deadline) :
    act client s (unlimited ⟨.idle ctx', world, log⟩) (.tick now) =
      (act client s ⟨.idle ctx', world, log⟩ (.tick now)).unlimited := by
  cases hg with
  | ended h => cases h
  | idle h =>
    obtain ⟨after, ha, -⟩ := Option.bind_eq_some_iff.mp hd
    have hadd : now.add? after = some deadline := by
      rw [← RunContext.deadline?_eq ha (RunContext.start?_concat h (.tick now)), hd]
    simp only [act, unlimited, RunStage.unlimited, PodStep.tick, PodStep.begin]
    cases s.pod with
    | error fault => rfl
    | ok pod =>
      simp only [RunGuard.start?, ha, hadd, Option.map_some]

theorem unlimited_tick_active {r : ActiveRun} {world : Recorded σ} {log : List LogEvent}
    {now : Instant} (hexp : r.guard.expired? now = none) :
    act client s (unlimited ⟨.active r, world, log⟩) (.tick now) =
      (act client s ⟨.active r, world, log⟩ (.tick now)).unlimited := by
  obtain ⟨heq, hstage⟩ := PodStep.advance_withGuard (Recorded.client client) s world
    fun _ => RunGuard.agree_unlimited hexp
  have hfree : s.tick (Recorded.client client) now (RunStage.active r).unlimited world = _ := heq
  unfold act unlimited
  dsimp only
  rw [hfree]
  refine congrArg (Course.mk · _ _) ?_
  change (s.advance (Recorded.client client) now r world).stage.withGuard _ =
    (s.advance (Recorded.client client) now r world).stage.unlimited
  rcases hstage with ho | ⟨r₁, hr₁, hguard⟩
  · rw [RunStage.withGuard_of_isOver ho, RunStage.unlimited_of_isOver ho]
  · rw [hr₁, RunStage.unlimited, hguard, RunGuard.settle_eq, RunGuard.settle_eq]
    rfl

/-- What happens to a run before its time is over comes to the same without the limit. -/
theorem act_unlimited (hg : c.stage.Guarded s ctx acts) (a : RunAct σ)
    (hd : ∀ now, a = .tick now → ∃ deadline, ctx.deadline? (acts ++ [a]) = some deadline ∧
      deadline.reached now = false) :
    c.unlimited.act client s a = (c.act client s a).unlimited := by
  obtain ⟨stage, world, log⟩ := c
  cases a with
  | disturb f => rfl
  | cancel | abandon => exact congrArg (Course.mk · world log) (stage.mapSignal_unlimited _)
  | tick now =>
    obtain ⟨deadline, hd, hreached⟩ := hd now rfl
    cases stage with
    | idle ctx' => exact unlimited_tick_idle hg hd
    | finished | aborted => rfl
    | active r =>
      refine unlimited_tick_active ?_
      obtain ⟨-, -, ⟨-, hnone⟩ | ⟨after, deadline', -, hd', hlimit⟩⟩ := hg.active_inv
      · rw [RunGuard.expired?, hnone]
        rfl
      · obtain rfl : deadline' = deadline :=
          Option.some.inj ((RunContext.deadline?_append hd' _).symm.trans hd)
        simp [RunGuard.expired?, hlimit, Option.filter, hreached]

theorem perform_unlimited (hg : c.stage.Guarded s ctx acts)
    (hd : ctx.deadline? (acts ++ late) = some deadline)
    (hn : ∀ now, .tick now ∈ late → deadline.reached now = false) :
    c.unlimited.perform client s late = (c.perform client s late).unlimited := by
  induction late generalizing c acts with
  | nil => rfl
  | cons a late ih =>
    have hact : c.unlimited.act client s a = (c.act client s a).unlimited := by
      refine act_unlimited hg a ?_
      rintro now rfl
      rw [ctx.deadline?_tick] at hd
      exact ⟨deadline, hd, hn now List.mem_cons_self⟩
    change (c.unlimited.act client s a).perform client s late = _
    rw [hact]
    rw [List.append_cons] at hd
    exact ih (hg.act a) hd fun now hnow => hn now (List.mem_cons_of_mem _ hnow)

/-- Nothing that happens to a run which is over changes it or its calls. -/
theorem perform_of_isOver (client : PodClient σ) (s : PodStep) (h : c.stage.isOver)
    (late : List (RunAct σ)) : (c.perform client s late).stage = c.stage ∧
      (c.perform client s late).calls = c.calls := by
  induction late generalizing c with
  | nil => exact ⟨rfl, rfl⟩
  | cons a late ih =>
    obtain ⟨hstage, hcalls⟩ := act_of_isOver client s h a
    obtain ⟨hstage', hcalls'⟩ := ih (hstage ▸ h)
    exact ⟨hstage'.trans hstage, hcalls'.trans hcalls⟩

/-- A run whose deadline the clock cannot show breaks down when it begins. -/
theorem perform_undated (hp : s.pod = .ok pod) {ctx' : RunContext} {after : Duration}
    {begun : Instant} (hc : c.stage = .idle ctx') (ha : ctx'.timeout = some after)
    (hb : RunAct.start? acts = some begun) (hd : begun.add? after = none) :
    (c.perform client s acts).stage = .aborted ∧ (c.perform client s acts).calls = c.calls := by
  induction acts generalizing c ctx' with
  | nil => cases hb
  | cons a acts ih =>
    obtain ⟨stage, world, log⟩ := c
    obtain rfl : stage = .idle ctx' := hc
    cases a with
    | disturb f => exact ih rfl ha hb
    | cancel | abandon => exact ih rfl ha hb
    | tick now =>
      obtain rfl : now = begun := Option.some.inj hb
      have hact : act client s ⟨.idle ctx', world, log⟩ (.tick now) =
          ⟨.aborted, world, log ++ []⟩ := by
        simp only [act, PodStep.tick, PodStep.begin, hp, RunGuard.start?, ha, hd, Option.map_none]
      change (perform client s (act client s _ (.tick now)) acts).stage = _ ∧
        (perform client s (act client s _ (.tick now)) acts).calls = _
      rw [hact]
      exact perform_of_isOver client s rfl acts

/-- Without a pod a run ends before it looks at its time limit. -/
theorem perform_refused {fault : ConfigFault} (hp : s.pod = .error fault)
    {begun : Instant} (hb : RunAct.start? acts = some begun) {ctx' : RunContext}
    (hc : c.stage = .idle ctx') :
    c.unlimited.perform client s acts = c.perform client s acts := by
  induction acts generalizing c ctx' with
  | nil => cases hb
  | cons a acts ih =>
    obtain ⟨stage, world, log⟩ := c
    obtain rfl : stage = .idle ctx' := hc
    cases a with
    | disturb f =>
      exact ih (c := ⟨.idle ctx', { world with world := f world.world }, log⟩) hb rfl
    | cancel => exact ih (c := ⟨(RunStage.idle ctx').mapSignal .send, world, log⟩) hb rfl
    | abandon => exact ih (c := ⟨(RunStage.idle ctx').mapSignal .abandon, world, log⟩) hb rfl
    | tick now =>
      have hact (ctx : RunContext) : act client s ⟨.idle ctx, world, log⟩ (.tick now) =
          ⟨.finished (.error (.config fault)), world, log ++ []⟩ := by
        simp only [act, PodStep.tick, PodStep.begin, hp]
      change perform client s (act client s ⟨.idle _, world, log⟩ (.tick now)) acts =
        perform client s (act client s ⟨.idle ctx', world, log⟩ (.tick now)) acts
      rw [hact, hact]

end Course

namespace PodStep

/-- A run with a time limit beside the same run without one. As long as the end of the limit is not
reached both have done the same, and if the other run is over by then, both have come to the same,
whatever happens later. It takes a clock that can show the end of the limit; without one the run
breaks down before its first call, unless there is no pod to run. -/
theorem timeout_unnoticed (s : PodStep) (client : PodClient σ) (ctx : RunContext) (after : Duration)
    (world : σ) (acts : List (RunAct σ)) (begun : Instant) (hb : RunAct.start? acts = some begun) :
    let run (timeout : Option Duration) (acts : List (RunAct σ)) :=
      (Course.start { ctx with timeout } world).perform client s acts
    (∀ deadline, begun.add? after = some deadline →
      (∀ now, .tick now ∈ acts → deadline.reached now = false) →
      (run (some after) acts).world = (run none acts).world ∧
      (run (some after) acts).log = (run none acts).log ∧
      ((run none acts).stage.isOver →
        ∀ late, run (some after) (acts ++ late) = run none (acts ++ late)) ∧
      (ctx.signal ≠ .spent → (run (some after) acts).stage ≠ .aborted)) ∧
    (∀ fault, s.pod = .error fault → run (some after) acts = run none acts) ∧
    ∀ pod, s.pod = .ok pod → begun.add? after = none →
      (run (some after) acts).stage = .aborted ∧ (run (some after) acts).calls = [] := by
  intro run
  refine ⟨fun deadline hdeadline hn => ?_, fun fault hp => ?_, fun pod hp hnone => ?_⟩
  · have hd : RunContext.deadline? { ctx with timeout := some after } acts = some deadline :=
      (RunContext.deadline?_eq rfl hb).trans hdeadline
    have hguarded : (Course.start { ctx with timeout := some after } world).stage.Guarded s
        { ctx with timeout := some after } ([] : List (RunAct σ)) := RunStage.guarded_idle s _
    have hrun : run none acts = (run (some after) acts).unlimited :=
      Course.perform_unlimited hguarded hd hn
    refine ⟨by rw [hrun]; rfl, by rw [hrun]; rfl, fun ho late => ?_, fun hsig habort => ?_⟩
    · have hsame : run none acts = run (some after) acts := by
        rw [hrun] at ho ⊢
        unfold Course.unlimited at ho ⊢
        rw [RunStage.isOver_unlimited] at ho
        rw [RunStage.unlimited_of_isOver ho]
      have happend (timeout : Option Duration) :
          run timeout (acts ++ late) = (run timeout acts).perform client s late :=
        Course.perform_append _ acts late
      rw [happend, happend, hsame]
    · have hfollows := Course.follows_start client s { ctx with timeout := some after } world acts
      rcases hfollows.aborted habort with hspent | ⟨after', begun', ha, hb', hnone⟩
      · exact hsig hspent
      · cases ha
        rw [hb] at hb'
        cases hb'
        rw [hdeadline] at hnone
        cases hnone
  · exact (Course.perform_refused hp hb rfl).symm
  · exact Course.perform_undated hp rfl rfl hb hnone

def sampleFinished : PodStore :=
  PodStore.insert {} { metadata := { name := some "unit-pod", «namespace» := some "ns" }
                       status := some { phase := some "Succeeded" } }

theorem timeout_unnoticed_sample :
    let acts : List (RunAct PodStore) := List.replicate 3 (.tick .zero)
    let run (timeout : Option Duration) :=
      (Course.start { timeout } sampleFinished).perform PodStore.client sample acts
    (run none).stage = .finished (.ok .succeeded) ∧ run (some (.ofMillis 5)) = run none := by
  intro acts run
  obtain ⟨hdated, -, -⟩ := timeout_unnoticed sample PodStore.client {} (.ofMillis 5) sampleFinished
    acts .zero rfl
  obtain ⟨-, -, hover, -⟩ := hdated ⟨5000000, by decide⟩ (by decide) (by simp [acts]; decide)
  exact ⟨rfl, hover rfl []⟩

/-- The longest time limit does not elapse, but no clock can show its end. -/
theorem timeout_longest_breaks_down :
    let acts : List (RunAct PodStore) := List.replicate 3 (.tick .zero)
    let run (timeout : Option Duration) :=
      (Course.start { timeout } sampleFinished).perform PodStore.client sample acts
    RunAct.start? acts = some .zero ∧
      (∀ now, .tick now ∈ acts → now.nanos < Duration.longest.toNanos) ∧
      (run none).stage = .finished (.ok .succeeded) ∧ (run none).calls.length = 2 ∧
      (run (some .longest)).stage = .aborted ∧ (run (some .longest)).calls = [] := by
  intro acts run
  refine ⟨rfl, ?_, rfl, rfl, rfl, rfl⟩
  intro now hnow
  have : now = .zero := by simpa [acts] using hnow
  rw [this]
  decide

end PodStep

end PodPipeline
