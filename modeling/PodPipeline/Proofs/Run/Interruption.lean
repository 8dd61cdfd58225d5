import PodPipeline.Proofs.Run.Course
import PodPipeline.Proofs.Store.Respect

/-! Cancellations and time limits only cut runs short.

A run that can be interrupted is compared with one that cannot, while the same happens to both. They
go on in step until the first is cut; from then on it makes no call. -/
namespace PodPipeline

variable {σ : Type}

/-- The stage of a run that nothing can interrupt. -/
def RunStage.freed (step : String) : RunStage → RunStage
  | .idle _ => .idle {}
  | .active r => .active { r with guard := ⟨step, .absent, none⟩ }
  | stage => stage

theorem RunStage.freed_mapSignal (step : String) (f : CancelSignal → CancelSignal)
    (stage : RunStage) : (stage.mapSignal f).freed step = stage.freed step := by
  cases stage <;> rfl

theorem RunStage.mapSignal_freed (step : String) {f : CancelSignal → CancelSignal}
    (hf : f .absent = .absent) (stage : RunStage) :
    (stage.freed step).mapSignal f = stage.freed step := by
  cases stage <;> simp [mapSignal, freed, hf]

theorem RunStage.freed_of_isOver {stage : RunStage} (h : stage.isOver) (step : String) :
    stage.freed step = stage := by
  cases stage <;> first | rfl | cases h

/-- How a run stands with one that nothing can interrupt, when the same has happened to both. -/
inductive Course.Follows (s : PodStep) (ctx : RunContext) (acts : List (RunAct σ))
    (cut full : Course σ) : Prop where
  | together (hw : full.world = cut.world) (hl : full.log = cut.log)
      (hs : full.stage = cut.stage.freed s.sectionName) (ha : cut.stage ≠ .aborted)
  | parted {pod} (hp : s.pod = .ok pod) (h : cut.stage.Cut s ctx acts)
      (hc : cut.calls <+: full.calls)

namespace Course

variable {client : PodClient σ} {s : PodStep} {ctx : RunContext} {acts late : List (RunAct σ)}
  {cut full : Course σ} {pod : Pod}

/-- Nothing that happens to a run which is over changes it or its calls. -/
theorem act_of_isOver (client : PodClient σ) (s : PodStep) {c : Course σ} (h : c.stage.isOver)
    (a : RunAct σ) :
    (c.act client s a).stage = c.stage ∧ (c.act client s a).calls = c.calls := by
  obtain ⟨stage, world, log⟩ := c
  cases stage with
  | idle | active => cases h
  | finished | aborted => cases a <;> exact ⟨rfl, rfl⟩

theorem follows_tick_idle {ctx' : RunContext} {world : Recorded σ} {log : List LogEvent}
    (hg : (RunStage.idle ctx').Guarded s ctx acts) (now : Instant) :
    Follows s ctx (acts ++ [.tick now]) (act client s ⟨.idle ctx', world, log⟩ (.tick now))
      (act client s ⟨.idle {}, world, log⟩ (.tick now)) := by
  have hbegin (c : RunContext) : act client s ⟨.idle c, world, log⟩ (.tick now) =
      ⟨(s.begin c now world).stage, (s.begin c now world).world,
        log ++ (s.begin c now world).log⟩ := rfl
  rw [hbegin, hbegin]
  cases hp : s.pod with
  | error fault =>
    have hfault (c : RunContext) : s.begin c now world =
        { world, stage := .finished (.error (.config fault)) } := by simp [PodStep.begin, hp]
    rw [hfault, hfault]
    exact .together rfl rfl rfl (by simp)
  | ok pod =>
    have hfree : RunGuard.start? s.sectionName {} now = some ⟨s.sectionName, .absent, none⟩ := rfl
    cases hstart : RunGuard.start? s.sectionName ctx' now with
    | none =>
      obtain ⟨after, ha, hd⟩ := RunGuard.start?_eq_none hstart
      cases hg with
      | ended h => cases h
      | idle h =>
        simp only [PodStep.begin, hp, hstart, hfree]
        exact .parted hp (.undated ha (RunContext.start?_concat h _) hd) List.prefix_rfl
    | some g =>
      simp only [PodStep.begin, hp, hstart, hfree]
      exact .together rfl rfl rfl (by simp)

/-- Nothing stands in the way of the run, or it has only to report its outcome. -/
theorem follows_tick_clear {r : ActiveRun} {world : Recorded σ} {log : List LogEvent} {now : Instant}
    (hgo : (∀ w watcher, r.await = .events w watcher → watcher.result = none) →
      r.guard.Clear now) :
    Follows s ctx (acts ++ [.tick now]) (act client s ⟨.active r, world, log⟩ (.tick now))
      (act client s ⟨(RunStage.active r).freed s.sectionName, world, log⟩ (.tick now)) := by
  have hm := s.tick_moves (Recorded.client client) now (.active r) world
  have hfree : (⟨s.sectionName, .absent, none⟩ : RunGuard).Clear now :=
    RunGuard.clear_iff.mpr ⟨nofun, nofun, rfl⟩
  obtain ⟨heq, hstage⟩ := PodStep.advance_withGuard (Recorded.client client) s world
    fun hwait => .clear (hgo hwait) hfree
  have hfull : s.tick (Recorded.client client) now ((RunStage.active r).freed s.sectionName) world
      = _ := heq
  have halive : (s.tick (Recorded.client client) now (.active r) world).stage ≠ .aborted := by
    intro habort
    obtain ⟨hs, hwait⟩ := hm.of_aborted habort
    exact (hgo hwait).1 hs
  unfold act
  dsimp only
  rw [hfull]
  refine .together rfl rfl ?_ halive
  rcases hstage with ho | ⟨r₁, hr₁, -⟩
  · exact (RunStage.withGuard_of_isOver ho _).trans (RunStage.freed_of_isOver ho _).symm
  · change (s.advance (Recorded.client client) now r world).stage.withGuard _ =
      (s.advance (Recorded.client client) now r world).stage.freed _
    rw [hr₁]
    rfl

/-- The signal or the clock stands in the way of a run that waits. -/
theorem follows_tick_cut {r : ActiveRun} {world : Recorded σ} {log : List LogEvent} {now : Instant}
    (hg : (RunStage.active r).Guarded s ctx acts)
    (hf : s.Reaches client {} ((RunStage.active r).freed s.sectionName) world)
    (hwait : ∀ w watcher, r.await = .events w watcher → watcher.result = none)
    (hclear : ¬r.guard.Clear now) :
    Follows s ctx (acts ++ [.tick now]) (act client s ⟨.active r, world, log⟩ (.tick now))
      (act client s ⟨(RunStage.active r).freed s.sectionName, world, log⟩ (.tick now)) := by
  have hm := s.tick_moves (Recorded.client client) now (.active r) world
  obtain ⟨hworld, hend⟩ := hm.of_not_clear hclear
  have hcut : (s.tick (Recorded.client client) now (.active r) world).stage.Cut s ctx
      (acts ++ [.tick now]) := by
    rcases hend with ⟨e, event, hi, hstage⟩ | ⟨hs, hstage⟩ | ⟨w, watcher, o, ha, hr⟩
    · rw [hstage]
      exact hg.cut_of_interrupts hi
    · rw [hstage]
      exact (hg.cut_of_spent hs).append _
    · rw [hwait w watcher ha] at hr
      cases hr
  have hcalls : (s.tick (Recorded.client client) now (.active r) world).world.record.calls =
      world.record.calls := by rw [hworld, Recorded.record_release]
  have hpod : ∃ pod, s.pod = .ok pod := hf.pod_of_active
  obtain ⟨pod, hp⟩ := hpod
  refine .parted hp hcut ?_
  have hgrow := calls_act (c := ⟨_, world, log⟩) client hp (hf.traced hp) (.tick now)
  unfold calls at hgrow ⊢
  rwa [show (act client s ⟨.active r, world, log⟩ (.tick now)).world.record.calls = _ from hcalls]

/-- What happens to both runs keeps them in step or cuts the one. -/
theorem Follows.act (h : Follows s ctx acts cut full) (hg : cut.stage.Guarded s ctx acts)
    (hf : s.Reaches client {} full.stage full.world) (a : RunAct σ) :
    Follows s ctx (acts ++ [a]) (cut.act client s a) (full.act client s a) := by
  cases h with
  | parted hp h hc =>
    obtain ⟨hstage, hcalls⟩ := act_of_isOver client s h.isOver a
    refine .parted hp (hstage ▸ h.append [a]) ?_
    rw [hcalls]
    exact hc.trans (calls_act client hp (hf.traced hp) a)
  | together hw hl hs ha =>
    obtain ⟨stage, world, log⟩ := cut
    obtain ⟨stage', world', log'⟩ := full
    obtain rfl : world' = world := hw
    obtain rfl : log' = log := hl
    obtain rfl : stage' = stage.freed s.sectionName := hs
    have hsignal (f : CancelSignal → CancelSignal) (hf : f .absent = .absent) :
        (stage.freed s.sectionName).mapSignal f = (stage.mapSignal f).freed s.sectionName := by
      rw [stage.mapSignal_freed _ hf, stage.freed_mapSignal]
    have halive (f : CancelSignal → CancelSignal) : stage.mapSignal f ≠ .aborted := by
      cases stage <;> simp_all [RunStage.mapSignal]
    cases a with
    | disturb f => exact .together rfl rfl rfl ha
    | cancel => exact .together rfl rfl (hsignal _ rfl) (halive _)
    | abandon => exact .together rfl rfl (hsignal _ rfl) (halive _)
    | tick now =>
      cases stage with
      | idle ctx' => exact follows_tick_idle hg now
      | active r =>
        by_cases hgo : (∀ w watcher, r.await = .events w watcher → watcher.result = none) →
            r.guard.Clear now
        · exact follows_tick_clear hgo
        · obtain ⟨hwait, hclear⟩ := Classical.not_imp.mp hgo
          exact follows_tick_cut hg hf hwait hclear
      | finished result => exact .together rfl rfl rfl ha
      | aborted => exact absurd rfl ha

theorem Follows.perform (h : Follows s ctx acts cut full) (hg : cut.stage.Guarded s ctx acts)
    (hf : s.Reaches client {} full.stage full.world) (late : List (RunAct σ)) :
    Follows s ctx (acts ++ late) (cut.perform client s late) (full.perform client s late) := by
  induction late generalizing acts cut full with
  | nil => rwa [List.append_nil]
  | cons a late ih =>
    rw [List.append_cons]
    exact ih (h.act hg hf a) (hg.act a) (reaches_act hf a)

namespace Follows

theorem calls_prefix (h : Follows s ctx acts cut full) : cut.calls <+: full.calls := by
  cases h with
  | together hw =>
    have hcalls : full.calls = cut.calls := congrArg (fun x => x.record.calls.map (·.call)) hw
    exact hcalls ▸ List.prefix_rfl
  | parted _ _ hc => exact hc

/-- An outcome that only the one run has tells how it was cut. -/
theorem finished (h : Follows s ctx acts cut full) {r : RunResult}
    (hr : cut.stage = .finished r) : full.stage = .finished r ∨
      r = .error (.cancelled s.sectionName) ∧ ctx.signalAfter acts = .sent ∨
      ∃ after deadline now, r = .error (.timeout s.sectionName after) ∧ ctx.timeout = some after ∧
        ctx.deadline? acts = some deadline ∧ .tick now ∈ acts ∧ deadline.reached now := by
  cases h with
  | together _ _ hs =>
    rw [hr] at hs
    exact .inl hs
  | parted _ hcut =>
    rw [hr] at hcut
    cases hcut with
    | cancelled h => exact .inr (.inl ⟨rfl, h⟩)
    | timedOut ha hd hn hreach => exact .inr (.inr ⟨_, _, _, rfl, ha, hd, hn, hreach⟩)

theorem aborted (h : Follows s ctx acts cut full) (hs : cut.stage = .aborted) :
    ctx.signal = .spent ∨ ∃ after begun, ctx.timeout = some after ∧
      RunAct.start? acts = some begun ∧ begun.add? after = none := by
  cases h with
  | together _ _ _ ha => exact absurd hs ha
  | parted _ hcut =>
    rw [hs] at hcut
    cases hcut with
    | spent h => exact .inl (RunContext.signal_of_signalAfter h)
    | undated ha hb hd => exact .inr ⟨_, _, ha, hb, hd⟩

theorem isOver (h : Follows s ctx acts cut full) (ho : full.stage.isOver) : cut.stage.isOver := by
  cases h with
  | together _ _ hs =>
    rw [hs] at ho
    cases hstage : cut.stage <;> simp_all [RunStage.freed, RunStage.isOver]
  | parted _ hcut => exact hcut.isOver

end Follows

theorem follows_start (client : PodClient σ) (s : PodStep) (ctx : RunContext) (world : σ)
    (acts : List (RunAct σ)) : Follows s ctx acts ((start ctx world).perform client s acts)
      ((start {} world).perform client s acts) := by
  have h : Follows s ctx [] (start ctx world) (start {} world) :=
    .together rfl rfl rfl (by simp [start])
  exact h.perform (RunStage.guarded_idle s ctx) (.launched world) acts

/-! What an interrupted run still does. -/

/-- Once it was cancelled or its time is over, a run makes no call and reads no event. -/
theorem record_perform (hg : cut.stage.Guarded s ctx acts)
    (hi : ∀ now, .tick now ∈ late → ctx.Interrupted acts now) :
    (cut.perform client s late).world.record = cut.world.record :=
  keeps_perform (Q := fun x => x.record = cut.world.record) hg hi
    (fun r x hx => (Recorded.record_release r x).trans hx) (fun _ _ _ hx => hx) rfl

/-- It leaves alone what the stopping of a watch does not touch. -/
theorem world_perform {P : σ → Prop} (hg : cut.stage.Guarded s ctx acts)
    (hi : ∀ now, .tick now ∈ late → ctx.Interrupted acts now)
    (hstop : ∀ w x, P x → P ((client.source w).stop x))
    (hdisturb : ∀ f, .disturb f ∈ late → ∀ x, P x → P (f x)) (hP : P cut.world.world) :
    P (cut.perform client s late).world.world := by
  refine keeps_perform (Q := fun x => P x.world) hg hi (fun r x hx => ?_)
    (fun f hf x hx => hdisturb f hf _ hx) hP
  unfold ActiveRun.release
  split
  · exact hstop _ _ hx
  · exact hx

end Course

/-! The sender of the cancel signal goes away. -/

/-- Two signals are the same to a run that is not cancelled by either. -/
structure CancelSignal.Alike (a b : CancelSignal) : Prop where
  sent : b = .sent ↔ a = .sent
  spent : b = .spent ↔ a = .spent

namespace CancelSignal.Alike

variable {a b : CancelSignal}

theorem refl (a : CancelSignal) : a.Alike a := ⟨.rfl, .rfl⟩

theorem settled (h : a.Alike b) : a.settled.Alike b.settled := by
  obtain ⟨hs, hp⟩ := h
  constructor <;> cases a <;> cases b <;> simp_all [CancelSignal.settled]

theorem abandon (h : a.Alike b) : a.abandon.Alike b := by
  obtain ⟨hs, hp⟩ := h
  constructor <;> cases a <;> cases b <;> simp_all [CancelSignal.abandon]

end CancelSignal.Alike

theorem RunGuard.agree_signal {g : RunGuard} {sig : CancelSignal} (h : g.signal.Alike sig)
    (now : Instant) : g.Agree now { g with signal := sig } := by
  have hsettled := h.settled
  have hspent : ({ g with signal := sig } : RunGuard).settle.signal = .spent ↔
      g.settle.signal = .spent := by
    rw [RunGuard.signal_settle, RunGuard.signal_settle]
    exact hsettled.spent
  have hinter : ({ g with signal := sig } : RunGuard).settle.interruption? now =
      g.settle.interruption? now := by
    unfold RunGuard.interruption? RunGuard.expired?
    simp only [RunGuard.signal_settle, RunGuard.step_settle, RunGuard.limit_settle, hsettled.sent]
  exact .of_interruption hspent hinter

/-- Two stages are the same but for a signal that neither run is cancelled by. -/
inductive RunStage.Matches : RunStage → RunStage → Prop where
  | idle {c sig} (h : c.signal.Alike sig) :
    Matches (.idle c) (.idle { c with signal := sig })
  | active {r sig} (h : r.guard.signal.Alike sig) :
    Matches (.active r) (.active { r with guard := { r.guard with signal := sig } })
  | ended {stage} (h : stage.isOver) : Matches stage stage

theorem RunStage.Matches.abandon {stage stage' : RunStage} (h : stage.Matches stage') :
    (stage.mapSignal .abandon).Matches stage' := by
  cases h with
  | @idle c sig h => exact .idle (c := { c with signal := c.signal.abandon }) h.abandon
  | @active r sig h =>
    exact .active (r := { r with guard := { r.guard with signal := r.guard.signal.abandon } })
      h.abandon
  | ended h => cases stage <;> first | exact .ended h | cases h

theorem RunStage.Matches.mapSignal_eq {stage stage' : RunStage} (h : stage.Matches stage')
    (sig : CancelSignal) : stage'.mapSignal (fun _ => sig) = stage.mapSignal (fun _ => sig) := by
  cases h <;> rfl

/-- The same has happened to two runs, but for the signal. -/
structure Course.Matches (c c' : Course σ) : Prop where
  world : c'.world = c.world
  log : c'.log = c.log
  stage : c.stage.Matches c'.stage

namespace Course.Matches

variable {client : PodClient σ} {s : PodStep} {c c' : Course σ}

theorem begin (s : PodStep) (world : Recorded σ) (log : List LogEvent) (now : Instant)
    {ctx : RunContext} {sig : CancelSignal} (h : ctx.signal.Alike sig) :
    (act client s ⟨.idle ctx, world, log⟩ (.tick now)).Matches
      (act client s ⟨.idle { ctx with signal := sig }, world, log⟩ (.tick now)) := by
  have hbegin (c : RunContext) : act client s ⟨.idle c, world, log⟩ (.tick now) =
      ⟨(s.begin c now world).stage, (s.begin c now world).world,
        log ++ (s.begin c now world).log⟩ := rfl
  rw [hbegin, hbegin]
  unfold PodStep.begin
  cases s.pod with
  | error fault => exact ⟨rfl, rfl, .ended rfl⟩
  | ok pod =>
    cases hstart : RunGuard.start? s.sectionName { ctx with signal := sig } now with
    | none =>
      have hnone : RunGuard.start? s.sectionName ctx now = none := by
        obtain ⟨after, ha, hd⟩ := RunGuard.start?_eq_none hstart
        simp [RunGuard.start?, show ctx.timeout = some after from ha, hd]
      rw [hnone]
      exact ⟨rfl, rfl, .ended rfl⟩
    | some g =>
      obtain ⟨g', hg', rfl⟩ := RunGuard.start?_signal hstart
      rw [hg']
      have hsig : g'.signal = ctx.signal := (RunGuard.start?_eq_some hg').2.1
      exact ⟨rfl, rfl, .active (hsig ▸ h)⟩

theorem tick (h : c.Matches c') (now : Instant) :
    (c.act client s (.tick now)).Matches (c'.act client s (.tick now)) := by
  obtain ⟨stage, world, log⟩ := c
  obtain ⟨stage', world', log'⟩ := c'
  obtain ⟨hw, hl, hs⟩ := h
  obtain rfl : world' = world := hw
  obtain rfl : log' = log := hl
  cases hs with
  | idle h => exact begin s world' log' now h
  | ended h =>
    cases stage with
    | idle | active => cases h
    | finished | aborted => exact ⟨rfl, rfl, .ended rfl⟩
  | @active r sig h =>
    obtain ⟨heq, hstage⟩ := PodStep.advance_withGuard (Recorded.client client) s world'
      fun _ => RunGuard.agree_signal h now
    have hact (r : ActiveRun) : act client s ⟨.active r, world', log'⟩ (.tick now) =
        ⟨(s.advance (Recorded.client client) now r world').stage,
          (s.advance (Recorded.client client) now r world').world,
          log' ++ (s.advance (Recorded.client client) now r world').log⟩ := rfl
    rw [hact, hact, heq]
    refine ⟨rfl, rfl, ?_⟩
    rcases hstage with ho | ⟨r₁, hr₁, hg⟩
    · rw [RunStage.withGuard_of_isOver ho]
      exact .ended ho
    · have hsig : r₁.guard.signal.Alike sig.settled := by
        rw [hg, RunGuard.signal_settle]
        exact h.settled
      have hguard : ({ r.guard with signal := sig } : RunGuard).settle =
          { r₁.guard with signal := sig.settled } := by
        rw [hg, RunGuard.settle_eq, RunGuard.settle_eq]
      rw [hr₁, hguard]
      exact .active hsig

/-- Whether the sender of the signal goes away makes no difference. -/
theorem perform (h : c.Matches c') {acts : List (RunAct σ)} (hc : .cancel ∉ acts) :
    (c.perform client s acts).Matches (c'.perform client s (acts.filter (!·.isAbandon))) := by
  induction acts generalizing c c' with
  | nil => exact h
  | cons a acts ih =>
    have hacts : .cancel ∉ acts := fun hm => hc (List.mem_cons_of_mem _ hm)
    cases a with
    | tick now => exact ih (h.tick now) hacts
    | disturb f =>
      refine ih ⟨?_, h.log, h.stage⟩ hacts
      change ({ c'.world with world := f c'.world.world } : Recorded σ) = _
      rw [h.world]
      rfl
    | cancel => exact absurd List.mem_cons_self hc
    | abandon => exact ih ⟨h.world, h.log, h.stage.abandon⟩ hacts

end Course.Matches

/-! The cluster in memory. -/

/-- A run takes no stored pod away. -/
theorem Course.stored_perform {s : PodStep} {c : Course PodStore} {k : PodKey} {p : Pod}
    {late : List (RunAct PodStore)}
    (hd : ∀ f, .disturb f ∈ late → ∀ t : PodStore, t.pods.find? k = some p →
      (f t).pods.find? k = some p)
    (h : c.world.world.pods.find? k = some p) :
    (c.perform PodStore.client s late).world.world.pods.find? k = some p := by
  induction late generalizing c with
  | nil => exact h
  | cons a late ih =>
    refine ih (fun f hf => hd f (List.mem_cons_of_mem _ hf)) ?_
    cases a with
    | disturb f => exact hd f List.mem_cons_self _ h
    | cancel | abandon => exact h
    | tick now =>
      have hm := s.tick_moves (Recorded.client PodStore.client) now c.stage c.world
      refine hm.keeps (P := fun x => x.world.pods.find? k = some p) ?_ ?_ h
      · intro r d phase ha _ x hx
        change (x.world.call d).1.pods.find? k = some p
        rcases PodStep.awaited_eq ha with rfl | rfl | rfl
        · exact hx
        · have hpods := (PodStore.SameBut.get x.world s.namespace s.name).pods
          exact (congrArg (·.find? k) hpods).trans hx
        · exact PodStore.find?_create hx
      · intro r w _ _ x hx
        have hnext := (PodStore.SameBut.next x.world w).pods
        have hstop := (PodStore.SameBut.stop x.world w).pods
        exact ⟨(congrArg (·.find? k) hnext).trans hx, (congrArg (·.find? k) hstop).trans hx⟩

namespace PodStep

/-- A run that can be cancelled or run out of time, beside one that cannot: its calls are a prefix,
and its outcome is the same or tells how it was cut. Once it was cancelled or its time is over it
makes no call and only lets go of its watch. Whether the sender of the signal goes away makes no
difference. And no run takes a stored pod away. -/
theorem interruption_cuts_short (s : PodStep) (client : PodClient σ) (ctx : RunContext) (world : σ)
    (acts : List (RunAct σ)) :
    let run (ctx : RunContext) (acts : List (RunAct σ)) :=
      (Course.start ctx world).perform client s acts
    let cut := run ctx acts
    let full := run {} acts
    cut.calls <+: full.calls ∧
    (∀ r, cut.stage = .finished r → full.stage = .finished r ∨
      r = .error (.cancelled s.sectionName) ∧ ctx.signalAfter acts = .sent ∨
      ∃ after deadline now, r = .error (.timeout s.sectionName after) ∧ ctx.timeout = some after ∧
        ctx.deadline? acts = some deadline ∧ .tick now ∈ acts ∧ deadline.reached now) ∧
    (cut.stage = .aborted → ctx.signal = .spent ∨ ∃ after begun, ctx.timeout = some after ∧
      RunAct.start? acts = some begun ∧ begun.add? after = none) ∧
    (full.stage.isOver → cut.stage.isOver) ∧
    (ctx.signal = .sent → cut.calls = []) ∧
    (∀ early late, acts = early ++ late → (∀ now, .tick now ∈ late → ctx.Interrupted early now) →
      cut.world.record = (run ctx early).world.record ∧
      ∀ P : σ → Prop, (∀ w x, P x → P ((client.source w).stop x)) →
        (∀ f, .disturb f ∈ late → ∀ x, P x → P (f x)) → P (run ctx early).world.world →
        P cut.world.world) ∧
    (.cancel ∉ acts →
      let kept := run ctx (acts.filter (!·.isAbandon))
      kept.world = cut.world ∧ kept.log = cut.log ∧
        kept.stage.mapSignal (fun _ => .absent) = cut.stage.mapSignal (fun _ => .absent)) ∧
    ∀ (store : PodStore) (early late : List (RunAct PodStore)) (k : PodKey) (p : Pod),
      let run (acts : List (RunAct PodStore)) :=
        (Course.start ctx store).perform PodStore.client s acts
      (∀ f, .disturb f ∈ late → ∀ t : PodStore, t.pods.find? k = some p →
        (f t).pods.find? k = some p) →
      (run early).world.world.pods.find? k = some p →
      (run (early ++ late)).world.world.pods.find? k = some p := by
  intro run cut full
  have hfollows : Course.Follows s ctx acts cut full := Course.follows_start client s ctx world acts
  refine ⟨hfollows.calls_prefix, fun r hr => hfollows.finished hr, hfollows.aborted,
    hfollows.isOver, ?_, ?_, ?_, ?_⟩
  · intro hsent
    have hnone : cut.world.record = {} :=
      Course.record_perform (RunStage.guarded_idle s ctx) fun now _ => .inl hsent
    unfold Course.calls
    rw [hnone]
    rfl
  · rintro early late rfl hi
    have hguarded : (run ctx early).stage.Guarded s ctx early :=
      Course.guarded_start client s ctx world early
    rw [show cut = (run ctx early).perform client s late from Course.perform_append _ early late]
    exact ⟨Course.record_perform hguarded hi, fun P hstop hdisturb hP =>
      Course.world_perform hguarded hi hstop hdisturb hP⟩
  · intro hcancel kept
    have hstart : (Course.start ctx world).Matches (Course.start ctx world) :=
      ⟨rfl, rfl, .idle (.refl ctx.signal)⟩
    have hmatch : cut.Matches kept := hstart.perform hcancel
    exact ⟨hmatch.world, hmatch.log, hmatch.stage.mapSignal_eq _⟩
  · intro store early late k p runs hd h
    rw [show runs (early ++ late) = _ from Course.perform_append _ early late]
    exact Course.stored_perform hd h

/-- A run is cancelled while it waits for the end of the pod that it has created. -/
theorem interruption_cuts_short_sample :
    let early : List (RunAct PodStore) := List.replicate 5 (.tick .zero)
    let late : List (RunAct PodStore) := [.cancel, .tick .zero]
    let run (ctx : RunContext) (acts : List (RunAct PodStore)) :=
      (Course.start ctx ({} : PodStore)).perform PodStore.client sample acts
    let cut := run { signal := .armed } (early ++ late)
    cut.stage = .finished (.error (.cancelled "unit")) ∧
      (run {} (early ++ late)).stage.isOver = false ∧ cut.calls.length = 3 ∧
      cut.calls <+: (run {} (early ++ late)).calls ∧
      ∃ p, cut.world.world.pods.find? ⟨"ns", "unit-pod"⟩ = some p := by
  intro early late run cut
  obtain ⟨hcalls, -, -, -, -, -, -, hstored⟩ := interruption_cuts_short sample PodStore.client
    { signal := .armed } {} (early ++ late)
  have hp : ∃ p, (run { signal := .armed } early).world.world.pods.find? ⟨"ns", "unit-pod"⟩ =
      some p := ⟨_, rfl⟩
  obtain ⟨p, hp⟩ := hp
  exact ⟨rfl, rfl, rfl, hcalls, p, hstored {} early late _ p (by simp [late]) hp⟩

end PodStep

end PodPipeline
