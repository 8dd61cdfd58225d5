import PodPipeline.Proofs.Scene.Calm
import PodPipeline.Proofs.Scene.Turn
import PodPipeline.Proofs.Store.Respect
import PodPipeline.Run.Single

/-! A run that is alone at a store: what becomes of it is settled by the pod that stands in its place
when it begins, and a look-up of that pod tells it beforehand. -/
namespace PodPipeline

namespace PodStore

/-- The pods of `s` and all its watches are there, and the watches are as they were. -/
structure Within (s t : PodStore) : Prop where
  pods : t.pods = s.pods
  watches : s.watches <+: t.watches

variable {s t u : PodStore} {own : Option WatchId}

theorem Within.watch (s : PodStore) (ns : String) (o : ListOptions) :
    s.Within (s.watch ns o).1 := ⟨rfl, List.prefix_append ..⟩

/-- A watch that `s` does not have may change. -/
theorem Within.sameBut (h : s.Within t) (ht : t.SameBut own u)
    (hown : ∀ w, own = some w → s.watches.length ≤ w.number) : s.Within u where
  pods := ht.pods.trans h.pods
  watches := by
    refine List.prefix_iff_getElem?.mpr fun i hi => ?_
    rw [ht.watches ⟨i⟩ fun hi' => absurd (hown _ hi') (Nat.not_le.mpr hi)]
    exact List.prefix_iff_getElem?.mp h.watches i hi

theorem pods_get (s : PodStore) (ns name : String) : (s.get ns name).1.pods = s.pods :=
  (SameBut.get s ns name).pods

theorem watches_get (s : PodStore) (ns name : String) : (s.get ns name).1.watches = s.watches := by
  unfold PodStore.get
  dsimp only
  split <;> rfl

end PodStore

namespace Runner

/-- Gives the run small steps, while nothing else happens to the store. -/
def alone (r : Runner) (s : PodStore) : List Instant → PodStore × Runner
  | [] => (s, r)
  | now :: nows => (r.tick now s).2.alone (r.tick now s).1 nows

/-- A run that has not begun holds no watch. -/
theorem attends_idle (s : PodStore) (p : PodStep) (ctx : RunContext) :
    Attends s { step := p, stage := .idle ctx } where
  listening w hw := by cases hw
  active a ha := by cases ha

/-- Only a run that waits for events reads some. -/
theorem events_tick {r : Runner}
    (h : ∀ a w watcher, r.stage = .active a → a.await ≠ .events w watcher) (now : Instant)
    (s : PodStore) : (r.tick now s).2.record.events = r.record.events := by
  have hm := r.step.tick_moves (Recorded.client PodStore.client) now r.stage ⟨s, r.record⟩
  unfold tick
  dsimp only
  generalize r.step.tick (Recorded.client PodStore.client) now r.stage ⟨s, r.record⟩ = u at hm ⊢
  generalize hstage : r.stage = stage at hm ⊢
  have hpoll {c : ClientCall} {b : Bool} {world world' : Recorded PodStore}
      {v : Option (ClientResult c.Value)}
      (hw : (Recorded.client PodStore.client).poll now c b world = (world', v)) :
      world'.record.events = world.record.events := by
    obtain ⟨rfl, -⟩ := Prod.mk.inj hw
    rfl
  cases hm with
  | refused | undated | begun | rested => rfl
  | interrupted | brokenDown => rw [Recorded.record_release]
  | failed _ _ _ hw => rw [Recorded.record_release, hpoll hw]
  | waiting _ _ hw | opened _ _ hw | missing _ _ _ hw | created _ _ hw | conflicted _ _ _ hw
  | settled _ _ _ hw | resumed _ _ _ hw => exact hpoll hw
  | read _ ha | blocked _ ha | ended _ ha | decided ha => exact absurd ha (h _ _ _ hstage)

end Runner

namespace PodStep.Turn

/-! What a run does that nothing stands in the way of. -/

variable {p : PodStep} {now : Instant} {s t : PodStore} {r : ActiveRun} {stage : RunStage}
  {made : List Exchange} {w : WatchId}

theorem of_watch (h : p.Turn now s (.active r) t stage made) (hclear : r.guard.Clear now)
    (ha : r.await = .watch) : t = (s.watch p.namespace ⟨some p.name⟩).1 ∧
      stage = .active (r.onward (.lookup ⟨s.watches.length⟩)) ∧
      made.map (·.call) = [p.watchCall] := by
  cases h with
  | rested ho => cases ho
  | cut hg => exact absurd hclear hg
  | opened => exact ⟨rfl, rfl, rfl⟩
  | settled ha' | resumed ha' =>
    rw [ha] at ha'
    rcases ha' with ha' | ha' <;> cases ha'
  | missing ha' | lost ha' | created ha' | conflicted ha' | read ha' | idles ha' | decided ha' =>
    rw [ha] at ha'
    cases ha'

/-- The pod has finished, or it has not, or there is none. -/
theorem of_lookup (h : p.Turn now s (.active r) t stage made) (hclear : r.guard.Clear now)
    (ha : r.await = .lookup w) : made.map (·.call) = [p.getCall] ∧
      ((∃ existing o, s.pods.find? p.key = some existing ∧ existing.verdict = some o ∧
          s.SameBut (some w) t ∧ stage = .finished (.ok o)) ∨
        (∃ existing, s.pods.find? p.key = some existing ∧ existing.verdict = none ∧
          s.SameBut none t ∧
          stage = .active (r.onward (.events w { podName := p.name, state := .watching }))) ∨
        (s.pods.find? p.key = none ∧ s.SameBut none t ∧
          stage = .active (r.onward (.create w)))) := by
  cases h with
  | rested ho => cases ho
  | cut hg => exact absurd hclear hg
  | settled ha' hf hv ht =>
    rw [ha] at ha'
    obtain rfl := Await.lookup.inj (ha'.resolve_right nofun)
    exact ⟨rfl, .inl ⟨_, _, hf, hv, ht, rfl⟩⟩
  | resumed ha' hf hv ht =>
    rw [ha] at ha'
    obtain rfl := Await.lookup.inj (ha'.resolve_right nofun)
    exact ⟨rfl, .inr (.inl ⟨_, hf, hv, ht, rfl⟩)⟩
  | missing ha' hf ht =>
    rw [ha] at ha'
    cases ha'
    exact ⟨rfl, .inr (.inr ⟨hf, ht, rfl⟩)⟩
  | opened ha' | lost ha' | created ha' | conflicted ha' | read ha' | idles ha' | decided ha' =>
    rw [ha] at ha'
    cases ha'

/-- A pod is created where there is none. -/
theorem of_create (h : p.Turn now s (.active r) t stage made) (hclear : r.guard.Clear now)
    (ha : r.await = .create w) (hf : s.pods.find? p.key = none) :
    t = (s.create p.namespace r.pod).1 ∧
      t.pods.find? p.key = some (r.pod.inNamespace p.namespace) ∧
      stage = .active (r.onward (.events w { podName := p.name, state := .watching })) ∧
      made.map (·.call) = [.create p.namespace r.pod] := by
  cases h with
  | rested ho => cases ho
  | cut hg => exact absurd hclear hg
  | created ha' _ hnew =>
    rw [ha] at ha'
    cases ha'
    exact ⟨rfl, hnew, rfl, rfl⟩
  | conflicted _ hf' =>
    rw [hf] at hf'
    cases hf'
  | settled ha' | resumed ha' =>
    rw [ha] at ha'
    rcases ha' with ha' | ha' <;> cases ha'
  | opened ha' | missing ha' | lost ha' | read ha' | idles ha' | decided ha' =>
    rw [ha] at ha'
    cases ha'

/-- Pods stay at their places. -/
theorem keyed {stage stage' : RunStage} (h : p.Turn now s stage t stage' made) (hs : s.Keyed) :
    t.Keyed := by
  rcases h.changes with ht | ⟨ns, o, rfl⟩ | ⟨ns, q, rfl⟩
  · exact ht.keyed hs
  · exact PodStore.keyed_call hs (.watch ns o)
  · exact PodStore.keyed_call hs (.create ns q)

end PodStep.Turn

namespace PodStep

/-- Where a run of `p` has come to in `n` small steps, if it began at the store `s` and is alone
there: the stage, the store and the record of the run. -/
inductive Solo (p : PodStep) (pod : Pod) (s : PodStore) :
    Nat → PodStore → RunStage → Record → Prop where
  | idle {ctx} (h : ctx.Calm) : Solo p pod s 0 s (.idle ctx) {}
  | opening {a rec} (h : a.guard.Calm) (ha : a.await = .watch)
    (hc : rec.calls.map (·.call) = []) (he : rec.events = []) : Solo p pod s 1 s (.active a) rec
  | looking {t a rec} (h : a.guard.Calm) (ha : a.await = .lookup ⟨s.watches.length⟩)
    (ht : s.Within t) (hl : t.Listening ⟨s.watches.length⟩ p.key [])
    (hc : rec.calls.map (·.call) = [p.watchCall]) (he : rec.events = []) :
    Solo p pod s 2 t (.active a) rec
  | creating {t a rec} (h : a.guard.Calm) (ha : a.await = .create ⟨s.watches.length⟩)
    (hf : s.pods.find? p.key = none) (ht : t.pods = s.pods)
    (hl : t.Listening ⟨s.watches.length⟩ p.key [])
    (hc : rec.calls.map (·.call) = [p.watchCall, p.getCall]) : Solo p pod s 3 t (.active a) rec
  | waiting {n t a w watcher q rec} (hn : 3 ≤ n) (h : a.guard.Calm)
    (ha : a.await = .events w watcher) (hr : watcher.result = none)
    (hv : ∀ existing, s.pods.find? p.key = some existing → existing.verdict = none)
    (hl : t.Listening w p.key q) (hq : firstVerdict p.name q = none)
    (hc : rec.calls.map (·.call) = p.watchCall :: p.getCall ::
      if s.pods.find? p.key = none then [.create p.namespace pod] else []) :
    Solo p pod s n t (.active a) rec
  | returned {n t rec existing o} (hn : 3 ≤ n) (hf : s.pods.find? p.key = some existing)
    (hv : existing.verdict = some o) (ht : s.Within t)
    (hc : rec.calls.map (·.call) = [p.watchCall, p.getCall]) (he : rec.events = []) :
    Solo p pod s n t (.finished (.ok o)) rec

namespace Solo

variable {p : PodStep} {pod : Pod} {s t t' : PodStore} {n : Nat} {stage stage' : RunStage}
  {rec rec' : Record} {now : Instant} {made : List Exchange}

theorem not_events {a : ActiveRun} {await : Await} (ha : a.await = await)
    (hawait : ∀ w watcher, await ≠ .events w watcher) (b : ActiveRun) (w : WatchId)
    (watcher : CompletionWatcher) (hb : RunStage.active a = .active b) :
    b.await ≠ .events w watcher := by
  cases hb
  rw [ha]
  exact hawait w watcher

theorem turn_idle {ctx : RunContext} (h : ctx.Calm) (hp : p.pod = .ok pod)
    (ht : p.Turn now s (.idle ctx) t stage made) :
    t = s ∧ made = [] ∧ ∃ a, stage = .active a ∧ a.guard.Calm ∧ a.await = .watch := by
  have hstart := RunGuard.start?_of_calm h p.sectionName now
  cases ht with
  | refused hp' =>
    rw [hp] at hp'
    cases hp'
  | undated hg =>
    rw [hstart] at hg
    cases hg
  | rested ho => cases ho
  | @begun _ a _ _ hg ha =>
    have hguard : _ = a.guard := Option.some.inj (hstart.symm.trans hg)
    refine ⟨rfl, rfl, a, rfl, ?_, ha⟩
    rw [← hguard]
    exact h.guard _

/-- A run that waits for its pod reads nothing that decides. -/
theorem turn_waiting {a : ActiveRun} {w : WatchId} {watcher : CompletionWatcher}
    {q : List WatchEvent} (hclear : a.guard.Clear now) (ha : a.await = .events w watcher)
    (hr : watcher.result = none) (hname : watcher.podName = p.name) (hl : t.Listening w p.key q)
    (hq : firstVerdict p.name q = none) (ht : p.Turn now t (.active a) t' stage' made) :
    made = [] ∧ ∃ watcher' q', stage' = .active (a.onward (.events w watcher')) ∧
      watcher'.result = none ∧ t'.Listening w p.key q' ∧ firstVerdict p.name q' = none := by
  cases ht with
  | rested ho => cases ho
  | cut hg => exact absurd hclear hg
  | decided ha' hr' =>
    rw [ha] at ha'
    cases ha'
    rw [hr] at hr'
    cases hr'
  | @read _ _ _ _ e _ ha' _ hl' hq' =>
    rw [ha] at ha'
    cases ha'
    obtain rfl := hl.unique hl'
    rw [firstVerdict_cons, Option.or_eq_none_iff] at hq
    refine ⟨rfl, _, _, rfl, ?_, hq', hq.2⟩
    rw [watcher.result_observe, hr, hname, hq.1]
    rfl
  | idles ha' _ hl' hq' =>
    rw [ha] at ha'
    cases ha'
    exact ⟨rfl, _, _, by rw [ha], hr, hq', rfl⟩
  | settled ha' | resumed ha' =>
    rw [ha] at ha'
    rcases ha' with ha' | ha' <;> cases ha'
  | opened ha' | missing ha' | lost ha' | created ha' | conflicted ha' =>
    rw [ha] at ha'
    cases ha'

/-- One small step of the run. -/
theorem turn (h : Solo p pod s n t stage rec) (hp : p.pod = .ok pod) (hk : t.Keyed)
    (hattends : Runner.Attends t ⟨p, stage, rec⟩) (ht : p.Turn now t stage t' stage' made)
    (hc : rec'.calls.map (·.call) = rec.calls.map (·.call) ++ made.map (·.call))
    (he : (∀ a w watcher, stage = .active a → a.await ≠ .events w watcher) →
      rec'.events = rec.events) : Solo p pod s (n + 1) t' stage' rec' := by
  cases h with
  | idle h =>
    obtain ⟨rfl, rfl, a, rfl, hcalm, ha⟩ := turn_idle h hp ht
    exact .opening hcalm ha hc (he fun _ _ _ hs => nomatch hs)
  | opening h ha hbefore hunread =>
    obtain ⟨rfl, rfl, hmade⟩ := ht.of_watch (h.clear now) ha
    rw [hbefore, hmade] at hc
    have hwithin := PodStore.Within.watch s p.namespace ⟨some p.name⟩
    refine .looking h.settle rfl hwithin (PodStore.listening_watch s p.key) hc ?_
    exact (he (not_events ha nofun)).trans hunread
  | looking h ha hwithin hl hbefore hunread =>
    obtain ⟨hmade, hcases⟩ := ht.of_lookup (h.clear now) ha
    rw [hbefore, hmade] at hc
    rw [hwithin.pods] at hcases
    rcases hcases with ⟨existing, o, hf, hv, hsame, rfl⟩ | ⟨existing, hf, hv, hsame, rfl⟩ |
      ⟨hf, hsame, rfl⟩
    · refine .returned (Nat.le_refl 3) hf hv (hwithin.sameBut hsame fun w hw => ?_) hc ?_
      · cases hw
        exact Nat.le_refl _
      · exact (he (not_events ha nofun)).trans hunread
    · refine .waiting (Nat.le_refl 3) h.settle rfl rfl ?_ (hsame.listening nofun hl) rfl ?_
      · rintro existing' hf'
        obtain rfl := Option.some.inj (hf.symm.trans hf')
        exact hv
      · rw [hc, hf, if_neg nofun]
        rfl
    · exact .creating h.settle rfl hf (hsame.pods.trans hwithin.pods) (hsame.listening nofun hl) hc
  | @creating _ a _ h ha hf hpods hl hbefore =>
    obtain ⟨-, hpod, -⟩ := hattends.active _ rfl
    have hvacant : t.pods.find? p.key = none := by rw [hpods, hf]
    obtain ⟨rfl, hnew, rfl, hmade⟩ := ht.of_create (h.clear now) ha hvacant
    obtain ⟨news, hchange, hlisten⟩ :
        t.Drifts (t.create p.namespace a.pod).1 (some ⟨s.watches.length⟩) p.key :=
      PodStore.drifts_call hk (.create p.namespace a.pod) _ _
    rw [hbefore, hmade] at hc
    refine .waiting (by omega) h.settle rfl rfl (fun existing hf' => ?_) (hlisten _ _ rfl hl) ?_ ?_
    · rw [hf] at hf'
      cases hf'
    · rw [hvacant, hnew] at hchange
      exact hchange.of_absent (verdict_pod hpod p.namespace)
    · obtain rfl := Except.ok.inj (hp.symm.trans hpod)
      rw [hc, if_pos hf]
      rfl
  | waiting hn h ha hr hv hl hq hbefore =>
    obtain ⟨-, -, -, hname⟩ := hattends.active _ rfl
    obtain ⟨rfl, watcher', q', rfl, hr', hl', hq'⟩ :=
      turn_waiting (h.clear now) ha hr (hname _ _ ha) hl hq ht
    rw [List.map_nil, List.append_nil, hbefore] at hc
    exact .waiting (Nat.le_succ_of_le hn) h.settle rfl hr' hv hl' hq' hc
  | returned hn hf hv hwithin hbefore hunread =>
    cases ht with
    | rested =>
      rw [List.map_nil, List.append_nil, hbefore] at hc
      have hread := (he fun _ _ _ hs => nomatch hs).trans hunread
      exact .returned (Nat.le_succ_of_le hn) hf hv hwithin hc hread

/-- All small steps of the run. -/
theorem alone {r : Runner} (h : Solo p pod s n t r.stage r.record) (hstep : r.step = p)
    (hp : p.pod = .ok pod) (hk : t.Keyed) (hattends : r.Attends t) (nows : List Instant) :
    Solo p pod s (n + nows.length) (r.alone t nows).1 (r.alone t nows).2.stage
      (r.alone t nows).2.record := by
  induction nows generalizing n t r with
  | nil => exact h
  | cons now nows ih =>
    subst hstep
    obtain ⟨made, hmade, hturn⟩ := r.turn hattends hk now
    have hcalls := congrArg (List.map Exchange.call) hmade
    rw [List.map_append] at hcalls
    have hnext := h.turn hp hk hattends hturn hcalls fun hquiet => r.events_tick hquiet now t
    rw [List.length_cons, Nat.add_comm nows.length 1, ← Nat.add_assoc]
    exact ih hnext rfl (hturn.keyed hk) (hattends.turn hk hturn)

end Solo

/-- A run that begins at a store. -/
theorem solo_alone {p : PodStep} {pod : Pod} (hp : p.pod = .ok pod) {s : PodStore} (hk : s.Keyed)
    {ctx : RunContext} (hc : ctx.Calm) (nows : List Instant) :
    let u := ({ step := p, stage := .idle ctx } : Runner).alone s nows
    Solo p pod s nows.length u.1 u.2.stage u.2.record := by
  have hattends := Runner.attends_idle s p ctx
  generalize hr : ({ step := p, stage := .idle ctx } : Runner) = r at hattends ⊢
  have hstart : Solo p pod s 0 s r.stage r.record := by
    rw [← hr]
    exact .idle hc
  have h := hstart.alone (by rw [← hr]) hp hk hattends nows
  rwa [Nat.zero_add] at h

/-- The run has returned with the outcome of the pod that it has found. It has opened its watch and
looked for the pod, and has done and read nothing else. -/
def Returned (p : PodStep) (s : PodStore) (u : PodStore × Runner) : Prop :=
  ∃ existing o, s.pods.find? p.key = some existing ∧ existing.verdict = some o ∧
    u.2.stage = .finished (.ok o) ∧ u.2.record.calls.map (·.call) = [p.watchCall, p.getCall] ∧
    u.2.record.events = [] ∧ s.Within u.1

/-- The run waits for events and has no outcome yet. It has created its pod if there was none. -/
def Waits (p : PodStep) (pod : Pod) (s : PodStore) (u : PodStore × Runner) : Prop :=
  ∃ a w watcher, u.2.stage = .active a ∧ a.await = .events w watcher ∧ watcher.result = none ∧
    u.2.record.calls.map (·.call) = p.watchCall :: p.getCall ::
      if s.pods.find? p.key = none then [.create p.namespace pod] else []

namespace Solo

variable {p : PodStep} {pod : Pod} {s : PodStore} {n : Nat} {u : PodStore × Runner}

/-- A pod that has finished ends the run in its third small step. -/
theorem returned_of_verdict (h : Solo p pod s n u.1 u.2.stage u.2.record) (hn : 3 ≤ n)
    {o : Outcome} (hv : s.verdict? p.key = some o) : p.Returned s u := by
  obtain ⟨t, p', stage, rec⟩ := u
  obtain ⟨existing, hf, hv⟩ := Option.bind_eq_some_iff.mp hv
  dsimp only at h
  cases h with
  | idle | opening | looking => omega
  | creating _ _ hf' =>
    rw [hf] at hf'
    cases hf'
  | waiting _ _ _ _ hnone =>
    rw [hnone existing hf] at hv
    cases hv
  | returned _ hf' hv' hwithin hcalls hunread =>
    exact ⟨_, _, hf', hv', rfl, hcalls, hunread, hwithin⟩

/-- Without such a pod the run waits after its fourth small step. -/
theorem waits_of_verdict (h : Solo p pod s n u.1 u.2.stage u.2.record) (hn : 4 ≤ n)
    (hv : s.verdict? p.key = none) : p.Waits pod s u := by
  obtain ⟨t, p', stage, rec⟩ := u
  dsimp only at h
  cases h with
  | idle | opening | looking | creating => omega
  | waiting _ _ ha hr _ _ _ hcalls => exact ⟨_, _, _, rfl, ha, hr, hcalls⟩
  | returned _ hf hv' =>
    rw [PodStore.verdict?_eq hf, hv'] at hv
    cases hv

/-- A run is over only if it has found a pod that had finished. -/
theorem returned_of_isOver (h : Solo p pod s n u.1 u.2.stage u.2.record)
    (ho : u.2.stage.isOver) : p.Returned s u := by
  obtain ⟨t, p', stage, rec⟩ := u
  dsimp only at h ho
  cases h with
  | idle | opening | looking | creating | waiting => cases ho
  | returned _ hf hv hwithin hcalls hunread =>
    exact ⟨_, _, hf, hv, rfl, hcalls, hunread, hwithin⟩

/-- A run that waits for events has found no such pod. -/
theorem verdict_of_events {t : PodStore} {a : ActiveRun} {rec : Record} {w : WatchId}
    {watcher : CompletionWatcher} (h : Solo p pod s n t (.active a) rec)
    (ha : a.await = .events w watcher) : s.verdict? p.key = none := by
  cases h with
  | opening _ ha' | looking _ ha' | creating _ ha' =>
    rw [ha] at ha'
    cases ha'
  | waiting _ _ _ _ hv =>
    unfold PodStore.verdict?
    cases hf : s.pods.find? p.key with
    | none => rfl
    | some existing => exact hv existing hf

end Solo

theorem Returned.verdict {p : PodStep} {s : PodStore} {u : PodStore × Runner}
    (h : p.Returned s u) : ∃ o, s.verdict? p.key = some o := by
  obtain ⟨existing, o, hf, hv, -⟩ := h
  exact ⟨o, by rw [PodStore.verdict?_eq hf, hv]⟩

theorem done_eq (p : PodStep) (s : PodStore) (moment : Instant) :
    p.done PodStore.client moment false s =
      ((s.get p.namespace p.name).1, some (.ok (s.verdict? p.key).isSome)) := by
  have hanswer : p.doneFrom (s.get p.namespace p.name).2 = .ok (s.verdict? p.key).isSome := by
    cases hf : s.pods.find? p.key with
    | some existing =>
      rw [PodStore.get_of_find? hf, PodStore.verdict?_eq hf]
      rfl
    | none =>
      rw [PodStore.get_of_vacant hf, PodStore.verdict?, hf]
      rfl
  rw [← hanswer]
  rfl

section

variable {p : PodStep} {s : PodStore} {moment : Instant}

theorem done_eq_true_iff : (p.done PodStore.client moment false s).2 = some (.ok true) ↔
    ∃ o, s.verdict? p.key = some o := by
  rw [done_eq]
  simp [Option.isSome_iff_exists]

theorem done_eq_false_iff : (p.done PodStore.client moment false s).2 = some (.ok false) ↔
    s.verdict? p.key = none := by
  rw [done_eq]
  simp

/-- The question is always answered at a store. -/
theorem done_answers : (p.done PodStore.client moment false s).2 = some (.ok true) ∨
    (p.done PodStore.client moment false s).2 = some (.ok false) := by
  rw [done_eq_true_iff, done_eq_false_iff]
  cases s.verdict? p.key with
  | some o => exact .inl ⟨o, rfl⟩
  | none => exact .inr rfl

/-- The question changes no pod and no watch. -/
theorem done_keeps : (p.done PodStore.client moment false s).1.pods = s.pods ∧
    (p.done PodStore.client moment false s).1.watches = s.watches := by
  rw [done_eq]
  exact ⟨PodStore.pods_get .., PodStore.watches_get ..⟩

end

/-- Whether the step is done tells what a run does that is alone at the store, whatever has happened
to the store before. If the step is done, the run finds a pod that has finished: it returns with the
outcome of that pod after two calls, has read nothing and leaves all pods and watches as they were.
Otherwise it comes to wait for events, and has created its pod exactly if there was none. The
question itself changes no pod and no watch. -/
theorem done_agrees_with_run (p : PodStep) {pod : Pod} (hp : p.pod = .ok pod)
    (history : List StoreAct) {ctx : RunContext} (hc : ctx.Calm) (moment : Instant) :
    let s := ({} : PodStore).perform history
    let alone (nows : List Instant) := ({ step := p, stage := .idle ctx } : Runner).alone s nows
    let done := p.done PodStore.client moment false s
    (done.1.pods = s.pods ∧ done.1.watches = s.watches) ∧
    (done.2 = some (.ok true) ∨ done.2 = some (.ok false)) ∧
    (done.2 = some (.ok true) ↔ ∃ nows, p.Returned s (alone nows)) ∧
    (done.2 = some (.ok false) ↔ ∃ nows, p.Waits pod s (alone nows)) ∧
    ∀ nows,
      (done.2 = some (.ok true) → 3 ≤ nows.length → p.Returned s (alone nows)) ∧
      (done.2 = some (.ok false) → 4 ≤ nows.length → p.Waits pod s (alone nows)) ∧
      ((alone nows).2.stage.isOver → p.Returned s (alone nows)) := by
  intro s alone done
  have hsolo (nows : List Instant) : Solo p pod s nows.length (alone nows).1 (alone nows).2.stage
      (alone nows).2.record :=
    solo_alone hp (PodStore.keyed_perform PodStore.keyed_empty history) hc nows
  have hreturned (nows : List Instant) (hn : 3 ≤ nows.length) (h : done.2 = some (.ok true)) :
      p.Returned s (alone nows) := by
    obtain ⟨o, ho⟩ := done_eq_true_iff.mp h
    exact (hsolo nows).returned_of_verdict hn ho
  have hwaits (nows : List Instant) (hn : 4 ≤ nows.length) (h : done.2 = some (.ok false)) :
      p.Waits pod s (alone nows) :=
    (hsolo nows).waits_of_verdict hn (done_eq_false_iff.mp h)
  refine ⟨done_keeps, done_answers, ⟨fun h => ?_, ?_⟩, ⟨fun h => ?_, ?_⟩, fun nows =>
    ⟨fun h hn => hreturned nows hn h, fun h hn => hwaits nows hn h, fun ho => ?_⟩⟩
  · exact ⟨List.replicate 3 .zero, hreturned _ (Nat.le_refl 3) h⟩
  · rintro ⟨nows, hr⟩
    exact done_eq_true_iff.mpr hr.verdict
  · exact ⟨List.replicate 4 .zero, hwaits _ (Nat.le_refl 4) h⟩
  · rintro ⟨nows, a, w, watcher, hs, ha, -⟩
    have h := hsolo nows
    rw [hs] at h
    exact done_eq_false_iff.mpr (h.verdict_of_events ha)
  · exact (hsolo nows).returned_of_isOver ho

/-- The pod of the step that can be run was there before and has succeeded. -/
def sampleHistory : List StoreAct :=
  [.insert { metadata := { name := some "unit-pod", «namespace» := some "ns" }
             status := some Phase.succeeded.toStatus }]

theorem done_agrees_with_run_sample :
    let store (history : List StoreAct) := ({} : PodStore).perform history
    let done (history : List StoreAct) := sample.done PodStore.client .zero false (store history)
    let run (history : List StoreAct) (n : Nat) :=
      ({ step := sample, stage := .idle {} } : Runner).alone (store history)
        (List.replicate n .zero)
    ∃ pod, sample.pod = .ok pod ∧ (done sampleHistory).2 = some (.ok true) ∧
      sample.Returned (store sampleHistory) (run sampleHistory 3) ∧
      (done []).2 = some (.ok false) ∧ sample.Waits pod (store []) (run [] 4) := by
  intro store done run
  obtain ⟨pod, hp⟩ : ∃ pod, sample.pod = .ok pod := ⟨_, rfl⟩
  have hcalm : RunContext.Calm {} := ⟨nofun, nofun, rfl⟩
  obtain ⟨-, -, -, -, hfound⟩ := done_agrees_with_run sample hp sampleHistory hcalm .zero
  obtain ⟨-, -, -, -, habsent⟩ := done_agrees_with_run sample hp [] hcalm .zero
  obtain ⟨hreturned, -⟩ := hfound (List.replicate 3 .zero)
  obtain ⟨-, hwaits, -⟩ := habsent (List.replicate 4 .zero)
  exact ⟨pod, hp, rfl, hreturned rfl (Nat.le_refl 3), rfl, hwaits rfl (Nat.le_refl 4)⟩

end PodStep

end PodPipeline
