import PodPipeline.Proofs.Scene.Runner

/-! What one small step of a run finds in the store and what it makes of it. `Runner.turn` lists all
cases. -/
namespace PodPipeline

/-- The small steps of a run of `p` at the store `s`, with the calls that are made and answered. -/
inductive PodStep.Turn (p : PodStep) (now : Instant) (s : PodStore) :
    RunStage → PodStore → RunStage → List Exchange → Prop where
  | refused {ctx fault} (hp : p.pod = .error fault) :
    Turn p now s (.idle ctx) s (.finished (.error (.config fault))) []
  | undated {ctx} (hg : RunGuard.start? p.sectionName ctx now = none) :
    Turn p now s (.idle ctx) s .aborted []
  | begun {ctx r} (hp : p.pod = .ok r.pod) (hb : r.begun = false)
      (hg : RunGuard.start? p.sectionName ctx now = some r.guard) (ha : r.await = .watch) :
    Turn p now s (.idle ctx) s (.active r) []
  | rested {stage} (h : stage.isOver) : Turn p now s stage s stage []
  | cut {r t stage} (hg : ¬r.guard.Clear now) (ht : s.SameBut r.watch? t)
      (hc : stage.WasCut p.sectionName) :
    Turn p now s (.active r) t stage []
  | opened {r} (ha : r.await = .watch) :
    Turn p now s (.active r) (s.watch p.namespace ⟨some p.name⟩).1
      (.active (r.onward (.lookup ⟨s.watches.length⟩)))
      [⟨p.watchCall, some (.ok ⟨s.watches.length⟩)⟩]
  | settled {r t w existing o} (ha : r.await = .lookup w ∨ r.await = .reread w)
      (hf : s.pods.find? p.key = some existing) (hv : existing.verdict = some o)
      (ht : s.SameBut (some w) t) :
    Turn p now s (.active r) t (.finished (.ok o)) [⟨p.getCall, some (.ok existing)⟩]
  | resumed {r t w existing} (ha : r.await = .lookup w ∨ r.await = .reread w)
      (hf : s.pods.find? p.key = some existing) (hv : existing.verdict = none)
      (ht : s.SameBut none t) :
    Turn p now s (.active r) t
      (.active (r.onward (.events w { podName := p.name, state := .watching })))
      [⟨p.getCall, some (.ok existing)⟩]
  | missing {r t w e} (ha : r.await = .lookup w) (hf : s.pods.find? p.key = none)
      (ht : s.SameBut none t) :
    Turn p now s (.active r) t (.active (r.onward (.create w))) [⟨p.getCall, some (.error e)⟩]
  | lost {r t w e} (ha : r.await = .reread w) (hf : s.pods.find? p.key = none)
      (ht : s.SameBut (some w) t) :
    Turn p now s (.active r) t (.finished (.error (p.clientError .lookup e)))
      [⟨p.getCall, some (.error e)⟩]
  | created {r w} (ha : r.await = .create w) (hf : s.pods.find? p.key = none)
      (hc : (s.create p.namespace r.pod).1.pods.find? p.key =
        some (r.pod.inNamespace p.namespace)) :
    Turn p now s (.active r) (s.create p.namespace r.pod).1
      (.active (r.onward (.events w { podName := p.name, state := .watching })))
      [⟨.create p.namespace r.pod, some (.ok (r.pod.inNamespace p.namespace))⟩]
  | conflicted {r t w existing e} (ha : r.await = .create w)
      (hf : s.pods.find? p.key = some existing) (ht : s.SameBut none t) :
    Turn p now s (.active r) t (.active (r.onward (.reread w)))
      [⟨.create p.namespace r.pod, some (.error e)⟩]
  | read {r t w watcher e q} (ha : r.await = .events w watcher) (hr : watcher.result = none)
      (hq : s.Listening w p.key (e :: q)) (hq' : t.Listening w p.key q)
      (ht : s.SameBut (some w) t) :
    Turn p now s (.active r) t (.active (r.onward (.events w (watcher.observe e).1))) []
  | idles {r t w watcher} (ha : r.await = .events w watcher) (hr : watcher.result = none)
      (hq : s.Listening w p.key []) (hq' : t.Listening w p.key [])
      (ht : s.SameBut (some w) t) :
    Turn p now s (.active r) t (.active (r.onward r.await)) []
  | decided {r t w watcher o} (ha : r.await = .events w watcher) (hr : watcher.result = some o)
      (ht : s.SameBut (some w) t) :
    Turn p now s (.active r) t (.finished (.ok o)) []

namespace Runner

variable {s t : PodStore} {r : Runner} {now : Instant}

/-- The store has answered a call, and the record ends with it. -/
private theorem answered {c : ClientCall} {b : Bool} {world world' : Recorded PodStore}
    {v : ClientResult c.Value} (hb : b = false)
    (hw : (Recorded.client PodStore.client).poll now c b world = (world', some v)) :
    world'.world = (world.world.call c).1 ∧ (world.world.call c).2 = v ∧
      world'.record.calls = world.record.calls ++ [⟨c, some v⟩] := by
  subst hb
  obtain ⟨rfl, hv⟩ := Prod.mk.inj hw
  have hv : (world.world.call c).2 = v := Option.some.inj hv
  subst hv
  exact ⟨rfl, rfl, rfl⟩

private theorem fetched {w : WatchId} {world world' : Recorded PodStore} {d : Delivery}
    (hn : ((Recorded.client PodStore.client).source w).next world = (world', d)) :
    world'.world = (world.world.next w).1 ∧ (world.world.next w).2 = d ∧
      world'.record.calls = world.record.calls := by
  obtain ⟨rfl, hd⟩ := Prod.mk.inj hn
  exact ⟨rfl, hd, rfl⟩

private theorem world_release (a : ActiveRun) (world : Recorded PodStore) :
    (a.release (Recorded.client PodStore.client) world).world =
      a.release PodStore.client world.world := by
  unfold ActiveRun.release
  split <;> rfl

private theorem turn_failed {a : ActiveRun} {world world' : Recorded PodStore} {c : ClientCall}
    {phase : CallPhase} {e : ClientError} {p : PodStep}
    (hc : p.awaited a.pod a.await = some (c, phase))
    (he : a.await.survives e = false) (hworld : world'.world = (world.world.call c).1)
    (herr : (world.world.call c).2 = .error e)
    (hcalls : world'.record.calls = world.record.calls ++ [⟨c, some (.error e)⟩]) :
    ∃ made, (a.release (Recorded.client PodStore.client) world').record.calls =
        world.record.calls ++ made ∧
      p.Turn now world.world (.active a) (a.release (Recorded.client PodStore.client) world').world
        (.finished (.error (p.clientError phase e))) made := by
  rw [Recorded.record_release, world_release, hworld]
  cases hw : a.await with
  | watch =>
    rw [hw] at hc
    cases hc
    cases herr
  | lookup w =>
    rw [hw] at hc he
    cases hc
    obtain ⟨-, rfl⟩ := PodStore.get_error herr
    cases he
  | create w =>
    rw [hw] at hc he
    cases hc
    obtain ⟨rfl, -⟩ := PodStore.create_error herr
    cases he
  | reread w =>
    rw [hw] at hc
    cases hc
    refine ⟨_, hcalls, .lost hw (PodStore.get_error herr).1 ?_⟩
    have hget : world.world.SameBut (some w) (world.world.get p.namespace p.name).1 :=
      (PodStore.SameBut.get _ _ _).mono
    have hrel := sameBut_release (world.world.get p.namespace p.name).1 a
    rw [show a.watch? = some w from RunStage.watch?_active hw] at hrel
    exact hget.trans hrel
  | events w watcher =>
    rw [hw] at hc
    cases hc

/-- Every small step of a run that attends to the store is one of those listed. -/
theorem turn (ha : Attends s r) (hs : s.Keyed) (now : Instant) :
    ∃ made, (r.tick now s).2.record.calls = r.record.calls ++ made ∧
      r.step.Turn now s r.stage (r.tick now s).1 (r.tick now s).2.stage made := by
  have hm := r.step.tick_moves (Recorded.client PodStore.client) now r.stage ⟨s, r.record⟩
  unfold tick
  dsimp only
  generalize r.step.tick (Recorded.client PodStore.client) now r.stage ⟨s, r.record⟩ = u at hm ⊢
  generalize hstage : r.stage = stage at hm ⊢
  cases hm with
  | refused hp => exact ⟨[], by simp, .refused hp⟩
  | undated hp hg => exact ⟨[], by simp, .undated hg⟩
  | begun hp hg => exact ⟨[], by simp, .begun hp rfl hg rfl⟩
  | interrupted hg _ =>
    obtain ⟨-, -, hstep, -⟩ := ha.active _ hstage
    refine ⟨[], by simp [Recorded.record_release], .cut hg.not_clear ?_ (hstep ▸ hg.wasCut)⟩
    rw [world_release]
    exact sameBut_release s _
  | brokenDown hg _ =>
    refine ⟨[], by simp [Recorded.record_release], .cut (fun hc => hc.1 hg) ?_ trivial⟩
    rw [world_release]
    exact sameBut_release s _
  | rested ho => exact ⟨[], by simp, .rested ho⟩
  -- the store answers every call at once
  | waiting _ _ hw => cases (Prod.mk.inj hw).2
  | failed _ hc he hw =>
    obtain ⟨hworld, herr, hcalls⟩ := answered (ha.active _ hstage).1 hw
    exact turn_failed hc he hworld herr hcalls
  | @opened a _ world' watch _ hw' hw =>
    obtain ⟨hworld, hok, hcalls⟩ := answered (ha.active _ hstage).1 hw
    cases hok
    refine ⟨_, hcalls, ?_⟩
    change r.step.Turn now s _ world'.world (.active (a.onward (.lookup _))) _
    rw [hworld]
    exact .opened hw'
  | @settled _ _ _ w _ _ _ hw' hv hw =>
    obtain ⟨hworld, hok, hcalls⟩ := answered (ha.active _ hstage).1 hw
    have hf := PodStore.get_ok hok
    rw [PodStep.verdictOf_eq (hs _ _ hf)] at hv
    refine ⟨_, hcalls, .settled hw' hf hv ?_⟩
    have hget : s.SameBut (some w) (s.get r.step.namespace r.step.name).1 :=
      (PodStore.SameBut.get _ _ _).mono
    exact hget.trans (hworld ▸ .stop _ _)
  | @resumed a _ _ _ _ _ hw' hv hw =>
    obtain ⟨hworld, hok, hcalls⟩ := answered (ha.active _ hstage).1 hw
    have hf := PodStore.get_ok hok
    rw [PodStep.verdictOf_eq (hs _ _ hf)] at hv
    refine ⟨_, hcalls, .resumed hw' hf hv ?_⟩
    exact hworld ▸ .get s _ _
  | missing _ hw' _ hw =>
    obtain ⟨hworld, herr, hcalls⟩ := answered (ha.active _ hstage).1 hw
    refine ⟨_, hcalls, .missing hw' (PodStore.get_error herr).1 ?_⟩
    exact hworld ▸ .get s _ _
  | @created a _ world' _ _ _ hw' hw =>
    obtain ⟨hworld, hok, hcalls⟩ := answered (ha.active _ hstage).1 hw
    obtain ⟨-, hpod, -⟩ := ha.active _ hstage
    obtain ⟨hf, rfl, hnew⟩ := PodStore.create_ok hok
    rw [PodStep.name_pod hpod] at hf hnew
    refine ⟨_, hcalls, ?_⟩
    change r.step.Turn now s _ world'.world (.active (a.onward (.events _ _))) _
    rw [hworld]
    exact .created hw' hf hnew
  | conflicted _ hw' _ hw =>
    obtain ⟨hworld, herr, hcalls⟩ := answered (ha.active _ hstage).1 hw
    obtain ⟨-, hpod, -⟩ := ha.active _ hstage
    obtain ⟨-, ⟨old, hold⟩, hsame⟩ := PodStore.create_error herr
    rw [PodStep.name_pod hpod] at hold
    exact ⟨_, hcalls, .conflicted hw' hold (hworld ▸ hsame)⟩
  | @read a _ _ w watcher e _ hw' hr hn =>
    obtain ⟨q, hq⟩ := ha.listening w (watch?_of_await hstage hw')
    obtain ⟨hworld, hd, hcalls⟩ := fetched hn
    refine ⟨[], by simpa using hcalls, ?_⟩
    cases q with
    | nil =>
      rw [hq.next_nil.1] at hd
      cases hd
    | cons e' q =>
      rw [hq.next_cons.1] at hd
      cases hd
      have hi := @PodStep.Turn.read r.step now s a _ w watcher e q hw' hr hq
        (hworld ▸ hq.next_cons.2) (hworld ▸ .next s w)
      have hb := (ha.active _ hstage).1
      simpa [ActiveRun.onward, hb] using hi
  | @blocked a _ _ w watcher _ hw' hr hn =>
    obtain ⟨q, hq⟩ := ha.listening w (watch?_of_await hstage hw')
    obtain ⟨hworld, hd, hcalls⟩ := fetched hn
    refine ⟨[], by simpa using hcalls, ?_⟩
    cases q with
    | nil =>
      have hi := @PodStep.Turn.idles r.step now s a _ w watcher hw' hr hq (hworld ▸ hq.next_nil.2)
        (hworld ▸ .next s w)
      have hb := (ha.active _ hstage).1
      simpa [ActiveRun.onward, hb] using hi
    | cons e' q =>
      rw [hq.next_cons.1] at hd
      cases hd
  | @ended a _ _ w _ _ hw' _ hn =>
    obtain ⟨q, hq⟩ := ha.listening w (watch?_of_await hstage hw')
    obtain ⟨-, hd, -⟩ := fetched hn
    cases q with
    | nil =>
      rw [hq.next_nil.1] at hd
      cases hd
    | cons e' q =>
      rw [hq.next_cons.1] at hd
      cases hd
  | decided hw' hr => exact ⟨[], (List.append_nil _).symm, .decided hw' hr (.stop s _)⟩

end Runner

namespace PodStep.Turn

variable {p : PodStep} {now : Instant} {s t : PodStore} {stage stage' : RunStage}
  {made : List Exchange}

/-- What a run changes in the store, apart from its watch: it opens a watch, or creates a pod. -/
theorem changes (h : p.Turn now s stage t stage' made) : s.SameBut stage.watch? t ∨
    (∃ ns o, t = (s.watch ns o).1) ∨ ∃ ns q, t = (s.create ns q).1 := by
  cases h with
  | refused => exact .inl (.refl s)
  | undated => exact .inl (.refl s)
  | begun => exact .inl (.refl s)
  | rested => exact .inl (.refl s)
  | cut _ ht => exact .inl ht
  | opened => exact .inr (.inl ⟨_, _, rfl⟩)
  | settled ha _ _ ht =>
    rw [RunStage.watch?_looking ha]
    exact .inl ht
  | resumed _ _ _ ht => exact .inl ht.mono
  | missing _ _ ht => exact .inl ht.mono
  | lost ha _ ht =>
    rw [RunStage.watch?_looking (.inr ha)]
    exact .inl ht
  | created => exact .inr (.inr ⟨_, _, rfl⟩)
  | conflicted _ _ ht => exact .inl ht.mono
  | read ha _ _ _ ht =>
    rw [RunStage.watch?_active ha]
    exact .inl ht
  | idles ha _ _ _ ht =>
    rw [RunStage.watch?_active ha]
    exact .inl ht
  | decided ha _ ht =>
    rw [RunStage.watch?_active ha]
    exact .inl ht

theorem drifts (h : p.Turn now s stage t stage' made) (hs : s.Keyed) {mine : Option WatchId}
    (hm : ∀ w, mine = some w → stage.watch? ≠ some w) (k : PodKey) : s.Drifts t mine k := by
  rcases h.changes with ht | ⟨ns, o, rfl⟩ | ⟨ns, q, rfl⟩
  · exact ht.drifts hm k
  · exact PodStore.drifts_call hs (.watch ns o) mine k
  · exact PodStore.drifts_call hs (.create ns q) mine k

/-- A run keeps its watch, or lets go of it, or has just opened one. -/
theorem watch?_eq (h : p.Turn now s stage t stage' made) {w : WatchId}
    (hw : stage'.watch? = some w) : stage.watch? = some w ∨ w = ⟨s.watches.length⟩ := by
  cases h with
  | refused => cases hw
  | undated => cases hw
  | begun _ _ _ ha =>
    rw [RunStage.watch?_active ha] at hw
    cases hw
  | rested => exact .inl hw
  | cut _ _ hc =>
    rw [RunStage.watch?_of_isOver hc.isOver] at hw
    cases hw
  | opened => exact .inr (Option.some.inj hw).symm
  | settled => cases hw
  | resumed ha => exact .inl ((RunStage.watch?_looking ha).trans hw)
  | missing ha => exact .inl ((RunStage.watch?_active ha).trans hw)
  | lost => cases hw
  | created ha => exact .inl ((RunStage.watch?_active ha).trans hw)
  | conflicted ha => exact .inl ((RunStage.watch?_active ha).trans hw)
  | read ha => exact .inl ((RunStage.watch?_active ha).trans hw)
  | idles => exact .inl hw
  | decided => cases hw

/-- What a run can do that waits for events: it is cut, reads an event, finds none, or returns. -/
theorem of_events {r : ActiveRun} {w : WatchId} {watcher : CompletionWatcher} {q : List WatchEvent}
    (h : p.Turn now s (.active r) t stage' made) (ha : r.await = .events w watcher)
    (hq : s.Listening w p.key q) : stage'.WasCut p.sectionName ∨ t.pods = s.pods ∧
      ((∃ e q', q = e :: q' ∧ watcher.result = none ∧ t.Listening w p.key q' ∧
          stage' = .active (r.onward (.events w (watcher.observe e).1))) ∨
        (q = [] ∧ watcher.result = none ∧ t.Listening w p.key [] ∧
          stage' = .active (r.onward r.await)) ∨
        ∃ o, watcher.result = some o ∧ stage' = .finished (.ok o)) := by
  cases h with
  | rested ho => cases ho
  | cut _ _ hc => exact .inl hc
  | read ha' hr hq₀ hq' ht =>
    rw [ha] at ha'
    cases ha'
    exact .inr ⟨ht.pods, .inl ⟨_, _, hq.unique hq₀, hr, hq', rfl⟩⟩
  | idles ha' hr hq₀ hq' ht =>
    rw [ha] at ha'
    cases ha'
    exact .inr ⟨ht.pods, .inr (.inl ⟨hq.unique hq₀, hr, hq', rfl⟩)⟩
  | decided ha' hr ht =>
    rw [ha] at ha'
    cases ha'
    exact .inr ⟨ht.pods, .inr (.inr ⟨_, hr, rfl⟩)⟩
  | settled ha' | resumed ha' =>
    rw [ha] at ha'
    rcases ha' with ha' | ha' <;> cases ha'
  | opened ha' | missing ha' | lost ha' | created ha' | conflicted ha' =>
    rw [ha] at ha'
    cases ha'

/-- A run creates a pod only where it has found none. -/
theorem of_creates (h : p.Turn now s stage t stage' made) {k : PodKey}
    (hc : made.any (·.creates k)) : ∃ r w, stage = .active r ∧ r.await = .create w ∧
      s.pods.find? p.key = none ∧ t = (s.create p.namespace r.pod).1 ∧
      t.pods.find? p.key = some (r.pod.inNamespace p.namespace) ∧ k = ⟨p.namespace, r.pod.name⟩ ∧
      stage' = .active (r.onward (.events w { podName := p.name, state := .watching })) := by
  cases h with
  | created ha hf hnew =>
    refine ⟨_, _, rfl, ha, hf, rfl, hnew, ?_, rfl⟩
    simpa [Exchange.creates] using hc
  | _ => cases hc

/-- A run that is over stays as it is. -/
theorem of_isOver (h : p.Turn now s stage t stage' made) (ho : stage.isOver) :
    t = s ∧ stage' = stage := by
  cases h with
  | rested => exact ⟨rfl, rfl⟩
  | _ => cases ho

end PodStep.Turn

/-- A small step of the run. -/
theorem Runner.Attends.turn {p : PodStep} {now : Instant} {s t : PodStore}
    {stage stage' : RunStage} {rec rec' : Record} {made : List Exchange}
    (h : Attends s ⟨p, stage, rec⟩) (hs : s.Keyed) (ht : p.Turn now s stage t stage' made) :
    Attends t ⟨p, stage', rec'⟩ := by
  cases ht with
  | refused => exact of_isOver rfl
  | undated => exact of_isOver rfl
  | rested ho => exact of_isOver ho
  | cut _ _ hc => exact of_isOver hc.isOver
  | settled => exact of_isOver rfl
  | lost => exact of_isOver rfl
  | decided => exact of_isOver rfl
  | begun hp hb hg ha =>
    refine ⟨fun w hw => ?_, fun b he => ?_⟩
    · rw [watch?, RunStage.watch?_active ha] at hw
      cases hw
    · cases he
      refine ⟨hb, hp, RunGuard.step_start? hg, fun w watcher he => ?_⟩
      rw [ha] at he
      cases he
  | opened ha =>
    refine h.onward (fun w hw => ?_) (by simp)
    cases hw
    exact ⟨[], PodStore.listening_watch s p.key⟩
  | resumed ha _ _ ht =>
    refine h.onward (h.listening_same (RunStage.watch?_looking ha) ht) fun w watcher he => ?_
    cases he
    rfl
  | missing ha _ ht =>
    exact h.onward (h.listening_same ((RunStage.watch?_active ha).trans rfl) ht) (by simp)
  | conflicted ha _ ht =>
    exact h.onward (h.listening_same ((RunStage.watch?_active ha).trans rfl) ht) (by simp)
  | @created a _ ha =>
    refine h.onward (fun w hw => ?_) fun w watcher he => ?_
    · obtain ⟨q, hq⟩ := h.listening w ((RunStage.watch?_active ha).trans hw)
      obtain ⟨news, -, hn⟩ := PodStore.drifts_call hs (.create p.namespace a.pod) (some w) p.key
      exact ⟨q ++ news, hn w q rfl hq⟩
    · cases he
      rfl
  | @read a _ _ watcher e _ ha _ _ hq =>
    have hname := (h.active a rfl).2.2.2 _ _ ha
    refine h.onward (fun w hw => ?_) fun w watcher' he => ?_
    · cases hw
      exact ⟨_, hq⟩
    · cases he
      exact (watcher.podName_observe e).trans hname
  | @idles a _ _ _ ha _ _ hq =>
    have hname := (h.active a rfl).2.2.2
    refine h.onward (fun w hw => ?_) hname
    rw [ha] at hw
    cases hw
    exact ⟨_, hq⟩

end PodPipeline
