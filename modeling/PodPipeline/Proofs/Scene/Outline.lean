import PodPipeline.Proofs.Scene.Calm
import PodPipeline.Proofs.Scene.Log
import PodPipeline.Proofs.Store.Outline

/-! One small step of a run in two worlds that are the same up to the outlines of pods. Of a pod
that the run finds, only the name, the namespace and the status count for what it does. -/
namespace PodPipeline

/-- Two worlds are the same up to the outlines of pods, and the same calls were made in both. -/
structure Recorded.SameOutline (x y : Recorded PodStore) : Prop where
  store : y.world.outline = x.world.outline
  calls : y.record.calls.map (·.call) = x.record.calls.map (·.call)

/-- Two small steps come out the same, but for a warning. -/
structure RunTick.Agrees (t u : RunTick (Recorded PodStore)) : Prop where
  world : t.world.SameOutline u.world
  stage : u.stage = t.stage
  log : u.log.filter (!·.isDrift) = t.log.filter (!·.isDrift)

namespace Recorded.SameOutline

variable {x y : Recorded PodStore}

theorem poll (h : x.SameOutline y) {c : ClientCall}
    (hc : (y.world.call c).1.outline = (x.world.call c).1.outline) (now : Instant) (begun : Bool) :
    ((Recorded.client PodStore.client).poll now c begun x).1.SameOutline
      ((Recorded.client PodStore.client).poll now c begun y).1 where
  store := hc
  calls := by
    cases begun with
    | false => simp [Recorded.client, Recorded.poll, h.calls]
    | true => simp [Recorded.client, Recorded.poll, List.map_dropLast, h.calls]

theorem stop (h : x.SameOutline y) (w : WatchId) :
    (((Recorded.client PodStore.client).source w).stop x).SameOutline
      (((Recorded.client PodStore.client).source w).stop y) where
  store := by
    change (y.world.stop w).outline = (x.world.stop w).outline
    rw [PodStore.outline_stop, PodStore.outline_stop, h.store]
  calls := h.calls

theorem release (h : x.SameOutline y) (r : ActiveRun) :
    (r.release (Recorded.client PodStore.client) x).SameOutline
      (r.release (Recorded.client PodStore.client) y) := by
  unfold ActiveRun.release
  split
  · exact h.stop _
  · exact h

/-- The next events of a watch are the same up to the outlines of pods. -/
theorem next (h : x.SameOutline y) (w : WatchId) :
    (((Recorded.client PodStore.client).source w).next x).1.SameOutline
        (((Recorded.client PodStore.client).source w).next y).1 ∧
      (y.world.next w).2.outline = (x.world.next w).2.outline := by
  have hnext := y.world.next_outline w
  rw [h.store, x.world.next_outline w] at hnext
  obtain ⟨hstore, hd⟩ := Prod.mk.inj hnext
  exact ⟨⟨hstore.symm, h.calls⟩, hd.symm⟩

theorem get (h : x.SameOutline y) (ns name : String) :
    (y.world.get ns name).1.outline = (x.world.get ns name).1.outline ∧
      (y.world.get ns name).2.map (·.outline) = (x.world.get ns name).2.map (·.outline) := by
  have hget := y.world.get_outline ns name
  rw [h.store, x.world.get_outline] at hget
  obtain ⟨hstore, ha⟩ := Prod.mk.inj hget
  exact ⟨hstore.symm, ha.symm⟩

theorem create (h : x.SameOutline y) (ns : String) (p : Pod) :
    (y.world.create ns p).1.outline = (x.world.create ns p).1.outline ∧
      (y.world.create ns p).2.map (·.outline) = (x.world.create ns p).2.map (·.outline) := by
  have hcreate := y.world.create_outline ns p
  rw [h.store, x.world.create_outline] at hcreate
  obtain ⟨hstore, ha⟩ := Prod.mk.inj hcreate
  exact ⟨hstore.symm, ha.symm⟩

theorem watch (h : x.SameOutline y) (ns : String) (o : ListOptions) :
    (y.world.watch ns o).1.outline = (x.world.watch ns o).1.outline ∧
      (y.world.watch ns o).2 = (x.world.watch ns o).2 := by
  have hwatch := y.world.watch_outline ns o
  rw [h.store, x.world.watch_outline] at hwatch
  obtain ⟨hstore, ha⟩ := Prod.mk.inj hwatch
  exact ⟨hstore.symm, ha.symm⟩

end Recorded.SameOutline

theorem ActiveRun.outline_release (r : ActiveRun) (s : PodStore) :
    (r.release PodStore.client s).outline = r.release PodStore.client s.outline := by
  unfold release
  split
  · exact s.outline_stop _
  · rfl

/-- Two answers that are the same up to the outlines of pods. -/
inductive PodAnswers : ClientResult Pod → ClientResult Pod → Prop where
  | failed (e : ClientError) : PodAnswers (.error e) (.error e)
  | answered {p q : Pod} (h : q.outline = p.outline) : PodAnswers (.ok p) (.ok q)

theorem PodAnswers.of_map {a b : ClientResult Pod}
    (h : b.map (·.outline) = a.map (·.outline)) : PodAnswers a b := by
  cases a with
  | error e =>
    cases b with
    | error f =>
      cases h
      exact .failed e
    | ok q => cases h
  | ok p =>
    cases b with
    | error f => cases h
    | ok q => exact .answered (Except.ok.inj h)

namespace CompletionWatcher

/-- A watcher takes the same from events that are the same up to the outlines of pods. -/
theorem observe_outline (w : CompletionWatcher) (e : WatchEvent) :
    w.observe e.outline = w.observe e := by
  have hv := e.verdict_outline w.podName
  cases e <;> simp_all [observe, WatchEvent.outline]

end CompletionWatcher

namespace PodStep

variable {s : PodStep} {r : ActiveRun} {x y : Recorded PodStore} {now : Instant}
  {stage : RunStage}

/-- The first look at a pod, but for a warning. -/
theorem resume_outline (s : PodStep) (desired p : Pod) :
    (s.resume desired p.outline).1 = (s.resume desired p).1 ∧
      (s.resume desired p.outline).2.filter (!·.isDrift) =
        (s.resume desired p).2.filter (!·.isDrift) := by
  have hdrift (same : Bool) (name : String) :
      (if same then [] else [LogEvent.otherConfiguration s.sectionName name]).filter (!·.isDrift) =
        [] := by
    cases same <;> rfl
  refine ⟨rfl, ?_⟩
  simp only [resume, List.filter_cons, List.filter_append, hdrift]
  rfl

theorem adopt_agrees {p q : Pod} (hq : q.outline = p.outline) (h : x.SameOutline y) (w : WatchId)
    (g : RunGuard) :
    (s.adopt (Recorded.client PodStore.client) r w p g x).Agrees
      (s.adopt (Recorded.client PodStore.client) r w q g y) := by
  obtain ⟨hwatcher, hlog⟩ := s.resume_outline r.pod p
  obtain ⟨hwatcher', hlog'⟩ := s.resume_outline r.pod q
  rw [hq] at hwatcher' hlog'
  have hw : (s.resume r.pod q).1 = (s.resume r.pod p).1 := hwatcher'.symm.trans hwatcher
  have hl : (s.resume r.pod q).2.filter (!·.isDrift) = (s.resume r.pod p).2.filter (!·.isDrift) :=
    hlog'.symm.trans hlog
  unfold adopt
  dsimp only
  rw [hw]
  cases (s.resume r.pod p).1.result with
  | some o => exact ⟨h.stop w, rfl, hl⟩
  | none => exact ⟨h, rfl, hl⟩

theorem call_agrees (h : x.SameOutline y) {c : ClientCall}
    (hc : (y.world.call c).1.outline = (x.world.call c).1.outline)
    {answered : RunGuard → Recorded PodStore → ClientResult c.Value → RunTick (Recorded PodStore)}
    (ha : ∀ x' y', x'.SameOutline y' → (answered r.guard.settle x' (x.world.call c).2).Agrees
      (answered r.guard.settle y' (y.world.call c).2)) :
    (r.call (Recorded.client PodStore.client) now c x answered).Agrees
      (r.call (Recorded.client PodStore.client) now c y answered) := by
  rcases r.guard.clear_or_cut now with hclear | ⟨e, event, hi⟩ | hs
  · rw [ActiveRun.call_of_clear hclear rfl, ActiveRun.call_of_clear hclear rfl]
    exact ha _ _ (h.poll hc now r.begun)
  · unfold ActiveRun.call
    rw [RunGuard.poll_of_interrupts hi, RunGuard.poll_of_interrupts hi]
    exact ⟨h.release r, rfl, rfl⟩
  · unfold ActiveRun.call
    rw [RunGuard.poll_of_spent hs, RunGuard.poll_of_spent hs]
    exact ⟨h.release r, rfl, rfl⟩

theorem events_agrees (h : x.SameOutline y) {w : WatchId} {watcher : CompletionWatcher}
    (ha : r.await = .events w watcher) :
    (s.advance (Recorded.client PodStore.client) now r x).Agrees
      (s.advance (Recorded.client PodStore.client) now r y) := by
  unfold advance Wait.tick Wait.finish
  rw [ha]
  dsimp only
  cases watcher.result with
  | some o => exact ⟨h.stop w, rfl, rfl⟩
  | none =>
    dsimp only
    rcases r.guard.clear_or_cut now with hclear | ⟨e, event, hi⟩ | hs
    · obtain ⟨hworld, hd⟩ := h.next w
      rw [RunGuard.poll_of_clear hclear, RunGuard.poll_of_clear hclear]
      have hnext (x : Recorded PodStore) : ((Recorded.client PodStore.client).source w).next x =
          ((((Recorded.client PodStore.client).source w).next x).1, (x.world.next w).2) := rfl
      unfold EventSource.read
      rw [hnext x, hnext y]
      generalize (x.world.next w).2 = d at hd ⊢
      generalize (y.world.next w).2 = d' at hd ⊢
      cases d with
      | event e =>
        cases d' with
        | event e' =>
          have he : e'.outline = e.outline := Delivery.event.inj hd
          have hobserve : watcher.observe e' = watcher.observe e := by
            rw [← watcher.observe_outline e', he, watcher.observe_outline]
          simp only [Option.map_some, Option.getD_some, hobserve]
          exact ⟨hworld, rfl, rfl⟩
        | ended | pending => cases hd
      | ended =>
        cases d' with
        | ended => exact ⟨hworld.stop w, rfl, rfl⟩
        | event | pending => cases hd
      | pending =>
        cases d' with
        | pending => exact ⟨hworld, rfl, rfl⟩
        | event | ended => cases hd
    · rw [RunGuard.poll_of_interrupts hi, RunGuard.poll_of_interrupts hi]
      exact ⟨h.stop w, rfl, rfl⟩
    · rw [RunGuard.poll_of_spent hs, RunGuard.poll_of_spent hs]
      exact ⟨h.stop w, rfl, rfl⟩

/-- A run that is under way does the same in worlds that are the same up to the outlines of pods. -/
theorem advance_agrees (h : x.SameOutline y) (s : PodStep) (now : Instant) (r : ActiveRun) :
    (s.advance (Recorded.client PodStore.client) now r x).Agrees
      (s.advance (Recorded.client PodStore.client) now r y) := by
  cases ha : r.await with
  | watch =>
    obtain ⟨hc, hw⟩ := h.watch s.namespace ⟨some s.name⟩
    unfold advance
    rw [ha]
    refine call_agrees (c := s.watchCall) h hc fun x' y' h' => ?_
    change (r.goTo _ (.lookup (x.world.watch _ _).2) x').Agrees
      (r.goTo _ (.lookup (y.world.watch _ _).2) y')
    rw [hw]
    exact ⟨h', rfl, rfl⟩
  | lookup w =>
    obtain ⟨hc, hget⟩ := h.get s.namespace s.name
    have hanswers : PodAnswers (x.world.call s.getCall).2 (y.world.call s.getCall).2 := .of_map hget
    unfold advance
    rw [ha]
    refine call_agrees (c := s.getCall) h hc fun x' y' h' => ?_
    generalize (x.world.call s.getCall).2 = a at hanswers ⊢
    generalize (y.world.call s.getCall).2 = b at hanswers ⊢
    cases hanswers with
    | answered hq => exact adopt_agrees hq h' w _
    | failed e =>
      dsimp only
      split
      · exact ⟨h', rfl, rfl⟩
      · exact ⟨h'.stop w, rfl, rfl⟩
  | create w =>
    obtain ⟨hc, hcreate⟩ := h.create s.namespace r.pod
    have hanswers : PodAnswers (x.world.call (.create s.namespace r.pod)).2
        (y.world.call (.create s.namespace r.pod)).2 := .of_map hcreate
    unfold advance
    rw [ha]
    refine call_agrees (c := .create s.namespace r.pod) h hc fun x' y' h' => ?_
    generalize (x.world.call (.create s.namespace r.pod)).2 = a at hanswers ⊢
    generalize (y.world.call (.create s.namespace r.pod)).2 = b at hanswers ⊢
    cases hanswers with
    | answered hq => exact ⟨h', rfl, rfl⟩
    | failed e =>
      dsimp only
      split
      · exact ⟨h', rfl, rfl⟩
      · exact ⟨h'.stop w, rfl, rfl⟩
  | reread w =>
    obtain ⟨hc, hget⟩ := h.get s.namespace s.name
    have hanswers : PodAnswers (x.world.call s.getCall).2 (y.world.call s.getCall).2 := .of_map hget
    unfold advance
    rw [ha]
    refine call_agrees (c := s.getCall) h hc fun x' y' h' => ?_
    generalize (x.world.call s.getCall).2 = a at hanswers ⊢
    generalize (y.world.call s.getCall).2 = b at hanswers ⊢
    cases hanswers with
    | answered hq => exact adopt_agrees hq h' w _
    | failed e => exact ⟨h'.stop w, rfl, rfl⟩
  | events w watcher => exact events_agrees h ha

theorem tick_agrees (h : x.SameOutline y) (s : PodStep) (now : Instant) (stage : RunStage) :
    (s.tick (Recorded.client PodStore.client) now stage x).Agrees
      (s.tick (Recorded.client PodStore.client) now stage y) := by
  cases stage with
  | idle ctx =>
    change (s.begin ctx now x).Agrees (s.begin ctx now y)
    unfold begin
    cases s.pod with
    | error fault => exact ⟨h, rfl, rfl⟩
    | ok pod =>
      cases RunGuard.start? s.sectionName ctx now with
      | none => exact ⟨h, rfl, rfl⟩
      | some guard => exact ⟨h, rfl, rfl⟩
  | active r => exact advance_agrees h s now r
  | finished | aborted => exact ⟨h, rfl, rfl⟩

end PodStep

end PodPipeline
