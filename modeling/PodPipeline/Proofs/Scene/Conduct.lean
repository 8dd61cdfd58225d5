import PodPipeline.Proofs.Scene.Runner
import PodPipeline.Proofs.Store.Mirror

/-! What a run does at a store depends on what the store shows of its pod, and leaves the pods of
others alone. -/
namespace PodPipeline

/-- A call with its answer, but for the name of the watch. -/
def Exchange.erase (x : Exchange) : Exchange :=
  match x with
  | ⟨.watch ns o, some (.ok _)⟩ => ⟨.watch ns o, some (.ok ⟨0⟩)⟩
  | x => x

/-- Two runs have made the same calls, with the same answers, and have read the same events. -/
structure Record.Alike (a b : Record) : Prop where
  calls : b.calls.map (·.erase) = a.calls.map (·.erase)
  events : b.events = a.events

theorem Record.Alike.poll {a b : Record} (h : a.Alike b) (begun : Bool) {x y : Exchange}
    (hxy : y.erase = x.erase) :
    Record.Alike { a with calls := (if begun then a.calls.dropLast else a.calls) ++ [x] }
      { b with calls := (if begun then b.calls.dropLast else b.calls) ++ [y] } where
  calls := by
    cases begun with
    | false => simp [h.calls, hxy]
    | true => simp [List.map_dropLast, h.calls, hxy]
  events := h.events

/-- Two worlds show the same of the pod at `k` and of the watches `held`, and have the same record.
-/
structure Recorded.Mirrors (k : PodKey) (held : Held) (x y : Recorded PodStore) : Prop where
  store : x.world.Mirrors k held y.world
  record : x.record.Alike y.record

namespace Recorded.Mirrors

variable {k : PodKey} {held : Held} {x y : Recorded PodStore}

theorem call (h : Mirrors k held x y) {c : ClientCall}
    (ha : (y.world.call c).2 = (x.world.call c).2)
    (hs : (x.world.call c).1.Mirrors k held (y.world.call c).1) (now : Instant) (begun : Bool) :
    AnswersAlike (Mirrors k) held (fun p q held' => q = p ∧ held' = held)
      ((Recorded.client PodStore.client).poll now c begun x)
      ((Recorded.client PodStore.client).poll now c begun y) := by
  have hpoll (x : Recorded PodStore) : (Recorded.client PodStore.client).poll now c begun x =
      ({ world := (x.world.call c).1
         record := { x.record with
           calls := (if begun then x.record.calls.dropLast else x.record.calls) ++
             [⟨c, some (x.world.call c).2⟩] } }, some (x.world.call c).2) := rfl
  rw [hpoll, hpoll, ha]
  have hrecord := h.record.poll begun (x := ⟨c, some (x.world.call c).2⟩) rfl
  cases hans : (x.world.call c).2 with
  | error e =>
    rw [hans] at hrecord
    exact .failed ⟨hs, hrecord⟩
  | ok v =>
    rw [hans] at hrecord
    exact .answered ⟨rfl, rfl⟩ ⟨hs, hrecord⟩

theorem next {w v : WatchId} (h : Mirrors k (some (w, v)) x y) :
    (((Recorded.client PodStore.client).source v).next y).2 =
        (((Recorded.client PodStore.client).source w).next x).2 ∧
      Mirrors k (some (w, v)) (((Recorded.client PodStore.client).source w).next x).1
        (((Recorded.client PodStore.client).source v).next y).1 := by
  obtain ⟨hd, hs⟩ := h.store.next
  refine ⟨hd, hs, h.record.calls, ?_⟩
  change y.record.events ++ (y.world.next v).2.event?.toList =
    x.record.events ++ (x.world.next w).2.event?.toList
  rw [hd, h.record.events]

end Recorded.Mirrors

/-- The store and the record look the same to two runs of a step. -/
theorem likeness_mirrors (now : Instant) {s : PodStep} {pod : Pod} (hp : s.pod = .ok pod) :
    Likeness (Recorded.client PodStore.client) (Recorded.client PodStore.client) now s pod
      (Recorded.Mirrors s.key) where
  watch begun x y h := .answered rfl ⟨h.store.opened, h.record.poll begun rfl⟩
  get held begun x y h := by
    obtain ⟨ha, hs⟩ := h.store.get
    exact h.call (c := s.getCall) ha hs now begun
  create held begun x y h := by
    obtain ⟨ha, hs⟩ := h.store.create (PodStep.name_pod hp)
    exact h.call (c := .create s.namespace pod) ha hs now begun
  next w v x y h := h.next
  stop w v x y h := ⟨h.store.stop, h.record⟩

/-! One run among others. -/

theorem RunStage.Twins.watch?_eq {held : Held} {stage stage' : RunStage}
    (h : stage.Twins held stage') :
    stage.watch? = held.map (·.1) ∧ stage'.watch? = held.map (·.2) := by
  cases h with
  | idle => exact ⟨rfl, rfl⟩
  | ended ho => simp [watch?_of_isOver ho]
  | @active _ r r' h =>
    have hawait := h.await
    rw [watch?_active (r := r) rfl, watch?_active (r := r') rfl]
    generalize r.await = await, r'.await = await' at hawait ⊢
    cases hawait with
    | watch | lookup | create | reread | events => exact ⟨rfl, rfl⟩

/-- If one of the runs has ended, then so has the other, and in the same way. -/
theorem RunStage.Twins.ended_iff {held : Held} {stage stage' ending : RunStage}
    (h : stage.Twins held stage') (he : ending.isOver) : stage' = ending ↔ stage = ending := by
  cases h with
  | ended => rfl
  | idle | active =>
    constructor
    all_goals
      rintro rfl
      cases he

theorem RunStage.twins_self (stage : RunStage) :
    stage.Twins (stage.watch?.map fun w => (w, w)) stage := by
  cases stage with
  | idle ctx => exact .idle
  | finished | aborted => exact .ended rfl
  | active r =>
    refine .active ⟨rfl, rfl, ?_⟩ rfl
    rw [watch?_active (r := r) rfl]
    cases r.await with
    | watch => exact .watch
    | lookup => exact .lookup
    | create => exact .create
    | reread => exact .reread
    | events => exact .events

theorem RunStage.Twins.mapSignal {held : Held} {stage stage' : RunStage}
    (h : stage.Twins held stage') (f : CancelSignal → CancelSignal) :
    (stage.mapSignal f).Twins held (stage'.mapSignal f) := by
  cases h with
  | idle => exact .idle
  | ended ho => exact .ended (by rwa [isOver_mapSignal])
  | active h hg => exact .active ⟨h.pod, h.begun, h.await⟩ (by simp only [hg])

theorem PodStore.Mirrors.release {k : PodKey} {held : Held} {s t : PodStore} {r r' : ActiveRun}
    (h : s.Mirrors k held t) (hr : r.Like held r') :
    (r.release PodStore.client s).Mirrors k none (r'.release PodStore.client t) := by
  obtain ⟨pod, g, await, begun⟩ := r
  obtain ⟨pod', g', await', begun'⟩ := r'
  cases hr.await with
  | watch => exact h
  | lookup | create | reread | events => exact h.stop

theorem PodStore.Yields.release {s : PodStore} (hs : s.Keyed) (a : ActiveRun) {k : PodKey} :
    s.Yields a.watch? k (a.release PodStore.client s) := by
  unfold ActiveRun.release
  split
  · rename_i w hw
    rw [hw]
    exact (PodStore.Yields.refl hs).stop
  · exact .refl hs

/-- A run at one store and a run at another have come to the same, and the stores show the same of
their pods. -/
structure Runner.Reflects (held : Held) (s t : PodStore) (r r' : Runner) : Prop where
  step : r'.step = r.step
  stage : r.stage.Twins held r'.stage
  store : s.Mirrors r.key held t
  record : r.record.Alike r'.record

namespace Runner

variable {s t : PodStore} {r r' : Runner} {held : Held} {w : WatchId}
  {f : Runner → PodStore → PodStore × Runner}

theorem Reflects.held_of_watch? (h : r.Reflects held s t r') (hw : r.watch? = some w) :
    ∃ v, held = some (w, v) := by
  obtain ⟨⟨w', v⟩, hsome, rfl⟩ := Option.map_eq_some_iff.mp (h.stage.watch?_eq.1.symm.trans hw)
  exact ⟨v, hsome⟩

theorem Reflects.watch?_of_held {v : WatchId} (h : r.Reflects held s t r')
    (hh : held = some (w, v)) : r.watch? = some w := by
  subst hh
  exact h.stage.watch?_eq.1

/-- The watches of the two runs are in the same state. -/
theorem Reflects.channel?_eq (h : r.Reflects held s t r') :
    r'.watch?.map t.channel? = r.watch?.map s.channel? := by
  obtain ⟨hw, hw'⟩ := h.stage.watch?_eq
  unfold watch?
  rw [hw, hw']
  cases held with
  | none => rfl
  | some p =>
    obtain ⟨c, hc, hc'⟩ := h.store.watch p.1 p.2 rfl
    simp only [Option.map_some, hc.channel?, hc'.channel?]

/-- The run holds a watch for its pod, if any, and has the pod of its step. -/
structure Posted (s : PodStore) (r : Runner) : Prop where
  watch : ∀ w, r.watch? = some w → s.Registered w r.key
  pod : ∀ a, r.stage = .active a → r.step.pod = .ok a.pod

theorem Posted.reflects_self (h : r.Posted s) :
    r.Reflects (r.watch?.map fun w => (w, w)) s s r := by
  refine ⟨rfl, r.stage.twins_self, ⟨rfl, fun w v hw => ?_⟩, rfl, rfl⟩
  obtain ⟨w', hw', heq⟩ := Option.map_eq_some_iff.mp hw
  cases heq
  obtain ⟨c, hc⟩ := h.watch w hw'
  exact ⟨c, hc, hc⟩

/-- What a run does at a store leaves the pods of others alone, and depends on nothing but what the
store shows of its own. -/
structure Sound (f : Runner → PodStore → PodStore × Runner) : Prop where
  step : ∀ (r : Runner) (s : PodStore), (f r s).2.step = r.step
  pod : ∀ (r : Runner) (s : PodStore), r.Posted s → ∀ a, (f r s).2.stage = .active a →
    r.step.pod = .ok a.pod
  yields : ∀ (r : Runner) (s : PodStore), s.Keyed → r.Posted s → s.Yields r.watch? r.key (f r s).1
  reflects : ∀ (held : Held) (s t : PodStore) (r r' : Runner), r.Posted s →
    r.Reflects held s t r' → ∃ held', (f r s).2.Reflects held' (f r s).1 (f r' t).1 (f r' t).2

theorem Sound.key (hf : Sound f) (r : Runner) (s : PodStore) : (f r s).2.key = r.key :=
  congrArg PodStep.key (hf.step r s)

theorem Sound.posted (hf : Sound f) (h : r.Posted s) : (f r s).2.Posted (f r s).1 where
  watch w hw := by
    obtain ⟨held, hr⟩ := hf.reflects _ s s r r h h.reflects_self
    obtain ⟨v, hheld⟩ := hr.held_of_watch? hw
    obtain ⟨c, hc, -⟩ := hr.store.watch w v hheld
    exact ⟨c, hc⟩
  pod a ha := by
    rw [hf.step]
    exact hf.pod r s h a ha

theorem sound_tick (now : Instant) : Sound (·.tick now) where
  step r s := rfl
  pod r s hr a ha := by
    have hm := r.step.tick_moves (Recorded.client PodStore.client) now r.stage ⟨s, r.record⟩
    exact hm.pod hr.pod ha
  yields r s hs hr := by
    have hm := r.step.tick_moves (Recorded.client PodStore.client) now r.stage ⟨s, r.record⟩
    refine hm.keeps (P := fun x => s.Yields r.watch? r.key x.world) ?_ ?_ (.refl hs)
    · intro a c phase hc ha x hx
      refine hx.call (c := c) ?_
      have hp := PodStep.name_pod (hr.pod a ha)
      rcases PodStep.awaited_eq hc with rfl | rfl | rfl
      · rfl
      · rfl
      · change (⟨r.step.namespace, a.pod.name⟩ : PodKey) = _
        rw [hp]
        rfl
    · intro a w hw ha x hx
      have hown : r.watch? = some w := by
        unfold watch?
        rw [ha]
        exact hw
      rw [hown] at hx ⊢
      exact ⟨hx.next, hx.stop⟩
  reflects held s t r r' hr h := by
    obtain ⟨step, stage, rec⟩ := r
    obtain ⟨step', stage', rec'⟩ := r'
    obtain rfl : step' = step := h.step
    obtain ⟨held', hworld, hstage⟩ := PodStep.tick_alike
      (fun _ hp => likeness_mirrors now hp) hr.pod h.stage
      (⟨h.store, h.record⟩ : Recorded.Mirrors step'.key held ⟨s, rec⟩ ⟨t, rec'⟩)
    exact ⟨held', rfl, hstage, hworld.store, hworld.record⟩

theorem sound_signal (g : CancelSignal → CancelSignal) :
    Sound fun r s => (s, r.signal g) where
  step r s := rfl
  pod r s hr a ha := by
    obtain ⟨b, hb, rfl⟩ := RunStage.mapSignal_eq_active ha
    exact hr.pod b hb
  yields r s hs hr := .refl hs
  reflects held s t r r' hr h := ⟨held, h.step, h.stage.mapSignal g, h.store, h.record⟩

theorem drop_of_isOver (h : r.stage.isOver) : r.drop s = (s, r) := if_pos h

theorem sound_drop : Sound (·.drop) where
  step r s := by
    unfold drop
    split <;> rfl
  pod r s hr a ha := by
    unfold drop at ha
    split at ha
    · exact hr.pod a ha
    · cases ha
  yields r s hs hr := by
    obtain ⟨step, stage, rec⟩ := r
    cases stage with
    | idle | finished | aborted => exact .refl hs
    | active a => exact .release hs a
  reflects held s t r r' hr h := by
    obtain ⟨step, stage, rec⟩ := r
    obtain ⟨step', stage', rec'⟩ := r'
    obtain rfl : step' = step := h.step
    cases h.stage with
    | idle => exact ⟨none, rfl, .ended rfl, h.store, h.record⟩
    | active hlike hg => exact ⟨none, rfl, .ended rfl, h.store.release hlike, h.record⟩
    | ended ho =>
      rw [drop_of_isOver (r := ⟨step', stage, rec⟩) ho, drop_of_isOver (r := ⟨_, _, rec'⟩) ho]
      exact ⟨none, h⟩

end Runner

end PodPipeline
