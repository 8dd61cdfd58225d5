import PodPipeline.Proofs.Pod.Drift
import PodPipeline.Proofs.Scene.Outline

/-! Two scenes in which the same happens up to the outlines of pods: the runs do the same in both.
What they log differs by the warnings alone, and these are exact. -/
namespace PodPipeline

/-- What a run shows: what it has come to and which calls it has made. -/
def Runner.outline (r : Runner) : PodStep × RunStage × List ClientCall :=
  (r.step, r.stage, r.record.calls.map (·.call))

def Act.outline : Act → Act
  | .other a => .other a.outline
  | a => a

theorem Act.outline_cases {a b : Act} (h : b.outline = a.outline) :
    b = a ∨ ∃ x y, a = .other x ∧ b = .other y ∧ y.outline = x.outline := by
  cases a <;> cases b <;> simp_all [outline]

theorem StoreAct.watch?_outline (a : StoreAct) : a.outline.watch? = a.watch? := by
  cases a <;> rfl

/-- Both runs show the same, and leave the same of their stores. -/
def Runner.Does (f : Runner → PodStore → PodStore × Runner) : Prop :=
  ∀ (r r' : Runner) (s t : PodStore), r'.outline = r.outline → t.outline = s.outline →
    (f r' t).1.outline = (f r s).1.outline ∧ (f r' t).2.outline = (f r s).2.outline

namespace Runner

variable {r r' : Runner} {s t : PodStore}

theorem sameOutline (h : r'.outline = r.outline) (hs : t.outline = s.outline) :
    Recorded.SameOutline ⟨s, r.record⟩ ⟨t, r'.record⟩ :=
  ⟨hs, congrArg (·.2.2) h⟩

theorem tick_agrees (h : r'.outline = r.outline) (hs : t.outline = s.outline) (now : Instant) :
    RunTick.Agrees
      (r.step.tick (Recorded.client PodStore.client) now r.stage ⟨s, r.record⟩)
      (r'.step.tick (Recorded.client PodStore.client) now r'.stage ⟨t, r'.record⟩) := by
  obtain ⟨hstep, hstage⟩ : r'.step = r.step ∧ r'.stage = r.stage :=
    ⟨congrArg (·.1) h, congrArg (·.2.1) h⟩
  rw [hstep, hstage]
  exact PodStep.tick_agrees (sameOutline h hs) r.step now r.stage

theorem does_tick (now : Instant) : Does (·.tick now) := by
  intro r r' s t h hs
  obtain ⟨⟨hstore, hcalls⟩, hstage, -⟩ := tick_agrees h hs now
  exact ⟨hstore, Prod.ext (congrArg (·.1) h) (Prod.ext hstage hcalls)⟩

theorem tickLog_agrees (h : r'.outline = r.outline) (hs : t.outline = s.outline) (now : Instant) :
    (r'.tickLog now t).filter (!·.isDrift) = (r.tickLog now s).filter (!·.isDrift) :=
  (tick_agrees h hs now).log

theorem does_signal (f : CancelSignal → CancelSignal) : Does fun r s => (s, r.signal f) := by
  intro r r' s t h hs
  have hstage : r'.stage = r.stage := congrArg (·.2.1) h
  refine ⟨hs, Prod.ext (congrArg (·.1) h) (Prod.ext ?_ (congrArg (·.2.2) h))⟩
  exact congrArg (RunStage.mapSignal f) hstage

theorem does_drop : Does (·.drop) := by
  intro r r' s t h hs
  have hstage : r'.stage = r.stage := congrArg (·.2.1) h
  change (r'.drop t).1.outline = (r.drop s).1.outline ∧
    (r'.drop t).2.outline = (r.drop s).2.outline
  unfold drop
  rw [hstage]
  cases r.stage.isOver with
  | true => exact ⟨hs, h⟩
  | false =>
    have hrelease : (r.stage.release PodStore.client t).outline =
        (r.stage.release PodStore.client s).outline := by
      cases r.stage with
      | active a =>
        change (a.release PodStore.client t).outline = (a.release PodStore.client s).outline
        rw [a.outline_release, a.outline_release, hs]
      | idle | finished | aborted => exact hs
    exact ⟨hrelease, Prod.ext (congrArg (·.1) h) (Prod.ext rfl (congrArg (·.2.2) h))⟩

end Runner

namespace Scene

/-- Two scenes are the same up to the outlines of pods, and all runs show the same. -/
structure SameOutline (s t : Scene) : Prop where
  store : t.store.outline = s.store.outline
  runs : t.runs.map (·.outline) = s.runs.map (·.outline)

namespace SameOutline

variable {s t : Scene} {a b : Act} {acts acts' : List Act} {i : Nat} {r : Runner}

theorem run (h : s.SameOutline t) (hr : s.runs[i]? = some r) :
    ∃ r', t.runs[i]? = some r' ∧ r'.outline = r.outline := by
  have hi := congrArg (·[i]?) h.runs
  simp only [List.getElem?_map, hr, Option.map_some] at hi
  exact Option.map_eq_some_iff.mp hi

theorem run_of_none (h : s.SameOutline t) (hi : s.runs[i]? = none) : t.runs[i]? = none := by
  have hi' := congrArg (·[i]?) h.runs
  simp only [List.getElem?_map, hi, Option.map_none] at hi'
  exact Option.map_eq_none_iff.mp hi'

theorem owns (h : s.SameOutline t) (w : WatchId) : t.owns w = s.owns w := by
  have hany (l : List Runner) : l.any (·.watch? = some w) =
      (l.map (·.outline)).any (·.2.1.watch? = some w) := by
    rw [List.any_map]
    rfl
  unfold Scene.owns
  rw [hany, hany, h.runs]

theorem update (h : s.SameOutline t) {f : Runner → PodStore → PodStore × Runner}
    (hf : Runner.Does f) (i : Nat) : (s.update i f).SameOutline (t.update i f) := by
  cases hi : s.runs[i]? with
  | none =>
    rw [update_of_none hi, update_of_none (h.run_of_none hi)]
    exact h
  | some r =>
    obtain ⟨r', hr', hout⟩ := h.run hi
    obtain ⟨hstore, hrun⟩ := hf r r' s.store t.store hout h.store
    unfold Scene.update
    rw [hi, hr']
    refine ⟨hstore, ?_⟩
    dsimp only
    rw [List.map_set, List.map_set, h.runs, hrun]

theorem other (h : s.SameOutline t) {x y : StoreAct} (hxy : y.outline = x.outline) :
    (s.act (.other x)).SameOutline (t.act (.other y)) := by
  have hwatch : y.watch? = x.watch? := by rw [← y.watch?_outline, hxy, x.watch?_outline]
  have howns : y.watch?.any t.owns = x.watch?.any s.owns := by
    rw [hwatch]
    cases x.watch? with
    | none => rfl
    | some w => exact h.owns w
  unfold Scene.act
  dsimp only
  rw [howns]
  split
  · exact h
  · refine ⟨?_, h.runs⟩
    change (t.store.act y).outline = (s.store.act x).outline
    rw [PodStore.outline_act, PodStore.outline_act, hxy, h.store]

theorem act (h : s.SameOutline t) (hab : b.outline = a.outline) :
    (s.act a).SameOutline (t.act b) := by
  rcases Act.outline_cases hab with rfl | ⟨x, y, rfl, rfl, hxy⟩
  · cases b with
    | other x => exact h.other rfl
    | launch p ctx =>
      refine ⟨h.store, ?_⟩
      change (t.runs ++ [_]).map _ = (s.runs ++ [_]).map _
      rw [List.map_append, List.map_append, h.runs]
    | tick j now => exact h.update (Runner.does_tick now) j
    | cancel j => exact h.update (Runner.does_signal .send) j
    | abandon j => exact h.update (Runner.does_signal .abandon) j
    | drop j => exact h.update Runner.does_drop j
  · exact h.other hxy

/-- What a run logs in an act is the same, but for a warning. -/
theorem logged (h : s.SameOutline t) (hab : b.outline = a.outline) (i : Nat) :
    (t.logged i b).filter (!·.isDrift) = (s.logged i a).filter (!·.isDrift) := by
  rcases Act.outline_cases hab with rfl | ⟨x, y, rfl, rfl, -⟩
  · cases hi : s.runs[i]? with
    | none => rw [logged_of_none hi, logged_of_none (h.run_of_none hi)]
    | some r =>
      obtain ⟨r', hr', hout⟩ := h.run hi
      cases b with
      | tick j now =>
        rw [logged_tick hi, logged_tick hr']
        split
        · exact Runner.tickLog_agrees hout h.store now
        · rfl
      | _ => rfl
  · rfl

theorem perform (h : s.SameOutline t)
    (ha : acts'.map (·.outline) = acts.map (·.outline)) :
    (s.perform acts).SameOutline (t.perform acts') ∧
      ∀ i, (log i t acts').filter (!·.isDrift) = (log i s acts).filter (!·.isDrift) := by
  induction acts generalizing s t acts' with
  | nil =>
    obtain rfl := List.map_eq_nil_iff.mp ha
    exact ⟨h, fun _ => rfl⟩
  | cons a acts ih =>
    obtain ⟨b, late, rfl, hb, hlate⟩ := List.map_eq_cons_iff.mp ha
    obtain ⟨hsame, hlog⟩ := ih (h.act hb) hlate
    refine ⟨hsame, fun i => ?_⟩
    rw [log, log, List.filter_append, List.filter_append, h.logged hb i, hlog i]

end SameOutline

/-- Of all that stands at a store, only the outlines of pods count for what the runs do: if they are
the same in two scenes, each run makes the same calls and comes to the same, and logs the same but
for the warning of another configuration. A run logs this warning, once and together with the
message that it goes on with a pod, exactly if it has found a pod and this differs from its own in
what steps write. -/
theorem drift_is_only_reported (acts : List Act) :
    (∀ acts' : List Act, acts'.map (·.outline) = acts.map (·.outline) →
      (perform {} acts').store.outline = (perform {} acts).store.outline ∧
      ∀ (i : Nat) (r : Runner), (perform {} acts).runs[i]? = some r →
        ∃ r' : Runner, (perform {} acts').runs[i]? = some r' ∧ r'.step = r.step ∧
          r'.stage = r.stage ∧ r'.record.calls.map (·.call) = r.record.calls.map (·.call) ∧
          (log i {} acts').filter (!·.isDrift) = (log i {} acts).filter (!·.isDrift)) ∧
    ∀ (i : Nat) (r : Runner), (perform {} acts).runs[i]? = some r →
      (∀ fault, r.step.pod = .error fault → (log i {} acts).filter (·.isResumption) = []) ∧
      ∀ pod, r.step.pod = .ok pod → r.record.found.length ≤ 1 ∧
        ((∀ p ∈ r.record.found, ¬Blake3.Collide pod.ownedBytes p.ownedBytes) →
          (log i {} acts).filter (·.isResumption) = r.record.found.flatMap fun p =>
            .resuming r.step.sectionName p.name p.phase ::
              if pod.SameOwned p then [] else [.otherConfiguration r.step.sectionName p.name]) := by
  constructor
  · intro acts' ha
    have hstart : SameOutline {} {} := ⟨rfl, rfl⟩
    obtain ⟨hsame, hlog⟩ := hstart.perform ha
    refine ⟨hsame.store, fun i r hr => ?_⟩
    obtain ⟨r', hr', hout⟩ := hsame.run hr
    exact ⟨r', hr', congrArg (·.1) hout, congrArg (·.2.1) hout, congrArg (·.2.2) hout, hlog i⟩
  · intro i r hr
    obtain ⟨⟨ctx, hreaches⟩, hfound, hrefused⟩ := tells_of_start acts hr
    refine ⟨hrefused, fun pod hp => ⟨((hreaches {}).traced hp).length_found, fun hc => ?_⟩⟩
    rw [hfound pod hp]
    refine List.flatMap_congr fun p hmem => ?_
    have hiff := Pod.sameSpec_iff (hc p hmem)
    exact congrArg (_ :: ·) (if_congr hiff rfl rfl)

/-- The pod that a step with the configuration `c` writes, once it has finished. -/
def sampleFinished (c : StepConfig) : Pod :=
  (assembledPod "unit" c .sample).withStatus (some { phase := some "Succeeded" })

theorem outline_sampleFinished (c : StepConfig) : (sampleFinished c).outline =
    { metadata := { name := some c.podName, «namespace» := some "ns" }
      status := some { phase := some "Succeeded" } } := rfl

def sampleResumed (c : StepConfig) : List Act :=
  .other (.insert (sampleFinished c)) :: .launch .sample {} :: List.replicate 3 (.tick 0 .zero)

/-- A run finds its own pod, or one that was built when the step had other commands. -/
theorem drift_is_only_reported_sample : ∃ r r' : Runner,
    (perform {} (sampleResumed .samplePlain)).runs[0]? = some r ∧
      r.stage = .finished (.ok .succeeded) ∧
      (perform {} (sampleResumed .sampleOther)).runs[0]? = some r' ∧ r'.stage = r.stage ∧
      (log 0 {} (sampleResumed .samplePlain)).filter (·.isResumption) =
        [.resuming "unit" "unit-pod" .succeeded] ∧
      (log 0 {} (sampleResumed .sampleOther)).filter (·.isResumption) =
        [.resuming "unit" "unit-pod" .succeeded, .otherConfiguration "unit" "unit-pod"] := by
  let own := assembledPod "unit" .samplePlain .sample
  obtain ⟨hpair, hlog⟩ := drift_is_only_reported (sampleResumed .samplePlain)
  have hlog' := (drift_is_only_reported (sampleResumed .sampleOther)).2
  have hr : ∃ r, (perform {} (sampleResumed .samplePlain)).runs[0]? = some r ∧
      r.stage = .finished (.ok .succeeded) ∧ r.step = .sample ∧
      r.record.found = [sampleFinished .samplePlain] := ⟨_, rfl, rfl, rfl, rfl⟩
  have hr' : ∃ r, (perform {} (sampleResumed .sampleOther)).runs[0]? = some r ∧
      r.step = .sample ∧ r.record.found = [sampleFinished .sampleOther] := ⟨_, rfl, rfl, rfl⟩
  obtain ⟨r, hr, hstage, hstep, hfound⟩ := hr
  obtain ⟨r', hr', hstep', hfound'⟩ := hr'
  have hacts : (sampleResumed .sampleOther).map (·.outline) =
      (sampleResumed .samplePlain).map (·.outline) := by
    simp only [sampleResumed, List.map_cons, Act.outline, StoreAct.outline, outline_sampleFinished]
    rfl
  obtain ⟨q, hq, -, hstage', -⟩ := (hpair (sampleResumed .sampleOther) hacts).2 0 r hr
  obtain rfl : r' = q := Option.some.inj (hr'.symm.trans hq)
  have hp : PodStep.sample.pod = .ok own := rfl
  have howned : own.SameOwned (sampleFinished .samplePlain) := ⟨rfl, rfl, rfl, rfl, rfl⟩
  have hc : ¬Blake3.Collide own.ownedBytes (sampleFinished .samplePlain).ownedBytes :=
    fun h => h.1 (Pod.ownedBytes_eq_iff.mpr howned)
  have hc' : ¬Blake3.Collide own.ownedBytes (sampleFinished .sampleOther).ownedBytes :=
    StepConfig.not_collide_sample
  have hother : ¬own.SameOwned (sampleFinished .sampleOther) := fun h => by
    have hspec := h.spec
    revert hspec
    decide
  refine ⟨r, r', hr, hstage, hr', hstage', ?_, ?_⟩
  · obtain ⟨-, hexact⟩ := (hlog 0 r hr).2 own (hstep ▸ hp)
    rw [hexact (by simpa [hfound] using hc), hfound, List.flatMap_singleton, if_pos howned, hstep]
    rfl
  · obtain ⟨-, hexact⟩ := (hlog' 0 r' hr').2 own (hstep' ▸ hp)
    rw [hexact (by simpa [hfound'] using hc'), hfound', List.flatMap_singleton,
      if_neg hother, hstep']
    rfl

end Scene

end PodPipeline
