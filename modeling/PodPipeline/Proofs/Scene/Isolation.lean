import PodPipeline.Proofs.Config.Validation
import PodPipeline.Proofs.Scene.Basic
import PodPipeline.Proofs.Scene.Conduct

/-! Runs of the steps of one pipeline do not interfere: what one of them does, and what happens to
its pod, is as if the other runs and the other pods were not there. -/
namespace PodPipeline

/-- What is left of an act if nothing happens but what the run at `i` does and what concerns the pod
at `k`. The run is the only one then. -/
def Act.alone (i : Nat) (k : PodKey) : Act → Option Act
  | .other a => if a.concerns k then some (.other a) else none
  | .launch _ _ => none
  | .tick j now => if j = i then some (.tick 0 now) else none
  | .cancel j => if j = i then some (.cancel 0) else none
  | .abandon j => if j = i then some (.abandon 0) else none
  | .drop j => if j = i then some (.drop 0) else none

/-- What concerns a pod uses no watch that is already open. -/
theorem StoreAct.watch?_of_concerns {a : StoreAct} {k : PodKey} (h : a.concerns k) :
    a.watch? = none := by
  cases a with
  | next | stop => cases h
  | call | insert | inject | closeWatches => rfl

namespace Scene

variable {s t : Scene} {i j : Nat} {k : PodKey} {p : PodStep}
  {f : Runner → PodStore → PodStore × Runner}

/-- A scene to begin with: runs of steps at a store, with what they are given. -/
def start (store : PodStore) (runs : List (PodStep × RunContext)) : Scene where
  store
  runs := runs.map fun e => ⟨e.1, .idle e.2, {}⟩

/-- Every run has to do with its own pod, and no run but the one at `i` with the pod at `k`. -/
structure Separate (i : Nat) (k : PodKey) (s : Scene) : Prop where
  keyed : s.store.Keyed
  posted : ∀ (j : Nat) (r : Runner), s.runs[j]? = some r → r.Posted s.store
  sole : ∀ (j : Nat) (r : Runner), s.runs[j]? = some r → r.key = k → j = i

namespace Separate

theorem update (h : s.Separate i k) (hf : Runner.Sound f) : (s.update j f).Separate i k := by
  cases hj : s.runs[j]? with
  | none => rwa [update_of_none hj]
  | some q =>
    obtain ⟨hself, hstore⟩ := update_self (f := f) hj
    have hq := h.posted j q hj
    have hyields := hf.yields q s.store h.keyed hq
    refine ⟨?_, fun m r hr => ?_, fun m r hr hk => ?_⟩
    · rw [hstore]
      exact hyields.keyed
    · rw [hstore]
      by_cases hm : m = j
      · subst hm
        rw [hself] at hr
        cases hr
        exact hf.posted hq
      · rw [runs_update_of_ne (Ne.symm hm)] at hr
        have hr₀ := h.posted m r hr
        exact ⟨fun w hw => hyields.registered w _ (hr₀.watch w hw), hr₀.pod⟩
    · by_cases hm : m = j
      · subst hm
        rw [hself] at hr
        cases hr
        exact h.sole m q hj ((hf.key q s.store).symm.trans hk)
      · rw [runs_update_of_ne (Ne.symm hm)] at hr
        exact h.sole m r hr hk

theorem other (h : s.Separate i k) (a : StoreAct) : (s.act (.other a)).Separate i k := by
  rcases s.act_other a with hs | ⟨-, hs⟩
  · rwa [hs]
  · rw [hs]
    refine ⟨PodStore.keyed_act h.keyed a, fun j r hr => ?_, h.sole⟩
    have hr₀ := h.posted j r hr
    exact ⟨fun w hw => (hr₀.watch w hw).act h.keyed a, hr₀.pod⟩

theorem launch (h : s.Separate i k) {p : PodStep} (hp : p.key ≠ k) (ctx : RunContext) :
    (s.act (.launch p ctx)).Separate i k := by
  have hnew {j : Nat} {r : Runner} (hr : (s.act (.launch p ctx)).runs[j]? = some r) :
      s.runs[j]? = some r ∨ r = ⟨p, .idle ctx, {}⟩ := by
    change (s.runs ++ [_])[j]? = some r at hr
    rw [List.getElem?_append] at hr
    split at hr
    · exact .inl hr
    · exact .inr (List.mem_singleton.mp (List.mem_of_getElem? hr))
  refine ⟨h.keyed, fun j r hr => ?_, fun j r hr hk => ?_⟩
  · rcases hnew hr with hr | rfl
    · exact h.posted j r hr
    · exact ⟨by simp [Runner.watch?, RunStage.watch?], by simp⟩
  · rcases hnew hr with hr | rfl
    · exact h.sole j r hr hk
    · exact absurd hk hp

theorem act (h : s.Separate i k) {a : Act} (ha : ∀ p ctx, a = .launch p ctx → p.key ≠ k) :
    (s.act a).Separate i k := by
  cases a with
  | other a => exact h.other a
  | launch p ctx => exact h.launch (ha p ctx rfl) ctx
  | tick j now => exact h.update (Runner.sound_tick now)
  | cancel j => exact h.update (Runner.sound_signal .send)
  | abandon j => exact h.update (Runner.sound_signal .abandon)
  | drop j => exact h.update Runner.sound_drop

end Separate

theorem separate_start (history : List StoreAct) {l : List (PodStep × RunContext)}
    (hl : (l.map (·.1.key)).Nodup) (hi : (l.map (·.1))[i]? = some p) :
    (start (({} : PodStore).perform history) l).Separate i p.key := by
  have hrun {j : Nat} {r : Runner}
      (hr : (l.map fun e => (⟨e.1, .idle e.2, {}⟩ : Runner))[j]? = some r) :
      ∃ e, l[j]? = some e ∧ r = ⟨e.1, .idle e.2, {}⟩ := by
    rw [List.getElem?_map] at hr
    obtain ⟨e, he, rfl⟩ := Option.map_eq_some_iff.mp hr
    exact ⟨e, he, rfl⟩
  refine ⟨PodStore.keyed_perform PodStore.keyed_empty history, fun j r hr => ?_,
    fun j r hr hk => ?_⟩
  · obtain ⟨e, -, rfl⟩ := hrun hr
    exact ⟨by simp [Runner.watch?, RunStage.watch?], by simp⟩
  · obtain ⟨e, hj, rfl⟩ := hrun hr
    rw [List.getElem?_map] at hi
    obtain ⟨e', he', rfl⟩ := Option.map_eq_some_iff.mp hi
    have hlt : j < (l.map (·.1.key)).length := by
      rw [List.length_map]
      exact (List.getElem?_eq_some_iff.mp hj).1
    refine (List.getElem?_inj hlt hl).mp ?_
    rw [List.getElem?_map, List.getElem?_map, hj, he']
    exact congrArg some hk

/-- The run at `i` is one of the step `p`, and has come to the same as the first run of another
scene. -/
def Reflects (i : Nat) (p : PodStep) (s t : Scene) : Prop :=
  ∃ r r' held, s.runs[i]? = some r ∧ t.runs[0]? = some r' ∧ r.step = p ∧
    r.Reflects held s.store t.store r'

namespace Reflects

theorem update (h : Reflects i p s t) (hs : s.Separate i p.key) (hf : Runner.Sound f) :
    Reflects i p (s.update i f) (t.update 0 f) := by
  obtain ⟨r, r', held, hr, hr', hp, h⟩ := h
  obtain ⟨hself, hstore⟩ := update_self (f := f) hr
  obtain ⟨hself', hstore'⟩ := update_self (f := f) hr'
  obtain ⟨held', hnew⟩ := hf.reflects held s.store t.store r r' (hs.posted i r hr) h
  refine ⟨_, _, held', hself, hself', (hf.step r s.store).trans hp, ?_⟩
  rwa [hstore, hstore']

theorem update_of_ne (h : Reflects i p s t) (hs : s.Separate i p.key) (hf : Runner.Sound f)
    (hij : j ≠ i) : Reflects i p (s.update j f) t := by
  cases hj : s.runs[j]? with
  | none => rwa [update_of_none hj]
  | some q =>
    obtain ⟨r, r', held, hr, hr', rfl, h⟩ := h
    have hq := hs.posted j q hj
    have hkey : r.key ≠ q.key := fun he => hij (hs.sole j q hj he.symm)
    refine ⟨r, r', held, (runs_update_of_ne hij).trans hr, hr', rfl, h.step, h.stage, ?_, h.record⟩
    rw [(update_self hj).2]
    -- the watch of the other run is for another pod
    refine h.store.aside ((hf.yields q s.store hs.keyed hq).aside r.key hkey) fun w v hw hown => ?_
    obtain ⟨c, hc⟩ := hq.watch w hown
    obtain ⟨d, hd, -⟩ := h.store.watch w v hw
    exact hkey (hd.unique hc).1

theorem other (h : Reflects i p s t) {a : StoreAct} (ha : a.concerns p.key) :
    Reflects i p (s.act (.other a)) (t.act (.other a)) := by
  obtain ⟨r, r', held, hr, hr', rfl, h⟩ := h
  have hact (s : Scene) : s.act (.other a) =
      { s with store := s.store.act a, calls := s.calls ++ a.exchanges s.store } := by
    unfold Scene.act
    simp [StoreAct.watch?_of_concerns ha]
  rw [hact, hact]
  exact ⟨r, r', held, hr, hr', rfl, h.step, h.stage, h.store.act ha, h.record⟩

theorem other_of_not_concerns (h : Reflects i p s t) (hs : s.Separate i p.key) {a : StoreAct}
    (ha : a.concerns p.key = false) : Reflects i p (s.act (.other a)) t := by
  rcases s.act_other a with hact | ⟨hfree, hact⟩
  · rwa [hact]
  obtain ⟨r, r', held, hr, hr', rfl, h⟩ := h
  rw [hact]
  refine ⟨r, r', held, hr, hr', rfl, h.step, h.stage, ?_, h.record⟩
  refine h.store.aside (PodStore.aside_act hs.keyed ha) fun w v hw hown => ?_
  exact not_owns hr (hfree w hown) (h.watch?_of_held hw)

theorem launch (h : Reflects i p s t) (q : PodStep) (ctx : RunContext) :
    Reflects i p (s.act (.launch q ctx)) t := by
  obtain ⟨r, r', held, hr, hr', hp, h⟩ := h
  have hi := (List.getElem?_eq_some_iff.mp hr).1
  exact ⟨r, r', held, (List.getElem?_append_left hi).trans hr, hr', hp, h⟩

/-- The other scene goes along if the act is one for the run or its pod, and rests if it is not. -/
theorem act (h : Reflects i p s t) (hs : s.Separate i p.key) (a : Act) :
    Reflects i p (s.act a) (t.perform (a.alone i p.key).toList) := by
  have hrun (f) (hf : Runner.Sound f) (j : Nat) (b : Act) (hb : t.act b = t.update 0 f) :
      Reflects i p (s.update j f) (t.perform (if j = i then some b else none).toList) := by
    split
    · rename_i hij
      subst hij
      change Reflects j p _ (t.act b)
      rw [hb]
      exact h.update hs hf
    · exact h.update_of_ne hs hf ‹_›
  cases a with
  | other a =>
    simp only [Act.alone]
    split
    · exact h.other ‹_›
    · exact h.other_of_not_concerns hs (Bool.eq_false_iff.mpr ‹_›)
  | launch q ctx => exact h.launch q ctx
  | tick j now => exact hrun _ (Runner.sound_tick now) j _ rfl
  | cancel j => exact hrun _ (Runner.sound_signal .send) j _ rfl
  | abandon j => exact hrun _ (Runner.sound_signal .abandon) j _ rfl
  | drop j => exact hrun _ Runner.sound_drop j _ rfl

theorem perform (h : Reflects i p s t) (hs : s.Separate i p.key) {acts : List Act}
    (ha : ∀ q ctx, Act.launch q ctx ∈ acts → q.key ≠ p.key) :
    Reflects i p (s.perform acts) (t.perform (acts.filterMap (·.alone i p.key))) := by
  induction acts generalizing s t with
  | nil => exact h
  | cons a acts ih =>
    have hs' : (s.act a).Separate i p.key := hs.act fun q ctx he => ha q ctx (he ▸ .head acts)
    have hnext := ih (h.act hs a) hs' fun q ctx hm => ha q ctx (.tail a hm)
    rw [List.filterMap_cons]
    cases hb : a.alone i p.key with
    | none => rwa [hb] at hnext
    | some b => rwa [hb] at hnext

end Reflects

/-- Runs of the steps of a pipeline that has passed the checks do not interfere. Each has the same
outcome, makes the same calls and gets the same answers, reads the same events and leaves the same
pod as if there were no other runs, and nothing happened but what concerns its pod. Further runs may
be launched in between, of steps for other pods. -/
theorem steps_do_not_interfere {d : PipelineDraft} {p : Pipeline} (hd : d.validate = .ok p)
    (history : List StoreAct) (ctx : PodStep → RunContext) {i : Nat} {step : PodStep}
    (hi : p.podSteps[i]? = some step) {acts : List Act}
    (ha : ∀ q c, Act.launch q c ∈ acts → q.key ≠ step.key) :
    let store := ({} : PodStore).perform history
    let whole := (start store (p.podSteps.map fun q => (q, ctx q))).perform acts
    let alone := (start store [(step, ctx step)]).perform (acts.filterMap (·.alone i step.key))
    ∃ r r', whole.runs[i]? = some r ∧ alone.runs[0]? = some r' ∧
      (∀ result, r'.stage = .finished result ↔ r.stage = .finished result) ∧
      (r'.stage = .aborted ↔ r.stage = .aborted) ∧
      r'.record.calls.map (·.erase) = r.record.calls.map (·.erase) ∧
      r'.record.events = r.record.events ∧
      r'.watch?.map alone.store.channel? = r.watch?.map whole.store.channel? ∧
      alone.store.pods.find? step.key = whole.store.pods.find? step.key := by
  intro store whole alone
  have hsep : (start store (p.podSteps.map fun q => (q, ctx q))).Separate i step.key := by
    refine separate_start history ?_ (by simp [hi])
    simpa [Function.comp_def] using Pipeline.nodup_keys hd
  have hstart : Reflects i step (start store (p.podSteps.map fun q => (q, ctx q)))
      (start store [(step, ctx step)]) := by
    refine ⟨⟨step, .idle (ctx step), {}⟩, ⟨step, .idle (ctx step), {}⟩, none, ?_, rfl, rfl, rfl,
      .idle, ⟨rfl, by simp⟩, rfl, rfl⟩
    simp [start, hi]
  obtain ⟨r, r', held, hr, hr', rfl, h⟩ := hstart.perform hsep ha
  have hover {stage : RunStage} (ho : stage.isOver) : r'.stage = stage ↔ r.stage = stage :=
    h.stage.ended_iff ho
  exact ⟨r, r', hr, hr', fun _ => hover rfl, hover rfl, h.record.calls, h.record.events,
    h.channel?_eq, h.store.pod⟩

/-- The runs of the sample pipeline create their pods by turns. Then one of the pods succeeds, and
the other is deleted. -/
def sampleTurns : List Act :=
  (List.replicate 4 [.tick 1 .zero, .tick 0 .zero]).flatten ++
    [.other (.call (.updateStatus "ns"
      { metadata := { name := some "lint-pod" }, status := some Phase.succeeded.toStatus })),
    .other (.call (.delete "ns" "unit-pod")), .tick 0 .zero, .tick 1 .zero, .tick 0 .zero,
    .tick 1 .zero, .tick 0 .zero]

theorem steps_do_not_interfere_sample :
    ∃ p step, PipelineDraft.sample.validate = .ok p ∧ p.podSteps[0]? = some step ∧
      (∀ q c, Act.launch q c ∈ sampleTurns → q.key ≠ step.key) ∧
      (∃ r, ((start {} (p.podSteps.map fun q => (q, {}))).perform sampleTurns).runs[0]? = some r ∧
        r.stage = .finished (.ok .succeeded)) ∧
      ∃ r, ((start {} [(step, {})]).perform
          (sampleTurns.filterMap (·.alone 0 step.key))).runs[0]? = some r ∧
        r.stage = .finished (.ok .succeeded) := by
  obtain ⟨p, step, hd, hi, hwhole⟩ : ∃ p step, PipelineDraft.sample.validate = .ok p ∧
      p.podSteps[0]? = some step ∧
      ∃ r, ((start {} (p.podSteps.map fun q => (q, {}))).perform sampleTurns).runs[0]? = some r ∧
        r.stage = .finished (.ok .succeeded) := ⟨_, _, rfl, rfl, _, rfl, rfl⟩
  have ha : ∀ q c, Act.launch q c ∈ sampleTurns → q.key ≠ step.key := by
    simp [sampleTurns, List.replicate]
  obtain ⟨r, r', hr, hr', hfinished, -⟩ := steps_do_not_interfere hd [] (fun _ => {}) hi ha
  obtain ⟨r₁, hr₁, hstage⟩ := hwhole
  obtain rfl : r₁ = r := Option.some.inj (hr₁.symm.trans hr)
  exact ⟨p, step, hd, hi, ha, ⟨r₁, hr₁, hstage⟩, r', hr', (hfinished _).mpr hstage⟩

end Scene

end PodPipeline
