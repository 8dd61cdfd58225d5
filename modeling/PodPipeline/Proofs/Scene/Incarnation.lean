import PodPipeline.Proofs.Scene.Basic

/-! Whose outcome a run reports that has created its pod.

The events of a watch name a pod and not the time at which it was created. What the run has not read
when it creates its pod decides first, although it is about a pod that is gone. If it decides
nothing, the run reports the end of the pod that it has created. -/
namespace PodPipeline

namespace Scene

/-- The pod at `k` stays there until it has the outcome `o`, while `acts` happen. -/
def attains (k : PodKey) (o : Outcome) (s : Scene) : List Act → Bool
  | [] => (s.store.pods.find? k).any (·.verdict = some o)
  | a :: acts => (s.store.pods.find? k).any fun p =>
      p.verdict = some o || (s.act a).attains k o acts

/-- No pod stands at `k` if the run has opened its watch. -/
def isFree (i : Nat) (k : PodKey) (s : Scene) : Bool :=
  s.runs[i]?.all fun r => r.watch?.isNone || (s.store.pods.find? k).isNone

/-- After none of `acts`, a pod stands at `k` while the run holds its watch. -/
def staysFree (i : Nat) (k : PodKey) (s : Scene) : List Act → Bool
  | [] => true
  | a :: acts => (s.act a).isFree i k && (s.act a).staysFree i k acts

end Scene

namespace Runner

def hasCreated (r : Runner) : Bool := r.record.calls.any (·.creates r.key)

def unread (s : PodStore) (r : Runner) : List WatchEvent := (r.watch?.map s.unread).getD []

variable {s t : PodStore} {r r' : Runner} {o : Outcome} {F : Prop}

/-- How a run stands that has not looked for its pod or has not found one, if `F` says that no pod
has stood there since the watch was opened. -/
structure Approaches (s : PodStore) (r : Runner) (F : Prop) : Prop where
  early : r.stage.isOver = false → r.watch? = none → F
  late : ∀ a w q, r.stage = .active a → a.await = .lookup w ∨ a.await = .create w →
    s.Listening w r.key q →
      (firstVerdict r.step.name q = none → s.pods.find? r.key = none → F) ∧
      (F → q = [] ∧ s.pods.find? r.key = none)

/-- No pod stands in the place of the run's pod, if the run has opened its watch. -/
def IsFree (s : PodStore) (r : Runner) : Prop := r.watch? = none ∨ s.pods.find? r.key = none

theorem Approaches.of_isOver (h : r.stage.isOver) : r.Approaches s F where
  early ho := by
    rw [h] at ho
    cases ho
  late a w q hs := by
    rw [hs] at h
    cases h

theorem Approaches.of_await {a : ActiveRun} {w : WatchId} (hs : r.stage = .active a)
    (hw : a.await.watch? = some w) (hl : a.await ≠ .lookup w) (hc : a.await ≠ .create w) :
    r.Approaches t F where
  early _ hn := by
    rw [watch?_of_await hs rfl, hw] at hn
    cases hn
  late b v q hs' hb := by
    rw [hs] at hs'
    cases hs'
    rcases hb with hb | hb
    · rw [hb] at hw hl
      exact absurd (congrArg Await.lookup (Option.some.inj hw)) hl
    · rw [hb] at hw hc
      exact absurd (congrArg Await.create (Option.some.inj hw)) hc

private theorem Approaches.signal (hi : r.Approaches s F) (f : CancelSignal → CancelSignal) :
    (r.signal f).Approaches s (F ∧ (r.signal f).IsFree s) := by
  have hw : (r.signal f).watch? = r.watch? := RunStage.watch?_mapSignal f r.stage
  have ho : (r.signal f).stage.isOver = r.stage.isOver := RunStage.isOver_mapSignal f r.stage
  constructor
  · intro hn hn'
    exact ⟨hi.early (ho ▸ hn) (hw ▸ hn'), .inl hn'⟩
  · intro b w q hs ha hq
    obtain ⟨a, hs', rfl⟩ := RunStage.mapSignal_eq_active hs
    obtain ⟨h₁, h₂⟩ := hi.late a w q hs' ha hq
    constructor
    · intro hv ht
      exact ⟨h₁ hv ht, .inr ht⟩
    · intro hF
      exact h₂ hF.1

private theorem Approaches.stays (h : ∀ k, s.Drifts t r.watch? k) (ha : r.Attends s)
    (hi : r.Approaches s F) : r.Approaches t (F ∧ r.IsFree t) where
  early ho hw := ⟨hi.early ho hw, .inl hw⟩
  late a w q' hs hw hq' := by
    have hown : r.watch? = some w := by
      rcases hw with hw | hw
      · exact watch?_of_await hs hw
      · exact watch?_of_await hs hw
    obtain ⟨q, hq⟩ := ha.listening w hown
    obtain ⟨news, hc, hnews⟩ := h r.key
    obtain rfl := hq'.unique (hnews w q hown hq)
    obtain ⟨h₁, h₂⟩ := hi.late a w q hs hw hq
    constructor
    · intro hv ht
      rw [firstVerdict_append, Option.or_eq_none_iff] at hv
      rw [ht] at hc
      have hs : s.pods.find? r.key = none := hc.absent_before hv.2
      exact ⟨h₁ hv.1 hs, .inr ht⟩
    · rintro ⟨hF, hfree⟩
      have ht : t.pods.find? r.key = none := by
        rcases hfree with hn | ht
        · rw [hown] at hn
          cases hn
        · exact ht
      obtain ⟨rfl, hs⟩ := h₂ hF
      rw [hs, ht] at hc
      exact ⟨hc.news_eq_nil, ht⟩

private theorem Approaches.ticks {stage : RunStage} {rec : Record} {made : List Exchange}
    {now : Instant} (h : r.step.Turn now s r.stage t stage made) (ha : r.Attends s)
    (hi : r.Approaches s F) :
    Approaches t { r with stage, record := rec }
      (F ∧ IsFree t { r with stage, record := rec }) := by
  obtain ⟨p, stage₀, rec₀⟩ := r
  cases h with
  | refused => exact .of_isOver rfl
  | undated => exact .of_isOver rfl
  | rested ho => exact .of_isOver ho
  | cut _ _ hc => exact .of_isOver hc.isOver
  | settled => exact .of_isOver rfl
  | lost => exact .of_isOver rfl
  | decided => exact .of_isOver rfl
  | begun _ _ _ hw =>
    constructor
    · intro _ hn
      exact ⟨hi.early rfl rfl, .inl hn⟩
    · intro a w q hs ha'
      cases hs
      rw [hw] at ha'
      rcases ha' with ha' | ha' <;> cases ha'
  | opened hw =>
    have hF := hi.early rfl (RunStage.watch?_active hw)
    constructor
    · intro _ hn
      cases hn
    · intro a w q hs ha' hq
      cases hs
      rcases ha' with ha' | ha' <;> cases ha'
      constructor
      · intro _ ht
        exact ⟨hF, .inr ht⟩
      · rintro ⟨-, hn | ht⟩
        · cases hn
        · exact ⟨hq.unique (PodStore.listening_watch s p.key), ht⟩
  | missing hw hf ht =>
    constructor
    · intro _ hn
      cases hn
    · intro a w q hs ha' hq
      cases hs
      rcases ha' with ha' | ha' <;> cases ha'
      obtain ⟨q₀, hq₀⟩ := ha.listening _ (RunStage.watch?_active hw)
      obtain rfl := hq.unique (ht.listening (by simp) hq₀)
      obtain ⟨h₁, h₂⟩ := hi.late _ _ q rfl (.inl hw) hq₀
      have ht' := ht.pods ▸ hf
      constructor
      · intro hv _
        exact ⟨h₁ hv hf, .inr ht'⟩
      · intro hF
        exact ⟨(h₂ hF.1).1, ht'⟩
  | resumed => exact .of_await rfl rfl (by simp [ActiveRun.onward]) (by simp [ActiveRun.onward])
  | created => exact .of_await rfl rfl (by simp [ActiveRun.onward]) (by simp [ActiveRun.onward])
  | conflicted => exact .of_await rfl rfl (by simp [ActiveRun.onward]) (by simp [ActiveRun.onward])
  | read => exact .of_await rfl rfl (by simp [ActiveRun.onward]) (by simp [ActiveRun.onward])
  | idles hw =>
    refine .of_await rfl (RunStage.watch?_active hw) ?_ ?_ <;>
      simp [ActiveRun.onward, hw]

theorem Approaches.sees (h : r.Sees s t r') (ha : r.Attends s) (hi : r.Approaches s F) :
    r'.Approaches t (F ∧ r'.IsFree t) := by
  cases h with
  | dropped => exact .of_isOver rfl
  | stays h => exact .stays h ha hi
  | ticks h => exact .ticks h ha hi
  | signalled _ h => exact h ▸ hi.signal _

/-- If the run returns an outcome, this is `o`. -/
inductive Bound (s : PodStore) (r : Runner) (o : Outcome) : Prop where
  | reading {a w watcher q} (hs : r.stage = .active a) (ha : a.await = .events w watcher)
      (hq : s.Listening w r.key q)
      (hv : watcher.result.or (firstVerdict r.step.name q) = some o)
  | returned (hs : r.stage = .finished (.ok o))
  | failed (ho : r.stage.isOver) (hn : ∀ o', r.stage ≠ .finished (.ok o'))

/-- The run waits for the end of its pod, which is there, and no event tells of an end. -/
structure Undecided (s : PodStore) (r : Runner) : Prop where
  waits : ∃ a w watcher q, r.stage = .active a ∧ a.await = .events w watcher ∧
    watcher.result = none ∧ s.Listening w r.key q ∧ firstVerdict r.step.name q = none
  pod : ∃ p, s.pods.find? r.key = some p ∧ p.verdict = none

theorem Bound.of_wasCut {step : String} (h : r.stage.WasCut step) : r.Bound s o := by
  refine .failed h.isOver fun o' ho => ?_
  rw [ho] at h
  exact h

theorem Bound.signal (h : r.Bound s o) (f : CancelSignal → CancelSignal) :
    (r.signal f).Bound s o := by
  cases h with
  | @reading a w watcher q hs ha hq hv =>
    have hs' : (r.signal f).stage =
        .active { a with guard := { a.guard with signal := f a.guard.signal } } := by
      change r.stage.mapSignal f = _
      rw [hs]
      rfl
    exact .reading hs' ha hq hv
  | returned hs =>
    refine .returned ?_
    change r.stage.mapSignal f = _
    rw [hs]
    rfl
  | failed ho hn =>
    have hs : (r.signal f).stage = r.stage := RunStage.mapSignal_of_isOver ho
    exact .failed (by rw [hs, ho]) (by rwa [hs])

theorem Bound.sees (h : r.Sees s t r') (ha : r.Attends s) (hb : r.Bound s o) : r'.Bound t o := by
  cases h with
  | stays h =>
    cases hb with
    | returned hs => exact .returned hs
    | failed ho hn => exact .failed ho hn
    | @reading _ w _ q hs hw hq hv =>
      obtain ⟨news, -, hnews⟩ := h r.key
      refine .reading hs hw (hnews w q (watch?_of_await hs hw) hq) ?_
      rw [firstVerdict_append, ← Option.or_assoc, hv]
      rfl
  | signalled _ h => exact h ▸ hb.signal _
  | dropped => exact .of_wasCut (show RunStage.aborted.WasCut "" from trivial)
  | @ticks _ stage rec _ h =>
    obtain ⟨p, stage₀, rec₀⟩ := r
    cases hb with
    | returned hs =>
      cases hs
      exact .returned (h.of_isOver rfl).2
    | failed ho hn =>
      have hsame : stage = stage₀ := (h.of_isOver ho).2
      exact .failed (by rwa [hsame]) (by rwa [hsame])
    | reading hs hw hq hv =>
      cases hs
      rcases h.of_events hw hq with
        hc | ⟨-, ⟨e, q', rfl, hr, hq', rfl⟩ | ⟨rfl, hr, -⟩ | ⟨o', hr, rfl⟩⟩
      · exact .of_wasCut hc
      · refine .reading rfl rfl hq' ?_
        rw [hr, firstVerdict_cons, Option.none_or] at hv
        rw [CompletionWatcher.result_observe, hr, (ha.active _ rfl).2.2.2 _ _ hw, Option.none_or]
        exact hv
      · rw [hr] at hv
        cases hv
      · rw [hr] at hv
        cases hv
        exact .returned rfl

/-- What has come of a run that was undecided. -/
theorem Undecided.sees (h : r.Sees s t r') (hk : s.Keyed) (ha : r.Attends s) (hu : r.Undecided s) :
    r'.Undecided t ∨ ∃ o, r'.Bound t o ∧
      (o = deletedOutcome ∨ ∃ p, t.pods.find? r.key = some p ∧ p.verdict = some o) := by
  obtain ⟨⟨a, w, watcher, q, hs, hw, hres, hq, hv⟩, p, hp, hpv⟩ := hu
  cases h with
  | stays h =>
    obtain ⟨news, hc, hnews⟩ := h r.key
    have hq' := hnews w q (watch?_of_await hs hw) hq
    have happ : firstVerdict r.step.name (q ++ news) = firstVerdict r.step.name news := by
      rw [firstVerdict_append, hv, Option.none_or]
    rw [hp] at hc
    rcases hc.of_unfinished (hk _ _ hp) hpv with ⟨hp', hn⟩ | ⟨o, ho, hp'⟩
    · exact .inl ⟨⟨a, w, watcher, _, hs, hw, hres, hq', happ.trans hn⟩, hp'⟩
    · refine .inr ⟨o, .reading hs hw hq' ?_, hp'⟩
      rw [hres, Option.none_or, happ]
      exact ho
  | signalled _ h =>
    obtain ⟨step, stage, rec⟩ := r
    cases hs
    exact .inl ⟨⟨_, w, watcher, q, rfl, hw, hres, h ▸ hq, hv⟩, p, h ▸ hp, hpv⟩
  | dropped =>
    have hcut : RunStage.aborted.WasCut "" := trivial
    exact .inr ⟨deletedOutcome, .of_wasCut hcut, .inl rfl⟩
  | ticks h =>
    obtain ⟨step, stage, rec⟩ := r
    cases hs
    rcases h.of_events hw hq with
      hc | ⟨hpods, ⟨e, q', rfl, hr, hq', rfl⟩ | ⟨rfl, hr, hq', rfl⟩ | ⟨o', hr, -⟩⟩
    · exact .inr ⟨deletedOutcome, .of_wasCut hc, .inl rfl⟩
    · rw [firstVerdict_cons, Option.or_eq_none_iff] at hv
      refine .inl ⟨⟨_, w, _, q', rfl, rfl, ?_, hq', hv.2⟩, p, hpods ▸ hp, hpv⟩
      rw [CompletionWatcher.result_observe, hr, (ha.active _ rfl).2.2.2 _ _ hw]
      exact hv.1
    · exact .inl ⟨⟨_, w, watcher, [], rfl, hw, hr, hq', rfl⟩, p, hpods ▸ hp, hpv⟩
    · rw [hr] at hres
      cases hres

/-- Once the pod is created, the events that are not read decide, or else the pod will. -/
theorem created_cases (ha : r.Attends s) (hk : s.Keyed) {stage : RunStage} (rec : Record)
    {made : List Exchange} {now : Instant} (h : r.step.Turn now s r.stage t stage made)
    (hc : made.any (·.creates r.key)) : ∃ a w q, r.stage = .active a ∧ a.await = .create w ∧
      s.Listening w r.key q ∧ s.pods.find? r.key = none ∧
      (firstVerdict r.step.name q = none → Undecided t { r with stage, record := rec }) ∧
      ∀ o, firstVerdict r.step.name q = some o → Bound t { r with stage, record := rec } o := by
  obtain ⟨a, w, hs, hw, hf, rfl, hnew, -, rfl⟩ := h.of_creates hc
  obtain ⟨q, hq⟩ := ha.listening w (watch?_of_await hs hw)
  obtain ⟨news, hchange, hnews⟩ :=
    PodStore.drifts_call hk (.create r.step.namespace a.pod) (some w) r.key
  have hq' : (s.create r.step.namespace a.pod).1.Listening w r.key (q ++ news) := hnews w q rfl hq
  have hpod := PodStep.verdict_pod (ha.active a hs).2.1 r.step.namespace
  have hf : s.pods.find? r.key = none := hf
  have hnew : (s.create r.step.namespace a.pod).1.pods.find? r.key = some _ := hnew
  have hnone : firstVerdict r.step.name news = none := by
    change PodStore.Change r.key _ ((s.create r.step.namespace a.pod).1.pods.find? r.key) _ at hchange
    rw [hf, hnew] at hchange
    exact hchange.of_absent hpod
  have happ : firstVerdict r.step.name (q ++ news) = firstVerdict r.step.name q := by
    rw [firstVerdict_append, hnone, Option.or_none]
  refine ⟨a, w, q, hs, hw, hq, hf, fun hv => ?_, fun o hv => ?_⟩
  · exact ⟨⟨_, w, _, _, rfl, rfl, rfl, hq', happ.trans hv⟩, _, hnew, hpod⟩
  · refine .reading rfl rfl hq' ?_
    rw [happ, hv]
    rfl

end Runner

namespace Scene

variable {s : Scene} {acts : List Act} {i : Nat} {r r' : Runner} {o o' : Outcome}

theorem outcome_of_bound (hs : s.Tidy) (ha : ∀ a ∈ acts, a.isOrdinary)
    (hr : s.runs[i]? = some r) (hb : r.Bound s.store o)
    (hr' : (s.perform acts).runs[i]? = some r') (ho : r'.stage = .finished (.ok o')) : o' = o := by
  have hb' : r'.Bound _ o :=
    run_perform_of_some (P := fun t r => r.Bound t o) (fun _ _ _ _ _ ha h hb => hb.sees h ha)
      hs ha hr hb hr'
  cases hb' with
  | reading hstage =>
    rw [hstage] at ho
    cases ho
  | returned hstage =>
    rw [hstage] at ho
    cases ho
    rfl
  | failed _ hn => exact absurd ho (hn o')

theorem attains_of_verdict {k : PodKey} {p : Pod} (hp : s.store.pods.find? k = some p)
    (hv : p.verdict = some o) (acts : List Act) : s.attains k o acts := by
  cases acts with
  | nil => simp [attains, hp, hv]
  | cons a acts => simp [attains, hp, hv]

/-- A run that is undecided returns the outcome that its pod comes to have, or finds it deleted. -/
theorem attains_of_undecided (hs : s.Tidy) (ha : ∀ a ∈ acts, a.isOrdinary)
    (hr : s.runs[i]? = some r) (hu : r.Undecided s.store)
    (hr' : (s.perform acts).runs[i]? = some r') (ho : r'.stage = .finished (.ok o)) :
    o = deletedOutcome ∨ s.attains r.key o acts := by
  induction acts generalizing s r with
  | nil =>
    obtain ⟨⟨a, w, watcher, q, hstage, -⟩, -⟩ := hu
    rw [perform_nil, hr] at hr'
    cases hr'
    rw [hstage] at ho
    cases ho
  | cons a acts ih =>
    obtain ⟨ha₀, hacts⟩ := List.forall_mem_cons.mp ha
    obtain ⟨r₁, hr₁, hsees⟩ := act_seen hs ha₀ hr
    have hkey : r₁.key = r.key := congrArg PodStep.key hsees.step_eq
    obtain ⟨p, hp, -⟩ := hu.pod
    have hcons : (s.act a).attains r.key o acts → s.attains r.key o (a :: acts) := by
      intro h
      simp [attains, hp, h]
    rcases hu.sees hsees hs.keyed (hs.attends i r hr) with hu' | ⟨o₁, hb, hv⟩
    · have := ih (tidy_act hs ha₀) hacts hr₁ hu' hr'
      rw [hkey] at this
      exact this.imp_right hcons
    · obtain rfl := outcome_of_bound (tidy_act hs ha₀) hacts hr₁ hb hr' ho
      refine hv.imp_right fun ⟨p', hp', hv'⟩ => hcons (attains_of_verdict hp' hv' acts)

private theorem isFree_iff {k : PodKey} (hr : s.runs[i]? = some r) (hk : r.key = k) :
    s.isFree i k = true ↔ r.IsFree s.store := by
  simp [isFree, Runner.IsFree, hr, hk]

/-- Along a run that has not found its pod, whether one has stood there. -/
theorem approaches_perform {F : Prop} {k : PodKey} (hs : s.Tidy) (ha : ∀ a ∈ acts, a.isOrdinary)
    (hk : r'.key = k) (hnew : s.runs[i]? = none → F)
    (hold : ∀ r, s.runs[i]? = some r → r.Approaches s.store F)
    (hr' : (s.perform acts).runs[i]? = some r') :
    r'.Approaches (s.perform acts).store (F ∧ s.staysFree i k acts) := by
  induction acts generalizing s F with
  | nil => simpa [staysFree] using hold r' hr'
  | cons a acts ih =>
    obtain ⟨ha₀, hacts⟩ := List.forall_mem_cons.mp ha
    have hfree : ∀ r, (s.act a).runs[i]? = some r →
        ((s.act a).isFree i k = true ↔ r.IsFree (s.act a).store) := fun r hr =>
      isFree_iff hr ((congrArg PodStep.key (step_perform (tidy_act hs ha₀) hacts hr hr')).symm.trans hk)
    have := ih (tidy_act hs ha₀) hacts (F := F ∧ (s.act a).isFree i k = true) ?_ ?_ hr'
    · simpa [staysFree, and_assoc] using this
    · intro hn
      refine ⟨hnew ?_, by simp [isFree, hn]⟩
      cases hi : s.runs[i]? with
      | none => rfl
      | some r =>
        obtain ⟨r₁, hr₁, -⟩ := act_seen hs ha₀ hi
        rw [hn] at hr₁
        cases hr₁
    · intro r hr
      rw [hfree r hr]
      rcases act_from hs ha₀ hr with ⟨r₀, hr₀, hsees⟩ | ⟨p, ctx, -, hi, rfl⟩
      · exact (hold r₀ hr₀).sees hsees (hs.attends i r₀ hr₀)
      · have hn : s.runs[i]? = none := by simp [hi]
        exact ⟨fun _ hw => ⟨hnew hn, .inl hw⟩, fun a w q hs => by cases hs⟩

/-- If no pod has stood in the place since the run opened its watch, a run that has created its pod
reports the outcome of this pod, or its removal. Else it reports what the events that it had not
read by then tell of the pods before. -/
theorem outcome_of_created (history : List StoreAct) (before after : List Act) {s₀ s t : Scene}
    {now : Instant} (hs₀ : s₀ = { store := ({} : PodStore).perform history })
    (hb : ∀ a ∈ before, a.isOrdinary) (hs : s = s₀.perform before)
    (ht : t = s.act (.tick i now)) (ha : ∀ a ∈ after, a.isOrdinary) {r₁ r₂ r₃ : Runner}
    (hr₁ : s.runs[i]? = some r₁) (hn : r₁.hasCreated = false) (hr₂ : t.runs[i]? = some r₂)
    (hc : r₂.hasCreated = true) (hr₃ : (t.perform after).runs[i]? = some r₃)
    (ho : r₃.stage = .finished (.ok o)) :
    (s₀.staysFree i r₁.key before = true → o = deletedOutcome ∨ t.attains r₁.key o after) ∧
      (s₀.staysFree i r₁.key before = false →
        firstVerdict r₁.step.name (r₁.unread s.store) = some o) := by
  have htidy₀ : s₀.Tidy := hs₀ ▸ tidy_of_store history
  have htidy : s.Tidy := hs ▸ tidy_perform htidy₀ hb
  have htidy' : t.Tidy := ht ▸ tidy_act htidy rfl
  have hattends := htidy.attends i r₁ hr₁
  obtain ⟨made, hcalls, hturn⟩ := Runner.turn hattends htidy.keyed now
  obtain ⟨hself, hstore⟩ := update_self (f := fun r => r.tick now) hr₁
  have hrun : t.runs[i]? = some (r₁.tick now s.store).2 := ht ▸ hself
  have hstore : t.store = (r₁.tick now s.store).1 := ht ▸ hstore
  rw [hr₂] at hrun
  cases hrun
  have hmade : made.any (·.creates r₁.key) := by
    change (r₁.tick now s.store).2.record.calls.any (·.creates r₁.key) = true at hc
    change r₁.record.calls.any (·.creates r₁.key) = false at hn
    rw [hcalls, List.any_append, hn, Bool.false_or] at hc
    exact hc
  obtain ⟨a, w, q, hstage, hw, hq, hf, hfresh, hstale⟩ :=
    Runner.created_cases hattends htidy.keyed (r₁.tick now s.store).2.record hturn hmade
  have happroach : r₁.Approaches s.store (True ∧ s₀.staysFree i r₁.key before) := by
    subst hs
    exact approaches_perform htidy₀ hb rfl (fun _ => trivial) (by simp [hs₀]) hr₁
  obtain ⟨hfree, hempty⟩ := happroach.late a w q hstage (.inr hw) hq
  have hunread : r₁.unread s.store = q := by
    rw [Runner.unread, Runner.watch?_of_await hstage hw]
    exact hq.unread
  rw [← hstore] at hfresh hstale
  -- `q` is what the run has not read when it creates its pod
  constructor
  · intro hsf
    obtain ⟨rfl, -⟩ := hempty ⟨trivial, hsf⟩
    exact attains_of_undecided (r := (r₁.tick now s.store).2) htidy' ha hr₂ (hfresh rfl) hr₃ ho
  · intro hsf
    rw [hunread]
    cases hv : firstVerdict r₁.step.name q with
    | none =>
      have := (hfree hv hf).2
      rw [hsf] at this
      cases this
    | some o' => rw [outcome_of_bound htidy' ha hr₂ (hstale o' hv) hr₃ ho]

def report (phase : Phase) : Act :=
  .other (.call (.updateStatus "ns"
    { metadata := { name := some "unit-pod" }, status := some phase.toStatus }))

theorem outcome_of_created_sample :
    let start : List Act := [.launch .sample {}, .tick 0 .zero, .tick 0 .zero, .tick 0 .zero]
    let finish : List Act := [.tick 0 .zero, report .succeeded, .tick 0 .zero, .tick 0 .zero]
    let t := ((({} : Scene).perform start).act (.tick 0 .zero))
    (∃ r, (t.perform finish).runs[0]? = some r ∧ r.stage = .finished (.ok .succeeded)) ∧
      t.attains PodStep.sample.key .succeeded finish := by
  intro start finish t
  have hrun : ∃ r₁ r₂ r₃, (({} : Scene).perform start).runs[0]? = some r₁ ∧
      r₁.hasCreated = false ∧ t.runs[0]? = some r₂ ∧ r₂.hasCreated = true ∧
      (t.perform finish).runs[0]? = some r₃ ∧ r₃.stage = .finished (.ok .succeeded) ∧
      r₁.key = PodStep.sample.key :=
    ⟨_, _, _, rfl, rfl, rfl, rfl, rfl, rfl, rfl⟩
  obtain ⟨r₁, r₂, r₃, hr₁, hn, hr₂, hc, hr₃, ho, hkey⟩ := hrun
  have h := outcome_of_created [] start finish rfl (by decide)
    rfl rfl (by decide) hr₁ hn hr₂ hc hr₃ ho
  rw [hkey] at h
  exact ⟨⟨r₃, hr₃, ho⟩, (h.1 rfl).resolve_left (by decide)⟩

/-- A pod of an earlier run ends and is deleted while the run looks for it. The run creates a new
one and reports that it has succeeded, although nobody has said so. -/
theorem outcome_of_older_pod :
    let old : Pod := { metadata := { name := some "unit-pod", «namespace» := some "ns" } }
    let s₀ : Scene := { store := ({} : PodStore).perform [.insert old] }
    let start : List Act := [.launch .sample {}, .tick 0 .zero, .tick 0 .zero, report .succeeded,
      .other (.call (.delete "ns" "unit-pod")), .tick 0 .zero]
    let finish : List Act := [.tick 0 .zero, .tick 0 .zero]
    let t := (s₀.perform start).act (.tick 0 .zero)
    (∀ a ∈ start ++ finish, a.isOrdinary) ∧
      (∃ r₁ r₂ r₃, (s₀.perform start).runs[0]? = some r₁ ∧ r₁.hasCreated = false ∧
        t.runs[0]? = some r₂ ∧ r₂.hasCreated = true ∧ (t.perform finish).runs[0]? = some r₃ ∧
        r₃.stage = .finished (.ok .succeeded)) ∧
      t.attains PodStep.sample.key .succeeded finish = false :=
  ⟨by decide, ⟨_, _, _, rfl, rfl, rfl, rfl, rfl, rfl⟩, rfl⟩

end Scene

end PodPipeline
