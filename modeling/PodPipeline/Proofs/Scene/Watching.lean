import PodPipeline.Proofs.Scene.Basic

/-! No end of a pod is lost: a run that has nothing to read waits for a pod that is there and has
not finished. -/
namespace PodPipeline

namespace Runner

variable {s t : PodStore} {r r' : Runner}

/-- While the run waits for events, the end of its pod is among those it has not read, or the pod is
there and has not finished. -/
def Alert (s : PodStore) (r : Runner) : Prop :=
  ∀ a w watcher q, r.stage = .active a → a.await = .events w watcher → watcher.result = none →
    s.Listening w r.key q → (firstVerdict r.step.name q).isSome ∨
      ∃ p, s.pods.find? r.key = some p ∧ p.verdict = none

private theorem Alert.stays (h : ∀ k, s.Drifts t r.watch? k) (hk : s.Keyed) (ha : r.Attends s)
    (hi : r.Alert s) : r.Alert t := by
  intro a w watcher q' hs hw hres hq'
  have hown := watch?_of_await hs hw
  obtain ⟨q, hq⟩ := ha.listening w hown
  obtain ⟨news, hc, hnews⟩ := h r.key
  obtain rfl := hq'.unique (hnews w q hown hq)
  rw [firstVerdict_append]
  rcases hi a w watcher q hs hw hres hq with hv | ⟨p, hp, hv⟩
  · exact .inl (by simp [hv])
  · rw [hp] at hc
    rcases hc.of_unfinished (hk _ _ hp) hv with ⟨hp', -⟩ | ⟨o, ho, -⟩
    · exact .inr hp'
    · have : firstVerdict r.step.name news = some o := ho
      exact .inl (by simp [this])

private theorem Alert.ticks {stage : RunStage} {rec : Record} {made : List Exchange}
    {now : Instant} (h : r.step.Turn now s r.stage t stage made) (ha : r.Attends s)
    (hi : r.Alert s) : Runner.Alert t { r with stage, record := rec } := by
  obtain ⟨p, stage₀, rec₀⟩ := r
  intro a w watcher q hs hw hres hq
  cases h with
  | refused => cases hs
  | undated => cases hs
  | settled => cases hs
  | lost => cases hs
  | decided => cases hs
  | cut _ _ hc =>
    cases hs
    exact hc.elim
  | rested ho =>
    cases hs
    cases ho
  | begun _ _ _ ha' =>
    cases hs
    rw [ha'] at hw
    cases hw
  | opened =>
    cases hs
    cases hw
  | missing =>
    cases hs
    cases hw
  | conflicted =>
    cases hs
    cases hw
  | resumed _ hf hv ht => exact .inr ⟨_, ht.pods ▸ hf, hv⟩
  | created _ _ hc => exact .inr ⟨_, hc, PodStep.verdict_pod (ha.active _ rfl).2.1 _⟩
  | read ha' hr hq₀ hq' ht =>
    cases hs
    cases hw
    obtain rfl := hq.unique hq'
    rw [CompletionWatcher.result_observe, hr, (ha.active _ rfl).2.2.2 _ _ ha'] at hres
    rcases hi _ _ _ _ rfl ha' hr hq₀ with hv | hp
    · rw [firstVerdict_cons, show WatchEvent.verdict _ _ = none from hres] at hv
      exact .inl hv
    · exact .inr (ht.pods ▸ hp)
  | idles ha' hr hq₀ _ ht =>
    cases hs
    rcases hi _ _ _ _ rfl ha' hr hq₀ with hv | hp
    · cases hv
    · exact .inr (ht.pods ▸ hp)

private theorem Alert.signal (hi : r.Alert s) (f : CancelSignal → CancelSignal) :
    (r.signal f).Alert s := by
  intro a w watcher q hs hw hres hq
  obtain ⟨b, hb, rfl⟩ := RunStage.mapSignal_eq_active hs
  exact hi b w watcher q hb hw hres hq

theorem Alert.sees (h : r.Sees s t r') (hk : s.Keyed) (ha : r.Attends s) (hi : r.Alert s) :
    r'.Alert t := by
  cases h with
  | stays h => exact Alert.stays h hk ha hi
  | ticks h => exact Alert.ticks h ha hi
  | signalled _ h => exact h ▸ hi.signal _
  | dropped =>
    intro a w watcher q hs
    cases hs

end Runner

namespace Scene

/-- A run that waits for events and has none to read waits for a pod that is there and has not
finished. -/
theorem no_end_is_lost (history : List StoreAct) (acts : List Act)
    (ha : ∀ a ∈ acts, a.isOrdinary) {s : Scene}
    (hs : s = Scene.perform { store := ({} : PodStore).perform history } acts) {i : Nat} {r : Runner}
    (hr : s.runs[i]? = some r) {a : ActiveRun} (hstage : r.stage = .active a) {w : WatchId}
    {watcher : CompletionWatcher} (hw : a.await = .events w watcher)
    (hres : watcher.result = none) (hq : s.store.queued w = 0) :
    ∃ p, s.store.pods.find? r.key = some p ∧ p.verdict = none := by
  subst hs
  -- a run is alert when it is launched, and every act keeps it so
  have htidy := tidy_of_store history
  have halert : r.Alert _ := run_perform (fun _ _ _ _ hk ha h hi => hi.sees h hk ha) htidy ha
    (fun _ t p ctx a w watcher q he => by cases he) (by simp) hr
  obtain ⟨q, hlisten⟩ := ((tidy_perform htidy ha).attends i r hr).listening w
    (Runner.watch?_of_await hstage hw)
  have hlen : q.length = 0 := by rw [← hlisten.queued, hq]
  obtain rfl := List.eq_nil_of_length_eq_zero hlen
  rcases halert a w watcher [] hstage hw hres hlisten with hv | hp
  · cases hv
  · exact hp

/-- The pod of the sample step is created and begins to run, and the run reads of both. -/
def sampleActs : List Act :=
  [.launch .sample {}, .tick 0 .zero, .tick 0 .zero, .tick 0 .zero, .tick 0 .zero, .tick 0 .zero,
    .other (.call (.updateStatus "ns"
      { metadata := { name := some "unit-pod" }, status := some Phase.running.toStatus })),
    .tick 0 .zero]

theorem no_end_is_lost_sample : (∀ a ∈ sampleActs, a.isOrdinary) ∧
    ∃ r p, (Scene.perform {} sampleActs).runs[0]? = some r ∧ r.record.calls.length = 3 ∧
      r.record.events.length = 2 ∧
      (Scene.perform {} sampleActs).store.pods.find? r.key = some p ∧ p.verdict = none := by
  have ha : ∀ a ∈ sampleActs, a.isOrdinary := by decide
  have hrun : ∃ r a w watcher, (Scene.perform {} sampleActs).runs[0]? = some r ∧
      r.stage = .active a ∧ a.await = .events w watcher ∧ watcher.result = none ∧
      (Scene.perform {} sampleActs).store.queued w = 0 ∧ r.record.calls.length = 3 ∧
      r.record.events.length = 2 := ⟨_, _, _, _, rfl, rfl, rfl, rfl, rfl, rfl, rfl⟩
  obtain ⟨r, a, w, watcher, hr, hstage, hw, hres, hq, hcalls, hevents⟩ := hrun
  obtain ⟨p, hp, hv⟩ := no_end_is_lost [] sampleActs ha rfl hr hstage hw hres hq
  exact ⟨ha, r, p, hr, hcalls, hevents, hp, hv⟩

end Scene

end PodPipeline
