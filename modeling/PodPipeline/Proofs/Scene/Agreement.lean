import PodPipeline.Proofs.Scene.Respect

/-! Runs that address the same pod agree, as long as nobody deletes the pod or touches it once it
has finished. -/
namespace PodPipeline

namespace Runner

variable {s t : PodStore} {r r' : Runner} {o : Outcome}

/-- The run has returned the outcome `o`, or knows of it, or an event that it may read tells it. -/
inductive Knows (s : PodStore) (r : Runner) (o : Outcome) : Prop where
  | returned (hs : r.stage = .finished (.ok o))
  | decided {a w watcher} (hs : r.stage = .active a) (ha : a.await = .events w watcher)
      (hr : watcher.result = some o)
  | told {w q e} (hw : r.watch? = some w) (hq : s.Listening w r.key q) (he : e ∈ q)
      (hv : e.verdict r.step.name = some o)

/-- What the run knows is the outcome of its pod. -/
def Agrees (s : PodStore) (r : Runner) : Prop := ∀ o, r.Knows s o → s.verdict? r.key = some o

theorem not_knows (ho : r.stage.isOver) (hn : ∀ o, r.stage ≠ .finished (.ok o)) :
    ¬r.Knows s o := by
  intro h
  cases h with
  | returned hs => exact hn o hs
  | decided hs =>
    rw [hs] at ho
    cases ho
  | told hw =>
    rw [watch?, RunStage.watch?_of_isOver ho] at hw
    cases hw

/-- Among the events that a run may read, those that are new tell the outcome of its pod. -/
private theorem told_cases {w : WatchId} {q q' : List WatchEvent} {e : WatchEvent}
    (hd : s.Drifts t (some w) r.key) (hresp : s.Respects t r.key) (hw : r.watch? = some w)
    (hq : s.Listening w r.key q) (hq' : t.Listening w r.key q') (he : e ∈ q')
    (hv : e.verdict r.step.name = some o) : r.Knows s o ∨ t.verdict? r.key = some o := by
  obtain ⟨news, hc, hnews⟩ := hd
  obtain rfl := hq'.unique (hnews w q rfl hq)
  rcases List.mem_append.mp he with he | he
  · exact .inl (.told hw hq he hv)
  · rcases hc.told he hv with ⟨p, hp, hpv⟩ | ⟨hs, ht⟩
    · exact .inr (by rw [PodStore.verdict?_eq hp, hpv])
    · obtain ⟨p, hp⟩ := Option.isSome_iff_exists.mp hs
      obtain ⟨p', hp', -⟩ := hresp p hp
      rw [ht] at hp'
      cases hp'

/-- A run that goes on without reading an event learns no outcome but from its pod. -/
private theorem knows_onward {p : PodStep} {a : ActiveRun} {await : Await} {rec rec' : Record}
    (h : Knows t ⟨p, .active (a.onward await), rec'⟩ o) (ha : Attends s ⟨p, .active a, rec⟩)
    (hresp : s.Respects t p.key) (hw : (RunStage.active a).watch? = await.watch?)
    (hn : ∀ w watcher, await = .events w watcher → watcher.result = none)
    (hd : ∀ w, s.Drifts t (some w) p.key) :
    Knows s ⟨p, .active a, rec⟩ o ∨ t.verdict? p.key = some o := by
  cases h with
  | returned hs => cases hs
  | decided hs ha hr =>
    cases hs
    rw [hn _ _ ha] at hr
    cases hr
  | told hw' hq' he hv =>
    have hown := hw.trans hw'
    obtain ⟨q, hq⟩ := ha.listening _ hown
    exact told_cases (hd _) hresp hown hq hq' he hv

private theorem knows_ticks {p : PodStep} {stage stage' : RunStage} {rec rec' : Record}
    {made : List Exchange} {now : Instant} (h : p.Turn now s stage t stage' made)
    (hk : s.Keyed) (ha : Attends s ⟨p, stage, rec⟩) (hresp : s.Respects t p.key)
    (hkn : Knows t ⟨p, stage', rec'⟩ o) :
    Knows s ⟨p, stage, rec⟩ o ∨ t.verdict? p.key = some o := by
  have hsame (ht : s.SameBut none t) (w : WatchId) : s.Drifts t (some w) p.key :=
    ht.drifts (by simp) p.key
  cases h with
  | refused | undated | lost => exact absurd hkn (not_knows rfl (by simp))
  | cut _ _ hc =>
    refine absurd hkn (not_knows hc.isOver fun o' ho => ?_)
    rw [show stage' = _ from ho] at hc
    exact hc
  | rested ho =>
    cases hkn with
    | returned hs => exact .inl (.returned hs)
    | decided hs =>
      cases hs
      cases ho
    | told hw =>
      rw [watch?, RunStage.watch?_of_isOver ho] at hw
      cases hw
  | begun _ _ _ hw =>
    cases hkn with
    | returned hs => cases hs
    | decided hs ha =>
      cases hs
      rw [hw] at ha
      cases ha
    | told hw' =>
      rw [watch?, RunStage.watch?_active hw] at hw'
      cases hw'
  | opened =>
    cases hkn with
    | returned hs => cases hs
    | decided hs ha =>
      cases hs
      cases ha
    | told hw hq he =>
      cases hw
      obtain rfl := hq.unique (PodStore.listening_watch s p.key)
      cases he
  | settled _ hf hv ht =>
    cases hkn with
    | returned hs =>
      cases hs
      exact .inr (by rw [PodStore.verdict?_eq (ht.pods ▸ hf), hv])
    | decided hs => cases hs
    | told hw => cases hw
  | resumed hw _ _ ht =>
    refine knows_onward hkn ha hresp (RunStage.watch?_looking hw) (fun w watcher he => ?_)
      (hsame ht)
    cases he
    rfl
  | missing hw _ ht =>
    exact knows_onward hkn ha hresp ((RunStage.watch?_active hw).trans rfl) (by simp) (hsame ht)
  | conflicted hw _ ht =>
    exact knows_onward hkn ha hresp ((RunStage.watch?_active hw).trans rfl) (by simp) (hsame ht)
  | created hw =>
    refine knows_onward hkn ha hresp ((RunStage.watch?_active hw).trans rfl)
      (fun w watcher he => ?_) fun w => PodStore.drifts_call hk (.create _ _) (some w) p.key
    cases he
    rfl
  | read hw hr hq hq' =>
    have hown := RunStage.watch?_active hw
    cases hkn with
    | returned hs => cases hs
    | decided hs hw' hr' =>
      cases hs
      cases hw'
      rw [CompletionWatcher.result_observe, hr, (ha.active _ rfl).2.2.2 _ _ hw] at hr'
      exact .inl (.told hown hq List.mem_cons_self hr')
    | told hw₁ hq₁ he hv =>
      cases hw₁
      obtain rfl := hq₁.unique hq'
      exact .inl (.told hown hq (List.mem_cons_of_mem _ he) hv)
  | @idles a _ w _ hw hr hq hq' =>
    cases hkn with
    | returned hs => cases hs
    | decided hs hw' hr' =>
      cases hs
      have hw' : a.await = _ := hw'
      rw [hw] at hw'
      cases hw'
      rw [hr] at hr'
      cases hr'
    | @told v _ _ hv hq₁ he =>
      have hown : (RunStage.active a).watch? = some w := RunStage.watch?_active hw
      obtain rfl : w = v := Option.some.inj (hown.symm.trans hv)
      cases hq₁.unique hq'
      cases he
  | decided hw hr ht =>
    cases hkn with
    | returned hs =>
      cases hs
      exact .inl (.decided rfl hw hr)
    | decided hs => cases hs
    | told hw => cases hw

theorem Agrees.sees (h : r.Sees s t r') (hk : s.Keyed) (ha : r.Attends s)
    (hresp : s.Respects t r.key) (hi : r.Agrees s) : r'.Agrees t := by
  have hkey : r'.key = r.key := congrArg PodStep.key h.step_eq
  intro o hkn
  have hcases : r.Knows s o ∨ t.verdict? r.key = some o := by
    cases h with
    | stays hd =>
      cases hkn with
      | returned hs => exact .inl (.returned hs)
      | decided hs hw hr => exact .inl (.decided hs hw hr)
      | told hw hq he hv =>
        obtain ⟨q, hq₀⟩ := ha.listening _ hw
        exact told_cases (hw ▸ hd r.key) hresp hw hq₀ hq he hv
    | ticks h => exact knows_ticks h hk ha hresp hkn
    | dropped => exact absurd hkn (not_knows rfl (by simp))
    | signalled _ h =>
      subst h
      cases hkn with
      | told hw hq he hv =>
        exact .inl (.told ((RunStage.watch?_mapSignal _ r.stage).symm.trans hw) hq he hv)
      | returned hs =>
        have ho : r.stage.isOver := by
          rw [← RunStage.isOver_mapSignal, show r.stage.mapSignal _ = _ from hs]
          rfl
        exact .inl (.returned ((RunStage.mapSignal_of_isOver ho).symm.trans hs))
      | decided hs hw hr =>
        obtain ⟨a, hs', rfl⟩ := RunStage.mapSignal_eq_active hs
        exact .inl (.decided hs' hw hr)
  rw [hkey]
  rcases hcases with hkn | hv
  · exact hresp.verdict? (hi o hkn)
  · exact hv

end Runner

namespace Scene

variable {s : Scene} {k : PodKey} {a : Act} {acts : List Act}

/-- Whatever the runs for `k` know is the outcome of the pod there. -/
def Agrees (k : PodKey) (s : Scene) : Prop :=
  ∀ (i : Nat) (r : Runner), s.runs[i]? = some r → r.key = k → r.Agrees s.store

theorem agrees_act (hs : s.Tidy) (ha : a.respects k s) (hi : s.Agrees k) : (s.act a).Agrees k := by
  intro i r' hr' hk
  rcases act_from hs (Act.isOrdinary_of_respects ha) hr' with
    ⟨r, hr, hsees⟩ | ⟨p, ctx, -, -, rfl⟩
  · have hkey : r.key = k := (congrArg PodStep.key hsees.step_eq).symm.trans hk
    exact (hi i r hr hkey).sees hsees hs.keyed (hs.attends i r hr) (hkey ▸ respects_act hs ha)
  · intro o hkn
    cases hkn with
    | returned hs => cases hs
    | decided hs => cases hs
    | told hw => cases hw

theorem agrees_perform (hs : s.Tidy) (ha : s.isRespected k acts) (hi : s.Agrees k) :
    (s.perform acts).Agrees k := by
  induction acts generalizing s with
  | nil => exact hi
  | cons a acts ih =>
    simp only [isRespected, Bool.and_eq_true] at ha
    exact ih (tidy_act hs (Act.isOrdinary_of_respects ha.1)) ha.2 (agrees_act hs ha.1 hi)

end Scene

end PodPipeline
