import PodPipeline.Proofs.Scene.Turn

/-! Any number of runs at one store, among other actors that use the store as they like.

What happens is a list of acts, in the order in which they happen. For each run, every act is one of
a few things; `Scene.act_seen` lists them. -/
namespace PodPipeline

/-- Runs at a store. A run is known by its place in the list. -/
structure Scene where
  store : PodStore := {}
  runs : List Runner := []
  /-- The calls of the runs and of all others, in their order. -/
  calls : List Exchange := []

inductive Act where
  /-- Another actor uses the store, or reads or stops a watch of its own. -/
  | other (a : StoreAct)
  | launch (s : PodStep) (ctx : RunContext)
  /-- One small step of a run. -/
  | tick (i : Nat) (now : Instant)
  | cancel (i : Nat)
  | abandon (i : Nat)
  | drop (i : Nat)
deriving DecidableEq, Repr

/-- What another actor asks the store for, and the answer. -/
def StoreAct.exchanges (s : PodStore) : StoreAct → List Exchange
  | .call c => [⟨c, some (s.call c).2⟩]
  | _ => []

/-- Whether no pod is put into the store without a call, no event is made up and no watch is
closed. -/
def Act.isOrdinary : Act → Bool
  | .other a => a.isOrdinary
  | _ => true

namespace Scene

/-- Whether a watch belongs to a run, which alone may read or stop it. -/
def owns (s : Scene) (w : WatchId) : Bool := s.runs.any (·.watch? = some w)

def update (s : Scene) (i : Nat) (f : Runner → PodStore → PodStore × Runner) : Scene :=
  match s.runs[i]? with
  | none => s
  | some r =>
    let (store, r') := f r s.store
    { store, runs := s.runs.set i r'
      calls := s.calls ++ r'.record.calls.drop r.record.calls.length }

def act (s : Scene) : Act → Scene
  | .other a =>
    if a.watch?.any s.owns then s
    else { s with store := s.store.act a, calls := s.calls ++ a.exchanges s.store }
  | .launch p ctx => { s with runs := s.runs ++ [⟨p, .idle ctx, {}⟩] }
  | .tick i now => s.update i (·.tick now)
  | .cancel i => s.update i fun r store => (store, r.signal .send)
  | .abandon i => s.update i fun r store => (store, r.signal .abandon)
  | .drop i => s.update i (·.drop)

def perform (s : Scene) (acts : List Act) : Scene := acts.foldl act s

@[simp] theorem perform_nil (s : Scene) : s.perform [] = s := rfl

@[simp] theorem perform_cons (s : Scene) (a : Act) (acts : List Act) :
    s.perform (a :: acts) = (s.act a).perform acts := rfl

/-- What holds of every scene that comes of a store: pods stand at their places, every run holds an
open watch of its own, and no two runs hold the same. -/
structure Tidy (s : Scene) : Prop where
  keyed : s.store.Keyed
  attends : ∀ (i : Nat) (r : Runner), s.runs[i]? = some r → r.Attends s.store
  apart : ∀ (i j : Nat) (r r' : Runner) (w : WatchId), s.runs[i]? = some r →
    s.runs[j]? = some r' → r.watch? = some w → r'.watch? = some w → i = j

theorem tidy_of_store (history : List StoreAct) :
    Tidy { store := ({} : PodStore).perform history } :=
  ⟨PodStore.keyed_perform PodStore.keyed_empty history, by simp, by simp⟩

end Scene

/-- What an act is for a run: a small step, a signal, its end, or something that others do. -/
inductive Runner.Sees (s t : PodStore) (r : Runner) : Runner → Prop where
  | stays (h : ∀ k, s.Drifts t r.watch? k) : Sees s t r r
  | ticks {now stage rec made} (h : r.step.Turn now s r.stage t stage made)
      (hc : rec.calls = r.record.calls ++ made) :
    Sees s t r { r with stage, record := rec }
  | signalled {f} (hf : f = CancelSignal.send ∨ f = .abandon) (h : t = s) : Sees s t r (r.signal f)
  | dropped (h : s.SameBut r.watch? t) : Sees s t r { r with stage := .aborted }

namespace Runner

variable {s t : PodStore} {r r' : Runner} {w : WatchId}

theorem sees_drop (r : Runner) (s : PodStore) : r.Sees s (r.drop s).1 (r.drop s).2 := by
  have h := sameBut_drop r s
  unfold drop at h ⊢
  split
  · exact .stays fun k => .refl s _ k
  · rename_i ho
    rw [if_neg ho] at h
    exact .dropped h

theorem Sees.attends (h : r.Sees s t r') (hs : s.Keyed) (ha : r.Attends s) : r'.Attends t := by
  cases h with
  | stays h => exact ha.drifts (h r.key)
  | ticks h => exact ha.turn hs h
  | signalled _ h => exact h ▸ ha.signal _
  | dropped => exact .of_isOver rfl

theorem Sees.watch?_eq (h : r.Sees s t r') (hw : r'.watch? = some w) :
    r.watch? = some w ∨ w = ⟨s.watches.length⟩ := by
  cases h with
  | stays => exact .inl hw
  | ticks h => exact h.watch?_eq hw
  | signalled => exact .inl ((RunStage.watch?_mapSignal _ r.stage).symm.trans hw)
  | dropped => cases hw

theorem Sees.step_eq (h : r.Sees s t r') : r'.step = r.step := by
  cases h <;> rfl

end Runner

namespace Scene

variable {s : Scene} {i j : Nat} {r r' : Runner} {a : Act}
  {f : Runner → PodStore → PodStore × Runner}

theorem update_of_none (h : s.runs[i]? = none) : s.update i f = s := by
  unfold update
  rw [h]

theorem update_self (hr : s.runs[i]? = some r) :
    (s.update i f).runs[i]? = some (f r s.store).2 ∧ (s.update i f).store = (f r s.store).1 := by
  have hi := (List.getElem?_eq_some_iff.mp hr).1
  unfold update
  rw [hr]
  exact ⟨List.getElem?_set_self hi, rfl⟩

/-- Another actor leaves the runs alone. It does nothing where a watch is a run's. -/
theorem act_other (s : Scene) (a : StoreAct) : s.act (.other a) = s ∨
    (∀ w, a.watch? = some w → s.owns w = false) ∧ s.act (.other a) =
      { s with store := s.store.act a, calls := s.calls ++ a.exchanges s.store } := by
  unfold act
  dsimp only
  split
  · exact .inl rfl
  · rename_i h
    refine .inr ⟨fun w hw => ?_, rfl⟩
    simpa [hw] using h

theorem runs_act_other (s : Scene) (a : StoreAct) : (s.act (.other a)).runs = s.runs := by
  rcases s.act_other a with h | ⟨-, h⟩ <;> rw [h]

theorem runs_update_of_ne (h : j ≠ i) : (s.update j f).runs[i]? = s.runs[i]? := by
  unfold update
  split
  · rfl
  · exact List.getElem?_set_ne h

theorem length_update : (s.update i f).runs.length = s.runs.length := by
  unfold update
  split
  · rfl
  · exact List.length_set

/-- What a run does drifts past those who hold other watches. -/
def Minds (s : Scene) (j : Nat) (f : Runner → PodStore → PodStore × Runner) : Prop :=
  ∀ r, s.runs[j]? = some r → r.Sees s.store (f r s.store).1 (f r s.store).2 ∧
    ∀ mine : Option WatchId, (∀ w, mine = some w → r.watch? ≠ some w) →
      ∀ k, s.store.Drifts (f r s.store).1 mine k

theorem minds_tick (hs : s.Tidy) (j : Nat) (now : Instant) : s.Minds j (·.tick now) := by
  intro r hr
  obtain ⟨made, hc, ht⟩ := Runner.turn (hs.attends j r hr) hs.keyed now
  exact ⟨.ticks ht hc, fun mine hm k => ht.drifts hs.keyed hm k⟩

theorem minds_signal (s : Scene) (j : Nat) {g : CancelSignal → CancelSignal}
    (hg : g = .send ∨ g = .abandon) : s.Minds j fun r store => (store, r.signal g) :=
  fun _ _ => ⟨.signalled hg rfl, fun mine _ k => PodStore.Drifts.refl s.store mine k⟩

theorem minds_drop (s : Scene) (j : Nat) : s.Minds j (·.drop) :=
  fun r _ => ⟨r.sees_drop s.store, fun _ hm k => (r.sameBut_drop s.store).drifts hm k⟩

private theorem sees_update (hs : s.Tidy) (hr : s.runs[i]? = some r) (hf : s.Minds j f) :
    ∃ r', (s.update j f).runs[i]? = some r' ∧ r.Sees s.store (s.update j f).store r' := by
  by_cases hij : j = i
  · subst hij
    obtain ⟨hself, hstore⟩ := update_self (f := f) hr
    exact ⟨_, hself, hstore ▸ (hf r hr).1⟩
  · refine ⟨r, (runs_update_of_ne hij).trans hr, .stays fun k => ?_⟩
    cases hj : s.runs[j]? with
    | none =>
      rw [update_of_none hj]
      exact .refl _ _ k
    | some r' =>
      rw [(update_self hj).2]
      refine (hf r' hj).2 r.watch? (fun w hw hw' => hij ?_) k
      exact hs.apart j i r' r w hj hr hw' hw

theorem not_owns (hr : s.runs[i]? = some r) {w : WatchId} (h : s.owns w = false) :
    r.watch? ≠ some w := by
  have hmem := List.mem_of_getElem? hr
  simp only [owns, List.any_eq_false, decide_eq_true_eq] at h
  exact h r hmem

/-- Every act is one of the things that a run may see. -/
theorem act_seen (hs : s.Tidy) (ha : a.isOrdinary) (hr : s.runs[i]? = some r) :
    ∃ r', (s.act a).runs[i]? = some r' ∧ r.Sees s.store (s.act a).store r' := by
  cases a with
  | other a =>
    refine ⟨r, by rw [runs_act_other, hr], .stays fun k => ?_⟩
    rcases s.act_other a with h | ⟨hw, h⟩
    · rw [h]
      exact .refl _ _ k
    rw [h]
    cases a with
    | call c => exact PodStore.drifts_call hs.keyed c _ k
    | next w =>
      refine (PodStore.SameBut.next s.store w).drifts (fun v hv he => ?_) k
      exact not_owns hr (hw w rfl) (by rw [hv, he])
    | stop w =>
      refine (PodStore.SameBut.stop s.store w).drifts (fun v hv he => ?_) k
      exact not_owns hr (hw w rfl) (by rw [hv, he])
    | insert => cases ha
    | inject => cases ha
    | closeWatches => cases ha
  | launch p ctx =>
    refine ⟨r, ?_, .stays fun k => .refl _ _ k⟩
    have hi := (List.getElem?_eq_some_iff.mp hr).1
    exact (List.getElem?_append_left hi).trans hr
  | tick j now => exact sees_update hs hr (minds_tick hs j now)
  | cancel j => exact sees_update hs hr (minds_signal s j (.inl rfl))
  | abandon j => exact sees_update hs hr (minds_signal s j (.inr rfl))
  | drop j => exact sees_update hs hr (minds_drop s j)

/-- A run that is there only after an act has just been launched. -/
theorem act_launches (hi : s.runs[i]? = none) (hr : (s.act a).runs[i]? = some r') :
    ∃ p ctx, a = .launch p ctx ∧ i = s.runs.length ∧ r' = ⟨p, .idle ctx, {}⟩ := by
  have hlen := List.getElem?_eq_none_iff.mp hi
  have hlt := (List.getElem?_eq_some_iff.mp hr).1
  cases a with
  | launch p ctx =>
    change i < (s.runs ++ [_]).length at hlt
    rw [List.length_append, List.length_singleton] at hlt
    obtain rfl : i = s.runs.length := by omega
    change (s.runs ++ [_])[s.runs.length]? = some r' at hr
    rw [List.getElem?_concat_length] at hr
    exact ⟨p, ctx, rfl, rfl, (Option.some.inj hr).symm⟩
  | other a =>
    rw [runs_act_other] at hlt
    omega
  | _ =>
    exfalso
    simp only [act, length_update] at hlt
    omega

/-- A run that is there after an act was there before, or has just been launched. -/
theorem act_from (hs : s.Tidy) (ha : a.isOrdinary) (hr : (s.act a).runs[i]? = some r') :
    (∃ r, s.runs[i]? = some r ∧ r.Sees s.store (s.act a).store r') ∨
      ∃ p ctx, a = .launch p ctx ∧ i = s.runs.length ∧ r' = ⟨p, .idle ctx, {}⟩ := by
  cases hi : s.runs[i]? with
  | some r =>
    obtain ⟨r₁, hr₁, hsees⟩ := act_seen hs ha hi
    rw [hr] at hr₁
    cases hr₁
    exact .inl ⟨r, rfl, hsees⟩
  | none => exact .inr (act_launches hi hr)

/-- An act changes one run at most. -/
theorem act_changes_one (s : Scene) (a : Act) :
    ∃ j, ∀ i : Nat, i ≠ j → (s.act a).runs[i]? = s.runs[i]? := by
  cases a with
  | other a => exact ⟨0, fun i _ => by rw [runs_act_other]⟩
  | launch p ctx =>
    refine ⟨s.runs.length, fun i hi => ?_⟩
    change (s.runs ++ [_])[i]? = _
    rcases Nat.lt_or_gt_of_ne hi with h | h
    · exact List.getElem?_append_left h
    · rw [List.getElem?_eq_none (by simp; omega), List.getElem?_eq_none (by omega)]
  | tick j => exact ⟨j, fun _ hi => runs_update_of_ne hi.symm⟩
  | cancel j => exact ⟨j, fun _ hi => runs_update_of_ne hi.symm⟩
  | abandon j => exact ⟨j, fun _ hi => runs_update_of_ne hi.symm⟩
  | drop j => exact ⟨j, fun _ hi => runs_update_of_ne hi.symm⟩

private theorem keyed_update (hs : s.Tidy) (hf : s.Minds j f) : (s.update j f).store.Keyed := by
  cases hj : s.runs[j]? with
  | none =>
    rw [update_of_none hj]
    exact hs.keyed
  | some r =>
    rw [(update_self hj).2]
    intro k p hp
    obtain ⟨news, hc, -⟩ := (hf r hj).2 none (by simp) k
    exact hc.key (hs.keyed k) p hp

private theorem keyed_after (hs : s.Tidy) (a : Act) : (s.act a).store.Keyed := by
  cases a with
  | other a =>
    rcases s.act_other a with h | ⟨-, h⟩
    · rw [h]
      exact hs.keyed
    · rw [h]
      exact PodStore.keyed_act hs.keyed a
  | launch => exact hs.keyed
  | tick j now => exact keyed_update hs (minds_tick hs j now)
  | cancel j => exact keyed_update hs (minds_signal s j (.inl rfl))
  | abandon j => exact keyed_update hs (minds_signal s j (.inr rfl))
  | drop j => exact keyed_update hs (minds_drop s j)

theorem tidy_act (hs : s.Tidy) (ha : a.isOrdinary) : (s.act a).Tidy where
  keyed := keyed_after hs a
  attends i r' hr' := by
    rcases act_from hs ha hr' with ⟨r, hr, hsees⟩ | ⟨p, ctx, -, -, rfl⟩
    · exact hsees.attends hs.keyed (hs.attends i r hr)
    · exact ⟨by simp [Runner.watch?, RunStage.watch?], by simp⟩
  apart i j r' r₁' w hr' hr₁' hw hw₁ := by
    refine Decidable.byContradiction fun hij => ?_
    obtain ⟨m, hm⟩ := act_changes_one s a
    -- one of the two has not changed, and no other run can have come to hold its watch
    have key {i j : Nat} {r' r : Runner} (hij : i ≠ j) (hr' : (s.act a).runs[i]? = some r')
        (hr : s.runs[j]? = some r) (hw : r'.watch? = some w) (hw' : r.watch? = some w) :
        False := by
      rcases act_from hs ha hr' with ⟨r₀, hr₀, hsees⟩ | ⟨p, ctx, -, -, rfl⟩
      · rcases hsees.watch?_eq hw with hold | hnew
        · exact hij (hs.apart i j r₀ r w hr₀ hr hold hw')
        · obtain ⟨q, hq⟩ := (hs.attends j r hr).listening w hw'
          have := hq.lt
          rw [hnew] at this
          exact Nat.lt_irrefl _ this
      · cases hw
    by_cases hi : i = m
    · exact key hij hr' ((hm j (by omega)).symm.trans hr₁') hw hw₁
    · exact key (Ne.symm hij) hr₁' ((hm i hi).symm.trans hr') hw₁ hw

theorem tidy_perform (hs : s.Tidy) {acts : List Act} (ha : ∀ a ∈ acts, a.isOrdinary) :
    (s.perform acts).Tidy := by
  induction acts generalizing s with
  | nil => exact hs
  | cons a acts ih =>
    obtain ⟨ha₀, hacts⟩ := List.forall_mem_cons.mp ha
    exact ih (tidy_act hs ha₀) hacts

/-- What every act preserves that a run may see holds of the run in the end, if it holds in the
beginning and of runs that are launched. -/
theorem run_perform {P : PodStore → Runner → Prop}
    (hP : ∀ s t r r', s.Keyed → r.Attends s → r.Sees s t r' → P s r → P t r') (hs : s.Tidy)
    {acts : List Act} (ha : ∀ a ∈ acts, a.isOrdinary)
    (hnew : s.runs[i]? = none → ∀ t p ctx, P t ⟨p, .idle ctx, {}⟩)
    (hold : ∀ r, s.runs[i]? = some r → P s.store r)
    (hr' : (s.perform acts).runs[i]? = some r') : P (s.perform acts).store r' := by
  induction acts generalizing s with
  | nil => exact hold r' hr'
  | cons a acts ih =>
    obtain ⟨ha₀, hacts⟩ := List.forall_mem_cons.mp ha
    refine ih (tidy_act hs ha₀) hacts (fun hn => hnew ?_) (fun r hr => ?_) hr'
    · cases hi : s.runs[i]? with
      | none => rfl
      | some r =>
        obtain ⟨r₁, hr₁, -⟩ := act_seen hs ha₀ hi
        rw [hn] at hr₁
        cases hr₁
    · rcases act_from hs ha₀ hr with ⟨r₀, hr₀, hsees⟩ | ⟨p, ctx, -, hi, rfl⟩
      · exact hP _ _ _ _ hs.keyed (hs.attends i r₀ hr₀) hsees (hold r₀ hr₀)
      · exact hnew (by simp [hi]) _ p ctx

/-- The same for a run that is there in the beginning. -/
theorem run_perform_of_some {P : PodStore → Runner → Prop}
    (hP : ∀ s t r r', s.Keyed → r.Attends s → r.Sees s t r' → P s r → P t r') (hs : s.Tidy)
    {acts : List Act} (ha : ∀ a ∈ acts, a.isOrdinary) (hr : s.runs[i]? = some r)
    (h : P s.store r) (hr' : (s.perform acts).runs[i]? = some r') :
    P (s.perform acts).store r' := by
  refine run_perform hP hs ha (fun hn => ?_) (fun r₁ hr₁ => ?_) hr'
  · rw [hr] at hn
    cases hn
  · rw [hr] at hr₁
    cases hr₁
    exact h

theorem step_perform (hs : s.Tidy) {acts : List Act} (ha : ∀ a ∈ acts, a.isOrdinary)
    (hr : s.runs[i]? = some r) (hr' : (s.perform acts).runs[i]? = some r') : r'.step = r.step :=
  run_perform_of_some (P := fun _ r₁ => r₁.step = r.step)
    (fun _ _ _ _ _ _ hsees h => hsees.step_eq.trans h) hs ha hr rfl hr'

end Scene

end PodPipeline
