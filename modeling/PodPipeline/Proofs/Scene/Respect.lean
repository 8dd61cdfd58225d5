import PodPipeline.Proofs.Scene.Basic
import PodPipeline.Proofs.Store.Respect

/-! Scenes in which nobody deletes the pod at one place or touches it once it has finished: it is
created once at most. -/
namespace PodPipeline

namespace PodStep.Turn

variable {p : PodStep} {now : Instant} {s t : PodStore} {stage stage' : RunStage}
  {made : List Exchange}

theorem respects (h : p.Turn now s stage t stage' made) (k : PodKey) : s.Respects t k := by
  rcases h.changes with ht | ⟨ns, o, rfl⟩ | ⟨ns, q, rfl⟩
  · exact .of_pods ht.pods
  · exact .of_pods rfl
  · exact PodStore.respects_call (c := .create ns q) rfl

theorem length_le (h : p.Turn now s stage t stage' made) : made.length ≤ 1 := by
  cases h <;> simp

theorem creations_le (h : p.Turn now s stage t stage' made) {rec : Record}
    (ha : Runner.Attends s ⟨p, stage, rec⟩) (k : PodKey) :
    made.countP (·.creates k) + s.podsAt k ≤ t.podsAt k := by
  cases hc : made.any (·.creates k) with
  | false =>
    have hzero : made.countP (·.creates k) = 0 := by
      rw [List.countP_eq_zero]
      simpa using hc
    have := (h.respects k).podsAt_le
    omega
  | true =>
    obtain ⟨a, w, hs, -, hf, -, hnew, hk, -⟩ := h.of_creates hc
    have hkey : k = p.key := by
      rw [hk, PodStep.name_pod (ha.active a hs).2.1]
      rfl
    have hbefore : s.podsAt k = 0 := by simp [PodStore.podsAt, hkey, hf]
    have hafter : t.podsAt k = 1 := by simp [PodStore.podsAt, hkey, hnew]
    have hone := Nat.le_trans (List.countP_le_length (p := (·.creates k))) h.length_le
    omega

end PodStep.Turn

/-- Nobody deletes the pod at `k`, or touches it once it has finished. -/
def Act.respects (k : PodKey) (s : Scene) : Act → Bool
  | .other (.call c) => s.store.admits k c
  | a => a.isOrdinary

theorem Act.isOrdinary_of_respects {k : PodKey} {s : Scene} {a : Act} (h : a.respects k s) :
    a.isOrdinary := by
  cases a with
  | other a => cases a <;> first | rfl | exact h
  | _ => rfl

namespace Scene

/-- Along `acts`, nobody deletes the pod at `k`, or touches it once it has finished. -/
def isRespected (k : PodKey) (s : Scene) : List Act → Bool
  | [] => true
  | a :: acts => a.respects k s && (s.act a).isRespected k acts

variable {s : Scene} {k : PodKey} {a : Act} {acts : List Act} {i j : Nat} {r r' : Runner}
  {f : Runner → PodStore → PodStore × Runner}

private theorem respects_update
    (hf : ∀ r, s.runs[j]? = some r → s.store.Respects (f r s.store).1 k) :
    s.store.Respects (s.update j f).store k := by
  cases hj : s.runs[j]? with
  | none =>
    rw [update_of_none hj]
    exact .of_pods rfl
  | some r =>
    rw [(update_self hj).2]
    exact hf r hj

theorem respects_act (hs : s.Tidy) (ha : a.respects k s) :
    s.store.Respects (s.act a).store k := by
  cases a with
  | launch => exact .of_pods rfl
  | cancel j => exact respects_update fun _ _ => .of_pods rfl
  | abandon j => exact respects_update fun _ _ => .of_pods rfl
  | drop j => exact respects_update fun r _ => .of_pods (r.sameBut_drop s.store).pods
  | tick j now =>
    refine respects_update fun r hr => ?_
    obtain ⟨made, -, hturn⟩ := Runner.turn (hs.attends j r hr) hs.keyed now
    exact hturn.respects k
  | other a =>
    rcases s.act_other a with h | ⟨-, h⟩
    · rw [h]
      exact .of_pods rfl
    rw [h]
    cases a with
    | call c => exact PodStore.respects_call ha
    | next w => exact .of_pods (PodStore.SameBut.next s.store w).pods
    | stop w => exact .of_pods (PodStore.SameBut.stop s.store w).pods
    | insert => cases ha
    | inject => cases ha
    | closeWatches => cases ha

/-! Creations of the pod at `k`. -/

private theorem update_creations
    (hf : ∀ r, s.runs[j]? = some r → ∃ made, (f r s.store).2.record.calls = r.record.calls ++ made ∧
      made.countP (·.creates k) + s.store.podsAt k ≤ (f r s.store).1.podsAt k) :
    ∃ made, (s.update j f).calls = s.calls ++ made ∧
      made.countP (·.creates k) + s.store.podsAt k ≤ (s.update j f).store.podsAt k := by
  cases hj : s.runs[j]? with
  | none =>
    rw [update_of_none hj]
    exact ⟨[], (List.append_nil _).symm, by simp⟩
  | some r =>
    obtain ⟨made, hcalls, hmade⟩ := hf r hj
    refine ⟨made, ?_, ?_⟩
    · unfold update
      rw [hj]
      simp [hcalls]
    · rw [(update_self hj).2]
      exact hmade

/-- Of the calls that an act makes, one at most creates the pod, and only where there is none. -/
theorem act_creations (hs : s.Tidy) (ha : a.respects k s) :
    ∃ made, (s.act a).calls = s.calls ++ made ∧
      made.countP (·.creates k) + s.store.podsAt k ≤ (s.act a).store.podsAt k := by
  have hresp := (respects_act hs ha).podsAt_le
  have hnone (t : Scene) (hc : t.calls = s.calls)
      (ht : s.store.podsAt k ≤ t.store.podsAt k) : ∃ made, t.calls = s.calls ++ made ∧
      made.countP (·.creates k) + s.store.podsAt k ≤ t.store.podsAt k :=
    ⟨[], by rw [hc, List.append_nil], by simpa using ht⟩
  cases a with
  | launch p ctx => exact hnone _ rfl hresp
  | cancel j => exact update_creations fun r _ => ⟨[], by simp [Runner.signal], by simp⟩
  | abandon j => exact update_creations fun r _ => ⟨[], by simp [Runner.signal], by simp⟩
  | drop j =>
    refine update_creations fun r _ => ⟨[], ?_, ?_⟩
    · unfold Runner.drop
      split <;> simp
    · have := (PodStore.Respects.of_pods (k := k) (r.sameBut_drop s.store).pods).podsAt_le
      simpa using this
  | tick j now =>
    refine update_creations fun r hr => ?_
    obtain ⟨made, hc, ht⟩ := Runner.turn (hs.attends j r hr) hs.keyed now
    exact ⟨made, hc, ht.creations_le (hs.attends j r hr) k⟩
  | other a =>
    rcases s.act_other a with h | ⟨-, h⟩
    · exact hnone _ (by rw [h]) hresp
    cases a with
    | call c =>
      rw [h]
      exact ⟨_, rfl, PodStore.creations_call ha⟩
    | _ => exact hnone _ (by simp [h, StoreAct.exchanges]) hresp

theorem isRespected_tidy (hs : s.Tidy) (ha : s.isRespected k acts) : (s.perform acts).Tidy := by
  induction acts generalizing s with
  | nil => exact hs
  | cons a acts ih =>
    simp only [isRespected, Bool.and_eq_true] at ha
    exact ih (tidy_act hs (Act.isOrdinary_of_respects ha.1)) ha.2

/-- Every creation so far has left a pod that is still there. -/
theorem creations_perform (hs : s.Tidy) (ha : s.isRespected k acts)
    (hi : s.calls.countP (·.creates k) ≤ s.store.podsAt k) :
    (s.perform acts).calls.countP (·.creates k) ≤ (s.perform acts).store.podsAt k := by
  induction acts generalizing s with
  | nil => exact hi
  | cons a acts ih =>
    simp only [isRespected, Bool.and_eq_true] at ha
    refine ih (tidy_act hs (Act.isOrdinary_of_respects ha.1)) ha.2 ?_
    obtain ⟨made, hcalls, hmade⟩ := act_creations hs ha.1
    rw [hcalls, List.countP_append]
    omega

end Scene

end PodPipeline
