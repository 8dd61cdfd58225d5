import Mathlib.Logic.Function.Basic
import PodPipeline.Proofs.Store.Change

/-! A store answers its calls as a map from places to pods would, and keeps a list of them. A call
that fails leaves no other trace than its entry in the list. -/
namespace PodPipeline

def ClientCall.operation : ClientCall → Operation
  | .create ns p => .create ns p.name
  | .get ns name => .get ns name
  | .updateStatus ns p => .updateStatus ns p.name
  | .watch ns options => .watch ns options
  | .delete ns name => .delete ns name

namespace StoreAct

def operation? : StoreAct → Option Operation
  | .call c => some c.operation
  | _ => none

def isCreate : StoreAct → Bool
  | .call (.create _ _) => true
  | _ => false

end StoreAct

namespace PodTable

variable (t : PodTable) (k : PodKey)

theorem find?_insert (p : Pod) : (t.insert k p).find? = Function.update t.find? k (some p) := by
  funext l
  by_cases h : l = k
  · subst h
    simp
  · rw [find?_insert_of_ne t h, Function.update_of_ne h]

theorem find?_erase : (t.erase k).find? = Function.update t.find? k none := by
  funext l
  by_cases h : l = k
  · subst h
    rw [find?_erase_self, Function.update_self]
  · rw [find?_erase_of_ne t h, Function.update_of_ne h]

end PodTable

namespace PodStore

variable {s : PodStore} {ns name : String} {p old : Pod}

def contents (s : PodStore) : PodKey → Option Pod := s.pods.find?

/-- A call that fails does nothing but stand in the list. -/
theorem call_of_error {c : ClientCall} {e : ClientError} (h : (s.call c).2 = .error e) :
    (s.call c).1 = s.record c.operation := by
  cases c with
  | create ns p =>
    change (s.create ns p).2 = .error e at h
    change (s.create ns p).1 = _
    cases hf : s.contents ⟨ns, p.name⟩ with
    | some old =>
      rw [create_of_present hf]
      rfl
    | none =>
      rw [create_of_absent hf] at h
      cases h
  | get ns name =>
    change (s.get ns name).2 = .error e at h
    change (s.get ns name).1 = _
    cases hf : s.contents ⟨ns, name⟩ with
    | some p =>
      rw [get_of_present hf] at h
      cases h
    | none =>
      rw [get_of_absent hf]
      rfl
  | updateStatus ns p =>
    change (s.updateStatus ns p).2 = .error e at h
    change (s.updateStatus ns p).1 = _
    cases hf : s.contents ⟨ns, p.name⟩ with
    | some old =>
      rw [updateStatus_of_present hf] at h
      cases h
    | none =>
      rw [updateStatus_of_absent hf]
      rfl
  | watch ns options => cases h
  | delete ns name =>
    change (s.delete ns name).2 = .error e at h
    change (s.delete ns name).1 = _
    cases hf : s.contents ⟨ns, name⟩ with
    | some p =>
      rw [delete_of_present hf] at h
      cases h
    | none =>
      rw [delete_of_absent hf]
      rfl

/-- The store is a map of pods: what its calls answer and what they leave. -/
structure IsMap (s : PodStore) : Prop where
  placed : ∀ k p, s.contents k = some p → p.namespace = k.namespace ∧ p.name = k.name
  create_error : ∀ ns p e, (s.create ns p).2 = .error e ↔
    e = .alreadyExists ns p.name ∧ ∃ old, s.contents ⟨ns, p.name⟩ = some old
  get_error : ∀ ns name e, (s.get ns name).2 = .error e ↔
    e = .notFound ns name ∧ s.contents ⟨ns, name⟩ = none
  updateStatus_error : ∀ ns p e, (s.updateStatus ns p).2 = .error e ↔
    e = .notFound ns p.name ∧ s.contents ⟨ns, p.name⟩ = none
  delete_error : ∀ ns name e, (s.delete ns name).2 = .error e ↔
    e = .notFound ns name ∧ s.contents ⟨ns, name⟩ = none
  untouched : ∀ c e, (s.call c).2 = .error e →
    (s.call c).1.pods = s.pods ∧ (s.call c).1.watches = s.watches
  created : ∀ ns p q, (s.create ns p).2 = .ok q → q = p.inNamespace ns ∧
    (s.create ns p).1.contents = Function.update s.contents ⟨ns, p.name⟩ (some q)
  got : ∀ ns name p, (s.get ns name).2 = .ok p → s.contents ⟨ns, name⟩ = some p
  /-- Of what the call is given, only the status counts. -/
  updated : ∀ ns p q, (s.updateStatus ns p).2 = .ok q → ∃ old,
    s.contents ⟨ns, p.name⟩ = some old ∧ q = old.withStatus p.status ∧
      (s.updateStatus ns p).1.contents = Function.update s.contents ⟨ns, p.name⟩ (some q)
  deleted : ∀ ns name, (s.delete ns name).2 = .ok () →
    (s.delete ns name).1.contents = Function.update s.contents ⟨ns, name⟩ none
  get_keeps : ∀ ns name, (s.get ns name).1.contents = s.contents
  watch_keeps : ∀ ns options, (s.watch ns options).1.contents = s.contents
  inserted : ∀ p, (s.insert p).contents = Function.update s.contents p.key (some p)
  rest_keeps : ∀ a : StoreAct, (∀ c, a ≠ .call c) → (∀ p, a ≠ .insert p) →
    (s.act a).contents = s.contents

theorem isMap_of_keyed (hs : s.Keyed) : s.IsMap where
  placed k p hp := by
    have := hs k p hp
    subst this
    exact ⟨rfl, rfl⟩
  create_error ns p e := by
    cases hf : s.contents ⟨ns, p.name⟩ with
    | some old => simp [create_of_present hf, eq_comm]
    | none => simp [create_of_absent hf]
  get_error ns name e := by
    cases hf : s.contents ⟨ns, name⟩ with
    | some p => simp [get_of_present hf]
    | none => simp [get_of_absent hf, eq_comm]
  updateStatus_error ns p e := by
    cases hf : s.contents ⟨ns, p.name⟩ with
    | some old => simp [updateStatus_of_present hf]
    | none => simp [updateStatus_of_absent hf, eq_comm]
  delete_error ns name e := by
    cases hf : s.contents ⟨ns, name⟩ with
    | some p => simp [delete_of_present hf]
    | none => simp [delete_of_absent hf, eq_comm]
  untouched c e h := by
    rw [call_of_error h]
    exact ⟨rfl, rfl⟩
  created ns p q h := by
    cases hf : s.contents ⟨ns, p.name⟩ with
    | some old =>
      rw [create_of_present hf] at h
      cases h
    | none =>
      rw [create_of_absent hf] at h ⊢
      cases h
      exact ⟨rfl, s.pods.find?_insert _ _⟩
  got ns name p h := get_ok h
  updated ns p q h := by
    cases hf : s.contents ⟨ns, p.name⟩ with
    | some old =>
      rw [updateStatus_of_present hf] at h ⊢
      cases h
      exact ⟨old, rfl, rfl, s.pods.find?_insert _ _⟩
    | none =>
      rw [updateStatus_of_absent hf] at h
      cases h
  deleted ns name h := by
    cases hf : s.contents ⟨ns, name⟩ with
    | some p =>
      rw [delete_of_present hf]
      exact s.pods.find?_erase _
    | none =>
      rw [delete_of_absent hf] at h
      cases h
  get_keeps ns name := congrArg PodTable.find? (SameBut.get s ns name).pods
  watch_keeps ns options := rfl
  inserted p := s.pods.find?_insert _ _
  rest_keeps a hcall hinsert := by
    cases a with
    | call c => exact absurd rfl (hcall c)
    | insert p => exact absurd rfl (hinsert p)
    | inject | closeWatches => rfl
    | next w => exact congrArg PodTable.find? (SameBut.next s w).pods
    | stop w => exact congrArg PodTable.find? (SameBut.stop s w).pods

/-! The list of calls. -/

/-- A call stands in the list, whether it fails or not. -/
theorem actions_call (s : PodStore) (c : ClientCall) :
    (s.call c).1.actions = s.actions ++ [c.operation] := by
  cases c with
  | create ns p =>
    change (s.create ns p).1.actions = _
    cases hf : s.contents ⟨ns, p.name⟩ with
    | some old =>
      rw [create_of_present hf]
      rfl
    | none =>
      rw [create_of_absent hf]
      rfl
  | get ns name => exact actions_get s ns name
  | updateStatus ns p =>
    change (s.updateStatus ns p).1.actions = _
    cases hf : s.contents ⟨ns, p.name⟩ with
    | some old =>
      rw [updateStatus_of_present hf]
      rfl
    | none =>
      rw [updateStatus_of_absent hf]
      rfl
  | watch ns options => rfl
  | delete ns name =>
    change (s.delete ns name).1.actions = _
    cases hf : s.contents ⟨ns, name⟩ with
    | some p =>
      rw [delete_of_present hf]
      rfl
    | none =>
      rw [delete_of_absent hf]
      rfl

theorem actions_act (s : PodStore) (a : StoreAct) :
    (s.act a).actions = s.actions ++ a.operation?.toList := by
  cases a with
  | call c => exact actions_call s c
  | next w =>
    change (s.next w).1.actions = _
    unfold next
    split <;> exact (List.append_nil _).symm
  | stop w => exact (actions_stop s w).trans (List.append_nil _).symm
  | insert | inject | closeWatches => exact (List.append_nil _).symm

theorem actions_perform (s : PodStore) (history : List StoreAct) :
    (s.perform history).actions = s.actions ++ history.filterMap (·.operation?) := by
  induction history generalizing s with
  | nil => exact (List.append_nil _).symm
  | cons a history ih =>
    rw [show s.perform (a :: history) = (s.act a).perform history from rfl, ih, actions_act,
      List.append_assoc]
    cases h : a.operation? <;> simp [h]

theorem createCount_perform (s : PodStore) (history : List StoreAct) :
    (s.perform history).createCount = s.createCount + history.countP (·.isCreate) := by
  unfold createCount
  rw [actions_perform, List.countP_append, List.countP_filterMap]
  congr 1
  refine List.countP_congr fun a _ => ?_
  rcases a with c | _ | _ | _ | _ | _
  · cases c <;> exact .rfl
  all_goals exact .rfl

/-- Whatever has happened to a store, it is a map of pods, its calls stand in its list once each and
in their order, and the creations among them are counted. -/
theorem store_is_faithful_map (history : List StoreAct) :
    (({} : PodStore).perform history).IsMap ∧
      (({} : PodStore).perform history).actions = history.filterMap (·.operation?) ∧
      (({} : PodStore).perform history).createCount = history.countP (·.isCreate) := by
  refine ⟨isMap_of_keyed (keyed_perform keyed_empty history), ?_, ?_⟩
  · rw [actions_perform]
    rfl
  · rw [createCount_perform]
    exact Nat.zero_add _

end PodStore

end PodPipeline
