import PodPipeline.Proofs.Store.Faithful
import PodPipeline.Proofs.Store.Respect

/-! A pod that nobody deletes or replaces stays as it was stored, but for its status. -/
namespace PodPipeline

/-- Whether the pod at `k` is neither deleted nor replaced by another. -/
def StoreAct.keeps (k : PodKey) : StoreAct → Bool
  | .call (.delete ns name) => k ≠ ⟨ns, name⟩
  | .insert p => k ≠ p.key
  | _ => true

namespace PodStore

variable {s t : PodStore} {k : PodKey} {pod : Pod}

/-- The pod stands at `k`, whatever its status is. -/
def Holds (s : PodStore) (k : PodKey) (pod : Pod) : Prop :=
  ∃ status, s.pods.find? k = some (pod.withStatus status)

namespace Holds

theorem of_find? (h : s.Holds k pod) (ht : t.pods.find? k = s.pods.find? k) : t.Holds k pod := by
  obtain ⟨status, hs⟩ := h
  exact ⟨status, ht.trans hs⟩

theorem updateStatus (h : s.Holds k pod) (ns : String) (p : Pod) :
    (s.updateStatus ns p).1.Holds k pod := by
  cases hf : s.contents ⟨ns, p.name⟩ with
  | none =>
    rw [updateStatus_of_absent hf]
    exact h
  | some old =>
    rw [updateStatus_of_present hf]
    by_cases hk : k = ⟨ns, p.name⟩
    · subst hk
      obtain ⟨status, hs⟩ := h
      obtain rfl : old = pod.withStatus status := Option.some.inj (hf.symm.trans hs)
      exact ⟨p.status, PodTable.find?_insert_self _ _ _⟩
    · exact h.of_find? (PodTable.find?_insert_of_ne _ hk _)

theorem delete (h : s.Holds k pod) {ns name : String} (hk : k ≠ ⟨ns, name⟩) :
    (s.delete ns name).1.Holds k pod := by
  cases hf : s.contents ⟨ns, name⟩ with
  | none =>
    rw [delete_of_absent hf]
    exact h
  | some old =>
    rw [delete_of_present hf]
    exact h.of_find? (PodTable.find?_erase_of_ne _ hk)

theorem call {c : ClientCall} (h : s.Holds k pod) (hc : (StoreAct.call c).keeps k) :
    (s.call c).1.Holds k pod := by
  cases c with
  | create ns p =>
    obtain ⟨status, hs⟩ := h
    exact ⟨status, find?_create hs⟩
  | get ns name => exact h.of_find? (congrArg (·.find? k) (SameBut.get s ns name).pods)
  | updateStatus ns p => exact h.updateStatus ns p
  | watch ns options => exact h
  | delete ns name => exact h.delete (by simpa [StoreAct.keeps] using hc)

theorem next (h : s.Holds k pod) (w : WatchId) : (s.next w).1.Holds k pod :=
  h.of_find? (congrArg (·.find? k) (SameBut.next s w).pods)

theorem stop (h : s.Holds k pod) (w : WatchId) : (s.stop w).Holds k pod :=
  h.of_find? (congrArg (·.find? k) (SameBut.stop s w).pods)

theorem act {a : StoreAct} (h : s.Holds k pod) (ha : a.keeps k) : (s.act a).Holds k pod := by
  cases a with
  | call c => exact h.call ha
  | insert p =>
    have hk : k ≠ p.key := by simpa [StoreAct.keeps] using ha
    exact h.of_find? (PodTable.find?_insert_of_ne _ hk _)
  | inject => exact h
  | closeWatches => exact h
  | next w => exact h.next w
  | stop w => exact h.stop w

end Holds

end PodStore

end PodPipeline
