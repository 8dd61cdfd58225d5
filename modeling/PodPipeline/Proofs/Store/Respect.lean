import PodPipeline.Proofs.Run.Record
import PodPipeline.Proofs.Store.Change

/-! Calls that leave the pod at one place alone once it has finished, and do not delete it. -/
namespace PodPipeline

namespace PodStore

variable {s t u : PodStore} {k : PodKey} {o : Outcome}

def verdict? (s : PodStore) (k : PodKey) : Option Outcome := (s.pods.find? k).bind (·.verdict)

theorem verdict?_eq {p : Pod} (h : s.pods.find? k = some p) : s.verdict? k = p.verdict := by
  rw [verdict?, h, Option.bind_some]

/-- A creation leaves the pods that are there alone. -/
theorem find?_create {ns : String} {p old : Pod} (h : s.pods.find? k = some old) :
    (s.create ns p).1.pods.find? k = some old := by
  cases hf : s.pods.find? ⟨ns, p.name⟩ with
  | some _ =>
    rw [create_of_present hf]
    exact h
  | none =>
    rw [create_of_absent hf]
    have hne : k ≠ ⟨ns, p.name⟩ := by
      rintro rfl
      rw [hf] at h
      cases h
    exact (PodTable.find?_insert_of_ne _ hne _).trans h

/-- The pod at `k` is not taken away, and stays as it is if it has finished. -/
def Respects (s t : PodStore) (k : PodKey) : Prop :=
  ∀ p, s.pods.find? k = some p →
    ∃ p', t.pods.find? k = some p' ∧ (p.verdict.isSome → p' = p)

theorem Respects.of_find? (h : t.pods.find? k = s.pods.find? k) : s.Respects t k :=
  fun p hp => ⟨p, h.trans hp, fun _ => rfl⟩

theorem Respects.of_pods (h : t.pods = s.pods) : s.Respects t k := .of_find? (by rw [h])

theorem Respects.verdict? (h : s.Respects t k) (hv : s.verdict? k = some o) :
    t.verdict? k = some o := by
  obtain ⟨p, hp, hpv⟩ := Option.bind_eq_some_iff.mp hv
  obtain ⟨p', hp', heq⟩ := h p hp
  obtain rfl := heq (by rw [hpv]; rfl)
  rw [verdict?_eq hp', hpv]

/-- A call does not delete the pod at `k`, and changes its status only before it has finished. -/
def admits (s : PodStore) (k : PodKey) : ClientCall → Bool
  | .delete ns name => k ≠ ⟨ns, name⟩
  | .updateStatus ns p => k ≠ ⟨ns, p.name⟩ || (s.verdict? k).isNone
  | _ => true

theorem respects_call {c : ClientCall} (h : s.admits k c) : s.Respects (s.call c).1 k := by
  cases c with
  | get ns name => exact .of_pods (SameBut.get s ns name).pods
  | watch ns options => exact .of_pods rfl
  | create ns p => exact fun old hold => ⟨old, find?_create hold, fun _ => rfl⟩
  | updateStatus ns p =>
    intro old hold
    change ∃ p', (s.updateStatus ns p).1.pods.find? k = some p' ∧ _
    cases hf : s.pods.find? ⟨ns, p.name⟩ with
    | none =>
      rw [updateStatus_of_absent hf]
      exact ⟨old, hold, fun _ => rfl⟩
    | some stored =>
      rw [updateStatus_of_present hf]
      by_cases hk : k = ⟨ns, p.name⟩
      · subst hk
        obtain rfl : stored = old := Option.some.inj (hf.symm.trans hold)
        have hn : stored.verdict = none := by simpa [admits, verdict?_eq hf] using h
        exact ⟨_, PodTable.find?_insert_self _ _ _, fun hv => by simp [hn] at hv⟩
      · exact ⟨old, (PodTable.find?_insert_of_ne _ hk _).trans hold, fun _ => rfl⟩
  | delete ns name =>
    have hk : k ≠ ⟨ns, name⟩ := by simpa [admits] using h
    refine .of_find? ?_
    change (s.delete ns name).1.pods.find? k = _
    cases hf : s.pods.find? ⟨ns, name⟩ with
    | some p =>
      rw [delete_of_present hf]
      exact PodTable.find?_erase_of_ne _ hk
    | none =>
      rw [delete_of_absent hf]
      rfl

/-- How many pods stand at `k`: one or none. -/
def podsAt (s : PodStore) (k : PodKey) : Nat := (s.pods.find? k).toList.length

theorem Respects.podsAt_le (h : s.Respects t k) : s.podsAt k ≤ t.podsAt k := by
  unfold podsAt
  cases hs : s.pods.find? k with
  | none => simp
  | some p =>
    obtain ⟨p', hp', -⟩ := h p hs
    simp [hp']

/-- A call that creates a pod at `k` finds the place free and puts the pod there. -/
theorem creates_call {c : ClientCall} (h : (Exchange.mk c (some (s.call c).2)).creates k) :
    ∃ ns p, c = .create ns p ∧ k = ⟨ns, p.name⟩ ∧ s.pods.find? k = none ∧
      (s.call c).1.pods.find? k = some (p.inNamespace ns) := by
  cases c with
  | create ns p =>
    change (Exchange.mk (.create ns p) (some (s.create ns p).2)).creates k at h
    change ∃ ns' p', _ ∧ _ ∧ _ ∧ (s.create ns p).1.pods.find? k = _
    cases hf : s.pods.find? ⟨ns, p.name⟩ with
    | some old =>
      rw [create_of_present hf] at h
      cases h
    | none =>
      rw [create_of_absent hf] at h ⊢
      obtain rfl : k = ⟨ns, p.name⟩ := of_decide_eq_true h
      exact ⟨ns, p, rfl, rfl, hf, PodTable.find?_insert_self _ _ _⟩
  | get | updateStatus | watch | delete => cases h

theorem creations_call {c : ClientCall} (h : s.admits k c) :
    [Exchange.mk c (some (s.call c).2)].countP (·.creates k) + s.podsAt k ≤
      (s.call c).1.podsAt k := by
  have hresp := (respects_call h).podsAt_le
  cases hc : (Exchange.mk c (some (s.call c).2)).creates k with
  | false => simpa [hc] using hresp
  | true =>
    obtain ⟨ns, p, -, -, hfree, hnew⟩ := creates_call hc
    simp [podsAt, hfree, hnew, hc]

end PodStore

end PodPipeline
