import Mathlib.Data.List.Sort
import Mathlib.Data.Prod.Lex
import Mathlib.Data.String.Basic
import PodPipeline.Link

/-! The order of links. A set of links is shown in one way only, so that two sets are the same if
they have the same members. -/
namespace PodPipeline.Link

def rank (l : Link) : Nat ×ₗ List String := toLex l.orderKey

theorem rank_injective : Function.Injective rank :=
  fun _ _ h => orderKey_inj (toLex.injective h)

instance : PartialOrder Link := PartialOrder.lift rank rank_injective

theorem le_iff {a b : Link} : a.le b = true ↔ a ≤ b := by
  have hlex : List.lex b.orderKey.2 a.orderKey.2 (fun s t => s < t) = true ↔
      b.orderKey.2 < a.orderKey.2 := by
    simp only [List.lex_eq_true_iff_lex, decide_eq_true_eq]
    rfl
  change _ ↔ toLex a.orderKey ≤ toLex b.orderKey
  rw [Prod.Lex.toLex_le_toLex, ← not_lt (a := b.orderKey.2), ← hlex, le]
  simp

theorem lt_of_not_le {a b : Link} (h : ¬a.le b) : b < a :=
  not_le.mp fun hle : a.rank ≤ b.rank => h (le_iff.mpr hle)

theorem sortedLT_insertSorted {l : Link} {s : List Link} (h : s.SortedLT) :
    (insertSorted l s).SortedLT := by
  induction s with
  | nil => exact (List.pairwise_singleton _ _).sortedLT
  | cons m r ih =>
    obtain ⟨hm, hr⟩ := List.pairwise_cons.mp h.pairwise
    rw [insertSorted]
    split_ifs with heq hle
    · exact h
    · have hlm : l < m := lt_of_le_of_ne (le_iff.mp hle) heq
      have hall : ∀ a ∈ m :: r, l < a :=
        List.forall_mem_cons.mpr ⟨hlm, fun a ha => hlm.trans (hm a ha)⟩
      exact (List.pairwise_cons.mpr ⟨hall, h.pairwise⟩).sortedLT
    · have hall : ∀ a ∈ insertSorted l r, m < a := by
        intro a ha
        rcases mem_insertSorted.mp ha with rfl | ha
        · exact lt_of_not_le hle
        · exact hm a ha
      exact (List.pairwise_cons.mpr ⟨hall, (ih hr.sortedLT).pairwise⟩).sortedLT

theorem sortedLT_sortedSet (l : List Link) : (sortedSet l).SortedLT := by
  induction l with
  | nil => exact List.Pairwise.nil.sortedLT
  | cons a r ih => exact sortedLT_insertSorted ih

end PodPipeline.Link
