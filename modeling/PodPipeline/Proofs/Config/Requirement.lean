import Mathlib.Tactic.Tauto
import PodPipeline.Proofs.Config.Path

/-! Checks as lists of requirements. A check that decides a list passes what meets all of them, and
otherwise reports the fault of the first one that is not met. Checks that follow each other decide
what they decide one by one. -/
namespace PodPipeline

structure Requirement where
  holds : Prop
  fault : ConfigFault

/-- The fault belongs to the first requirement of the list that is not met. -/
inductive FirstUnmet : List Requirement → ConfigFault → Prop where
  | here {r : Requirement} {l : List Requirement} (h : ¬r.holds) : FirstUnmet (r :: l) r.fault
  | later {r : Requirement} {l : List Requirement} {f : ConfigFault} (h : r.holds)
    (hl : FirstUnmet l f) : FirstUnmet (r :: l) f

variable {α β : Type} {l l' : List Requirement} {r : Requirement} {f : ConfigFault}

theorem firstUnmet_cons :
    FirstUnmet (r :: l) f ↔ (¬r.holds ∧ f = r.fault) ∨ (r.holds ∧ FirstUnmet l f) := by
  constructor
  · rintro (h | ⟨h, hl⟩)
    · exact .inl ⟨h, rfl⟩
    · exact .inr ⟨h, hl⟩
  · rintro (⟨h, rfl⟩ | ⟨h, hl⟩)
    · exact .here h
    · exact .later h hl

theorem not_firstUnmet_nil : ¬FirstUnmet [] f := nofun

theorem firstUnmet_append :
    FirstUnmet (l ++ l') f ↔ FirstUnmet l f ∨ (∀ r ∈ l, r.holds) ∧ FirstUnmet l' f := by
  induction l with
  | nil => simp [not_firstUnmet_nil]
  | cons r l ih =>
    rw [List.cons_append, firstUnmet_cons, firstUnmet_cons, ih, List.forall_mem_cons]
    tauto

theorem FirstUnmet.exists_mem (h : FirstUnmet l f) : ∃ r ∈ l, r.fault = f := by
  induction h with
  | here => exact ⟨_, List.mem_cons_self, rfl⟩
  | later _ _ ih => exact ih.imp fun _ => And.imp_left (List.mem_cons_of_mem _)

/-- The check gives `a` if all requirements of the list are met, and else the fault of the first
that is not. -/
structure Decides (c : Except ConfigFault α) (l : List Requirement) (a : α) : Prop where
  ok_iff : ∀ b, c = .ok b ↔ (∀ r ∈ l, r.holds) ∧ b = a
  error_iff : ∀ f, c = .error f ↔ FirstUnmet l f

theorem decides_ok (a : α) : Decides (.ok a) [] a where
  ok_iff b := by simp [eq_comm]
  error_iff f := by simp [not_firstUnmet_nil]

theorem decides_refuseIf {bad : Bool} {p : Prop} (h : bad = false ↔ p) (f : ConfigFault) :
    Decides (refuseIf bad f) [⟨p, f⟩] () where
  ok_iff _ := by cases bad <;> simp [refuseIf, ← h]
  error_iff g := by
    rw [firstUnmet_cons, or_iff_left (fun hn => not_firstUnmet_nil hn.2), ← h]
    cases bad <;> simp [refuseIf, eq_comm]

namespace Decides

variable {c : Check} {rest : Except ConfigFault α} {a : α}

theorem bind_eq_ok_iff (hc : Decides c l ()) :
    (c >>= fun _ => rest) = .ok a ↔ (∀ r ∈ l, r.holds) ∧ rest = .ok a := by
  cases c with
  | ok =>
    rw [and_iff_right ((hc.ok_iff ()).mp rfl).1]
    rfl
  | error g => exact ⟨nofun, fun h => nomatch (hc.ok_iff ()).mpr ⟨h.1, rfl⟩⟩

theorem bind_eq_error_iff (hc : Decides c l ()) :
    (c >>= fun _ => rest) = .error f ↔
      FirstUnmet l f ∨ (∀ r ∈ l, r.holds) ∧ rest = .error f := by
  rw [← hc.error_iff]
  cases c with
  | ok =>
    rw [or_iff_right nofun, and_iff_right ((hc.ok_iff ()).mp rfl).1]
    rfl
  | error g =>
    rw [or_iff_left fun h => nomatch (hc.ok_iff ()).mpr ⟨h.1, rfl⟩]
    constructor
    · rintro ⟨⟩
      rfl
    · rintro ⟨⟩
      rfl

theorem exists_error_iff {c : Except ConfigFault α} (hc : Decides c l a) :
    (∃ f, c = .error f) ↔ ¬∀ r ∈ l, r.holds := by
  cases c with
  | ok b => exact iff_of_false (fun ⟨_, h⟩ => nomatch h) (not_not_intro ((hc.ok_iff b).mp rfl).1)
  | error g => exact iff_of_true ⟨g, rfl⟩ fun h => nomatch (hc.ok_iff a).mpr ⟨h, rfl⟩

/-- What follows a check is asked only if the check is passed. -/
theorem bind (hc : Decides c l ()) (hrest : Decides rest l' a) :
    Decides (c >>= fun _ => rest) (l ++ l') a where
  ok_iff b := by
    rw [hc.bind_eq_ok_iff, hrest.ok_iff, List.forall_mem_append, and_assoc]
  error_iff f := by
    rw [hc.bind_eq_error_iff, hrest.error_iff, firstUnmet_append]

theorem forM {items : List β} {check : β → Check} {reqs : β → List Requirement}
    (h : ∀ b ∈ items, Decides (check b) (reqs b) ()) :
    Decides (items.forM check) (items.flatMap reqs) () := by
  induction items with
  | nil => exact decides_ok ()
  | cons b items ih =>
    obtain ⟨hb, hitems⟩ := List.forall_mem_cons.mp h
    exact hb.bind (ih hitems)

end Decides

end PodPipeline
