import PodPipeline.Proofs.Graph.Order

/-! The step that is named where steps cannot be ordered waits for itself. It is one that waits for
itself without others in between, if there is such a step. Otherwise it is the first that comes too
late in the order in which the steps have been searched. -/
namespace PodPipeline

open Relation

/-- The error that names a step on a cycle. -/
def StepError.onCycle (name : String) : StepError :=
  .cycle ("cycle detected in step graph involving step '" ++ name ++ "'")

/-- The error tells the name. -/
theorem StepError.onCycle_inj {name name' : String} :
    StepError.onCycle name = StepError.onCycle name' ↔ name = name' := by
  constructor
  · intro h
    have ht := StepError.cycle.inj h
    rw [String.append_left_inj, String.append_right_inj] at ht
    exact ht
  · rintro rfl
    rfl

namespace StepGraph

variable {steps : List StepNode} {e : StepError}

theorem topologicalOrder_of_build_error (h : build steps = .error e) :
    ∃ i, (wiring steps).topologicalOrder = .error i ∧ e = .onCycle (steps.get i).name := by
  cases ho : (wiring steps).topologicalOrder with
  | ok order =>
    rw [build_of_ok ho] at h
    cases h
  | error i =>
    rw [build_of_error ho] at h
    cases h
    exact ⟨i, rfl, rfl⟩

/-- Where steps cannot be ordered, the error names a step that waits for itself. A step that feeds
itself comes first. Without one, it is a step that feeds another which was finished after it: the
steps that were finished still later are fed by such steps only. -/
theorem blamed_step_on_cycle (h : build steps = .error e) :
    ∃ i, e = .onCycle (steps.get i).name ∧ TransGen (Feeds steps) i i ∧
      ((steps.map (·.name)).Nodup → ∀ j, e = .onCycle (steps.get j).name → j = i) ∧
      ((∃ j, Feeds steps j j) → Feeds steps i i) ∧
      ((¬∃ j, Feeds steps j j) → ∃ before k after,
        (wiring steps).finishOrder = .ok (before ++ k :: after) ∧ i ∈ after ∧ Feeds steps i k ∧
          ∀ j ∈ before, ∀ p, Feeds steps p j → p ∈ before) := by
  obtain ⟨i, ho, rfl⟩ := topologicalOrder_of_build_error h
  refine ⟨i, rfl, transGen_edge_wiring.mp (Digraph.topologicalOrder_error ho), ?_, ?_, ?_⟩
  · intro hnodup j hj
    exact (name_injective hnodup (StepError.onCycle_inj.mp hj)).symm
  · rintro ⟨j, hj⟩
    rcases Digraph.topologicalOrder_error_cases ho with hfin | ⟨order, hfin, -⟩
    · exact edge_wiring.mp (Digraph.finishOrder_error hfin)
    · exact absurd (edge_wiring.mpr hj) (Digraph.not_edge_self_of_finishOrder hfin j)
  · intro hloop
    rcases Digraph.topologicalOrder_error_cases ho with hfin | ⟨order, hfin, hlate⟩
    · exact absurd ⟨i, edge_wiring.mp (Digraph.finishOrder_error hfin)⟩ hloop
    · obtain ⟨before, k, after, rfl, hi, hik, -, hbefore⟩ := Digraph.late?_finishOrder hfin hlate
      refine ⟨before, k, after, hfin, hi, edge_wiring.mp hik, fun j hj p hp => ?_⟩
      exact hbefore j hj p (edge_wiring.mpr hp)

/-- Two steps that wait for each other, between one that they wait for and one that waits for them.
-/
def sampleCircle : List StepNode :=
  [{ name := "prepare", creates := [.internalImage "base"] },
    { name := "src", requires := [.internalImage "base", .internalImage "bin"],
      creates := [.internalImage "src"] },
    { name := "bin", requires := [.internalImage "src"], creates := [.internalImage "bin"] },
    { name := "unit", requires := [.internalImage "bin"] }]

theorem blamed_step_on_cycle_sample :
    build sampleCircle = .error (.onCycle "bin") ∧
      (∃ i, (sampleCircle.get i).name = "bin" ∧ TransGen (Feeds sampleCircle) i i) ∧
      ¬TransGen (Feeds sampleCircle) ⟨0, by decide⟩ ⟨0, by decide⟩ ∧
      ¬TransGen (Feeds sampleCircle) ⟨3, by decide⟩ ⟨3, by decide⟩ := by
  have ho : (wiring sampleCircle).topologicalOrder = .error ⟨2, by decide⟩ := by
    cbv
  have hname : (sampleCircle.get ⟨2, by decide⟩).name = "bin" := rfl
  have hb : build sampleCircle = .error (.onCycle "bin") := by
    rw [build_of_error ho, hname, StepError.onCycle]
  obtain ⟨i, hi, hcycle, -⟩ := blamed_step_on_cycle hb
  refine ⟨hb, ⟨i, (StepError.onCycle_inj.mp hi).symm, hcycle⟩, fun h => ?_, fun h => ?_⟩
  · obtain ⟨j, -, hj⟩ := TransGen.tail'_iff.mp h
    revert j
    decide
  · obtain ⟨j, hj, -⟩ := TransGen.head'_iff.mp h
    revert j
    decide

end StepGraph

end PodPipeline
