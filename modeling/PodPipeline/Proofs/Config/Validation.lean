import PodPipeline.Config.Pipeline
import PodPipeline.Proofs.Scene.Runner

/-! What holds of pipelines that have passed the checks. -/
namespace PodPipeline

namespace PipelineDraft

/-- The steps pass the last check if no two of them, nor one of them and an earlier one, create the
same pod. -/
theorem validatePods_eq_ok {seen l : List (String × StepConfig)} :
    validatePods seen l = .ok () ↔ (∀ e ∈ l, ∀ f ∈ seen, f.2.podName ≠ e.2.podName) ∧
      l.Pairwise fun e f => e.2.podName ≠ f.2.podName := by
  induction l generalizing seen with
  | nil => simp [validatePods]
  | cons e l ih =>
    obtain ⟨name, c⟩ := e
    unfold validatePods
    cases hf : seen.find? fun e => e.2.podName = c.podName with
    | some f =>
      have hmem := List.mem_of_find?_eq_some hf
      have hname : f.2.podName = c.podName := by simpa using List.find?_some hf
      simp only [reduceCtorEq, false_iff]
      rintro ⟨hseen, -⟩
      exact hseen _ (.head l) f hmem hname
    | none =>
      have hseen : ∀ f ∈ seen, f.2.podName ≠ c.podName := by simpa using hf
      dsimp only
      rw [ih, List.pairwise_cons]
      constructor
      · rintro ⟨hl, hpair⟩
        have hl' := fun e he => List.forall_mem_cons.mp (hl e he)
        exact ⟨List.forall_mem_cons.mpr ⟨hseen, fun e he => (hl' e he).2⟩,
          fun e he => (hl' e he).1, hpair⟩
      · rintro ⟨hl, hhead, hpair⟩
        exact ⟨fun e he => List.forall_mem_cons.mpr ⟨hhead e he, hl e (.tail _ he)⟩, hpair⟩

theorem validate_ok {d : PipelineDraft} {p : Pipeline} (h : d.validate = .ok p) :
    p = ⟨d.job, d.steps⟩ ∧ validatePods [] d.steps.entries = .ok () := by
  simp only [validate, bind, Except.bind] at h
  repeat' split at h
  all_goals cases h
  exact ⟨rfl, ‹_›⟩

end PipelineDraft

/-- No two steps of a pipeline that has passed the checks have their pods at the same place. -/
theorem Pipeline.nodup_keys {d : PipelineDraft} {p : Pipeline} (h : d.validate = .ok p) :
    (p.podSteps.map (·.key)).Nodup := by
  obtain ⟨rfl, hpods⟩ := PipelineDraft.validate_ok h
  have hpair := (PipelineDraft.validatePods_eq_ok.mp hpods).2
  refine List.pairwise_map.mpr (List.pairwise_map.mpr (hpair.imp fun hne heq => hne ?_))
  exact congrArg PodKey.name heq

def PipelineDraft.sample : PipelineDraft where
  job := PodStep.sample.job
  steps := (KeyMap.empty.insert "unit" PodStep.sample.config).insert "lint"
    { PodStep.sample.config with podName := "lint-pod" }

end PodPipeline
