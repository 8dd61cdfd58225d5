import PodPipeline.Proofs.Config.Sufficiency
import PodPipeline.Proofs.Run.Protocol

/-! The ways in which a step is refused: by the checks of its configuration, when it is asked for
its inputs, when its pod is built and when it is run. They refuse for the same reasons, though each
looks at a part of them only. -/
namespace PodPipeline

variable {σ : Type} {step : String} {c : StepConfig} {j : Job} {f : ConfigFault}

theorem exists_buildPod_eq_error_iff : (∃ f, buildPod step c j = .error f) ↔
    Text.isBlank step ∨ Text.isBlank c.podName ∨ Text.isBlank c.image.name ∨
      Text.isBlank c.image.tag := by
  rw [(decides_buildPod step c j).exists_error_iff, StepConfig.forall_mem_podRequirements]
  simp only [not_and_or, Bool.not_eq_false]

/-- What prevents a pod, there is nothing else. -/
theorem fault_of_buildPod (h : buildPod step c j = .error f) :
    f = .blankStepName ∨ f = .blankPodName step ∨
      f = .incompleteImage step c.image.name c.image.tag := by
  obtain ⟨r, hr, rfl⟩ := ((decides_buildPod step c j).error_iff f |>.mp h).exists_mem
  simp only [StepConfig.podRequirements, StepConfig.nameRequirements, List.mem_append,
    List.mem_cons, List.not_mem_nil, or_false] at hr
  obtain (rfl | rfl) | rfl := hr
  · exact .inl rfl
  · exact .inr (.inl rfl)
  · exact .inr (.inr rfl)

/-- Between the names and the image the checks ask for commands only. -/
theorem validate_of_buildPod (h : buildPod step c j = .error f)
    (hcommands : Text.isBlank c.commands = false) : c.validate step = .error f := by
  rw [(decides_buildPod step c j).error_iff, StepConfig.podRequirements, firstUnmet_append] at h
  rw [(c.decides_validate step).error_iff, StepConfig.requirements, firstUnmet_append]
  refine h.imp_right (And.imp_right fun himage => .later hcommands ?_)
  obtain ⟨hr, rfl⟩ | ⟨-, hnil⟩ := firstUnmet_cons.mp himage
  · exact .here hr
  · exact absurd hnil not_firstUnmet_nil

namespace PodStep

variable {s : PodStep} {e : StepError}

theorem inputs_eq_error_iff : s.inputs = .error e ↔
    ∃ f, s.config.validateImage s.sectionName = .error f ∧ e = .config f := by
  unfold inputs
  cases s.config.validateImage s.sectionName with
  | ok => exact iff_of_false nofun nofun
  | error g =>
    constructor
    · rintro ⟨⟩
      exact ⟨g, rfl, rfl⟩
    · rintro ⟨f, ⟨⟩, rfl⟩
      rfl

/-- A step that cannot give its inputs has no pod, for the same reason unless a name is blank. -/
theorem exists_pod_eq_error_of_inputs (h : s.inputs = .error e) : ∃ f, s.pod = .error f ∧
    (Text.isBlank s.sectionName = false → Text.isBlank s.config.podName = false →
      e = .config f) := by
  obtain ⟨f, hf, rfl⟩ := inputs_eq_error_iff.mp h
  cases hp : s.pod with
  | ok p => exact absurd (inputs_of_pod hp) (by rw [h]; nofun)
  | error g =>
    refine ⟨g, rfl, fun hname hpod => ?_⟩
    -- With both names in order, the image is the first that is asked for.
    have hnames := StepConfig.forall_mem_nameRequirements.mpr ⟨hname, hpod⟩
    have hg := firstUnmet_append.mpr
      (.inr ⟨hnames, ((s.config.decides_validateImage s.sectionName).error_iff f).mp hf⟩)
    rw [pod, ((decides_buildPod s.sectionName s.config s.job).error_iff f).mpr hg] at hp
    injection hp with hp
    rw [hp]

theorem poll_finished (client : PodClient σ) (now : Instant) (result : RunResult) (world : σ) :
    s.poll client now (.finished result) world =
      { world, stage := .finished result, blocked := true } := by
  unfold poll
  rfl

theorem poll_idle_of_error (hp : s.pod = .error f) (client : PodClient σ) (now : Instant)
    (ctx : RunContext) (world : σ) : s.poll client now (.idle ctx) world =
      { world, stage := .finished (.error (.config f)), blocked := true } := by
  unfold poll
  simp only [tick_idle_of_error hp, poll_finished]
  rfl

/-- Every run of the step is refused for the reason `f`, without a call: as soon as it is polled,
and however it is cancelled, dropped or disturbed before. -/
structure Declines (s : PodStep) (f : ConfigFault) : Prop where
  silent : ∀ {σ : Type} (client : PodClient σ) (ctx : RunContext) (stage : RunStage)
    (r : Recorded σ), s.Reaches client ctx stage r → r.record.calls = [] ∧ Refuses f stage
  prompt : ∀ {σ : Type} (client : PodClient σ) (now : Instant) (ctx : RunContext) (world : σ),
    s.poll client now (.idle ctx) world =
      { world, stage := .finished (.error (.config f)), blocked := true }

theorem declines_of_error (hp : s.pod = .error f) : s.Declines f where
  silent _ _ _ _ h := h.refuses hp
  prompt := poll_idle_of_error hp

end PodStep

/-- A pod is refused exactly for a blank name or an incomplete image. Where there are commands, the
checks refuse the step for the same reason, and what they let through has a pod. A step that cannot
give its inputs declines every run. -/
theorem step_refusals_agree (step : String) (c : StepConfig) (j : Job) :
    ((∃ f, buildPod step c j = .error f) ↔
      Text.isBlank step ∨ Text.isBlank c.podName ∨ Text.isBlank c.image.name ∨
        Text.isBlank c.image.tag) ∧
    (∀ f, buildPod step c j = .error f →
      (f = .blankStepName ∨ f = .blankPodName step ∨
        f = .incompleteImage step c.image.name c.image.tag) ∧
      (Text.isBlank c.commands = false → c.validate step = .error f)) ∧
    (c.validate step = .ok () → ∃ p, buildPod step c j = .ok p) ∧
    ∀ e, (PodStep.mk step c j).inputs = .error e → ∃ f, (PodStep.mk step c j).Declines f ∧
      (Text.isBlank step = false → Text.isBlank c.podName = false → e = .config f) := by
  refine ⟨exists_buildPod_eq_error_iff, fun f hf => ?_, fun h => ?_, fun e he => ?_⟩
  · exact ⟨fault_of_buildPod hf, validate_of_buildPod hf⟩
  · exact ⟨_, StepConfig.buildPod_of_validate h⟩
  · obtain ⟨f, hp, hf⟩ := PodStep.exists_pod_eq_error_of_inputs he
    exact ⟨f, PodStep.declines_of_error hp, hf⟩

/-- A step whose image has only blanks for a tag, and whose path would not pass the checks either.
-/
def StepConfig.sampleUntagged : StepConfig where
  podName := "unit-pod"
  image := { name := "pipeline", tag := " \u3000" }
  commands := "make test"
  secretMountPath := some "etc/token"

theorem step_refusals_agree_untagged : ∃ f,
    buildPod "unit" .sampleUntagged {} = .error f ∧
      StepConfig.sampleUntagged.validate "unit" = .error f ∧
      (PodStep.mk "unit" .sampleUntagged {}).inputs = .error (.config f) ∧
      (PodStep.mk "unit" .sampleUntagged {}).Declines f := by
  obtain ⟨-, hfault, -, hinputs⟩ := step_refusals_agree "unit" .sampleUntagged {}
  obtain ⟨f, hdeclines, hf⟩ :=
    hinputs (.config (.incompleteImage "unit" "pipeline" " \u3000")) rfl
  have hsame := StepError.config.inj (hf (by decide) (by decide))
  have hpod : buildPod "unit" .sampleUntagged {} = .error f := hsame ▸ rfl
  exact ⟨f, hpod, (hfault f hpod).2 (by decide), hsame ▸ rfl, hdeclines⟩

end PodPipeline
