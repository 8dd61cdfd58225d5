import PodPipeline.Proofs.Config.Requirement

/-! The checks of one step ask for a well-formed configuration. -/
namespace PodPipeline

theorem nonEmpty_eq_some_iff {s : Option String} {t : String} :
    nonEmpty s = some t ↔ s = some t ∧ t ≠ "" := by
  rw [nonEmpty, Option.filter_eq_some_iff, decide_eq_true_iff]

theorem nonEmpty_eq_none_iff {s : Option String} : nonEmpty s = none ↔ s = none ∨ s = some "" := by
  cases s <;> simp [nonEmpty]

namespace StepConfig

variable {name : String} {c : StepConfig}

structure WellFormed (name : String) (c : StepConfig) : Prop where
  name : Text.isBlank name = false
  podName : Text.isBlank c.podName = false
  commands : Text.isBlank c.commands = false
  imageName : Text.isBlank c.image.name = false
  imageTag : Text.isBlank c.image.tag = false
  absolute : ∀ path, c.secretMountPath = some path → path ≠ "" → path.toList.head? = some '/'
  noDots : ∀ path, c.secretMountPath = some path → path ≠ "" →
    ∀ s, IsSegment s path.toList → s ≠ ['.'] ∧ s ≠ ['.', '.']

def nameRequirements (name : String) (c : StepConfig) : List Requirement :=
  [⟨Text.isBlank name = false, .blankStepName⟩,
    ⟨Text.isBlank c.podName = false, .blankPodName name⟩]

def imageRequirement (name : String) (c : StepConfig) : Requirement where
  holds := Text.isBlank c.image.name = false ∧ Text.isBlank c.image.tag = false
  fault := .incompleteImage name c.image.name c.image.tag

def pathRequirements (name path : String) : List Requirement :=
  [⟨path.toList.head? = some '/', .relativeMountPath name path⟩,
    ⟨∀ s, IsSegment s path.toList → s ≠ ['.'] ∧ s ≠ ['.', '.'], .dotSegment name path⟩]

def requirements (name : String) (c : StepConfig) : List Requirement :=
  c.nameRequirements name ++
    ⟨Text.isBlank c.commands = false, .blankCommands name⟩ :: c.imageRequirement name ::
      c.secretMountPath?.toList.flatMap (pathRequirements name)

theorem decides_validateImage (name : String) (c : StepConfig) :
    Decides (c.validateImage name) [c.imageRequirement name] () :=
  decides_refuseIf Bool.or_eq_false_iff _

theorem decides_validateMountPath (name path : String) :
    Decides (validateMountPath name path) (pathRequirements name path) () := by
  refine (decides_refuseIf ?_ _).bind (decides_refuseIf ?_ _)
  · rw [decide_eq_false_iff_not, not_not]
  · rw [List.any_eq_false]
    simp [mem_pathSegments]

theorem decides_validate (name : String) (c : StepConfig) :
    Decides (c.validate name) (c.requirements name) () := by
  refine (decides_refuseIf Iff.rfl _).bind ((decides_refuseIf Iff.rfl _).bind
    ((decides_refuseIf Iff.rfl _).bind ((decides_validateImage name c).bind ?_)))
  cases c.secretMountPath? with
  | none => exact decides_ok ()
  | some path => simpa using decides_validateMountPath name path

theorem secretMountPath?_eq_some {path : String} :
    c.secretMountPath? = some path ↔ c.secretMountPath = some path ∧ path ≠ "" :=
  nonEmpty_eq_some_iff

theorem forall_mem_pathRequirements {path : String} :
    (∀ r ∈ pathRequirements name path, r.holds) ↔ path.toList.head? = some '/' ∧
      ∀ s, IsSegment s path.toList → s ≠ ['.'] ∧ s ≠ ['.', '.'] := by
  rw [pathRequirements, List.forall_mem_cons, List.forall_mem_singleton]

theorem forall_mem_nameRequirements : (∀ r ∈ c.nameRequirements name, r.holds) ↔
    Text.isBlank name = false ∧ Text.isBlank c.podName = false := by
  rw [nameRequirements, List.forall_mem_cons, List.forall_mem_singleton]

theorem wellFormed_iff : c.WellFormed name ↔ ∀ r ∈ c.requirements name, r.holds := by
  have hpaths : (∀ r ∈ c.secretMountPath?.toList.flatMap (pathRequirements name), r.holds) ↔
      ∀ path, c.secretMountPath = some path → path ≠ "" → path.toList.head? = some '/' ∧
        ∀ s, IsSegment s path.toList → s ≠ ['.'] ∧ s ≠ ['.', '.'] := by
    simp only [List.forall_mem_flatMap, Option.mem_toList, secretMountPath?_eq_some,
      forall_mem_pathRequirements, and_imp]
  rw [requirements, List.forall_mem_append, List.forall_mem_cons, List.forall_mem_cons,
    forall_mem_nameRequirements, hpaths]
  constructor
  · rintro ⟨hname, hpod, hcommands, himage, htag, habsolute, hdots⟩
    exact ⟨⟨hname, hpod⟩, hcommands, ⟨himage, htag⟩,
      fun path hpath hne => ⟨habsolute path hpath hne, hdots path hpath hne⟩⟩
  · rintro ⟨⟨hname, hpod⟩, hcommands, ⟨himage, htag⟩, hpaths⟩
    exact ⟨hname, hpod, hcommands, himage, htag, fun path hpath hne => (hpaths path hpath hne).1,
      fun path hpath hne => (hpaths path hpath hne).2⟩

theorem validate_eq_ok : c.validate name = .ok () ↔ c.WellFormed name := by
  rw [(decides_validate name c).ok_iff, and_iff_left rfl, wellFormed_iff]

/-- The configuration with the empty path in place of an absent one. -/
def fillPath (c : StepConfig) : StepConfig :=
  { c with secretMountPath := some (c.secretMountPath.getD "") }

/-- An empty path counts as absent. -/
theorem validate_fillPath (name : String) (c : StepConfig) :
    c.fillPath.validate name = c.validate name := by
  have hpath : c.fillPath.secretMountPath? = c.secretMountPath? := by
    rw [secretMountPath?, secretMountPath?, fillPath]
    cases c.secretMountPath <;> rfl
  rw [validate, validate, hpath]
  rfl

end StepConfig

end PodPipeline
