import PodPipeline.Config.Fault
import PodPipeline.Config.Step
import PodPipeline.Job
import PodPipeline.Text.Blank

/-! The configuration of a pipeline, and the checks that it has to pass. -/
namespace PodPipeline

/-- A pipeline as it is written down: a job and a configuration for each step's name. -/
structure PipelineDraft where
  job : Job := {}
  steps : KeyMap StepConfig := .empty
deriving DecidableEq, Repr

/-- A pipeline that has passed the checks. -/
structure Pipeline where
  job : Job
  steps : KeyMap StepConfig
deriving DecidableEq, Repr

def PipelineDraft.read : Reader PipelineDraft :=
  Reader.record
    [⟨"job", false, fun p d => do return { p with job := ← Job.read d }⟩,
      ⟨"test", false, fun p d => do return { p with steps := ← Reader.map StepConfig.read d }⟩] {}

/-- A check: it refuses its subject for a reason, or lets it pass. -/
abbrev Check := Except ConfigFault Unit

/-- Refuses for the reason `fault` if `bad` holds. -/
def refuseIf (bad : Bool) (fault : ConfigFault) : Check :=
  if bad then .error fault else .ok ()

def pathSegments (path : List Char) : List (List Char) := path.splitOnP (· = '/')

namespace StepConfig

/-- The image needs both a name and a tag. -/
def validateImage (name : String) (c : StepConfig) : Check :=
  refuseIf (Text.isBlank c.image.name || Text.isBlank c.image.tag)
    (.incompleteImage name c.image.name c.image.tag)

/-- A mount path is absolute and has no segment that stands for another directory. -/
def validateMountPath (name path : String) : Check := do
  refuseIf (path.toList.head? ≠ some '/') (.relativeMountPath name path)
  refuseIf ((pathSegments path.toList).any fun s => s = ['.'] || s = ['.', '.'])
    (.dotSegment name path)

/-- The checks of one step, called `name`. -/
def validate (name : String) (c : StepConfig) : Check := do
  refuseIf (Text.isBlank name) .blankStepName
  refuseIf (Text.isBlank c.podName) (.blankPodName name)
  refuseIf (Text.isBlank c.commands) (.blankCommands name)
  c.validateImage name
  match c.secretMountPath? with
  | some path => validateMountPath name path
  | none => return ()

end StepConfig

namespace PipelineDraft

/-- Refuses the first step whose pod an earlier one creates; `seen` holds the earlier ones. -/
def validatePods (seen : List (String × StepConfig)) : List (String × StepConfig) → Check
  | [] => .ok ()
  | (name, c) :: r =>
    match seen.find? fun e => e.2.podName = c.podName with
    | some e => .error (.sharedPod e.1 name c.podName)
    | none => validatePods ((name, c) :: seen) r

/-- The pipeline of a draft, or the first fault: in the whole, then in the steps in the order of
their names, then among them. -/
def validate (d : PipelineDraft) : Except ConfigFault Pipeline := do
  refuseIf d.steps.isEmpty .noSteps
  refuseIf (Text.isBlank d.job.namespace) .blankNamespace
  d.steps.entries.forM fun e => e.2.validate e.1
  validatePods [] d.steps.entries
  return ⟨d.job, d.steps⟩

end PipelineDraft

end PodPipeline
