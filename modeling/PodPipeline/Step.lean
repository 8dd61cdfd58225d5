import PodPipeline.Error
import PodPipeline.Link
import PodPipeline.Pod.Build
import PodPipeline.Pod.Verdict

/-! Steps of a pipeline that run their commands in a single pod, and what they tell a scheduler. -/
namespace PodPipeline

structure PodStep where
  /-- The name of the step's section, which is also that of the container. -/
  sectionName : String
  config : StepConfig
  job : Job
deriving DecidableEq, Repr

namespace PodStep

/-- The name of the step for the scheduler: that of its pod. -/
def name (s : PodStep) : String := s.config.podName

def «namespace» (s : PodStep) : String := s.job.namespace

/-- A step with an image waits for the images. -/
def requires (s : PodStep) : List Link :=
  if s.config.image.isSet then [.imagesReady] else []

def creates (_ : PodStep) : List Link := []

def provides (_ : PodStep) : List (String × String) × Option Link := ([], none)

/-- The values that the step takes from others: there are none, but the image has to be complete. -/
def inputs (s : PodStep) : Except StepError (List (String × String)) :=
  (s.config.validateImage s.sectionName).mapError .config |>.map fun _ => []

def pod (s : PodStep) : Except ConfigFault Pod := buildPod s.sectionName s.config s.job

end PodStep

/-- One step for each section of a pipeline, in the order of their names. -/
def Pipeline.podSteps (p : Pipeline) : List PodStep :=
  p.steps.entries.map fun e => ⟨e.1, e.2, p.job⟩

/-- The outcome for those who take a failed step for an error. -/
def Outcome.check (o : Outcome) (step : String) : Except StepError Unit :=
  match o with
  | .succeeded => .ok ()
  | .failed reason => .error (.workloadFailed step reason)

/-! Diagnostic texts. -/

def textMap (m : KeyMap String) (value : String → String) : String :=
  Text.mapping (m.entries.map fun e => (Text.quoted e.1, value e.2))

def Resources.debug (r : Resources) : String :=
  let amount (s : String) := "Quantity(" ++ Text.quoted s ++ ")"
  Text.record "ResourceRequirements"
    [("claims", Text.optional (r.claims.map fun l =>
        Text.sequence (l.map fun c =>
          Text.record "ResourceClaim" [("name", Text.quoted c.name)] false))),
      ("limits", Text.optional (r.limits.map (textMap · amount))),
      ("requests", Text.optional (r.requests.map (textMap · amount)))] false

def StepConfig.debug (c : StepConfig) : String :=
  let text? (s : Option String) := Text.optional (s.map Text.quoted)
  Text.record "PodStepConfiguration"
    [("as_name", Text.quoted c.podName), ("from", c.image.debug),
      ("commands", Text.quoted c.commands), ("artifact_dir", text? c.artifactDir),
      ("service_account_name", text? c.serviceAccountName),
      ("secret_name", text? c.secretName), ("secret_mount_path", text? c.secretMountPath),
      ("resources", c.resources.debug)] false

def PodStep.debug (s : PodStep) : String :=
  Text.record "PodStep"
    [("name", Text.quoted s.sectionName), ("config", s.config.debug), ("job_spec", s.job.debug)]
    true

end PodPipeline
