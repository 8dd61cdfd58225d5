import PodPipeline.Image
import PodPipeline.Pod.Decode

/-! The configuration of a step that runs in a pod. -/
namespace PodPipeline

structure StepConfig where
  /-- The name of the pod that the step creates. -/
  podName : String
  image : ImageReference := {}
  /-- The script that the pod's container runs. -/
  commands : String
  artifactDir : Option String := none
  serviceAccountName : Option String := none
  /-- The secret that is mounted into the container. -/
  secretName : Option String := none
  secretMountPath : Option String := none
  resources : Resources := {}
deriving DecidableEq, Repr

/-- A text that is there and not empty. -/
def nonEmpty (s : Option String) : Option String := s.filter (· ≠ "")

namespace StepConfig

/-! An empty text in one of the optional fields counts as absent. -/

def artifactDir? (c : StepConfig) : Option String := nonEmpty c.artifactDir

def serviceAccountName? (c : StepConfig) : Option String := nonEmpty c.serviceAccountName

def secretName? (c : StepConfig) : Option String := nonEmpty c.secretName

def secretMountPath? (c : StepConfig) : Option String := nonEmpty c.secretMountPath

def read : Reader StepConfig :=
  Reader.record
    [⟨"as", true, fun c d => do return { c with podName := ← Reader.string d }⟩,
      ⟨"from", false, fun c d => do return { c with image := ← ImageReference.read d }⟩,
      ⟨"commands", true, fun c d => do return { c with commands := ← Reader.string d }⟩,
      ⟨"artifact_dir", false, fun c d => do
        return { c with artifactDir := ← Reader.optional Reader.string d }⟩,
      ⟨"service_account_name", false, fun c d => do
        return { c with serviceAccountName := ← Reader.optional Reader.string d }⟩,
      ⟨"secret_name", false, fun c d => do
        return { c with secretName := ← Reader.optional Reader.string d }⟩,
      ⟨"secret_mount_path", false, fun c d => do
        return { c with secretMountPath := ← Reader.optional Reader.string d }⟩,
      ⟨"resources", false, fun c d => do return { c with resources := ← Resources.read d }⟩]
    { podName := "", commands := "" }

end StepConfig

end PodPipeline
