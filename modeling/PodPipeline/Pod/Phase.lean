import PodPipeline.Pod.Basic

/-! The phases of a pod's life. -/
namespace PodPipeline

inductive Phase where
  | pending | running | succeeded | failed | unknown
deriving DecidableEq, Repr

namespace Phase

def text : Phase → String
  | .pending => "Pending"
  | .running => "Running"
  | .succeeded => "Succeeded"
  | .failed => "Failed"
  | .unknown => "Unknown"

/-- The phase of a text. One that names no phase reads as `unknown`. -/
def ofText (s : String) : Phase :=
  if s = "Pending" then .pending
  else if s = "Running" then .running
  else if s = "Succeeded" then .succeeded
  else if s = "Failed" then .failed
  else .unknown

def isTerminal : Phase → Bool
  | .succeeded | .failed => true
  | _ => false

def toStatus (p : Phase) : PodStatus := { phase := some p.text }

theorem ofText_text (p : Phase) : ofText p.text = p := by cases p <;> decide

end Phase

/-- The phase in the pod's status, which is `pending` before any is reported. -/
def Pod.phase (p : Pod) : Phase :=
  ((p.status.bind (·.phase)).map Phase.ofText).getD .pending

end PodPipeline
