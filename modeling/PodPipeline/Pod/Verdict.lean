import PodPipeline.Pod.Phase

/-! Whether a pod has finished, and how. -/
namespace PodPipeline

inductive Outcome where
  | succeeded
  | failed (reason : String)
deriving DecidableEq, Repr

def Outcome.text : Outcome → String
  | .succeeded => "succeeded"
  | .failed reason => "failed: " ++ reason

namespace Pod

/-- What is said of each container that ended with a code other than zero. -/
def failedContainers (p : Pod) : List String :=
  (p.terminatedContainers.filter fun c => c.2.exitCode ≠ 0).map fun c =>
    "container " ++ c.1 ++ " exited with code " ++ toString c.2.exitCode

/-- Why a failed pod failed: its status message, else its status reason, else its failed containers,
else its name. -/
def failureReason (p : Pod) : String :=
  match p.statusMessage with
  | some m => m
  | none => match p.statusReason with
    | some r => r
    | none =>
      if p.failedContainers.isEmpty then "pod " ++ p.name ++ " failed"
      else "; ".intercalate p.failedContainers

/-- The outcome of a pod, once it has one. A container that ended with a code other than zero makes
the pod a failed one, whatever its phase says. -/
def verdict (p : Pod) : Option Outcome :=
  if p.phase = .failed ∨ p.failedContainers ≠ [] then some (.failed p.failureReason)
  else if p.phase = .succeeded then some .succeeded
  else none

end Pod

end PodPipeline
