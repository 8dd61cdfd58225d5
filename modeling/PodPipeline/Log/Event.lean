import PodPipeline.Log.Level
import PodPipeline.Pod.Verdict
import PodPipeline.Time.Duration

/-! What runs of steps log. -/
namespace PodPipeline

inductive LogEvent where
  | running (step pod «namespace» : String)
  | resuming (step pod : String) (phase : Phase)
  | otherConfiguration (step pod : String)
  | podFinished (pod : String) (outcome : Outcome)
  | stepFinished (step pod : String) (outcome : Outcome)
  | watchProblem (pod problem : String)
  | watchClosed (pod : String)
  | cancelled (step : String)
  | timedOut (step : String) (after : Duration)
  | podDeleted (step pod : String)
deriving DecidableEq, Repr

namespace LogEvent

def level : LogEvent → Level
  | .otherConfiguration .. | .watchProblem .. | .watchClosed .. => .warn
  | _ => .info

def message : LogEvent → String
  | .running .. => "running pod step"
  | .resuming .. => "pod already exists; resuming"
  | .otherConfiguration .. => "existing pod was built from a different configuration"
  | .podFinished .. => "pod reached a terminal phase"
  | .stepFinished .. => "pod step finished"
  | .watchProblem .. => "transient watch error; continuing"
  | .watchClosed .. => "watch closed before the pod finished"
  | .cancelled .. => "run cancelled; leaving pod in place"
  | .timedOut .. => "run timed out; leaving pod in place"
  | .podDeleted .. => "deleted pod"

def fields : LogEvent → List (String × String)
  | .running step pod ns => [("step", step), ("pod", pod), ("namespace", ns)]
  | .resuming step pod phase => [("step", step), ("pod", pod), ("phase", phase.text)]
  | .otherConfiguration step pod => [("step", step), ("pod", pod)]
  | .podFinished pod outcome => [("pod", pod), ("result", outcome.text)]
  | .stepFinished step pod outcome => [("step", step), ("pod", pod), ("result", outcome.text)]
  | .watchProblem pod problem => [("pod", pod), ("error", problem)]
  | .watchClosed pod => [("pod", pod)]
  | .cancelled step => [("step", step)]
  | .timedOut step after => [("step", step), ("after", after.text)]
  | .podDeleted step pod => [("step", step), ("pod", pod)]

end LogEvent

end PodPipeline
