/-! What can be wrong with a configuration. -/
namespace PodPipeline

inductive ConfigFault where
  | noSteps
  | blankNamespace
  | blankStepName
  | blankPodName (step : String)
  | blankCommands (step : String)
  | incompleteImage (step name tag : String)
  | relativeMountPath (step path : String)
  | dotSegment (step path : String)
  | sharedPod (first second pod : String)
  /-- A fault that somebody else found and put into words. -/
  | stated (message : String)
deriving DecidableEq, Repr

namespace ConfigFault

def ofStep (step rest : String) : String := "step '" ++ step ++ "' " ++ rest

def message : ConfigFault → String
  | .noSteps => "config must contain at least one [test.<name>] section"
  | .blankNamespace => "[job].namespace must not be empty"
  | .blankStepName => "step name must not be empty"
  | .blankPodName step => ofStep step "must set a non-empty `as`"
  | .blankCommands step => ofStep step "must set non-empty `commands`"
  | .incompleteImage step name tag =>
    ofStep step ("has an incomplete image reference '" ++ name ++ ":" ++ tag ++ "'")
  | .relativeMountPath step path =>
    ofStep step ("has relative secret_mount_path '" ++ path ++ "'")
  | .dotSegment step path =>
    ofStep step ("has secret_mount_path '" ++ path ++ "' with a '.' or '..' segment")
  | .sharedPod first second pod =>
    "steps '" ++ first ++ "' and '" ++ second ++ "' both create pod '" ++ pod ++ "'"
  | .stated message => message

end ConfigFault

end PodPipeline
