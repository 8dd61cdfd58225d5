import PodPipeline.Pod.Basic

/-! The changes of pods that a watch reports. -/
namespace PodPipeline

inductive WatchEvent where
  | added (pod : Pod)
  | modified (pod : Pod)
  | deleted (pod : Pod)
  /-- The watch itself has a problem. -/
  | error (message : String)
deriving DecidableEq, Repr

def WatchEvent.pod? : WatchEvent → Option Pod
  | .added p | .modified p | .deleted p => some p
  | .error _ => none

/-- Which pods of a namespace a watch is for: all of them, or the one with a given name. -/
structure ListOptions where
  name : Option String := none
deriving DecidableEq, Repr

namespace ListOptions

def covers (o : ListOptions) (p : Pod) : Bool := o.name.all (· = p.name)

/-- Whether a watch reports an event. Problems concern every watch. -/
def reports (o : ListOptions) (e : WatchEvent) : Bool := e.pod?.all o.covers

end ListOptions

end PodPipeline
