import PodPipeline.Cluster.Store

/-! Stand-ins for a control plane: each gives a status to the first pod that it sees. -/
namespace PodPipeline

structure Reporter where
  «namespace» : String
  /-- All pods of the namespace are watched. -/
  watch : WatchId
  status : PodStatus
  /-- Once the reporter is done: the pod that got the status, unless its watch ended before or the
  pod was gone. -/
  result : Option (Option String) := none
deriving DecidableEq, Repr

namespace Reporter

def start (s : PodStore) (ns : String) (status : PodStatus) : PodStore × Reporter :=
  let (s, watch) := s.watch ns {}
  (s, { «namespace» := ns, watch, status })

/-- The pod that an event gives the reporter to work on. -/
def subject? : WatchEvent → Option Pod
  | .added p | .modified p => some p
  | .deleted _ | .error _ => none

def report (r : Reporter) (s : PodStore) (p : Pod) : PodStore × Option String :=
  match s.updateStatus r.namespace (p.withStatus (some r.status)) with
  | (s, .ok _) => (s, some p.name)
  | (s, .error _) => (s, none)

/-- Reads events up to the first one with a pod to work on, and is done then or when the events have
ended. There is no result as long as more events may come. -/
def turn (r : Reporter) (s : PodStore) : PodStore × Option (Option String) :=
  match _h : s.next r.watch with
  | (s, .pending) => (s, none)
  | (s, .ended) => (s.stop r.watch, some none)
  | (t, .event e) =>
    match subject? e with
    | none => turn r t
    | some p =>
      let (s, name) := r.report t p
      (s.stop r.watch, some name)
termination_by s.queued r.watch
decreasing_by exact PodStore.queued_next_lt (by assumption)

def hasNews (r : Reporter) (s : PodStore) : Bool :=
  r.result.isNone && (s.next r.watch).2 ≠ .pending

end Reporter

end PodPipeline
