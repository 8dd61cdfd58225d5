import PodPipeline.Log.Event
import PodPipeline.Watch.Event

/-! Following one pod until it has finished.

A watcher goes from `notStarted` over `created` and `watching` to `terminal`, which it never leaves:
of all that it is shown, the first thing that decides the outcome counts. -/
namespace PodPipeline

inductive CompletionState where
  | notStarted
  /-- The pod was created for the watcher. -/
  | created
  | watching
  | terminal (outcome : Outcome)
deriving DecidableEq, Repr

structure CompletionWatcher where
  podName : String
  state : CompletionState := .notStarted
deriving DecidableEq, Repr

/-- The outcome of a pod whose events end before it has one. -/
def watchClosedOutcome : Outcome := .failed "watch closed unexpectedly"

/-- The outcome of a pod that is deleted before it has one. -/
def deletedOutcome : Outcome := .failed "pod deleted before completion"

/-- The outcome that an event decides for the pod called `name`, if it does. -/
def WatchEvent.verdict (name : String) : WatchEvent → Option Outcome
  | .added p | .modified p => if p.name = name then p.verdict else none
  | .deleted p => if p.name = name then some (p.verdict.getD deletedOutcome) else none
  | .error _ => none

namespace CompletionWatcher

def result (w : CompletionWatcher) : Option Outcome :=
  match w.state with
  | .terminal o => some o
  | _ => none

def isTerminal (w : CompletionWatcher) : Bool := w.result.isSome

def markCreated (w : CompletionWatcher) : CompletionWatcher :=
  if w.state = .notStarted then { w with state := .created } else w

def startWatching (w : CompletionWatcher) : CompletionWatcher :=
  if w.isTerminal then w else { w with state := .watching }

def finish (w : CompletionWatcher) (o : Outcome) : CompletionWatcher × List LogEvent :=
  ({ w with state := .terminal o }, [.podFinished w.podName o])

/-- The watcher reports the outcome `o`, unless there is none or it has reported one before. -/
def decide? (w : CompletionWatcher) (o : Option Outcome) : CompletionWatcher × List LogEvent :=
  match w.result, o with
  | none, some o => w.finish o
  | _, _ => (w, [])

def observePod (w : CompletionWatcher) (p : Pod) : CompletionWatcher × List LogEvent :=
  w.decide? (if p.name = w.podName then p.verdict else none)

def observe (w : CompletionWatcher) (e : WatchEvent) : CompletionWatcher × List LogEvent :=
  match w.result, e with
  | none, .error problem => (w, [.watchProblem w.podName problem])
  | _, e => w.decide? (e.verdict w.podName)

def streamClosed (w : CompletionWatcher) : CompletionWatcher × List LogEvent :=
  match w.result with
  | some _ => (w, [])
  | none =>
    let (w, log) := w.finish watchClosedOutcome
    (w, .watchClosed w.podName :: log)

end CompletionWatcher

end PodPipeline
