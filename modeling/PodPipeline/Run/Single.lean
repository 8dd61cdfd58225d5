import PodPipeline.Run.Basic

/-! What a step asks a client for outside its runs, in a single call. -/
namespace PodPipeline.PodStep

variable {σ : Type}

/-- Whether the step's pod has finished, from the answer to a look-up. A pod that is not there has
not finished. -/
def doneFrom (s : PodStep) : ClientResult Pod → Except StepError Bool
  | .ok p => .ok p.verdict.isSome
  | .error e => if e.isNotFound then .ok false else .error (s.clientError .lookup e)

/-- Whether the step's work is complete, once the client has answered. -/
def done (client : PodClient σ) (now : Instant) (s : PodStep) (begun : Bool) (world : σ) :
    σ × Option (Except StepError Bool) :=
  let (world, answer) := client.poll now s.getCall begun world
  (world, answer.map s.doneFrom)

def deleteCall (s : PodStep) : ClientCall := .delete s.namespace s.name

/-- What comes of a deletion, from its answer. A pod that is already gone is as good as deleted. -/
def cleanedUpFrom (s : PodStep) : ClientResult Unit → Except StepError Unit × List LogEvent
  | .ok () => (.ok (), [.podDeleted s.sectionName s.name])
  | .error e => (if e.isNotFound then .ok () else .error (s.clientError .delete e), [])

/-- Removes the step's pod, and is over once the client has answered. -/
def cleanup (client : PodClient σ) (now : Instant) (s : PodStep) (begun : Bool) (world : σ) :
    σ × Option (Except StepError Unit × List LogEvent) :=
  let (world, answer) := client.poll now s.deleteCall begun world
  (world, answer.map s.cleanedUpFrom)

end PodPipeline.PodStep
