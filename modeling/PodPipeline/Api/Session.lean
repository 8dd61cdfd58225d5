import PodPipeline.Api.Service
import PodPipeline.Run.Single
import PodPipeline.Time.Process

/-! A service and a clock, which jumps to the next moment at which something arrives or a time limit
ends. -/
namespace PodPipeline

structure ApiSession where
  service : ApiService := {}
  now : Instant := .zero

namespace ApiSession

def script (s : ApiSession) (replies : List ServiceReply) : ApiSession :=
  { s with service := { s.service with replies } }

/-- The moment at which something arrives for the call under way. -/
def arrivals (s : ApiService) : List Instant := (s.due.map (·.1)).toList

/-- Work that waits for the answer to a call; the state tells whether the call has begun. -/
def answering {α : Type} (work : Instant → Bool → ApiService → ApiService × Option α) :
    Process (ApiService × Bool) α where
  poll now t := let (s, r) := work now t.2 t.1; ((s, true), r)
  wakes t := arrivals t.1

/-- Does work that waits for the answer to a call, and gives it up `patience` from now. -/
def perform {α : Type} (work : Instant → Bool → ApiService → ApiService × Option α)
    (patience : Duration) (s : ApiSession) : ApiSession × Option α :=
  let r := (answering work).run (s.now.later patience) s.now (s.service, false)
  (⟨r.state.1, r.now⟩, r.result)

def call (c : ClientCall) (patience : Duration) (s : ApiSession) :
    ApiSession × Option (ClientResult c.Value) :=
  s.perform (fun now begun => ApiService.poll now c begun) patience

def done (step : PodStep) (patience : Duration) (s : ApiSession) :
    ApiSession × Option (Except StepError Bool) :=
  s.perform (fun now begun => step.done ApiService.client now begun) patience

def cleanup (step : PodStep) (patience : Duration) (s : ApiSession) :
    ApiSession × Option (Except StepError Unit × List LogEvent) :=
  s.perform (fun now begun => step.cleanup ApiService.client now begun) patience

/-- A run of a step. It is over when its last stage is reached. -/
def running (step : PodStep) : Process (ApiService × RunStage) Unit where
  poll now t :=
    let u := step.poll ApiService.client now t.2 t.1
    ((u.world, u.stage), if u.stage.isOver then some () else none)
  wakes t := arrivals t.1 ++ t.2.deadline?.toList

/-- Runs a step, and gives the run up `patience` from now. -/
def run (step : PodStep) (ctx : RunContext) (patience : Duration) (s : ApiSession) :
    ApiSession × RunStage :=
  let r := (running step).run (s.now.later patience) s.now (s.service, .idle ctx)
  (⟨r.state.2.release ApiService.client r.state.1, r.now⟩, r.state.2)

end ApiSession

end PodPipeline
