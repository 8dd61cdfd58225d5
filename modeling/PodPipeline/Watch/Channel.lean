import PodPipeline.Watch.Event

/-! Channels that carry the events of a watch from the one who sends them to the one who reads them.
-/
namespace PodPipeline

/-- What a reader is told who asks for the next event. -/
inductive Delivery where
  | event (e : WatchEvent)
  /-- No event will come any more. -/
  | ended
  /-- No event has come yet. -/
  | pending
deriving DecidableEq, Repr

/-- A channel without bounds. -/
structure EventChannel where
  /-- The events that are sent and not read, the oldest first. -/
  queue : List WatchEvent := []
  /-- The sender is still there. -/
  sending : Bool := true
  /-- The reader wants no more events. -/
  stopped : Bool := false
deriving DecidableEq, Repr

namespace EventChannel

/-- A channel is open while events can still be sent and will be read. -/
def isOpen (c : EventChannel) : Bool := c.sending && !c.stopped

def send (c : EventChannel) (e : WatchEvent) : EventChannel :=
  if c.isOpen then { c with queue := c.queue ++ [e] } else c

/-- The sender goes away. What is sent can still be read. -/
def close (c : EventChannel) : EventChannel := { c with sending := false }

/-- The reader stops. What is not read is lost. -/
def stop (c : EventChannel) : EventChannel := { c with stopped := true }

def next (c : EventChannel) : EventChannel × Delivery :=
  if c.stopped then (c, .ended)
  else match c.queue with
    | e :: r => ({ c with queue := r }, .event e)
    | [] => (c, if c.sending then .pending else .ended)

end EventChannel

/-- A watch in a world of type `σ`: how to read it and to stop it. No reading yields an event
without taking one of those that are queued. -/
structure EventSource (σ : Type) where
  next : σ → σ × Delivery
  stop : σ → σ
  queued : σ → Nat
  queued_next_lt : ∀ {s t e}, next s = (t, .event e) → queued t < queued s

theorem EventChannel.queue_length_next_lt {c d : EventChannel} {e : WatchEvent}
    (h : c.next = (d, .event e)) : d.queue.length < c.queue.length := by
  unfold next at h
  split at h
  · simp at h
  · split at h
    · rename_i hq
      obtain ⟨rfl, -⟩ := Prod.mk.inj h
      simp [hq]
    · have := (Prod.mk.inj h).2
      split at this <;> simp at this

def EventChannel.source : EventSource EventChannel where
  next := EventChannel.next
  stop := EventChannel.stop
  queued c := c.queue.length
  queued_next_lt := EventChannel.queue_length_next_lt

end PodPipeline
