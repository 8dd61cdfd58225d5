import PodPipeline.Cluster.Table
import PodPipeline.Run.Basic

/-! Clients that keep a record of the calls that are made and of the events that are read. -/
namespace PodPipeline

variable {σ : Type}

/-- A call that has begun. There is no answer as long as it goes on. -/
structure Exchange where
  call : ClientCall
  answer : Option (ClientResult call.Value)

def Exchange.error? (x : Exchange) : Option ClientError :=
  match x.answer with
  | some (.error e) => some e
  | _ => none

/-- Whether the call has created a pod at `k`. -/
def Exchange.creates (k : PodKey) (x : Exchange) : Bool :=
  match x with
  | ⟨.create ns p, some (.ok _)⟩ => k = ⟨ns, p.name⟩
  | _ => false

structure Record where
  /-- The calls in the order in which they began. -/
  calls : List Exchange := []
  events : List WatchEvent := []

/-- A world with the record of what was done in it. -/
structure Recorded (σ : Type) where
  world : σ
  record : Record := {}

def Delivery.event? : Delivery → Option WatchEvent
  | .event e => some e
  | _ => none

namespace Recorded

def poll (client : PodClient σ) (now : Instant) (c : ClientCall) (begun : Bool) (r : Recorded σ) :
    Recorded σ × Option (ClientResult c.Value) :=
  let p := client.poll now c begun r.world
  let earlier := if begun then r.record.calls.dropLast else r.record.calls
  ({ world := p.1, record := { r.record with calls := earlier ++ [⟨c, p.2⟩] } }, p.2)

def lift (src : EventSource σ) : EventSource (Recorded σ) where
  next r :=
    let n := src.next r.world
    ({ world := n.1, record := { r.record with events := r.record.events ++ n.2.event?.toList } },
      n.2)
  stop r := { r with world := src.stop r.world }
  queued r := src.queued r.world
  queued_next_lt h := by
    obtain ⟨rfl, he⟩ := Prod.mk.inj h
    exact src.queued_next_lt (Prod.ext rfl he)

/-- Reading a watch records the event that it gives. -/
theorem lift_next {src : EventSource σ} {r t : Recorded σ} {d : Delivery}
    (h : (lift src).next r = (t, d)) : ∃ world, src.next r.world = (world, d) ∧
      t = { world, record := { r.record with events := r.record.events ++ d.event?.toList } } := by
  obtain ⟨rfl, rfl⟩ := Prod.mk.inj h
  exact ⟨_, rfl, rfl⟩

def client (c : PodClient σ) : PodClient (Recorded σ) where
  poll now call begun r := poll c now call begun r
  source w := lift (c.source w)

variable {c : PodClient σ} {r r' : Recorded σ}

/-- The record of a call replaces that of the call which is under way, if there is one. -/
theorem length_calls_poll (client : PodClient σ) (now : Instant) (call : ClientCall)
    (begun : Bool) (r : Recorded σ) :
    r.record.calls.length ≤ (poll client now call begun r).1.record.calls.length := by
  unfold poll
  cases begun with
  | false => simp
  | true =>
    simp only [if_true, List.length_append, List.length_dropLast, List.length_singleton]
    omega

/-- A call that is tried is all that is new in the record. -/
theorem mem_calls_poll {client : PodClient σ} {now : Instant} {call : ClientCall} {begun : Bool}
    {x : Exchange} (h : x ∈ (poll client now call begun r).1.record.calls) :
    x ∈ r.record.calls ∨ x = ⟨call, (client.poll now call begun r.world).2⟩ := by
  change x ∈ (if begun then r.record.calls.dropLast else r.record.calls) ++ [_] at h
  rcases List.mem_append.mp h with h | h
  · cases begun with
    | false => exact .inl h
    | true => exact .inl ((List.dropLast_sublist _).subset h)
  · exact .inr (List.mem_singleton.mp h)

theorem record_release (run : ActiveRun) (r : Recorded σ) :
    (run.release (client c) r).record = r.record := by
  unfold ActiveRun.release
  split <;> rfl

theorem calls_next {watch : WatchId} {d : Delivery}
    (h : ((client c).source watch).next r = (r', d)) : r'.record.calls = r.record.calls := by
  obtain ⟨rfl, -⟩ := Prod.mk.inj h
  rfl

end Recorded

def PodStep.sample : PodStep where
  sectionName := "unit"
  config :=
    { podName := "unit-pod", image := { name := "pipeline", tag := "src" }
      commands := "make test" }
  job := { «namespace» := "ns" }

/-- What a run of a step comes to, and the world with the record of the run. Between the small steps
of the run anything may happen to the world, and the run may be cancelled or dropped. -/
inductive PodStep.Reaches (client : PodClient σ) (s : PodStep) (ctx : RunContext) :
    RunStage → Recorded σ → Prop where
  | launched (world : σ) : Reaches client s ctx (.idle ctx) { world }
  | moved {stage r} (h : Reaches client s ctx stage r) (now : Instant) :
    Reaches client s ctx (s.tick (Recorded.client client) now stage r).stage
      (s.tick (Recorded.client client) now stage r).world
  | disturbed {stage r} (h : Reaches client s ctx stage r) (world : σ) :
    Reaches client s ctx stage { r with world }
  | cancelled {stage r} (h : Reaches client s ctx stage r) :
    Reaches client s ctx (stage.mapSignal .send) r
  | abandoned {stage r} (h : Reaches client s ctx stage r) :
    Reaches client s ctx (stage.mapSignal .abandon) r
  | dropped {stage r} (h : Reaches client s ctx stage r) (ho : stage.isOver = false) :
    Reaches client s ctx .aborted (stage.release (Recorded.client client) r)

end PodPipeline
