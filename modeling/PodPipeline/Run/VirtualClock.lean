import PodPipeline.Run.Guard
import PodPipeline.Time.Process

/-! A guard on a virtual clock, with a sender of the cancel signal that acts as planned. -/
namespace PodPipeline

inductive SenderAct where
  | send
  | leave
deriving DecidableEq, Repr

def SenderAct.apply : SenderAct → CancelSignal → CancelSignal
  | .send => CancelSignal.send
  | .leave => CancelSignal.abandon

structure PlannedAct where
  moment : Instant
  act : SenderAct
deriving DecidableEq, Repr

namespace PlannedAct

/-- The plans with another one, behind those for the same moment. -/
def insert (p : PlannedAct) : List PlannedAct → List PlannedAct
  | [] => [p]
  | q :: r => if q.moment.nanos ≤ p.moment.nanos then q :: insert p r else p :: q :: r

end PlannedAct

structure GuardClock where
  guard : RunGuard
  now : Instant := .zero
  /-- What the sender of the signal will do; the earliest comes first. -/
  planned : List PlannedAct := []
deriving Repr

structure ClockedWait where
  clock : GuardClock
  /-- The work has begun. -/
  started : Bool := false
  waited : Waited Unit := .pending
  log : List LogEvent := []

namespace GuardClock

def signal (c : GuardClock) (act : SenderAct) : GuardClock :=
  { c with guard := { c.guard with signal := act.apply c.guard.signal } }

/-- Does what was planned until now. The sender acts only once: what comes after that has no effect.
-/
def settle (c : GuardClock) : GuardClock :=
  let isDue (p : PlannedAct) := p.moment.reached c.now
  (c.planned.takeWhile isDue).foldl (fun c p => c.signal p.act)
    { c with planned := c.planned.dropWhile isDue }

/-- Lets some time pass in which nobody waits. What is planned for this time is done when somebody
waits again, or when time passes again. -/
def advance (c : GuardClock) (d : Duration) : GuardClock :=
  { c.settle with now := c.now.later d }

def plan (c : GuardClock) (after : Duration) (act : SenderAct) : GuardClock :=
  { c with planned := PlannedAct.insert ⟨c.now.later after, act⟩ c.planned }

/-- Work that is ready at some moment or never, in a world that tells whether it has begun. -/
def work (ready : Option Instant) (now : Instant) (_started : Bool) : Bool × Option Unit :=
  (true, if ready.any (·.reached now) then some () else none)

def look (c : GuardClock) (ready : Option Instant) (started : Bool) : ClockedWait :=
  let a := c.guard.poll c.now (work ready c.now) started
  { clock := { c with guard := a.guard }, started := a.world, waited := a.waited, log := a.log }

/-- Going on to wait for work under the guard, as a process. At each moment the sender acts first.
-/
def waiting (ready : Option Instant) : Process ClockedWait Unit where
  poll now w :=
    let w := { w.clock with now }.settle.look ready w.started
    (w, if w.waited matches .pending then none else some ())
  wakes w :=
    w.clock.planned.map (·.moment)
      ++ [w.clock.guard.limit.map (·.deadline), ready].filterMap id

/-- Waits for work under the guard, and gives it up `patience` from now. The guard is looked at
before the sender gets to act. -/
def await (c : GuardClock) (ready : Option Instant) (patience : Duration) : ClockedWait :=
  let w := c.look ready false
  match w.waited with
  | .pending =>
    let r := (waiting ready).run (c.now.later patience) c.now w
    { r.state with clock := { r.state.clock with now := r.now } }
  | _ => w

end GuardClock

end PodPipeline
