import PodPipeline.Run.Client

/-! Clients that fail, or are slow, as they are told to. -/
namespace PodPipeline

/-- The calls that can be told to fail. -/
inductive CallKind where
  | create | get | watch | delete
deriving DecidableEq, Repr

namespace ClientCall

def kind? : ClientCall → Option CallKind
  | .create _ _ => some .create
  | .get _ _ => some .get
  | .updateStatus _ _ => none
  | .watch _ _ => some .watch
  | .delete _ _ => some .delete

end ClientCall

inductive Fault where
  | notFound
  | alreadyExists
  | other (message : String)
  /-- There is never an answer. -/
  | hang
  /-- The call is made after a while. -/
  | delay (after : Duration)
deriving DecidableEq, Repr

/-- A fault for the `nth` call of a kind, the first one being the zeroth. -/
structure FaultRule where
  call : CallKind
  nth : Nat := 0
  fault : Fault
deriving DecidableEq, Repr

/-- The rules, and the calls made so far. -/
structure FaultPlan where
  rules : List FaultRule := []
  made : List CallKind := []
deriving DecidableEq, Repr

/-- The fault of a call that is made now. The first rule for it counts. -/
def FaultPlan.consult (p : FaultPlan) (c : ClientCall) : FaultPlan × Option Fault :=
  match c.kind? with
  | none => (p, none)
  | some kind =>
    let nth := p.made.count kind
    ({ p with made := kind :: p.made },
      (p.rules.find? fun r => r.call = kind && r.nth = nth).map (·.fault))

/-- When a call that is held back is made. -/
inductive Hold where
  | awaiting (moment : Instant)
  | forever
deriving DecidableEq, Repr

/-- A world with a plan of faults, and with the call that is held back. -/
structure Faulty (σ : Type) where
  world : σ
  plan : FaultPlan
  hold : Option Hold := none

namespace Faulty

variable {σ α : Type}

def pass (client : PodClient σ) (now : Instant) (c : ClientCall) (begun : Bool) (f : Faulty σ) :
    Faulty σ × Option (ClientResult c.Value) :=
  let (world, answer) := client.poll now c begun f.world
  ({ f with world, hold := none }, answer)

/-- Begins a call, to which the plan may have a fault. -/
def begin (client : PodClient σ) (now : Instant) (c : ClientCall) (f : Faulty σ) :
    Faulty σ × Option (ClientResult c.Value) :=
  let (plan, fault) := f.plan.consult c
  let f := { f with plan, hold := none }
  match fault with
  | none => pass client now c false f
  | some .notFound => (f, some (.error (.notFound c.namespace c.podName)))
  | some .alreadyExists => (f, some (.error (.alreadyExists c.namespace c.podName)))
  | some (.other message) => (f, some (.error (.other message)))
  | some .hang => ({ f with hold := some .forever }, none)
  | some (.delay after) =>
    match now.add? after with
    | none => ({ f with hold := some .forever }, none)
    | some moment =>
      if moment.reached now then pass client now c false f
      else ({ f with hold := some (.awaiting moment) }, none)

def poll (client : PodClient σ) (now : Instant) (c : ClientCall) (begun : Bool) (f : Faulty σ) :
    Faulty σ × Option (ClientResult c.Value) :=
  if begun then
    match f.hold with
    | none => pass client now c true f
    | some .forever => (f, none)
    | some (.awaiting moment) => if moment.reached now then pass client now c false f else (f, none)
  else begin client now c f

def lift (src : EventSource σ) : EventSource (Faulty σ) where
  next f := ({ f with world := (src.next f.world).1 }, (src.next f.world).2)
  stop f := { f with world := src.stop f.world }
  queued f := src.queued f.world
  queued_next_lt h := by
    obtain ⟨rfl, he⟩ := Prod.mk.inj h
    exact src.queued_next_lt (Prod.ext rfl he)

/-- A client whose calls are subject to a plan of faults. -/
def client (c : PodClient σ) : PodClient (Faulty σ) where
  poll now call begun f := poll c now call begun f
  source w := lift (c.source w)

end Faulty

end PodPipeline
