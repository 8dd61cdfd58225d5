import PodPipeline.Cluster.Table
import PodPipeline.Run.Client

/-! A cluster in memory: a table of pods and the watches that report its changes. -/
namespace PodPipeline

/-- A call that a store has been asked for. -/
inductive Operation where
  | create («namespace» name : String)
  | get («namespace» name : String)
  | updateStatus («namespace» name : String)
  | watch («namespace» : String) (options : ListOptions)
  | delete («namespace» name : String)
deriving DecidableEq, Repr

structure Subscription where
  «namespace» : String
  options : ListOptions
  channel : EventChannel := {}
deriving DecidableEq, Repr

namespace Subscription

/-- Whether the watch is for an event in a namespace. -/
def reports (s : Subscription) (ns : String) (e : WatchEvent) : Bool :=
  s.namespace = ns && s.options.reports e

def notify (ns : String) (e : WatchEvent) (s : Subscription) : Subscription :=
  if s.reports ns e then { s with channel := s.channel.send e } else s

end Subscription

structure PodStore where
  pods : PodTable := {}
  /-- All watches that were ever opened; the number of a watch is its place here. -/
  watches : List Subscription := []
  /-- The calls so far, those that failed included. -/
  actions : List Operation := []
deriving Repr

namespace PodStore

def record (s : PodStore) (a : Operation) : PodStore := { s with actions := s.actions ++ [a] }

def broadcast (s : PodStore) (ns : String) (e : WatchEvent) : PodStore :=
  { s with watches := s.watches.map (Subscription.notify ns e) }

/-! The calls of clients. -/

/-- Stores a new pod, whose namespace becomes that of the call. -/
def create (s : PodStore) (ns : String) (p : Pod) : PodStore × ClientResult Pod :=
  let s := s.record (.create ns p.name)
  let k : PodKey := ⟨ns, p.name⟩
  match s.pods.find? k with
  | some _ => (s, .error (.alreadyExists ns p.name))
  | none =>
    let p := p.inNamespace ns
    ({ s with pods := s.pods.insert k p }.broadcast ns (.added p), .ok p)

def get (s : PodStore) (ns name : String) : PodStore × ClientResult Pod :=
  let s := s.record (.get ns name)
  match s.pods.find? ⟨ns, name⟩ with
  | some p => (s, .ok p)
  | none => (s, .error (.notFound ns name))

/-- Replaces the status of a stored pod by that of `p`. -/
def updateStatus (s : PodStore) (ns : String) (p : Pod) : PodStore × ClientResult Pod :=
  let s := s.record (.updateStatus ns p.name)
  let k : PodKey := ⟨ns, p.name⟩
  match s.pods.find? k with
  | some stored =>
    let q := stored.withStatus p.status
    ({ s with pods := s.pods.insert k q }.broadcast ns (.modified q), .ok q)
  | none => (s, .error (.notFound ns p.name))

def delete (s : PodStore) (ns name : String) : PodStore × ClientResult Unit :=
  let s := s.record (.delete ns name)
  let k : PodKey := ⟨ns, name⟩
  match s.pods.find? k with
  | some p => ({ s with pods := s.pods.erase k }.broadcast ns (.deleted p), .ok ())
  | none => (s, .error (.notFound ns name))

def watch (s : PodStore) (ns : String) (options : ListOptions) : PodStore × WatchId :=
  let s := s.record (.watch ns options)
  ({ s with watches := s.watches ++ [⟨ns, options, {}⟩] }, ⟨s.watches.length⟩)

/-! What the holder of the store can do besides. -/

/-- Puts a pod at the place that its metadata names, as if it had been there before. -/
def insert (s : PodStore) (p : Pod) : PodStore := { s with pods := s.pods.insert p.key p }

/-- Sends an event that no change of a pod has caused. -/
def inject (s : PodStore) (ns : String) (e : WatchEvent) : PodStore := s.broadcast ns e

/-- Ends all watches; what is sent can still be read. -/
def closeWatches (s : PodStore) : PodStore :=
  { s with watches := s.watches.map fun w => { w with channel := w.channel.close } }

def openWatches (s : PodStore) : Nat := s.watches.countP (·.channel.isOpen)

def createCount (s : PodStore) : Nat := s.actions.countP (· matches .create _ _)

/-! Reading watches. -/

def channel? (s : PodStore) (w : WatchId) : Option EventChannel :=
  s.watches[w.number]?.map (·.channel)

def setChannel (s : PodStore) (w : WatchId) (c : EventChannel) : PodStore :=
  { s with watches := s.watches.modify w.number fun t => { t with channel := c } }

def next (s : PodStore) (w : WatchId) : PodStore × Delivery :=
  match s.channel? w with
  | some c => (s.setChannel w c.next.1, c.next.2)
  | none => (s, .ended)

def stop (s : PodStore) (w : WatchId) : PodStore :=
  match s.channel? w with
  | some c => s.setChannel w c.stop
  | none => s

def queued (s : PodStore) (w : WatchId) : Nat := ((s.channel? w).map (·.queue.length)).getD 0

theorem channel?_setChannel {s : PodStore} {w : WatchId} {c d : EventChannel}
    (h : s.channel? w = some c) : (s.setChannel w d).channel? w = some d := by
  simp only [channel?, setChannel, Option.map_eq_some_iff] at h ⊢
  obtain ⟨t, ht, -⟩ := h
  exact ⟨{ t with channel := d }, by simp [ht], rfl⟩

theorem queued_next_lt {s t : PodStore} {w : WatchId} {e : WatchEvent}
    (h : s.next w = (t, .event e)) : t.queued w < s.queued w := by
  unfold next at h
  split at h
  · rename_i c hc
    obtain ⟨rfl, he⟩ := Prod.mk.inj h
    simp only [queued, channel?_setChannel hc, hc, Option.map_some, Option.getD_some]
    exact EventChannel.queue_length_next_lt (Prod.ext rfl he)
  · simp at h

/-- The store answers every call at once. -/
def call (s : PodStore) : (c : ClientCall) → PodStore × ClientResult c.Value
  | .create ns p => s.create ns p
  | .get ns name => s.get ns name
  | .updateStatus ns p => s.updateStatus ns p
  | .watch ns options => let (s, w) := s.watch ns options; (s, .ok w)
  | .delete ns name => s.delete ns name

def client : PodClient PodStore where
  poll _ c _ s := let (s, answer) := s.call c; (s, some answer)
  source w :=
    { next := fun s => s.next w
      stop := fun s => s.stop w
      queued := fun s => s.queued w
      queued_next_lt := queued_next_lt }

end PodStore

end PodPipeline
