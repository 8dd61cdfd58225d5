import PodPipeline.Api.Forwarder
import PodPipeline.Api.Request

/-! Clients of the cluster's API, over a service whose replies are given beforehand. -/
namespace PodPipeline

inductive ServiceReply where
  | answer (after : Duration) (response : ApiResponse)
  /-- The transport fails. -/
  | failure (after : Duration) (reason : String)
  | silence
deriving DecidableEq, Repr

/-- What arrives of a reply: an answer, or why there is none. -/
abbrev Arrival := Except ApiError ApiResponse

/-- What arrives of a reply to a request that is made `now`, and when. -/
def ServiceReply.arrival? (now : Instant) : ServiceReply → Option (Instant × Arrival)
  | .answer after response => (now.add? after).map fun moment => (moment, .ok response)
  | .failure after reason => (now.add? after).map fun moment => (moment, .error (.service reason))
  | .silence => none

structure ApiService where
  /-- The replies to the requests to come, in their order. -/
  replies : List ServiceReply := []
  /-- The requests so far. -/
  requests : List ApiRequest := []
  /-- What arrives for the call that is under way. -/
  due : Option (Instant × Arrival) := none
  /-- All watches that were ever opened; the number of a watch is its place here. -/
  watches : List Forwarder := []

namespace ApiService

/-- What a request meets for which there is no reply. -/
def noReply : ServiceReply := .failure .zero "no response scripted"

def send (s : ApiService) (now : Instant) (request : ApiRequest) : ApiService :=
  { s with
    replies := s.replies.tail
    requests := s.requests ++ [request]
    due := (s.replies.headD noReply).arrival? now }

/-- What the failure of a call is for the one who made it. A watch that cannot be opened is not the
fault of any one pod. -/
def blame (c : ClientCall) (e : ApiError) : ClientError :=
  e.forPod c.namespace (match c with
    | .watch _ _ => ""
    | c => c.podName)

/-- The value of an answer that is needed whole. There is none as long as more may come. -/
def whole {α : Type} (c : ClientCall) (r : ApiResponse) (read : String → Except ReadError α) :
    Option (ClientResult α) :=
  if r.ended then some ((r.value read).mapError (blame c)) else none

/-- What an answer is for the call that it belongs to. A watch begins whatever the status code is.
-/
def accept (s : ApiService) (r : ApiResponse) :
    (c : ClientCall) → ApiService × Option (ClientResult c.Value)
  | .create ns pod => (s, whole (.create ns pod) r Pod.ofText)
  | .get ns name => (s, whole (.get ns name) r Pod.ofText)
  | .updateStatus ns pod => (s, whole (.updateStatus ns pod) r Pod.ofText)
  | .delete ns name => (s, whole (.delete ns name) r removalOfText)
  | .watch _ _ =>
    ({ s with watches := s.watches ++ [(Forwarder.start r).settle] },
      some (.ok ⟨s.watches.length⟩))

def proceed (s : ApiService) (now : Instant) (c : ClientCall) :
    ApiService × Option (ClientResult c.Value) :=
  match s.due with
  | none => (s, none)
  | some (moment, arrival) =>
    if moment.reached now then
      match arrival with
      | .ok r => s.accept r c
      | .error e => (s, some (.error (blame c e)))
    else (s, none)

def poll (now : Instant) (c : ClientCall) (begun : Bool) (s : ApiService) :
    ApiService × Option (ClientResult c.Value) :=
  if begun then s.proceed now c
  else match c.request with
    | .ok request => (s.send now request).proceed now c
    | .error fault => (s, some (.error (blame c (.request fault))))

/-! Reading watches. -/

def setWatch (s : ApiService) (w : WatchId) (f : Forwarder) : ApiService :=
  { s with watches := s.watches.set w.number f }

def next (s : ApiService) (w : WatchId) : ApiService × Delivery :=
  match s.watches[w.number]? with
  | some f => (s.setWatch w f.next.1, f.next.2)
  | none => (s, .ended)

def stop (s : ApiService) (w : WatchId) : ApiService :=
  match s.watches[w.number]? with
  | some f => s.setWatch w f.stop.settle
  | none => s

def queued (s : ApiService) (w : WatchId) : Nat :=
  (s.watches[w.number]?.map (·.channel.queue.length)).getD 0

theorem queued_next_lt {s t : ApiService} {w : WatchId} {e : WatchEvent}
    (h : s.next w = (t, .event e)) : t.queued w < s.queued w := by
  unfold next at h
  split at h
  · rename_i f hf
    obtain ⟨rfl, he⟩ := Prod.mk.inj h
    obtain ⟨hlt, -⟩ := List.getElem?_eq_some_iff.1 hf
    simp only [queued, setWatch, hf, List.getElem?_set_self hlt, Option.map_some, Option.getD_some]
    exact EventChannel.queue_length_next_lt (Prod.ext rfl he)
  · simp at h

def openBodies (s : ApiService) : Nat := s.watches.countP (·.working)

/-- The diagnostic text of a client, which shows nothing of its service. -/
def debug : String := Text.record "KubePodClient" [] true

def client : PodClient ApiService where
  poll := poll
  source w :=
    { next := fun s => s.next w
      stop := fun s => s.stop w
      queued := fun s => s.queued w
      queued_next_lt := queued_next_lt }

end ApiService

end PodPipeline
