import PodPipeline.Api.Stream

/-! Forwarding a stream to the reader of a watch.

A forwarder takes the items of a stream one by one and sends what they report. It leaves when the
stream ends, or when it finds that the reader has stopped: it may notice that at any time, and it
does so at the latest with the next item that has something to report. -/
namespace PodPipeline

structure Forwarder where
  /-- What the stream brings and nobody has taken yet. -/
  items : List StreamItem
  /-- The stream ends behind the items. -/
  ended : Bool
  channel : EventChannel := {}
  /-- The forwarder has not left, and holds on to the stream. -/
  working : Bool := true
deriving DecidableEq, Repr

namespace Forwarder

def start (r : ApiResponse) : Forwarder := { items := r.items, ended := r.ended }

/-- Lets go of the stream. The reader can still read what was sent. -/
def leave (f : Forwarder) : Forwarder := { f with working := false, channel := f.channel.close }

/-- Leaves if the reader has stopped. -/
def notice (f : Forwarder) : Forwarder := if f.working && f.channel.stopped then f.leave else f

def take (f : Forwarder) : Forwarder :=
  if f.working then
    match f.items with
    | [] => if f.ended then f.leave else f
    | item :: r =>
      let f := { f with items := r }
      match item.event? with
      | none => f
      | some e => if f.channel.stopped then f.leave else { f with channel := f.channel.send e }
  else f

/-- Goes on until there is nothing to do but wait: for the reader to stop, or for more of the
stream. -/
def settle (f : Forwarder) : Forwarder := Nat.repeat take (f.items.length + 1) f.notice

theorem take_eq_self {f : Forwarder} (h : f.working = false) : f.take = f := by simp [take, h]

theorem working_notice {f : Forwarder} (h : f.channel.stopped = true) :
    f.notice.working = false := by
  unfold notice leave
  split <;> simp_all

/-! The reader. -/

def next (f : Forwarder) : Forwarder × Delivery :=
  let (channel, d) := f.channel.next
  ({ f with channel }, d)

def stop (f : Forwarder) : Forwarder := { f with channel := f.channel.stop }

end Forwarder

end PodPipeline
