import PodPipeline.Error
import PodPipeline.Watch.Channel

/-! Clients of a cluster. -/
namespace PodPipeline

inductive ClientCall where
  | create («namespace» : String) (pod : Pod)
  | get («namespace» name : String)
  | updateStatus («namespace» : String) (pod : Pod)
  | watch («namespace» : String) (options : ListOptions)
  | delete («namespace» name : String)
deriving DecidableEq, Repr

namespace ClientCall

def «namespace» : ClientCall → String
  | .create ns _ | .get ns _ | .updateStatus ns _ | .watch ns _ | .delete ns _ => ns

def podName : ClientCall → String
  | .create _ p | .updateStatus _ p => p.name
  | .get _ name | .delete _ name => name
  | .watch _ options => options.name.getD ""

end ClientCall

structure WatchId where
  number : Nat
deriving DecidableEq, Repr

/-- What a client answers when it can do what it is asked for. -/
@[reducible] def ClientCall.Value : ClientCall → Type
  | .create _ _ | .get _ _ | .updateStatus _ _ => Pod
  | .watch _ _ => WatchId
  | .delete _ _ => Unit

abbrev ClientResult (α : Type) := Except ClientError α

/-- A client in a world of type `σ`. -/
structure PodClient (σ : Type) where
  /-- Begins a call, or goes on with it if it has begun, at a moment of the clock. There is no
  answer as long as the call goes on. -/
  poll : Instant → (c : ClientCall) → (begun : Bool) → σ → σ × Option (ClientResult c.Value)
  /-- The watches that the client has opened. -/
  source : WatchId → EventSource σ

end PodPipeline
