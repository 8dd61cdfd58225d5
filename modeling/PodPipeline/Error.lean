import PodPipeline.Config.Fault
import PodPipeline.Json.Decode
import PodPipeline.Text.Quoted
import PodPipeline.Time.Duration

/-! What can go wrong with a step, and how it is put into words. -/
namespace PodPipeline

structure ApiStatus where
  status : String
  message : String := ""
  reason : String := ""
  code : Nat
deriving DecidableEq, Repr

namespace ApiStatus

def text (s : ApiStatus) : String := s.message ++ ": " ++ s.reason

def debug (s : ApiStatus) : String :=
  Text.record "ErrorResponse"
    [("status", Text.quoted s.status), ("message", Text.quoted s.message),
      ("reason", Text.quoted s.reason), ("code", toString s.code)] false

end ApiStatus

/-- Why a request cannot be made. -/
inductive RequestFault where
  | emptyName
  | invalidUri
  | longUri
deriving DecidableEq, Repr

def RequestFault.message : RequestFault → String
  | .emptyName => "failed to validate request: A non-empty name is required"
  | .invalidUri => "failed to build request: invalid uri character"
  | .longUri => "failed to build request: uri too long"

inductive ApiError where
  | status (s : ApiStatus)
  /-- The transport failed. -/
  | service (reason : String)
  | request (fault : RequestFault)
  /-- The answer is not what was asked for. -/
  | unreadable
deriving DecidableEq, Repr

def ApiError.message : ApiError → String
  | .status s => "ApiError: " ++ s.text ++ " (" ++ s.debug ++ ")"
  | .service reason => "ServiceError: " ++ reason
  | .request fault => "Failed to build request: " ++ fault.message
  | .unreadable => "Error deserializing response"

inductive ClientError where
  | alreadyExists («namespace» name : String)
  | notFound («namespace» name : String)
  | api (e : ApiError)
  | other (message : String)
deriving DecidableEq, Repr

namespace ClientError

def message : ClientError → String
  | .alreadyExists ns name => "pod " ++ ns ++ "/" ++ name ++ " already exists"
  | .notFound ns name => "pod " ++ ns ++ "/" ++ name ++ " not found"
  | .api e => e.message
  | .other message => message

def isAlreadyExists : ClientError → Bool
  | .alreadyExists _ _ => true
  | _ => false

def isNotFound : ClientError → Bool
  | .notFound _ _ => true
  | _ => false

end ClientError

/-- The part of a run that a client's call belongs to. -/
inductive CallPhase where
  | lookup | create | watch | delete
deriving DecidableEq, Repr

def CallPhase.text : CallPhase → String
  | .lookup => "lookup"
  | .create => "create"
  | .watch => "watch"
  | .delete => "delete"

inductive FileFault where
  | missing | isDirectory | notUtf8
deriving DecidableEq, Repr

def FileFault.message : FileFault → String
  | .missing => "No such file or directory (os error 2)"
  | .isDirectory => "Is a directory (os error 21)"
  | .notUtf8 => "stream did not contain valid UTF-8"

inductive StepError where
  | config (fault : ConfigFault)
  | client (step : String) (phase : CallPhase) (source : ClientError)
  | workloadFailed (step message : String)
  | cancelled (step : String)
  | timeout (step : String) (after : Duration)
  | cycle (detail : String)
  | file (fault : FileFault)
  | toml (fault : ReadError)
  | json (fault : ReadError)
  | other (message : String)
deriving DecidableEq, Repr

namespace StepError

def ofStep (step rest : String) : String := "step '" ++ step ++ "' " ++ rest

/-- The words for an error. A document that cannot be read has some only where a field is missing.
-/
def message : StepError → String
  | .config fault => "Configuration error: " ++ fault.message
  | .client step phase source =>
    ofStep step ("failed during " ++ phase.text ++ ": " ++ source.message)
  | .workloadFailed step message => ofStep step ("failed: " ++ message)
  | .cancelled step => ofStep step "was cancelled while waiting for its pod"
  | .timeout step after =>
    ofStep step ("timed out after " ++ after.text ++ " waiting for its pod")
  | .cycle detail => "Cycle detected in step graph: " ++ detail
  | .file fault => "IO error: " ++ fault.message
  | .toml (.missing field) => "missing field `" ++ field ++ "`"
  | .toml _ => "TOML parsing error"
  | .json _ => "JSON error"
  | .other message => message

end StepError

end PodPipeline
