import PodPipeline.Json.Hold
import PodPipeline.Pod.Decode
import PodPipeline.Run.Client

/-! The answers of the cluster's API, and what they mean for the call. -/
namespace PodPipeline

open Reader

structure ApiResponse where
  /-- The status code. -/
  status : Nat
  body : String := ""
  /-- The body is complete; otherwise more of it may come, and it is held open. -/
  ended : Bool := true
deriving DecidableEq, Repr

/-! Errors. -/

def ApiStatus.read : Reader ApiStatus :=
  record
    [⟨"status", true, fun s d => do return { s with status := ← string d }⟩,
      ⟨"message", false, fun s d => do return { s with message := ← string d }⟩,
      ⟨"reason", false, fun s d => do return { s with reason := ← string d }⟩,
      ⟨"code", true, fun s d => do return { s with code := (← int 0 0xFFFF d).toNat }⟩]
    { status := "", code := 0 }

/-- The name of a status code that stands for an error. -/
def reasonPhrase? : Nat → Option String
  | 400 => "Bad Request"
  | 401 => "Unauthorized"
  | 402 => "Payment Required"
  | 403 => "Forbidden"
  | 404 => "Not Found"
  | 405 => "Method Not Allowed"
  | 406 => "Not Acceptable"
  | 407 => "Proxy Authentication Required"
  | 408 => "Request Timeout"
  | 409 => "Conflict"
  | 410 => "Gone"
  | 411 => "Length Required"
  | 412 => "Precondition Failed"
  | 413 => "Payload Too Large"
  | 414 => "URI Too Long"
  | 415 => "Unsupported Media Type"
  | 416 => "Range Not Satisfiable"
  | 417 => "Expectation Failed"
  | 418 => "I'm a teapot"
  | 421 => "Misdirected Request"
  | 422 => "Unprocessable Entity"
  | 423 => "Locked"
  | 424 => "Failed Dependency"
  | 425 => "Too Early"
  | 426 => "Upgrade Required"
  | 428 => "Precondition Required"
  | 429 => "Too Many Requests"
  | 431 => "Request Header Fields Too Large"
  | 451 => "Unavailable For Legal Reasons"
  | 500 => "Internal Server Error"
  | 501 => "Not Implemented"
  | 502 => "Bad Gateway"
  | 503 => "Service Unavailable"
  | 504 => "Gateway Timeout"
  | 505 => "HTTP Version Not Supported"
  | 506 => "Variant Also Negotiates"
  | 507 => "Insufficient Storage"
  | 508 => "Loop Detected"
  | 510 => "Not Extended"
  | 511 => "Network Authentication Required"
  | _ => none

namespace ApiResponse

def isFailure (r : ApiResponse) : Bool := 400 ≤ r.status && r.status < 600

/-- The error that the body states, or else one made of the status code and the body. -/
def failure (r : ApiResponse) : ApiStatus :=
  match ofText ApiStatus.read (Doc.read r.body) with
  | .ok s => s
  | .error _ =>
    { status := toString r.status ++ " " ++ (reasonPhrase? r.status).getD "<unknown status code>"
      message := Text.quoted r.body
      reason := "Failed to parse error data"
      code := r.status }

def value {α : Type} (r : ApiResponse) (read : String → Except ReadError α) : Except ApiError α :=
  if r.isFailure then .error (.status r.failure)
  else (read r.body).mapError fun _ => .unreadable

end ApiResponse

/-- A call failed for a pod: that the pod is there already or is not there counts as such, by the
code that the error states. -/
def ApiError.forPod (ns name : String) : ApiError → ClientError
  | .status s =>
    if s.code = 409 then .alreadyExists ns name
    else if s.code = 404 then .notFound ns name
    else .api (.status s)
  | e => .api e

/-! Pods and removals. -/

def Pod.ofText (text : String) : Except ReadError Pod := Reader.ofText Pod.read (Doc.read text)

namespace Reader

variable {α : Type}

/-- One of several values by its name. -/
def named (values : List (String × α)) : Reader α := fun d => do
  match values.lookup (← string d) with
  | some a => return a
  | none => .error .mismatch

/-- One of several values by its name, which may also be the only key of an object, without a value.
Whatever begins in another way is refused before its end is seen. -/
def oneOf (values : List (String × α)) : Reader α
  | .object ((.other, .unfinished) :: _) _ => .error .cutShort
  | .object ((key, value) :: r) tail => do
    let a ← named values (.string (← key.read))
    match value with
    | .null => if r.isEmpty then upTo tail a else .error .malformed
    | d => refuse d
  | .object [] (some damage) => .error damage.error
  | .unfinished => .error .malformed
  | d => named values d

end Reader

/-- Reads a value for its shape alone. -/
def Reader.shape {α : Type} (name : String) (required : Bool) (r : Reader α) : RecordField Unit :=
  ⟨name, required, fun _ d => do
    let _ ← r d
    return ()⟩

def causeShape : Reader Unit :=
  record [shape "reason" false string, shape "message" false string, shape "field" false string] ()

def detailsShape : Reader Unit :=
  record
    [shape "name" false string, shape "group" false string, shape "kind" false string,
      shape "uid" false string, shape "causes" false (list causeShape),
      shape "retryAfterSeconds" false (int 0 0xFFFFFFFF)] ()

def removalShape : Reader Unit :=
  record
    [shape "status" false (optional (oneOf [("Success", ()), ("Failure", ())])),
      shape "code" false (int 0 0xFFFF), shape "message" false string,
      shape "reason" false string, shape "details" false (optional detailsShape)] ()

/-- The answer to a removal: a report on it, or the pod that is being removed, as its last `kind`
says. -/
def removalOfText (text : String) : Except ReadError Unit := do
  let d ← heldOfText text
  match d.get "kind" with
  | .string "Status" => removalShape d
  | _ => do
    let _ ← Pod.read d
    return ()

end PodPipeline
