import PodPipeline.Pod.Encode
import PodPipeline.Run.Client

/-! The requests by which calls reach the cluster's API. -/
namespace PodPipeline

inductive ApiMethod where
  | get | post | patch | delete
deriving DecidableEq, Repr

def ApiMethod.text : ApiMethod → String
  | .get => "GET"
  | .post => "POST"
  | .patch => "PATCH"
  | .delete => "DELETE"

structure ApiRequest where
  method : ApiMethod
  uri : String
  contentType : Option String := none
  accept : Option String := none
  body : Option Json := none

namespace ApiRequest

/-! Targets. -/

/-- The longest target, in bytes. -/
def maxUriLength : Nat := 65534

def isPathChar (c : Char) : Bool := 0x20 < c.toNat && c ∉ ['<', '>', '\x60', '\x7f']

/-- Characters that may stand behind the first question mark of a target. -/
def isQueryChar (c : Char) : Bool := 0x20 < c.toNat && c ∉ ['<', '>', '"', '\x7f']

/-- The target that a text is read as: all of it up to a number sign. -/
def target? (uri : String) : Except RequestFault String :=
  let shown := uri.toList.takeWhile (· ≠ '#')
  let path := shown.takeWhile (· ≠ '?')
  let query := shown.dropWhile (· ≠ '?')
  if maxUriLength < uri.utf8ByteSize then .error .longUri
  else if path.all isPathChar && query.all isQueryChar then .ok (String.ofList shown)
  else .error .invalidUri

def podsPath (ns : String) : String := "/api/v1/namespaces/" ++ ns ++ "/pods"

/-- The path of one pod, which must have a name. -/
def podPath (ns name : String) : Except RequestFault String :=
  if name = "" then .error .emptyName else .ok (podsPath ns ++ "/" ++ name)

def formByte (b : UInt8) : List Char :=
  let c := Char.ofNat b.toNat
  if c.isAlphanum || c ∈ ['*', '-', '.', '_'] then [c]
  else if c = ' ' then ['+']
  else ['%', Numeral.upperHex (b.toNat / 16), Numeral.upperHex (b.toNat % 16)]

def formEncoded (s : String) : String := String.ofList (s.toUTF8.toList.flatMap formByte)

/-- The query of a watch. It asks for the pods as they are now and for what happens to them next,
and it ends after some minutes. -/
def watchQuery (o : ListOptions) : String :=
  let selector := match o.name with
    | some name => "&fieldSelector=" ++ formEncoded ("metadata.name=" ++ name)
    | none => ""
  "?&watch=true&timeoutSeconds=290" ++ selector ++ "&allowWatchBookmarks=true&resourceVersion=0"

/-! Bodies. -/

def jsonType : String := "application/json"

def mergePatchType : String := "application/merge-patch+json"

/-- The change of a pod that gives it a status, or none. -/
def statusPatch (p : Pod) : Json :=
  .object [("status", (p.status.map PodStatus.toJson).getD .null)]

end ApiRequest

open ApiRequest in
def ClientCall.request : ClientCall → Except RequestFault ApiRequest
  | .get ns name => do return { method := .get, uri := ← target? (← podPath ns name) }
  | .create ns pod => do
    return {
      method := .post
      uri := ← target? (podsPath ns ++ "?")
      contentType := some jsonType
      body := some pod.toJson }
  | .updateStatus ns pod => do
    return {
      method := .patch
      uri := ← target? ((← podPath ns pod.name) ++ "/status?")
      contentType := some mergePatchType
      accept := some jsonType
      body := some (statusPatch pod) }
  | .watch ns options => do
    return { method := .get, uri := ← target? (podsPath ns ++ watchQuery options) }
  | .delete ns name => do
    return {
      method := .delete
      uri := ← target? ((← podPath ns name) ++ "?")
      contentType := some jsonType
      body := some (.object []) }

end PodPipeline
