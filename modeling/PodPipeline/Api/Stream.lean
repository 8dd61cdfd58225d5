import PodPipeline.Api.Answer

/-! The stream of a watch: a line for each item. -/
namespace PodPipeline

open Reader

inductive StreamItem where
  | added (pod : Pod)
  | modified (pod : Pod)
  | deleted (pod : Pod)
  /-- How far the stream has come; there is nothing to report. -/
  | bookmark
  /-- The server states an error. -/
  | stated (s : ApiStatus)
  /-- The stream cannot be read here. -/
  | failed (e : ApiError)
deriving DecidableEq, Repr

def StreamItem.event? : StreamItem → Option WatchEvent
  | .added p => some (.added p)
  | .modified p => some (.modified p)
  | .deleted p => some (.deleted p)
  | .bookmark => none
  | .stated s => some (.error s.text)
  | .failed e => some (.error e.message)

/-! Items. -/

inductive ItemKind where
  | added | modified | deleted | bookmark | stated
deriving DecidableEq, Repr

namespace ItemKind

def names : List (String × ItemKind) :=
  [("ADDED", .added), ("MODIFIED", .modified), ("DELETED", .deleted), ("BOOKMARK", .bookmark),
    ("ERROR", .stated)]

/-- How deep the values may be nested that an item's object holds. -/
def heldDepth : Nat := maxDepth - 2

def positionShape : Reader Unit :=
  record [shape "resourceVersion" true string, shape "annotations" false (map string)] ()

/-- A field that stands exactly once among others, and is a text. -/
def textOnce (fields : List (String × Doc)) (name : String) : Except ReadError Unit :=
  match fields.filter (·.1 = name) with
  | [(_, .string _)] => .ok ()
  | [] => .error (.missing name)
  | _ => .error .mismatch

/-- The object of a bookmark: its type, and the place that the stream has come to. -/
def bookmarkShape : Reader Unit := fun d => do
  let (placed, others) ← fields (false, ([] : List (String × Doc))) (fun (placed, others) key d =>
    if key = "metadata" then
      if placed then .error .mismatch
      else do
        positionShape d
        return (true, others)
    else do
      hold heldDepth d
      return (placed, (key, d) :: others)) d
  if placed then
    textOnce others "apiVersion"
    textOnce others "kind"
  else .error (.missing "metadata")

def readObject : ItemKind → Reader StreamItem
  | .added => fun d => do return .added (← Pod.read d)
  | .modified => fun d => do return .modified (← Pod.read d)
  | .deleted => fun d => do return .deleted (← Pod.read d)
  | .bookmark => fun d => do
    bookmarkShape d
    return .bookmark
  | .stated => fun d => do return .stated (← ApiStatus.read d)

end ItemKind

/-- What is known of an item. An object that stands before its kind is held until then. -/
structure ItemParts where
  kind : Option ItemKind := none
  held : Option Doc := none
  item : Option StreamItem := none

namespace ItemParts

def setKind (p : ItemParts) (kind : ItemKind) : Except ReadError ItemParts := do
  match p.held with
  | none => return { p with kind := some kind }
  | some object => return { p with kind := some kind, item := some (← kind.readObject object) }

def setObject (p : ItemParts) : Reader ItemParts := fun d =>
  match p.kind with
  | none => do
    hold (maxDepth - 1) d
    return { p with held := some d }
  | some kind => do return { p with item := some (← kind.readObject d) }

/-- The parts of an item whose kind is read by `readKind`. -/
def read (readKind : Reader ItemKind) : Reader ItemParts :=
  record
    [⟨"type", true, fun p d => do p.setKind (← readKind d)⟩, ⟨"object", true, setObject⟩] {}

end ItemParts

namespace StreamItem

/-- Reads an item. In an array of its parts, the kind is given by its name alone. -/
def read : Reader StreamItem := fun d => do
  let readKind := match d with
    | .array _ _ => Reader.named ItemKind.names
    | _ => oneOf ItemKind.names
  let p ← ItemParts.read readKind d
  match p.item with
  | some item => return item
  | none => .error .mismatch

/-- The item of a line. A line that ends too early has none. A line that is no item but states an
error stands for that error. -/
def ofLine? (line : String) : Option StreamItem :=
  let doc := Doc.read line
  match ofText read doc with
  | .ok item => some item
  | .error .cutShort => none
  | .error _ =>
    match ofText ApiStatus.read doc with
    | .ok s => some (.failed (.status s))
    | .error _ => some (.failed .unreadable)

end StreamItem

/-! Lines. -/

def withoutCarriage (line : List Char) : List Char :=
  if line.getLast? = some '\r' then line.dropLast else line

namespace ApiResponse

/-- The lines of a body. What stands behind the last line end is a line once the body is complete,
unless it is empty or a lone carriage return. -/
def lines (r : ApiResponse) : List String :=
  let parts := r.body.toList.splitOnP (· = '\n')
  let last := parts.getLastD []
  let open? := if r.ended && last ≠ [] && last ≠ ['\r'] then [last] else []
  (parts.dropLast ++ open?).map fun line => String.ofList (withoutCarriage line)

def items (r : ApiResponse) : List StreamItem := r.lines.filterMap StreamItem.ofLine?

end ApiResponse

end PodPipeline
