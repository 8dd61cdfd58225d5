import PodPipeline.Json.Decode
import PodPipeline.Toml.Scalar
import PodPipeline.Toml.Token
import PodPipeline.Toml.Tree

/-! The document of a TOML text, read by a pushdown automaton that takes one token at a time. -/
namespace PodPipeline.Toml

inductive Frame where
  /-- An array, with its items, the last one first. -/
  | array (items : List Doc)
  | table (entries : Entries)
  /-- An inline table whose next value belongs to a key. -/
  | field (entries : Entries) (path : List String) (key : String)
  /-- A line whose value belongs to a key. -/
  | line (path : List String) (key : String)

inductive KeyPlace where
  | line
  | inline
  /-- The header of a table, or of an item of an array of tables. -/
  | header (isItem : Bool)
deriving DecidableEq

/-- What the automaton is in the middle of. Keys are held with their last part first. -/
inductive Place where
  | line
  | lineEnd
  | headerStart
  /-- A part of a key is due. -/
  | key (place : KeyPlace) (parts : List String)
  /-- A part of a key has been read. -/
  | keyEnd (place : KeyPlace) (parts : List String)
  /-- The first of the two brackets that end a header. -/
  | headerEnd (parts : List String)
  /-- An equals sign is due after the key of an inline table. -/
  | equals (parts : List String)
  | value
  /-- A bare value; `gap` holds after a single blank, behind which a time may follow a date. -/
  | scalar (text : List Char) (gap : Bool)
  /-- An item of an array or its end is due. -/
  | item
  | itemEnd
  /-- A key of an inline table or its end is due. -/
  | field
  | fieldEnd

/-- The table that a header has opened: its path, and whether it is an item of an array. -/
structure Section where
  path : List String
  key : String

structure Reading where
  root : Entries := []
  /-- There is none before the first header. -/
  current : Option Section := none
  frames : List Frame := []
  place : Place := .line

def depthLimit : Nat := 80

def partLimit : Nat := 80

def isBareKey (c : Char) : Bool := c.isAlphanum || c = '_' || c = '-'

/-- The part of a key that a token is. -/
def keyPart? : Token → Option String
  | .quoted text false => some text
  | .atom text => if text.all isBareKey then some (String.ofList text) else none
  | _ => none

namespace Reading

def goTo (r : Reading) (p : Place) : Option Reading := some { r with place := p }

/-- Adds the value of a line to the current table. -/
def putLine (r : Reading) (path : List String) (key : String) (v : Doc) : Option Reading := do
  let change := Entries.put path key v
  let root ← match r.current with
    | none => change .header r.root
    | some s => Entries.changeAt .implied (s.path ++ [s.key]) change .header r.root
  return { r with root, place := .lineEnd }

def finishValue (r : Reading) (v : Doc) : Option Reading :=
  match r.frames with
  | .array items :: rest => some { r with frames := .array (v :: items) :: rest, place := .itemEnd }
  | .field entries path key :: rest => do
    let entries ← Entries.put path key v .header entries
    return { r with frames := .table entries :: rest, place := .fieldEnd }
  | .line path key :: rest => { r with frames := rest }.putLine path key v
  | _ => none

/-- A bare value is whole. -/
def finishScalar (r : Reading) (text : List Char) : Option Reading := do
  r.finishValue (← scalar? text)

def pushFrame (r : Reading) (f : Frame) (p : Place) : Option Reading :=
  if r.frames.countP (fun f => !(f matches .line _ _)) < depthLimit then
    some { r with frames := f :: r.frames, place := p }
  else none

def stepValue (r : Reading) (t : Token) : Option Reading :=
  match t with
  | .quoted text _ => r.finishValue (.string text)
  | .openBracket => r.pushFrame (.array []) .item
  | .openBrace => r.pushFrame (.table []) .field
  | .atom text => r.goTo (.scalar text false)
  | .dot => r.goTo (.scalar ['.'] false)
  | _ => none

def beginValue (r : Reading) (place : KeyPlace) (parts : List String) : Option Reading :=
  match place, parts, r.frames with
  | .line, key :: path, frames =>
    some { r with frames := .line path.reverse key :: frames, place := .value }
  | .inline, key :: path, .table entries :: rest =>
    some { r with frames := .field entries path.reverse key :: rest, place := .value }
  | _, _, _ => none

def openSection (r : Reading) (isItem : Bool) (parts : List String) : Option Reading :=
  match parts with
  | [] => none
  | key :: path => do
    let path := path.reverse
    let change := if isItem then Entries.openItem path key else Entries.openTable path key
    let root ← change .header r.root
    return { r with root, current := some ⟨path, key⟩, place := .lineEnd }

def stepKeyEnd (r : Reading) (place : KeyPlace) (parts : List String) (t : Token) :
    Option Reading :=
  match t, place with
  | .space _, _ => some r
  | .dot, place => if parts.length < partLimit then r.goTo (.key place parts) else none
  | .equals, place => r.beginValue place parts
  | .newline, .inline => r.goTo (.equals parts)
  | .closeBracket, .header false => r.openSection false parts
  | .closeBracket, .header true => r.goTo (.headerEnd parts)
  | _, _ => none

def stepAfter (r : Reading) (t : Token) : Option Reading :=
  match r.place, t with
  | .lineEnd, .space _ => some r
  | .lineEnd, .newline => r.goTo .line
  | .itemEnd, .space _ | .itemEnd, .newline => some r
  | .itemEnd, .comma => r.goTo .item
  | .fieldEnd, .space _ | .fieldEnd, .newline => some r
  | .fieldEnd, .comma => r.goTo .field
  | .itemEnd, .closeBracket | .item, .closeBracket =>
    match r.frames with
    | .array items :: rest => { r with frames := rest }.finishValue (.sequence items.reverse)
    | _ => none
  | .fieldEnd, .closeBrace | .field, .closeBrace =>
    match r.frames with
    | .table entries :: rest => { r with frames := rest }.finishValue (tableDoc entries)
    | _ => none
  | _, _ => none

/-- A token within a bare value or behind it. -/
def stepScalar (r : Reading) (text : List Char) (gap : Bool) (t : Token) : Option Reading :=
  match t, gap with
  | .atom more, false => r.goTo (.scalar (text ++ more) false)
  | .atom more, true => r.goTo (.scalar (text ++ ' ' :: more) false)
  | .dot, false => r.goTo (.scalar (text ++ ['.']) false)
  | .space true, false => r.goTo (.scalar text true)
  | t, _ => (r.finishScalar text).bind fun r => r.stepAfter t

def step (r : Reading) (t : Token) : Option Reading :=
  match r.place with
  | .line =>
    match t with
    | .newline | .space _ => some r
    | .openBracket => r.goTo .headerStart
    | t => do r.goTo (.keyEnd .line [← keyPart? t])
  | .headerStart =>
    match t with
    | .openBracket => r.goTo (.key (.header true) [])
    | .space _ => r.goTo (.key (.header false) [])
    | t => do r.goTo (.keyEnd (.header false) [← keyPart? t])
  | .key place parts =>
    match t with
    | .space _ => some r
    | t => do r.goTo (.keyEnd place ((← keyPart? t) :: parts))
  | .keyEnd place parts => r.stepKeyEnd place parts t
  | .headerEnd parts =>
    match t with
    | .closeBracket => r.openSection true parts
    | _ => none
  | .equals parts =>
    match t with
    | .space _ | .newline => some r
    | .equals => r.beginValue .inline parts
    | _ => none
  | .value =>
    match t, r.frames with
    | .space _, _ => some r
    | .newline, .field _ _ _ :: _ => some r
    | t, _ => r.stepValue t
  | .scalar text gap => r.stepScalar text gap t
  | .item =>
    match t with
    | .space _ | .newline => some r
    | .closeBracket => r.stepAfter t
    | t => r.stepValue t
  | .field =>
    match t with
    | .space _ | .newline => some r
    | .closeBrace => r.stepAfter t
    | t => do r.goTo (.keyEnd .inline [← keyPart? t])
  | .lineEnd | .itemEnd | .fieldEnd => r.stepAfter t

end Reading

/-- The document of a text that is TOML. -/
def read? (text : String) : Option Doc := do
  let r ← (← tokens text).foldlM Reading.step {}
  match r.place with
  | .line => return tableDoc r.root
  | _ => none

/-- A value from a TOML text. All of the text is checked before any field is read. -/
def ofText {α : Type} (r : Reader α) (text : String) : Except ReadError α :=
  match read? text with
  | none => .error .malformed
  | some d => r d

end PodPipeline.Toml
