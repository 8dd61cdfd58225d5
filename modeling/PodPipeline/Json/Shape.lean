import PodPipeline.Json.Tree

/-! Types of JSON values as data. A record whose fields are only kept and passed on is given by the
table of its fields; its values, their JSON and their reader are computed from the table. -/
namespace PodPipeline

/-- A field of a record, with the type of its value. One that every record has is always written,
and has a default where it is missing. -/
structure Slot (σ : Type) where
  name : String
  required : Bool
  shape : σ

abbrev Slot.optional {σ : Type} (name : String) (shape : σ) : Slot σ := ⟨name, false, shape⟩

abbrev Slot.always {σ : Type} (name : String) (shape : σ) : Slot σ := ⟨name, true, shape⟩

inductive Shape where
  | text
  | flag
  | int32
  | int64
  | intOrText
  | tree
  | list (item : Shape)
  | map (item : Shape)
  | record (slots : List (Slot Shape))

namespace Shape

mutual

def Value : Shape → Type
  | .text => String
  | .flag => Bool
  | .int32 => Int
  | .int64 => Int
  | .intOrText => Int ⊕ String
  | .tree => Tree
  | .list s => List (Value s)
  | .map s => KeyMap (Value s)
  | .record slots => Values slots

def Values : List (Slot Shape) → Type
  | [] => Unit
  | ⟨_, true, s⟩ :: r => Value s × Values r
  | ⟨_, false, s⟩ :: r => Option (Value s) × Values r

end

mutual

def decEq : (s : Shape) → DecidableEq s.Value
  | .text => inferInstanceAs (DecidableEq String)
  | .flag => inferInstanceAs (DecidableEq Bool)
  | .int32 => inferInstanceAs (DecidableEq Int)
  | .int64 => inferInstanceAs (DecidableEq Int)
  | .intOrText => inferInstanceAs (DecidableEq (Int ⊕ String))
  | .tree => inferInstanceAs (DecidableEq Tree)
  | .list s =>
    have := decEq s
    inferInstanceAs (DecidableEq (List s.Value))
  | .map s =>
    have := decEq s
    inferInstanceAs (DecidableEq (KeyMap s.Value))
  | .record slots => decEqs slots

def decEqs : (slots : List (Slot Shape)) → DecidableEq (Values slots)
  | [] => inferInstanceAs (DecidableEq Unit)
  | ⟨_, true, s⟩ :: r =>
    have := decEq s
    have := decEqs r
    inferInstanceAs (DecidableEq (s.Value × Values r))
  | ⟨_, false, s⟩ :: r =>
    have := decEq s
    have := decEqs r
    inferInstanceAs (DecidableEq (Option s.Value × Values r))

end

instance (s : Shape) : DecidableEq s.Value := decEq s

instance (slots : List (Slot Shape)) : DecidableEq (Values slots) := decEqs slots

mutual

/-- The value that stands for a missing one. -/
def default : (s : Shape) → s.Value
  | .text => ""
  | .flag => false
  | .int32 => (0 : Int)
  | .int64 => (0 : Int)
  | .intOrText => .inl 0
  | .tree => .node []
  | .list _ => []
  | .map _ => KeyMap.empty
  | .record slots => absent slots

/-- The values of a record that has no field but those that every record has. -/
def absent : (slots : List (Slot Shape)) → Values slots
  | [] => ()
  | ⟨_, true, s⟩ :: r => (default s, absent r)
  | ⟨_, false, _⟩ :: r => (none, absent r)

end

mutual

def toJson : (s : Shape) → s.Value → Json
  | .text, v => .string v
  | .flag, v => .bool v
  | .int32, v => .int v
  | .int64, v => .int v
  | .intOrText, .inl i => .int i
  | .intOrText, .inr t => .string t
  | .tree, v => v.toJson
  | .list s, l => .array (List.map (toJson s) l)
  | .map s, m => .object (m.entries.map fun e => (e.1, toJson s e.2))
  | .record slots, v => .object (toFields slots v)

def toFields : (slots : List (Slot Shape)) → Values slots → List (String × Json)
  | [], _ => []
  | ⟨name, true, s⟩ :: r, (a, v) => (name, toJson s a) :: toFields r v
  | ⟨name, false, s⟩ :: r, (a, v) => Json.field? name (a.map (toJson s)) ++ toFields r v

end

def listToJson (s : Shape) (l : List s.Value) : Json := .array (l.map s.toJson)

instance (s : Shape) : Repr s.Value := ⟨fun v _ => (toJson s v).text⟩

instance (slots : List (Slot Shape)) : Repr (Values slots) :=
  ⟨fun v _ => (toJson (.record slots) v).text⟩

/-- The fields of a record among those that are known by name, in the order of their keys. -/
def among (slots : List (Slot Shape)) (v : Values slots) (known : List (String × Json)) :
    List (String × Json) :=
  KeyMap.insertEntries (toFields slots v) known

mutual

def read : (s : Shape) → Reader s.Value
  | .text => Reader.string
  | .flag => Reader.bool
  | .int32 => Reader.int32
  | .int64 => Reader.int64
  | .intOrText => fun d => match d with
    | .string t => .ok (.inr t)
    | d => do return .inl (← Reader.int32 d)
  | .tree => Tree.read
  | .list s => Reader.list (read s)
  | .map s => Reader.map (read s)
  | .record slots => Reader.fields (absent slots) (readField slots)

/-- Takes the value of a field over into a record, or ignores it. -/
def readField : (slots : List (Slot Shape)) → Values slots → String → Doc →
    Except ReadError (Values slots)
  | [], v, _, d => Reader.ignore v d
  | ⟨name, true, s⟩ :: r, (a, v), key, d =>
    if key = name then do return (← Reader.orElse (read s) (default s) d, v)
    else do return (a, ← readField r v key d)
  | ⟨name, false, s⟩ :: r, (a, v), key, d =>
    if key = name then do return (← Reader.optional (read s) d, v)
    else do return (a, ← readField r v key d)

end

end Shape

end PodPipeline
