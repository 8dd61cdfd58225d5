import PodPipeline.KeyMap
import PodPipeline.Json.Doc

/-! Readers of typed values from documents.

An object is read in one of two ways. A lenient reader takes the fields one by one, ignores the
names that it does not know and lets a later field replace an earlier one. A record reader ignores
unknown names too, but refuses a repeated field, insists on its required ones, and also takes an
array of the fields' values in their order. -/
namespace PodPipeline

/-- Why a document is no value of the type that is asked for. -/
inductive ReadError where
  | cutShort
  | malformed
  /-- The text is sound, and its value has another shape. -/
  | mismatch
  | missing (field : String)
deriving DecidableEq, Repr

def Damage.error : Damage → ReadError
  | .cutShort => .cutShort
  | .malformed => .malformed

def Doc.Key.read : Doc.Key → Except ReadError String
  | .text s => .ok s
  | .cut => .error .cutShort
  | .unpaired | .other => .error .malformed

abbrev Reader (α : Type) := Doc → Except ReadError α

namespace Reader

variable {α σ : Type}

/-- The error of a document that is not of the kind asked for. -/
def refuse : Doc → Except ReadError α
  | .unfinished => .error .cutShort
  | .unreadable d => .error d.error
  | _ => .error .mismatch

/-- `a`, unless the text is damaged behind it. -/
def upTo (tail : Option Damage) (a : α) : Except ReadError α :=
  match tail with
  | some d => .error d.error
  | none => .ok a

def string : Reader String
  | .string s => .ok s
  | d => refuse d

def bool : Reader Bool
  | .bool b => .ok b
  | d => refuse d

def int (lo hi : Int) : Reader Int
  | .number (.int i) => if lo ≤ i ∧ i ≤ hi then .ok i else .error .mismatch
  | d => refuse d

def int32 : Reader Int := int (-0x80000000) 0x7FFFFFFF

def int64 : Reader Int := int (-0x8000000000000000) 0x7FFFFFFFFFFFFFFF

/-- `null` reads as absent. -/
def optional (r : Reader α) : Reader (Option α)
  | .null => .ok none
  | d => (r d).map some

/-- `null` reads as `default`. -/
def orElse (r : Reader α) (default : α) : Reader α
  | .null => .ok default
  | d => r d

def list (r : Reader α) : Reader (List α)
  | .array items tail => do upTo tail (← items.mapM r)
  | .sequence items => items.mapM r
  | d => refuse d

mutual

/-- Passes over a document. The text must not be damaged in it, but its strings and keys need not be
readable. -/
def skip : Doc → Except ReadError Unit
  | .array items tail => do
    skipItems items
    upTo tail ()
  | .sequence items => skipItems items
  | .object fields tail => do
    skipFields fields
    upTo tail ()
  | _ => .ok ()

def skipItems : List Doc → Except ReadError Unit
  | [] => .ok ()
  | d :: r => do
    skip d
    skipItems r

def skipFields : List (Doc.Key × Doc) → Except ReadError Unit
  | [] => .ok ()
  | (_, d) :: r => do
    skip d
    skipFields r

end

/-- Passes over the value of a field that `s` has no place for. -/
def ignore (s : σ) (d : Doc) : Except ReadError σ := do
  skip d
  return s

/-- The fields of an object, one after the other. -/
def fields (init : σ) (step : σ → String → Doc → Except ReadError σ) : Reader σ
  | .object fields tail => do
    let s ← fields.foldlM (fun s (f : Doc.Key × Doc) => do step s (← f.1.read) f.2) init
    upTo tail s
  | d => refuse d

def map (r : Reader α) : Reader (KeyMap α) :=
  fields .empty fun m key d => do return m.insert key (← r d)

end Reader

structure RecordField (σ : Type) where
  name : String
  required : Bool
  set : σ → Doc → Except ReadError σ

namespace Reader

variable {σ : Type}

/-- The values of an array, for the fields in their order. A field without a value keeps its
default, and a value without a field is refused. -/
def positional : List (RecordField σ) → List Doc → Option Damage → σ → Except ReadError σ
  | [], [], tail, s => upTo tail s
  | [], _ :: _, _, _ => .error .malformed
  | f :: r, [], tail, s =>
    match tail with
    | some d => .error d.error
    | none => if (f :: r).any (·.required) then .error .mismatch else .ok s
  | f :: r, d :: items, tail, s => do positional r items tail (← f.set s d)

/-- A record from its fields. The values of a sequence that no field is left for are not read. -/
def record (fs : List (RecordField σ)) (init : σ) : Reader σ
  | .array items tail => positional fs items tail init
  | .sequence items => positional fs (items.take fs.length) none init
  | d => do
    let (s, seen) ← fields (init, ([] : List String)) (fun (s, seen) key d =>
      match fs.find? (·.name = key) with
      | none => ignore (s, seen) d
      | some f =>
        if key ∈ seen then .error .mismatch else do return (← f.set s d, key :: seen)) d
    match fs.find? fun f => f.required && f.name ∉ seen with
    | some f => .error (.missing f.name)
    | none => return s

def ofText (r : Reader σ) (doc : Doc × Option Damage) : Except ReadError σ := do
  upTo doc.2 (← r doc.1)

end Reader

end PodPipeline
