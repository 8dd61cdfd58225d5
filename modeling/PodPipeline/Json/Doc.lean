import PodPipeline.Json.Basic

/-! What can be read of a JSON text, however damaged it is.

A reader of a record takes the fields in the order of the text and stops at the first fault, so the
damage stands in the document at the place where such a reader meets it. A value that a reader skips
is held to less than one that it reads; `unreadable` is for those that read, the `tail` of the
enclosing values for those that skip. -/
namespace PodPipeline

/-- Why a text cannot be read further: it ends too early, or it breaks the grammar. -/
inductive Damage where
  | cutShort
  | malformed
deriving DecidableEq, Repr

inductive Doc.Key where
  | text (s : String)
  /-- It holds an unpaired surrogate. -/
  | unpaired
  /-- The text ends where it is due or within it. -/
  | cut
  /-- What stands in its place is no string; it is taken for the value of the field. -/
  | other
deriving DecidableEq, Repr

inductive Doc where
  | null
  | bool (b : Bool)
  | number (n : Number)
  | string (s : String)
  | array (items : List Doc) (tail : Option Damage)
  /-- An array whose last items a reader may leave unread. -/
  | sequence (items : List Doc)
  | object (fields : List (Doc.Key × Doc)) (tail : Option Damage)
  /-- A number, `null`, `true` or `false` that the text ends within. -/
  | unfinished
  | unreadable (damage : Damage)

namespace Doc

def Key.text? : Key → Option String
  | .text s => some s
  | _ => none

mutual

/-- The value of a document, with `null` for what cannot be read. -/
def toJson : Doc → Json
  | .null => .null
  | .bool b => .bool b
  | .number n => .number n
  | .string s => .string s
  | .array items _ | .sequence items => .array (toItems items)
  | .object fields _ => .object (toFields fields)
  | .unfinished | .unreadable _ => .null

def toItems : List Doc → List Json
  | [] => []
  | d :: r => toJson d :: toItems r

def toFields : List (Key × Doc) → List (String × Json)
  | [] => []
  | (k, d) :: r => (k.text?.getD "", toJson d) :: toFields r

end

/-- The last field of a key, or `null`. -/
def get (d : Doc) (key : String) : Doc :=
  match d with
  | .object fields _ =>
    ((fields.reverse.find? (·.1 = .text key)).map (·.2)).getD .null
  | _ => .null

end Doc

end PodPipeline
