import PodPipeline.KeyMap
import PodPipeline.Json.Doc

/-! The tables of a TOML document while it is read.

How a table came about decides who may add to it: each table has one place of definition, but dotted
keys and the headers of inner tables may mention it before and after. -/
namespace PodPipeline.Toml

/-- How a table came about. -/
inductive Origin where
  /-- It has a header of its own. -/
  | header
  /-- The header of an inner table mentions it. -/
  | implied
  /-- A dotted key mentions it. -/
  | dotted
deriving DecidableEq, Repr

inductive Node where
  /-- A value to which nothing can be added. -/
  | value (v : Doc)
  | table (origin : Origin) (entries : List (String × Node))
  /-- An array of tables, the last one first. -/
  | tables (items : List (List (String × Node)))

abbrev Entries := List (String × Node)

/-- A change of the entries of a table, which may be refused. -/
abbrev Change := Origin → Entries → Option Entries

namespace Entries

def find? (es : Entries) (key : String) : Option Node :=
  (List.find? (fun e => e.1 = key) es).map (·.2)

def replace (es : Entries) (key : String) (n : Node) : Entries :=
  es.map fun e => if e.1 = key then (key, n) else e

def add (es : Entries) (key : String) (n : Node) : Entries := es ++ [(key, n)]

/-- Changes the table at the end of a path. Tables that are missing on the way come about as `made`
says; of an array of tables the way leads through the last one. -/
def changeAt (made : Origin) : List String → Change → Change
  | [], f, origin, es => f origin es
  | key :: path, f, _, es =>
    match es.find? key with
    | none => do return es.add key (.table made (← changeAt made path f made []))
    | some (.table origin inner) =>
      if made = .dotted ∧ origin = .header then none
      else do return es.replace key (.table origin (← changeAt made path f origin inner))
    | some (.tables (last :: r)) => do
      return es.replace key (.tables ((← changeAt made path f .header last) :: r))
    | some _ => none

/-- Adds a value under a dotted key. A dotted key with several parts adds to tables that dotted keys
have made, a plain key to others. -/
def put (path : List String) (key : String) (v : Doc) : Change :=
  changeAt .dotted path fun origin es =>
    if decide (origin = .dotted) = path.isEmpty ∨ (es.find? key).isSome then none
    else some (es.add key (.value v))

def openTable (path : List String) (key : String) : Change :=
  changeAt .implied path fun _ es =>
    match es.find? key with
    | none => some (es.add key (.table .header []))
    | some (.table .implied inner) => some (es.replace key (.table .header inner))
    | some _ => none

/-- Begins another table of the array of a header. -/
def openItem (path : List String) (key : String) : Change :=
  changeAt .implied path fun _ es =>
    match es.find? key with
    | none => some (es.add key (.tables [[]]))
    | some (.tables items) => some (es.replace key (.tables ([] :: items)))
    | some _ => none

end Entries

mutual

/-- The document of a node; the fields of a table are in the order of their keys. -/
def Node.toDoc : Node → Doc
  | .value v => v
  | .table _ entries => tableDoc entries
  | .tables items => .sequence (tableDocs items).reverse

def tableDoc (entries : List (String × Node)) : Doc :=
  .object ((KeyMap.ofList (fieldDocs entries)).entries.map fun e => (.text e.1, e.2)) none

def fieldDocs : List (String × Node) → List (String × Doc)
  | [] => []
  | (key, n) :: r => (key, n.toDoc) :: fieldDocs r

def tableDocs : List (List (String × Node)) → List Doc
  | [] => []
  | es :: r => tableDoc es :: tableDocs r

end

end PodPipeline.Toml
