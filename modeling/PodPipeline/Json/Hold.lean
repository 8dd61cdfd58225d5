import PodPipeline.Json.Decode
import PodPipeline.Json.Reader
import PodPipeline.Text.Numeral

/-! Values that are read whole and held before they are given a type.

A value that is held meets a stricter test than one that is skipped: its texts must be readable, its
numbers must be finite, and it must not be nested too deeply. -/
namespace PodPipeline

/-- Whether a number can be held: as a binary number of 64 bits, it is finite. -/
def Number.isFinite : Number → Bool
  | .int i => (Numeral.decimal (toString i.natAbs).toList).isFiniteProduct
  | .real literal => (Numeral.decimal literal.toList).isFiniteProduct

namespace Reader

mutual

/-- Reads a value in order to hold it. It may have `depth` levels of arrays and objects. -/
def hold (depth : Nat) : Doc → Except ReadError Unit
  | .number n => if n.isFinite then .ok () else .error .malformed
  | .array items tail =>
    if depth = 0 then .error .malformed
    else do
      holdItems (depth - 1) items
      upTo tail ()
  | .sequence items => if depth = 0 then .error .malformed else holdItems (depth - 1) items
  | .object fields tail =>
    if depth = 0 then .error .malformed
    else do
      holdFields (depth - 1) fields
      upTo tail ()
  | .unfinished => .error .cutShort
  | .unreadable d => .error d.error
  | _ => .ok ()

def holdItems (depth : Nat) : List Doc → Except ReadError Unit
  | [] => .ok ()
  | d :: r => do
    hold depth d
    holdItems depth r

def holdFields (depth : Nat) : List (Doc.Key × Doc) → Except ReadError Unit
  | [] => .ok ()
  | (key, d) :: r => do
    let _ ← key.read
    hold depth d
    holdFields depth r

end

/-- How many levels of arrays and objects a text may have whose value is held. -/
def maxDepth : Nat := 127

end Reader

/-- The document of a text whose value can be held. -/
def Reader.heldOfText (text : String) : Except ReadError Doc :=
  Reader.ofText (fun d => do hold maxDepth d; return d) (Doc.read text)

end PodPipeline
