import PodPipeline.Json.Decode
import PodPipeline.Text.Quoted

/-! References to tags of image streams. -/
namespace PodPipeline

/-- A tag of an image stream, and optionally where the stream lives and what the image is known as.
-/
structure ImageReference where
  cluster : String := ""
  «namespace» : String := ""
  name : String := ""
  tag : String := ""
  knownAs : String := ""
deriving DecidableEq, Repr

namespace ImageReference

/-- What a container's image is given as. -/
def pullSpec (r : ImageReference) : String := r.name ++ ":" ++ r.tag

/-- The pull specification, after the namespace if there is one. -/
def text (r : ImageReference) : String :=
  (if r.namespace = "" then "" else r.namespace ++ "/") ++ r.pullSpec

/-- Whether the reference names an image stream at all. -/
def isSet (r : ImageReference) : Bool := r.name ≠ ""

/-- The parts in the order in which references are compared. -/
def parts (r : ImageReference) : List String := [r.cluster, r.namespace, r.name, r.tag, r.knownAs]

def debug (r : ImageReference) : String :=
  Text.record "ImageStreamTagReference"
    [("cluster", Text.quoted r.cluster), ("namespace", Text.quoted r.namespace),
      ("name", Text.quoted r.name), ("tag", Text.quoted r.tag),
      ("as_name", Text.quoted r.knownAs)] false

def read : Reader ImageReference :=
  Reader.record
    [⟨"cluster", false, fun r d => do return { r with cluster := ← Reader.string d }⟩,
      ⟨"namespace", false, fun r d => do return { r with «namespace» := ← Reader.string d }⟩,
      ⟨"name", false, fun r d => do return { r with name := ← Reader.string d }⟩,
      ⟨"tag", false, fun r d => do return { r with tag := ← Reader.string d }⟩,
      ⟨"as", false, fun r d => do return { r with knownAs := ← Reader.string d }⟩] {}

theorem parts_inj {a b : ImageReference} (h : a.parts = b.parts) : a = b := by
  obtain ⟨_, _, _, _, _⟩ := a
  obtain ⟨_, _, _, _, _⟩ := b
  simpa [parts] using h

end ImageReference

end PodPipeline
