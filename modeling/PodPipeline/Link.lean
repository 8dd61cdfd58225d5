import PodPipeline.Image

/-! What one step makes available and another one waits for. -/
namespace PodPipeline

inductive Link where
  /-- Every image of the pipeline has been built or imported. -/
  | imagesReady
  /-- A tag of the pipeline's own image stream is there. -/
  | internalImage (tag : String)
  /-- An image from elsewhere is there. -/
  | externalImage (image : ImageReference)
deriving DecidableEq, Repr

namespace Link

def text : Link → String
  | .imagesReady => "images ready"
  | .internalImage tag => "internal image " ++ tag
  | .externalImage image => "external image " ++ image.text

def debug : Link → String
  | .imagesReady => "ImagesReady"
  | .internalImage tag => "InternalImage(" ++ Text.quoted tag ++ ")"
  | .externalImage image => "ExternalImage(" ++ image.debug ++ ")"

/-- The key by which links are ordered: the kind of link, then its texts. -/
def orderKey : Link → Nat × List String
  | .imagesReady => (0, [])
  | .internalImage tag => (1, [tag])
  | .externalImage image => (2, image.parts)

/-- Whether `a` stands before `b`, or may stand beside it. -/
def le (a b : Link) : Bool :=
  a.orderKey.1 < b.orderKey.1 ||
    (a.orderKey.1 == b.orderKey.1 && !List.lex b.orderKey.2 a.orderKey.2 fun s t => s < t)

theorem orderKey_inj {a b : Link} (h : a.orderKey = b.orderKey) : a = b := by
  cases a <;> cases b <;> simp [orderKey] at h ⊢
  · exact h
  · exact ImageReference.parts_inj h

/-- Puts a link at its place among ascending ones, unless it is there. -/
def insertSorted (l : Link) : List Link → List Link
  | [] => [l]
  | m :: r => if l = m then m :: r else if le l m then l :: m :: r else m :: insertSorted l r

/-- The links of a list in ascending order, each once. -/
def sortedSet (l : List Link) : List Link := l.foldr insertSorted []

theorem mem_insertSorted {l m : Link} {s : List Link} :
    m ∈ insertSorted l s ↔ m = l ∨ m ∈ s := by
  induction s with
  | nil => simp [insertSorted]
  | cons a r ih =>
    simp only [insertSorted]
    split
    · rename_i h
      simp [h]
    · split
      · simp
      · simp only [List.mem_cons, ih]
        exact or_left_comm

theorem mem_sortedSet {m : Link} {l : List Link} : m ∈ sortedSet l ↔ m ∈ l := by
  induction l with
  | nil => simp [sortedSet]
  | cons a r ih =>
    simp only [sortedSet, List.foldr_cons, mem_insertSorted] at ih ⊢
    simp [ih]

end Link

end PodPipeline
