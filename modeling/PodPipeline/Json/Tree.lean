import PodPipeline.Json.Decode

/-! Trees of names. In JSON they are objects all of whose values are objects again. -/
namespace PodPipeline

inductive Tree where
  | node (children : List (String × Tree))

namespace Tree

mutual

def decEq : DecidableEq Tree
  | .node l, .node m =>
    have := decEqChildren l m
    decidable_of_iff (l = m) ⟨congrArg node, Tree.node.inj⟩

def decEqChildren : DecidableEq (List (String × Tree))
  | [], [] => isTrue rfl
  | [], _ :: _ => isFalse nofun
  | _ :: _, [] => isFalse nofun
  | (k, t) :: r, (l, u) :: s =>
    have := decEq t u
    have := decEqChildren r s
    decidable_of_iff (k = l ∧ t = u ∧ r = s)
      ⟨fun ⟨hk, ht, hr⟩ => hk ▸ ht ▸ hr ▸ rfl, fun h => by cases h; exact ⟨rfl, rfl, rfl⟩⟩

end

instance : DecidableEq Tree := decEq

mutual

def toJson : Tree → Json
  | .node children => .object (toFields children)

def toFields : List (String × Tree) → List (String × Json)
  | [] => []
  | (k, t) :: r => (k, toJson t) :: toFields r

end

mutual

def read : Reader Tree
  | .object fields tail => do
    let children ← readChildren [] fields
    Reader.upTo tail (.node children)
  | d => Reader.refuse d

/-- Puts the trees of some fields at their places among `children`. -/
def readChildren (children : List (String × Tree)) :
    List (Doc.Key × Doc) → Except ReadError (List (String × Tree))
  | [] => .ok children
  | (key, d) :: r => do
    let k ← key.read
    let t ← read d
    readChildren (KeyMap.insertEntry k t children) r

end

end Tree

end PodPipeline
