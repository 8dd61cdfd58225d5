/-! Directed graphs, and their nodes in an order that follows the edges.

The order is found by a depth-first search, and then checked: every edge has to lead forward in it.
A search that meets a self-loop, and an order with an edge that leads back, give a node on a cycle.
-/
namespace PodPipeline

/-- A graph on `n` nodes. The edges stand in the order in which they were added, and several of them
may join the same two nodes. -/
structure Digraph (n : Nat) where
  edges : List (Fin n × Fin n)

namespace Digraph

variable {n : Nat}

/-- The nodes that edges from `i` lead to, the newest edge first. -/
def successors (g : Digraph n) (i : Fin n) : List (Fin n) :=
  (g.edges.reverse.filter (·.1 = i)).map (·.2)

/-- The nodes from which edges lead to `i`, the newest edge first. -/
def predecessors (g : Digraph n) (i : Fin n) : List (Fin n) :=
  (g.edges.reverse.filter (·.2 = i)).map (·.1)

def Edge (g : Digraph n) (i j : Fin n) : Prop := (i, j) ∈ g.edges

theorem mem_successors {g : Digraph n} {i j : Fin n} : j ∈ g.successors i ↔ g.Edge i j := by
  simp [successors, Edge]

theorem mem_predecessors {g : Digraph n} {i j : Fin n} : i ∈ g.predecessors j ↔ g.Edge i j := by
  simp [predecessors, Edge]

def undiscovered (discovered : List (Fin n)) : Nat :=
  (List.finRange n).countP (· ∉ discovered)

private theorem countP_lt_of_imp {α : Type} {p q : α → Bool} {l : List α} {a : α}
    (hpq : ∀ x, p x = true → q x = true) (ha : a ∈ l) (hp : p a = false) (hq : q a = true) :
    l.countP p < l.countP q := by
  induction l with
  | nil => simp at ha
  | cons b r ih =>
    have hle : r.countP p ≤ r.countP q := List.countP_mono_left fun x _ => hpq x
    rw [List.countP_cons, List.countP_cons]
    rcases List.mem_cons.1 ha with rfl | ha
    · rw [if_pos hq, if_neg (by simp [hp])]
      omega
    · have := ih ha
      by_cases hb : p b = true
      · rw [if_pos hb, if_pos (hpq b hb)]
        omega
      · rw [if_neg hb]
        omega

theorem undiscovered_cons_lt {i : Fin n} {d : List (Fin n)} (h : i ∉ d) :
    undiscovered (i :: d) < undiscovered d :=
  countP_lt_of_imp (fun x hx => by simp at hx ⊢; exact hx.2) (List.mem_finRange i) (by simp)
    (by simpa using h)

/-- What a node puts on the stack when it is discovered: the successors that are not, the last one on
top. -/
def pushed (g : Digraph n) (discovered : List (Fin n)) (i : Fin n) : List (Fin n) :=
  ((g.successors i).filter (· ∉ i :: discovered)).reverse

/-- A depth-first search from the nodes on a stack. A discovered node stays on the stack below its
successors, and is finished when it comes to the top again. The result is what has been discovered
and what has been finished, both the last one first, or a node with a self-loop. -/
def search (g : Digraph n) (stack discovered finished : List (Fin n)) :
    Except (Fin n) (List (Fin n) × List (Fin n)) :=
  match stack with
  | [] => .ok (discovered, finished)
  | i :: rest =>
    if i ∈ discovered then
      search g rest discovered (if i ∈ finished then finished else i :: finished)
    else if i ∈ g.successors i then .error i
    else
      search g (g.pushed discovered i ++ i :: rest) (i :: discovered) finished
termination_by (undiscovered discovered, stack.length)
decreasing_by
  · exact Prod.Lex.right _ (by simp)
  · exact Prod.Lex.left _ _ (undiscovered_cons_lt (by assumption))

/-- Searches from one node after the other, unless it is discovered already. -/
def searchFrom (g : Digraph n) (found : List (Fin n) × List (Fin n)) (nodes : List (Fin n)) :
    Except (Fin n) (List (Fin n) × List (Fin n)) :=
  nodes.foldlM (fun (discovered, finished) i =>
    if i ∈ discovered then .ok (discovered, finished)
    else g.search [i] discovered finished) found

/-- Searches from all nodes, and gives them from the last finished one to the first. -/
def finishOrder (g : Digraph n) : Except (Fin n) (List (Fin n)) := do
  let (_, finished) ← g.searchFrom ([], []) (List.finRange n)
  return finished

/-- The first node of a list with a predecessor that stands neither in `earlier` nor before it gives
the last such predecessor. -/
def late? (g : Digraph n) (earlier : List (Fin n)) : List (Fin n) → Option (Fin n)
  | [] => none
  | i :: r =>
    match ((g.predecessors i).filter (· ∉ i :: earlier)).getLast? with
    | some j => some j
    | none => late? g (i :: earlier) r

/-- The nodes in an order that follows the edges, or a node on a cycle. -/
def topologicalOrder (g : Digraph n) : Except (Fin n) (List (Fin n)) := do
  let order ← g.finishOrder
  match g.late? [] order with
  | some j => .error j
  | none => return order

end Digraph

end PodPipeline
