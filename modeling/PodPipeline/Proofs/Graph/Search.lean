import Mathlib.Data.List.Nodup
import Mathlib.Data.List.Permutation
import Mathlib.Logic.Relation
import PodPipeline.Graph.Basic

/-! A depth-first search finishes a node after all that can be reached from it, unless it stands on
a cycle. So the order in which nodes are finished, read backwards, follows the edges; and where the
search or the check of the order gives a node instead, that node stands on a cycle. -/
namespace PodPipeline.Digraph

open Relation

variable {n : Nat} {g : Digraph n} {stack rest discovered finished order earlier : List (Fin n)}
  {i j : Fin n}

/-- What holds of the nodes that a search has discovered and finished, the last one first. -/
structure Explored (g : Digraph n) (discovered finished : List (Fin n)) : Prop where
  subset : finished ⊆ discovered
  nodup : finished.Nodup
  no_loop : ∀ i ∈ discovered, ¬g.Edge i i
  edges : ∀ i j later earlier, finished = later ++ i :: earlier → g.Edge i j →
    j ∈ earlier ∨ ReflTransGen g.Edge j i

/-- A node on the stack leads to all that stands above it, and its successors are discovered or
stand there. -/
structure Opened (g : Digraph n) (stack discovered : List (Fin n)) (i : Fin n)
    (above below : List (Fin n)) : Prop where
  stack_eq : stack = above ++ i :: below
  first : i ∉ above
  leads : ∀ j ∈ above, ReflTransGen g.Edge i j
  successors : ∀ j, g.Edge i j → j ∈ discovered ∨ j ∈ above

/-- What holds in the course of a search: the nodes that are discovered and not finished stand open
on the stack. -/
structure Searching (g : Digraph n) (stack discovered finished : List (Fin n)) : Prop
    extends Explored g discovered finished where
  opened : ∀ i ∈ discovered, i ∉ finished → ∃ above below, g.Opened stack discovered i above below

structure Settled (g : Digraph n) (discovered finished : List (Fin n)) : Prop
    extends Explored g discovered finished where
  done : discovered ⊆ finished

theorem Settled.searching (h : g.Settled discovered finished) :
    g.Searching stack discovered finished where
  toExplored := h.toExplored
  opened _ hi hf := absurd (h.done hi) hf

theorem Searching.settled (h : g.Searching [] discovered finished) :
    g.Settled discovered finished where
  toExplored := h.toExplored
  done i hi := by
    by_contra hf
    obtain ⟨above, below, ho⟩ := h.opened i hi hf
    have := ho.stack_eq
    simp at this

/-- The node on top stands above every other open one. -/
theorem Opened.uncons {above below : List (Fin n)}
    (h : g.Opened (i :: rest) discovered j above below) (hij : i ≠ j) :
    ∃ above', above = i :: above' ∧ rest = above' ++ j :: below := by
  have hs := h.stack_eq
  cases above with
  | nil =>
    rw [List.nil_append, List.cons.injEq] at hs
    exact absurd hs.1 hij
  | cons a above' =>
    rw [List.cons_append, List.cons.injEq] at hs
    exact ⟨above', by rw [hs.1], hs.2⟩

/-- Nothing stands above an open node on top. -/
theorem Opened.above_eq_nil {above below : List (Fin n)}
    (h : g.Opened (i :: rest) discovered i above below) : above = [] := by
  have hs := h.stack_eq
  cases above with
  | nil => rfl
  | cons a above' =>
    rw [List.cons_append, List.cons.injEq] at hs
    exact absurd (hs.1 ▸ List.mem_cons_self) h.first

/-- A discovered node is taken off the stack; the others stay open. -/
theorem Opened.pop {above below : List (Fin n)}
    (h : g.Opened (i :: rest) discovered j above below) (hi : i ∈ discovered) (hij : i ≠ j) :
    ∃ above' below', g.Opened rest discovered j above' below' := by
  obtain ⟨above', rfl, hrest⟩ := h.uncons hij
  refine ⟨above', below, hrest, ?_, ?_, fun k hk => ?_⟩
  · exact fun hj => h.first (List.mem_cons_of_mem _ hj)
  · exact fun k hk => h.leads k (List.mem_cons_of_mem _ hk)
  · rcases h.successors k hk with hd | ha
    · exact .inl hd
    · rcases List.mem_cons.mp ha with rfl | ha
      · exact .inl hi
      · exact .inr ha

theorem mem_pushed : j ∈ g.pushed discovered i ↔ g.Edge i j ∧ j ∉ i :: discovered := by
  rw [pushed, List.mem_reverse, List.mem_filter, mem_successors, decide_eq_true_eq]

theorem Opened.push {above below : List (Fin n)}
    (h : g.Opened (i :: rest) discovered j above below) (hi : i ∉ discovered)
    (hj : j ∈ discovered) :
    ∃ above' below',
      g.Opened (g.pushed discovered i ++ i :: rest) (i :: discovered) j above' below' := by
  have hij : i ≠ j := fun he => hi (he ▸ hj)
  obtain ⟨above', rfl, rfl⟩ := h.uncons hij
  have hji : ReflTransGen g.Edge j i := h.leads i List.mem_cons_self
  refine ⟨g.pushed discovered i ++ i :: above', below, by simp, fun hm => ?_, fun k hk => ?_,
    fun k hk => ?_⟩
  · rcases List.mem_append.mp hm with hm | hm
    · exact (mem_pushed.mp hm).2 (List.mem_cons_of_mem _ hj)
    · exact h.first hm
  · rcases List.mem_append.mp hk with hk | hk
    · exact hji.tail (mem_pushed.mp hk).1
    · exact h.leads k hk
  · rcases h.successors k hk with hd | ha
    · exact .inl (List.mem_cons_of_mem _ hd)
    · exact .inr (List.mem_append_right _ ha)

namespace Searching

/-- A finished node is met again. -/
theorem drop (h : g.Searching (i :: rest) discovered finished) (hi : i ∈ discovered)
    (hf : i ∈ finished) : g.Searching rest discovered finished where
  toExplored := h.toExplored
  opened j hj hjf := by
    obtain ⟨above, below, ho⟩ := h.opened j hj hjf
    exact ho.pop hi fun he => hjf (he ▸ hf)

/-- An open node on top is finished: what it leads to has been finished before, or is open and so
leads to it. -/
theorem finish (h : g.Searching (i :: rest) discovered finished) (hi : i ∈ discovered)
    (hf : i ∉ finished) : g.Searching rest discovered (i :: finished) where
  subset := List.cons_subset.mpr ⟨hi, h.subset⟩
  nodup := List.nodup_cons.mpr ⟨hf, h.nodup⟩
  no_loop := h.no_loop
  edges k j later earlier hl hk := by
    cases later with
    | cons _ later =>
      rw [List.cons_append, List.cons.injEq] at hl
      exact h.edges k j later earlier hl.2 hk
    | nil =>
      rw [List.nil_append, List.cons.injEq] at hl
      obtain ⟨rfl, rfl⟩ := hl
      obtain ⟨above, below, ho⟩ := h.opened i hi hf
      obtain rfl := ho.above_eq_nil
      have hj : j ∈ discovered := (ho.successors j hk).resolve_right (List.not_mem_nil)
      by_cases hjf : j ∈ finished
      · exact .inl hjf
      · right
        have hij : i ≠ j := by
          rintro rfl
          exact h.no_loop i hi hk
        obtain ⟨above, below, ho⟩ := h.opened j hj hjf
        obtain ⟨above, rfl, -⟩ := ho.uncons hij
        exact ho.leads i List.mem_cons_self
  opened j hj hjf := by
    obtain ⟨hji, hjf⟩ : j ≠ i ∧ j ∉ finished := by simpa using hjf
    obtain ⟨above, below, ho⟩ := h.opened j hj hjf
    exact ho.pop hi hji.symm

/-- A node on top is discovered. -/
theorem discover (h : g.Searching (i :: rest) discovered finished) (hi : i ∉ discovered)
    (hl : ¬g.Edge i i) :
    g.Searching (g.pushed discovered i ++ i :: rest) (i :: discovered) finished where
  subset := List.subset_cons_of_subset _ h.subset
  nodup := h.nodup
  no_loop := List.forall_mem_cons.mpr ⟨hl, h.no_loop⟩
  edges := h.edges
  opened j hj hjf := by
    rcases List.mem_cons.mp hj with rfl | hj
    · refine ⟨_, rest, rfl, fun hm => ?_, fun k hk => ?_, fun k hk => ?_⟩
      · exact (mem_pushed.mp hm).2 List.mem_cons_self
      · exact .single (mem_pushed.mp hk).1
      · by_cases hd : k ∈ j :: discovered
        · exact .inl hd
        · exact .inr (mem_pushed.mpr ⟨hk, hd⟩)
    · obtain ⟨above, below, ho⟩ := h.opened j hj hjf
      exact ho.push hi hj

end Searching

/-- A search that ends has settled what it has discovered, which is all that was on the stack. -/
theorem search_ok (h : g.Searching stack discovered finished)
    {found : List (Fin n) × List (Fin n)} (hs : g.search stack discovered finished = .ok found) :
    g.Settled found.1 found.2 ∧ discovered ⊆ found.1 ∧ stack ⊆ found.1 := by
  fun_induction search g stack discovered finished with
  | case1 discovered finished =>
    cases hs
    exact ⟨h.settled, List.Subset.refl _, List.nil_subset _⟩
  | case2 discovered finished i rest hi ih =>
    have hrest : g.Searching rest discovered
        (if i ∈ finished then finished else i :: finished) := by
      split
      · exact h.drop hi ‹_›
      · exact h.finish hi ‹_›
    obtain ⟨hset, hsub, hstack⟩ := ih hrest hs
    exact ⟨hset, hsub, List.cons_subset.mpr ⟨hsub hi, hstack⟩⟩
  | case3 discovered finished i rest hi hl => cases hs
  | case4 discovered finished i rest hi hl ih =>
    obtain ⟨hset, hsub, hstack⟩ := ih (h.discover hi (mt mem_successors.mpr hl)) hs
    exact ⟨hset, fun _ hj => hsub (List.mem_cons_of_mem _ hj),
      fun _ hj => hstack (List.mem_append_right _ hj)⟩

/-- A search fails at a node with an edge to itself. -/
theorem search_error (hs : g.search stack discovered finished = .error i) : g.Edge i i := by
  fun_induction search g stack discovered finished with
  | case1 => cases hs
  | case2 discovered finished j rest hj ih => exact ih hs
  | case3 discovered finished j rest hj hl =>
    cases hs
    exact mem_successors.mp hl
  | case4 discovered finished j rest hj hl ih => exact ih hs

theorem searchFrom_cons_of_mem {found : List (Fin n) × List (Fin n)} (hi : i ∈ found.1)
    (nodes : List (Fin n)) : g.searchFrom found (i :: nodes) = g.searchFrom found nodes := by
  obtain ⟨discovered, finished⟩ := found
  rw [searchFrom, List.foldlM_cons]
  simp only [if_pos hi]
  rfl

theorem searchFrom_cons_of_not_mem {found : List (Fin n) × List (Fin n)} (hi : i ∉ found.1)
    (nodes : List (Fin n)) : g.searchFrom found (i :: nodes) =
      g.search [i] found.1 found.2 >>= fun found => g.searchFrom found nodes := by
  obtain ⟨discovered, finished⟩ := found
  rw [searchFrom, List.foldlM_cons]
  simp only [if_neg hi]
  rfl

theorem searchFrom_ok {nodes : List (Fin n)} {found found' : List (Fin n) × List (Fin n)}
    (h : g.Settled found.1 found.2) (hs : g.searchFrom found nodes = .ok found') :
    g.Settled found'.1 found'.2 ∧ found.1 ⊆ found'.1 ∧ nodes ⊆ found'.1 := by
  induction nodes generalizing found with
  | nil =>
    cases hs
    exact ⟨h, List.Subset.refl _, List.nil_subset _⟩
  | cons i nodes ih =>
    by_cases hi : i ∈ found.1
    · rw [searchFrom_cons_of_mem hi] at hs
      obtain ⟨hset, hsub, hnodes⟩ := ih h hs
      exact ⟨hset, hsub, List.cons_subset.mpr ⟨hsub hi, hnodes⟩⟩
    · rw [searchFrom_cons_of_not_mem hi] at hs
      cases hfirst : g.search [i] found.1 found.2 with
      | error j =>
        rw [hfirst] at hs
        cases hs
      | ok next =>
        rw [hfirst] at hs
        obtain ⟨hset, hsub, hstack⟩ := search_ok h.searching hfirst
        obtain ⟨hset', hsub', hnodes⟩ := ih hset hs
        have hi' : i ∈ next.1 := hstack List.mem_cons_self
        exact ⟨hset', List.Subset.trans hsub hsub', List.cons_subset.mpr ⟨hsub' hi', hnodes⟩⟩

theorem searchFrom_error {nodes : List (Fin n)} {found : List (Fin n) × List (Fin n)}
    (hs : g.searchFrom found nodes = .error i) : g.Edge i i := by
  induction nodes generalizing found with
  | nil => cases hs
  | cons j nodes ih =>
    by_cases hj : j ∈ found.1
    · rw [searchFrom_cons_of_mem hj] at hs
      exact ih hs
    · rw [searchFrom_cons_of_not_mem hj] at hs
      cases hfirst : g.search [j] found.1 found.2 with
      | error k =>
        rw [hfirst] at hs
        cases hs
        exact search_error hfirst
      | ok next =>
        rw [hfirst] at hs
        exact ih hs

theorem finishOrder_eq (g : Digraph n) :
    g.finishOrder = g.searchFrom ([], []) (List.finRange n) >>= fun found => .ok found.2 := rfl

theorem settled_nil (g : Digraph n) : g.Settled [] [] where
  subset := List.Subset.refl _
  nodup := List.nodup_nil
  no_loop := by simp
  edges := by simp
  done := List.Subset.refl _

/-- The finished nodes are all nodes, each once. -/
theorem finishOrder_ok (hs : g.finishOrder = .ok order) :
    ∃ discovered, g.Settled discovered order ∧ ∀ i, i ∈ order := by
  rw [finishOrder_eq] at hs
  cases hall : g.searchFrom ([], []) (List.finRange n) with
  | error i =>
    rw [hall] at hs
    cases hs
  | ok found =>
    rw [hall] at hs
    cases hs
    obtain ⟨hset, -, hnodes⟩ := searchFrom_ok (settled_nil g) hall
    exact ⟨found.1, hset, fun i => hset.done (hnodes (List.mem_finRange i))⟩

theorem finishOrder_error (hs : g.finishOrder = .error i) : g.Edge i i := by
  rw [finishOrder_eq] at hs
  cases hall : g.searchFrom ([], []) (List.finRange n) with
  | error j =>
    rw [hall] at hs
    cases hs
    exact searchFrom_error hall
  | ok found =>
    rw [hall] at hs
    cases hs

/-! The check of the order. -/

/-- Where no node is late, the edges to a node come from nodes before it. -/
theorem late?_eq_none {l before after : List (Fin n)} (h : g.late? earlier l = none)
    (hl : l = before ++ i :: after) (hj : g.Edge j i) : j = i ∨ j ∈ before ∨ j ∈ earlier := by
  induction l generalizing earlier before with
  | nil => simp at hl
  | cons a l ih =>
    rw [late?] at h
    split at h
    · cases h
    · rename_i hlast
      cases before with
      | nil =>
        rw [List.nil_append, List.cons.injEq] at hl
        obtain ⟨rfl, rfl⟩ := hl
        have hnone : j ∉ (g.predecessors a).filter (· ∉ a :: earlier) := by
          rw [List.getLast?_eq_none_iff.mp hlast]
          exact List.not_mem_nil
        have hmem : j ∈ a :: earlier := by
          by_contra hm
          exact hnone (List.mem_filter.mpr ⟨mem_predecessors.mpr hj, decide_eq_true hm⟩)
        exact (List.mem_cons.mp hmem).imp id .inr
      | cons b before =>
        rw [List.cons_append, List.cons.injEq] at hl
        obtain ⟨rfl, rfl⟩ := hl
        rcases ih h rfl with he | hb | he
        · exact .inl he
        · exact .inr (.inl (List.mem_cons_of_mem _ hb))
        · rcases List.mem_cons.mp he with rfl | he
          · exact .inr (.inl List.mem_cons_self)
          · exact .inr (.inr he)

/-- A late node has an edge to one that stands before it, and no node is late up to there. -/
theorem late?_eq_some {l : List (Fin n)} (h : g.late? earlier l = some j) :
    ∃ before i after, l = before ++ i :: after ∧ g.Edge j i ∧ j ≠ i ∧ j ∉ before ∧ j ∉ earlier ∧
      g.late? earlier before = none := by
  induction l generalizing earlier with
  | nil => cases h
  | cons a l ih =>
    rw [late?] at h
    split at h
    · rename_i k hlast
      cases h
      obtain ⟨hj, hout⟩ := List.mem_filter.mp (List.mem_of_getLast? hlast)
      have hout : j ≠ a ∧ j ∉ earlier := by simpa using hout
      exact ⟨[], a, l, rfl, mem_predecessors.mp hj, hout.1, List.not_mem_nil, hout.2, rfl⟩
    · rename_i hlast
      obtain ⟨before, i, after, rfl, hj, hne, hb, he, hnone⟩ := ih h
      have he : j ≠ a ∧ j ∉ earlier := by simpa using he
      refine ⟨a :: before, i, after, rfl, hj, hne, by simp [he.1, hb], he.2, ?_⟩
      rw [late?, hlast]
      exact hnone

/-! The order. -/

private theorem topologicalOrder_eq (g : Digraph n) : g.topologicalOrder =
    g.finishOrder >>= fun order => match g.late? [] order with
      | some j => .error j
      | none => .ok order := rfl

theorem idxOf_lt_of_eq_append {before after : List (Fin n)} (ho : order = before ++ j :: after)
    (hi : i ∈ before) (hj : j ∉ before) : order.idxOf i < order.idxOf j := by
  rw [ho, List.idxOf_append_of_mem hi, List.idxOf_append_of_notMem hj]
  have := List.idxOf_lt_length_iff.mpr hi
  omega

/-- The order holds every node once, and every edge leads forward in it. -/
theorem topologicalOrder_ok (hs : g.topologicalOrder = .ok order) :
    order.Perm (List.finRange n) ∧ ∀ i j, g.Edge i j → order.idxOf i < order.idxOf j := by
  rw [topologicalOrder_eq] at hs
  cases hfin : g.finishOrder with
  | error i =>
    rw [hfin] at hs
    cases hs
  | ok nodes =>
    rw [hfin] at hs
    cases hlate : g.late? [] nodes with
    | some j => simp [hlate, bind, Except.bind] at hs
    | none =>
      obtain rfl : nodes = order := by simpa [hlate, bind, Except.bind] using hs
      obtain ⟨discovered, hset, hall⟩ := finishOrder_ok hfin
      refine ⟨?_, fun i j hij => ?_⟩
      · have hmem : ∀ i, i ∈ nodes ↔ i ∈ List.finRange n := by simp [hall]
        exact (List.perm_ext_iff_of_nodup hset.nodup (List.nodup_finRange n)).mpr hmem
      · obtain ⟨before, after, hl⟩ := List.append_of_mem (hall j)
        have hnodup := hl ▸ hset.nodup
        have hjb : j ∉ before := fun hj =>
          (List.nodup_append.mp hnodup).2.2 j hj j List.mem_cons_self rfl
        rcases late?_eq_none hlate hl hij with rfl | hi | hi
        · exact absurd hij (hset.no_loop i (hset.subset (hall i)))
        · exact idxOf_lt_of_eq_append hl hi hjb
        · cases hi

/-- Either the search gives the node, or the check of the order that the search has found. -/
theorem topologicalOrder_error_cases (hs : g.topologicalOrder = .error i) :
    g.finishOrder = .error i ∨ ∃ order, g.finishOrder = .ok order ∧ g.late? [] order = some i := by
  rw [topologicalOrder_eq] at hs
  cases hfin : g.finishOrder with
  | error j =>
    rw [hfin] at hs
    cases hs
    exact .inl rfl
  | ok order =>
    rw [hfin] at hs
    cases hlate : g.late? [] order with
    | none => simp [hlate, bind, Except.bind] at hs
    | some j =>
      obtain rfl : j = i := by simpa [hlate, bind, Except.bind] using hs
      exact .inr ⟨order, rfl, hlate⟩

/-- A late node has been finished before the one that it has an edge to, so it is reached from
there. Nothing is late before that one. -/
theorem late?_finishOrder (hfin : g.finishOrder = .ok order) (hlate : g.late? [] order = some i) :
    ∃ before k after, order = before ++ k :: after ∧ i ∈ after ∧ g.Edge i k ∧
      ReflTransGen g.Edge k i ∧ ∀ j ∈ before, ∀ p, g.Edge p j → p ∈ before := by
  obtain ⟨discovered, hset, hall⟩ := finishOrder_ok hfin
  obtain ⟨before, k, after, hl, hik, hne, hib, -, hnone⟩ := late?_eq_some hlate
  have hia : i ∈ after := by
    have := hall i
    rw [hl] at this
    simpa [hne, hib] using this
  refine ⟨before, k, after, hl, hia, hik, ?_, fun j hj p hp => ?_⟩
  · obtain ⟨between, beyond, rfl⟩ := List.append_of_mem hia
    have hsplit : order = (before ++ k :: between) ++ i :: beyond := by simp [hl]
    have hnodup := hl ▸ hset.nodup
    rcases hset.edges i k _ _ hsplit hik with hk | hk
    · have := (List.nodup_cons.mp (List.nodup_append.mp hnodup).2.1).1
      exact absurd (List.mem_append_right _ (List.mem_cons_of_mem _ hk)) this
    · exact hk
  · obtain ⟨front, back, rfl⟩ := List.append_of_mem hj
    rcases late?_eq_none hnone rfl hp with rfl | hp | hp
    · exact hj
    · exact List.mem_append_left _ hp
    · cases hp

/-- A node that is given instead of an order stands on a cycle. -/
theorem topologicalOrder_error (hs : g.topologicalOrder = .error i) : TransGen g.Edge i i := by
  rcases topologicalOrder_error_cases hs with hfin | ⟨order, hfin, hlate⟩
  · exact .single (finishOrder_error hfin)
  · obtain ⟨before, k, after, -, -, hik, hki, -⟩ := late?_finishOrder hfin hlate
    exact TransGen.head' hik hki

/-- A search of all nodes ends only where no node has an edge to itself. -/
theorem not_edge_self_of_finishOrder (hfin : g.finishOrder = .ok order) (i : Fin n) :
    ¬g.Edge i i := by
  obtain ⟨discovered, hset, hall⟩ := finishOrder_ok hfin
  exact hset.no_loop i (hset.subset (hall i))

end PodPipeline.Digraph
