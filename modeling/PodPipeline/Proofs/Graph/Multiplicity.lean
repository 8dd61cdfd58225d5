import Mathlib.Algebra.BigOperators.Group.List.Lemmas
import Mathlib.Algebra.GroupWithZero.Nat
import Mathlib.Data.List.ProdSigma
import PodPipeline.Proofs.Graph.Order

/-! How often a step is listed among those that another one waits for: once for each place at which
the one requires a link and each place at which the other makes that link. -/
namespace PodPipeline

/-- How many pairs of a required and a made link join two steps, both taken as often as they are
listed. -/
def StepNode.joints (maker user : StepNode) : Nat :=
  (user.requires.product maker.makes).countP fun pair => pair.1 = pair.2

theorem StepNode.joints_eq_sum (maker user : StepNode) :
    maker.joints user = (user.requires.map fun link => maker.makes.count link).sum := by
  rw [joints, List.product, List.countP_flatMap]
  congr 1
  refine List.map_congr_left fun link _ => ?_
  rw [Function.comp_apply, List.countP_map, List.count]
  refine List.countP_congr fun made _ => ?_
  rw [Function.comp_apply, decide_eq_true_iff, beq_iff_eq]
  exact eq_comm

/-- Steps are joined if the one makes what the other requires. -/
theorem StepNode.joints_pos_iff {maker user : StepNode} :
    0 < maker.joints user ↔ ∃ link ∈ user.requires, link ∈ maker.makes := by
  rw [joints, List.countP_pos_iff]
  constructor
  · rintro ⟨⟨required, made⟩, hmem, heq⟩
    obtain rfl : required = made := of_decide_eq_true heq
    obtain ⟨hrequired, hmade⟩ := List.pair_mem_product.mp hmem
    exact ⟨required, hrequired, hmade⟩
  · rintro ⟨link, hrequired, hmade⟩
    exact ⟨(link, link), List.pair_mem_product.mpr ⟨hrequired, hmade⟩, decide_eq_true rfl⟩

/-- An edge to a node lists the node that it comes from once. -/
theorem Digraph.count_predecessors {n : Nat} (g : Digraph n) (i j : Fin n) :
    (g.predecessors j).count i = g.edges.count (i, j) := by
  rw [predecessors, List.count, List.countP_map, List.countP_filter, List.countP_reverse, List.count]
  refine List.countP_congr fun edge _ => ?_
  simp [Prod.ext_iff]

/-- What only one node contributes is counted there. -/
private theorem count_flatMap_finRange {α : Type} [BEq α] [LawfulBEq α] {n : Nat}
    {f : Fin n → List α} {a : α} (i : Fin n) (h : ∀ k, a ∈ f k → k = i) :
    ((List.finRange n).flatMap f).count a = (f i).count a := by
  rw [List.count_flatMap, List.sum_map_eq_nsmul_single i, List.count_eq_one_of_mem
    (List.nodup_finRange n) (List.mem_finRange i), one_nsmul, Function.comp_apply]
  intro k hk _
  exact List.count_eq_zero.mpr fun ha => hk (h k ha)

section

variable {steps : List StepNode} {i j : Fin steps.length}

/-- A step stands among the makers of a link as often as it makes the link. -/
theorem count_makers (link : Link) :
    (makers steps link).count i = (steps.get i).makes.count link := by
  rw [makers, count_flatMap_finRange i]
  · rw [List.map_const', List.count_replicate_self, List.count, List.countP_eq_length_filter]
    rfl
  · intro k hk
    obtain ⟨_, -, rfl⟩ := List.mem_map.mp hk
    rfl

/-- Two steps have as many edges as pairs of links that join them. -/
theorem count_edges_wiring :
    (wiring steps).edges.count (i, j) = (steps.get i).joints (steps.get j) := by
  dsimp only [wiring]
  rw [count_flatMap_finRange j]
  · rw [List.count_flatMap, StepNode.joints_eq_sum]
    congr 1
    refine List.map_congr_left fun link _ => ?_
    rw [Function.comp_apply, ← count_makers,
      List.count_map_of_injective _ (fun k => (k, j)) fun k k' hk => (Prod.mk.inj hk).1]
  · intro k hk
    obtain ⟨link, -, hlink⟩ := List.mem_flatMap.mp hk
    obtain ⟨m, -, heq⟩ := List.mem_map.mp hlink
    exact (Prod.mk.inj heq).2

end

namespace StepGraph

variable {steps : List StepNode} {g : StepGraph}

theorem steps_of_build (h : build steps = .ok g) : g.steps = steps := by
  obtain ⟨order, rfl, -⟩ := order_of_build h
  rfl

/-- The step at a place is found by its name where no other one has it. -/
theorem dependenciesOf_name (hnodup : (g.steps.map (·.name)).Nodup) (j : Fin g.steps.length) :
    g.dependenciesOf (g.steps.get j).name =
      ((wiring g.steps).predecessors j).map fun i => (g.steps.get i).name := by
  cases hfind : (List.finRange g.steps.length).find? fun i =>
      (g.steps.get i).name = (g.steps.get j).name with
  | none =>
    have := List.find?_eq_none.mp hfind j (List.mem_finRange j)
    simp at this
  | some k =>
    have hname : (g.steps.get k).name = (g.steps.get j).name := by
      simpa using List.find?_some hfind
    obtain rfl : k = j := name_injective hnodup hname
    rw [dependenciesOf, hfind]

theorem dependenciesOf_unknown {name : String} (h : ∀ s ∈ g.steps, s.name ≠ name) :
    g.dependenciesOf name = [] := by
  have hfind : ((List.finRange g.steps.length).find? fun i => (g.steps.get i).name = name) = none :=
    List.find?_eq_none.mpr fun i _ => by simpa using h _ (List.get_mem g.steps i)
  rw [dependenciesOf, hfind]

/-- A step is listed once for each pair of links that joins it to the one that waits for it. -/
theorem count_dependenciesOf (hnodup : (g.steps.map (·.name)).Nodup) {s t : StepNode}
    (hs : s ∈ g.steps) (ht : t ∈ g.steps) :
    (g.dependenciesOf s.name).count t.name = t.joints s := by
  obtain ⟨j, rfl⟩ := List.get_of_mem hs
  obtain ⟨i, rfl⟩ := List.get_of_mem ht
  rw [dependenciesOf_name hnodup, List.count_map_of_injective _ _ (name_injective hnodup),
    Digraph.count_predecessors, count_edges_wiring]

theorem exists_of_mem_dependenciesOf {name dependency : String}
    (h : dependency ∈ g.dependenciesOf name) : ∃ t ∈ g.steps, t.name = dependency := by
  rw [dependenciesOf] at h
  split at h
  · obtain ⟨i, -, rfl⟩ := List.mem_map.mp h
    exact ⟨_, List.get_mem g.steps i, rfl⟩
  · cases h

/-- Among the dependencies of a step are the makers of what it requires and no others, each as often
as pairs of links join the two. So each is listed once exactly where no two pairs do. A name that no
step has comes without dependencies. -/
theorem dependencies_listed_per_link {steps : List StepNode} {g : StepGraph}
    (hnodup : (steps.map (·.name)).Nodup) (h : build steps = .ok g) :
    (∀ s ∈ steps,
      (∀ t ∈ steps, (g.dependenciesOf s.name).count t.name = t.joints s ∧
        (t.name ∈ g.dependenciesOf s.name ↔
          ∃ link ∈ s.requires, link ∈ t.creates ∨ t.provides = some link)) ∧
      (∀ dependency ∈ g.dependenciesOf s.name, ∃ t ∈ steps, t.name = dependency) ∧
      ((g.dependenciesOf s.name).Nodup ↔ ∀ t ∈ steps, t.joints s ≤ 1)) ∧
    ∀ name, (∀ s ∈ steps, s.name ≠ name) → g.dependenciesOf name = [] := by
  obtain rfl := steps_of_build h
  refine ⟨fun s hs => ⟨fun t ht => ?_, fun _ hd => exists_of_mem_dependenciesOf hd, ?_⟩,
    fun name hname => dependenciesOf_unknown hname⟩
  · have hcount := count_dependenciesOf hnodup hs ht
    refine ⟨hcount, ?_⟩
    rw [← List.count_pos_iff, hcount, StepNode.joints_pos_iff]
    simp only [StepNode.mem_makes]
  · rw [List.nodup_iff_count_le_one]
    constructor
    · intro hle t ht
      rw [← count_dependenciesOf hnodup hs ht]
      exact hle t.name
    · intro hle name
      by_cases hmem : name ∈ g.dependenciesOf s.name
      · obtain ⟨t, ht, rfl⟩ := exists_of_mem_dependenciesOf hmem
        rw [count_dependenciesOf hnodup hs ht]
        exact hle t ht
      · rw [List.count_eq_zero.mpr hmem]
        exact Nat.zero_le 1

/-- One step makes two links. Of those that wait for it, the first requires both links and the second
one of them. -/
def sampleJoints : List StepNode :=
  [{ name := "images", creates := [.imagesReady, .internalImage "src"] },
    { name := "unit", requires := [.imagesReady, .internalImage "src"] },
    { name := "lint", requires := [.internalImage "src"] }]

theorem build_sampleJoints : ∃ order, build sampleJoints = .ok ⟨sampleJoints, order⟩ := by
  have ho : (wiring sampleJoints).topologicalOrder =
      .ok [⟨0, by decide⟩, ⟨2, by decide⟩, ⟨1, by decide⟩] := by
    cbv
  exact ⟨_, build_of_ok ho⟩

theorem dependencies_listed_per_link_sample : ∃ g, build sampleJoints = .ok g ∧
    (g.dependenciesOf "unit").count "images" = 2 ∧ (g.dependenciesOf "lint").Nodup ∧
    "images" ∈ g.dependenciesOf "lint" ∧ g.dependenciesOf "e2e" = [] := by
  obtain ⟨order, hb⟩ := build_sampleJoints
  obtain ⟨hdeps, hunknown⟩ := dependencies_listed_per_link (by decide) hb
  have hunit := (hdeps _ (List.get_mem sampleJoints ⟨1, by decide⟩)).1
  obtain ⟨hlint, -, hnodup⟩ := hdeps _ (List.get_mem sampleJoints ⟨2, by decide⟩)
  refine ⟨_, hb, ?_, hnodup.mpr (by decide), ?_, hunknown "e2e" (by decide)⟩
  · exact (hunit _ (List.get_mem sampleJoints ⟨0, by decide⟩)).1
  · exact (hlint _ (List.get_mem sampleJoints ⟨0, by decide⟩)).2.mpr (by decide)

/-- Two links between two steps list the one twice among the dependencies of the other. -/
theorem dependency_listed_twice : ∃ g, build sampleJoints = .ok g ∧
    (sampleJoints.map (·.name)).Nodup ∧ g.dependenciesOf "unit" = ["images", "images"] ∧
    (g.dependenciesOf "unit").count "images" ≠ 1 := by
  obtain ⟨order, hb⟩ := build_sampleJoints
  have hd : (StepGraph.mk sampleJoints order).dependenciesOf "unit" = ["images", "images"] := by
    cbv
  refine ⟨_, hb, by decide, hd, ?_⟩
  rw [hd]
  decide

end StepGraph

end PodPipeline
