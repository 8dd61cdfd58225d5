import PodPipeline.Graph.Step
import PodPipeline.Proofs.Graph.Search

/-! Steps can be ordered exactly if none of them waits for itself, and then each stands after the
steps that it waits for. -/
namespace PodPipeline

open Relation

section

variable {steps : List StepNode} {i j : Fin steps.length}

theorem StepNode.mem_makes {s : StepNode} {link : Link} :
    link ∈ s.makes ↔ link ∈ s.creates ∨ s.provides = some link := by
  rw [makes, List.mem_append, Option.mem_toList]

theorem mem_makers {link : Link} : i ∈ makers steps link ↔ link ∈ (steps.get i).makes := by
  constructor
  · intro h
    obtain ⟨k, -, hk⟩ := List.mem_flatMap.mp h
    obtain ⟨made, hmade, rfl⟩ := List.mem_map.mp hk
    obtain ⟨hmem, heq⟩ := List.mem_filter.mp hmade
    exact of_decide_eq_true heq ▸ hmem
  · intro h
    refine List.mem_flatMap.mpr ⟨i, List.mem_finRange i, List.mem_map.mpr ⟨link, ?_, rfl⟩⟩
    exact List.mem_filter.mpr ⟨h, decide_eq_true rfl⟩

variable (steps) in
/-- The step `i` creates or provides a link that the step `j` requires. -/
def Feeds (i j : Fin steps.length) : Prop :=
  ∃ link ∈ (steps.get j).requires,
    link ∈ (steps.get i).creates ∨ (steps.get i).provides = some link

instance : DecidableRel (Feeds steps) := fun i j =>
  inferInstanceAs (Decidable (∃ link ∈ (steps.get j).requires,
    link ∈ (steps.get i).creates ∨ (steps.get i).provides = some link))

theorem edge_wiring : (wiring steps).Edge i j ↔ Feeds steps i j := by
  constructor
  · intro h
    obtain ⟨k, -, hk⟩ := List.mem_flatMap.mp h
    obtain ⟨link, hreq, hlink⟩ := List.mem_flatMap.mp hk
    obtain ⟨m, hm, heq⟩ := List.mem_map.mp hlink
    obtain ⟨rfl, rfl⟩ := Prod.mk.inj heq
    exact ⟨link, hreq, StepNode.mem_makes.mp (mem_makers.mp hm)⟩
  · rintro ⟨link, hreq, hmade⟩
    have hi : i ∈ makers steps link := mem_makers.mpr (StepNode.mem_makes.mpr hmade)
    refine List.mem_flatMap.mpr ⟨j, List.mem_finRange j, List.mem_flatMap.mpr ⟨link, hreq, ?_⟩⟩
    exact List.mem_map.mpr ⟨i, hi, rfl⟩

/-- A chain of steps that feed each other, in terms of the graph. -/
theorem transGen_edge_wiring :
    TransGen (wiring steps).Edge i j ↔ TransGen (Feeds steps) i j := by
  have h : (wiring steps).Edge = Feeds steps := by
    funext i j
    exact propext edge_wiring
  rw [h]

end

/-- Steps of distinct names stand at one place each. -/
theorem name_injective {steps : List StepNode} (h : (steps.map (·.name)).Nodup) :
    Function.Injective fun i : Fin steps.length => (steps.get i).name := by
  intro i j hij
  have hs : steps.get i = steps.get j :=
    List.inj_on_of_nodup_map h (List.get_mem steps i) (List.get_mem steps j) hij
  exact List.nodup_iff_injective_get.mp h.of_map hs

/-- No step waits for itself, be it through others. -/
def Acyclic (steps : List StepNode) : Prop := ∀ i, ¬TransGen (Feeds steps) i i

/-- Where what is fed stands after what feeds it, nothing waits for itself. -/
theorem acyclic_of_increasing {steps : List StepNode} {position : Fin steps.length → Nat}
    (h : ∀ i j, Feeds steps i j → position i < position j) : Acyclic steps := by
  have hchain : ∀ i j, TransGen (Feeds steps) i j → position i < position j := by
    intro i j hij
    induction hij with
    | single hij => exact h _ _ hij
    | tail _ hjk ih => exact Nat.lt_trans ih (h _ _ hjk)
  exact fun i hi => Nat.lt_irrefl _ (hchain i i hi)

section

variable {steps steps' : List StepNode} {i j : Fin steps.length}

theorem Feeds.makes_ne_nil (h : Feeds steps i j) : (steps.get i).makes ≠ [] := by
  obtain ⟨link, -, hmade⟩ := h
  exact List.ne_nil_of_mem (StepNode.mem_makes.mpr hmade)

theorem feeds_congr {i' j' : Fin steps'.length} (hi : steps'.get i' = steps.get i)
    (hj : steps'.get j' = steps.get j) : Feeds steps' i' j' ↔ Feeds steps i j := by
  unfold Feeds
  rw [hi, hj]

theorem Feeds.requires_ne_nil (h : Feeds steps i j) : (steps.get j).requires ≠ [] := by
  obtain ⟨link, hreq, -⟩ := h
  exact List.ne_nil_of_mem hreq

/-- A chain of steps is found again where all steps are that require something and make something.
-/
theorem transGen_feeds_of_inner
    (hmem : ∀ s ∈ steps, s.requires ≠ [] → s.makes ≠ [] → s ∈ steps')
    (h : TransGen (Feeds steps) i j) {i' j' : Fin steps'.length}
    (hi : steps'.get i' = steps.get i) (hj : steps'.get j' = steps.get j) :
    TransGen (Feeds steps') i' j' := by
  induction h generalizing j' with
  | single hij => exact .single ((feeds_congr hi hj).mpr hij)
  | @tail k _ hik hkj ih =>
    -- The last step but one is fed and feeds another, so it is among the others as well.
    obtain ⟨_, -, hk⟩ := TransGen.tail'_iff.mp hik
    obtain ⟨k', hk'⟩ := List.get_of_mem
      (hmem _ (List.get_mem steps k) hk.requires_ne_nil hkj.makes_ne_nil)
    exact .tail (ih hk') ((feeds_congr hk' hj).mpr hkj)

/-- Whether steps can be ordered is up to those among them that require something and make
something. -/
theorem Acyclic.of_inner (h : Acyclic steps')
    (hmem : ∀ s ∈ steps, s.requires ≠ [] → s.makes ≠ [] → s ∈ steps') : Acyclic steps := by
  intro i hi
  obtain ⟨_, hij, -⟩ := TransGen.head'_iff.mp hi
  obtain ⟨_, -, hki⟩ := TransGen.tail'_iff.mp hi
  obtain ⟨i', hi'⟩ := List.get_of_mem
    (hmem _ (List.get_mem steps i) hki.requires_ne_nil hij.makes_ne_nil)
  exact h i' (transGen_feeds_of_inner hmem hi hi' hi')

end

namespace StepGraph

variable {steps : List StepNode}

/-- A link is external if a step requires it and no step makes it. -/
theorem mem_external {g : StepGraph} {link : Link} : link ∈ g.external ↔
    (∃ s ∈ g.steps, link ∈ s.requires) ∧ ∀ s ∈ g.steps, link ∉ s.makes := by
  have hmakers : (makers g.steps link).isEmpty = true ↔ ∀ s ∈ g.steps, link ∉ s.makes := by
    rw [List.isEmpty_iff, List.eq_nil_iff_forall_not_mem]
    constructor
    · intro h s hs
      obtain ⟨i, rfl⟩ := List.get_of_mem hs
      exact fun hmade => h i (mem_makers.mpr hmade)
    · exact fun h i hi => h _ (List.get_mem g.steps i) (mem_makers.mp hi)
  rw [external, Link.mem_sortedSet, List.mem_filter, List.mem_flatMap, hmakers]

theorem build_of_ok {order : List (Fin steps.length)}
    (h : (wiring steps).topologicalOrder = .ok order) : build steps = .ok ⟨steps, order⟩ := by
  rw [build, h]

theorem build_of_error {i : Fin steps.length} (h : (wiring steps).topologicalOrder = .error i) :
    build steps = .error
      (.cycle ("cycle detected in step graph involving step '" ++ (steps.get i).name ++ "'")) := by
  rw [build, h]

/-- What is built comes with an order of all the steps in which each stands after what feeds it. -/
theorem order_of_build {g : StepGraph} (h : build steps = .ok g) :
    ∃ order : List (Fin steps.length), g = ⟨steps, order⟩ ∧
      order.Perm (List.finRange steps.length) ∧
      ∀ i j, Feeds steps i j → order.idxOf i < order.idxOf j := by
  cases ho : (wiring steps).topologicalOrder with
  | error i =>
    rw [build_of_error ho] at h
    cases h
  | ok order =>
    rw [build_of_ok ho] at h
    cases h
    obtain ⟨hperm, hedges⟩ := Digraph.topologicalOrder_ok ho
    exact ⟨order, rfl, hperm, fun i j hij => hedges i j (edge_wiring.mpr hij)⟩

/-- A failure names a step that waits for itself. -/
theorem cycle_of_build {e : StepError} (h : build steps = .error e) :
    ∃ i, e = .cycle ("cycle detected in step graph involving step '" ++ (steps.get i).name ++ "'") ∧
      TransGen (Feeds steps) i i := by
  cases ho : (wiring steps).topologicalOrder with
  | ok order =>
    rw [build_of_ok ho] at h
    cases h
  | error i =>
    rw [build_of_error ho] at h
    cases h
    exact ⟨i, rfl, transGen_edge_wiring.mp (Digraph.topologicalOrder_error ho)⟩

/-- Steps of which none waits for itself are joined. -/
theorem build_of_acyclic (h : Acyclic steps) : ∃ g, build steps = .ok g := by
  cases hb : build steps with
  | ok g => exact ⟨g, rfl⟩
  | error e =>
    obtain ⟨i, -, hi⟩ := cycle_of_build hb
    exact absurd hi (h i)

theorem ordered_perm {order : List (Fin steps.length)}
    (h : order.Perm (List.finRange steps.length)) :
    (StepGraph.mk steps order).ordered.Perm steps := by
  have hall : (List.finRange steps.length).map steps.get = steps := List.map_get_finRange steps
  have hmap : (order.map steps.get).Perm ((List.finRange steps.length).map steps.get) := h.map _
  rwa [hall] at hmap

/-- Steps are joined to a graph exactly if no step waits for itself. The order of the graph holds
each step once, after all the steps that it waits for. -/
theorem build_orders_acyclic (steps : List StepNode) :
    ((∃ g, build steps = .ok g) ↔ Acyclic steps) ∧
      (¬Acyclic steps → ∃ text, build steps = .error (.cycle text)) ∧
      ∀ g, build steps = .ok g →
        g.ordered.Perm steps ∧ g.ordered.length = g.size ∧ g.size = steps.length ∧
        g.orderedNames = g.ordered.map (·.name) ∧
        ∃ order : List (Fin steps.length), order.Perm (List.finRange steps.length) ∧
          g.ordered = order.map steps.get ∧
          ∀ i j, Feeds steps i j → order.idxOf i < order.idxOf j := by
  have hok : ∀ g, build steps = .ok g → Acyclic steps := by
    intro g hg
    obtain ⟨order, -, -, hfeeds⟩ := order_of_build hg
    exact acyclic_of_increasing hfeeds
  have herror : ∀ e, build steps = .error e → ¬Acyclic steps ∧ ∃ text, e = .cycle text := by
    intro e he
    obtain ⟨i, rfl, hi⟩ := cycle_of_build he
    exact ⟨fun h => h i hi, _, rfl⟩
  refine ⟨⟨fun ⟨g, hg⟩ => hok g hg, fun h => ?_⟩, fun h => ?_, fun g hg => ?_⟩
  · cases hb : build steps with
    | ok g => exact ⟨g, rfl⟩
    | error e => exact absurd h (herror e hb).1
  · cases hb : build steps with
    | ok g => exact absurd (hok g hb) h
    | error e =>
      obtain ⟨-, text, rfl⟩ := herror e hb
      exact ⟨text, rfl⟩
  · obtain ⟨order, rfl, hperm, hfeeds⟩ := order_of_build hg
    have hordered := ordered_perm hperm
    exact ⟨hordered, hordered.length_eq, rfl, rfl, order, hperm, rfl, hfeeds⟩

/-- Two steps of one name make what the first one waits for, and one of them waits for the other. -/
def sampleSteps : List StepNode :=
  [{ name := "unit", requires := [.imagesReady, .imagesReady] },
    { name := "images", requires := [.internalImage "src"], creates := [.imagesReady] },
    { name := "images", creates := [.internalImage "src"], provides := some .imagesReady }]

def sampleLoop : List StepNode :=
  [{ name := "images", requires := [.imagesReady], creates := [.imagesReady] }]

theorem build_orders_acyclic_sample :
    Acyclic sampleSteps ∧ (∃ g, build sampleSteps = .ok g ∧ g.ordered.Perm sampleSteps ∧
        g.orderedNames = ["images", "images", "unit"]) ∧
      ¬Acyclic sampleLoop ∧ ∃ text, build sampleLoop = .error (.cycle text) := by
  have ho : (wiring sampleSteps).topologicalOrder = .ok ([2, 1, 0] : List (Fin 3)) := by
    cbv
  have hb := build_of_ok ho
  have hloop : ¬Acyclic sampleLoop := fun h =>
    h ⟨0, by decide⟩ (.single ⟨.imagesReady, by decide, .inl (by decide)⟩)
  obtain ⟨hiff, -, hok⟩ := build_orders_acyclic sampleSteps
  exact ⟨hiff.mp ⟨_, hb⟩, ⟨_, hb, (hok _ hb).1, by decide⟩, hloop,
    (build_orders_acyclic sampleLoop).2.1 hloop⟩

end StepGraph

end PodPipeline
