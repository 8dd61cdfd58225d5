import Mathlib.Logic.Equiv.Fin.Basic
import Mathlib.Logic.Equiv.Option
import PodPipeline.Proofs.Graph.LinkOrder
import PodPipeline.Proofs.Graph.Multiplicity

/-! What a graph tells of its links does not depend on the order in which its steps are listed. Each
link that a step requires either joins the step to all makers of the link, wherever they stand, or
comes from outside. -/
namespace PodPipeline

/-- A rearranged list holds the same elements at corresponding places. -/
theorem exists_equiv_of_perm {α : Type} {l l' : List α} (h : l.Perm l') :
    ∃ e : Fin l.length ≃ Fin l'.length, ∀ i, l'.get (e i) = l.get i := by
  induction h with
  | nil => exact ⟨.refl _, fun _ => rfl⟩
  | @cons a l l' _ ih =>
    obtain ⟨e, he⟩ := ih
    refine ⟨(finSuccEquiv _).trans (e.optionCongr.trans (finSuccEquiv _).symm), fun i => ?_⟩
    cases i using Fin.cases with
    | zero => rfl
    | succ i => exact he i
  | swap a b l =>
    refine ⟨Equiv.swap 0 1, fun i => ?_⟩
    cases i using Fin.cases with
    | zero => rfl
    | succ i =>
      cases i using Fin.cases with
      | zero => rfl
      | succ i =>
        rw [Equiv.swap_apply_of_ne_of_ne (Fin.succ_ne_zero _) fun h => ?_]
        · rfl
        · exact Fin.succ_ne_zero i (Fin.succ_injective _ h)
  | trans _ _ ih ih' =>
    obtain ⟨e, he⟩ := ih
    obtain ⟨e', he'⟩ := ih'
    exact ⟨e.trans e', fun i => (he' (e i)).trans (he i)⟩

/-- A node stands among the predecessors of another one as often as links join their steps. -/
theorem count_predecessors_wiring {steps : List StepNode} (i j : Fin steps.length) :
    ((wiring steps).predecessors j).count i = (steps.get i).joints (steps.get j) :=
  (Digraph.count_predecessors _ i j).trans count_edges_wiring

theorem mem_predecessors_wiring {steps : List StepNode} {i j : Fin steps.length} :
    i ∈ (wiring steps).predecessors j ↔ Feeds steps i j :=
  Digraph.mem_predecessors.trans edge_wiring

namespace StepGraph

/-- Two graphs of the same steps in different places. -/
structure Rearrangement (g g' : StepGraph) where
  place : Fin g.steps.length ≃ Fin g'.steps.length
  get_place : ∀ i, g'.steps.get (place i) = g.steps.get i

variable {steps steps' : List StepNode} {g g' : StepGraph}

/-- The predecessors of a step are the same ones in their new places, each as often as before. -/
theorem Rearrangement.predecessors_perm (r : Rearrangement g g') (j : Fin g.steps.length) :
    ((wiring g'.steps).predecessors (r.place j)).Perm
      (((wiring g.steps).predecessors j).map r.place) := by
  rw [List.perm_iff_count]
  intro k
  obtain ⟨i, rfl⟩ := r.place.surjective k
  rw [List.count_map_of_injective _ _ r.place.injective, count_predecessors_wiring,
    count_predecessors_wiring, r.get_place, r.get_place]

theorem acyclic_of_build (h : build steps = .ok g) : Acyclic steps := by
  obtain ⟨order, -, -, hfeeds⟩ := order_of_build h
  exact acyclic_of_increasing hfeeds

theorem sortedLT_external (g : StepGraph) : g.external.SortedLT := Link.sortedLT_sortedSet _

/-- What comes from outside depends on the steps alone, not on their places. -/
theorem external_eq_of_perm (h : g'.steps.Perm g.steps) : g'.external = g.external := by
  refine g'.sortedLT_external.eq_of_mem_iff g.sortedLT_external fun link => ?_
  simp only [mem_external, h.mem_iff]

/-- The steps of a graph can be joined in any other order. -/
theorem exists_build_of_perm (h : build steps = .ok g) (hperm : steps'.Perm steps) :
    ∃ g', build steps' = .ok g' ∧ g'.external = g.external ∧ Nonempty (Rearrangement g g') := by
  have hacyclic : Acyclic steps' :=
    (acyclic_of_build h).of_inner fun s hs _ _ => hperm.mem_iff.mp hs
  obtain ⟨g', hg'⟩ := build_of_acyclic hacyclic
  obtain rfl := steps_of_build h
  obtain rfl := steps_of_build hg'
  obtain ⟨place, hplace⟩ := exists_equiv_of_perm hperm.symm
  exact ⟨g', hg', external_eq_of_perm hperm, ⟨⟨place, hplace⟩⟩⟩

/-- A step that requires nothing can be added. What it makes does not come from outside any more. -/
theorem exists_build_of_maker (h : build steps = .ok g) {s : StepNode} (hs : s.requires = [])
    (hperm : steps'.Perm (s :: steps)) :
    ∃ g', build steps' = .ok g' ∧ g'.external = g.external.filter (· ∉ s.makes) := by
  have hacyclic : Acyclic steps' := by
    refine (acyclic_of_build h).of_inner fun t ht hrequires _ => ?_
    rcases List.mem_cons.mp (hperm.mem_iff.mp ht) with rfl | ht
    · exact absurd hs hrequires
    · exact ht
  obtain ⟨g', hg'⟩ := build_of_acyclic hacyclic
  obtain rfl := steps_of_build h
  obtain rfl := steps_of_build hg'
  refine ⟨g', hg', g'.sortedLT_external.eq_of_mem_iff
    (g.sortedLT_external.pairwise.filter _).sortedLT fun link => ?_⟩
  rw [List.mem_filter, mem_external, mem_external, decide_eq_true_iff]
  simp only [hperm.mem_iff, List.mem_cons, exists_eq_or_imp, forall_eq_or_imp, hs,
    List.not_mem_nil, false_or]
  exact ⟨fun ⟨hrequired, hmade, hothers⟩ => ⟨⟨hrequired, hothers⟩, hmade⟩,
    fun ⟨⟨hrequired, hothers⟩, hmade⟩ => ⟨hrequired, hmade, hothers⟩⟩

/-- The links that come from outside are those that a step requires and no step makes. A step that
requires another link stands behind all that make it. The same steps in another order are joined in
the same way; and one more step that makes just one of the links from outside, and requires nothing,
takes that one link off their list. -/
theorem links_wired_or_external (h : build steps = .ok g) :
    g.steps = steps ∧
      (∀ link, link ∈ g.external ↔ (∃ s ∈ steps, link ∈ s.requires) ∧
        ∀ s ∈ steps, link ∉ s.creates ∧ s.provides ≠ some link) ∧
      g.external.SortedLT ∧
      (∀ j, ∀ link ∈ (g.steps.get j).requires, link ∉ g.external →
        (∃ i, link ∈ (g.steps.get i).creates ∨ (g.steps.get i).provides = some link) ∧
          ∀ i, link ∈ (g.steps.get i).creates ∨ (g.steps.get i).provides = some link →
            i ∈ (wiring g.steps).predecessors j) ∧
      (∀ steps', steps'.Perm steps → ∃ g', build steps' = .ok g' ∧ g'.external = g.external ∧
        Nonempty (Rearrangement g g') ∧ ∀ (r : Rearrangement g g') (j : Fin g.steps.length),
          ((wiring g'.steps).predecessors (r.place j)).Perm
            (((wiring g.steps).predecessors j).map r.place)) ∧
      ∀ s link steps', s.requires = [] → (∀ made, made ∈ s.makes ↔ made = link) →
        link ∈ g.external → steps'.Perm (s :: steps) →
          ∃ g', build steps' = .ok g' ∧ g'.external = g.external.filter (· ≠ link) := by
  obtain rfl := steps_of_build h
  refine ⟨rfl, fun link => ?_, g.sortedLT_external, fun j link hrequires hlink => ⟨?_, ?_⟩,
    fun steps' hperm => ?_, fun s link steps' hs hmakes _ hperm => ?_⟩
  · simp only [mem_external, StepNode.mem_makes, not_or]
  · by_contra hnone
    refine hlink (mem_external.mpr ⟨⟨_, List.get_mem g.steps j, hrequires⟩, fun s hs hmade => ?_⟩)
    obtain ⟨i, rfl⟩ := List.get_of_mem hs
    exact hnone ⟨i, StepNode.mem_makes.mp hmade⟩
  · exact fun i hmade => mem_predecessors_wiring.mpr ⟨link, hrequires, hmade⟩
  · obtain ⟨g', hg', hexternal, hplaces⟩ := exists_build_of_perm h hperm
    exact ⟨g', hg', hexternal, hplaces, fun r j => r.predecessors_perm j⟩
  · obtain ⟨g', hg', hexternal⟩ := exists_build_of_maker h hs hperm
    simp only [hmakes] at hexternal
    exact ⟨g', hg', hexternal⟩

/-- A step that waits for one behind it, which in turn waits for what comes from outside. -/
def sampleOutside : List StepNode :=
  [{ name := "unit", requires := [.imagesReady, .internalImage "src", .internalImage "src"] },
    { name := "images", requires := [.internalImage "src"], provides := some .imagesReady }]

theorem links_wired_or_external_sample : ∃ g, build sampleOutside = .ok g ∧
    g.external = [.internalImage "src"] ∧
    (∃ g', build sampleOutside.reverse = .ok g' ∧ g'.external = [.internalImage "src"]) ∧
    ∃ g', build ({ name := "import", creates := [.internalImage "src"] } :: sampleOutside) =
      .ok g' ∧ g'.external = [] := by
  have ho : (wiring sampleOutside).topologicalOrder = .ok [⟨1, by decide⟩, ⟨0, by decide⟩] := by
    cbv
  have hb := build_of_ok ho
  have he : (StepGraph.mk sampleOutside [⟨1, by decide⟩, ⟨0, by decide⟩]).external =
      [.internalImage "src"] := by
    cbv
  obtain ⟨-, -, -, -, hperm, hadd⟩ := links_wired_or_external hb
  obtain ⟨g', hg', hexternal, -⟩ := hperm _ (List.reverse_perm _)
  obtain ⟨g'', hg'', hremoved⟩ := hadd { name := "import", creates := [.internalImage "src"] }
    (.internalImage "src") _ rfl (fun made => List.mem_singleton) (he ▸ List.mem_singleton_self _)
    (.refl _)
  exact ⟨_, hb, he, ⟨g', hg', hexternal.trans he⟩, g'', hg'', by rw [hremoved, he]; decide⟩

end StepGraph

end PodPipeline
