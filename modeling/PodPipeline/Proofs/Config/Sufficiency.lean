import PodPipeline.Proofs.Config.FirstFault
import PodPipeline.Proofs.Graph.Order
import PodPipeline.Proofs.Pod.Drift

/-! A pipeline that has passed the checks can be run: its pods are built, they get in no other's
way, and its steps are joined with whatever is built before them. -/
namespace PodPipeline

namespace StepConfig

variable {name : String} {c : StepConfig} {j : Job}

theorem validateImage_eq_ok : c.validateImage name = .ok () ↔
    Text.isBlank c.image.name = false ∧ Text.isBlank c.image.tag = false := by
  rw [(c.decides_validateImage name).ok_iff, and_iff_left rfl, List.forall_mem_singleton]
  rfl

/-- The checks of a step cover those of its pod. -/
theorem buildPod_of_validate (h : c.validate name = .ok ()) :
    buildPod name c j = .ok (assembledPod name c j) := by
  have hc := validate_eq_ok.mp h
  exact buildPod_eq_ok_iff.mpr ⟨⟨hc.name, hc.podName, hc.imageName, hc.imageTag⟩, rfl⟩

end StepConfig

namespace PodStep

variable {s : PodStep} {p : Pod}

/-- A pod is built of a complete image only. -/
theorem validateImage_of_pod (h : s.pod = .ok p) :
    s.config.validateImage s.sectionName = .ok () :=
  StepConfig.validateImage_eq_ok.mpr (buildPod_eq_ok_iff.mp h).1.2.2

theorem inputs_of_pod (h : s.pod = .ok p) : s.inputs = .ok [] := by
  rw [inputs, validateImage_of_pod h]
  rfl

theorem requires_of_pod (h : s.pod = .ok p) : s.requires = [.imagesReady] := by
  have himage := (buildPod_eq_ok_iff.mp h).1.2.2.1
  have hname : s.config.image.name ≠ "" := by
    intro hempty
    rw [hempty, Text.isBlank_empty] at himage
    cases himage
  exact if_pos (decide_eq_true hname)

theorem mem_requires_node (h : s.pod = .ok p) : Link.imagesReady ∈ s.node.requires :=
  List.mem_of_mem_head? (congrArg List.head? (requires_of_pod h))

theorem makes_node (s : PodStep) : s.node.makes = [] := rfl

end PodStep

namespace PipelineDraft

variable {d : PipelineDraft} {p : Pipeline}

/-- What the checks ask for, all of it. -/
theorem validate_eq_ok_iff : d.validate = .ok p ↔
    d.steps.entries ≠ [] ∧ Text.isBlank d.job.namespace = false ∧
      (∀ e ∈ d.steps.entries, e.2.validate e.1 = .ok ()) ∧
      (d.steps.entries.Pairwise fun e f => e.2.podName ≠ f.2.podName) ∧ p = ⟨d.job, d.steps⟩ := by
  simp only [validate_eq_ok, StepConfig.validate_eq_ok]
  exact ⟨fun ⟨⟨hne, hns, hsteps, hpods⟩, hp⟩ => ⟨hne, hns, hsteps, hpods, hp⟩,
    fun ⟨hne, hns, hsteps, hpods, hp⟩ => ⟨⟨hne, hns, hsteps, hpods⟩, hp⟩⟩

end PipelineDraft

namespace Pipeline

variable {d : PipelineDraft} {p : Pipeline} {s : PodStep} {others steps : List StepNode}

theorem mem_podSteps :
    s ∈ p.podSteps ↔ (s.sectionName, s.config) ∈ p.steps.entries ∧ s.job = p.job := by
  unfold podSteps
  rw [List.mem_map]
  constructor
  · rintro ⟨e, he, rfl⟩
    exact ⟨he, rfl⟩
  · rintro ⟨he, hj⟩
    exact ⟨_, he, by rw [← hj]⟩

theorem sections_podSteps (p : Pipeline) :
    (p.podSteps.map fun s => (s.sectionName, s.config)) = p.steps.entries := by
  unfold podSteps
  rw [List.map_map]
  exact List.map_id _

theorem pod_of_validate (h : d.validate = .ok p) (hs : s ∈ p.podSteps) :
    s.pod = .ok (assembledPod s.sectionName s.config s.job) := by
  obtain ⟨-, -, hsteps, -, rfl⟩ := PipelineDraft.validate_eq_ok_iff.mp h
  have hstep := hsteps (s.sectionName, s.config) (mem_podSteps.mp hs).1
  exact StepConfig.buildPod_of_validate hstep

/-- The pods of a pipeline that has passed the checks, each at a place of its own. -/
theorem pods_of_validate (h : d.validate = .ok p) : ∃ pods : List Pod,
    p.podSteps.map (·.pod) = pods.map .ok ∧
      (∀ pod ∈ pods, pod.metadata.namespace = some d.job.namespace) ∧
      (pods.map fun pod => (pod.metadata.namespace, pod.metadata.name)).Nodup := by
  refine ⟨p.podSteps.map fun s => assembledPod s.sectionName s.config s.job, ?_, ?_, ?_⟩
  · rw [List.map_map]
    exact List.map_congr_left fun s hs => pod_of_validate h hs
  · intro pod hpod
    obtain ⟨s, hs, rfl⟩ := List.mem_map.mp hpod
    obtain ⟨rfl, -⟩ := PipelineDraft.validate_ok h
    exact congrArg (fun j : Job => some j.namespace) (mem_podSteps.mp hs).2
  · rw [List.map_map]
    refine List.pairwise_map.mpr ((List.pairwise_map.mp (nodup_keys h)).imp fun hne heq => hne ?_)
    obtain ⟨hns, hname⟩ := Prod.mk.inj heq
    exact congrArg₂ PodKey.mk (Option.some.inj hns) (Option.some.inj hname)

theorem makes_of_mem_nodes (p : Pipeline) : ∀ s ∈ p.podSteps.map PodStep.node, s.makes = [] := by
  intro s hs
  obtain ⟨q, -, rfl⟩ := List.mem_map.mp hs
  exact q.makes_node

/-- The steps of a pipeline close no circle. -/
theorem acyclic_with (p : Pipeline) (ho : Acyclic others)
    (hperm : steps.Perm (p.podSteps.map PodStep.node ++ others)) : Acyclic steps := by
  refine ho.of_inner fun s hs _ hmakes => ?_
  rcases List.mem_append.mp (hperm.mem_iff.mp hs) with hpod | hother
  · exact absurd (p.makes_of_mem_nodes s hpod) hmakes
  · exact hother

/-- The images come from outside if no other step makes them. -/
theorem imagesReady_external (h : d.validate = .ok p) {g : StepGraph}
    (hperm : g.steps.Perm (p.podSteps.map PodStep.node ++ others)) :
    Link.imagesReady ∈ g.external ↔ ∀ o ∈ others, Link.imagesReady ∉ o.makes := by
  obtain ⟨hne, -, -, -, hp⟩ := PipelineDraft.validate_eq_ok_iff.mp h
  have hrequired : ∃ s ∈ g.steps, Link.imagesReady ∈ s.requires := by
    obtain ⟨e, he⟩ := List.exists_mem_of_ne_nil _ hne
    have hs : (⟨e.1, e.2, p.job⟩ : PodStep) ∈ p.podSteps :=
      mem_podSteps.mpr ⟨by rw [hp]; exact he, rfl⟩
    refine ⟨_, hperm.mem_iff.mpr (List.mem_append_left _ (List.mem_map_of_mem hs)), ?_⟩
    exact PodStep.mem_requires_node (pod_of_validate h hs)
  rw [StepGraph.mem_external, and_iff_right hrequired]
  constructor
  · exact fun hall o hmem => hall o (hperm.mem_iff.mpr (List.mem_append_right _ hmem))
  · intro hothers s hs
    rcases List.mem_append.mp (hperm.mem_iff.mp hs) with hpod | hother
    · rw [p.makes_of_mem_nodes s hpod]
      exact List.not_mem_nil
    · exact hothers s hother

/-- What makes the images feeds every step of a pipeline that has passed the checks. -/
theorem feeds_of_imagesReady (h : d.validate = .ok p) {i j : Fin steps.length}
    (hi : Link.imagesReady ∈ (steps.get i).makes)
    (hj : steps.get j ∈ p.podSteps.map PodStep.node) : Feeds steps i j := by
  obtain ⟨s, hs, hnode⟩ := List.mem_map.mp hj
  refine ⟨.imagesReady, ?_, StepNode.mem_makes.mp hi⟩
  rw [← hnode]
  exact PodStep.mem_requires_node (pod_of_validate h hs)

/-- A pipeline that has passed the checks can be run. Each of its sections gives one step, whose pod
can be built and which takes nothing but the images; no two pods share a place; and the steps are
joined with any others that can be ordered by themselves, after those that make the images. -/
theorem runnable_of_validate (h : d.validate = .ok p) :
    p.job = d.job ∧ p.steps = d.steps ∧ Text.isBlank d.job.namespace = false ∧
      (p.podSteps.map fun s => (s.sectionName, s.config)) = d.steps.entries ∧
      d.steps.keys.Nodup ∧
      (∀ s ∈ p.podSteps, s.job = d.job ∧ (∃ pod, s.pod = .ok pod) ∧ s.inputs = .ok [] ∧
        s.requires = [.imagesReady]) ∧
      (∃ pods : List Pod, p.podSteps.map (·.pod) = pods.map .ok ∧
        (∀ pod ∈ pods, pod.metadata.namespace = some d.job.namespace) ∧
        (pods.map fun pod => (pod.metadata.namespace, pod.metadata.name)).Nodup) ∧
      ∀ others steps, Acyclic others → steps.Perm (p.podSteps.map PodStep.node ++ others) →
        ∃ g, StepGraph.build steps = .ok g ∧ g.steps = steps ∧
          g.order.Perm (List.finRange g.steps.length) ∧
          (.imagesReady ∈ g.external ↔
            ∀ o ∈ others, .imagesReady ∉ o.creates ∧ o.provides ≠ some .imagesReady) ∧
          ∀ i j, .imagesReady ∈ (g.steps.get i).makes →
            g.steps.get j ∈ p.podSteps.map PodStep.node → g.order.idxOf i < g.order.idxOf j := by
  obtain ⟨-, hns, -, -, hp⟩ := PipelineDraft.validate_eq_ok_iff.mp h
  have hjob : p.job = d.job := congrArg job hp
  have hsteps : p.steps = d.steps := congrArg Pipeline.steps hp
  refine ⟨hjob, hsteps, hns, hsteps ▸ p.sections_podSteps, d.steps.nodup_keys, fun s hs => ?_,
    pods_of_validate h, fun others steps ho hperm => ?_⟩
  · have hpod := pod_of_validate h hs
    exact ⟨(mem_podSteps.mp hs).2.trans hjob, ⟨_, hpod⟩, PodStep.inputs_of_pod hpod,
      PodStep.requires_of_pod hpod⟩
  · obtain ⟨g, hg⟩ := StepGraph.build_of_acyclic (p.acyclic_with ho hperm)
    obtain ⟨order, rfl, horder, hfeeds⟩ := StepGraph.order_of_build hg
    have hexternal := imagesReady_external (g := ⟨steps, order⟩) h hperm
    refine ⟨_, hg, rfl, horder, ?_, fun i j hi hj => hfeeds i j (feeds_of_imagesReady h hi hj)⟩
    simpa only [StepNode.mem_makes, not_or] using hexternal

/-- A step that imports what the images are made of, and one that makes them of it. -/
def sampleImages : List StepNode :=
  [{ name := "images", requires := [.internalImage "src"], provides := some .imagesReady },
    { name := "import", creates := [.internalImage "src"] }]

theorem runnable_of_validate_sample : ∃ p g g', PipelineDraft.sample.validate = .ok p ∧
    StepGraph.build (p.podSteps.map PodStep.node ++ sampleImages) = .ok g ∧
    .imagesReady ∉ g.external ∧
    StepGraph.build (p.podSteps.map PodStep.node) = .ok g' ∧ .imagesReady ∈ g'.external := by
  have h : PipelineDraft.sample.validate =
      .ok ⟨PodStep.sample.job, PipelineDraft.sample.steps⟩ := by
    decide
  have ho : Acyclic sampleImages :=
    acyclic_of_increasing (show ∀ i j, Feeds sampleImages i j → 1 - i.val < 1 - j.val by decide)
  obtain ⟨-, -, -, -, -, -, -, hbuild⟩ := runnable_of_validate h
  obtain ⟨g, hg, -, -, hmade, -⟩ := hbuild sampleImages _ ho (.refl _)
  obtain ⟨g', hg', -, -, halone, -⟩ := hbuild [] _ nofun (.of_eq (List.append_nil _).symm)
  exact ⟨_, g, g', h, hg, fun hmem => (hmade.mp hmem _ (.head _)).2 rfl, hg', halone.mpr nofun⟩

end Pipeline

end PodPipeline
