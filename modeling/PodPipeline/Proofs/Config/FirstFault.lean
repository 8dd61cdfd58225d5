import Mathlib.Data.List.Nodup
import PodPipeline.Proofs.Config.StepChecks
import PodPipeline.Proofs.Config.Validation

/-! A draft passes the checks exactly if it is well formed. Otherwise the fault that is reported is
the first one: in the whole, then in the steps in the order of their names, then among them. -/
namespace PodPipeline

def KeyMap.mapValues {α β : Type} (m : KeyMap α) (f : String → α → β) : KeyMap β where
  entries := m.entries.map fun e => (e.1, f e.1 e.2)
  sorted := List.pairwise_map.mpr m.sorted

/-- The pods of the entries differ from each other. -/
def DistinctPods (entries : List (String × StepConfig)) : Prop :=
  entries.Pairwise fun e f => e.2.podName ≠ f.2.podName

/-- The entry `second` is the first one whose pod an earlier entry creates, and `first` is that
entry. -/
def FirstShared (entries : List (String × StepConfig)) (first second : String × StepConfig) :
    Prop :=
  ∃ before after, entries = before ++ second :: after ∧ DistinctPods before ∧ first ∈ before ∧
    ∀ e ∈ before, e.2.podName = second.2.podName ↔ e = first

section

variable {l before after between : List (String × StepConfig)}
  {e first second first' second' : String × StepConfig}

theorem DistinctPods.ne_of_mem (h : DistinctPods (before ++ e :: after)) (hfirst : first ∈ before) :
    first.2.podName ≠ e.2.podName :=
  (List.pairwise_append.mp h).2.2 first hfirst e List.mem_cons_self

theorem DistinctPods.eq_of_podName (h : DistinctPods l) (he : e ∈ l) (hfirst : first ∈ l)
    (hpod : e.2.podName = first.2.podName) : e = first := by
  have hnodup : (l.map fun e => e.2.podName).Nodup := List.pairwise_map.mpr h
  exact List.inj_on_of_nodup_map hnodup he hfirst hpod

theorem FirstShared.not_distinctPods (h : FirstShared l first second) : ¬DistinctPods l := by
  obtain ⟨before, after, rfl, -, hfirst, hiff⟩ := h
  exact fun hl => hl.ne_of_mem hfirst ((hiff first hfirst).mpr rfl)

/-- An entry with a shared pod does not stand before another one that is the first. -/
private theorem FirstShared.between_eq_nil (hl : DistinctPods (before ++ between))
    (hfirst : first ∈ before) (hpod : first.2.podName = second.2.podName)
    (h : second :: after = between ++ l) : between = [] := by
  cases between with
  | nil => rfl
  | cons e between =>
    obtain ⟨rfl, -⟩ := List.cons.inj h
    exact absurd hpod (hl.ne_of_mem hfirst)

theorem FirstShared.unique (h : FirstShared l first second) (h' : FirstShared l first' second') :
    first = first' ∧ second = second' := by
  obtain ⟨before, after, rfl, hbefore, hfirst, hiff⟩ := h
  obtain ⟨before', after', hl, hbefore', hfirst', hiff'⟩ := h'
  have hpod := (hiff first hfirst).mpr rfl
  have hpod' := (hiff' first' hfirst').mpr rfl
  rcases List.append_eq_append_iff.mp hl with ⟨between, rfl, hsecond⟩ | ⟨between, rfl, hsecond⟩
  · obtain rfl := FirstShared.between_eq_nil hbefore' hfirst hpod hsecond
    obtain ⟨rfl, rfl⟩ := List.cons.inj hsecond
    rw [List.append_nil] at hiff'
    exact ⟨(hiff' first hfirst).mp hpod, rfl⟩
  · obtain rfl := FirstShared.between_eq_nil hbefore hfirst' hpod' hsecond
    obtain ⟨rfl, rfl⟩ := List.cons.inj hsecond
    rw [List.append_nil] at hiff
    exact ⟨((hiff first' hfirst').mp hpod').symm, rfl⟩

end

namespace PipelineDraft

variable {d : PipelineDraft} {f : ConfigFault}

structure WellFormed (d : PipelineDraft) : Prop where
  steps : d.steps.entries ≠ []
  «namespace» : Text.isBlank d.job.namespace = false
  each : ∀ e ∈ d.steps.entries, e.2.WellFormed e.1
  pods : DistinctPods d.steps.entries

/-- What is asked of a draft, in order, before its pods are compared. -/
def requirements (d : PipelineDraft) : List Requirement :=
  ⟨d.steps.entries ≠ [], .noSteps⟩ :: ⟨Text.isBlank d.job.namespace = false, .blankNamespace⟩ ::
    d.steps.entries.flatMap fun e => e.2.requirements e.1

/-- The checks that come before the pods are compared. -/
def inspect (d : PipelineDraft) : Check := do
  refuseIf d.steps.isEmpty .noSteps
  refuseIf (Text.isBlank d.job.namespace) .blankNamespace
  d.steps.entries.forM fun e => e.2.validate e.1

theorem decides_inspect (d : PipelineDraft) : Decides d.inspect d.requirements () :=
  (decides_refuseIf List.isEmpty_eq_false_iff _).bind ((decides_refuseIf Iff.rfl _).bind
    (.forM fun e _ => StepConfig.decides_validate e.1 e.2))

theorem validate_eq (d : PipelineDraft) : d.validate = d.inspect >>= fun _ =>
    validatePods [] d.steps.entries >>= fun _ => .ok ⟨d.job, d.steps⟩ := by
  simp only [validate, inspect, bind_assoc]
  rfl

/-- The entries of `earlier`, the last one first, have been compared already. -/
theorem validatePods_eq_error {earlier l : List (String × StepConfig)}
    (hearlier : DistinctPods earlier) :
    validatePods earlier.reverse l = .error f ↔ ∃ first second,
      FirstShared (earlier ++ l) first second ∧
        f = .sharedPod first.1 second.1 second.2.podName := by
  induction l generalizing earlier with
  | nil =>
    rw [List.append_nil]
    exact ⟨nofun, fun ⟨_, _, h, _⟩ => absurd hearlier h.not_distinctPods⟩
  | cons e l ih =>
    rw [validatePods]
    cases hfind : earlier.reverse.find? fun g => g.2.podName = e.2.podName with
    | some first =>
      have hfirst : first ∈ earlier := List.mem_reverse.mp (List.mem_of_find?_eq_some hfind)
      have hpod : first.2.podName = e.2.podName := by simpa using List.find?_some hfind
      have hshared : FirstShared (earlier ++ e :: l) first e :=
        ⟨earlier, l, rfl, hearlier, hfirst, fun g hg =>
          ⟨fun hgpod => hearlier.eq_of_podName hg hfirst (hgpod.trans hpod.symm),
            fun hg => hg ▸ hpod⟩⟩
      constructor
      · rintro ⟨⟩
        exact ⟨first, e, hshared, rfl⟩
      · rintro ⟨first', second', hshared', rfl⟩
        obtain ⟨rfl, rfl⟩ := hshared.unique hshared'
        rfl
    | none =>
      have hnew : ∀ g ∈ earlier, g.2.podName ≠ e.2.podName := by simpa using hfind
      have hearlier' : DistinctPods (earlier ++ [e]) :=
        List.pairwise_append.mpr ⟨hearlier, List.pairwise_singleton _ _, fun g hg h hh =>
          List.mem_singleton.mp hh ▸ hnew g hg⟩
      have := ih hearlier'
      rwa [List.reverse_append, List.reverse_singleton, List.singleton_append,
        List.append_assoc, List.singleton_append] at this

theorem validatePods_eq_ok_iff {l : List (String × StepConfig)} :
    validatePods [] l = .ok () ↔ DistinctPods l := by
  rw [validatePods_eq_ok]
  exact and_iff_right fun _ _ _ hf => absurd hf List.not_mem_nil

theorem wellFormed_iff :
    d.WellFormed ↔ (∀ r ∈ d.requirements, r.holds) ∧ DistinctPods d.steps.entries := by
  rw [requirements, List.forall_mem_cons, List.forall_mem_cons, List.forall_mem_flatMap]
  simp only [← StepConfig.wellFormed_iff]
  exact ⟨fun ⟨hsteps, hns, heach, hpods⟩ => ⟨⟨hsteps, hns, heach⟩, hpods⟩,
    fun ⟨⟨hsteps, hns, heach⟩, hpods⟩ => ⟨hsteps, hns, heach, hpods⟩⟩

theorem validate_eq_ok {p : Pipeline} :
    d.validate = .ok p ↔ d.WellFormed ∧ p = ⟨d.job, d.steps⟩ := by
  rw [validate_eq, d.decides_inspect.bind_eq_ok_iff, wellFormed_iff, ← validatePods_eq_ok_iff,
    and_assoc]
  cases validatePods [] d.steps.entries with
  | ok => simp [bind, Except.bind, eq_comm]
  | error g => simp [bind, Except.bind]

theorem validate_eq_error : d.validate = .error f ↔
    FirstUnmet d.requirements f ∨ (∀ r ∈ d.requirements, r.holds) ∧
      ∃ first second, FirstShared d.steps.entries first second ∧
        f = .sharedPod first.1 second.1 second.2.podName := by
  have hnone : DistinctPods [] := .nil
  have hpods := validatePods_eq_error (f := f) (l := d.steps.entries) hnone
  rw [List.reverse_nil, List.nil_append] at hpods
  rw [validate_eq, d.decides_inspect.bind_eq_error_iff, ← hpods]
  cases validatePods [] d.steps.entries with
  | ok => simp [bind, Except.bind]
  | error g => simp [bind, Except.bind]

/-! Empty paths in place of absent ones. -/

/-- The draft with the empty path in place of an absent one in the steps of some names. -/
def fillPaths (d : PipelineDraft) (filled : String → Bool) : PipelineDraft :=
  { d with steps := d.steps.mapValues fun name c => if filled name then c.fillPath else c }

theorem validatePods_map {g : String × StepConfig → String × StepConfig}
    (hg : ∀ e, (g e).1 = e.1 ∧ (g e).2.podName = e.2.podName)
    (seen l : List (String × StepConfig)) :
    validatePods (seen.map g) (l.map g) = validatePods seen l := by
  induction l generalizing seen with
  | nil => rfl
  | cons e l ih =>
    have hnext := ih (e :: seen)
    rw [List.map_cons] at hnext
    have hcomp : ((fun x : String × StepConfig => decide (x.2.podName = e.2.podName)) ∘ g) =
        fun x => decide (x.2.podName = e.2.podName) :=
      funext fun x => by rw [Function.comp_apply, (hg x).2]
    rw [List.map_cons, validatePods, validatePods, hnext, (hg e).1, (hg e).2, List.find?_map, hcomp]
    cases seen.find? fun x => x.2.podName = e.2.podName with
    | none => rfl
    | some x =>
      dsimp only [Option.map_some]
      rw [(hg x).1]

theorem inspect_fillPaths (d : PipelineDraft) (filled : String → Bool) :
    (d.fillPaths filled).inspect = d.inspect := by
  have hstep : ∀ e : String × StepConfig,
      (if filled e.1 then e.2.fillPath else e.2).validate e.1 = e.2.validate e.1 := by
    intro e
    split
    · exact StepConfig.validate_fillPath e.1 e.2
    · rfl
  have hsteps : ((d.fillPaths filled).steps.entries.forM fun e => e.2.validate e.1) =
      d.steps.entries.forM fun e => e.2.validate e.1 := by
    rw [List.forM_eq_forM, fillPaths, KeyMap.mapValues, List.forM_map]
    simp only [hstep]
  have hempty : (d.fillPaths filled).steps.isEmpty = d.steps.isEmpty := List.isEmpty_map
  rw [inspect, inspect, hsteps, hempty]
  rfl

theorem validate_map (d : PipelineDraft) : (d.validate.map fun _ => ()) =
    d.inspect >>= fun _ => validatePods [] d.steps.entries := by
  rw [validate_eq]
  cases d.inspect with
  | error f => rfl
  | ok =>
    cases validatePods [] d.steps.entries with
    | error f => rfl
    | ok => rfl

/-- An empty path counts as absent, in every step. -/
theorem validate_fillPaths (d : PipelineDraft) (filled : String → Bool) :
    ((d.fillPaths filled).validate.map fun _ => ()) = d.validate.map fun _ => () := by
  have hpods := validatePods_map
    (g := fun e => (e.1, if filled e.1 then e.2.fillPath else e.2)) (fun e => ⟨rfl, by
      dsimp only
      split <;> rfl⟩) [] d.steps.entries
  rw [validate_map, validate_map, inspect_fillPaths, ← hpods]
  rfl

/-- A draft passes the checks exactly if it is well formed. Otherwise the fault is that of the first
requirement that is not met; where all are met, it names the first step whose pod an earlier step
creates, and that step. Empty paths do not count. -/
theorem validate_reports_first_fault (d : PipelineDraft) :
    (∀ p, d.validate = .ok p ↔ d.WellFormed ∧ p = ⟨d.job, d.steps⟩) ∧
      (∀ f, d.validate = .error f ↔
        FirstUnmet d.requirements f ∨ (∀ r ∈ d.requirements, r.holds) ∧
          ∃ first second, FirstShared d.steps.entries first second ∧
            f = .sharedPod first.1 second.1 second.2.podName) ∧
      ∀ filled, ((d.fillPaths filled).validate.map fun _ => ()) = d.validate.map fun _ => () := by
  refine ⟨fun p => ?_, fun f => ?_, fun filled => ?_⟩
  · exact validate_eq_ok
  · exact validate_eq_error
  · exact d.validate_fillPaths filled

/-- Two steps share a pod, but the third one is at fault first: its commands are only a wide blank.
-/
example :
    let image : ImageReference := { name := "pipeline", tag := "src" }
    PipelineDraft.validate
      { job := { «namespace» := "ns" }
        steps := .ofList
          [("lint", { podName := "pod", image, commands := "make lint" }),
            ("unit", { podName := "pod", image, commands := "make test" }),
            ("vet", { podName := "vet", image, commands := "\u2003" })] } =
      .error (.blankCommands "vet") := by
  decide

end PipelineDraft

end PodPipeline
