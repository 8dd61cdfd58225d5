import Mathlib.Data.List.Perm.Basic
import PodPipeline.Pod.Verdict

/-! When a pod has finished, and how: a pod succeeds only if its status says so and none of its
containers says otherwise, and whatever fails comes with a reason. -/
namespace PodPipeline

theorem Phase.ofText_eq_iff {phase : Phase} (h : phase ≠ .unknown) {s : String} :
    ofText s = phase ↔ s = phase.text := by
  constructor
  · intro hs
    subst hs
    unfold ofText at h ⊢
    split_ifs <;> simp_all [text]
  · intro hs
    rw [hs]
    exact ofText_text phase

namespace ContainerStatus

def exitCode? (c : ContainerStatus) : Option Int := (c.state.bind (·.terminated)).map (·.exitCode)

def HasFailed (c : ContainerStatus) : Prop := ∃ code, c.exitCode? = some code ∧ code ≠ 0

/-- What is said of a container that has ended with a code other than zero. -/
def failure? (c : ContainerStatus) : Option String :=
  (c.exitCode?.filter (· ≠ 0)).map fun code =>
    "container " ++ c.name ++ " exited with code " ++ toString code

theorem failure?_eq_some_iff {c : ContainerStatus} {text : String} :
    c.failure? = some text ↔ ∃ code, c.exitCode? = some code ∧ code ≠ 0 ∧
      "container " ++ c.name ++ " exited with code " ++ toString code = text := by
  simp [failure?, Option.filter_eq_some_iff, and_assoc]

theorem hasFailed_iff {c : ContainerStatus} : c.HasFailed ↔ ∃ text, c.failure? = some text := by
  simp only [failure?_eq_some_iff]
  constructor
  · rintro ⟨code, hc, hne⟩
    exact ⟨_, code, hc, hne, rfl⟩
  · rintro ⟨_, code, hc, hne, -⟩
    exact ⟨code, hc, hne⟩

end ContainerStatus

namespace Pod

def statedPhase (p : Pod) : Option String := p.status.bind (·.phase)

def containers (p : Pod) : List ContainerStatus := (p.status.bind (·.containerStatuses)).getD []

/-- The status has no text in a field, or an empty one. -/
def Lacks (p : Pod) (field : PodStatus → Option String) : Prop :=
  ∀ text, p.status.bind field = some text → text = ""

/-- The reason that is given for the failure of a pod. -/
inductive FailsFor (p : Pod) : String → Prop where
  | message {m} (hm : p.status.bind (·.message) = some m) (hne : m ≠ "") : FailsFor p m
  | reason {r} (hm : p.Lacks (·.message)) (hr : p.status.bind (·.reason) = some r)
      (hne : r ≠ "") : FailsFor p r
  | containers (hm : p.Lacks (·.message)) (hr : p.Lacks (·.reason))
      (hc : ∃ c ∈ p.containers, c.HasFailed) :
      FailsFor p ("; ".intercalate (p.containers.filterMap (·.failure?)))
  /-- Nothing but the phase tells that the pod has failed. -/
  | unexplained (hm : p.Lacks (·.message)) (hr : p.Lacks (·.reason))
      (hc : ∀ c ∈ p.containers, ¬c.HasFailed) : FailsFor p ("pod " ++ p.name ++ " failed")

variable {p q : Pod} {field : PodStatus → Option String} {text r : String}

theorem phase_eq_iff {phase : Phase} (hp : phase ≠ .pending) (hu : phase ≠ .unknown) :
    p.phase = phase ↔ p.statedPhase = some phase.text := by
  unfold Pod.phase
  change (p.statedPhase.map Phase.ofText).getD .pending = phase ↔ _
  cases p.statedPhase with
  | none => simp [hp.symm]
  | some s => simp [Phase.ofText_eq_iff hu]

theorem statusText_eq_some_iff :
    p.statusText field = some text ↔ p.status.bind field = some text ∧ text ≠ "" := by
  simp [statusText, Option.filter_eq_some_iff]

theorem statusText_eq_none_iff : p.statusText field = none ↔ p.Lacks field := by
  simp [statusText, Lacks, Option.filter_eq_none_iff]

theorem failedContainers_eq (p : Pod) :
    p.failedContainers = p.containers.filterMap (·.failure?) := by
  unfold failedContainers terminatedContainers
  rw [List.filter_filterMap, List.map_filterMap]
  refine List.filterMap_congr fun c _ => ?_
  unfold ContainerStatus.failure? ContainerStatus.exitCode?
  cases c.state.bind (·.terminated) with
  | none => rfl
  | some t => by_cases h : t.exitCode = 0 <;> simp [Option.filter, h]

theorem failedContainers_eq_nil_iff :
    p.failedContainers = [] ↔ ∀ c ∈ p.containers, ¬c.HasFailed := by
  rw [failedContainers_eq, List.filterMap_eq_nil_iff]
  simp only [ContainerStatus.hasFailed_iff, Option.eq_none_iff_forall_ne_some, not_exists, ne_eq]

theorem failedContainers_ne_nil_iff :
    p.failedContainers ≠ [] ↔ ∃ c ∈ p.containers, c.HasFailed := by
  rw [ne_eq, failedContainers_eq_nil_iff]
  push Not
  rfl

/-- The texts of a status come before what its containers tell, and the message comes first. -/
theorem failsFor_iff : p.FailsFor r ↔ r = p.failureReason := by
  unfold failureReason
  constructor
  · intro h
    cases h with
    | message hm hne =>
      have hmessage : p.statusMessage = some r := statusText_eq_some_iff.mpr ⟨hm, hne⟩
      rw [hmessage]
    | reason hm hr hne =>
      have hmessage : p.statusMessage = none := statusText_eq_none_iff.mpr hm
      have hreason : p.statusReason = some r := statusText_eq_some_iff.mpr ⟨hr, hne⟩
      rw [hmessage, hreason]
    | containers hm hr hc =>
      have hmessage : p.statusMessage = none := statusText_eq_none_iff.mpr hm
      have hreason : p.statusReason = none := statusText_eq_none_iff.mpr hr
      have hfailed : p.failedContainers.isEmpty = false :=
        List.isEmpty_eq_false_iff.mpr (failedContainers_ne_nil_iff.mpr hc)
      simp only [hmessage, hreason, hfailed]
      rw [failedContainers_eq]
      rfl
    | unexplained hm hr hc =>
      have hmessage : p.statusMessage = none := statusText_eq_none_iff.mpr hm
      have hreason : p.statusReason = none := statusText_eq_none_iff.mpr hr
      have hnone : p.failedContainers = [] := failedContainers_eq_nil_iff.mpr hc
      simp only [hmessage, hreason, hnone, List.isEmpty_nil, if_true]
  · intro h
    rw [h]
    cases hm : p.statusMessage with
    | some m =>
      obtain ⟨hm, hne⟩ := statusText_eq_some_iff.mp hm
      exact .message hm hne
    | none =>
      have hlacks := statusText_eq_none_iff.mp hm
      cases hr : p.statusReason with
      | some r =>
        obtain ⟨hr, hne⟩ := statusText_eq_some_iff.mp hr
        exact .reason hlacks hr hne
      | none =>
        have hlacks' := statusText_eq_none_iff.mp hr
        by_cases hc : p.failedContainers = []
        · simp only [hc, List.isEmpty_nil, if_true]
          exact .unexplained hlacks hlacks' (failedContainers_eq_nil_iff.mp hc)
        · simp only [List.isEmpty_eq_false_iff.mpr hc]
          have hfails := FailsFor.containers hlacks hlacks' (failedContainers_ne_nil_iff.mp hc)
          rwa [← failedContainers_eq] at hfails

/-- A list of texts that all begin with the same words is not empty when it is written down. -/
theorem FailsFor.ne_empty (h : p.FailsFor r) : r ≠ "" := by
  cases h with
  | message hm hne => exact hne
  | reason hm hr hne => exact hne
  | containers hm hr hc =>
    obtain ⟨c, hc, hfailed⟩ := hc
    cases htexts : p.containers.filterMap (·.failure?) with
    | nil =>
      have hnone := List.filterMap_eq_nil_iff.mp htexts c hc
      obtain ⟨text, htext⟩ := ContainerStatus.hasFailed_iff.mp hfailed
      rw [hnone] at htext
      cases htext
    | cons text texts =>
      have hmem : text ∈ p.containers.filterMap (·.failure?) := by
        rw [htexts]
        exact List.mem_cons_self
      obtain ⟨c', -, htext⟩ := List.mem_filterMap.mp hmem
      obtain ⟨code, -, -, rfl⟩ := ContainerStatus.failure?_eq_some_iff.mp htext
      rw [String.append_assoc, String.append_assoc, String.intercalate_cons_append]
      simp
  | unexplained hm hr hc => simp

/-- A pod has failed when its phase or one of its containers says so. -/
def HasFailed (p : Pod) : Prop :=
  p.statedPhase = some "Failed" ∨ ∃ c ∈ p.containers, c.HasFailed

theorem hasFailed_iff : p.HasFailed ↔ p.phase = .failed ∨ p.failedContainers ≠ [] := by
  rw [phase_eq_iff (by decide) (by decide), failedContainers_ne_nil_iff]
  rfl

theorem verdict_eq_failed_iff :
    p.verdict = some (.failed r) ↔ p.HasFailed ∧ p.FailsFor r := by
  rw [hasFailed_iff, failsFor_iff]
  unfold verdict
  split_ifs with hf hs
  · simp only [Option.some.injEq, Outcome.failed.injEq, hf, true_and]
    exact eq_comm
  · simp [hf]
  · simp [hf]

theorem exists_failed_iff : (∃ r, p.verdict = some (.failed r)) ↔ p.HasFailed := by
  simp only [verdict_eq_failed_iff, failsFor_iff]
  simp

theorem not_hasFailed_iff :
    ¬p.HasFailed ↔ p.statedPhase ≠ some "Failed" ∧ ∀ c ∈ p.containers, ¬c.HasFailed := by
  unfold HasFailed
  push Not
  rfl

theorem verdict_eq_none_iff :
    p.verdict = none ↔ p.statedPhase ≠ some "Succeeded" ∧ ¬p.HasFailed := by
  have hphase : p.phase = .succeeded ↔ p.statedPhase = some "Succeeded" :=
    phase_eq_iff (by decide) (by decide)
  rw [ne_eq, ← hphase, hasFailed_iff]
  unfold verdict
  split_ifs with hf hs
  · simp [hf]
  · simp [hs]
  · exact iff_of_true rfl ⟨hs, hf⟩

theorem verdict_eq_succeeded_iff :
    p.verdict = some .succeeded ↔ p.statedPhase = some "Succeeded" ∧ ¬p.HasFailed := by
  constructor
  · intro hv
    have hf : ¬p.HasFailed := by
      rw [← exists_failed_iff, hv]
      simp
    refine ⟨?_, hf⟩
    by_contra hs
    have hnone := verdict_eq_none_iff.mpr ⟨hs, hf⟩
    rw [hv] at hnone
    cases hnone
  · rintro ⟨hs, hf⟩
    cases hv : p.verdict with
    | none => exact absurd hs (verdict_eq_none_iff.mp hv).1
    | some o =>
      cases o with
      | succeeded => rfl
      | failed r => exact absurd (exists_failed_iff.mp ⟨r, hv⟩) hf

theorem HasFailed.of_subset (h : p.HasFailed) (hp : q.statedPhase = p.statedPhase)
    (hs : p.containers ⊆ q.containers) : q.HasFailed := by
  rcases h with h | ⟨c, hc, hf⟩
  · exact .inl (hp.trans h)
  · exact .inr ⟨c, hs hc, hf⟩

/-- A pod has succeeded if its status says so and no container has ended with a code other than
zero. It has failed, for a reason that is never empty, if its status says so or some container has
ended with such a code, whatever the phase. Otherwise it has not finished. So a pod that has failed
is not saved by what is told of further containers, and their order does not matter. -/
theorem verdict_fails_closed (p : Pod) :
    (p.verdict = some .succeeded ↔
      p.statedPhase = some "Succeeded" ∧ ∀ c ∈ p.containers, ¬c.HasFailed) ∧
    ((∃ r, p.verdict = some (.failed r)) ↔
      p.statedPhase = some "Failed" ∨ ∃ c ∈ p.containers, c.HasFailed) ∧
    (p.verdict = none ↔ p.statedPhase ≠ some "Succeeded" ∧ p.statedPhase ≠ some "Failed" ∧
      ∀ c ∈ p.containers, ¬c.HasFailed) ∧
    (∀ r, p.verdict = some (.failed r) → p.FailsFor r ∧ r ≠ "") ∧
    ∀ q : Pod, q.statedPhase = p.statedPhase →
      (p.containers ⊆ q.containers → (∃ r, p.verdict = some (.failed r)) →
        ∃ r, q.verdict = some (.failed r)) ∧
      (p.containers.Perm q.containers →
        ((∃ r, p.verdict = some (.failed r)) ↔ ∃ r, q.verdict = some (.failed r))) := by
  refine ⟨?_, exists_failed_iff, ?_, fun r hr => ?_, fun q hq => ⟨?_, fun hperm => ?_⟩⟩
  · rw [verdict_eq_succeeded_iff, not_hasFailed_iff]
    constructor
    · rintro ⟨hs, -, hc⟩
      exact ⟨hs, hc⟩
    · rintro ⟨hs, hc⟩
      exact ⟨hs, by simp [hs], hc⟩
  · rw [verdict_eq_none_iff, not_hasFailed_iff]
  · have hfails := (verdict_eq_failed_iff.mp hr).2
    exact ⟨hfails, hfails.ne_empty⟩
  · intro hsub
    rw [exists_failed_iff, exists_failed_iff]
    exact fun h => h.of_subset hq hsub
  · rw [exists_failed_iff, exists_failed_iff]
    constructor
    · exact fun h => h.of_subset hq hperm.subset
    · exact fun h => h.of_subset hq.symm hperm.symm.subset

def sampleEnded (name : String) (exitCode : Int) : ContainerStatus :=
  { name, state := some { terminated := some { exitCode } } }

/-- The status says that the pod has succeeded, but two of its containers have not. -/
def sampleDisputed : Pod :=
  { metadata := { name := some "a" }
    status := some
      { phase := some "Succeeded", message := some ""
        containerStatuses := some
          [sampleEnded "test" 2, sampleEnded "sidecar" 0, { name := "idle" },
            sampleEnded "upload" (-1)] } }

/-- Nor does it help to tell of them later than of others. -/
theorem verdict_fails_closed_sample :
    let later := sampleEnded "late" 0 :: sampleDisputed.containers.reverse
    let q := sampleDisputed.withStatus
      (some { phase := some "Succeeded", containerStatuses := some later })
    sampleDisputed.verdict = some (.failed
        "container test exited with code 2; container upload exited with code -1") ∧
      sampleDisputed.containers ⊆ q.containers ∧ ∃ r, q.verdict = some (.failed r) := by
  intro later q
  obtain ⟨-, hfailed, -, hreason, hother⟩ := verdict_fails_closed sampleDisputed
  have hcontainer : ∃ c ∈ sampleDisputed.containers, c.HasFailed :=
    ⟨sampleEnded "test" 2, by decide, 2, rfl, by decide⟩
  have hsub : sampleDisputed.containers ⊆ q.containers := by
    intro c hc
    exact List.mem_cons_of_mem _ (List.mem_reverse.mpr hc)
  obtain ⟨r, hr⟩ := hfailed.mpr (.inr hcontainer)
  refine ⟨?_, hsub, (hother q rfl).1 hsub ⟨r, hr⟩⟩
  rw [hr, failsFor_iff.mp (hreason r hr).1]
  rfl

end Pod

end PodPipeline
