import PodPipeline.Pod.Build
import PodPipeline.Proofs.Config.StepChecks
import PodPipeline.Proofs.Pod.Fingerprint

/-! A pod shows all that its step was built from: every effective part of the configuration, the
step's name and the job. Two built pods differ in their fingerprints exactly if one of these does,
but for collisions of the hash. -/
namespace PodPipeline

/-- The effective inputs of two steps are the same. A text that is empty counts as absent, and where
the secret is mounted counts if there is one. -/
structure SameInputs (step : String) (c : StepConfig) (j : Job) (step' : String) (c' : StepConfig)
    (j' : Job) : Prop where
  step : step = step'
  podName : c.podName = c'.podName
  image : c.image.pullSpec = c'.image.pullSpec
  commands : c.commands = c'.commands
  artifactDir : c.artifactDir? = c'.artifactDir?
  serviceAccountName : c.serviceAccountName? = c'.serviceAccountName?
  secretName : c.secretName? = c'.secretName?
  mountPath : c.secretName?.isSome → c.mountPath = c'.mountPath
  resources : c.resources = c'.resources
  job : j.job = j'.job
  buildId : j.buildId = j'.buildId
  prowJobId : j.prowJobId = j'.prowJobId
  «namespace» : j.namespace = j'.namespace
  rawSpec : j.rawSpec = j'.rawSpec

/-- What is replaced in a configuration without any effect: an absent text by the empty one, or
where a secret is mounted if there is none. -/
inductive StepConfig.Immaterial (c : StepConfig) : StepConfig → Prop where
  | artifactDir (h : c.artifactDir = none) : c.Immaterial { c with artifactDir := some "" }
  | serviceAccountName (h : c.serviceAccountName = none) :
    c.Immaterial { c with serviceAccountName := some "" }
  | secretName (h : c.secretName = none) : c.Immaterial { c with secretName := some "" }
  | secretMountPath (h : c.secretMountPath = none) :
    c.Immaterial { c with secretMountPath := some "" }
  | mountPath (h : c.secretName? = none) (path : Option String) :
    c.Immaterial { c with secretMountPath := path }

variable {step step' : String} {c c' : StepConfig} {j j' : Job} {p p' : Pod}

/-- The pod of a step whose names and image are not blank. -/
def assembledPod (step : String) (c : StepConfig) (j : Job) : Pod where
  metadata :=
    { name := some c.podName
      «namespace» := some j.namespace
      labels := some j.podLabels
      annotations := some (j.podAnnotations step) }
  spec := some
    { containers := [c.container step]
      volumes := some c.secretVolumes
      restartPolicy := some "Never"
      serviceAccountName := c.serviceAccountName? }

/-- What is asked of a step when its pod is built, in order. -/
def StepConfig.podRequirements (step : String) (c : StepConfig) : List Requirement :=
  c.nameRequirements step ++ [c.imageRequirement step]

theorem decides_buildPod (step : String) (c : StepConfig) (j : Job) :
    Decides (buildPod step c j) (c.podRequirements step) (assembledPod step c j) :=
  (decides_refuseIf Iff.rfl _).bind ((decides_refuseIf Iff.rfl _).bind
    ((c.decides_validateImage step).bind (decides_ok _)))

theorem StepConfig.forall_mem_podRequirements : (∀ r ∈ c.podRequirements step, r.holds) ↔
    Text.isBlank step = false ∧ Text.isBlank c.podName = false ∧
      Text.isBlank c.image.name = false ∧ Text.isBlank c.image.tag = false := by
  rw [podRequirements, List.forall_mem_append, forall_mem_nameRequirements,
    List.forall_mem_singleton, and_assoc]
  rfl

theorem buildPod_eq_ok_iff : buildPod step c j = .ok p ↔
    (Text.isBlank step = false ∧ Text.isBlank c.podName = false ∧
      Text.isBlank c.image.name = false ∧ Text.isBlank c.image.tag = false) ∧
    p = assembledPod step c j := by
  rw [(decides_buildPod step c j).ok_iff, StepConfig.forall_mem_podRequirements]

/-! The labels and annotations of a pod, sorted. -/

theorem podLabels_entries (j : Job) : j.podLabels.entries =
    [("build-id", j.buildId), ("created-by-ci", "true"), ("job", j.job),
      ("persists-between-builds", "false"), ("prow.k8s.io/id", j.prowJobId)] := by
  simp (disch := decide) only [Job.podLabels, KeyMap.ofList, List.foldl, KeyMap.insert,
    KeyMap.empty, KeyMap.insertEntry_nil, KeyMap.insertEntry_of_gt]

theorem podAnnotations_entries (j : Job) (step : String) : (j.podAnnotations step).entries =
    [("ci-operator.openshift.io/container-sub-tests", step),
      ("ci.openshift.io/job-spec", j.rawSpec)] := by
  simp (disch := decide) only [Job.podAnnotations, KeyMap.ofList, List.foldl, KeyMap.insert,
    KeyMap.empty, KeyMap.insertEntry_nil, KeyMap.insertEntry_of_lt]

theorem podLabels_eq_iff : j.podLabels = j'.podLabels ↔
    j.buildId = j'.buildId ∧ j.job = j'.job ∧ j.prowJobId = j'.prowJobId := by
  rw [KeyMap.ext_iff, podLabels_entries, podLabels_entries]
  simp

theorem podAnnotations_eq_iff : j.podAnnotations step = j'.podAnnotations step' ↔
    step = step' ∧ j.rawSpec = j'.rawSpec := by
  rw [KeyMap.ext_iff, podAnnotations_entries, podAnnotations_entries]
  simp

theorem shellCommand_inj {a b : String} : shellCommand a = shellCommand b ↔ a = b := by
  simp [shellCommand]

namespace StepConfig

theorem containerEnv_eq_iff :
    c.containerEnv = c'.containerEnv ↔ c.artifactDir? = c'.artifactDir? := by
  have hf : Function.Injective fun dir : String =>
      [({ name := "ARTIFACT_DIR", value := some dir } : EnvVar)] := by
    intro a b h
    simpa using h
  exact (Option.map_injective hf).eq_iff

theorem secretVolumes_eq_iff :
    c.secretVolumes = c'.secretVolumes ↔ c.secretName? = c'.secretName? := by
  unfold secretVolumes
  cases c.secretName? <;> cases c'.secretName? <;> simp

/-- The mount shows the secret, and its path if there is a secret. -/
theorem secretMounts_eq_iff : c.secretMounts = c'.secretMounts ↔
    c.secretName? = c'.secretName? ∧ (c.secretName?.isSome → c.mountPath = c'.mountPath) := by
  unfold secretMounts
  cases c.secretName? with
  | none => cases c'.secretName? <;> simp
  | some a =>
    cases c'.secretName? with
    | none => simp
    | some b =>
      constructor
      · intro h
        simp only [Option.toList_some, List.map_cons, List.map_nil, List.cons.injEq,
          VolumeMount.mk.injEq] at h
        obtain ⟨⟨hpath, rfl, -, -⟩, -⟩ := h
        exact ⟨rfl, fun _ => hpath⟩
      · rintro ⟨hab, hpath⟩
        obtain rfl := Option.some.inj hab
        rw [hpath rfl]

theorem container_eq_iff : c.container step = c'.container step' ↔
    step = step' ∧ c.image.pullSpec = c'.image.pullSpec ∧ c.commands = c'.commands ∧
      c.artifactDir? = c'.artifactDir? ∧ c.resources = c'.resources ∧
      c.secretMounts = c'.secretMounts := by
  rw [← containerEnv_eq_iff, ← shellCommand_inj (a := c.commands)]
  constructor
  · intro h
    simp only [container, Container.mk.injEq, Option.some.injEq] at h
    obtain ⟨-, hcommand, henv, himage, -, hname, hresources, -, hmounts, -⟩ := h
    exact ⟨hname, himage, hcommand, henv, hresources, hmounts⟩
  · rintro ⟨hname, himage, hcommand, henv, hresources, hmounts⟩
    rw [container, container, hname, himage, hcommand, henv, hresources, hmounts]

end StepConfig

/-- The owned parts of built pods show the effective inputs. -/
theorem sameOwned_iff_sameInputs (hp : buildPod step c j = .ok p)
    (hp' : buildPod step' c' j' = .ok p') :
    p.SameOwned p' ↔ SameInputs step c j step' c' j' := by
  rw [(buildPod_eq_ok_iff.mp hp).2, (buildPod_eq_ok_iff.mp hp').2]
  constructor
  · rintro ⟨hname, hnamespace, hlabels, hannotations, hspec⟩
    obtain ⟨hbuild, hjob, hprow⟩ := podLabels_eq_iff.mp (Option.some.inj hlabels)
    obtain ⟨hstep, hraw⟩ := podAnnotations_eq_iff.mp (Option.some.inj hannotations)
    simp only [assembledPod, Option.some.injEq, PodSpec.mk.injEq, List.cons.injEq, and_true,
      true_and] at hspec
    obtain ⟨hcontainer, haccount, -⟩ := hspec
    obtain ⟨-, himage, hcommands, hdir, hresources, hmounts⟩ :=
      StepConfig.container_eq_iff.mp hcontainer
    obtain ⟨hsecret, hpath⟩ := StepConfig.secretMounts_eq_iff.mp hmounts
    exact ⟨hstep, Option.some.inj hname, himage, hcommands, hdir, haccount, hsecret, hpath,
      hresources, hjob, hbuild, hprow, Option.some.inj hnamespace, hraw⟩
  · intro h
    have hlabels := podLabels_eq_iff.mpr ⟨h.buildId, h.job, h.prowJobId⟩
    have hannotations := podAnnotations_eq_iff.mpr ⟨h.step, h.rawSpec⟩
    have hmounts := StepConfig.secretMounts_eq_iff.mpr ⟨h.secretName, h.mountPath⟩
    have hvolumes := StepConfig.secretVolumes_eq_iff.mpr h.secretName
    have hcontainer := StepConfig.container_eq_iff.mpr
      ⟨h.step, h.image, h.commands, h.artifactDir, h.resources, hmounts⟩
    rw [assembledPod, assembledPod, hlabels, hannotations, hvolumes, hcontainer, h.podName,
      h.namespace, h.serviceAccountName]
    exact ⟨rfl, rfl, rfl, rfl, rfl⟩

theorem nonEmpty_empty : nonEmpty (some "") = nonEmpty none := rfl

/-- What is immaterial changes no effective input. -/
theorem StepConfig.Immaterial.sameInputs (h : c.Immaterial c') (step : String) (j : Job) :
    SameInputs step c j step c' j := by
  cases h with
  | artifactDir h =>
    have hdir : c.artifactDir? = nonEmpty (some "") := by rw [artifactDir?, h, nonEmpty_empty]
    exact ⟨rfl, rfl, rfl, rfl, hdir, rfl, rfl, fun _ => rfl, rfl, rfl, rfl, rfl, rfl, rfl⟩
  | serviceAccountName h =>
    have haccount : c.serviceAccountName? = nonEmpty (some "") := by
      rw [serviceAccountName?, h, nonEmpty_empty]
    exact ⟨rfl, rfl, rfl, rfl, rfl, haccount, rfl, fun _ => rfl, rfl, rfl, rfl, rfl, rfl, rfl⟩
  | secretName h =>
    have hsecret : c.secretName? = nonEmpty (some "") := by
      rw [secretName?, h, nonEmpty_empty]
    exact ⟨rfl, rfl, rfl, rfl, rfl, rfl, hsecret, fun _ => rfl, rfl, rfl, rfl, rfl, rfl, rfl⟩
  | secretMountPath h =>
    have hpath : c.mountPath = { c with secretMountPath := some "" }.mountPath := by
      rw [StepConfig.mountPath, StepConfig.mountPath, secretMountPath?, secretMountPath?, h,
        nonEmpty_empty]
    exact ⟨rfl, rfl, rfl, rfl, rfl, rfl, rfl, fun _ => hpath, rfl, rfl, rfl, rfl, rfl, rfl⟩
  | mountPath h path =>
    have hunset : c.secretName?.isSome → c.mountPath = { c with secretMountPath := path }.mountPath
        := fun hs => by simp [h] at hs
    exact ⟨rfl, rfl, rfl, rfl, rfl, rfl, rfl, hunset, rfl, rfl, rfl, rfl, rfl, rfl⟩

/-- What is immaterial prevents no pod. -/
theorem StepConfig.Immaterial.exists_buildPod (h : c.Immaterial c')
    (hp : buildPod step c j = .ok p) : ∃ p', buildPod step c' j = .ok p' := by
  have hnames := (buildPod_eq_ok_iff.mp hp).1
  refine ⟨assembledPod step c' j, buildPod_eq_ok_iff.mpr ⟨?_, rfl⟩⟩
  cases h <;> exact hnames

/-- Two built pods are told apart exactly if an effective input differs, but for collisions of the
hash. What is immaterial never shows. -/
theorem drift_iff_inputs_differ (hp : buildPod step c j = .ok p)
    (hp' : buildPod step' c' j' = .ok p') :
    (¬Blake3.Collide p.ownedBytes p'.ownedBytes →
        (p.sameSpec p' ↔ SameInputs step c j step' c' j')) ∧
      ∀ c₂, c.Immaterial c₂ → ∃ p₂, buildPod step c₂ j = .ok p₂ ∧ p.sameSpec p₂ := by
  refine ⟨fun hc => ?_, fun c₂ hc₂ => ?_⟩
  · exact (Pod.sameSpec_iff hc).trans (sameOwned_iff_sameInputs hp hp')
  · obtain ⟨p₂, hp₂⟩ := hc₂.exists_buildPod hp
    have howned := (sameOwned_iff_sameInputs hp hp₂).mpr (hc₂.sameInputs step j)
    exact ⟨p₂, hp₂, howned.sameSpec⟩

def Job.sample : Job := { «namespace» := "ns" }

/-- A step without a secret, but with a place for it. -/
def StepConfig.samplePlain : StepConfig where
  podName := "unit-pod"
  image := { name := "pipeline", tag := "src" }
  commands := "make test"
  secretMountPath := some "/etc/token"

/-- The same, written with empty texts and without the place. -/
def StepConfig.sampleBlank : StepConfig :=
  { samplePlain with artifactDir := some "", secretName := some "", secretMountPath := none }

def StepConfig.sampleOther : StepConfig := { samplePlain with commands := "make lint" }

theorem StepConfig.not_collide_sample :
    ¬Blake3.Collide (assembledPod "unit" samplePlain .sample).ownedBytes
      (assembledPod "unit" sampleOther .sample).ownedBytes :=
  Pod.not_collide (by decide +kernel)

theorem drift_iff_inputs_differ_sample : ∃ p p' q,
    buildPod "unit" .samplePlain .sample = .ok p ∧ buildPod "unit" .sampleBlank .sample = .ok p' ∧
      ¬Blake3.Collide p.ownedBytes p'.ownedBytes ∧ p.sameSpec p' = true ∧
      buildPod "unit" .sampleOther .sample = .ok q ∧
      ¬Blake3.Collide p.ownedBytes q.ownedBytes ∧ p.sameSpec q = false ∧
      ∃ p₂, buildPod "unit" { StepConfig.samplePlain with serviceAccountName := some "" }
        .sample = .ok p₂ ∧ p.sameSpec p₂ = true := by
  have hp : buildPod "unit" .samplePlain .sample = .ok (assembledPod "unit" .samplePlain .sample) :=
    buildPod_eq_ok_iff.mpr ⟨by decide, rfl⟩
  have hp' : buildPod "unit" .sampleBlank .sample =
      .ok (assembledPod "unit" .sampleBlank .sample) := buildPod_eq_ok_iff.mpr ⟨by decide, rfl⟩
  have hq : buildPod "unit" .sampleOther .sample = .ok (assembledPod "unit" .sampleOther .sample) :=
    buildPod_eq_ok_iff.mpr ⟨by decide, rfl⟩
  have hinputs : SameInputs "unit" .samplePlain .sample "unit" .sampleBlank .sample := by
    constructor <;> decide
  have howned := (sameOwned_iff_sameInputs hp hp').mpr hinputs
  have hc := fun h : Blake3.Collide _ _ => h.1 (Pod.ownedBytes_eq_iff.mpr howned)
  obtain ⟨hiff, hsame⟩ := drift_iff_inputs_differ hp hp'
  have hother := (drift_iff_inputs_differ hp hq).1 StepConfig.not_collide_sample
  have hdrift : ¬(assembledPod "unit" .samplePlain .sample).sameSpec
      (assembledPod "unit" .sampleOther .sample) := fun h => by
    have hcommands := (hother.mp h).commands
    revert hcommands
    decide
  exact ⟨_, _, _, hp, hp', hc, (hiff hc).mpr hinputs, hq, StepConfig.not_collide_sample,
    Bool.eq_false_iff.mpr hdrift, hsame _ (.serviceAccountName rfl)⟩

end PodPipeline
