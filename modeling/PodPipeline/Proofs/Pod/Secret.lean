import Mathlib.Data.List.DropRight
import PodPipeline.Proofs.Pod.Drift

/-! The secret of a step in its pod: one volume and one mount that belong together, or none of
either. -/
namespace PodPipeline

/-- What stands last in a path, whatever slashes follow it; of a path of slashes alone it is a
slash. -/
structure IsLastSegment (s path : List Char) : Prop where
  root : (∀ c ∈ path, c = '/') → s = ['/']
  behind : (∃ c ∈ path, c ≠ '/') → s ≠ [] ∧ '/' ∉ s ∧ ∃ a z, path = a ++ s ++ z ∧
    (∀ c ∈ z, c = '/') ∧ (a = [] ∨ a.getLast? = some '/')

variable {path : String} {step : String} {c : StepConfig} {j : Job} {p : Pod}

theorem lastSegment_of_slashes (hne : path ≠ "") (h : ∀ c ∈ path.toList, c = '/') :
    lastSegment path = "/" := by
  have hnil : path.toList.reverse.dropWhile (· = '/') = [] :=
    List.dropWhile_eq_nil_iff.mpr (by simpa using h)
  rw [lastSegment, if_neg hne, hnil]

theorem toList_lastSegment (h : ∃ c ∈ path.toList, c ≠ '/') : (lastSegment path).toList =
    (path.toList.rdropWhile (· = '/')).rtakeWhile (· ≠ '/') := by
  have hne : path ≠ "" := by
    rintro rfl
    simp at h
  rw [lastSegment, if_neg hne, List.rtakeWhile, List.rdropWhile, List.reverse_reverse]
  cases hd : path.toList.reverse.dropWhile (· = '/') with
  | nil =>
    obtain ⟨x, hx, hslash⟩ := h
    have hall := List.dropWhile_eq_nil_iff.mp hd x (List.mem_reverse.mpr hx)
    exact absurd (of_decide_eq_true hall) hslash
  | cons x l => exact String.toList_ofList

theorem isLastSegment_lastSegment (hne : path ≠ "") :
    IsLastSegment (lastSegment path).toList path.toList where
  root h := by
    rw [lastSegment_of_slashes hne h]
    rfl
  behind h := by
    rw [toList_lastSegment h]
    generalize path.toList = l at h ⊢
    -- Without the slashes at its end the path ends in another character, so that there is a last
    -- segment; whatever stands before this ends in a slash.
    have htrimmed : l.rdropWhile (· = '/') ≠ [] := by
      rw [Ne, List.rdropWhile_eq_nil_iff]
      simpa using h
    have hlast := List.rdropWhile_last_not _ l htrimmed
    refine ⟨?_, ?_, (l.rdropWhile (· = '/')).rdropWhile (· ≠ '/'), l.rtakeWhile (· = '/'),
      ?_, ?_, ?_⟩
    · rw [Ne, List.rtakeWhile_eq_nil_iff]
      simpa [htrimmed] using hlast
    · intro hslash
      simpa using List.mem_rtakeWhile_imp hslash
    · rw [List.rdropWhile_append_rtakeWhile, List.rdropWhile_append_rtakeWhile]
    · intro c hc
      simpa using List.mem_rtakeWhile_imp hc
    · refine or_iff_not_imp_left.mpr fun hbefore => ?_
      have hslash := List.rdropWhile_last_not _ _ hbefore
      rw [List.getLast?_eq_some_getLast hbefore]
      simpa using hslash

example : lastSegment "/geheim//schlüssel//" = "schlüssel" := by decide

theorem IsLastSegment.eq_slash_or_isSegment {s path : List Char} (h : IsLastSegment s path) :
    s = ['/'] ∨ IsSegment s path := by
  by_cases hpath : ∀ c ∈ path, c = '/'
  · exact .inl (h.root hpath)
  · obtain ⟨-, hs, a, z, rfl, hz, ha⟩ := h.behind (by simpa using hpath)
    refine .inr ⟨hs, a, z, rfl, ha, ?_⟩
    cases z with
    | nil => exact .inl rfl
    | cons x z => exact .inr (congrArg some (hz x List.mem_cons_self))

namespace StepConfig

theorem mountPath_of_some (h : c.secretMountPath = some path) (hne : path ≠ "") :
    c.mountPath = path := by
  rw [mountPath, secretMountPath?_eq_some.mpr ⟨h, hne⟩, Option.getD_some]

theorem mountPath_of_unset (h : c.secretMountPath = none ∨ c.secretMountPath = some "") :
    c.mountPath = defaultSecretMountPath := by
  rw [mountPath, secretMountPath?, nonEmpty_eq_none_iff.mpr h, Option.getD_none]

theorem mountPath_ne_empty (c : StepConfig) : c.mountPath ≠ "" := by
  rw [mountPath]
  cases h : c.secretMountPath? with
  | none => decide
  | some path => exact (secretMountPath?_eq_some.mp h).2

/-- The place of the secret is well-formed, also where the checks have none to look at. -/
theorem mountPath_of_validate (h : c.validate step = .ok ()) :
    c.mountPath.toList.head? = some '/' ∧
      ∀ s, IsSegment s c.mountPath.toList → s ≠ ['.'] ∧ s ≠ ['.', '.'] := by
  have hc := validate_eq_ok.mp h
  rw [mountPath]
  cases hpath : c.secretMountPath? with
  | none =>
    simp only [← mem_pathSegments]
    decide
  | some path =>
    obtain ⟨hsome, hne⟩ := secretMountPath?_eq_some.mp hpath
    exact ⟨hc.absolute path hsome hne, hc.noDots path hsome hne⟩

/-- The volume and the mount of the secret called `secret`, which belong together. -/
structure ShowsSecret (c : StepConfig) (secret : String) (volume : Volume) (mount : VolumeMount) :
    Prop where
  volume_name : volume.name = secret
  source : ∃ src, volume.secret = some src ∧ src.secretName = some secret
  mount_name : mount.name = secret
  readOnly : mount.readOnly = some true
  configured : ∀ path, c.secretMountPath = some path → path ≠ "" → mount.mountPath = path
  unset : c.secretMountPath = none ∨ c.secretMountPath = some "" →
    mount.mountPath = defaultSecretMountPath
  subPath : ∃ sub, mount.subPath = some sub ∧
    IsLastSegment sub.toList mount.mountPath.toList ∧
    ∀ step, c.validate step = .ok () →
      mount.mountPath.toList.head? = some '/' ∧ sub ≠ "." ∧ sub ≠ ".."

variable {secret : String}

theorem secret_of_some (h : c.secretName = some secret) (hne : secret ≠ "") :
    ∃ volume mount, c.secretVolumes = [volume] ∧ c.secretMounts = [mount] ∧
      c.ShowsSecret secret volume mount := by
  have hsecret : c.secretName? = some secret := nonEmpty_eq_some_iff.mpr ⟨h, hne⟩
  have hlast := isLastSegment_lastSegment c.mountPath_ne_empty
  rw [secretVolumes, secretMounts, hsecret]
  refine ⟨_, _, rfl, rfl, rfl, ⟨_, rfl, rfl⟩, rfl, rfl, fun path => mountPath_of_some,
    mountPath_of_unset, _, rfl, hlast, fun step hv => ?_⟩
  obtain ⟨habsolute, hdots⟩ := mountPath_of_validate hv
  refine ⟨habsolute, ?_⟩
  rw [Ne, Ne, ← String.toList_inj, ← String.toList_inj]
  obtain hroot | hsegment := hlast.eq_slash_or_isSegment
  · rw [hroot]
    decide
  · exact hdots _ hsegment

theorem secretVolumes_eq_nil_iff :
    c.secretVolumes = [] ↔ c.secretName = none ∨ c.secretName = some "" := by
  rw [secretVolumes, List.map_eq_nil_iff, Option.toList_eq_nil_iff, secretName?,
    nonEmpty_eq_none_iff]

theorem secretMounts_eq_nil_iff :
    c.secretMounts = [] ↔ c.secretName = none ∨ c.secretName = some "" := by
  rw [secretMounts, List.map_eq_nil_iff, Option.toList_eq_nil_iff, secretName?,
    nonEmpty_eq_none_iff]

end StepConfig

/-- A pod lists the volumes and the mounts of its secret, each of them empty exactly if there is no
secret, and otherwise one of each, which belong together. -/
theorem secret_shown_by_pod (hp : buildPod step c j = .ok p) :
    ∃ spec container volumes mounts, p.spec = some spec ∧ spec.containers = [container] ∧
      spec.volumes = some volumes ∧ container.volumeMounts = some mounts ∧
      (volumes = [] ↔ c.secretName = none ∨ c.secretName = some "") ∧
      (mounts = [] ↔ c.secretName = none ∨ c.secretName = some "") ∧
      ∀ secret, c.secretName = some secret → secret ≠ "" → ∃ volume mount,
        volumes = [volume] ∧ mounts = [mount] ∧ c.ShowsSecret secret volume mount := by
  rw [(buildPod_eq_ok_iff.mp hp).2]
  exact ⟨_, _, _, _, rfl, rfl, rfl, rfl, StepConfig.secretVolumes_eq_nil_iff,
    StepConfig.secretMounts_eq_nil_iff, fun secret => StepConfig.secret_of_some⟩

/-- A step with a secret below a directory that is not ASCII, with more slashes than it needs. -/
def StepConfig.sampleSecret : StepConfig where
  podName := "unit-pod"
  image := { name := "pipeline", tag := "src" }
  commands := "make test"
  secretName := some "token"
  secretMountPath := some "/geheim//schlüssel//"

theorem secret_shown_by_pod_nested : ∃ p volume mount,
    buildPod "unit" .sampleSecret {} = .ok p ∧
      p.spec.bind (·.volumes) = some [volume] ∧
      StepConfig.sampleSecret.ShowsSecret "token" volume mount ∧
      mount.mountPath = "/geheim//schlüssel//" ∧ ∃ sub, mount.subPath = some sub ∧
      IsLastSegment sub.toList mount.mountPath.toList ∧ sub ≠ "." ∧ sub ≠ ".." := by
  have hp : buildPod "unit" .sampleSecret {} = .ok (assembledPod "unit" .sampleSecret {}) :=
    buildPod_eq_ok_iff.mpr ⟨by decide, rfl⟩
  obtain ⟨spec, container, volumes, mounts, hspec, -, hvolumes, -, -, -, hsecret⟩ :=
    secret_shown_by_pod hp
  obtain ⟨volume, mount, rfl, rfl, h⟩ := hsecret "token" rfl (by decide)
  obtain ⟨sub, hsub, hlast, hdots⟩ := h.subPath
  have hvalid : StepConfig.sampleSecret.validate "unit" = .ok () := rfl
  refine ⟨_, volume, mount, hp, ?_, h, h.configured _ rfl (by decide), sub, hsub, hlast,
    (hdots "unit" hvalid).2⟩
  rw [hspec, Option.bind_some, hvolumes]

end PodPipeline
