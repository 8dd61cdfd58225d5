import PodPipeline.Pod.Encode
import PodPipeline.Proofs.Json.Shape

/-! The JSON of a pod's parts shows the parts: every field stands under a key of its own, and it is
missing exactly if it is absent. -/
namespace PodPipeline

open Function Json

theorem KeyMap.toJson_injective : Injective KeyMap.toJson := Json.map_injective string_injective

@[simp] theorem KeyMap.exact_toJson (m : KeyMap String) : m.toJson.Exact := exact_map exact_string m

/-! No two fields of a part have one name. -/

theorem EnvVar.distinct_otherSlots : Shape.distinctSlots otherSlots := by decide

theorem SecretSource.distinct_otherSlots : Shape.distinctSlots otherSlots := by decide

theorem Volume.distinct_otherSlots : Shape.distinctSlots otherSlots := by decide

theorem VolumeMount.distinct_otherSlots : Shape.distinctSlots otherSlots := by decide

theorem Container.distinct_otherSlots : Shape.distinctSlots otherSlots := by decide

theorem PodSpec.distinct_otherSlots : Shape.distinctSlots otherSlots := by decide

theorem Metadata.distinct_otherSlots : Shape.distinctSlots otherSlots := by decide

theorem ResourceClaim.toJson_injective : Injective ResourceClaim.toJson := by
  rintro ⟨name⟩ ⟨name'⟩ h
  have hf key := congrArg (List.lookup key) (Json.object.inj h)
  obtain rfl : name = name' := by simpa using hf "name"
  rfl

@[simp] theorem ResourceClaim.exact_toJson (c : ResourceClaim) : c.toJson.Exact :=
  ExactFields.object (by simp)

theorem Resources.toJson_injective : Injective Resources.toJson := by
  rintro ⟨claims, limits, requests⟩ ⟨claims', limits', requests'⟩ h
  have hf key := congrArg (List.lookup key) (Json.object.inj h)
  obtain rfl := Option.map_injective (array_injective ResourceClaim.toJson_injective)
    (by simpa [List.lookup_append] using hf "claims")
  obtain rfl := Option.map_injective KeyMap.toJson_injective
    (by simpa [List.lookup_append] using hf "limits")
  obtain rfl := Option.map_injective KeyMap.toJson_injective
    (by simpa [List.lookup_append] using hf "requests")
  rfl

@[simp] theorem Resources.exact_toJson (r : Resources) : r.toJson.Exact :=
  ExactFields.object (by simp)

theorem EnvVar.toJson_injective : Injective EnvVar.toJson := by
  rintro ⟨name, value, others⟩ ⟨name', value', others'⟩ h
  obtain ⟨hothers, hf⟩ := Shape.among_inj distinct_otherSlots
    (by simp (disch := decide)) (by simp (disch := decide))
    fun key => congrArg (List.lookup key) (Json.object.inj h)
  obtain rfl : others = others' := hothers
  obtain rfl : name = name' := by simpa using hf "name"
  obtain rfl := map_string_injective (by simpa [List.lookup_cons] using hf "value")
  rfl

@[simp] theorem EnvVar.exact_toJson (e : EnvVar) : e.toJson.Exact :=
  ExactFields.object (Shape.exactFields_among (by simp) e.others)

theorem SecretSource.toJson_injective : Injective SecretSource.toJson := by
  rintro ⟨defaultMode, isOptional, secretName, others⟩
    ⟨defaultMode', isOptional', secretName', others'⟩ h
  obtain ⟨hothers, hf⟩ := Shape.among_inj distinct_otherSlots
    (by simp (disch := decide)) (by simp (disch := decide))
    fun key => congrArg (List.lookup key) (Json.object.inj h)
  obtain rfl : others = others' := hothers
  obtain rfl := Option.map_injective int_injective
    (by simpa [List.lookup_append] using hf "defaultMode")
  obtain rfl := Option.map_injective bool_injective
    (by simpa [List.lookup_append] using hf "optional")
  obtain rfl := map_string_injective (by simpa [List.lookup_append] using hf "secretName")
  rfl

@[simp] theorem SecretSource.exact_toJson (s : SecretSource) : s.toJson.Exact :=
  ExactFields.object (Shape.exactFields_among (by simp) s.others)

theorem Volume.toJson_injective : Injective Volume.toJson := by
  rintro ⟨name, secret, others⟩ ⟨name', secret', others'⟩ h
  obtain ⟨hothers, hf⟩ := Shape.among_inj distinct_otherSlots
    (by simp (disch := decide)) (by simp (disch := decide))
    fun key => congrArg (List.lookup key) (Json.object.inj h)
  obtain rfl : others = others' := hothers
  obtain rfl : name = name' := by simpa using hf "name"
  obtain rfl := Option.map_injective SecretSource.toJson_injective
    (by simpa [List.lookup_cons] using hf "secret")
  rfl

@[simp] theorem Volume.exact_toJson (v : Volume) : v.toJson.Exact :=
  ExactFields.object (Shape.exactFields_among (by simp) v.others)

theorem VolumeMount.toJson_injective : Injective VolumeMount.toJson := by
  rintro ⟨mountPath, name, readOnly, subPath, others⟩
    ⟨mountPath', name', readOnly', subPath', others'⟩ h
  obtain ⟨hothers, hf⟩ := Shape.among_inj distinct_otherSlots
    (by simp (disch := decide)) (by simp (disch := decide))
    fun key => congrArg (List.lookup key) (Json.object.inj h)
  obtain rfl : others = others' := hothers
  obtain rfl : mountPath = mountPath' := by simpa using hf "mountPath"
  obtain rfl : name = name' := by simpa [List.lookup_cons] using hf "name"
  obtain rfl := Option.map_injective bool_injective
    (by simpa [List.lookup_cons, List.lookup_append] using hf "readOnly")
  obtain rfl := map_string_injective
    (by simpa [List.lookup_cons, List.lookup_append] using hf "subPath")
  rfl

@[simp] theorem VolumeMount.exact_toJson (m : VolumeMount) : m.toJson.Exact :=
  ExactFields.object (Shape.exactFields_among (by simp) m.others)

/-- A container is known by its fields, also where another one stands among them. -/
theorem Container.eq_of_lookup {c d : Container}
    (h : ∀ key, c.toFields.lookup key = d.toFields.lookup key) : c = d := by
  obtain ⟨args, command, env, image, policy, name, resources, termination, mounts, dir, others⟩ := c
  obtain ⟨args', command', env', image', policy', name', resources', termination', mounts', dir',
    others'⟩ := d
  obtain ⟨hothers, hf⟩ := Shape.among_inj distinct_otherSlots
    (by simp (disch := decide)) (by simp (disch := decide)) h
  obtain rfl : others = others' := hothers
  obtain rfl := Option.map_injective strings_injective
    (by simpa [List.lookup_append, List.lookup_cons] using hf "args")
  obtain rfl := Option.map_injective strings_injective
    (by simpa [List.lookup_append, List.lookup_cons] using hf "command")
  obtain rfl := Option.map_injective (array_injective EnvVar.toJson_injective)
    (by simpa [List.lookup_append, List.lookup_cons] using hf "env")
  obtain rfl := map_string_injective
    (by simpa [List.lookup_append, List.lookup_cons] using hf "image")
  obtain rfl := map_string_injective
    (by simpa [List.lookup_append, List.lookup_cons] using hf "imagePullPolicy")
  obtain rfl : name = name' := by simpa [List.lookup_append, List.lookup_cons] using hf "name"
  obtain rfl := Option.map_injective Resources.toJson_injective
    (by simpa [List.lookup_append, List.lookup_cons] using hf "resources")
  obtain rfl := map_string_injective
    (by simpa [List.lookup_append, List.lookup_cons] using hf "terminationMessagePolicy")
  obtain rfl := Option.map_injective (array_injective VolumeMount.toJson_injective)
    (by simpa [List.lookup_append, List.lookup_cons] using hf "volumeMounts")
  obtain rfl := map_string_injective
    (by simpa [List.lookup_append, List.lookup_cons] using hf "workingDir")
  rfl

theorem Container.toJson_injective : Injective Container.toJson := fun _ _ h =>
  eq_of_lookup fun key => congrArg (List.lookup key) (Json.object.inj h)

theorem Container.exactFields_toFields (c : Container) : ExactFields c.toFields :=
  Shape.exactFields_among (by simp) c.others

@[simp] theorem Container.exact_toJson (c : Container) : c.toJson.Exact :=
  ExactFields.object c.exactFields_toFields

theorem EphemeralContainer.toJson_injective : Injective EphemeralContainer.toJson := by
  rintro ⟨container, target⟩ ⟨container', target'⟩ h
  have hlookup (c : Container) : c.toFields.lookup "targetContainerName" = none := by
    rw [Container.toFields, Shape.among, KeyMap.lookup_insertEntries,
      Shape.lookup_toFields (by decide)]
    simp [List.lookup_append, List.lookup_cons]
  obtain ⟨htarget, hcontainer⟩ := field?_inj (hlookup container) (hlookup container') fun key => by
    have hkey := congrArg (List.lookup key) (Json.object.inj h)
    rwa [KeyMap.lookup_insertEntries, KeyMap.lookup_insertEntries] at hkey
  obtain rfl := Container.eq_of_lookup hcontainer
  obtain rfl : target = target' := map_string_injective htarget
  rfl

@[simp] theorem EphemeralContainer.exact_toJson (c : EphemeralContainer) : c.toJson.Exact :=
  ExactFields.object (exactFields_insertEntries (by simp) c.container.exactFields_toFields)

theorem PodSpec.toJson_injective : Injective PodSpec.toJson := by
  rintro ⟨containers, ephemeral, inits, node, restart, account, grace, volumes, others⟩
    ⟨containers', ephemeral', inits', node', restart', account', grace', volumes', others'⟩ h
  obtain ⟨hothers, hf⟩ := Shape.among_inj distinct_otherSlots
    (by simp (disch := decide)) (by simp (disch := decide))
    fun key => congrArg (List.lookup key) (Json.object.inj h)
  obtain rfl : others = others' := hothers
  obtain rfl : containers = containers' :=
    array_injective Container.toJson_injective (by simpa using hf "containers")
  obtain rfl := Option.map_injective (array_injective EphemeralContainer.toJson_injective)
    (by simpa [List.lookup_append, List.lookup_cons] using hf "ephemeralContainers")
  obtain rfl := Option.map_injective (array_injective Container.toJson_injective)
    (by simpa [List.lookup_append, List.lookup_cons] using hf "initContainers")
  obtain rfl := map_string_injective
    (by simpa [List.lookup_append, List.lookup_cons] using hf "nodeName")
  obtain rfl := map_string_injective
    (by simpa [List.lookup_append, List.lookup_cons] using hf "restartPolicy")
  obtain rfl := map_string_injective
    (by simpa [List.lookup_append, List.lookup_cons] using hf "serviceAccountName")
  obtain rfl := Option.map_injective int_injective
    (by simpa [List.lookup_append, List.lookup_cons] using hf "terminationGracePeriodSeconds")
  obtain rfl := Option.map_injective (array_injective Volume.toJson_injective)
    (by simpa [List.lookup_append, List.lookup_cons] using hf "volumes")
  rfl

@[simp] theorem PodSpec.exact_toJson (s : PodSpec) : s.toJson.Exact :=
  ExactFields.object (Shape.exactFields_among (by simp) s.others)

theorem Running.toJson_injective : Injective Running.toJson := by
  rintro ⟨startedAt⟩ ⟨startedAt'⟩ h
  have hf key := congrArg (List.lookup key) (Json.object.inj h)
  obtain rfl := map_string_injective (by simpa using hf "startedAt")
  rfl

theorem Waiting.toJson_injective : Injective Waiting.toJson := by
  rintro ⟨message, reason⟩ ⟨message', reason'⟩ h
  have hf key := congrArg (List.lookup key) (Json.object.inj h)
  obtain rfl := map_string_injective (by simpa [List.lookup_append] using hf "message")
  obtain rfl := map_string_injective (by simpa [List.lookup_append] using hf "reason")
  rfl

theorem Terminated.toJson_injective : Injective Terminated.toJson := by
  rintro ⟨container, code, finished, message, reason, signal, started⟩
    ⟨container', code', finished', message', reason', signal', started'⟩ h
  have hf key := congrArg (List.lookup key) (Json.object.inj h)
  obtain rfl := map_string_injective
    (by simpa [List.lookup_append, List.lookup_cons] using hf "containerID")
  obtain rfl := int_injective
    (by simpa [List.lookup_append, List.lookup_cons] using hf "exitCode")
  obtain rfl := map_string_injective
    (by simpa [List.lookup_append, List.lookup_cons] using hf "finishedAt")
  obtain rfl := map_string_injective
    (by simpa [List.lookup_append, List.lookup_cons] using hf "message")
  obtain rfl := map_string_injective
    (by simpa [List.lookup_append, List.lookup_cons] using hf "reason")
  obtain rfl := Option.map_injective int_injective
    (by simpa [List.lookup_append, List.lookup_cons] using hf "signal")
  obtain rfl := map_string_injective
    (by simpa [List.lookup_append, List.lookup_cons] using hf "startedAt")
  rfl

theorem ContainerState.toJson_injective : Injective ContainerState.toJson := by
  rintro ⟨running, terminated, waiting⟩ ⟨running', terminated', waiting'⟩ h
  have hf key := congrArg (List.lookup key) (Json.object.inj h)
  obtain rfl := Option.map_injective Running.toJson_injective
    (by simpa [List.lookup_append] using hf "running")
  obtain rfl := Option.map_injective Terminated.toJson_injective
    (by simpa [List.lookup_append] using hf "terminated")
  obtain rfl := Option.map_injective Waiting.toJson_injective
    (by simpa [List.lookup_append] using hf "waiting")
  rfl

theorem ContainerStatus.toJson_injective : Injective ContainerStatus.toJson := by
  rintro ⟨allocated, container, image, imageID, last, name, ready, resources, restarts, started,
    state, mounts⟩ ⟨allocated', container', image', imageID', last', name', ready', resources',
    restarts', started', state', mounts'⟩ h
  have hf key := congrArg (List.lookup key) (Json.object.inj h)
  obtain rfl := Option.map_injective KeyMap.toJson_injective
    (by simpa [List.lookup_append, List.lookup_cons] using hf "allocatedResources")
  obtain rfl := map_string_injective
    (by simpa [List.lookup_append, List.lookup_cons] using hf "containerID")
  obtain rfl : image = image' := by simpa [List.lookup_append, List.lookup_cons] using hf "image"
  obtain rfl : imageID = imageID' := by
    simpa [List.lookup_append, List.lookup_cons] using hf "imageID"
  obtain rfl := Option.map_injective ContainerState.toJson_injective
    (by simpa [List.lookup_append, List.lookup_cons] using hf "lastState")
  obtain rfl : name = name' := by simpa [List.lookup_append, List.lookup_cons] using hf "name"
  obtain rfl : ready = ready' := by simpa [List.lookup_append, List.lookup_cons] using hf "ready"
  obtain rfl := Option.map_injective Resources.toJson_injective
    (by simpa [List.lookup_append, List.lookup_cons] using hf "resources")
  obtain rfl := int_injective
    (by simpa [List.lookup_append, List.lookup_cons] using hf "restartCount")
  obtain rfl := Option.map_injective bool_injective
    (by simpa [List.lookup_append, List.lookup_cons] using hf "started")
  obtain rfl := Option.map_injective ContainerState.toJson_injective
    (by simpa [List.lookup_append, List.lookup_cons] using hf "state")
  obtain rfl := Option.map_injective (Shape.listToJson_injective (s := .mountStatus) (by decide))
    (by simpa [List.lookup_append, List.lookup_cons] using hf "volumeMounts")
  rfl

theorem PodStatus.toJson_injective : Injective PodStatus.toJson := by
  rintro ⟨conditions, containers, ephemeral, host, hosts, inits, message, nominated, phase, ip, ips,
    qos, reason, resize, claims, start⟩
    ⟨conditions', containers', ephemeral', host', hosts', inits', message', nominated', phase', ip',
      ips', qos', reason', resize', claims', start'⟩ h
  have hf key := congrArg (List.lookup key) (Json.object.inj h)
  have hlist : Injective ContainerStatus.listToJson :=
    array_injective ContainerStatus.toJson_injective
  obtain rfl := Option.map_injective (Shape.listToJson_injective (s := .condition) (by decide))
    (by simpa [List.lookup_append] using hf "conditions")
  obtain rfl := Option.map_injective hlist
    (by simpa [List.lookup_append] using hf "containerStatuses")
  obtain rfl := Option.map_injective hlist
    (by simpa [List.lookup_append] using hf "ephemeralContainerStatuses")
  obtain rfl := map_string_injective (by simpa [List.lookup_append] using hf "hostIP")
  obtain rfl := Option.map_injective (Shape.listToJson_injective (s := .address) (by decide))
    (by simpa [List.lookup_append] using hf "hostIPs")
  obtain rfl := Option.map_injective hlist
    (by simpa [List.lookup_append] using hf "initContainerStatuses")
  obtain rfl := map_string_injective (by simpa [List.lookup_append] using hf "message")
  obtain rfl := map_string_injective (by simpa [List.lookup_append] using hf "nominatedNodeName")
  obtain rfl := map_string_injective (by simpa [List.lookup_append] using hf "phase")
  obtain rfl := map_string_injective (by simpa [List.lookup_append] using hf "podIP")
  obtain rfl := Option.map_injective (Shape.listToJson_injective (s := .address) (by decide))
    (by simpa [List.lookup_append] using hf "podIPs")
  obtain rfl := map_string_injective (by simpa [List.lookup_append] using hf "qosClass")
  obtain rfl := map_string_injective (by simpa [List.lookup_append] using hf "reason")
  obtain rfl := map_string_injective (by simpa [List.lookup_append] using hf "resize")
  obtain rfl := Option.map_injective (Shape.listToJson_injective (s := .claimStatus) (by decide))
    (by simpa [List.lookup_append] using hf "resourceClaimStatuses")
  obtain rfl := map_string_injective (by simpa [List.lookup_append] using hf "startTime")
  rfl

theorem Metadata.toJson_injective : Injective Metadata.toJson := by
  rintro ⟨annotations, labels, name, ns, version, uid, others⟩
    ⟨annotations', labels', name', ns', version', uid', others'⟩ h
  obtain ⟨hothers, hf⟩ := Shape.among_inj distinct_otherSlots
    (by simp (disch := decide)) (by simp (disch := decide))
    fun key => congrArg (List.lookup key) (Json.object.inj h)
  obtain rfl : others = others' := hothers
  obtain rfl := Option.map_injective KeyMap.toJson_injective
    (by simpa [List.lookup_append] using hf "annotations")
  obtain rfl := Option.map_injective KeyMap.toJson_injective
    (by simpa [List.lookup_append] using hf "labels")
  obtain rfl := map_string_injective (by simpa [List.lookup_append] using hf "name")
  obtain rfl := map_string_injective (by simpa [List.lookup_append] using hf "namespace")
  obtain rfl := map_string_injective (by simpa [List.lookup_append] using hf "resourceVersion")
  obtain rfl := map_string_injective (by simpa [List.lookup_append] using hf "uid")
  rfl

theorem Pod.toJson_injective : Injective Pod.toJson := by
  rintro ⟨metadata, spec, status⟩ ⟨metadata', spec', status'⟩ h
  have hf key := congrArg (List.lookup key) (Json.object.inj h)
  obtain rfl : metadata = metadata' := Metadata.toJson_injective
    (by simpa [List.lookup_append, List.lookup_cons] using hf "metadata")
  obtain rfl := Option.map_injective PodSpec.toJson_injective
    (by simpa [List.lookup_append, List.lookup_cons] using hf "spec")
  obtain rfl := Option.map_injective PodStatus.toJson_injective
    (by simpa [List.lookup_append, List.lookup_cons] using hf "status")
  rfl

end PodPipeline
