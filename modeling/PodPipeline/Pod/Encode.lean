import PodPipeline.Json.Basic
import PodPipeline.Pod.Basic

/-! The JSON of a pod. The fields have a fixed order, those that every pod has are always written,
and the others when they are there. -/
namespace PodPipeline

def KeyMap.toJson (m : KeyMap String) : Json :=
  .object (m.entries.map fun e => (e.1, .string e.2))

def ResourceClaim.toJson (c : ResourceClaim) : Json := .object [("name", .string c.name)]

def Resources.toJson (r : Resources) : Json :=
  .object (Json.field? "claims" (r.claims.map fun l => .array (l.map ResourceClaim.toJson))
    ++ Json.field? "limits" (r.limits.map KeyMap.toJson)
    ++ Json.field? "requests" (r.requests.map KeyMap.toJson))

def EnvVar.toJson (e : EnvVar) : Json :=
  .object (Shape.among EnvVar.otherSlots e.others
    (("name", .string e.name) :: Json.text? "value" e.value))

def SecretSource.toJson (s : SecretSource) : Json :=
  .object (Shape.among SecretSource.otherSlots s.others
    (Json.field? "defaultMode" (s.defaultMode.map Json.int)
      ++ Json.field? "optional" (s.isOptional.map .bool)
      ++ Json.text? "secretName" s.secretName))

def Volume.toJson (v : Volume) : Json :=
  .object (Shape.among Volume.otherSlots v.others
    (("name", .string v.name) :: Json.field? "secret" (v.secret.map SecretSource.toJson)))

def VolumeMount.toJson (m : VolumeMount) : Json :=
  .object (Shape.among VolumeMount.otherSlots m.others
    (("mountPath", .string m.mountPath) :: ("name", .string m.name)
      :: (Json.field? "readOnly" (m.readOnly.map .bool) ++ Json.text? "subPath" m.subPath)))

def Container.toFields (c : Container) : List (String × Json) :=
  Shape.among Container.otherSlots c.others
    (Json.field? "args" (c.args.map Json.strings)
      ++ Json.field? "command" (c.command.map Json.strings)
      ++ Json.field? "env" (c.env.map fun l => .array (l.map EnvVar.toJson))
      ++ Json.text? "image" c.image
      ++ Json.text? "imagePullPolicy" c.imagePullPolicy
      ++ [("name", .string c.name)]
      ++ Json.field? "resources" (c.resources.map Resources.toJson)
      ++ Json.text? "terminationMessagePolicy" c.terminationMessagePolicy
      ++ Json.field? "volumeMounts" (c.volumeMounts.map fun l => .array (l.map VolumeMount.toJson))
      ++ Json.text? "workingDir" c.workingDir)

def Container.toJson (c : Container) : Json := .object c.toFields

def EphemeralContainer.toJson (c : EphemeralContainer) : Json :=
  .object (KeyMap.insertEntries (Json.text? "targetContainerName" c.targetContainerName)
    c.container.toFields)

def PodSpec.toJson (s : PodSpec) : Json :=
  .object (Shape.among PodSpec.otherSlots s.others
    ([("containers", .array (s.containers.map Container.toJson))]
      ++ Json.field? "ephemeralContainers"
        (s.ephemeralContainers.map fun l => .array (l.map EphemeralContainer.toJson))
      ++ Json.field? "initContainers"
        (s.initContainers.map fun l => .array (l.map Container.toJson))
      ++ Json.text? "nodeName" s.nodeName
      ++ Json.text? "restartPolicy" s.restartPolicy
      ++ Json.text? "serviceAccountName" s.serviceAccountName
      ++ Json.field? "terminationGracePeriodSeconds" (s.terminationGracePeriodSeconds.map Json.int)
      ++ Json.field? "volumes" (s.volumes.map fun l => .array (l.map Volume.toJson))))

def Running.toJson (r : Running) : Json := .object (Json.text? "startedAt" r.startedAt)

def Waiting.toJson (w : Waiting) : Json :=
  .object (Json.text? "message" w.message ++ Json.text? "reason" w.reason)

def Terminated.toJson (t : Terminated) : Json :=
  .object (Json.text? "containerID" t.containerID
    ++ [("exitCode", .int t.exitCode)]
    ++ Json.text? "finishedAt" t.finishedAt
    ++ Json.text? "message" t.message
    ++ Json.text? "reason" t.reason
    ++ Json.field? "signal" (t.signal.map Json.int)
    ++ Json.text? "startedAt" t.startedAt)

def ContainerState.toJson (s : ContainerState) : Json :=
  .object (Json.field? "running" (s.running.map Running.toJson)
    ++ Json.field? "terminated" (s.terminated.map Terminated.toJson)
    ++ Json.field? "waiting" (s.waiting.map Waiting.toJson))

def ContainerStatus.toJson (c : ContainerStatus) : Json :=
  .object (Json.field? "allocatedResources" (c.allocatedResources.map KeyMap.toJson)
    ++ Json.text? "containerID" c.containerID
    ++ [("image", .string c.image), ("imageID", .string c.imageID)]
    ++ Json.field? "lastState" (c.lastState.map ContainerState.toJson)
    ++ [("name", .string c.name), ("ready", .bool c.ready)]
    ++ Json.field? "resources" (c.resources.map Resources.toJson)
    ++ [("restartCount", .int c.restartCount)]
    ++ Json.field? "started" (c.started.map .bool)
    ++ Json.field? "state" (c.state.map ContainerState.toJson)
    ++ Json.field? "volumeMounts" (c.volumeMounts.map (Shape.listToJson .mountStatus)))

def ContainerStatus.listToJson (l : List ContainerStatus) : Json :=
  .array (l.map ContainerStatus.toJson)

def PodStatus.toJson (s : PodStatus) : Json :=
  .object (Json.field? "conditions" (s.conditions.map (Shape.listToJson .condition))
    ++ Json.field? "containerStatuses" (s.containerStatuses.map ContainerStatus.listToJson)
    ++ Json.field? "ephemeralContainerStatuses"
      (s.ephemeralContainerStatuses.map ContainerStatus.listToJson)
    ++ Json.text? "hostIP" s.hostIP
    ++ Json.field? "hostIPs" (s.hostIPs.map (Shape.listToJson .address))
    ++ Json.field? "initContainerStatuses"
      (s.initContainerStatuses.map ContainerStatus.listToJson)
    ++ Json.text? "message" s.message
    ++ Json.text? "nominatedNodeName" s.nominatedNodeName
    ++ Json.text? "phase" s.phase
    ++ Json.text? "podIP" s.podIP
    ++ Json.field? "podIPs" (s.podIPs.map (Shape.listToJson .address))
    ++ Json.text? "qosClass" s.qosClass
    ++ Json.text? "reason" s.reason
    ++ Json.text? "resize" s.resize
    ++ Json.field? "resourceClaimStatuses"
      (s.resourceClaimStatuses.map (Shape.listToJson .claimStatus))
    ++ Json.text? "startTime" s.startTime)

def Metadata.toJson (m : Metadata) : Json :=
  .object (Shape.among Metadata.otherSlots m.others
    (Json.field? "annotations" (m.annotations.map KeyMap.toJson)
      ++ Json.field? "labels" (m.labels.map KeyMap.toJson)
      ++ Json.text? "name" m.name
      ++ Json.text? "namespace" m.namespace
      ++ Json.text? "resourceVersion" m.resourceVersion
      ++ Json.text? "uid" m.uid))

def Pod.toJson (p : Pod) : Json :=
  .object ([("apiVersion", .string "v1"), ("kind", .string "Pod"),
      ("metadata", p.metadata.toJson)]
    ++ Json.field? "spec" (p.spec.map PodSpec.toJson)
    ++ Json.field? "status" (p.status.map PodStatus.toJson))

end PodPipeline
