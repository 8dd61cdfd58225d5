import PodPipeline.Json.Decode
import PodPipeline.Pod.Basic

/-! Pods read from documents. Unknown fields are ignored and a repeated field counts once, at its
last value; a field that every pod has may be missing or `null` and then has its default. -/
namespace PodPipeline

open Reader

def ResourceClaim.read : Reader ResourceClaim :=
  fields {} fun c key d => match key with
    | "name" => do return { c with name := ← orElse string "" d }
    | _ => ignore c d

def Resources.read : Reader Resources :=
  fields {} fun r key d => match key with
    | "claims" => do return { r with claims := ← optional (list ResourceClaim.read) d }
    | "limits" => do return { r with limits := ← optional (map string) d }
    | "requests" => do return { r with requests := ← optional (map string) d }
    | _ => ignore r d

def EnvVar.read : Reader EnvVar :=
  fields {} fun e key d => match key with
    | "name" => do return { e with name := ← orElse string "" d }
    | "value" => do return { e with value := ← optional string d }
    | _ => do return { e with others := ← Shape.readField _ e.others key d }

def SecretSource.read : Reader SecretSource :=
  fields {} fun s key d => match key with
    | "defaultMode" => do return { s with defaultMode := ← optional int32 d }
    | "optional" => do return { s with isOptional := ← optional bool d }
    | "secretName" => do return { s with secretName := ← optional string d }
    | _ => do return { s with others := ← Shape.readField _ s.others key d }

def Volume.read : Reader Volume :=
  fields {} fun v key d => match key with
    | "name" => do return { v with name := ← orElse string "" d }
    | "secret" => do return { v with secret := ← optional SecretSource.read d }
    | _ => do return { v with others := ← Shape.readField _ v.others key d }

def VolumeMount.read : Reader VolumeMount :=
  fields {} fun m key d => match key with
    | "mountPath" => do return { m with mountPath := ← orElse string "" d }
    | "name" => do return { m with name := ← orElse string "" d }
    | "readOnly" => do return { m with readOnly := ← optional bool d }
    | "subPath" => do return { m with subPath := ← optional string d }
    | _ => do return { m with others := ← Shape.readField _ m.others key d }

def Container.readField (c : Container) (key : String) (d : Doc) : Except ReadError Container :=
  match key with
  | "args" => do return { c with args := ← optional (list string) d }
  | "command" => do return { c with command := ← optional (list string) d }
  | "env" => do return { c with env := ← optional (list EnvVar.read) d }
  | "image" => do return { c with image := ← optional string d }
  | "imagePullPolicy" => do return { c with imagePullPolicy := ← optional string d }
  | "name" => do return { c with name := ← orElse string "" d }
  | "resources" => do return { c with resources := ← optional Resources.read d }
  | "terminationMessagePolicy" => do
    return { c with terminationMessagePolicy := ← optional string d }
  | "volumeMounts" => do return { c with volumeMounts := ← optional (list VolumeMount.read) d }
  | "workingDir" => do return { c with workingDir := ← optional string d }
  | _ => do return { c with others := ← Shape.readField _ c.others key d }

def Container.read : Reader Container := fields {} Container.readField

def EphemeralContainer.read : Reader EphemeralContainer :=
  fields {} fun c key d => match key with
    | "targetContainerName" => do return { c with targetContainerName := ← optional string d }
    | _ => do return { c with container := ← c.container.readField key d }

def PodSpec.read : Reader PodSpec :=
  fields {} fun s key d => match key with
    | "containers" => do return { s with containers := ← orElse (list Container.read) [] d }
    | "ephemeralContainers" => do
      return { s with ephemeralContainers := ← optional (list EphemeralContainer.read) d }
    | "initContainers" => do return { s with initContainers := ← optional (list Container.read) d }
    | "nodeName" => do return { s with nodeName := ← optional string d }
    | "restartPolicy" => do return { s with restartPolicy := ← optional string d }
    | "serviceAccountName" => do return { s with serviceAccountName := ← optional string d }
    | "terminationGracePeriodSeconds" => do
      return { s with terminationGracePeriodSeconds := ← optional int64 d }
    | "volumes" => do return { s with volumes := ← optional (list Volume.read) d }
    | _ => do return { s with others := ← Shape.readField _ s.others key d }

def Running.read : Reader Running :=
  fields {} fun r key d => match key with
    | "startedAt" => do return { r with startedAt := ← optional string d }
    | _ => ignore r d

def Waiting.read : Reader Waiting :=
  fields {} fun w key d => match key with
    | "message" => do return { w with message := ← optional string d }
    | "reason" => do return { w with reason := ← optional string d }
    | _ => ignore w d

def Terminated.read : Reader Terminated :=
  fields {} fun t key d => match key with
    | "containerID" => do return { t with containerID := ← optional string d }
    | "exitCode" => do return { t with exitCode := ← orElse int32 0 d }
    | "finishedAt" => do return { t with finishedAt := ← optional string d }
    | "message" => do return { t with message := ← optional string d }
    | "reason" => do return { t with reason := ← optional string d }
    | "signal" => do return { t with signal := ← optional int32 d }
    | "startedAt" => do return { t with startedAt := ← optional string d }
    | _ => ignore t d

def ContainerState.read : Reader ContainerState :=
  fields {} fun s key d => match key with
    | "running" => do return { s with running := ← optional Running.read d }
    | "terminated" => do return { s with terminated := ← optional Terminated.read d }
    | "waiting" => do return { s with waiting := ← optional Waiting.read d }
    | _ => ignore s d

def ContainerStatus.read : Reader ContainerStatus :=
  fields {} fun c key d => match key with
    | "allocatedResources" => do
      return { c with allocatedResources := ← optional (map string) d }
    | "containerID" => do return { c with containerID := ← optional string d }
    | "image" => do return { c with image := ← orElse string "" d }
    | "imageID" => do return { c with imageID := ← orElse string "" d }
    | "lastState" => do return { c with lastState := ← optional ContainerState.read d }
    | "name" => do return { c with name := ← orElse string "" d }
    | "ready" => do return { c with ready := ← orElse bool false d }
    | "resources" => do return { c with resources := ← optional Resources.read d }
    | "restartCount" => do return { c with restartCount := ← orElse int32 0 d }
    | "started" => do return { c with started := ← optional bool d }
    | "state" => do return { c with state := ← optional ContainerState.read d }
    | "volumeMounts" => do
      return { c with volumeMounts := ← optional (list Shape.mountStatus.read) d }
    | _ => ignore c d

def PodStatus.read : Reader PodStatus :=
  fields {} fun s key d => match key with
    | "conditions" => do return { s with conditions := ← optional (list Shape.condition.read) d }
    | "containerStatuses" => do
      return { s with containerStatuses := ← optional (list ContainerStatus.read) d }
    | "ephemeralContainerStatuses" => do
      return { s with ephemeralContainerStatuses := ← optional (list ContainerStatus.read) d }
    | "hostIP" => do return { s with hostIP := ← optional string d }
    | "hostIPs" => do return { s with hostIPs := ← optional (list Shape.address.read) d }
    | "initContainerStatuses" => do
      return { s with initContainerStatuses := ← optional (list ContainerStatus.read) d }
    | "message" => do return { s with message := ← optional string d }
    | "nominatedNodeName" => do return { s with nominatedNodeName := ← optional string d }
    | "phase" => do return { s with phase := ← optional string d }
    | "podIP" => do return { s with podIP := ← optional string d }
    | "podIPs" => do return { s with podIPs := ← optional (list Shape.address.read) d }
    | "qosClass" => do return { s with qosClass := ← optional string d }
    | "reason" => do return { s with reason := ← optional string d }
    | "resize" => do return { s with resize := ← optional string d }
    | "resourceClaimStatuses" => do
      return { s with resourceClaimStatuses := ← optional (list Shape.claimStatus.read) d }
    | "startTime" => do return { s with startTime := ← optional string d }
    | _ => ignore s d

def Metadata.read : Reader Metadata :=
  fields {} fun m key d => match key with
    | "annotations" => do return { m with annotations := ← optional (map string) d }
    | "labels" => do return { m with labels := ← optional (map string) d }
    | "name" => do return { m with name := ← optional string d }
    | "namespace" => do return { m with «namespace» := ← optional string d }
    | "resourceVersion" => do return { m with resourceVersion := ← optional string d }
    | "uid" => do return { m with uid := ← optional string d }
    | _ => do return { m with others := ← Shape.readField _ m.others key d }

/-- A text that may only be `expected`. -/
def exactly (expected : String) : Reader Unit := fun d => do
  if (← string d) = expected then return () else .error .mismatch

def Pod.read : Reader Pod :=
  fields {} fun p key d => match key with
    | "apiVersion" => do
      exactly "v1" d
      return p
    | "kind" => do
      exactly "Pod" d
      return p
    | "metadata" => do return { p with metadata := ← orElse Metadata.read {} d }
    | "spec" => do return { p with spec := ← optional PodSpec.read d }
    | "status" => do return { p with status := ← optional PodStatus.read d }
    | _ => ignore p d

end PodPipeline
