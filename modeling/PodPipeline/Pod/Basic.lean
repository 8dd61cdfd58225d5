import PodPipeline.Pod.Shapes

/-! Pods as the cluster's API describes them. The fields that pipelines use, and those that are made
of such, have a place of their own; a part keeps the `others` by their table. -/
namespace PodPipeline

structure ResourceClaim where
  name : String := ""
deriving DecidableEq, Repr

/-- What a container asks for. Amounts are kept as they are written. -/
structure Resources where
  claims : Option (List ResourceClaim) := none
  limits : Option (KeyMap String) := none
  requests : Option (KeyMap String) := none
deriving DecidableEq, Repr

structure EnvVar where
  name : String := ""
  value : Option String := none
  others : Shape.Values EnvVar.otherSlots := Shape.absent _
deriving DecidableEq, Repr

structure SecretSource where
  defaultMode : Option Int := none
  isOptional : Option Bool := none
  secretName : Option String := none
  others : Shape.Values SecretSource.otherSlots := Shape.absent _
deriving DecidableEq, Repr

structure Volume where
  name : String := ""
  secret : Option SecretSource := none
  others : Shape.Values Volume.otherSlots := Shape.absent _
deriving DecidableEq, Repr

structure VolumeMount where
  mountPath : String := ""
  name : String := ""
  readOnly : Option Bool := none
  subPath : Option String := none
  others : Shape.Values VolumeMount.otherSlots := Shape.absent _
deriving DecidableEq, Repr

structure Container where
  args : Option (List String) := none
  command : Option (List String) := none
  env : Option (List EnvVar) := none
  image : Option String := none
  imagePullPolicy : Option String := none
  name : String := ""
  resources : Option Resources := none
  terminationMessagePolicy : Option String := none
  volumeMounts : Option (List VolumeMount) := none
  workingDir : Option String := none
  others : Shape.Values Container.otherSlots := Shape.absent _
deriving DecidableEq, Repr

/-- A container that is put into a running pod, maybe to look at another one. -/
structure EphemeralContainer where
  container : Container := {}
  targetContainerName : Option String := none
deriving DecidableEq, Repr

structure PodSpec where
  containers : List Container := []
  ephemeralContainers : Option (List EphemeralContainer) := none
  initContainers : Option (List Container) := none
  nodeName : Option String := none
  restartPolicy : Option String := none
  serviceAccountName : Option String := none
  terminationGracePeriodSeconds : Option Int := none
  volumes : Option (List Volume) := none
  others : Shape.Values PodSpec.otherSlots := Shape.absent _
deriving DecidableEq, Repr

structure Running where
  startedAt : Option String := none
deriving DecidableEq, Repr

structure Waiting where
  message : Option String := none
  reason : Option String := none
deriving DecidableEq, Repr

structure Terminated where
  containerID : Option String := none
  exitCode : Int := 0
  finishedAt : Option String := none
  message : Option String := none
  reason : Option String := none
  signal : Option Int := none
  startedAt : Option String := none
deriving DecidableEq, Repr

structure ContainerState where
  running : Option Running := none
  terminated : Option Terminated := none
  waiting : Option Waiting := none
deriving DecidableEq, Repr

structure ContainerStatus where
  allocatedResources : Option (KeyMap String) := none
  containerID : Option String := none
  image : String := ""
  imageID : String := ""
  lastState : Option ContainerState := none
  name : String := ""
  ready : Bool := false
  resources : Option Resources := none
  restartCount : Int := 0
  started : Option Bool := none
  state : Option ContainerState := none
  volumeMounts : Option (List Shape.mountStatus.Value) := none
deriving DecidableEq, Repr

structure PodStatus where
  conditions : Option (List Shape.condition.Value) := none
  containerStatuses : Option (List ContainerStatus) := none
  ephemeralContainerStatuses : Option (List ContainerStatus) := none
  hostIP : Option String := none
  hostIPs : Option (List Shape.address.Value) := none
  initContainerStatuses : Option (List ContainerStatus) := none
  message : Option String := none
  nominatedNodeName : Option String := none
  phase : Option String := none
  podIP : Option String := none
  podIPs : Option (List Shape.address.Value) := none
  qosClass : Option String := none
  reason : Option String := none
  resize : Option String := none
  resourceClaimStatuses : Option (List Shape.claimStatus.Value) := none
  startTime : Option String := none
deriving DecidableEq, Repr

structure Metadata where
  annotations : Option (KeyMap String) := none
  labels : Option (KeyMap String) := none
  name : Option String := none
  «namespace» : Option String := none
  resourceVersion : Option String := none
  uid : Option String := none
  others : Shape.Values Metadata.otherSlots := Shape.absent _
deriving DecidableEq, Repr

/-- The step that creates a pod writes its metadata and specification, the cluster its status. -/
structure Pod where
  metadata : Metadata := {}
  spec : Option PodSpec := none
  status : Option PodStatus := none
deriving DecidableEq, Repr

instance : Inhabited Pod := ⟨{}⟩

namespace Pod

/-- The name of the pod, or the empty text. -/
def name (p : Pod) : String := p.metadata.name.getD ""

/-- The namespace of the pod, or the empty text. -/
def «namespace» (p : Pod) : String := p.metadata.namespace.getD ""

def withStatus (p : Pod) (s : Option PodStatus) : Pod := { p with status := s }

def inNamespace (p : Pod) (ns : String) : Pod :=
  { p with metadata := { p.metadata with «namespace» := some ns } }

/-- A text of the status that is there and not empty. -/
def statusText (p : Pod) (field : PodStatus → Option String) : Option String :=
  (p.status.bind field).filter (· ≠ "")

def statusMessage (p : Pod) : Option String := p.statusText (·.message)

def statusReason (p : Pod) : Option String := p.statusText (·.reason)

/-- The containers that have terminated, by name, in the order of the status. -/
def terminatedContainers (p : Pod) : List (String × Terminated) :=
  ((p.status.bind (·.containerStatuses)).getD []).filterMap fun c =>
    (c.state.bind (·.terminated)).map fun t => (c.name, t)

@[simp] theorem name_withStatus (p : Pod) (s : Option PodStatus) : (p.withStatus s).name = p.name :=
  rfl

@[simp] theorem name_inNamespace (p : Pod) (ns : String) : (p.inNamespace ns).name = p.name := rfl

@[simp] theorem namespace_inNamespace (p : Pod) (ns : String) :
    (p.inNamespace ns).namespace = ns := rfl

end Pod

end PodPipeline
