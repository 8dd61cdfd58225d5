import PodPipeline.Json.Shape

/-! The fields of pods that no step uses, by the tables of the cluster's API in its version 1.30. A
pod that is found may have any of them. Points of time and amounts are kept as they are written. -/
namespace PodPipeline

open Slot (optional always)

namespace Shape

abbrev texts : Shape := .list .text

abbrev textMap : Shape := .map .text

/-! References to other objects and to fields. -/

def localReference : Shape := .record [always "name" .text]

def typedReference : List (Slot Shape) :=
  [optional "apiGroup" .text, always "kind" .text, always "name" .text]

def keyReference : Shape :=
  .record [always "key" .text, always "name" .text, optional "optional" .flag]

def fieldReference : Shape := .record [optional "apiVersion" .text, always "fieldPath" .text]

def resourceReference : Shape :=
  .record [optional "containerName" .text, optional "divisor" .text, always "resource" .text]

def requirement : Shape :=
  .record [always "key" .text, always "operator" .text, optional "values" texts]

def labelSelector : Shape :=
  .record [optional "matchExpressions" (.list requirement), optional "matchLabels" textMap]

/-! Metadata. -/

def managedFields : Shape :=
  .record
    [optional "apiVersion" .text, optional "fieldsType" .text, optional "fieldsV1" .tree,
      optional "manager" .text, optional "operation" .text, optional "subresource" .text,
      optional "time" .text]

def ownerReference : Shape :=
  .record
    [always "apiVersion" .text, optional "blockOwnerDeletion" .flag, optional "controller" .flag,
      always "kind" .text, always "name" .text, always "uid" .text]

def metadata : Shape :=
  .record
    [optional "annotations" textMap, optional "creationTimestamp" .text,
      optional "deletionGracePeriodSeconds" .int64, optional "deletionTimestamp" .text,
      optional "finalizers" texts, optional "generateName" .text, optional "generation" .int64,
      optional "labels" textMap, optional "managedFields" (.list managedFields),
      optional "name" .text, optional "namespace" .text,
      optional "ownerReferences" (.list ownerReference), optional "resourceVersion" .text,
      optional "selfLink" .text, optional "uid" .text]

/-! Security. -/

def profile : Shape := .record [optional "localhostProfile" .text, always "type" .text]

def seLinuxOptions : Shape :=
  .record
    [optional "level" .text, optional "role" .text, optional "type" .text, optional "user" .text]

def windowsOptions : Shape :=
  .record
    [optional "gmsaCredentialSpec" .text, optional "gmsaCredentialSpecName" .text,
      optional "hostProcess" .flag, optional "runAsUserName" .text]

def capabilities : Shape := .record [optional "add" texts, optional "drop" texts]

def containerSecurity : Shape :=
  .record
    [optional "allowPrivilegeEscalation" .flag, optional "appArmorProfile" profile,
      optional "capabilities" capabilities, optional "privileged" .flag,
      optional "procMount" .text, optional "readOnlyRootFilesystem" .flag,
      optional "runAsGroup" .int64, optional "runAsNonRoot" .flag, optional "runAsUser" .int64,
      optional "seLinuxOptions" seLinuxOptions, optional "seccompProfile" profile,
      optional "windowsOptions" windowsOptions]

def sysctl : Shape := .record [always "name" .text, always "value" .text]

def podSecurity : Shape :=
  .record
    [optional "appArmorProfile" profile, optional "fsGroup" .int64,
      optional "fsGroupChangePolicy" .text, optional "runAsGroup" .int64,
      optional "runAsNonRoot" .flag, optional "runAsUser" .int64,
      optional "seLinuxOptions" seLinuxOptions, optional "seccompProfile" profile,
      optional "supplementalGroups" (.list .int64), optional "sysctls" (.list sysctl),
      optional "windowsOptions" windowsOptions]

/-! Probes and hooks of a container. -/

def execAction : Shape := .record [optional "command" texts]

def httpHeader : Shape := .record [always "name" .text, always "value" .text]

def httpAction : Shape :=
  .record
    [optional "host" .text, optional "httpHeaders" (.list httpHeader), optional "path" .text,
      always "port" .intOrText, optional "scheme" .text]

def tcpAction : Shape := .record [optional "host" .text, always "port" .intOrText]

def grpcAction : Shape := .record [always "port" .int32, optional "service" .text]

def sleepAction : Shape := .record [always "seconds" .int64]

def probe : Shape :=
  .record
    [optional "exec" execAction, optional "failureThreshold" .int32, optional "grpc" grpcAction,
      optional "httpGet" httpAction, optional "initialDelaySeconds" .int32,
      optional "periodSeconds" .int32, optional "successThreshold" .int32,
      optional "tcpSocket" tcpAction, optional "terminationGracePeriodSeconds" .int64,
      optional "timeoutSeconds" .int32]

def hook : Shape :=
  .record
    [optional "exec" execAction, optional "httpGet" httpAction, optional "sleep" sleepAction,
      optional "tcpSocket" tcpAction]

def lifecycle : Shape := .record [optional "postStart" hook, optional "preStop" hook]

/-! Parts of a container. -/

def environmentSource : Shape := .record [always "name" .text, optional "optional" .flag]

def environment : Shape :=
  .record
    [optional "configMapRef" environmentSource, optional "prefix" .text,
      optional "secretRef" environmentSource]

def valueSource : Shape :=
  .record
    [optional "configMapKeyRef" keyReference, optional "fieldRef" fieldReference,
      optional "resourceFieldRef" resourceReference, optional "secretKeyRef" keyReference]

def containerPort : Shape :=
  .record
    [always "containerPort" .int32, optional "hostIP" .text, optional "hostPort" .int32,
      optional "name" .text, optional "protocol" .text]

def resizePolicy : Shape := .record [always "resourceName" .text, always "restartPolicy" .text]

def volumeDevice : Shape := .record [always "devicePath" .text, always "name" .text]

/-! Sources of volumes. -/

def keyToPath : Shape :=
  .record [always "key" .text, optional "mode" .int32, always "path" .text]

def configMapSource : Shape :=
  .record
    [optional "defaultMode" .int32, optional "items" (.list keyToPath), always "name" .text,
      optional "optional" .flag]

def downwardFile : Shape :=
  .record
    [optional "fieldRef" fieldReference, optional "mode" .int32, always "path" .text,
      optional "resourceFieldRef" resourceReference]

def downwardSource : Shape :=
  .record [optional "defaultMode" .int32, optional "items" (.list downwardFile)]

def claimResources : Shape :=
  .record [optional "limits" textMap, optional "requests" textMap]

def claimSpec : Shape :=
  .record
    [optional "accessModes" texts, optional "dataSource" (.record typedReference),
      optional "dataSourceRef" (.record (typedReference ++ [optional "namespace" .text])),
      optional "resources" claimResources, optional "selector" labelSelector,
      optional "storageClassName" .text, optional "volumeAttributesClassName" .text,
      optional "volumeMode" .text, optional "volumeName" .text]

def claimTemplate : Shape := .record [optional "metadata" metadata, always "spec" claimSpec]

def projectedKeys : Shape :=
  .record
    [optional "items" (.list keyToPath), always "name" .text, optional "optional" .flag]

def trustBundle : Shape :=
  .record
    [optional "labelSelector" labelSelector, optional "name" .text, optional "optional" .flag,
      always "path" .text, optional "signerName" .text]

def accountToken : Shape :=
  .record
    [optional "audience" .text, optional "expirationSeconds" .int64, always "path" .text]

def projection : Shape :=
  .record
    [optional "clusterTrustBundle" trustBundle, optional "configMap" projectedKeys,
      optional "downwardAPI" (.record [optional "items" (.list downwardFile)]),
      optional "secret" projectedKeys, optional "serviceAccountToken" accountToken]

def awsDisk : Shape :=
  .record
    [optional "fsType" .text, optional "partition" .int32, optional "readOnly" .flag,
      always "volumeID" .text]

def azureDisk : Shape :=
  .record
    [optional "cachingMode" .text, always "diskName" .text, always "diskURI" .text,
      optional "fsType" .text, optional "kind" .text, optional "readOnly" .flag]

def azureFile : Shape :=
  .record [optional "readOnly" .flag, always "secretName" .text, always "shareName" .text]

def cephFiles : Shape :=
  .record
    [always "monitors" texts, optional "path" .text, optional "readOnly" .flag,
      optional "secretFile" .text, optional "secretRef" localReference, optional "user" .text]

def cinder : Shape :=
  .record
    [optional "fsType" .text, optional "readOnly" .flag, optional "secretRef" localReference,
      always "volumeID" .text]

def csiVolume : Shape :=
  .record
    [always "driver" .text, optional "fsType" .text,
      optional "nodePublishSecretRef" localReference, optional "readOnly" .flag,
      optional "volumeAttributes" textMap]

def fibreChannel : Shape :=
  .record
    [optional "fsType" .text, optional "lun" .int32, optional "readOnly" .flag,
      optional "targetWWNs" texts, optional "wwids" texts]

def flexVolume : Shape :=
  .record
    [always "driver" .text, optional "fsType" .text, optional "options" textMap,
      optional "readOnly" .flag, optional "secretRef" localReference]

def gceDisk : Shape :=
  .record
    [optional "fsType" .text, optional "partition" .int32, always "pdName" .text,
      optional "readOnly" .flag]

def gitRepository : Shape :=
  .record [optional "directory" .text, always "repository" .text, optional "revision" .text]

def glusterFiles : Shape :=
  .record [always "endpoints" .text, always "path" .text, optional "readOnly" .flag]

def iscsi : Shape :=
  .record
    [optional "chapAuthDiscovery" .flag, optional "chapAuthSession" .flag,
      optional "fsType" .text, optional "initiatorName" .text, always "iqn" .text,
      optional "iscsiInterface" .text, always "lun" .int32, optional "portals" texts,
      optional "readOnly" .flag, optional "secretRef" localReference,
      always "targetPortal" .text]

def nfs : Shape :=
  .record [always "path" .text, optional "readOnly" .flag, always "server" .text]

def quobyte : Shape :=
  .record
    [optional "group" .text, optional "readOnly" .flag, always "registry" .text,
      optional "tenant" .text, optional "user" .text, always "volume" .text]

def rbd : Shape :=
  .record
    [optional "fsType" .text, always "image" .text, optional "keyring" .text,
      always "monitors" texts, optional "pool" .text, optional "readOnly" .flag,
      optional "secretRef" localReference, optional "user" .text]

def scaleIO : Shape :=
  .record
    [optional "fsType" .text, always "gateway" .text, optional "protectionDomain" .text,
      optional "readOnly" .flag, always "secretRef" localReference,
      optional "sslEnabled" .flag, optional "storageMode" .text, optional "storagePool" .text,
      always "system" .text, optional "volumeName" .text]

def storageOS : Shape :=
  .record
    [optional "fsType" .text, optional "readOnly" .flag, optional "secretRef" localReference,
      optional "volumeName" .text, optional "volumeNamespace" .text]

def vsphereDisk : Shape :=
  .record
    [optional "fsType" .text, optional "storagePolicyID" .text,
      optional "storagePolicyName" .text, always "volumePath" .text]

/-! Where a pod may run. -/

def nodeTerm : Shape :=
  .record
    [optional "matchExpressions" (.list requirement), optional "matchFields" (.list requirement)]

def nodeAffinity : Shape :=
  .record
    [optional "preferredDuringSchedulingIgnoredDuringExecution"
        (.list (.record [always "preference" nodeTerm, always "weight" .int32])),
      optional "requiredDuringSchedulingIgnoredDuringExecution"
        (.record [always "nodeSelectorTerms" (.list nodeTerm)])]

def podTerm : Shape :=
  .record
    [optional "labelSelector" labelSelector, optional "matchLabelKeys" texts,
      optional "mismatchLabelKeys" texts, optional "namespaceSelector" labelSelector,
      optional "namespaces" texts, always "topologyKey" .text]

def podAffinity : Shape :=
  .record
    [optional "preferredDuringSchedulingIgnoredDuringExecution"
        (.list (.record [always "podAffinityTerm" podTerm, always "weight" .int32])),
      optional "requiredDuringSchedulingIgnoredDuringExecution" (.list podTerm)]

def affinity : Shape :=
  .record
    [optional "nodeAffinity" nodeAffinity, optional "podAffinity" podAffinity,
      optional "podAntiAffinity" podAffinity]

def toleration : Shape :=
  .record
    [optional "effect" .text, optional "key" .text, optional "operator" .text,
      optional "tolerationSeconds" .int64, optional "value" .text]

def spreadConstraint : Shape :=
  .record
    [optional "labelSelector" labelSelector, optional "matchLabelKeys" texts,
      always "maxSkew" .int32, optional "minDomains" .int32,
      optional "nodeAffinityPolicy" .text, optional "nodeTaintsPolicy" .text,
      always "topologyKey" .text, always "whenUnsatisfiable" .text]

/-! The network of a pod, and what it claims. -/

def dnsOption : Shape := .record [optional "name" .text, optional "value" .text]

def dnsConfig : Shape :=
  .record
    [optional "nameservers" texts, optional "options" (.list dnsOption),
      optional "searches" texts]

def hostAlias : Shape := .record [optional "hostnames" texts, always "ip" .text]

def address : Shape := .record [always "ip" .text]

def claimSource : Shape :=
  .record [optional "resourceClaimName" .text, optional "resourceClaimTemplateName" .text]

def podClaim : Shape := .record [always "name" .text, optional "source" claimSource]

/-! Parts of a status. -/

def condition : Shape :=
  .record
    [optional "lastProbeTime" .text, optional "lastTransitionTime" .text,
      optional "message" .text, optional "reason" .text, always "status" .text,
      always "type" .text]

def claimStatus : Shape :=
  .record [always "name" .text, optional "resourceClaimName" .text]

def mountStatus : Shape :=
  .record
    [always "mountPath" .text, always "name" .text, optional "readOnly" .flag,
      optional "recursiveReadOnly" .text]

end Shape

open Shape

def Metadata.otherSlots : List (Slot Shape) :=
  [optional "creationTimestamp" .text, optional "deletionGracePeriodSeconds" .int64,
    optional "deletionTimestamp" .text, optional "finalizers" texts,
    optional "generateName" .text, optional "generation" .int64,
    optional "managedFields" (.list managedFields),
    optional "ownerReferences" (.list ownerReference), optional "selfLink" .text]

def EnvVar.otherSlots : List (Slot Shape) := [optional "valueFrom" valueSource]

def SecretSource.otherSlots : List (Slot Shape) := [optional "items" (.list keyToPath)]

def VolumeMount.otherSlots : List (Slot Shape) :=
  [optional "mountPropagation" .text, optional "recursiveReadOnly" .text,
    optional "subPathExpr" .text]

def Volume.otherSlots : List (Slot Shape) :=
  [optional "awsElasticBlockStore" awsDisk, optional "azureDisk" azureDisk,
    optional "azureFile" azureFile, optional "cephfs" cephFiles, optional "cinder" cinder,
    optional "configMap" configMapSource, optional "csi" csiVolume,
    optional "downwardAPI" downwardSource,
    optional "emptyDir" (.record [optional "medium" .text, optional "sizeLimit" .text]),
    optional "ephemeral" (.record [optional "volumeClaimTemplate" claimTemplate]),
    optional "fc" fibreChannel, optional "flexVolume" flexVolume,
    optional "flocker" (.record [optional "datasetName" .text, optional "datasetUUID" .text]),
    optional "gcePersistentDisk" gceDisk, optional "gitRepo" gitRepository,
    optional "glusterfs" glusterFiles,
    optional "hostPath" (.record [always "path" .text, optional "type" .text]),
    optional "iscsi" iscsi, optional "nfs" nfs,
    optional "persistentVolumeClaim"
      (.record [always "claimName" .text, optional "readOnly" .flag]),
    optional "photonPersistentDisk" (.record [optional "fsType" .text, always "pdID" .text]),
    optional "portworxVolume"
      (.record [optional "fsType" .text, optional "readOnly" .flag, always "volumeID" .text]),
    optional "projected"
      (.record [optional "defaultMode" .int32, optional "sources" (.list projection)]),
    optional "quobyte" quobyte, optional "rbd" rbd, optional "scaleIO" scaleIO,
    optional "storageos" storageOS, optional "vsphereVolume" vsphereDisk]

def Container.otherSlots : List (Slot Shape) :=
  [optional "envFrom" (.list environment), optional "lifecycle" lifecycle,
    optional "livenessProbe" probe, optional "ports" (.list containerPort),
    optional "readinessProbe" probe, optional "resizePolicy" (.list resizePolicy),
    optional "restartPolicy" .text, optional "securityContext" containerSecurity,
    optional "startupProbe" probe, optional "stdin" .flag, optional "stdinOnce" .flag,
    optional "terminationMessagePath" .text, optional "tty" .flag,
    optional "volumeDevices" (.list volumeDevice)]

def PodSpec.otherSlots : List (Slot Shape) :=
  [optional "activeDeadlineSeconds" .int64, optional "affinity" affinity,
    optional "automountServiceAccountToken" .flag, optional "dnsConfig" dnsConfig,
    optional "dnsPolicy" .text, optional "enableServiceLinks" .flag,
    optional "hostAliases" (.list hostAlias), optional "hostIPC" .flag,
    optional "hostNetwork" .flag, optional "hostPID" .flag, optional "hostUsers" .flag,
    optional "hostname" .text, optional "imagePullSecrets" (.list localReference),
    optional "nodeSelector" textMap, optional "os" localReference, optional "overhead" textMap,
    optional "preemptionPolicy" .text, optional "priority" .int32,
    optional "priorityClassName" .text,
    optional "readinessGates" (.list (.record [always "conditionType" .text])),
    optional "resourceClaims" (.list podClaim), optional "runtimeClassName" .text,
    optional "schedulerName" .text, optional "schedulingGates" (.list localReference),
    optional "securityContext" podSecurity, optional "serviceAccount" .text,
    optional "setHostnameAsFQDN" .flag, optional "shareProcessNamespace" .flag,
    optional "subdomain" .text, optional "tolerations" (.list toleration),
    optional "topologySpreadConstraints" (.list spreadConstraint)]

end PodPipeline
