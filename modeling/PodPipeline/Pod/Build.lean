import PodPipeline.Config.Pipeline
import PodPipeline.Pod.Basic

/-! The pod that a step runs as. -/
namespace PodPipeline

/-- Where a secret is mounted if the configuration does not say. -/
def defaultSecretMountPath : String := "/usr/test-secrets"

/-- A script as the command of a container; it stops at the first command that fails. -/
def shellCommand (commands : String) : List String :=
  ["/bin/sh", "-c", "#!/bin/sh\nset -eu\n" ++ commands]

namespace Job

def podLabels (j : Job) : KeyMap String :=
  .ofList [("build-id", j.buildId), ("created-by-ci", "true"), ("job", j.job),
    ("persists-between-builds", "false"), ("prow.k8s.io/id", j.prowJobId)]

def podAnnotations (j : Job) (step : String) : KeyMap String :=
  .ofList [("ci.openshift.io/job-spec", j.rawSpec),
    ("ci-operator.openshift.io/container-sub-tests", step)]

end Job

/-- The last segment of a path, whatever slashes follow it: `/` for a path of slashes alone, and `.`
for the empty path. -/
def lastSegment (path : String) : String :=
  if path = "" then "."
  else
    match path.toList.reverse.dropWhile (· = '/') with
    | [] => "/"
    | l => String.ofList (l.takeWhile (· ≠ '/')).reverse

namespace StepConfig

def containerEnv (c : StepConfig) : Option (List EnvVar) :=
  c.artifactDir?.map fun dir => [{ name := "ARTIFACT_DIR", value := some dir }]

def mountPath (c : StepConfig) : String := c.secretMountPath?.getD defaultSecretMountPath

def secretVolumes (c : StepConfig) : List Volume :=
  c.secretName?.toList.map fun s => { name := s, secret := some { secretName := some s } }

def secretMounts (c : StepConfig) : List VolumeMount :=
  c.secretName?.toList.map fun s =>
    { mountPath := c.mountPath, name := s, readOnly := some true,
      subPath := some (lastSegment c.mountPath) }

def container (c : StepConfig) (step : String) : Container where
  name := step
  image := some c.image.pullSpec
  command := some (shellCommand c.commands)
  env := c.containerEnv
  resources := some c.resources
  volumeMounts := some c.secretMounts
  terminationMessagePolicy := some "FallbackToLogsOnError"

end StepConfig

/-- The pod of the step called `step`. Names and image must not be blank; nothing else can fail. -/
def buildPod (step : String) (c : StepConfig) (j : Job) : Except ConfigFault Pod := do
  refuseIf (Text.isBlank step) .blankStepName
  refuseIf (Text.isBlank c.podName) (.blankPodName step)
  c.validateImage step
  return {
    metadata :=
      { name := some c.podName
        «namespace» := some j.namespace
        labels := some j.podLabels
        annotations := some (j.podAnnotations step) }
    spec := some
      { containers := [c.container step]
        volumes := some c.secretVolumes
        restartPolicy := some "Never"
        serviceAccountName := c.serviceAccountName? } }

end PodPipeline
