import PodPipeline.Api.Request
import PodPipeline.Pod.Verdict
import PodPipeline.Proofs.Json.MergePatch
import PodPipeline.Proofs.Pod.Encoding
import PodPipeline.Proofs.Store.Change

/-! What becomes of a pod whose status is updated through the API of the cluster. The request is a
merge patch that leaves absent fields out, so a field of the old status that the new one does not
have stays. A store replaces the status as a whole. -/
namespace PodPipeline

namespace PodStatus

/-- The status with the fields of `new`, and its own where `new` has none. -/
def overlay (old new : PodStatus) : PodStatus where
  conditions := new.conditions.or old.conditions
  containerStatuses := new.containerStatuses.or old.containerStatuses
  ephemeralContainerStatuses := new.ephemeralContainerStatuses.or old.ephemeralContainerStatuses
  hostIP := new.hostIP.or old.hostIP
  hostIPs := new.hostIPs.or old.hostIPs
  initContainerStatuses := new.initContainerStatuses.or old.initContainerStatuses
  message := new.message.or old.message
  nominatedNodeName := new.nominatedNodeName.or old.nominatedNodeName
  phase := new.phase.or old.phase
  podIP := new.podIP.or old.podIP
  podIPs := new.podIPs.or old.podIPs
  qosClass := new.qosClass.or old.qosClass
  reason := new.reason.or old.reason
  resize := new.resize.or old.resize
  resourceClaimStatuses := new.resourceClaimStatuses.or old.resourceClaimStatuses
  startTime := new.startTime.or old.startTime

/-- The status has every field that the status `old` has. -/
@[mk_iff]
structure Covers (new old : PodStatus) : Prop where
  conditions : old.conditions.isSome → new.conditions.isSome
  containerStatuses : old.containerStatuses.isSome → new.containerStatuses.isSome
  ephemeralContainerStatuses :
    old.ephemeralContainerStatuses.isSome → new.ephemeralContainerStatuses.isSome
  hostIP : old.hostIP.isSome → new.hostIP.isSome
  hostIPs : old.hostIPs.isSome → new.hostIPs.isSome
  initContainerStatuses : old.initContainerStatuses.isSome → new.initContainerStatuses.isSome
  message : old.message.isSome → new.message.isSome
  nominatedNodeName : old.nominatedNodeName.isSome → new.nominatedNodeName.isSome
  phase : old.phase.isSome → new.phase.isSome
  podIP : old.podIP.isSome → new.podIP.isSome
  podIPs : old.podIPs.isSome → new.podIPs.isSome
  qosClass : old.qosClass.isSome → new.qosClass.isSome
  reason : old.reason.isSome → new.reason.isSome
  resize : old.resize.isSome → new.resize.isSome
  resourceClaimStatuses : old.resourceClaimStatuses.isSome → new.resourceClaimStatuses.isSome
  startTime : old.startTime.isSome → new.startTime.isSome

/-- The fields of two statuses side by side, in the order of their keys. -/
def rows (old new : PodStatus) : Json.Rows :=
  [("conditions", old.conditions.map (Shape.listToJson .condition),
      new.conditions.map (Shape.listToJson .condition)),
    ("containerStatuses", old.containerStatuses.map ContainerStatus.listToJson,
      new.containerStatuses.map ContainerStatus.listToJson),
    ("ephemeralContainerStatuses", old.ephemeralContainerStatuses.map ContainerStatus.listToJson,
      new.ephemeralContainerStatuses.map ContainerStatus.listToJson),
    ("hostIP", old.hostIP.map .string, new.hostIP.map .string),
    ("hostIPs", old.hostIPs.map (Shape.listToJson .address),
      new.hostIPs.map (Shape.listToJson .address)),
    ("initContainerStatuses", old.initContainerStatuses.map ContainerStatus.listToJson,
      new.initContainerStatuses.map ContainerStatus.listToJson),
    ("message", old.message.map .string, new.message.map .string),
    ("nominatedNodeName", old.nominatedNodeName.map .string, new.nominatedNodeName.map .string),
    ("phase", old.phase.map .string, new.phase.map .string),
    ("podIP", old.podIP.map .string, new.podIP.map .string),
    ("podIPs", old.podIPs.map (Shape.listToJson .address),
      new.podIPs.map (Shape.listToJson .address)),
    ("qosClass", old.qosClass.map .string, new.qosClass.map .string),
    ("reason", old.reason.map .string, new.reason.map .string),
    ("resize", old.resize.map .string, new.resize.map .string),
    ("resourceClaimStatuses", old.resourceClaimStatuses.map (Shape.listToJson .claimStatus),
      new.resourceClaimStatuses.map (Shape.listToJson .claimStatus)),
    ("startTime", old.startTime.map .string, new.startTime.map .string)]

variable {old new : PodStatus}

theorem toJson_eq_rows (old new : PodStatus) :
    old.toJson = .object ((rows old new).fields fun o _ => o) ∧
      new.toJson = .object ((rows old new).fields fun _ n => n) := by
  simp [toJson, rows, Json.Rows.fields, Json.text?]

theorem pairwise_rows (old new : PodStatus) : (rows old new).Pairwise fun r s => r.1 < s.1 := by
  have hkeys : ["conditions", "containerStatuses", "ephemeralContainerStatuses", "hostIP",
      "hostIPs", "initContainerStatuses", "message", "nominatedNodeName", "phase", "podIP",
      "podIPs", "qosClass", "reason", "resize", "resourceClaimStatuses",
      "startTime"].Pairwise (· < ·) := by decide
  exact List.pairwise_map.mp (show ((rows old new).map (·.1)).Pairwise (· < ·) from hkeys)

/-- Texts and lists are replaced as a whole. -/
theorem merged_rows (old new : PodStatus) : (old.overlay new).toJson =
    .object ((rows old new).fields Json.merged) := by
  have htext := Json.merged_map (f := .string) Json.mergePatch_string fun _ => rfl
  have hlist := Json.merged_map (f := ContainerStatus.listToJson)
    (fun t l => Json.mergePatch_array t _) fun _ => rfl
  have hshape (s : Shape) := Json.merged_map (f := s.listToJson)
    (fun t l => Json.mergePatch_array t _) fun _ => rfl
  simp [toJson, rows, overlay, Json.Rows.fields, Json.text?, htext, hlist, hshape]

/-- Merging one status into another goes field by field. -/
theorem mergePatch_toJson (old new : PodStatus) :
    old.toJson.mergePatch new.toJson = (old.overlay new).toJson := by
  obtain ⟨hold, hnew⟩ := toJson_eq_rows old new
  rw [hold, hnew, merged_rows, Json.mergePatch_object]
  exact congrArg Json.object (Json.mergeFields_rows (pairwise_rows old new))

theorem empty_overlay (new : PodStatus) : overlay {} new = new := by
  simp [overlay]

/-- Nothing of the old status is left exactly if the new one has all its fields. -/
theorem overlay_eq_iff : old.overlay new = new ↔ new.Covers old := by
  have hfield {α : Type} (a b : Option α) : b.or a = b ↔ (a.isSome → b.isSome) := by
    cases a <;> cases b <;> simp
  obtain ⟨⟩ := new
  simp only [overlay, PodStatus.mk.injEq, hfield, covers_iff]

end PodStatus

namespace Pod

variable {stored p : Pod}

/-- The pod with a status that is merged into its own, or without a status. -/
def patched (stored : Pod) (status : Option PodStatus) : Pod :=
  stored.withStatus (status.map ((stored.status.getD {}).overlay ·))

/-- The fields of a pod beside those of a patch that gives it a status, in the order of their keys.
-/
def statusRows (stored p : Pod) : Json.Rows :=
  [("apiVersion", some (.string "v1"), none), ("kind", some (.string "Pod"), none),
    ("metadata", some stored.metadata.toJson, none),
    ("spec", stored.spec.map PodSpec.toJson, none),
    ("status", stored.status.map PodStatus.toJson,
      some ((p.status.map PodStatus.toJson).getD .null))]

theorem pairwise_statusRows (stored p : Pod) :
    (statusRows stored p).Pairwise fun r s => r.1 < s.1 := by
  have hkeys : ["apiVersion", "kind", "metadata", "spec", "status"].Pairwise (· < ·) := by decide
  exact List.pairwise_map.mp (show ((statusRows stored p).map (·.1)).Pairwise (· < ·) from hkeys)

/-- The status that a patch leaves. -/
theorem merged_status (old new : Option PodStatus) :
    Json.merged (old.map PodStatus.toJson) (some ((new.map PodStatus.toJson).getD .null)) =
      (new.map ((old.getD {}).overlay ·)).map PodStatus.toJson := by
  cases new with
  | none => rfl
  | some n =>
    cases old with
    | none => exact congrArg some (PodStatus.mergePatch_toJson {} n)
    | some o => exact congrArg some (PodStatus.mergePatch_toJson o n)

/-- What the cluster stores when it applies the patch to the pod. -/
theorem mergePatch_statusPatch (stored p : Pod) :
    stored.toJson.mergePatch (ApiRequest.statusPatch p) = (stored.patched p.status).toJson := by
  have hstored : stored.toJson = .object ((statusRows stored p).fields fun o _ => o) := by
    simp [toJson, statusRows, Json.Rows.fields, Json.field?]
  have hpatch : ApiRequest.statusPatch p = .object ((statusRows stored p).fields fun _ n => n) := by
    simp [ApiRequest.statusPatch, statusRows, Json.Rows.fields, Json.field?]
  have hafter : (stored.patched p.status).toJson =
      .object ((statusRows stored p).fields Json.merged) := by
    simp only [statusRows, Json.Rows.fields, List.flatMap_cons, List.flatMap_nil, merged_status,
      Json.merged_none]
    simp [toJson, patched, withStatus, Json.field?]
  rw [hstored, hpatch, hafter, Json.mergePatch_object]
  exact congrArg Json.object (Json.mergeFields_rows (pairwise_statusRows stored p))

/-- The patch does what it should exactly if it names every field that there was. -/
theorem patched_eq_iff : stored.patched p.status = stored.withStatus p.status ↔
    ∀ old new, stored.status = some old → p.status = some new → new.Covers old := by
  have hstatus {a b : Option PodStatus} : stored.withStatus a = stored.withStatus b ↔ a = b :=
    ⟨congrArg Pod.status, congrArg stored.withStatus⟩
  unfold patched
  rw [hstatus]
  cases p.status with
  | none => simp
  | some new =>
    cases stored.status with
    | none => simp [PodStatus.empty_overlay]
    | some old => simp [PodStatus.overlay_eq_iff]

/-- A pod whose container has failed, before its phase says so. -/
def sampleFailing : Pod where
  metadata := { name := some "unit-pod", «namespace» := some "ns" }
  status := some
    { containerStatuses := some
        [{ name := "unit", state := some { terminated := some { exitCode := 1 } } }]
      hostIP := some "10.0.0.1"
      initContainerStatuses := some []
      message := some "container failed"
      phase := some "Running"
      podIP := some "10.0.0.2"
      qosClass := some "BestEffort"
      reason := some "Error" }

def sampleRunning : Pod := sampleFailing.withStatus (some Phase.running.toStatus)

def sampleSucceeded : Pod where
  metadata := { name := some "unit-pod", «namespace» := some "ns" }
  status := some Phase.succeeded.toStatus

end Pod

theorem PodStore.updateStatus_ok {s : PodStore} {ns : String} {stored p : Pod}
    (h : s.pods.find? ⟨ns, p.name⟩ = some stored) :
    (s.updateStatus ns p).2 = .ok (stored.withStatus p.status) ∧
      (s.updateStatus ns p).1.pods.find? ⟨ns, p.name⟩ = some (stored.withStatus p.status) := by
  rw [updateStatus_of_present h]
  exact ⟨rfl, PodTable.find?_insert_self _ _ _⟩

namespace ClientCall

/-- An update of a status is a merge patch, and the one pod that the cluster then stores is the old
one with the new status laid over its own. A store keeps the new status alone. The two agree exactly
if the new status has every field that the old one has, or if either is absent. -/
theorem updateStatus_agrees_iff {ns : String} {stored p : Pod} {request : ApiRequest}
    (hr : (ClientCall.updateStatus ns p).request = .ok request) :
    request.method = .patch ∧ request.contentType = some ApiRequest.mergePatchType ∧
      ∃ body, request.body = some body ∧
        (∀ q : Pod, q.toJson = stored.toJson.mergePatch body ↔ q = stored.patched p.status) ∧
        ∀ s : PodStore, s.pods.find? ⟨ns, p.name⟩ = some stored →
          (s.updateStatus ns p).2 = .ok (stored.withStatus p.status) ∧
          (s.updateStatus ns p).1.pods.find? ⟨ns, p.name⟩ = some (stored.withStatus p.status) ∧
          (stored.patched p.status = stored.withStatus p.status ↔
            ∀ old new, stored.status = some old → p.status = some new → new.Covers old) := by
  obtain ⟨uri, rfl⟩ : ∃ uri, request =
      { method := .patch, uri, contentType := some ApiRequest.mergePatchType
        accept := some ApiRequest.jsonType, body := some (ApiRequest.statusPatch p) } := by
    simp only [ClientCall.request, bind, Except.bind] at hr
    repeat' split at hr
    all_goals cases hr
    exact ⟨_, rfl⟩
  refine ⟨rfl, rfl, _, rfl, fun q => ?_, fun s hs => ?_⟩
  · rw [Pod.mergePatch_statusPatch]
    exact Pod.toJson_injective.eq_iff
  · obtain ⟨hanswer, hstored⟩ := PodStore.updateStatus_ok hs
    exact ⟨hanswer, hstored, Pod.patched_eq_iff⟩

theorem updateStatus_agrees_iff_sample : ∃ request body,
    (ClientCall.updateStatus "ns" Pod.sampleSucceeded).request = .ok request ∧
      request.body = some body ∧
      Pod.sampleSucceeded.toJson = Pod.sampleRunning.toJson.mergePatch body ∧
      ((({} : PodStore).insert Pod.sampleRunning).updateStatus "ns" Pod.sampleSucceeded).2 =
        .ok Pod.sampleSucceeded := by
  obtain ⟨-, -, body, hbody, hmerged, hstore⟩ :=
    @updateStatus_agrees_iff "ns" Pod.sampleRunning Pod.sampleSucceeded _ rfl
  obtain ⟨hanswer, -, hagree⟩ := hstore (({} : PodStore).insert Pod.sampleRunning) (by decide)
  have hcovers : ∀ old new, Pod.sampleRunning.status = some old →
      Pod.sampleSucceeded.status = some new → new.Covers old := by
    rintro _ _ ⟨⟩ ⟨⟩
    constructor <;> decide
  exact ⟨_, body, rfl, hbody, (hmerged _).mpr (hagree.mpr hcovers).symm, hanswer⟩

/-- A pod that is reported to have succeeded takes the place of one whose container has failed. The
failed container is still there after the patch, and the pod counts as a failed one. -/
theorem updateStatus_keeps_failure : ∃ request body merged,
    (ClientCall.updateStatus "ns" Pod.sampleSucceeded).request = .ok request ∧
      request.body = some body ∧
      Pod.toJson merged = Pod.sampleFailing.toJson.mergePatch body ∧
      merged ≠ Pod.sampleFailing.withStatus Pod.sampleSucceeded.status ∧
      merged.verdict = some (.failed "container failed") ∧
      (Pod.sampleFailing.withStatus Pod.sampleSucceeded.status).verdict = some .succeeded := by
  refine ⟨_, _, Pod.sampleFailing.patched Pod.sampleSucceeded.status, rfl, rfl, ?_, ?_, ?_, ?_⟩
  · exact (Pod.mergePatch_statusPatch _ _).symm
  · decide
  · decide
  · decide

end ClientCall

end PodPipeline
