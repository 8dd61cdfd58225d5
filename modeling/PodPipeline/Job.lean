import PodPipeline.Json.Decode
import PodPipeline.Json.Reader
import PodPipeline.Text.Quoted

/-! The identity of the job that a pipeline runs for. -/
namespace PodPipeline

structure Job where
  job : String := ""
  buildId : String := ""
  prowJobId : String := ""
  /-- Where the pods of the pipeline are created. -/
  «namespace» : String := ""
  /-- The document that the identity was read from. -/
  rawSpec : String := ""
deriving DecidableEq, Repr

namespace Job

def inNamespace (j : Job) (ns : String) : Job := { j with «namespace» := ns }

/-- The identity as it stands in a pipeline's configuration, without the raw document. -/
def read : Reader Job :=
  Reader.record
    [⟨"job", false, fun j d => do return { j with job := ← Reader.string d }⟩,
      ⟨"build_id", false, fun j d => do return { j with buildId := ← Reader.string d }⟩,
      ⟨"prow_job_id", false, fun j d => do return { j with prowJobId := ← Reader.string d }⟩,
      ⟨"namespace", false, fun j d => do return { j with «namespace» := ← Reader.string d }⟩] {}

/-- The identity in a serialized job context. -/
def readContext : Reader Job :=
  Reader.record
    [⟨"job", false, fun j d => do return { j with job := ← Reader.string d }⟩,
      ⟨"buildid", false, fun j d => do return { j with buildId := ← Reader.string d }⟩,
      ⟨"prowjobid", false, fun j d => do return { j with prowJobId := ← Reader.string d }⟩] {}

/-- The identity of a serialized job context. The context itself is kept, and the namespace is not
part of it. -/
def ofContext (raw : String) : Except ReadError Job := do
  return { ← Reader.ofText readContext (Doc.read raw) with rawSpec := raw }

def debug (j : Job) : String :=
  Text.record "JobSpec"
    [("job", Text.quoted j.job), ("build_id", Text.quoted j.buildId),
      ("prow_job_id", Text.quoted j.prowJobId), ("namespace", Text.quoted j.namespace),
      ("raw_spec", Text.quoted j.rawSpec)] false

end Job

end PodPipeline
