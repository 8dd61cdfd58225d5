import PodPipeline.Config.Pipeline
import PodPipeline.Error
import PodPipeline.Toml.Reader

/-! Pipelines from TOML texts and from files. -/
namespace PodPipeline

inductive FileContent where
  | missing
  | directory
  | bytes (content : List UInt8)

def FileContent.text : FileContent → Except FileFault String
  | .missing => .error .missing
  | .directory => .error .isDirectory
  | .bytes content =>
    match String.fromUTF8? (ByteArray.mk content.toArray) with
    | some s => .ok s
    | none => .error .notUtf8

def PipelineDraft.ofToml (text : String) : Except StepError PipelineDraft :=
  (Toml.ofText PipelineDraft.read text).mapError .toml

def Pipeline.ofToml (text : String) : Except StepError Pipeline := do
  (← PipelineDraft.ofToml text).validate.mapError .config

def PipelineDraft.load (file : FileContent) : Except StepError PipelineDraft := do
  PipelineDraft.ofToml (← file.text.mapError .file)

def Pipeline.load (file : FileContent) : Except StepError Pipeline := do
  Pipeline.ofToml (← file.text.mapError .file)

end PodPipeline
