import PodPipeline.Digest.Blake3
import PodPipeline.Pod.Encode

/-! The fingerprint of the part of a pod that its step writes. -/
namespace PodPipeline.Pod

/-- What the step writes: the pod's identity, labels, annotations and specification, each absent one
as `null`. -/
def owned (p : Pod) : Json :=
  .object
    [("name", (p.metadata.name.map .string).getD .null),
      ("namespace", (p.metadata.namespace.map .string).getD .null),
      ("labels", (p.metadata.labels.map KeyMap.toJson).getD .null),
      ("annotations", (p.metadata.annotations.map KeyMap.toJson).getD .null),
      ("spec", (p.spec.map PodSpec.toJson).getD .null)]

def ownedText (p : Pod) : String := p.owned.text

/-- The hash of the owned text's UTF-8 bytes. -/
def fingerprint (p : Pod) : String := Blake3.hashHex p.ownedText.toUTF8.toList

/-- Whether two pods come from the same configuration, as far as their fingerprints tell. -/
def sameSpec (p q : Pod) : Bool := p.fingerprint = q.fingerprint

end PodPipeline.Pod
