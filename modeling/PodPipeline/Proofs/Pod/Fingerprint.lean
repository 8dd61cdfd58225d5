import PodPipeline.Pod.Fingerprint
import PodPipeline.Proofs.Pod.Encoding

/-! What the fingerprint is taken of shows the part of a pod that its step writes, and nothing else.
So, but for collisions of the hash, two pods have the same fingerprint exactly if that part is the
same. -/
namespace PodPipeline

private theorem bytes_toList_loop (bytes : ByteArray) (i : Nat) (l : List UInt8) :
    ByteArray.toList.loop bytes i l = l.reverse ++ bytes.data.toList.drop i := by
  fun_induction ByteArray.toList.loop bytes i l with
  | case1 i l hi ih =>
    have hi' : i < bytes.data.toList.length := hi
    have hget : bytes.get! i = bytes.data.toList[i] := getElem!_pos bytes.data i hi
    rw [ih, List.drop_eq_getElem_cons hi', List.reverse_cons, List.append_assoc, hget]
    rfl
  | case2 i l hi =>
    have hi' : bytes.data.toList.length ≤ i := Nat.not_lt.mp hi
    rw [List.drop_eq_nil_of_le hi', List.append_nil]

theorem bytes_toList (bytes : ByteArray) : bytes.toList = bytes.data.toList :=
  bytes_toList_loop bytes 0 []

/-- Texts with the same UTF-8 bytes are the same. -/
theorem utf8_inj {a b : String} : a.toUTF8.toList = b.toUTF8.toList ↔ a = b := by
  rw [bytes_toList, bytes_toList, Array.toList_inj, ← ByteArray.ext_iff]
  exact String.toByteArray_inj

/-- The hash does not tell two different inputs apart. -/
def Blake3.Collide (a b : List UInt8) : Prop := a ≠ b ∧ hashHex a = hashHex b

namespace Pod

variable {p q : Pod}

def ownedBytes (p : Pod) : List UInt8 := p.ownedText.toUTF8.toList

theorem ownedBytes_eq (p : Pod) :
    p.ownedBytes = p.owned.chars.flatMap String.utf8EncodeChar := by
  rw [ownedBytes, bytes_toList, ownedText, Json.text]
  simp [String.toUTF8, List.utf8Encode]

theorem not_collide
    (h : Blake3.hashHex (p.owned.chars.flatMap String.utf8EncodeChar) ≠
      Blake3.hashHex (q.owned.chars.flatMap String.utf8EncodeChar)) :
    ¬Blake3.Collide p.ownedBytes q.ownedBytes := by
  rw [← ownedBytes_eq, ← ownedBytes_eq] at h
  exact fun hc => h hc.2

theorem fingerprint_eq (p : Pod) : p.fingerprint = Blake3.hashHex p.ownedBytes := rfl

/-- Two pods have the same name, namespace, labels, annotations and specification. What is absent
differs from what is empty. -/
structure SameOwned (p q : Pod) : Prop where
  name : p.metadata.name = q.metadata.name
  «namespace» : p.metadata.namespace = q.metadata.namespace
  labels : p.metadata.labels = q.metadata.labels
  annotations : p.metadata.annotations = q.metadata.annotations
  spec : p.spec = q.spec

instance (p q : Pod) : Decidable (p.SameOwned q) :=
  decidable_of_iff (p.metadata.name = q.metadata.name ∧
      p.metadata.namespace = q.metadata.namespace ∧ p.metadata.labels = q.metadata.labels ∧
      p.metadata.annotations = q.metadata.annotations ∧ p.spec = q.spec)
    ⟨fun ⟨hn, hns, hl, ha, hs⟩ => ⟨hn, hns, hl, ha, hs⟩,
      fun h => ⟨h.name, h.namespace, h.labels, h.annotations, h.spec⟩⟩

/-- What is written as `null` when it is absent shows whether it is. -/
private theorem orNull_injective {α : Type} {f : α → Json} (hf : Function.Injective f)
    (hnull : ∀ a, f a ≠ .null) :
    Function.Injective fun o : Option α => (o.map f).getD .null := by
  intro o o' h
  cases o with
  | none =>
    cases o' with
    | none => rfl
    | some b => exact absurd h.symm (hnull b)
  | some a =>
    cases o' with
    | none => exact absurd h (hnull a)
    | some b => exact congrArg some (hf h)

private theorem exact_orNull {α : Type} {f : α → Json} (hf : ∀ a, (f a).Exact) (o : Option α) :
    ((o.map f).getD .null).Exact := by
  cases o with
  | none => exact .null
  | some a => exact hf a

theorem exact_owned (p : Pod) : p.owned.Exact := by
  have hname := exact_orNull Json.exact_string p.metadata.name
  have hnamespace := exact_orNull Json.exact_string p.metadata.namespace
  have hlabels := exact_orNull KeyMap.exact_toJson p.metadata.labels
  have hannotations := exact_orNull KeyMap.exact_toJson p.metadata.annotations
  have hspec := exact_orNull PodSpec.exact_toJson p.spec
  exact Json.ExactFields.object (by simp [*])

theorem owned_inj (h : p.owned = q.owned) : p.SameOwned q := by
  have hf key := congrArg (List.lookup key) (Json.object.inj h)
  have hstring := orNull_injective Json.string_injective nofun
  have hmap := orNull_injective KeyMap.toJson_injective nofun
  have hspec := orNull_injective PodSpec.toJson_injective fun _ => nofun
  constructor
  case name => exact hstring (by simpa using hf "name")
  case «namespace» => exact hstring (by simpa [List.lookup_cons] using hf "namespace")
  case labels => exact hmap (by simpa [List.lookup_cons] using hf "labels")
  case annotations => exact hmap (by simpa [List.lookup_cons] using hf "annotations")
  case spec => exact hspec (by simpa [List.lookup_cons] using hf "spec")

theorem owned_eq_iff : p.owned = q.owned ↔ p.SameOwned q := by
  refine ⟨owned_inj, fun h => ?_⟩
  rw [owned, owned, h.name, h.namespace, h.labels, h.annotations, h.spec]

theorem ownedBytes_eq_iff : p.ownedBytes = q.ownedBytes ↔ p.SameOwned q := by
  rw [ownedBytes, ownedBytes, utf8_inj, ← owned_eq_iff]
  refine ⟨fun h => (exact_owned p).text_inj (exact_owned q) h, fun h => ?_⟩
  rw [ownedText, ownedText, h]

theorem sameSpec_iff_hash :
    p.sameSpec q ↔ Blake3.hashHex p.ownedBytes = Blake3.hashHex q.ownedBytes := by
  rw [sameSpec, decide_eq_true_iff, fingerprint_eq, fingerprint_eq]

theorem SameOwned.sameSpec (h : p.SameOwned q) : p.sameSpec q := by
  rw [sameSpec_iff_hash, ownedBytes_eq_iff.mpr h]

theorem sameSpec_withStatus (p : Pod) (status : Option PodStatus) :
    p.sameSpec (p.withStatus status) :=
  SameOwned.sameSpec ⟨rfl, rfl, rfl, rfl, rfl⟩

theorem sameSpec_iff (hc : ¬Blake3.Collide p.ownedBytes q.ownedBytes) :
    p.sameSpec q ↔ p.SameOwned q := by
  refine ⟨fun h => ?_, SameOwned.sameSpec⟩
  by_contra hn
  exact hc ⟨mt ownedBytes_eq_iff.mp hn, sameSpec_iff_hash.mp h⟩

/-- The bytes that the fingerprint is the hash of are the same exactly if the owned parts are. But
for a collision so are the fingerprints, and what the cluster writes never counts. -/
theorem fingerprint_identifies_owned (p q : Pod) :
    p.fingerprint = Blake3.hashHex p.ownedBytes ∧
      (p.ownedBytes = q.ownedBytes ↔ p.SameOwned q) ∧
      (¬Blake3.Collide p.ownedBytes q.ownedBytes → (p.sameSpec q ↔ p.SameOwned q)) ∧
      ∀ (status : Option PodStatus) (uid resourceVersion : Option String)
          (others : Shape.Values Metadata.otherSlots),
        p.sameSpec
          { p with status, metadata := { p.metadata with uid, resourceVersion, others } } := by
  refine ⟨fingerprint_eq p, ownedBytes_eq_iff, sameSpec_iff, fun _ _ _ _ => ?_⟩
  exact SameOwned.sameSpec ⟨rfl, rfl, rfl, rfl, rfl⟩

/-- A pod without labels, whose name needs escapes. -/
def samplePod : Pod :=
  { metadata := { name := some "a\"b\\c\n\x01ü", annotations := some (.ofList [("k", "")]) } }

/-- The same with labels, of which there are none. -/
def samplePodLabelled : Pod :=
  { samplePod with metadata := { samplePod.metadata with labels := some .empty } }

def samplePodLimited : Pod :=
  { samplePod with spec := some { others := (some (60 : Int), Shape.absent _) } }

theorem fingerprint_identifies_owned_sample :
    ¬Blake3.Collide samplePod.ownedBytes samplePodLabelled.ownedBytes ∧
      samplePod.sameSpec samplePodLabelled = false ∧
      ¬Blake3.Collide samplePod.ownedBytes samplePodLimited.ownedBytes ∧
      samplePod.sameSpec samplePodLimited = false := by
  let hash (p : Pod) := Blake3.hashHex (p.owned.chars.flatMap String.utf8EncodeChar)
  have hhash : hash samplePod ≠ hash samplePodLabelled := by decide +kernel
  have hhash' : hash samplePod ≠ hash samplePodLimited := by decide +kernel
  have hlabelled := not_collide hhash
  have hlimited := not_collide hhash'
  refine ⟨hlabelled, ?_, hlimited, ?_⟩
  · have hiff := (fingerprint_identifies_owned samplePod samplePodLabelled).2.2.1 hlabelled
    exact Bool.eq_false_iff.mpr fun h => by cases (hiff.mp h).labels
  · have hiff := (fingerprint_identifies_owned samplePod samplePodLimited).2.2.1 hlimited
    exact Bool.eq_false_iff.mpr fun h => by cases (hiff.mp h).spec

end Pod

end PodPipeline
