import PodPipeline.Json.Basic
import PodPipeline.KeyMap

/-! Merge patches for JSON. A patch that is an object changes the fields that it names: `null` takes
a field away, and anything else is merged into it. Any other patch takes the place of what it is
applied to. Fields are kept in the order of their keys. -/
namespace PodPipeline.Json

def isNull : Json → Bool
  | .null => true
  | _ => false

def fields : Json → List (String × Json)
  | .object l => l
  | _ => []

mutual

def mergePatch (target : Json) : Json → Json
  | .object patch => .object (mergeFields target.fields patch)
  | patch => patch

def mergeFields (target : List (String × Json)) : List (String × Json) → List (String × Json)
  | [] => target
  | (k, v) :: patch =>
    mergeFields
      (if v.isNull then target.filter (·.1 ≠ k)
        else KeyMap.insertEntry k (mergePatch ((target.lookup k).getD .null) v) target) patch

end

/-- The value of a field after a merge, if it is given a value. -/
def merged (old given : Option Json) : Option Json :=
  match given with
  | none => old
  | some v => if v.isNull then none else some (mergePatch (old.getD .null) v)

@[simp] theorem merged_none (old : Option Json) : merged old none = old := rfl

variable {target patch rest : List (String × Json)} {k : String} {v : Json}

theorem mergePatch_object (t : Json) : t.mergePatch (.object patch) =
    .object (mergeFields t.fields patch) := by
  rw [mergePatch]

theorem mergePatch_string (t : Json) (s : String) : t.mergePatch (.string s) = .string s := by
  rw [mergePatch]
  exact nofun

theorem mergePatch_array (t : Json) (l : List Json) : t.mergePatch (.array l) = .array l := by
  rw [mergePatch]
  exact nofun

/-- An optional value that is never merged with an old one takes its place. -/
theorem merged_map {α : Type} {f : α → Json} (hf : ∀ (t : Json) (a : α), t.mergePatch (f a) = f a)
    (hnull : ∀ a, (f a).isNull = false) (old given : Option α) :
    merged (old.map f) (given.map f) = (given.or old).map f := by
  cases given with
  | none => rfl
  | some a => simp [merged, hf, hnull]

theorem mergeFields_nil (target : List (String × Json)) : mergeFields target [] = target := by
  rw [mergeFields]

/-! Fields in the order of their keys. -/

theorem insertEntry_of_forall_lt (h : ∀ e ∈ target, k < e.1) :
    KeyMap.insertEntry k v target = (k, v) :: target := by
  cases target with
  | nil => rfl
  | cons e r => exact KeyMap.insertEntry_of_lt (h e (.head r)) v e.2 r

theorem insertEntry_self {u : Json} :
    KeyMap.insertEntry k v ((k, u) :: target) = (k, v) :: target := by
  rw [KeyMap.insertEntry, if_neg (String.lt_irrefl k), if_pos rfl]

theorem lookup_of_forall_lt (h : ∀ e ∈ target, k < e.1) : target.lookup k = none := by
  rw [List.lookup_eq_none_iff]
  intro e he
  have hne : k ≠ e.1 := fun hk => String.lt_irrefl k (hk ▸ h e he)
  exact bne_iff_ne.mpr hne

theorem filter_of_forall_lt (h : ∀ e ∈ target, k < e.1) : target.filter (·.1 ≠ k) = target := by
  refine List.filter_eq_self.mpr fun e he => decide_eq_true fun hk => ?_
  exact String.lt_irrefl k (hk ▸ h e he)

/-- A field before all those that a patch names stays as it is. -/
theorem mergeFields_cons_of_lt {u : Json} (hk : ∀ e ∈ patch, k < e.1) :
    mergeFields ((k, u) :: target) patch = (k, u) :: mergeFields target patch := by
  induction patch generalizing target with
  | nil => rw [mergeFields_nil, mergeFields_nil]
  | cons e patch ih =>
    obtain ⟨l, v⟩ := e
    obtain ⟨hkl, hks⟩ := List.forall_mem_cons.mp hk
    have hne : l ≠ k := fun h => String.lt_irrefl k (h ▸ hkl)
    have hlookup : ((k, u) :: target).lookup l = target.lookup l := by
      rw [List.lookup_cons, beq_false_of_ne hne]
    rw [mergeFields, mergeFields, hlookup, ← ih hks]
    congr 1
    split
    · exact List.filter_cons_of_pos (by simpa using hne.symm)
    · rw [KeyMap.insertEntry_of_gt hkl]

/-- The first field of a patch is merged into the first one of its target, or goes before it. -/
theorem mergeFields_field? {old : Option Json} (hrest : ∀ e ∈ rest, k < e.1)
    (hpatch : ∀ e ∈ patch, k < e.1) :
    mergeFields (field? k old ++ rest) ((k, v) :: patch) =
      field? k (merged old (some v)) ++ mergeFields rest patch := by
  have hlookup : (field? k old ++ rest).lookup k = old := by
    cases old with
    | none => exact lookup_of_forall_lt hrest
    | some u => exact List.lookup_cons_self
  rw [mergeFields, hlookup]
  unfold merged
  dsimp only
  split
  · have hfilter : (field? k old ++ rest).filter (·.1 ≠ k) = rest := by
      cases old with
      | none => exact filter_of_forall_lt hrest
      | some u =>
        exact (List.filter_cons_of_neg (by simp)).trans (filter_of_forall_lt hrest)
    rw [hfilter]
    rfl
  · have hinsert (w : Json) : KeyMap.insertEntry k w (field? k old ++ rest) = (k, w) :: rest := by
      cases old with
      | none => exact insertEntry_of_forall_lt hrest
      | some u => exact insertEntry_self
    rw [hinsert, mergeFields_cons_of_lt hpatch]
    rfl

/-- Optional fields, each with the value that it has and the value that a patch gives it. -/
abbrev Rows := List (String × Option Json × Option Json)

namespace Rows

/-- The fields with the values that `f` takes from the two of each row. -/
def fields (f : Option Json → Option Json → Option Json) (l : Rows) : List (String × Json) :=
  l.flatMap fun r => field? r.1 (f r.2.1 r.2.2)

theorem lt_of_mem_fields {l : Rows} {f : Option Json → Option Json → Option Json}
    (h : ∀ r ∈ l, k < r.1) : ∀ e ∈ l.fields f, k < e.1 := by
  intro e he
  obtain ⟨r, hr, hfield⟩ := List.mem_flatMap.mp he
  obtain ⟨v, -, rfl⟩ := Option.map_eq_some_iff.mp (Option.mem_toList.mp hfield)
  exact h r hr

end Rows

/-- Fields in the order of their keys are merged one by one. -/
theorem mergeFields_rows {l : Rows} (hl : l.Pairwise fun r s => r.1 < s.1) :
    mergeFields (l.fields fun old _ => old) (l.fields fun _ given => given) = l.fields merged := by
  induction l with
  | nil => exact mergeFields_nil []
  | cons r l ih =>
    obtain ⟨key, old, given⟩ := r
    obtain ⟨hkey, hl'⟩ := List.pairwise_cons.mp hl
    have hpatch := Rows.lt_of_mem_fields (f := fun _ given => given) hkey
    have hold := Rows.lt_of_mem_fields (f := fun old _ => old) hkey
    have hcons (f : Option Json → Option Json → Option Json) :
        Rows.fields f ((key, old, given) :: l) = field? key (f old given) ++ Rows.fields f l := rfl
    rw [hcons, hcons, hcons, ← ih hl']
    cases given with
    | some v => exact mergeFields_field? hold hpatch
    | none =>
      cases old with
      | none => rfl
      | some u => exact mergeFields_cons_of_lt hpatch

end PodPipeline.Json
