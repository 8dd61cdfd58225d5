import Mathlib.Data.List.Basic
import Mathlib.Data.Option.Basic
import PodPipeline.KeyMap
import PodPipeline.Proofs.Json.Text

/-! Fields of objects: what is found under a key, and which of them show their values. -/
namespace PodPipeline.Json

open Function

variable {α : Type} {f : α → Json}

@[simp] theorem lookup_field?_self (key : String) (o : Option Json) :
    (field? key o).lookup key = o := by
  cases o <;> simp [field?]

@[simp] theorem lookup_field?_of_ne {key other : String} (h : key ≠ other) (o : Option Json) :
    (field? other o).lookup key = none := by
  cases o with
  | none => rfl
  | some v => simp [field?, List.lookup_cons, beq_false_of_ne h]

@[simp] theorem lookup_text?_self (key : String) (o : Option String) :
    (text? key o).lookup key = o.map .string := lookup_field?_self key _

@[simp] theorem lookup_text?_of_ne {key other : String} (h : key ≠ other) (o : Option String) :
    (text? other o).lookup key = none := lookup_field?_of_ne h _

theorem string_injective : Injective Json.string := fun _ _ => Json.string.inj

theorem map_string_injective : Injective (Option.map Json.string) :=
  Option.map_injective string_injective

theorem int_injective : Injective Json.int := fun _ _ h => Number.int.inj (Json.number.inj h)

theorem bool_injective : Injective Json.bool := fun _ _ => Json.bool.inj

theorem array_injective (hf : Injective f) : Injective fun l : List α => Json.array (l.map f) :=
  fun _ _ h => List.map_injective_iff.mpr hf (Json.array.inj h)

theorem strings_injective : Injective strings := array_injective string_injective

theorem map_injective (hf : Injective f) :
    Injective fun m : KeyMap α => object (m.entries.map fun e => (e.1, f e.2)) := by
  intro m n h
  have hentry : Injective fun e : String × α => (e.1, f e.2) := by
    rintro ⟨k, v⟩ ⟨k', v'⟩ he
    obtain ⟨hk, hv⟩ := Prod.mk.inj he
    exact Prod.ext hk (hf hv)
  exact KeyMap.ext (List.map_injective_iff.mpr hentry (object.inj h))

/-- A field and others, none of which has its key, are known by what is found in them. -/
theorem field?_inj {key : String} {o o' : Option Json} {l l' : List (String × Json)}
    (hl : l.lookup key = none) (hl' : l'.lookup key = none)
    (h : ∀ k, ((field? key o).lookup k).or (l.lookup k) =
      ((field? key o').lookup k).or (l'.lookup k)) :
    o = o' ∧ ∀ k, l.lookup k = l'.lookup k := by
  refine ⟨?_, fun k => ?_⟩
  · simpa [hl, hl'] using h key
  · by_cases hk : k = key
    · rw [hk, hl, hl']
    · simpa [hk] using h k

/-! Values whose numbers are integers. -/

@[simp] theorem exact_string (t : String) : (Json.string t).Exact := .string t

@[simp] theorem exact_bool (b : Bool) : (Json.bool b).Exact := .bool b

@[simp] theorem exact_int (i : Int) : (Json.int i).Exact := .int i

@[simp] theorem exact_array (hf : ∀ a, (f a).Exact) (l : List α) :
    (Json.array (l.map f)).Exact := by
  refine .array fun v hv => ?_
  obtain ⟨a, -, rfl⟩ := List.mem_map.mp hv
  exact hf a

@[simp] theorem exact_strings (l : List String) : (strings l).Exact := exact_array exact_string l

@[simp] theorem exact_map (hf : ∀ a, (f a).Exact) (m : KeyMap α) :
    (object (m.entries.map fun e => (e.1, f e.2))).Exact := by
  refine .object fun e he => ?_
  obtain ⟨a, -, rfl⟩ := List.mem_map.mp he
  exact hf a.2

/-- All numbers in the values of some fields are integers. -/
def ExactFields (l : List (String × Json)) : Prop := ∀ e ∈ l, e.2.Exact

theorem ExactFields.object {l : List (String × Json)} (h : ExactFields l) : (object l).Exact :=
  .object h

@[simp] theorem exactFields_nil : ExactFields [] := List.forall_mem_nil _

@[simp] theorem exactFields_cons {e : String × Json} {l : List (String × Json)} :
    ExactFields (e :: l) ↔ e.2.Exact ∧ ExactFields l := List.forall_mem_cons

@[simp] theorem exactFields_append {l m : List (String × Json)} :
    ExactFields (l ++ m) ↔ ExactFields l ∧ ExactFields m := List.forall_mem_append

theorem exactFields_insertEntries {new l : List (String × Json)} (hnew : ExactFields new)
    (hl : ExactFields l) : ExactFields (KeyMap.insertEntries new l) := by
  induction new with
  | nil => exact hl
  | cons e new ih =>
    obtain ⟨he, hnew⟩ := exactFields_cons.mp hnew
    intro f hf
    rcases KeyMap.mem_insertEntry hf with rfl | hf
    · exact he
    · exact ih hnew f hf

@[simp] theorem exactFields_field? (hf : ∀ a, (f a).Exact) (key : String) (o : Option α) :
    ExactFields (field? key (o.map f)) := by
  cases o with
  | none => exact exactFields_nil
  | some a => exact exactFields_cons.mpr ⟨hf a, exactFields_nil⟩

@[simp] theorem exactFields_text? (key : String) (o : Option String) :
    ExactFields (text? key o) := exactFields_field? exact_string key o

end PodPipeline.Json
