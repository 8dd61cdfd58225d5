import PodPipeline.Json.Shape
import PodPipeline.Proofs.Json.Fields

/-! The JSON of a value shows the value, for every type in whose records no two fields have one
name. Where a record is written among other fields, its values show as well as those. -/
namespace PodPipeline

open Function

namespace KeyMap

variable {α : Type}

theorem lookup_cons_eq_ite (e : String × α) (l : List (String × α)) (key : String) :
    (e :: l).lookup key = if key = e.1 then some e.2 else l.lookup key := by
  obtain ⟨k, v⟩ := e
  by_cases h : key = k
  · rw [if_pos h, h, List.lookup_cons_self]
  · rw [if_neg h, List.lookup_cons, beq_false_of_ne h]

theorem lookup_insertEntry (k : String) (v : α) (l : List (String × α)) (key : String) :
    (insertEntry k v l).lookup key = if key = k then some v else l.lookup key := by
  induction l with
  | nil => exact lookup_cons_eq_ite (k, v) [] key
  | cons e r ih =>
    by_cases hlt : k < e.1
    · rw [insertEntry, if_pos hlt, lookup_cons_eq_ite]
    by_cases heq : k = e.1
    · rw [insertEntry, if_neg hlt, if_pos heq, lookup_cons_eq_ite, lookup_cons_eq_ite, ← heq]
      split_ifs <;> rfl
    · rw [insertEntry, if_neg hlt, if_neg heq, lookup_cons_eq_ite, lookup_cons_eq_ite, ih]
      by_cases hkey : key = k
      · rw [if_pos hkey, if_pos hkey, if_neg fun h => heq (hkey.symm.trans h)]
      · rw [if_neg hkey, if_neg hkey]

theorem lookup_insertEntries (new l : List (String × α)) (key : String) :
    (insertEntries new l).lookup key = (new.lookup key).or (l.lookup key) := by
  induction new with
  | nil => rfl
  | cons e new ih =>
    have hcons : insertEntries (e :: new) l = insertEntry e.1 e.2 (insertEntries new l) := rfl
    rw [hcons, lookup_insertEntry, lookup_cons_eq_ite, ih]
    split_ifs <;> rfl

end KeyMap

namespace Tree

mutual

theorem toJson_injective : ∀ {t u : Tree}, t.toJson = u.toJson → t = u
  | .node _, .node _, h => congrArg node (toFields_injective (Json.object.inj h))

theorem toFields_injective : ∀ {l m : List (String × Tree)}, toFields l = toFields m → l = m
  | [], [], _ => rfl
  | (_, _) :: _, (_, _) :: _, h => by
    simp only [toFields, List.cons.injEq, Prod.mk.injEq] at h
    obtain ⟨⟨rfl, ht⟩, hr⟩ := h
    rw [toJson_injective ht, toFields_injective hr]

end

mutual

theorem exact_toJson : ∀ t : Tree, t.toJson.Exact
  | .node children => .object (exact_toFields children)

theorem exact_toFields : ∀ l : List (String × Tree), Json.ExactFields (toFields l)
  | [] => Json.exactFields_nil
  | (_, t) :: r => Json.exactFields_cons.mpr ⟨exact_toJson t, exact_toFields r⟩

end

end Tree

namespace Shape

def lacks (slots : List (Slot Shape)) (name : String) : Bool := slots.all (·.name ≠ name)

mutual

/-- No two fields of a record have one name. -/
def distinct : Shape → Bool
  | .list s | .map s => s.distinct
  | .record slots => distinctSlots slots
  | _ => true

def distinctSlots : List (Slot Shape) → Bool
  | [] => true
  | ⟨name, _, s⟩ :: r => lacks r name && s.distinct && distinctSlots r

end

variable {slots : List (Slot Shape)} {name : String}

theorem lookup_toFields : ∀ {slots : List (Slot Shape)}, lacks slots name →
    ∀ v : Values slots, (toFields slots v).lookup name = none
  | [], _, _ => rfl
  | ⟨name', required, s⟩ :: r, h, v => by
    obtain ⟨hne, hr⟩ : name' ≠ name ∧ lacks r name := by simpa [lacks] using h
    cases required with
    | true =>
      obtain ⟨a, v⟩ := v
      rw [toFields, KeyMap.lookup_cons_eq_ite, if_neg hne.symm]
      exact lookup_toFields hr v
    | false =>
      obtain ⟨a, v⟩ := v
      rw [toFields, List.lookup_append, Json.lookup_field?_of_ne hne.symm]
      exact lookup_toFields hr v

mutual

theorem toJson_injective : ∀ {s : Shape}, s.distinct → Injective s.toJson
  | .text, _ => Json.string_injective
  | .flag, _ => Json.bool_injective
  | .int32, _ => Json.int_injective
  | .int64, _ => Json.int_injective
  | .intOrText, _ => by
    rintro (i | t) (j | u) h
    · exact congrArg Sum.inl (Json.int_injective h)
    · cases h
    · cases h
    · exact congrArg Sum.inr (Json.string.inj h)
  | .tree, _ => fun _ _ => Tree.toJson_injective
  | .list _, h => Json.array_injective (toJson_injective h)
  | .map _, h => Json.map_injective (toJson_injective h)
  | .record _, h => fun v w hvw =>
    eq_of_lookup h v w fun key => congrArg (List.lookup key) (Json.object.inj hvw)

theorem eq_of_lookup : ∀ {slots : List (Slot Shape)}, distinctSlots slots → ∀ v w : Values slots,
    (∀ key, (toFields slots v).lookup key = (toFields slots w).lookup key) → v = w
  | [], _, _, _, _ => rfl
  | ⟨name, required, s⟩ :: r, h, v, w, hvw => by
    simp only [distinctSlots, Bool.and_eq_true] at h
    obtain ⟨⟨hname, hs⟩, hr⟩ := h
    cases required with
    | true =>
      obtain ⟨a, v⟩ := v
      obtain ⟨b, w⟩ := w
      have hor (k : String) : ((Json.field? name (some (s.toJson a))).lookup k).or
          ((toFields r v).lookup k) = ((Json.field? name (some (s.toJson b))).lookup k).or
          ((toFields r w).lookup k) := by
        rw [← List.lookup_append, ← List.lookup_append]
        exact hvw k
      obtain ⟨ha, hrest⟩ := Json.field?_inj (lookup_toFields hname v) (lookup_toFields hname w) hor
      rw [toJson_injective hs (Option.some.inj ha), eq_of_lookup hr v w hrest]
    | false =>
      obtain ⟨a, v⟩ := v
      obtain ⟨b, w⟩ := w
      obtain ⟨ha, hrest⟩ := Json.field?_inj (lookup_toFields hname v) (lookup_toFields hname w)
        fun k => by simpa only [toFields, List.lookup_append] using hvw k
      rw [Option.map_injective (toJson_injective hs) ha, eq_of_lookup hr v w hrest]

end

theorem listToJson_injective {s : Shape} (hs : s.distinct) : Injective s.listToJson :=
  Json.array_injective (toJson_injective hs)

mutual

theorem exact_toJson : ∀ (s : Shape) (v : s.Value), (s.toJson v).Exact
  | .text, _ => .string _
  | .flag, _ => .bool _
  | .int32, _ => .int _
  | .int64, _ => .int _
  | .intOrText, .inl _ => .int _
  | .intOrText, .inr _ => .string _
  | .tree, _ => Tree.exact_toJson _
  | .list s, l => Json.exact_array (exact_toJson s) l
  | .map s, m => Json.exact_map (exact_toJson s) m
  | .record slots, v => .object (exact_toFields slots v)

theorem exact_toFields : ∀ (slots : List (Slot Shape)) (v : Values slots),
    Json.ExactFields (toFields slots v)
  | [], _ => Json.exactFields_nil
  | ⟨_, true, s⟩ :: r, (a, v) =>
    Json.exactFields_cons.mpr ⟨exact_toJson s a, exact_toFields r v⟩
  | ⟨_, false, s⟩ :: r, (a, v) =>
    Json.exactFields_append.mpr
      ⟨Json.exactFields_field? (exact_toJson s) _ a, exact_toFields r v⟩

end

/-! Values among other fields. -/

/-- None of some fields has the name of a field of the record. -/
def Apart (slots : List (Slot Shape)) (l : List (String × Json)) : Prop :=
  ∀ e ∈ l, lacks slots e.1

@[simp] theorem apart_nil : Apart slots [] := List.forall_mem_nil _

@[simp] theorem apart_cons (h : lacks slots name) (v : Json) (l : List (String × Json)) :
    Apart slots ((name, v) :: l) ↔ Apart slots l :=
  List.forall_mem_cons.trans (and_iff_right h)

@[simp] theorem apart_append {l m : List (String × Json)} :
    Apart slots (l ++ m) ↔ Apart slots l ∧ Apart slots m := List.forall_mem_append

@[simp] theorem apart_field? (h : lacks slots name) (o : Option Json) :
    Apart slots (Json.field? name o) := by
  cases o with
  | none => exact apart_nil
  | some v => exact (apart_cons h v []).mpr apart_nil

@[simp] theorem apart_text? (h : lacks slots name) (o : Option String) :
    Apart slots (Json.text? name o) := apart_field? h _

theorem Apart.lookup {l : List (String × Json)} (hl : Apart slots l)
    (h : ¬lacks slots name) : l.lookup name = none := by
  refine List.lookup_eq_none_iff.mpr fun e he => bne_iff_ne.mpr ?_
  rintro rfl
  exact h (hl e he)

/-- Values that are written among fields of other names show, and so do those fields. -/
theorem among_inj {l m : List (String × Json)} {v w : Values slots} (hslots : distinctSlots slots)
    (hl : Apart slots l) (hm : Apart slots m)
    (h : ∀ key, (among slots v l).lookup key = (among slots w m).lookup key) :
    v = w ∧ ∀ key, l.lookup key = m.lookup key := by
  have hboth (key : String) : (toFields slots v).lookup key = (toFields slots w).lookup key ∧
      l.lookup key = m.lookup key := by
    have hkey := h key
    rw [among, among, KeyMap.lookup_insertEntries, KeyMap.lookup_insertEntries] at hkey
    by_cases hname : lacks slots key
    · rw [lookup_toFields hname, lookup_toFields hname] at hkey ⊢
      exact ⟨rfl, hkey⟩
    · rw [hl.lookup hname, hm.lookup hname, Option.or_none, Option.or_none] at hkey
      exact ⟨hkey, by rw [hl.lookup hname, hm.lookup hname]⟩
  exact ⟨eq_of_lookup hslots v w fun key => (hboth key).1, fun key => (hboth key).2⟩

theorem exactFields_among {l : List (String × Json)} (hl : Json.ExactFields l)
    (v : Values slots) : Json.ExactFields (among slots v l) :=
  Json.exactFields_insertEntries (exact_toFields slots v) hl

end Shape

end PodPipeline
