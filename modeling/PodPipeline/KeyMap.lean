/-! Maps from text keys to values, held in the order of their keys. The order is that of the keys'
code points, which is also the order of their UTF-8 bytes, so two maps with the same entries are
equal. -/
namespace PodPipeline

variable {α β : Type}

/-- A list of entries with strictly ascending keys. -/
structure KeyMap (α : Type) where
  entries : List (String × α)
  sorted : entries.Pairwise (fun a b => a.1 < b.1)

namespace KeyMap

@[ext] theorem ext {m n : KeyMap α} (h : m.entries = n.entries) : m = n := by
  obtain ⟨_, _⟩ := m; obtain ⟨_, _⟩ := n; simpa using h

instance [DecidableEq α] : DecidableEq (KeyMap α) := fun m n =>
  decidable_of_iff (m.entries = n.entries) ⟨ext, fun h => h ▸ rfl⟩

instance [Repr α] : Repr (KeyMap α) := ⟨fun m n => reprPrec m.entries n⟩

def empty : KeyMap α := ⟨[], .nil⟩

instance : Inhabited (KeyMap α) := ⟨empty⟩

/-- Puts an entry at its place; an entry of the same key is replaced. -/
def insertEntry (k : String) (v : α) : List (String × α) → List (String × α)
  | [] => [(k, v)]
  | e :: r => if k < e.1 then (k, v) :: e :: r
    else if k = e.1 then (k, v) :: r
    else e :: insertEntry k v r

/-- Puts the entries of a list at their places among those of another. -/
def insertEntries (new l : List (String × α)) : List (String × α) :=
  new.foldr (fun e l => insertEntry e.1 e.2 l) l

theorem mem_insertEntry {k : String} {v : α} {l : List (String × α)} {e : String × α}
    (h : e ∈ insertEntry k v l) : e = (k, v) ∨ e ∈ l := by
  induction l with
  | nil => simpa [insertEntry] using h
  | cons a r ih =>
    simp only [insertEntry] at h
    split at h
    · simpa using h
    · split at h
      · rcases List.mem_cons.1 h with h | h
        · exact .inl h
        · exact .inr (List.mem_cons_of_mem _ h)
      · rcases List.mem_cons.1 h with h | h
        · exact .inr (h ▸ List.mem_cons_self)
        · exact (ih h).imp id (List.mem_cons_of_mem _)

theorem lt_of_not_lt_of_ne {a b : String} (h : ¬ a < b) (hne : a ≠ b) : b < a :=
  (Std.Trichotomous.rel_or_eq_or_rel_swap (r := (· < · : String → String → Prop))
    |>.resolve_left h).resolve_left hne

@[simp] theorem insertEntry_nil (k : String) (v : α) : insertEntry k v [] = [(k, v)] := rfl

theorem insertEntry_of_lt {k l : String} (h : k < l) (v u : α) (r : List (String × α)) :
    insertEntry k v ((l, u) :: r) = (k, v) :: (l, u) :: r := if_pos h

theorem insertEntry_of_gt {k l : String} (h : l < k) (v u : α) (r : List (String × α)) :
    insertEntry k v ((l, u) :: r) = (l, u) :: insertEntry k v r := by
  have hlt : ¬k < l := fun hkl => String.lt_irrefl _ (String.lt_trans h hkl)
  have hne : k ≠ l := fun he => String.lt_irrefl _ (he ▸ h)
  rw [insertEntry, if_neg hlt, if_neg hne]

theorem pairwise_insertEntry (k : String) (v : α) {l : List (String × α)}
    (h : l.Pairwise (fun a b => a.1 < b.1)) :
    (insertEntry k v l).Pairwise (fun a b => a.1 < b.1) := by
  induction l with
  | nil => simp [insertEntry]
  | cons a r ih =>
    obtain ⟨ha, hr⟩ := List.pairwise_cons.1 h
    simp only [insertEntry]
    split
    · rename_i hk
      refine List.pairwise_cons.2 ⟨fun b hb => ?_, h⟩
      rcases List.mem_cons.1 hb with rfl | hb
      · exact hk
      · exact String.lt_trans hk (ha b hb)
    · split
      · rename_i hk
        exact List.pairwise_cons.2 ⟨fun b hb => by simpa [hk] using ha b hb, hr⟩
      · rename_i hlt hne
        refine List.pairwise_cons.2 ⟨fun b hb => ?_, ih hr⟩
        rcases mem_insertEntry hb with rfl | hb
        · exact lt_of_not_lt_of_ne hlt hne
        · exact ha b hb

def insert (m : KeyMap α) (k : String) (v : α) : KeyMap α :=
  ⟨insertEntry k v m.entries, pairwise_insertEntry k v m.sorted⟩

/-- The map of a list of entries, in which the last entry of a key counts. -/
def ofList (l : List (String × α)) : KeyMap α :=
  l.foldl (fun m e => m.insert e.1 e.2) empty

def keys (m : KeyMap α) : List String := m.entries.map (·.1)

def find? (m : KeyMap α) (k : String) : Option α :=
  (m.entries.find? (·.1 = k)).map (·.2)

def isEmpty (m : KeyMap α) : Bool := m.entries.isEmpty

theorem nodup_keys (m : KeyMap α) : m.keys.Nodup := by
  refine List.pairwise_map.2 (m.sorted.imp fun h e => ?_)
  exact String.lt_irrefl _ (e ▸ h)

end KeyMap

end PodPipeline
