import PodPipeline.Pod.Basic

/-! Tables of pods, with at most one pod of a name in a namespace. -/
namespace PodPipeline

structure PodKey where
  «namespace» : String
  name : String
deriving DecidableEq, Repr

def Pod.key (p : Pod) : PodKey := ⟨p.namespace, p.name⟩

structure PodTable where
  entries : List (PodKey × Pod) := []
deriving Repr

namespace PodTable

def find? (t : PodTable) (k : PodKey) : Option Pod := (t.entries.find? (·.1 = k)).map (·.2)

def erase (t : PodTable) (k : PodKey) : PodTable := ⟨t.entries.filter (·.1 ≠ k)⟩

/-- Puts a pod at its place; one that stood there is replaced. -/
def insert (t : PodTable) (k : PodKey) (p : Pod) : PodTable := ⟨(k, p) :: (t.erase k).entries⟩

@[simp] theorem find?_empty (k : PodKey) : PodTable.find? {} k = none := rfl

theorem find?_erase_self (t : PodTable) (k : PodKey) : (t.erase k).find? k = none := by
  simp [find?, erase]

theorem find?_erase_of_ne (t : PodTable) {k l : PodKey} (h : l ≠ k) :
    (t.erase k).find? l = t.find? l := by
  simp only [find?, erase, List.find?_filter]
  congr 2
  funext e
  by_cases he : e.1 = l <;> simp [he, h]

@[simp] theorem find?_insert_self (t : PodTable) (k : PodKey) (p : Pod) :
    (t.insert k p).find? k = some p := by
  simp [find?, insert]

theorem find?_insert_of_ne (t : PodTable) {k l : PodKey} (h : l ≠ k) (p : Pod) :
    (t.insert k p).find? l = t.find? l := by
  rw [← find?_erase_of_ne t h]
  simp [find?, insert, Ne.symm h]

end PodTable

end PodPipeline
