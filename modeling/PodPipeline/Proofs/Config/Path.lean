import PodPipeline.Config.Pipeline

/-! The segments of a path are the texts that its slashes enclose. -/
namespace PodPipeline

/-- A text without slashes that stands between two slashes of a path, or between one and an end. -/
structure IsSegment (s path : List Char) : Prop where
  no_slash : '/' ∉ s
  split : ∃ before after, path = before ++ s ++ after ∧
    (before = [] ∨ before.getLast? = some '/') ∧ (after = [] ∨ after.head? = some '/')

variable {s a b path : List Char}

theorem isSegment_self (h : '/' ∉ s) : IsSegment s s :=
  ⟨h, [], [], by simp, .inl rfl, .inl rfl⟩

theorem IsSegment.append_left (h : IsSegment s a) (b : List Char) :
    IsSegment s (a ++ '/' :: b) := by
  obtain ⟨hs, before, after, rfl, hbefore, hafter⟩ := h
  refine ⟨hs, before, after ++ '/' :: b, by simp, hbefore, .inr ?_⟩
  rcases hafter with rfl | hafter
  · rfl
  · rw [List.head?_append, hafter, Option.some_or]

theorem IsSegment.append_right (h : IsSegment s b) (a : List Char) :
    IsSegment s (a ++ '/' :: b) := by
  obtain ⟨hs, before, after, rfl, hbefore, hafter⟩ := h
  refine ⟨hs, a ++ '/' :: before, after, by simp, .inr ?_, hafter⟩
  rcases hbefore with rfl | hbefore
  · rw [List.getLast?_append, List.getLast?_singleton, Option.some_or]
  · rw [List.getLast?_append, List.getLast?_cons, hbefore, Option.getD_some, Option.some_or]

theorem pathSegments_of_no_slash (h : '/' ∉ path) : pathSegments path = [path] :=
  List.splitOnP_eq_singleton fun _ hc => decide_eq_false fun he => h (he ▸ hc)

/-- A slash separates the segments before it from those behind it. -/
theorem pathSegments_append (a b : List Char) :
    pathSegments (a ++ '/' :: b) = pathSegments a ++ pathSegments b :=
  List.splitOnP_append_cons a b (decide_eq_true rfl)

private theorem isSegment_of_mem (ha : '/' ∉ a) (h : s ∈ pathSegments (a ++ b)) :
    IsSegment s (a ++ b) := by
  induction b generalizing a with
  | nil =>
    rw [List.append_nil] at h ⊢
    rw [pathSegments_of_no_slash ha, List.mem_singleton] at h
    rw [h]
    exact isSegment_self ha
  | cons c b ih =>
    by_cases hc : c = '/'
    · subst hc
      rw [pathSegments_append, pathSegments_of_no_slash ha] at h
      rcases List.mem_cons.mp h with rfl | h
      · exact (isSegment_self ha).append_left b
      · exact (ih (a := []) List.not_mem_nil h).append_right a
    · rw [List.append_cons] at h ⊢
      exact ih (by simp [ha, Ne.symm hc]) h

/-- A path is split into its segments. -/
theorem mem_pathSegments : s ∈ pathSegments path ↔ IsSegment s path := by
  refine ⟨isSegment_of_mem (a := []) List.not_mem_nil, ?_⟩
  rintro ⟨hs, before, after, rfl, hbefore, hafter⟩
  have hleft : s ∈ pathSegments (before ++ s) := by
    rcases hbefore with rfl | hbefore
    · exact pathSegments_of_no_slash hs ▸ List.mem_singleton_self s
    · obtain ⟨a, rfl⟩ := List.getLast?_eq_some_iff.mp hbefore
      rw [List.append_assoc, List.singleton_append, pathSegments_append,
        pathSegments_of_no_slash hs]
      exact List.mem_append_right _ (List.mem_singleton_self s)
  rcases hafter with rfl | hafter
  · rwa [List.append_nil]
  · obtain ⟨b, rfl⟩ := List.head?_eq_some_iff.mp hafter
    rw [pathSegments_append]
    exact List.mem_append_left _ hleft

end PodPipeline
