import PodPipeline.Time.Duration

/-! Processes on a virtual clock, which stands still while something can be done and then jumps to
the next moment at which a process has more to do. -/
namespace PodPipeline

namespace Instant

def earlier (a b : Instant) : Instant := if b.nanos < a.nanos then b else a

/-- The first of some moments after `now`, unless it lies after `limit`. -/
def next? (now limit : Instant) : List Instant → Option Instant
  | [] => none
  | m :: r =>
    if now.nanos < m.nanos ∧ m.nanos ≤ limit.nanos then
      some (((next? now limit r).map (earlier m)).getD m)
    else next? now limit r

theorem next?_bounds {now limit m : Instant} {moments : List Instant}
    (h : next? now limit moments = some m) : now.nanos < m.nanos ∧ m.nanos ≤ limit.nanos := by
  induction moments generalizing m with
  | nil => simp [next?] at h
  | cons a r ih =>
    simp only [next?] at h
    split at h
    · rename_i ha
      cases hr : next? now limit r with
      | none => simp_all
      | some b =>
        have hb := ih hr
        simp only [hr, Option.map_some, Option.getD_some, Option.some.injEq] at h
        subst h
        unfold earlier
        split <;> assumption
    · exact ih h

end Instant

/-- Work with a state of type `τ` that has a result of type `α` when it is over. -/
structure Process (τ α : Type) where
  /-- Does at one moment all that can be done. -/
  poll : Instant → τ → τ × Option α
  /-- The moments at which there may be more to do. -/
  wakes : τ → List Instant

/-- Where a process has come to. There is no result if it was given up. -/
structure Ran (τ α : Type) where
  now : Instant
  state : τ
  result : Option α

/-- Runs a process until it is over, or gives it up at `limit`. At that very moment it is polled
once more if it has something to do then. -/
def Process.run {τ α : Type} (p : Process τ α) (limit now : Instant) (t : τ) : Ran τ α :=
  match p.poll now t with
  | (t, some a) => ⟨now, t, some a⟩
  | (t, none) =>
    match _h : Instant.next? now limit (p.wakes t) with
    | some m => p.run limit m t
    | none => ⟨limit, t, none⟩
termination_by limit.nanos - now.nanos
decreasing_by
  have := Instant.next?_bounds _h
  omega

end PodPipeline
