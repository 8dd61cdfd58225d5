import PodPipeline.Cluster.Fault
import PodPipeline.Cluster.Reporter
import PodPipeline.Run.Single

/-! A cluster in memory with a clock, with faults for the calls of steps, and with reporters that
work in the background. -/
namespace PodPipeline

structure Cluster where
  store : PodStore := {}
  plan : FaultPlan := {}
  now : Instant := .zero
  reporters : List Reporter := []
  /-- The reporters whose turn it is, by their places, the next one first. -/
  ready : List Nat := []

/-- A run of a step against the cluster, with its call that is held back. -/
structure ClusterRun where
  step : PodStep
  stage : RunStage
  hold : Option Hold := none

namespace Cluster

/-! Reporters. -/

/-- The reporters that wait and have something to read get a turn, in the order of their watches. -/
def wake (c : Cluster) : Cluster :=
  let woken := (List.range c.reporters.length).filter fun i =>
    i ∉ c.ready && c.reporters[i]?.any (·.hasNews c.store)
  { c with ready := c.ready ++ woken }

/-- Starts a reporter, which gets its first turn after those that have one. -/
def startReporter (c : Cluster) (ns : String) (status : PodStatus) : Cluster × Nat :=
  let (store, r) := Reporter.start c.store ns status
  let i := c.reporters.length
  ({ c with store, reporters := c.reporters ++ [r], ready := c.ready ++ [i] }, i)

def finishReporter (c : Cluster) (i : Nat) (r : Reporter) (result : Option String) : Cluster :=
  { c with reporters := c.reporters.set i { r with result := some result } }

def unfinished (c : Cluster) : Nat := c.reporters.countP (·.result.isNone)

theorem unfinished_finishReporter_lt {c : Cluster} {i : Nat} {r : Reporter} {o : Option String}
    (hi : c.reporters[i]? = some r) (hr : r.result = none) :
    (c.finishReporter i r o).unfinished < c.unfinished := by
  obtain ⟨h, rfl⟩ := List.getElem?_eq_some_iff.1 hi
  have hopen : c.reporters[i].result.isNone = true := by rw [hr]; rfl
  have hpos : 0 < c.unfinished := List.countP_pos_iff.2 ⟨_, List.getElem_mem h, hopen⟩
  have hset : (c.finishReporter i c.reporters[i] o).unfinished = c.unfinished - 1 + 0 := by
    unfold unfinished finishReporter
    rw [List.countP_set h, if_pos hopen, if_neg (by simp)]
  omega

/-- Lets the reporters work until none of them has a turn. -/
def settle (c : Cluster) : Cluster :=
  match _h : c.ready with
  | [] => c
  | i :: rest =>
    match _hi : c.reporters[i]? with
    | none => settle { c with ready := rest }
    | some r =>
      if _hr : r.result = none then
        match r.turn c.store with
        | (store, none) => settle { c with store, ready := rest }
        | (store, some o) => settle (wake ({ c with store, ready := rest }.finishReporter i r o))
      else settle { c with ready := rest }
termination_by (c.unfinished, c.ready.length)
decreasing_by
  · exact .right _ (by simp [*])
  · exact .right _ (by simp [*])
  · exact .left _ _ (unfinished_finishReporter_lt _hi _hr)
  · exact .right _ (by simp [*])

/-- Changes the store, which may give reporters something to read. -/
def update (c : Cluster) (store : PodStore) : Cluster := { c with store }.wake

def advance (c : Cluster) (d : Duration) : Cluster :=
  { c with now := (c.now.add? d).getD c.now }.settle

/-! Steps. -/

def stepClient : PodClient (Faulty PodStore) := Faulty.client PodStore.client

def seen (c : Cluster) (hold : Option Hold) : Faulty PodStore := ⟨c.store, c.plan, hold⟩

def after (c : Cluster) (f : Faulty PodStore) : Cluster :=
  { c with plan := f.plan }.update f.world

/-- Lets a run go on until it is blocked or over. -/
def poll (c : Cluster) (r : ClusterRun) : Cluster × ClusterRun × List LogEvent :=
  let t := r.step.poll stepClient c.now r.stage (c.seen r.hold)
  (c.after t.world, { r with stage := t.stage, hold := t.world.hold }, t.log)

def drop (c : Cluster) (r : ClusterRun) : Cluster :=
  c.after (r.stage.release stepClient (c.seen r.hold))

/-- Asks once whether a step is done. -/
def done (c : Cluster) (s : PodStep) : Cluster × Option (Except StepError Bool) :=
  let (f, answer) := s.done stepClient c.now false (c.seen none)
  (c.after f, answer)

/-- Asks once for the removal of a step's pod. -/
def cleanup (c : Cluster) (s : PodStep) :
    Cluster × Option (Except StepError Unit × List LogEvent) :=
  let (f, answer) := s.cleanup stepClient c.now false (c.seen none)
  (c.after f, answer)

end Cluster

end PodPipeline
