import PodPipeline.Proofs.Scene.Calm
import PodPipeline.Proofs.Store.Reporting

/-! A run and a reporter at one store, as seen from the store.

The run has seven moves to make and the reporter three. Whatever their order is, the store depends
only on how many of them each has made: `Score.storeAt`. -/
namespace PodPipeline

/-- The watch is told of some events in a namespace, one after the other. -/
def Subscription.hear (ns : String) (events : List WatchEvent) (s : Subscription) : Subscription :=
  events.foldl (fun s e => s.notify ns e) s

@[simp] theorem Subscription.notify_hear (ns : String) (e : WatchEvent) (l : List WatchEvent)
    (s : Subscription) : (s.hear ns l).notify ns e = s.hear ns (l ++ [e]) := by
  simp [hear]

theorem Subscription.isOpen_hear (ns : String) (l : List WatchEvent) (s : Subscription) :
    (s.hear ns l).channel.isOpen = s.channel.isOpen := by
  induction l generalizing s with
  | nil => rfl
  | cons e l ih =>
    refine (ih (s.notify ns e)).trans ?_
    unfold notify
    split
    · unfold EventChannel.send
      split <;> rfl
    · rfl

theorem Subscription.notify_open (ns : String) {o : ListOptions} {e : WatchEvent}
    (h : o.reports e) (q : List WatchEvent) :
    notify ns e ⟨ns, o, { queue := q }⟩ = ⟨ns, o, { queue := q ++ [e] }⟩ := by
  simp [notify, reports, h, EventChannel.send, EventChannel.isOpen]

namespace PodStore

variable {s : PodStore} {w : WatchId} {l r : List Subscription} {a : Subscription}

theorem channel?_middle (hs : s.watches = l ++ a :: r) (hw : w.number = l.length) :
    s.channel? w = some a.channel := by
  simp [channel?, hs, hw]

theorem setChannel_middle (hs : s.watches = l ++ a :: r) (hw : w.number = l.length)
    (c : EventChannel) :
    s.setChannel w c = { s with watches := l ++ { a with channel := c } :: r } := by
  simp [setChannel, hs, hw, List.modify_eq_take_cons_drop]

theorem next_middle (hs : s.watches = l ++ a :: r) (hw : w.number = l.length) :
    s.next w = ({ s with watches := l ++ { a with channel := a.channel.next.1 } :: r },
      a.channel.next.2) := by
  rw [next, channel?_middle hs hw]
  simp only [setChannel_middle hs hw]

theorem stop_middle (hs : s.watches = l ++ a :: r) (hw : w.number = l.length) :
    s.stop w = { s with watches := l ++ { a with channel := a.channel.stop } :: r } := by
  rw [stop, channel?_middle hs hw]
  exact setChannel_middle hs hw _

end PodStore

/-- A step with a pod that can be built, a status that gives the pod an outcome, and a store without
a pod in the place of the step's. -/
structure Score where
  step : PodStep
  pod : Pod
  status : PodStatus
  outcome : Outcome
  store : PodStore
  built : step.pod = .ok pod
  decides : (pod.withStatus (some status)).verdict = some outcome
  vacant : store.pods.find? step.key = none

namespace Score

variable (c : Score) {i j : Nat}

def reported : Pod := c.pod.withStatus (some c.status)

def overview : WatchId := ⟨c.store.watches.length⟩

def watch : WatchId := ⟨c.store.watches.length + 1⟩

/-- The events that were sent when the run has made `i` moves and the reporter `j`. -/
def told (i j : Nat) : List WatchEvent :=
  (if 4 ≤ i then [.added c.pod] else []) ++ (if 2 ≤ j then [.modified c.reported] else [])

/-- The reporter reads one event, with its first move, and stops its watch with the third. -/
def overviewAt (i j : Nat) : Subscription :=
  ⟨c.step.namespace, {}, { queue := (c.told i j).drop (min j 1), stopped := 3 ≤ j }⟩

/-- The run opens its watch with its second move, reads an event with each of the fifth and sixth,
and stops its watch with the last. -/
def watchAt (i j : Nat) : Subscription :=
  ⟨c.step.namespace, ⟨some c.step.name⟩,
    { queue := (c.told i j).drop (i - 4), stopped := 7 ≤ i }⟩

/-- The store when the run has made `i` of its moves and the reporter `j`. -/
def storeAt (i j : Nat) : PodStore :=
  let ns := c.step.namespace
  let name := c.step.name
  let created := if 4 ≤ i then c.store.pods.insert c.step.key c.pod else c.store.pods
  { pods := if 2 ≤ j then created.insert c.step.key c.reported else created
    watches := c.store.watches.map (Subscription.hear ns (c.told i j)) ++
      c.overviewAt i j :: if 2 ≤ i then [c.watchAt i j] else []
    actions := c.store.actions ++
      (.watch ns {} :: [.watch ns ⟨some name⟩, .get ns name, .create ns name].take (i - 1) ++
        if 2 ≤ j then [.updateStatus ns name] else []) }

theorem find?_store : c.store.pods.find? ⟨c.step.namespace, c.step.name⟩ = none := c.vacant

theorem name_reported : c.reported.name = c.step.name :=
  (Pod.name_withStatus c.pod _).trans (PodStep.name_pod c.built)

/-- The watch of the reporter stands before that of the run. -/
theorem watches_storeAt (i j : Nat) : (c.storeAt i j).watches =
    c.store.watches.map (Subscription.hear c.step.namespace (c.told i j)) ++
      c.overviewAt i j :: if 2 ≤ i then [c.watchAt i j] else [] := rfl

/-- The watch of the run is the last one. -/
theorem watches_storeAt_of_le (h : 2 ≤ i) (j : Nat) : (c.storeAt i j).watches =
    (c.store.watches.map (Subscription.hear c.step.namespace (c.told i j)) ++ [c.overviewAt i j]) ++
      c.watchAt i j :: [] := by
  simp [watches_storeAt, h]

/-! The moves, one after the other. -/

theorem start_eq : (Reporter.start c.store c.step.namespace c.status).1 = c.storeAt 0 0 := by
  have hmap (l : List Subscription) : l.map (Subscription.hear c.step.namespace []) = l :=
    List.map_id l
  simp [Reporter.start, PodStore.watch, PodStore.record, storeAt, told, overviewAt, hmap]

theorem watch_storeAt :
    (c.storeAt 1 0).watch c.step.namespace ⟨some c.step.name⟩ = (c.storeAt 2 0, c.watch) := by
  simp [PodStore.watch, PodStore.record, storeAt, told, overviewAt, watchAt, watch]

theorem get_storeAt : ((c.storeAt 2 0).get c.step.namespace c.step.name).1 = c.storeAt 3 0 := by
  simp [PodStore.get, PodStore.record, storeAt, told, overviewAt, watchAt,
    c.find?_store]

theorem create_storeAt : ((c.storeAt 3 0).create c.step.namespace c.pod).1 = c.storeAt 4 0 := by
  have hn : c.pod.name = c.step.name := PodStep.name_pod c.built
  have hself : c.pod.inNamespace c.step.namespace = c.pod := PodStep.inNamespace_pod c.built
  have hear (o : ListOptions) (ho : o.name.all (· = c.pod.name)) :=
    Subscription.notify_open c.step.namespace (e := .added c.pod) (o := o) ho []
  simp [PodStore.create, PodStore.record, PodStore.broadcast, storeAt, told,
    overviewAt, watchAt, PodStep.key, c.find?_store, hn, hself, hear]

theorem next_storeAt_added (j : Nat) :
    (c.storeAt 4 j).next c.watch = (c.storeAt 5 j, .event (.added c.pod)) := by
  rw [PodStore.next_middle (c.watches_storeAt_of_le (by decide) j) (by simp [watch])]
  simp [EventChannel.next, storeAt, told, overviewAt, watchAt]

theorem next_storeAt_pending (hj : j < 2) :
    (c.storeAt 5 j).next c.watch = (c.storeAt 5 j, .pending) := by
  have hj : ¬2 ≤ j := by omega
  rw [PodStore.next_middle (c.watches_storeAt_of_le (by decide) j) (by simp [watch])]
  simp [EventChannel.next, storeAt, told, overviewAt, watchAt, hj]

theorem next_storeAt_modified (hj : 2 ≤ j) :
    (c.storeAt 5 j).next c.watch = (c.storeAt 6 j, .event (.modified c.reported)) := by
  rw [PodStore.next_middle (c.watches_storeAt_of_le (by decide) j) (by simp [watch])]
  simp [EventChannel.next, storeAt, told, overviewAt, watchAt, hj]

theorem stop_storeAt (hj : 2 ≤ j) : (c.storeAt 6 j).stop c.watch = c.storeAt 7 j := by
  rw [PodStore.stop_middle (c.watches_storeAt_of_le (by decide) j) (by simp [watch])]
  simp [EventChannel.stop, storeAt, told, overviewAt, watchAt, hj]

theorem next_overview_pending (hi : i < 4) :
    (c.storeAt i 0).next c.overview = (c.storeAt i 0, .pending) := by
  have hi : ¬4 ≤ i := by omega
  rw [PodStore.next_middle (c.watches_storeAt i 0) (by simp [overview])]
  simp [EventChannel.next, storeAt, told, overviewAt, watchAt, hi]

theorem next_overview_added (hi : 4 ≤ i) :
    (c.storeAt i 0).next c.overview = (c.storeAt i 1, .event (.added c.pod)) := by
  rw [PodStore.next_middle (c.watches_storeAt i 0) (by simp [overview])]
  simp [EventChannel.next, storeAt, told, overviewAt, watchAt, hi]

theorem updateStatus_storeAt (hi : i = 4 ∨ i = 5) :
    (c.storeAt i 1).updateStatus c.step.namespace c.reported = (c.storeAt i 2, .ok c.reported) := by
  have hstatus : c.pod.withStatus c.reported.status = c.reported := rfl
  have hf : (c.store.pods.insert ⟨c.step.namespace, c.step.name⟩ c.pod).find?
    ⟨c.step.namespace, c.step.name⟩ = some c.pod := PodTable.find?_insert_self _ _ _
  have hear (o : ListOptions) (ho : o.name.all (· = c.reported.name)) :=
    Subscription.notify_open c.step.namespace (e := .modified c.reported) (o := o) ho
  rcases hi with rfl | rfl <;>
    simp [PodStore.updateStatus, PodStore.record, PodStore.broadcast, storeAt, told, overviewAt,
      watchAt, PodStep.key, c.name_reported, hf, hstatus, hear]

theorem stop_overview (i : Nat) : (c.storeAt i 2).stop c.overview = c.storeAt i 3 := by
  rw [PodStore.stop_middle (c.watches_storeAt i 2) (by simp [overview])]
  simp [EventChannel.stop, storeAt, told, overviewAt, watchAt]

/-! How the two stand. -/

/-- How a run stands that has made `i` of its moves. -/
inductive Plays (c : Score) : Nat → RunStage → Prop where
  | idle {ctx} (h : ctx.Calm) : Plays c 0 (.idle ctx)
  | opening {g} (h : g.Calm) : Plays c 1 (.active { pod := c.pod, guard := g, await := .watch })
  | looking {g} (h : g.Calm) :
    Plays c 2 (.active { pod := c.pod, guard := g, await := .lookup c.watch })
  | creating {g} (h : g.Calm) :
    Plays c 3 (.active { pod := c.pod, guard := g, await := .create c.watch })
  /-- The run has not read that its pod was added. -/
  | waiting {g} (h : g.Calm) :
    Plays c 4 (.active { pod := c.pod, guard := g,
                         await := .events c.watch ⟨c.step.name, .watching⟩ })
  | watching {g} (h : g.Calm) :
    Plays c 5 (.active { pod := c.pod, guard := g,
                         await := .events c.watch ⟨c.step.name, .watching⟩ })
  | decided {g} (h : g.Calm) :
    Plays c 6 (.active { pod := c.pod, guard := g,
                         await := .events c.watch ⟨c.step.name, .terminal c.outcome⟩ })
  | returned : Plays c 7 (.finished (.ok c.outcome))

/-- How a reporter stands that has made `j` of its moves. -/
def taskAt : Nat → ReportStage
  | 0 => .waiting
  | 1 => .reporting c.pod
  | 2 => .leaving (some c.step.name)
  | _ => .done (some c.step.name)

def reporter : Reporter :=
  { «namespace» := c.step.namespace, watch := c.overview, status := c.status }

variable {c} {stage : RunStage}

theorem Plays.abandon (h : c.Plays i stage) : c.Plays i (stage.mapSignal .abandon) := by
  cases h with
  | idle h => exact .idle h.abandon
  | opening h => exact .opening h.abandon
  | looking h => exact .looking h.abandon
  | creating h => exact .creating h.abandon
  | waiting h => exact .waiting h.abandon
  | watching h => exact .watching h.abandon
  | decided h => exact .decided h.abandon
  | returned => exact .returned

end Score

end PodPipeline
