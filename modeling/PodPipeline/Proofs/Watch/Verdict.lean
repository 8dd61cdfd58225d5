import PodPipeline.Watch.Completion

/-! What a watcher makes of the events that it is shown: the first decisive one counts. -/
namespace PodPipeline

/-- The outcome that the first decisive one among some events decides. -/
def firstVerdict (name : String) (events : List WatchEvent) : Option Outcome :=
  events.findSome? (·.verdict name)

@[simp] theorem firstVerdict_nil (name : String) : firstVerdict name [] = none := rfl

theorem firstVerdict_cons (name : String) (e : WatchEvent) (l : List WatchEvent) :
    firstVerdict name (e :: l) = (e.verdict name).or (firstVerdict name l) := by
  unfold firstVerdict
  rw [List.findSome?_cons]
  cases e.verdict name <;> rfl

theorem firstVerdict_append (name : String) (l m : List WatchEvent) :
    firstVerdict name (l ++ m) = (firstVerdict name l).or (firstVerdict name m) :=
  List.findSome?_append

namespace CompletionWatcher

theorem startWatching_of_result {w : CompletionWatcher} (h : w.result = none) :
    w.startWatching = { w with state := .watching } := by
  simp [startWatching, isTerminal, h]

/-- A watcher that begins to watch keeps the result that it has. -/
@[simp] theorem result_startWatching (w : CompletionWatcher) : w.startWatching.result = w.result := by
  cases h : w.result with
  | some o => simp [startWatching, isTerminal, h]
  | none =>
    rw [startWatching_of_result h]
    rfl

theorem result_decide? (w : CompletionWatcher) (o : Option Outcome) :
    (w.decide? o).1.result = w.result.or o := by
  unfold decide?
  cases hr : w.result with
  | some r => simpa using hr
  | none =>
    cases o with
    | none => simpa using hr
    | some o => rfl

@[simp] theorem podName_decide? (w : CompletionWatcher) (o : Option Outcome) :
    (w.decide? o).1.podName = w.podName := by
  unfold decide?
  split <;> rfl

/-- A watcher that has a result keeps it; any other takes the verdict of the event. -/
theorem result_observe (w : CompletionWatcher) (e : WatchEvent) :
    (w.observe e).1.result = w.result.or (e.verdict w.podName) := by
  unfold observe
  split
  · rename_i hr
    simp [WatchEvent.verdict, hr]
  · exact w.result_decide? _

@[simp] theorem podName_observe (w : CompletionWatcher) (e : WatchEvent) :
    (w.observe e).1.podName = w.podName := by
  unfold observe
  split
  · rfl
  · exact w.podName_decide? _

theorem result_observePod (w : CompletionWatcher) (p : Pod) :
    (w.observePod p).1.result = w.result.or (if p.name = w.podName then p.verdict else none) :=
  w.result_decide? _

/-- The end of the events decides, if nothing has before. -/
theorem result_streamClosed (w : CompletionWatcher) :
    w.streamClosed.1.result = some (w.result.getD watchClosedOutcome) := by
  unfold streamClosed
  cases hr : w.result with
  | some r => simpa using hr
  | none => rfl

end CompletionWatcher

end PodPipeline
