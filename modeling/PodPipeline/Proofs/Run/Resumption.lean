import PodPipeline.Proofs.Pod.Fingerprint
import PodPipeline.Proofs.Run.Protocol

/-! What a run logs when it goes on with a pod that is there already, whatever the client does. -/
namespace PodPipeline

variable {σ : Type}

namespace LogEvent

def isDrift : LogEvent → Bool
  | .otherConfiguration .. => true
  | _ => false

/-- Whether a run says with it that it goes on with a pod, or warns of the pod. -/
def isResumption : LogEvent → Bool
  | .resuming .. | .otherConfiguration .. => true
  | _ => false

end LogEvent

def Exchange.found? (x : Exchange) : Option Pod :=
  match x with
  | ⟨.get _ _, some (.ok p)⟩ => some p
  | _ => none

def Record.found (r : Record) : List Pod := r.calls.filterMap (·.found?)

/-- What a run says of a pod that it goes on with. -/
def PodStep.resumption (s : PodStep) (pod existing : Pod) : List LogEvent :=
  .resuming s.sectionName existing.name existing.phase ::
    if pod.sameSpec existing then [] else [.otherConfiguration s.sectionName existing.name]

/-! Nothing else that a run logs is of that kind. -/

namespace CompletionWatcher

theorem isResumption_decide? (w : CompletionWatcher) (o : Option Outcome) :
    (w.decide? o).2.filter (·.isResumption) = [] := by
  unfold decide?
  split <;> rfl

theorem isResumption_observe (w : CompletionWatcher) (e : WatchEvent) :
    (w.observe e).2.filter (·.isResumption) = [] := by
  unfold observe
  split
  · rfl
  · exact w.isResumption_decide? _

theorem isResumption_streamClosed (w : CompletionWatcher) :
    w.streamClosed.2.filter (·.isResumption) = [] := by
  unfold streamClosed
  split <;> rfl

end CompletionWatcher

theorem RunGuard.Interrupts.isResumption_eq_false {g : RunGuard} {now : Instant} {e : StepError}
    {event : LogEvent} (h : g.Interrupts now e event) : event.isResumption = false := by
  have hi := h.2
  unfold interruption? at hi
  split at hi
  · cases hi
    rfl
  · obtain ⟨after, -, he⟩ := Option.map_eq_some_iff.mp hi
    cases he
    rfl

namespace PodStep

variable {client : PodClient σ} {now : Instant} {s : PodStep} {stage : RunStage} {pod : Pod}
  {r : ActiveRun} {x y : Recorded σ} {calls : List Exchange}

theorem isResumption_resume (s : PodStep) (pod existing : Pod) :
    (s.resume pod existing).2.filter (·.isResumption) = s.resumption pod existing := by
  have hlook := CompletionWatcher.isResumption_decide? { podName := s.name }
    (if existing.name = s.name then existing.verdict else none)
  have hlog : (s.resume pod existing).2 = s.resumption pod existing ++
      (CompletionWatcher.observePod { podName := s.name } existing).2 := rfl
  rw [hlog, List.filter_append]
  refine (congrArg (_ ++ ·) hlook).trans ?_
  unfold resumption
  generalize pod.sameSpec existing = same
  cases same <;> rfl

/-- Of the record of a run, the exchange that it has just tried is all that is new. -/
theorem Traced.filterMap_tried {β : Type} {f : Exchange → Option β} (hf : ∀ c, f ⟨c, none⟩ = none)
    (h : Traced s pod (.active r) x.record.calls) {c : ClientCall} {phase : CallPhase}
    {answer : Option (ClientResult c.Value)} (ha : s.awaited r.pod r.await = some (c, phase))
    (hw : (Recorded.client client).poll now c r.begun x = (y, answer)) :
    y.record.calls.filterMap f = x.record.calls.filterMap f ++ (f ⟨c, answer⟩).toList := by
  obtain ⟨done, -, hx, hy⟩ := h.calls_tried ha hw
  have hnew (z : Exchange) : [z].filterMap f = (f z).toList := by
    cases hz : f z <;> simp [hz]
  have hongoing : (s.ongoing r).filterMap f = [] := by
    unfold ongoing
    cases r.begun with
    | false => rfl
    | true => simp [ha, hf]
  rw [hy, hx, List.filterMap_append, List.filterMap_append, hongoing, List.append_nil, hnew]

/-- A run that finds a pod says so, and warns of it if it comes from another configuration. -/
theorem Moves.resumption {t : RunTick (Recorded σ)} (hp : s.pod = .ok pod)
    (h : Traced s pod stage x.record.calls)
    (hm : s.Moves (Recorded.client client) now stage x t) :
    ∃ news, t.world.record.found = x.record.found ++ news ∧
      t.log.filter (·.isResumption) = news.flatMap (s.resumption pod) := by
  have hnone : ∀ c, (Exchange.mk c none).found? = none := by
    intro c
    cases c <;> rfl
  have hfailed : ∀ (c : ClientCall) (e : ClientError),
      (Exchange.mk c (some (.error e))).found? = none := by
    intro c e
    cases c <;> rfl
  have hquiet {y : Recorded σ} (hy : y.record = x.record) :
      y.record.found = x.record.found ++ [] := by
    rw [hy, List.append_nil]
  have hread {w : WatchId} {y : Recorded σ} {d : Delivery}
      (hn : ((Recorded.client client).source w).next x = (y, d)) :
      y.record.found = x.record.found ++ [] := by
    rw [List.append_nil]
    exact congrArg (List.filterMap _) (Recorded.calls_next hn)
  cases hm with
  | refused | undated | begun | rested | decided => exact ⟨[], hquiet rfl, rfl⟩
  | interrupted hg =>
    refine ⟨[], hquiet (Recorded.record_release _ _), ?_⟩
    rw [List.filter_cons, hg.isResumption_eq_false]
    rfl
  | brokenDown => exact ⟨[], hquiet (Recorded.record_release _ _), rfl⟩
  | waiting hc ha hw => exact ⟨_, h.filterMap_tried hnone ha hw, by rw [hnone]; rfl⟩
  | failed hc ha he hw =>
    refine ⟨_, (congrArg Record.found (Recorded.record_release _ _)).trans
      (h.filterMap_tried hnone ha hw), ?_⟩
    rw [hfailed]
    rfl
  | opened hc ha hw =>
    exact ⟨_, h.filterMap_tried hnone (by rw [ha]; rfl) hw, rfl⟩
  | settled hc ha hv hw | resumed hc ha hv hw =>
    obtain rfl : _ = pod := h.active_inv.1
    have hfound := h.filterMap_tried hnone (s.awaited_get _ ha) hw
    refine ⟨_, hfound, ?_⟩
    exact (s.isResumption_resume _ _).trans (List.append_nil _).symm
  | missing hc ha he hw => exact ⟨_, h.filterMap_tried hnone (by rw [ha]; rfl) hw, rfl⟩
  | created hc ha hw => exact ⟨_, h.filterMap_tried hnone (by rw [ha]; rfl) hw, rfl⟩
  | conflicted hc ha hf hw => exact ⟨_, h.filterMap_tried hnone (by rw [ha]; rfl) hw, rfl⟩
  | read hc ha hr hn =>
    exact ⟨[], hread hn, CompletionWatcher.isResumption_observe _ _⟩
  | blocked hc ha hr hn => exact ⟨[], hread hn, rfl⟩
  | ended hc ha hr hn =>
    have hfound := hread hn
    refine ⟨[], hfound, ?_⟩
    rw [List.filter_append, CompletionWatcher.isResumption_streamClosed]
    rfl

/-- A run finds one pod at most. -/
theorem Traced.length_found (h : Traced s pod stage calls) :
    (calls.filterMap (·.found?)).length ≤ 1 := by
  have hpath {calls : List Exchange} {await : Await} (h : Path s pod calls await) :
      (calls.filterMap (·.found?)).length ≤ 1 := by
    cases h with
    | found | refound => exact Nat.le_refl 1
    | _ => exact Nat.zero_le 1
  have hongoing (r : ActiveRun) : (s.ongoing r).filterMap (·.found?) = [] := by
    unfold ongoing
    cases r.begun with
    | false => rfl
    | true => cases r.await <;> rfl
  cases h with
  | idle | unstarted => exact Nat.zero_le 1
  | active hp hg h | cut hp h hi =>
    rw [List.filterMap_append, hongoing, List.append_nil]
    exact hpath h
  | @failed _ _ c _ e h ha he =>
    have hlast : [Exchange.mk c (some (.error e))].filterMap (·.found?) = [] := by
      cases c <;> rfl
    rw [List.filterMap_append, hlast, List.append_nil]
    exact hpath h
  | returned h => exact hpath h

end PodStep

end PodPipeline
