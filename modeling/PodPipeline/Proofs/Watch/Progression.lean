import PodPipeline.Proofs.Watch.Waiting

/-! A watcher only goes forward, whatever it is told and shown. The first thing that decides the
outcome counts; the watcher reports it once, keeps it and answers with it from then on. -/
namespace PodPipeline

inductive WatcherAct where
  | markCreated
  | startWatching
  | observePod (pod : Pod)
  | observe (e : WatchEvent)
  | streamClosed
deriving DecidableEq, Repr

/-- How far a watcher has come. -/
def CompletionState.rank : CompletionState → Nat
  | .notStarted => 0
  | .created => 1
  | .watching => 2
  | .terminal _ => 3

theorem CompletionState.rank_le (s : CompletionState) : s.rank ≤ 3 := by
  cases s <;> simp [rank]

namespace WatcherAct

/-- The act decides the outcome of the pod called `name`. -/
inductive Decides (name : String) : WatcherAct → Outcome → Prop where
  | found {p o} (hn : p.name = name) (hv : p.verdict = some o) : Decides name (.observePod p) o
  | event {e o} (h : e.Decides name o) : Decides name (.observe e) o
  | closed : Decides name .streamClosed watchClosedOutcome

def IsIdle (name : String) (a : WatcherAct) : Prop := ∀ o, ¬a.Decides name o

/-- Whether the watcher answers with its result. -/
def isAnswered : WatcherAct → Bool
  | .markCreated | .startWatching => false
  | .observePod _ | .observe _ | .streamClosed => true

def verdict (name : String) : WatcherAct → Option Outcome
  | .markCreated | .startWatching => none
  | .observePod p => if p.name = name then p.verdict else none
  | .observe e => e.verdict name
  | .streamClosed => some watchClosedOutcome

variable {name : String} {a : WatcherAct} {o : Outcome}

theorem verdict_eq_some_iff : a.verdict name = some o ↔ a.Decides name o := by
  constructor
  · intro h
    cases a with
    | markCreated | startWatching => cases h
    | observePod p =>
      obtain ⟨hn, hv⟩ := Option.ite_none_right_eq_some.mp h
      exact .found hn hv
    | observe e => exact .event (WatchEvent.verdict_eq_some_iff.mp h)
    | streamClosed =>
      cases h
      exact .closed
  · intro h
    cases h with
    | found hn hv => exact (if_pos hn).trans hv
    | event h => exact WatchEvent.verdict_eq_some_iff.mpr h
    | closed => rfl

theorem verdict_eq_none_iff : a.verdict name = none ↔ a.IsIdle name := by
  simp only [IsIdle, ← verdict_eq_some_iff, Option.eq_none_iff_forall_ne_some, ne_eq]

end WatcherAct

/-- The report that the pod has come to a terminal phase. -/
def LogEvent.isFinal (event : LogEvent) : Bool := event.message = "pod reached a terminal phase"

namespace CompletionWatcher

def act (w : CompletionWatcher) : WatcherAct → CompletionWatcher × List LogEvent
  | .markCreated => (w.markCreated, [])
  | .startWatching => (w.startWatching, [])
  | .observePod p => w.observePod p
  | .observe e => w.observe e
  | .streamClosed => w.streamClosed

def answer (w : CompletionWatcher) (a : WatcherAct) : Option Outcome :=
  if a.isAnswered then (w.act a).1.result else none

variable {w : CompletionWatcher} {a : WatcherAct} {o : Outcome}

theorem result_eq_some_iff : w.result = some o ↔ w.state = .terminal o := by
  unfold result
  cases w.state <;> simp

/-- Without a result a watcher has not come to its last state. -/
theorem rank_of_result (h : w.result = none) : w.state.rank ≤ 2 := by
  cases hs : w.state with
  | terminal o => simp [result, hs] at h
  | notStarted | created | watching => simp [CompletionState.rank]

theorem decide?_of_result (h : w.result = some o) (o' : Option Outcome) :
    w.decide? o' = (w, []) := by
  simp [decide?, h]

theorem decide?_none (w : CompletionWatcher) : w.decide? none = (w, []) := by
  unfold decide?
  cases w.result <;> rfl

theorem decide?_some (h : w.result = none) (o : Outcome) : w.decide? (some o) = w.finish o := by
  simp [decide?, h]

/-- A watcher that has a result stays as it is, and says nothing more. -/
theorem act_of_result (h : w.result = some o) (a : WatcherAct) : w.act a = (w, []) := by
  have hstate := result_eq_some_iff.mp h
  cases a with
  | markCreated => simp [act, markCreated, hstate]
  | startWatching => simp [act, startWatching, isTerminal, h]
  | observePod p => exact decide?_of_result h _
  | observe e =>
    simp only [act, observe, h]
    exact decide?_of_result h _
  | streamClosed => simp [act, streamClosed, h]

/-- No act takes a watcher back. -/
theorem rank_le_act (w : CompletionWatcher) (a : WatcherAct) :
    w.state.rank ≤ (w.act a).1.state.rank := by
  cases hr : w.result with
  | some o =>
    have hsame : (w.act a).1 = w := congrArg Prod.fst (act_of_result hr a)
    exact Nat.le_of_eq (congrArg (·.state.rank) hsame.symm)
  | none =>
    have hdecide (o : Option Outcome) : w.state.rank ≤ (w.decide? o).1.state.rank := by
      cases o with
      | none => exact Nat.le_of_eq (by rw [decide?_none])
      | some o =>
        rw [decide?_some hr]
        exact w.state.rank_le
    cases a with
    | markCreated =>
      simp only [act, markCreated]
      split
      · rename_i h
        rw [h]
        exact Nat.zero_le _
      · exact Nat.le_refl _
    | startWatching =>
      simp only [act, startWatching_of_result hr]
      exact rank_of_result hr
    | observePod p => exact hdecide _
    | observe e =>
      simp only [act, observe, hr]
      split
      · exact Nat.le_refl _
      · exact hdecide _
    | streamClosed =>
      simp only [act, streamClosed, hr]
      exact w.state.rank_le

@[simp] theorem podName_act (w : CompletionWatcher) (a : WatcherAct) :
    (w.act a).1.podName = w.podName := by
  cases a with
  | markCreated | startWatching =>
    simp only [act, markCreated, startWatching]
    split <;> rfl
  | observePod p => exact w.podName_decide? _
  | observe e => exact w.podName_observe e
  | streamClosed =>
    simp only [act, streamClosed]
    split <;> rfl

theorem result_act (w : CompletionWatcher) (a : WatcherAct) :
    (w.act a).1.result = w.result.or (a.verdict w.podName) := by
  cases hr : w.result with
  | some o => rw [act_of_result hr, hr, Option.some_or]
  | none =>
    cases a with
    | markCreated =>
      simp only [act, markCreated]
      split
      · rfl
      · exact hr
    | startWatching =>
      simp only [act, startWatching_of_result hr]
      rfl
    | observePod p => exact (w.result_observePod p).trans (by rw [hr]; rfl)
    | observe e => exact (w.result_observe e).trans (by rw [hr]; rfl)
    | streamClosed => exact w.result_streamClosed.trans (by rw [hr]; rfl)

/-- The act that decides is the only one that reports the end of the pod. -/
theorem final_act (hr : w.result = none) (a : WatcherAct) : (w.act a).2.filter (·.isFinal) =
    ((a.verdict w.podName).map (.podFinished w.podName)).toList := by
  have hdecide (o : Option Outcome) : (w.decide? o).2.filter (·.isFinal) =
      (o.map (.podFinished w.podName)).toList := by
    cases o with
    | none =>
      rw [decide?_none]
      rfl
    | some o =>
      rw [decide?_some hr]
      rfl
  cases a with
  | markCreated | startWatching => rfl
  | observePod p => exact hdecide _
  | observe e =>
    cases e with
    | error problem =>
      simp only [act, observe, hr]
      rfl
    | added p | modified p | deleted p =>
      simp only [act, observe, hr]
      exact hdecide _
  | streamClosed =>
    simp only [act, streamClosed, hr]
    rfl

end CompletionWatcher

structure WatcherCourse where
  watcher : CompletionWatcher
  log : List LogEvent := []

namespace WatcherCourse

def start (name : String) : WatcherCourse := { watcher := { podName := name } }

def act (c : WatcherCourse) (a : WatcherAct) : WatcherCourse :=
  ⟨(c.watcher.act a).1, c.log ++ (c.watcher.act a).2⟩

def perform (c : WatcherCourse) (acts : List WatcherAct) : WatcherCourse := acts.foldl act c

variable {c : WatcherCourse} {o : Outcome}

theorem perform_append (c : WatcherCourse) (acts late : List WatcherAct) :
    c.perform (acts ++ late) = (c.perform acts).perform late := List.foldl_append

theorem rank_le_perform (c : WatcherCourse) (acts : List WatcherAct) :
    c.watcher.state.rank ≤ (c.perform acts).watcher.state.rank := by
  induction acts generalizing c with
  | nil => exact Nat.le_refl _
  | cons a acts ih => exact Nat.le_trans (c.watcher.rank_le_act a) (ih (c.act a))

theorem perform_of_result (h : c.watcher.result = some o) (acts : List WatcherAct) :
    c.perform acts = c := by
  induction acts with
  | nil => rfl
  | cons a acts ih =>
    have hact : c.act a = c := by
      unfold act
      rw [CompletionWatcher.act_of_result h, List.append_nil]
    change (c.act a).perform acts = c
    rwa [hact]

/-- The result is that of the first act that decides, and it is reported when it comes. -/
theorem result_perform (hr : c.watcher.result = none) (acts : List WatcherAct) :
    let name := c.watcher.podName
    let result := acts.findSome? (·.verdict name)
    (c.perform acts).watcher.result = result ∧
      (c.perform acts).log.filter (·.isFinal) =
        c.log.filter (·.isFinal) ++ (result.map (.podFinished name)).toList := by
  intro name result
  induction acts generalizing c with
  | nil =>
    have hnone : result = none := rfl
    rw [hnone]
    exact ⟨hr, (List.append_nil _).symm⟩
  | cons a acts ih =>
    have hresult : (c.act a).watcher.result = a.verdict name := by
      have h := c.watcher.result_act a
      rwa [hr, Option.none_or] at h
    have hlog : (c.act a).log.filter (·.isFinal) =
        c.log.filter (·.isFinal) ++ ((a.verdict name).map (.podFinished name)).toList := by
      rw [← CompletionWatcher.final_act hr a, ← List.filter_append]
      rfl
    cases hv : a.verdict name with
    | some o =>
      have hfirst : result = some o := by simp [result, hv]
      have hstay : c.perform (a :: acts) = c.act a := perform_of_result (hresult.trans hv) acts
      rw [hstay, hresult, hlog, hv, hfirst]
      exact ⟨rfl, rfl⟩
    | none =>
      have hlater : result = acts.findSome? (·.verdict name) := by simp [result, hv]
      have hname : (c.act a).watcher.podName = name := c.watcher.podName_act a
      have h := ih (hresult.trans hv)
      rw [hname, hlog, hv] at h
      simp only [Option.map_none, Option.toList_none, List.append_nil] at h
      rw [hlater]
      exact h

end WatcherCourse

namespace CompletionWatcher

/-- Whatever a watcher is told and shown, it does not go back. Once it is terminal nothing changes
it any more, and it answers with its result. It is terminal when something has decided the outcome,
and the first such thing is what counts: that outcome is reported, once. -/
theorem first_decisive_act_counts (name : String) (acts : List WatcherAct) :
    let course (acts : List WatcherAct) := (WatcherCourse.start name).perform acts
    let w := (course acts).watcher
    (∀ late, w.state.rank ≤ (course (acts ++ late)).watcher.state.rank) ∧
    (∀ o, w.state = .terminal o → ∀ late, course (acts ++ late) = course acts ∧
      ∀ a, a.isAnswered → (course (acts ++ late)).watcher.answer a = some o) ∧
    (∀ o, w.state = .terminal o ↔ ∃ before a after, acts = before ++ a :: after ∧
      (∀ b ∈ before, b.IsIdle name) ∧ a.Decides name o) ∧
    (course acts).log.filter (·.isFinal) = (w.result.map (.podFinished name)).toList := by
  intro course w
  have happend (late : List WatcherAct) :
      course (acts ++ late) = (course acts).perform late := WatcherCourse.perform_append _ acts late
  have hresult : w.result = acts.findSome? (·.verdict name) ∧ (course acts).log.filter (·.isFinal) =
      ((acts.findSome? (·.verdict name)).map (.podFinished name)).toList :=
    WatcherCourse.result_perform (c := .start name) rfl acts
  refine ⟨fun late => ?_, fun o ho late => ?_, fun o => ?_, ?_⟩
  · rw [happend]
    exact (course acts).rank_le_perform late
  · have hr := result_eq_some_iff.mpr ho
    have hstay : course (acts ++ late) = course acts :=
      (happend late).trans (WatcherCourse.perform_of_result hr late)
    refine ⟨hstay, fun a ha => ?_⟩
    rw [hstay, answer, if_pos ha, act_of_result hr]
    exact hr
  · rw [← result_eq_some_iff, hresult.1, List.findSome?_eq_some_iff]
    constructor
    · rintro ⟨before, a, after, hacts, hv, hidle⟩
      refine ⟨before, a, after, hacts, fun b hb => ?_, WatcherAct.verdict_eq_some_iff.mp hv⟩
      exact WatcherAct.verdict_eq_none_iff.mp (hidle b hb)
    · rintro ⟨before, a, after, hacts, hidle, hd⟩
      refine ⟨before, a, after, hacts, WatcherAct.verdict_eq_some_iff.mpr hd, fun b hb => ?_⟩
      exact WatcherAct.verdict_eq_none_iff.mpr (hidle b hb)
  · rw [hresult.1]
    exact hresult.2

/-- The pod `a` is found running, another pod fails, the watch has a problem, and `a` is deleted. -/
def sampleNotes : List WatcherAct :=
  [.markCreated,
    .observePod { metadata := { name := some "a" }, status := some Phase.running.toStatus },
    .startWatching, .observe (Vigil.reported "b" .failed), .observe (.error "blip"),
    .observe (.deleted { metadata := { name := some "a" } })]

/-- That `a` is said to have succeeded after it was deleted does not count. -/
theorem first_decisive_act_counts_sample :
    let course (acts : List WatcherAct) := (WatcherCourse.start "a").perform acts
    let late : List WatcherAct :=
      [.observe (Vigil.reported "a" .succeeded), .streamClosed, .markCreated, .startWatching]
    (course sampleNotes).watcher.state = .terminal deletedOutcome ∧
      (course (sampleNotes ++ late)).watcher.answer .streamClosed = some deletedOutcome ∧
      (course (sampleNotes ++ late)).log.filter (·.isFinal) =
        [.podFinished "a" deletedOutcome] := by
  intro course late
  obtain ⟨-, hkeep, hfirst, hfinal⟩ := first_decisive_act_counts "a" sampleNotes
  have hterminal : (course sampleNotes).watcher.state = .terminal deletedOutcome := by
    refine (hfirst _).mpr ⟨sampleNotes.dropLast, _, [], rfl, ?_, .event (.gone rfl rfl)⟩
    intro b hb
    refine WatcherAct.verdict_eq_none_iff.mp ?_
    revert b
    decide
  obtain ⟨hstay, hanswer⟩ := hkeep deletedOutcome hterminal late
  refine ⟨hterminal, hanswer .streamClosed rfl, ?_⟩
  have hsame : (course (sampleNotes ++ late)).log = (course sampleNotes).log := by
    rw [show course (sampleNotes ++ late) = course sampleNotes from hstay]
  rw [hsame, hfinal, result_eq_some_iff.mpr hterminal]
  rfl

end CompletionWatcher

end PodPipeline
