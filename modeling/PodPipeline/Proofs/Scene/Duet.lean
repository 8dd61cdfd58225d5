import PodPipeline.Proofs.Scene.Score
import PodPipeline.Proofs.Store.Register
import PodPipeline.Run.Single

/-! A run and a reporter that know nothing of each other but what the store and its watches tell
them, and take their small steps in any order. -/
namespace PodPipeline

/-- A run and a reporter at a store that nobody else uses. -/
structure Duet where
  store : PodStore
  step : PodStep
  stage : RunStage
  reporter : Reporter
  task : ReportStage := .waiting

inductive Cue where
  /-- A small step of the run. -/
  | tick (now : Instant)
  /-- A small step of the reporter. -/
  | report
  /-- The one who could cancel the run goes away. -/
  | abandon
deriving DecidableEq, Repr

def Cue.isTick : Cue → Bool
  | .tick _ => true
  | _ => false

/-- Both get the chance to move. -/
def Cue.IsRound (cues : List Cue) : Prop := (∃ now, Cue.tick now ∈ cues) ∧ Cue.report ∈ cues

namespace Duet

/-- The reporter has opened its watch, and the run has not begun. -/
def start (s : PodStore) (p : PodStep) (ctx : RunContext) (status : PodStatus) : Duet :=
  let (store, reporter) := Reporter.start s p.namespace status
  { store, step := p, stage := .idle ctx, reporter }

def act (d : Duet) : Cue → Duet
  | .tick now =>
    let t := d.step.tick PodStore.client now d.stage d.store
    { d with store := t.world, stage := t.stage }
  | .report =>
    let (store, task) := d.reporter.step d.task d.store
    { d with store, task }
  | .abandon => { d with stage := d.stage.mapSignal .abandon }

def perform (d : Duet) (cues : List Cue) : Duet := cues.foldl act d

def isOver (d : Duet) : Bool := d.stage.isOver && d.task.isDone

end Duet

/-- How many moves the run and the reporter have made. -/
structure Beat where
  run : Nat := 0
  report : Nat := 0

namespace Beat

/-- The run waits for the reporter's second move, and the reporter for the run's fourth. -/
structure Fits (b : Beat) : Prop where
  run_le : b.run ≤ 7
  report_le : b.report ≤ 3
  report_eq_zero : b.run < 4 → b.report = 0
  run_le_five : b.report < 2 → b.run ≤ 5

/-- What is next makes one of them move, if it does not wait for the other and is not over. -/
def next (b : Beat) : Cue → Beat
  | .tick _ => if b.run = 7 ∨ b.run = 5 ∧ b.report < 2 then b else { b with run := b.run + 1 }
  | .report => if b.report = 3 ∨ b.run < 4 then b else { b with report := b.report + 1 }
  | .abandon => b

theorem Fits.next {b : Beat} (h : b.Fits) (cue : Cue) : (b.next cue).Fits := by
  obtain ⟨i, j⟩ := b
  obtain ⟨hi, hj, hzero, hfive⟩ := h
  dsimp only at hi hj hzero hfive
  cases cue with
  | tick | report =>
    unfold Beat.next
    dsimp only
    split
    · exact ⟨hi, hj, hzero, hfive⟩
    · constructor <;> dsimp only <;> omega
  | abandon => exact ⟨hi, hj, hzero, hfive⟩

def after (b : Beat) (cues : List Cue) : Beat := cues.foldl next b

variable {b : Beat} {cues : List Cue}

theorem report_next_tick (b : Beat) (now : Instant) : (b.next (.tick now)).report = b.report := by
  unfold next
  dsimp only
  split <;> rfl

theorem run_next_report (b : Beat) : (b.next .report).run = b.run := by
  unfold next
  dsimp only
  split <;> rfl

theorem le_next (b : Beat) (cue : Cue) :
    b.run ≤ (b.next cue).run ∧ b.report ≤ (b.next cue).report := by
  cases cue with
  | tick | report =>
    unfold next
    dsimp only
    split <;> simp
  | abandon => exact ⟨Nat.le_refl _, Nat.le_refl _⟩

theorem le_after (b : Beat) (cues : List Cue) :
    b.run ≤ (b.after cues).run ∧ b.report ≤ (b.after cues).report := by
  induction cues generalizing b with
  | nil => exact ⟨Nat.le_refl _, Nat.le_refl _⟩
  | cons cue cues ih =>
    obtain ⟨hrun, hreport⟩ := b.le_next cue
    obtain ⟨hrun', hreport'⟩ := ih (b.next cue)
    exact ⟨Nat.le_trans hrun hrun', Nat.le_trans hreport hreport'⟩

theorem Fits.after (h : b.Fits) (cues : List Cue) : (b.after cues).Fits := by
  induction cues generalizing b with
  | nil => exact h
  | cons cue cues ih => exact ih (h.next cue)

/-- A run that does not wait for the reporter moves as soon as it gets the chance. -/
theorem run_lt_after (hb : ¬(b.run = 7 ∨ b.run = 5 ∧ b.report < 2))
    (hc : ∃ now, Cue.tick now ∈ cues) : b.run < (b.after cues).run := by
  induction cues generalizing b with
  | nil => simp at hc
  | cons cue cues ih =>
    cases cue with
    | tick now =>
      have hnext : (b.next (.tick now)).run = b.run + 1 := congrArg Beat.run (if_neg hb)
      have hle := ((b.next (.tick now)).le_after cues).1
      rw [hnext] at hle
      exact hle
    | report =>
      have hle := (b.le_next .report).2
      have hrun := b.run_next_report
      have hlt := @ih (b.next .report) (by omega) (by simpa using hc)
      exact hrun ▸ hlt
    | abandon => exact ih hb (by simpa using hc)

/-- A reporter that does not wait for the run moves as soon as it gets the chance. -/
theorem report_lt_after (hb : ¬(b.report = 3 ∨ b.run < 4)) (hc : Cue.report ∈ cues) :
    b.report < (b.after cues).report := by
  induction cues generalizing b with
  | nil => cases hc
  | cons cue cues ih =>
    cases cue with
    | report =>
      have hnext : (b.next .report).report = b.report + 1 := congrArg Beat.report (if_neg hb)
      have hle := ((b.next .report).le_after cues).2
      rw [hnext] at hle
      exact hle
    | tick now =>
      have hle := (b.le_next (.tick now)).1
      have hreport := b.report_next_tick now
      have hlt := @ih (b.next (.tick now)) (by omega) (by simpa using hc)
      exact hreport ▸ hlt
    | abandon => exact ih hb (by simpa using hc)

/-- The two do not wait for each other: in every round one of them moves, until both are over. -/
theorem lt_after_of_isRound (h : b.Fits) (hc : Cue.IsRound cues) (hb : b.run + b.report < 10) :
    b.run + b.report < (b.after cues).run + (b.after cues).report := by
  obtain ⟨hi, hj, hzero, hfive⟩ := h
  have hle := b.le_after cues
  by_cases hrun : b.run = 7 ∨ b.run = 5 ∧ b.report < 2
  · have := report_lt_after (b := b) (by omega) hc.2
    omega
  · have := run_lt_after hrun hc.1
    omega

/-- There are ten moves to make. -/
theorem over_of_rounds (h : b.Fits) {rounds : List (List Cue)} (hr : ∀ r ∈ rounds, Cue.IsRound r)
    (hn : 10 ≤ b.run + b.report + rounds.length) :
    b.after rounds.flatten = ⟨7, 3⟩ := by
  induction rounds generalizing b with
  | nil =>
    obtain ⟨i, j⟩ := b
    obtain ⟨hi, hj, -, -⟩ := h
    simp only [List.length_nil] at hn hi hj
    obtain rfl : i = 7 := by omega
    obtain rfl : j = 3 := by omega
    rfl
  | cons r rounds ih =>
    obtain ⟨hhead, htail⟩ := List.forall_mem_cons.mp hr
    have hafter : b.after (r :: rounds).flatten = (b.after r).after rounds.flatten :=
      List.foldl_append
    have hle := b.le_after r
    rw [hafter]
    refine ih (h.after r) htail ?_
    rw [List.length_cons] at hn
    by_cases hb : b.run + b.report < 10
    · have := lt_after_of_isRound h hhead hb
      omega
    · omega

end Beat

namespace Score

variable {c : Score} {d : Duet} {b : Beat} {i j : Nat} {stage : RunStage}

/-- A new pod has no outcome. -/
theorem observe_added (c : Score) :
    (CompletionWatcher.observe ⟨c.step.name, .watching⟩ (.added c.pod)).1 =
      ⟨c.step.name, .watching⟩ := by
  have hv : c.pod.verdict = none := Pod.verdict_of_status_none (buildPod_ok c.built).2.2
  simp [CompletionWatcher.observe, CompletionWatcher.decide?, CompletionWatcher.result,
    WatchEvent.verdict, hv]

theorem observe_modified (c : Score) :
    (CompletionWatcher.observe ⟨c.step.name, .watching⟩ (.modified c.reported)).1 =
      ⟨c.step.name, .terminal c.outcome⟩ := by
  have hv : c.reported.verdict = some c.outcome := c.decides
  simp [CompletionWatcher.observe, CompletionWatcher.decide?, CompletionWatcher.result,
    CompletionWatcher.finish, WatchEvent.verdict, hv, c.name_reported]

/-- The run makes its next move, unless it waits for the reporter or has returned. -/
theorem Plays.tick (h : c.Plays i stage) (hb : Beat.Fits ⟨i, j⟩) (now : Instant) :
    let t := c.step.tick PodStore.client now stage (c.storeAt i j)
    let b := Beat.next ⟨i, j⟩ (.tick now)
    t.world = c.storeAt b.run j ∧ c.Plays b.run t.stage := by
  have hnone : CompletionWatcher.result ⟨c.step.name, .watching⟩ = none := rfl
  -- before its fourth move the run finds the store without a move of the reporter
  cases h with
  | idle h =>
    obtain ⟨hw, hs⟩ := PodStep.tick_idle c.built h (c.storeAt 0 j) now
    exact ⟨hw, hs ▸ .opening (h.guard _)⟩
  | opening h =>
    obtain rfl : j = 0 := hb.report_eq_zero (show 1 < 4 by decide)
    obtain ⟨hw, hs⟩ := PodStep.tick_watch h (c.storeAt 1 0) now
    have hid : WatchId.mk (c.storeAt 1 0).watches.length = c.watch :=
      congrArg Prod.snd c.watch_storeAt
    rw [hid] at hs
    exact ⟨hw.trans (congrArg Prod.fst c.watch_storeAt), hs ▸ .looking h.settle⟩
  | looking h =>
    obtain rfl : j = 0 := hb.report_eq_zero (show 2 < 4 by decide)
    have hf : (c.storeAt 2 0).pods.find? c.step.key = none := c.vacant
    obtain ⟨hw, hs⟩ := PodStep.tick_lookup_vacant h hf now
    exact ⟨hw.trans c.get_storeAt, hs ▸ .creating h.settle⟩
  | creating h =>
    obtain rfl : j = 0 := hb.report_eq_zero (show 3 < 4 by decide)
    have hf : (c.storeAt 3 0).pods.find? ⟨c.step.namespace, c.pod.name⟩ = none := by
      rw [PodStep.name_pod c.built]
      exact c.vacant
    obtain ⟨hw, hs⟩ := PodStep.tick_create h hf now
    exact ⟨hw.trans c.create_storeAt, hs ▸ .waiting h.settle⟩
  | waiting h =>
    obtain ⟨hw, hs⟩ := PodStep.tick_events_read h hnone (c.next_storeAt_added j) now
    rw [c.observe_added] at hs
    exact ⟨hw, hs ▸ .watching h.settle⟩
  | watching h =>
    by_cases hj : j < 2
    · obtain ⟨hw, hs⟩ := PodStep.tick_events_pending h hnone (c.next_storeAt_pending hj) now
      have hnext : Beat.next ⟨5, j⟩ (.tick now) = ⟨5, j⟩ := by simp [Beat.next, hj]
      rw [hnext]
      exact ⟨hw, hs ▸ .watching h.settle⟩
    · obtain ⟨hw, hs⟩ :=
        PodStep.tick_events_read h hnone (c.next_storeAt_modified (Nat.le_of_not_lt hj)) now
      have hnext : Beat.next ⟨5, j⟩ (.tick now) = ⟨6, j⟩ := by simp [Beat.next, hj]
      rw [hnext]
      rw [c.observe_modified] at hs
      exact ⟨hw, hs ▸ .decided h.settle⟩
  | decided h =>
    have hj : 2 ≤ j := by
      have hfive : j < 2 → 6 ≤ 5 := hb.run_le_five
      omega
    have hsome : CompletionWatcher.result ⟨c.step.name, .terminal c.outcome⟩ = some c.outcome :=
      rfl
    obtain ⟨hw, hs⟩ := PodStep.tick_events_decided hsome (c.storeAt 6 j) now
    exact ⟨hw.trans (c.stop_storeAt hj), hs ▸ .returned⟩
  | returned => exact ⟨rfl, .returned⟩

/-- The reporter makes its next move, unless it waits for the run or is done. -/
theorem step_taskAt (hb : Beat.Fits ⟨i, j⟩) :
    let b := Beat.next ⟨i, j⟩ .report
    c.reporter.step (c.taskAt j) (c.storeAt i j) = (c.storeAt i b.report, c.taskAt b.report) := by
  have hj := hb.report_le
  by_cases hi : i < 4
  · obtain rfl : j = 0 := hb.report_eq_zero hi
    have hnext : Beat.next ⟨i, 0⟩ .report = ⟨i, 0⟩ := by simp [Beat.next, hi]
    rw [hnext]
    exact Reporter.step_pending (c.next_overview_pending hi)
  · match j with
    | 0 =>
      have hnext : Beat.next ⟨i, 0⟩ .report = ⟨i, 1⟩ := by simp [Beat.next, hi]
      have hstep : c.reporter.step .waiting (c.storeAt i 0) = _ :=
        Reporter.step_event (c.next_overview_added (Nat.le_of_not_lt hi))
      rw [hnext]
      exact hstep
    | 1 =>
      have hnext : Beat.next ⟨i, 1⟩ .report = ⟨i, 2⟩ := by simp [Beat.next, hi]
      have hle : i ≤ 5 := hb.run_le_five (show 1 < 2 by decide)
      have hreport : c.reporter.report (c.storeAt i 1) c.pod =
          (c.storeAt i 2, some c.pod.name) := by
        have hupdate : (c.storeAt i 1).updateStatus c.reporter.namespace
            (c.pod.withStatus (some c.reporter.status)) = _ := c.updateStatus_storeAt (by omega)
        rw [Reporter.report, hupdate]
      have hstep : c.reporter.step (c.taskAt 1) (c.storeAt i 1) =
          (c.storeAt i 2, .leaving (some c.pod.name)) := by
        rw [taskAt, Reporter.step, hreport]
      rw [hnext, hstep, PodStep.name_pod c.built]
      rfl
    | 2 =>
      have hnext : Beat.next ⟨i, 2⟩ .report = ⟨i, 3⟩ := by simp [Beat.next, hi]
      rw [hnext]
      exact Prod.ext (c.stop_overview i) rfl
    | 3 => rfl
    | n + 4 => simp at hj

/-- How the two stand when so many moves have been made. -/
structure At (c : Score) (b : Beat) (d : Duet) : Prop where
  fits : b.Fits
  step : d.step = c.step
  store : d.store = c.storeAt b.run b.report
  stage : c.Plays b.run d.stage
  reporter : d.reporter = c.reporter
  task : d.task = c.taskAt b.report

theorem at_start (c : Score) {ctx : RunContext} (h : ctx.Calm) :
    c.At {} (.start c.store c.step ctx c.status) where
  fits := ⟨by decide, by decide, fun _ => rfl, fun _ => by decide⟩
  step := rfl
  store := c.start_eq
  stage := .idle h
  reporter := rfl
  task := rfl

theorem At.act (h : c.At b d) (cue : Cue) : c.At (b.next cue) (d.act cue) := by
  obtain ⟨i, j⟩ := b
  obtain ⟨store, step, stage, reporter, task⟩ := d
  obtain ⟨hfits, rfl, rfl, hstage, rfl, rfl⟩ := h
  cases cue with
  | tick now =>
    have hj : (Beat.next ⟨i, j⟩ (.tick now)).report = j := Beat.report_next_tick _ now
    obtain ⟨hw, hs⟩ := hstage.tick hfits now
    exact ⟨hfits.next _, rfl, hj.symm ▸ hw, hs, rfl, hj.symm ▸ rfl⟩
  | report =>
    have hi : (Beat.next ⟨i, j⟩ .report).run = i := Beat.run_next_report _
    have hstep := step_taskAt (c := c) hfits
    exact ⟨hfits.next _, rfl, hi.symm ▸ congrArg Prod.fst hstep, hi.symm ▸ hstage, rfl,
      congrArg Prod.snd hstep⟩
  | abandon => exact ⟨hfits, rfl, rfl, hstage.abandon, rfl, rfl⟩

theorem At.perform (h : c.At b d) (cues : List Cue) : c.At (b.after cues) (d.perform cues) := by
  induction cues generalizing b d with
  | nil => exact h
  | cons cue cues ih => exact ih (h.act cue)

/-! Where it ends. -/

theorem Plays.isOver_iff (h : c.Plays i stage) : stage.isOver ↔ i = 7 := by
  cases h <;> simp [RunStage.isOver]

theorem Plays.stage_eq (h : c.Plays 7 stage) : stage = .finished (.ok c.outcome) := by
  cases h
  rfl

theorem isDone_taskAt (hj : j ≤ 3) : (c.taskAt j).isDone ↔ j = 3 := by
  match j with
  | 0 | 1 | 2 | 3 => simp [taskAt, ReportStage.isDone]
  | n + 4 => omega

theorem At.isOver_iff (h : c.At b d) : d.isOver ↔ b = ⟨7, 3⟩ := by
  obtain ⟨i, j⟩ := b
  rw [Duet.isOver, Bool.and_eq_true, h.stage.isOver_iff, h.task, isDone_taskAt h.fits.report_le,
    Beat.mk.injEq]

/-- Once the run is over, it has returned the outcome. -/
theorem At.returned (h : c.At b d) (ho : d.stage.isOver) : d.stage = .finished (.ok c.outcome) := by
  have hstage := h.stage
  rw [hstage.isOver_iff.mp ho] at hstage
  exact hstage.stage_eq

/-- Once the reporter is done, it tells the name of the pod. -/
theorem At.done (h : c.At b d) {name : Option String} (ht : d.task = .done name) :
    name = some c.step.name := by
  have htask : .done name = c.taskAt b.report := ht.symm.trans h.task
  have hj : b.report = 3 :=
    (isDone_taskAt h.fits.report_le).mp (ReportStage.isDone_iff.mpr ⟨name, htask.symm⟩)
  rw [hj] at htask
  cases htask
  rfl

theorem openIds_storeAt (c : Score) : (c.storeAt 7 3).openIds = c.store.openIds := by
  have hlength : (c.storeAt 7 3).watches.length = c.store.watches.length + 2 := by
    simp [watches_storeAt]
  have hids : (c.storeAt 7 3).ids = c.store.ids ++ [c.overview, c.watch] := by
    simp [PodStore.ids, hlength, List.range_succ, overview, watch]
  have hoverview : (c.storeAt 7 3).isOpen c.overview = false := by
    rw [PodStore.isOpen, PodStore.channel?_middle (c.watches_storeAt 7 3) (by simp [overview])]
    rfl
  have hwatch : (c.storeAt 7 3).isOpen c.watch = false := by
    rw [PodStore.isOpen,
      PodStore.channel?_middle (c.watches_storeAt_of_le (by decide) 3) (by simp [watch])]
    rfl
  have hold : ∀ w ∈ c.store.ids, (c.storeAt 7 3).isOpen w = c.store.isOpen w := by
    intro w hw
    have hlt : w.number < c.store.watches.length := PodStore.mem_ids.mp hw
    rw [PodStore.isOpen, PodStore.isOpen, PodStore.channel?, PodStore.channel?, watches_storeAt,
      List.getElem?_append_left (by simpa using hlt), List.getElem?_map,
      List.getElem?_eq_getElem hlt]
    exact Subscription.isOpen_hear ..
  rw [PodStore.openIds, hids, List.filter_append, List.filter_congr hold]
  simp [hoverview, hwatch, PodStore.openIds]

theorem find?_storeAt_of_ne (c : Score) {k : PodKey} (hk : k ≠ c.step.key) :
    (c.storeAt i j).pods.find? k = c.store.pods.find? k := by
  simp only [storeAt]
  split <;> split <;> simp [PodTable.find?_insert_of_ne _ hk]

end Score

namespace Duet

/-- What becomes of a run that begins, at the store `s`, when its pod has finished with the outcome
`o`. -/
structure Repeats (p : PodStep) (o : Outcome) (s : PodStore) (later : List Cue) (d : Duet) :
    Prop where
  returns : 3 ≤ later.countP Cue.isTick → d.stage.isOver
  result : d.stage.isOver → d.stage = .finished (.ok o) ∧ d.store.openIds = s.openIds ∧
    d.store.actions = s.actions ++ [.watch p.namespace ⟨some p.name⟩, .get p.namespace p.name]
  pods : d.store.pods = s.pods
  createCount : d.store.createCount = s.createCount

/-- All is done that was to be done at the store, which was `s` before. -/
structure Fulfils (p : PodStep) (pod : Pod) (o : Outcome) (s : PodStore) (d : Duet) : Prop where
  actions : d.store.actions = s.actions ++
    [.watch p.namespace {}, .watch p.namespace ⟨some p.name⟩, .get p.namespace p.name,
      .create p.namespace p.name, .updateStatus p.namespace p.name]
  own : d.store.pods.find? p.key = some pod
  others : ∀ k, k ≠ p.key → d.store.pods.find? k = s.pods.find? k
  openIds : d.store.openIds = s.openIds
  done : ∀ now begun, (p.done PodStore.client now begun d.store).2 = some (.ok true)
  again : ∀ (t : PodStore) (ctx : RunContext) (later : List Cue), t.pods = d.store.pods →
    ctx.Calm → Repeats p o t later ({ d with store := t, stage := .idle ctx }.perform later)

theorem act_report_of_isDone {d : Duet} (h : d.task.isDone) : d.act .report = d := by
  obtain ⟨name, hname⟩ := ReportStage.isDone_iff.mp h
  obtain ⟨store, step, stage, reporter, task⟩ := d
  subst hname
  rfl

/-- A run that begins when the reporter is done and the pod has finished. -/
theorem perform_encore {pod existing : Pod} {o : Outcome} {s : PodStore} {n : Nat} {d : Duet}
    (h : d.step.Encore o s n d.stage d.store) (ht : d.task.isDone) (hpod : d.step.pod = .ok pod)
    (hf : s.pods.find? d.step.key = some existing) (hn : existing.name = d.step.name)
    (hv : existing.verdict = some o) (later : List Cue) :
    d.step.Encore o s (n - later.countP Cue.isTick) (d.perform later).stage
      (d.perform later).store := by
  induction later generalizing d n with
  | nil => exact h
  | cons cue later ih =>
    have hperform : d.perform (cue :: later) = (d.act cue).perform later := rfl
    rw [hperform]
    cases cue with
    | tick now =>
      have hcount : n - (Cue.tick now :: later).countP Cue.isTick =
          n - 1 - later.countP Cue.isTick := by
        rw [List.countP_cons_of_pos rfl, Nat.sub_sub, Nat.add_comm]
      rw [hcount]
      exact @ih (n - 1) (d.act (.tick now)) (h.tick hpod hf hn hv now) ht hpod hf hn
    | report =>
      rw [act_report_of_isDone ht]
      exact ih h ht hpod hf hn
    | abandon => exact @ih n (d.act .abandon) h.abandon ht hpod hf hn

/-- The second run finds the pod finished. -/
theorem repeats {pod existing : Pod} {o : Outcome} {s : PodStore} {ctx : RunContext} {d : Duet}
    (hs : d.store = s) (hstage : d.stage = .idle ctx) (hctx : ctx.Calm) (ht : d.task.isDone)
    (hpod : d.step.pod = .ok pod) (hf : s.pods.find? d.step.key = some existing)
    (hn : existing.name = d.step.name) (hv : existing.verdict = some o) (later : List Cue) :
    Repeats d.step o s later (d.perform later) := by
  have hfirst : d.step.Encore o s 3 d.stage d.store := hs ▸ hstage ▸ .idle hctx
  have h := perform_encore hfirst ht hpod hf hn hv later
  refine ⟨fun hthree => h.isOver_iff.mpr (Nat.sub_eq_zero_of_le hthree), fun ho => ?_, h.pods,
    h.createCount⟩
  rw [h.isOver_iff.mp ho] at h
  exact ⟨h.stage_eq, h.openIds, h.actions⟩

/-- When the run and the reporter are both over, all is done that was to be done. -/
theorem fulfils_of_at {c : Score} {d : Duet} (h : c.At ⟨7, 3⟩ d) :
    Fulfils c.step c.reported c.outcome c.store d := by
  have hfound : (c.storeAt 7 3).pods.find? c.step.key = some c.reported :=
    PodTable.find?_insert_self _ _ _
  have hv : c.reported.verdict = some c.outcome := c.decides
  have hown : d.store.pods.find? c.step.key = some c.reported := h.store ▸ hfound
  constructor
  case actions =>
    rw [h.store]
    rfl
  case own => exact hown
  case others =>
    intro k hk
    rw [h.store]
    exact c.find?_storeAt_of_ne hk
  case openIds =>
    rw [h.store]
    exact c.openIds_storeAt
  case done =>
    intro now begun
    have hpoll : (PodStore.client.poll now c.step.getCall begun d.store).2 =
        some (.ok c.reported) := congrArg some (PodStore.get_of_find? hown)
    have hdone : (c.step.done PodStore.client now begun d.store).2 =
        some (.ok c.reported.verdict.isSome) := congrArg (Option.map c.step.doneFrom) hpoll
    rw [hdone, hv]
    rfl
  case again =>
    intro t ctx later hpods hctx
    have hf : t.pods.find? c.step.key = some c.reported := hpods ▸ hown
    have ht : d.task.isDone := h.task ▸ rfl
    exact h.step ▸ repeats (d := { d with store := t, stage := .idle ctx }) rfl rfl hctx ht
      (h.step ▸ c.built) (h.step ▸ hf) (h.step ▸ c.name_reported) hv later

/-- A run and a reporter meet at a store that has no pod in the place of the step's. The status that
is reported gives the pod the outcome `o`. In whatever order the two take their steps, the run
returns nothing but `o`, and the reporter tells the name of the pod. Both come to an end if each of
them goes on again and again.

Then the pod is there with the status, and nothing else has changed. It was created once, its status
was updated once, no watch is left open, and whoever asks is told that the step is done. A run that
begins then returns `o` too and creates nothing. -/
theorem ends_as_reported {p : PodStep} {pod : Pod} {status : PodStatus} {o : Outcome}
    {s : PodStore} {ctx : RunContext} {cues : List Cue} {d : Duet} (hpod : p.pod = .ok pod)
    (hv : (pod.withStatus (some status)).verdict = some o) (hf : s.pods.find? p.key = none)
    (hctx : ctx.Calm) (hd : d = (start s p ctx status).perform cues) :
    (d.stage.isOver → d.stage = .finished (.ok o)) ∧
      (∀ name, d.task = .done name → name = some p.name) ∧
      (∀ rounds : List (List Cue), cues = rounds.flatten → 10 ≤ rounds.length →
        (∀ r ∈ rounds, Cue.IsRound r) → d.isOver) ∧
      (d.isOver → Fulfils p (pod.withStatus (some status)) o s d) := by
  let c : Score := ⟨p, pod, status, o, s, hpod, hv, hf⟩
  have hat : c.At (Beat.after {} cues) d := hd ▸ (c.at_start hctx).perform cues
  refine ⟨hat.returned, fun name => hat.done, ?_, fun ho => ?_⟩
  · rintro rounds rfl hten hrounds
    exact hat.isOver_iff.mpr
      (Beat.over_of_rounds (c.at_start hctx).fits hrounds (by simpa using hten))
  · have hbeat : Beat.after {} cues = ⟨7, 3⟩ := hat.isOver_iff.mp ho
    exact fulfils_of_at (hbeat ▸ hat)

/-- Another pod of the name is there in another namespace, and a watch of somebody else is open. -/
def sampleStore : PodStore := ({} : PodStore).perform
  [.call (.watch "ns" {}), .call (.create "other" { metadata := { name := some "unit-pod" } })]

/-- In each round the reporter goes first. The one who could cancel the run is gone after the first.
-/
def sampleRounds : List (List Cue) :=
  [.report, .tick .zero, .abandon] :: List.replicate 9 [.report, .tick .zero]

theorem ends_as_reported_failure :
    let status : PodStatus := { phase := some "Failed", message := some "tests failed" }
    let o : Outcome := .failed "tests failed"
    ∃ pod d, PodStep.sample.pod = .ok pod ∧ (pod.withStatus (some status)).verdict = some o ∧
      d = (start sampleStore .sample { signal := .armed } status).perform sampleRounds.flatten ∧
      d.stage = .finished (.ok o) ∧ d.task = .done (some "unit-pod") ∧
      Fulfils .sample (pod.withStatus (some status)) o sampleStore d := by
  intro status o
  have hpod : ∃ pod, PodStep.sample.pod = .ok pod ∧
      (pod.withStatus (some status)).verdict = some o := ⟨_, rfl, rfl⟩
  obtain ⟨pod, hpod, hv⟩ := hpod
  have hctx : RunContext.Calm { signal := .armed } := ⟨by decide, by decide, rfl⟩
  have hrounds : ∀ r ∈ sampleRounds, Cue.IsRound r := by
    intro r hr
    simp only [sampleRounds, List.mem_cons, List.mem_replicate] at hr
    rcases hr with rfl | ⟨-, rfl⟩ <;> exact ⟨⟨.zero, by decide⟩, by decide⟩
  obtain ⟨hstage, htask, hover, hfulfils⟩ :=
    ends_as_reported (s := sampleStore) hpod hv rfl hctx rfl
  have ho := hover sampleRounds rfl (by decide) hrounds
  obtain ⟨hrun, hdone⟩ := (Bool.and_eq_true _ _).mp ho
  obtain ⟨name, hname⟩ := ReportStage.isDone_iff.mp hdone
  exact ⟨pod, _, hpod, hv, rfl, hstage hrun, hname.trans (congrArg _ (htask name hname)),
    hfulfils ho⟩

end Duet

end PodPipeline
