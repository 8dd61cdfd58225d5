import PodPipeline.Proofs.Run.Course
import PodPipeline.Proofs.Scene.Runner

/-! A run stops the watch that it was given before it ends, whichever way it ends and whatever the
client does. -/
namespace PodPipeline

variable {σ : Type}

def Exchange.opened? (x : Exchange) : Option WatchId :=
  match x with
  | ⟨.watch _ _, some (.ok w)⟩ => some w
  | _ => none

def Record.opened (r : Record) : List WatchId := r.calls.filterMap (·.opened?)

theorem Exchange.opened?_of_watch {x : Exchange} {w : WatchId} (h : x.opened? = some w) :
    ∃ ns o, x = ⟨.watch ns o, some (.ok w)⟩ := by
  unfold opened? at h
  split at h
  · cases h
    exact ⟨_, _, rfl⟩
  · cases h

namespace Recorded

variable {client : PodClient σ} {now : Instant} {c : ClientCall} {begun : Bool}
  {x y : Recorded σ} {w : WatchId}

/-- A watch that the run was given, it was given before or in answer to the call. -/
theorem mem_opened_poll {answer : Option (ClientResult c.Value)}
    (h : (Recorded.client client).poll now c begun x = (y, answer)) (hw : w ∈ y.record.opened) :
    w ∈ x.record.opened ∨ (Exchange.mk c answer).opened? = some w := by
  obtain ⟨rfl, rfl⟩ := Prod.mk.inj h
  obtain ⟨e, he, hopened⟩ := List.mem_filterMap.mp hw
  rcases List.mem_append.mp he with hold | hnew
  · refine .inl (List.mem_filterMap.mpr ⟨e, ?_, hopened⟩)
    cases begun with
    | false => exact hold
    | true => exact (List.dropLast_sublist _).mem hold
  · rw [List.mem_singleton] at hnew
    exact .inr (hnew ▸ hopened)

theorem opened_next {watch : WatchId} {d : Delivery}
    (h : ((Recorded.client client).source watch).next x = (y, d)) :
    y.record.opened = x.record.opened := by
  unfold Record.opened
  rw [calls_next h]

theorem opened_release (r : ActiveRun) (x : Recorded σ) :
    (r.release (Recorded.client client) x).record.opened = x.record.opened :=
  congrArg Record.opened (record_release r x)

end Recorded

theorem ActiveRun.release_of_watch? {client : PodClient σ} {r : ActiveRun} {w : WatchId} {world : σ}
    (h : r.watch? = some w) : r.release client world = (client.source w).stop world := by
  unfold release
  rw [h]

theorem PodStep.tick_of_isOver {client : PodClient σ} {now : Instant} {s : PodStep}
    {stage : RunStage} {world : σ} (h : stage.isOver) :
    s.tick client now stage world = { world, stage, blocked := true } := by
  cases stage with
  | idle | active => cases h
  | finished | aborted => rfl

namespace PodStep.Moves

variable {client : PodClient σ} {now : Instant} {s : PodStep} {stage : RunStage} {w : WatchId}

/-- A run keeps its watch, or it ends and the last thing that it does is to stop the watch. -/
theorem releases {world : σ} {t : RunTick σ} (h : s.Moves client now stage world t)
    (hw : stage.watch? = some w) :
    t.stage.watch? = some w ∨ t.stage.isOver ∧ ∃ x, t.world = (client.source w).stop x := by
  have hown {r : ActiveRun} {a : Await} (ha : r.await = a)
      (hr : (RunStage.active r).watch? = some w) : a.watch? = some w :=
    (RunStage.watch?_active ha).symm.trans hr
  cases h with
  | refused | undated | begun => cases hw
  | interrupted | brokenDown => exact .inr ⟨rfl, _, ActiveRun.release_of_watch? hw⟩
  | failed => exact .inr ⟨rfl, _, ActiveRun.release_of_watch? hw⟩
  | waiting | blocked => exact .inl hw
  | opened _ ha => cases hown ha hw
  | missing _ ha | created _ ha | conflicted _ ha | read _ ha => exact .inl (hown ha hw)
  | resumed _ ha => exact .inl ((RunStage.watch?_looking ha).symm.trans hw)
  | settled _ ha =>
    cases (RunStage.watch?_looking ha).symm.trans hw
    exact .inr ⟨rfl, _, rfl⟩
  | ended _ ha =>
    cases hown ha hw
    exact .inr ⟨rfl, _, rfl⟩
  | decided ha =>
    cases hown ha hw
    exact .inr ⟨rfl, _, rfl⟩
  | rested ho =>
    rw [RunStage.watch?_of_isOver ho] at hw
    cases hw

/-- A watch that a run was given, it was given before or holds now. -/
theorem opens {x : Recorded σ} {t : RunTick (Recorded σ)}
    (h : s.Moves (Recorded.client client) now stage x t) (hw : w ∈ t.world.record.opened) :
    w ∈ x.record.opened ∨ t.stage.watch? = some w := by
  -- no other call than the one for a watch is answered with one
  have hother {c : ClientCall} {begun : Bool} {x y : Recorded σ}
      {answer : Option (ClientResult c.Value)}
      (hp : (Recorded.client client).poll now c begun x = (y, answer))
      (hc : (Exchange.mk c answer).opened? = none) (hw : w ∈ y.record.opened) :
      w ∈ x.record.opened := by
    rcases Recorded.mem_opened_poll hp hw with hold | hnew
    · exact hold
    · rw [hc] at hnew
      cases hnew
  cases h with
  | refused | undated | begun | rested | decided => exact .inl hw
  | interrupted | brokenDown =>
    rw [Recorded.opened_release] at hw
    exact .inl hw
  | @waiting _ _ _ c _ _ _ hp =>
    refine .inl (hother hp ?_ hw)
    cases c <;> rfl
  | @failed _ _ _ c _ _ _ _ _ hp =>
    rw [Recorded.opened_release] at hw
    refine .inl (hother hp ?_ hw)
    cases c <;> rfl
  | opened _ _ hp =>
    rcases Recorded.mem_opened_poll hp hw with hold | hnew
    · exact .inl hold
    · cases hnew
      exact .inr rfl
  | settled _ _ _ hp | resumed _ _ _ hp | missing _ _ _ hp | created _ _ hp
  | conflicted _ _ _ hp => exact .inl (hother hp rfl hw)
  | read _ _ _ hn | blocked _ _ _ hn | ended _ _ _ hn =>
    have hsame := Recorded.opened_next hn
    exact .inl (hsame ▸ hw)

end PodStep.Moves

/-- The run holds each watch that it was given, or it is over and `P` holds of the watch. -/
def RunStage.Accounts (P : WatchId → σ → Prop) (stage : RunStage) (x : Recorded σ) : Prop :=
  ∀ w ∈ x.record.opened, stage.watch? = some w ∨ stage.isOver ∧ P w x.world

namespace RunStage.Accounts

variable {P : WatchId → σ → Prop} {client : PodClient σ} {stage : RunStage} {x : Recorded σ}

theorem idle (ctx : RunContext) (world : σ) : (RunStage.idle ctx).Accounts P { world } := nofun

/-- One small step, if every watch that is stopped has the property. -/
theorem tick (h : stage.Accounts P x) (hstop : ∀ w world, P w ((client.source w).stop world))
    (s : PodStep) (now : Instant) :
    (s.tick (Recorded.client client) now stage x).stage.Accounts P
      (s.tick (Recorded.client client) now stage x).world := by
  intro w hw
  have hm := s.tick_moves (Recorded.client client) now stage x
  rcases hm.opens hw with hold | hnew
  · rcases h w hold with hown | ⟨ho, hP⟩
    · refine (hm.releases hown).imp_right fun ⟨hover, y, hy⟩ => ⟨hover, ?_⟩
      rw [hy]
      exact hstop w y.world
    · rw [PodStep.tick_of_isOver ho]
      exact .inr ⟨ho, hP⟩
  · exact .inl hnew

theorem mapSignal (h : stage.Accounts P x) (f : CancelSignal → CancelSignal) :
    (stage.mapSignal f).Accounts P x := by
  intro w hw
  rw [RunStage.watch?_mapSignal, RunStage.isOver_mapSignal]
  exact h w hw

/-- Others change the world. -/
theorem disturbed {world : σ} (h : stage.Accounts P x)
    (hP : ∀ w ∈ x.record.opened, P w x.world → P w world) :
    stage.Accounts P { x with world } :=
  fun w hw => (h w hw).imp_right fun ⟨ho, hw'⟩ => ⟨ho, hP w hw hw'⟩

/-- A run that is given up stops its watch, too. -/
theorem release (h : stage.Accounts P x) (hstop : ∀ w world, P w ((client.source w).stop world))
    (ho : stage.isOver = false) : ∀ w ∈ x.record.opened, P w (stage.release client x.world) := by
  intro w hw
  rcases h w hw with hown | ⟨hover, -⟩
  · cases stage with
    | active r =>
      change P w (r.release client x.world)
      rw [ActiveRun.release_of_watch? hown]
      exact hstop w x.world
    | idle | finished | aborted => cases hown
  · rw [ho] at hover
    cases hover

end RunStage.Accounts

/-- The watch has been stopped, and since then nothing has happened to the world but what others
have done in `acts`. -/
inductive Stopped (client : PodClient σ) (acts : List (RunAct σ)) (w : WatchId) : σ → Prop where
  | stop (world : σ) : Stopped client acts w ((client.source w).stop world)
  | disturb {world f} (h : Stopped client acts w world) (hf : .disturb f ∈ acts) :
    Stopped client acts w (f world)

namespace Course

variable {client : PodClient σ} {c : Course σ} {acts late : List (RunAct σ)}

theorem accounts_perform (h : c.stage.Accounts (Stopped client acts) c.world) (s : PodStep)
    (hl : ∀ a ∈ late, a ∈ acts) :
    (c.perform client s late).stage.Accounts (Stopped client acts)
      (c.perform client s late).world := by
  induction late generalizing c with
  | nil => exact h
  | cons a late ih =>
    obtain ⟨ha, hlate⟩ := List.forall_mem_cons.mp hl
    refine ih ?_ hlate
    cases a with
    | tick now => exact h.tick (fun w => .stop) s now
    | disturb f => exact h.disturbed fun w _ hw => hw.disturb ha
    | cancel | abandon => exact h.mapSignal _

variable {s : PodStep} {ctx : RunContext} {world : σ} {w : WatchId}

theorem accounts_of_start (hc : c = (start ctx world).perform client s acts) :
    c.stage.Accounts (Stopped client acts) c.world := by
  subst hc
  exact accounts_perform (c := start ctx world) (.idle ctx world) s fun _ => id

/-- Whatever happens to a run, it has stopped all watches that it was given when it is over. -/
theorem stopped_of_isOver (hc : c = (start ctx world).perform client s acts)
    (hw : w ∈ c.world.record.opened) (ho : c.stage.isOver) :
    Stopped client acts w c.world.world := by
  rcases accounts_of_start hc w hw with hown | ⟨-, hstopped⟩
  · rw [RunStage.watch?_of_isOver ho] at hown
    cases hown
  · exact hstopped

/-- A run that is given up stops them, whenever that is. -/
theorem stopped_of_release (hc : c = (start ctx world).perform client s acts)
    (hw : w ∈ c.world.record.opened) (ho : c.stage.isOver = false) :
    Stopped client acts w (c.stage.release client c.world.world) :=
  (accounts_of_start hc).release (fun _ => .stop) ho w hw

end Course

end PodPipeline
