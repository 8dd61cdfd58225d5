import PodPipeline.Proofs.Run.Resumption
import PodPipeline.Proofs.Scene.Basic

/-! What the runs of a scene log, whatever happens in the scene. -/
namespace PodPipeline

namespace Runner

def tickLog (r : Runner) (now : Instant) (s : PodStore) : List LogEvent :=
  (r.step.tick (Recorded.client PodStore.client) now r.stage ⟨s, r.record⟩).log

/-- What an act is for a run at the store `s`, with what the run logs in it. -/
inductive Goes (s : PodStore) (r : Runner) : List LogEvent → Runner → Prop where
  | stays : Goes s r [] r
  | ticks (now : Instant) : Goes s r (r.tickLog now s) (r.tick now s).2
  | signalled {f} (hf : f = CancelSignal.send ∨ f = .abandon) : Goes s r [] (r.signal f)
  | dropped : Goes s r [] (r.drop s).2

/-- What the run is in the middle of, it may come to in any world. -/
def Reached (r : Runner) : Prop :=
  ∃ ctx, ∀ world, r.step.Reaches PodStore.client ctx r.stage ⟨world, r.record⟩

variable {s : PodStore} {r r' : Runner} {news : List LogEvent}

theorem Goes.step_eq (h : r.Goes s news r') : r'.step = r.step := by
  cases h with
  | dropped =>
    unfold drop
    split <;> rfl
  | _ => rfl

theorem reached_launched (p : PodStep) (ctx : RunContext) : Reached ⟨p, .idle ctx, {}⟩ :=
  ⟨ctx, .launched⟩

theorem Goes.reached (h : r.Goes s news r') (hr : r.Reached) : r'.Reached := by
  obtain ⟨ctx, hr⟩ := hr
  refine ⟨ctx, fun world => ?_⟩
  cases h with
  | stays => exact hr world
  | ticks now => exact ((hr s).moved now).disturbed world
  | signalled hf =>
    rcases hf with rfl | rfl
    · exact (hr world).cancelled
    · exact (hr world).abandoned
  | dropped =>
    obtain ⟨p, stage, rec⟩ := r
    unfold drop
    cases ho : stage.isOver with
    | true => exact hr world
    | false =>
      have hdropped := ((hr s).dropped ho).disturbed world
      have hrec : (stage.release (Recorded.client PodStore.client) ⟨s, rec⟩).record = rec := by
        cases stage with
        | active a => exact Recorded.record_release a _
        | idle | finished | aborted => rfl
      rwa [hrec] at hdropped

/-- A run that finds a pod says so, and warns of it if it comes from another configuration. A run
without a pod of its own says nothing of the kind. -/
structure Tells (log : List LogEvent) (r : Runner) : Prop where
  reached : r.Reached
  found : ∀ pod, r.step.pod = .ok pod →
    log.filter (·.isResumption) = r.record.found.flatMap (r.step.resumption pod)
  refused : ∀ fault, r.step.pod = .error fault → log.filter (·.isResumption) = []

theorem tells_launched (p : PodStep) (ctx : RunContext) : Tells [] ⟨p, .idle ctx, {}⟩ :=
  ⟨reached_launched p ctx, fun _ _ => rfl, fun _ _ => rfl⟩

theorem Goes.tells {log : List LogEvent} (h : r.Goes s news r') (hl : r.Tells log) :
    r'.Tells (log ++ news) where
  reached := h.reached hl.reached
  found pod hp := by
    rw [h.step_eq] at hp ⊢
    have hold := hl.found pod hp
    cases h with
    | stays | signalled => rwa [List.append_nil]
    | dropped =>
      rw [List.append_nil]
      unfold drop
      split <;> exact hold
    | ticks now =>
      obtain ⟨ctx, hreaches⟩ := hl.reached
      have hm := r.step.tick_moves (Recorded.client PodStore.client) now r.stage ⟨s, r.record⟩
      obtain ⟨news, hfound, hlog⟩ := hm.resumption hp ((hreaches s).traced hp)
      rw [List.filter_append, hold, show (r.tickLog now s).filter _ = _ from hlog,
        show (r.tick now s).2.record.found = _ from hfound, List.flatMap_append]
  refused fault hp := by
    rw [h.step_eq] at hp
    have hold := hl.refused fault hp
    cases h with
    | stays | signalled | dropped => rwa [List.append_nil]
    | ticks now =>
      obtain ⟨ctx, hreaches⟩ := hl.reached
      rw [List.filter_append, hold, List.nil_append]
      unfold tickLog
      obtain ⟨p, stage, rec⟩ := r
      obtain ⟨-, ⟨c, rfl⟩ | rfl | rfl⟩ := (hreaches s).refuses hp
      · rw [show p.tick _ now (.idle c) _ = _ from PodStep.tick_idle_of_error hp _ now c _]
        rfl
      · rfl
      · rfl

end Runner

namespace Scene

variable {s : Scene} {i : Nat} {r r' : Runner} {a : Act} {acts : List Act}

def logged (i : Nat) (s : Scene) : Act → List LogEvent
  | .tick j now => if j = i then (s.runs[i]?.map (·.tickLog now s.store)).getD [] else []
  | _ => []

def log (i : Nat) : Scene → List Act → List LogEvent
  | _, [] => []
  | s, a :: acts => s.logged i a ++ log i (s.act a) acts

theorem logged_tick (hr : s.runs[i]? = some r) (j : Nat) (now : Instant) :
    s.logged i (.tick j now) = if j = i then r.tickLog now s.store else [] := by
  change (if j = i then (s.runs[i]?.map (·.tickLog now s.store)).getD [] else []) = _
  rw [hr]
  rfl

/-- Every act is one of the things that may happen to a run. -/
theorem act_goes (hr : s.runs[i]? = some r) (a : Act) :
    ∃ r', (s.act a).runs[i]? = some r' ∧ r.Goes s.store (s.logged i a) r' := by
  have hupdate (j : Nat) (f : Runner → PodStore → PodStore × Runner) :
      (s.update j f).runs[i]? = some (if j = i then (f r s.store).2 else r) := by
    by_cases hj : j = i
    · subst hj
      rw [(update_self hr).1, if_pos rfl]
    · rw [runs_update_of_ne hj, if_neg hj, hr]
  cases a with
  | other a => exact ⟨r, by rw [runs_act_other, hr], .stays⟩
  | launch p ctx =>
    have hi := (List.getElem?_eq_some_iff.mp hr).1
    exact ⟨r, (List.getElem?_append_left hi).trans hr, .stays⟩
  | tick j now =>
    refine ⟨_, hupdate j _, ?_⟩
    rw [logged_tick hr]
    split
    · exact .ticks now
    · exact .stays
  | cancel j =>
    refine ⟨_, hupdate j _, ?_⟩
    split
    · exact .signalled (.inl rfl)
    · exact .stays
  | abandon j =>
    refine ⟨_, hupdate j _, ?_⟩
    split
    · exact .signalled (.inr rfl)
    · exact .stays
  | drop j =>
    refine ⟨_, hupdate j _, ?_⟩
    split
    · exact .dropped
    · exact .stays

theorem logged_of_none (hi : s.runs[i]? = none) (a : Act) : s.logged i a = [] := by
  cases a with
  | tick j now =>
    unfold logged
    rw [hi]
    exact ite_self _
  | _ => rfl

/-- What holds of every run that is launched, and stays true whatever happens to it, holds of a run
and of what it has logged. -/
theorem log_perform {P : List LogEvent → Runner → Prop} (before : List LogEvent)
    (hgoes : ∀ log news store r r', r.Goes store news r' → P log r → P (log ++ news) r')
    (hnew : ∀ p ctx, P [] ⟨p, .idle ctx, {}⟩)
    (hold : ∀ r, s.runs[i]? = some r → P before r) (hnone : s.runs[i]? = none → before = [])
    (hr : (s.perform acts).runs[i]? = some r) : P (before ++ log i s acts) r := by
  induction acts generalizing s before with
  | nil =>
    rw [log, List.append_nil]
    exact hold r hr
  | cons a acts ih =>
    rw [log, ← List.append_assoc]
    refine ih (s := s.act a) _ (fun r' hr' => ?_) (fun hr' => ?_) hr
    · cases hi : s.runs[i]? with
      | some r₀ =>
        obtain ⟨r₁, hr₁, hg⟩ := act_goes hi a
        rw [hr'] at hr₁
        cases hr₁
        exact hgoes _ _ _ _ _ hg (hold r₀ hi)
      | none =>
        obtain ⟨p, ctx, -, -, rfl⟩ := act_launches hi hr'
        rw [hnone hi, logged_of_none hi]
        exact hnew p ctx
    · cases hi : s.runs[i]? with
      | some r₀ =>
        obtain ⟨r₁, hr₁, -⟩ := act_goes hi a
        rw [hr'] at hr₁
        cases hr₁
      | none => rw [hnone hi, logged_of_none hi, List.append_nil]

/-- Every run tells of the pods that it has found. -/
theorem tells_of_start (acts : List Act) (hr : (perform {} acts).runs[i]? = some r) :
    r.Tells (log i {} acts) :=
  log_perform (s := {}) [] (fun _ _ _ _ _ h hl => h.tells hl) Runner.tells_launched
    (by simp) (fun _ => rfl) hr

end Scene

end PodPipeline
