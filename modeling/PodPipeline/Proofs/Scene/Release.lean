import PodPipeline.Proofs.Run.Release
import PodPipeline.Proofs.Scene.Basic
import PodPipeline.Proofs.Store.Register

/-! The watch of a run does not outlive it: once the run is over, nothing is sent to the watch any
more and it is not counted among the open ones, whatever happens at the store. -/
namespace PodPipeline

namespace PodStore

variable {s t u : PodStore} {w : WatchId}

/-- The watch was stopped, if there is such a watch. -/
def Silenced (s : PodStore) (w : WatchId) : Prop := ∀ c, s.channel? w = some c → c.stopped

/-- No watch goes away, and those that were stopped stay so and get nothing more. -/
def Settles (s t : PodStore) : Prop :=
  ∀ w ns o c, s.Carries w ns o c →
    ∃ c', t.Carries w ns o c' ∧ (c.stopped → c'.stopped ∧ c'.queue = c.queue)

namespace Settles

theorem refl (s : PodStore) : s.Settles s := fun _ _ _ c h => ⟨c, h, fun hs => ⟨hs, rfl⟩⟩

theorem trans (h : s.Settles t) (h' : t.Settles u) : s.Settles u := by
  intro w ns o c hc
  obtain ⟨c', hc', hfirst⟩ := h w ns o c hc
  obtain ⟨c'', hc'', hrest⟩ := h' w ns o c' hc'
  refine ⟨c'', hc'', fun hs => ?_⟩
  obtain ⟨hs', hq⟩ := hfirst hs
  exact ⟨(hrest hs').1, (hrest hs').2.trans hq⟩

theorem act (s : PodStore) (a : StoreAct) : s.Settles (s.act a) := by
  intro w ns o c hc
  obtain ⟨c', hc', hcourse⟩ := hc.act a
  refine ⟨c', hc', fun hs => ⟨by rw [hcourse.stopped, hs, Bool.true_or], ?_⟩⟩
  have hclosed : c.isOpen = false := by rw [EventChannel.isOpen, hs, Bool.not_true, Bool.and_false]
  have hqueue := hcourse.queue
  rwa [hcourse.silent hs, hclosed, if_neg Bool.false_ne_true, List.append_nil] at hqueue

theorem mem_ids (h : s.Settles t) (hw : w ∈ s.ids) : w ∈ t.ids := by
  obtain ⟨ns, o, c, hc⟩ := carries_of_mem_ids hw
  obtain ⟨c', hc', -⟩ := h w ns o c hc
  exact PodStore.mem_ids.mpr (List.getElem?_eq_some_iff.mp hc').1

/-- A watch that was stopped stays so, and what was not read of it stays as it is. -/
theorem silenced (h : s.Settles t) (hw : w ∈ s.ids) (hs : s.Silenced w) :
    t.Silenced w ∧ t.unread w = s.unread w := by
  obtain ⟨ns, o, c, hc⟩ := carries_of_mem_ids hw
  obtain ⟨c', hc', hstop⟩ := h w ns o c hc
  obtain ⟨hs', hq⟩ := hstop (hs c hc.channel?)
  unfold Silenced PodStore.unread
  rw [hc.channel?, hc'.channel?]
  refine ⟨fun d hd => ?_, hq⟩
  cases hd
  exact hs'

end Settles

theorem silenced_stop (s : PodStore) (w : WatchId) : (s.stop w).Silenced w := by
  intro c hc
  unfold PodStore.stop at hc
  split at hc
  · rename_i d hd
    rw [channel?_setChannel hd] at hc
    cases hc
    rfl
  · rename_i hnone
    rw [hnone] at hc
    cases hc

/-- A watch that was stopped is not open. -/
theorem Silenced.not_mem_openIds (h : s.Silenced w) : w ∉ s.openIds := by
  intro hmem
  obtain ⟨hids, hopen⟩ := List.mem_filter.mp hmem
  obtain ⟨ns, o, c, hc⟩ := carries_of_mem_ids hids
  rw [hc.isOpen, EventChannel.isOpen, h c hc.channel?] at hopen
  simp at hopen

/-- The watch that a call opens is one of the store's. -/
theorem mem_ids_opened {c : ClientCall} (h : (Exchange.mk c (some (s.call c).2)).opened? = some w) :
    w ∈ (s.call c).1.ids := by
  obtain ⟨ns, o, hx⟩ := Exchange.opened?_of_watch h
  cases c with
  | watch =>
    cases h
    exact PodStore.mem_ids.mpr (by simp [call, watch, record])
  | _ => cases hx

end PodStore

namespace Runner

variable {s : PodStore} {r : Runner}

/-- The watches that a run was given are the store's. The run holds them, or it is over and they
were stopped. -/
structure Accounts (s : PodStore) (r : Runner) : Prop where
  ids : ∀ w ∈ r.record.opened, w ∈ s.ids
  held : r.stage.Accounts (fun w s => s.Silenced w) ⟨s, r.record⟩

namespace Accounts

variable {t : PodStore}

theorem settles (h : r.Accounts s) (ht : s.Settles t) : r.Accounts t where
  ids w hw := ht.mem_ids (h.ids w hw)
  held := h.held.disturbed fun w hw hs => (ht.silenced (h.ids w hw) hs).1

end Accounts

/-- One small step keeps account of the watches, and lets those of others be. -/
theorem tick_accounts (r : Runner) (now : Instant) (h : r.Accounts s) :
    s.Settles (r.tick now s).1 ∧ (r.tick now s).2.Accounts (r.tick now s).1 := by
  have hm := r.step.tick_moves (Recorded.client PodStore.client) now r.stage ⟨s, r.record⟩
  have hkeeps : s.Settles (r.tick now s).1 ∧
      ∀ w ∈ (r.tick now s).2.record.opened, w ∈ (r.tick now s).1.ids := by
    refine hm.keeps (P := fun x => s.Settles x.world ∧ ∀ w ∈ x.record.opened, w ∈ x.world.ids)
      ?_ ?_ ⟨.refl s, h.ids⟩
    · intro a c phase _ _ x ⟨hsettles, hids⟩
      have hcall : x.world.Settles (x.world.call c).1 := .act x.world (.call c)
      refine ⟨hsettles.trans hcall, fun w hw => ?_⟩
      have hpoll : (Recorded.client PodStore.client).poll now c a.begun x =
          (((Recorded.client PodStore.client).poll now c a.begun x).1, some (x.world.call c).2) :=
        rfl
      rcases Recorded.mem_opened_poll hpoll hw with hold | hnew
      · exact hcall.mem_ids (hids w hold)
      · exact PodStore.mem_ids_opened hnew
    · intro a v _ _ x ⟨hsettles, hids⟩
      have hnext : x.world.Settles (x.world.next v).1 := .act x.world (.next v)
      have hstop : x.world.Settles (x.world.stop v) := .act x.world (.stop v)
      exact ⟨⟨hsettles.trans hnext, fun w hw => hnext.mem_ids (hids w hw)⟩,
        ⟨hsettles.trans hstop, fun w hw => hstop.mem_ids (hids w hw)⟩⟩
  exact ⟨hkeeps.1, hkeeps.2, h.held.tick (fun w s => s.silenced_stop w) r.step now⟩

theorem signal_accounts (r : Runner) (f : CancelSignal → CancelSignal) (h : r.Accounts s) :
    s.Settles s ∧ (r.signal f).Accounts s :=
  ⟨.refl s, h.ids, h.held.mapSignal f⟩

/-- A run that is given up stops its watch. -/
theorem drop_accounts (r : Runner) (h : r.Accounts s) :
    s.Settles (r.drop s).1 ∧ (r.drop s).2.Accounts (r.drop s).1 := by
  unfold drop
  split
  · exact ⟨.refl s, h⟩
  · rename_i ho
    have hsettles : s.Settles (r.stage.release PodStore.client s) := by
      cases r.stage with
      | active a =>
        change s.Settles (a.release PodStore.client s)
        unfold ActiveRun.release
        split
        · exact .act s (.stop _)
        · exact .refl s
      | idle | finished | aborted => exact .refl s
    have hheld : ∀ w ∈ r.record.opened, (r.stage.release PodStore.client s).Silenced w :=
      h.held.release (fun w s => s.silenced_stop w) (eq_false_of_ne_true ho)
    exact ⟨hsettles, fun w hw => hsettles.mem_ids (h.ids w hw), fun w hw => .inr ⟨rfl, hheld w hw⟩⟩

end Runner

namespace Scene

variable {s : Scene} {i : Nat} {r : Runner} {f : Runner → PodStore → PodStore × Runner}

/-- Every run keeps account of its watches. -/
def Accounts (s : Scene) : Prop :=
  ∀ (i : Nat) (r : Runner), s.runs[i]? = some r → r.Accounts s.store

theorem accounts_start (store : PodStore) : Accounts { store } := by
  intro i r hr
  cases hr

theorem accounts_update (h : s.Accounts)
    (hf : ∀ r, r.Accounts s.store →
      s.store.Settles (f r s.store).1 ∧ (f r s.store).2.Accounts (f r s.store).1) (j : Nat) :
    s.store.Settles (s.update j f).store ∧ (s.update j f).Accounts := by
  cases hj : s.runs[j]? with
  | none =>
    rw [update_of_none hj]
    exact ⟨.refl _, h⟩
  | some q =>
    obtain ⟨hself, hstore⟩ := update_self (f := f) hj
    obtain ⟨hsettles, hq⟩ := hf q (h j q hj)
    refine ⟨hstore ▸ hsettles, fun i r hr => ?_⟩
    rw [hstore]
    by_cases hij : j = i
    · subst hij
      rw [hself] at hr
      cases hr
      exact hq
    · rw [runs_update_of_ne hij] at hr
      exact (h i r hr).settles hsettles

theorem accounts_act (h : s.Accounts) (a : Act) :
    s.store.Settles (s.act a).store ∧ (s.act a).Accounts := by
  cases a with
  | other a =>
    rcases s.act_other a with hs | ⟨-, hs⟩
    · rw [hs]
      exact ⟨.refl _, h⟩
    · rw [hs]
      have hsettles : s.store.Settles (s.store.act a) := .act s.store a
      exact ⟨hsettles, fun i r hr => (h i r hr).settles hsettles⟩
  | launch p ctx =>
    refine ⟨.refl _, fun i r hr => ?_⟩
    rcases List.mem_append.mp (List.mem_of_getElem? hr) with hold | hnew
    · obtain ⟨j, hj⟩ := List.getElem?_of_mem hold
      exact h j r hj
    · rw [List.mem_singleton] at hnew
      subst hnew
      exact ⟨nofun, RunStage.Accounts.idle ctx s.store⟩
  | tick j now => exact accounts_update h (fun r => r.tick_accounts now) j
  | cancel j => exact accounts_update h (fun r => r.signal_accounts .send) j
  | abandon j => exact accounts_update h (fun r => r.signal_accounts .abandon) j
  | drop j => exact accounts_update h (fun r => r.drop_accounts) j

theorem accounts_perform (h : s.Accounts) (acts : List Act) :
    s.store.Settles (s.perform acts).store ∧ (s.perform acts).Accounts := by
  induction acts generalizing s with
  | nil => exact ⟨.refl _, h⟩
  | cons a acts ih =>
    obtain ⟨hfirst, ha⟩ := accounts_act h a
    obtain ⟨hrest, hacts⟩ := ih ha
    exact ⟨hfirst.trans hrest, hacts⟩

/-- The watch never outlives the run. Whatever the client does and whatever happens to a run, the
watches that the run was given are stopped when it is over, and are stopped when it is given up. At
a store, nothing is sent to them any more from then on, and they are not counted among the open
ones. -/
theorem watch_ends_with_run :
    (∀ (σ : Type) (client : PodClient σ) (p : PodStep) (ctx : RunContext) (world : σ)
      (acts : List (RunAct σ)) (c : Course σ), c = (Course.start ctx world).perform client p acts →
      ∀ w ∈ c.world.record.opened,
        (c.stage.isOver → Stopped client acts w c.world.world) ∧
        (c.stage.isOver = false → Stopped client acts w (c.stage.release client c.world.world))) ∧
    ∀ (store : PodStore) (acts late : List Act) (s t : Scene), s = perform { store } acts →
      t = s.perform late → ∀ (i : Nat) (r : Runner), s.runs[i]? = some r → r.stage.isOver →
        ∀ w ∈ r.record.opened, w ∈ t.store.ids ∧ t.store.unread w = s.store.unread w ∧
          w ∉ t.store.openIds ∧ t.store.openWatches = t.store.openIds.length := by
  constructor
  · intro σ client p ctx world acts c hc w hw
    exact ⟨Course.stopped_of_isOver hc hw, Course.stopped_of_release hc hw⟩
  · intro store acts late s t hs ht i r hr ho w hw
    have h : s.Accounts := hs ▸ (accounts_perform (accounts_start store) acts).2
    have hsettles : s.store.Settles t.store := ht ▸ (accounts_perform h late).1
    have hids := (h i r hr).ids w hw
    have hsilenced : s.store.Silenced w := by
      rcases (h i r hr).held w hw with hown | ⟨-, hs⟩
      · rw [RunStage.watch?_of_isOver ho] at hown
        cases hown
      · exact hs
    obtain ⟨hlate, hunread⟩ := hsettles.silenced hids hsilenced
    exact ⟨hsettles.mem_ids hids, hunread, hlate.not_mem_openIds, t.store.openWatches_eq⟩

def sampleCancelled : List Act :=
  [.launch .sample { signal := .armed }, .tick 0 .zero, .tick 0 .zero, .cancel 0, .tick 0 .zero]

/-- Another actor opens a watch, and all watches are told of a problem. -/
def sampleProblem : List Act :=
  [.other (.call (.watch "ns" {})), .other (.inject "ns" (.error "gone"))]

theorem watch_ends_with_run_sample :
    (∃ c, c = (Course.start { signal := .armed } {}).perform PodStore.client .sample
        [.tick .zero, .tick .zero, .cancel, .tick .zero] ∧ c.stage.isOver ∧
      c.world.record.opened = [⟨0⟩] ∧ Stopped PodStore.client
        [.tick .zero, .tick .zero, .cancel, .tick .zero] ⟨0⟩ c.world.world) ∧
    ∃ r t, t = perform (perform {} sampleCancelled) sampleProblem ∧
      (perform {} sampleCancelled).runs[0]? = some r ∧ r.record.opened = [⟨0⟩] ∧
      t.store.unread ⟨1⟩ = [.error "gone"] ∧ t.store.unread ⟨0⟩ = [] ∧ ⟨0⟩ ∉ t.store.openIds := by
  constructor
  · refine ⟨_, rfl, rfl, rfl, ?_⟩
    exact (watch_ends_with_run.1 _ _ _ _ _ _ _ rfl ⟨0⟩ (.head _)).1 rfl
  · have hrun : ∃ r, (perform {} sampleCancelled).runs[0]? = some r ∧ r.stage.isOver ∧
        r.record.opened = [⟨0⟩] := ⟨_, rfl, rfl, rfl⟩
    obtain ⟨r, hr, ho, hopened⟩ := hrun
    obtain ⟨-, hunread, hclosed, -⟩ := watch_ends_with_run.2 {} sampleCancelled sampleProblem _ _
      rfl rfl 0 r hr ho ⟨0⟩ (hopened ▸ .head _)
    exact ⟨r, _, rfl, hr, hopened, rfl, hunread, hclosed⟩

end Scene

end PodPipeline
