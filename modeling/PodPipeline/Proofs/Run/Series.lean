import PodPipeline.Proofs.Run.Precedence
import PodPipeline.Proofs.Watch.Waiting

/-! Calls under one guard that go on after one was interrupted. Once the time is over no work is
polled any more, and each further call is interrupted in its turn. But the signal can be taken only
once: a call after the one that has taken it breaks down. -/
namespace PodPipeline

variable {σ α : Type}

/-- What may happen while calls are made under a guard. -/
inductive SeriesAct (σ : Type) where
  | run (a : RunAct σ)
  /-- The call under way is given up, and the next one begins. -/
  | giveUp

namespace SeriesAct

def time? : SeriesAct σ → Option Instant
  | .run a => a.time?
  | .giveUp => none

/-- What happens to the world, whoever polls. -/
def disturb (s : σ) : SeriesAct σ → σ
  | .run (.disturb f) => f s
  | _ => s

/-- The clock does not go back. -/
def InOrder (acts : List (SeriesAct σ)) : Prop :=
  (acts.filterMap time?).Pairwise fun now later => now.nanos ≤ later.nanos

theorem InOrder.left {acts late : List (SeriesAct σ)} (h : InOrder (acts ++ late)) :
    InOrder acts := by
  unfold InOrder at h
  rw [List.filterMap_append] at h
  exact (List.pairwise_append.mp h).1

theorem InOrder.le_last {acts : List (SeriesAct σ)} {earlier now : Instant}
    (h : InOrder (acts ++ [.run (.tick now)])) (he : .run (.tick earlier) ∈ acts) :
    earlier.nanos ≤ now.nanos := by
  unfold InOrder at h
  rw [List.filterMap_append] at h
  have hmem : earlier ∈ acts.filterMap time? := List.mem_filterMap.mpr ⟨_, he, rfl⟩
  exact (List.pairwise_append.mp h).2.2 earlier hmem now List.mem_cons_self

end SeriesAct

/-- Calls under one guard, each of which begins when the one before it is over. -/
structure GuardSeries (σ α : Type) where
  guard : RunGuard
  world : σ
  /-- What is left to do. The call for the first is under way. -/
  works : List (Work σ α)
  /-- What has come of the calls that were not given up. -/
  ends : List (Waited α) := []
  log : List LogEvent := []

namespace GuardSeries

def poll (c : GuardSeries σ α) (now : Instant) : GuardSeries σ α :=
  match c.works with
  | [] => c
  | w :: rest =>
    let a := c.guard.poll now (w now) c.world
    let d := { c with guard := a.guard, world := a.world, log := c.log ++ a.log }
    match a.waited with
    | .pending => d
    | outcome => { d with works := rest, ends := c.ends ++ [outcome] }

def act (c : GuardSeries σ α) : SeriesAct σ → GuardSeries σ α
  | .run (.tick now) => c.poll now
  | .run (.disturb f) => { c with world := f c.world }
  | .run .cancel => { c with guard.signal := c.guard.signal.send }
  | .run .abandon => { c with guard.signal := c.guard.signal.abandon }
  | .giveUp => { c with works := c.works.tail }

def perform (c : GuardSeries σ α) (acts : List (SeriesAct σ)) : GuardSeries σ α := acts.foldl act c

def Interrupted (c : GuardSeries σ α) : Prop := ∃ e, .interrupted e ∈ c.ends

def Cancelled (c : GuardSeries σ α) : Prop := .interrupted (.cancelled c.guard.step) ∈ c.ends

end GuardSeries

namespace CancelSignal

/-! A signal is taken only by a call that it interrupts. -/

@[simp] theorem send_eq_spent {sig : CancelSignal} : sig.send = .spent ↔ sig = .spent := by
  cases sig <;> simp [send]

@[simp] theorem abandon_eq_spent {sig : CancelSignal} : sig.abandon = .spent ↔ sig = .spent := by
  cases sig <;> simp [abandon]

@[simp] theorem settled_eq_spent {sig : CancelSignal} : sig.settled = .spent ↔ sig = .spent := by
  cases sig <;> simp [settled]

end CancelSignal

namespace RunGuard

/-- What comes of `n` calls that find the time over. -/
def timeouts (g : RunGuard) (n : Nat) : List (Waited α) :=
  match g.limit with
  | none => []
  | some l => List.replicate n (.interrupted (.timeout g.step l.after))

/-- The error of a call that begins when the time is over. -/
inductive Overdue (g : RunGuard) : StepError → Prop where
  | cancelled (hs : g.signal = .sent) : Overdue g (.cancelled g.step)
  | timedOut {l} (hs : g.signal ≠ .sent) (hl : g.limit = some l) :
    Overdue g (.timeout g.step l.after)

variable {g : RunGuard} {now : Instant}

theorem timeouts_zero (g : RunGuard) : (g.timeouts 0 : List (Waited α)) = [] := by
  unfold timeouts
  cases g.limit <;> rfl

theorem mem_timeouts {n : Nat} {x : Waited α} (h : x ∈ g.timeouts n) :
    ∃ l, g.limit = some l ∧ x = .interrupted (.timeout g.step l.after) := by
  unfold timeouts at h
  cases hl : g.limit with
  | none => simp [hl] at h
  | some l =>
    rw [hl] at h
    exact ⟨l, rfl, List.eq_of_mem_replicate h⟩

theorem timeouts_succ {l : TimeLimit} (hl : g.limit = some l) (n : Nat) :
    (g.timeouts n ++ [.interrupted (.timeout g.step l.after)] : List (Waited α)) =
      g.timeouts (n + 1) := by
  unfold timeouts
  rw [hl]
  exact (List.replicate_succ' ..).symm

/-- Only the signal that interrupts a call is taken. -/
theorem signal_afterInterruption (h : g.signal ≠ .spent) :
    g.settle.afterInterruption.signal = .spent ↔ g.signal = .sent := by
  obtain ⟨step, sig, limit⟩ := g
  cases sig <;> simp_all [settle, afterInterruption]

/-- Once the time is over, no call goes on. -/
theorem not_clear_of_reached {l : TimeLimit} (hl : g.limit = some l)
    (hr : l.deadline.reached now) : ¬g.Clear now := by
  intro h
  have hnone := (clear_iff.mp h).2.2
  rw [expired?, hl, Option.filter_some, if_pos hr] at hnone
  cases hnone

/-- An interruption comes from the signal if it was sent, and otherwise from the clock. -/
theorem Interrupts.sent_or_reached {e : StepError} {event : LogEvent}
    (h : g.Interrupts now e event) : g.signal = .sent ∧ e = .cancelled g.step ∨
      g.signal ≠ .sent ∧
        ∃ l, g.limit = some l ∧ l.deadline.reached now ∧ e = .timeout g.step l.after := by
  by_cases hs : g.signal = .sent
  · have hsent : g.Interrupts now (.cancelled g.step) (.cancelled g.step) := interrupts_of_sent hs
    have he := h.2.symm.trans hsent.2
    rw [Option.some.injEq, Prod.mk.injEq] at he
    exact .inl ⟨hs, he.1⟩
  · rcases h.cause with ⟨-, hsent⟩ | hreached
    · exact absurd hsent hs
    · exact .inr ⟨hs, hreached⟩

theorem Interrupts.overdue {e : StepError} {event : LogEvent} (h : g.Interrupts now e event) :
    g.Overdue e := by
  rcases h.sent_or_reached with ⟨hs, rfl⟩ | ⟨hs, l, hl, -, rfl⟩
  · exact .cancelled hs
  · exact .timedOut hs hl

end RunGuard

namespace GuardSeries

variable {g : RunGuard} {c : GuardSeries σ α} {acts : List (SeriesAct σ)} {w : Work σ α}
  {rest : List (Work σ α)} {now : Instant}

theorem poll_of_clear (hw : c.works = w :: rest) (h : c.guard.Clear now) : c.poll now =
    match (w now c.world).2 with
    | none => { c with guard := c.guard.settle, world := (w now c.world).1 }
    | some v =>
      { c with
        guard := c.guard.settle, world := (w now c.world).1
        works := rest, ends := c.ends ++ [.done v] } := by
  unfold poll
  rw [hw]
  simp only [RunGuard.poll_of_clear h, List.append_nil]
  cases (w now c.world).2 with
  | none => simp [← hw]
  | some v => rfl

theorem poll_of_interrupts {e : StepError} {event : LogEvent} (hw : c.works = w :: rest)
    (h : c.guard.Interrupts now e event) : c.poll now =
      { c with
        guard := c.guard.settle.afterInterruption, works := rest
        ends := c.ends ++ [.interrupted e], log := c.log ++ [event] } := by
  unfold poll
  rw [hw]
  simp only [RunGuard.poll_of_interrupts h]

theorem poll_of_spent (hw : c.works = w :: rest) (h : c.guard.settle.signal = .spent) :
    c.poll now =
      { c with guard := c.guard.settle, works := rest, ends := c.ends ++ [.aborted] } := by
  unfold poll
  rw [hw]
  simp only [RunGuard.poll_of_spent h, List.append_nil]

theorem poll_of_idle (hw : c.works = []) (now : Instant) : c.poll now = c := by
  unfold poll
  rw [hw]

/-- A poll has found the time limit of the guard `g` over. -/
def TimeUp (g : RunGuard) (acts : List (SeriesAct σ)) : Prop :=
  ∃ l now, g.limit = some l ∧ .run (.tick now) ∈ acts ∧ l.deadline.reached now

/-- What has come of calls that began with the guard `g`, when `acts` has happened: some were done,
then some found the time over, and once one has found the signal sent the others broke down. -/
inductive Standing (g : RunGuard) (acts : List (SeriesAct σ)) (c : GuardSeries σ α) : Prop where
  | uncancelled (values : List α) (n : Nat) (hs : c.guard.signal ≠ .spent)
    (he : c.ends = values.map .done ++ g.timeouts n) (hn : 0 < n → TimeUp g acts)
  | cancelled (values : List α) (n k : Nat) (hs : c.guard.signal = .spent)
    (he : c.ends = values.map .done ++ g.timeouts n ++
      .interrupted (.cancelled g.step) :: List.replicate k .aborted)

/-- Calls stand as they can, under the guard that they began with. -/
structure Lasts (g : RunGuard) (acts : List (SeriesAct σ)) (c : GuardSeries σ α) : Prop where
  guard : c.guard = { g with signal := c.guard.signal }
  standing : c.Standing g acts

theorem lasts_start (hg : g.signal ≠ .spent) (world : σ) (works : List (Work σ α)) :
    Lasts g [] { guard := g, world, works } :=
  ⟨rfl, .uncancelled [] 0 hg (by simp [RunGuard.timeouts_zero]) nofun⟩

theorem TimeUp.append {acts : List (SeriesAct σ)} (h : TimeUp g acts) (late : List (SeriesAct σ)) :
    TimeUp g (acts ++ late) := by
  obtain ⟨l, now, hl, hn, hr⟩ := h
  exact ⟨l, now, hl, List.mem_append_left _ hn, hr⟩

/-- The time stays over. -/
theorem TimeUp.reached (h : TimeUp g acts) (ho : SeriesAct.InOrder (acts ++ [.run (.tick now)])) :
    ∃ l, g.limit = some l ∧ l.deadline.reached now := by
  obtain ⟨l, earlier, hl, he, hr⟩ := h
  have hle := ho.le_last he
  have hdeadline : l.deadline.nanos ≤ earlier.nanos := of_decide_eq_true hr
  exact ⟨l, hl, decide_eq_true (Nat.le_trans hdeadline hle)⟩

/-- What happens without a poll and without the signal being taken. -/
theorem Standing.keep {d : GuardSeries σ α} (h : c.Standing g acts) (late : List (SeriesAct σ))
    (hs : d.guard.signal = .spent ↔ c.guard.signal = .spent) (he : d.ends = c.ends) :
    d.Standing g (acts ++ late) := by
  cases h with
  | uncancelled values n hspent hends hn =>
    exact .uncancelled values n (mt hs.mp hspent) (he.trans hends) fun h => (hn h).append late
  | cancelled values n k hspent hends => exact .cancelled values n k (hs.mpr hspent) (he.trans hends)

namespace Lasts

theorem step_eq (h : c.Lasts g acts) : c.guard.step = g.step := by rw [h.guard]

theorem limit_eq (h : c.Lasts g acts) : c.guard.limit = g.limit := by rw [h.guard]

theorem cancelled_iff (h : c.Lasts g acts) : c.Cancelled ↔ c.guard.signal = .spent := by
  unfold Cancelled
  rw [h.step_eq]
  cases h.standing with
  | uncancelled values n hs he hn =>
    refine ⟨fun hmem => ?_, fun h => absurd h hs⟩
    rw [he] at hmem
    rcases List.mem_append.mp hmem with hmem | hmem
    · simp at hmem
    · obtain ⟨l, -, h⟩ := RunGuard.mem_timeouts hmem
      cases h
  | cancelled values n k hs he => simp [hs, he]

/-- Work is polled only as long as nothing has been interrupted. -/
theorem ends_of_clear (h : c.Lasts g acts) (ho : SeriesAct.InOrder (acts ++ [.run (.tick now)]))
    (hclear : c.guard.Clear now) : ∃ values : List α, c.ends = values.map .done := by
  cases h.standing with
  | cancelled values n k hs he => exact absurd hs (RunGuard.clear_iff.mp hclear).1
  | uncancelled values n hs he hn =>
    rcases Nat.eq_zero_or_pos n with rfl | hpos
    · exact ⟨values, by rw [he, RunGuard.timeouts_zero, List.append_nil]⟩
    · obtain ⟨l, hl, hr⟩ := (hn hpos).reached ho
      exact absurd hclear (RunGuard.not_clear_of_reached (h.limit_eq.trans hl) hr)

theorem poll_clear (h : c.Lasts g acts) (hw : c.works = w :: rest)
    (ho : SeriesAct.InOrder (acts ++ [.run (.tick now)])) (hclear : c.guard.Clear now) :
    (c.poll now).Standing g (acts ++ [.run (.tick now)]) := by
  have hs : c.guard.settle.signal ≠ .spent := hclear.1
  obtain ⟨values, he⟩ := h.ends_of_clear ho hclear
  rw [poll_of_clear hw hclear]
  cases (w now c.world).2 with
  | none => exact .uncancelled values 0 hs (by simp [he, RunGuard.timeouts_zero]) nofun
  | some v => exact .uncancelled (values ++ [v]) 0 hs (by simp [he, RunGuard.timeouts_zero]) nofun

theorem poll_interrupts (h : c.Lasts g acts) (hw : c.works = w :: rest) {e : StepError}
    {event : LogEvent} (hi : c.guard.Interrupts now e event) :
    (c.poll now).Standing g (acts ++ [.run (.tick now)]) := by
  have hspent : c.guard.signal ≠ .spent := by
    have := hi.1
    rwa [RunGuard.signal_settle, ne_eq, CancelSignal.settled_eq_spent] at this
  have htaken := RunGuard.signal_afterInterruption hspent
  rw [poll_of_interrupts hw hi]
  cases h.standing with
  | cancelled values n k hs he => exact absurd hs hspent
  | uncancelled values n hs he hn =>
    rcases hi.sent_or_reached with ⟨hsent, rfl⟩ | ⟨hsent, l, hl, hr, rfl⟩
    · refine .cancelled values n 0 (htaken.mpr hsent) ?_
      rw [he, h.step_eq]
      rfl
    · rw [h.limit_eq] at hl
      refine .uncancelled values (n + 1) (mt htaken.mp hsent) ?_ fun _ => ?_
      · rw [he, h.step_eq, List.append_assoc, RunGuard.timeouts_succ hl]
      · exact ⟨l, now, hl, List.mem_append_right _ List.mem_cons_self, hr⟩

theorem poll_spent (h : c.Lasts g acts) (hw : c.works = w :: rest)
    (hspent : c.guard.settle.signal = .spent) :
    (c.poll now).Standing g (acts ++ [.run (.tick now)]) := by
  have htaken : c.guard.signal = .spent := by
    rwa [RunGuard.signal_settle, CancelSignal.settled_eq_spent] at hspent
  rw [poll_of_spent hw hspent]
  cases h.standing with
  | uncancelled values n hs he hn => exact absurd htaken hs
  | cancelled values n k hs he =>
    refine .cancelled values n (k + 1) hspent ?_
    rw [he, List.replicate_succ', List.append_assoc, List.cons_append]

/-- A poll changes nothing of the guard but its signal. -/
theorem guard_poll (h : c.Lasts g acts) (now : Instant) :
    (c.poll now).guard = { g with signal := (c.poll now).guard.signal } := by
  have hsettle : c.guard.settle = { g with signal := c.guard.settle.signal } := by
    rw [RunGuard.settle_eq, h.guard]
  cases hw : c.works with
  | nil =>
    rw [poll_of_idle hw]
    exact h.guard
  | cons w rest =>
    rcases c.guard.clear_or_cut now with hclear | ⟨e, event, hi⟩ | hspent
    · rw [poll_of_clear hw hclear]
      cases (w now c.world).2 <;> exact hsettle
    · rw [poll_of_interrupts hw hi]
      dsimp only
      unfold RunGuard.afterInterruption
      split
      · rw [hsettle]
      · exact hsettle
    · rw [poll_of_spent hw hspent]
      exact hsettle

theorem poll (h : c.Lasts g acts) (ho : SeriesAct.InOrder (acts ++ [.run (.tick now)])) :
    (c.poll now).Lasts g (acts ++ [.run (.tick now)]) := by
  refine ⟨h.guard_poll now, ?_⟩
  cases hw : c.works with
  | nil =>
    rw [poll_of_idle hw]
    exact h.standing.keep _ Iff.rfl rfl
  | cons w rest =>
    rcases c.guard.clear_or_cut now with hclear | ⟨e, event, hi⟩ | hspent
    · exact h.poll_clear hw ho hclear
    · exact h.poll_interrupts hw hi
    · exact h.poll_spent hw hspent

theorem act (h : c.Lasts g acts) {a : SeriesAct σ} (ho : SeriesAct.InOrder (acts ++ [a])) :
    (c.act a).Lasts g (acts ++ [a]) := by
  cases a with
  | giveUp => exact ⟨h.guard, h.standing.keep _ Iff.rfl rfl⟩
  | run a =>
    cases a with
    | tick now => exact h.poll ho
    | disturb f => exact ⟨h.guard, h.standing.keep _ Iff.rfl rfl⟩
    | cancel =>
      refine ⟨?_, h.standing.keep _ CancelSignal.send_eq_spent rfl⟩
      rw [GuardSeries.act, h.guard]
    | abandon =>
      refine ⟨?_, h.standing.keep _ CancelSignal.abandon_eq_spent rfl⟩
      rw [GuardSeries.act, h.guard]

theorem perform (h : c.Lasts g acts) {late : List (SeriesAct σ)}
    (ho : SeriesAct.InOrder (acts ++ late)) : (c.perform late).Lasts g (acts ++ late) := by
  induction late generalizing c acts with
  | nil => rwa [List.append_nil]
  | cons a late ih =>
    rw [List.append_cons] at ho ⊢
    exact ih (h.act ho.left) ho

/-- After an interruption no call goes on. -/
theorem not_clear (h : c.Lasts g acts) (hi : c.Interrupted)
    (ho : SeriesAct.InOrder (acts ++ [.run (.tick now)])) : ¬c.guard.Clear now := by
  intro hclear
  obtain ⟨values, he⟩ := h.ends_of_clear ho hclear
  obtain ⟨e, hmem⟩ := hi
  simp [he] at hmem

end Lasts

/-- What has come of calls stays. -/
theorem ends_act (c : GuardSeries σ α) (a : SeriesAct σ) : c.ends <+: (c.act a).ends := by
  cases a with
  | giveUp => exact List.prefix_rfl
  | run a =>
    cases a with
    | disturb f | cancel | abandon => exact List.prefix_rfl
    | tick now =>
      change c.ends <+: (c.poll now).ends
      unfold poll
      split
      · exact List.prefix_rfl
      · dsimp only
        split
        · exact List.prefix_rfl
        · exact List.prefix_append ..

theorem Interrupted.act (h : c.Interrupted) (a : SeriesAct σ) : (c.act a).Interrupted := by
  obtain ⟨e, he⟩ := h
  exact ⟨e, (c.ends_act a).subset he⟩

namespace Lasts

/-- What comes of the next call after an interruption, whatever its work is. -/
theorem poll_of_interrupted (h : c.Lasts g acts) (hi : c.Interrupted) (hw : c.works = w :: rest)
    (ho : SeriesAct.InOrder (acts ++ [.run (.tick now)])) :
    (c.poll now).world = c.world ∧ (c.poll now).works = rest ∧
      (c.Cancelled → (c.poll now).ends = c.ends ++ [.aborted]) ∧
      (¬c.Cancelled →
        ∃ e, c.guard.Overdue e ∧ (c.poll now).ends = c.ends ++ [.interrupted e]) := by
  rw [h.cancelled_iff]
  rcases c.guard.clear_or_cut now with hclear | ⟨e, event, hcut⟩ | hspent
  · exact absurd hclear (h.not_clear hi ho)
  · rw [poll_of_interrupts hw hcut]
    refine ⟨rfl, rfl, fun hs => ?_, fun _ => ⟨e, hcut.overdue, rfl⟩⟩
    have hne := hcut.1
    rw [RunGuard.signal_settle, hs] at hne
    exact absurd rfl hne
  · rw [poll_of_spent hw hspent]
    refine ⟨rfl, rfl, fun _ => rfl, fun hs => ?_⟩
    rw [RunGuard.signal_settle, CancelSignal.settled_eq_spent] at hspent
    exact absurd hspent hs

/-- After an interruption no work is polled any more. -/
theorem world_act (h : c.Lasts g acts) (hi : c.Interrupted) {a : SeriesAct σ}
    (ho : SeriesAct.InOrder (acts ++ [a])) : (c.act a).world = a.disturb c.world := by
  cases a with
  | giveUp => rfl
  | run a =>
    cases a with
    | disturb f | cancel | abandon => rfl
    | tick now =>
      change (c.poll now).world = c.world
      cases hw : c.works with
      | nil => rw [poll_of_idle hw]
      | cons w rest => exact (h.poll_of_interrupted hi hw ho).1

theorem world_perform (h : c.Lasts g acts) (hi : c.Interrupted) {late : List (SeriesAct σ)}
    (ho : SeriesAct.InOrder (acts ++ late)) :
    (c.perform late).world = late.foldl SeriesAct.disturb c.world := by
  induction late generalizing c acts with
  | nil => rfl
  | cons a late ih =>
    rw [List.append_cons] at ho
    rw [List.foldl_cons, ← h.world_act hi ho.left]
    exact ih (h.act ho.left) (hi.act a) ho

/-- What comes of a wait under the guard after an interruption. -/
theorem tick_vigil (h : c.Lasts g acts) (hi : c.Interrupted)
    (ho : SeriesAct.InOrder (acts ++ [.run (.tick now)])) (channel : EventChannel)
    {watcher : CompletionWatcher} (hr : watcher.result = none) :
    let v := (Vigil.start channel c.guard watcher).tick now
    v.read = [] ∧ (c.Cancelled → v.progress = .aborted ∧ v.channel = channel) ∧
      (¬c.Cancelled →
        v.channel.stopped ∧ ∃ e, c.guard.Overdue e ∧ v.progress = .ended (.error e)) := by
  intro v
  rw [h.cancelled_iff]
  have hnone : watcher.startWatching.result = none := by rw [watcher.result_startWatching, hr]
  obtain ⟨t, hm, ht⟩ := Vigil.tick_of_waiting
    (w := (Vigil.start channel c.guard watcher).wait) (.inl rfl) now
  have hv : v = ⟨t.wait, t.progress⟩ := ht
  rw [hv]
  cases hm with
  | decided hsome =>
    have := hnone.symm.trans hsome
    cases this
  | interrupted _ hcut =>
    refine ⟨rfl, fun hs => ?_, fun _ => ⟨rfl, _, hcut.overdue, rfl⟩⟩
    have hne := hcut.1
    rw [RunGuard.signal_settle] at hne
    exact absurd (CancelSignal.settled_eq_spent.mpr hs) hne
  | brokenDown _ hspent =>
    refine ⟨rfl, fun _ => ⟨rfl, rfl⟩, fun hs => ?_⟩
    rw [RunGuard.signal_settle] at hspent
    exact absurd (CancelSignal.settled_eq_spent.mp hspent) hs
  | blocked _ hclear | read _ hclear | ended _ hclear =>
    exact absurd hclear (h.not_clear hi ho)

end Lasts

/-- Of the calls under a guard some are done and then some find the time over, unless one finds the
signal sent: it is interrupted, and all that come after it break down. Once a call was interrupted no
work is polled any more. The next call is interrupted as well, and a wait under the guard stops its
watch, as long as the signal has not been taken; otherwise both break down. -/
theorem interruption_lasts (g : RunGuard) (hg : g.signal ≠ .spent) (world : σ)
    (works : List (Work σ α)) (acts : List (SeriesAct σ)) (ho : SeriesAct.InOrder acts) :
    let c := ({ guard := g, world, works } : GuardSeries σ α).perform acts
    c.guard = { g with signal := c.guard.signal } ∧
    (∃ (values : List α) (n : Nat), ¬c.Cancelled ∧ c.ends = values.map .done ++ g.timeouts n ∨
      c.Cancelled ∧ ∃ k, c.ends = values.map .done ++ g.timeouts n ++
        .interrupted (.cancelled g.step) :: List.replicate k .aborted) ∧
    (c.Interrupted →
      (∀ late, SeriesAct.InOrder (acts ++ late) →
        (c.perform late).world = late.foldl SeriesAct.disturb c.world) ∧
      ∀ now, SeriesAct.InOrder (acts ++ [.run (.tick now)]) →
        (∀ w rest, c.works = w :: rest →
          let d := c.poll now
          d.world = c.world ∧ d.works = rest ∧
          (c.Cancelled → d.ends = c.ends ++ [.aborted]) ∧
          (¬c.Cancelled → ∃ e, c.guard.Overdue e ∧ d.ends = c.ends ++ [.interrupted e])) ∧
        ∀ channel (watcher : CompletionWatcher), watcher.result = none →
          let v := (Vigil.start channel c.guard watcher).tick now
          v.read = [] ∧ (c.Cancelled → v.progress = .aborted ∧ v.channel = channel) ∧
          (¬c.Cancelled →
            v.channel.stopped ∧ ∃ e, c.guard.Overdue e ∧ v.progress = .ended (.error e))) := by
  intro c
  have h : c.Lasts g acts := (lasts_start hg world works).perform ho
  refine ⟨h.guard, ?_, fun hi => ⟨fun late hlate => h.world_perform hi hlate, fun now hnow => ?_⟩⟩
  · rw [h.cancelled_iff]
    cases h.standing with
    | uncancelled values n hs he hn => exact ⟨values, n, .inl ⟨hs, he⟩⟩
    | cancelled values n k hs he => exact ⟨values, n, .inr ⟨hs, k, he⟩⟩
  · constructor
    · intro w rest hw
      exact h.poll_of_interrupted hi hw hnow
    · intro channel watcher hr
      exact h.tick_vigil hi hnow channel hr

/-- The smallest time limit that is not over at once. -/
def sampleLimit : TimeLimit := ⟨.ofParts 0 1, Instant.zero.later (.ofParts 0 1)⟩

/-- Calls that are done when they are polled, in a world that counts polls. -/
def sampleSeries (signal : CancelSignal) : GuardSeries Nat Nat where
  guard := ⟨"unit", signal, some sampleLimit⟩
  world := 0
  works := List.replicate 5 fun _ polls => (polls + 1, some polls)

/-- The first call is done, the second one finds the time over, and the third one the signal sent. -/
theorem interruption_lasts_sample :
    let run (acts : List (SeriesAct Nat)) := (sampleSeries .armed).perform acts
    let last : SeriesAct Nat := .run (.tick ⟨1, by decide⟩)
    let early : List (SeriesAct Nat) := [.run (.tick .zero), last]
    let late : List (SeriesAct Nat) := early ++ [.run .cancel, last]
    (run early).ends = [.done 0, .interrupted (.timeout "unit" sampleLimit.after)] ∧
      (∃ e, (run early).guard.Overdue e ∧
        ((run early).poll ⟨1, by decide⟩).ends = (run early).ends ++ [.interrupted e]) ∧
      (run late).ends = (run early).ends ++ [.interrupted (.cancelled "unit")] ∧
      ((run late).poll ⟨1, by decide⟩).ends = (run late).ends ++ [.aborted] ∧
      ((run late).poll ⟨1, by decide⟩).world = (run late).world := by
  intro run last early late
  have hearly : SeriesAct.InOrder (early ++ [last]) := by
    unfold SeriesAct.InOrder
    decide
  have hlate : SeriesAct.InOrder (late ++ [last]) := by
    unfold SeriesAct.InOrder
    decide
  have hends : (run early).ends = [.done 0, .interrupted (.timeout "unit" sampleLimit.after)] := rfl
  have hsent : (run late).ends = (run early).ends ++ [.interrupted (.cancelled "unit")] := rfl
  have htimeout : (run early).Interrupted := ⟨.timeout "unit" sampleLimit.after, by
    rw [hends]
    decide⟩
  have huntaken : ¬(run early).Cancelled := by
    unfold Cancelled
    rw [hends]
    decide
  have htaken : (run late).Cancelled := by
    unfold Cancelled
    rw [hsent]
    exact List.mem_append_right _ List.mem_cons_self
  have hfirst := (interruption_lasts (sampleSeries .armed).guard nofun 0
    (sampleSeries .armed).works early hearly.left).2.2 htimeout
  have hsecond := (interruption_lasts (sampleSeries .armed).guard nofun 0
    (sampleSeries .armed).works late hlate.left).2.2 ⟨_, htaken⟩
  obtain ⟨-, -, -, hnext⟩ := (hfirst.2 ⟨1, by decide⟩ hearly).1 _ _ rfl
  obtain ⟨hworld, -, hlast, -⟩ := (hsecond.2 ⟨1, by decide⟩ hlate).1 _ _ rfl
  exact ⟨hends, hnext huntaken, hsent, hlast htaken, hworld⟩

/-- A call that finds the signal sent is followed by one that breaks down, and so is a wait under the
guard: its watch is not stopped. -/
theorem call_after_cancellation_breaks_down :
    let c := (sampleSeries .sent).perform [.run (.tick .zero), .run (.tick .zero)]
    let v := (Vigil.start {} c.guard { podName := "unit-pod" }).tick .zero
    c.ends = [.interrupted (.cancelled "unit"), .aborted] ∧ c.world = 0 ∧
      v.progress = .aborted ∧ v.channel.stopped = false :=
  ⟨rfl, rfl, rfl, rfl⟩

end GuardSeries

end PodPipeline
