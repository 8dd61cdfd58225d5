import PodPipeline.Proofs.Run.Likeness
import PodPipeline.Proofs.Run.Protocol

/-! The course that a run takes while this and that happens to it: when it begins, what has become
of its cancel signal and of its time limit, and how it can be cut. -/
namespace PodPipeline

variable {σ : Type}

/-- What may happen while a run goes on. -/
inductive RunAct (σ : Type) where
  | tick (now : Instant)
  /-- The world changes, and may send events to the run. -/
  | disturb (f : σ → σ)
  | cancel
  /-- The sender of the cancel signal goes away. -/
  | abandon

/-- What a run has come to, with the world, the record of the run and its log. -/
structure Course (σ : Type) where
  stage : RunStage
  world : Recorded σ
  log : List LogEvent := []

namespace RunAct

/-- What becomes of the cancel signal. -/
def signal (sig : CancelSignal) : RunAct σ → CancelSignal
  | .cancel => sig.send
  | .abandon => sig.abandon
  | _ => sig

def time? : RunAct σ → Option Instant
  | .tick now => some now
  | _ => none

def isAbandon : RunAct σ → Bool
  | .abandon => true
  | _ => false

/-- The moment of the first small step, in which the run begins. -/
def start? (acts : List (RunAct σ)) : Option Instant := acts.findSome? time?

end RunAct

namespace RunContext

def signalAfter (ctx : RunContext) (acts : List (RunAct σ)) : CancelSignal :=
  acts.foldl RunAct.signal ctx.signal

def deadline? (ctx : RunContext) (acts : List (RunAct σ)) : Option Instant :=
  ctx.timeout.bind fun after => (RunAct.start? acts).bind (·.add? after)

end RunContext

namespace Course

def start (ctx : RunContext) (world : σ) : Course σ := { stage := .idle ctx, world := { world } }

def calls (c : Course σ) : List ClientCall := c.world.record.calls.map (·.call)

def act (client : PodClient σ) (s : PodStep) (c : Course σ) : RunAct σ → Course σ
  | .tick now =>
    let t := s.tick (Recorded.client client) now c.stage c.world
    ⟨t.stage, t.world, c.log ++ t.log⟩
  | .disturb f => { c with world.world := f c.world.world }
  | .cancel => { c with stage := c.stage.mapSignal .send }
  | .abandon => { c with stage := c.stage.mapSignal .abandon }

def perform (client : PodClient σ) (s : PodStep) (c : Course σ) (acts : List (RunAct σ)) :
    Course σ := acts.foldl (act client s) c

end Course

@[simp] theorem RunStage.mapSignal_id (stage : RunStage) : stage.mapSignal id = stage := by
  cases stage <;> rfl

/-! How the guard of a run stands with what has happened. -/

namespace CancelSignal

/-- The signal as the run takes it: one that nobody can send any more is none. -/
def settled : CancelSignal → CancelSignal
  | .abandoned => .absent
  | sig => sig

end CancelSignal

theorem RunGuard.settle_eq (g : RunGuard) :
    g.settle = { g with signal := g.signal.settled } := by
  obtain ⟨step, sig, limit⟩ := g
  cases sig <;> rfl

theorem RunGuard.signal_settle (g : RunGuard) : g.settle.signal = g.signal.settled := by
  rw [g.settle_eq]

@[simp] theorem CancelSignal.settled_settled (sig : CancelSignal) :
    sig.settled.settled = sig.settled := by
  cases sig <;> rfl

/-- A run that has noticed that the sender is gone sees no other signal sent or taken. -/
theorem CancelSignal.eq_iff_of_settled {a b sig : CancelSignal} (h : a.settled = b.settled)
    (hs : sig = .sent ∨ sig = .spent) : a = sig ↔ b = sig := by
  rcases hs with rfl | rfl <;> cases a <;> cases b <;> simp_all [settled]

/-- The change `f` of the signal is the same for a run that has noticed that the sender is gone. -/
def CancelSignal.Settles (f : CancelSignal → CancelSignal) : Prop :=
  ∀ a b : CancelSignal, a.settled = b.settled → (f a).settled = (f b).settled

theorem CancelSignal.settles_send : Settles send := by
  intro a b h
  cases a <;> cases b <;> first | rfl | cases h

theorem CancelSignal.settles_abandon : Settles abandon := by
  intro a b h
  cases a <;> cases b <;> first | rfl | cases h

namespace RunContext

variable {ctx : RunContext} {acts : List (RunAct σ)}

theorem signalAfter_append (ctx : RunContext) (acts late : List (RunAct σ)) :
    ctx.signalAfter (acts ++ late) = late.foldl RunAct.signal (ctx.signalAfter acts) :=
  List.foldl_append

/-- A signal that was sent, or was taken before the run, is not changed by anything. -/
theorem signalAfter_fixed {sig : CancelSignal} (h : sig = .sent ∨ sig = .spent)
    (late : List (RunAct σ)) : late.foldl RunAct.signal sig = sig := by
  induction late with
  | nil => rfl
  | cons a late ih =>
    have : RunAct.signal sig a = sig := by
      rcases h with rfl | rfl <;> cases a <;> rfl
    rwa [List.foldl_cons, this]

/-- No run finds its signal taken that was not taken before it. -/
theorem signal_of_signalAfter (h : ctx.signalAfter acts = .spent) : ctx.signal = .spent := by
  have hact {sig : CancelSignal} {a : RunAct σ} (h : RunAct.signal sig a = .spent) :
      sig = .spent := by
    cases a <;> cases sig <;> first | rfl | cases h
  have hacts (acts : List (RunAct σ)) {sig : CancelSignal}
      (h : acts.foldl RunAct.signal sig = .spent) : sig = .spent := by
    induction acts generalizing sig with
    | nil => exact h
    | cons a acts ih => exact hact (ih h)
  exact hacts acts h

theorem start?_append {now : Instant} (h : RunAct.start? acts = some now)
    (late : List (RunAct σ)) : RunAct.start? (acts ++ late) = some now := by
  unfold RunAct.start? at h ⊢
  rw [List.findSome?_append, h, Option.some_or]

theorem start?_concat (h : RunAct.start? acts = none) (a : RunAct σ) :
    RunAct.start? (acts ++ [a]) = a.time? := by
  unfold RunAct.start? at h ⊢
  rw [List.findSome?_append, h, Option.none_or, List.findSome?_singleton]

theorem deadline?_eq {after : Duration} {begun : Instant} (ha : ctx.timeout = some after)
    (hb : RunAct.start? acts = some begun) : ctx.deadline? acts = begun.add? after := by
  unfold deadline?
  rw [ha, Option.bind_some, hb, Option.bind_some]

theorem deadline?_append {deadline : Instant} (h : ctx.deadline? acts = some deadline)
    (late : List (RunAct σ)) : ctx.deadline? (acts ++ late) = some deadline := by
  obtain ⟨after, ha, h⟩ := Option.bind_eq_some_iff.mp h
  obtain ⟨begun, hb, h⟩ := Option.bind_eq_some_iff.mp h
  rw [deadline?_eq ha (start?_append hb late), h]

end RunContext

theorem RunGuard.start?_eq_some {step : String} {ctx : RunContext} {begun : Instant} {g : RunGuard}
    (h : start? step ctx begun = some g) : g.step = step ∧ g.signal = ctx.signal ∧
      (ctx.timeout = none ∧ g.limit = none ∨ ∃ after deadline, ctx.timeout = some after ∧
        begun.add? after = some deadline ∧ g.limit = some ⟨after, deadline⟩) := by
  unfold start? at h
  cases ht : ctx.timeout with
  | none =>
    rw [ht] at h
    cases h
    exact ⟨rfl, rfl, .inl ⟨rfl, rfl⟩⟩
  | some after =>
    rw [ht] at h
    obtain ⟨deadline, hd, rfl⟩ := Option.map_eq_some_iff.mp h
    exact ⟨rfl, rfl, .inr ⟨after, deadline, rfl, hd, rfl⟩⟩

/-- The signal does not matter for how the guard of a run begins. -/
theorem RunGuard.start?_signal {step : String} {ctx : RunContext} {sig : CancelSignal}
    {begun : Instant} {g : RunGuard} (h : start? step { ctx with signal := sig } begun = some g) :
    ∃ g', start? step ctx begun = some g' ∧ { g' with signal := sig } = g := by
  unfold start? at h ⊢
  cases ht : ctx.timeout with
  | none =>
    rw [ht] at h
    exact ⟨_, rfl, Option.some.inj h⟩
  | some after =>
    rw [ht] at h
    obtain ⟨deadline, hd, rfl⟩ := Option.map_eq_some_iff.mp h
    exact ⟨⟨step, ctx.signal, some ⟨after, deadline⟩⟩, by simp [hd], rfl⟩

theorem RunGuard.start?_eq_none {step : String} {ctx : RunContext} {begun : Instant}
    (h : start? step ctx begun = none) :
    ∃ after, ctx.timeout = some after ∧ begun.add? after = none := by
  unfold start? at h
  cases ht : ctx.timeout with
  | none =>
    rw [ht] at h
    cases h
  | some after =>
    rw [ht] at h
    exact ⟨after, rfl, Option.map_eq_none_iff.mp h⟩

/-- The guard of a run is that with which it began, and its signal is what has become of it. -/
inductive RunStage.Guarded (s : PodStep) (ctx : RunContext) (acts : List (RunAct σ)) :
    RunStage → Prop where
  | idle (h : RunAct.start? acts = none) :
    Guarded s ctx acts (.idle { ctx with signal := ctx.signalAfter acts })
  | active {r begun g} (hb : RunAct.start? acts = some begun)
      (hg : RunGuard.start? s.sectionName ctx begun = some g)
      (hr : r.guard = { g with signal := r.guard.signal })
      (hs : r.guard.signal.settled = (ctx.signalAfter acts).settled) :
    Guarded s ctx acts (.active r)
  | ended {stage} (h : stage.isOver) : Guarded s ctx acts stage

/-- The ways in which a run can be cut: it is cancelled, runs out of time or breaks down, because
the signal was taken before it or the clock cannot show its deadline. -/
inductive RunStage.Cut (s : PodStep) (ctx : RunContext) (acts : List (RunAct σ)) :
    RunStage → Prop where
  | cancelled (h : ctx.signalAfter acts = .sent) :
    Cut s ctx acts (.finished (.error (.cancelled s.sectionName)))
  | timedOut {after deadline now} (ha : ctx.timeout = some after)
      (hd : ctx.deadline? acts = some deadline) (hn : .tick now ∈ acts)
      (hr : deadline.reached now) :
    Cut s ctx acts (.finished (.error (.timeout s.sectionName after)))
  | spent (h : ctx.signalAfter acts = .spent) : Cut s ctx acts .aborted
  | undated {after begun} (ha : ctx.timeout = some after) (hb : RunAct.start? acts = some begun)
      (hd : begun.add? after = none) : Cut s ctx acts .aborted

/-- The cancel signal was sent, or the time limit is over. -/
def RunContext.Interrupted (ctx : RunContext) (acts : List (RunAct σ)) (now : Instant) : Prop :=
  ctx.signalAfter acts = .sent ∨ ∃ deadline, ctx.deadline? acts = some deadline ∧
    deadline.reached now

theorem RunContext.Interrupted.append {ctx : RunContext} {acts : List (RunAct σ)} {now : Instant}
    (h : ctx.Interrupted acts now) (late : List (RunAct σ)) :
    ctx.Interrupted (acts ++ late) now := by
  rcases h with h | ⟨deadline, hd, hr⟩
  · left
    rw [ctx.signalAfter_append, h]
    exact signalAfter_fixed (.inl rfl) late
  · exact .inr ⟨deadline, deadline?_append hd late, hr⟩

namespace RunStage

variable {s : PodStep} {ctx : RunContext} {acts : List (RunAct σ)} {stage : RunStage}
  {r : ActiveRun} {now : Instant}

theorem Cut.isOver (h : Cut s ctx acts stage) : stage.isOver := by
  cases h <;> rfl

theorem Cut.append (h : Cut s ctx acts stage) (late : List (RunAct σ)) :
    Cut s ctx (acts ++ late) stage := by
  have hfixed (sig : CancelSignal) (hs : sig = .sent ∨ sig = .spent)
      (h : ctx.signalAfter acts = sig) : ctx.signalAfter (acts ++ late) = sig := by
    rw [ctx.signalAfter_append, h]
    exact RunContext.signalAfter_fixed hs late
  cases h with
  | cancelled h => exact .cancelled (hfixed _ (.inl rfl) h)
  | timedOut ha hd hn hr =>
    exact .timedOut ha (RunContext.deadline?_append hd late) (List.mem_append_left _ hn) hr
  | spent h => exact .spent (hfixed _ (.inr rfl) h)
  | undated ha hb hd => exact .undated ha (RunContext.start?_append hb late) hd

namespace Guarded

theorem active_inv (h : Guarded s ctx acts (.active r)) :
    r.guard.step = s.sectionName ∧ r.guard.signal.settled = (ctx.signalAfter acts).settled ∧
      (ctx.timeout = none ∧ r.guard.limit = none ∨ ∃ after deadline, ctx.timeout = some after ∧
        ctx.deadline? acts = some deadline ∧ r.guard.limit = some ⟨after, deadline⟩) := by
  cases h with
  | ended h => cases h
  | @active _ begun g hb hg hr hs =>
    obtain ⟨hstep, -, hlimit⟩ := RunGuard.start?_eq_some hg
    rw [hr]
    refine ⟨hstep, hs, hlimit.imp_right ?_⟩
    rintro ⟨after, deadline, ha, hd, hl⟩
    exact ⟨after, deadline, ha, (RunContext.deadline?_eq ha hb).trans hd, hl⟩

/-- What the run can see of the signal if it was sent or was taken before the run. -/
theorem signal_eq_iff (h : Guarded s ctx acts (.active r)) {sig : CancelSignal}
    (hs : sig = .sent ∨ sig = .spent) :
    r.guard.signal = sig ↔ ctx.signalAfter acts = sig := by
  obtain ⟨-, hsig, -⟩ := h.active_inv
  exact CancelSignal.eq_iff_of_settled hsig hs

theorem not_clear (h : Guarded s ctx acts (.active r)) (hi : ctx.Interrupted acts now) :
    ¬r.guard.Clear now := by
  rw [RunGuard.clear_iff]
  rintro ⟨-, hsent, hexp⟩
  rcases hi with hs | ⟨deadline, hd, hr⟩
  · exact hsent ((h.signal_eq_iff (.inl rfl)).mpr hs)
  · obtain ⟨-, -, ⟨ht, -⟩ | ⟨after, deadline', -, hd', hl⟩⟩ := h.active_inv
    · simp [RunContext.deadline?, ht] at hd
    · obtain rfl : deadline' = deadline := Option.some.inj (hd'.symm.trans hd)
      simp [RunGuard.expired?, hl, Option.filter, hr] at hexp

theorem cut_of_interrupts (h : Guarded s ctx acts (.active r)) {e : StepError} {event : LogEvent}
    (hi : r.guard.Interrupts now e event) :
    Cut s ctx (acts ++ [.tick now]) (.finished (.error e)) := by
  obtain ⟨hstep, -, hlimit⟩ := h.active_inv
  rcases hi.cause with ⟨rfl, hs⟩ | ⟨l, hl, hr, rfl⟩
  · rw [hstep]
    exact (Cut.cancelled ((h.signal_eq_iff (.inl rfl)).mp hs)).append _
  · rw [hstep]
    rcases hlimit with ⟨-, hnone⟩ | ⟨after, deadline, ha, hd, hsome⟩
    · rw [hnone] at hl
      cases hl
    · obtain rfl : _ = l := Option.some.inj (hsome.symm.trans hl)
      exact .timedOut ha (RunContext.deadline?_append hd _) (by simp) hr

theorem cut_of_spent (h : Guarded s ctx acts (.active r)) (hs : r.guard.settle.signal = .spent) :
    Cut s ctx acts .aborted := by
  refine .spent ((h.signal_eq_iff (.inr rfl)).mp ?_)
  rw [RunGuard.signal_settle] at hs
  cases hr : r.guard.signal <;> simp_all [CancelSignal.settled]

theorem mapSignal (h : Guarded s ctx acts stage) {a : RunAct σ}
    {f : CancelSignal → CancelSignal} (hf : CancelSignal.Settles f)
    (ha : ∀ sig, RunAct.signal sig a = f sig) (ht : a.time? = none) :
    Guarded s ctx (acts ++ [a]) (stage.mapSignal f) := by
  have hsig : ctx.signalAfter (acts ++ [a]) = f (ctx.signalAfter acts) := by
    rw [ctx.signalAfter_append]
    exact ha _
  cases h with
  | idle h =>
    have hidle : Guarded s ctx (acts ++ [a]) _ := idle ((RunContext.start?_concat h a).trans ht)
    rwa [hsig] at hidle
  | active hb hg hr hs =>
    refine .active (RunContext.start?_append hb _) hg ?_ ?_
    · rw [hr]
    · rw [hsig]
      exact hf _ _ hs
  | @ended stage h =>
    refine .ended ?_
    cases stage <;> exact h

theorem tick (h : Guarded s ctx acts stage) (client : PodClient σ) (now : Instant)
    (world : Recorded σ) : Guarded s ctx (acts ++ [.tick now])
      (s.tick (Recorded.client client) now stage world).stage := by
  have hsig : ctx.signalAfter (acts ++ [.tick now]) = ctx.signalAfter acts :=
    ctx.signalAfter_append acts _
  cases h with
  | idle h =>
    have hm := s.tick_moves (Recorded.client client) now
      (.idle { ctx with signal := ctx.signalAfter acts }) world
    generalize s.tick (Recorded.client client) now _ world = t at hm ⊢
    cases hm with
    | refused | undated => exact .ended rfl
    | rested h => cases h
    | @begun _ _ pod guard hp hg =>
      obtain ⟨g, hg', rfl⟩ := RunGuard.start?_signal hg
      exact .active (RunContext.start?_concat h _) hg' rfl (by rw [hsig])
  | @active r begun g hb hg hr hs =>
    rcases s.stage_advance (Recorded.client client) now r world with ho | ⟨r₁, hst, hr₁⟩
    · exact .ended ho
    · rw [show (s.tick (Recorded.client client) now (.active r) world).stage = _ from hst]
      refine .active (RunContext.start?_append hb _) hg ?_ ?_
      · rw [hr₁, r.guard.settle_eq, hr]
      · rw [hsig, hr₁, RunGuard.signal_settle, CancelSignal.settled_settled, hs]
  | ended h =>
    cases stage with
    | idle | active => cases h
    | finished | aborted => exact .ended rfl

theorem act {client : PodClient σ} {c : Course σ} (h : c.stage.Guarded s ctx acts)
    (a : RunAct σ) : (c.act client s a).stage.Guarded s ctx (acts ++ [a]) := by
  cases a with
  | tick now => exact h.tick client now c.world
  | disturb f =>
    have := h.mapSignal (a := .disturb f) (f := id) (fun _ _ h => h) (fun _ => rfl) rfl
    rwa [RunStage.mapSignal_id] at this
  | cancel => exact h.mapSignal CancelSignal.settles_send (fun _ => rfl) rfl
  | abandon => exact h.mapSignal CancelSignal.settles_abandon (fun _ => rfl) rfl

end Guarded

theorem guarded_idle (s : PodStep) (ctx : RunContext) :
    Guarded s ctx ([] : List (RunAct σ)) (.idle ctx) := .idle rfl

/-- Once the signal was sent or the time is over, a run does nothing to the world but let go of its
watch. -/
theorem Guarded.quiet (h : Guarded s ctx acts stage) (hi : ctx.Interrupted acts now)
    {τ : Type} (client : PodClient τ) (world : τ) :
    (s.tick client now stage world).world = world ∨
      ∃ r : ActiveRun, (s.tick client now stage world).world = r.release client world := by
  have hm := s.tick_moves client now stage world
  generalize s.tick client now stage world = t at hm ⊢
  cases stage with
  | idle =>
    cases hm with
    | refused | undated | begun | rested => exact .inl rfl
  | active r => exact .inr ⟨r, (hm.of_not_clear (h.not_clear hi)).1⟩
  | finished | aborted =>
    cases hm with
    | rested => exact .inl rfl

end RunStage

namespace Course

variable {client : PodClient σ} {s : PodStep} {ctx : RunContext} {acts late : List (RunAct σ)}
  {c cut full : Course σ} {pod : Pod}

theorem perform_append (c : Course σ) (acts late : List (RunAct σ)) :
    c.perform client s (acts ++ late) = (c.perform client s acts).perform client s late :=
  List.foldl_append

theorem guarded_perform (h : c.stage.Guarded s ctx acts) (late : List (RunAct σ)) :
    (c.perform client s late).stage.Guarded s ctx (acts ++ late) := by
  induction late generalizing c acts with
  | nil => rwa [List.append_nil]
  | cons a late ih =>
    rw [List.append_cons]
    exact ih (h.act a)

theorem guarded_start (client : PodClient σ) (s : PodStep) (ctx : RunContext) (world : σ)
    (acts : List (RunAct σ)) :
    ((start ctx world).perform client s acts).stage.Guarded s ctx acts := by
  have h : (start ctx world).stage.Guarded s ctx ([] : List (RunAct σ)) :=
    RunStage.guarded_idle s ctx
  exact guarded_perform h acts

/-- What is true when the signal was sent or the time is over stays true, if neither the others nor
the stopping of a watch spoil it. -/
theorem keeps_perform {Q : Recorded σ → Prop} (hg : c.stage.Guarded s ctx acts)
    (hi : ∀ now, .tick now ∈ late → ctx.Interrupted acts now)
    (hrelease : ∀ (r : ActiveRun) x, Q x → Q (r.release (Recorded.client client) x))
    (hdisturb : ∀ f, .disturb f ∈ late → ∀ x, Q x → Q { x with world := f x.world })
    (hQ : Q c.world) : Q (c.perform client s late).world := by
  induction late generalizing c acts with
  | nil => exact hQ
  | cons a late ih =>
    refine ih (hg.act a) (fun now hn => (hi now (List.mem_cons_of_mem _ hn)).append [a])
      (fun f hf => hdisturb f (List.mem_cons_of_mem _ hf)) ?_
    cases a with
    | tick now =>
      change Q (s.tick (Recorded.client client) now c.stage c.world).world
      have hquiet := hg.quiet (hi now List.mem_cons_self) (Recorded.client client) c.world
      rcases hquiet with hw | ⟨r, hw⟩
      · rwa [hw]
      · rw [hw]
        exact hrelease r _ hQ
    | disturb f => exact hdisturb f List.mem_cons_self _ hQ
    | cancel | abandon => exact hQ

/-! The run that cannot be interrupted. -/

theorem reaches_act (h : s.Reaches client ctx c.stage c.world) (a : RunAct σ) :
    s.Reaches client ctx (c.act client s a).stage (c.act client s a).world := by
  cases a with
  | tick now => exact h.moved now
  | disturb f => exact h.disturbed _
  | cancel => exact h.cancelled
  | abandon => exact h.abandoned

/-- A run takes back none of its calls. -/
theorem calls_act (client : PodClient σ) (hp : s.pod = .ok pod)
    (h : s.Traced pod c.stage c.world.record.calls) (a : RunAct σ) :
    c.calls <+: (c.act client s a).calls := by
  cases a with
  | tick now =>
    have hm := s.tick_moves (Recorded.client client) now c.stage c.world
    have hlen : c.calls.length ≤ (c.act client s (.tick now)).calls.length := by
      simp only [calls, List.length_map]
      refine hm.keeps (P := fun x => c.world.record.calls.length ≤ x.record.calls.length)
        ?_ (fun _ _ _ _ _ h => ⟨h, h⟩) (Nat.le_refl _)
      intro r d phase _ _ x hx
      exact Nat.le_trans hx (Recorded.length_calls_poll client now d r.begun x)
    have hafter := (h.move hp hm).follows
    exact List.prefix_of_prefix_length_le h.follows.calls_prefix hafter.calls_prefix hlen
  | disturb | cancel | abandon => exact List.prefix_rfl

end Course

end PodPipeline
