import PodPipeline.Proofs.Run.Interruption

/-! Calls under one guard, one after the other. At each poll the signal comes first, then the clock,
and only then the work; all calls share one deadline. -/
namespace PodPipeline

variable {σ α : Type}

abbrev Work (σ α : Type) := Instant → σ → σ × Option α

/-- What polling some work has made of the world, if nothing stood in its way. -/
def Work.polled (w : Work σ α) (s : σ) (acts : List (RunAct σ)) : σ :=
  acts.foldl (fun s a =>
    match a with
    | .tick now => (w now s).1
    | .disturb f => f s
    | .cancel | .abandon => s) s

/-- Work that was not polled has had no part in what the world has come to. -/
theorem Work.polled_of_unpolled {acts : List (RunAct σ)} (h : ∀ now, .tick now ∉ acts)
    (w w' : Work σ α) (s : σ) : w.polled s acts = w'.polled s acts := by
  induction acts generalizing s with
  | nil => rfl
  | cons a acts ih =>
    have hrest : ∀ now, .tick now ∉ acts := fun now ha => h now (List.mem_cons_of_mem a ha)
    cases a with
    | tick now => exact absurd List.mem_cons_self (h now)
    | disturb f => exact ih hrest (f s)
    | cancel | abandon => exact ih hrest s

/-- Calls under one guard, up to the first one that is interrupted. -/
structure GuardedCalls (σ α : Type) where
  guard : RunGuard
  world : σ
  /-- The work that is not done. The call for the first is under way. -/
  works : List (Work σ α)
  results : List (Except StepError α) := []
  log : List LogEvent := []

namespace GuardedCalls

def poll (c : GuardedCalls σ α) (now : Instant) : GuardedCalls σ α :=
  match c.works with
  | [] => c
  | w :: rest =>
    let a := c.guard.poll now (w now) c.world
    let c := { c with guard := a.guard, world := a.world, log := c.log ++ a.log }
    match a.waited with
    | .pending => c
    | .done v => { c with works := rest, results := c.results ++ [.ok v] }
    | .interrupted e => { c with works := [], results := c.results ++ [.error e] }
    | .aborted => { c with works := [] }

def act (c : GuardedCalls σ α) : RunAct σ → GuardedCalls σ α
  | .tick now => c.poll now
  | .disturb f => { c with world := f c.world }
  | .cancel => { c with guard.signal := c.guard.signal.send }
  | .abandon => { c with guard.signal := c.guard.signal.abandon }

def perform (c : GuardedCalls σ α) (acts : List (RunAct σ)) : GuardedCalls σ α := acts.foldl act c

def unsignalled (c : GuardedCalls σ α) : GuardedCalls σ α := { c with guard.signal := .absent }

end GuardedCalls

namespace RunContext

/-- The time limit `after` of a guard that began at `begun` is over. -/
def Expired (ctx : RunContext) (begun : Instant) (after : Duration) (now : Instant) : Prop :=
  ctx.timeout = some after ∧ ∃ deadline, begun.add? after = some deadline ∧ deadline.reached now

/-- After some acts the signal is neither sent nor taken. -/
def Unsent (ctx : RunContext) (acts : List (RunAct σ)) : Prop :=
  ctx.signalAfter acts ≠ .sent ∧ ctx.signalAfter acts ≠ .spent

/-- When `early` has happened to the guard, no poll among `acts` ends a call for `w` that has come
to `s`: the signal is not sent, the time is not over and the work is not done. -/
def Awaits (ctx : RunContext) (begun : Instant) (w : Work σ α) (s : σ)
    (early acts : List (RunAct σ)) : Prop :=
  ∀ before now after, acts = before ++ .tick now :: after →
    ctx.Unsent (early ++ before) ∧ (∀ d, ¬ctx.Expired begun d now) ∧
      (w now (w.polled s before)).2 = none

theorem Awaits.tail {ctx : RunContext} {begun : Instant} {w : Work σ α} {s : σ}
    {early acts : List (RunAct σ)} {a : RunAct σ} (h : ctx.Awaits begun w s early (a :: acts)) :
    ctx.Awaits begun w (w.polled s [a]) (early ++ [a]) acts := by
  intro before now after hacts
  have hcons : a :: acts = (a :: before) ++ .tick now :: after := by rw [hacts, List.cons_append]
  have hstep := h (a :: before) now after hcons
  rwa [List.append_cons] at hstep

end RunContext

namespace RunGuard

variable {g : RunGuard} {now : Instant}

theorem interrupts_of_sent (h : g.signal = .sent) :
    g.Interrupts now (.cancelled g.step) (.cancelled g.step) := by
  have hsettle : g.settle = g := by simp [settle, h]
  constructor
  · rw [hsettle, h]
    decide
  · rw [hsettle, interruption?, if_pos h]

theorem interrupts_of_expired {after : Duration} (hsent : g.signal ≠ .sent)
    (hspent : g.signal ≠ .spent) (h : g.expired? now = some after) :
    g.Interrupts now (.timeout g.step after) (.timedOut g.step after) := by
  have hsettled : g.settle.signal ≠ .sent ∧ g.settle.signal ≠ .spent := by
    rw [signal_settle]
    cases hs : g.signal <;> simp_all [CancelSignal.settled]
  have hexp : g.settle.expired? now = some after := by rwa [expired?, limit_settle]
  constructor
  · exact hsettled.2
  · rw [interruption?, if_neg hsettled.1, hexp, step_settle]
    rfl

theorem poll_of_absent (h : g.signal.settled = .absent) (now : Instant)
    (work : σ → σ × Option α) (s : σ) :
    ({ g with signal := .absent } : RunGuard).poll now work s = g.poll now work s := by
  have hsettle : ({ g with signal := .absent } : RunGuard).settle = g.settle := by
    rw [settle_eq, settle_eq, h]
    rfl
  unfold poll
  rw [hsettle]

end RunGuard

namespace GuardedCalls

variable {step : String} {ctx : RunContext} {begun : Instant} {c : GuardedCalls σ α}
  {early acts : List (RunAct σ)} {w : Work σ α} {rest : List (Work σ α)} {now : Instant}

theorem perform_append (c : GuardedCalls σ α) (acts late : List (RunAct σ)) :
    c.perform (acts ++ late) = (c.perform acts).perform late := List.foldl_append

theorem poll_of_clear (hw : c.works = w :: rest) (h : c.guard.Clear now) : c.poll now =
    match (w now c.world).2 with
    | none => { c with guard := c.guard.settle, world := (w now c.world).1 }
    | some v =>
      { c with
        guard := c.guard.settle, world := (w now c.world).1
        works := rest, results := c.results ++ [.ok v] } := by
  unfold poll
  rw [hw]
  simp only [RunGuard.poll_of_clear h, List.append_nil]
  cases (w now c.world).2 with
  | none => simp [← hw]
  | some v => rfl

theorem poll_of_spent (hw : c.works = w :: rest) (h : c.guard.settle.signal = .spent) :
    c.poll now = { c with guard := c.guard.settle, works := [] } := by
  unfold poll
  rw [hw]
  simp only [RunGuard.poll_of_spent h, List.append_nil]

theorem poll_of_interrupts {e : StepError} {event : LogEvent} (hw : c.works = w :: rest)
    (h : c.guard.Interrupts now e event) : c.poll now =
      { c with
        guard := c.guard.settle.afterInterruption, works := []
        results := c.results ++ [.error e], log := c.log ++ [event] } := by
  unfold poll
  rw [hw]
  simp only [RunGuard.poll_of_interrupts h]

/-- The guard of the calls is that with which they began. As long as a call is under way, its signal
is what has become of the signal. -/
structure Keeps (step : String) (ctx : RunContext) (begun : Instant) (acts : List (RunAct σ))
    (c : GuardedCalls σ α) : Prop where
  guard : ∃ g, RunGuard.start? step ctx begun = some g ∧
    c.guard = { g with signal := c.guard.signal }
  signal : c.works ≠ [] → c.guard.signal.settled = (ctx.signalAfter acts).settled

theorem keeps_start {g : RunGuard} (hg : RunGuard.start? step ctx begun = some g)
    (world : σ) (works : List (Work σ α)) :
    Keeps step ctx begun ([] : List (RunAct σ)) { guard := g, world, works } := by
  obtain ⟨-, hsig, -⟩ := RunGuard.start?_eq_some hg
  refine ⟨⟨g, hg, rfl⟩, fun _ => ?_⟩
  change g.signal.settled = ctx.signal.settled
  rw [hsig]

namespace Keeps

theorem step_eq (h : c.Keeps step ctx begun acts) : c.guard.step = step := by
  obtain ⟨g, hg, hc⟩ := h.guard
  rw [hc]
  exact (RunGuard.start?_eq_some hg).1

/-- All calls have the deadline that the guard began with. -/
theorem expired?_eq_some_iff (h : c.Keeps step ctx begun acts) {after : Duration} :
    c.guard.expired? now = some after ↔ ctx.Expired begun after now := by
  obtain ⟨g, hg, hc⟩ := h.guard
  obtain ⟨-, -, hlimit⟩ := RunGuard.start?_eq_some hg
  have hexp : c.guard.expired? now = g.expired? now := by rw [hc]; rfl
  rw [hexp]
  unfold RunGuard.expired? RunContext.Expired
  rcases hlimit with ⟨ht, hl⟩ | ⟨after', deadline, ht, hd, hl⟩
  · simp [ht, hl]
  · rw [ht, hl]
    constructor
    · intro h
      obtain ⟨l, hl, rfl⟩ := Option.map_eq_some_iff.mp h
      obtain ⟨hl, hr⟩ := Option.filter_eq_some_iff.mp hl
      cases hl
      exact ⟨rfl, deadline, hd, hr⟩
    · rintro ⟨ht, deadline', hd', hr⟩
      cases ht
      obtain rfl : deadline = deadline' := Option.some.inj (hd.symm.trans hd')
      simp [Option.filter, hr]

theorem signal_eq_iff (h : c.Keeps step ctx begun acts) (hw : c.works = w :: rest)
    {sig : CancelSignal} (hs : sig = .sent ∨ sig = .spent) :
    c.guard.signal = sig ↔ ctx.signalAfter acts = sig :=
  CancelSignal.eq_iff_of_settled (h.signal (by simp [hw])) hs

theorem unsent (h : c.Keeps step ctx begun acts) (hw : c.works = w :: rest)
    (hs : ctx.Unsent acts) : c.guard.signal ≠ .sent ∧ c.guard.signal ≠ .spent := by
  have hsent := h.signal_eq_iff hw (.inl rfl)
  have hspent := h.signal_eq_iff hw (.inr rfl)
  exact ⟨mt hsent.mp hs.1, mt hspent.mp hs.2⟩

/-- Nothing stands in the way of the work under way, if the signal is not sent and the time is not
over. -/
theorem clear (h : c.Keeps step ctx begun acts) (hw : c.works = w :: rest)
    (hs : ctx.Unsent acts) (hexp : ∀ d, ¬ctx.Expired begun d now) : c.guard.Clear now := by
  obtain ⟨hsent, hspent⟩ := h.unsent hw hs
  have hnone : c.guard.expired? now = none := by
    cases he : c.guard.expired? now with
    | none => rfl
    | some d => exact absurd (h.expired?_eq_some_iff.mp he) (hexp d)
  exact RunGuard.clear_iff.mpr ⟨hspent, hsent, hnone⟩

theorem signalled (h : c.Keeps step ctx begun acts) {f : CancelSignal → CancelSignal}
    (hf : CancelSignal.Settles f) {a : RunAct σ} (ha : ∀ sig, RunAct.signal sig a = f sig) :
    Keeps step ctx begun (acts ++ [a]) { c with guard.signal := f c.guard.signal } := by
  obtain ⟨g, hg, hc⟩ := h.guard
  refine ⟨⟨g, hg, by rw [hc]⟩, fun hw => ?_⟩
  have hsig : ctx.signalAfter (acts ++ [a]) = f (ctx.signalAfter acts) := by
    rw [ctx.signalAfter_append]
    exact ha _
  rw [hsig]
  exact hf _ _ (h.signal hw)

/-- A poll that leaves a call under way only settles the signal. -/
theorem poll (h : c.Keeps step ctx begun acts) (now : Instant) :
    (c.poll now).Keeps step ctx begun (acts ++ [.tick now]) := by
  obtain ⟨g, hg, hc⟩ := h.guard
  have hsig : ctx.signalAfter (acts ++ [.tick now]) = ctx.signalAfter acts :=
    ctx.signalAfter_append acts _
  have hsettle : c.guard.settle = { g with signal := c.guard.settle.signal } := by
    rw [RunGuard.settle_eq, hc]
  cases hw : c.works with
  | nil =>
    have hstay : c.poll now = c := by
      unfold GuardedCalls.poll
      rw [hw]
    rw [hstay]
    exact ⟨⟨g, hg, hc⟩, fun hne => absurd hw hne⟩
  | cons w rest =>
    have hsettled : c.guard.settle.signal.settled = (ctx.signalAfter acts).settled := by
      rw [RunGuard.signal_settle, CancelSignal.settled_settled]
      exact h.signal (by simp [hw])
    rcases c.guard.clear_or_cut now with hclear | ⟨e, event, hi⟩ | hspent
    · rw [poll_of_clear hw hclear]
      cases (w now c.world).2 with
      | none => exact ⟨⟨g, hg, hsettle⟩, fun _ => hsig ▸ hsettled⟩
      | some v => exact ⟨⟨g, hg, hsettle⟩, fun _ => hsig ▸ hsettled⟩
    · rw [poll_of_interrupts hw hi]
      refine ⟨⟨g, hg, ?_⟩, fun hne => absurd rfl hne⟩
      dsimp only
      unfold RunGuard.afterInterruption
      split
      · rw [hsettle]
      · exact hsettle
    · rw [poll_of_spent hw hspent]
      exact ⟨⟨g, hg, hsettle⟩, fun hne => absurd rfl hne⟩

theorem act (h : c.Keeps step ctx begun acts) (a : RunAct σ) :
    (c.act a).Keeps step ctx begun (acts ++ [a]) := by
  cases a with
  | tick now => exact h.poll now
  | disturb f =>
    obtain ⟨g, hg, hc⟩ := h.guard
    have hsig : ctx.signalAfter (acts ++ [.disturb f]) = ctx.signalAfter acts :=
      ctx.signalAfter_append acts _
    exact ⟨⟨g, hg, hc⟩, fun hw => hsig ▸ h.signal hw⟩
  | cancel => exact h.signalled CancelSignal.settles_send fun _ => rfl
  | abandon => exact h.signalled CancelSignal.settles_abandon fun _ => rfl

theorem perform (h : c.Keeps step ctx begun acts) (late : List (RunAct σ)) :
    (c.perform late).Keeps step ctx begun (acts ++ late) := by
  induction late generalizing c acts with
  | nil => rwa [List.append_nil]
  | cons a late ih =>
    rw [List.append_cons]
    exact ih (h.act a)

/-- As long as no poll ends the call, the work goes on from where it is. -/
theorem perform_of_awaits (h : c.Keeps step ctx begun early) (hw : c.works = w :: rest)
    (ha : ctx.Awaits begun w c.world early acts) : c.perform acts =
      { c with guard := (c.perform acts).guard, world := w.polled c.world acts } := by
  induction acts generalizing c early with
  | nil => rfl
  | cons a acts ih =>
    have hact : c.act a = { c with guard := (c.act a).guard, world := w.polled c.world [a] } := by
      cases a with
      | disturb f => rfl
      | cancel | abandon => rfl
      | tick now =>
        obtain ⟨hs, hexp, hnone⟩ := ha [] now acts rfl
        rw [List.append_nil] at hs
        have hpoll := poll_of_clear hw (h.clear hw hs hexp)
        rw [show (w now c.world).2 = none from hnone] at hpoll
        change c.poll now = { c with guard := (c.poll now).guard, world := (w now c.world).1 }
        rw [hpoll]
    -- the same call goes on, from the world that the first act leaves
    have hworks : (c.act a).works = w :: rest := by rw [hact, hw]
    have hworld : (c.act a).world = w.polled c.world [a] := by rw [hact]
    have htail : ctx.Awaits begun w (c.act a).world (early ++ [a]) acts := hworld ▸ ha.tail
    have hih := ih (h.act a) hworks htail
    change (c.act a).perform acts = { c with
      guard := ((c.act a).perform acts).guard, world := w.polled (w.polled c.world [a]) acts }
    rw [hih, hworld, hact]

/-- The next poll of the work under way: the signal comes first, then the clock, then the work. -/
theorem poll_eq (h : c.Keeps step ctx begun acts) (hw : c.works = w :: rest) (now : Instant) :
    let d := c.poll now
    (ctx.signalAfter acts = .sent → d = { c with
      guard := d.guard, works := [], results := c.results ++ [.error (.cancelled step)]
      log := c.log ++ [.cancelled step] }) ∧
    (ctx.signalAfter acts = .spent → d = { c with guard := d.guard, works := [] }) ∧
    (ctx.Unsent acts → ∀ after, ctx.Expired begun after now → d = { c with
      guard := d.guard, works := [], results := c.results ++ [.error (.timeout step after)]
      log := c.log ++ [.timedOut step after] }) ∧
    (ctx.Unsent acts → (∀ after, ¬ctx.Expired begun after now) →
      match (w now c.world).2 with
      | none => d = { c with guard := d.guard, world := (w now c.world).1 }
      | some v => d = { c with
        guard := d.guard, world := (w now c.world).1, works := rest
        results := c.results ++ [.ok v] }) := by
  intro d
  refine ⟨fun hs => ?_, fun hs => ?_, fun hs after hexp => ?_, fun hs hexp => ?_⟩
  · have hsent : c.guard.signal = .sent := (h.signal_eq_iff hw (.inl rfl)).mpr hs
    have hpoll : d = _ := poll_of_interrupts hw (RunGuard.interrupts_of_sent hsent)
    rw [hpoll, h.step_eq]
  · have hspent : c.guard.signal = .spent := (h.signal_eq_iff hw (.inr rfl)).mpr hs
    have hsettle : c.guard.settle.signal = .spent := by
      rw [RunGuard.signal_settle, hspent]
      rfl
    have hpoll : d = _ := poll_of_spent hw hsettle
    rw [hpoll]
  · obtain ⟨hsent, hspent⟩ := h.unsent hw hs
    have hover : c.guard.expired? now = some after := h.expired?_eq_some_iff.mpr hexp
    have hpoll : d = _ := poll_of_interrupts hw (RunGuard.interrupts_of_expired hsent hspent hover)
    rw [hpoll, h.step_eq]
  · have hpoll : d = _ := poll_of_clear hw (h.clear hw hs hexp)
    cases hv : (w now c.world).2 with
    | none =>
      rw [hv] at hpoll
      rw [hpoll]
    | some v =>
      rw [hv] at hpoll
      rw [hpoll]

end Keeps

/-! The sender of the signal is gone. -/

/-- The guard of the calls is not concerned with the signal any more. -/
def Deaf (c : GuardedCalls σ α) : Prop := c.works = [] ∨ c.guard.signal.settled = .absent

theorem Deaf.poll (h : c.Deaf) (now : Instant) :
    (c.poll now).Deaf ∧ (c.poll now).unsignalled = c.unsignalled.poll now := by
  cases hw : c.works with
  | nil =>
    have hidle {c : GuardedCalls σ α} (hw : c.works = []) : c.poll now = c := by
      unfold GuardedCalls.poll
      rw [hw]
    rw [hidle hw, hidle (c := c.unsignalled) hw]
    exact ⟨h, rfl⟩
  | cons w rest =>
    have habsent : c.guard.signal.settled = .absent := h.resolve_left (by simp [hw])
    have hpoll : c.unsignalled.poll now = c.poll now := by
      unfold GuardedCalls.poll
      rw [show c.unsignalled.works = w :: rest from hw, hw]
      have hguard := RunGuard.poll_of_absent habsent now (w now) c.world
      simp only [unsignalled, hguard]
    have hsig : (c.poll now).guard.signal = .absent := by
      have hsettle : c.guard.settle.signal = .absent := by rw [RunGuard.signal_settle, habsent]
      rcases c.guard.clear_or_cut now with hclear | ⟨e, event, hi⟩ | hspent
      · rw [poll_of_clear hw hclear]
        cases (w now c.world).2 <;> exact hsettle
      · rw [poll_of_interrupts hw hi]
        simp [RunGuard.afterInterruption, hsettle]
      · rw [hsettle] at hspent
        cases hspent
    rw [hpoll]
    refine ⟨.inr (by rw [hsig]; rfl), ?_⟩
    unfold unsignalled
    rw [← hsig]

theorem Deaf.act (h : c.Deaf) (a : RunAct σ) :
    (c.act a).Deaf ∧ (c.act a).unsignalled = c.unsignalled.act a := by
  cases a with
  | tick now => exact h.poll now
  | disturb f => exact ⟨h, rfl⟩
  | cancel => exact ⟨h.imp_right (CancelSignal.settles_send _ .absent), rfl⟩
  | abandon => exact ⟨h.imp_right (CancelSignal.settles_abandon _ .absent), rfl⟩

/-- What happens to a guard that is not concerned with its signal happens to one without. -/
theorem Deaf.perform (h : c.Deaf) (acts : List (RunAct σ)) :
    (c.perform acts).unsignalled = c.unsignalled.perform acts := by
  induction acts generalizing c with
  | nil => rfl
  | cons a acts ih =>
    obtain ⟨hdeaf, hact⟩ := h.act a
    change ((c.act a).perform acts).unsignalled = (c.unsignalled.act a).perform acts
    rw [ih hdeaf, hact]

theorem Keeps.deaf (h : c.Keeps step ctx begun acts) (hs : ctx.signalAfter acts = .abandoned) :
    c.Deaf := by
  by_cases hw : c.works = []
  · exact .inl hw
  · have hsig := h.signal hw
    rw [hs] at hsig
    exact .inr hsig

/-- The guard of a run is there unless the clock cannot show its deadline. A call under it goes on
until the first poll that finds the signal sent, the time over or the work done. The signal comes
before the clock and the clock before the work, which is not polled by a poll that interrupts it;
the time counts from when the guard began, whichever call is under way. Once the sender of the
signal is gone, all goes on as under a guard without a signal. -/
theorem guard_precedence (step : String) (ctx : RunContext) (begun : Instant) (world : σ)
    (works : List (Work σ α)) :
    (RunGuard.start? step ctx begun = none ↔
      ∃ after, ctx.timeout = some after ∧ begun.add? after = none) ∧
    ∀ guard, RunGuard.start? step ctx begun = some guard →
      let run (acts : List (RunAct σ)) := ({ guard, world, works } : GuardedCalls σ α).perform acts
      (∀ early w rest, (run early).works = w :: rest →
        ∀ acts, ctx.Awaits begun w (run early).world early acts →
          let c := run early
          let s := w.polled c.world acts
          let sig := ctx.signalAfter (early ++ acts)
          run (early ++ acts) = { c with guard := (run (early ++ acts)).guard, world := s } ∧
          ((∀ now, .tick now ∉ acts) → ∀ w' : Work σ α, s = w'.polled c.world acts) ∧
          ∀ now,
            let d := run (early ++ acts ++ [.tick now])
            (sig = .sent → d = { c with
              guard := d.guard, world := s, works := []
              results := c.results ++ [.error (.cancelled step)]
              log := c.log ++ [.cancelled step] }) ∧
            (sig = .spent → d = { c with guard := d.guard, world := s, works := [] }) ∧
            (sig ≠ .sent ∧ sig ≠ .spent → ∀ after, ctx.Expired begun after now → d = { c with
              guard := d.guard, world := s, works := []
              results := c.results ++ [.error (.timeout step after)]
              log := c.log ++ [.timedOut step after] }) ∧
            (sig ≠ .sent ∧ sig ≠ .spent → (∀ after, ¬ctx.Expired begun after now) →
              match (w now s).2 with
              | none => d = { c with guard := d.guard, world := (w now s).1 }
              | some v => d = { c with
                guard := d.guard, world := (w now s).1, works := rest
                results := c.results ++ [.ok v] })) ∧
      ∀ early, ctx.signalAfter early = .abandoned → ∀ late,
        (run (early ++ late)).unsignalled = (run early).unsignalled.perform late := by
  constructor
  · constructor
    · exact RunGuard.start?_eq_none
    · rintro ⟨after, ht, hd⟩
      simp [RunGuard.start?, ht, hd]
  intro guard hg run
  have hkeeps (acts : List (RunAct σ)) : (run acts).Keeps step ctx begun acts :=
    (keeps_start hg world works).perform acts
  have hrun (acts late : List (RunAct σ)) : run (acts ++ late) = (run acts).perform late :=
    perform_append _ acts late
  constructor
  · intro early w rest hw acts ha c s sig
    have hkept : run (early ++ acts) =
        { c with guard := (run (early ++ acts)).guard, world := s } := by
      have hperform := (hkeeps early).perform_of_awaits hw ha
      rwa [← hrun] at hperform
    refine ⟨hkept, fun hn w' => Work.polled_of_unpolled hn w w' c.world, ?_⟩
    intro now d
    have hworks : (run (early ++ acts)).works = w :: rest := by rw [hkept, hw]
    have hpoll := (hkeeps (early ++ acts)).poll_eq hworks now
    have hd : (run (early ++ acts)).poll now = d := (hrun (early ++ acts) [.tick now]).symm
    rw [hd] at hpoll
    rwa [hkept] at hpoll
  · intro early hs late
    rw [hrun]
    exact ((hkeeps early).deaf hs).perform late

/-- Work that is ready at some moment, in a world that counts polls. -/
def sampleWork (ready : Instant) : Work Nat Instant := fun now polls =>
  (polls + 1, if ready.reached now then some ready else none)

/-- The second call has only what the first has left it of the time. -/
theorem guard_precedence_sample :
    let moment (ns : Fin 100) : Instant := ⟨ns, by omega⟩
    let after : Duration := ⟨0, 60, by decide, by decide⟩
    let guard : RunGuard := ⟨"unit", .armed, some ⟨after, moment 60⟩⟩
    let run (acts : List (RunAct Nat)) :=
      ({ guard, world := 0, works := [sampleWork (moment 40), sampleWork (moment 80)] } :
        GuardedCalls Nat Instant).perform acts
    let early : List (RunAct Nat) := [.tick .zero, .abandon, .tick (moment 40)]
    let late : List (RunAct Nat) := [.tick (moment 50)] ++ [.tick (moment 60)]
    (run early).results = [.ok (moment 40)] ∧
      (run (early ++ late)).results = [.ok (moment 40), .error (.timeout "unit" after)] ∧
      (run (early ++ late)).world = 3 ∧
      (run (early ++ late)).unsignalled = (run early).unsignalled.perform late := by
  intro moment after guard run early late
  obtain ⟨-, hguard⟩ := guard_precedence "unit"
    { signal := .armed, timeout := some after } .zero 0
    [sampleWork (moment 40), sampleWork (moment 80)]
  obtain ⟨hcall, hgone⟩ := hguard guard (by decide)
  have hawaits : RunContext.Awaits { signal := .armed, timeout := some after } .zero
      (sampleWork (moment 80)) (run early).world early [.tick (moment 50)] := by
    intro before now later h
    obtain ⟨rfl, rfl, -⟩ : before = [] ∧ now = moment 50 ∧ later = [] := by
      cases before <;> simp_all
    refine ⟨⟨by decide, by decide⟩, ?_, rfl⟩
    rintro d ⟨hd, deadline, hdeadline, hreached⟩
    cases hd
    have hend : Instant.zero.add? after = some (moment 60) := by decide
    obtain rfl : moment 60 = deadline := Option.some.inj (hend.symm.trans hdeadline)
    exact absurd hreached (by decide)
  obtain ⟨-, -, hpoll⟩ := hcall early (sampleWork (moment 80)) [] rfl _ hawaits
  obtain ⟨-, -, hover, -⟩ := hpoll (moment 60)
  have hlast := hover ⟨by decide, by decide⟩ after ⟨rfl, moment 60, by decide, by decide⟩
  rw [List.append_assoc] at hlast
  refine ⟨rfl, ?_, ?_, hgone early rfl late⟩
  · exact congrArg GuardedCalls.results hlast
  · exact congrArg GuardedCalls.world hlast

end GuardedCalls

end PodPipeline
