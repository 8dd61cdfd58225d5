import PodPipeline.Proofs.Run.Moves
import PodPipeline.Proofs.Run.Record

/-! Waiting for the events of a channel, while they are sent: the first decisive one decides, and
nothing else that is sent matters. -/
namespace PodPipeline

namespace WatchEvent

/-- The event decides the outcome of the pod called `name`. -/
inductive Decides (name : String) : WatchEvent → Outcome → Prop where
  | added {p o} (hn : p.name = name) (hv : p.verdict = some o) : Decides name (.added p) o
  | modified {p o} (hn : p.name = name) (hv : p.verdict = some o) : Decides name (.modified p) o
  | deleted {p o} (hn : p.name = name) (hv : p.verdict = some o) : Decides name (.deleted p) o
  /-- The pod is gone before it has finished. -/
  | gone {p} (hn : p.name = name) (hv : p.verdict = none) : Decides name (.deleted p) deletedOutcome

def IsIdle (name : String) (e : WatchEvent) : Prop := ∀ o, ¬e.Decides name o

theorem verdict_eq_some_iff {name : String} {e : WatchEvent} {o : Outcome} :
    e.verdict name = some o ↔ e.Decides name o := by
  constructor
  · intro h
    cases e with
    | added p | modified p =>
      obtain ⟨hn, hv⟩ := Option.ite_none_right_eq_some.mp h
      constructor <;> assumption
    | deleted p =>
      obtain ⟨hn, hv⟩ := Option.ite_none_right_eq_some.mp h
      cases hp : p.verdict with
      | none =>
        rw [hp] at hv
        cases hv
        exact .gone hn hp
      | some o' =>
        rw [hp] at hv
        cases hv
        exact .deleted hn hp
    | error _ => cases h
  · intro h
    cases h <;> simp_all [verdict]

theorem verdict_eq_none_iff {name : String} {e : WatchEvent} :
    e.verdict name = none ↔ e.IsIdle name := by
  simp only [IsIdle, ← verdict_eq_some_iff, Option.eq_none_iff_forall_ne_some, ne_eq]

theorem firstVerdict_eq_none_iff {name : String} {l : List WatchEvent} :
    firstVerdict name l = none ↔ ∀ e ∈ l, e.IsIdle name := by
  unfold firstVerdict
  simp only [List.findSome?_eq_none_iff, verdict_eq_none_iff]

/-- Whoever reads up to a decisive event and no further has read up to the first one. -/
theorem eq_of_firstVerdict {name : String} {e : WatchEvent} {before later read : List WatchEvent}
    {o r : Outcome} (hp : read <+: before ++ e :: later) (hb : firstVerdict name before = none)
    (he : e.verdict name = some o) (hr : firstVerdict name read = some r)
    (hd : firstVerdict name read.dropLast = none) : r = o ∧ read = before ++ [e] := by
  have hfirst : firstVerdict name (before ++ [e]) = some o := by
    simp [firstVerdict_append, firstVerdict_cons, hb, he]
  have hp' : before ++ [e] <+: before ++ e :: later := ⟨later, by simp⟩
  rcases List.prefix_or_prefix_of_prefix hp hp' with ⟨rest, hrest⟩ | ⟨rest, rfl⟩
  · rcases List.prefix_concat_iff.mp ⟨rest, hrest⟩ with rfl | ⟨rest', rfl⟩
    · exact ⟨Option.some.inj (hr.symm.trans hfirst), rfl⟩
    · simp [firstVerdict_append, hr] at hb
  · rcases List.eq_nil_or_concat rest with rfl | ⟨rest, x, rfl⟩
    · rw [List.append_nil] at hr ⊢
      exact ⟨Option.some.inj (hr.symm.trans hfirst), rfl⟩
    · rw [List.concat_eq_append, ← List.append_assoc, List.dropLast_concat, firstVerdict_append,
        hfirst] at hd
      cases hd

end WatchEvent

inductive WaitAct where
  | send (e : WatchEvent)
  /-- The sender of the events goes away. -/
  | close
  | cancel
  /-- The sender of the cancel signal goes away. -/
  | abandon
  | tick (now : Instant)
deriving DecidableEq, Repr

/-- The act interrupts no wait with the guard `g`. -/
def WaitAct.Spares (g : RunGuard) : WaitAct → Prop
  | .cancel => False
  | .tick now => g.Clear now
  | _ => True

namespace RunGuard

theorem Clear.settle {g : RunGuard} {now : Instant} (h : g.Clear now) : g.settle.Clear now := by
  rw [clear_iff] at h ⊢
  obtain ⟨hs, hc, he⟩ := h
  unfold RunGuard.settle
  split
  · exact ⟨nofun, nofun, he⟩
  · exact ⟨hs, hc, he⟩

theorem Clear.abandon {g : RunGuard} {now : Instant} (h : g.Clear now) :
    { g with signal := g.signal.abandon }.Clear now := by
  rw [clear_iff] at h ⊢
  obtain ⟨hs, hc, he⟩ := h
  refine ⟨?_, ?_, he⟩ <;> cases hg : g.signal <;> simp_all [CancelSignal.abandon]

end RunGuard

namespace EventChannel

/-- What a reader can still get. -/
def unread (c : EventChannel) : List WatchEvent := if c.stopped then [] else c.queue

def act (c : EventChannel) : WaitAct → EventChannel
  | .send e => c.send e
  | .close => c.close
  | _ => c

/-- The channel as its sender leaves it, if nobody reads. -/
def perform (c : EventChannel) (acts : List WaitAct) : EventChannel := acts.foldl act c

/-- A reader changes nothing of what is sent. -/
theorem perform_ticks (c : EventChannel) (nows : List Instant) :
    c.perform (nows.map .tick) = c := by
  induction nows with
  | nil => rfl
  | cons now nows ih => exact ih

variable {c d : EventChannel}

theorem next_event {e : WatchEvent} (h : c.next = (d, .event e)) :
    c.stopped = false ∧ c = { d with queue := e :: d.queue } := by
  obtain ⟨queue, sending, stopped⟩ := c
  cases stopped <;> cases queue <;> cases sending <;> simp_all [next]
  all_goals
    obtain ⟨rfl, rfl⟩ := h
    exact ⟨rfl, rfl, rfl⟩

theorem next_pending (h : c.next = (d, .pending)) : c = d ∧ c.queue = [] ∧ c.isOpen := by
  obtain ⟨queue, sending, stopped⟩ := c
  cases stopped <;> cases queue <;> cases sending <;> simp_all [next, isOpen]

theorem next_ended (h : c.next = (d, .ended)) : c = d ∧ c.unread = [] ∧ c.isOpen = false := by
  obtain ⟨queue, sending, stopped⟩ := c
  cases stopped <;> cases queue <;> cases sending <;> simp_all [next, isOpen, unread]

theorem send_of_open (h : c.isOpen) (e : WatchEvent) :
    c.send e = { c with queue := c.queue ++ [e] } := if_pos h

theorem send_of_not_open (h : c.isOpen = false) (e : WatchEvent) : c.send e = c := by
  simp [send, h]

theorem isOpen_iff : c.isOpen ↔ c.sending = true ∧ c.stopped = false := by simp [isOpen]

/-- What is sent comes after what can be read already. -/
theorem unread_act (c : EventChannel) (a : WaitAct) : c.unread <+: (c.act a).unread := by
  cases a with
  | send e =>
    unfold act
    cases h : c.isOpen with
    | true => simp [send_of_open h, unread, (isOpen_iff.mp h).2]
    | false => simp [send_of_not_open h]
  | close | cancel | abandon | tick _ => exact List.prefix_rfl

theorem stopped_act (c : EventChannel) (a : WaitAct) : (c.act a).stopped = c.stopped := by
  cases a with
  | send e =>
    simp only [act, send]
    split <;> rfl
  | close | cancel | abandon | tick _ => rfl

/-- Nothing is sent any more, once the channel is not open. -/
theorem act_of_not_open (h : c.isOpen = false) (a : WaitAct) :
    (c.act a).unread = c.unread ∧ (c.act a).isOpen = false := by
  cases a with
  | send e => simp [act, send_of_not_open h, h]
  | close => exact ⟨rfl, rfl⟩
  | cancel | abandon | tick _ => exact ⟨rfl, h⟩

end EventChannel

/-- The channel as it would be if nobody had read it. -/
def Recorded.whole (r : Recorded EventChannel) : EventChannel :=
  { r.world with queue := r.record.events ++ r.world.queue }

namespace Recorded

variable {r t : Recorded EventChannel}

@[simp] theorem isOpen_whole (r : Recorded EventChannel) : r.whole.isOpen = r.world.isOpen := rfl

theorem whole_act (r : Recorded EventChannel) (a : WaitAct) :
    { r with world := r.world.act a }.whole = r.whole.act a := by
  cases a with
  | send e =>
    change { r with world := r.world.send e }.whole = r.whole.send e
    cases h : r.world.isOpen with
    | true =>
      rw [EventChannel.send_of_open h, EventChannel.send_of_open (r.isOpen_whole.trans h)]
      simp [whole]
    | false =>
      rw [EventChannel.send_of_not_open h, EventChannel.send_of_not_open (r.isOpen_whole.trans h)]
  | close | cancel | abandon | tick _ => rfl

theorem unread_whole (h : r.world.stopped → r.record.events = []) :
    r.whole.unread = r.record.events ++ r.world.unread := by
  by_cases hs : r.world.stopped <;> simp_all [whole, EventChannel.unread]

theorem next_event {e : WatchEvent}
    (h : (Recorded.lift EventChannel.source).next r = (t, .event e)) :
    t.world.stopped = false ∧ t.whole = r.whole ∧ t.record.events = r.record.events ++ [e] ∧
      r.world.unread = e :: t.world.unread := by
  obtain ⟨c, hc, rfl⟩ := lift_next h
  obtain ⟨ho, hw⟩ := EventChannel.next_event hc
  rw [hw] at ho
  exact ⟨ho, by simp [whole, hw, Delivery.event?], rfl, by simp_all [EventChannel.unread]⟩

theorem next_pending (h : (Recorded.lift EventChannel.source).next r = (t, .pending)) :
    t = r ∧ r.world.queue = [] ∧ r.world.isOpen := by
  obtain ⟨c, hc, rfl⟩ := lift_next h
  obtain ⟨rfl, hq, ho⟩ := EventChannel.next_pending hc
  exact ⟨by simp [Delivery.event?], hq, ho⟩

theorem next_ended (h : (Recorded.lift EventChannel.source).next r = (t, .ended)) :
    t = r ∧ r.world.unread = [] ∧ r.world.isOpen = false := by
  obtain ⟨c, hc, rfl⟩ := lift_next h
  obtain ⟨rfl, hq, ho⟩ := EventChannel.next_ended hc
  exact ⟨by simp [Delivery.event?], hq, ho⟩

end Recorded

/-- A wait at a channel, with the record of the events that are read, and what has become of it. -/
structure Vigil where
  wait : Wait (Recorded EventChannel)
  progress : Progress RunResult := .moved

namespace Vigil

def channel (v : Vigil) : EventChannel := v.wait.world.world

def read (v : Vigil) : List WatchEvent := v.wait.world.record.events

def start (c : EventChannel) (g : RunGuard) (watcher : CompletionWatcher) : Vigil :=
  { wait := ⟨{ world := c }, g, watcher.startWatching⟩ }

/-- One small step of the wait, if it is not over. -/
def tick (v : Vigil) (now : Instant) : Vigil :=
  match v.progress with
  | .ended _ | .aborted => v
  | .blocked | .moved =>
    let t := v.wait.tick (Recorded.lift EventChannel.source) now
    ⟨t.wait, t.progress⟩

def signal (v : Vigil) (f : CancelSignal → CancelSignal) : Vigil :=
  { v with wait.guard.signal := f v.wait.guard.signal }

def act (v : Vigil) : WaitAct → Vigil
  | .tick now => v.tick now
  | .cancel => v.signal .send
  | .abandon => v.signal .abandon
  | a => { v with wait.world.world := v.channel.act a }

def perform (v : Vigil) (acts : List WaitAct) : Vigil := acts.foldl act v

/-- What has become of a wait for the pod `n` at a channel that would be `full` if nobody had read
it: the wait has read the events `read`, and its watcher is `watcher`. -/
inductive Concludes (n step : String) (full : EventChannel) (read : List WatchEvent)
    (watcher : CompletionWatcher) : RunResult → Prop where
  | decided {o} (hr : read <+: full.unread) (hv : firstVerdict n read = some o)
      (hd : firstVerdict n read.dropLast = none) : Concludes n step full read watcher (.ok o)
  | closed (hr : read = full.unread) (hv : firstVerdict n read = none)
      (ho : full.isOpen = false) : Concludes n step full read watcher (.ok watchClosedOutcome)
  | interrupted {e} (hr : read <+: full.unread) (hv : firstVerdict n read = none)
      (hw : watcher.result = none) (he : e = .cancelled step ∨ ∃ after, e = .timeout step after) :
      Concludes n step full read watcher (.error e)

/-- How a wait stands with a channel that would be `full` if nobody had read it. -/
inductive Stands (n step : String) (full : EventChannel) : Vigil → Prop where
  | waiting {w p} (hp : p = .moved ∨ p = .blocked) (hf : w.world.whole = full)
      (hs : w.world.world.stopped → w.world.record.events = []) (hn : w.watcher.podName = n)
      (hg : w.guard.step = step) (hr : w.watcher.result = firstVerdict n w.world.record.events)
      (hd : firstVerdict n w.world.record.events.dropLast = none) : Stands n step full ⟨w, p⟩
  | ended {w r} (hs : w.world.world.stopped)
      (hc : Concludes n step full w.world.record.events w.watcher r) :
      Stands n step full ⟨w, .ended r⟩
  | brokenDown {w} : Stands n step full ⟨w, .aborted⟩

variable {n step : String} {full : EventChannel} {v : Vigil}

namespace Concludes

variable {read : List WatchEvent} {watcher : CompletionWatcher} {r : RunResult} {o : Outcome}

theorem act (h : Concludes n step full read watcher r) (a : WaitAct) :
    Concludes n step (full.act a) read watcher r := by
  cases h with
  | decided hr hv hd => exact .decided (hr.trans (full.unread_act a)) hv hd
  | closed hr hv ho =>
    obtain ⟨hu, ho'⟩ := EventChannel.act_of_not_open ho a
    exact .closed (hr.trans hu.symm) hv ho'
  | interrupted hr hv hw he => exact .interrupted (hr.trans (full.unread_act a)) hv hw he

/-- The first decisive event counts, and nothing is read after it. -/
theorem of_decides (h : Concludes n step full read watcher (.ok o)) {e : WatchEvent}
    {before later : List WatchEvent} {o' : Outcome} (hfull : full.unread = before ++ e :: later)
    (hb : ∀ x ∈ before, x.IsIdle n) (he : e.Decides n o') : o = o' ∧ read = before ++ [e] := by
  rw [← WatchEvent.firstVerdict_eq_none_iff] at hb
  rw [← WatchEvent.verdict_eq_some_iff] at he
  cases h with
  | decided hp hv hd => exact WatchEvent.eq_of_firstVerdict (hfull ▸ hp) hb he hv hd
  | closed hp hv ho =>
    rw [hp, hfull, firstVerdict_append, hb, firstVerdict_cons, he] at hv
    cases hv

theorem of_idle (h : Concludes n step full read watcher (.ok o))
    (hi : ∀ x ∈ full.unread, x.IsIdle n) :
    o = watchClosedOutcome ∧ read = full.unread ∧ full.isOpen = false := by
  rw [← WatchEvent.firstVerdict_eq_none_iff] at hi
  cases h with
  | decided hp hv hd =>
    obtain ⟨rest, hrest⟩ := hp
    rw [← hrest, firstVerdict_append, hv] at hi
    cases hi
  | closed hp hv ho => exact ⟨rfl, hp, ho⟩

/-- A wait that is interrupted has read nothing decisive. -/
theorem of_error {e : StepError} (h : Concludes n step full read watcher (.error e)) :
    (e = .cancelled step ∨ ∃ after, e = .timeout step after) ∧ watcher.result = none ∧
      read <+: full.unread ∧ ∀ x ∈ read, x.IsIdle n := by
  cases h with
  | interrupted hp hv hw he => exact ⟨he, hw, hp, WatchEvent.firstVerdict_eq_none_iff.mp hv⟩

end Concludes

theorem perform_append (v : Vigil) (acts late : List WaitAct) :
    v.perform (acts ++ late) = (v.perform acts).perform late := List.foldl_append

theorem tick_of_waiting {w : Wait (Recorded EventChannel)} {p : Progress RunResult}
    (h : p = .moved ∨ p = .blocked) (now : Instant) :
    ∃ t, w.Moves (Recorded.lift EventChannel.source) now t ∧
      Vigil.tick ⟨w, p⟩ now = ⟨t.wait, t.progress⟩ := by
  rcases h with rfl | rfl <;> exact ⟨_, w.tick_moves _ now, rfl⟩

theorem Stands.tick (h : Stands n step full v) (now : Instant) :
    Stands n step full (v.tick now) := by
  cases h with
  | ended hs hc => exact .ended hs hc
  | brokenDown => exact .brokenDown
  | @waiting w p hp hf hs hn hg hr hd =>
    have hu := Recorded.unread_whole hs
    rw [hf] at hu
    have hpre : w.world.record.events <+: full.unread := ⟨_, hu.symm⟩
    obtain ⟨t, hm, ht⟩ := tick_of_waiting hp now
    rw [ht]
    cases hm with
    | decided ho => exact .ended rfl (.decided hpre (hr.symm.trans ho) hd)
    | interrupted ho hi =>
      exact .ended rfl (.interrupted hpre (hr.symm.trans ho) ho (hg ▸ hi.error))
    | brokenDown => exact .brokenDown
    | blocked ho hc hx =>
      obtain ⟨rfl, -, -⟩ := Recorded.next_pending hx
      exact .waiting (.inr rfl) hf hs hn (by simpa using hg) hr hd
    | @read t e ho hc hx =>
      obtain ⟨hst, hw, he, -⟩ := Recorded.next_event hx
      refine .waiting (.inl rfl) (hw.trans hf) (by simp [hst]) (by simpa using hn)
        (by simpa using hg) ?_ (by simpa [he] using hr.symm.trans ho)
      rw [he, firstVerdict_append, CompletionWatcher.result_observe, hr, hn]
      simp [firstVerdict_cons]
    | ended ho hc hx =>
      obtain ⟨rfl, hnil, hop⟩ := Recorded.next_ended hx
      rw [hnil, List.append_nil] at hu
      exact .ended rfl (.closed hu.symm (hr.symm.trans ho) (hf ▸ hop))

theorem Stands.act (h : Stands n step full v) (a : WaitAct) :
    Stands n step (full.act a) (v.act a) := by
  cases a with
  | tick now => exact h.tick now
  | send e | close =>
    cases h with
    | waiting hp hf hs hn hg hr hd =>
      exact .waiting hp ((Recorded.whole_act ..).trans (by rw [hf]))
        (fun ho => hs (by rwa [EventChannel.stopped_act] at ho)) hn hg hr hd
    | ended hs hc => exact .ended ((EventChannel.stopped_act ..).trans hs) (hc.act _)
    | brokenDown => exact .brokenDown
  | cancel | abandon =>
    cases h with
    | waiting hp hf hs hn hg hr hd => exact .waiting hp hf hs hn hg hr hd
    | ended hs hc => exact .ended hs hc
    | brokenDown => exact .brokenDown

theorem Stands.perform (h : Stands n step full v) (acts : List WaitAct) :
    Stands n step (full.perform acts) (v.perform acts) := by
  induction acts generalizing full v with
  | nil => exact h
  | cons a acts ih => exact ih (h.act a)

theorem Stands.concludes (h : Stands n step full v) {r : RunResult} (hr : v.progress = .ended r) :
    v.channel.stopped ∧ Concludes n step full v.read v.wait.watcher r := by
  cases h with
  | waiting hp => simp_all
  | ended hs hc =>
    cases hr
    exact ⟨hs, hc⟩
  | brokenDown => cases hr

theorem Stands.unread_le (h : Stands n step full v) (hv : v.progress ≠ .aborted) :
    v.channel.unread.length ≤ full.unread.length := by
  cases h with
  | @waiting w _ _ hf hs =>
    rw [← hf, Recorded.unread_whole hs]
    simp [channel]
  | ended hs => simp [channel, EventChannel.unread, hs]
  | brokenDown => exact absurd rfl hv

theorem stands_start (c : EventChannel) (g : RunGuard) {watcher : CompletionWatcher}
    (h : watcher.result = none) : Stands watcher.podName g.step c (start c g watcher) := by
  refine .waiting (.inl rfl) rfl (fun _ => rfl) ?_ rfl (watcher.result_startWatching.trans h) rfl
  rw [CompletionWatcher.startWatching_of_result h]

/-- A wait that is over stays as it is. -/
theorem perform_of_ended {v : Vigil} {r : RunResult} (h : v.progress = .ended r)
    (acts : List WaitAct) : (v.perform acts).progress = .ended r := by
  induction acts generalizing v with
  | nil => exact h
  | cons a acts ih =>
    refine ih ?_
    cases a with
    | tick now =>
      change (v.tick now).progress = _
      unfold Vigil.tick
      rw [h]
      exact h
    | _ => exact h

/-- How a wait stands whose watcher had the outcome `o` when it began. -/
inductive Answered (o : Outcome) : Vigil → Prop where
  | waiting {w p} (hp : p = .moved ∨ p = .blocked) (hr : w.watcher.result = some o)
      (he : w.world.record.events = []) : Answered o ⟨w, p⟩
  | ended {w} (hs : w.world.world.stopped) (he : w.world.record.events = []) :
      Answered o ⟨w, .ended (.ok o)⟩

theorem Answered.tick {o : Outcome} (h : Answered o v) (now : Instant) :
    Answered o (v.tick now) ∧ (v.tick now).progress = .ended (.ok o) := by
  cases h with
  | ended hs he => exact ⟨.ended hs he, rfl⟩
  | waiting hp hr he =>
    obtain ⟨t, hm, ht⟩ := tick_of_waiting hp now
    rw [ht]
    cases hm with
    | decided hr' =>
      cases hr.symm.trans hr'
      exact ⟨.ended rfl he, rfl⟩
    | interrupted hr' | brokenDown hr' | blocked hr' | read hr' | ended hr' =>
      cases hr.symm.trans hr'

theorem Answered.perform {o : Outcome} (h : Answered o v) (acts : List WaitAct) :
    Answered o (v.perform acts) := by
  induction acts generalizing v with
  | nil => exact h
  | cons a acts ih =>
    refine ih ?_
    cases a with
    | tick now => exact (h.tick now).1
    | send e | close =>
      cases h with
      | waiting hp hr he => exact .waiting hp hr he
      | ended hs he => exact .ended ((EventChannel.stopped_act ..).trans hs) he
    | cancel | abandon =>
      cases h with
      | waiting hp hr he => exact .waiting hp hr he
      | ended hs he => exact .ended hs he

/-- The wait is over after its first small step. -/
theorem Answered.ends {o : Outcome} (h : Answered o v) {acts : List WaitAct} {now : Instant}
    (hn : .tick now ∈ acts) : (v.perform acts).progress = .ended (.ok o) := by
  obtain ⟨early, late, rfl⟩ := List.append_of_mem hn
  rw [perform_append]
  exact perform_of_ended ((h.perform early).tick now).2 late

theorem answered_start (c : EventChannel) (g : RunGuard) {watcher : CompletionWatcher}
    {o : Outcome} (h : watcher.result = some o) : Answered o (start c g watcher) := by
  exact .waiting (.inl rfl) (watcher.result_startWatching.trans h) rfl

namespace Answered

variable {o : Outcome}

theorem read (h : Answered o v) : v.read = [] := by
  cases h with
  | waiting _ _ he => exact he
  | ended _ he => exact he

theorem alive (h : Answered o v) : v.progress ≠ .aborted := by
  cases h with
  | waiting hp => rcases hp with rfl | rfl <;> nofun
  | ended => nofun

theorem result (h : Answered o v) {r : RunResult} (hr : v.progress = .ended r) : r = .ok o := by
  cases h with
  | waiting hp => simp_all
  | ended => exact (Progress.ended.inj hr).symm

theorem stopped (h : Answered o v) {r : RunResult} (hr : v.progress = .ended r) :
    v.channel.stopped := by
  cases h with
  | waiting hp => simp_all
  | ended hs => exact hs

end Answered

/-- Nothing has interrupted a wait that began with the guard `g`. -/
structure Calm (g : RunGuard) (v : Vigil) : Prop where
  clear : ∀ now, g.Clear now → v.wait.guard.Clear now
  alive : v.progress ≠ .aborted
  faultless : ∀ e, v.progress ≠ .ended (.error e)

theorem Calm.tick {g : RunGuard} (h : v.Calm g) {now : Instant} (hn : g.Clear now) :
    (v.tick now).Calm g := by
  obtain ⟨w, p⟩ := v
  by_cases hp : p = .moved ∨ p = .blocked
  · obtain ⟨t, hm, ht⟩ := tick_of_waiting hp now
    rw [ht]
    cases hm with
    | decided => exact ⟨h.clear, nofun, nofun⟩
    | interrupted _ hi => exact absurd (h.clear now hn) hi.not_clear
    | brokenDown _ hs => exact absurd hs (h.clear now hn).1
    | blocked | read | ended => exact ⟨fun t ht => (h.clear t ht).settle, nofun, nofun⟩
  · cases p with
    | moved | blocked => simp at hp
    | aborted | ended r => exact h

theorem Calm.perform {g : RunGuard} (h : v.Calm g) {acts : List WaitAct}
    (ha : ∀ a ∈ acts, a.Spares g) : (v.perform acts).Calm g := by
  induction acts generalizing v with
  | nil => exact h
  | cons a acts ih =>
    obtain ⟨ha, hr⟩ := List.forall_mem_cons.mp ha
    refine ih ?_ hr
    cases a with
    | tick now => exact h.tick ha
    | cancel => exact ha.elim
    | abandon => exact ⟨fun t ht => (h.clear t ht).abandon, h.alive, h.faultless⟩
    | send e | close => exact ⟨h.clear, h.alive, h.faultless⟩

theorem calm_start (c : EventChannel) (g : RunGuard) (watcher : CompletionWatcher) :
    (start c g watcher).Calm g := ⟨fun _ h => h, nofun, nofun⟩

/-- An undisturbed wait ends once it has been given a step for each event and one more, if one of
the events is decisive or no other will come. -/
theorem Stands.ends {g : RunGuard} (h : Stands n step full v) (hv : v.Calm g)
    (hw : firstVerdict n full.unread ≠ none ∨ full.isOpen = false) {nows : List Instant}
    (hn : ∀ now ∈ nows, g.Clear now) (hl : v.channel.unread.length < nows.length) :
    ∃ o, (v.perform (nows.map .tick)).progress = .ended (.ok o) := by
  induction nows generalizing v with
  | nil => exact absurd hl (Nat.not_lt_zero _)
  | cons now nows ih =>
    obtain ⟨hnow, hn⟩ := List.forall_mem_cons.mp hn
    have hs' := h.tick now
    have hv' := hv.tick hnow
    cases h with
    | brokenDown => exact absurd rfl hv.alive
    | @ended w r hs hc =>
      cases r with
      | ok o => exact ⟨o, perform_of_ended rfl _⟩
      | error e => exact absurd rfl (hv.faultless e)
    | @waiting w p hp hf hs _ _ hr _ =>
      obtain ⟨t, hm, ht⟩ := tick_of_waiting (w := w) hp now
      rw [List.map_cons]
      change ∃ o, ((Vigil.tick ⟨w, p⟩ now).perform (nows.map .tick)).progress = .ended (.ok o)
      rw [ht] at hs' hv' ⊢
      cases hm with
      | decided => exact ⟨_, perform_of_ended rfl _⟩
      | interrupted _ hi => exact absurd rfl (hv'.faultless _)
      | brokenDown => exact absurd rfl hv'.alive
      | blocked ho _ hx =>
        obtain ⟨rfl, hq, hop⟩ := Recorded.next_pending hx
        have hnil : w.world.world.unread = [] := by simp [EventChannel.unread, hq]
        rw [← hf, Recorded.unread_whole hs, hnil, List.append_nil, ← hr, Recorded.isOpen_whole,
          hop] at hw
        exact absurd ho (hw.resolve_right nofun)
      | read _ _ hx =>
        obtain ⟨-, -, -, hu⟩ := Recorded.next_event hx
        refine ih hs' hv' hn ?_
        simpa [Vigil.channel, hu] using hl
      | ended => exact ⟨_, perform_of_ended rfl _⟩

/-- An undisturbed wait ends once it has been given a step for each event that was sent and one more.
-/
theorem ends_of_spares {c : EventChannel} {g : RunGuard} {watcher : CompletionWatcher}
    (hnone : watcher.result = none) {early : List WaitAct} {nows : List Instant}
    (ha : ∀ a ∈ early ++ nows.map .tick, a.Spares g)
    (hl : (c.perform early).unread.length < nows.length)
    (hw : (∃ x ∈ (c.perform early).unread, ¬x.IsIdle watcher.podName) ∨
      (c.perform early).isOpen = false) :
    ∃ o, ((start c g watcher).perform (early ++ nows.map .tick)).progress = .ended (.ok o) := by
  obtain ⟨hearly, hnows⟩ := List.forall_mem_append.mp ha
  have hv := (calm_start c g watcher).perform hearly
  have h := (stands_start c g hnone).perform early
  rw [perform_append]
  refine h.ends hv ?_ (fun now hm => hnows (.tick now) (List.mem_map_of_mem hm))
    (Nat.lt_of_le_of_lt (h.unread_le hv.alive) hl)
  exact hw.imp_left fun ⟨x, hx, hd⟩ hf => hd (WatchEvent.firstVerdict_eq_none_iff.mp hf x hx)

/-- Over every sending of events, and whenever the sender, the clock or the signal interferes: a
wait stops its watch, takes the verdict of the first decisive event and reads no further, fails only
if the events end without one, and has read nothing decisive if it is interrupted. With nothing in
its way it does return. -/
theorem first_decisive_event_counts (c : EventChannel) (g : RunGuard) (watcher : CompletionWatcher)
    (acts : List WaitAct) :
    let v := (start c g watcher).perform acts
    let full := c.perform acts
    let n := watcher.podName
    (∀ r, v.progress = .ended r → v.channel.stopped) ∧
    (∀ o, watcher.result = some o → v.read = [] ∧ v.progress ≠ .aborted ∧
      (∀ r, v.progress = .ended r → r = .ok o) ∧
      ∀ now, .tick now ∈ acts → v.progress = .ended (.ok o)) ∧
    (watcher.result = none →
      (∀ before e later o, full.unread = before ++ e :: later → (∀ x ∈ before, x.IsIdle n) →
        e.Decides n o → ∀ r, v.progress = .ended (.ok r) → r = o ∧ v.read = before ++ [e]) ∧
      ((∀ x ∈ full.unread, x.IsIdle n) → ∀ r, v.progress = .ended (.ok r) →
        r = watchClosedOutcome ∧ v.read = full.unread ∧ full.isOpen = false) ∧
      (∀ e, v.progress = .ended (.error e) →
        (e = .cancelled g.step ∨ ∃ after, e = .timeout g.step after) ∧
        v.wait.watcher.result = none ∧ v.read <+: full.unread ∧ ∀ x ∈ v.read, x.IsIdle n) ∧
      ((∀ a ∈ acts, a.Spares g) → v.progress ≠ .aborted ∧ (∀ e, v.progress ≠ .ended (.error e)) ∧
        ∀ (early : List WaitAct) (nows : List Instant), acts = early ++ nows.map .tick →
          full.unread.length < nows.length →
          ((∃ x ∈ full.unread, ¬x.IsIdle n) ∨ full.isOpen = false) →
          ∃ o, v.progress = .ended (.ok o))) := by
  intro v full n
  refine ⟨?_, ?_, fun hnone => ?_⟩
  · intro r hr
    cases hw : watcher.result with
    | none => exact (((stands_start c g hw).perform acts).concludes hr).1
    | some o => exact ((answered_start c g hw).perform acts).stopped hr
  · intro o ho
    have h := answered_start c g ho
    have hv : Answered o v := h.perform acts
    exact ⟨hv.read, hv.alive, fun r hr => hv.result hr, fun now hnow => h.ends hnow⟩
  have hc {r : RunResult} (hr : v.progress = .ended r) :
      Concludes n g.step full v.read v.wait.watcher r :=
    (((stands_start c g hnone).perform acts).concludes hr).2
  refine ⟨?_, ?_, ?_, ?_⟩
  · intro before e later o hfull hb he r hr
    exact (hc hr).of_decides hfull hb he
  · intro hi r hr
    exact (hc hr).of_idle hi
  · intro e hr
    exact (hc hr).of_error
  · intro ha
    have hv : v.Calm g := (calm_start c g watcher).perform ha
    refine ⟨hv.alive, hv.faultless, ?_⟩
    rintro early nows rfl hl hw
    have hfull : full = c.perform early :=
      List.foldl_append.trans ((c.perform early).perform_ticks nows)
    rw [hfull] at hl hw
    exact ends_of_spares hnone ha hl hw

/-- The report that the pod `name` has come to a phase. -/
def reported (name : String) (phase : Phase) : WatchEvent :=
  .modified { metadata := { name := some name }, status := some phase.toStatus }

/-- A pod of another name fails, the watch has a problem, and the pod `a` succeeds. What is said of
it later does not count. -/
def sampleNews : List WaitAct :=
  [.send (reported "b" .failed), .tick .zero, .abandon, .send (.error "blip"),
    .send (reported "a" .running), .send (reported "a" .succeeded), .send (reported "a" .failed),
    .close]

theorem first_decisive_event_counts_sample :
    let g : RunGuard := ⟨"unit", .armed, none⟩
    let acts := sampleNews ++ (List.replicate 6 .zero).map .tick
    let v := (start {} g { podName := "a" }).perform acts
    (∀ a ∈ acts, a.Spares g) ∧ v.progress = .ended (.ok .succeeded) ∧ v.channel.stopped ∧
      v.read = [reported "b" .failed, .error "blip", reported "a" .running,
        reported "a" .succeeded] := by
  intro g acts v
  obtain ⟨hstop, -, h⟩ := first_decisive_event_counts {} g { podName := "a" } acts
  obtain ⟨hfirst, -, -, hcalm⟩ := h rfl
  have hspares : ∀ a ∈ acts, a.Spares g := by
    simp [acts, sampleNews, WaitAct.Spares, RunGuard.clear_iff, RunGuard.expired?, g]
  obtain ⟨r, hr⟩ := (hcalm hspares).2.2 sampleNews (List.replicate 6 .zero) rfl (by decide)
    (.inr rfl)
  obtain ⟨rfl, hread⟩ := hfirst [reported "b" .failed, .error "blip", reported "a" .running]
    (reported "a" .succeeded) [reported "a" .failed] .succeeded rfl
    (WatchEvent.firstVerdict_eq_none_iff.mp rfl) (WatchEvent.verdict_eq_some_iff.mp rfl) r hr
  exact ⟨hspares, hr, hstop _ hr, hread⟩

end Vigil

end PodPipeline
