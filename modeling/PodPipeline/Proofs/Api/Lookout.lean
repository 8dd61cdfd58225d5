import PodPipeline.Proofs.Api.Opening

/-! Waiting for the end of a pod at a watch of the cluster's API. The wait is one reader of the
watch among others, so what the stream reports decides its outcome. -/
namespace PodPipeline

/-- What may happen while somebody waits at a watch whose stream is forwarded. -/
inductive LookoutAct where
  /-- The forwarder takes the next item, or the end of the stream. -/
  | take
  /-- The forwarder looks whether the wait has stopped its watch. -/
  | notice
  | cancel
  /-- The sender of the cancel signal goes away. -/
  | abandon
  | tick (now : Instant)
deriving DecidableEq, Repr

/-- The act interrupts no wait with the guard `g`. -/
def LookoutAct.Spares (g : RunGuard) : LookoutAct → Prop
  | .cancel => False
  | .tick now => g.Clear now
  | _ => True

/-- A wait at a channel, and the forwarder at the other end of the channel. -/
structure Lookout where
  vigil : Vigil
  items : List StreamItem
  ended : Bool
  working : Bool := true

namespace Lookout

def forwarder (l : Lookout) : Forwarder := ⟨l.items, l.ended, l.vigil.channel, l.working⟩

def forward (l : Lookout) (f : Forwarder) : Lookout :=
  { vigil := { l.vigil with wait.world.world := f.channel }
    items := f.items, ended := f.ended, working := f.working }

def start (items : List StreamItem) (ended : Bool) (g : RunGuard) (watcher : CompletionWatcher) :
    Lookout := { vigil := .start {} g watcher, items, ended }

def act (l : Lookout) : LookoutAct → Lookout
  | .take => l.forward l.forwarder.take
  | .notice => l.forward l.forwarder.notice
  | .cancel => { l with vigil := l.vigil.signal .send }
  | .abandon => { l with vigil := l.vigil.signal .abandon }
  | .tick now => { l with vigil := l.vigil.tick now }

def perform (l : Lookout) (acts : List LookoutAct) : Lookout := acts.foldl act l

def relay (l : Lookout) : Relay := { forwarder := l.forwarder, told := l.vigil.read.map .event }

theorem perform_append (l : Lookout) (acts late : List LookoutAct) :
    l.perform (acts ++ late) = (l.perform acts).perform late := List.foldl_append

/-- Steps of the wait are no business of the forwarder. -/
theorem vigil_perform_ticks (l : Lookout) (nows : List Instant) :
    (l.perform (nows.map .tick)).vigil = l.vigil.perform (nows.map .tick) := by
  induction nows generalizing l with
  | nil => rfl
  | cons now nows ih => exact ih (l.act (.tick now))

end Lookout

/-- What the forwarder's turns do to its channel is what any sender does. -/
theorem Forwarder.channel_take (f : Forwarder) : f.take.channel = f.channel ∨
    f.take.channel = f.channel.close ∨ ∃ e, f.take.channel = f.channel.send e := by
  have ht := f.take_takes
  generalize f.take = f' at ht ⊢
  cases ht with
  | away | waits | skips => exact .inl rfl
  | finds | loses => exact .inr (.inl rfl)
  | @sends item items e => exact .inr (.inr ⟨e, rfl⟩)

theorem Forwarder.channel_notice (f : Forwarder) : f.notice.channel = f.channel ∨
    f.notice.channel = f.channel.close ∨ ∃ e, f.notice.channel = f.channel.send e := by
  unfold notice
  split
  · exact .inr (.inl rfl)
  · exact .inl rfl

namespace Vigil.Concludes

variable {n step : String} {full full' : EventChannel} {read : List WatchEvent}
  {watcher : CompletionWatcher} {r : RunResult}

/-- A conclusion holds of whatever else is sent, if nothing else is sent once no more can come. -/
theorem widen (h : Concludes n step full read watcher r) (hu : full.unread <+: full'.unread)
    (ho : full.isOpen = false → full'.isOpen = false ∧ full'.unread = full.unread) :
    Concludes n step full' read watcher r := by
  cases h with
  | decided hr hv hd => exact .decided (hr.trans hu) hv hd
  | closed hr hv hopen =>
    obtain ⟨hclosed, hsame⟩ := ho hopen
    exact .closed (hr.trans hsame.symm) hv hclosed
  | interrupted hr hv hw he => exact .interrupted (hr.trans hu) hv hw he

/-- The outcome is a matter of what is sent. -/
theorem outcome_eq {o : Outcome} (h : Concludes n step full read watcher (.ok o)) :
    o = (firstVerdict n full.unread).getD watchClosedOutcome := by
  cases h with
  | decided hr hv hd =>
    obtain ⟨rest, hrest⟩ := hr
    rw [← hrest, firstVerdict_append, hv]
    rfl
  | closed hr hv ho =>
    rw [← hr, hv]
    rfl

/-- There is no outcome unless something decides it or nothing else can come. -/
theorem decided_or_closed {o : Outcome} (h : Concludes n step full read watcher (.ok o)) :
    firstVerdict n full.unread ≠ none ∨ full.isOpen = false := by
  cases h with
  | decided hr hv hd =>
    obtain ⟨rest, hrest⟩ := hr
    left
    rw [← hrest, firstVerdict_append, hv]
    nofun
  | closed hr hv ho => exact .inr ho

end Vigil.Concludes

namespace Lookout

open StreamItem

variable {items : List StreamItem} {ended : Bool} {n step : String} {l : Lookout}
  {acts : List LookoutAct}

/-- The channel that the forwarder fills if nobody stops it. -/
def outlet (items : List StreamItem) (ended : Bool) : EventChannel :=
  { queue := events items, sending := !ended }

/-- How a wait stands when some acts have happened. Until it is over it is the reader of a relay
whose forwarder has had the turns that were given to it. -/
inductive Reads (n step : String) (items : List StreamItem) (ended : Bool)
    (acts : List LookoutAct) (l : Lookout) : Prop where
  | reading (turns : List RelayAct) (hs : .stop ∉ turns)
      (hc : turns.count .take = acts.count .take)
      (hr : l.relay = (Relay.start items ended).perform turns)
      (hv : l.vigil.Stands n step l.vigil.wait.world.whole)
  | finished {r} (hp : l.vigil.progress = .ended r)
      (hc : Vigil.Concludes n step (outlet items ended) l.vigil.read l.vigil.wait.watcher r)

theorem stands_forward {f : Forwarder} (h : l.vigil.Stands n step l.vigil.wait.world.whole)
    (hf : f.channel = l.vigil.channel ∨ f.channel = l.vigil.channel.close ∨
      ∃ e, f.channel = l.vigil.channel.send e) :
    (l.forward f).vigil.Stands n step (l.forward f).vigil.wait.world.whole := by
  have hwhole (a : WaitAct) := Recorded.whole_act l.vigil.wait.world a
  unfold forward
  rcases hf with hf | hf | ⟨e, hf⟩
  · rw [hf]
    exact h
  · rw [hf]
    exact (hwhole .close).symm ▸ h.act .close
  · rw [hf]
    exact (hwhole (.send e)).symm ▸ h.act (.send e)

/-- A step that does not end the wait reads one event, or none. -/
theorem relay_tick (l : Lookout) (now : Instant) :
    (∃ r, (l.vigil.tick now).progress = .ended r) ∨
      (l.vigil.tick now).wait.world.whole = l.vigil.wait.world.whole ∧
        ((l.act (.tick now)).relay = l.relay ∨ (l.act (.tick now)).relay = l.relay.act .next) := by
  obtain ⟨⟨w, p⟩, items, ended, working⟩ := l
  by_cases hp : p = .moved ∨ p = .blocked
  · obtain ⟨t, hm, ht⟩ := Vigil.tick_of_waiting (w := w) hp now
    unfold act relay forwarder Vigil.channel Vigil.read
    dsimp only
    rw [ht]
    cases hm with
    | decided | interrupted | ended => exact .inl ⟨_, rfl⟩
    | brokenDown => exact .inr ⟨rfl, .inl rfl⟩
    | blocked _ _ hx =>
      obtain ⟨rfl, -, -⟩ := Recorded.next_pending hx
      exact .inr ⟨rfl, .inl rfl⟩
    -- what the wait reads goes from what it can read to what it has read
    | @read t e _ _ hx =>
      obtain ⟨-, hwhole, hread, -⟩ := Recorded.next_event hx
      obtain ⟨channel, hnext, rfl⟩ := Recorded.lift_next hx
      refine .inr ⟨hwhole, .inr ?_⟩
      have hchannel : w.world.world.next = (channel, .event e) := hnext
      simp [Relay.act, Forwarder.next, hchannel, Delivery.event?]
  · cases p with
    | moved | blocked => simp at hp
    | aborted => exact .inr ⟨rfl, .inl rfl⟩
    | ended r => exact .inl ⟨r, rfl⟩

/-- What a reader that has not stopped has got or can get, and what the forwarder has not taken. -/
theorem unread_of_open (h : l.relay.Open items ended) :
    l.vigil.wait.world.whole.unread ++ events l.items = events items ∧
      l.vigil.wait.world.whole.isOpen = l.working := by
  have hread : l.vigil.wait.world.world.stopped = false := h.reading
  have hsend : l.vigil.wait.world.world.sending = l.working := h.sending
  have hgot : l.relay.got = l.vigil.read := by
    simp [Relay.got, relay, List.filterMap_map, Function.comp_def, Delivery.event?]
  have hunread : l.vigil.wait.world.whole.unread = l.vigil.read ++ l.vigil.channel.queue :=
    if_neg (by simpa [Recorded.whole] using hread)
  constructor
  · rw [hunread, ← hgot]
    exact h.events
  · rw [Recorded.isOpen_whole, EventChannel.isOpen, hread, hsend, Bool.not_false, Bool.and_true]

/-- Once the forwarder has taken all, the wait can read all that the stream reports. -/
theorem unread_of_taken (h : l.relay.Open items ended) (hu : l.relay.untaken = 0) :
    l.vigil.wait.world.whole.unread = events items ∧
      (ended = true → l.vigil.wait.world.whole.isOpen = false) := by
  obtain ⟨hev, hopen⟩ := unread_of_open h
  obtain ⟨hitems, hworking⟩ := Nat.add_eq_zero_iff.mp hu
  have hnil : l.items = [] := List.eq_nil_of_length_eq_zero hitems
  rw [hnil] at hev
  constructor
  · rw [← hev]
    exact (List.append_nil _).symm
  · rintro rfl
    rw [h.ends, Bool.and_true] at hworking
    rw [hopen]
    cases hw : l.working with
    | false => rfl
    | true => simp [relay, forwarder, hw] at hworking

/-- What a wait has come to is a matter of what the stream reports and of whether it ends. -/
theorem concludes_outlet (h : l.relay.Open items ended) {watcher : CompletionWatcher}
    {read : List WatchEvent} {r : RunResult}
    (hc : Vigil.Concludes n step l.vigil.wait.world.whole read watcher r) :
    Vigil.Concludes n step (outlet items ended) read watcher r := by
  obtain ⟨hev, hopen⟩ := unread_of_open h
  refine hc.widen ⟨_, hev⟩ fun ho => ?_
  obtain ⟨hend, hitems⟩ := h.left (hopen.symm.trans ho)
  rw [show l.items = [] from hitems] at hev
  constructor
  · simp [outlet, EventChannel.isOpen, hend]
  · rw [← List.append_nil l.vigil.wait.world.whole.unread]
    exact hev.symm

theorem Reads.forward (h : l.Reads n step items ended acts) {a : RelayAct} {b : LookoutAct}
    {f : Forwarder} (ha : a ≠ .stop) (hab : [a].count .take = [b].count .take)
    (hr : (l.forward f).relay = l.relay.act a)
    (hf : f.channel = l.vigil.channel ∨ f.channel = l.vigil.channel.close ∨
      ∃ e, f.channel = l.vigil.channel.send e) :
    (l.forward f).Reads n step items ended (acts ++ [b]) := by
  cases h with
  | reading turns hs hc hr' hv =>
    refine .reading (turns ++ [a]) ?_ ?_ ?_ (stands_forward hv hf)
    · simpa [hs] using ha.symm
    · rw [List.count_append, List.count_append, hc, hab]
    · rw [hr, hr', Relay.perform_append]
      rfl
  | finished hp hc => exact .finished hp hc

theorem Reads.tick (h : l.Reads n step items ended acts) (now : Instant) :
    (l.act (.tick now)).Reads n step items ended (acts ++ [.tick now]) := by
  have hcount : (acts ++ [LookoutAct.tick now]).count .take = acts.count .take := by simp
  cases h with
  | reading turns hs hc hr hv =>
    have hopen : l.relay.Open items ended := hr ▸ (Relay.open_start items ended).perform hs
    have hv' := hv.tick now
    rcases l.relay_tick now with ⟨r, hp⟩ | ⟨hwhole, hrelay⟩
    · exact .finished hp (concludes_outlet hopen (hv'.concludes hp).2)
    · have hstands : (l.act (.tick now)).vigil.Stands n step
          (l.act (.tick now)).vigil.wait.world.whole := hwhole.symm ▸ hv'
      rcases hrelay with hrelay | hrelay
      · exact .reading turns hs (hc.trans hcount.symm) (hrelay.trans hr) hstands
      · refine .reading (turns ++ [.next]) ?_ ?_ ?_ hstands
        · simpa using hs
        · rw [hcount, ← hc]
          simp
        · rw [hrelay, hr, Relay.perform_append]
          rfl
  | finished hp hc =>
    have hstay : l.vigil.tick now = l.vigil := by
      unfold Vigil.tick
      rw [hp]
    have hsame : l.act (.tick now) = l := congrArg (fun v => { l with vigil := v }) hstay
    rw [hsame]
    exact .finished hp hc

theorem Reads.act (h : l.Reads n step items ended acts) (a : LookoutAct) :
    (l.act a).Reads n step items ended (acts ++ [a]) := by
  cases a with
  | take => exact h.forward (a := .take) nofun rfl rfl l.forwarder.channel_take
  | notice => exact h.forward (a := .notice) nofun rfl rfl l.forwarder.channel_notice
  | tick now => exact h.tick now
  | cancel | abandon =>
    cases h with
    | reading turns hs hc hr hv =>
      refine .reading turns hs (hc.trans (by simp)) hr ?_
      first | exact hv.act .cancel | exact hv.act .abandon
    | finished hp hc => exact .finished hp hc

theorem Reads.perform (h : l.Reads n step items ended acts) (late : List LookoutAct) :
    (l.perform late).Reads n step items ended (acts ++ late) := by
  induction late generalizing l acts with
  | nil => rwa [List.append_nil]
  | cons a late ih =>
    rw [List.append_cons]
    exact ih (h.act a)

theorem reads_start (items : List StreamItem) (ended : Bool) (g : RunGuard)
    {watcher : CompletionWatcher} (h : watcher.result = none) :
    (start items ended g watcher).Reads watcher.podName g.step items ended [] :=
  .reading [] List.not_mem_nil rfl rfl (Vigil.stands_start {} g h)

theorem Reads.concludes (h : l.Reads n step items ended acts) {r : RunResult}
    (hp : l.vigil.progress = .ended r) :
    Vigil.Concludes n step (outlet items ended) l.vigil.read l.vigil.wait.watcher r := by
  cases h with
  | reading turns hs hc hr hv =>
    exact concludes_outlet (hr ▸ (Relay.open_start items ended).perform hs) (hv.concludes hp).2
  | finished hp' hc =>
    cases hp.symm.trans hp'
    exact hc

/-! Waits that nothing interrupts, and waits whose watcher had its outcome when they began. -/

theorem stopped_forward {f : Forwarder} (hf : f.channel = l.vigil.channel ∨
    f.channel = l.vigil.channel.close ∨ ∃ e, f.channel = l.vigil.channel.send e) :
    f.channel.stopped = l.vigil.channel.stopped := by
  rcases hf with hf | hf | ⟨e, hf⟩
  · rw [hf]
  · rw [hf]
    rfl
  · rw [hf]
    exact EventChannel.stopped_act _ (.send e)

theorem answered_perform {o : Outcome} (h : l.vigil.Answered o) (acts : List LookoutAct) :
    (l.perform acts).vigil.Answered o := by
  have hforward {l : Lookout} (h : l.vigil.Answered o) {f : Forwarder}
      (hs : f.channel.stopped = l.vigil.channel.stopped) : (l.forward f).vigil.Answered o := by
    obtain ⟨v, items, ended, working⟩ := l
    cases h with
    | waiting hp hr he => exact .waiting hp hr he
    | ended hs' he => exact .ended (hs.trans hs') he
  induction acts generalizing l with
  | nil => exact h
  | cons a acts ih =>
    refine ih ?_
    cases a with
    | take => exact hforward h (stopped_forward l.forwarder.channel_take)
    | notice => exact hforward h (stopped_forward l.forwarder.channel_notice)
    | tick now => exact (h.tick now).1
    | cancel => exact h.perform [.cancel]
    | abandon => exact h.perform [.abandon]

theorem calm_perform {g : RunGuard} (h : l.vigil.Calm g) (ha : ∀ a ∈ acts, a.Spares g) :
    (l.perform acts).vigil.Calm g := by
  induction acts generalizing l with
  | nil => exact h
  | cons a acts ih =>
    obtain ⟨ha, hacts⟩ := List.forall_mem_cons.mp ha
    refine ih ?_ hacts
    cases a with
    | take | notice => exact ⟨h.clear, h.alive, h.faultless⟩
    | tick now => exact h.tick ha
    | cancel => exact ha.elim
    | abandon => exact ⟨fun now hn => (h.clear now hn).abandon, h.alive, h.faultless⟩

variable {g : RunGuard} {watcher : CompletionWatcher}

/-- A wait that has an outcome to take, or will find the stream at its end, takes it once the
forwarder and the wait have had their turns. -/
theorem returns {early : List LookoutAct} {nows : List Instant}
    (ha : ∀ a ∈ early ++ nows.map .tick, a.Spares g) (htake : items.length < early.count .take)
    (hl : (events items).length < nows.length)
    (hw : watcher.result ≠ none ∨ firstVerdict watcher.podName (events items) ≠ none ∨
      ended = true) :
    ∃ o, ((start items ended g watcher).perform (early ++ nows.map .tick)).vigil.progress =
      .ended (.ok o) := by
  obtain ⟨hearly, hnows⟩ := List.forall_mem_append.mp ha
  have hclear : ∀ now ∈ nows, g.Clear now := fun now hm => hnows (.tick now)
    (List.mem_map_of_mem hm)
  rw [perform_append, vigil_perform_ticks]
  cases hres : watcher.result with
  | some o =>
    have hanswered := answered_perform (l := start items ended g watcher)
      (Vigil.answered_start {} g hres) early
    obtain ⟨now, hm⟩ := List.exists_mem_of_length_pos (Nat.zero_lt_of_lt hl)
    exact ⟨o, hanswered.ends (List.mem_map_of_mem hm)⟩
  | none =>
    have hreads := (reads_start items ended g hres).perform early
    have hcalm := calm_perform (l := start items ended g watcher)
      (Vigil.calm_start {} g watcher) hearly
    cases hreads with
    | @finished r hp hc =>
      cases r with
      | ok o => exact ⟨o, Vigil.perform_of_ended hp _⟩
      | error e => exact absurd hp (hcalm.faultless e)
    | reading turns hs hc hr hv =>
      have hopen : ((start items ended g watcher).perform early).relay.Open items ended :=
        hr ▸ (Relay.open_start items ended).perform hs
      have huntaken : ((start items ended g watcher).perform early).relay.untaken = 0 := by
        rw [hr]
        refine (Relay.open_start items ended).untaken_perform hs ?_
        have hstart := Relay.untaken_start_le items ended
        rw [List.nil_append] at hc
        omega
      obtain ⟨hunread, hclosed⟩ := unread_of_taken hopen huntaken
      have hlen := hv.unread_le hcalm.alive
      rw [hunread] at hlen
      refine hv.ends hcalm ?_ hclear (Nat.lt_of_le_of_lt hlen hl)
      rw [hunread]
      exact (hw.resolve_left (by simp [hres])).imp_right hclosed

def podEvents (events : List WatchEvent) : List WatchEvent := events.filter (·.pod?.isSome)

/-- Problems of a watch decide nothing. -/
theorem firstVerdict_podEvents (n : String) (events : List WatchEvent) :
    firstVerdict n (podEvents events) = firstVerdict n events := by
  induction events with
  | nil => rfl
  | cons e events ih =>
    cases e with
    | error message =>
      rw [firstVerdict_cons]
      exact ih
    | added p | modified p | deleted p =>
      rw [firstVerdict_cons, ← ih]
      exact firstVerdict_cons ..

/-- A channel with the events of pods alone, which are all there from the beginning. -/
def podOutlet (events : List WatchEvent) (ended : Bool) : EventChannel :=
  { queue := podEvents events, sending := !ended }

def alone (events : List WatchEvent) (ended : Bool) (g : RunGuard) (watcher : CompletionWatcher)
    (nows : List Instant) : Vigil :=
  (Vigil.start (podOutlet events ended) g watcher).perform (nows.map .tick)

variable {g' : RunGuard} {nows nows' : List Instant} {early : List LookoutAct} {o o' : Outcome}

theorem alone_concludes (hres : watcher.result = none)
    (h : (alone (events items) ended g watcher nows).progress = .ended (.ok o)) :
    Vigil.Concludes watcher.podName g.step (podOutlet (events items) ended)
      (alone (events items) ended g watcher nows).read
      (alone (events items) ended g watcher nows).wait.watcher (.ok o) := by
  have hstands := (Vigil.stands_start (podOutlet (events items) ended) g hres).perform
    (nows.map .tick)
  rw [EventChannel.perform_ticks] at hstands
  exact (hstands.concludes h).2

/-- Two waits that come to outcomes, one at the watch and one for the events of pods alone, come to
the same. -/
theorem outcome_eq_alone
    (h : ((start items ended g watcher).perform acts).vigil.progress = .ended (.ok o))
    (h' : (alone (events items) ended g' watcher nows).progress = .ended (.ok o')) : o = o' := by
  cases hres : watcher.result with
  | some r =>
    have hl := answered_perform (l := start items ended g watcher)
      (Vigil.answered_start {} g hres) acts
    have ha : (alone (events items) ended g' watcher nows).Answered r :=
      (Vigil.answered_start _ g' hres).perform _
    have ho : Except.ok o = Except.ok r := hl.result h
    have ho' : Except.ok o' = Except.ok r := ha.result h'
    exact Except.ok.inj (ho.trans ho'.symm)
  | none =>
    have hreads := (reads_start items ended g hres).perform acts
    have ho : o = (firstVerdict _ (events items)).getD watchClosedOutcome :=
      (hreads.concludes h).outcome_eq
    have ho' : o' = (firstVerdict _ (podEvents (events items))).getD watchClosedOutcome :=
      (alone_concludes hres h').outcome_eq
    rw [ho, ho', firstVerdict_podEvents]

/-- What a wait for the events of pods alone comes to, the wait at the watch comes to. -/
theorem returns_of_alone
    (h : (alone (events items) ended g' watcher nows').progress = .ended (.ok o))
    (ha : ∀ a ∈ early ++ nows.map .tick, a.Spares g) (htake : items.length < early.count .take)
    (hl : (events items).length < nows.length) :
    ((start items ended g watcher).perform (early ++ nows.map .tick)).vigil.progress =
      .ended (.ok o) := by
  have hw : watcher.result ≠ none ∨ firstVerdict watcher.podName (events items) ≠ none ∨
      ended = true := by
    cases hres : watcher.result with
    | some r => exact .inl nofun
    | none =>
      refine .inr ((alone_concludes hres h).decided_or_closed.imp (fun hv => ?_) fun ho => ?_)
      · rwa [← firstVerdict_podEvents]
      · simpa [podOutlet, EventChannel.isOpen] using ho
  obtain ⟨o', ho'⟩ := returns ha htake hl hw
  rw [ho', outcome_eq_alone ho' h]

/-- What the wait at the watch comes to, a wait for the events of pods alone comes to. -/
theorem alone_returns
    (h : ((start items ended g watcher).perform acts).vigil.progress = .ended (.ok o))
    (hn : ∀ now ∈ nows, g'.Clear now) (hl : (podEvents (events items)).length < nows.length) :
    (alone (events items) ended g' watcher nows).progress = .ended (.ok o) := by
  have hreturn : ∃ o', (alone (events items) ended g' watcher nows).progress = .ended (.ok o') := by
    cases hres : watcher.result with
    | some r =>
      obtain ⟨now, hm⟩ := List.exists_mem_of_length_pos (Nat.zero_lt_of_lt hl)
      exact ⟨r, (Vigil.answered_start _ g' hres).ends (List.mem_map_of_mem hm)⟩
    | none =>
      have hc := ((reads_start items ended g hres).perform acts).concludes h
      refine @Vigil.ends_of_spares _ _ _ hres [] nows ?_ hl ?_
      · simpa [WaitAct.Spares] using hn
      · refine hc.decided_or_closed.imp (fun hv => ?_) id
        have hpods : firstVerdict watcher.podName (podEvents (events items)) ≠ none :=
          firstVerdict_podEvents watcher.podName (events items) ▸ hv
        rw [ne_eq, WatchEvent.firstVerdict_eq_none_iff] at hpods
        have hunread : ((podOutlet (events items) ended).perform []).unread =
            podEvents (events items) := rfl
        rw [hunread]
        simpa using hpods
  obtain ⟨o', ho'⟩ := hreturn
  rw [ho', outcome_eq_alone h ho']

end Lookout

namespace ApiService

/-- A watch whose opening fails is none, and the caller is told why. Otherwise its reader gets what
the server's items report, in order and without a gap, whatever the forwarder and the reader do and
whenever they do it. A reader that does not stop gets all of it and is told of the end when the
server has ended the stream; one that stops is told of nothing more, and the forwarder takes no more
than bookmarks and one further item before it leaves. So a wait for the end of a pod comes to what
it comes to for the events of pods alone. -/
theorem watch_forwards_faithfully (ns : String) (options : ListOptions) :
    let call := ClientCall.watch ns options
    (∀ (s : ApiService) (now : Instant),
      (∀ fault, call.request = .error fault → ∃ e, (ApiError.request fault).Means ns "" e ∧
        s.poll now call false = (s, some (.error e))) ∧
      (∀ request, call.request = .ok request →
        s.poll now call false = (s.send now request).poll now call true) ∧
      (∀ moment cause, s.due = some (moment, .error cause) → moment.reached now →
        ∃ e, cause.Means ns "" e ∧ s.poll now call true = (s, some (.error e))) ∧
      (∀ moment r, s.due = some (moment, .ok r) → moment.reached now → ∃ t w acts,
        s.poll now call true = (t, some (.ok w)) ∧ .stop ∉ acts ∧ .next ∉ acts ∧
          t.Relays w ((Relay.start r.items r.ended).perform acts)) ∧
      ((∀ moment arrival, s.due = some (moment, arrival) → moment.reached now = false) →
        s.poll now call true = (s, none)) ∧
      ∀ w c, s.Relays w c →
        (s.next w).1.Relays w (c.act .next) ∧ (c.act .next).told = c.told ++ [(s.next w).2] ∧
        ∃ acts, .next ∉ acts ∧ (s.stop w).Relays w (c.perform (.stop :: acts))) ∧
    ∀ (items : List StreamItem) (ended : Bool),
      let run (acts : List RelayAct) := (Relay.start items ended).perform acts
      ∃ events, List.Forall₂ StreamItem.Reports (items.filter (· ≠ .bookmark)) events ∧
        (∀ acts, (run acts).got <+: events) ∧
        (∀ acts, .stop ∉ acts →
          (∃ k, (run acts).told.filter (· ≠ .pending) =
            (run acts).got.map .event ++ List.replicate k .ended) ∧
          (.ended ∈ (run acts).told → (run acts).got = events ∧ ended = true) ∧
          ((run acts).forwarder.working = false →
            ended = true ∧ (run acts).forwarder.items = [])) ∧
        (∀ early late, .stop ∉ early ++ late → items.length < early.count .take →
          events.length < late.count .next →
          (run (early ++ late)).got = events ∧
            (ended = true → .ended ∈ (run (early ++ late)).told)) ∧
        (∀ early late, let c := run early
          let d := run (early ++ .stop :: late)
          (∃ k, d.told = c.told ++ List.replicate k .ended) ∧
          (∃ bookmarks last, c.forwarder.items = bookmarks ++ last ++ d.forwarder.items ∧
            (∀ item ∈ bookmarks, item = .bookmark) ∧ last.length ≤ 1 ∧
            (last ≠ [] → d.forwarder.working = false)) ∧
          (.notice ∈ late → d.forwarder.working = false)) ∧
        ∀ (g g' : RunGuard) (watcher : CompletionWatcher),
          let wait (acts : List LookoutAct) :=
            ((Lookout.start items ended g watcher).perform acts).vigil
          let alone := Lookout.alone events ended g' watcher
          (∀ acts nows o o', (wait acts).progress = .ended (.ok o) →
            (alone nows).progress = .ended (.ok o') → o = o') ∧
          ∀ (early : List LookoutAct) (nows nows' : List Instant),
            (∀ a ∈ early ++ nows.map .tick, a.Spares g) → items.length < early.count .take →
            events.length < nows.length → (∀ now ∈ nows', g'.Clear now) →
            (Lookout.podEvents events).length < nows'.length →
            ∀ o, (wait (early ++ nows.map .tick)).progress = .ended (.ok o) ↔
              (alone nows').progress = .ended (.ok o) := by
  intro call
  constructor
  · intro s now
    refine ⟨fun fault hf => ?_, fun request hr => ?_, fun moment cause hd hn => ?_,
      fun moment r hd hn => ?_, fun h => poll_watch_of_silence h, fun w c h => ?_⟩
    · exact ⟨_, ApiError.means_forPod ns "" _, poll_watch_of_fault hf⟩
    · exact poll_watch_of_request hr
    · exact ⟨_, ApiError.means_forPod ns "" cause, poll_watch_of_error hd hn⟩
    · exact ⟨_, _, _, poll_watch_of_answer hd hn, by simp [Relay.settling],
        by simp [Relay.settling], s.relays_opened r⟩
    · obtain ⟨hnext, htold⟩ := h.next
      exact ⟨hnext, htold, Relay.settling (c.act .stop).forwarder, by simp [Relay.settling], h.stop⟩
  intro items ended run
  have hrun (acts late : List RelayAct) : run (acts ++ late) = (run acts).perform late :=
    Relay.perform_append _ acts late
  have hstart := Relay.open_start items ended
  refine ⟨StreamItem.events items, StreamItem.forall₂_reports items,
    Relay.isPrefix_got items ended, fun acts hs => ?_, fun early late hs htake hnext => ?_, ?_, ?_⟩
  · have hopen : (run acts).Open items ended := hstart.perform hs
    obtain ⟨k, htold, -⟩ := hopen.told
    exact ⟨⟨k, htold⟩, hopen.of_ended, hopen.left⟩
  · refine hstart.all_told_perform hs ?_ hnext
    exact Nat.le_trans (Relay.untaken_start_le items ended) htake
  · intro early late c d
    have hd : d = (c.act .stop).perform late := hrun early (.stop :: late)
    have hstopped : c.Stopped d := hd ▸ (Relay.stopped_stop c).perform late
    refine ⟨hstopped.told, hstopped.items, fun hn => ?_⟩
    rw [hd]
    exact (Relay.stopped_stop c).leaves hn
  · intro g g' watcher wait alone
    refine ⟨fun acts nows o o' ho ho' => Lookout.outcome_eq_alone ho ho', ?_⟩
    intro early nows nows' ha htake hl hn hl' o
    exact ⟨fun ho => Lookout.alone_returns ho hn hl',
      fun ho => Lookout.returns_of_alone ho ha htake hl⟩

def samplePod (phase : Phase) : Pod :=
  { metadata := { name := some "a" }, status := some phase.toStatus }

/-- The pod `a` is there and succeeds. In between the stream brings a bookmark, an error that the
server states and one that it cannot be read for. -/
def sampleItems : List StreamItem :=
  [.added (samplePod .running), .bookmark,
    .stated { status := "Failure", message := "too old", reason := "Expired", code := 410 },
    .failed .unreadable, .modified (samplePod .succeeded)]

theorem watch_forwards_faithfully_sample :
    let conflict : ApiStatus := { status := "Failure", code := 409 }
    let s : ApiService := { due := some (.zero, .error (.status conflict)) }
    let turns : List RelayAct := List.replicate 6 .take
    let run (acts : List RelayAct) := (Relay.start sampleItems true).perform acts
    let wait := (Lookout.start sampleItems true ⟨"unit", .absent, none⟩ { podName := "a" }).perform
      (List.replicate 6 .take ++ (List.replicate 5 .zero).map .tick)
    s.poll .zero (.watch "ns" {}) true = (s, some (.error (.alreadyExists "ns" ""))) ∧
      .ended ∈ (run (turns ++ List.replicate 5 .next)).told ∧
      (run (turns ++ .stop :: List.replicate 5 .next)).got = [] ∧
      wait.vigil.progress = .ended (.ok .succeeded) := by
  intro conflict s turns run wait
  obtain ⟨hopen, hforward⟩ := watch_forwards_faithfully "ns" {}
  obtain ⟨-, -, hfail, -⟩ := hopen s .zero
  obtain ⟨events, hreports, -, -, hall, hstop, hwait⟩ := hforward sampleItems true
  have hlen : events.length = 4 := hreports.length_eq.symm
  obtain ⟨hgot, hended⟩ := hall turns (List.replicate 5 .next) (by decide) (by decide)
    (by rw [hlen]; decide)
  obtain rfl : StreamItem.events sampleItems = events := hgot
  refine ⟨?_, hended rfl, ?_, ?_⟩
  · obtain ⟨e, he, hpoll⟩ := hfail .zero (.status conflict) rfl rfl
    cases he with
    | present h => exact hpoll
    | missing h => cases h
    | other h => exact absurd rfl (h conflict rfl).1
  · obtain ⟨⟨k, htold⟩, -⟩ := hstop turns (List.replicate 5 .next)
    have hnone : (run turns).told = [] := rfl
    rw [hnone, List.nil_append] at htold
    have hgot : (run (turns ++ .stop :: List.replicate 5 .next)).got =
        (List.replicate k .ended).filterMap Delivery.event? :=
      congrArg (·.filterMap Delivery.event?) htold
    rw [hgot]
    simp [Delivery.event?]
  · obtain ⟨-, hiff⟩ := hwait ⟨"unit", .absent, none⟩ ⟨"unit", .absent, none⟩ { podName := "a" }
    refine (hiff (List.replicate 6 .take) (List.replicate 5 .zero) (List.replicate 3 .zero) ?_
      (by decide) (by decide) ?_ (by decide) _).mpr rfl
    · simp [LookoutAct.Spares, RunGuard.clear_iff, RunGuard.expired?]
    · simp [RunGuard.clear_iff, RunGuard.expired?]

end ApiService

end PodPipeline
