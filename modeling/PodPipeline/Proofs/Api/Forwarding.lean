import Mathlib.Data.List.Forall2
import PodPipeline.Api.Service
import PodPipeline.Proofs.Watch.Waiting

/-! Forwarding a stream while its reader reads and may stop, in any order of what the two do. The
reader is told what the stream reports, in order and without a gap. -/
namespace PodPipeline

/-- What an item of a stream has to report, and how its reader is told: the events of pods as they
are, and whatever is wrong with the stream as a problem of the watch. -/
inductive StreamItem.Reports : StreamItem → WatchEvent → Prop where
  | added (p) : Reports (.added p) (.added p)
  | modified (p) : Reports (.modified p) (.modified p)
  | deleted (p) : Reports (.deleted p) (.deleted p)
  | stated (s) : Reports (.stated s) (.error (s.message ++ ": " ++ s.reason))
  | failed (e) : Reports (.failed e) (.error e.message)

def StreamItem.events (items : List StreamItem) : List WatchEvent := items.filterMap event?

namespace StreamItem

theorem reports_iff {item : StreamItem} {e : WatchEvent} :
    item.Reports e ↔ item.event? = some e := by
  constructor
  · rintro ⟨⟩ <;> rfl
  · intro h
    cases item with
    | bookmark => cases h
    | added | modified | deleted | stated | failed =>
      cases h
      constructor

theorem event?_eq_none_iff {item : StreamItem} : item.event? = none ↔ item = .bookmark := by
  cases item <;> simp [event?]

/-- The events are the reports of the items that are no bookmarks. -/
theorem forall₂_reports (items : List StreamItem) :
    List.Forall₂ Reports (items.filter (· ≠ .bookmark)) (events items) := by
  induction items with
  | nil => exact .nil
  | cons item items ih =>
    cases he : item.event? with
    | none =>
      obtain rfl := event?_eq_none_iff.mp he
      exact ih
    | some e =>
      have hne : item ≠ .bookmark := fun h => by simp [event?_eq_none_iff.mpr h] at he
      rw [events, List.filter_cons_of_pos (by simpa using hne), List.filterMap_cons_some he]
      exact .cons (reports_iff.mpr he) ih

end StreamItem

namespace Forwarder

open StreamItem

/-- What can come of the forwarder's turn to take something from the stream. -/
inductive Takes (f : Forwarder) : Forwarder → Prop where
  | away (hw : f.working = false) : Takes f f
  /-- Nothing has come, and the stream goes on. -/
  | waits (hw : f.working = true) (hi : f.items = []) (he : f.ended = false) : Takes f f
  /-- The stream has ended. -/
  | finds (hw : f.working = true) (hi : f.items = []) (he : f.ended = true) : Takes f f.leave
  | skips {items} (hw : f.working = true) (hi : f.items = .bookmark :: items) :
    Takes f { f with items }
  | sends {item items e} (hw : f.working = true) (hi : f.items = item :: items)
      (he : item.event? = some e) (hs : f.channel.stopped = false) :
    Takes f { f with items, channel := f.channel.send e }
  /-- The item can be sent to nobody any more. -/
  | loses {item items e} (hw : f.working = true) (hi : f.items = item :: items)
      (he : item.event? = some e) (hs : f.channel.stopped = true) :
    Takes f { f with items }.leave

theorem take_takes (f : Forwarder) : f.Takes f.take := by
  obtain ⟨items, ended, channel, working⟩ := f
  cases working with
  | false => exact .away rfl
  | true =>
    cases items with
    | nil =>
      cases ended with
      | false => exact .waits rfl rfl rfl
      | true => exact .finds rfl rfl rfl
    | cons item items =>
      unfold take
      cases he : item.event? with
      | none =>
        obtain rfl := event?_eq_none_iff.mp he
        exact .skips rfl rfl
      | some e =>
        cases hs : channel.stopped with
        | false => simpa [he, hs] using .sends rfl rfl he hs
        | true => simpa [he, hs] using .loses rfl rfl he hs

theorem notice_of_not_stopped {f : Forwarder} (h : f.channel.stopped = false) : f.notice = f := by
  simp [notice, h]

end Forwarder

inductive RelayAct where
  /-- The forwarder takes the next item, or the end of the stream. -/
  | take
  /-- The forwarder looks whether the reader has stopped. -/
  | notice
  /-- The reader asks for the next event. -/
  | next
  /-- The reader stops. -/
  | stop
deriving DecidableEq, Repr

structure Relay where
  forwarder : Forwarder
  told : List Delivery := []

namespace Relay

def start (items : List StreamItem) (ended : Bool) : Relay := { forwarder := { items, ended } }

def act (c : Relay) : RelayAct → Relay
  | .take => { c with forwarder := c.forwarder.take }
  | .notice => { c with forwarder := c.forwarder.notice }
  | .next => { forwarder := c.forwarder.next.1, told := c.told ++ [c.forwarder.next.2] }
  | .stop => { c with forwarder := c.forwarder.stop }

def perform (c : Relay) (acts : List RelayAct) : Relay := acts.foldl act c

def got (c : Relay) : List WatchEvent := c.told.filterMap Delivery.event?

theorem perform_append (c : Relay) (acts late : List RelayAct) :
    c.perform (acts ++ late) = (c.perform acts).perform late := List.foldl_append

theorem act_take (c : Relay) :
    ∃ f, c.forwarder.Takes f ∧ c.act .take = { c with forwarder := f } :=
  ⟨_, c.forwarder.take_takes, rfl⟩

/-- What can come of the reader's asking for the next event. -/
inductive Tells (c : Relay) : Relay → Prop where
  | event {e queue} (hq : c.forwarder.channel.queue = e :: queue) :
    Tells c ⟨{ c.forwarder with channel.queue := queue }, c.told ++ [.event e]⟩
  /-- Nothing has been sent, and something may still be. -/
  | waits (hq : c.forwarder.channel.queue = []) (hs : c.forwarder.channel.sending = true) :
    Tells c { c with told := c.told ++ [.pending] }
  | ends (hq : c.forwarder.channel.queue = []) (hs : c.forwarder.channel.sending = false) :
    Tells c { c with told := c.told ++ [.ended] }

theorem act_next {c : Relay} (h : c.forwarder.channel.stopped = false) : c.Tells (c.act .next) := by
  obtain ⟨⟨items, ended, ⟨queue, sending, stopped⟩, working⟩, told⟩ := c
  obtain rfl : stopped = false := h
  cases queue with
  | cons e queue => exact .event rfl
  | nil =>
    cases sending with
    | false => exact .ends rfl rfl
    | true => exact .waits rfl rfl

theorem keeps_perform {P : Relay → Prop} {c : Relay} {acts : List RelayAct}
    (hP : ∀ c a, P c → a ≠ .stop → P (c.act a)) (h : P c) (ha : .stop ∉ acts) :
    P (c.perform acts) := by
  induction acts generalizing c with
  | nil => exact h
  | cons a acts ih =>
    have hne : a ≠ .stop := (List.ne_of_not_mem_cons ha).symm
    exact ih (hP c a h hne) (List.not_mem_of_not_mem_cons ha)

/-- A measure that goes down with each act `b` while the reader reads, and up with none. -/
theorem le_perform {P : Relay → Prop} {m : Relay → Nat} {b : RelayAct} {c : Relay}
    {acts : List RelayAct} (hP : ∀ c a, P c → a ≠ .stop → P (c.act a))
    (hm : ∀ c a, P c → a ≠ .stop → m (c.act a) ≤ m c - [a].count b) (h : P c)
    (ha : .stop ∉ acts) : m (c.perform acts) ≤ m c - acts.count b := by
  induction acts generalizing c with
  | nil => exact Nat.le_refl _
  | cons a acts ih =>
    have hne : a ≠ .stop := (List.ne_of_not_mem_cons ha).symm
    have hact := hm c a h hne
    have hrest := ih (hP c a h hne) (List.not_mem_of_not_mem_cons ha)
    have hcount : (a :: acts).count b = [a].count b + acts.count b := by
      rw [← List.singleton_append, List.count_append]
    change m ((c.act a).perform acts) ≤ _
    omega

open StreamItem

variable {items : List StreamItem} {ended : Bool} {c : Relay} {acts : List RelayAct}

/-! While the reader reads. -/

/-- How a relay of some items stands whose reader has not stopped. -/
structure Open (items : List StreamItem) (ended : Bool) (c : Relay) : Prop where
  reading : c.forwarder.channel.stopped = false
  /-- What the reader has got, what waits for the reader and what the forwarder has not taken. -/
  events : c.got ++ c.forwarder.channel.queue ++ events c.forwarder.items = StreamItem.events items
  sending : c.forwarder.channel.sending = c.forwarder.working
  ends : c.forwarder.ended = ended
  left : c.forwarder.working = false → ended = true ∧ c.forwarder.items = []
  told : ∃ k, c.told.filter (· ≠ .pending) = c.got.map .event ++ List.replicate k .ended ∧
    (k ≠ 0 → c.forwarder.working = false ∧ c.forwarder.channel.queue = [])

theorem open_start (items : List StreamItem) (ended : Bool) :
    (start items ended).Open items ended := ⟨rfl, rfl, rfl, rfl, nofun, 0, rfl, nofun⟩

namespace Open

theorem take (h : c.Open items ended) : (c.act .take).Open items ended := by
  obtain ⟨hread, hev, hsend, hend, hleft, k, htold, hk⟩ := h
  obtain ⟨f, ht, hact⟩ := c.act_take
  rw [hact]
  cases ht with
  | away | waits => exact ⟨hread, hev, hsend, hend, hleft, k, htold, hk⟩
  | finds hw hi he =>
    exact ⟨hread, hev, rfl, hend, fun _ => ⟨hend.symm.trans he, hi⟩, k, htold,
      fun hne => ⟨rfl, (hk hne).2⟩⟩
  -- here and below the forwarder works on, so nothing is to be shown of one that has left
  | skips hw hi =>
    refine ⟨hread, ?_, hsend, hend, fun hf => ?_, k, htold, hk⟩
    · rw [← hev, hi]
      rfl
    · exact absurd hf (by simp [hw])
  | @sends item items' e hw hi he hs =>
    have hopen : c.forwarder.channel.isOpen := by simp [EventChannel.isOpen, hsend, hw, hs]
    rw [EventChannel.send_of_open hopen]
    refine ⟨hread, ?_, hsend, hend, fun hf => ?_, k, htold, fun hne => ?_⟩
    · rw [← hev, hi]
      simp [StreamItem.events, he, got]
    · exact absurd hf (by simp [hw])
    · exact absurd (hk hne).1 (by simp [hw])
  | loses _ _ _ hs => exact absurd hs (by simp [hread])

theorem next (h : c.Open items ended) : (c.act .next).Open items ended := by
  obtain ⟨hread, hev, hsend, hend, hleft, k, htold, hk⟩ := h
  have ht := act_next hread
  generalize c.act .next = d at ht ⊢
  cases ht with
  | event hq =>
    rw [hq] at hev hk
    obtain rfl : k = 0 := Decidable.byContradiction fun hne => absurd (hk hne).2 (by simp)
    refine ⟨hread, ?_, hsend, hend, hleft, 0, ?_, nofun⟩
    · simpa [got, Delivery.event?] using hev
    · simpa [got, Delivery.event?] using htold
  | waits hq hs =>
    have hgot : got { c with told := c.told ++ [.pending] } = c.got := by
      simp [got, Delivery.event?]
    refine ⟨hread, hgot ▸ hev, hsend, hend, hleft, k, ?_, hk⟩
    rw [hgot, ← htold]
    simp
  | ends hq hs =>
    have hgot : got { c with told := c.told ++ [.ended] } = c.got := by
      simp [got, Delivery.event?]
    refine ⟨hread, hgot ▸ hev, hsend, hend, hleft, k + 1, ?_, fun _ => ⟨hsend.symm.trans hs, hq⟩⟩
    rw [hgot, List.replicate_succ', ← List.append_assoc, ← htold]
    simp

theorem notice (h : c.Open items ended) : c.act .notice = c :=
  congrArg (fun f => { c with forwarder := f }) (Forwarder.notice_of_not_stopped h.reading)

theorem act (h : c.Open items ended) {a : RelayAct} (ha : a ≠ .stop) :
    (c.act a).Open items ended := by
  cases a with
  | take => exact h.take
  | notice => rwa [h.notice]
  | next => exact h.next
  | stop => exact absurd rfl ha

theorem perform (h : c.Open items ended) (ha : .stop ∉ acts) :
    (c.perform acts).Open items ended := keeps_perform (fun _ _ h ha => h.act ha) h ha

/-- The reader is told of the end when it has got all and the server has ended the stream. -/
theorem of_ended (h : c.Open items ended) (he : .ended ∈ c.told) :
    c.got = StreamItem.events items ∧ ended = true := by
  obtain ⟨k, htold, hk⟩ := h.told
  have hne : k ≠ 0 := by
    rintro rfl
    have hmem : .ended ∈ c.told.filter (· ≠ .pending) := List.mem_filter.mpr ⟨he, by decide⟩
    rw [htold] at hmem
    simp at hmem
  obtain ⟨hw, hq⟩ := hk hne
  obtain ⟨hend, hi⟩ := h.left hw
  have hev := h.events
  rw [hq, hi] at hev
  exact ⟨by simpa [StreamItem.events] using hev, hend⟩

theorem isPrefix_got (h : c.Open items ended) : c.got <+: StreamItem.events items := by
  rw [← h.events, List.append_assoc]
  exact List.prefix_append _ _

end Open

/-! How far the forwarder and the reader still have to go. -/

/-- How often the forwarder still takes something, the end of the stream included. -/
def untaken (c : Relay) : Nat :=
  c.forwarder.items.length + if c.forwarder.working && c.forwarder.ended then 1 else 0

theorem untaken_start_le (items : List StreamItem) (ended : Bool) :
    (start items ended).untaken ≤ items.length + 1 := by
  unfold untaken
  split <;> simp [start]

/-- How often the reader is still told something, the end of the stream included. -/
def untold (c : Relay) : Nat :=
  c.forwarder.channel.queue.length +
    if c.forwarder.ended && !c.told.contains .ended then 1 else 0

namespace Open

theorem untaken_act (h : c.Open items ended) {a : RelayAct} (ha : a ≠ .stop) :
    (c.act a).untaken ≤ c.untaken - [a].count .take := by
  cases a with
  | take =>
    obtain ⟨f, ht, hact⟩ := c.act_take
    rw [hact, List.count_singleton_self]
    cases ht with
    | away hw =>
      obtain ⟨-, hi⟩ := h.left hw
      simp [untaken, hw, hi]
    | waits hw hi he => simp [untaken, hi, he]
    | finds hw hi he => simp [untaken, Forwarder.leave, hi]
    | skips _ hi | sends _ hi => simp [untaken, hi]
    | loses _ _ _ hs => exact absurd hs (by simp [h.reading])
  | notice => exact Nat.le_of_eq (congrArg untaken h.notice)
  | next => exact Nat.le_refl _
  | stop => exact absurd rfl ha

/-- With enough turns the forwarder takes all. -/
theorem untaken_perform (h : c.Open items ended) (ha : .stop ∉ acts)
    (hle : c.untaken ≤ acts.count .take) : (c.perform acts).untaken = 0 := by
  have hdown := le_perform (P := Open items ended) (fun _ _ h ha => h.act ha)
    (fun _ _ h ha => h.untaken_act ha) h ha
  omega

theorem take_of_untaken (h : c.Open items ended) (hu : c.untaken = 0) : c.act .take = c := by
  obtain ⟨f, ht, hact⟩ := c.act_take
  rw [hact]
  cases ht with
  | away | waits => rfl
  | finds hw hi he => simp [untaken, hw, he] at hu
  | skips _ hi | sends _ hi => simp [untaken, hi] at hu
  | loses _ _ _ hs => exact absurd hs (by simp [h.reading])

/-- Once the forwarder has taken all, the reader is told something whenever it asks. -/
theorem untold_act (h : c.Open items ended) (hu : c.untaken = 0) {a : RelayAct}
    (ha : a ≠ .stop) : (c.act a).untold ≤ c.untold - [a].count .next := by
  cases a with
  | take => exact Nat.le_of_eq (congrArg untold (h.take_of_untaken hu))
  | notice => exact Nat.le_of_eq (congrArg untold h.notice)
  | next =>
    have ht := act_next h.reading
    rw [List.count_singleton_self]
    generalize c.act .next = d at ht ⊢
    cases ht with
    | event hq => simp [untold, hq]
    | waits hq hs =>
      have hend : c.forwarder.ended = false := by
        have hw : c.forwarder.working = true := h.sending.symm.trans hs
        cases he : c.forwarder.ended with
        | false => rfl
        | true => simp [untaken, hw, he] at hu
      simp [untold, hq, hend]
    | ends hq hs => simp [untold, hq]
  | stop => exact absurd rfl ha

/-- The reader of a stream that the forwarder has taken is told all of it. -/
theorem all_told (h : c.Open items ended) (hu : c.untaken = 0) (ht : c.untold = 0) :
    c.got = StreamItem.events items ∧ (ended = true → .ended ∈ c.told) := by
  obtain ⟨hi, -⟩ := Nat.add_eq_zero_iff.mp hu
  obtain ⟨hq, hend⟩ := Nat.add_eq_zero_iff.mp ht
  have hev := h.events
  rw [List.eq_nil_of_length_eq_zero hi, List.eq_nil_of_length_eq_zero hq] at hev
  constructor
  · simpa [StreamItem.events] using hev
  · rintro rfl
    rw [h.ends] at hend
    simpa using hend

/-- With its turns, and the reader with its own after them, the forwarder brings the reader all. -/
theorem all_told_perform (h : c.Open items ended) {late : List RelayAct}
    (ha : .stop ∉ acts ++ late) (htake : c.untaken ≤ acts.count .take)
    (hnext : (StreamItem.events items).length < late.count .next) :
    (c.perform (acts ++ late)).got = StreamItem.events items ∧
      (ended = true → .ended ∈ (c.perform (acts ++ late)).told) := by
  obtain ⟨hacts, hlate⟩ : .stop ∉ acts ∧ .stop ∉ late := by simpa using ha
  have hopen := h.perform hacts
  have hzero : (c.perform acts).untaken = 0 := h.untaken_perform hacts htake
  -- from here on nothing is added to what the reader can read
  have hkeep (c : Relay) (a : RelayAct) (h : c.Open items ended ∧ c.untaken = 0) (ha : a ≠ .stop) :
      (c.act a).Open items ended ∧ (c.act a).untaken = 0 := by
    have hle := h.1.untaken_act ha
    exact ⟨h.1.act ha, by omega⟩
  obtain ⟨hopen', hzero'⟩ := keeps_perform hkeep ⟨hopen, hzero⟩ hlate
  have htold := le_perform hkeep (fun _ _ h ha => h.1.untold_act h.2 ha) ⟨hopen, hzero⟩ hlate
  have hunread : (c.perform acts).untold ≤ (StreamItem.events items).length + 1 := by
    have hqueue : (c.perform acts).forwarder.channel.queue.length ≤
        (StreamItem.events items).length := by
      rw [← hopen.events]
      simp only [List.length_append]
      omega
    unfold untold
    split <;> omega
  rw [perform_append]
  exact hopen'.all_told hzero' (by omega)

end Open

/-! After the reader has stopped. -/

/-- How a relay stands whose reader stopped when it stood as `c`: the reader has been told nothing
but the end, and the forwarder has skipped bookmarks and at most left with one further item. -/
structure Stopped (c d : Relay) : Prop where
  stopped : d.forwarder.channel.stopped = true
  told : ∃ k, d.told = c.told ++ List.replicate k .ended
  items : ∃ bookmarks last, c.forwarder.items = bookmarks ++ last ++ d.forwarder.items ∧
    (∀ item ∈ bookmarks, item = .bookmark) ∧ last.length ≤ 1 ∧
    (last ≠ [] → d.forwarder.working = false)

namespace Stopped

variable {d : Relay}

theorem take (h : c.Stopped d) : c.Stopped (d.act .take) := by
  obtain ⟨hs, htold, bookmarks, last, hitems, hb, hl, hlast⟩ := h
  obtain ⟨f, ht, hact⟩ := d.act_take
  rw [hact]
  cases ht with
  | away | waits => exact ⟨hs, htold, bookmarks, last, hitems, hb, hl, hlast⟩
  | finds => exact ⟨hs, htold, bookmarks, last, hitems, hb, hl, fun _ => rfl⟩
  -- a forwarder that still works has taken nothing but bookmarks so far
  | @skips items hw hi =>
    obtain rfl : last = [] := Decidable.byContradiction fun hne => by simp [hlast hne] at hw
    refine ⟨hs, htold, bookmarks ++ [.bookmark], [], ?_, ?_, hl, nofun⟩
    · simpa [hi] using hitems
    · exact List.forall_mem_append.mpr ⟨hb, by simp⟩
  | sends _ _ _ hread => exact absurd hs (by simp [hread])
  | @loses item items e hw hi =>
    obtain rfl : last = [] := Decidable.byContradiction fun hne => by simp [hlast hne] at hw
    refine ⟨hs, htold, bookmarks, [item], ?_, hb, Nat.le_refl _, fun _ => rfl⟩
    simpa [Forwarder.leave, hi] using hitems

theorem notice (h : c.Stopped d) :
    c.Stopped (d.act .notice) ∧ (d.act .notice).forwarder.working = false := by
  obtain ⟨hs, htold, bookmarks, last, hitems, hb, hl, -⟩ := h
  have hw : (d.act .notice).forwarder.working = false := Forwarder.working_notice hs
  have hsame : (d.act .notice).forwarder.items = d.forwarder.items ∧
      (d.act .notice).forwarder.channel.stopped = d.forwarder.channel.stopped := by
    change d.forwarder.notice.items = _ ∧ d.forwarder.notice.channel.stopped = _
    unfold Forwarder.notice
    split <;> exact ⟨rfl, rfl⟩
  obtain ⟨hitems', hs'⟩ := hsame
  exact ⟨⟨hs'.trans hs, htold, bookmarks, last, hitems' ▸ hitems, hb, hl, fun _ => hw⟩, hw⟩

theorem next (h : c.Stopped d) : c.Stopped (d.act .next) := by
  obtain ⟨hs, ⟨k, htold⟩, hitems⟩ := h
  have hnext : d.forwarder.next = (d.forwarder, .ended) := by
    simp [Forwarder.next, EventChannel.next, hs]
  have hact : d.act .next = { d with told := d.told ++ [.ended] } := by
    rw [Relay.act, hnext]
  rw [hact]
  refine ⟨hs, ⟨k + 1, ?_⟩, hitems⟩
  rw [htold, List.append_assoc, ← List.replicate_succ']

theorem act (h : c.Stopped d) (a : RelayAct) : c.Stopped (d.act a) := by
  cases a with
  | take => exact h.take
  | notice => exact h.notice.1
  | next => exact h.next
  | stop => exact ⟨rfl, h.told, h.items⟩

theorem perform (h : c.Stopped d) (acts : List RelayAct) : c.Stopped (d.perform acts) := by
  induction acts generalizing d with
  | nil => exact h
  | cons a acts ih => exact ih (h.act a)

end Stopped

theorem stopped_stop (c : Relay) : c.Stopped (c.act .stop) := by
  have htold : c.told = c.told ++ List.replicate 0 .ended := (List.append_nil _).symm
  exact ⟨rfl, ⟨0, htold⟩, [], [], rfl, by simp, Nat.zero_le _, fun hne => absurd rfl hne⟩

theorem working_act (h : c.forwarder.working = false) (a : RelayAct) :
    (c.act a).forwarder.working = false := by
  cases a with
  | take => exact (congrArg Forwarder.working (Forwarder.take_eq_self h)).trans h
  | notice =>
    have hstay : c.forwarder.notice = c.forwarder := by simp [Forwarder.notice, h]
    exact (congrArg Forwarder.working hstay).trans h
  | next => exact h
  | stop => exact h

theorem working_perform (h : c.forwarder.working = false) (acts : List RelayAct) :
    (c.perform acts).forwarder.working = false := by
  induction acts generalizing c with
  | nil => exact h
  | cons a acts ih => exact ih (working_act h a)

/-- A forwarder that notices that its reader has stopped leaves. -/
theorem Stopped.leaves {d : Relay} (h : c.Stopped d) (hn : .notice ∈ acts) :
    (d.perform acts).forwarder.working = false := by
  obtain ⟨early, late, rfl⟩ := List.append_of_mem hn
  rw [perform_append]
  exact working_perform (h.perform early).notice.2 late

theorem Stopped.got {d : Relay} (h : c.Stopped d) : d.got = c.got := by
  obtain ⟨k, htold⟩ := h.told
  simp [Relay.got, htold, Delivery.event?]

/-- Whatever the reader and the forwarder do, no event is made up, changed, left out or told twice.
-/
theorem isPrefix_got (items : List StreamItem) (ended : Bool) (acts : List RelayAct) :
    ((start items ended).perform acts).got <+: StreamItem.events items := by
  by_cases hs : .stop ∈ acts
  -- the first time that the reader stops is the last of which anything is told
  · obtain ⟨early, late, rfl, hearly⟩ := List.eq_append_cons_of_mem hs
    have hopen := (open_start items ended).perform hearly
    have hgot := ((stopped_stop ((start items ended).perform early)).perform late).got
    rw [perform_append]
    exact hgot.symm ▸ hopen.isPrefix_got
  · exact ((open_start items ended).perform hs).isPrefix_got

end Relay

end PodPipeline
