import PodPipeline.Proofs.Store.Register

/-! Each watch gives the events that it is for once and in the order in which they were sent,
whatever else happens to the store and to its other watches. -/
namespace PodPipeline

namespace EventChannel

variable {c : EventChannel}

theorem next_eq_event {e : WatchEvent} :
    c.next.2 = .event e ↔ c.stopped = false ∧ [e] <+: c.queue := by
  unfold next
  by_cases hstop : c.stopped
  · simp [hstop]
  · cases c.queue with
    | nil => cases c.sending <;> simp [hstop]
    | cons e' q => simp [hstop, eq_comm]

theorem next_eq_ended :
    c.next.2 = .ended ↔ c.stopped = true ∨ c.sending = false ∧ c.queue = [] := by
  unfold next
  by_cases hstop : c.stopped
  · simp [hstop]
  · cases c.queue with
    | nil => cases c.sending <;> simp [hstop]
    | cons e' q => simp [hstop]

theorem queue_next (hstop : c.stopped = false) :
    c.next.2.event?.toList = c.queue.take 1 ∧ c.next.1.stopped = false ∧
      c.next.1.queue = c.queue.drop 1 := by
  unfold next
  rw [hstop]
  cases hq : c.queue with
  | nil => cases c.sending <;> simp [hq, hstop, Delivery.event?]
  | cons e q => simp [Delivery.event?]

end EventChannel

namespace PodStore

variable {s : PodStore} {w : WatchId} {ns : String} {o : ListOptions} {c : EventChannel}

/-- What the reader of a watch can rely on when `acts` have happened since the watch was opened and
the events `due` were sent to it. -/
structure Delivers (s : PodStore) (w : WatchId) (acts : List StoreAct) (due : List WatchEvent) :
    Prop where
  in_order : s.received w acts <+: due
  next_event (e : WatchEvent) : ((s.perform acts).next w).2 = .event e ↔
    .stop w ∉ acts ∧ s.received w acts ++ [e] <+: due
  next_ended : ((s.perform acts).next w).2 = .ended ↔
    .stop w ∈ acts ∨ .closeWatches ∈ acts ∧ s.received w acts = due
  /-- Who goes on reading gets all. -/
  complete : .stop w ∉ acts → ∀ n, due.length ≤ n →
    s.received w (acts ++ List.replicate n (.next w)) = due
  /-- Nothing is given once the watch is stopped. -/
  silent : .stop w ∈ acts → ∀ later, s.received w (acts ++ later) = s.received w acts

theorem received_append (s : PodStore) (w : WatchId) (acts later : List StoreAct) :
    s.received w (acts ++ later) =
      s.received w acts ++ (s.perform acts).received w later := by
  induction acts generalizing s with
  | nil => rfl
  | cons a acts ih =>
    simp only [List.cons_append, received, ih, List.append_assoc]
    rfl

/-- Reading again and again takes the events out of the queue one after the other. -/
theorem received_replicate (h : s.Carries w ns o c) (hstop : c.stopped = false) (n : Nat) :
    s.received w (List.replicate n (.next w)) = c.queue.take n := by
  induction n generalizing s c with
  | zero => rfl
  | succ n ih =>
    obtain ⟨hcarries, hdelivery⟩ := h.next
    obtain ⟨hgiven, hstop', hqueue⟩ := EventChannel.queue_next hstop
    have hact : s.act (.next w) = (s.next w).1 := rfl
    have hrest := ih hcarries hstop'
    rw [List.replicate_succ, received, if_pos rfl, hdelivery, hgiven, hact, hrest, hqueue,
      ← List.take_add, Nat.add_comm]

theorem Carries.delivers (h : s.Carries w ns o {}) (acts : List StoreAct) :
    s.Delivers w acts (s.due w ns o acts) := by
  obtain ⟨c, hc, hcourse⟩ := h.perform acts
  have hstop : c.stopped = decide (StoreAct.stop w ∈ acts) := hcourse.stopped
  have hsend : c.sending = decide (StoreAct.closeWatches ∉ acts) := hcourse.sending
  have hqueue : s.received w acts ++ c.queue = s.due w ns o acts := hcourse.queue
  have hnext : ((s.perform acts).next w).2 = c.next.2 := hc.next.2
  rw [← hqueue]
  refine ⟨List.prefix_append _ _, fun e => ?_, ?_, fun hw n hn => ?_, fun hw later => ?_⟩
  · rw [hnext, EventChannel.next_eq_event, hstop, List.prefix_append_right_inj]
    simp
  · rw [hnext, EventChannel.next_eq_ended, hstop, hsend, List.self_eq_append_right]
    simp
  · have hlen : c.queue.length ≤ n := by
      rw [List.length_append] at hn
      omega
    rw [received_append, received_replicate hc (by simpa [hstop] using hw),
      List.take_of_length_le hlen]
  · obtain ⟨c', -, hlater⟩ := hc.perform later
    rw [received_append, hlater.silent (by simpa [hstop] using hw), List.append_nil]

/-- A watch that is opened at some time gives the events that were sent since and that it is for,
each of them once and in their order, unless it is stopped; it ends when it is stopped, or closed
and all is read; and those watches are open that were opened and neither stopped nor closed.

Nothing of this changes if the watches are kept in a register that drops the stopped ones only when
it is gone through, be it for an event or because the open watches are `asked` for now and then. -/
theorem watch_delivers_once (history acts : List StoreAct) (ns : String) (o : ListOptions)
    {all : List StoreAct} {s₀ s₁ : PodStore} {w : WatchId} (asked : List (Option StoreAct))
    (hs₀ : s₀ = ({} : PodStore).perform history) (hw : s₀.watch ns o = (s₁, w))
    (hall : all = history ++ .call (.watch ns o) :: acts) (hasked : asked.reduceOption = all) :
    s₁.Delivers w acts (s₁.due w ns o acts) ∧
      (s₁.perform acts).openWatches = (({} : PodStore).leftOpen all).length ∧
      ((Register.perform {} {} asked).next w).2 = ((s₁.perform acts).next w).2 ∧
      (Register.perform {} {} asked).openWatches = (s₁.perform acts).openWatches := by
  have hcarries : s₁.Carries w ns o {} := by
    have hlast : (s₀.watch ns o).1.Carries (s₀.watch ns o).2 ns o {} :=
      List.getElem?_concat_length
    rwa [hw] at hlast
  have hperform : ({} : PodStore).perform all = s₁.perform acts := by
    have hopen : s₀.act (.call (.watch ns o)) = s₁ := congrArg Prod.fst hw
    rw [hall, perform, List.foldl_append, List.foldl_cons, ← hopen, hs₀]
    rfl
  have hreflects : (Register.perform {} {} asked).Reflects (s₁.perform acts) := by
    rw [← hperform, ← hasked]
    exact Register.Reflects.empty.perform asked
  have hcount : (s₁.perform acts).openWatches = (({} : PodStore).leftOpen all).length := by
    rw [openWatches_eq, ← hperform, openIds_perform]
    rfl
  exact ⟨hcarries.delivers acts, hcount, (hreflects.next w).1, hreflects.openWatches⟩

/-- Two watches are opened, and the first one is stopped. -/
def sampleOpening : List StoreAct :=
  [.call (.create "ns" { metadata := { name := some "a" } }), .call (.watch "ns" {}), .stop ⟨0⟩,
    .call (.watch "ns" ⟨some "b"⟩)]

/-- Pods come in two namespaces, an event is injected, and all watches are closed before one of the
pods goes. -/
def sampleEvents : List StoreAct :=
  [.call (.create "ns" { metadata := { name := some "c" } }),
    .call (.create "other" { metadata := { name := some "b" } }),
    .call (.create "ns" { metadata := { name := some "b" } }), .next ⟨1⟩,
    .inject "ns" (.error "gone"), .closeWatches, .call (.delete "ns" "b"), .call (.watch "ns" {})]

theorem watch_delivers_once_sample :
    let s₀ := ({} : PodStore).perform (sampleOpening.take 3)
    let s₁ := (s₀.watch "ns" ⟨some "b"⟩).1
    let asked := none :: (sampleOpening ++ sampleEvents).flatMap fun a => [some a, none]
    let due : List WatchEvent :=
      [.added { metadata := { name := some "b", «namespace» := some "ns" } }, .error "gone"]
    asked.reduceOption = sampleOpening ++ sampleEvents ∧ s₁.Delivers ⟨1⟩ sampleEvents due ∧
      (s₁.perform sampleEvents).openWatches = 1 ∧
      ((Register.perform {} {} asked).next ⟨1⟩).2 = .event (.error "gone") ∧
      (Register.perform {} {} asked).openWatches = 1 := by
  intro s₀ s₁ asked due
  have hasked : asked.reduceOption = sampleOpening ++ sampleEvents := rfl
  have hw : s₀.watch "ns" ⟨some "b"⟩ = (s₁, ⟨1⟩) := rfl
  obtain ⟨hdelivers, -, hnext, hopen⟩ := watch_delivers_once (sampleOpening.take 3) sampleEvents
    "ns" ⟨some "b"⟩ asked rfl hw rfl hasked
  have hdue : s₁.due ⟨1⟩ "ns" ⟨some "b"⟩ sampleEvents = due := by decide
  rw [hdue] at hdelivers
  have hone : (s₁.perform sampleEvents).openWatches = 1 := by decide
  exact ⟨hasked, hdelivers, hone, hnext.trans rfl, hopen.trans hone⟩

end PodStore

end PodPipeline
