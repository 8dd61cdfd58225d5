import PodPipeline.Proofs.Store.Replay

/-! What is sent to the watches of a store, and what becomes of the channel of each of them,
whatever else happens to the store and to its other watches. -/
namespace PodPipeline

/-- Whether a watch gets no more events after an act. To drop a watch is to stop it. -/
def StoreAct.ends (w : WatchId) (a : StoreAct) : Bool := a = .stop w || a = .closeWatches

namespace PodStore

variable {s : PodStore} {w : WatchId} {ns : String} {o : ListOptions} {c : EventChannel}
  {a : StoreAct} {acts : List StoreAct}

/-! The events that are sent. -/

/-- The event that is sent to the watches of a namespace when something happens: that a pod was
created, changed or deleted, or one that is injected. -/
def told? (s : PodStore) : StoreAct → Option (String × WatchEvent)
  | .call (.create ns p) =>
    match s.pods.find? ⟨ns, p.name⟩ with
    | some _ => none
    | none => some (ns, .added (p.inNamespace ns))
  | .call (.updateStatus ns p) =>
    (s.pods.find? ⟨ns, p.name⟩).map fun stored => (ns, .modified (stored.withStatus p.status))
  | .call (.delete ns name) => (s.pods.find? ⟨ns, name⟩).map fun p => (ns, .deleted p)
  | .inject ns e => some (ns, e)
  | _ => none

/-- All that is sent while something happens. -/
def broadcasts (s : PodStore) : List StoreAct → List (String × WatchEvent)
  | [] => []
  | a :: acts => (s.told? a).toList ++ (s.act a).broadcasts acts

/-- The events of a namespace that a watch with some options is for. -/
def meant (ns : String) (o : ListOptions) (sent : List (String × WatchEvent)) : List WatchEvent :=
  (sent.filter fun b => ns = b.1 && o.reports b.2).map (·.2)

/-- The events that a watch is due: those that it is for and that are sent before it is stopped and
before all watches are closed. -/
def due (s : PodStore) (w : WatchId) (ns : String) (o : ListOptions) (acts : List StoreAct) :
    List WatchEvent :=
  meant ns o (s.broadcasts (acts.takeWhile fun a => !a.ends w))

@[simp] theorem meant_nil : meant ns o [] = [] := rfl

theorem told?_of_ends (h : a.ends w) : s.told? a = none := by
  cases a with
  | stop => rfl
  | closeWatches => rfl
  | _ => simp [StoreAct.ends] at h

theorem due_cons :
    s.due w ns o (a :: acts) =
      meant ns o (s.told? a).toList ++ if a.ends w then [] else (s.act a).due w ns o acts := by
  unfold due
  by_cases h : a.ends w
  · simp [h, told?_of_ends h, broadcasts, meant]
  · simp [h, broadcasts, meant]

/-! What one act does to the watches. -/

theorem watches_told {b : String × WatchEvent} (h : s.told? a = some b) :
    (s.act a).watches = s.watches.map (Subscription.notify b.1 b.2) := by
  cases a with
  | inject ns e =>
    cases h
    rfl
  | call c =>
    cases c with
    | create ns p =>
      simp only [told?] at h
      split at h
      · cases h
      · rename_i hf
        cases h
        simp [act, call, create, record, hf, broadcast]
    | updateStatus ns p =>
      simp only [told?, Option.map_eq_some_iff] at h
      obtain ⟨stored, hf, rfl⟩ := h
      simp [act, call, updateStatus, record, hf, broadcast]
    | delete ns name =>
      simp only [told?, Option.map_eq_some_iff] at h
      obtain ⟨p, hf, rfl⟩ := h
      simp [act, call, delete, record, hf, broadcast]
    | get => cases h
    | watch => cases h
  | _ => cases h

theorem watches_untold {c : ClientCall} (h : s.told? (.call c) = none)
    (hc : ∀ ns o, c ≠ .watch ns o) : (s.call c).1.watches = s.watches := by
  cases c with
  | create ns p =>
    simp only [told?] at h
    split at h
    · rename_i hf
      simp [call, create, record, hf]
    · cases h
  | get ns name =>
    simp only [call, get]
    split <;> rfl
  | updateStatus ns p =>
    simp only [told?, Option.map_eq_none_iff] at h
    simp [call, updateStatus, record, h]
  | delete ns name =>
    simp only [told?, Option.map_eq_none_iff] at h
    simp [call, delete, record, h]
  | watch ns o => exact absurd rfl (hc ns o)

/-- The watch is for the pods in a namespace that its options cover, and has the channel `c`. -/
def Carries (s : PodStore) (w : WatchId) (ns : String) (o : ListOptions) (c : EventChannel) :
    Prop := s.watches[w.number]? = some ⟨ns, o, c⟩

/-- How the channel of a watch goes from `c` to `c'` while something happens, if it gives the
events `given` and would be sent the events `sent` as long as it is open. -/
structure Course (w : WatchId) (acts : List StoreAct) (c c' : EventChannel)
    (given sent : List WatchEvent) : Prop where
  stopped : c'.stopped = (c.stopped || StoreAct.stop w ∈ acts)
  sending : c'.sending = (c.sending && StoreAct.closeWatches ∉ acts)
  queue : given ++ c'.queue = c.queue ++ if c.isOpen then sent else []
  silent : c.stopped → given = []

theorem Carries.channel? (h : s.Carries w ns o c) : s.channel? w = some c := by
  unfold PodStore.channel?
  rw [show s.watches[w.number]? = _ from h]
  rfl

theorem Carries.next (h : s.Carries w ns o c) :
    (s.next w).1.Carries w ns o c.next.1 ∧ (s.next w).2 = c.next.2 := by
  have hw : s.watches[w.number]? = _ := h
  unfold PodStore.next
  rw [h.channel?]
  simp [Carries, setChannel, hw]

theorem Carries.stop (h : s.Carries w ns o c) : (s.stop w).Carries w ns o c.stop := by
  have hw : s.watches[w.number]? = _ := h
  unfold PodStore.stop
  rw [h.channel?]
  simp [Carries, setChannel, hw]

theorem Carries.closeWatches (h : s.Carries w ns o c) :
    s.closeWatches.Carries w ns o c.close := by
  have hw : s.watches[w.number]? = _ := h
  simp [Carries, PodStore.closeWatches, hw]

theorem Carries.sameBut {t : PodStore} {own : Option WatchId} (h : s.Carries w ns o c)
    (ht : s.SameBut own t) (hw : own ≠ some w) : t.Carries w ns o c := (ht.watches w hw).trans h

/-- A channel that gets an event which its watch is for gets it if it is open. -/
theorem Carries.notify {t : PodStore} (h : s.Carries w ns o c) {b : String × WatchEvent}
    (ht : t.watches = s.watches.map (Subscription.notify b.1 b.2)) :
    ∃ c', t.Carries w ns o c' ∧ c'.stopped = c.stopped ∧ c'.sending = c.sending ∧
      c'.queue = c.queue ++ if c.isOpen then meant ns o [b] else [] := by
  have hw : s.watches[w.number]? = _ := h
  refine ⟨(Subscription.notify b.1 b.2 ⟨ns, o, c⟩).channel, ?_⟩
  unfold Carries
  rw [ht, List.getElem?_map, hw, Option.map_some, Subscription.notify, Subscription.reports]
  by_cases hb : (ns = b.1 && o.reports b.2) = true
  · have hmeant : meant ns o [b] = [b.2] := by simp only [meant, List.filter, hb, List.map]
    rw [if_pos hb, hmeant]
    by_cases hc : c.isOpen <;> simp [EventChannel.send, hc]
  · have hmeant : meant ns o [b] = [] := by simp only [meant, List.filter, hb, List.map]
    rw [if_neg hb, hmeant]
    simp

/-- The events that are read when something happens. -/
def given (s : PodStore) (w : WatchId) (a : StoreAct) : List WatchEvent :=
  if a = .next w then (s.next w).2.event?.toList else []

namespace Course

variable {c' c'' : EventChannel} {g g' sent sent' : List WatchEvent}

theorem refl (c : EventChannel) : Course w [] c c [] [] where
  stopped := by simp
  sending := by simp
  queue := by simp
  silent _ := rfl

theorem unchanged (hstop : a ≠ .stop w) (hclose : a ≠ .closeWatches) :
    Course w [a] c c [] [] where
  stopped := by simp [hstop.symm]
  sending := by simp [hclose.symm]
  queue := by simp
  silent _ := rfl

theorem next (c : EventChannel) : Course w [.next w] c c.next.1 c.next.2.event?.toList [] := by
  unfold EventChannel.next
  by_cases hstop : c.stopped
  · rw [if_pos hstop]
    exact unchanged (by simp) (by simp)
  · rw [if_neg hstop]
    cases hq : c.queue with
    | nil =>
      have hnone : (if c.sending then Delivery.pending else .ended).event? = none := by
        split <;> rfl
      exact ⟨by simp, by simp, by simp [hq, hnone], fun h => absurd h hstop⟩
    | cons e q =>
      exact ⟨by simp, by simp, by simp [hq, Delivery.event?], fun h => absurd h hstop⟩

theorem stop (c : EventChannel) : Course w [.stop w] c c.stop [] [] where
  stopped := by simp [EventChannel.stop]
  sending := by simp [EventChannel.stop]
  queue := by simp [EventChannel.stop]
  silent _ := rfl

theorem close (c : EventChannel) : Course w [.closeWatches] c c.close [] [] where
  stopped := by simp [EventChannel.close]
  sending := by simp [EventChannel.close]
  queue := by simp [EventChannel.close]
  silent _ := rfl

/-- The watch is told of something. -/
theorem told (ha : a.ends w = false) (hstop : c'.stopped = c.stopped)
    (hsend : c'.sending = c.sending)
    (hqueue : c'.queue = c.queue ++ if c.isOpen then sent else []) :
    Course w [a] c c' [] sent := by
  simp only [StoreAct.ends, Bool.or_eq_false_iff, decide_eq_false_iff_not] at ha
  exact ⟨by simp [hstop, Ne.symm ha.1], by simp [hsend, Ne.symm ha.2], hqueue, fun _ => rfl⟩

theorem isOpen (h : Course w [a] c c' g sent) : c'.isOpen = (c.isOpen && !a.ends w) := by
  have hstop : (StoreAct.stop w ∈ [a]) ↔ a = .stop w := by simp [eq_comm]
  have hclose : (StoreAct.closeWatches ∈ [a]) ↔ a = .closeWatches := by simp [eq_comm]
  unfold EventChannel.isOpen StoreAct.ends
  rw [h.stopped, h.sending]
  simp only [hstop, hclose]
  cases c.sending <;> cases c.stopped <;> simp [Bool.and_comm]

/-- One act, and those after it. -/
theorem cons (h : Course w [a] c c' g sent) (h' : Course w acts c' c'' g' sent') :
    Course w (a :: acts) c c'' (g ++ g') (sent ++ if a.ends w then [] else sent') where
  stopped := by simp [h'.stopped, h.stopped, eq_comm, Bool.or_assoc]
  sending := by simp [h'.sending, h.sending, eq_comm, Bool.and_assoc]
  queue := by
    have hrest : (if c'.isOpen then sent' else []) =
        if c.isOpen then (if a.ends w then [] else sent') else [] := by
      rw [h.isOpen]
      cases c.isOpen <;> cases a.ends w <;> rfl
    calc g ++ g' ++ c''.queue
        = g ++ (c'.queue ++ if c'.isOpen then sent' else []) := by
          rw [List.append_assoc, h'.queue]
      _ = c.queue ++ ((if c.isOpen then sent else []) ++ if c'.isOpen then sent' else []) := by
          rw [← List.append_assoc, h.queue, List.append_assoc]
      _ = c.queue ++ if c.isOpen then sent ++ (if a.ends w then [] else sent') else [] := by
          rw [hrest]
          cases c.isOpen <;> rfl
  silent hc := by rw [h.silent hc, h'.silent (by simp [h.stopped, hc]), List.append_nil]

end Course

/-- What becomes of a channel when something happens: the watch may be read, stopped or closed, or
be sent an event. -/
theorem Carries.act (h : s.Carries w ns o c) (a : StoreAct) :
    ∃ c', (s.act a).Carries w ns o c' ∧
      Course w [a] c c' (s.given w a) (meant ns o (s.told? a).toList) := by
  have hw : s.watches[w.number]? = _ := h
  cases htold : s.told? a with
  | some b =>
    obtain ⟨c', hc', hstop, hsend, hqueue⟩ := h.notify (watches_told htold)
    have hends : a.ends w = false := by
      by_contra hends
      simp [told?_of_ends (eq_true_of_ne_false hends)] at htold
    have hnext : a ≠ .next w := by
      rintro rfl
      cases htold
    rw [given, if_neg hnext]
    exact ⟨c', hc', .told hends hstop hsend hqueue⟩
  | none =>
    rw [Option.toList_none, meant_nil]
    cases a with
    | call call =>
      refine ⟨c, ?_, .unchanged (by simp) (by simp)⟩
      cases call with
      | watch ns' o' =>
        have hlt := (List.getElem?_eq_some_iff.mp hw).1
        exact (List.getElem?_append_left hlt).trans hw
      | _ => exact (congrArg (·[w.number]?) (watches_untold htold (by simp))).trans hw
    | insert p => exact ⟨c, h, .unchanged (by simp) (by simp)⟩
    | inject => cases htold
    | closeWatches => exact ⟨c.close, h.closeWatches, .close c⟩
    | next v =>
      by_cases hv : v = w
      · subst hv
        rw [given, if_pos rfl, h.next.2]
        exact ⟨c.next.1, h.next.1, .next c⟩
      · rw [given, if_neg (by simpa using hv)]
        exact ⟨c, h.sameBut (.next s v) (by simpa using hv), .unchanged (by simp) (by simp)⟩
    | stop v =>
      rw [given, if_neg (by simp)]
      by_cases hv : v = w
      · subst hv
        exact ⟨c.stop, h.stop, .stop c⟩
      · exact ⟨c, h.sameBut (.stop s v) (by simpa using hv),
          .unchanged (by simpa using hv) (by simp)⟩

/-- What becomes of a channel when much happens. -/
theorem Carries.perform (h : s.Carries w ns o c) (acts : List StoreAct) :
    ∃ c', (s.perform acts).Carries w ns o c' ∧
      Course w acts c c' (s.received w acts) (s.due w ns o acts) := by
  induction acts generalizing s c with
  | nil => exact ⟨c, h, .refl c⟩
  | cons a acts ih =>
    obtain ⟨c', hc', hfirst⟩ := h.act a
    obtain ⟨c'', hc'', hrest⟩ := ih hc'
    refine ⟨c'', hc'', ?_⟩
    rw [due_cons]
    exact hfirst.cons hrest

end PodStore

end PodPipeline
