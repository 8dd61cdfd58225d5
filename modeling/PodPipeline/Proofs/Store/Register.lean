import PodPipeline.Proofs.Store.Sending

/-! Which watches are open. Who sends to watches may keep a register of them and drop from it,
whenever it is gone through, those that were stopped in the meantime: nobody sees the difference. -/
namespace PodPipeline

namespace PodStore

variable {s : PodStore} {w : WatchId} {a : StoreAct}

/-! The open watches. -/

/-- All watches in the order in which they were opened. -/
def ids (s : PodStore) : List WatchId := (List.range s.watches.length).map WatchId.mk

def isOpen (s : PodStore) (w : WatchId) : Bool := (s.channel? w).any (·.isOpen)

def openIds (s : PodStore) : List WatchId := s.ids.filter s.isOpen

def opened (s : PodStore) : StoreAct → List WatchId
  | .call (.watch ns o) => [(s.watch ns o).2]
  | _ => []

/-- The watches that are opened while something happens and neither stopped nor closed later. -/
def leftOpen (s : PodStore) : List StoreAct → List WatchId
  | [] => []
  | a :: acts => (s.opened a).filter (fun w => acts.all (!·.ends w)) ++ (s.act a).leftOpen acts

theorem mem_ids : w ∈ s.ids ↔ w.number < s.watches.length := by
  constructor
  · intro h
    obtain ⟨i, hi, rfl⟩ := List.mem_map.mp h
    exact List.mem_range.mp hi
  · intro h
    exact List.mem_map.mpr ⟨w.number, List.mem_range.mpr h, rfl⟩

theorem carries_of_mem_ids (h : w ∈ s.ids) :
    ∃ ns o c, s.Carries w ns o c := by
  have hlt := mem_ids.mp h
  exact ⟨_, _, _, List.getElem?_eq_getElem hlt⟩

theorem Carries.isOpen {ns : String} {o : ListOptions} {c : EventChannel}
    (h : s.Carries w ns o c) : s.isOpen w = c.isOpen := by
  unfold PodStore.isOpen
  rw [h.channel?]
  rfl

theorem nodup_openIds (s : PodStore) : s.openIds.Nodup := by
  have hids : s.ids.Nodup :=
    List.Pairwise.map _ (fun _ _ h he => h (congrArg WatchId.number he)) List.nodup_range
  exact hids.filter _

theorem openWatches_eq (s : PodStore) : s.openWatches = s.openIds.length := by
  have hmap : s.ids.map s.channel? = s.watches.map fun t => some t.channel := by
    refine List.ext_getElem (by simp [ids]) fun i hi hi' => ?_
    have hlt : i < s.watches.length := by simpa using hi'
    simp [ids, channel?, List.getElem?_eq_getElem hlt]
  calc s.openWatches
      = (s.watches.map fun t => some t.channel).countP (Option.any (·.isOpen)) := by
        rw [List.countP_map]
        rfl
    _ = s.ids.countP s.isOpen := by
        rw [← hmap, List.countP_map]
        rfl
    _ = s.openIds.length := List.countP_eq_length_filter

theorem opened_eq (s : PodStore) (a : StoreAct) :
    s.opened a = [] ∨ s.opened a = [⟨s.watches.length⟩] := by
  cases a with
  | call c =>
    cases c with
    | watch => exact .inr rfl
    | _ => exact .inl rfl
  | _ => exact .inl rfl

theorem opened_told {b : String × WatchEvent} (h : s.told? a = some b) : s.opened a = [] := by
  unfold opened
  split
  · cases h
  · rfl

theorem length_act (s : PodStore) (a : StoreAct) :
    (s.act a).watches.length = s.watches.length + (s.opened a).length := by
  cases htold : s.told? a with
  | some b =>
    rw [watches_told htold, opened_told htold, List.length_map, List.length_nil, Nat.add_zero]
  | none =>
    cases a with
    | call c =>
      cases c with
      | watch => simp [act, call, watch, opened, record]
      | _ => exact congrArg List.length (watches_untold htold (by simp))
    | insert => rfl
    | inject => cases htold
    | closeWatches => simp [act, closeWatches, opened]
    | next w => exact (SameBut.next s w).length
    | stop w => exact (SameBut.stop s w).length

theorem ids_act (s : PodStore) (a : StoreAct) : (s.act a).ids = s.ids ++ s.opened a := by
  unfold ids
  rw [length_act]
  rcases s.opened_eq a with h | h
  · simp [h]
  · simp [h, List.range_succ]

theorem isOpen_act (h : w ∈ s.ids) (a : StoreAct) :
    (s.act a).isOpen w = (s.isOpen w && !a.ends w) := by
  obtain ⟨ns, o, c, hc⟩ := carries_of_mem_ids h
  obtain ⟨c', hc', hcourse⟩ := hc.act a
  rw [hc'.isOpen, hcourse.isOpen, hc.isOpen]

theorem isOpen_opened (h : w ∈ s.opened a) : (s.act a).isOpen w := by
  unfold opened at h
  split at h
  · rw [List.mem_singleton] at h
    subst h
    simp [isOpen, channel?, act, call, watch, record, EventChannel.isOpen]
  · cases h

theorem openIds_act (s : PodStore) (a : StoreAct) :
    (s.act a).openIds = s.openIds.filter (!a.ends ·) ++ s.opened a := by
  unfold openIds
  rw [ids_act, List.filter_append, List.filter_filter]
  congr 1
  · refine List.filter_congr fun w hw => ?_
    rw [isOpen_act hw, Bool.and_comm]
  · exact List.filter_eq_self.mpr fun w hw => isOpen_opened hw

theorem openIds_perform (s : PodStore) (acts : List StoreAct) :
    (s.perform acts).openIds =
      s.openIds.filter (fun w => acts.all (!·.ends w)) ++ s.leftOpen acts := by
  induction acts generalizing s with
  | nil => simp [perform, leftOpen, List.filter_eq_self.mpr]
  | cons a acts ih =>
    rw [show s.perform (a :: acts) = (s.act a).perform acts from rfl, ih, openIds_act]
    simp [leftOpen, List.filter_filter, Bool.and_comm]

end PodStore

/-! Registers. -/

/-- The end of a channel at which a watch is read. -/
structure Receiver where
  «namespace» : String
  options : ListOptions
  queue : List WatchEvent := []
  stopped : Bool := false

def Subscription.receiver (t : Subscription) : Receiver :=
  ⟨t.namespace, t.options, t.channel.queue, t.channel.stopped⟩

def Receiver.push (ns : String) (e : WatchEvent) (t : Receiver) : Receiver :=
  if t.namespace = ns && t.options.reports e then { t with queue := t.queue ++ [e] } else t

/-- Those to whom events are sent, and the watches that read them. -/
structure Register where
  senders : List WatchId := []
  receivers : List Receiver := []

namespace Register

def isStopped (r : Register) (w : WatchId) : Bool := r.receivers[w.number]?.any (·.stopped)

/-- Drops those whose watches were stopped. -/
def prune (r : Register) : Register := { r with senders := r.senders.filter (!r.isStopped ·) }

def deliver (ns : String) (e : WatchEvent) (r : Register) (w : WatchId) : Register :=
  { r with receivers := r.receivers.modify w.number (Receiver.push ns e) }

def broadcast (r : Register) (ns : String) (e : WatchEvent) : Register :=
  r.prune.senders.foldl (deliver ns e) r.prune

def openWatches (r : Register) : Nat := r.prune.senders.length

def closeWatches (r : Register) : Register := { r with senders := [] }

def watch (r : Register) (ns : String) (o : ListOptions) : Register :=
  { senders := r.senders ++ [⟨r.receivers.length⟩]
    receivers := r.receivers ++ [⟨ns, o, [], false⟩] }

/-- A watch ends when nobody is left who sends to it and all that was sent is read. -/
def next (r : Register) (w : WatchId) : Register × Delivery :=
  match r.receivers[w.number]? with
  | none => (r, .ended)
  | some t =>
    if t.stopped then (r, .ended)
    else match t.queue with
      | e :: q =>
        ({ r with receivers := r.receivers.modify w.number ({ · with queue := q }) }, .event e)
      | [] => (r, if w ∈ r.senders then .pending else .ended)

def stop (r : Register) (w : WatchId) : Register :=
  { r with receivers := r.receivers.modify w.number ({ · with stopped := true }) }

/-- What happens to the register when nobody is told of anything. -/
def follow (r : Register) : StoreAct → Register
  | .call (.watch ns o) => r.watch ns o
  | .closeWatches => r.closeWatches
  | .next w => (r.next w).1
  | .stop w => r.stop w
  | _ => r

/-- What happens to the register when something happens to the store. -/
def act (r : Register) (s : PodStore) (a : StoreAct) : Register :=
  match s.told? a with
  | some b => r.broadcast b.1 b.2
  | none => r.follow a

/-- What happens to the register when much happens to the store. Wherever nothing happens to it, the
open watches are counted. -/
def perform (r : Register) (s : PodStore) : List (Option StoreAct) → Register
  | [] => r
  | none :: acts => r.prune.perform s acts
  | some a :: acts => (r.act s a).perform (s.act a) acts

/-- The register holds what the store knows of its watches; those that would be left if it were
pruned now are the open ones. -/
structure Reflects (r : Register) (s : PodStore) : Prop where
  receivers : r.receivers = s.watches.map Subscription.receiver
  senders : r.prune.senders = s.openIds

theorem receivers_foldl_deliver {ns : String} {e : WatchEvent} {ws : List WatchId}
    (h : ws.Nodup) (r : Register) (i : Nat) :
    (ws.foldl (deliver ns e) r).receivers[i]? =
      if ⟨i⟩ ∈ ws then r.receivers[i]?.map (Receiver.push ns e) else r.receivers[i]? := by
  induction ws generalizing r with
  | nil => simp
  | cons w ws ih =>
    obtain ⟨hw, hws⟩ := List.nodup_cons.mp h
    rw [List.foldl_cons, ih hws]
    by_cases hi : w.number = i
    · subst hi
      rw [if_neg hw, if_pos (by simp)]
      simp [deliver]
    · have hne : (⟨i⟩ : WatchId) ≠ w := fun h => hi (congrArg WatchId.number h).symm
      simp [deliver, hi, hne]

theorem senders_foldl_deliver {ns : String} {e : WatchEvent} (ws : List WatchId) (r : Register) :
    (ws.foldl (deliver ns e) r).senders = r.senders := by
  induction ws generalizing r with
  | nil => rfl
  | cons w ws ih => exact ih _

theorem prune_prune (r : Register) : r.prune.prune = r.prune := by
  simp [prune, isStopped, List.filter_filter]

end Register

namespace PodStore

variable {s : PodStore} {w : WatchId} {c : EventChannel} {ns : String} {e : WatchEvent}

theorem Carries.mem_openIds {o : ListOptions} (h : s.Carries w ns o c) :
    w ∈ s.openIds ↔ c.isOpen := by
  have hids : w ∈ s.ids := mem_ids.mpr (List.getElem?_eq_some_iff.mp h).1
  simp [openIds, hids, h.isOpen]

theorem receivers_setChannel (s : PodStore) (w : WatchId) (c : EventChannel) :
    (s.setChannel w c).watches.map Subscription.receiver =
      (s.watches.map Subscription.receiver).modify w.number
        ({ · with queue := c.queue, stopped := c.stopped }) := by
  refine List.ext_getElem? fun i => ?_
  by_cases hi : w.number = i <;> simp [setChannel, hi, Subscription.receiver, Function.comp_def]

theorem receiver_notify (t : Subscription) :
    (t.notify ns e).receiver =
      if t.channel.isOpen then t.receiver.push ns e else t.receiver := by
  unfold Subscription.notify Receiver.push
  by_cases ht : t.reports ns e
  · have hpush : (t.receiver.namespace = ns && t.receiver.options.reports e) = true := ht
    rw [if_pos ht, if_pos hpush]
    by_cases hc : t.channel.isOpen <;> simp [EventChannel.send, hc, Subscription.receiver]
  · have hpush : ¬(t.receiver.namespace = ns && t.receiver.options.reports e) = true := ht
    rw [if_neg ht, if_neg hpush, ite_self]

end PodStore

namespace Register

variable {r : Register} {s : PodStore} {w : WatchId} {ns : String} {o : ListOptions}
  {c : EventChannel}

theorem getElem?_receivers (h : r.receivers = s.watches.map Subscription.receiver)
    (hc : s.Carries w ns o c) : r.receivers[w.number]? = some ⟨ns, o, c.queue, c.stopped⟩ := by
  rw [h, List.getElem?_map, show s.watches[w.number]? = _ from hc]
  rfl

theorem isStopped_eq (h : r.receivers = s.watches.map Subscription.receiver)
    (hc : s.Carries w ns o c) : r.isStopped w = c.stopped := by
  unfold isStopped
  rw [getElem?_receivers h hc]
  rfl

theorem isStopped_watch (r : Register) (ns : String) (o : ListOptions) (w : WatchId) :
    (r.watch ns o).isStopped w = r.isStopped w := by
  unfold isStopped watch
  dsimp only
  by_cases hlt : w.number < r.receivers.length
  · rw [List.getElem?_append_left hlt]
  · have hnone : r.receivers[w.number]? = none := List.getElem?_eq_none (by omega)
    rw [List.getElem?_append_right (by omega), hnone]
    cases hnew : w.number - r.receivers.length <;> rfl

theorem senders_watch (r : Register) (ns : String) (o : ListOptions) :
    (r.watch ns o).prune.senders = r.prune.senders ++ [⟨r.receivers.length⟩] := by
  have hnew : r.isStopped ⟨r.receivers.length⟩ = false := by simp [isStopped]
  unfold prune
  simp only [isStopped_watch]
  simp [watch, hnew]

end Register

namespace Register.Reflects

variable {r : Register} {s : PodStore} {w : WatchId} {a : StoreAct}

theorem empty : Reflects {} {} := ⟨rfl, rfl⟩

theorem prune (h : r.Reflects s) : r.prune.Reflects s where
  receivers := h.receivers
  senders := by rw [prune_prune, h.senders]

/-- As long as a watch is not stopped, somebody in the register sends to it if it is not closed. -/
theorem mem_senders (h : r.Reflects s) {ns : String} {o : ListOptions} {c : EventChannel}
    (hc : s.Carries w ns o c) (hstop : c.stopped = false) : w ∈ r.senders ↔ c.sending := by
  have hr : r.isStopped w = false := (isStopped_eq h.receivers hc).trans hstop
  have hmem : w ∈ r.prune.senders ↔ w ∈ r.senders := by simp [Register.prune, hr]
  rw [← hmem, h.senders, hc.mem_openIds, EventChannel.isOpen, hstop]
  simp

/-- The register gives what the store gives. -/
theorem next (h : r.Reflects s) (w : WatchId) :
    (r.next w).2 = (s.next w).2 ∧ (r.next w).1.senders = r.senders ∧
      (r.next w).1.receivers = (s.next w).1.watches.map Subscription.receiver := by
  cases hw : s.watches[w.number]? with
  | none =>
    simp [Register.next, PodStore.next, PodStore.channel?, hw, h.receivers]
  | some t =>
    obtain ⟨ns, o, c⟩ := t
    have hc : s.Carries w ns o c := hw
    have hr := getElem?_receivers h.receivers hc
    -- where nothing is read, the channel is put back as it was
    have hsame : r.receivers.modify w.number ({ · with queue := c.queue, stopped := c.stopped }) =
        r.receivers := by
      refine List.ext_getElem? fun i => ?_
      by_cases hi : w.number = i
      · subst hi
        simp [hr]
      · simp [hi]
    unfold Register.next PodStore.next EventChannel.next
    simp only [hr, hc.channel?, PodStore.receivers_setChannel, ← h.receivers]
    by_cases hstop : c.stopped
    · simp [hstop, hstop ▸ hsame]
    · have hsend := h.mem_senders hc (eq_false_of_ne_true hstop)
      cases hq : c.queue with
      | nil =>
        simp only [if_neg hstop, hsame, hsend, and_self]
      | cons e q =>
        simp only [if_neg hstop, true_and]
        refine List.ext_getElem? fun i => ?_
        by_cases hi : w.number = i
        · subst hi
          simp [hr]
        · simp [hi]

theorem stop (h : r.Reflects s) (w : WatchId) : (r.stop w).receivers =
    (s.stop w).watches.map Subscription.receiver := by
  refine List.ext_getElem? fun i => ?_
  unfold Register.stop
  by_cases hi : w.number = i
  · subst hi
    cases hw : s.watches[w.number]? with
    | none => simp [PodStore.stop, PodStore.channel?, hw, h.receivers]
    | some t =>
      have hc : s.Carries w t.namespace t.options t.channel := hw
      have hstop : (s.stop w).watches[w.number]? = _ := hc.stop
      simp [h.receivers, hw, hstop, Subscription.receiver, EventChannel.stop]
  · have hother := (PodStore.SameBut.stop s w).watches ⟨i⟩
      (by rintro ⟨⟩; exact hi rfl)
    rw [List.getElem?_map, hother]
    simp [h.receivers, hi]

theorem broadcast (h : r.Reflects s) {t : PodStore} (ns : String) (e : WatchEvent)
    (ht : t.watches = s.watches.map (Subscription.notify ns e)) :
    (r.broadcast ns e).receivers = t.watches.map Subscription.receiver := by
  have hprune : r.prune.receivers = s.watches.map Subscription.receiver := h.receivers
  refine List.ext_getElem? fun i => ?_
  unfold Register.broadcast
  rw [h.senders, receivers_foldl_deliver s.nodup_openIds, hprune, ht, List.map_map,
    List.getElem?_map, List.getElem?_map]
  cases hi : s.watches[i]? with
  | none => simp
  | some t =>
    have hc : s.Carries ⟨i⟩ t.namespace t.options t.channel := hi
    simp only [hc.mem_openIds, Option.map_some, Function.comp_apply, PodStore.receiver_notify]
    split <;> rfl

theorem receivers_act (h : r.Reflects s) (a : StoreAct) :
    (r.act s a).receivers = (s.act a).watches.map Subscription.receiver := by
  unfold Register.act
  cases htold : s.told? a with
  | some b => exact h.broadcast b.1 b.2 (PodStore.watches_told htold)
  | none =>
    cases a with
    | call c =>
      cases c with
      | watch ns o =>
        change r.receivers ++ [_] = (s.watches ++ [_]).map Subscription.receiver
        rw [h.receivers, List.map_append]
        rfl
      | _ => exact h.receivers.trans (congrArg _ (PodStore.watches_untold htold (by simp)).symm)
    | insert p => exact h.receivers
    | inject => cases htold
    | closeWatches =>
      change r.receivers = (s.watches.map _).map Subscription.receiver
      rw [h.receivers, List.map_map]
      rfl
    | next v => exact (h.next v).2.2
    | stop v => exact h.stop v

theorem isStopped_act (h : r.Reflects s) (hw : w ∈ s.ids) (a : StoreAct) :
    (r.act s a).isStopped w = (r.isStopped w || a = .stop w) := by
  obtain ⟨ns, o, c, hc⟩ := PodStore.carries_of_mem_ids hw
  obtain ⟨c', hc', hcourse⟩ := hc.act a
  rw [isStopped_eq (h.receivers_act a) hc', isStopped_eq h.receivers hc, hcourse.stopped]
  simp [eq_comm]

/-- When nobody comes into the register, those are left whose watches have not been stopped. -/
theorem senders_act (h : r.Reflects s) (hopened : s.opened a = []) (hclose : a ≠ .closeWatches)
    (hs : (r.act s a).senders.filter (!r.isStopped ·) = s.openIds) :
    (r.act s a).prune.senders = (s.act a).openIds := by
  rw [PodStore.openIds_act, hopened, List.append_nil, ← hs, List.filter_filter]
  refine List.filter_congr fun w hw => ?_
  have hids : w ∈ s.ids := by
    by_cases hstop : r.isStopped w
    · obtain ⟨t, ht, -⟩ := (Option.any_eq_true _ _).mp hstop
      have hlt := (List.getElem?_eq_some_iff.mp ht).1
      rw [h.receivers, List.length_map] at hlt
      exact PodStore.mem_ids.mpr hlt
    · have hopen : w ∈ s.openIds := hs ▸ List.mem_filter.mpr ⟨hw, by simpa using hstop⟩
      exact (List.mem_filter.mp hopen).1
  rw [h.isStopped_act hids]
  simp [StoreAct.ends, hclose, Bool.and_comm]

theorem act (h : r.Reflects s) (a : StoreAct) : (r.act s a).Reflects (s.act a) := by
  refine ⟨h.receivers_act a, ?_⟩
  cases htold : s.told? a with
  | some b =>
    have hr : (r.act s a).senders = r.prune.senders := by
      rw [Register.act, htold]
      exact senders_foldl_deliver _ _
    have hopened := PodStore.opened_told htold
    have hclose : a ≠ .closeWatches := by
      rintro rfl
      cases htold
    refine h.senders_act hopened hclose ?_
    rw [hr, h.senders, List.filter_eq_self]
    intro w hw
    rw [← h.senders] at hw
    exact (List.mem_filter.mp hw).2
  | none =>
    have hr : r.act s a = r.follow a := by rw [Register.act, htold]
    cases a with
    | call c =>
      cases c with
      | watch ns o =>
        have hlength : r.receivers.length = s.watches.length := by rw [h.receivers, List.length_map]
        have hnone : s.openIds.filter (!StoreAct.ends · (.call (.watch ns o))) = s.openIds :=
          List.filter_eq_self.mpr fun _ _ => rfl
        calc (r.act s (.call (.watch ns o))).prune.senders
            = r.prune.senders ++ [⟨r.receivers.length⟩] := by
              rw [hr]
              exact r.senders_watch ns o
          _ = (s.act (.call (.watch ns o))).openIds := by
              rw [PodStore.openIds_act, hnone, h.senders, hlength]
              rfl
      | _ => exact h.senders_act rfl (by simp) (hr ▸ h.senders)
    | insert p => exact h.senders_act rfl (by simp) (hr ▸ h.senders)
    | inject => cases htold
    | closeWatches =>
      rw [PodStore.openIds_act]
      simp [hr, follow, Register.closeWatches, Register.prune, StoreAct.ends, PodStore.opened]
    | next v =>
      refine h.senders_act rfl (by simp) ?_
      rw [hr, follow, (h.next v).2.1]
      exact h.senders
    | stop v => exact h.senders_act rfl (by simp) (hr ▸ h.senders)

theorem perform (h : r.Reflects s) (acts : List (Option StoreAct)) :
    (r.perform s acts).Reflects (s.perform acts.reduceOption) := by
  induction acts generalizing r s with
  | nil => exact h
  | cons a acts ih =>
    cases a with
    | none => exact ih h.prune
    | some a => exact ih (h.act a)

theorem openWatches (h : r.Reflects s) : r.openWatches = s.openWatches := by
  rw [Register.openWatches, h.senders, s.openWatches_eq]

end Register.Reflects

end PodPipeline
