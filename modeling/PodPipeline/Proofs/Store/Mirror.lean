import PodPipeline.Proofs.Run.Likeness
import PodPipeline.Proofs.Store.Change

/-! What a store shows of one pod: the pod itself, and the watches for it. Whatever happens to other
pods does not show, and what happens to the pod shows alike in two stores that have shown the same
before. -/
namespace PodPipeline

namespace PodStore

variable {s s' t t' u : PodStore} {k l : PodKey} {w v : WatchId} {c : EventChannel}
  {own : Option WatchId} {held : Held}

/-- The watch is for the pod at `k` alone, and its events come over the channel `c`. -/
def Watches (s : PodStore) (w : WatchId) (k : PodKey) (c : EventChannel) : Prop :=
  s.watches[w.number]? = some ⟨k.namespace, ⟨some k.name⟩, c⟩

theorem Watches.unique {d : EventChannel} (h : s.Watches w k c) (h' : s.Watches w l d) :
    k = l ∧ c = d := by
  obtain ⟨kns, kname⟩ := k
  obtain ⟨lns, lname⟩ := l
  unfold Watches at h h'
  rw [h] at h'
  simp_all

theorem Watches.lt (h : s.Watches w k c) : w.number < s.watches.length :=
  (List.getElem?_eq_some_iff.mp h).1

theorem Watches.channel? (h : s.Watches w k c) : s.channel? w = some c := by
  unfold PodStore.channel?
  rw [show s.watches[w.number]? = _ from h]
  rfl

theorem Watches.append (h : s.Watches w k c) (hw : ∃ sub, t.watches = s.watches ++ [sub]) :
    t.Watches w k c := by
  obtain ⟨sub, hw⟩ := hw
  unfold Watches
  rw [hw, List.getElem?_append_left h.lt]
  exact h

theorem Watches.setChannel (h : s.Watches w k c) (d : EventChannel) :
    (s.setChannel w d).Watches w k d := by
  have hw : s.watches[w.number]? = _ := h
  simp [Watches, PodStore.setChannel, hw]

theorem Watches.close (h : s.Watches w k c) : s.closeWatches.Watches w k c.close := by
  unfold Watches PodStore.closeWatches
  rw [List.getElem?_map, show s.watches[w.number]? = _ from h]
  rfl

/-- The channel of a watch for the pod at `k` after an event in a namespace. -/
def told (k : PodKey) (ns : String) (e : WatchEvent) (c : EventChannel) : EventChannel :=
  if k.namespace = ns ∧ (ListOptions.mk (some k.name)).reports e then c.send e else c

theorem Watches.notify (h : s.Watches w k c) {ns : String} {e : WatchEvent}
    (hw : t.watches = s.watches.map (Subscription.notify ns e)) :
    t.Watches w k (told k ns e c) := by
  unfold Watches told
  rw [hw, List.getElem?_map, show s.watches[w.number]? = _ from h, Option.map_some,
    Subscription.notify, Subscription.reports]
  by_cases hr : k.namespace = ns ∧ (ListOptions.mk (some k.name)).reports e
  · simp only [hr, decide_true, Bool.and_self, if_true, and_self]
  · rw [if_neg (by simpa using hr), if_neg hr]

/-- A watch for one pod is not told of events about another. -/
theorem told_of_ne {ns : String} {e : WatchEvent} {p : Pod} (he : e.pod? = some p)
    (hk : k ≠ ⟨ns, p.name⟩) (c : EventChannel) : told k ns e c = c := by
  obtain ⟨kns, kname⟩ := k
  refine if_neg fun h => hk ?_
  simp only [ListOptions.reports, ListOptions.covers, he, Option.all_some, decide_eq_true_eq] at h
  rw [h.1, h.2]

/-! What does not show. -/

/-- From `s` to `t` nothing happens to the pod at `k`, nor to the watches for it, but for `own`. -/
structure Aside (own : Option WatchId) (k : PodKey) (s t : PodStore) : Prop where
  pod : t.pods.find? k = s.pods.find? k
  watch : ∀ w c, own ≠ some w → s.Watches w k c → t.Watches w k c

theorem Aside.refl (own : Option WatchId) (k : PodKey) (s : PodStore) : Aside own k s s :=
  ⟨rfl, fun _ _ _ h => h⟩

theorem Aside.trans (h : Aside own k s t) (h' : Aside own k t u) : Aside own k s u :=
  ⟨h'.pod.trans h.pod, fun w c hw hc => h'.watch w c hw (h.watch w c hw hc)⟩

theorem Aside.mono (h : Aside none k s t) : Aside own k s t :=
  ⟨h.pod, fun w c _ hc => h.watch w c (by simp) hc⟩

theorem SameBut.aside (h : SameBut own s t) (k : PodKey) : Aside own k s t :=
  ⟨by rw [h.pods], fun w _ hw hc => (h.watches w hw).trans hc⟩

theorem aside_call (hs : s.Keyed) {c : ClientCall} (hk : k ≠ c.key) :
    Aside none k s (s.call c).1 := by
  cases effect_call hs c with
  | quiet h => exact h.aside k
  | opened sub hp hw => exact ⟨by rw [hp], fun _ _ _ hc => hc.append ⟨sub, hw⟩⟩
  | told e hself hother hw =>
    refine ⟨hother k hk, fun w ch _ hc => ?_⟩
    obtain ⟨p, he, hn⟩ := hself.pod?_eq
    have hne : k ≠ ⟨c.key.namespace, p.name⟩ := by rwa [hn]
    have := hc.notify hw
    rwa [told_of_ne he hne] at this

/-! Watches stay watches for their pods. -/

/-- The watch is for the pod at `k` alone. -/
def Registered (s : PodStore) (w : WatchId) (k : PodKey) : Prop := ∃ c, s.Watches w k c

theorem Registered.call (h : s.Registered w k) (hs : s.Keyed) (c : ClientCall) :
    (s.call c).1.Registered w k := by
  obtain ⟨ch, h⟩ := h
  cases effect_call hs c with
  | quiet hq => exact ⟨ch, (hq.watches w (by simp)).trans h⟩
  | opened sub _ hw => exact ⟨ch, h.append ⟨sub, hw⟩⟩
  | told e _ _ hw => exact ⟨_, h.notify hw⟩

theorem Registered.setChannel (h : s.Registered w k) (v : WatchId) (d : EventChannel) :
    (s.setChannel v d).Registered w k := by
  obtain ⟨c, h⟩ := h
  by_cases hv : v = w
  · subst hv
    exact ⟨d, h.setChannel d⟩
  · have hsame := (SameBut.setChannel s v d).watches w (by simpa using hv)
    exact ⟨c, hsame.trans h⟩

theorem Registered.next (h : s.Registered w k) (v : WatchId) : (s.next v).1.Registered w k := by
  unfold PodStore.next
  split
  · exact h.setChannel v _
  · exact h

theorem Registered.stop (h : s.Registered w k) (v : WatchId) : (s.stop v).Registered w k := by
  unfold PodStore.stop
  split
  · exact h.setChannel v _
  · exact h

theorem Registered.act (h : s.Registered w k) (hs : s.Keyed) (a : StoreAct) :
    (s.act a).Registered w k := by
  cases a with
  | call c => exact h.call hs c
  | insert p => exact h
  | inject ns e =>
    obtain ⟨c, h⟩ := h
    exact ⟨_, h.notify rfl⟩
  | closeWatches =>
    obtain ⟨c, h⟩ := h
    exact ⟨_, h.close⟩
  | next v => exact h.next v
  | stop v => exact h.stop v

/-- What one may do to a store who works on the pod at `k` and holds the watch `own`. -/
structure Yields (own : Option WatchId) (k : PodKey) (s t : PodStore) : Prop where
  keyed : t.Keyed
  registered : ∀ w l, s.Registered w l → t.Registered w l
  aside : ∀ l, l ≠ k → Aside own l s t

namespace Yields

theorem refl (hs : s.Keyed) : Yields own k s s := ⟨hs, fun _ _ h => h, fun _ _ => .refl own _ s⟩

theorem call (h : Yields own k s t) {c : ClientCall} (hc : c.key = k) :
    Yields own k s (t.call c).1 where
  keyed := keyed_call h.keyed c
  registered w l hw := (h.registered w l hw).call h.keyed c
  aside l hl := (h.aside l hl).trans (aside_call h.keyed (by rwa [hc])).mono

theorem next (h : Yields (some w) k s t) : Yields (some w) k s (t.next w).1 where
  keyed := (SameBut.next t w).keyed h.keyed
  registered v l hv := (h.registered v l hv).next w
  aside l hl := (h.aside l hl).trans ((SameBut.next t w).aside l)

theorem stop (h : Yields (some w) k s t) : Yields (some w) k s (t.stop w) where
  keyed := (SameBut.stop t w).keyed h.keyed
  registered v l hv := (h.registered v l hv).stop w
  aside l hl := (h.aside l hl).trans ((SameBut.stop t w).aside l)

end Yields

/-! What shows alike. -/

/-- Two stores show the same of the pod at `k` and of the watches `held` for it. -/
structure Mirrors (k : PodKey) (held : Held) (s t : PodStore) : Prop where
  pod : t.pods.find? k = s.pods.find? k
  watch : ∀ w v, held = some (w, v) → ∃ c, s.Watches w k c ∧ t.Watches v k c

namespace Mirrors

theorem aside (h : Mirrors k held s t) (ha : Aside own k s s')
    (ho : ∀ w v, held = some (w, v) → own ≠ some w) : Mirrors k held s' t where
  pod := h.pod.trans ha.pod.symm
  watch w v hw := by
    obtain ⟨c, hs, ht⟩ := h.watch w v hw
    exact ⟨c, ha.watch w c (ho w v hw) hs, ht⟩

theorem quiet (h : Mirrors k held s t) (hs : SameBut none s s') (ht : SameBut none t t') :
    Mirrors k held s' t' where
  pod := by rw [hs.pods, ht.pods, h.pod]
  watch w v hw := by
    obtain ⟨c, hc, hc'⟩ := h.watch w v hw
    exact ⟨c, (hs.watches w (by simp)).trans hc, (ht.watches v (by simp)).trans hc'⟩

/-- Both stores tell of the same event. -/
theorem notify (h : Mirrors k held s t) {ns : String} {e : WatchEvent}
    (hp : t'.pods.find? k = s'.pods.find? k)
    (hs : s'.watches = s.watches.map (Subscription.notify ns e))
    (ht : t'.watches = t.watches.map (Subscription.notify ns e)) : Mirrors k held s' t' where
  pod := hp
  watch w v hw := by
    obtain ⟨c, hc, hc'⟩ := h.watch w v hw
    exact ⟨_, hc.notify hs, hc'.notify ht⟩

theorem get (h : Mirrors k held s t) :
    (t.get k.namespace k.name).2 = (s.get k.namespace k.name).2 ∧
      Mirrors k held (s.get k.namespace k.name).1 (t.get k.namespace k.name).1 := by
  cases hf : s.pods.find? k with
  | some p =>
    rw [get_of_present hf, get_of_present (h.pod.trans hf)]
    exact ⟨rfl, h.quiet (.record s _) (.record t _)⟩
  | none =>
    rw [get_of_absent hf, get_of_absent (h.pod.trans hf)]
    exact ⟨rfl, h.quiet (.record s _) (.record t _)⟩

theorem create (h : Mirrors k held s t) {p : Pod} (hp : p.name = k.name) :
    (t.create k.namespace p).2 = (s.create k.namespace p).2 ∧
      Mirrors k held (s.create k.namespace p).1 (t.create k.namespace p).1 := by
  obtain ⟨ns, name⟩ := k
  obtain rfl : p.name = name := hp
  cases hf : s.pods.find? ⟨ns, p.name⟩ with
  | some old =>
    rw [create_of_present hf, create_of_present (h.pod.trans hf)]
    exact ⟨rfl, h.quiet (.record s _) (.record t _)⟩
  | none =>
    rw [create_of_absent hf, create_of_absent (h.pod.trans hf)]
    refine ⟨rfl, h.notify ?_ rfl rfl⟩
    exact (PodTable.find?_insert_self _ _ _).trans (PodTable.find?_insert_self _ _ _).symm

theorem updateStatus (h : Mirrors k held s t) {p : Pod} (hp : p.name = k.name) :
    Mirrors k held (s.updateStatus k.namespace p).1 (t.updateStatus k.namespace p).1 := by
  obtain ⟨ns, name⟩ := k
  obtain rfl : p.name = name := hp
  cases hf : s.pods.find? ⟨ns, p.name⟩ with
  | none =>
    rw [updateStatus_of_absent hf, updateStatus_of_absent (h.pod.trans hf)]
    exact h.quiet (.record s _) (.record t _)
  | some old =>
    rw [updateStatus_of_present hf, updateStatus_of_present (h.pod.trans hf)]
    refine h.notify ?_ rfl rfl
    exact (PodTable.find?_insert_self _ _ _).trans (PodTable.find?_insert_self _ _ _).symm

theorem delete (h : Mirrors k held s t) :
    Mirrors k held (s.delete k.namespace k.name).1 (t.delete k.namespace k.name).1 := by
  cases hf : s.pods.find? k with
  | none =>
    rw [delete_of_absent hf, delete_of_absent (h.pod.trans hf)]
    exact h.quiet (.record s _) (.record t _)
  | some old =>
    rw [delete_of_present hf, delete_of_present (h.pod.trans hf)]
    refine h.notify ?_ rfl rfl
    exact (PodTable.find?_erase_self _ _).trans (PodTable.find?_erase_self _ _).symm

/-- Opening a watch shows nobody else anything. -/
theorem watch_call (h : Mirrors k held s t) (ns : String) (o : ListOptions) :
    Mirrors k held (s.watch ns o).1 (t.watch ns o).1 where
  pod := h.pod
  watch w v hw := by
    obtain ⟨c, hc, hc'⟩ := h.watch w v hw
    exact ⟨c, hc.append ⟨_, rfl⟩, hc'.append ⟨_, rfl⟩⟩

/-- Both open a watch for the pod. -/
theorem opened (h : Mirrors k none s t) :
    Mirrors k (some (⟨s.watches.length⟩, ⟨t.watches.length⟩))
      (s.watch k.namespace ⟨some k.name⟩).1 (t.watch k.namespace ⟨some k.name⟩).1 where
  pod := h.pod
  watch w v hw := by
    cases hw
    exact ⟨{}, List.getElem?_concat_length, List.getElem?_concat_length⟩

theorem call (h : Mirrors k held s t) {c : ClientCall} (hc : c.key = k) :
    Mirrors k held (s.call c).1 (t.call c).1 := by
  subst hc
  cases c with
  | create ns p => exact (h.create rfl).2
  | get ns name => exact h.get.2
  | updateStatus ns p => exact h.updateStatus rfl
  | watch ns o => exact h.watch_call ns o
  | delete ns name => exact h.delete

/-- Both read their watches. -/
theorem next (h : Mirrors k (some (w, v)) s t) :
    (t.next v).2 = (s.next w).2 ∧ Mirrors k (some (w, v)) (s.next w).1 (t.next v).1 := by
  obtain ⟨c, hc, hc'⟩ := h.watch w v rfl
  unfold PodStore.next
  rw [hc.channel?, hc'.channel?]
  refine ⟨rfl, h.pod, fun w' v' hw => ?_⟩
  cases hw
  exact ⟨_, hc.setChannel _, hc'.setChannel _⟩

theorem stop (h : Mirrors k (some (w, v)) s t) : Mirrors k none (s.stop w) (t.stop v) where
  pod := by rw [(SameBut.stop s w).pods, (SameBut.stop t v).pods, h.pod]
  watch := by simp

end Mirrors

end PodStore

/-- Whether something that happens to a store concerns the pod at `k`. What concerns all watches
does. -/
def StoreAct.concerns (k : PodKey) : StoreAct → Bool
  | .call c => c.key = k
  | .insert p => p.key = k
  | .inject ns e => e.pod?.all fun p => (⟨ns, p.name⟩ : PodKey) = k
  | .closeWatches => true
  | .next _ | .stop _ => false

namespace PodStore

variable {s t : PodStore} {k : PodKey} {held : Held}

theorem Mirrors.act (h : Mirrors k held s t) {a : StoreAct} (ha : a.concerns k) :
    Mirrors k held (s.act a) (t.act a) := by
  cases a with
  | call c => exact h.call (by simpa [StoreAct.concerns] using ha)
  | insert p =>
    have hk : p.key = k := by simpa [StoreAct.concerns] using ha
    subst hk
    refine ⟨?_, h.watch⟩
    exact (PodTable.find?_insert_self _ _ _).trans (PodTable.find?_insert_self _ _ _).symm
  | inject ns e => exact h.notify h.pod rfl rfl
  | closeWatches =>
    refine ⟨h.pod, fun w v hw => ?_⟩
    obtain ⟨c, hc, hc'⟩ := h.watch w v hw
    exact ⟨c.close, hc.close, hc'.close⟩
  | next | stop => cases ha

/-- What does not concern the pod does not show, but for the watch that is read or stopped. -/
theorem aside_act (hs : s.Keyed) {a : StoreAct} (ha : a.concerns k = false) :
    Aside a.watch? k s (s.act a) := by
  cases a with
  | call c =>
    have hk : c.key ≠ k := by simpa [StoreAct.concerns] using ha
    exact aside_call hs hk.symm
  | insert p =>
    have hk : p.key ≠ k := by simpa [StoreAct.concerns] using ha
    exact ⟨PodTable.find?_insert_of_ne _ hk.symm p, fun _ _ _ h => h⟩
  | inject ns e =>
    refine ⟨rfl, fun w c _ hc => ?_⟩
    obtain ⟨p, he, hk⟩ : ∃ p, e.pod? = some p ∧ (⟨ns, p.name⟩ : PodKey) ≠ k := by
      simpa [StoreAct.concerns, Option.all_eq_false] using ha
    have := hc.notify (t := s.inject ns e) rfl
    rwa [told_of_ne he hk.symm] at this
  | closeWatches => cases ha
  | next w => exact (SameBut.next s w).aside k
  | stop w => exact (SameBut.stop s w).aside k

end PodStore

end PodPipeline
