import PodPipeline.Cluster.Store
import PodPipeline.Proofs.Watch.Verdict

/-! What the calls of a store change, and what the watches of a pod are told of it. -/
namespace PodPipeline

/-- Something that may happen to a store: a call, or what the holders of the store and of its
watches can do besides. -/
inductive StoreAct where
  | call (c : ClientCall)
  | insert (pod : Pod)
  | inject («namespace» : String) (e : WatchEvent)
  | closeWatches
  | next (w : WatchId)
  | stop (w : WatchId)
deriving DecidableEq, Repr

def StoreAct.watch? : StoreAct → Option WatchId
  | .next w | .stop w => some w
  | _ => none

/-- Whether all that happens is a call, or the reading or stopping of a watch. -/
def StoreAct.isOrdinary : StoreAct → Bool
  | .call _ | .next _ | .stop _ => true
  | .insert _ | .inject _ _ | .closeWatches => false

def ClientCall.key (c : ClientCall) : PodKey := ⟨c.namespace, c.podName⟩

namespace PodStore

variable {s t u : PodStore} {k : PodKey} {w : WatchId} {q : List WatchEvent}

def act (s : PodStore) : StoreAct → PodStore
  | .call c => (s.call c).1
  | .insert p => s.insert p
  | .inject ns e => s.inject ns e
  | .closeWatches => s.closeWatches
  | .next w => (s.next w).1
  | .stop w => s.stop w

def perform (s : PodStore) (acts : List StoreAct) : PodStore := acts.foldl act s

/-- Every pod stands at the place that its metadata names. -/
def Keyed (s : PodStore) : Prop := ∀ k p, s.pods.find? k = some p → p.key = k

/-- The watch is for the pods in a namespace that its options cover, is open, and has the events `q`
to be read. -/
def Serves (s : PodStore) (w : WatchId) (ns : String) (o : ListOptions) (q : List WatchEvent) :
    Prop := s.watches[w.number]? = some ⟨ns, o, { queue := q }⟩

/-- The watch is for the pod at `k` alone, is open, and has the events `q` to be read. -/
def Listening (s : PodStore) (w : WatchId) (k : PodKey) (q : List WatchEvent) : Prop :=
  s.watches[w.number]? = some ⟨k.namespace, ⟨some k.name⟩, { queue := q }⟩

/-! What each call comes to, as the pod is there or not. -/

section Calls

variable {ns name : String} {p old : Pod}

theorem create_of_present (h : s.pods.find? ⟨ns, p.name⟩ = some old) : s.create ns p =
    (s.record (.create ns p.name), .error (.alreadyExists ns p.name)) := by
  unfold create
  dsimp only
  rw [show (s.record _).pods.find? _ = some old from h]

theorem create_of_absent (h : s.pods.find? ⟨ns, p.name⟩ = none) : s.create ns p =
    ({ s.record (.create ns p.name) with
        pods := s.pods.insert ⟨ns, p.name⟩ (p.inNamespace ns) }.broadcast ns
      (.added (p.inNamespace ns)), .ok (p.inNamespace ns)) := by
  unfold create
  dsimp only
  rw [show (s.record _).pods.find? _ = none from h]
  rfl

theorem get_of_present (h : s.pods.find? ⟨ns, name⟩ = some p) :
    s.get ns name = (s.record (.get ns name), .ok p) := by
  unfold get
  dsimp only
  rw [show (s.record _).pods.find? _ = some p from h]

theorem get_of_absent (h : s.pods.find? ⟨ns, name⟩ = none) :
    s.get ns name = (s.record (.get ns name), .error (.notFound ns name)) := by
  unfold get
  dsimp only
  rw [show (s.record _).pods.find? _ = none from h]

theorem updateStatus_of_present (h : s.pods.find? ⟨ns, p.name⟩ = some old) : s.updateStatus ns p =
    ({ s.record (.updateStatus ns p.name) with
        pods := s.pods.insert ⟨ns, p.name⟩ (old.withStatus p.status) }.broadcast ns
      (.modified (old.withStatus p.status)), .ok (old.withStatus p.status)) := by
  unfold updateStatus
  dsimp only
  rw [show (s.record _).pods.find? _ = some old from h]
  rfl

theorem updateStatus_of_absent (h : s.pods.find? ⟨ns, p.name⟩ = none) : s.updateStatus ns p =
    (s.record (.updateStatus ns p.name), .error (.notFound ns p.name)) := by
  unfold updateStatus
  dsimp only
  rw [show (s.record _).pods.find? _ = none from h]

theorem delete_of_present (h : s.pods.find? ⟨ns, name⟩ = some p) : s.delete ns name =
    ({ s.record (.delete ns name) with pods := s.pods.erase ⟨ns, name⟩ }.broadcast ns
      (.deleted p), .ok ()) := by
  unfold delete
  dsimp only
  rw [show (s.record _).pods.find? _ = some p from h]
  rfl

theorem delete_of_absent (h : s.pods.find? ⟨ns, name⟩ = none) :
    s.delete ns name = (s.record (.delete ns name), .error (.notFound ns name)) := by
  unfold delete
  dsimp only
  rw [show (s.record _).pods.find? _ = none from h]

end Calls

/-- How a pod may change in one call, and the event that tells of it. -/
inductive Change (k : PodKey) : Option Pod → Option Pod → List WatchEvent → Prop where
  | same (o) : Change k o o []
  | added {p} (hp : p.key = k) : Change k none (some p) [.added p]
  | modified {p status} (hp : p.key = k) :
    Change k (some p) (some (p.withStatus status)) [.modified (p.withStatus status)]
  | deleted {p} (hp : p.key = k) : Change k (some p) none [.deleted p]

/-- From `s` to `t` the pod at `k` changes at most once, and an open watch for it is told of the
change. -/
def Drifts (s t : PodStore) (own : Option WatchId) (k : PodKey) : Prop :=
  ∃ news, Change k (s.pods.find? k) (t.pods.find? k) news ∧
    ∀ w q, own = some w → s.Listening w k q → t.Listening w k (q ++ news)

/-- Nothing but the watch `own` and the list of calls may be different. -/
structure SameBut (own : Option WatchId) (s t : PodStore) : Prop where
  pods : t.pods = s.pods
  length : t.watches.length = s.watches.length
  watches : ∀ w : WatchId, own ≠ some w → t.watches[w.number]? = s.watches[w.number]?

theorem Listening.lt (h : s.Listening w k q) : w.number < s.watches.length :=
  (List.getElem?_eq_some_iff.mp h).1

theorem Listening.unique {l : PodKey} {q' : List WatchEvent} (h : s.Listening w k q)
    (h' : s.Listening w l q') : q = q' := by
  unfold Listening at h h'
  rw [h] at h'
  simp only [Option.some.injEq, Subscription.mk.injEq, EventChannel.mk.injEq] at h'
  exact h'.2.2.1

namespace SameBut

variable {own : Option WatchId}

theorem refl (s : PodStore) : SameBut own s s := ⟨rfl, rfl, fun _ _ => rfl⟩

theorem trans (h : SameBut own s t) (h' : SameBut own t u) : SameBut own s u :=
  ⟨h'.pods.trans h.pods, h'.length.trans h.length,
    fun w hw => (h'.watches w hw).trans (h.watches w hw)⟩

theorem mono (h : SameBut none s t) : SameBut own s t :=
  ⟨h.pods, h.length, fun w _ => h.watches w (by simp)⟩

theorem listening (h : SameBut own s t) (hw : own ≠ some w) (hl : s.Listening w k q) :
    t.Listening w k q := (h.watches w hw).trans hl

theorem keyed (h : SameBut own s t) (hk : s.Keyed) : t.Keyed := by
  unfold Keyed
  rw [h.pods]
  exact hk

theorem record (s : PodStore) (a : Operation) : SameBut none s (s.record a) :=
  ⟨rfl, rfl, fun _ _ => rfl⟩

theorem setChannel (s : PodStore) (w : WatchId) (c : EventChannel) :
    SameBut (some w) s (s.setChannel w c) where
  pods := rfl
  length := by simp [PodStore.setChannel]
  watches v hv := by
    have hne : w.number ≠ v.number := by
      intro h
      cases w
      cases v
      exact hv (congrArg _ (congrArg _ h))
    simp [PodStore.setChannel, hne]

theorem next (s : PodStore) (w : WatchId) : SameBut (some w) s (s.next w).1 := by
  unfold PodStore.next
  split
  · exact setChannel s w _
  · exact refl s

theorem stop (s : PodStore) (w : WatchId) : SameBut (some w) s (s.stop w) := by
  unfold PodStore.stop
  split
  · exact setChannel s w _
  · exact refl s

theorem get (s : PodStore) (ns name : String) : SameBut none s (s.get ns name).1 := by
  cases hf : s.pods.find? ⟨ns, name⟩ with
  | some p =>
    rw [get_of_present hf]
    exact record s _
  | none =>
    rw [get_of_absent hf]
    exact record s _

end SameBut

/-! Reading and stopping an open watch. -/

section Serves

variable {ns : String} {o : ListOptions}

theorem Serves.channel? (h : s.Serves w ns o q) : s.channel? w = some { queue := q } := by
  unfold PodStore.channel?
  rw [show s.watches[w.number]? = _ from h]
  rfl

theorem Serves.setChannel (h : s.Serves w ns o q) (q' : List WatchEvent) :
    (s.setChannel w { queue := q' }).Serves w ns o q' := by
  have hw : s.watches[w.number]? = _ := h
  simp [Serves, PodStore.setChannel, hw]

theorem Serves.next_cons {e : WatchEvent} (h : s.Serves w ns o (e :: q)) :
    (s.next w).2 = .event e ∧ (s.next w).1.Serves w ns o q := by
  unfold PodStore.next
  rw [h.channel?]
  exact ⟨rfl, h.setChannel q⟩

theorem Serves.next_nil (h : s.Serves w ns o []) :
    (s.next w).2 = .pending ∧ (s.next w).1.Serves w ns o [] := by
  unfold PodStore.next
  rw [h.channel?]
  exact ⟨rfl, h.setChannel []⟩

def unread (s : PodStore) (w : WatchId) : List WatchEvent :=
  ((s.channel? w).map (·.queue)).getD []

theorem Serves.unread (h : s.Serves w ns o q) : s.unread w = q := by
  unfold PodStore.unread
  rw [h.channel?]
  rfl

theorem Serves.append (h : s.Serves w ns o q) (l : List Subscription)
    (ht : t.watches = s.watches ++ l) : t.Serves w ns o q := by
  unfold Serves
  rw [ht, List.getElem?_append_left (List.getElem?_eq_some_iff.mp h).1]
  exact h

/-- The watches are told of an event in a namespace. -/
theorem Serves.notify (h : s.Serves w ns o q) {ns' : String} {e : WatchEvent}
    (ht : t.watches = s.watches.map (Subscription.notify ns' e)) :
    t.Serves w ns o (if ns = ns' ∧ o.reports e then q ++ [e] else q) := by
  have hw : s.watches[w.number]? = _ := h
  unfold Serves
  rw [ht, List.getElem?_map, hw, Option.map_some, Subscription.notify, Subscription.reports]
  by_cases hr : ns = ns' ∧ o.reports e
  · simp only [hr, decide_true, Bool.and_self, if_true, and_self]
    rfl
  · rw [if_neg (by simpa using hr), if_neg hr]

end Serves

theorem Listening.next_cons {e : WatchEvent} (h : s.Listening w k (e :: q)) :
    (s.next w).2 = .event e ∧ (s.next w).1.Listening w k q := Serves.next_cons h

theorem Listening.next_nil (h : s.Listening w k []) :
    (s.next w).2 = .pending ∧ (s.next w).1.Listening w k [] := Serves.next_nil h

theorem Listening.unread (h : s.Listening w k q) : s.unread w = q := Serves.unread h

theorem Listening.queued (h : s.Listening w k q) : s.queued w = q.length := by
  unfold PodStore.queued
  rw [Serves.channel? h]
  rfl

/-! Opening a watch. -/

theorem listening_watch (s : PodStore) (k : PodKey) :
    (s.watch k.namespace ⟨some k.name⟩).1.Listening ⟨s.watches.length⟩ k [] := by
  unfold Listening PodStore.watch
  exact List.getElem?_concat_length

/-! Changing a pod. -/

/-- The pod that a change is about. -/
theorem Change.pod?_eq {o o' : Option Pod} {e : WatchEvent} (h : Change k o o' [e]) :
    ∃ p, e.pod? = some p ∧ p.name = k.name := by
  cases h with
  | added hp => exact ⟨_, rfl, congrArg PodKey.name hp⟩
  | modified hp => exact ⟨_, rfl, congrArg PodKey.name hp⟩
  | deleted hp => exact ⟨_, rfl, congrArg PodKey.name hp⟩

/-- What a call about the pod at `k` may do to a store. -/
inductive Effect (k : PodKey) (s t : PodStore) : Prop where
  | quiet (h : SameBut none s t)
  | opened (sub : Subscription) (hp : t.pods = s.pods) (hw : t.watches = s.watches ++ [sub])
  /-- The pod is put at its place or taken away, and the watches are told. -/
  | told (e : WatchEvent) (hself : Change k (s.pods.find? k) (t.pods.find? k) [e])
      (hother : ∀ l, l ≠ k → t.pods.find? l = s.pods.find? l)
      (hw : t.watches = s.watches.map (Subscription.notify k.namespace e))

theorem effect_call (hs : s.Keyed) (c : ClientCall) : Effect c.key s (s.call c).1 := by
  cases c with
  | create ns p =>
    change Effect ⟨ns, p.name⟩ s (s.create ns p).1
    cases hf : s.pods.find? ⟨ns, p.name⟩ with
    | some old =>
      rw [create_of_present hf]
      exact .quiet (.record s _)
    | none =>
      rw [create_of_absent hf]
      refine .told (.added (p.inNamespace ns)) ?_ (fun l hl => PodTable.find?_insert_of_ne _ hl _)
        rfl
      rw [hf]
      exact (PodTable.find?_insert_self _ _ _).symm ▸ .added rfl
  | get ns name => exact .quiet (.get s ns name)
  | updateStatus ns p =>
    change Effect ⟨ns, p.name⟩ s (s.updateStatus ns p).1
    cases hf : s.pods.find? ⟨ns, p.name⟩ with
    | none =>
      rw [updateStatus_of_absent hf]
      exact .quiet (.record s _)
    | some old =>
      rw [updateStatus_of_present hf]
      refine .told (.modified (old.withStatus p.status)) ?_
        (fun l hl => PodTable.find?_insert_of_ne _ hl _) rfl
      rw [hf]
      exact (PodTable.find?_insert_self _ _ _).symm ▸ .modified (hs _ _ hf)
  | watch ns options => exact .opened ⟨ns, options, {}⟩ rfl rfl
  | delete ns name =>
    change Effect ⟨ns, name⟩ s (s.delete ns name).1
    cases hf : s.pods.find? ⟨ns, name⟩ with
    | none =>
      rw [delete_of_absent hf]
      exact .quiet (.record s _)
    | some old =>
      rw [delete_of_present hf]
      refine .told (.deleted old) ?_ (fun l hl => PodTable.find?_erase_of_ne _ hl) rfl
      rw [hf]
      exact (PodTable.find?_erase_self _ _).symm ▸ .deleted (hs _ _ hf)

/-- A watch for one pod is told of an event about a pod. -/
theorem Listening.notify (h : s.Listening w k q) {ns : String} {e : WatchEvent} {p : Pod}
    (he : e.pod? = some p) (ht : t.watches = s.watches.map (Subscription.notify ns e)) :
    t.Listening w k (if k = ⟨ns, p.name⟩ then q ++ [e] else q) := by
  have hk : k = ⟨ns, p.name⟩ ↔ k.namespace = ns ∧ (ListOptions.mk (some k.name)).reports e := by
    obtain ⟨kns, kname⟩ := k
    simp [ListOptions.reports, ListOptions.covers, he]
  simp only [hk]
  exact Serves.notify h ht

theorem SameBut.drifts {own : Option WatchId} (h : SameBut own s t) {mine : Option WatchId}
    (hm : ∀ w, mine = some w → own ≠ some w) (k : PodKey) : Drifts s t mine k := by
  refine ⟨[], ?_, fun w q hw hl => ?_⟩
  · rw [h.pods]
    exact .same _
  · rw [List.append_nil]
    exact h.listening (hm w hw) hl

theorem Drifts.refl (s : PodStore) (mine : Option WatchId) (k : PodKey) : Drifts s s mine k := by
  have h : SameBut none s s := .refl s
  exact h.drifts (by simp) k

/-- What a call of anybody changes for the pod at `k`. -/
theorem drifts_call (hs : s.Keyed) (c : ClientCall) (own : Option WatchId) (k : PodKey) :
    Drifts s (s.call c).1 own k := by
  cases effect_call hs c with
  | quiet h => exact h.drifts (by simp) k
  | opened sub hp hw =>
    refine ⟨[], hp ▸ .same _, fun w q _ hl => ?_⟩
    rw [List.append_nil]
    exact Serves.append hl _ hw
  | told e hself hother hw =>
    obtain ⟨p, he, hn⟩ := hself.pod?_eq
    have hkey : c.key = ⟨c.key.namespace, p.name⟩ := by rw [hn]
    by_cases hk : k = c.key
    · subst hk
      refine ⟨[e], hself, fun w q _ hl => ?_⟩
      have := hl.notify he hw
      rwa [if_pos hkey] at this
    · refine ⟨[], hother k hk ▸ .same _, fun w q _ hl => ?_⟩
      have := hl.notify he hw
      rwa [if_neg (hkey ▸ hk), ← List.append_nil q] at this

/-! What a look-up and a creation are answered with. -/

theorem get_ok {ns name : String} {p : Pod} (h : (s.get ns name).2 = .ok p) :
    s.pods.find? ⟨ns, name⟩ = some p := by
  cases hf : s.pods.find? ⟨ns, name⟩ with
  | some q =>
    rw [get_of_present hf] at h
    cases h
    rfl
  | none =>
    rw [get_of_absent hf] at h
    cases h

theorem get_error {ns name : String} {e : ClientError} (h : (s.get ns name).2 = .error e) :
    s.pods.find? ⟨ns, name⟩ = none ∧ e = .notFound ns name := by
  cases hf : s.pods.find? ⟨ns, name⟩ with
  | some q =>
    rw [get_of_present hf] at h
    cases h
  | none =>
    rw [get_of_absent hf] at h
    cases h
    exact ⟨rfl, rfl⟩

theorem create_ok {ns : String} {p q : Pod} (h : (s.create ns p).2 = .ok q) :
    s.pods.find? ⟨ns, p.name⟩ = none ∧ q = p.inNamespace ns ∧
      (s.create ns p).1.pods.find? ⟨ns, p.name⟩ = some q := by
  cases hf : s.pods.find? ⟨ns, p.name⟩ with
  | some old =>
    rw [create_of_present hf] at h
    cases h
  | none =>
    rw [create_of_absent hf] at h ⊢
    cases h
    exact ⟨rfl, rfl, PodTable.find?_insert_self _ _ _⟩

theorem create_error {ns : String} {p : Pod} {e : ClientError}
    (h : (s.create ns p).2 = .error e) : e = .alreadyExists ns p.name ∧
      (∃ old, s.pods.find? ⟨ns, p.name⟩ = some old) ∧ SameBut none s (s.create ns p).1 := by
  cases hf : s.pods.find? ⟨ns, p.name⟩ with
  | some old =>
    rw [create_of_present hf] at h ⊢
    cases h
    exact ⟨rfl, ⟨old, rfl⟩, SameBut.record s _⟩
  | none =>
    rw [create_of_absent hf] at h
    cases h

theorem get_of_find? {ns name : String} {p : Pod}
    (h : s.pods.find? ⟨ns, name⟩ = some p) : (s.get ns name).2 = .ok p :=
  congrArg Prod.snd (get_of_present h)

theorem get_of_vacant {ns name : String} (h : s.pods.find? ⟨ns, name⟩ = none) :
    (s.get ns name).2 = .error (.notFound ns name) :=
  congrArg Prod.snd (get_of_absent h)

theorem create_of_vacant {ns : String} {p : Pod}
    (h : s.pods.find? ⟨ns, p.name⟩ = none) : (s.create ns p).2 = .ok (p.inNamespace ns) :=
  congrArg Prod.snd (create_of_absent h)

theorem actions_get (s : PodStore) (ns name : String) :
    (s.get ns name).1.actions = s.actions ++ [.get ns name] := by
  cases hf : s.pods.find? ⟨ns, name⟩ with
  | some p =>
    rw [get_of_present hf]
    rfl
  | none =>
    rw [get_of_absent hf]
    rfl

theorem actions_stop (s : PodStore) (w : WatchId) : (s.stop w).actions = s.actions := by
  unfold PodStore.stop
  split <;> rfl

/-! Pods stand at their places in every store that anything has happened to. -/

theorem Change.key {o o' : Option Pod} {news : List WatchEvent} (h : Change k o o' news)
    (ho : ∀ p, o = some p → p.key = k) : ∀ p, o' = some p → p.key = k := by
  cases h with
  | same => exact ho
  | added hp =>
    intro p' he
    cases he
    exact hp
  | modified hp =>
    intro p' he
    cases he
    exact hp
  | deleted => simp

/-- A pod that has not finished goes on, or the change tells how it ends. -/
theorem Change.of_unfinished {p : Pod} {o' : Option Pod} {news : List WatchEvent}
    (h : Change k (some p) o' news) (hp : p.key = k) (hv : p.verdict = none) :
    ((∃ p', o' = some p' ∧ p'.verdict = none) ∧ firstVerdict k.name news = none) ∨
      ∃ o, firstVerdict k.name news = some o ∧
        (o = deletedOutcome ∨ ∃ p', o' = some p' ∧ p'.verdict = some o) := by
  have hn : p.name = k.name := congrArg PodKey.name hp
  cases h with
  | same => exact .inl ⟨⟨p, rfl, hv⟩, rfl⟩
  | @modified _ status =>
    have hf : firstVerdict k.name [.modified (p.withStatus status)] =
        (p.withStatus status).verdict := by
      simp [firstVerdict_cons, WatchEvent.verdict, hn]
    rw [hf]
    cases hv' : (p.withStatus status).verdict with
    | none => exact .inl ⟨⟨_, rfl, hv'⟩, rfl⟩
    | some o => exact .inr ⟨o, rfl, .inr ⟨_, rfl, hv'⟩⟩
  | deleted =>
    refine .inr ⟨deletedOutcome, ?_, .inl rfl⟩
    simp [firstVerdict_cons, WatchEvent.verdict, hn, hv]

/-- A pod that is new has not finished. -/
theorem Change.of_absent {p : Pod} {news : List WatchEvent} (h : Change k none (some p) news)
    (hv : p.verdict = none) : firstVerdict k.name news = none := by
  cases h with
  | added => simp [firstVerdict_cons, WatchEvent.verdict, hv]

/-- No pod goes away without an event that decides. -/
theorem Change.absent_before {o : Option Pod} {news : List WatchEvent} (h : Change k o none news)
    (hv : firstVerdict k.name news = none) : o = none := by
  cases h with
  | same => rfl
  | deleted hp =>
    have hn : _ = k.name := congrArg PodKey.name hp
    simp [firstVerdict_cons, WatchEvent.verdict, show Pod.name _ = k.name from hn] at hv

theorem Change.news_eq_nil {news : List WatchEvent} (h : Change k none none news) : news = [] := by
  cases h
  rfl

/-- An event tells the outcome of the pod as the change has left it, or the pod is gone. -/
theorem Change.told {o o' : Option Pod} {news : List WatchEvent} (h : Change k o o' news)
    {e : WatchEvent} (he : e ∈ news) {out : Outcome} (hv : e.verdict k.name = some out) :
    (∃ p, o' = some p ∧ p.verdict = some out) ∨ o.isSome ∧ o' = none := by
  cases h with
  | same => cases he
  | deleted => exact .inr ⟨rfl, rfl⟩
  | added hp | modified hp =>
    have hn : _ = k.name := congrArg PodKey.name hp
    rw [List.mem_singleton] at he
    subst he
    simp only [WatchEvent.verdict, Pod.name_withStatus, show Pod.name _ = k.name from hn,
      if_pos] at hv
    exact .inl ⟨_, rfl, hv⟩

theorem keyed_call (hs : s.Keyed) (c : ClientCall) : (s.call c).1.Keyed := by
  intro k p hp
  obtain ⟨news, hc, -⟩ := drifts_call hs c none k
  exact hc.key (hs k) p hp

theorem keyed_act (hs : s.Keyed) (a : StoreAct) : (s.act a).Keyed := by
  cases a with
  | call c => exact keyed_call hs c
  | insert p =>
    intro k old hold
    by_cases hk : k = p.key
    · subst hk
      have : p = old := by simpa [act, PodStore.insert] using hold
      rw [this]
    · have hne := PodTable.find?_insert_of_ne s.pods hk p
      exact hs k old (hne ▸ hold)
  | inject ns e => exact hs
  | closeWatches => exact hs
  | next w => exact (SameBut.next s w).keyed hs
  | stop w => exact (SameBut.stop s w).keyed hs

theorem keyed_perform (hs : s.Keyed) (acts : List StoreAct) : (s.perform acts).Keyed := by
  induction acts generalizing s with
  | nil => exact hs
  | cons a acts ih => exact ih (keyed_act hs a)

theorem keyed_empty : ({} : PodStore).Keyed := by
  intro k p hp
  cases hp

end PodStore

end PodPipeline
