import Mathlib.Logic.Function.Basic
import PodPipeline.Proofs.Run.Record
import PodPipeline.Proofs.Store.Change

/-! A watch tells all that happens to the pods it is for: whoever knows them when it is opened, and
follows its events, knows them ever after. -/
namespace PodPipeline

/-- Pods by their names, as the reader of a watch knows them. -/
abbrev PodView := String → Option Pod

namespace WatchEvent

/-- What a reader knows after an event. -/
def revise (v : PodView) : WatchEvent → PodView
  | .added p | .modified p => Function.update v p.name (some p)
  | .deleted p => Function.update v p.name none
  | .error _ => v

/-- Whether an event tells of something that can happen to the pods that are known. -/
def Fits (v : PodView) : WatchEvent → Prop
  | .added p => v p.name = none
  | .modified p | .deleted p => (v p.name).isSome
  | .error _ => False

end WatchEvent

def replay (v : PodView) (events : List WatchEvent) : PodView := events.foldl WatchEvent.revise v

/-- Every event fits what is known after those before it. -/
def Faithful (v : PodView) : List WatchEvent → Prop
  | [] => True
  | e :: l => e.Fits v ∧ Faithful (e.revise v) l

theorem replay_append (v : PodView) (l m : List WatchEvent) :
    replay v (l ++ m) = replay (replay v l) m := List.foldl_append

theorem Faithful.append {v : PodView} {l m : List WatchEvent} (hl : Faithful v l)
    (hm : Faithful (replay v l) m) : Faithful v (l ++ m) := by
  induction l generalizing v with
  | nil => exact hm
  | cons e l ih => exact ⟨hl.1, ih hl.2 hm⟩

namespace PodStore

variable {s t : PodStore} {k : PodKey} {w : WatchId} {ns : String} {o : ListOptions}
  {q : List WatchEvent} {e : WatchEvent} {a : StoreAct} {v : PodView}

theorem Change.revise {old new : Option Pod} (h : Change k old new [e]) :
    e.revise v = Function.update v k.name new := by
  cases h with
  | added hp => exact congrArg (Function.update v · _) (congrArg PodKey.name hp)
  | modified hp => exact congrArg (Function.update v · _) (congrArg PodKey.name hp)
  | deleted hp => exact congrArg (Function.update v · _) (congrArg PodKey.name hp)

theorem Change.fits {old new : Option Pod} (h : Change k old new [e]) (hv : v k.name = old) :
    e.Fits v := by
  obtain ⟨p, he, hn⟩ := h.pod?_eq
  cases h with
  | added => cases he; rw [WatchEvent.Fits, hn, hv]
  | modified => cases he; rw [WatchEvent.Fits, hn, hv]; rfl
  | deleted => cases he; rw [WatchEvent.Fits, hn, hv]; rfl

/-- The pods in a namespace that a watch with some options is for. -/
def view (s : PodStore) (ns : String) (o : ListOptions) : PodView := fun name =>
  if o.name.all (· = name) then s.pods.find? ⟨ns, name⟩ else none

theorem view_congr (h : ∀ name, o.name.all (· = name) →
    t.pods.find? ⟨ns, name⟩ = s.pods.find? ⟨ns, name⟩) : t.view ns o = s.view ns o := by
  funext name
  unfold view
  by_cases ho : o.name.all (· = name)
  · rw [if_pos ho, if_pos ho, h name ho]
  · rw [if_neg ho, if_neg ho]

theorem view_update (ho : o.name.all (· = k.name))
    (hother : ∀ l, l ≠ k → t.pods.find? l = s.pods.find? l) :
    t.view k.namespace o = Function.update (s.view k.namespace o) k.name (t.pods.find? k) := by
  funext name
  by_cases hn : name = k.name
  · subst hn
    rw [Function.update_self, view, if_pos ho]
  · rw [Function.update_of_ne hn]
    unfold view
    rw [hother ⟨k.namespace, name⟩ fun h => hn (congrArg PodKey.name h)]

theorem Serves.sameBut {own : Option WatchId} (h : s.Serves w ns o q) (ht : s.SameBut own t)
    (hw : own ≠ some w) : t.Serves w ns o q := (ht.watches w hw).trans h

/-- Reading takes the first event, if there is one. -/
theorem Serves.next (h : s.Serves w ns o q) :
    ∃ q', (s.next w).1.Serves w ns o q' ∧ (s.next w).2.event?.toList ++ q' = q := by
  cases q with
  | nil =>
    obtain ⟨hd, hq⟩ := h.next_nil
    exact ⟨[], hq, by rw [hd]; rfl⟩
  | cons e q =>
    obtain ⟨hd, hq⟩ := h.next_cons
    exact ⟨q, hq, by rw [hd]; rfl⟩

/-- From `s` to `t` the watch is sent the events `news`, which tell what happens to its pods. -/
structure Reports (s t : PodStore) (ns : String) (o : ListOptions) (news : List WatchEvent) :
    Prop where
  replays : replay (s.view ns o) news = t.view ns o
  faithful : Faithful (s.view ns o) news

theorem Reports.nil (h : t.pods = s.pods) : Reports s t ns o [] where
  replays := (view_congr fun _ _ => by rw [h]).symm
  faithful := trivial

theorem Reports.trans {u : PodStore} {news news' : List WatchEvent} (h : Reports s t ns o news)
    (h' : Reports t u ns o news') : Reports s u ns o (news ++ news') where
  replays := by rw [replay_append, h.replays, h'.replays]
  faithful := h.faithful.append (h.replays.symm ▸ h'.faithful)

/-- Every call tells the watch what it does to the watch's pods. -/
theorem Effect.serves (h : Effect k s t) (hw : s.Serves w ns o q) :
    ∃ news, t.Serves w ns o (q ++ news) ∧ Reports s t ns o news := by
  cases h with
  | quiet h =>
    exact ⟨[], by simpa using hw.sameBut h (by simp), .nil h.pods⟩
  | opened sub hp ht =>
    exact ⟨[], by simpa using hw.append _ ht, .nil hp⟩
  | told e hself hother ht =>
    obtain ⟨p, he, hn⟩ := hself.pod?_eq
    have hreports : o.reports e = o.name.all (· = k.name) := by
      simp [ListOptions.reports, ListOptions.covers, he, hn]
    have hsent := hw.notify ht
    by_cases hr : ns = k.namespace ∧ o.reports e
    · rw [if_pos hr] at hsent
      obtain ⟨rfl, ho⟩ := hr
      rw [hreports] at ho
      refine ⟨[e], hsent, ?_, hself.fits (by rw [view, if_pos ho]), trivial⟩
      rw [view_update ho hother]
      exact hself.revise
    · rw [if_neg hr] at hsent
      refine ⟨[], by simpa using hsent, (view_congr fun name ho => hother _ ?_).symm, trivial⟩
      -- the pod that changes is none of the watch's
      rintro rfl
      exact hr ⟨rfl, hreports ▸ ho⟩

def received (w : WatchId) (s : PodStore) : List StoreAct → List WatchEvent
  | [] => []
  | a :: acts =>
    (if a = .next w then (s.next w).2.event?.toList else []) ++ (s.act a).received w acts

theorem Serves.act (h : s.Serves w ns o q) (hs : s.Keyed) (ha : a.isOrdinary) (hw : a ≠ .stop w) :
    ∃ news q', (s.act a).Serves w ns o q' ∧ Reports s (s.act a) ns o news ∧
      (if a = .next w then (s.next w).2.event?.toList else []) ++ q' = q ++ news := by
  cases a with
  | call c =>
    obtain ⟨news, ht, hnews⟩ := (effect_call hs c).serves h
    exact ⟨news, q ++ news, ht, hnews, by simp⟩
  | next v =>
    have hsame := SameBut.next s v
    by_cases hv : v = w
    · subst hv
      obtain ⟨q', hq', hread⟩ := h.next
      exact ⟨[], q', hq', .nil hsame.pods, by simpa using hread⟩
    · refine ⟨[], q, h.sameBut hsame ?_, .nil hsame.pods, by simp [hv]⟩
      exact fun he => hv (Option.some.inj he)
  | stop v =>
    have hsame := SameBut.stop s v
    refine ⟨[], q, h.sameBut hsame ?_, .nil hsame.pods, by simp⟩
    exact fun he => hw (congrArg _ (Option.some.inj he))
  | insert => cases ha
  | inject => cases ha
  | closeWatches => cases ha

/-- What is read of a watch, and what can still be read, is what it had to be read before and what
has been reported since. -/
theorem Serves.perform (h : s.Serves w ns o q) (hs : s.Keyed) {acts : List StoreAct}
    (ha : ∀ a ∈ acts, a.isOrdinary ∧ a ≠ .stop w) :
    ∃ news, s.received w acts ++ (s.perform acts).unread w = q ++ news ∧
      Reports s (s.perform acts) ns o news := by
  induction acts generalizing s q with
  | nil => exact ⟨[], h.unread.trans (List.append_nil q).symm, .nil rfl⟩
  | cons a acts ih =>
    obtain ⟨⟨ha₀, hw⟩, hacts⟩ := List.forall_mem_cons.mp ha
    obtain ⟨news, q', hq', hnews, hread⟩ := h.act hs ha₀ hw
    obtain ⟨news', hall, hnews'⟩ := ih hq' (keyed_act hs a) hacts
    refine ⟨news ++ news', ?_, hnews.trans hnews'⟩
    calc s.received w (a :: acts) ++ (s.perform (a :: acts)).unread w
        = (if a = .next w then (s.next w).2.event?.toList else []) ++
            ((s.act a).received w acts ++ ((s.act a).perform acts).unread w) :=
          List.append_assoc _ _ _
      _ = q ++ (news ++ news') := by rw [hall, ← List.append_assoc, hread, List.append_assoc]

/-- What a watch is sent, read or not, turns the pods that it was for when it was opened into those
that it is for now, and tells of nothing that cannot have happened. -/
theorem watch_replays_store (history acts : List StoreAct) (ns : String) (o : ListOptions)
    {s₀ s₁ : PodStore} {w : WatchId} (hs₀ : s₀ = ({} : PodStore).perform history)
    (hw : s₀.watch ns o = (s₁, w)) (ha : ∀ a ∈ acts, a.isOrdinary ∧ a ≠ .stop w) :
    replay (s₀.view ns o) (s₁.received w acts ++ (s₁.perform acts).unread w) =
        (s₁.perform acts).view ns o ∧
      Faithful (s₀.view ns o) (s₁.received w acts ++ (s₁.perform acts).unread w) := by
  have hkeyed : s₁.Keyed := by
    have := keyed_call (hs₀ ▸ keyed_perform keyed_empty history) (.watch ns o)
    rwa [show (s₀.call (.watch ns o)).1 = (s₀.watch ns o).1 from rfl, hw] at this
  have hserves : s₁.Serves w ns o [] := by
    have : (s₀.watch ns o).1.Serves (s₀.watch ns o).2 ns o [] := List.getElem?_concat_length
    rwa [hw] at this
  have hpods : s₁.view ns o = s₀.view ns o := by
    rw [show s₁ = (s₀.watch ns o).1 by rw [hw]]
    exact view_congr fun _ _ => rfl
  obtain ⟨news, hall, hnews⟩ := hserves.perform hkeyed ha
  rw [hall, List.nil_append, ← hpods]
  exact ⟨hnews.replays, hnews.faithful⟩

/-- While all pods of a namespace are watched, the pod that is there begins to run and is deleted,
another one is created and cannot be created again. -/
def sampleTraffic : List StoreAct :=
  [.call (.updateStatus "ns"
      { metadata := { name := some "a" }, status := some Phase.running.toStatus }),
    .call (.create "ns" { metadata := { name := some "b" } }), .next ⟨0⟩,
    .call (.create "ns" { metadata := { name := some "b" } }),
    .call (.create "other" { metadata := { name := some "b" } }), .call (.delete "ns" "a")]

theorem watch_replays_store_sample :
    let s₀ := ({} : PodStore).insert
      { metadata := { name := some "a", «namespace» := some "ns" } }
    let s₁ := (s₀.watch "ns" {}).1
    let events := s₁.received ⟨0⟩ sampleTraffic ++ (s₁.perform sampleTraffic).unread ⟨0⟩
    (∀ a ∈ sampleTraffic, a.isOrdinary ∧ a ≠ .stop ⟨0⟩) ∧ events.length = 3 ∧
      replay (s₀.view "ns" {}) events = (s₁.perform sampleTraffic).view "ns" {} ∧
      Faithful (s₀.view "ns" {}) events := by
  intro s₀ s₁ events
  have ha : ∀ a ∈ sampleTraffic, a.isOrdinary ∧ a ≠ .stop ⟨0⟩ := by decide
  exact ⟨ha, rfl, watch_replays_store [.insert _] sampleTraffic "ns" {} rfl rfl ha⟩

end PodStore

end PodPipeline
