import PodPipeline.Proofs.Pod.Fingerprint
import PodPipeline.Proofs.Scene.Incarnation
import PodPipeline.Proofs.Scene.Log
import PodPipeline.Proofs.Scene.Repetition
import PodPipeline.Proofs.Store.Keeping

/-! The pod that a run has created, as later runs of the step find it: unless somebody deletes or
replaces it, it is still the pod of the step but for its status. -/
namespace PodPipeline

/-- Whether a watch is opened and a look-up finds the pod, whatever its status is. -/
def Exchange.Finds (pod : Pod) : Exchange → Prop
  | ⟨.watch _ _, answer⟩ => ∃ w, answer = some (.ok w)
  | ⟨.get _ _, answer⟩ => ∃ status, answer = some (.ok (pod.withStatus status))
  | _ => True

theorem Exchange.Finds.of_found {x : Exchange} {pod p : Pod} (h : x.Finds pod)
    (hx : x.found? = some p) : ∃ status, p = pod.withStatus status := by
  obtain ⟨c, answer⟩ := x
  cases c with
  | get ns name =>
    obtain ⟨status, rfl⟩ := h
    cases hx
    exact ⟨status, rfl⟩
  | _ => cases hx

/-- The run waits for the events of its watch, or has returned an outcome. -/
def RunStage.HasGoneOn (w : WatchId) (stage : RunStage) : Prop :=
  (∃ a watcher, stage = .active a ∧ a.await = .events w watcher) ∨ ∃ o, stage = .finished (.ok o)

namespace PodStep

variable {p : PodStep} {own pod : Pod} {s : PodStore} {now : Instant} {stage : RunStage}
  {calls : List Exchange} {await : Await}

/-- No call of a run deletes a pod. -/
theorem keeps_of_awaited {c : ClientCall} {phase : CallPhase} (k : PodKey)
    (h : p.awaited pod await = some (c, phase)) : (StoreAct.call c).keeps k := by
  rcases awaited_eq h with rfl | rfl | rfl <;> rfl

/-- The pod that the step creates stands there as it was built. -/
theorem holds_of_creates (hp : p.pod = .ok pod) {c : ClientCall} {phase : CallPhase}
    (ha : p.awaited pod await = some (c, phase)) {k : PodKey}
    (h : (Exchange.mk c (some (s.call c).2)).creates k) : (s.call c).1.Holds k pod := by
  obtain ⟨ns, q, hc, -, -, hstored⟩ := PodStore.creates_call h
  rcases awaited_eq ha with rfl | rfl | rfl
  · cases hc
  · cases hc
  · cases hc
    rw [inNamespace_pod hp] at hstored
    exact ⟨pod.status, hstored⟩

/-- While the pod stands in its place, a run finds it. -/
theorem finds_of_holds (h : s.Holds p.key pod) {c : ClientCall} {phase : CallPhase}
    (ha : p.awaited own await = some (c, phase)) :
    (Exchange.mk c (some (s.call c).2)).Finds pod := by
  rcases awaited_eq ha with rfl | rfl | rfl
  · exact ⟨_, rfl⟩
  · obtain ⟨status, hs⟩ := h
    exact ⟨status, congrArg some (PodStore.get_of_find? hs)⟩
  · trivial

def rejoiningCalls (p : PodStep) (pod : Pod) (w : WatchId) (status : Option PodStatus) :
    List Exchange :=
  [⟨p.watchCall, some (.ok w)⟩, ⟨p.getCall, some (.ok (pod.withStatus status))⟩]

theorem Path.rejoins (h : Path p own calls await) (hf : ∀ x ∈ calls, x.Finds pod) :
    calls = [] ∧ await = .watch ∨
      (∃ w, calls = [⟨p.watchCall, some (.ok w)⟩] ∧ await = .lookup w) ∨
      ∃ w status watcher, calls = p.rejoiningCalls pod w status ∧ await = .events w watcher := by
  cases h with
  | watch => exact .inl ⟨rfl, rfl⟩
  | lookup => exact .inr (.inl ⟨_, rfl, rfl⟩)
  | found =>
    obtain ⟨status, hs⟩ := hf _ (List.mem_cons_of_mem _ List.mem_cons_self)
    cases hs
    exact .inr (.inr ⟨_, status, _, rfl, rfl⟩)
  | create | reread | created | refound =>
    obtain ⟨status, hs⟩ := hf _ (List.mem_cons_of_mem _ List.mem_cons_self)
    cases hs

/-- A call that finds what it looks for has been answered. -/
theorem Path.answered (h : Path p own calls await) {c : ClientCall} {phase : CallPhase}
    {answer : Option (ClientResult c.Value)} (ha : p.awaited own await = some (c, phase))
    (hf : ∀ x ∈ calls ++ [Exchange.mk c answer], x.Finds pod) : ∃ v, answer = some (.ok v) := by
  have hlast := hf ⟨c, answer⟩ (List.mem_append_right _ (List.mem_singleton_self _))
  rcases h.rejoins fun x hx => hf x (List.mem_append_left _ hx) with
    ⟨-, rfl⟩ | ⟨w, -, rfl⟩ | ⟨w, status, watcher, -, rfl⟩
  · cases ha
    exact hlast
  · cases ha
    obtain ⟨status, hs⟩ := hlast
    exact ⟨_, hs⟩
  · cases ha

theorem Path.ongoing_eq_nil {r : ActiveRun} (h : Path p r.pod calls r.await)
    (hf : ∀ x ∈ calls ++ p.ongoing r, x.Finds pod) : p.ongoing r = [] := by
  cases hb : r.begun with
  | false => simp [ongoing, hb]
  | true =>
    cases ha : p.awaited r.pod r.await with
    | none => simp [ongoing, ha]
    | some c =>
      obtain ⟨v, hv⟩ := h.answered ha (by simpa [ongoing, hb, ha] using hf)
      cases hv

theorem Path.creates_nothing (h : Path p own calls await) (hf : ∀ x ∈ calls, x.Finds pod) :
    ∀ x ∈ calls, x.isCreate = false := by
  rcases h.rejoins hf with ⟨rfl, -⟩ | ⟨w, rfl, -⟩ | ⟨w, status, watcher, rfl, -⟩
  · simp
  · simp [Exchange.isCreate, watchCall]
  · simp [rejoiningCalls, Exchange.isCreate, watchCall, getCall]

/-- A run all of whose look-ups find the pod creates none, and goes on with it. -/
theorem Traced.rejoins (h : Traced p own stage calls) (hf : ∀ x ∈ calls, x.Finds pod) :
    (∀ x ∈ calls, x.isCreate = false) ∧
      (stage.rank ≤ 3 → ¬stage.WasCut p.sectionName →
        ∃ w status, calls = p.rejoiningCalls pod w status ∧ stage.HasGoneOn w) := by
  cases h with
  | idle => exact ⟨by simp, fun hr => absurd hr (by simp [RunStage.rank])⟩
  | unstarted hi => exact ⟨by simp, fun _ hc => absurd hi hc⟩
  | active hp _ hpath =>
    subst hp
    have hnil := hpath.ongoing_eq_nil hf
    rw [hnil, List.append_nil] at hf ⊢
    refine ⟨hpath.creates_nothing hf, fun hr _ => ?_⟩
    rcases hpath.rejoins hf with ⟨-, ha⟩ | ⟨w, -, ha⟩ | ⟨w, status, watcher, hc, ha⟩
    · rw [RunStage.rank_active ha] at hr
      exact absurd hr (by decide)
    · rw [RunStage.rank_active ha] at hr
      exact absurd hr (by simp [Await.rank])
    · exact ⟨w, status, hc, .inl ⟨_, watcher, rfl, ha⟩⟩
  | cut hp hpath hi =>
    subst hp
    have hnil := hpath.ongoing_eq_nil hf
    rw [hnil, List.append_nil] at hf ⊢
    exact ⟨hpath.creates_nothing hf, fun _ hc => absurd hi hc⟩
  | failed hpath ha =>
    obtain ⟨v, hv⟩ := hpath.answered ha hf
    cases hv
  | returned hpath =>
    refine ⟨hpath.creates_nothing hf, fun _ _ => ?_⟩
    rcases hpath.rejoins hf with ⟨-, ha⟩ | ⟨w, -, ha⟩ | ⟨w, status, watcher, hc, -⟩
    · cases ha
    · cases ha
    · exact ⟨w, status, hc, .inr ⟨_, rfl⟩⟩

/-- If all calls are answered at once, each small step brings a run nearer to its wait. -/
theorem Moves.rank_le {σ : Type} {client : PodClient σ} {world : σ} {t : RunTick σ}
    (h : p.Moves client now stage world t)
    (hanswers : ∀ c begun x, (client.poll now c begun x).2 ≠ none) :
    t.stage.rank ≤ max 3 (stage.rank - 1) := by
  have hlow {n m : Nat} (hn : n ≤ 3) : n ≤ max 3 m := Nat.le_trans hn (Nat.le_max_left 3 m)
  cases h with
  | waiting _ _ hw => exact absurd (congrArg Prod.snd hw) (hanswers _ _ _)
  | begun => exact Nat.le_max_right 3 5
  | opened _ ha =>
    rw [RunStage.rank_active ha]
    exact Nat.le_max_right 3 4
  | rested ho =>
    rw [RunStage.rank_of_isOver ho]
    exact Nat.zero_le _
  | blocked _ ha =>
    have hone := RunStage.rank_active ha
    exact hlow (Nat.le_trans (Nat.le_of_eq hone) (Nat.le_add_left 1 2))
  | missing => exact hlow (Nat.le_refl 3)
  | conflicted => exact hlow (Nat.le_succ 2)
  | resumed | created | read => exact hlow (show 1 ≤ 3 by decide)
  | refused | undated | interrupted | brokenDown | failed | settled | ended | decided =>
    exact hlow (Nat.zero_le 3)

end PodStep

namespace Runner

variable {r : Runner} {s : PodStore} {k : PodKey} {pod : Pod}

theorem holds_tick (h : s.Holds k pod) (r : Runner) (now : Instant) :
    (r.tick now s).1.Holds k pod := by
  have hm := r.step.tick_moves (Recorded.client PodStore.client) now r.stage ⟨s, r.record⟩
  refine hm.keeps (P := fun x => x.world.Holds k pod) (fun a c phase ha _ x hx => ?_)
    (fun a w _ _ x hx => ⟨hx.next w, hx.stop w⟩) h
  exact hx.call (PodStep.keeps_of_awaited k ha)

theorem holds_drop (h : s.Holds k pod) (r : Runner) : (r.drop s).1.Holds k pod :=
  h.of_find? (congrArg (·.find? k) (sameBut_drop r s).pods)

/-- A run that has created its pod leaves it in its place. -/
theorem creates_tick (hr : r.Reached) (hp : r.step.pod = .ok pod) (now : Instant)
    (h : r.record.calls.any (·.creates k) → s.Holds k pod) :
    (r.tick now s).2.record.calls.any (·.creates k) → (r.tick now s).1.Holds k pod := by
  obtain ⟨ctx, hreaches⟩ := hr
  have htraced := (hreaches s).traced hp
  have hm := r.step.tick_moves (Recorded.client PodStore.client) now r.stage ⟨s, r.record⟩
  refine hm.keeps (P := fun x => x.record.calls.any (·.creates k) → x.world.Holds k pod)
    (fun a c phase ha hs x hx hany => ?_)
    (fun a w _ _ x hx => ⟨fun hany => (hx hany).next w, fun hany => (hx hany).stop w⟩) h
  obtain ⟨e, he, hcreates⟩ := List.any_eq_true.mp hany
  rcases Recorded.mem_calls_poll he with hold | rfl
  · exact (hx (List.any_eq_true.mpr ⟨e, hold, hcreates⟩)).call (PodStep.keeps_of_awaited k ha)
  · rw [hs] at htraced
    rw [htraced.active_inv.1] at ha
    exact PodStep.holds_of_creates hp ha hcreates

/-- While its pod stands in its place, the calls of a run find it. -/
theorem finds_tick (now : Instant)
    (h : s.Holds r.key pod ∧ ∀ x ∈ r.record.calls, x.Finds pod) :
    (r.tick now s).1.Holds r.key pod ∧ ∀ x ∈ (r.tick now s).2.record.calls, x.Finds pod := by
  have hm := r.step.tick_moves (Recorded.client PodStore.client) now r.stage ⟨s, r.record⟩
  refine hm.keeps
    (P := fun x : Recorded PodStore => x.world.Holds r.key pod ∧
      ∀ e ∈ x.record.calls, e.Finds pod)
    (fun a c phase ha _ x hx => ⟨hx.1.call (PodStep.keeps_of_awaited r.key ha), fun e he => ?_⟩)
    (fun a w _ _ x hx => ⟨⟨hx.1.next w, hx.2⟩, ⟨hx.1.stop w, hx.2⟩⟩) h
  rcases Recorded.mem_calls_poll he with hold | rfl
  · exact hx.2 e hold
  · exact PodStep.finds_of_holds hx.1 ha

theorem rank_tick (r : Runner) (now : Instant) (s : PodStore) :
    (r.tick now s).2.stage.rank ≤ max 3 (r.stage.rank - 1) :=
  (r.step.tick_moves (Recorded.client PodStore.client) now r.stage ⟨s, r.record⟩).rank_le
    fun _ _ _ => Option.some_ne_none _

/-- A run that has found nothing but its own pod says that it goes on with it, and no more. -/
theorem Tells.of_finds {log : List LogEvent} (h : r.Tells log) (hp : r.step.pod = .ok pod)
    (hf : ∀ x ∈ r.record.calls, x.Finds pod) : log.filter (·.isResumption) =
      r.record.found.map fun p => .resuming r.step.sectionName p.name p.phase := by
  rw [h.found pod hp, List.map_eq_flatMap]
  refine List.flatMap_congr fun q hq => ?_
  obtain ⟨x, hx, hxq⟩ := List.mem_filterMap.mp hq
  obtain ⟨status, rfl⟩ := (hf x hx).of_found hxq
  unfold PodStep.resumption
  rw [if_pos (pod.sameSpec_withStatus status)]

end Runner

/-- Whether the pod at `k` is neither deleted nor replaced by another. Runs do neither. -/
def Act.keeps (k : PodKey) : Act → Bool
  | .other a => a.keeps k
  | _ => true

namespace Scene

variable {s : Scene} {k : PodKey} {a : Act} {acts : List Act} {i j : Nat} {r r' : Runner}
  {pod : Pod}

theorem holds_act (h : s.store.Holds k pod) (ha : a.keeps k) : (s.act a).store.Holds k pod := by
  have hupdate (j : Nat) {f : Runner → PodStore → PodStore × Runner}
      (hf : ∀ r, (f r s.store).1.Holds k pod) : (s.update j f).store.Holds k pod := by
    cases hj : s.runs[j]? with
    | none =>
      rw [update_of_none hj]
      exact h
    | some r =>
      rw [(update_self hj).2]
      exact hf r
  cases a with
  | other a =>
    rcases s.act_other a with hs | ⟨-, hs⟩
    · rw [hs]
      exact h
    · rw [hs]
      exact h.act ha
  | launch p ctx => exact h
  | tick j now => exact hupdate j fun r => Runner.holds_tick h r now
  | cancel j => exact hupdate j fun _ => h
  | abandon j => exact hupdate j fun _ => h
  | drop j => exact hupdate j fun r => Runner.holds_drop h r

/-- What is not a small step of a run leaves its record as it is, and does not take it back. -/
theorem act_of_not_ticks (hr : s.runs[j]? = some r) (ha : a.ticks j = false) :
    ∃ r', (s.act a).runs[j]? = some r' ∧ r'.record = r.record ∧ r'.stage.rank ≤ r.stage.rank := by
  have hupdate (i : Nat) {f : Runner → PodStore → PodStore × Runner}
      (hf : i = j → (f r s.store).2.record = r.record ∧
        (f r s.store).2.stage.rank ≤ r.stage.rank) :
      ∃ r', (s.update i f).runs[j]? = some r' ∧ r'.record = r.record ∧
        r'.stage.rank ≤ r.stage.rank := by
    by_cases hi : i = j
    · obtain ⟨hrec, hrank⟩ := hf hi
      subst hi
      exact ⟨_, (update_self hr).1, hrec, hrank⟩
    · exact ⟨r, (runs_update_of_ne hi).trans hr, rfl, Nat.le_refl _⟩
  cases a with
  | other a => exact ⟨r, by rw [runs_act_other, hr], rfl, Nat.le_refl _⟩
  | launch p ctx =>
    have hj := (List.getElem?_eq_some_iff.mp hr).1
    exact ⟨r, (List.getElem?_append_left hj).trans hr, rfl, Nat.le_refl _⟩
  | tick i now => exact hupdate i fun hi => by simp [Act.ticks, hi] at ha
  | cancel i => exact hupdate i fun _ => ⟨rfl, Nat.le_of_eq (RunStage.rank_mapSignal _ r.stage)⟩
  | abandon i => exact hupdate i fun _ => ⟨rfl, Nat.le_of_eq (RunStage.rank_mapSignal _ r.stage)⟩
  | drop i =>
    refine hupdate i fun _ => ?_
    unfold Runner.drop
    split
    · exact ⟨rfl, Nat.le_refl _⟩
    · exact ⟨rfl, Nat.zero_le _⟩

/-- Every small step of a run brings it nearer to its wait, and nothing takes it back. -/
theorem rank_perform (acts : List Act) (hr : s.runs[j]? = some r) : ∃ r',
    (s.perform acts).runs[j]? = some r' ∧
      r'.stage.rank ≤ max 3 (r.stage.rank - acts.countP (·.ticks j)) := by
  induction acts generalizing s r with
  | nil => exact ⟨r, hr, Nat.le_max_right 3 _⟩
  | cons a acts ih =>
    obtain ⟨r₁, hr₁, hrank₁⟩ : ∃ r₁, (s.act a).runs[j]? = some r₁ ∧
        r₁.stage.rank ≤ max 3 (r.stage.rank - if a.ticks j then 1 else 0) := by
      cases ht : a.ticks j with
      | false =>
        obtain ⟨r₁, hr₁, -, hrank⟩ := act_of_not_ticks hr ht
        exact ⟨r₁, hr₁, Nat.le_trans hrank (Nat.le_max_right 3 _)⟩
      | true =>
        obtain ⟨now, rfl⟩ := Act.ticks_iff.mp ht
        exact ⟨_, (update_self (f := (·.tick now)) hr).1, r.rank_tick now s.store⟩
    obtain ⟨r', hr', hrank⟩ := ih hr₁
    refine ⟨r', hr', ?_⟩
    rw [List.countP_cons]
    omega

/-- What the small steps of a run preserve, and others as far as pods keep their places, holds of
the run and of the store in the end. -/
theorem kept_perform {P : PodStore → Record → Prop} (hr : s.runs[i]? = some r)
    (hreached : r.Reached) (ha : ∀ a ∈ acts, a.keeps r.key)
    (htick : ∀ (now : Instant) (store : PodStore) (r' : Runner), r'.Reached → r'.step = r.step →
      P store r'.record → P (r'.tick now store).1 (r'.tick now store).2.record)
    (hother : ∀ (store store' : PodStore) (rec : Record),
      (∀ pod, store.Holds r.key pod → store'.Holds r.key pod) → P store rec → P store' rec)
    (h : P s.store r.record) : ∃ r', (s.perform acts).runs[i]? = some r' ∧ r'.step = r.step ∧
      P (s.perform acts).store r'.record := by
  induction acts generalizing s r with
  | nil => exact ⟨r, hr, rfl, h⟩
  | cons a acts ih =>
    obtain ⟨ha₀, ha'⟩ := List.forall_mem_cons.mp ha
    obtain ⟨r₁, hr₁, hgoes⟩ := act_goes hr a
    have hstep := hgoes.step_eq
    have hP : P (s.act a).store r₁.record := by
      cases ht : a.ticks i with
      | false =>
        obtain ⟨r₂, hr₂, hrec, -⟩ := act_of_not_ticks hr ht
        obtain rfl := Option.some.inj (hr₁.symm.trans hr₂)
        rw [hrec]
        exact hother s.store _ _ (fun pod hpod => holds_act hpod ha₀) h
      | true =>
        obtain ⟨now, rfl⟩ := Act.ticks_iff.mp ht
        obtain ⟨hself, hstore⟩ := update_self (f := (·.tick now)) hr
        obtain rfl := Option.some.inj (hr₁.symm.trans hself)
        have := htick now s.store r hreached rfl h
        rwa [← hstore] at this
    have hkey : r₁.key = r.key := congrArg PodStep.key hstep
    obtain ⟨r', hr', hstep', hP'⟩ := ih hr₁ (hgoes.reached hreached) (hkey ▸ ha')
      (hstep ▸ htick) (hkey ▸ hother) hP
    exact ⟨r', hr', hstep'.trans hstep, hP'⟩

/-- What has become of a run that was launched when the pod of its step was there. -/
structure Rejoins (pod : Pod) (ctx : RunContext) (late : List Act) (j : Nat) (log : List LogEvent)
    (r : Runner) : Prop where
  calls : ∀ x ∈ r.record.calls, x.isCreate = false
  logs : log.filter (·.isResumption) =
    r.record.found.map fun p => .resuming r.step.sectionName p.name p.phase
  goesOn : 3 ≤ late.countP (·.ticks j) → ¬r.stage.WasCut r.step.sectionName →
    ∃ w status, r.record.calls = r.step.rejoiningCalls pod w status ∧ r.stage.HasGoneOn w
  uncut : ctx = {} → (∀ a ∈ late, a.interrupts j = false) →
    ¬r.stage.WasCut r.step.sectionName

theorem rejoins_of_holds {p : PodStep} (hp : p.pod = .ok pod) (hs : s.store.Holds p.key pod)
    (ctx : RunContext) {late : List Act} (ha : ∀ a ∈ late, a.keeps p.key) :
    ∃ r, (s.perform (.launch p ctx :: late)).runs[s.runs.length]? = some r ∧ r.step = p ∧
      Rejoins pod ctx late s.runs.length (log s.runs.length s (.launch p ctx :: late)) r := by
  have hr₀ : (s.act (.launch p ctx)).runs[s.runs.length]? = some ⟨p, .idle ctx, {}⟩ :=
    List.getElem?_concat_length
  obtain ⟨r, hr, hstep, -, hfinds⟩ := kept_perform hr₀ (Runner.reached_launched p ctx) ha
    (P := fun store rec => store.Holds p.key pod ∧ ∀ x ∈ rec.calls, x.Finds pod)
    (fun now store r₁ _ hstep h => by
      have hkey : p.key = r₁.key := congrArg PodStep.key hstep.symm
      rw [hkey] at h ⊢
      exact Runner.finds_tick now h)
    (fun _ _ _ hkept h => ⟨hkept pod h.1, h.2⟩) ⟨hs, by simp⟩
  obtain ⟨r₁, hr₁, hrank⟩ := rank_perform late hr₀
  obtain rfl := Option.some.inj (hr₁.symm.trans hr)
  have htells : r₁.Tells (log s.runs.length s (.launch p ctx :: late)) :=
    log_perform [] (fun _ _ _ _ _ h hl => h.tells hl) Runner.tells_launched
      (fun r₂ hr₂ => by
        obtain rfl := Option.some.inj (hr₀.symm.trans hr₂)
        exact Runner.tells_launched p ctx)
      (fun _ => rfl) hr
  subst hstep
  obtain ⟨ctx', hreaches⟩ := htells.reached
  obtain ⟨hcalls, hgoes⟩ := ((hreaches {}).traced hp).rejoins hfinds
  refine ⟨r₁, hr, rfl, hcalls, htells.of_finds hp hfinds, fun hthree hcut => ?_,
    fun hctx hi => ?_⟩
  · refine hgoes ?_ hcut
    have : r₁.stage.rank ≤ max 3 (6 - late.countP (·.ticks s.runs.length)) := hrank
    omega
  · exact (unhindered_perform hi hr₀ hctx hr).not_wasCut

/-- Once a run has created its pod, and as long as nobody deletes the pod or puts another in its
place, the pod stands there as it was built, but for its status, and is known as the pod of the
step. Every run of the step that is launched then creates nothing. It finds the pod, says that it
goes on with it and does so, without a warning. -/
theorem own_pod_is_rejoined {early between : List Act} {i : Nat} {r r' : Runner} {pod : Pod}
    (hr : (perform {} early).runs[i]? = some r) (hp : r.step.pod = .ok pod)
    (hbefore : r.hasCreated = false) (hkeep : ∀ a ∈ between, a.keeps r.key)
    (hs : s = perform {} (early ++ between)) (hr' : s.runs[i]? = some r')
    (hafter : r'.hasCreated) :
    (∃ status, s.store.pods.find? r.key = some (pod.withStatus status) ∧
      pod.sameSpec (pod.withStatus status)) ∧
      ∀ (ctx : RunContext) (late : List Act), (∀ a ∈ late, a.keeps r.key) →
        ∃ q, (s.perform (.launch r.step ctx :: late)).runs[s.runs.length]? = some q ∧
          q.step = r.step ∧ Rejoins pod ctx late s.runs.length
            (log s.runs.length s (.launch r.step ctx :: late)) q := by
  obtain ⟨r₁, hr₁, hstep, hholds⟩ := kept_perform hr (tells_of_start early hr).reached hkeep
    (P := fun store rec => rec.calls.any (·.creates r.key) → store.Holds r.key pod)
    (fun now store r₁ hreached hstep h => Runner.creates_tick hreached (hstep ▸ hp) now h)
    (fun _ _ _ hkept h hc => hkept pod (h hc))
    (fun hc => absurd (hbefore.symm.trans hc) Bool.false_ne_true)
  rw [show (perform {} early).perform between = s from hs ▸ List.foldl_append.symm] at hr₁ hholds
  obtain rfl := Option.some.inj (hr₁.symm.trans hr')
  have hkey : r₁.key = r.key := congrArg PodStep.key hstep
  have hstored : s.store.Holds r.key pod := hholds (hkey ▸ hafter)
  refine ⟨?_, fun ctx late ha => rejoins_of_holds hp hstored ctx ha⟩
  obtain ⟨status, hfind⟩ := hstored
  exact ⟨status, hfind, pod.sameSpec_withStatus status⟩

/-- A run is about to create its pod. -/
def sampleSearch : List Act := .launch .sample {} :: List.replicate 3 (.tick 0 .zero)

/-- The run creates its pod. Somebody reports its status with a pod that has nothing else of it, and
puts up and takes down a pod of another name. -/
def sampleTraffic : List Act :=
  [.tick 0 .zero,
    .other (.call (.updateStatus "ns"
      { metadata := { name := some "unit-pod", labels := some (.ofList [("job", "other")]) }
        status := some Phase.running.toStatus })),
    .other (.insert { metadata := { name := some "other", «namespace» := some "ns" } }),
    .other (.call (.delete "ns" "other"))]

theorem own_pod_is_rejoined_sample :
    let s := perform {} (sampleSearch ++ sampleTraffic)
    let late : List Act := List.replicate 3 (.tick 1 .zero)
    ∃ pod q w status, PodStep.sample.pod = .ok pod ∧
      (s.perform (.launch .sample {} :: late)).runs[1]? = some q ∧
      q.record.calls = PodStep.sample.rejoiningCalls pod w status ∧
      (log 1 s (.launch .sample {} :: late)).filter (·.isResumption) =
        [.resuming "unit" "unit-pod" (pod.withStatus status).phase] := by
  intro s late
  obtain ⟨pod, hp⟩ : ∃ pod, PodStep.sample.pod = .ok pod := ⟨_, rfl⟩
  have hruns : (∃ r, (perform {} sampleSearch).runs[0]? = some r ∧ r.step = .sample ∧
      r.hasCreated = false) ∧ ∃ r', s.runs[0]? = some r' ∧ r'.hasCreated :=
    ⟨⟨_, rfl, rfl, rfl⟩, ⟨_, rfl, rfl⟩⟩
  obtain ⟨⟨r, hr, hstep, hbefore⟩, r', hr', hafter⟩ := hruns
  have hkey : r.key = ⟨"ns", "unit-pod"⟩ := congrArg PodStep.key hstep
  obtain ⟨-, h⟩ := own_pod_is_rejoined hr (hstep ▸ hp) hbefore (hkey ▸ by decide) rfl hr' hafter
  obtain ⟨q, hq, hqs, hrejoins⟩ := h {} late (hkey ▸ by decide)
  have hcut : ¬q.stage.WasCut q.step.sectionName := hrejoins.uncut rfl (by decide)
  obtain ⟨w, status, hcalls, -⟩ := hrejoins.goesOn (by decide) hcut
  have hlogs := hrejoins.logs
  rw [Record.found, hcalls] at hlogs
  rw [hqs, hstep] at hcalls hlogs
  rw [hstep] at hq
  refine ⟨pod, q, w, status, hp, hq, hcalls, hlogs.trans ?_⟩
  have hname : (pod.withStatus status).name = "unit-pod" := PodStep.name_pod hp
  exact congrArg (fun n => [LogEvent.resuming "unit" n (pod.withStatus status).phase]) hname

end Scene

end PodPipeline
