import PodPipeline.Cluster.Store
import PodPipeline.Proofs.Run.Moves
import PodPipeline.Proofs.Run.Record

/-! The calls that a run makes, whatever the client answers: a watch, a look-up, at most one
creation and at most one more look-up, each only after an answer that asks for it. -/
namespace PodPipeline

variable {σ : Type}

namespace PodStep

/-- The calls of a run in their order, with the part of the run that each belongs to. -/
def protocol (s : PodStep) (pod : Pod) : List (ClientCall × CallPhase) :=
  [(s.watchCall, .watch), (s.getCall, .lookup), (.create s.namespace pod, .create),
    (s.getCall, .lookup)]

end PodStep

/-- Whether the answer to the `i`th call of a run asks for another call: a watch that is opened, a
look-up that finds nothing, a creation that finds the pod there. -/
def Exchange.leadsOn (i : Nat) (x : Exchange) : Bool :=
  match i with
  | 0 => x.answer.isSome && x.error?.isNone
  | 1 => x.error?.any (·.isNotFound)
  | 2 => x.error?.any (·.isAlreadyExists)
  | _ => false

namespace PodStep

variable {s : PodStep} {pod : Pod}

/-- The calls, all of them answered, that bring a run to what it waits for. -/
inductive Path (s : PodStep) (pod : Pod) : List Exchange → Await → Prop where
  | watch : Path s pod [] .watch
  | lookup {w} : Path s pod [⟨s.watchCall, some (.ok w)⟩] (.lookup w)
  | create {w e} (he : e.isNotFound) :
    Path s pod [⟨s.watchCall, some (.ok w)⟩, ⟨s.getCall, some (.error e)⟩] (.create w)
  | reread {w e f} (he : e.isNotFound) (hf : f.isAlreadyExists) :
    Path s pod
      [⟨s.watchCall, some (.ok w)⟩, ⟨s.getCall, some (.error e)⟩,
        ⟨.create s.namespace pod, some (.error f)⟩] (.reread w)
  | found {w p watcher} :
    Path s pod [⟨s.watchCall, some (.ok w)⟩, ⟨s.getCall, some (.ok p)⟩] (.events w watcher)
  | created {w e p watcher} (he : e.isNotFound) :
    Path s pod
      [⟨s.watchCall, some (.ok w)⟩, ⟨s.getCall, some (.error e)⟩,
        ⟨.create s.namespace pod, some (.ok p)⟩] (.events w watcher)
  | refound {w e f p watcher} (he : e.isNotFound) (hf : f.isAlreadyExists) :
    Path s pod
      [⟨s.watchCall, some (.ok w)⟩, ⟨s.getCall, some (.error e)⟩,
        ⟨.create s.namespace pod, some (.error f)⟩, ⟨s.getCall, some (.ok p)⟩]
      (.events w watcher)

namespace Path

variable {calls : List Exchange} {await : Await} {i : Nat} {x : Exchange}

theorem calls_prefix (h : Path s pod calls await) :
    calls.map (·.call) <+: (s.protocol pod).map (·.1) := by
  cases h <;> simp [protocol]

theorem next_call (h : Path s pod calls await) {c : ClientCall} {phase : CallPhase}
    (ha : s.awaited pod await = some (c, phase)) :
    (s.protocol pod)[calls.length]? = some (c, phase) := by
  cases h <;> simp_all [awaited, protocol]

/-- An answered call led on just when another call was made after it or is waited for. -/
theorem leadsOn_iff (h : Path s pod calls await) (hx : calls[i]? = some x) :
    x.leadsOn i ↔ i + 1 < calls.length ∨ s.awaited pod await ≠ none := by
  cases h <;> rcases i with _ | _ | _ | _ | i <;>
    simp_all [Exchange.leadsOn, Exchange.error?, awaited] <;> subst hx <;> simp_all

/-- A run goes on only after errors that lead on. -/
theorem leadsOn_of_error (h : Path s pod calls await) (hx : calls[i]? = some x)
    {e : ClientError} (he : x.error? = some e) : x.leadsOn i := by
  cases h <;> rcases i with _ | _ | _ | _ | i <;>
    simp_all [Exchange.leadsOn, Exchange.error?] <;> subst hx <;> simp_all

/-- A failure that ends a run does not lead on. -/
theorem not_leadsOn_failed (h : Path s pod calls await) {c : ClientCall} {phase : CallPhase}
    {e : ClientError} (ha : s.awaited pod await = some (c, phase)) (he : await.survives e = false) :
    (Exchange.mk c (some (.error e))).leadsOn calls.length = false := by
  cases h <;> simp_all [Exchange.leadsOn, Exchange.error?, awaited, Await.survives]

theorem snoc_found (h : Path s pod calls await) {w : WatchId}
    (ha : await = .lookup w ∨ await = .reread w) (p : Pod) (watcher : CompletionWatcher) :
    Path s pod (calls ++ [⟨s.getCall, some (.ok p)⟩]) (.events w watcher) := by
  rcases ha with rfl | rfl
  · cases h
    exact .found
  · cases h with
    | reread he hf => exact .refound he hf

theorem rewatch {w : WatchId} {watcher : CompletionWatcher}
    (h : Path s pod calls (.events w watcher)) (watcher' : CompletionWatcher) :
    Path s pod calls (.events w watcher') := by
  cases h with
  | found => exact .found
  | created he => exact .created he
  | refound he hf => exact .refound he hf

end Path

def ongoing (s : PodStep) (r : ActiveRun) : List Exchange :=
  if r.begun then ((s.awaited r.pod r.await).map fun c => ⟨c.1, none⟩).toList else []

theorem ongoing_events {r : ActiveRun} {w : WatchId} {watcher : CompletionWatcher}
    (ha : r.await = .events w watcher) : s.ongoing r = [] := by
  simp [ongoing, ha, awaited]

/-- How the calls of a run stand to what the run has come to. -/
inductive Traced (s : PodStep) (pod : Pod) : RunStage → List Exchange → Prop where
  | idle {ctx} : Traced s pod (.idle ctx) []
  | active {r calls} (hp : r.pod = pod) (hg : r.guard.step = s.sectionName)
      (h : Path s pod calls r.await) : Traced s pod (.active r) (calls ++ s.ongoing r)
  | failed {await calls c phase e} (h : Path s pod calls await)
      (ha : s.awaited pod await = some (c, phase)) (he : await.survives e = false) :
    Traced s pod (.finished (.error (s.clientError phase e))) (calls ++ [⟨c, some (.error e)⟩])
  | returned {w watcher calls o} (h : Path s pod calls (.events w watcher)) :
    Traced s pod (.finished (.ok o)) calls
  | unstarted {stage} (hi : stage.WasCut s.sectionName) : Traced s pod stage []
  | cut {r stage calls} (hp : r.pod = pod) (h : Path s pod calls r.await)
      (hi : stage.WasCut s.sectionName) : Traced s pod stage (calls ++ s.ongoing r)

namespace Traced

variable {client : PodClient σ} {now : Instant} {r : ActiveRun} {world world' : Recorded σ}
  {calls : List Exchange}

theorem idle_inv {ctx : RunContext} (h : Traced s pod (.idle ctx) calls) : calls = [] := by
  cases h with
  | idle => rfl
  | unstarted => rfl
  | cut _ _ hi => exact hi.elim

theorem active_inv (h : Traced s pod (.active r) calls) :
    r.pod = pod ∧ r.guard.step = s.sectionName ∧
      ∃ done, Path s pod done r.await ∧ calls = done ++ s.ongoing r := by
  cases h with
  | active hp hg h => exact ⟨hp, hg, _, h, rfl⟩
  | unstarted hi => exact hi.elim
  | cut _ _ hi => exact hi.elim

/-- The call that the run has just tried takes the place of the call that was under way. -/
theorem calls_tried (h : Traced s pod (.active r) world.record.calls) {c : ClientCall}
    {phase : CallPhase} {answer : Option (ClientResult c.Value)}
    (ha : s.awaited r.pod r.await = some (c, phase))
    (hw : (Recorded.client client).poll now c r.begun world = (world', answer)) :
    ∃ done, Path s pod done r.await ∧ world.record.calls = done ++ s.ongoing r ∧
      world'.record.calls = done ++ [⟨c, answer⟩] := by
  obtain ⟨-, -, done, hpath, hc⟩ := h.active_inv
  obtain ⟨rfl, rfl⟩ := Prod.mk.inj hw
  refine ⟨done, hpath, hc, ?_⟩
  change (if r.begun then world.record.calls.dropLast else world.record.calls) ++ _ = _
  rw [hc]
  unfold ongoing
  cases r.begun with
  | false => rw [if_neg (by simp), if_neg (by simp), List.append_nil]
  | true =>
    rw [if_pos rfl, if_pos rfl, ha]
    exact congrArg (· ++ _) List.dropLast_concat

/-- The record ends with the call that the run has just tried. -/
theorem tried (h : Traced s pod (.active r) world.record.calls) {c : ClientCall}
    {phase : CallPhase} {answer : Option (ClientResult c.Value)}
    (ha : s.awaited r.pod r.await = some (c, phase))
    (hw : (Recorded.client client).poll now c r.begun world = (world', answer)) :
    r.pod = pod ∧ r.guard.settle.step = s.sectionName ∧
      ∃ done, Path s pod done r.await ∧ world'.record.calls = done ++ [⟨c, answer⟩] := by
  obtain ⟨hp, hg, -⟩ := h.active_inv
  obtain ⟨done, hpath, -, hcalls⟩ := h.calls_tried ha hw
  exact ⟨hp, by simpa using hg, done, hpath, hcalls⟩

theorem reading (h : Traced s pod (.active r) calls) {w : WatchId} {watcher : CompletionWatcher}
    (ha : r.await = .events w watcher) :
    r.pod = pod ∧ r.guard.settle.step = s.sectionName ∧ Path s pod calls (.events w watcher) := by
  obtain ⟨hp, hg, done, hpath, hc⟩ := h.active_inv
  rw [ongoing_events ha, List.append_nil] at hc
  exact ⟨hp, by simpa using hg, by rwa [hc, ← ha]⟩

theorem goTo {g : RunGuard} {await : Await} (world : σ) (hp : r.pod = pod)
    (hg : g.step = s.sectionName) (h : Path s pod calls await) :
    Traced s pod (r.goTo g await world).stage calls := by
  have := Traced.active (r := { r with guard := g, await, begun := false }) hp hg h
  rwa [show s.ongoing { r with guard := g, await, begun := false } = [] from rfl,
    List.append_nil] at this

/-- One small step of the run keeps the record in line with the run. -/
theorem move {stage : RunStage} {t : RunTick (Recorded σ)} (hp : s.pod = .ok pod)
    (h : Traced s pod stage world.record.calls)
    (hm : s.Moves (Recorded.client client) now stage world t) :
    Traced s pod t.stage t.world.record.calls := by
  cases hm with
  | rested ho => exact h
  | refused hf => simp [hp] at hf
  | undated hf hg =>
    rw [show world.record.calls = [] from h.idle_inv]
    exact .unstarted trivial
  | @begun _ _ _ guard hf hg =>
    rw [show world.record.calls = [] from h.idle_inv]
    rw [hp] at hf
    cases hf
    exact @Traced.active s pod { pod, guard, await := .watch } [] rfl
      (RunGuard.step_start? hg) .watch
  | interrupted hg _ =>
    obtain ⟨rfl, hstep, done, hpath, hc⟩ := h.active_inv
    simp only [Recorded.record_release, hc]
    exact .cut rfl hpath (hstep ▸ hg.wasCut)
  | brokenDown hg _ =>
    obtain ⟨rfl, hstep, done, hpath, hc⟩ := h.active_inv
    simp only [Recorded.record_release, hc]
    exact .cut rfl hpath trivial
  | @waiting r _ _ c phase hc ha hw =>
    obtain ⟨rfl, hstep, done, hpath, hcalls⟩ := h.tried ha hw
    have := Traced.active (r := { r with guard := r.guard.settle, begun := true }) rfl hstep hpath
    simpa [hcalls, ongoing, ha] using this
  | failed hc ha he hw =>
    obtain ⟨rfl, hstep, done, hpath, hcalls⟩ := h.tried ha hw
    simp only [Recorded.record_release, hcalls]
    exact .failed hpath ha he
  | opened hc ha hw =>
    obtain ⟨rfl, hstep, done, hpath, hcalls⟩ := h.tried (by rw [ha]; rfl) hw
    refine hcalls ▸ goTo _ rfl hstep ?_
    rw [ha] at hpath
    cases hpath
    exact .lookup
  | @settled _ _ _ _ existing _ hc ha hv hw =>
    obtain ⟨rfl, hstep, done, hpath, hcalls⟩ := h.tried (s.awaited_get _ ha) hw
    have := hpath.snoc_found ha existing { podName := s.name }
    rw [← hcalls] at this
    exact .returned this
  | @resumed _ _ world' _ existing hc ha hv hw =>
    obtain ⟨rfl, hstep, done, hpath, hcalls⟩ := h.tried (s.awaited_get _ ha) hw
    exact hcalls ▸ goTo world' rfl hstep (hpath.snoc_found ha existing _)
  | missing hc ha he hw =>
    obtain ⟨rfl, hstep, done, hpath, hcalls⟩ := h.tried (by rw [ha]; rfl) hw
    refine hcalls ▸ goTo _ rfl hstep ?_
    rw [ha] at hpath
    cases hpath
    exact .create he
  | created hc ha hw =>
    obtain ⟨rfl, hstep, done, hpath, hcalls⟩ := h.tried (by rw [ha]; rfl) hw
    refine hcalls ▸ goTo _ rfl hstep ?_
    rw [ha] at hpath
    cases hpath with
    | create he => exact .created he
  | conflicted hc ha hf hw =>
    obtain ⟨rfl, hstep, done, hpath, hcalls⟩ := h.tried (by rw [ha]; rfl) hw
    refine hcalls ▸ goTo _ rfl hstep ?_
    rw [ha] at hpath
    cases hpath with
    | create he => exact .reread he hf
  | @read r _ _ w watcher e hc ha hr hn =>
    obtain ⟨rfl, hstep, hpath⟩ := h.reading ha
    rw [← Recorded.calls_next hn] at hpath
    have := Traced.active
      (r := { r with guard := r.guard.settle, await := .events w (watcher.observe e).1 }) rfl hstep
      (hpath.rewatch _)
    rwa [ongoing_events rfl, List.append_nil] at this
  | @blocked r _ _ w watcher hc ha hr hn =>
    obtain ⟨rfl, hstep, hpath⟩ := h.reading ha
    rw [← Recorded.calls_next hn, ← ha] at hpath
    have := Traced.active (r := { r with guard := r.guard.settle }) rfl hstep hpath
    rwa [ongoing_events (r := { r with guard := r.guard.settle }) ha, List.append_nil] at this
  | ended hc ha hr hn =>
    obtain ⟨rfl, -, hpath⟩ := h.reading ha
    rw [← Recorded.calls_next hn] at hpath
    exact .returned hpath
  | decided ha hr =>
    obtain ⟨rfl, -, hpath⟩ := h.reading ha
    exact .returned hpath

end Traced

variable {client : PodClient σ} {ctx : RunContext} {stage : RunStage} {r : Recorded σ}

theorem Traced.mapSignal {calls : List Exchange} (h : Traced s pod stage calls)
    (f : CancelSignal → CancelSignal) : Traced s pod (stage.mapSignal f) calls := by
  cases stage with
  | idle c =>
    rw [h.idle_inv]
    exact .idle
  | active a =>
    obtain ⟨hp, hg, done, hpath, rfl⟩ := h.active_inv
    exact .active (r := { a with guard := { a.guard with signal := f a.guard.signal } }) hp hg hpath
  | finished result => exact h
  | aborted => exact h

theorem Traced.release {world : Recorded σ} (h : Traced s pod stage world.record.calls)
    (ho : stage.isOver = false) :
    Traced s pod .aborted (stage.release (Recorded.client client) world).record.calls := by
  cases stage with
  | idle c =>
    rw [show (RunStage.release (Recorded.client client) world (.idle c)).record.calls = [] from
      h.idle_inv]
    exact .unstarted trivial
  | active a =>
    obtain ⟨hp, hg, done, hpath, hc⟩ := h.active_inv
    simp only [RunStage.release, Recorded.record_release, hc]
    exact .cut hp hpath trivial
  | finished result => cases ho
  | aborted => cases ho

/-- Along every run the record of its calls is in line with it. -/
theorem Reaches.traced (h : s.Reaches client ctx stage r) (hp : s.pod = .ok pod) :
    Traced s pod stage r.record.calls := by
  induction h with
  | launched => exact .idle
  | moved _ now ih => exact ih.move hp (s.tick_moves _ now _ _)
  | disturbed _ _ ih => exact ih
  | cancelled _ ih => exact ih.mapSignal _
  | abandoned _ ih => exact ih.mapSignal _
  | dropped _ ho ih => exact ih.release ho

variable {calls : List Exchange} {await : Await}

/-- What the calls of a run are, and when the run makes them. -/
structure FollowsProtocol (s : PodStep) (pod : Pod) (stage : RunStage) (calls : List Exchange) :
    Prop where
  calls_prefix : calls.map (·.call) <+: (s.protocol pod).map (·.1)
  /-- A call is made only if the answer to the one before it asks for it. -/
  asked : ∀ i x, calls[i]? = some x → i + 1 < calls.length → x.leadsOn i
  /-- If an answer asks for another call, this is made, or the run is cut before it or about to make
  it. -/
  made : ∀ i x, calls[i]? = some x → x.leadsOn i → i + 1 < calls.length ∨
    stage.WasCut s.sectionName ∨ ∃ a, stage = .active a ∧ a.begun = false ∧
      s.awaited a.pod a.await = (s.protocol pod)[i + 1]?
  /-- Any other failure ends the run and is what the run reports. -/
  reported : ∀ (i : Nat) (x : Exchange) (e : ClientError), calls[i]? = some x →
    x.error? = some e → x.leadsOn i = false → ∃ c phase, (s.protocol pod)[i]? = some (c, phase) ∧
      stage = .finished (.error (.client s.sectionName phase e))

private theorem getElem?_snoc_cases {α : Type} {l : List α} {a x : α} {i : Nat}
    (h : (l ++ [a])[i]? = some x) : l[i]? = some x ∧ i < l.length ∨ i = l.length ∧ x = a := by
  rcases Nat.lt_trichotomy i l.length with hi | hi | hi
  · rw [List.getElem?_append_left hi] at h
    exact .inl ⟨h, hi⟩
  · subst hi
    rw [List.getElem?_concat_length] at h
    exact .inr ⟨rfl, (Option.some.inj h).symm⟩
  · rw [List.getElem?_eq_none (by simp; omega)] at h
    cases h

theorem Path.calls_prefix_snoc (h : Path s pod calls await) {c : ClientCall} {phase : CallPhase}
    (ha : s.awaited pod await = some (c, phase)) (answer : Option (ClientResult c.Value)) :
    (calls ++ [Exchange.mk c answer]).map (·.call) <+: (s.protocol pod).map (·.1) := by
  cases h <;> simp_all [awaited, protocol]

/-- A run whose calls are all answered. -/
theorem Path.follows (h : Path s pod calls await)
    (hs : s.awaited pod await = none ∨ stage.WasCut s.sectionName ∨ ∃ a, stage = .active a ∧
      a.begun = false ∧ s.awaited a.pod a.await = s.awaited pod await) :
    s.FollowsProtocol pod stage calls where
  calls_prefix := h.calls_prefix
  asked i x hx hi := (h.leadsOn_iff hx).mpr (.inl hi)
  made i x hx hl := by
    rcases (h.leadsOn_iff hx).mp hl with hi | hn
    · exact .inl hi
    by_cases hi : i + 1 < calls.length
    · exact .inl hi
    have hlen : i + 1 = calls.length := by
      have := (List.getElem?_eq_some_iff.mp hx).1
      omega
    rcases hs with hs | hs | ⟨a, rfl, hb, hs⟩
    · exact absurd hs hn
    · exact .inr (.inl hs)
    · refine .inr (.inr ⟨a, rfl, hb, ?_⟩)
      obtain ⟨⟨c, phase⟩, hc⟩ := Option.ne_none_iff_exists'.mp hn
      rw [hs, hc, hlen, h.next_call hc]
  reported i x e hx he hl := by
    rw [h.leadsOn_of_error hx he] at hl
    cases hl

/-- A run whose last call has failed, or goes on, or was given up. -/
theorem Path.follows_snoc (h : Path s pod calls await) {c : ClientCall} {phase : CallPhase}
    (ha : s.awaited pod await = some (c, phase)) {answer : Option (ClientResult c.Value)}
    (hl : (Exchange.mk c answer).leadsOn calls.length = false)
    (he : ∀ e, (Exchange.mk c answer).error? = some e →
      stage = .finished (.error (s.clientError phase e))) :
    s.FollowsProtocol pod stage (calls ++ [Exchange.mk c answer]) where
  calls_prefix := h.calls_prefix_snoc ha answer
  asked i x hx hi := by
    have hlen : i < calls.length := by simpa using hi
    rw [List.getElem?_append_left hlen] at hx
    exact (h.leadsOn_iff hx).mpr (.inr (by rw [ha]; simp))
  made i x hx hlead := by
    rcases getElem?_snoc_cases hx with ⟨-, hi⟩ | ⟨rfl, rfl⟩
    · exact .inl (by simpa using hi)
    · rw [hl] at hlead
      cases hlead
  reported i x e hx hxe hxl := by
    rcases getElem?_snoc_cases hx with ⟨hx, -⟩ | ⟨rfl, rfl⟩
    · rw [h.leadsOn_of_error hx hxe] at hxl
      cases hxl
    · exact ⟨c, phase, h.next_call ha, he e hxe⟩

private theorem pending_exchange (c : ClientCall) (i : Nat) :
    (Exchange.mk c none).leadsOn i = false ∧ (Exchange.mk c none).error? = none := by
  rcases i with _ | _ | _ | i <;> exact ⟨rfl, rfl⟩

theorem Path.follows_ongoing {a : ActiveRun} (h : Path s a.pod calls a.await)
    (hs : stage.WasCut s.sectionName ∨ stage = .active a) :
    s.FollowsProtocol a.pod stage (calls ++ s.ongoing a) := by
  unfold ongoing
  cases hb : a.begun with
  | false =>
    rw [if_neg (by simp), List.append_nil]
    exact h.follows (.inr (hs.imp_right fun hs => ⟨a, hs, hb, rfl⟩))
  | true =>
    rw [if_pos rfl]
    cases ha : s.awaited a.pod a.await with
    | none =>
      rw [Option.map_none, Option.toList_none, List.append_nil]
      exact h.follows (.inl ha)
    | some c =>
      obtain ⟨hl, he⟩ := pending_exchange c.1 calls.length
      exact h.follows_snoc ha hl (by simp [he])

theorem Traced.follows (h : Traced s pod stage calls) : s.FollowsProtocol pod stage calls := by
  cases h with
  | idle => exact ⟨List.nil_prefix, by simp, by simp, by simp⟩
  | unstarted => exact ⟨List.nil_prefix, by simp, by simp, by simp⟩
  | active hp _ hpath =>
    subst hp
    exact hpath.follows_ongoing (.inr rfl)
  | cut hp hpath hi =>
    subst hp
    exact hpath.follows_ongoing (.inl hi)
  | returned hpath => exact hpath.follows (.inl rfl)
  | failed hpath ha he =>
    refine hpath.follows_snoc ha (hpath.not_leadsOn_failed ha he) fun e' he' => ?_
    cases he'
    rfl

/-- A run without a pod has not begun, or was given up, or has reported why there is no pod. -/
def Refuses (fault : ConfigFault) (stage : RunStage) : Prop :=
  (∃ ctx, stage = .idle ctx) ∨ stage = .aborted ∨ stage = .finished (.error (.config fault))

private theorem Refuses.mapSignal {fault : ConfigFault} (h : Refuses fault stage)
    (f : CancelSignal → CancelSignal) : Refuses fault (stage.mapSignal f) := by
  rcases h with ⟨c, rfl⟩ | rfl | rfl
  · exact .inl ⟨_, rfl⟩
  · exact .inr (.inl rfl)
  · exact .inr (.inr rfl)

theorem tick_idle_of_error {fault : ConfigFault} (hp : s.pod = .error fault)
    (client : PodClient σ) (now : Instant) (ctx : RunContext) (world : σ) :
    s.tick client now (.idle ctx) world =
      { world, stage := .finished (.error (.config fault)) } := by
  simp only [tick, begin, hp]

theorem Reaches.refuses {fault : ConfigFault} (h : s.Reaches client ctx stage r)
    (hp : s.pod = .error fault) : r.record.calls = [] ∧ Refuses fault stage := by
  induction h with
  | launched => exact ⟨rfl, .inl ⟨_, rfl⟩⟩
  | moved _ now ih =>
    obtain ⟨hc, ⟨c, rfl⟩ | rfl | rfl⟩ := ih
    · rw [tick_idle_of_error hp]
      exact ⟨hc, .inr (.inr rfl)⟩
    · exact ⟨hc, .inr (.inl rfl)⟩
    · exact ⟨hc, .inr (.inr rfl)⟩
  | disturbed _ _ ih => exact ih
  | cancelled _ ih => exact ih.imp_right (·.mapSignal _)
  | abandoned _ ih => exact ih.imp_right (·.mapSignal _)
  | dropped _ ho ih =>
    obtain ⟨hc, ⟨c, rfl⟩ | rfl | rfl⟩ := ih
    · exact ⟨hc, .inr (.inl rfl)⟩
    · cases ho
    · cases ho

/-- A run that is under way has a pod. -/
theorem Reaches.pod_of_active {a : ActiveRun} (h : s.Reaches client ctx (.active a) r) :
    ∃ pod, s.pod = .ok pod := by
  cases hp : s.pod with
  | ok pod => exact ⟨pod, rfl⟩
  | error fault =>
    obtain ⟨-, ⟨c, hs⟩ | hs | hs⟩ := h.refuses hp <;> cases hs

/-- Whatever the client does: without a pod a run makes no call and reports the fault of the
configuration, and with one it makes the calls of the protocol, each only when it is asked for. -/
theorem run_follows_protocol (h : s.Reaches client ctx stage r) :
    (∀ fault, s.pod = .error fault → r.record.calls = [] ∧
      (stage.isOver = true → stage = .aborted ∨ stage = .finished (.error (.config fault))) ∧
      (stage.isOver = false → ∀ now, (s.tick (Recorded.client client) now stage r).stage =
        .finished (.error (.config fault)))) ∧
    ∀ pod, s.pod = .ok pod → s.FollowsProtocol pod stage r.record.calls := by
  constructor
  · intro fault hp
    obtain ⟨hc, hs⟩ := h.refuses hp
    refine ⟨hc, fun ho => ?_, fun ho now => ?_⟩
    · rcases hs with ⟨c, rfl⟩ | hs
      · cases ho
      · exact hs
    · rcases hs with ⟨c, rfl⟩ | rfl | rfl
      · rw [tick_idle_of_error hp]
      · cases ho
      · cases ho
  · intro pod hp
    exact (h.traced hp).follows

/-- The pod is created by somebody else before the run's creation, and is gone before it is looked
up again. -/
theorem run_follows_protocol_lost_pod : ∃ stage r,
    sample.Reaches PodStore.client {} stage r ∧ r.record.calls.length = 4 ∧
    stage = .finished (.error (.client "unit" .lookup (.notFound "ns" "unit-pod"))) ∧
    ∀ pod, sample.pod = .ok pod → sample.FollowsProtocol pod stage r.record.calls := by
  have h₀ : sample.Reaches PodStore.client {} (.idle {}) { world := {} } := .launched _
  have h₁ := ((h₀.moved .zero).moved .zero).moved .zero
  have h₂ := (h₁.disturbed (({} : PodStore).create "ns"
    { metadata := { name := some "unit-pod" } }).1).moved .zero
  have h := (h₂.disturbed {}).moved .zero
  exact ⟨_, _, h, rfl, rfl, (run_follows_protocol h).2⟩

end PodStep

end PodPipeline
