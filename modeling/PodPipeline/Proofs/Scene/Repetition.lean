import PodPipeline.Proofs.Scene.Agreement

/-! Runs that are launched when their pod has finished repeat its outcome. -/
namespace PodPipeline

def Exchange.isCreate (x : Exchange) : Bool := x.call matches .create _ _

/-- The run has not looked for its pod, has returned the outcome `o`, or was cut. -/
def PodStep.Nears (p : PodStep) (o : Outcome) (stage : RunStage) : Prop :=
  4 ≤ stage.rank ∨ stage = .finished (.ok o) ∨ stage.WasCut p.sectionName

/-- Neither a signal nor a limit has ended the run or may end it. -/
def RunStage.Unhindered (step : String) : RunStage → Prop
  | .idle ctx => ctx = {}
  | .active r => r.guard.signal = .absent ∧ r.guard.limit = none
  | stage => ¬stage.WasCut step

theorem RunStage.Unhindered.not_wasCut {step : String} {stage : RunStage}
    (h : stage.Unhindered step) : ¬stage.WasCut step := by
  cases stage with
  | idle | active => exact id
  | finished | aborted => exact h

theorem RunStage.rank_of_isOver {stage : RunStage} (h : stage.isOver) : stage.rank = 0 := by
  cases stage with
  | idle => cases h
  | active => cases h
  | finished => rfl
  | aborted => rfl

theorem RunStage.rank_mapSignal (f : CancelSignal → CancelSignal) (stage : RunStage) :
    (stage.mapSignal f).rank = stage.rank := by
  cases stage <;> rfl

/-- How many kinds of small steps a run may still have before it that waits. -/
def Await.rank : Await → Nat
  | .watch => 5
  | .lookup _ => 4
  | .create _ => 3
  | .reread _ => 2
  | .events _ _ => 1

theorem RunStage.rank_active {r : ActiveRun} {a : Await} (ha : r.await = a) :
    (RunStage.active r).rank = a.rank := by
  subst ha
  unfold rank Await.rank
  rfl

namespace PodStep

variable {p : PodStep} {pod : Pod} {o : Outcome} {now : Instant} {s t : PodStore}
  {stage stage' : RunStage} {made : List Exchange}

theorem Nears.outcome (h : p.Nears o stage) (hr : stage.rank < 4) :
    stage = .finished (.ok o) ∨ stage.WasCut p.sectionName := by
  rcases h with h | h
  · omega
  · exact h

theorem Nears.isOver (h : p.Nears o stage) (hr : stage.rank < 4) : stage.isOver := by
  rcases h.outcome hr with rfl | hc
  · rfl
  · exact hc.isOver

theorem Nears.rank_of_active {r : ActiveRun} (h : p.Nears o (.active r)) :
    4 ≤ (RunStage.active r).rank := by
  rcases h with h | h | h
  · exact h
  · cases h
  · exact h.elim

/-- While the pod stands there with its outcome, the run finds it or is cut. -/
theorem Turn.nears (h : p.Turn now s stage t stage' made) (hpod : p.pod = .ok pod)
    (hv : s.verdict? p.key = some o) (hn : p.Nears o stage) : p.Nears o stage' ∧
      (∀ x ∈ made, x.isCreate = false) ∧ (stage'.isOver ∨ stage'.rank < stage.rank) := by
  cases h with
  | refused hp =>
    rw [hpod] at hp
    cases hp
  | undated => exact ⟨.inr (.inr trivial), by simp, .inl rfl⟩
  | cut _ _ hc => exact ⟨.inr (.inr hc), by simp, .inl hc.isOver⟩
  | rested ho => exact ⟨hn, by simp, .inl ho⟩
  | begun _ _ _ ha =>
    have hr := RunStage.rank_active ha
    refine ⟨.inl ?_, by simp, .inr ?_⟩
    · rw [hr]
      exact Nat.le_succ 4
    · rw [hr]
      exact Nat.lt_succ_self 5
  | opened ha =>
    have hr := RunStage.rank_active ha
    refine ⟨.inl (Nat.le_refl 4), by simp [Exchange.isCreate, watchCall], .inr ?_⟩
    rw [hr]
    exact Nat.lt_succ_self 4
  | settled _ hf hv' =>
    rw [PodStore.verdict?_eq hf, hv'] at hv
    cases hv
    exact ⟨.inr (.inl rfl), by simp [Exchange.isCreate, getCall], .inl rfl⟩
  | resumed _ hf hv' =>
    rw [PodStore.verdict?_eq hf, hv'] at hv
    cases hv
  | missing _ hf =>
    rw [PodStore.verdict?, hf] at hv
    cases hv
  | lost ha | created ha | conflicted ha | read ha | idles ha | decided ha =>
    have hr := hn.rank_of_active
    rw [RunStage.rank_active ha] at hr
    exact absurd hr (by simp [Await.rank])

/-- What nothing may end stays so, whatever the client does. -/
theorem Moves.unhindered {σ : Type} {client : PodClient σ} {world : σ} {t : RunTick σ}
    (h : p.Moves client now stage world t) (hu : stage.Unhindered p.sectionName) :
    t.stage.Unhindered p.sectionName := by
  have hsettle {r : ActiveRun} (hu : (RunStage.active r).Unhindered p.sectionName) :
      r.guard.settle = r.guard := by
    simp [RunGuard.settle, hu.1]
  cases h with
  | refused | failed | settled | ended | decided => exact id
  | rested => exact hu
  | undated _ hg =>
    obtain rfl : _ = ({} : RunContext) := hu
    cases hg
  | begun _ hg =>
    obtain rfl : _ = ({} : RunContext) := hu
    obtain rfl := Option.some.inj hg
    exact ⟨rfl, rfl⟩
  | interrupted hg =>
    refine absurd (RunGuard.clear_iff.mpr ?_) hg.not_clear
    simp [RunGuard.expired?, hu.1, hu.2]
  | brokenDown hg =>
    rw [hsettle hu, hu.1] at hg
    cases hg
  | waiting | opened | resumed | missing | created | conflicted | read | blocked =>
    exact ⟨(congrArg (·.signal) (hsettle hu)).trans hu.1,
      (congrArg (·.limit) (hsettle hu)).trans hu.2⟩

end PodStep

namespace Runner

variable {s t : PodStore} {r r' : Runner} {o : Outcome} {pod : Pod}

/-- While the pod stands there with its outcome, whatever happens brings a run nearer to it or
leaves it where it is. -/
theorem Sees.nears (h : r.Sees s t r') (hpod : r.step.pod = .ok pod)
    (hv : s.verdict? r.key = some o) (hn : r.step.Nears o r.stage)
    (hc : ∀ x ∈ r.record.calls, x.isCreate = false) : r.step.Nears o r'.stage ∧
      (∀ x ∈ r'.record.calls, x.isCreate = false) ∧
      (r'.stage.isOver ∨ r'.stage.rank ≤ r.stage.rank) := by
  cases h with
  | stays => exact ⟨hn, hc, .inr (Nat.le_refl _)⟩
  | dropped => exact ⟨.inr (.inr trivial), hc, .inl rfl⟩
  | @signalled f _ _ =>
    have hrank := RunStage.rank_mapSignal f r.stage
    refine ⟨?_, hc, .inr (Nat.le_of_eq hrank)⟩
    by_cases h4 : 4 ≤ r.stage.rank
    · exact .inl (hrank ▸ h4)
    · rw [signal, RunStage.mapSignal_of_isOver (hn.isOver (by omega))]
      exact hn
  | ticks h hcalls =>
    obtain ⟨hn', hmade, hrank⟩ := h.nears hpod hv hn
    refine ⟨hn', fun x hx => ?_, hrank.imp_right Nat.le_of_lt⟩
    rw [hcalls] at hx
    rcases List.mem_append.mp hx with hx | hx
    · exact hc x hx
    · exact hmade x hx

end Runner

def Act.ticks (j : Nat) : Act → Bool
  | .tick i _ => i = j
  | _ => false

theorem Act.ticks_iff {j : Nat} {a : Act} : a.ticks j = true ↔ ∃ now, a = .tick j now := by
  cases a <;> simp [ticks]

def Act.interrupts (j : Nat) : Act → Bool
  | .cancel i | .abandon i | .drop i => i = j
  | _ => false

namespace Scene

variable {s : Scene} {k : PodKey} {a : Act} {acts : List Act} {i j : Nat} {r r' : Runner}
  {o : Outcome} {pod : Pod}

theorem act_tick (hs : s.Tidy) (hr : s.runs[j]? = some r) (now : Instant) :
    ∃ r' made, (s.act (.tick j now)).runs[j]? = some r' ∧ r'.step = r.step ∧
      r'.record.calls = r.record.calls ++ made ∧
      r.step.Turn now s.store r.stage (s.act (.tick j now)).store r'.stage made := by
  obtain ⟨made, hcalls, hturn⟩ := Runner.turn (hs.attends j r hr) hs.keyed now
  obtain ⟨hself, hstore⟩ := update_self (f := fun r => r.tick now) hr
  have hstore : (s.act (.tick j now)).store = (r.tick now s.store).1 := hstore
  exact ⟨_, made, hself, rfl, hcalls, hstore ▸ hturn⟩

/-- A run that nobody interrupts makes a small step, or stays as it is. -/
theorem act_uninterrupted (hr : s.runs[j]? = some r) (ha : a.interrupts j = false) :
    (s.act a).runs[j]? = some r ∨ ∃ now, a = .tick j now := by
  have hne {i : Nat} {f : Runner → PodStore → PodStore × Runner} (h : i ≠ j) :
      (s.update i f).runs[j]? = some r := (runs_update_of_ne h).trans hr
  cases a with
  | other a => exact .inl (by rw [runs_act_other, hr])
  | launch p ctx =>
    exact .inl ((List.getElem?_append_left (List.getElem?_eq_some_iff.mp hr).1).trans hr)
  | tick i now =>
    by_cases hi : i = j
    · exact .inr ⟨now, by rw [hi]⟩
    · exact .inl (hne hi)
  | cancel i | abandon i | drop i => exact .inl (hne (by simpa [Act.interrupts] using ha))

theorem unhindered_perform (hi : ∀ a ∈ acts, a.interrupts j = false) (hr : s.runs[j]? = some r)
    (hu : r.stage.Unhindered r.step.sectionName) (hr' : (s.perform acts).runs[j]? = some r') :
    r'.stage.Unhindered r'.step.sectionName := by
  induction acts generalizing s r with
  | nil =>
    rw [perform_nil, hr] at hr'
    cases hr'
    exact hu
  | cons a acts ih =>
    obtain ⟨hi₀, hi'⟩ := List.forall_mem_cons.mp hi
    rcases act_uninterrupted hr hi₀ with hsame | ⟨now, rfl⟩
    · exact ih hi' hsame hu hr'
    · have hm := r.step.tick_moves (Recorded.client PodStore.client) now r.stage ⟨s.store, r.record⟩
      have hself := (update_self (f := (·.tick now)) hr).1
      exact ih hi' hself (hm.unhindered hu) hr'

/-- Along any acts, a run that nears its outcome makes its small steps towards it. -/
theorem nears_perform (hs : s.Tidy) (ha : s.isRespected k acts) (hr : s.runs[j]? = some r)
    (hk : r.key = k) (hpod : r.step.pod = .ok pod) (hv : s.store.verdict? k = some o)
    (hn : r.step.Nears o r.stage) (hc : ∀ x ∈ r.record.calls, x.isCreate = false)
    (hr' : (s.perform acts).runs[j]? = some r') :
    r'.step.Nears o r'.stage ∧ (∀ x ∈ r'.record.calls, x.isCreate = false) ∧
      (r'.stage.isOver ∨ r'.stage.rank + acts.countP (·.ticks j) ≤ r.stage.rank) := by
  induction acts generalizing s r with
  | nil =>
    rw [perform_nil, hr] at hr'
    cases hr'
    exact ⟨hn, hc, .inr (Nat.le_refl _)⟩
  | cons a acts ih =>
    simp only [isRespected, Bool.and_eq_true] at ha
    have htidy := tidy_act hs (Act.isOrdinary_of_respects ha.1)
    have hv' := (respects_act hs ha.1).verdict? hv
    have hown : s.store.verdict? r.key = some o := hk ▸ hv
    -- each small step of the run takes one from its rank, and no other act adds to it
    obtain ⟨r₁, hr₁, hstep, hn₁, hc₁, hrank₁⟩ : ∃ r₁, (s.act a).runs[j]? = some r₁ ∧
        r₁.step = r.step ∧ r.step.Nears o r₁.stage ∧ (∀ x ∈ r₁.record.calls, x.isCreate = false) ∧
        (r₁.stage.isOver ∨ r₁.stage.rank + (if a.ticks j then 1 else 0) ≤ r.stage.rank) := by
      cases ht : a.ticks j with
      | false =>
        obtain ⟨r₁, hr₁, hsees⟩ := act_seen hs (Act.isOrdinary_of_respects ha.1) hr
        exact ⟨r₁, hr₁, hsees.step_eq, hsees.nears hpod hown hn hc⟩
      | true =>
        obtain ⟨now, rfl⟩ := Act.ticks_iff.mp ht
        obtain ⟨r₁, made, hr₁, hstep, hcalls, hturn⟩ := act_tick hs hr now
        obtain ⟨hn₁, hmade, hrank⟩ := hturn.nears hpod hown hn
        refine ⟨r₁, hr₁, hstep, hn₁, fun x hx => ?_, hrank⟩
        rw [hcalls] at hx
        exact (List.mem_append.mp hx).elim (hc x) (hmade x)
    have hkey : r₁.key = k := (congrArg PodStep.key hstep).trans hk
    obtain ⟨hn', hc', hrank'⟩ :=
      ih htidy ha.2 hr₁ hkey (hstep ▸ hpod) hv' (hstep ▸ hn₁) hc₁ hr'
    refine ⟨hn', hc', ?_⟩
    rcases hrank' with ho | hle
    · exact .inl ho
    rcases hrank₁ with ho₁ | hle₁
    · rw [RunStage.rank_of_isOver ho₁] at hle
      exact .inl (hn'.isOver (by omega))
    · rw [List.countP_cons]
      exact .inr (by omega)

/-- What has become of a run that was launched when its pod had the outcome `o`. -/
structure Repeats (o : Outcome) (ctx : RunContext) (later : List Act) (j : Nat) (r : Runner) :
    Prop where
  calls : ∀ x ∈ r.record.calls, x.isCreate = false
  returns : 3 ≤ later.countP (·.ticks j) → r.stage.isOver
  result : r.stage.isOver → r.stage = .finished (.ok o) ∨ r.stage.WasCut r.step.sectionName
  uncut : ctx = {} → (∀ a ∈ later, a.interrupts j = false) →
    ¬r.stage.WasCut r.step.sectionName

private theorem repeats_of_verdict (hs : s.Tidy) (hv : s.store.verdict? k = some o) {p : PodStep}
    (hk : p.key = k) (hpod : p.pod = .ok pod) {ctx : RunContext}
    (ha : (s.act (.launch p ctx)).isRespected k acts)
    (hr : ((s.act (.launch p ctx)).perform acts).runs[s.runs.length]? = some r) :
    Repeats o ctx acts s.runs.length r := by
  have htidy : (s.act (.launch p ctx)).Tidy := tidy_act hs rfl
  have hr₀ : (s.act (.launch p ctx)).runs[s.runs.length]? = some ⟨p, .idle ctx, {}⟩ :=
    List.getElem?_concat_length
  obtain ⟨hn, hc, hrank⟩ := nears_perform htidy ha hr₀ hk hpod hv
    (.inl (show 4 ≤ 6 by decide)) (by simp) hr
  refine ⟨hc, fun hthree => ?_, fun ho => ?_, fun hctx hi => ?_⟩
  · rcases hrank with ho | hle
    · exact ho
    · have : r.stage.rank + acts.countP (·.ticks s.runs.length) ≤ 6 := hle
      exact hn.isOver (by omega)
  · exact hn.outcome (by rw [RunStage.rank_of_isOver ho]; decide)
  · exact (unhindered_perform hi hr₀ hctx hr).not_wasCut

/-- As long as nobody deletes the pod or touches it once it has finished, it is created once at
most, every run that returns an outcome returns that of the pod, and so does every run that is launched
after that, without creating anything. -/
theorem runs_agree (history : List StoreAct) (acts : List Act) (k : PodKey) {s₀ s : Scene}
    (hs₀ : s₀ = { store := ({} : PodStore).perform history }) (ha : s₀.isRespected k acts)
    (hs : s = s₀.perform acts) :
    s.calls.countP (·.creates k) ≤ 1 ∧
      ∀ (i : Nat) (r : Runner) (o : Outcome), s.runs[i]? = some r → r.key = k →
        r.stage = .finished (.ok o) → s.store.verdict? k = some o ∧
          ∀ (p : PodStep) (pod : Pod) (ctx : RunContext) (later : List Act) (r' : Runner),
            p.key = k → p.pod = .ok pod → (s.act (.launch p ctx)).isRespected k later →
            ((s.act (.launch p ctx)).perform later).runs[s.runs.length]? = some r' →
            Repeats o ctx later s.runs.length r' := by
  have htidy₀ : s₀.Tidy := hs₀ ▸ tidy_of_store history
  have htidy : s.Tidy := hs ▸ isRespected_tidy htidy₀ ha
  have hagrees : s.Agrees k := hs ▸ agrees_perform htidy₀ ha (by simp [Agrees, hs₀])
  have hcount : s.calls.countP (·.creates k) ≤ s.store.podsAt k :=
    hs ▸ creations_perform htidy₀ ha (by simp [hs₀])
  constructor
  · exact Nat.le_trans hcount Option.length_toList_le
  · intro i r o hr hk ho
    have hv : s.store.verdict? k = some o := hk ▸ hagrees i r hr hk o (.returned ho)
    refine ⟨hv, fun p pod ctx later r' hp hpod hl hr' => ?_⟩
    exact repeats_of_verdict htidy hv hp hpod hl hr'

/-- Two runs look for the pod before either creates it. One of them creates it, the other finds it
there, and both wait for its end. -/
def sampleRace : List Act :=
  [.launch .sample {}, .launch { PodStep.sample with sectionName := "other" } {},
    .tick 0 .zero, .tick 1 .zero, .tick 0 .zero, .tick 1 .zero, .tick 0 .zero, .tick 1 .zero,
    .tick 1 .zero, .tick 0 .zero, .tick 0 .zero,
    .other (.call (.updateStatus "ns"
      { metadata := { name := some "unit-pod" }, status := some Phase.succeeded.toStatus })),
    .tick 0 .zero, .tick 1 .zero, .tick 0 .zero, .tick 1 .zero, .tick 0 .zero, .tick 1 .zero]

theorem runs_agree_race :
    let later : List Act := [.tick 2 .zero, .tick 2 .zero, .tick 2 .zero]
    let s := ({} : Scene).perform sampleRace
    s.calls.countP (·.creates PodStep.sample.key) = 1 ∧
      (∃ r, s.runs[0]? = some r ∧ r.stage = .finished (.ok .succeeded)) ∧
      (∃ r, s.runs[1]? = some r ∧ r.stage = .finished (.ok .succeeded)) ∧
      s.store.verdict? PodStep.sample.key = some .succeeded ∧
      ∃ r, ((s.act (.launch .sample {})).perform later).runs[2]? = some r ∧
        Repeats .succeeded {} later 2 r := by
  intro later s
  have hrace : (∃ r, s.runs[0]? = some r ∧ r.key = PodStep.sample.key ∧
      r.stage = .finished (.ok .succeeded)) ∧
      (∃ r, s.runs[1]? = some r ∧ r.stage = .finished (.ok .succeeded)) ∧
      (∃ r, ((s.act (.launch .sample {})).perform later).runs[2]? = some r) ∧
      ∃ pod, PodStep.sample.pod = .ok pod :=
    ⟨⟨_, rfl, rfl, rfl⟩, ⟨_, rfl, rfl⟩, ⟨_, rfl⟩, ⟨_, rfl⟩⟩
  obtain ⟨⟨r, hr, hk, ho⟩, hother, ⟨r', hr'⟩, ⟨pod, hpod⟩⟩ := hrace
  obtain ⟨-, h⟩ := runs_agree [] sampleRace PodStep.sample.key rfl
    (by rfl) rfl
  obtain ⟨hv, hlater⟩ := h 0 r .succeeded hr hk ho
  exact ⟨rfl, ⟨r, hr, ho⟩, hother, hv, r', hr', hlater .sample pod {} later r' rfl hpod rfl hr'⟩

end Scene

end PodPipeline
