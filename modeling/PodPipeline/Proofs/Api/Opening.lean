import PodPipeline.Proofs.Api.Forwarding

/-! Opening a watch of the cluster's API, and what its reader then has to do with: a relay of the
items that the service sends. -/
namespace PodPipeline

/-- What an error of the API means to the one who asked for the pod `name`. -/
inductive ApiError.Means (ns name : String) : ApiError → ClientError → Prop where
  | present {s} (h : s.code = 409) : Means ns name (.status s) (.alreadyExists ns name)
  | missing {s} (h : s.code = 404) : Means ns name (.status s) (.notFound ns name)
  | other {e} (h : ∀ s, e = .status s → s.code ≠ 409 ∧ s.code ≠ 404) : Means ns name e (.api e)

theorem ApiError.means_forPod (ns name : String) (e : ApiError) :
    e.Means ns name (e.forPod ns name) := by
  cases e with
  | status s =>
    simp only [forPod]
    by_cases hp : s.code = 409
    · rw [if_pos hp]
      exact .present hp
    · rw [if_neg hp]
      by_cases hm : s.code = 404
      · rw [if_pos hm]
        exact .missing hm
      · rw [if_neg hm]
        refine .other ?_
        rintro _ ⟨⟩
        exact ⟨hp, hm⟩
  | _ => exact .other nofun

namespace Relay

/-- The forwarder has its turns until there is nothing to do for it but wait. -/
def settling (f : Forwarder) : List RelayAct :=
  .notice :: List.replicate (f.items.length + 1) .take

theorem perform_takes (c : Relay) (n : Nat) : c.perform (List.replicate n .take) =
    { c with forwarder := Nat.repeat Forwarder.take n c.forwarder } := by
  induction n with
  | zero => rfl
  | succ n ih =>
    rw [List.replicate_succ', perform_append, ih]
    rfl

theorem perform_settling (c : Relay) :
    c.perform (settling c.forwarder) = { c with forwarder := c.forwarder.settle } :=
  perform_takes (c.act .notice) _

end Relay

namespace ApiService

variable {s : ApiService} {now moment : Instant} {ns : String} {options : ListOptions}

/-- A watch that cannot be asked for is none. -/
theorem poll_watch_of_fault {fault : RequestFault}
    (h : (ClientCall.watch ns options).request = .error fault) :
    s.poll now (.watch ns options) false =
      (s, some (.error ((ApiError.request fault).forPod ns ""))) := by
  unfold poll
  rw [h]
  rfl

theorem poll_watch_of_request {request : ApiRequest}
    (h : (ClientCall.watch ns options).request = .ok request) :
    s.poll now (.watch ns options) false =
      (s.send now request).poll now (.watch ns options) true := by
  unfold poll
  rw [h]
  rfl

/-- A watch that cannot be opened because of `e` is none, and the caller learns why. -/
theorem poll_watch_of_error {e : ApiError} (h : s.due = some (moment, .error e))
    (hn : moment.reached now) :
    s.poll now (.watch ns options) true = (s, some (.error (e.forPod ns ""))) := by
  change s.proceed now (.watch ns options) = _
  unfold proceed
  rw [h]
  exact if_pos hn

/-- A watch that is opened is the last of all watches. -/
theorem poll_watch_of_answer {r : ApiResponse} (h : s.due = some (moment, .ok r))
    (hn : moment.reached now) : s.poll now (.watch ns options) true =
      ({ s with watches := s.watches ++ [(Forwarder.start r).settle] },
        some (.ok ⟨s.watches.length⟩)) := by
  have haccept : s.proceed now (.watch ns options) = s.accept r (.watch ns options) := by
    unfold proceed
    rw [h]
    exact if_pos hn
  exact haccept

/-- As long as nothing has arrived, there is neither a watch nor an error. -/
theorem poll_watch_of_silence
    (h : ∀ moment arrival, s.due = some (moment, arrival) → moment.reached now = false) :
    s.poll now (.watch ns options) true = (s, none) := by
  change s.proceed now (.watch ns options) = _
  unfold proceed
  cases hd : s.due with
  | none => rfl
  | some a => simp [h a.1 a.2 hd]

/-! The reader of a watch of the service. -/

variable {w : WatchId} {c : Relay}

/-- The watch `w` of the service is relayed as `c`. -/
def Relays (s : ApiService) (w : WatchId) (c : Relay) : Prop :=
  s.watches[w.number]? = some c.forwarder

theorem Relays.setWatch (h : s.Relays w c) (c' : Relay) :
    (s.setWatch w c'.forwarder).Relays w c' := by
  obtain ⟨hlt, -⟩ := List.getElem?_eq_some_iff.mp h
  exact List.getElem?_set_self hlt

theorem Relays.next (h : s.Relays w c) :
    (s.next w).1.Relays w (c.act .next) ∧ (c.act .next).told = c.told ++ [(s.next w).2] := by
  have hnext : s.next w = (s.setWatch w c.forwarder.next.1, c.forwarder.next.2) := by
    unfold ApiService.next
    rw [show s.watches[w.number]? = some c.forwarder from h]
  rw [hnext]
  exact ⟨h.setWatch (c.act .next), rfl⟩

theorem Relays.stop (h : s.Relays w c) : (s.stop w).Relays w
    ((c.act .stop).perform (Relay.settling (c.act .stop).forwarder)) := by
  have hstop : s.stop w = s.setWatch w c.forwarder.stop.settle := by
    unfold ApiService.stop
    rw [show s.watches[w.number]? = some c.forwarder from h]
  rw [hstop, Relay.perform_settling]
  exact h.setWatch { c.act .stop with forwarder := c.forwarder.stop.settle }

/-- The reader of a watch that has just been opened has been told nothing. -/
theorem relays_opened (s : ApiService) (r : ApiResponse) :
    ({ s with watches := s.watches ++ [(Forwarder.start r).settle] } : ApiService).Relays
      ⟨s.watches.length⟩
      ((Relay.start r.items r.ended).perform (Relay.settling (Forwarder.start r))) := by
  have hsettle : (Relay.start r.items r.ended).perform (Relay.settling (Forwarder.start r)) =
      { forwarder := (Forwarder.start r).settle } :=
    Relay.perform_settling (Relay.start r.items r.ended)
  rw [hsettle]
  exact List.getElem?_concat_length

end ApiService

end PodPipeline
