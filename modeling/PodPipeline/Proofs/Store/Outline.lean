import PodPipeline.Proofs.Store.Faithful

/-! What a run can tell of a pod: its name, its namespace and its status. A store does to the
outlines of its pods what it does to the pods. -/
namespace PodPipeline

namespace Pod

/-- The pod without labels, annotations, specification and the rest of its metadata. -/
def outline (p : Pod) : Pod where
  metadata := { name := p.metadata.name, «namespace» := p.metadata.namespace }
  status := p.status

@[simp] theorem verdict_outline (p : Pod) : p.outline.verdict = p.verdict := rfl

end Pod

/-! Events and the watches that carry them. -/

namespace WatchEvent

def outline : WatchEvent → WatchEvent
  | .added p => .added p.outline
  | .modified p => .modified p.outline
  | .deleted p => .deleted p.outline
  | .error message => .error message

theorem verdict_outline (name : String) (e : WatchEvent) :
    e.outline.verdict name = e.verdict name := by
  cases e <;> rfl

theorem reports_outline (o : ListOptions) (e : WatchEvent) : o.reports e.outline = o.reports e := by
  cases e <;> rfl

end WatchEvent

def Delivery.outline : Delivery → Delivery
  | .event e => .event e.outline
  | d => d

namespace EventChannel

variable (c : EventChannel)

def outline : EventChannel := { c with queue := c.queue.map (·.outline) }

theorem outline_send (e : WatchEvent) : (c.send e).outline = c.outline.send e.outline := by
  unfold send
  change outline (if c.isOpen then _ else _) = if c.isOpen then _ else _
  split
  · simp [outline]
  · rfl

theorem next_outline : c.outline.next = (c.next.1.outline, c.next.2.outline) := by
  obtain ⟨queue, sending, stopped⟩ := c
  cases stopped with
  | true => rfl
  | false =>
    cases queue with
    | cons e rest => rfl
    | nil => cases sending <;> rfl

end EventChannel

namespace Subscription

variable (s : Subscription)

def outline : Subscription := { s with channel := s.channel.outline }

theorem outline_notify (ns : String) (e : WatchEvent) :
    (s.notify ns e).outline = s.outline.notify ns e.outline := by
  have hreports : s.outline.reports ns e.outline = s.reports ns e :=
    congrArg (s.namespace = ns && ·) (WatchEvent.reports_outline s.options e)
  unfold notify
  rw [hreports]
  split
  · exact congrArg (Subscription.mk s.namespace s.options) (s.channel.outline_send e)
  · rfl

end Subscription

namespace PodTable

variable (t : PodTable) (k : PodKey)

def outline : PodTable := ⟨t.entries.map fun e => (e.1, e.2.outline)⟩

theorem find?_outline : t.outline.find? k = (t.find? k).map (·.outline) := by
  unfold find? outline
  rw [List.find?_map, Option.map_map, Option.map_map]
  rfl

theorem outline_erase : (t.erase k).outline = t.outline.erase k := by
  unfold erase outline
  rw [List.filter_map]
  rfl

theorem outline_insert (p : Pod) : (t.insert k p).outline = t.outline.insert k p.outline := by
  have h := congrArg entries (t.outline_erase k)
  exact congrArg (fun l => PodTable.mk ((k, p.outline) :: l)) h

end PodTable

def ClientCall.outline : ClientCall → ClientCall
  | .create ns p => .create ns p.outline
  | .updateStatus ns p => .updateStatus ns p.outline
  | c => c

def StoreAct.outline : StoreAct → StoreAct
  | .call c => .call c.outline
  | .insert p => .insert p.outline
  | .inject ns e => .inject ns e.outline
  | a => a

namespace PodStore

variable (s : PodStore)

def outline : PodStore :=
  { pods := s.pods.outline, watches := s.watches.map (·.outline), actions := s.actions }

theorem contents_outline (k : PodKey) : s.outline.contents k = (s.contents k).map (·.outline) :=
  s.pods.find?_outline k

theorem outline_broadcast (ns : String) (e : WatchEvent) :
    (s.broadcast ns e).outline = s.outline.broadcast ns e.outline := by
  have h : (s.watches.map (Subscription.notify ns e)).map (·.outline) =
      (s.watches.map (·.outline)).map (Subscription.notify ns e.outline) := by
    rw [List.map_map, List.map_map]
    exact List.map_congr_left fun w _ => w.outline_notify ns e
  exact congrArg (PodStore.mk s.pods.outline · s.actions) h

/-! The calls. -/

theorem create_outline (ns : String) (p : Pod) : s.outline.create ns p.outline =
    ((s.create ns p).1.outline, (s.create ns p).2.map (·.outline)) := by
  have hc := s.contents_outline ⟨ns, p.name⟩
  cases hf : s.contents ⟨ns, p.name⟩ with
  | some old =>
    rw [hf] at hc
    rw [create_of_present hf, create_of_present (p := p.outline) hc]
    rfl
  | none =>
    rw [hf] at hc
    rw [create_of_absent hf, create_of_absent (p := p.outline) hc]
    refine Prod.ext ?_ rfl
    rw [outline_broadcast]
    refine congrArg (broadcast · ns _) ?_
    exact congrArg (PodStore.mk · _ _)
      (s.pods.outline_insert ⟨ns, p.name⟩ (p.inNamespace ns)).symm

theorem get_outline (ns name : String) : s.outline.get ns name =
    ((s.get ns name).1.outline, (s.get ns name).2.map (·.outline)) := by
  have hc := s.contents_outline ⟨ns, name⟩
  cases hf : s.contents ⟨ns, name⟩ with
  | some p =>
    rw [hf] at hc
    rw [get_of_present hf, get_of_present hc]
    rfl
  | none =>
    rw [hf] at hc
    rw [get_of_absent hf, get_of_absent hc]
    rfl

theorem updateStatus_outline (ns : String) (p : Pod) : s.outline.updateStatus ns p.outline =
    ((s.updateStatus ns p).1.outline, (s.updateStatus ns p).2.map (·.outline)) := by
  have hc := s.contents_outline ⟨ns, p.name⟩
  cases hf : s.contents ⟨ns, p.name⟩ with
  | some old =>
    rw [hf] at hc
    rw [updateStatus_of_present hf, updateStatus_of_present (p := p.outline) hc]
    refine Prod.ext ?_ rfl
    rw [outline_broadcast]
    refine congrArg (broadcast · ns _) ?_
    exact congrArg (PodStore.mk · _ _)
      (s.pods.outline_insert ⟨ns, p.name⟩ (old.withStatus p.status)).symm
  | none =>
    rw [hf] at hc
    rw [updateStatus_of_absent hf, updateStatus_of_absent (p := p.outline) hc]
    rfl

theorem watch_outline (ns : String) (o : ListOptions) :
    s.outline.watch ns o = ((s.watch ns o).1.outline, (s.watch ns o).2) := by
  unfold watch outline
  simp [record, Subscription.outline, EventChannel.outline]

theorem delete_outline (ns name : String) : s.outline.delete ns name =
    ((s.delete ns name).1.outline, (s.delete ns name).2) := by
  have hc := s.contents_outline ⟨ns, name⟩
  cases hf : s.contents ⟨ns, name⟩ with
  | some p =>
    rw [hf] at hc
    rw [delete_of_present hf, delete_of_present hc]
    refine Prod.ext ?_ rfl
    rw [outline_broadcast]
    refine congrArg (broadcast · ns _) ?_
    exact congrArg (PodStore.mk · _ _) (s.pods.outline_erase _).symm
  | none =>
    rw [hf] at hc
    rw [delete_of_absent hf, delete_of_absent hc]
    rfl

/-! Reading watches. -/

theorem channel?_outline (w : WatchId) : s.outline.channel? w = (s.channel? w).map (·.outline) := by
  unfold channel? outline
  rw [List.getElem?_map, Option.map_map, Option.map_map]
  rfl

theorem outline_setChannel (w : WatchId) (c : EventChannel) :
    (s.setChannel w c).outline = s.outline.setChannel w c.outline := by
  have h : (s.watches.modify w.number fun t => { t with channel := c }).map (·.outline) =
      (s.watches.map (·.outline)).modify w.number fun t => { t with channel := c.outline } := by
    refine List.ext_getElem? fun i => ?_
    rw [List.getElem?_map, List.getElem?_modify, List.getElem?_modify, List.getElem?_map]
    cases s.watches[i]? with
    | none => rfl
    | some t => by_cases hi : w.number = i <;> simp [hi, Subscription.outline]
  exact congrArg (PodStore.mk s.pods.outline · s.actions) h

theorem next_outline (w : WatchId) :
    s.outline.next w = ((s.next w).1.outline, (s.next w).2.outline) := by
  unfold next
  rw [channel?_outline]
  cases s.channel? w with
  | none => rfl
  | some c =>
    simp only [Option.map_some, EventChannel.next_outline, outline_setChannel]

theorem outline_stop (w : WatchId) : (s.stop w).outline = s.outline.stop w := by
  unfold stop
  rw [channel?_outline]
  cases s.channel? w with
  | none => rfl
  | some c => exact s.outline_setChannel w c.stop

/-- Whatever happens to the store, its outline comes to be as if the same had happened to it. -/
theorem outline_act (a : StoreAct) : (s.act a).outline = s.outline.act a.outline := by
  cases a with
  | call c =>
    cases c with
    | create ns p => exact (congrArg Prod.fst (s.create_outline ns p)).symm
    | get ns name => exact (congrArg Prod.fst (s.get_outline ns name)).symm
    | updateStatus ns p => exact (congrArg Prod.fst (s.updateStatus_outline ns p)).symm
    | watch ns o => exact (congrArg Prod.fst (s.watch_outline ns o)).symm
    | delete ns name => exact (congrArg Prod.fst (s.delete_outline ns name)).symm
  | insert p => exact congrArg (PodStore.mk · _ _) (s.pods.outline_insert _ _)
  | inject ns e => exact s.outline_broadcast ns e
  | closeWatches =>
    refine congrArg (PodStore.mk s.pods.outline · s.actions) ?_
    simp only [act, closeWatches, outline, List.map_map]
    rfl
  | next w => exact (congrArg Prod.fst (s.next_outline w)).symm
  | stop w => exact s.outline_stop w

end PodStore

end PodPipeline
