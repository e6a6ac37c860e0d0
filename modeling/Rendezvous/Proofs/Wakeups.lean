import Rendezvous.Proofs.Creation
import Rendezvous.Proofs.Orderly
import Rendezvous.Proofs.ReadySets

/-!
# No lost and no repeated wake-up

Under the rules of use a strand is suspended exactly if it waits for one thing, and a strand that is
woken is queued once.

* **Flushes** (`Orderly.flushAll`): the sender of a flush that waits is registered with a new
  barrier, in place of registrations that do not count any more.
* **The rules of use** (`Roles.Permits`): who may make which call. Failures may be reported at any
  moment.
* **Runs** (`Orderly.run`, `suspended_iff_waits`): every run that keeps the rules is orderly.
-/

namespace Rendezvous

namespace Network

variable {τ ε : Type} {R : Roles} {n m : Network τ ε} {s : Strand.Ref} {d : Slot.Ref}

/-! ## Flushes -/

/-- A barrier is not the coordinator that is created next. -/
theorem ne_fresh_of_barrier {k : Coordinator.Ref} {b : Barrier} (h : n.coordinator k = .barrier b) :
    k ≠ n.coordinators.fresh := by
  rintro rfl
  rw [coordinator, Store.get_fresh] at h
  cases h

/-- On the channels of a sender that runs no flush waits. -/
theorem Waiting.stale {w : Strand.Ref → Option Wait} (hw : Waiting R n w) (hg : Guarded R n)
    {c : Channel.Ref} (hs : (n.strand (R.sender c)).phase = .running) {p : FlushParty}
    (hp : (n.channel c).flushSender = some p) : (n.slot p.slot).isResolved = true := by
  cases ho : (n.slot p.slot).isResolved with
  | true => rfl
  | false =>
    have hwp := hw.flushing c p hp ho
    rw [← hg.sender c p hp, hw.none_of_running hs] at hwp
    cases hwp

/-- A new barrier waits for the channels that are not drained, and knows those that are. -/
theorem Asked.counts {cs : List Channel.Ref} {drained : List ChannelId}
    (h : n.Asked s d (cs.map (·.id)).eraseDups.length cs m) (hknown : n.Known cs drained)
    (hg : Guarded R n) (hid : ∀ a ∈ cs, ∀ b ∈ cs, a.id = b.id → a = b) :
    m.Counts n.coordinators.fresh ⟨s, d, (cs.map (·.id)).eraseDups.length, drained⟩ := by
  let left := (cs.filter fun c => !(n.channel c).isDrained).eraseDups
  have hleft : ∀ c, c ∈ left ↔ c ∈ cs ∧ (n.channel c).isDrained = false := by
    intro c
    rw [List.mem_eraseDups, List.mem_filter, Bool.not_eq_true']
  have hnodup : (drained ++ left.map (·.id)).Nodup := by
    rw [List.nodup_append]
    refine ⟨hknown.1, ?_, ?_⟩
    · refine List.pairwise_map.2 ((nodup_eraseDups _).imp_of_mem ?_)
      intro a b ha hb hne heq
      exact hne (hid a ((hleft a).1 ha).1 b ((hleft b).1 hb).1 heq)
    · intro x hx y hy hxy
      obtain ⟨a, ha, hda, rfl⟩ := (hknown.2 x).1 hx
      obtain ⟨b, hb, rfl⟩ := List.mem_map.1 hy
      obtain ⟨hb, hdb⟩ := (hleft b).1 hb
      rw [hid a ha b hb hxy, hdb] at hda
      cases hda
  have hsub : drained ++ left.map (·.id) ⊆ cs.map (·.id) := by
    intro x hx
    obtain hx | hx := List.mem_append.1 hx
    · obtain ⟨a, ha, -, rfl⟩ := (hknown.2 x).1 hx
      exact List.mem_map_of_mem ha
    · obtain ⟨b, hb, rfl⟩ := List.mem_map.1 hx
      exact List.mem_map_of_mem ((hleft b).1 hb).1
  refine ⟨left, fun c => ?_, hnodup, ?_⟩
  · rw [hleft, h.channel]
    by_cases hc : c ∈ cs ∧ (n.channel c).isDrained = false
    · rw [if_pos hc]
      simp [hc]
    · rw [if_neg hc]
      simp only [hc, false_iff]
      rintro ⟨p, hp, hk⟩
      obtain ⟨b, hb, -⟩ := hg.barrier c p hp
      exact ne_fresh_of_barrier hb hk
  · have hlen := (length_eq_eraseDups hnodup hsub).2 fun x hx => by
      obtain ⟨c, hc, rfl⟩ := List.mem_map.1 hx
      cases hd : (n.channel c).isDrained with
      | true => exact List.mem_append_left _ ((hknown.2 c.id).2 ⟨c, hc, hd, rfl⟩)
      | false => exact List.mem_append_right _ (List.mem_map_of_mem ((hleft c).2 ⟨hc, hd⟩))
    rw [List.length_append, List.length_map] at hlen
    exact hlen

/-- The registrations that a flush which waits took the place of do not count any more, and all
others stay. -/
theorem Asked.guarded {cs : List Channel.Ref}
    (h : n.Asked s d (cs.map (·.id)).eraseDups.length cs m) (hg : Guarded R n)
    (hrole : ∀ c ∈ cs, R.sender c = s) (hid : ∀ a ∈ cs, ∀ b ∈ cs, a.id = b.id → a = b)
    (hstale : ∀ c ∈ cs, ∀ p, (n.channel c).flushSender = some p →
      (n.slot p.slot).isResolved = true) : Guarded R m := by
  constructor
  case sender =>
    intro x p hp
    rw [h.channel] at hp
    split at hp
    · rename_i hx
      cases hp
      exact hrole x hx.1
    · exact hg.sender x p hp
  case barrier =>
    intro x p hp
    rw [h.channel] at hp
    split at hp
    · cases hp
      obtain ⟨drained, hbarrier, hknown⟩ := h.barrier
      exact ⟨_, hbarrier, rfl, rfl, fun _ => h.counts hknown hg hid⟩
    · obtain ⟨b, hb, hstrand, hslot, hcounts⟩ := hg.barrier x p hp
      have hk := ne_fresh_of_barrier hb
      rw [h.coordinator _ hk, h.slot]
      refine ⟨b, hb, hstrand, hslot, fun ho => ?_⟩
      obtain ⟨left, hleft, hnodup, hlen⟩ := hcounts ho
      refine ⟨left, fun y => ?_, hnodup, hlen⟩
      rw [hleft, h.channel]
      by_cases hy : y ∈ cs ∧ (n.channel y).isDrained = false
      · rw [if_pos hy]
        constructor
        · rintro ⟨q, hq, hqk⟩
          -- The slot of that barrier is unresolved, so nobody took its place.
          obtain ⟨b', hb', -, hslot', -⟩ := hg.barrier y q hq
          rw [hqk, hb] at hb'
          cases hb'
          rw [← hslot, hslot', hstale y hy.1 q hq] at ho
          cases ho
        · rintro ⟨q, hq, hqk⟩
          cases hq
          exact absurd hqk.symm hk
      · rw [if_neg hy]

/-- A flush that ends at once reaches its fresh slot, and removes registrations that do not count
any more. -/
theorem Ended.orderly {r : Resolution ε} (he : n.Ended d r m) (h : Orderly R n) (hd : n.Fresh d)
    (hr : ∀ x, (m.channel x).receiver = (n.channel x).receiver)
    (hy : ∀ x, (m.channel x).syncSender = (n.channel x).syncSender)
    (hf : ∀ x p, (m.channel x).flushSender = some p → (n.channel x).flushSender = some p)
    (hk : ∀ x p, (n.channel x).flushSender = some p → (n.slot p.slot).isResolved = false →
      (m.channel x).flushSender = some p) : Orderly R m := by
  obtain ⟨w, hw⟩ := h.waiting
  have hres : ∀ e, (n.slot e).isResolved = true → (m.slot e).isResolved = true := by
    intro e hne
    rw [he.slot]
    split
    · rfl
    · exact hne
  have hm : Settles n m := by
    refine ⟨hf, fun x p hp ho => hk x p hp ?_, hres,
      fun x p b _ hb => ⟨b, ?_, rfl, rfl, fun _ => rfl⟩⟩
    · exact Bool.eq_false_iff.2 fun hn => by rw [hres _ hn] at ho; cases ho
    · rw [he.coordinator _ (ne_fresh_of_barrier hb), hb]
  refine ⟨h.guarded.settle hm, w, hw.settle hm (fun t => by rw [he.strand]) hr hy
    fun t v e hv hve => ?_⟩
  have hne : e ≠ d := fun hed => hw.slot_ne_of_fresh hd t v hv (hed ▸ hve)
  rw [he.slot, if_neg hne]
  exact hw.unresolved t v e hv hve

namespace Orderly

theorem flushAll (h : Orderly R n) {cs : List Channel.Ref} (hs : (n.strand s).phase = .running)
    (hrole : ∀ c ∈ cs, R.sender c = s) (hd : n.Fresh d)
    (hid : ∀ a ∈ cs, ∀ b ∈ cs, a.id = b.id → a = b) : Orderly R (n.flushAll cs s d).1 := by
  obtain ⟨w, hw⟩ := h.waiting
  have hstale : ∀ c ∈ cs, ∀ p, (n.channel c).flushSender = some p →
      (n.slot p.slot).isResolved = true := fun c hc p hp =>
    hw.stale h.guarded ((hrole c hc).symm ▸ hs) hp
  have hends := n.flushAll_cases cs hs hd.1 (fun x => (hd.2 x).2) hid
  revert hends
  rcases n.flushAll cs s d with ⟨m, ended⟩
  intro hends
  cases hends with
  | @failed asked _ _ _ _ _ hcs _ _ hended hchannel =>
    refine hended.orderly h hd (fun x => by rw [hchannel]) (fun x => by rw [hchannel])
      (fun x p hp => ?_) fun x p hp ho => ?_
    · rw [hchannel] at hp
      dsimp only at hp
      split at hp
      · cases hp
      · exact hp
    · rw [hchannel]
      dsimp only
      rw [if_neg, hp]
      rintro ⟨hx, -⟩
      rw [hstale x (by rw [hcs]; exact List.mem_append_left _ hx) p hp] at ho
      cases ho
  | drained _ hended hchannel =>
    exact hended.orderly h hd (fun x => by rw [hchannel]) (fun x => by rw [hchannel])
      (fun x p hp => by rw [← hchannel, hp]) fun x p hp _ => by rw [hchannel, hp]
  | parked _ hsome hasked =>
    refine ⟨hasked.guarded h.guarded hrole hid hstale, _, hw.park (v := .flush d)
      (hw.none_of_running hs) trivial (fun t => ?_) (fun x t => ?_) (fun x p => ?_)
      (fun x p hp _ => ?_) (fun x p hp ho => ?_) (fun e he => ?_) (fun e => by rw [hasked.slot]) ?_⟩
    · rw [hasked.strand]
      by_cases ht : t = s
      · rw [if_pos ⟨ht, hsome⟩, if_pos ht]
      · rw [if_neg fun hand => ht hand.1, if_neg ht]
    · rw [hasked.channel]
      split <;> simp
    · rw [hasked.channel]
      split <;> simp
    · rw [hasked.channel] at hp
      split at hp
      · cases hp
        exact .inr ⟨rfl, rfl⟩
      · exact .inl hp
    · rw [hasked.channel, if_neg, hp]
      rintro ⟨hx, -⟩
      rw [hstale x hx p hp] at ho
      cases ho
    · cases he
      obtain ⟨c, hc, hdc⟩ := hsome
      exact ⟨c, ⟨⟨s, d⟩, _, _⟩, by rw [hasked.channel, if_pos ⟨hc, hdc⟩], rfl, rfl⟩
    · rintro e ⟨⟩
      exact ⟨hd.1, fun t u hu => hw.slot_ne_of_fresh hd t u hu⟩

end Orderly

end Network

/-! ## The rules of use -/

variable {τ ε : Type} {R : Roles} {n : Network τ ε}

/-- What may be done on a channel: its sender sends and its receiver receives, when they run. A
value that is waited for comes with a fresh slot. Failures of either side are reported at any
moment. -/
def Roles.PermitsOn (R : Roles) (n : Network τ ε) (c : Channel.Ref) : Operation τ ε → Prop
  | .send _ s => R.sender c = s ∧ (n.strand s).phase = .running
  | .syncSend _ s d => R.sender c = s ∧ (n.strand s).phase = .running ∧ n.Fresh d
  | .receive s => R.receiver c = s ∧ (n.strand s).phase = .running
  | .flush .. => False
  | .failSend _ => True
  | .failReceive _ => True

/-- The rules of use. Channels are created before they are used, a sender flushes its own channels,
when it runs and with a fresh slot, and the consumers of the ready sets stay. Nobody wakes strands,
resolves slots or tells coordinators of drained channels by hand. -/
def Roles.Permits (R : Roles) (n : Network τ ε) : Call τ ε → Prop
  | .operate c op => n.Exists c ∧ R.PermitsOn n c op
  | .flushAll cs s d => (∀ c ∈ cs, n.Exists c ∧ R.sender c = s) ∧
      (n.strand s).phase = .running ∧ n.Fresh d
  | .dropConsumer _ | .wake _ | .markRunning _ | .resume _ | .offer .. | .notifyDrained .. => False
  | _ => True

instance (R : Roles) (n : Network τ ε) (c : Channel.Ref) :
    (op : Operation τ ε) → Decidable (R.PermitsOn n c op)
  | .send .. => inferInstanceAs (Decidable (_ ∧ _))
  | .syncSend .. => inferInstanceAs (Decidable (_ ∧ _ ∧ _))
  | .receive .. => inferInstanceAs (Decidable (_ ∧ _))
  | .flush .. => instDecidableFalse
  | .failSend _ | .failReceive _ => instDecidableTrue

instance (R : Roles) (n : Network τ ε) : (call : Call τ ε) → Decidable (R.Permits n call)
  | .operate .. => inferInstanceAs (Decidable (_ ∧ _))
  | .flushAll .. => inferInstanceAs (Decidable ((∀ c ∈ _, _ ∧ _) ∧ _ ∧ _))
  | .dropConsumer _ | .wake _ | .markRunning _ | .resume _ | .offer .. | .notifyDrained .. =>
    instDecidableFalse
  | .createReadySet | .createStrand .. | .createSlot | .createChannel _ | .createDrainLog
  | .createBarrier .. | .createTable _ | .dropScheduler _ | .dispatch _ | .poll .. | .take _
  | .lookup .. | .lookupOrCreate .. | .unlink .. => instDecidableTrue

namespace Network

/-- The channels that a call is passed exist. -/
theorem exists_of_permits {call : Call τ ε} (h : R.Permits n call) :
    ∀ c ∈ call.channels, n.Exists c := by
  intro c hc
  cases call with
  | operate x op => exact List.mem_singleton.1 hc ▸ h.1
  | flushAll cs s d => exact (h.1 c hc).1
  | _ => cases hc

namespace Orderly

theorem operate (h : Orderly R n) {c : Channel.Ref} {op : Operation τ ε}
    (hp : R.PermitsOn n c op) : Orderly R (n.operate c op).1 := by
  cases op with
  | send value s => exact h.send value s
  | syncSend value s d =>
    obtain ⟨rfl, hs, hd⟩ := hp
    exact h.syncSend value hs hd
  | receive s =>
    obtain ⟨rfl, hs⟩ := hp
    exact h.receive hs
  | flush => cases hp
  | failSend f => exact h.failSend c f
  | failReceive f => exact h.failReceive c f

/-- The strand that is handed out was ready, so nobody is registered for it. -/
theorem dispatch (h : Orderly R n) (hq : ∀ s, n.Queued s) (q : ReadySet.Ref) :
    Orderly R (n.dispatch q).1 := by
  unfold Network.dispatch
  split
  · exact h
  · rename_i t rest heq
    have hready : (n.strand t).phase = .ready := by
      have hcount := hq t q
      rw [heq, List.count_cons_self] at hcount
      split at hcount
      · rename_i hand
        exact hand.2.1
      · cases hcount
    refine h.same (fun s => ?_) (fun _ => rfl) (fun _ => rfl) (fun _ => rfl) (fun _ => rfl)
      fun _ _ hb => hb
    have hstrand : ((n.setReadySet q { n.readySet q with queue := rest }).resume t).strand s =
        if s = t then { n.strand t with phase := .running } else n.strand s := by
      simp only [strand, resume, setPhase, setStrand, setReadySet, Store.get_set]
    dsimp only
    rw [hstrand]
    split
    · rename_i hst
      subst hst
      simp [hready]
    · exact .rfl

theorem createChannel (h : Orderly R n) (options : ChannelOptions) :
    Orderly R (n.createChannel options).1 := by
  have hc := n.channel_createChannel
  have hdefault : n.channel n.channels.fresh = default := Store.get_fresh _
  refine h.same (fun _ => .rfl) (fun x => ?_) (fun x => ?_) (fun x => ?_) (fun _ => rfl)
    fun _ _ hb => hb
  all_goals
    rw [hc]
    split
    · rename_i hx
      rw [hx, hdefault]
      rfl
    · rfl

/-- A coordinator that is created is not in use. -/
theorem setCoordinator (h : Orderly R n) (x : Coordinator) :
    Orderly R (n.setCoordinator n.coordinators.fresh x) := by
  refine h.same (fun _ => .rfl) (fun _ => rfl) (fun _ => rfl) (fun _ => rfl) (fun _ => rfl)
    fun k b hb => ?_
  rw [coordinator_setCoordinator, if_neg (ne_fresh_of_barrier hb), hb]

/-- A call that keeps the rules keeps the network orderly. -/
theorem perform (h : Orderly R n) (hq : ∀ s, n.Queued s) (hsize : n.channels.size < UInt64.size)
    {call : Call τ ε} (hp : R.Permits n call) : Orderly R (n.perform call).1 := by
  cases call with
  | operate c op => exact h.operate hp.2
  | flushAll cs s d =>
    obtain ⟨hcs, hs, hd⟩ := hp
    exact h.flushAll hs (fun c hc => (hcs c hc).2) hd fun a ha b hb =>
      id_inj_of_exists hsize (hcs a ha).1 (hcs b hb).1
  | dispatch q => exact h.dispatch hq q
  | poll q held =>
    change Orderly R (n.poll q held).1
    rw [fst_poll]
    exact h.dispatch hq q
  | createStrand name home =>
    refine h.same (fun s => ?_) (fun _ => rfl) (fun _ => rfl) (fun _ => rfl) (fun _ => rfl)
      fun _ _ hb => hb
    have hset : (n.createStrand name home).1.strand s =
        if s = n.strands.fresh then { name, home } else n.strand s := Store.get_set ..
    have hdefault : n.strand n.strands.fresh = {} := Store.get_fresh _
    change ((n.createStrand name home).1.strand s).phase = _ ↔ _
    rw [hset]
    split
    · rename_i hs
      rw [hs, hdefault]
    · exact .rfl
  | createSlot =>
    refine h.same (fun _ => .rfl) (fun _ => rfl) (fun _ => rfl) (fun _ => rfl) (fun e => ?_)
      fun _ _ hb => hb
    have hdefault : n.slot n.slots.fresh = .empty := Store.get_fresh _
    refine (congrArg Slot.isResolved (slot_setSlot n n.slots.fresh .empty e)).trans ?_
    split
    · rename_i he
      rw [he, hdefault]
    · rfl
  | createChannel options => exact h.createChannel options
  | createDrainLog => exact h.setCoordinator _
  | createBarrier s d expected => exact h.setCoordinator _
  | take d =>
    refine h.same (fun _ => .rfl) (fun _ => rfl) (fun _ => rfl) (fun _ => rfl) (fun e => ?_)
      fun _ _ hb => hb
    refine (congrArg Slot.isResolved (slot_setSlot n d (n.slot d).take.2 e)).trans ?_
    split
    · rename_i he
      rw [he, Slot.isResolved_take]
    · rfl
  | lookupOrCreate t name =>
    change Orderly R (n.lookupOrCreate t name).1
    unfold Network.lookupOrCreate
    split
    · exact h
    · exact (h.createChannel _).same (fun _ => .rfl) (fun _ => rfl) (fun _ => rfl) (fun _ => rfl)
        (fun _ => rfl) fun _ _ hb => hb
  | createReadySet | createTable | dropScheduler | lookup | unlink =>
    exact h.same (fun _ => .rfl) (fun _ => rfl) (fun _ => rfl) (fun _ => rfl) (fun _ => rfl)
      fun _ _ hb => hb
  | dropConsumer | wake | markRunning | resume | offer | notifyDrained => cases hp

/-- At the start nobody is suspended and nobody is registered. -/
theorem start : Orderly R ({} : Network τ ε) where
  guarded := ⟨nofun, nofun⟩
  waiting := by
    refine ⟨fun _ => none, ?_⟩
    constructor
    case suspended => exact fun s => ⟨nofun, nofun⟩
    case receiver => exact fun c s => ⟨nofun, nofun⟩
    case syncSender => exact fun c p => ⟨nofun, nofun⟩
    all_goals nofun

/-- So does a run, as long as there are no more channels than a word can number. -/
theorem run (h : Orderly R n) (hq : ∀ s, n.Queued s) {calls : List (Call τ ε)}
    (hp : n.Keeps R.Permits calls) (hsize : n.channels.size + calls.length < UInt64.size) :
    Orderly R (n.run calls) := by
  induction calls generalizing n with
  | nil => exact h
  | cons call calls ih =>
    obtain ⟨hcall, hrest⟩ := hp
    rw [List.length_cons] at hsize
    have hstep : (n.perform call).1.channels.size + calls.length < UInt64.size := by
      have hone := size_perform (exists_of_permits hcall)
      omega
    refine ih (h.perform hq (by omega) hcall) (fun s => (hq s).perform ?_) hrest hstep
    rintro rfl
    exact hcall

end Orderly

/-- Nobody resumes strands by hand. -/
theorem notMem_resume_of_keeps {calls : List (Call τ ε)} (h : n.Keeps R.Permits calls)
    (s : Strand.Ref) : .resume s ∉ calls := by
  induction calls generalizing n with
  | nil => exact List.not_mem_nil
  | cons call calls ih =>
    rw [List.mem_cons, not_or]
    refine ⟨?_, ih h.2⟩
    rintro rfl
    exact h.1

/-- All ready sets keep their consumers. -/
theorem hasConsumer_of_keeps {calls : List (Call τ ε)} (h : n.Keeps R.Permits calls)
    {q : ReadySet.Ref} (hq : (n.readySet q).hasConsumer = true) :
    ((n.run calls).readySet q).hasConsumer = true := by
  refine h.invariant (P := fun m => (m.readySet q).hasConsumer = true)
    (fun m call hm hcall => ?_) hq
  refine hasConsumer_perform hm ?_
  rintro rfl
  exact hcall

/-- In every run that keeps the rules a strand is suspended exactly if it waits for one thing, and
then for no other. What it waits for through a slot is still to come. A strand that is ready is
queued once, at its home, and no other strand is queued. -/
theorem suspended_iff_waits (R : Roles) (calls : List (Call τ ε))
    (hrules : ({} : Network τ ε).Keeps R.Permits calls) (hlen : calls.length < UInt64.size)
    (s : Strand.Ref) :
    let n := ({} : Network τ ε).run calls
    ((n.strand s).phase = .suspended ↔ ∃! v, n.Waits s v) ∧
      ((n.strand s).phase ≠ .suspended → ∀ v, ¬ n.Waits s v) ∧
      (∀ c d, n.Waits s (.sync c d) → (n.slot d).isResolved = false) ∧
      ∀ q, (n.readySet q).queue.count s =
        if (n.strand s).home = q ∧ (n.strand s).phase = .ready then 1 else 0 := by
  intro n
  have hsize : ({} : Network τ ε).channels.size + calls.length < UInt64.size := by
    have hnone : ({} : Network τ ε).channels.size = 0 := rfl
    omega
  have hn : Orderly R n := Orderly.start.run Queued.start hrules hsize
  obtain ⟨w, hw⟩ := hn.waiting
  refine ⟨?_, fun hs v hv => ?_, fun c d hv => ?_, fun q => ?_⟩
  · rw [hw.suspended]
    simp only [hw.waits_iff]
    constructor
    · rintro ⟨v, hv⟩
      exact ⟨v, hv, fun u hu => Option.some.inj (hu.symm.trans hv)⟩
    · rintro ⟨v, hv, -⟩
      exact ⟨v, hv⟩
  · exact hs ((hw.suspended s).2 ⟨v, (hw.waits_iff s v).1 hv⟩)
  · exact hw.unresolved s _ d ((hw.waits_iff s _).1 hv) rfl
  · have hqueued : n.Queued s := (Queued.start s).run (notMem_resume_of_keeps hrules s)
    have hlive : (n.readySet q).hasConsumer = true := hasConsumer_of_keeps hrules rfl
    rw [hqueued q]
    simp only [hlive, and_true]

/-- A flush fails on its first channel and leaves a registration with the second one behind. Its
sender is woken once, runs, and waits for something else. -/
theorem suspended_iff_waits_stale :
    let R : Roles := ⟨fun _ => ⟨0⟩, fun _ => ⟨1⟩⟩
    let calls : List (Call Nat String) := [
      .createReadySet,
      .createStrand (some "tx") ⟨0⟩,
      .createStrand (some "rx") ⟨0⟩,
      .createSlot,
      .createSlot,
      .createChannel {},
      .createChannel {},
      .operate ⟨0⟩ (.send 1 ⟨0⟩),
      .operate ⟨1⟩ (.send 2 ⟨0⟩),
      .flushAll [⟨0⟩, ⟨1⟩] ⟨0⟩ ⟨0⟩,
      .operate ⟨0⟩ (.failReceive (.error "lost")),
      .dispatch ⟨0⟩,
      .operate ⟨1⟩ (.syncSend 3 ⟨0⟩ ⟨1⟩)]
    let n := ({} : Network Nat String).run calls
    ({} : Network Nat String).Keeps R.Permits calls ∧ calls.length < UInt64.size ∧
      n.Waits ⟨0⟩ (.sync ⟨1⟩ ⟨1⟩) ∧ (∃! v, n.Waits ⟨0⟩ v) ∧ (∀ v, ¬ n.Waits ⟨1⟩ v) ∧
      (n.channel ⟨1⟩).flushSender.map (·.strand) = some ⟨0⟩ := by
  intro R calls n
  have hrules : ({} : Network Nat String).Keeps R.Permits calls := by decide
  have hlen : calls.length < UInt64.size := by decide
  refine ⟨hrules, hlen, rfl, ?_, ?_, rfl⟩
  · exact (suspended_iff_waits R calls hrules hlen ⟨0⟩).1.1 rfl
  · exact (suspended_iff_waits R calls hrules hlen ⟨1⟩).2.1 (by decide)

end Network

end Rendezvous
