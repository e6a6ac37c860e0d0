import Mathlib.Data.List.Induction
import Rendezvous.Proofs.Bystanders
import Rendezvous.Proofs.Creation
import Rendezvous.Proofs.Fifo
import Rendezvous.Proofs.FlushAll

/-!
# How a parked flush ends

A flush of several channels whose sender waits ends once, and with the right result: when the last
value that was queued at the flush has been received, or before that when the receiver of a channel
that still has such a value fails.

* **What is left** (`remaining`): how many of the values queued at the flush are still queued, as
  the callers can count them. `Ongoing`: some are left, and no receiver of such a channel has
  failed.
* **While it goes on** (`Network.Parked`): the sender is registered with exactly the channels that
  have values left, with the right thresholds, and the barrier knows the others.
* **Afterwards** (`Network.Over`): the result is in the slot, and registrations that are left behind
  reach nobody.
* **One call**: the sender goes on to wait (`Parked.miss`, `Parked.last_wait`), or the flush ends
  (`Parked.fail`, `Parked.last_done`). Then it stays so (`Over.step`).
-/

namespace Rendezvous

variable {τ ε : Type}

/-! ## What is left -/

/-- How many values were received from a channel. -/
def received (c : Channel.Ref) (h : List (Exchange τ ε)) : Nat :=
  (valuesOf (obtained (operationsOn c h))).length

theorem received_append (c : Channel.Ref) (a b : List (Exchange τ ε)) :
    received c (a ++ b) = received c a + received c b := by
  simp [received]

/-- How many of the `flushed c` values that were queued first on each channel `c` are left. -/
def remaining (flushed : Channel.Ref → Nat) (h : List (Exchange τ ε)) (c : Channel.Ref) : Nat :=
  flushed c - received c h

theorem remaining_snoc (flushed : Channel.Ref → Nat) (h : List (Exchange τ ε)) (e : Exchange τ ε)
    (c : Channel.Ref) :
    remaining flushed (h ++ [e]) c = remaining flushed h c - received c [e] := by
  rw [remaining, received_append, Nat.sub_add_eq, remaining]

/-- No receiver failed on a channel of `cs` that had flushed values left. -/
def Undisturbed (cs : List Channel.Ref) (flushed : Channel.Ref → Nat) (h : List (Exchange τ ε)) :
    Prop :=
  ∀ a e b c f, h = a ++ e :: b → e.call = .operate c (.failReceive f) → c ∈ cs →
    remaining flushed a c = 0

/-- The flush goes on. -/
def Ongoing (cs : List Channel.Ref) (flushed : Channel.Ref → Nat) (h : List (Exchange τ ε)) :
    Prop :=
  Undisturbed cs flushed h ∧ ∃ c ∈ cs, 0 < remaining flushed h c

theorem Call.failsReceiver_iff {c : Channel.Ref} {call : Call τ ε} :
    call.FailsReceiver c ↔ ∃ f, call = .operate c (.failReceive f) := by
  constructor
  · intro h
    cases call with
    | operate x op =>
      cases op with
      | failReceive f =>
        obtain rfl : x = c := h
        exact ⟨f, rfl⟩
      | _ => cases h
    | _ => cases h
  · rintro ⟨f, rfl⟩
    exact rfl

/-- It is enough to look at each exchange with those before it. -/
theorem undisturbed_iff {cs : List Channel.Ref} {flushed : Channel.Ref → Nat}
    {h : List (Exchange τ ε)} :
    Undisturbed cs flushed h ↔ ∀ i : Fin h.length, ∀ c ∈ cs, h[i].call.FailsReceiver c →
      remaining flushed (h.take i) c = 0 := by
  constructor
  · intro hu i c hc hfails
    obtain ⟨f, hf⟩ := Call.failsReceiver_iff.1 hfails
    refine hu (h.take i) h[i] (h.drop (i + 1)) c f ?_ hf hc
    rw [Fin.getElem_fin, List.getElem_cons_drop, List.take_append_drop]
  · rintro hall a e b c f rfl he hc
    have hlt : a.length < (a ++ e :: b).length := by simp
    have := hall ⟨a.length, hlt⟩ c hc
    simp at this
    exact this (Call.failsReceiver_iff.2 ⟨f, he⟩)

instance (c : Channel.Ref) : (call : Call τ ε) → Decidable (call.FailsReceiver c)
  | .operate x op => match op with
    | .failReceive _ => inferInstanceAs (Decidable (x = c))
    | .send .. | .syncSend .. | .receive .. | .flush .. | .failSend .. => instDecidableFalse
  | .createReadySet | .createStrand .. | .createSlot | .createChannel _ | .createDrainLog
  | .createBarrier .. | .createTable _ | .dropScheduler _ | .dropConsumer _ | .dispatch _ | .poll ..
  | .wake _ | .markRunning _ | .resume _ | .offer .. | .take _ | .notifyDrained .. | .flushAll ..
  | .lookup .. | .lookupOrCreate .. | .unlink .. => instDecidableFalse

instance (cs : List Channel.Ref) (flushed : Channel.Ref → Nat) (h : List (Exchange τ ε)) :
    Decidable (Undisturbed cs flushed h) := decidable_of_iff _ undisturbed_iff.symm

instance (cs : List Channel.Ref) (flushed : Channel.Ref → Nat) (h : List (Exchange τ ε)) :
    Decidable (Ongoing cs flushed h) := inferInstanceAs (Decidable (_ ∧ ∃ c ∈ cs, _))

theorem undisturbed_snoc {cs : List Channel.Ref} {flushed : Channel.Ref → Nat}
    {h : List (Exchange τ ε)} {e : Exchange τ ε} :
    Undisturbed cs flushed (h ++ [e]) ↔ Undisturbed cs flushed h ∧
      ∀ c f, e.call = .operate c (.failReceive f) → c ∈ cs → remaining flushed h c = 0 := by
  constructor
  · intro hu
    refine ⟨fun a x b c f hsplit => hu a x (b ++ [e]) c f (by simp [hsplit]), fun c f => ?_⟩
    exact hu h e [] c f rfl
  · rintro ⟨hu, he⟩ a x b c f hsplit
    rcases List.eq_nil_or_concat b with rfl | ⟨b, y, rfl⟩
    · obtain ⟨rfl, hx⟩ := List.append_inj' hsplit rfl
      cases hx
      exact he c f
    · rw [List.concat_eq_append, ← List.cons_append, ← List.append_assoc] at hsplit
      exact hu a x b c f (List.append_inj' hsplit rfl).1

/-! ## One channel -/

/-- Whether a call reports a failure of a worker on that channel. -/
def Call.Fails (c : Channel.Ref) : Call τ ε → Prop
  | .operate x (.failSend _) | .operate x (.failReceive _) => x = c
  | _ => False

/-- On a channel without failures the counters are as far apart as the queue is long. -/
theorem Fifo.unfailed {c : Channel.Ref} {calls : List (Call τ ε)}
    (hc : ∀ call ∈ calls, ¬ call.Fails c) (hlen : calls.length < UInt64.size) :
    let channel := (({} : Network τ ε).run calls).channel c
    channel.sendCount = channel.recvCount + UInt64.ofNat channel.size ∧
      channel.size < UInt64.size ∧ (channel.isDrained = true ↔ channel.size = 0) := by
  intro channel
  let h := ({} : Network τ ε).history calls
  have hcall : ∀ e ∈ h, ¬ e.call.Fails c := by
    intro e he
    refine hc e.call ?_
    rw [← ({} : Network τ ε).map_call_history calls]
    exact List.mem_map_of_mem he
  have hnone : ∀ a e b f, h = a ++ e :: b → e.call ≠ .operate c (.failSend f) := by
    intro a e b f hsplit he
    refine hcall e (by simp [hsplit]) ?_
    rw [he]
    exact rfl
  have hf : Fifo c h channel := by
    refine (Fifo.start c).run (fun a e w _ _ f hsplit he => absurd he ?_) fun call hmem => ?_
    · exact hnone a e _ f hsplit
    · intro hfails
      refine hc call hmem ?_
      cases call with
      | operate x op => cases op <;> first | exact hfails | cases hfails
      | _ => cases hfails
  have hpending : channel.pending.failures = [] := by
    rw [List.eq_nil_iff_forall_not_mem]
    intro f hmem
    obtain ⟨a, e, b, hsplit, he, -⟩ := hf.awaited f hmem
    exact hnone a e b f hsplit he
  have hsize : channel.items.length = channel.size := by
    rw [Channel.items, hpending, Channel.values, Channel.size]
    simp
  have hgap := hf.gap
  rw [hsize] at hgap
  have hops : (submitted (operationsOn c h)).length ≤ calls.length :=
    Nat.le_trans (List.length_filterMap_le ..) (Network.length_operationsOn_history_le _ calls c)
  have hstream := congrArg List.length hf.stream
  rw [List.length_append, hsize] at hstream
  have hsend : channel.sendCount.toNat = (submitted (operationsOn c h)).length := by
    rw [hf.sendCount, UInt64.toNat_ofNat_of_lt' (by omega)]
  have hrecv : channel.recvCount.toNat = (obtained (operationsOn c h)).length := by
    rw [hf.recvCount, UInt64.toNat_ofNat_of_lt' (by omega)]
  refine ⟨hgap, by omega, ?_⟩
  rw [Channel.isDrained, decide_eq_true_iff, UInt64.le_iff_toNat_le]
  omega

/-- A sender waits until `left` more values are received, which are queued. -/
structure Channel.Awaits (channel : Channel τ ε) (p : Party) (k : Coordinator.Ref) (left : Nat) :
    Prop where
  flushSender : channel.flushSender =
    some { p with threshold := channel.recvCount + UInt64.ofNat left, coordinator := k }
  queued : left ≤ channel.size
  fits : left < UInt64.size

/-- The next value that is received is the last one exactly if one is left. -/
theorem Channel.Awaits.due_iff {channel : Channel τ ε} {p : Party} {k : Coordinator.Ref}
    {left : Nat} (h : channel.Awaits p k left) {q : FlushParty}
    (hq : channel.flushSender = some q) : q.threshold = channel.recvCount + 1 ↔ left = 1 := by
  rw [h.flushSender] at hq
  cases hq
  show channel.recvCount + UInt64.ofNat left = channel.recvCount + UInt64.ofNat 1 ↔ left = 1
  rw [UInt64.add_right_inj]
  constructor
  · intro heq
    have hnat := congrArg UInt64.toNat heq
    rw [UInt64.toNat_ofNat_of_lt' h.fits, UInt64.toNat_ofNat_of_lt' (by decide)] at hnat
    exact hnat
  · rintro rfl
    rfl

namespace Network

variable {n m : Network τ ε} {s : Strand.Ref} {d : Slot.Ref} {k : Coordinator.Ref}
  {c : Channel.Ref} {cs : List Channel.Ref} {left : Channel.Ref → Nat} {call : Call τ ε}

/-- Only attempts to receive give values. -/
theorem received_exchange_eq_zero (h : ∀ t, call ≠ .operate c (.receive t)) :
    received c [n.exchange call] = 0 := by
  by_cases hc : c ∈ call.channels
  · cases call with
    | operate x op =>
      obtain rfl : c = x := List.mem_singleton.1 hc
      rw [received, operationsOn_exchange_operate]
      cases op with
      | receive t => exact absurd rfl (h t)
      | _ => rfl
    | flushAll => rfl
    | _ => cases hc
  · rw [received, n.operationsOn_exchange_eq_nil hc]
    rfl

/-- A call gives one value at most. -/
theorem received_exchange_le_one : received c [n.exchange call] ≤ 1 := by
  by_cases hc : ∀ t, call ≠ .operate c (.receive t)
  · rw [received_exchange_eq_zero hc]
    exact Nat.zero_le 1
  · simp only [ne_eq, not_forall, not_not] at hc
    obtain ⟨t, rfl⟩ := hc
    rw [received, operationsOn_exchange_operate]
    exact Nat.le_trans (List.length_filterMap_le ..) (List.length_filterMap_le ..)

/-- An attempt to receive from a queue with values gives one. -/
theorem received_exchange_receive (t : Strand.Ref) {msg : Message τ} {rest : List (Message τ)}
    (hq : (n.channel c).queue = msg :: rest) :
    received c [n.exchange (.operate c (.receive t))] = 1 := by
  rw [received, operationsOn_exchange_operate]
  simp [obtained, operate, receive, hq, Outcome.item?, Received.toExcept?, valuesOf, Item.value?]

/-- An attempt to receive gives one of the values that the sender waits for. It goes on to wait if
this is not the last one. -/
theorem awaits_receive {p : Party} {left : Nat} (h : (n.channel c).Awaits p k left) (hl : 0 < left)
    (hlast : left ≠ 1) (t : Strand.Ref) :
    received c [n.exchange (.operate c (.receive t))] = 1 ∧
      ((n.receive c t).1.channel c).Awaits p k (left - 1) := by
  have hqueued := h.queued
  cases hq : (n.channel c).queue with
  | nil =>
    rw [Channel.size, hq, List.length_nil] at hqueued
    omega
  | cons msg rest =>
    refine ⟨received_exchange_receive t hq, ?_⟩
    rw [Channel.size, hq, List.length_cons] at hqueued
    have hfits := h.fits
    have hcount : UInt64.ofNat left = 1 + UInt64.ofNat (left - 1) := by
      rw [← Nat.add_sub_cancel' hl, UInt64.ofNat_add, Nat.add_sub_cancel_left]
      rfl
    have hkept : (n.channel c).recvCount + UInt64.ofNat left ≠ (n.channel c).recvCount + 1 :=
      mt (h.due_iff h.flushSender).1 hlast
    simp only [receive, hq, channel_receiveMessage, if_true]
    refine ⟨?_, ?_, by omega⟩
    · show (n.channel c).flushSender.filter _ = _
      rw [h.flushSender, Option.filter_some, if_pos (bne_iff_ne.2 hkept)]
      simp only [hcount, UInt64.add_assoc]
    · show left - 1 ≤ rest.length
      omega

/-- Unless the last value is received or the receiver fails, the sender goes on to wait, for one
value less if one is received. -/
theorem awaits_operate {p : Party} {left : Nat} (h : (n.channel c).Awaits p k left) (hl : 0 < left)
    (op : Operation τ ε) (hflush : c ∉ Call.flushed (.operate c op))
    (hlast : ∀ t, op = .receive t → left ≠ 1) (hf : ∀ f, op ≠ .failReceive f) :
    ((n.operate c op).1.channel c).Awaits p k
      (left - received c [n.exchange (.operate c op)]) := by
  have hops := n.operationsOn_exchange_operate c op
  have same : ∀ b : Channel τ ε, obtained [(op, (n.operate c op).2)] = [] →
      b.flushSender = (n.channel c).flushSender → b.recvCount = (n.channel c).recvCount →
      (n.channel c).size ≤ b.size →
      b.Awaits p k (left - received c [n.exchange (.operate c op)]) := by
    intro b hnone hsender hrecv hsize
    have hzero : received c [n.exchange (.operate c op)] = 0 := by
      rw [received, hops, hnone]
      rfl
    rw [hzero]
    exact ⟨by rw [hsender, hrecv]; exact h.flushSender, Nat.le_trans h.queued hsize, h.fits⟩
  cases op with
  | send value t =>
    show ((n.send c value t).channel c).Awaits p k _
    rw [channel_send, if_pos rfl]
    exact same _ rfl rfl rfl (by simp [Channel.size, Channel.enqueue])
  | syncSend value t e =>
    show ((n.syncSend c value t e).1.channel c).Awaits p k _
    cases hr : (n.channel c).hasReceiver with
    | true =>
      rw [channel_syncSend_of_hasReceiver n c value t e hr]
      exact same _ rfl rfl rfl (by simp [Channel.size, Channel.enqueue])
    | false =>
      cases hp : (n.channel c).pending.take? with
      | some taken =>
        rw [channel_syncSend_of_pending n c value t e hr hp]
        refine same _ rfl rfl rfl ?_
        have hvalues := congrArg List.length (Channel.values_releaseNewest
          { (n.channel c).enqueue ⟨value, true⟩ with pending := taken.2 })
        simp only [List.length_map] at hvalues
        rw [Channel.size, Channel.size, hvalues]
        simp [Channel.enqueue]
      | none =>
        rw [channel_syncSend_of_idle n c value t e hr hp]
        exact same _ rfl rfl rfl (by simp [Channel.size, Channel.enqueue])
  | receive t =>
    obtain ⟨hone, hawaits⟩ := awaits_receive h hl (hlast t rfl) t
    rw [hone]
    exact hawaits
  | flush t e j => exact absurd (List.mem_singleton.2 rfl) hflush
  | failSend f =>
    show ((n.failSend c f).channel c).Awaits p k _
    rw [channel_failSend, if_pos rfl]
    exact same _ rfl rfl rfl (Nat.le_refl _)
  | failReceive f => exact absurd rfl (hf f)

/-! ## While it goes on -/

/-- The sender `s` waits with the slot `d` until `left c` more values are received from each channel
`c` of `cs`. The barrier `k` knows the channels where none is left. -/
structure Parked (n : Network τ ε) (s : Strand.Ref) (d : Slot.Ref) (k : Coordinator.Ref)
    (cs : List Channel.Ref) (left : Channel.Ref → Nat) : Prop where
  suspended : (n.strand s).phase = .suspended
  unresolved : (n.slot d).isResolved = false
  some : ∃ c ∈ cs, 0 < left c
  distinct : ∀ a ∈ cs, ∀ b ∈ cs, a.id = b.id → a = b
  registered : ∀ c ∈ cs, 0 < left c → (n.channel c).Awaits ⟨s, d⟩ k (left c)
  clear : n.Clear s d fun c => c ∈ cs ∧ 0 < left c
  barrier : ∃ drained,
    n.coordinator k = .barrier ⟨s, d, (cs.map (·.id)).eraseDups.length, drained⟩ ∧
      drained.Nodup ∧ ∀ id, id ∈ drained ↔ ∃ c ∈ cs, left c = 0 ∧ c.id = id

/-- The flush is over with the result `r`: nobody is registered any more whom a delivery would
wake. -/
structure Over (n : Network τ ε) (s : Strand.Ref) (d : Slot.Ref) (r : Resolution ε) : Prop where
  slot : n.slot d = .filled r
  awake : (n.strand s).phase ≠ .suspended
  clear : n.Clear s d fun _ => False

/-- A flush that has asked channels without failures waits for the values that are queued there. -/
theorem Asked.parked (h : n.Asked s d (cs.map (·.id)).eraseDups.length cs m)
    (hsome : ∃ c ∈ cs, (n.channel c).isDrained = false) (hd : (n.slot d).isResolved = false)
    (hid : ∀ a ∈ cs, ∀ b ∈ cs, a.id = b.id → a = b) (hclear : n.Clear s d fun _ => False)
    (hk : ∀ c p, (n.channel c).flushSender = .some p → n.HasCoordinator p.coordinator)
    (hcount : ∀ c ∈ cs,
      (n.channel c).sendCount = (n.channel c).recvCount + UInt64.ofNat (n.channel c).size ∧
        (n.channel c).size < UInt64.size ∧
          ((n.channel c).isDrained = true ↔ (n.channel c).size = 0)) :
    m.Parked s d n.coordinators.fresh cs fun c => (n.channel c).size := by
  have hleft : ∀ c ∈ cs, (n.channel c).isDrained = false ↔ 0 < (n.channel c).size := by
    intro c hc
    rw [Nat.pos_iff_ne_zero, ne_eq, ← (hcount c hc).2.2, Bool.not_eq_true]
  constructor
  case suspended => rw [h.strand, if_pos ⟨rfl, hsome⟩]
  case unresolved => rw [h.slot, hd]
  case some =>
    obtain ⟨c, hc, hdc⟩ := hsome
    exact ⟨c, hc, (hleft c hc).1 hdc⟩
  case distinct => exact hid
  case registered =>
    intro c hc hpos
    obtain ⟨hgap, hfits, -⟩ := hcount c hc
    rw [h.channel, if_pos ⟨hc, (hleft c hc).2 hpos⟩]
    refine ⟨?_, Nat.le_refl _, hfits⟩
    show Option.some _ = _
    rw [hgap]
  case clear =>
    constructor
    case receiver =>
      intro c
      rw [h.channel]
      split <;> exact hclear.receiver c
    case syncSender =>
      intro c p hp
      rw [h.channel] at hp
      split at hp <;> exact hclear.syncSender c p hp
    case flushSender =>
      intro c p hp hl
      rw [h.channel] at hp
      split at hp
      · rename_i hc
        exact absurd ⟨hc.1, (hleft c hc.1).1 hc.2⟩ hl
      · obtain ⟨havoids, hother⟩ := hclear.flushSender c p hp id
        refine ⟨fun b hb ho => ?_, fun ho => hother (by rw [← h.slot, ho])⟩
        have hne : p.coordinator ≠ n.coordinators.fresh := by
          intro heq
          have hlt : p.coordinator.index < n.coordinators.size := hk c p hp
          rw [heq] at hlt
          exact Nat.lt_irrefl _ hlt
        rw [h.coordinator _ hne] at hb
        rw [h.slot] at ho
        exact havoids b hb ho
  case barrier =>
    obtain ⟨drained, hbarrier, hnodup, hknown⟩ := h.barrier
    refine ⟨drained, hbarrier, hnodup, fun id => ?_⟩
    rw [hknown]
    constructor
    · rintro ⟨c, hc, hdc, hcid⟩
      exact ⟨c, hc, (hcount c hc).2.2.1 hdc, hcid⟩
    · rintro ⟨c, hc, hzero, hcid⟩
      exact ⟨c, hc, (hcount c hc).2.2.2 hzero, hcid⟩

/-! ## Afterwards -/

namespace Over

variable {r : Resolution ε}

/-- A call that is passed neither the strand nor the slot changes nothing about the result. It wakes
nobody, but the strand may be dispatched. -/
theorem step (h : n.Over s d r) (hq : n.Queued s) (he : n.Elsewhere s d call) :
    (n.perform call).1.Over s d r ∧
      ((n.strand s).phase = .running → ((n.perform call).1.strand s).phase = .running) := by
  have hm := (h.clear.misses he (fun _ _ _ hl => hl.elim) fun _ _ _ hl => hl).spares hq
  refine ⟨⟨hm.slot.trans h.slot, ?_, h.clear.spares hm⟩, fun hrun => ?_⟩
  · rcases hm.phase with hsame | ⟨-, hrun⟩
    · rw [hsame]
      exact h.awake
    · rw [hrun]
      decide
  · rcases hm.phase with hsame | ⟨-, hrun'⟩
    · rw [hsame, hrun]
    · exact hrun'

end Over

/-- A barrier that waits for the strand or fills the slot hears of a channel where nobody is
registered to flush any more. -/
theorem Clear.notifyDrained {live : Channel.Ref → Prop} (h : n.Clear s d live)
    (hk : ¬ n.Avoids s d k) (hgone : (n.channel c).flushSender = none)
    (hslots : (n.notifyDrained k c.id).slots = n.slots) :
    (n.notifyDrained k c.id).Clear s d fun x => live x ∧ x ≠ c where
  receiver x := by rw [channel_notifyDrained]; exact h.receiver x
  syncSender x p hp := h.syncSender x p (by rw [← hp, channel_notifyDrained])
  flushSender x p hp hl := by
    rw [channel_notifyDrained] at hp
    have hne : x ≠ c := by
      rintro rfl
      rw [hgone] at hp
      cases hp
    obtain ⟨havoids, hother⟩ := h.flushSender x p hp fun hlive => hl ⟨hlive, hne⟩
    have hpk : p.coordinator ≠ k := by
      rintro rfl
      exact hk havoids
    rw [slot, hslots]
    refine ⟨fun b hb ho => ?_, hother⟩
    rw [coordinator_notifyDrained, if_neg hpk] at hb
    rw [slot, hslots] at ho
    exact havoids b hb ho

/-- Once the slot is resolved, the registrations on the live channels reach nobody any more. -/
theorem Clear.close {live : Channel.Ref → Prop} (h : n.Clear s d live)
    (hlive : ∀ c, live c → ∀ p, (n.channel c).flushSender = some p →
      p.slot = d ∧ ∀ b, n.coordinator p.coordinator = .barrier b → b.slot = d)
    (hd : (m.slot d).isResolved = true)
    (hres : ∀ e, (n.slot e).isResolved = true → (m.slot e).isResolved = true)
    (hk : ∀ j b, m.coordinator j = .barrier b →
      ∃ b', n.coordinator j = .barrier b' ∧ b'.strand = b.strand ∧ b'.slot = b.slot)
    (hr : ∀ x, (m.channel x).receiver = (n.channel x).receiver)
    (hy : ∀ x, (m.channel x).syncSender = (n.channel x).syncSender)
    (hf : ∀ x p, (m.channel x).flushSender = some p → (n.channel x).flushSender = some p) :
    m.Clear s d fun _ => False where
  receiver x := by rw [hr]; exact h.receiver x
  syncSender x p hp := h.syncSender x p (by rw [← hy, hp])
  flushSender x p hp _ := by
    have open_of : ∀ e, (m.slot e).isResolved = false → (n.slot e).isResolved = false := by
      intro e he
      refine Bool.eq_false_iff.2 fun hn => ?_
      rw [hres e hn] at he
      cases he
    by_cases hl : live x
    · -- Everything that this registration could release is resolved.
      obtain ⟨hslot, hbarrier⟩ := hlive x hl p (hf x p hp)
      constructor
      · intro b hb ho
        obtain ⟨b', hb', -, hslot'⟩ := hk _ b hb
        rw [← hslot', hbarrier b' hb', hd] at ho
        cases ho
      · intro ho
        rw [hslot, hd] at ho
        cases ho
    · obtain ⟨havoids, hother⟩ := h.flushSender x p (hf x p hp) hl
      refine ⟨fun b hb ho => ?_, fun ho => hother (open_of _ ho)⟩
      obtain ⟨b', hb', hstrand, hslot⟩ := hk _ b hb
      rw [← hstrand, ← hslot]
      exact havoids b' hb' (open_of _ (hslot ▸ ho))

/-- A flushing sender that waits is released by the failure of the receiver. -/
theorem failReceive_flushing {p : FlushParty} (f : Failure ε)
    (hp : (n.channel c).flushSender = some p) (ho : (n.slot p.slot).isResolved = false) :
    ∃ e, n.failReceive c f = ((((n.countReceiveFailure c f).updateChannel c fun channel =>
      { channel with flushSender := none }).setSlot p.slot (.filled (.failed f))).wake
        p.strand).emit e := by
  have hp' : ((n.countReceiveFailure c f).channel c).flushSender = some p := by
    rw [channel_countReceiveFailure, if_pos rfl]
    exact hp
  have ho' : (((n.countReceiveFailure c f).updateChannel c fun channel =>
      { channel with flushSender := none }).slot p.slot).isResolved = false := ho
  have hflush : ∃ e, (n.countReceiveFailure c f).failFlushSender c f =
      (((((n.countReceiveFailure c f).updateChannel c fun channel =>
        { channel with flushSender := none }).setSlot p.slot (.filled (.failed f))).wake
          p.strand).emit e, none) := by
    simp only [failFlushSender, hp', deliver_open _ ho']
    exact ⟨_, rfl⟩
  obtain ⟨e, hflush⟩ := hflush
  refine ⟨e, failReceive_cases (P := fun m => m = _) (fun m hm => ?_) (fun m g l hm => ?_)
    fun m g l g' hm => ?_⟩
  · rw [hflush] at hm
    exact (congrArg Prod.fst hm).symm
  · rw [hflush] at hm
    cases hm
  · rw [hflush] at hm
    cases hm

/-! ## Steps -/

namespace Parked

/-- The barrier of the flush would wake the sender. -/
theorem not_avoids (h : n.Parked s d k cs left) : ¬ n.Avoids s d k := by
  obtain ⟨drained, hbarrier, -⟩ := h.barrier
  exact fun havoids => (havoids _ hbarrier h.unresolved).1 rfl

/-- Where values are left, the sender is registered with its slot and its barrier. -/
theorem registered_only (h : n.Parked s d k cs left) (hc : c ∈ cs) (hl : 0 < left c)
    (p : FlushParty) (hp : (n.channel c).flushSender = .some p) :
    p.slot = d ∧ ∀ b, n.coordinator p.coordinator = .barrier b → b.slot = d := by
  rw [(h.registered c hc hl).flushSender] at hp
  cases hp
  refine ⟨rfl, fun b hb => ?_⟩
  obtain ⟨drained, hbarrier, -⟩ := h.barrier
  rw [show n.coordinator k = _ from hbarrier] at hb
  cases hb
  rfl

/-- A call that receives no last value and reports no failure where values are left keeps the sender
waiting. -/
theorem miss (h : n.Parked s d k cs left) (hq : n.Queued s) (he : n.Elsewhere s d call)
    (hflushed : ∀ c ∈ call.flushed, c ∉ cs)
    (hlast : ∀ c t, call = .operate c (.receive t) → c ∈ cs → left c ≠ 1)
    (hfail : ∀ c f, call = .operate c (.failReceive f) → c ∈ cs → left c = 0) :
    (n.perform call).1.Parked s d k cs fun c => left c - received c [n.exchange call] := by
  have hm : n.Spares s d (n.perform call).1 := by
    refine (h.clear.misses he (fun c t hcall hl p hp => ?_) fun c f hcall hl => ?_).spares hq
    · exact mt ((h.registered c hl.1 hl.2).due_iff hp).1 (hlast c t hcall hl.1)
    · exact Nat.ne_of_gt hl.2 (hfail c f hcall hl.1)
  have hpos : ∀ c ∈ cs, 0 < left c - received c [n.exchange call] ↔ 0 < left c := by
    intro c hc
    by_cases hr : ∀ t, call ≠ .operate c (.receive t)
    · rw [received_exchange_eq_zero hr, Nat.sub_zero]
    · simp only [ne_eq, not_forall, not_not] at hr
      obtain ⟨t, hcall⟩ := hr
      have hne := hlast c t hcall hc
      have hle : received c [n.exchange call] ≤ 1 := received_exchange_le_one
      omega
  constructor
  case suspended => exact hm.suspended h.suspended
  case unresolved => exact hm.unresolved h.unresolved
  case some =>
    obtain ⟨c, hc, hleft⟩ := h.some
    exact ⟨c, hc, (hpos c hc).2 hleft⟩
  case distinct => exact h.distinct
  case registered =>
    intro c hc hleft
    replace hleft := (hpos c hc).1 hleft
    have hawaits := h.registered c hc hleft
    by_cases hmem : c ∈ call.channels
    · cases call with
      | operate x op =>
        obtain rfl : c = x := List.mem_singleton.1 hmem
        refine awaits_operate hawaits hleft op (fun hx => hflushed c hx hc)
          (fun t ht => hlast c t (ht ▸ rfl) hc) ?_
        rintro f rfl
        exact Nat.ne_of_gt hleft (hfail c f rfl hc)
      | flushAll xs t e => exact absurd hc (hflushed c hmem)
      | _ => cases hmem
    · rw [received, n.operationsOn_exchange_eq_nil hmem]
      rcases n.channel_perform_of_notMem call hmem with hsame | ⟨hdefault, -⟩
      · rw [hsame]
        exact hawaits
      · have hsender := hawaits.flushSender
        rw [hdefault] at hsender
        cases hsender
  case clear =>
    have hlive : (fun c => c ∈ cs ∧ 0 < left c - received c [n.exchange call]) =
        fun c => c ∈ cs ∧ 0 < left c := by
      funext c
      exact propext (and_congr_right (hpos c))
    rw [hlive]
    exact h.clear.spares hm
  case barrier =>
    obtain ⟨drained, hbarrier, hnodup, hknown⟩ := h.barrier
    refine ⟨drained, (hm.coordinator k h.not_avoids).trans hbarrier, hnodup, fun id => ?_⟩
    rw [hknown]
    have hzero : ∀ c ∈ cs, left c = 0 ↔ left c - received c [n.exchange call] = 0 := by
      intro c hc
      have := hpos c hc
      omega
    exact exists_congr fun c => and_congr_right fun hc => and_congr_left fun _ => hzero c hc

/-- The failure of a receiver that had values left to receive is the result. -/
theorem fail (h : n.Parked s d k cs left) (hc : c ∈ cs) (hl : 0 < left c) (f : Failure ε) :
    (n.failReceive c f).Over s d (.failed f) ∧
      ((n.failReceive c f).strand s).phase = .ready := by
  have hsender := (h.registered c hc hl).flushSender
  obtain ⟨e, hm⟩ := failReceive_flushing f hsender h.unresolved
  have hslot : ∀ x, (n.failReceive c f).slot x =
      if x = d then .filled (.failed f) else n.slot x := by
    intro x
    rw [hm, slot_emit, slot_wake, slot_setSlot]
    rfl
  have hready : ((n.failReceive c f).strand s).phase = .ready := by
    rw [hm, strand_emit, strand_wake, if_pos ⟨rfl, h.suspended⟩]
  refine ⟨⟨by rw [hslot, if_pos rfl], by rw [hready]; decide, ?_⟩, hready⟩
  have hchannel : ∀ x, (n.failReceive c f).channel x = if x = c then { n.channel c with
      recvCount := (n.channel c).recvCount + 1
      flushSender := none } else n.channel x := by
    intro x
    rw [hm, channel_emit, channel_wake, channel_setSlot, channel_updateChannel,
      channel_countReceiveFailure, channel_countReceiveFailure, if_pos rfl]
    split <;> rfl
  refine h.clear.close (fun x hx => h.registered_only hx.1 hx.2) (by rw [hslot, if_pos rfl]; rfl)
    (fun x hx => ?_) (fun j b hb => ⟨b, ?_, rfl, rfl⟩) (fun x => ?_) (fun x => ?_) fun x p hp => ?_
  · rw [hslot]
    split
    · rfl
    · exact hx
  · rw [hm, coordinator_emit, coordinator_wake] at hb
    exact hb
  · rw [hchannel]
    exact channel_ite n c (·.receiver) (by rfl) x
  · rw [hchannel]
    exact channel_ite n c (·.syncSender) (by rfl) x
  · rw [hchannel] at hp
    split at hp
    · cases hp
    · exact hp

/-- The last value of a channel is received: the registration there is gone, and the barrier is
told. -/
theorem drain (h : n.Parked s d k cs left) (hc : c ∈ cs) (hl : left c = 1) (t : Strand.Ref) :
    received c [n.exchange (.operate c (.receive t))] = 1 ∧ ∃ l, n.Spares s d l ∧
      (∀ x, x ≠ c → l.channel x = n.channel x) ∧ (l.channel c).flushSender = none ∧
        (n.perform (.operate c (.receive t))).1 = l.notifyDrained k c.id := by
  have hawaits := h.registered c hc (by omega)
  have hsender := hawaits.flushSender
  have hqueued := hawaits.queued
  cases hq : (n.channel c).queue with
  | nil =>
    rw [Channel.size, hq, List.length_nil] at hqueued
    omega
  | cons msg rest =>
    have hmoves : Moves (· ≠ s) (· ≠ d) (· = c) (n.Avoids s d) n (n.takeMessage c t msg rest) :=
      .takeMessage (C := (· = c)) rfl t fun p hp _ => h.clear.syncSender c p hp
    have hdue : ((n.takeMessage c t msg rest).channel c).drainedSender? =
        .some ⟨⟨s, d⟩, (n.channel c).recvCount + UInt64.ofNat (left c), k⟩ := by
      rw [channel_takeMessage, if_pos rfl, Channel.drainedSender?, Option.filter_eq_some_iff]
      exact ⟨hsender, beq_iff_eq.2 (by rw [hl]; rfl)⟩
    refine ⟨received_exchange_receive t hq, ?_⟩
    have hnoted : ∃ e, (n.receive c t).1 = (((n.takeMessage c t msg rest).updateChannel c
        fun channel => { channel with flushSender := none }).emit e).notifyDrained k c.id := by
      simp only [receive, hq, receiveMessage_eq, noteDrained, hdue]
      exact ⟨_, rfl⟩
    obtain ⟨e, hnoted⟩ := hnoted
    refine ⟨_, .of_moves (.emit (.change hmoves rfl (.inl rfl) (.inl rfl) (.inr rfl)) e), ?_, ?_,
      hnoted⟩
    · intro x hx
      rw [channel_emit, channel_updateChannel_of_ne _ _ _ hx]
      exact hmoves.channel hx
    · rw [channel_emit, channel_updateChannel_self]

/-- The barrier has not heard of a channel with values left. With this one it has heard of all
exactly if there are no others. -/
theorem count (h : n.Parked s d k cs left) (hc : c ∈ cs) (hl : 0 < left c) :
    ∃ drained, n.coordinator k = .barrier ⟨s, d, (cs.map (·.id)).eraseDups.length, drained⟩ ∧
      c.id ∉ drained ∧ (drained ++ [c.id]).Nodup ∧
      (∀ id, id ∈ drained ++ [c.id] ↔ ∃ x ∈ cs, (x = c ∨ left x = 0) ∧ x.id = id) ∧
      (drained.length + 1 = (cs.map (·.id)).eraseDups.length ↔ ∀ x ∈ cs, x = c ∨ left x = 0) := by
  obtain ⟨drained, hbarrier, hnodup, hknown⟩ := h.barrier
  have hnew : c.id ∉ drained := by
    intro hmem
    obtain ⟨x, hx, hzero, hid⟩ := (hknown c.id).1 hmem
    obtain rfl := h.distinct x hx c hc hid
    omega
  have hnodup' : (drained ++ [c.id]).Nodup := by
    rw [List.nodup_append]
    refine ⟨hnodup, by simp, fun a ha b hb hab => ?_⟩
    rw [List.mem_singleton.1 hb] at hab
    exact hnew (hab ▸ ha)
  have hmem : ∀ id, id ∈ drained ++ [c.id] ↔ ∃ x ∈ cs, (x = c ∨ left x = 0) ∧ x.id = id := by
    intro id
    rw [List.mem_append, List.mem_singleton, hknown]
    constructor
    · rintro (⟨x, hx, hzero, hid⟩ | rfl)
      · exact ⟨x, hx, .inr hzero, hid⟩
      · exact ⟨c, hc, .inl rfl, rfl⟩
    · rintro ⟨x, hx, rfl | hzero, hid⟩
      · exact .inr hid.symm
      · exact .inl ⟨x, hx, hzero, hid⟩
  refine ⟨drained, hbarrier, hnew, hnodup', hmem, ?_⟩
  have hsub : drained ++ [c.id] ⊆ cs.map (·.id) := by
    intro id hid
    obtain ⟨x, hx, -, rfl⟩ := (hmem id).1 hid
    exact List.mem_map_of_mem hx
  have hlen : (drained ++ [c.id]).length = drained.length + 1 := List.length_append
  rw [← hlen, length_eq_eraseDups hnodup' hsub]
  constructor
  · intro hall x hx
    obtain ⟨y, hy, hand, hid⟩ := (hmem x.id).1 (hall x.id (List.mem_map_of_mem hx))
    exact h.distinct y hy x hx hid ▸ hand
  · intro hall id hid
    obtain ⟨x, hx, rfl⟩ := List.mem_map.1 hid
    exact (hmem x.id).2 ⟨x, hx, hall x hx, rfl⟩

/-- The last value of a channel is received while others have values left. -/
theorem last_wait (h : n.Parked s d k cs left) (hc : c ∈ cs) (hl : left c = 1) (t : Strand.Ref)
    (hsome : ∃ x ∈ cs, x ≠ c ∧ 0 < left x) :
    (n.perform (.operate c (.receive t))).1.Parked s d k cs fun x =>
      left x - received x [n.exchange (.operate c (.receive t))] := by
  obtain ⟨hone, l, hl', hother, hgone, hm⟩ := h.drain hc hl t
  obtain ⟨drained, hbarrier, hnew, hnodup, hknown, hcount⟩ := h.count hc (by omega)
  have hleft : ∀ x, left x - received x [n.exchange (.operate c (.receive t))] =
      if x = c then 0 else left x := by
    intro x
    split
    · rename_i hx
      rw [hx, hone, hl]
    · rename_i hx
      rw [received_exchange_eq_zero, Nat.sub_zero]
      rintro t' ⟨⟩
      exact hx rfl
  have hbarrier' := (hl'.coordinator k h.not_avoids).trans hbarrier
  have hmore : ¬ drained.length + 1 = (cs.map (·.id)).eraseDups.length := by
    obtain ⟨x, hx, hne, hpos⟩ := hsome
    intro hlen
    rcases hcount.1 hlen x hx with rfl | hzero
    · exact hne rfl
    · omega
  obtain ⟨hr, hs, hd⟩ := notifyDrained_incomplete hbarrier' (.inr hmore)
  rw [hm]
  constructor
  case suspended => rw [strand, hs]; exact hl'.suspended h.suspended
  case unresolved => rw [slot, hd]; exact hl'.unresolved h.unresolved
  case some =>
    obtain ⟨x, hx, hne, hpos⟩ := hsome
    exact ⟨x, hx, by rw [hleft, if_neg hne]; exact hpos⟩
  case distinct => exact h.distinct
  case registered =>
    intro x hx hpos
    rw [hleft] at hpos ⊢
    split at hpos
    · exact absurd hpos (Nat.lt_irrefl 0)
    · rename_i hne
      rw [if_neg hne, channel_notifyDrained, hother x hne]
      exact h.registered x hx hpos
  case clear =>
    have hguard : ¬ l.Avoids s d k := fun havoids =>
      (havoids _ hbarrier' (hl'.unresolved h.unresolved)).1 rfl
    have hlive : (fun x =>
        x ∈ cs ∧ 0 < left x - received x [n.exchange (.operate c (.receive t))]) =
        fun x => (x ∈ cs ∧ 0 < left x) ∧ x ≠ c := by
      funext x
      rw [hleft]
      by_cases hx : x = c <;> simp [hx]
    rw [hlive]
    exact (h.clear.spares hl').notifyDrained hguard hgone hd
  case barrier =>
    refine ⟨drained ++ [c.id], ?_, hnodup, fun id => ?_⟩
    · rw [coordinator_notifyDrained, if_pos rfl, hbarrier', Coordinator.note, if_neg hnew]
      rfl
    · rw [hknown]
      refine exists_congr fun x => and_congr_right fun _ => and_congr_left fun _ => ?_
      rw [hleft]
      split
      · rename_i hx
        simp [hx]
      · rename_i hx
        simp [hx]

/-- The last value of all is received. -/
theorem last_done (h : n.Parked s d k cs left) (hc : c ∈ cs) (hl : left c = 1) (t : Strand.Ref)
    (hall : ∀ x ∈ cs, x = c ∨ left x = 0) :
    (n.perform (.operate c (.receive t))).1.Over s d .done ∧
      ((n.perform (.operate c (.receive t))).1.strand s).phase = .ready := by
  obtain ⟨-, l, hl', hother, hgone, hm⟩ := h.drain hc hl t
  obtain ⟨drained, hbarrier, hnew, -, -, hcount⟩ := h.count hc (by omega)
  have hbarrier' := (hl'.coordinator k h.not_avoids).trans hbarrier
  obtain ⟨e, f, hdone⟩ :=
    notifyDrained_complete hbarrier' hnew (hcount.2 hall) (hl'.unresolved h.unresolved)
  have hslot : ∀ x, (l.notifyDrained k c.id).slot x =
      if x = d then .filled .done else l.slot x := by
    intro x
    rw [hdone, slot_wake, slot_emit, slot_setSlot]
    rfl
  have hready : ((l.notifyDrained k c.id).strand s).phase = .ready := by
    rw [hdone, strand_wake, if_pos ⟨rfl, hl'.suspended h.suspended⟩]
  rw [hm]
  refine ⟨⟨by rw [hslot, if_pos rfl], by rw [hready]; decide, ?_⟩, hready⟩
  refine (h.clear.spares hl').close (fun x hx p hp => ?_) (by rw [hslot, if_pos rfl]; rfl)
    (fun x hx => ?_) (fun j b hb => ?_) (fun x => by rw [channel_notifyDrained])
    (fun x => by rw [channel_notifyDrained]) fun x p hp => by rw [← hp, channel_notifyDrained]
  · rcases hall x hx.1 with rfl | hzero
    · rw [hgone] at hp
      cases hp
    · exact absurd hzero (Nat.ne_of_gt hx.2)
  · rw [hslot]
    split
    · rfl
    · exact hx
  · rw [coordinator_notifyDrained] at hb
    split at hb
    · rename_i hj
      rw [hbarrier', Coordinator.note, if_neg hnew] at hb
      cases hb
      exact ⟨⟨s, d, _, drained⟩, hj ▸ hbarrier', rfl, rfl⟩
    · exact ⟨b, hb, rfl, rfl⟩

end Parked

end Network

end Rendezvous
