import Rendezvous.Proofs.Parking
import Rendezvous.Proofs.Losses

/-!
# What becomes of failures

Each failure that is reported to a channel is pending there, or was received, or was accepted by a
slot, or was given up with a warning. There is one more fate, and nobody learns of it: a blocking
call takes a pending failure although its slot is resolved already.

* **Fates** (`Network.givenUp`, `Network.swallowed`): where the failures go in one operation.
* **One operation** (`fates_operate`): what was pending and what is reported is what is pending and
  what has gone somewhere. The failure of a receiving worker goes one way only (`failReceive_fate`).
* **Runs** (`failures_accounted`): so it is in every run, with multiplicities. Failures do get
  swallowed (`swallowed_by_resolved_slot`).
-/

namespace Rendezvous

variable {τ ε : Type}

namespace Pending

/-- What is consumed was pending, and the others stay. -/
theorem failures_take?_add {p rest : Pending ε} {f : Failure ε} (h : p.take? = some (f, rest)) :
    (p.failures : Multiset (Failure ε)) = rest.failures + {f} := by
  rw [failures_of_take? h, ← Multiset.cons_coe, ← Multiset.singleton_add, add_comm]

/-- A new failure is pending, and one of its kind that was pending before is not any more. -/
theorem failures_put_add (p : Pending ε) (f : Failure ε) :
    (p.failures : Multiset (Failure ε)) + {f} =
      (p.put f).failures + ((p.get f.kind).map (Failure.mk f.kind)).toList := by
  rw [Multiset.coe_add, Multiset.coe_eq_coe.2 (p.failures_put_perm f), ← Multiset.cons_coe,
    ← Multiset.singleton_add, add_comm]

end Pending

/-! ## Fates -/

/-- The failure that an operation reports. -/
def Operation.report? : Operation τ ε → Option (Failure ε)
  | .failSend f | .failReceive f => some f
  | _ => none

/-- Whether a call flushes several channels, and this one among them. -/
def Call.FlushesAll (c : Channel.Ref) : Call τ ε → Prop
  | .flushAll cs _ _ => c ∈ cs
  | _ => False

/-- The failures reported to a channel. -/
def reported (ops : List (Operation τ ε × Outcome τ ε)) : List (Failure ε) :=
  ops.filterMap (·.1.report?)

@[simp] theorem reported_append (a b : List (Operation τ ε × Outcome τ ε)) :
    reported (a ++ b) = reported a ++ reported b := List.filterMap_append ..

namespace Network

/-- The failures that an operation gives up with a warning. -/
def givenUp (n : Network τ ε) (c : Channel.Ref) (op : Operation τ ε) : Multiset (Failure ε) :=
  match op.report? with
  | some f => lost (n.channel c).pending f n (n.operate c op).1
  | none => 0

/-- The pending failure that a blocking operation takes although its slot is resolved already. -/
def swallowed (n : Network τ ε) (c : Channel.Ref) (op : Operation τ ε) : Multiset (Failure ε) :=
  match op with
  | .syncSend _ _ d =>
    if (n.channel c).hasReceiver = false ∧ (n.slot d).isResolved = true
      then ((n.channel c).pending.take?.map (·.1)).toList else 0
  | .flush _ d _ =>
    if (n.slot d).isResolved = true then ((n.channel c).pending.take?.map (·.1)).toList else 0
  | _ => 0

/-- What was pending and what is reported is pending, or was received, accepted, given up or
swallowed. -/
def Balanced (n : Network τ ε) (c : Channel.Ref) (op : Operation τ ε) : Prop :=
  ((n.channel c).pending.failures : Multiset (Failure ε)) + op.report?.toList =
    ((n.operate c op).1.channel c).pending.failures +
      failuresOf (obtained [(op, (n.operate c op).2)]) + n.accepted (n.operate c op).1 +
        n.givenUp c op + n.swallowed c op

variable {n l : Network τ ε} {c : Channel.Ref}

/-- A failure that is offered to a slot is accepted, unless the slot is resolved. -/
theorem accepted_offer_add (h : Calm n l) {d : Slot.Ref} (hd : l.slot d = n.slot d)
    (f : Failure ε) : n.accepted (l.offer d (.failed f)).1 +
      (if (n.slot d).isResolved = true then {f} else 0) = {f} := by
  cases hr : (n.slot d).isResolved with
  | true =>
    rw [accepted_eq_zero (h.refuse (hd ▸ hr) _).slot, if_pos rfl, zero_add]
  | false =>
    rw [(Delivers.offer (hd ▸ hr)).of_calm h |>.accepted_eq, if_neg nofun, add_zero]

/-- A calm operation that reports nothing: what is not pending any more was received. -/
theorem Balanced.of_calm {op : Operation τ ε} (hcalm : Calm n (n.operate c op).1)
    (hreport : op.report? = none) (hswallowed : n.swallowed c op = 0)
    (hpending : ((n.channel c).pending.failures : Multiset (Failure ε)) =
      ((n.operate c op).1.channel c).pending.failures +
        failuresOf (obtained [(op, (n.operate c op).2)])) : n.Balanced c op := by
  have hgiven : n.givenUp c op = 0 := by rw [givenUp, hreport]
  rw [Balanced, hreport, hgiven, hswallowed, accepted_eq_zero hcalm.slot, hpending]
  simp

/-- A blocking operation that takes a pending failure. -/
theorem Balanced.of_take {op : Operation τ ε} {f : Failure ε} {rest : Pending ε}
    (htake : (n.channel c).pending.take? = some (f, rest)) (hreport : op.report? = none)
    (hobtained : obtained [(op, (n.operate c op).2)] = [])
    (hpending : ((n.operate c op).1.channel c).pending = rest)
    (haccepted : n.accepted (n.operate c op).1 + n.swallowed c op = {f}) : n.Balanced c op := by
  have hgiven : n.givenUp c op = 0 := by rw [givenUp, hreport]
  rw [Balanced, hreport, hgiven, hobtained, hpending, Pending.failures_take?_add htake,
    ← haccepted]
  simp [failuresOf, add_assoc]

theorem balanced_send (value : τ) (s : Strand.Ref) : n.Balanced c (.send value s) := by
  refine .of_calm (calm_operate rfl nofun) rfl rfl ?_
  change _ = (((n.send c value s).channel c).pending.failures : Multiset (Failure ε)) + 0
  rw [channel_send, if_pos rfl, add_zero]
  rfl

theorem balanced_syncSend (value : τ) (s : Strand.Ref) (d : Slot.Ref) :
    n.Balanced c (.syncSend value s d) := by
  cases hr : (n.channel c).hasReceiver with
  | true =>
    refine .of_calm (calm_operate rfl ?_) rfl (if_neg (by simp [hr])) ?_
    · intro _ _ hend
      cases hend with
      | syncSend hno => rw [hr] at hno; cases hno
    · change _ = (((n.syncSend c value s d).1.channel c).pending.failures :
        Multiset (Failure ε)) + 0
      rw [channel_syncSend_of_hasReceiver n c value s d hr, add_zero]
      rfl
  | false =>
    have hr' : ((n.channel c).enqueue ⟨value, true⟩).hasReceiver = false := hr
    cases hp : (n.channel c).pending.take? with
    | some taken =>
      have hp' : ((n.channel c).enqueue ⟨value, true⟩).pending.take? = some taken := hp
      refine .of_take hp rfl rfl ?_ ?_
      · exact congrArg Channel.pending (channel_syncSend_of_pending n c value s d hr hp)
      · simp only [operate, Prod.map_fst, id_eq, syncSend, channel_emit, channel_updateChannel_self,
          hr', hp', Bool.false_eq_true, if_false, swallowed, hr, hp, true_and, Option.map_some]
        refine accepted_offer_add (.updateChannel (.emit (.updateChannel (.emit (.updateChannel
          (.refl n) _) rfl) _) rfl) _) rfl taken.1
    | none =>
      refine .of_calm (calm_operate rfl ?_) rfl (by simp [swallowed, hp]) ?_
      · intro _ _ hend
        cases hend with
        | syncSend _ hno => rw [hp] at hno; cases hno
      · change _ = (((n.syncSend c value s d).1.channel c).pending.failures :
          Multiset (Failure ε)) + 0
        rw [channel_syncSend_of_idle n c value s d hr hp, add_zero]
        rfl

theorem balanced_receive (s : Strand.Ref) : n.Balanced c (.receive s) := by
  refine .of_calm (calm_operate rfl nofun) rfl rfl ?_
  refine channel_receive (P := fun b r =>
    ((n.channel c).pending.failures : Multiset (Failure ε)) = b.pending.failures +
      failuresOf (obtained [((.receive s, .received r) : Operation τ ε × Outcome τ ε)])) s ?_ ?_ ?_
  · exact fun _ _ _ => (add_zero _).symm
  · exact fun f pending _ _ htake => Pending.failures_take?_add htake
  · exact fun _ _ => (add_zero _).symm

theorem balanced_flush (s : Strand.Ref) (d : Slot.Ref) (k : Coordinator.Ref) :
    n.Balanced c (.flush s d k) := by
  cases hp : (n.channel c).pending.take? with
  | some taken =>
    have hchannel := n.channel_flush c c s d k
    rw [if_pos rfl, hp] at hchannel
    refine .of_take hp rfl rfl (congrArg Channel.pending hchannel) ?_
    simp only [operate, Prod.map_fst, id_eq, flush, hp, swallowed, Option.map_some]
    exact accepted_offer_add (.emit (.updateChannel (.refl n) _) rfl) rfl taken.1
  | none =>
    refine .of_calm (calm_operate rfl ?_) rfl (by simp [swallowed, hp]) ?_
    · intro _ _ hend
      cases hend with
      | flush hno => rw [hp] at hno; cases hno
    · change _ = (((n.flush c s d k).1.channel c).pending.failures : Multiset (Failure ε)) + 0
      rw [(n.flushed_flush c s d k c).pending hp, add_zero]

/-! ## Reports -/

/-- A report of a failure that no slot accepts: it is stored or given up. -/
theorem Balanced.of_report {op : Operation τ ε} {f : Failure ε} (hreport : op.report? = some f)
    (hslot : ∀ d, (n.slot d).Calm ((n.operate c op).1.slot d))
    (hobtained : obtained [(op, (n.operate c op).2)] = []) (hswallowed : n.swallowed c op = 0)
    (hpending : ((n.channel c).pending.failures : Multiset (Failure ε)) + {f} =
      ((n.operate c op).1.channel c).pending.failures +
        lost (n.channel c).pending f n (n.operate c op).1) : n.Balanced c op := by
  have hgiven : n.givenUp c op = lost (n.channel c).pending f n (n.operate c op).1 := by
    rw [givenUp, hreport]
  rw [Balanced, hreport, hgiven, hobtained, hswallowed, accepted_eq_zero hslot]
  simpa [failuresOf, add_assoc] using hpending

theorem slot_storeFailure (f : Failure ε) (d : Slot.Ref) :
    (l.storeFailure c f).slot d = l.slot d := by
  unfold storeFailure
  dsimp only
  split <;> rfl

/-- A failure that is stored takes the place of an older one of its kind, which is given up. -/
theorem lost_storeFailure {m : Network τ ε} {f : Failure ε} (hl : n.Silent l)
    (hp : (l.channel c).pending = (n.channel c).pending) (hm : (l.storeFailure c f).Silent m) :
    lost (n.channel c).pending f n m =
      (((n.channel c).pending.get f.kind).map (Failure.mk f.kind)).toList := by
  unfold storeFailure at hm
  rw [hp] at hm
  cases hget : (n.channel c).pending.get f.kind with
  | none =>
    rw [hget] at hm
    exact lost_eq_zero (hl.trans hm) _ _
  | some e =>
    rw [hget] at hm
    rw [lost_of_emit (l := l.updateChannel c _) hl hm]
    simp [Event.lost?, hget]

theorem Balanced.of_store {op : Operation τ ε} {f : Failure ε} (hl : Calm n l)
    (hp : (l.channel c).pending = (n.channel c).pending)
    (hm : Calm (l.storeFailure c f) (n.operate c op).1)
    (hreport : op.report? = some f) (hobtained : obtained [(op, (n.operate c op).2)] = [])
    (hswallowed : n.swallowed c op = 0)
    (hput : ((n.operate c op).1.channel c).pending = (n.channel c).pending.put f) :
    n.Balanced c op := by
  refine .of_report hreport (fun d => ?_) hobtained hswallowed ?_
  · have hstored := hm.slot d
    rw [slot_storeFailure] at hstored
    exact (hl.slot d).trans hstored
  · rw [hput, lost_storeFailure hl.silent hp hm.silent]
    exact Pending.failures_put_add ..

theorem balanced_failSend (f : Failure ε) : n.Balanced c (.failSend f) := by
  have hcounted : Calm n ((n.updateChannel c (·.countSent)).emit (.sendFailed
      ((n.updateChannel c (·.countSent)).channelTag c) f.kind
      ((n.updateChannel c (·.countSent)).channel c).sendCount)) :=
    ((Calm.refl n).updateChannel _).emit rfl
  refine .of_store hcounted ?_ ((Calm.refl _).wakeReceiver c) rfl rfl rfl ?_
  · rw [channel_emit, channel_updateChannel_self]
    rfl
  · change ((n.failSend c f).channel c).pending = _
    rw [channel_failSend, if_pos rfl]

/-- The failure of the receiving worker reaches the flushing sender, or is handed on. -/
theorem failFlushSender_fate {m : Network τ ε} {f : Failure ε} {o : Option (Failure ε)}
    (h : n.failFlushSender c f = (m, o)) : o = none ∧ Delivers f n m ∨ o = some f ∧ Calm n m := by
  have hfreed : Calm n (n.updateChannel c fun channel => { channel with flushSender := none }) :=
    (Calm.refl n).updateChannel _
  unfold failFlushSender at h
  split at h
  · obtain ⟨rfl, rfl⟩ := Prod.mk.inj h
    exact .inr ⟨rfl, .refl n⟩
  · dsimp only at h
    split at h
    · rename_i hdeliver
      obtain ⟨rfl, rfl⟩ := Prod.mk.inj h
      rcases Delivers.deliver hfreed hdeliver with ⟨-, hdelivered⟩ | ⟨hno, -⟩
      · exact .inl ⟨rfl, hdelivered.calm ((Calm.refl _).emit rfl)⟩
      · cases hno
    · rename_i hdeliver
      rcases Delivers.deliver hfreed hdeliver with ⟨hno, -⟩ | ⟨hback, hcalm⟩
      · cases hno
      · cases hback
        obtain ⟨rfl, rfl⟩ := Prod.mk.inj h
        exact .inr ⟨rfl, hcalm.emit rfl⟩

/-- So it is with the sender that waits for its value. -/
theorem failSyncSender_fate {m : Network τ ε} {f : Failure ε} {o : Option (Failure ε)}
    (h : n.failSyncSender c f = (m, o)) : o = none ∧ Delivers f n m ∨ o = some f ∧ Calm n m := by
  have hfreed : Calm n (n.updateChannel c fun channel => { channel with syncSender := none }) :=
    (Calm.refl n).updateChannel _
  unfold failSyncSender at h
  split at h
  · obtain ⟨rfl, rfl⟩ := Prod.mk.inj h
    exact .inr ⟨rfl, .refl n⟩
  · dsimp only at h
    split at h
    · rename_i hdeliver
      obtain ⟨rfl, rfl⟩ := Prod.mk.inj h
      rcases Delivers.deliver hfreed hdeliver with ⟨-, hdelivered⟩ | ⟨hno, -⟩
      · exact .inl ⟨rfl, hdelivered.calm (((Calm.refl _).emit rfl).updateChannel _)⟩
      · cases hno
    · rename_i hdeliver
      rcases Delivers.deliver hfreed hdeliver with ⟨hno, -⟩ | ⟨hback, hcalm⟩
      · cases hno
      · cases hback
        obtain ⟨rfl, rfl⟩ := Prod.mk.inj h
        exact .inr ⟨rfl, hcalm⟩

/-- The failure of the receiving worker is delivered, or nobody has taken it and the channel's
options decide about it. -/
theorem failReceive_fate (n : Network τ ε) (c : Channel.Ref) (f : Failure ε) :
    Delivers f n (n.failReceive c f) ∧
        ((n.failReceive c f).channel c).pending = (n.channel c).pending ∨
      ∃ l, Calm n l ∧ (l.channel c).pending = (n.channel c).pending ∧
        n.failReceive c f = l.retainFailure c f := by
  have hcounted : Calm n (n.countReceiveFailure c f) := ((Calm.refl n).updateChannel _).emit rfl
  have hpending : ((n.countReceiveFailure c f).channel c).pending = (n.channel c).pending := by
    rw [channel_countReceiveFailure, if_pos rfl]
  have hflush : ∀ m o, (n.countReceiveFailure c f).failFlushSender c f = (m, o) →
      (m.channel c).pending = (n.channel c).pending := by
    intro m o hm
    have hchannel := channel_failFlushSender (n.countReceiveFailure c f) c c f
    rw [hm, if_pos rfl] at hchannel
    exact (congrArg Channel.pending hchannel).trans hpending
  have hsync : ∀ m l g o, (n.countReceiveFailure c f).failFlushSender c f = (m, some g) →
      m.failSyncSender c g = (l, o) → (l.channel c).pending = (n.channel c).pending := by
    intro m l g o hm hl
    have hchannel := channel_failSyncSender m c c g
    rw [hl, if_pos rfl] at hchannel
    rw [← hflush m _ hm, congrArg Channel.pending hchannel]
    split <;> rfl
  refine failReceive_cases (P := fun k => Delivers f n k ∧ (k.channel c).pending = _ ∨
    ∃ l, Calm n l ∧ (l.channel c).pending = _ ∧ k = l.retainFailure c f)
    (fun m hm => ?_) (fun m g l hm hl => ?_) fun m g l g' hm hl => ?_
  · rcases failFlushSender_fate hm with ⟨-, hdelivered⟩ | ⟨hno, -⟩
    · exact .inl ⟨hdelivered.of_calm hcounted, hflush m _ hm⟩
    · cases hno
  · rcases failFlushSender_fate hm with ⟨hno, -⟩ | ⟨hon, hcalm⟩
    · cases hno
    · cases hon
      rcases failSyncSender_fate hl with ⟨-, hdelivered⟩ | ⟨hno, -⟩
      · exact .inl ⟨hdelivered.of_calm (hcounted.trans hcalm), hsync m l f _ hm hl⟩
      · cases hno
  · rcases failFlushSender_fate hm with ⟨hno, -⟩ | ⟨hon, hcalm⟩
    · cases hno
    · cases hon
      rcases failSyncSender_fate hl with ⟨hno, -⟩ | ⟨hon, hcalm'⟩
      · cases hno
      · cases hon
        exact .inr ⟨l, (hcounted.trans hcalm).trans hcalm', hsync m l f _ hm hl, rfl⟩

theorem balanced_failReceive (f : Failure ε) : n.Balanced c (.failReceive f) := by
  rcases failReceive_fate n c f with ⟨hdelivered, hpending⟩ | ⟨l, hl, hp, hretain⟩
  · have hgiven : n.givenUp c (.failReceive f) = 0 := lost_eq_zero hdelivered.silent _ _
    rw [Balanced, hgiven]
    change _ = (((n.failReceive c f).channel c).pending.failures : Multiset (Failure ε)) + 0 +
      n.accepted (n.failReceive c f) + 0 + 0
    rw [hpending, hdelivered.accepted_eq]
    simp [Operation.report?]
  · have hm : (n.operate c (.failReceive f)).1 = l.retainFailure c f := hretain
    unfold retainFailure at hm
    split at hm
    · refine .of_store (l := l.emit (.failureRetained (l.channelTag c))) (hl.emit rfl) hp ?_
        rfl rfl rfl ?_
      · rw [hm]
        exact .refl _
      · rw [hm, channel_storeFailure, if_pos rfl, channel_emit, hp]
    · refine .of_report (f := f) rfl (fun d => ?_) rfl rfl ?_
      · rw [hm]
        exact hl.slot d
      · rw [hm, channel_emit, hp, lost_of_emit hl.silent ⟨[], (List.append_nil _).symm, nofun⟩]
        rfl

/-- In each operation the failures balance. -/
theorem fates_operate (n : Network τ ε) (c : Channel.Ref) (op : Operation τ ε) :
    n.Balanced c op := by
  cases op with
  | send value s => exact balanced_send value s
  | syncSend value s d => exact balanced_syncSend value s d
  | receive s => exact balanced_receive s
  | flush s d k => exact balanced_flush s d k
  | failSend f => exact balanced_failSend f
  | failReceive f => exact balanced_failReceive f

/-! ## Runs -/

/-- The failures that slots accept in an operation. -/
def acceptedIn (n : Network τ ε) (c : Channel.Ref) (op : Operation τ ε) : Multiset (Failure ε) :=
  n.accepted (n.operate c op).1

/-- What the operations of a run on a channel add up to. -/
def total (g : Network τ ε → Channel.Ref → Operation τ ε → Multiset (Failure ε))
    (c : Channel.Ref) : Network τ ε → List (Call τ ε) → Multiset (Failure ε)
  | _, [] => 0
  | n, call :: calls =>
    (match call with
      | .operate x op => if x = c then g n c op else 0
      | _ => 0) + total g c (n.perform call).1 calls

section
variable {g : Network τ ε → Channel.Ref → Operation τ ε → Multiset (Failure ε)}

theorem total_operate (op : Operation τ ε) (calls : List (Call τ ε)) :
    total g c n (.operate c op :: calls) = g n c op + total g c (n.operate c op).1 calls := by
  rw [total, if_pos rfl]
  rfl

theorem total_of_notMem {call : Call τ ε} (h : c ∉ call.channels) (calls : List (Call τ ε)) :
    total g c n (call :: calls) = total g c (n.perform call).1 calls := by
  cases call with
  | operate x op =>
    have hx : x ≠ c := fun hx => h (List.mem_singleton.2 hx.symm)
    rw [total, if_neg hx, zero_add]
  | _ => exact zero_add _

end

/-- Balances of which one ends where the other begins add up. -/
theorem balance_trans {α : Type} {a b c r r' o o' x x' g g' s s' : Multiset α}
    (h : a + r = b + o + x + g + s) (h' : b + r' = c + o' + x' + g' + s') :
    a + (r + r') = c + (o + o') + (x + x') + (g + g') + (s + s') := by
  calc a + (r + r') = (a + r) + r' := (add_assoc ..).symm
    _ = (b + r') + (o + x + g + s) := by rw [h]; ac_rfl
    _ = c + (o + o') + (x + x') + (g + g') + (s + s') := by rw [h']; ac_rfl

/-- In a run too, the failures balance. -/
theorem fates_run (n : Network τ ε) (c : Channel.Ref) (calls : List (Call τ ε))
    (hflush : ∀ call ∈ calls, ¬ call.FlushesAll c) :
    ((n.channel c).pending.failures : Multiset (Failure ε)) +
        reported (operationsOn c (n.history calls)) =
      ((n.run calls).channel c).pending.failures +
        failuresOf (obtained (operationsOn c (n.history calls))) + total acceptedIn c n calls +
          total givenUp c n calls + total swallowed c n calls := by
  induction calls generalizing n with
  | nil => simp [total, reported, failuresOf, obtained, operationsOn]
  | cons call calls ih =>
    have hrest := ih (n.perform call).1 fun x hx => hflush x (List.mem_cons_of_mem _ hx)
    rw [operationsOn_history_cons, run_cons]
    by_cases hc : c ∈ call.channels
    · cases call with
      | operate x op =>
        obtain rfl : c = x := List.mem_singleton.1 hc
        have hstep := fates_operate n c op
        have hreported : reported [(op, (n.operate c op).2)] = op.report?.toList := by
          simp [reported, List.filterMap_cons]
          cases op.report? <;> rfl
        rw [operationsOn_exchange_operate, total_operate, total_operate, total_operate,
          obtained_append, failuresOf_append, reported_append, hreported, ← Multiset.coe_add,
          ← Multiset.coe_add]
        exact balance_trans hstep hrest
      | flushAll cs s d => exact absurd hc (hflush _ List.mem_cons_self)
      | _ => cases hc
    · rw [operationsOn_exchange_eq_nil n hc, List.nil_append, total_of_notMem hc,
        total_of_notMem hc, total_of_notMem hc, ← n.pending_perform_of_notMem call hc]
      exact hrest

/-- A blocking operation on the channel is passed a slot that is not resolved yet. -/
def Unspent (c : Channel.Ref) (n : Network τ ε) : Call τ ε → Prop
  | .operate x op => x = c → ∀ d ∈ op.slots, (n.slot d).isResolved = false
  | _ => True

instance : DecidablePred (n.Unspent c) := fun
  | .operate x op => inferInstanceAs (Decidable (x = c → ∀ d ∈ op.slots, _))
  | .createReadySet | .createStrand .. | .createSlot | .createChannel _ | .createDrainLog
  | .createBarrier .. | .createTable _ | .dropScheduler _ | .dropConsumer _ | .dispatch _
  | .poll .. | .wake _ | .markRunning _ | .resume _ | .offer .. | .take _ | .notifyDrained ..
  | .flushAll .. | .lookup .. | .lookupOrCreate .. | .unlink .. => instDecidableTrue

theorem swallowed_eq_zero {op : Operation τ ε}
    (h : ∀ d ∈ op.slots, (n.slot d).isResolved = false) : n.swallowed c op = 0 := by
  cases op with
  | syncSend value s d =>
    have hd := h d (List.mem_singleton.2 rfl)
    exact if_neg fun hno => by rw [hd] at hno; cases hno.2
  | flush s d k =>
    have hd := h d (List.mem_singleton.2 rfl)
    exact if_neg fun hno => by rw [hd] at hno; cases hno
  | _ => rfl

theorem total_swallowed_eq_zero {calls : List (Call τ ε)} (h : n.Keeps (Unspent c) calls) :
    total swallowed c n calls = 0 := by
  induction calls generalizing n with
  | nil => rfl
  | cons call calls ih =>
    have hrest := ih h.2
    by_cases hc : c ∈ call.channels
    · cases call with
      | operate x op =>
        obtain rfl : c = x := List.mem_singleton.1 hc
        rw [total_operate, swallowed_eq_zero (h.1 rfl), zero_add]
        exact hrest
      | _ => exact (zero_add _).trans hrest
    · rw [total_of_notMem hc]
      exact hrest

/-- Every failure that was reported to a channel is pending, or has been received, or accepted by a
slot, or given up with a warning, or swallowed by a blocking operation whose slot was resolved
already; and each has met one of these fates only. If every blocking operation is passed a fresh
slot then nothing is swallowed. -/
theorem failures_accounted (calls : List (Call τ ε)) (c : Channel.Ref)
    (hflush : ∀ call ∈ calls, ¬ call.FlushesAll c) :
    let n : Network τ ε := {}
    let ops := operationsOn c (n.history calls)
    (reported ops : Multiset (Failure ε)) =
        ((n.run calls).channel c).pending.failures + failuresOf (obtained ops) +
          total acceptedIn c n calls + total givenUp c n calls + total swallowed c n calls ∧
      (n.Keeps (Unspent c) calls → total swallowed c n calls = 0) := by
  intro n ops
  refine ⟨?_, total_swallowed_eq_zero⟩
  rw [← fates_run n c calls hflush]
  exact (zero_add _).symm

/-- One failure of a sender is overwritten and given up, the next is received. Of the failures of a
receiver that retains them the first is accepted by a flush, and the second is pending. -/
theorem failures_accounted_all :
    let calls : List (Call Nat String) := [
      .createReadySet,
      .createStrand (some "tx") ⟨0⟩,
      .createStrand (some "rx") ⟨0⟩,
      .createSlot,
      .createDrainLog,
      .createChannel { retainReceiveFailures := true },
      .operate ⟨0⟩ (.failSend (.error "first")),
      .operate ⟨0⟩ (.failSend (.error "second")),
      .operate ⟨0⟩ (.failReceive (.panic "third")),
      .operate ⟨0⟩ (.flush ⟨0⟩ ⟨0⟩ ⟨0⟩),
      .operate ⟨0⟩ (.receive ⟨1⟩),
      .operate ⟨0⟩ (.failReceive (.panic "fourth"))]
    let n : Network Nat String := {}
    let ops := operationsOn ⟨0⟩ (n.history calls)
    (reported ops : Multiset (Failure String)) =
        ((n.run calls).channel ⟨0⟩).pending.failures + failuresOf (obtained ops) +
          total acceptedIn ⟨0⟩ n calls + total givenUp ⟨0⟩ n calls ∧
      ((n.run calls).channel ⟨0⟩).pending.failures = [.panic "fourth"] ∧
      failuresOf (obtained ops) = [.error "second"] ∧
      total acceptedIn ⟨0⟩ n calls = {.panic "third"} ∧
      total givenUp ⟨0⟩ n calls = {.error "first"} := by
  intro calls n ops
  have hflush : ∀ call ∈ calls, ¬ call.FlushesAll ⟨0⟩ := by simp [calls, Call.FlushesAll]
  have hfresh : n.Keeps (Unspent ⟨0⟩) calls := by decide
  obtain ⟨haccounted, hzero⟩ := failures_accounted calls ⟨0⟩ hflush
  rw [hzero hfresh, add_zero] at haccounted
  exact ⟨haccounted, by decide, by decide, by decide, by decide⟩

/-- The slot of a flush has been resolved by somebody else. The flush takes the pending failure all
the same; no slot holds it, no log mentions it, and nobody receives it. -/
theorem swallowed_by_resolved_slot :
    let calls : List (Call Nat String) := [
      .createReadySet,
      .createStrand (some "tx") ⟨0⟩,
      .createStrand (some "rx") ⟨0⟩,
      .createSlot,
      .createDrainLog,
      .createChannel {},
      .operate ⟨0⟩ (.failSend (.error "lost")),
      .offer ⟨0⟩ .done,
      .operate ⟨0⟩ (.flush ⟨0⟩ ⟨0⟩ ⟨0⟩)]
    let n : Network Nat String := {}
    let ops := operationsOn ⟨0⟩ (n.history calls)
    reported ops = [.error "lost"] ∧
      ((n.run calls).channel ⟨0⟩).pending.failures = [] ∧ failuresOf (obtained ops) = [] ∧
        total acceptedIn ⟨0⟩ n calls = 0 ∧ total givenUp ⟨0⟩ n calls = 0 := by
  decide

end Network

end Rendezvous
