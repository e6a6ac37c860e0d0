import Rendezvous.Proofs.Fifo
import Rendezvous.Proofs.Tally

/-!
# Who waits on a channel

A receiver waits while nothing is queued, and a sender while something is to be received. Both wait
on one channel only if the sender waits for something that can never be received.

* **Holes** (`Channel.HasHole`): a failure of the sender took a place of the stream, and left the
  channel in a way that did not consume the place. The hole stays (`hole_operate`).
* **Parked strands** (`Channel.Parties`): what is known of the channel while a strand waits there.
  Each operation keeps it (`Parties.operate`), and so does every run (`Network.parties_run`).
* **Both sides** (`Network.hole_of_both_parked`): a receiver and a sender wait at the same time only
  if the queue is empty and there is a hole. A flush leaves such holes
  (`Network.both_parked_after_flushes`).
-/

namespace Rendezvous

variable {τ ε : Type}

/-! ## Counting pending failures -/

namespace Pending

/-- What is consumed is the first of the pending failures, and the others stay. -/
theorem failures_of_take? {p rest : Pending ε} {f : Failure ε} (h : p.take? = some (f, rest)) :
    p.failures = f :: rest.failures := by
  cases p with | mk panic error =>
  cases panic <;> cases error <;>
    simp only [take?, Option.some.injEq, Prod.mk.injEq, reduceCtorEq] at h
  all_goals
    obtain ⟨rfl, rfl⟩ := h
    rfl

/-- A new failure is pending, and one of its kind that was pending before is not any more. -/
theorem failures_put_perm (p : Pending ε) (f : Failure ε) :
    ((p.put f).failures ++ ((p.get f.kind).map (Failure.mk f.kind)).toList).Perm
      (f :: p.failures) := by
  cases f with | mk kind e =>
  cases p with | mk panic error =>
  cases kind with
  | panic => exact .cons _ List.perm_append_comm
  | error =>
    change (_ ++ [_] ++ _ : List (Failure ε)).Perm _
    rw [List.append_assoc]
    exact List.perm_middle

/-- One more failure is pending at most. -/
theorem length_failures_put_le (p : Pending ε) (f : Failure ε) :
    (p.put f).failures.length ≤ p.failures.length + 1 := by
  have hlength := (p.failures_put_perm f).length_eq
  rw [List.length_append, List.length_cons] at hlength
  omega

/-- A pending failure was pending before, or is the new one. -/
theorem mem_failures_put {p : Pending ε} {f g : Failure ε} (h : g ∈ (p.put f).failures) :
    g = f ∨ g ∈ p.failures :=
  List.mem_cons.1 ((p.failures_put_perm f).subset (List.mem_append_left _ h))

end Pending

namespace Channel

/-! ## Releasing senders -/

@[simp] theorem length_releaseFirst (l : List (Message τ)) :
    (releaseFirst l).length = l.length := by
  simpa using congrArg List.length (map_value_releaseFirst l)

@[simp] theorem size_releaseSync (channel : Channel τ ε) :
    channel.releaseSync.size = channel.size := by
  simp [size, releaseSync]

/-- A value that was just sent is the newest. -/
theorem releaseNewest_enqueue (channel : Channel τ ε) (m : Message τ) (pending : Pending ε) :
    { channel.enqueue m with pending }.releaseNewest =
      { channel.enqueue { m with sync := false } with pending } := by
  simp [releaseNewest, enqueue, releaseHead]

/-! ## Holes -/

/-- A failure of the sender took a place of the stream, but fewer failures have consumed one or are
still pending. -/
def HasHole (ops : List (Operation τ ε × Outcome τ ε)) (channel : Channel τ ε) : Prop :=
  failuresConsumed ops + channel.pending.failures.length < sendFailures ops

end Channel

namespace Network

variable {n : Network τ ε} {c : Channel.Ref} {ops : List (Operation τ ε × Outcome τ ε)}

/-- A flush can only take the first of the pending failures. -/
theorem failures_flush (s : Strand.Ref) (d : Slot.Ref) (k : Coordinator.Ref) :
    ((n.flush c s d k).1.channel c).pending.failures <:+ (n.channel c).pending.failures := by
  rw [channel_flush, if_pos rfl]
  split
  · rename_i hp
    rw [Pending.failures_of_take? hp]
    exact List.suffix_cons ..
  · split <;> exact List.suffix_refl _

/-- So can a synchronous send. -/
theorem failures_syncSend (value : τ) (s : Strand.Ref) (d : Slot.Ref) :
    ((n.syncSend c value s d).1.channel c).pending.failures <:+
      (n.channel c).pending.failures := by
  refine channel_syncSend (P := fun b => b.pending.failures <:+ _) value s d ?_ ?_ ?_
  · exact fun _ => List.suffix_refl _
  · intro f pending _ hp
    rw [Pending.failures_of_take? hp]
    exact List.suffix_cons ..
  · exact fun _ _ => List.suffix_refl _

/-- A failure that is received was pending. -/
theorem length_failures_receive (s : Strand.Ref) :
    failuresConsumed [(.receive s, (n.operate c (.receive s)).2)] +
        ((n.receive c s).1.channel c).pending.failures.length =
      (n.channel c).pending.failures.length := by
  refine channel_receive (P := fun b r =>
    failuresConsumed [((.receive s, .received r) : Operation τ ε × Outcome τ ε)] +
      b.pending.failures.length = _) s ?_ ?_ ?_
  · exact fun _ _ _ => Nat.zero_add _
  · intro f pending _ _ hp
    rw [Pending.failures_of_take? hp]
    exact Nat.add_comm ..
  · exact fun _ _ => Nat.zero_add _

/-- Once there is a hole it stays, unless the receiving worker fails. -/
theorem hole_operate {op : Operation τ ε} (hop : op.isFailReceive = false)
    (h : (n.channel c).HasHole ops) :
    ((n.operate c op).1.channel c).HasHole (ops ++ [(op, (n.operate c op).2)]) := by
  suffices hstep : failuresConsumed [(op, (n.operate c op).2)] +
      ((n.operate c op).1.channel c).pending.failures.length ≤
        (n.channel c).pending.failures.length + sendFailures [(op, (n.operate c op).2)] by
    unfold Channel.HasHole at h ⊢
    rw [failuresConsumed_append, sendFailures_append]
    omega
  cases op with
  | send value s =>
    change 0 + ((n.send c value s).channel c).pending.failures.length ≤ _
    rw [channel_send, if_pos rfl]
    exact Nat.le_of_eq (Nat.zero_add _)
  | syncSend value s d =>
    have hless := (failures_syncSend (n := n) (c := c) value s d).length_le
    change 0 + ((n.syncSend c value s d).1.channel c).pending.failures.length ≤ _ + 0
    omega
  | receive s => exact Nat.le_of_eq (length_failures_receive s)
  | flush s d k =>
    have hless := (failures_flush (n := n) (c := c) s d k).length_le
    change 0 + ((n.flush c s d k).1.channel c).pending.failures.length ≤ _ + 0
    omega
  | failSend f =>
    change 0 + ((n.failSend c f).channel c).pending.failures.length ≤ _ + 1
    rw [channel_failSend, if_pos rfl, Nat.zero_add]
    exact Pending.length_failures_put_le ..
  | failReceive f => cases hop

/-- A flush closes no hole. -/
theorem hole_flush (h : (n.channel c).HasHole ops) (s : Strand.Ref) (d : Slot.Ref)
    (k : Coordinator.Ref) : ((n.flush c s d k).1.channel c).HasHole ops := by
  have hless := (failures_flush (n := n) (c := c) s d k).length_le
  unfold Channel.HasHole at h ⊢
  omega

end Network

/-! ## Parked strands -/

namespace Channel

variable {ops ops' : List (Operation τ ε × Outcome τ ε)} {a b : Channel τ ε}

/-- What is known while strands wait on a channel. Nothing is queued for a receiver that waits. The
value of a sender that waits for it is queued. A flushing sender waits for places that have been
taken and not all consumed; they are queued, unless there is a hole. -/
structure Parties (ops : List (Operation τ ε × Outcome τ ε)) (channel : Channel τ ε) : Prop where
  receiver : channel.hasReceiver = true → channel.queue = []
  syncSender : channel.hasSyncSender = true → ∃ m ∈ channel.queue, m.sync = true
  flushSender : ∀ p, channel.flushSender = some p →
    channel.recvCount < p.threshold ∧ p.threshold ≤ channel.sendCount ∧
      (p.threshold.toNat ≤ channel.recvCount.toNat + channel.size ∨ channel.HasHole ops)

/-- A hole that stays keeps what is known of a flushing sender. -/
theorem Parties.flushSender_imp (h : a.Parties ops) {P : Prop} (hole : a.HasHole ops → P)
    (p : FlushParty) (hp : a.flushSender = some p) :
    a.recvCount < p.threshold ∧ p.threshold ≤ a.sendCount ∧
      (p.threshold.toNat ≤ a.recvCount.toNat + a.size ∨ P) :=
  (h.flushSender p hp).imp id (And.imp id (Or.imp id hole))

/-- What nobody waits on. -/
theorem Parties.of_none (hreceiver : a.receiver = none) (hsync : a.syncSender = none)
    (hflush : a.flushSender = none) : a.Parties ops := by
  refine ⟨fun h => ?_, fun h => ?_, fun p h => ?_⟩
  · rw [hasReceiver, hreceiver] at h
    cases h
  · rw [hasSyncSender, hsync] at h
    cases h
  · rw [hflush] at h
    cases h

/-- A value is put behind the others, and no receiver waits any more. -/
theorem Parties.enqueue (h : a.Parties ops) {m : Message τ} (hq : b.queue = a.queue ++ [m])
    (hreceiver : b.hasReceiver = false) (hsync : b.syncSender = a.syncSender ∨ m.sync = true)
    (hflush : b.flushSender = a.flushSender) (hrecv : b.recvCount = a.recvCount)
    (hsend : b.sendCount.toNat = a.sendCount.toNat + 1)
    (hole : a.HasHole ops → b.HasHole ops') : b.Parties ops' := by
  refine ⟨fun hb => ?_, fun hb => ?_, fun p hp => ?_⟩
  · rw [hreceiver] at hb
    cases hb
  · rw [hq]
    rcases hsync with hsame | hm
    · rw [hasSyncSender, hsame] at hb
      obtain ⟨x, hx, hxs⟩ := h.syncSender hb
      exact ⟨x, List.mem_append_left _ hx, hxs⟩
    · exact ⟨m, List.mem_append_right _ (List.mem_singleton.2 rfl), hm⟩
  · obtain ⟨hlow, hhigh, hplace⟩ := h.flushSender p (hflush ▸ hp)
    refine ⟨hrecv ▸ hlow, ?_, ?_⟩
    · rw [UInt64.le_iff_toNat_le] at hhigh ⊢
      omega
    · have hsize : b.size = a.size + 1 := by rw [size, hq, List.length_append]; rfl
      rw [hrecv, hsize]
      exact hplace.imp (by omega) hole

end Channel

namespace Channel.Parties

variable {n : Network τ ε} {c : Channel.Ref} {ops ops' : List (Operation τ ε × Outcome τ ε)}

theorem send (h : (n.channel c).Parties ops) (value : τ) (s : Strand.Ref)
    (hsend : ((n.send c value s).channel c).sendCount.toNat = (n.channel c).sendCount.toNat + 1)
    (hole : (n.channel c).HasHole ops → ((n.send c value s).channel c).HasHole ops') :
    ((n.send c value s).channel c).Parties ops' := by
  rw [Network.channel_send, if_pos rfl] at hsend hole ⊢
  exact h.enqueue (m := ⟨value, false⟩) rfl rfl (.inl rfl) rfl rfl hsend hole

theorem syncSend (h : (n.channel c).Parties ops) (value : τ) (s : Strand.Ref) (d : Slot.Ref)
    (hsend : ((n.syncSend c value s d).1.channel c).sendCount.toNat =
      (n.channel c).sendCount.toNat + 1)
    (hole : (n.channel c).HasHole ops → ((n.syncSend c value s d).1.channel c).HasHole ops') :
    ((n.syncSend c value s d).1.channel c).Parties ops' := by
  revert hsend hole
  refine Network.channel_syncSend (P := fun b => b.sendCount.toNat = _ →
    ((n.channel c).HasHole ops → b.HasHole ops') → b.Parties ops') value s d ?_ ?_ ?_
  · intro _ hsend hole
    exact h.enqueue (m := ⟨value, true⟩) rfl rfl (.inr rfl) rfl rfl hsend hole
  · intro f pending hr _ hsend hole
    rw [releaseNewest_enqueue] at hsend hole ⊢
    exact h.enqueue (m := ⟨value, false⟩) rfl hr (.inl rfl) rfl rfl hsend hole
  · intro hr _ hsend hole
    exact h.enqueue (m := ⟨value, true⟩) rfl hr (.inr rfl) rfl rfl hsend hole

/-- A flushing sender waits for a place that is not consumed yet. -/
theorem toNat_recvCount_succ {a : Channel τ ε} (h : a.Parties ops) {p : FlushParty}
    (hp : a.flushSender = some p) : (a.recvCount + 1).toNat = a.recvCount.toNat + 1 := by
  have hlow := UInt64.lt_iff_toNat_lt.1 (h.flushSender p hp).1
  have hword := p.threshold.toNat_lt
  rw [UInt64.toNat_add, UInt64.toNat_one]
  omega

/-- No failure has arrived while a sender flushes and nothing is queued: the place that is left is
that of a failure which is not pending any more. -/
theorem not_arrived {a : Channel τ ε} (h : a.Parties ops) (ht : a.Tally ops) (hq : a.queue = [])
    {p : FlushParty} (hp : a.flushSender = some p) (hone : a.sendCount = a.recvCount + 1) :
    a.pending.take? = none := by
  obtain ⟨hlow, hhigh, hplace⟩ := h.flushSender p hp
  rw [UInt64.lt_iff_toNat_lt] at hlow
  have hsucc := h.toNat_recvCount_succ hp
  have hsize : a.size = 0 := by rw [size, hq]; rfl
  have hgap := ht.gap
  rw [hone] at hgap
  rw [← Pending.failures_eq_nil, ← List.length_eq_zero_iff]
  rcases hplace with hqueued | hole
  · omega
  · unfold HasHole at hole
    omega

/-- A receiver takes the head of the queue, and the flushing sender goes with the place that it
waits for. -/
theorem receive (h : (n.channel c).Parties ops) (ht : (n.channel c).Tally ops) (s : Strand.Ref)
    (hole : (n.channel c).HasHole ops → ((n.receive c s).1.channel c).HasHole ops') :
    ((n.receive c s).1.channel c).Parties ops' := by
  revert hole
  refine Network.channel_receive (P := fun b _ =>
    ((n.channel c).HasHole ops → b.HasHole ops') → b.Parties ops') s ?_ ?_ ?_
  · intro m rest hq hole
    refine ⟨fun hb => ?_, fun hb => ?_, fun p hp => ?_⟩
    · have hnil := h.receiver hb
      rw [hq] at hnil
      cases hnil
    · change Option.isSome (if m.sync then none else (n.channel c).syncSender) = true at hb
      split at hb
      · cases hb
      · rename_i hm
        obtain ⟨x, hx, hxs⟩ := h.syncSender hb
        rw [hq] at hx
        rcases List.mem_cons.1 hx with rfl | hx
        · exact absurd hxs hm
        · exact ⟨x, hx, hxs⟩
    · obtain ⟨ha, hne⟩ := Option.filter_eq_some_iff.1 hp
      obtain ⟨hlow, hhigh, hplace⟩ := h.flushSender p ha
      have hsucc := h.toNat_recvCount_succ ha
      have hne : p.threshold.toNat ≠ ((n.channel c).recvCount + 1).toNat :=
        mt UInt64.toNat_inj.1 (bne_iff_ne.1 hne)
      have hsize : (n.channel c).size = rest.length + 1 := by rw [size, hq]; rfl
      rw [UInt64.lt_iff_toNat_lt] at hlow
      refine ⟨?_, hhigh, hplace.imp (fun hqueued => ?_) hole⟩
      · rw [UInt64.lt_iff_toNat_lt]
        change ((n.channel c).recvCount + 1).toNat < _
        omega
      · change _ ≤ ((n.channel c).recvCount + 1).toNat + rest.length
        omega
  · intro f pending hq hone htake hole
    refine ⟨fun _ => hq, h.syncSender, fun p hp => ?_⟩
    rw [h.not_arrived ht hq hp hone] at htake
    cases htake
  · intro hq _ hole
    exact ⟨fun _ => hq, h.syncSender, h.flushSender_imp hole⟩

/-- A sender that flushes waits for everything that was sent and not received. Where more places are
taken than values are queued, there is a hole, since no failure is pending. -/
theorem flush (h : (n.channel c).Parties ops) (ht : (n.channel c).Tally ops) (s : Strand.Ref)
    (d : Slot.Ref) (k : Coordinator.Ref)
    (hole : (n.channel c).HasHole ops → ((n.flush c s d k).1.channel c).HasHole ops') :
    ((n.flush c s d k).1.channel c).Parties ops' := by
  rw [Network.channel_flush, if_pos rfl] at hole ⊢
  cases hp : (n.channel c).pending.take? with
  | some taken =>
    simp only [hp] at hole ⊢
    exact ⟨h.receiver, h.syncSender, h.flushSender_imp hole⟩
  | none =>
    simp only [hp] at hole ⊢
    split
    · rename_i hd
      rw [if_pos hd] at hole
      exact ⟨h.receiver, h.syncSender, h.flushSender_imp hole⟩
    · rename_i hd
      rw [if_neg hd] at hole
      refine ⟨h.receiver, h.syncSender, fun p hf => ?_⟩
      obtain rfl := Option.some.inj hf
      have hnone := List.length_eq_zero_iff.2 (Pending.failures_eq_nil.2 hp)
      have hgap := ht.gap
      refine ⟨by simpa [isDrained] using hd, UInt64.le_refl _, ?_⟩
      refine (Nat.lt_or_ge (failuresConsumed ops) (sendFailures ops)).symm.imp (fun hle => ?_)
        fun hlt => hole ?_
      · change (n.channel c).sendCount.toNat ≤ (n.channel c).recvCount.toNat + (n.channel c).size
        omega
      · unfold HasHole
        omega

/-- A failure of the sender wakes the receiver. -/
theorem failSend (h : (n.channel c).Parties ops) (f : Failure ε)
    (hsend : ((n.failSend c f).channel c).sendCount.toNat = (n.channel c).sendCount.toNat + 1)
    (hole : (n.channel c).HasHole ops → ((n.failSend c f).channel c).HasHole ops') :
    ((n.failSend c f).channel c).Parties ops' := by
  rw [Network.channel_failSend, if_pos rfl] at hsend hole ⊢
  refine ⟨nofun, h.syncSender, fun p hp => ?_⟩
  obtain ⟨hlow, hhigh, hplace⟩ := h.flushSender p hp
  refine ⟨hlow, ?_, hplace.imp id hole⟩
  rw [UInt64.le_iff_toNat_le] at hhigh ⊢
  omega

/-- After a failure of the receiver no sender flushes any more. -/
theorem failReceive (h : (n.channel c).Parties ops) (f : Failure ε) :
    ((n.failReceive c f).channel c).Parties ops' := by
  refine Network.channel_failReceive f ?_ ?_ ?_
  · exact ⟨h.receiver, h.syncSender, nofun⟩
  · refine ⟨fun hb => ?_, nofun, nofun⟩
    rw [← List.length_eq_zero_iff]
    exact (size_releaseSync _).trans (List.length_eq_zero_iff.2 (h.receiver hb))
  · exact ⟨h.receiver, nofun, nofun⟩

/-- So it is after each operation. -/
theorem operate (h : (n.channel c).Parties ops) (ht : (n.channel c).Tally ops)
    (op : Operation τ ε)
    (hb : ((n.operate c op).1.channel c).Tally (ops ++ [(op, (n.operate c op).2)])) :
    ((n.operate c op).1.channel c).Parties (ops ++ [(op, (n.operate c op).2)]) := by
  have hsend := ht.sendCount_snoc hb
  have hole : op.isFailReceive = false → (n.channel c).HasHole ops →
      ((n.operate c op).1.channel c).HasHole (ops ++ [(op, (n.operate c op).2)]) :=
    Network.hole_operate
  cases op with
  | send value s => exact h.send value s hsend (hole rfl)
  | syncSend value s d => exact h.syncSend value s d hsend (hole rfl)
  | receive s => exact h.receive ht s (hole rfl)
  | flush s d k => exact h.flush ht s d k (hole rfl)
  | failSend f => exact h.failSend f hsend (hole rfl)
  | failReceive f => exact h.failReceive f

end Channel.Parties

namespace Network

/-! ## Runs -/

/-- What is known of the parties that wait on a channel is known in every run. -/
theorem parties_run (calls : List (Call τ ε)) (c : Channel.Ref)
    (hlen : (operationsOn c (({} : Network τ ε).history calls)).length < UInt64.size) :
    ((({} : Network τ ε).run calls).channel c).Parties
      (operationsOn c (({} : Network τ ε).history calls)) := by
  refine channel_invariant (.of_none rfl rfl rfl) (fun _ _ _ => .of_none rfl rfl rfl)
    (fun n ops op h ht hb => h.operate ht op hb) (fun n ops s d k h ht => ?_)
    (fun ops channel d h => ?_) calls hlen
  · exact h.flush ht s d k fun hole => hole_flush hole s d k
  · refine ⟨h.receiver, h.syncSender, fun p hp => ?_⟩
    exact h.flushSender p (Option.filter_eq_some_iff.1 hp).1

/-- A receiver and a sender never wait on the same channel, unless nothing is queued and the sender
flushes up to the place of a failure that is not pending any more and was not received. -/
theorem hole_of_both_parked (calls : List (Call τ ε)) (c : Channel.Ref)
    (hlen : (operationsOn c (({} : Network τ ε).history calls)).length < UInt64.size)
    (hreceiver : ((({} : Network τ ε).run calls).channel c).hasReceiver = true)
    (hsender : ((({} : Network τ ε).run calls).channel c).hasSender = true) :
    let channel := (({} : Network τ ε).run calls).channel c
    channel.hasSyncSender = false ∧ channel.queue = [] ∧
      channel.HasHole (operationsOn c (({} : Network τ ε).history calls)) := by
  intro channel
  have h := parties_run calls c hlen
  have hq : channel.queue = [] := h.receiver hreceiver
  have hsync : channel.hasSyncSender = false := by
    rw [← Bool.not_eq_true]
    intro hs
    obtain ⟨m, hm, -⟩ := h.syncSender hs
    exact List.not_mem_nil (hq ▸ hm)
  refine ⟨hsync, hq, ?_⟩
  have hflush : channel.flushSender.isSome = true := by
    have hsender : (channel.hasSyncSender || channel.hasFlushSender) = true := hsender
    rw [hsync, Bool.false_or] at hsender
    exact hsender
  obtain ⟨p, hp⟩ := Option.isSome_iff_exists.1 hflush
  obtain ⟨hlow, -, hplace⟩ := h.flushSender p hp
  have hsize : channel.size = 0 := by rw [Channel.size, hq]; rfl
  rw [UInt64.lt_iff_toNat_lt] at hlow
  rcases hplace with hqueued | hole
  · change _ ≤ _ + channel.size at hqueued
    omega
  · exact hole

/-- A synchronous send takes a failure whose place stays behind. The sender then flushes up to that
place, which the receiver never reaches. -/
theorem hole_of_both_parked_behind_syncSend :
    let calls : List (Call Nat String) := [
      .createReadySet,
      .createStrand (some "tx") ⟨0⟩,
      .createStrand (some "rx") ⟨0⟩,
      .createSlot,
      .createSlot,
      .createDrainLog,
      .createChannel {},
      .operate ⟨0⟩ (.failSend (.error "lost")),
      .operate ⟨0⟩ (.syncSend 1 ⟨0⟩ ⟨0⟩),
      .operate ⟨0⟩ (.receive ⟨1⟩),
      .operate ⟨0⟩ (.receive ⟨1⟩),
      .operate ⟨0⟩ (.flush ⟨0⟩ ⟨1⟩ ⟨0⟩)]
    let ops := operationsOn ⟨0⟩ (({} : Network Nat String).history calls)
    let channel := (({} : Network Nat String).run calls).channel ⟨0⟩
    ops.length < UInt64.size ∧ channel.hasReceiver = true ∧ channel.hasSender = true ∧
      channel.queue = [] ∧ channel.HasHole ops := by
  intro calls ops channel
  have hlen : ops.length < UInt64.size := by decide
  obtain ⟨-, hq, hole⟩ := hole_of_both_parked calls ⟨0⟩ hlen rfl rfl
  exact ⟨hlen, rfl, rfl, hq, hole⟩

/-- A flush is ended by the failure of its own sender, but the place of that failure stays. The next
flush, with a fresh slot like the first, waits for it; so does the receiver. -/
theorem both_parked_after_flushes :
    let calls : List (Call Nat String) := [
      .createReadySet,
      .createStrand (some "tx") ⟨0⟩,
      .createStrand (some "rx") ⟨0⟩,
      .createSlot,
      .createSlot,
      .createChannel {},
      .operate ⟨0⟩ (.failSend (.error "lost")),
      .flushAll [⟨0⟩] ⟨0⟩ ⟨0⟩,
      .flushAll [⟨0⟩] ⟨0⟩ ⟨1⟩,
      .operate ⟨0⟩ (.receive ⟨1⟩)]
    let channel := (({} : Network Nat String).run calls).channel ⟨0⟩
    ¬ (channel.hasReceiver = true → channel.hasSender = false) := by
  decide

end Network

end Rendezvous
