import Rendezvous.Proofs.SyncMessages

/-!
# What a synchronous send is told

A sender that waits for its value is told that a value was received. Here is when that is its own.

* **Who is told** (`Network.registered_of_slot_receive`): of the senders that wait for a value, a
  receive tells the registered one only, and only if the message is marked.
* **Messages left behind** (`Operation.Abandons`): a sender that is displaced, or that refuses the
  failure of the receiving worker, leaves a marked message in the queue.
* **Tidy queues** (`Channel.Tidy`): as long as no message is left behind, the only marked message is
  the one of the registered sender (`tidy_run`).
* **The value** (`Network.done_own_iff`): the value is the sender's own exactly if no other queued
  message is marked. So it is if no message was left behind; otherwise it may be another
  (`Network.done_for_another`).
-/

namespace Rendezvous

variable {τ ε : Type}

/-! ## Who is told -/

namespace Network

variable {n : Network τ ε} {c : Channel.Ref} {d : Slot.Ref}

/-- Unless there is something to receive, no slot changes. -/
theorem slot_receive_of_empty (hq : (n.channel c).queue = []) (s : Strand.Ref) (d : Slot.Ref) :
    (n.receive c s).1.slot d = n.slot d := by
  unfold receive
  rw [hq]
  dsimp only
  split
  · rfl
  · unfold parkReceiver
    simp only [slot_emit, slot_updateChannel, slot_suspend]
    split
    · rfl
    · split <;> rfl

/-- A slot on which no barrier is built is filled by a receive only if it is the one of the
registered sender, and the message is marked. -/
theorem registered_of_slot_receive (s : Strand.Ref)
    (hbarrier : ∀ k b, n.coordinator k = .barrier b → b.slot ≠ d)
    (hslot : (n.receive c s).1.slot d ≠ n.slot d) :
    ∃ p m rest, (n.channel c).syncSender = some p ∧ p.slot = d ∧
      (n.channel c).queue = m :: rest ∧ m.sync = true := by
  cases hq : (n.channel c).queue with
  | nil => exact absurd (slot_receive_of_empty hq s d) hslot
  | cons m rest =>
    have hnoted : ((n.takeMessage c s m rest).noteDrained c).slot d =
        (n.takeMessage c s m rest).slot d := by
      refine Moves.slot (S := Moves.anything) (D := (· ≠ d)) (C := Moves.anything)
        (K := Moves.anything) (Moves.refl.noteDrained trivial (fun _ _ => trivial) ?_) (by simp)
      intro p _ b hb _
      rw [coordinator_takeMessage] at hb
      exact ⟨trivial, hbarrier _ b hb⟩
    rw [receive_of_queue hq, receiveMessage_eq, hnoted] at hslot
    cases hm : m.sync with
    | false =>
      rw [takeMessage, if_neg (by simp [hm])] at hslot
      exact absurd rfl hslot
    | true =>
      cases hp : (n.channel c).syncSender with
      | none =>
        have hp' : ((n.countMessage c s rest).channel c).syncSender = none := by
          rw [channel_countMessage, if_pos rfl]
          exact hp
        rw [takeMessage, if_pos hm, releaseSyncSender, hp'] at hslot
        exact absurd rfl hslot
      | some p =>
        rw [slot_takeMessage hp hm] at hslot
        by_cases hd : d = p.slot
        · exact ⟨p, m, rest, rfl, hd.symm, rfl, hm⟩
        · rw [if_neg fun h => hd h.1] at hslot
          exact absurd rfl hslot

end Network

/-! ## Messages left behind -/

/-- A marked message is left behind: its sender is displaced by another one, or is removed since it
refuses the failure of the receiving worker. -/
def Operation.Abandons (n : Network τ ε) (c : Channel.Ref) : Operation τ ε → Prop
  | .syncSend value s d =>
    (n.channel c).hasSyncSender = true ∧ (n.syncSend c value s d).2 = false
  | .failReceive _ =>
    ((n.channel c).flushSender.all fun q => (n.slot q.slot).isResolved) = true ∧
      ((n.channel c).syncSender.any fun p => (n.slot p.slot).isResolved) = true
  | _ => False

/-- A call leaves behind a marked message of `c`. -/
def Call.Abandons (c : Channel.Ref) (n : Network τ ε) : Call τ ε → Prop
  | .operate x op => x = c ∧ op.Abandons n c
  | _ => False

instance (n : Network τ ε) (c : Channel.Ref) : (op : Operation τ ε) → Decidable (op.Abandons n c)
  | .syncSend .. | .failReceive _ => inferInstanceAs (Decidable (_ ∧ _))
  | .send .. | .receive _ | .flush .. | .failSend _ => instDecidableFalse

instance (c : Channel.Ref) (n : Network τ ε) : (call : Call τ ε) → Decidable (call.Abandons c n)
  | .operate x op => inferInstanceAs (Decidable (x = c ∧ op.Abandons n c))
  | .createReadySet | .createStrand .. | .createSlot | .createChannel _ | .createDrainLog
  | .createBarrier .. | .createTable _ | .dropScheduler _ | .dropConsumer _ | .dispatch _
  | .poll .. | .wake _ | .markRunning _ | .resume _ | .offer .. | .take _ | .notifyDrained ..
  | .flushAll .. | .lookup .. | .lookupOrCreate .. | .unlink .. => instDecidableFalse

namespace Channel

/-- There are as many marked messages as registered senders. -/
def Tidy (channel : Channel τ ε) : Prop :=
  channel.queue.countP (·.sync) = channel.syncSender.toList.length

/-- Releasing a sender removes one mark, if there is any. -/
theorem countP_releaseFirst (l : List (Message τ)) :
    (releaseFirst l).countP (·.sync) = l.countP (·.sync) - 1 := by
  induction l with
  | nil => rfl
  | cons m l ih =>
    cases hm : m.sync with
    | true => simp [releaseFirst, hm]
    | false => simp [releaseFirst, hm, ih]

theorem countP_releaseSync (channel : Channel τ ε) :
    channel.releaseSync.queue.countP (·.sync) = channel.queue.countP (·.sync) - 1 := by
  simp [releaseSync, countP_releaseFirst]

namespace Tidy

variable {n : Network τ ε} {c : Channel.Ref}

theorem syncSend (h : (n.channel c).Tidy) (value : τ) (s : Strand.Ref) (d : Slot.Ref)
    (hkeep : ¬ (Operation.syncSend value s d).Abandons n c) :
    ((n.syncSend c value s d).1.channel c).Tidy := by
  have alone : (n.syncSend c value s d).2 = false →
      (n.channel c).queue.countP (·.sync) = 0 := by
    intro hended
    rw [h]
    cases hp : (n.channel c).syncSender with
    | none => rfl
    | some p => exact absurd ⟨congrArg Option.isSome hp, hended⟩ hkeep
  rw [Network.ended_syncSend] at alone
  refine Network.channel_syncSend value s d (fun hr => ?_) (fun f pending hr hp => ?_)
    fun hr hp => ?_
  · have hnone := alone (by rw [hr]; rfl)
    simp [Tidy, enqueue, hnone]
  · rw [releaseNewest_enqueue]
    simpa [Tidy, enqueue] using h
  · have hnone := alone (by rw [hr, hp]; rfl)
    simp [Tidy, enqueue, hnone]

theorem receive (h : (n.channel c).Tidy) (s : Strand.Ref) : ((n.receive c s).1.channel c).Tidy := by
  refine Network.channel_receive (P := fun b _ => b.Tidy) s (fun m rest hq => ?_) ?_ ?_
  · rw [Tidy, hq, List.countP_cons] at h
    cases hm : m.sync with
    | true =>
      have hle : (n.channel c).syncSender.toList.length ≤ 1 := by
        cases (n.channel c).syncSender <;> simp
      rw [hm, if_pos rfl] at h
      change rest.countP (·.sync) = 0
      omega
    | false => simpa [Tidy, hm] using h
  · exact fun _ _ _ _ _ => h
  · exact fun _ _ => h

theorem failReceive (h : (n.channel c).Tidy) (f : Failure ε)
    (hkeep : ¬ (Operation.failReceive (τ := τ) f).Abandons n c) :
    ((n.failReceive c f).channel c).Tidy := by
  refine Network.failReceive_outcome (P := fun m => (m.channel c).Tidy) f ?_ ?_ ?_
  · exact fun m q _ _ hchannel => hchannel ▸ h
  · intro m p _ hp _ _ hchannel
    rw [Tidy, hp] at h
    rw [hchannel, Tidy]
    refine (countP_releaseSync _).trans ?_
    change (n.channel c).queue.countP (·.sync) - 1 = 0
    rw [h]
    rfl
  · intro m hflush hsync hchannel
    cases hp : (n.channel c).syncSender with
    | none =>
      rw [Tidy, hp] at h
      rw [hchannel]
      exact h
    | some p =>
      refine absurd ⟨?_, ?_⟩ hkeep
      · exact (Option.all_eq_true _ _).2 hflush
      · rw [hp]
        exact hsync p hp

/-- So it is after every call that leaves no message behind. -/
theorem perform (h : (n.channel c).Tidy) {call : Call τ ε} (hkeep : ¬ call.Abandons c n) :
    ((n.perform call).1.channel c).Tidy := by
  by_cases hc : c ∈ call.channels
  · cases call with
    | operate x op =>
      obtain rfl : c = x := List.mem_singleton.1 hc
      have hkeep : ¬ op.Abandons n c := fun hop => hkeep ⟨rfl, hop⟩
      cases op with
      | send value s =>
        change ((n.send c value s).channel c).Tidy
        rw [Network.channel_send, if_pos rfl]
        simpa [Tidy, enqueue] using h
      | syncSend value s d => exact h.syncSend value s d hkeep
      | receive s => exact h.receive s
      | flush s d k =>
        change ((n.flush c s d k).1.channel c).Tidy
        rw [(Network.flushed_flush n c s d k c).rest]
        exact h
      | failSend f =>
        change ((n.failSend c f).channel c).Tidy
        rw [Network.channel_failSend, if_pos rfl]
        exact h
      | failReceive f => exact h.failReceive f hkeep
    | flushAll cs s d =>
      change ((n.flushAll cs s d).1.channel c).Tidy
      rw [(Network.flushed_flushAll n cs s d c).rest]
      exact h
    | _ => cases hc
  · obtain hsame | ⟨hdefault, options, hcreated⟩ := Network.channel_perform_of_notMem n call hc
    · rw [hsame]
      exact h
    · rw [hcreated]
      rfl

end Tidy

end Channel

namespace Network

/-- As long as no message is left behind, the queue is tidy. -/
theorem tidy_run {c : Channel.Ref} {calls : List (Call τ ε)}
    (hkeeps : ({} : Network τ ε).Keeps (fun n call => ¬ call.Abandons c n) calls) :
    ((({} : Network τ ε).run calls).channel c).Tidy :=
  hkeeps.invariant (P := fun n => (n.channel c).Tidy) (fun _ _ h hkeep => h.perform hkeep) rfl

/-- In every run: a receive that tells a sender, whose slot no barrier uses, returns the value that
is first in the queue. It is the sender's own exactly if no other message is marked; else its own is
still queued. If no message was left behind, it is its own. -/
theorem done_own_iff (calls : List (Call τ ε)) (c : Channel.Ref) (s : Strand.Ref) (d : Slot.Ref)
    (hopen : ((({} : Network τ ε).run calls).slot d).isResolved = false)
    (hdone : ((({} : Network τ ε).run calls).receive c s).1.slot d = .filled .done)
    (hbarrier : ∀ k b, (({} : Network τ ε).run calls).coordinator k = .barrier b → b.slot ≠ d) :
    let n := ({} : Network τ ε).run calls
    let l := (n.channel c).enRoute (operationsOn c (({} : Network τ ε).history calls))
    ∃ p x rest, (n.channel c).syncSender = some p ∧ p.slot = d ∧ l = x :: rest ∧
      (n.receive c s).2 = .value x.2.value ∧
      ((x.1 = p.sending x.2.value ∧ ∀ y ∈ rest, suspendsSender y.1 = false) ↔
        ∀ y ∈ rest, y.2.sync = false) ∧
      ((∃ y ∈ rest, y.2.sync = true) → p.Newest rest) ∧
      (({} : Network τ ε).Keeps (fun n call => ¬ call.Abandons c n) calls →
        ∀ y ∈ rest, y.2.sync = false) := by
  intro n l
  have h := attributed_run calls c
  have hslot : (n.receive c s).1.slot d ≠ n.slot d := by
    intro hsame
    rw [← hsame, hdone] at hopen
    cases hopen
  obtain ⟨p, m, messages, hp, hd, hq, hm⟩ := registered_of_slot_receive s hbarrier hslot
  obtain ⟨x, rest, hl, rfl, hrest⟩ := List.map_eq_cons_iff.1 (h.map_snd_enRoute.trans hq)
  have hnewest : p.Newest (x :: rest) := hl ▸ h.newest p hp
  refine ⟨p, x, rest, hp, hd, hl, congrArg Prod.snd (receive_of_queue hq s),
    ⟨fun ⟨_, hlast⟩ y hy => ?_, fun hunmarked => ?_⟩, fun ⟨y, hy, hmarked⟩ => ?_,
    fun hkeeps y hy => ?_⟩
  · have hsent := h.sentBy y (hl ▸ List.mem_cons_of_mem x hy)
    cases hmarked : y.2.sync with
    | false => rfl
    | true => rw [← hsent.sync hmarked, hlast y hy]
  · obtain ⟨-, hown, hlast⟩ | hbehind := hnewest.cons
    · exact ⟨hown, fun y hy => (hlast y hy).1⟩
    · obtain ⟨y, hy, hmarked⟩ := hbehind.exists_marked
      rw [hunmarked y hy] at hmarked
      cases hmarked
  · refine hnewest.cons.resolve_left fun ⟨_, _, hlast⟩ => ?_
    rw [(hlast y hy).2] at hmarked
    cases hmarked
  · have hone : (n.channel c).queue.countP (·.sync) = 1 := by
      rw [tidy_run hkeeps, hp]
      rfl
    rw [show (n.channel c).queue = _ from hq, List.countP_cons, if_pos hm] at hone
    have hnone := List.countP_eq_zero.1 (Nat.succ.inj hone) y.2 (hrest ▸ List.mem_map_of_mem hy)
    simpa using hnone

/-- A sender that waits twice, one value after the other, is told of its own values. -/
theorem done_own_iff_twice :
    let calls : List (Call Nat String) := [
      .createReadySet,
      .createStrand (some "tx") ⟨0⟩,
      .createStrand (some "rx") ⟨0⟩,
      .createChannel {},
      .createSlot,
      .createSlot,
      .operate ⟨0⟩ (.syncSend 1 ⟨0⟩ ⟨0⟩),
      .operate ⟨0⟩ (.receive ⟨1⟩),
      .dispatch ⟨0⟩,
      .operate ⟨0⟩ (.send 2 ⟨0⟩),
      .operate ⟨0⟩ (.receive ⟨1⟩),
      .operate ⟨0⟩ (.syncSend 3 ⟨0⟩ ⟨1⟩),
      .operate ⟨0⟩ (.send 4 ⟨0⟩)]
    let n := ({} : Network Nat String).run calls
    (n.slot ⟨1⟩).isResolved = false ∧ (n.receive ⟨0⟩ ⟨1⟩).1.slot ⟨1⟩ = .filled .done ∧
      ∃ (p : Party) (x : _) (rest : _),
        (n.channel ⟨0⟩).enRoute (operationsOn ⟨0⟩ (({} : Network Nat String).history calls)) =
          x :: rest ∧ p.slot = ⟨1⟩ ∧ x.1 = p.sending x.2.value ∧ x.2.value = 3 ∧
        (n.receive ⟨0⟩ ⟨1⟩).2 = .value x.2.value := by
  intro calls n
  have hbarrier : ∀ k b, n.coordinator k = .barrier b → b.slot ≠ ⟨1⟩ := nofun
  have hkeeps : ({} : Network Nat String).Keeps (fun n call => ¬ call.Abandons ⟨0⟩ n) calls := by
    decide
  obtain ⟨p, x, rest, -, hd, hl, hvalue, hown, -, hlast⟩ :=
    done_own_iff calls ⟨0⟩ ⟨1⟩ ⟨1⟩ rfl rfl hbarrier
  exact ⟨rfl, rfl, p, x, rest, hl, hd, (hown.2 (hlast hkeeps)).1, (Received.value.inj hvalue).symm,
    hvalue⟩

/-- Somebody else resolves the slot of a sender and wakes it. The failure of the receiver comes too
late: the slot refuses it, and the message stays marked. The next value that the sender waits for is
still queued when the sender is told that it was received. -/
theorem done_for_another :
    let calls : List (Call Nat String) := [
      .createReadySet,
      .createStrand (some "tx") ⟨0⟩,
      .createStrand (some "rx") ⟨0⟩,
      .createChannel {},
      .createSlot,
      .createSlot,
      .operate ⟨0⟩ (.syncSend 1 ⟨0⟩ ⟨0⟩),
      .offer ⟨0⟩ .done,
      .wake ⟨0⟩,
      .dispatch ⟨0⟩,
      .operate ⟨0⟩ (.failReceive (.error "lost")),
      .operate ⟨0⟩ (.syncSend 2 ⟨0⟩ ⟨1⟩)]
    let n := ({} : Network Nat String).run calls
    (n.channel ⟨0⟩).syncSender = some ⟨⟨0⟩, ⟨1⟩⟩ ∧ (n.slot ⟨1⟩).isResolved = false ∧
      (n.receive ⟨0⟩ ⟨1⟩).1.slot ⟨1⟩ = .filled .done ∧
      (n.receive ⟨0⟩ ⟨1⟩).2 = .value 1 ∧
      ((n.receive ⟨0⟩ ⟨1⟩).1.channel ⟨0⟩).queue = [⟨2, true⟩] := by
  decide

end Network

end Rendezvous
