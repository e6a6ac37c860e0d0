import Rendezvous.Proofs.History

/-!
# The stream of a channel

No value is lost, duplicated or reordered, and the two counters account for everything that
happened on the channel.

* **Flow** (`Channel.Flow`): how a channel changes while some operations are performed on it. What
  was obtained and what is still queued is what was queued before and what was submitted; the
  counters count. Flows compose (`Flow.trans`).
* **Each call is a flow** (`flow_perform`), whatever it does to other channels, strands and slots.
  In particular a flush moves no value (`Channel.Flushed`, `flushed_flushAll`).
* **Runs** (`flow_run`, `stream_accounted`): so every run is a flow, and from the start of a network
  the counters are the numbers of what happened.
-/

namespace Rendezvous

variable {τ ε : Type}

/-! ## Flows -/

/-- The values on their way. -/
def Channel.values (channel : Channel τ ε) : List τ := channel.queue.map (·.value)

namespace Channel

/-- How a channel changes while `ops` are performed on it. -/
structure Flow (ops : List (Operation τ ε × Outcome τ ε)) (a b : Channel τ ε) : Prop where
  values : valuesOf (obtained ops) ++ b.values = a.values ++ valuesOf (submitted ops)
  sendCount : b.sendCount = a.sendCount + UInt64.ofNat (submitted ops).length
  recvCount : b.recvCount =
    a.recvCount + UInt64.ofNat ((obtained ops).length + receiveFailures ops)

/-- Nothing moves in a channel that keeps its values and its counters. -/
theorem Flow.still {a b : Channel τ ε} (hv : b.values = a.values) (hs : b.sendCount = a.sendCount)
    (hr : b.recvCount = a.recvCount) : Flow [] a b :=
  ⟨by simp [hv, valuesOf, submitted, obtained], by rw [hs]; exact (UInt64.add_zero _).symm,
    by rw [hr]; exact (UInt64.add_zero _).symm⟩

theorem Flow.refl (a : Channel τ ε) : Flow [] a a := .still rfl rfl rfl

theorem Flow.trans {l m : List (Operation τ ε × Outcome τ ε)} {a b c : Channel τ ε}
    (hl : Flow l a b) (hm : Flow m b c) : Flow (l ++ m) a c := by
  constructor
  · rw [obtained_append, submitted_append, valuesOf_append, valuesOf_append, List.append_assoc,
      hm.values, ← List.append_assoc, hl.values, List.append_assoc]
  · rw [hm.sendCount, hl.sendCount, submitted_append, List.length_append, UInt64.ofNat_add,
      UInt64.add_assoc]
  · rw [hm.recvCount, hl.recvCount, obtained_append, List.length_append, receiveFailures,
      receiveFailures, receiveFailures, List.countP_append, UInt64.add_assoc, ← UInt64.ofNat_add]
    congr 2
    omega

/-! ## Flushes move nothing -/

/-- What a flush may do to a channel: register or remove a flushing sender, and take a pending
failure. -/
structure Flushed (a b : Channel τ ε) : Prop where
  rest : b = { a with flushSender := b.flushSender, pending := b.pending }
  pending : a.pending.take? = none → b.pending = a.pending

theorem Flushed.refl (a : Channel τ ε) : Flushed a a := ⟨rfl, fun _ => rfl⟩

theorem Flushed.trans {a b c : Channel τ ε} (hab : Flushed a b) (hbc : Flushed b c) :
    Flushed a c := by
  constructor
  · rw [hbc.rest, hab.rest]
  · intro h
    have hb := hab.pending h
    rw [hbc.pending (hb ▸ h), hb]

theorem Flushed.flow {a b : Channel τ ε} (h : Flushed a b) : Flow [] a b := by
  rw [h.rest]
  exact .still rfl rfl rfl

end Channel

namespace Network

theorem flushed_flush (n : Network τ ε) (x : Channel.Ref) (s : Strand.Ref) (d : Slot.Ref)
    (k : Coordinator.Ref) (c : Channel.Ref) :
    Channel.Flushed (n.channel c) ((n.flush x s d k).1.channel c) := by
  rw [channel_flush]
  by_cases hc : c = x
  · subst hc
    rw [if_pos rfl]
    split
    · rename_i h
      exact ⟨rfl, fun h' => by rw [h'] at h; cases h⟩
    · split
      · exact .refl _
      · exact ⟨rfl, fun _ => rfl⟩
  · rw [if_neg hc]
    exact .refl _

/-- A flush of several channels moves nothing in any channel. -/
theorem flushed_flushAll (n : Network τ ε) (cs : List Channel.Ref) (s : Strand.Ref) (d : Slot.Ref)
    (c : Channel.Ref) : Channel.Flushed (n.channel c) ((n.flushAll cs s d).1.channel c) :=
  n.flushAll_keeps (fun m s d k h => h.trans (flushed_flush m c s d k c))
    (fun _ _ h => h.trans ⟨rfl, fun _ => rfl⟩) cs s d (.refl _)

/-! ## Operations -/

section
variable (n : Network τ ε) (c : Channel.Ref)

theorem flow_send (value : τ) (s : Strand.Ref) :
    Channel.Flow [(.send value s, .done)] (n.channel c) ((n.send c value s).channel c) := by
  rw [channel_send, if_pos rfl]
  exact ⟨by simp [Channel.values, Channel.enqueue, valuesOf, submitted, obtained, Operation.item?,
    Outcome.item?, Item.value?], rfl, (UInt64.add_zero _).symm⟩

theorem flow_syncSend (value : τ) (s : Strand.Ref) (d : Slot.Ref) :
    Channel.Flow [(.syncSend value s d, .completed (n.syncSend c value s d).2)] (n.channel c)
      ((n.syncSend c value s d).1.channel c) := by
  have enqueued : ∀ b : Channel τ ε, b.values = (n.channel c).values ++ [value] →
      b.sendCount = (n.channel c).sendCount + 1 → b.recvCount = (n.channel c).recvCount →
      Channel.Flow [(.syncSend value s d, .completed (n.syncSend c value s d).2)]
        (n.channel c) b := fun b hv hs hr =>
    ⟨by simp [hv, valuesOf, submitted, obtained, Operation.item?, Outcome.item?, Item.value?],
      hs, hr.trans (UInt64.add_zero _).symm⟩
  refine channel_syncSend value s d ?_ ?_ ?_
  · exact fun _ => enqueued _ (by simp [Channel.values, Channel.enqueue]) rfl rfl
  · intro f pending _ _
    refine enqueued _ ?_ rfl rfl
    rw [Channel.values, Channel.values_releaseNewest]
    simp [Channel.values, Channel.enqueue]
  · exact fun _ _ => enqueued _ (by simp [Channel.values, Channel.enqueue]) rfl rfl

theorem flow_receive (s : Strand.Ref) :
    Channel.Flow [(.receive s, .received (n.receive c s).2)] (n.channel c)
      ((n.receive c s).1.channel c) := by
  refine channel_receive (P := fun b r =>
    Channel.Flow [(.receive s, .received r)] (n.channel c) b) s ?_ ?_ ?_
  · intro m rest hq
    exact ⟨by simp [Channel.values, hq, valuesOf, submitted, obtained, Operation.item?,
      Outcome.item?, Received.toExcept?, Item.value?], (UInt64.add_zero _).symm, rfl⟩
  · intro f pending _ _ _
    exact ⟨by simp [Channel.values, valuesOf, submitted, obtained, Operation.item?,
      Outcome.item?, Received.toExcept?, Item.value?], (UInt64.add_zero _).symm, rfl⟩
  · intro _ _
    exact ⟨by simp [Channel.values, valuesOf, submitted, obtained, Operation.item?,
      Outcome.item?, Received.toExcept?], (UInt64.add_zero _).symm, (UInt64.add_zero _).symm⟩

theorem flow_flush (s : Strand.Ref) (d : Slot.Ref) (k : Coordinator.Ref) :
    Channel.Flow [(.flush s d k, .completed (n.flush c s d k).2)] (n.channel c)
      ((n.flush c s d k).1.channel c) := by
  obtain ⟨hv, hs, hr⟩ := (flushed_flush n c s d k c).flow
  exact ⟨hv, hs, hr⟩

theorem flow_failSend (f : Failure ε) :
    Channel.Flow [(.failSend f, .done)] (n.channel c) ((n.failSend c f).channel c) := by
  rw [channel_failSend, if_pos rfl]
  exact ⟨by simp [Channel.values, valuesOf, submitted, obtained, Operation.item?, Outcome.item?,
    Item.value?], rfl, (UInt64.add_zero _).symm⟩

theorem flow_failReceive (f : Failure ε) :
    Channel.Flow [(.failReceive f, .done)] (n.channel c) ((n.failReceive c f).channel c) := by
  have counted : ∀ b : Channel τ ε, b.values = (n.channel c).values →
      b.sendCount = (n.channel c).sendCount → b.recvCount = (n.channel c).recvCount + 1 →
      Channel.Flow [(.failReceive f, .done)] (n.channel c) b := fun b hv hs hr =>
    ⟨by simp [hv, valuesOf, submitted, obtained, Operation.item?, Outcome.item?],
      hs.trans (UInt64.add_zero _).symm, hr⟩
  refine channel_failReceive f ?_ ?_ ?_
  · exact counted _ rfl rfl rfl
  · exact counted _ (Channel.values_releaseSync _) rfl rfl
  · exact counted _ rfl rfl rfl

/-- What an operation does to its channel is the flow of that operation. -/
theorem flow_operate (op : Operation τ ε) :
    Channel.Flow [(op, (n.operate c op).2)] (n.channel c) ((n.operate c op).1.channel c) := by
  cases op with
  | send value s => exact flow_send n c value s
  | syncSend value s d => exact flow_syncSend n c value s d
  | receive s => exact flow_receive n c s
  | flush s d k => exact flow_flush n c s d k
  | failSend f => exact flow_failSend n c f
  | failReceive f => exact flow_failReceive n c f

end

/-! ## Runs -/

section
variable (n : Network τ ε) (c : Channel.Ref)

/-- What a call does to a channel is the flow of the operation that it performs there, if any. -/
theorem flow_perform (call : Call τ ε) :
    Channel.Flow (operationsOn c [n.exchange call]) (n.channel c)
      ((n.perform call).1.channel c) := by
  by_cases h : c ∈ call.channels
  · cases call with
    | operate x op =>
      have hx : c = x := List.mem_singleton.1 h
      subst hx
      rw [operationsOn_exchange_operate]
      exact flow_operate n c op
    | flushAll cs s d => exact (flushed_flushAll n cs s d c).flow
    | _ => cases h
  · rw [operationsOn_exchange_eq_nil n h]
    obtain he | ⟨hd, options, he⟩ := channel_perform_of_notMem n call h
    · rw [he]
      exact .refl _
    · rw [he, hd]
      exact .still rfl rfl rfl

/-- What a run does to a channel is the flow of the operations on it. -/
theorem flow_run (calls : List (Call τ ε)) :
    Channel.Flow (operationsOn c (n.history calls)) (n.channel c) ((n.run calls).channel c) := by
  induction calls generalizing n with
  | nil => exact .refl _
  | cons call calls ih =>
    rw [operationsOn_history_cons]
    exact (flow_perform n c call).trans (ih (n.perform call).1)

/-- No operation both obtains something and reports a failure of the receiving worker. -/
theorem receipts_le (calls : List (Call τ ε)) :
    (obtained (operationsOn c (n.history calls))).length +
      receiveFailures (operationsOn c (n.history calls)) ≤
        (operationsOn c (n.history calls)).length := by
  induction calls generalizing n with
  | nil => exact Nat.le_refl 0
  | cons call calls ih =>
    have hcall : (obtained (operationsOn c [n.exchange call])).length +
        receiveFailures (operationsOn c [n.exchange call]) ≤
          (operationsOn c [n.exchange call]).length := by
      by_cases h : c ∈ call.channels
      · cases call with
        | operate x op =>
          have hx : c = x := List.mem_singleton.1 h
          subst hx
          rw [operationsOn_exchange_operate]
          cases op <;> simp [obtained, receiveFailures, operate, Outcome.item?,
            Operation.isFailReceive]
          -- Only an attempt to receive is left: it obtains one item at most.
          exact List.length_filterMap_le ..
        | flushAll cs s d => exact Nat.le_refl 0
        | _ => cases h
      · rw [operationsOn_exchange_eq_nil n h]
        exact Nat.le_refl 0
    have hcalls := ih (n.perform call).1
    rw [operationsOn_history_cons, obtained_append, List.length_append, List.length_append,
      receiveFailures, List.countP_append]
    simp only [receiveFailures] at hcall hcalls
    omega

end

/-- In every run the values received and those still on their way are the values sent, in order. -/
theorem values_run (calls : List (Call τ ε)) (c : Channel.Ref) :
    valuesOf (obtained (operationsOn c (({} : Network τ ε).history calls))) ++
        ((({} : Network τ ε).run calls).channel c).values =
      valuesOf (submitted (operationsOn c (({} : Network τ ε).history calls))) :=
  (flow_run ({} : Network τ ε) c calls).values

/-- In every run the values received and those still on their way are the values sent, in order,
and the counters are the numbers of what took a place and of what consumed one. -/
theorem stream_accounted (calls : List (Call τ ε)) (c : Channel.Ref)
    (hlen : (operationsOn c (({} : Network τ ε).history calls)).length < UInt64.size) :
    let ops := operationsOn c (({} : Network τ ε).history calls)
    let channel := (({} : Network τ ε).run calls).channel c
    valuesOf (obtained ops) ++ channel.values = valuesOf (submitted ops) ∧
      channel.sendCount.toNat = sends ops + sendFailures ops ∧
      channel.recvCount.toNat = (valuesOf (obtained ops)).length +
        (failuresOf (obtained ops)).length + receiveFailures ops ∧
      (channel.sendCount.toNat : Int) - channel.recvCount.toNat =
        channel.size + sendFailures ops - (failuresOf (obtained ops)).length -
          receiveFailures ops := by
  intro ops channel
  have hlen : ops.length < UInt64.size := hlen
  obtain ⟨hv, hs, hr⟩ := flow_run ({} : Network τ ε) c calls
  have hv : valuesOf (obtained ops) ++ channel.values = valuesOf (submitted ops) := hv
  have hs : channel.sendCount.toNat = sends ops + sendFailures ops := by
    have hle : (submitted ops).length ≤ ops.length := List.length_filterMap_le ..
    have hcount : channel.sendCount = 0 + UInt64.ofNat (submitted ops).length := hs
    rw [hcount, UInt64.zero_add, UInt64.toNat_ofNat_of_lt' (by omega), length_submitted]
  have hr : channel.recvCount.toNat = (valuesOf (obtained ops)).length +
      (failuresOf (obtained ops)).length + receiveFailures ops := by
    have hle : (obtained ops).length + receiveFailures ops ≤ ops.length :=
      receipts_le ({} : Network τ ε) c calls
    have hcount : channel.recvCount =
        0 + UInt64.ofNat ((obtained ops).length + receiveFailures ops) := hr
    rw [hcount, UInt64.zero_add, UInt64.toNat_ofNat_of_lt' (by omega), length_items]
  refine ⟨hv, hs, hr, ?_⟩
  have hlength := congrArg List.length hv
  rw [List.length_append, length_valuesOf_submitted] at hlength
  have hsize : channel.size = channel.values.length := by
    rw [Channel.size, Channel.values, List.length_map]
  omega

/-- A retained failure ends a synchronous send, whose value is received all the same. -/
theorem stream_accounted_retained :
    let calls : List (Call Nat String) := [
      .createReadySet,
      .createStrand (some "tx") ⟨0⟩,
      .createStrand (some "rx") ⟨0⟩,
      .createSlot,
      .createChannel { retainReceiveFailures := true },
      .operate ⟨0⟩ (.failReceive (.error "lost")),
      .operate ⟨0⟩ (.syncSend 1 ⟨0⟩ ⟨0⟩),
      .operate ⟨0⟩ (.send 2 ⟨0⟩),
      .operate ⟨0⟩ (.failSend (.panic "gone")),
      .operate ⟨0⟩ (.receive ⟨1⟩)]
    let ops := operationsOn ⟨0⟩ (({} : Network Nat String).history calls)
    let channel := (({} : Network Nat String).run calls).channel ⟨0⟩
    ops.length < UInt64.size ∧
      valuesOf (obtained ops) ++ channel.values = valuesOf (submitted ops) ∧
      valuesOf (obtained ops) = [1] ∧ channel.values = [2] ∧
      channel.sendCount.toNat = sends ops + sendFailures ops ∧ sends ops = 2 ∧
      sendFailures ops = 1 ∧ receiveFailures ops = 1 := by
  intro calls ops channel
  have hlen : ops.length < UInt64.size := by decide
  obtain ⟨hv, hs, -, -⟩ := stream_accounted calls ⟨0⟩ hlen
  exact ⟨hlen, hv, rfl, rfl, hs, rfl, rfl, rfl⟩

end Network

end Rendezvous
