import Rendezvous.Proofs.Stream

/-!
# The tally of a channel

The counters of a channel as numbers, and what holds of a channel in every run.

* **Tally** (`Channel.Tally`): as long as the counters do not overflow they count, and the values
  sent are those received and those still queued.
* **The gap** (`Tally.gap`): the counters are as far apart as the queue is long, but for the places
  that failures of the sender took (`sendFailures`) or failures consumed (`failuresConsumed`).
* **Runs** (`Network.tally_run`), and invariants of one channel (`Network.channel_invariant`): what
  each operation and each flush keeps, and the withdrawal of a flush too, holds in every run.
-/

namespace Rendezvous

variable {τ ε : Type}

/-! ## Counting -/

/-- How many places failures have consumed: those that were received, and those of the receiving
worker. -/
def failuresConsumed (ops : List (Operation τ ε × Outcome τ ε)) : Nat :=
  (failuresOf (obtained ops)).length + receiveFailures ops

section
variable (a b : List (Operation τ ε × Outcome τ ε))

@[simp] theorem failuresOf_append (a b : List (Item τ ε)) :
    failuresOf (a ++ b) = failuresOf a ++ failuresOf b := List.filterMap_append ..

@[simp] theorem sends_append : sends (a ++ b) = sends a + sends b := List.countP_append ..

@[simp] theorem sendFailures_append : sendFailures (a ++ b) = sendFailures a + sendFailures b :=
  List.countP_append ..

@[simp] theorem receiveFailures_append :
    receiveFailures (a ++ b) = receiveFailures a + receiveFailures b := List.countP_append ..

@[simp] theorem failuresConsumed_append :
    failuresConsumed (a ++ b) = failuresConsumed a + failuresConsumed b := by
  simp only [failuresConsumed, obtained_append, failuresOf_append, List.length_append,
    receiveFailures_append]
  omega

end

/-- The counters of a channel count what happened in `ops`, and the queue holds what was sent and
not yet received. -/
structure Channel.Tally (ops : List (Operation τ ε × Outcome τ ε)) (channel : Channel τ ε) :
    Prop where
  sendCount : channel.sendCount.toNat = sends ops + sendFailures ops
  recvCount : channel.recvCount.toNat = (valuesOf (obtained ops)).length + failuresConsumed ops
  values : valuesOf (obtained ops) ++ channel.values = valuesOf (submitted ops)

namespace Channel.Tally

variable {ops : List (Operation τ ε × Outcome τ ε)} {channel : Channel τ ε}

/-- A value that was sent was received or is still queued. -/
theorem queued (h : channel.Tally ops) :
    (valuesOf (obtained ops)).length + channel.size = sends ops := by
  have hlength := congrArg List.length h.values
  rw [List.length_append, length_valuesOf_submitted, Channel.values,
    List.length_map] at hlength
  exact hlength

/-- What lies between the counters is queued, or was a failure's place. -/
theorem gap (h : channel.Tally ops) :
    channel.recvCount.toNat + channel.size + sendFailures ops =
      channel.sendCount.toNat + failuresConsumed ops := by
  have hs := h.sendCount
  have hr := h.recvCount
  have hq := h.queued
  omega

section
variable {b : Channel τ ε} {o : Operation τ ε × Outcome τ ε} (ha : channel.Tally ops)
  (hb : b.Tally (ops ++ [o]))
include ha hb

/-- What one more operation adds to the places that are taken. -/
theorem sendCount_snoc :
    b.sendCount.toNat = channel.sendCount.toNat + (sends [o] + sendFailures [o]) := by
  rw [hb.sendCount, ha.sendCount, sends_append, sendFailures_append]
  omega

/-- What one more operation adds to the places that are consumed. -/
theorem recvCount_snoc : b.recvCount.toNat =
    channel.recvCount.toNat + ((valuesOf (obtained [o])).length + failuresConsumed [o]) := by
  rw [hb.recvCount, ha.recvCount, obtained_append, valuesOf_append, List.length_append,
    failuresConsumed_append]
  omega

end

/-- A flush neither moves nor counts anything. -/
theorem flushed {b : Channel τ ε} (h : channel.Tally ops) (hb : channel.Flushed b) :
    b.Tally ops := by
  rw [hb.rest]
  exact ⟨h.sendCount, h.recvCount, h.values⟩

end Channel.Tally

namespace Network

/-! ## Runs -/

/-- As long as the counters do not overflow they count. -/
theorem tally_run (calls : List (Call τ ε)) (c : Channel.Ref)
    (hlen : (operationsOn c (({} : Network τ ε).history calls)).length < UInt64.size) :
    ((({} : Network τ ε).run calls).channel c).Tally
      (operationsOn c (({} : Network τ ε).history calls)) := by
  have hflow := flow_run ({} : Network τ ε) c calls
  have hreceipts := receipts_le ({} : Network τ ε) c calls
  have hsends := length_submitted (operationsOn c (({} : Network τ ε).history calls))
  have hitems := length_items (obtained (operationsOn c (({} : Network τ ε).history calls)))
  have hsubmitted : (submitted (operationsOn c (({} : Network τ ε).history calls))).length ≤
      (operationsOn c (({} : Network τ ε).history calls)).length := List.length_filterMap_le ..
  have zero : ∀ w : UInt64, (({} : Network τ ε).channel c).sendCount + w = w := UInt64.zero_add
  refine ⟨?_, ?_, hflow.values⟩
  · rw [hflow.sendCount, zero, UInt64.toNat_ofNat_of_lt' (by omega), hsends]
  · have hcount : ((({} : Network τ ε).run calls).channel c).recvCount = UInt64.ofNat _ :=
      hflow.recvCount.trans (zero _)
    rw [hcount, UInt64.toNat_ofNat_of_lt' (by omega), hitems, failuresConsumed]
    omega

/-- What holds of a channel in every run: what its creation, each operation and each flush keeps,
and the withdrawal of a flush too. Each step may use the tally before it, and an operation also the
tally after it. -/
theorem channel_invariant {P : List (Operation τ ε × Outcome τ ε) → Channel τ ε → Prop}
    {c : Channel.Ref} (start : P [] default)
    (create : ∀ ops options, P ops default → P ops (.create options))
    (operate : ∀ (n : Network τ ε) ops op, P ops (n.channel c) → (n.channel c).Tally ops →
      ((n.operate c op).1.channel c).Tally (ops ++ [(op, (n.operate c op).2)]) →
        P (ops ++ [(op, (n.operate c op).2)]) ((n.operate c op).1.channel c))
    (flush : ∀ (n : Network τ ε) ops s d k, P ops (n.channel c) → (n.channel c).Tally ops →
      P ops ((n.flush c s d k).1.channel c))
    (withdraw : ∀ ops (channel : Channel τ ε) (d : Slot.Ref), P ops channel →
      P ops { channel with flushSender := channel.flushSender.filter (·.slot ≠ d) })
    (calls : List (Call τ ε))
    (hlen : (operationsOn c (({} : Network τ ε).history calls)).length < UInt64.size) :
    P (operationsOn c (({} : Network τ ε).history calls))
      ((({} : Network τ ε).run calls).channel c) := by
  suffices h : (operationsOn c (({} : Network τ ε).history calls)).length < UInt64.size →
      P (operationsOn c (({} : Network τ ε).history calls))
          ((({} : Network τ ε).run calls).channel c) ∧
        ((({} : Network τ ε).run calls).channel c).Tally
          (operationsOn c (({} : Network τ ε).history calls)) from (h hlen).1
  refine channel_run (P := fun ops b => ops.length < UInt64.size → P ops b ∧ b.Tally ops)
    (fun _ => ⟨start, rfl, rfl, rfl⟩) (fun ops options h hlen => ?_) (fun calls op h hlen => ?_)
    (fun n ops s d k h hlen => ?_) (fun ops channel d h hlen => ?_) calls
  · obtain ⟨hP, ht⟩ := h hlen
    exact ⟨create ops options hP, ht.sendCount, ht.recvCount, ht.values⟩
  · have hafter := tally_run (calls ++ [.operate c op]) c
      (operationsOn_history_operate _ calls c op ▸ hlen)
    rw [operationsOn_history_operate, run_append] at hafter
    rw [List.length_append] at hlen
    obtain ⟨hP, ht⟩ := h (by omega)
    exact ⟨operate _ _ op hP ht hafter, hafter⟩
  · obtain ⟨hP, ht⟩ := h hlen
    exact ⟨flush n ops s d k hP ht, ht.flushed (flushed_flush n c s d k c)⟩
  · obtain ⟨hP, ht⟩ := h hlen
    exact ⟨withdraw ops channel d hP, ht.sendCount, ht.recvCount, ht.values⟩

end Network

end Rendezvous
