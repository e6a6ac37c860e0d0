import Rendezvous.Proofs.Stream

/-!
# A quiet sender

As long as a failed sender keeps quiet until its failure is received, a channel is a plain queue of
values and failures: what was submitted is what was obtained, then the values still queued, then
the pending failure.

* **Quiet histories** (`Quiet`): after each failure of the sending worker nothing is submitted and
  nothing is flushed until that failure was received.
* **The queue** (`Channel.items`): the values on their way and behind them the pending failures.
* **The invariant** (`Fifo`): the history went through the queue in order, and a failure is pending
  only while it is awaited. Each call keeps it (`Fifo.perform`), and so does a run (`Fifo.run`).
* `receive_retry_iff`: in such a state only an empty queue has nothing to receive.
-/

namespace Rendezvous

variable {τ ε : Type}

/-! ## Pending failures as a list -/

namespace Pending

/-- The pending failures, in the order in which they are consumed. -/
def failures (p : Pending ε) : List (Failure ε) :=
  (p.panic.map Failure.panic).toList ++ (p.error.map Failure.error).toList

theorem failures_eq_nil {p : Pending ε} : p.failures = [] ↔ p.take? = none := by
  cases p with | mk panic error => cases panic <;> cases error <;> simp [failures, take?]

/-- The only pending failure is the one that is consumed, and nothing stays. -/
theorem take?_of_failures {p : Pending ε} {f : Failure ε} (h : p.failures = [f]) :
    ∃ rest, p.take? = some (f, rest) ∧ rest.failures = [] := by
  cases p with | mk panic error =>
  cases panic <;> cases error <;> simp_all [failures, take?]

/-- A failure is the only one pending if none was before. -/
theorem failures_put {p : Pending ε} (h : p.failures = []) (f : Failure ε) :
    (p.put f).failures = [f] := by
  cases f with | mk kind e =>
  cases p with | mk panic error =>
  cases panic <;> cases error <;> cases kind <;> simp_all [failures, put]

theorem isEmpty_eq {p : Pending ε} : p.isEmpty = p.failures.isEmpty := by
  cases p with | mk panic error => cases panic <;> cases error <;> rfl

end Pending

/-! ## The queue -/

/-- What is on its way in a channel: the queued values and behind them the pending failures. -/
def Channel.items (channel : Channel τ ε) : List (Item τ ε) :=
  channel.values.map .ok ++ channel.pending.failures.map .error

/-- Whether a call submits something to a channel, or flushes it. -/
def Call.Disturbs (c : Channel.Ref) : Call τ ε → Prop
  | .operate x (.send ..) | .operate x (.syncSend ..) | .operate x (.flush ..)
  | .operate x (.failSend _) => x = c
  | .flushAll cs _ _ => c ∈ cs
  | _ => False

/-- Whether a call reports a failure of the worker that receives from a channel. -/
def Call.FailsReceiver (c : Channel.Ref) : Call τ ε → Prop
  | .operate x (.failReceive _) => x = c
  | _ => False

/-- After each failure of the sending worker, calls of some kind are not made until that failure was
received. -/
def Spaced (D : Call τ ε → Prop) (c : Channel.Ref) (h : List (Exchange τ ε)) : Prop :=
  ∀ before fail waiting next after f, h = before ++ fail :: (waiting ++ next :: after) →
    fail.call = .operate c (.failSend f) → D next.call →
      .error f ∈ obtained (operationsOn c waiting)

namespace Spaced

variable {D : Call τ ε → Prop} {c : Channel.Ref}

theorem of_append {a b : List (Exchange τ ε)} (h : Spaced D c (a ++ b)) : Spaced D c a := by
  intro before fail waiting next after f ha hf hn
  exact h before fail waiting next (after ++ b) f (by simp [ha]) hf hn

theorem nil : Spaced D c ([] : List (Exchange τ ε)) := by
  intro before _ _ _ _ _ h
  simp at h

/-- A history stays spaced with one more exchange before it, if that one is no failure or its
failure is received before the next call of the kind. -/
theorem cons {e : Exchange τ ε} {h : List (Exchange τ ε)} (hh : Spaced D c h)
    (he : ∀ f, e.call = .operate c (.failSend f) → ∃ waiting rest, h = waiting ++ rest ∧
      (∀ x ∈ waiting, ¬ D x.call) ∧ .error f ∈ obtained (operationsOn c waiting)) :
    Spaced D c (e :: h) := by
  intro before fail waiting next after f hsplit hfail hnext
  cases before with
  | cons b before =>
    exact hh before fail waiting next after f (List.cons.inj hsplit).2 hfail hnext
  | nil =>
    obtain ⟨rfl, htail⟩ := List.cons.inj hsplit
    obtain ⟨w, rest, hwr, hw, hmem⟩ := he f hfail
    rw [hwr] at htail
    -- `next` is not within `w`, so all of `w` lies before it.
    obtain ⟨v, rfl, -⟩ | ⟨v, rfl, hv⟩ := List.append_eq_append_iff.1 htail
    · rw [operationsOn_append, obtained_append]
      exact List.mem_append_left _ hmem
    · cases v with
      | nil => simpa using hmem
      | cons x v =>
        rw [List.cons_append, List.cons.injEq] at hv
        exact absurd hnext (hw next (by simp [hv.1]))

end Spaced

/-- After each failure of the sending worker the channel is left undisturbed until that failure was
received. -/
def Quiet (c : Channel.Ref) (h : List (Exchange τ ε)) : Prop := Spaced (Call.Disturbs c) c h

/-! ## The invariant -/

/-- The history `h` went through the channel in order, the counters count what went in and what came
out, and a failure is pending only while it is awaited. -/
structure Fifo (c : Channel.Ref) (h : List (Exchange τ ε)) (channel : Channel τ ε) : Prop where
  stream : submitted (operationsOn c h) = obtained (operationsOn c h) ++ channel.items
  sendCount : channel.sendCount = UInt64.ofNat (submitted (operationsOn c h)).length
  recvCount : channel.recvCount = UInt64.ofNat (obtained (operationsOn c h)).length
  one : channel.pending.failures.length ≤ 1
  awaited : ∀ f ∈ channel.pending.failures, ∃ before fail waiting, h = before ++ fail :: waiting ∧
    fail.call = .operate c (.failSend f) ∧ .error f ∉ obtained (operationsOn c waiting)

namespace Fifo

variable {c : Channel.Ref} {h : List (Exchange τ ε)} {n : Network τ ε} {call : Call τ ε}

/-- The counters are as far apart as the queue is long. -/
theorem gap {channel : Channel τ ε} (hf : Fifo c h channel) :
    channel.sendCount = channel.recvCount + UInt64.ofNat channel.items.length := by
  rw [hf.sendCount, hf.recvCount, hf.stream, List.length_append, UInt64.ofNat_add]

/-- Nothing is pending when the channel is disturbed. -/
theorem none_pending (hf : Fifo c h (n.channel c)) (hq : Quiet c (h ++ [n.exchange call]))
    (hd : call.Disturbs c) : (n.channel c).pending.failures = [] := by
  rw [List.eq_nil_iff_forall_not_mem]
  intro f hmem
  obtain ⟨before, fail, waiting, rfl, hfail, hnot⟩ := hf.awaited f hmem
  exact hnot (hq before fail waiting (n.exchange call) [] f (by simp) hfail hd)

/-- A call through which the queue grows at its end and shrinks at its head. -/
theorem snoc (hf : Fifo c h (n.channel c)) (call : Call τ ε)
    (hr : receiveFailures (operationsOn c [n.exchange call]) = 0)
    (hs : (n.channel c).items ++ submitted (operationsOn c [n.exchange call]) =
      obtained (operationsOn c [n.exchange call]) ++ ((n.perform call).1.channel c).items)
    (hone : ((n.perform call).1.channel c).pending.failures.length ≤ 1)
    (hawaited : ∀ f ∈ ((n.perform call).1.channel c).pending.failures,
      call = .operate c (.failSend f) ∨ f ∈ (n.channel c).pending.failures ∧
        .error f ∉ obtained (operationsOn c [n.exchange call])) :
    Fifo c (h ++ [n.exchange call]) ((n.perform call).1.channel c) := by
  have hflow := n.flow_perform c call
  refine ⟨?_, ?_, ?_, hone, ?_⟩
  · rw [operationsOn_append, submitted_append, obtained_append, hf.stream, List.append_assoc, hs,
      List.append_assoc]
  · rw [operationsOn_append, submitted_append, List.length_append, UInt64.ofNat_add,
      ← hf.sendCount, hflow.sendCount]
  · rw [operationsOn_append, obtained_append, List.length_append, UInt64.ofNat_add,
      ← hf.recvCount, hflow.recvCount, hr, Nat.add_zero]
  · intro f hmem
    obtain hcall | ⟨hpending, hno⟩ := hawaited f hmem
    · exact ⟨h, n.exchange call, [], rfl, hcall, by simp [operationsOn, obtained]⟩
    · obtain ⟨before, fail, waiting, rfl, hfail, hnot⟩ := hf.awaited f hpending
      refine ⟨before, fail, waiting ++ [n.exchange call], by simp, hfail, ?_⟩
      rw [operationsOn_append, obtained_append, List.mem_append, not_or]
      exact ⟨hnot, hno⟩

/-- A call that neither submits nor obtains anything leaves the queue as it is. -/
theorem still (hf : Fifo c h (n.channel c)) (call : Call τ ε)
    (hr : receiveFailures (operationsOn c [n.exchange call]) = 0)
    (hs : submitted (operationsOn c [n.exchange call]) = [])
    (ho : obtained (operationsOn c [n.exchange call]) = [])
    (hp : ((n.perform call).1.channel c).pending = (n.channel c).pending) :
    Fifo c (h ++ [n.exchange call]) ((n.perform call).1.channel c) := by
  have hv := (n.flow_perform c call).values
  rw [hs, ho] at hv
  have hv : ((n.perform call).1.channel c).values = (n.channel c).values := by
    simpa [valuesOf] using hv
  refine hf.snoc call hr ?_ (hp ▸ hf.one) fun f hmem => .inr ⟨hp ▸ hmem, ?_⟩
  · simp [hs, ho, Channel.items, hv, hp]
  · simp [ho]

/-- A value sent on a channel without a pending failure is put behind the others. -/
theorem sent (hf : Fifo c h (n.channel c)) (op : Operation τ ε)
    (ha : (n.channel c).pending.failures = []) {value : τ} (hi : op.item? = some (.ok value))
    (ho : (n.operate c op).2.item? = none)
    (hp : ((n.operate c op).1.channel c).pending = (n.channel c).pending) :
    Fifo c (h ++ [n.exchange (.operate c op)]) ((n.operate c op).1.channel c) := by
  have hops := n.operationsOn_exchange_operate c op
  have hr : op.isFailReceive = false := by cases op <;> first | rfl | cases hi
  have hv := (n.flow_operate c op).values
  simp only [obtained, submitted, List.filterMap_cons, hi, ho, List.filterMap_nil] at hv
  have hv : ((n.operate c op).1.channel c).values = (n.channel c).values ++ [value] := by
    simpa [valuesOf, Item.value?] using hv
  have hb : (n.perform (.operate c op)).1.channel c = (n.operate c op).1.channel c := rfl
  refine hf.snoc (.operate c op) ?_ ?_ ?_ ?_
  · simp [hops, receiveFailures, hr]
  · simp [hops, hb, submitted, obtained, hi, ho, Channel.items, hv, hp, ha]
  · simp [hb, hp, ha]
  · simp [hb, hp, ha]

/-! ## Each call keeps it -/

theorem syncSend (hf : Fifo c h (n.channel c)) (ha : (n.channel c).pending.failures = [])
    (value : τ) (s : Strand.Ref) (d : Slot.Ref) :
    Fifo c (h ++ [n.exchange (.operate c (.syncSend value s d))])
      ((n.syncSend c value s d).1.channel c) := by
  refine hf.sent (.syncSend value s d) ha rfl rfl ?_
  have hnone := Pending.failures_eq_nil.1 ha
  change ((n.syncSend c value s d).1.channel c).pending = _
  refine Network.channel_syncSend (P := fun b => b.pending = (n.channel c).pending) value s d
    ?_ ?_ ?_
  · exact fun _ => rfl
  · intro f pending _ hp
    rw [hnone] at hp
    cases hp
  · exact fun _ _ => rfl

/-- What an attempt to receive takes is the first item of the queue, if there is one. The pending
failures stay behind a value, and nothing stays otherwise. -/
theorem receive_head (hf : Fifo c h (n.channel c)) (s : Strand.Ref) :
    (n.receive c s).2.toExcept? = (n.channel c).items.head? ∧
      ((n.receive c s).1.channel c).items = (n.channel c).items.tail ∧
      (((n.receive c s).1.channel c).pending.failures = [] ∨
        ((n.receive c s).1.channel c).pending = (n.channel c).pending ∧
          ∃ value, (n.channel c).items.head? = some (.ok value)) := by
  refine Network.channel_receive (P := fun b r => r.toExcept? = (n.channel c).items.head? ∧
    b.items = (n.channel c).items.tail ∧ (b.pending.failures = [] ∨
      b.pending = (n.channel c).pending ∧
        ∃ value, (n.channel c).items.head? = some (.ok value))) s ?_ ?_ ?_
  · intro m rest hq
    simp [Channel.items, Channel.values, hq, Received.toExcept?]
  · intro f pending hq _ htake
    rcases hp : (n.channel c).pending.failures with _ | ⟨g, _ | ⟨g', l⟩⟩
    · rw [Pending.failures_eq_nil.1 hp] at htake
      cases htake
    · obtain ⟨rest, htake', hrest⟩ := Pending.take?_of_failures hp
      obtain ⟨rfl, rfl⟩ : g = f ∧ rest = pending := by simpa [htake] using htake'.symm
      simp [Channel.items, Channel.values, hq, hp, hrest, Received.toExcept?]
    · have hone := hf.one
      rw [hp] at hone
      simp at hone
  · intro hq ha
    rcases hp : (n.channel c).pending.failures with _ | ⟨f, l⟩
    · simp [Channel.items, Channel.values, hq, hp, Received.toExcept?]
    · have hnil : l = [] := by
        have hone := hf.one
        simpa [hp] using hone
      have hgap : (n.channel c).sendCount = (n.channel c).recvCount + 1 := by
        have hgap := hf.gap
        simpa [Channel.items, Channel.values, hq, hp, hnil] using hgap
      obtain ⟨rest, htake, -⟩ := Pending.take?_of_failures (hnil ▸ hp)
      rw [Channel.arrived?, if_pos hgap, htake] at ha
      cases ha

theorem receive (hf : Fifo c h (n.channel c)) (s : Strand.Ref) :
    Fifo c (h ++ [n.exchange (.operate c (.receive s))]) ((n.receive c s).1.channel c) := by
  obtain ⟨hhead, htail, hpending⟩ := hf.receive_head s
  have hops := n.operationsOn_exchange_operate c (.receive s)
  have hout : (n.operate c (.receive s)).2.item? = (n.channel c).items.head? := hhead
  have hobt : obtained (operationsOn c [n.exchange (.operate c (.receive s))]) =
      (n.channel c).items.head?.toList := by
    rw [hops, obtained, List.filterMap_cons, hout]
    cases (n.channel c).items.head? <;> rfl
  refine hf.snoc (.operate c (.receive s)) ?_ ?_ ?_ ?_
  · simp [hops, receiveFailures, Operation.isFailReceive]
  · change _ = _ ++ ((n.receive c s).1.channel c).items
    rw [hobt, htail]
    cases hi : (n.channel c).items <;> simp [hops, submitted, Operation.item?]
  · obtain hnil | ⟨hsame, -⟩ := hpending
    · exact hnil ▸ Nat.zero_le 1
    · exact hsame ▸ hf.one
  · intro f hmem
    obtain hnil | ⟨hsame, value, hv⟩ := hpending
    · exact absurd (hnil ▸ hmem) List.not_mem_nil
    · refine .inr ⟨hsame ▸ hmem, ?_⟩
      rw [hobt, hv]
      simp

theorem failSend (hf : Fifo c h (n.channel c)) (ha : (n.channel c).pending.failures = [])
    (f : Failure ε) : Fifo c (h ++ [n.exchange (.operate c (.failSend f))])
      ((n.failSend c f).channel c) := by
  have hops := n.operationsOn_exchange_operate c (.failSend f)
  have hb : (n.failSend c f).channel c = { n.channel c with
      sendCount := (n.channel c).sendCount + 1
      pending := (n.channel c).pending.put f
      receiver := none } := by rw [Network.channel_failSend, if_pos rfl]
  have hput := Pending.failures_put ha f
  refine hf.snoc (.operate c (.failSend f)) ?_ ?_ ?_ ?_
  · simp [hops, receiveFailures, Operation.isFailReceive]
  · change _ = _ ++ ((n.failSend c f).channel c).items
    rw [hb, hops]
    simp [submitted, obtained, Operation.item?, Network.operate, Outcome.item?, Channel.items,
      Channel.values, ha, hput]
  · change ((n.failSend c f).channel c).pending.failures.length ≤ 1
    simp [hb, hput]
  · change ∀ g ∈ ((n.failSend c f).channel c).pending.failures, _
    simp [hb, hput]

/-- Every call that leaves the receiving worker alone keeps the invariant, if the history stays
quiet. -/
theorem perform (hf : Fifo c h (n.channel c)) (hq : Quiet c (h ++ [n.exchange call]))
    (hr : ¬ call.FailsReceiver c) :
    Fifo c (h ++ [n.exchange call]) ((n.perform call).1.channel c) := by
  by_cases hc : c ∈ call.channels
  · cases call with
    | operate x op =>
      have hx : c = x := List.mem_singleton.1 hc
      subst hx
      have hops := n.operationsOn_exchange_operate c op
      cases op with
      | send value s =>
        refine hf.sent (.send value s) (hf.none_pending hq rfl) rfl rfl ?_
        change ((n.send c value s).channel c).pending = _
        rw [Network.channel_send, if_pos rfl]
        rfl
      | syncSend value s d => exact hf.syncSend (hf.none_pending hq rfl) value s d
      | receive s => exact hf.receive s
      | flush s d k =>
        have hp := (n.flushed_flush c s d k c).pending
          (Pending.failures_eq_nil.1 (hf.none_pending hq rfl))
        refine hf.still (.operate c (.flush s d k)) ?_ ?_ ?_ hp <;> rw [hops] <;> rfl
      | failSend f => exact hf.failSend (hf.none_pending hq rfl) f
      | failReceive f => exact absurd rfl hr
    | flushAll cs s d =>
      have hp := (n.flushed_flushAll cs s d c).pending
        (Pending.failures_eq_nil.1 (hf.none_pending hq hc))
      exact hf.still (.flushAll cs s d) rfl rfl rfl hp
    | _ => cases hc
  · have hops := n.operationsOn_exchange_eq_nil hc
    exact hf.still call (by rw [hops]; rfl) (by rw [hops]; rfl) (by rw [hops]; rfl)
      (n.pending_perform_of_notMem call hc)

/-- A quiet run in which the receiving worker does not fail keeps the invariant. -/
theorem run {calls : List (Call τ ε)} (hf : Fifo c h (n.channel c))
    (hq : Quiet c (h ++ n.history calls)) (hr : ∀ call ∈ calls, ¬ call.FailsReceiver c) :
    Fifo c (h ++ n.history calls) ((n.run calls).channel c) := by
  induction calls generalizing n h with
  | nil => simpa using hf
  | cons call calls ih =>
    have happ : h ++ n.history (call :: calls) =
        (h ++ [n.exchange call]) ++ (n.perform call).1.history calls := by simp
    rw [happ] at hq ⊢
    have hstep := hf.perform hq.of_append (hr call List.mem_cons_self)
    exact ih hstep hq fun x hx => hr x (List.mem_cons_of_mem _ hx)

/-- A network starts with an empty queue. -/
theorem start (c : Channel.Ref) : Fifo c [] (({} : Network τ ε).channel c) :=
  ⟨rfl, rfl, rfl, Nat.zero_le 1, fun _ hmem => absurd hmem List.not_mem_nil⟩

/-- Only an empty queue has nothing to receive. -/
theorem receive_retry_iff (hf : Fifo c h (n.channel c)) (s : Strand.Ref) :
    (n.receive c s).2 = .retry ↔ (n.channel c).items = [] := by
  obtain ⟨hhead, -, -⟩ := hf.receive_head s
  rw [← List.head?_eq_none_iff, ← hhead]
  cases (n.receive c s).2 <;> simp [Received.toExcept?]

end Fifo

/-- As long as a failed sender keeps quiet, a channel is a plain queue of values and failures: what
was submitted is what was obtained, then the queued values, then the pending failure, and the
counters are the lengths of the first two. -/
theorem quiet_sender_fifo (calls : List (Call τ ε)) (c : Channel.Ref)
    (hlen : (operationsOn c (({} : Network τ ε).history calls)).length < UInt64.size)
    (hreceiver : ∀ call ∈ calls, ¬ call.FailsReceiver c)
    (hquiet : Quiet c (({} : Network τ ε).history calls)) :
    let n := ({} : Network τ ε).run calls
    let ops := operationsOn c (({} : Network τ ε).history calls)
    let channel := n.channel c
    submitted ops = obtained ops ++ channel.values.map .ok ++
        channel.pending.failures.map .error ∧
      channel.pending.failures.length ≤ 1 ∧
      channel.sendCount.toNat = (submitted ops).length ∧
      channel.recvCount.toNat = (obtained ops).length ∧
      channel.sendCount.toNat = channel.recvCount.toNat + channel.backlog.toNat ∧
      channel.backlog.toNat = channel.size + (if channel.hasPendingFailure then 1 else 0) ∧
      ∀ s, (n.receive c s).2 = .retry ↔ obtained ops = submitted ops := by
  intro n ops channel
  have hf : Fifo c (({} : Network τ ε).history calls) channel :=
    (Fifo.start c).run hquiet hreceiver
  have hlen : ops.length < UInt64.size := hlen
  have hstream : submitted ops = obtained ops ++ channel.items := hf.stream
  have hsend : channel.sendCount.toNat = (submitted ops).length := by
    have hle : (submitted ops).length ≤ ops.length := List.length_filterMap_le ..
    have hcount : channel.sendCount = UInt64.ofNat (submitted ops).length := hf.sendCount
    rw [hcount, UInt64.toNat_ofNat_of_lt' (by omega)]
  have hrecv : channel.recvCount.toNat = (obtained ops).length := by
    have hle : (obtained ops).length ≤ ops.length := List.length_filterMap_le ..
    have hcount : channel.recvCount = UInt64.ofNat (obtained ops).length := hf.recvCount
    rw [hcount, UInt64.toNat_ofNat_of_lt' (by omega)]
  have hitems : channel.items.length =
      channel.size + (if channel.hasPendingFailure then 1 else 0) := by
    have hone := hf.one
    rw [Channel.items, List.length_append, List.length_map, List.length_map, Channel.values,
      List.length_map, Channel.size, Channel.hasPendingFailure, Pending.isEmpty_eq]
    rcases hp : channel.pending.failures with _ | ⟨f, _ | ⟨g, l⟩⟩
    · rfl
    · rfl
    · rw [hp] at hone
      simp at hone
  have hbacklog : channel.sendCount.toNat = channel.recvCount.toNat + channel.backlog.toNat := by
    have hle : channel.recvCount ≤ channel.sendCount := by
      rw [UInt64.le_iff_toNat_le, hsend, hrecv, hstream, List.length_append]
      omega
    rw [Channel.backlog, if_pos hle, UInt64.toNat_sub_of_le _ _ hle]
    have := UInt64.le_iff_toNat_le.1 hle
    omega
  have hlength := congrArg List.length hstream
  rw [List.length_append] at hlength
  refine ⟨by rw [hstream, Channel.items, List.append_assoc], hf.one, hsend, hrecv, hbacklog,
    by omega, fun s => ?_⟩
  rw [hf.receive_retry_iff s]
  change channel.items = [] ↔ _
  rw [hstream, List.self_eq_append_right]

/-- The sender of two values fails between them and waits until its failure was received. -/
theorem quiet_sender_fifo_between :
    let calls : List (Call Nat String) := [
      .createReadySet,
      .createStrand (some "tx") ⟨0⟩,
      .createStrand (some "rx") ⟨0⟩,
      .createSlot,
      .createChannel {},
      .operate ⟨0⟩ (.send 1 ⟨0⟩),
      .operate ⟨0⟩ (.failSend (.error "gone")),
      .operate ⟨0⟩ (.receive ⟨1⟩),
      .operate ⟨0⟩ (.receive ⟨1⟩),
      .operate ⟨0⟩ (.syncSend 2 ⟨0⟩ ⟨0⟩)]
    let h := ({} : Network Nat String).history calls
    let channel := (({} : Network Nat String).run calls).channel ⟨0⟩
    (operationsOn ⟨0⟩ h).length < UInt64.size ∧ (∀ call ∈ calls, ¬ call.FailsReceiver ⟨0⟩) ∧
      Quiet ⟨0⟩ h ∧ submitted (operationsOn ⟨0⟩ h) = obtained (operationsOn ⟨0⟩ h) ++
        channel.values.map .ok ++ channel.pending.failures.map .error ∧
      obtained (operationsOn ⟨0⟩ h) = [.ok 1, .error (.error "gone")] ∧ channel.values = [2] := by
  intro calls h channel
  have hlen : (operationsOn ⟨0⟩ h).length < UInt64.size := by decide
  have hreceiver : ∀ call ∈ calls, ¬ call.FailsReceiver ⟨0⟩ := by simp [calls, Call.FailsReceiver]
  have hquiet : Quiet ⟨0⟩ h := by
    iterate 10 refine .cons ?_ ?_
    · exact .nil
    iterate 3 nofun
    · rintro f ⟨⟩
      exact ⟨[_, _], _, rfl, by simp [Call.Disturbs],
        List.mem_cons_of_mem _ List.mem_cons_self⟩
    iterate 6 nofun
  exact ⟨hlen, hreceiver, hquiet,
    (quiet_sender_fifo calls ⟨0⟩ hlen hreceiver hquiet).1, rfl, rfl⟩

end Rendezvous
