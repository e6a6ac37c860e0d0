import Rendezvous.Proofs.Parking

/-!
# Failures cross a channel in one direction

The failures of both workers of a channel wait in the same place. As long as a failed sender is
patient, they are told apart all the same: the receiver gets the sender's failures, and the sender
those of the receiver.

* **Patient senders** (`Patient`): after each failure the sender neither blocks nor fails again
  until that failure was received. It may send.
* **Origins** (`OneWay`): where the pending failures come from, and how many the receiver has got. A
  call keeps this (`OneWay.perform`), and so does a patient run (`OneWay.run`).
* **Main result** (`one_way`): what was received are the sender's failures in order, and what a
  blocking call hands to its slot is a failure of the receiver. An impatient sender gets its own
  failure back (`own_failure_handed`).
-/

namespace Rendezvous

variable {τ ε : Type}

/-! ## Patient senders -/

/-- Whether a call makes the sender block on a channel, or fail. -/
def Call.Insists (c : Channel.Ref) : Call τ ε → Prop
  | .operate x (.syncSend ..) | .operate x (.flush ..) | .operate x (.failSend _) => x = c
  | .flushAll cs _ _ => c ∈ cs
  | _ => False

/-- After each failure the sender neither blocks nor fails until that failure was received. -/
def Patient (c : Channel.Ref) (h : List (Exchange τ ε)) : Prop := Spaced (Call.Insists c) c h

/-- The failures of the receiving worker. -/
def receiverReports (ops : List (Operation τ ε × Outcome τ ε)) : List (Failure ε) :=
  ops.filterMap fun
    | (.failReceive f, _) => some f
    | _ => none

@[simp] theorem receiverReports_append (a b : List (Operation τ ε × Outcome τ ε)) :
    receiverReports (a ++ b) = receiverReports a ++ receiverReports b := List.filterMap_append ..

theorem length_receiverReports (ops : List (Operation τ ε × Outcome τ ε)) :
    (receiverReports ops).length = receiveFailures ops := by
  rw [receiverReports, List.length_filterMap_eq_countP, receiveFailures]
  congr
  funext o
  obtain ⟨op, out⟩ := o
  cases op <;> rfl

/-- The sender failed and nobody has received that since. -/
def Awaited (c : Channel.Ref) (h : List (Exchange τ ε)) (f : Failure ε) : Prop :=
  ∃ before fail waiting, h = before ++ fail :: waiting ∧ fail.call = .operate c (.failSend f) ∧
    .error f ∉ obtained (operationsOn c waiting)

section
variable {c : Channel.Ref} {h : List (Exchange τ ε)} {f : Failure ε}

theorem Awaited.snoc (ha : Awaited c h f) {e : Exchange τ ε}
    (he : .error f ∉ obtained (operationsOn c [e])) : Awaited c (h ++ [e]) f := by
  obtain ⟨before, fail, waiting, rfl, hfail, hnot⟩ := ha
  refine ⟨before, fail, waiting ++ [e], by simp, hfail, ?_⟩
  rw [operationsOn_append, obtained_append, List.mem_append, not_or]
  exact ⟨hnot, he⟩

/-- A patient sender does not insist while its failure is awaited. -/
theorem Patient.not_awaited {e : Exchange τ ε} (hp : Patient c (h ++ [e]))
    (he : e.call.Insists c) : ¬ Awaited c h f := by
  rintro ⟨before, fail, waiting, rfl, hfail, hnot⟩
  exact hnot (hp before fail waiting e [] f (by simp) hfail he)

end

/-! ## Origins -/

/-- A pending failure was reported by the receiver, or its receipt is awaited. The receiver has got
all failures of the sender, or the last is awaited. As long as the receiver has not failed, what it
has got and what is pending are the failures of the sender; and in any case it has got nothing
else. -/
structure OneWay (c : Channel.Ref) (h : List (Exchange τ ε)) (channel : Channel τ ε) : Prop where
  origin : ∀ f ∈ channel.pending.failures,
    f ∈ receiverReports (operationsOn c h) ∨ Awaited c h f
  received : sendFailures (operationsOn c h) ≤ (failuresOf (obtained (operationsOn c h))).length ∨
    sendFailures (operationsOn c h) = (failuresOf (obtained (operationsOn c h))).length + 1 ∧
      ∃ f, Awaited c h f
  sender : receiverReports (operationsOn c h) = [] →
    failuresOf (submitted (operationsOn c h)) =
      failuresOf (obtained (operationsOn c h)) ++ channel.pending.failures
  order : failuresOf (obtained (operationsOn c h)) <+: failuresOf (submitted (operationsOn c h))

/-- What an exchange on a channel is about. -/
theorem operationsOn_operate (c : Channel.Ref) (op : Operation τ ε) (out : Outcome τ ε) :
    operationsOn c [(⟨.operate c op, out⟩ : Exchange τ ε)] = [(op, out)] := by
  simp [operationsOn, Exchange.operation?]

namespace OneWay

variable {c : Channel.Ref} {h : List (Exchange τ ε)} {a b : Channel τ ε} {e : Exchange τ ε}

/-- When a patient sender insists, only failures of the receiver are pending. -/
theorem of_receiver (ho : OneWay c h a) (hp : Patient c (h ++ [e])) (hc : e.call.Insists c)
    {f : Failure ε} (hf : f ∈ a.pending.failures) : f ∈ receiverReports (operationsOn c h) :=
  (ho.origin f hf).resolve_right (hp.not_awaited hc)

/-- So nothing is pending if the receiver has not failed. -/
theorem none_pending (ho : OneWay c h a) (hp : Patient c (h ++ [e])) (hc : e.call.Insists c)
    (hnone : receiverReports (operationsOn c h) = []) : a.pending.failures = [] := by
  rw [List.eq_nil_iff_forall_not_mem]
  intro f hf
  have hmem := ho.of_receiver hp hc hf
  rw [hnone] at hmem
  exact List.not_mem_nil hmem

/-- An exchange that neither reports nor receives a failure. It may take a pending one, but none of
the sender. -/
theorem still (ho : OneWay c h a) (hs : failuresOf (submitted (operationsOn c [e])) = [])
    (hr : failuresOf (obtained (operationsOn c [e])) = [])
    (hq : receiverReports (operationsOn c [e]) = [])
    (hless : b.pending.failures ⊆ a.pending.failures)
    (hkept : receiverReports (operationsOn c h) = [] →
      b.pending.failures = a.pending.failures) : OneWay c (h ++ [e]) b := by
  have hnot : ∀ f, .error f ∉ obtained (operationsOn c [e]) := by
    intro f hf
    have hmem : f ∈ failuresOf (obtained (operationsOn c [e])) :=
      List.mem_filterMap.2 ⟨_, hf, rfl⟩
    rw [hr] at hmem
    cases hmem
  have hcount : sendFailures (operationsOn c [e]) = 0 := by
    rw [← length_failuresOf_submitted, hs]
    rfl
  constructor
  · intro f hf
    rw [operationsOn_append, receiverReports_append, hq, List.append_nil]
    exact (ho.origin f (hless hf)).imp id fun ha => ha.snoc (hnot f)
  · rw [operationsOn_append, sendFailures_append, obtained_append, failuresOf_append, hr, hcount,
      List.append_nil, Nat.add_zero]
    exact ho.received.imp id fun ⟨hone, f, ha⟩ => ⟨hone, f, ha.snoc (hnot f)⟩
  · rw [operationsOn_append, receiverReports_append, submitted_append, obtained_append,
      failuresOf_append, failuresOf_append, hs, hr, hq, List.append_nil, List.append_nil,
      List.append_nil]
    intro hnone
    rw [hkept hnone]
    exact ho.sender hnone
  · rw [operationsOn_append, submitted_append, obtained_append, failuresOf_append,
      failuresOf_append, hs, hr, List.append_nil, List.append_nil]
    exact ho.order

/-- A patient sender blocks: it takes only failures of the receiver. -/
theorem blocks (ho : OneWay c h a) (hp : Patient c (h ++ [e])) (hc : e.call.Insists c)
    (hs : failuresOf (submitted (operationsOn c [e])) = [])
    (hr : failuresOf (obtained (operationsOn c [e])) = [])
    (hq : receiverReports (operationsOn c [e]) = [])
    (hless : b.pending.failures ⊆ a.pending.failures) : OneWay c (h ++ [e]) b := by
  refine ho.still hs hr hq hless fun hnone => ?_
  have hpending := ho.none_pending hp hc hnone
  rw [hpending] at hless ⊢
  exact List.subset_nil.1 hless

/-- The failure that the receiver gets is the last one of the sender, and the only one pending. -/
theorem receiveFailure (ho : OneWay c h a) (ht : a.Tally (operationsOn c h)) {s : Strand.Ref}
    {f : Failure ε} {rest : Pending ε} (hq : a.queue = []) (hone : a.sendCount = a.recvCount + 1)
    (htake : a.pending.take? = some (f, rest))
    (hrecv : (a.recvCount + 1).toNat = a.recvCount.toNat + 1) :
    OneWay c (h ++ [⟨.operate c (.receive s), .received (.failed f)⟩])
      { a with pending := rest, recvCount := a.recvCount + 1 } := by
  have hops := operationsOn_operate c (.receive s) (.received (.failed f) : Outcome τ ε)
  have hsize : a.size = 0 := by rw [Channel.size, hq]; rfl
  -- The only place that is left is that of the sender's last failure.
  have hgap := ht.gap
  rw [hone, hrecv, hsize, failuresConsumed] at hgap
  have hcount : sendFailures (operationsOn c h) =
      (failuresOf (obtained (operationsOn c h))).length + 1 := by
    rcases ho.received with hle | ⟨hlast, -⟩
    · omega
    · exact hlast
  have hnone : receiverReports (operationsOn c h) = [] := by
    rw [← List.length_eq_zero_iff, length_receiverReports]
    omega
  have hpending := ho.sender hnone
  rw [Pending.failures_of_take? htake] at hpending
  have hrest : rest.failures = [] := by
    have hlength := congrArg List.length hpending
    rw [length_failuresOf_submitted, List.length_append, List.length_cons] at hlength
    rw [← List.length_eq_zero_iff]
    omega
  rw [hrest] at hpending
  have hsubmitted : failuresOf (submitted (operationsOn c (h ++
      [(⟨.operate c (.receive s), .received (.failed f)⟩ : Exchange τ ε)]))) =
        failuresOf (obtained (operationsOn c (h ++
          [(⟨.operate c (.receive s), .received (.failed f)⟩ : Exchange τ ε)]))) := by
    rw [operationsOn_append, submitted_append, failuresOf_append, hpending, obtained_append,
      failuresOf_append, hops]
    exact List.append_nil _
  constructor
  · intro g hg
    exact absurd (hrest ▸ hg) List.not_mem_nil
  · refine .inl (Nat.le_of_eq ?_)
    rw [← length_failuresOf_submitted, hsubmitted]
  · intro _
    rw [hsubmitted, hrest, List.append_nil]
  · exact ⟨[], by rw [List.append_nil, hsubmitted]⟩

/-- A patient sender fails: all its earlier failures were received. -/
theorem failSend (ho : OneWay c h a) {f : Failure ε}
    (hp : Patient c (h ++ [⟨.operate c (.failSend f), .done⟩]))
    (hb : b.pending = a.pending.put f) :
    OneWay c (h ++ [⟨.operate c (.failSend f), .done⟩]) b := by
  have hops := operationsOn_operate c (.failSend f) (.done : Outcome τ ε)
  have hawaited : Awaited c (h ++ [⟨.operate c (.failSend f), .done⟩]) f :=
    ⟨h, _, [], rfl, rfl, List.not_mem_nil⟩
  have hcount : sendFailures (operationsOn c h) ≤
      (failuresOf (obtained (operationsOn c h))).length := by
    rcases ho.received with hle | ⟨-, g, hg⟩
    · exact hle
    · exact absurd hg (hp.not_awaited rfl)
  have hsubmitted : failuresOf (submitted (operationsOn c (h ++
      [(⟨.operate c (.failSend f), .done⟩ : Exchange τ ε)]))) =
        failuresOf (submitted (operationsOn c h)) ++ [f] := by
    rw [operationsOn_append, submitted_append, failuresOf_append, hops]
    rfl
  have hobtained : failuresOf (obtained (operationsOn c (h ++
      [(⟨.operate c (.failSend f), .done⟩ : Exchange τ ε)]))) =
        failuresOf (obtained (operationsOn c h)) := by
    rw [operationsOn_append, obtained_append, failuresOf_append, hops]
    exact List.append_nil _
  have hreports : receiverReports (operationsOn c (h ++
      [(⟨.operate c (.failSend f), .done⟩ : Exchange τ ε)])) =
        receiverReports (operationsOn c h) := by
    rw [operationsOn_append, receiverReports_append, hops]
    exact List.append_nil _
  constructor
  · intro g hg
    rw [hb] at hg
    rcases Pending.mem_failures_put hg with rfl | hg
    · exact .inr hawaited
    · rw [hreports]
      exact .inl (ho.of_receiver hp rfl hg)
  · rw [← length_failuresOf_submitted, hsubmitted, hobtained, List.length_append,
      length_failuresOf_submitted, List.length_singleton]
    rcases Nat.lt_or_eq_of_le hcount with hlt | heq
    · exact .inl hlt
    · exact .inr ⟨by rw [heq], f, hawaited⟩
  · rw [hreports, hsubmitted, hobtained, hb]
    intro hnone
    have hpending := ho.none_pending hp rfl hnone
    rw [Pending.failures_put hpending, ho.sender hnone, hpending, List.append_nil]
  · rw [hsubmitted, hobtained]
    exact ho.order.trans (List.prefix_append ..)

/-- The receiver fails, and may leave its failure behind. -/
theorem failReceive (ho : OneWay c h a) {f : Failure ε}
    (hb : ∀ g ∈ b.pending.failures, g = f ∨ g ∈ a.pending.failures) :
    OneWay c (h ++ [⟨.operate c (.failReceive f), .done⟩]) b := by
  have hops := operationsOn_operate c (.failReceive f) (.done : Outcome τ ε)
  have hnot : ∀ g, .error g ∉ obtained (operationsOn c
      [(⟨.operate c (.failReceive f), .done⟩ : Exchange τ ε)]) := by
    intro g
    rw [hops]
    exact List.not_mem_nil
  constructor
  · intro g hg
    rw [operationsOn_append, receiverReports_append, hops, List.mem_append]
    rcases hb g hg with rfl | hg
    · exact .inl (.inr List.mem_cons_self)
    · exact (ho.origin g hg).imp .inl fun ha => ha.snoc (hnot g)
  · rw [operationsOn_append, sendFailures_append, obtained_append, failuresOf_append, hops]
    change _ + 0 ≤ (_ ++ []).length ∨ _ + 0 = (_ ++ []).length + 1 ∧ _
    rw [List.append_nil, Nat.add_zero]
    exact ho.received.imp id fun ⟨hone, g, ha⟩ => ⟨hone, g, ha.snoc (hnot g)⟩
  · rw [operationsOn_append, receiverReports_append, hops]
    intro hnone
    exact absurd (List.append_eq_nil_iff.1 hnone).2 (List.cons_ne_nil _ _)
  · rw [operationsOn_append, submitted_append, obtained_append, failuresOf_append,
      failuresOf_append, hops]
    change _ ++ [] <+: _ ++ []
    rw [List.append_nil, List.append_nil]
    exact ho.order

variable {n : Network τ ε} {call : Call τ ε}

theorem receive (ho : OneWay c h (n.channel c)) (ht : (n.channel c).Tally (operationsOn c h))
    (s : Strand.Ref) (hb : ((n.receive c s).1.channel c).Tally
      (operationsOn c h ++ [(.receive s, .received (n.receive c s).2)])) :
    OneWay c (h ++ [⟨.operate c (.receive s), .received (n.receive c s).2⟩])
      ((n.receive c s).1.channel c) := by
  revert hb
  refine Network.channel_receive (P := fun b r =>
    b.Tally (operationsOn c h ++ [(.receive s, .received r)]) →
      OneWay c (h ++ [⟨.operate c (.receive s), .received r⟩]) b) s ?_ ?_ ?_
  · intro m rest _ _
    refine ho.still ?_ ?_ ?_ (List.Subset.refl _) fun _ => rfl
    iterate 3 rw [operationsOn_operate]; rfl
  · intro f pending hq hone htake hb
    exact ho.receiveFailure ht hq hone htake (ht.recvCount_snoc hb)
  · intro _ _ _
    refine ho.still ?_ ?_ ?_ (List.Subset.refl _) fun _ => rfl
    iterate 3 rw [operationsOn_operate]; rfl

/-- So it is after every call, if the sender is patient. -/
theorem perform (ho : OneWay c h (n.channel c)) (ht : (n.channel c).Tally (operationsOn c h))
    (hb : ((n.perform call).1.channel c).Tally (operationsOn c (h ++ [n.exchange call])))
    (hp : Patient c (h ++ [n.exchange call])) :
    OneWay c (h ++ [n.exchange call]) ((n.perform call).1.channel c) := by
  by_cases hc : c ∈ call.channels
  · cases call with
    | operate x op =>
      obtain rfl : c = x := List.mem_singleton.1 hc
      have hops := n.operationsOn_exchange_operate c op
      cases op with
      | send value s =>
        have hb : ((n.send c value s).channel c).pending = (n.channel c).pending := by
          rw [Network.channel_send, if_pos rfl]
          rfl
        change OneWay c _ ((n.send c value s).channel c)
        refine ho.still ?_ ?_ ?_ (by rw [hb]; exact List.Subset.refl _) fun _ => by rw [hb]
        iterate 3 rw [hops]; rfl
      | syncSend value s d =>
        refine ho.blocks hp rfl ?_ ?_ ?_ (Network.failures_syncSend value s d).subset
        iterate 3 rw [hops]; rfl
      | receive s =>
        rw [operationsOn_append, hops] at hb
        exact ho.receive ht s hb
      | flush s d k =>
        refine ho.blocks hp rfl ?_ ?_ ?_ (Network.failures_flush s d k).subset
        iterate 3 rw [hops]; rfl
      | failSend f =>
        refine ho.failSend hp ?_
        change ((n.failSend c f).channel c).pending = _
        rw [Network.channel_failSend, if_pos rfl]
      | failReceive f =>
        refine ho.failReceive ?_
        change ∀ g ∈ ((n.failReceive c f).channel c).pending.failures, _
        refine Network.channel_failReceive (P := fun b => ∀ g ∈ b.pending.failures,
          g = f ∨ g ∈ (n.channel c).pending.failures) f ?_ ?_ ?_
        · exact fun g hg => .inr hg
        · exact fun g hg => .inr hg
        · intro g hg
          change g ∈ Pending.failures (if _ then _ else _) at hg
          split at hg
          · exact Pending.mem_failures_put hg
          · exact .inr hg
    | flushAll cs s d =>
      refine ho.blocks hp hc rfl rfl rfl ?_
      exact n.flushAll_keeps (P := fun b => b.pending.failures ⊆ (n.channel c).pending.failures)
        (fun m s d k hm => List.Subset.trans (Network.failures_flush s d k).subset hm)
        (fun _ _ hm => hm) cs s d (List.Subset.refl _)
    | _ => cases hc
  · have hops := n.operationsOn_exchange_eq_nil hc
    have hsame := n.pending_perform_of_notMem call hc
    refine ho.still ?_ ?_ ?_ (by rw [hsame]; exact List.Subset.refl _) fun _ => by rw [hsame]
    iterate 3 rw [hops]; rfl

theorem start (c : Channel.Ref) : OneWay c [] (({} : Network τ ε).channel c) :=
  ⟨fun _ hf => absurd hf List.not_mem_nil, .inl (Nat.le_refl 0), fun _ => rfl, List.prefix_refl _⟩

/-- So it is in every run, if the sender is patient. -/
theorem run (calls : List (Call τ ε)) (c : Channel.Ref)
    (hlen : (operationsOn c (({} : Network τ ε).history calls)).length < UInt64.size)
    (hp : Patient c (({} : Network τ ε).history calls)) :
    OneWay c (({} : Network τ ε).history calls) ((({} : Network τ ε).run calls).channel c) := by
  induction calls using List.reverseRecOn with
  | nil => exact .start c
  | append_singleton calls call ih =>
    have hb := Network.tally_run (calls ++ [call]) c hlen
    rw [Network.operationsOn_history_snoc, List.length_append] at hlen
    have hshort : (operationsOn c (({} : Network τ ε).history calls)).length < UInt64.size := by
      omega
    rw [Network.history_append] at hp hb ⊢
    rw [Network.run_append] at hb ⊢
    exact (ih hshort hp.of_append).perform (Network.tally_run calls c hshort) hb hp

end OneWay

/-! ## Main result -/

namespace Network

/-- A call takes a failure out of a channel and hands it to a slot that it was passed. -/
def Hands (n : Network τ ε) (c : Channel.Ref) (call : Call τ ε) (f : Failure ε) : Prop :=
  f ∈ (n.channel c).pending.failures ∧ f ∉ ((n.perform call).1.channel c).pending.failures ∧
    ∃ d ∈ call.slots, (n.slot d).isResolved = false ∧
      (n.perform call).1.slot d = .filled (.failed f)

/-- Only a call that blocks does so. -/
theorem Hands.insists {n : Network τ ε} {c : Channel.Ref} {call : Call τ ε} {f : Failure ε}
    (h : n.Hands c call f) : call.Insists c := by
  obtain ⟨hbefore, hafter, d, hd, -⟩ := h
  by_cases hc : c ∈ call.channels
  · cases call with
    | operate x op =>
      obtain rfl : c = x := List.mem_singleton.1 hc
      cases op with
      | syncSend | flush => rfl
      | _ => cases hd
    | flushAll cs s d => exact hc
    | _ => cases hc
  · rw [n.pending_perform_of_notMem call hc] at hafter
    exact absurd hbefore hafter

/-- As long as the sender is patient, failures cross the channel in one direction: what the receiver
gets are failures of the sender, in order, and what a call that blocks hands to its slot is a
failure that the receiver has reported. -/
theorem one_way (calls : List (Call τ ε)) (c : Channel.Ref)
    (hlen : (operationsOn c (({} : Network τ ε).history calls)).length < UInt64.size)
    (hpatient : Patient c (({} : Network τ ε).history calls)) :
    let n : Network τ ε := {}
    failuresOf (obtained (operationsOn c (n.history calls))) <+:
        failuresOf (submitted (operationsOn c (n.history calls))) ∧
      ∀ before call after f, calls = before ++ call :: after → (n.run before).Hands c call f →
        f ∈ receiverReports (operationsOn c (n.history before)) := by
  intro n
  refine ⟨(OneWay.run calls c hlen hpatient).order, ?_⟩
  rintro before call after f rfl hhands
  have hp : Patient c ((n.history before ++ [(n.run before).exchange call]) ++
      ((n.run before).perform call).1.history after) := by
    rw [history_append, history_cons] at hpatient
    rw [List.append_assoc]
    exact hpatient
  have hbefore : (operationsOn c (n.history before)).length < UInt64.size := by
    rw [history_append, operationsOn_append, List.length_append] at hlen
    exact Nat.lt_of_le_of_lt (Nat.le_add_right ..) hlen
  have ho := OneWay.run before c hbefore (Spaced.of_append (Spaced.of_append hp))
  exact ho.of_receiver (Spaced.of_append hp) hhands.insists hhands.1

/-- The sender goes on after its failure, but does not block before that was received. Then the
receiver fails in turn, and the next flush gets its failure. -/
theorem one_way_crossing :
    let before : List (Call Nat String) := [
      .createReadySet,
      .createStrand (some "tx") ⟨0⟩,
      .createStrand (some "rx") ⟨0⟩,
      .createSlot,
      .createDrainLog,
      .createChannel { retainReceiveFailures := true },
      .operate ⟨0⟩ (.failSend (.error "gone")),
      .operate ⟨0⟩ (.send 1 ⟨0⟩),
      .operate ⟨0⟩ (.receive ⟨1⟩),
      .operate ⟨0⟩ (.receive ⟨1⟩),
      .operate ⟨0⟩ (.failReceive (.error "lost"))]
    let flush : Call Nat String := .operate ⟨0⟩ (.flush ⟨0⟩ ⟨0⟩ ⟨0⟩)
    let n : Network Nat String := {}
    Patient ⟨0⟩ (n.history (before ++ [flush])) ∧
      failuresOf (obtained (operationsOn ⟨0⟩ (n.history (before ++ [flush])))) = [.error "gone"] ∧
      (n.run before).Hands ⟨0⟩ flush (.error "lost") ∧
        .error "lost" ∈ receiverReports (operationsOn ⟨0⟩ (n.history before)) := by
  intro before flush n
  have hlen : (operationsOn ⟨0⟩ (n.history (before ++ [flush]))).length < UInt64.size := by decide
  have hpatient : Patient ⟨0⟩ (n.history (before ++ [flush])) := by
    iterate 12 refine .cons ?_ ?_
    · exact .nil
    iterate 5 nofun
    · rintro f ⟨⟩
      exact ⟨[_, _, _], _, rfl, by simp [Call.Insists], by decide⟩
    iterate 6 nofun
  have hhands : (n.run before).Hands ⟨0⟩ flush (.error "lost") :=
    ⟨by decide, by decide, ⟨0⟩, by decide, by decide, by decide⟩
  obtain ⟨-, hreports⟩ := one_way (before ++ [flush]) ⟨0⟩ hlen hpatient
  exact ⟨hpatient, by decide, hhands, hreports before flush [] _ rfl hhands⟩

/-- An impatient sender is handed its own failure. And a receiver gets its own failure back, if it
fails before a sender that fails twice. -/
theorem own_failure_handed :
    let before : List (Call Nat String) := [
      .createReadySet,
      .createStrand (some "tx") ⟨0⟩,
      .createStrand (some "rx") ⟨0⟩,
      .createSlot,
      .createDrainLog,
      .createChannel {},
      .operate ⟨0⟩ (.failSend (.error "gone"))]
    let calls : List (Call Nat String) := [
      .createReadySet,
      .createStrand (some "tx") ⟨0⟩,
      .createStrand (some "rx") ⟨0⟩,
      .createChannel { retainReceiveFailures := true },
      .operate ⟨0⟩ (.failReceive (.panic "lost")),
      .operate ⟨0⟩ (.failSend (.error "gone")),
      .operate ⟨0⟩ (.failSend (.error "gone")),
      .operate ⟨0⟩ (.receive ⟨1⟩)]
    let n : Network Nat String := {}
    (n.run before).Hands ⟨0⟩ (.operate ⟨0⟩ (.flush ⟨0⟩ ⟨0⟩ ⟨0⟩)) (.error "gone") ∧
      receiverReports (operationsOn ⟨0⟩ (n.history before)) = [] ∧
      failuresOf (obtained (operationsOn ⟨0⟩ (n.history calls))) = [.panic "lost"] := by
  intro before calls n
  exact ⟨⟨by decide, by decide, ⟨0⟩, by decide, by decide, by decide⟩, by decide, by decide⟩

end Network

end Rendezvous
