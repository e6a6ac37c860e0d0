import Rendezvous.Proofs.Parking

/-!
# When a receiver learns of a failed sender

A failure of the sender waits beside the queue, and only the counters tell its place. Here is what
becomes of it while a channel is used to send, to fail and to receive.

* **Outstanding failures** (`Channel.Outstanding`): those that were reported and not received. One
  that is outstanding alone is pending. Each call keeps this (`Outstanding.perform`), and so does a
  run (`outstanding_run`).
* **Surfacing** (`Network.received_iff_only_outstanding`): the receiver of an empty queue gets a
  pending failure exactly if no other is outstanding. Two that are outstanding together are never
  received (`Network.failures_stuck`).
* **Order** (`Network.failure_behind_values`): a failure is received behind everything that was sent
  by then, also behind values that were sent after it (`Network.value_overtakes_failure`).
-/

namespace Rendezvous

variable {τ ε : Type}

/-- A failure is pending once it is kept. -/
theorem Pending.mem_failures_put_self (p : Pending ε) (f : Failure ε) : f ∈ (p.put f).failures := by
  cases f with | mk kind e => cases kind <;> simp [failures, put]

/-! ## Outstanding failures -/

/-- A call that uses a channel, if at all, to send, to report a failure of the sender or to receive.
-/
def Call.Plain (c : Channel.Ref) : Call τ ε → Prop
  | .operate x (.syncSend ..) | .operate x (.flush ..) | .operate x (.failReceive _) => x ≠ c
  | .flushAll cs _ _ => c ∉ cs
  | _ => True

namespace Channel

variable {ops : List (Operation τ ε × Outcome τ ε)} {a b : Channel τ ε}

/-- What is known of the failures of a sender. Those that were reported, `failuresOf (submitted
ops)`, less those that were received, `failuresOf (obtained ops)`, are outstanding. If none is
pending then none is outstanding; and if at most one is outstanding, it is pending. -/
structure Outstanding (ops : List (Operation τ ε × Outcome τ ε)) (channel : Channel τ ε) :
    Prop where
  unfailed : receiveFailures ops = 0
  none : channel.pending.failures = [] →
    (failuresOf (submitted ops)).length = (failuresOf (obtained ops)).length
  last : (failuresOf (submitted ops)).length ≤ (failuresOf (obtained ops)).length + 1 →
    failuresOf (submitted ops) = failuresOf (obtained ops) ++ channel.pending.failures

namespace Outstanding

/-- No more failures are received than were reported. -/
theorem length_obtained_le (h : a.Outstanding ops) :
    (failuresOf (obtained ops)).length ≤ (failuresOf (submitted ops)).length := by
  by_contra hlt
  have hlength := congrArg List.length (h.last (by omega))
  rw [List.length_append] at hlength
  omega

theorem failuresConsumed_eq (h : a.Outstanding ops) :
    failuresConsumed ops = (failuresOf (obtained ops)).length := by
  rw [failuresConsumed, h.unfailed, Nat.add_zero]

/-- A step in which no failure is reported or received. -/
theorem still (h : a.Outstanding ops) {l : List (Operation τ ε × Outcome τ ε)}
    (hr : receiveFailures l = 0) (hs : failuresOf (submitted l) = [])
    (ho : failuresOf (obtained l) = []) (hp : b.pending = a.pending) :
    b.Outstanding (ops ++ l) := by
  refine ⟨?_, ?_, ?_⟩
  · rw [receiveFailures_append, h.unfailed, hr]
  · rw [submitted_append, obtained_append, failuresOf_append, failuresOf_append, hs, ho,
      List.append_nil, List.append_nil, hp]
    exact h.none
  · rw [submitted_append, obtained_append, failuresOf_append, failuresOf_append, hs, ho,
      List.append_nil, List.append_nil, hp]
    exact h.last

/-- Nothing is queued and a single place is left: it is that of the only outstanding failure. -/
theorem length_eq_of_last_place (h : a.Outstanding ops) (ht : a.Tally ops) (hq : a.queue = [])
    (hone : a.sendCount = a.recvCount + 1) :
    (failuresOf (submitted ops)).length = (failuresOf (obtained ops)).length + 1 := by
  have hgap := ht.gap
  have hle := h.length_obtained_le
  have hsize : a.size = 0 := by rw [size, hq]; rfl
  have hword := congrArg UInt64.toNat hone
  rw [UInt64.toNat_add, UInt64.toNat_one] at hword
  rw [length_failuresOf_submitted] at hle ⊢
  rw [h.failuresConsumed_eq] at hgap
  have hbound := a.recvCount.toNat_lt
  -- The word after the last one would be zero, less than what has been consumed.
  omega

/-- Conversely, the only outstanding failure has a single place left once nothing is queued. -/
theorem last_place_of_length_eq (h : a.Outstanding ops) (ht : a.Tally ops) (hq : a.queue = [])
    (hone : (failuresOf (submitted ops)).length = (failuresOf (obtained ops)).length + 1) :
    a.sendCount = a.recvCount + 1 := by
  have hgap := ht.gap
  have hsize : a.size = 0 := by rw [size, hq]; rfl
  rw [length_failuresOf_submitted] at hone
  rw [h.failuresConsumed_eq] at hgap
  have hbound := a.sendCount.toNat_lt
  rw [← UInt64.toNat_inj, UInt64.toNat_add, UInt64.toNat_one]
  omega

/-- So what is consumed there is that failure, and none stays. -/
theorem eq_append_of_take? (h : a.Outstanding ops) (ht : a.Tally ops) (hq : a.queue = [])
    (hone : a.sendCount = a.recvCount + 1) {f : Failure ε} {rest : Pending ε}
    (htake : a.pending.take? = some (f, rest)) :
    failuresOf (submitted ops) = failuresOf (obtained ops) ++ [f] ∧ rest.failures = [] := by
  have hlength := h.length_eq_of_last_place ht hq hone
  have hlast := h.last (Nat.le_of_eq hlength)
  rw [Pending.failures_of_take? htake] at hlast
  have hrest : rest.failures = [] := by
    rw [hlast, List.length_append, List.length_cons] at hlength
    exact List.length_eq_zero_iff.1 (by omega)
  exact ⟨by rw [hlast, hrest], hrest⟩

/-- As long as a failure is pending, one is outstanding. -/
theorem length_obtained_lt (h : a.Outstanding ops) (hp : a.pending.failures ≠ []) :
    (failuresOf (obtained ops)).length < (failuresOf (submitted ops)).length := by
  refine Nat.lt_of_le_of_ne h.length_obtained_le fun heq => hp ?_
  have hlength := congrArg List.length (h.last (by omega))
  rw [List.length_append] at hlength
  exact List.length_eq_zero_iff.1 (by omega)

end Outstanding

end Channel

namespace Channel.Outstanding

variable {n : Network τ ε} {c : Channel.Ref} {ops : List (Operation τ ε × Outcome τ ε)}

/-- The failure that is received was outstanding alone, and nothing is pending any more. -/
theorem receive (h : (n.channel c).Outstanding ops) (ht : (n.channel c).Tally ops)
    (s : Strand.Ref) : ((n.receive c s).1.channel c).Outstanding
      (ops ++ [(.receive s, .received (n.receive c s).2)]) := by
  refine Network.channel_receive (P := fun b r =>
    b.Outstanding (ops ++ [(.receive s, .received r)])) s ?_ ?_ ?_
  · exact fun _ _ _ => h.still rfl rfl rfl rfl
  · intro f rest hq hone htake
    obtain ⟨honly, hrest⟩ := h.eq_append_of_take? ht hq hone htake
    have hsame : failuresOf (submitted (ops ++ [(.receive s, .received (.failed f))])) =
        failuresOf (obtained (ops ++ [(.receive s, .received (.failed f))])) := by
      rw [submitted_append, obtained_append, failuresOf_append, failuresOf_append, honly]
      exact List.append_nil _
    refine ⟨?_, fun _ => congrArg List.length hsame, fun _ => ?_⟩
    · rw [receiveFailures_append, h.unfailed]
      rfl
    · rw [hsame, hrest, List.append_nil]
  · exact fun _ _ => h.still rfl rfl rfl rfl

/-- A new failure is pending. If it is outstanding alone, none was pending before. -/
theorem failSend (h : (n.channel c).Outstanding ops) (f : Failure ε) :
    ((n.failSend c f).channel c).Outstanding (ops ++ [(.failSend f, .done)]) := by
  have hsubmitted : failuresOf (submitted (ops ++ [(.failSend f, (.done : Outcome τ ε))])) =
      failuresOf (submitted ops) ++ [f] := by
    rw [submitted_append, failuresOf_append]
    rfl
  have hobtained : failuresOf (obtained (ops ++ [(.failSend f, (.done : Outcome τ ε))])) =
      failuresOf (obtained ops) := by
    rw [obtained_append, failuresOf_append]
    exact List.append_nil _
  rw [Network.channel_failSend, if_pos rfl]
  refine ⟨?_, fun hnone => ?_, fun hle => ?_⟩
  · rw [receiveFailures_append, h.unfailed]
    rfl
  · have hmem := (n.channel c).pending.mem_failures_put_self f
    rw [show ((n.channel c).pending.put f).failures = [] from hnone] at hmem
    cases hmem
  · rw [hsubmitted, hobtained, List.length_append, List.length_singleton] at hle
    have hlast := h.last (by omega)
    have hnone : (n.channel c).pending.failures = [] := by
      have hlength := congrArg List.length hlast
      rw [List.length_append] at hlength
      exact List.length_eq_zero_iff.1 (by omega)
    rw [hsubmitted, hobtained, hlast, hnone, List.append_nil, Pending.failures_put hnone]

/-- So it is after every plain call. -/
theorem perform (h : (n.channel c).Outstanding ops) (ht : (n.channel c).Tally ops)
    {call : Call τ ε} (hp : call.Plain c) : ((n.perform call).1.channel c).Outstanding
      (ops ++ operationsOn c [n.exchange call]) := by
  by_cases hc : c ∈ call.channels
  · cases call with
    | operate x op =>
      obtain rfl : c = x := List.mem_singleton.1 hc
      rw [Network.operationsOn_exchange_operate]
      cases op with
      | send value s =>
        refine h.still rfl rfl rfl ?_
        change ((n.send c value s).channel c).pending = _
        rw [Network.channel_send, if_pos rfl]
        rfl
      | receive s => exact h.receive ht s
      | failSend f => exact h.failSend f
      | syncSend | flush | failReceive => exact absurd rfl hp
    | flushAll cs s d => exact absurd hc hp
    | _ => cases hc
  · rw [n.operationsOn_exchange_eq_nil hc]
    exact h.still rfl rfl rfl (n.pending_perform_of_notMem call hc)

end Channel.Outstanding

namespace Network

/-- What is known of outstanding failures is known in every plain run. -/
theorem outstanding_run (calls : List (Call τ ε)) (c : Channel.Ref)
    (hlen : (operationsOn c (({} : Network τ ε).history calls)).length < UInt64.size)
    (hplain : ∀ call ∈ calls, call.Plain c) :
    ((({} : Network τ ε).run calls).channel c).Outstanding
      (operationsOn c (({} : Network τ ε).history calls)) := by
  induction calls using List.reverseRecOn with
  | nil => exact ⟨rfl, fun _ => rfl, fun _ => rfl⟩
  | append_singleton calls call ih =>
    rw [operationsOn_history_snoc, List.length_append] at hlen
    have hshort : (operationsOn c (({} : Network τ ε).history calls)).length < UInt64.size := by
      omega
    rw [operationsOn_history_snoc, run_append]
    exact (ih hshort fun x hx => hplain x (List.mem_append_left _ hx)).perform
      (tally_run calls c hshort) (hplain call (List.mem_append_right _ List.mem_cons_self))

/-! ## Surfacing -/

section
variable {n : Network τ ε} {c : Channel.Ref} {ops : List (Operation τ ε × Outcome τ ε)}

/-- A failure that is received was outstanding alone. -/
theorem eq_append_of_received (h : (n.channel c).Outstanding ops) (ht : (n.channel c).Tally ops)
    {s : Strand.Ref} {f : Failure ε} (hr : (n.receive c s).2 = .failed f) :
    failuresOf (submitted ops) = failuresOf (obtained ops) ++ [f] := by
  revert hr
  refine channel_receive (P := fun _ r => r = .failed f → _) s ?_ ?_ ?_
  · nofun
  · rintro g rest hq hone htake ⟨⟩
    exact (h.eq_append_of_take? ht hq hone htake).1
  · nofun

/-- Once nothing is queued, a failure that is outstanding alone is received. -/
theorem received_of_length_eq (h : (n.channel c).Outstanding ops) (ht : (n.channel c).Tally ops)
    (hq : (n.channel c).queue = [])
    (hone : (failuresOf (submitted ops)).length = (failuresOf (obtained ops)).length + 1)
    (s : Strand.Ref) : ∃ f, (n.receive c s).2 = .failed f := by
  have hlength := congrArg List.length (h.last (Nat.le_of_eq hone))
  rw [List.length_append] at hlength
  obtain ⟨f, hpending⟩ : ∃ f, (n.channel c).pending.failures = [f] :=
    List.length_eq_one_iff.1 (by omega)
  obtain ⟨rest, htake, -⟩ := Pending.take?_of_failures hpending
  have harrived : (n.channel c).arrived? = some (f, rest) := by
    rw [Channel.arrived?, if_pos (h.last_place_of_length_eq ht hq hone), htake]
  exact ⟨f, by simp only [receive, hq, harrived]⟩

/-- Nothing but a failure can be received from an empty queue. -/
theorem received_or_retry (hq : (n.channel c).queue = []) (s : Strand.Ref) :
    (∃ f, (n.receive c s).2 = .failed f) ∨ (n.receive c s).2 = .retry := by
  refine channel_receive (P := fun _ r => (∃ f, r = .failed f) ∨ r = .retry) s ?_ ?_ ?_
  · intro m rest hcons
    rw [hq] at hcons
    cases hcons
  · exact fun f _ _ _ _ => .inl ⟨f, rfl⟩
  · exact fun _ _ => .inr rfl

/-- Only an attempt to receive from a channel obtains a failure from it. -/
theorem failuresOf_obtained_exchange {call : Call τ ε}
    (h : ∀ s f, call = .operate c (.receive s) → (n.receive c s).2 ≠ .failed f) :
    failuresOf (obtained (operationsOn c [n.exchange call])) = [] := by
  by_cases hc : c ∈ call.channels
  · cases call with
    | operate x op =>
      obtain rfl : c = x := List.mem_singleton.1 hc
      rw [operationsOn_exchange_operate]
      cases op with
      | receive s =>
        have hno := fun f => h s f rfl
        change failuresOf (obtained [((.receive s, .received (n.receive c s).2) :
          Operation τ ε × Outcome τ ε)]) = []
        cases hr : (n.receive c s).2 with
        | failed f => exact absurd hr (hno f)
        | _ => rfl
      | _ => rfl
    | flushAll cs s d => rfl
    | _ => cases hc
  · rw [operationsOn_exchange_eq_nil n hc]
    rfl

end

/-- While two failures are outstanding, no failure is received any more. -/
theorem failures_stuck (calls later : List (Call τ ε)) (c : Channel.Ref)
    (hlen : (operationsOn c (({} : Network τ ε).history (calls ++ later))).length < UInt64.size)
    (hplain : ∀ call ∈ calls ++ later, call.Plain c)
    (htwo : (failuresOf (obtained (operationsOn c (({} : Network τ ε).history calls)))).length + 1 <
      (failuresOf (submitted (operationsOn c (({} : Network τ ε).history calls)))).length) :
    failuresOf (obtained
      (operationsOn c ((({} : Network τ ε).run calls).history later))) = [] := by
  induction later using List.reverseRecOn with
  | nil => rfl
  | append_singleton later call ih =>
    rw [← List.append_assoc, operationsOn_history_snoc, List.length_append] at hlen
    rw [← List.append_assoc] at hplain
    have hshort : (operationsOn c (({} : Network τ ε).history (calls ++ later))).length <
      UInt64.size := by omega
    have hbefore : ∀ x ∈ calls ++ later, x.Plain c :=
      fun x hx => hplain x (List.mem_append_left _ hx)
    have hnone := ih hshort hbefore
    have houtstanding := outstanding_run (calls ++ later) c hshort hbefore
    have htally := tally_run (calls ++ later) c hshort
    rw [operationsOn_history_snoc, obtained_append, failuresOf_append, hnone, List.nil_append,
      ← run_append]
    refine failuresOf_obtained_exchange fun s f _ hr => ?_
    have honly := congrArg List.length (eq_append_of_received houtstanding htally hr)
    -- The later calls have received no failure, and may have reported more of them.
    rw [operationsOn_history_append, submitted_append, obtained_append, failuresOf_append,
      failuresOf_append, hnone, List.append_nil, List.length_append, List.length_append,
      List.length_singleton] at honly
    omega

/-- While a channel is used to send, to fail and to receive, and nothing is queued: a pending
failure is received next exactly if no other failure of the sender is outstanding. If several are,
none of them will ever be received. -/
theorem received_iff_only_outstanding (calls : List (Call τ ε)) (c : Channel.Ref)
    (hlen : (operationsOn c (({} : Network τ ε).history calls)).length < UInt64.size)
    (hplain : ∀ call ∈ calls, call.Plain c)
    (hempty : ((({} : Network τ ε).run calls).channel c).queue = [])
    (hpending : ((({} : Network τ ε).run calls).channel c).hasPendingFailure = true) :
    let n := ({} : Network τ ε).run calls
    let reported := failuresOf (submitted (operationsOn c (({} : Network τ ε).history calls)))
    let got := failuresOf (obtained (operationsOn c (({} : Network τ ε).history calls)))
    got.length < reported.length ∧
      (∀ s f, (n.receive c s).2 = .failed f ↔ reported = got ++ [f]) ∧
      (∀ s, (n.receive c s).2 = .retry ↔ got.length + 1 < reported.length) ∧
      (got.length + 1 < reported.length → ∀ later, (∀ call ∈ later, call.Plain c) →
        (operationsOn c (({} : Network τ ε).history (calls ++ later))).length < UInt64.size →
          failuresOf (obtained (operationsOn c (n.history later))) = []) := by
  intro n reported got
  have h : (n.channel c).Outstanding (operationsOn c (({} : Network τ ε).history calls)) :=
    outstanding_run calls c hlen hplain
  have ht : (n.channel c).Tally (operationsOn c (({} : Network τ ε).history calls)) :=
    tally_run calls c hlen
  have hne : (n.channel c).pending.failures ≠ [] := by
    have hpending : (!(n.channel c).pending.isEmpty) = true := hpending
    rw [Pending.isEmpty_eq] at hpending
    simpa using hpending
  have hlt : got.length < reported.length := h.length_obtained_lt hne
  have hreceived : ∀ {s f}, (n.receive c s).2 = .failed f → reported = got ++ [f] :=
    eq_append_of_received h ht
  have hsurfaces : ∀ s, reported.length = got.length + 1 → ∃ f, (n.receive c s).2 = .failed f :=
    fun s hone => received_of_length_eq h ht hempty hone s
  refine ⟨hlt, fun s f => ⟨hreceived, fun honly => ?_⟩,
    fun s => ⟨fun hretry => ?_, fun hmany => ?_⟩, fun hmany later hlater hlong => ?_⟩
  · obtain ⟨g, hg⟩ := hsurfaces s (by rw [honly, List.length_append]; rfl)
    obtain rfl : f = g :=
      List.singleton_inj.1 (List.append_cancel_left (honly.symm.trans (hreceived hg)))
    exact hg
  · refine Nat.lt_of_le_of_ne hlt fun hone => ?_
    obtain ⟨f, hf⟩ := hsurfaces s hone.symm
    rw [hretry] at hf
    cases hf
  · refine (received_or_retry hempty s).resolve_left fun ⟨f, hf⟩ => ?_
    rw [hreceived hf, List.length_append] at hmany
    exact Nat.lt_irrefl _ hmany
  · exact failures_stuck calls later c hlong
      (fun x hx => (List.mem_append.1 hx).elim (hplain x) (hlater x)) hmany

/-- A second failure is received behind the value that was sent before it, since the first one was
received in time. -/
theorem received_iff_only_outstanding_second :
    let calls : List (Call Nat String) := [
      .createReadySet,
      .createStrand (some "tx") ⟨0⟩,
      .createStrand (some "rx") ⟨0⟩,
      .createChannel {},
      .operate ⟨0⟩ (.failSend (.error "lost")),
      .operate ⟨0⟩ (.receive ⟨1⟩),
      .operate ⟨0⟩ (.send 1 ⟨0⟩),
      .operate ⟨0⟩ (.failSend (.panic "gone")),
      .operate ⟨0⟩ (.receive ⟨1⟩)]
    let n := ({} : Network Nat String).run calls
    let ops := operationsOn ⟨0⟩ (({} : Network Nat String).history calls)
    ops.length < UInt64.size ∧ (∀ call ∈ calls, call.Plain ⟨0⟩) ∧
      (n.channel ⟨0⟩).queue = [] ∧ (n.channel ⟨0⟩).hasPendingFailure = true ∧
      failuresOf (submitted ops) = failuresOf (obtained ops) ++ [.panic "gone"] ∧
      (n.receive ⟨0⟩ ⟨1⟩).2 = .failed (.panic "gone") := by
  intro calls n ops
  have hlen : ops.length < UInt64.size := by decide
  have hplain : ∀ call ∈ calls, call.Plain ⟨0⟩ := by simp [calls, Call.Plain]
  have honly : failuresOf (submitted ops) = failuresOf (obtained ops) ++ [.panic "gone"] := by
    decide
  obtain ⟨-, hreceived, -, -⟩ := received_iff_only_outstanding calls ⟨0⟩ hlen hplain rfl rfl
  exact ⟨hlen, hplain, rfl, rfl, honly, (hreceived ⟨1⟩ (.panic "gone")).2 honly⟩

/-- The sender fails twice before the receiver asks. Nothing is queued and both failures are
pending, but the receiver is told to wait. -/
theorem failures_hidden :
    let calls : List (Call Nat String) := [
      .createReadySet,
      .createStrand (some "tx") ⟨0⟩,
      .createStrand (some "rx") ⟨0⟩,
      .createChannel {},
      .operate ⟨0⟩ (.failSend (.error "lost")),
      .operate ⟨0⟩ (.failSend (.panic "gone"))]
    let n := ({} : Network Nat String).run calls
    (n.channel ⟨0⟩).queue = [] ∧
      (n.channel ⟨0⟩).pending.failures = [.panic "gone", .error "lost"] ∧
      (n.receive ⟨0⟩ ⟨1⟩).2 = .retry := by
  decide

/-! ## Order -/

/-- A failure is received only once everything sent so far has been received. -/
theorem obtained_eq_of_failed (calls : List (Call τ ε)) (c : Channel.Ref) {s : Strand.Ref}
    {f : Failure ε} (hr : ((({} : Network τ ε).run calls).receive c s).2 = .failed f) :
    valuesOf (obtained (operationsOn c (({} : Network τ ε).history calls))) =
      valuesOf (submitted (operationsOn c (({} : Network τ ε).history calls))) := by
  have hempty : ((({} : Network τ ε).run calls).channel c).queue = [] := by
    cases hq : ((({} : Network τ ε).run calls).channel c).queue with
    | nil => rfl
    | cons m rest =>
      rw [receive_of_queue hq] at hr
      cases hr
  have hvalues := values_run calls c
  rw [Channel.values, hempty, List.map_nil, List.append_nil] at hvalues
  exact hvalues

/-- While something that was sent in time is not received, no later receive gets a failure. -/
theorem failures_wait (sent later : List (Call τ ε)) (c : Channel.Ref)
    (hwait : (valuesOf (obtained
      (operationsOn c (({} : Network τ ε).history (sent ++ later))))).length <
        sends (operationsOn c (({} : Network τ ε).history sent))) :
    failuresOf (obtained (operationsOn c ((({} : Network τ ε).run sent).history later))) = [] := by
  induction later using List.reverseRecOn with
  | nil => rfl
  | append_singleton later call ih =>
    rw [← List.append_assoc, operationsOn_history_snoc, obtained_append, valuesOf_append,
      List.length_append] at hwait
    rw [operationsOn_history_snoc, obtained_append, failuresOf_append, ih (by omega),
      List.nil_append, ← run_append]
    refine failuresOf_obtained_exchange fun s f _ hr => ?_
    have hall := congrArg List.length (obtained_eq_of_failed (sent ++ later) c hr)
    rw [length_valuesOf_submitted, operationsOn_history_append, sends_append,
      ← operationsOn_history_append] at hall
    omega

/-- Let a failure be reported, and a value sent later. Until the value is received, the receiver
gets that failure only if it got it before the value was sent; and the value comes as soon as
everything sent before it is received, also if the failure is still pending. A failure is received
only once everything sent so far is, wherever it was reported. -/
theorem failure_behind_values (before mid after : List (Call τ ε)) (c : Channel.Ref)
    (f : Failure ε) (v : τ) (s t : Strand.Ref) :
    let reported := before ++ [.operate c (.failSend f)]
    let sent := reported ++ mid ++ [.operate c (.send v s)]
    let n := ({} : Network τ ε).run (sent ++ after)
    let number := sends (operationsOn c (({} : Network τ ε).history (reported ++ mid)))
    let got := valuesOf (obtained (operationsOn c (({} : Network τ ε).history (sent ++ after))))
    let failures later := failuresOf (obtained
      (operationsOn c ((({} : Network τ ε).run reported).history later)))
    (got.length ≤ number →
        (f ∈ failures (mid ++ [.operate c (.send v s)] ++ after) ↔ f ∈ failures mid)) ∧
      (got.length = number → (n.receive c t).2 = .value v) ∧
      (∀ g, (n.receive c t).2 = .failed g → got =
        valuesOf (submitted (operationsOn c (({} : Network τ ε).history (sent ++ after))))) := by
  intro reported sent n number got failures
  have hsent : operationsOn c (({} : Network τ ε).history sent) =
      operationsOn c (({} : Network τ ε).history (reported ++ mid)) ++ [(.send v s, .done)] :=
    operationsOn_history_operate _ (reported ++ mid) c (.send v s)
  refine ⟨fun hle => ?_, fun heq => ?_, fun g hr => obtained_eq_of_failed (sent ++ after) c hr⟩
  · have hnone : failuresOf (obtained
        (operationsOn c ((({} : Network τ ε).run sent).history after))) = [] := by
      refine failures_wait sent after c ?_
      rw [hsent, sends, List.countP_append]
      exact Nat.lt_succ_of_le hle
    have hsplit : failures (mid ++ [.operate c (.send v s)] ++ after) = failures mid := by
      have hrun : (({} : Network τ ε).run reported).run (mid ++ [.operate c (.send v s)]) =
          ({} : Network τ ε).run sent := by
        rw [← run_append, ← List.append_assoc]
      change failuresOf _ = failuresOf _
      rw [operationsOn_history_append, obtained_append, failuresOf_append, hrun, hnone,
        List.append_nil, operationsOn_history_operate, obtained_append, failuresOf_append]
      exact List.append_nil _
    rw [hsplit]
  · have hvalues : got ++ (n.channel c).values = _ := values_run (sent ++ after) c
    rw [operationsOn_history_append, hsent, submitted_append, submitted_append,
      List.append_assoc, valuesOf_append] at hvalues
    have hnext : (n.channel c).values = v :: _ :=
      List.append_inj_right hvalues (heq.trans (length_valuesOf_submitted _).symm)
    obtain ⟨m, rest, hqueue, hm, -⟩ := List.map_eq_cons_iff.1 hnext
    rw [receive_of_queue hqueue, hm]

/-- A failure that was received before the value was sent comes before it. One that was not comes
behind it. -/
theorem failure_behind_values_both :
    let failed : Call Nat String := .operate ⟨0⟩ (.failSend (.error "lost"))
    let sent : Call Nat String := .operate ⟨0⟩ (.send 2 ⟨0⟩)
    let receive : Call Nat String := .operate ⟨0⟩ (.receive ⟨1⟩)
    let before := [
      .createReadySet,
      .createStrand (some "tx") ⟨0⟩,
      .createStrand (some "rx") ⟨0⟩,
      .createChannel {},
      .operate ⟨0⟩ (.send 1 ⟨0⟩)]
    let after calls := ({} : Network Nat String).run (before ++ [failed] ++ calls)
    let failures calls := failuresOf (obtained (operationsOn ⟨0⟩ ((after []).history calls)))
    (.error "lost" ∈ failures [receive, receive, sent] ∧
        ((after [receive, receive, sent]).receive ⟨0⟩ ⟨1⟩).2 = .value 2) ∧
      (.error "lost" ∉ failures [sent, receive] ∧
        ((after [sent, receive]).receive ⟨0⟩ ⟨1⟩).2 = .value 2) ∧
      ((after [sent, receive, receive]).receive ⟨0⟩ ⟨1⟩).2 = .failed (.error "lost") ∧
      valuesOf (obtained (operationsOn ⟨0⟩ (({} : Network Nat String).history
        (before ++ [failed, sent, receive, receive])))) = [1, 2] := by
  intro failed sent receive before after failures
  obtain ⟨hin, hearly, -⟩ :=
    failure_behind_values before [receive, receive] [] ⟨0⟩ (.error "lost") 2 ⟨0⟩ ⟨1⟩
  obtain ⟨hout, hlate, -⟩ :=
    failure_behind_values before [] [receive] ⟨0⟩ (.error "lost") 2 ⟨0⟩ ⟨1⟩
  obtain ⟨-, -, hlast⟩ :=
    failure_behind_values before [] [receive, receive] ⟨0⟩ (.error "lost") 2 ⟨0⟩ ⟨1⟩
  refine ⟨⟨(hin (Nat.le_refl 1)).2 (by decide), hearly rfl⟩,
    ⟨fun h => ?_, hlate rfl⟩, rfl, hlast (.error "lost") rfl⟩
  have hnone : Failure.error "lost" ∈ failures [] := (hout (Nat.le_refl 1)).1 h
  exact absurd hnone List.not_mem_nil

/-- The sender fails and sends on. The receiver gets the value first, and the failure is pending
all the while. -/
theorem value_overtakes_failure :
    let calls : List (Call Nat String) := [
      .createReadySet,
      .createStrand (some "tx") ⟨0⟩,
      .createStrand (some "rx") ⟨0⟩,
      .createChannel {},
      .operate ⟨0⟩ (.failSend (.error "lost")),
      .operate ⟨0⟩ (.send 1 ⟨0⟩)]
    let n := ({} : Network Nat String).run calls
    (n.channel ⟨0⟩).pending.failures = [.error "lost"] ∧
      (n.receive ⟨0⟩ ⟨1⟩).2 = .value 1 ∧
      ((n.receive ⟨0⟩ ⟨1⟩).1.channel ⟨0⟩).pending.failures = [.error "lost"] := by
  decide

end Network

end Rendezvous
