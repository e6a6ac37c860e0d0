import Rendezvous.Proofs.Parking

/-!
# What a drained channel means

A flush tells its coordinator that the channel has drained: at once, or through the attempt to
receive that consumes the last place before the flush. The coordinator takes it that every value
sent before the flush was received.

* **Who tells** (`Network.Tells`): the operations after which a coordinator has been told, and no
  others (`coordinator_operate`).
* **While a sender flushes** (`consumes_nothing`), no place is consumed but those of values.
* **Soundness** (`flush_sound`): the values sent before the flush were received, exactly if no more
  failures had consumed a place by then than failures of the sender had taken one. A receiver that
  fails on an idle channel breaks this (`told_before_received`).
-/

namespace Rendezvous

variable {τ ε : Type}

namespace Network

open Moves (anything anything_intro)

variable {n : Network τ ε} {c : Channel.Ref} {ops : List (Operation τ ε × Outcome τ ε)}

/-! ## Who tells -/

/-- Whether an operation tells the coordinator that the channel has drained. -/
def Tells (n : Network τ ε) (c : Channel.Ref) (k : Coordinator.Ref) : Operation τ ε → Prop
  | .flush _ _ j => (n.channel c).pending.take? = none ∧ (n.channel c).isDrained = true ∧ k = j
  | .receive _ => (n.channel c).queue ≠ [] ∧ ∃ p, (n.channel c).flushSender = some p ∧
      p.threshold = (n.channel c).recvCount + 1 ∧ k = p.coordinator
  | _ => False

theorem coordinator_noteDrained (k : Coordinator.Ref) : (n.noteDrained c).coordinator k =
    match (n.channel c).drainedSender? with
    | none => n.coordinator k
    | some p => if k = p.coordinator then (n.coordinator k).note c.id else n.coordinator k := by
  unfold noteDrained
  cases (n.channel c).drainedSender? with
  | none => rfl
  | some p =>
    simp only [coordinator_notifyDrained, coordinator_emit, coordinator_updateChannel]
    split
    · rename_i hk
      rw [hk]
    · rfl

theorem coordinator_receive (s : Strand.Ref) (k : Coordinator.Ref) :
    (n.Tells c k (.receive s) → (n.receive c s).1.coordinator k = (n.coordinator k).note c.id) ∧
      (¬ n.Tells c k (.receive s) → (n.receive c s).1.coordinator k = n.coordinator k) := by
  unfold receive
  split
  · rename_i m rest hq
    have hdrained : ((n.takeMessage c s m rest).channel c).drainedSender? =
        (n.channel c).flushSender.filter (·.threshold == (n.channel c).recvCount + 1) := by
      rw [channel_takeMessage, if_pos rfl]
      rfl
    rw [receiveMessage_eq, coordinator_noteDrained, hdrained, coordinator_takeMessage]
    refine ⟨?_, fun hno => ?_⟩
    · rintro ⟨-, p, hp, hlast, rfl⟩
      simp [hp, hlast, Option.filter_some]
    · cases hp : (n.channel c).flushSender.filter (·.threshold == (n.channel c).recvCount + 1) with
      | none => rfl
      | some p =>
        obtain ⟨hp, hlast⟩ := Option.filter_eq_some_iff.1 hp
        refine if_neg fun hk => hno ⟨?_, p, hp, beq_iff_eq.1 hlast, hk⟩
        rw [hq]
        exact List.cons_ne_nil m rest
  · rename_i hq
    refine ⟨fun htold => absurd hq htold.1, fun _ => ?_⟩
    split
    · rfl
    · unfold parkReceiver
      rw [coordinator_emit, coordinator_updateChannel, coordinator_suspend]
      split
      · rfl
      · split <;> rfl

/-- An operation tells a coordinator, or leaves it as it is. -/
theorem coordinator_operate (op : Operation τ ε) (k : Coordinator.Ref) :
    (n.Tells c k op → (n.operate c op).1.coordinator k = (n.coordinator k).note c.id) ∧
      (¬ n.Tells c k op → (n.operate c op).1.coordinator k = n.coordinator k) := by
  have hn : Moves.Free n n := .refl
  have both : ∀ p : Party, anything p.strand ∧ anything p.slot :=
    fun p => ⟨anything_intro p.strand, anything_intro p.slot⟩
  cases op with
  | receive s => exact coordinator_receive s k
  | flush s d j =>
    change (_ → (n.flush c s d j).1.coordinator k = _) ∧ (_ → (n.flush c s d j).1.coordinator k = _)
    rw [coordinator_flush]
    refine ⟨?_, fun hno => if_neg hno⟩
    rintro ⟨hp, hd, rfl⟩
    exact if_pos ⟨hp, hd, rfl⟩
  | send value s =>
    exact ⟨nofun, fun _ => (hn.send (anything_intro c) value s
      fun t _ => anything_intro t).coordinator id⟩
  | syncSend value s d =>
    exact ⟨nofun, fun _ => (hn.syncSend (anything_intro c) value (anything_intro s)
      (anything_intro d) fun t _ => anything_intro t).coordinator id⟩
  | failSend f =>
    exact ⟨nofun, fun _ => (hn.failSend (anything_intro c) f
      fun t _ => anything_intro t).coordinator id⟩
  | failReceive f =>
    have hmoves : Moves.Free n (n.failReceive c f) :=
      .failReceive (anything_intro c) f (fun p _ _ => both p.toParty) fun p _ _ => both p
    exact ⟨nofun, fun _ => hmoves.coordinator id⟩

/-! ## While a sender flushes -/

/-- A call that leaves a flushing sender registered receives no failure, and reports none of the
receiving worker. -/
theorem failuresConsumed_exchange_eq_zero {p : FlushParty} {call : Call τ ε}
    (h : (n.channel c).Parties ops) (ht : (n.channel c).Tally ops)
    (hp : (n.channel c).flushSender = some p)
    (hp' : ((n.perform call).1.channel c).flushSender = some p) :
    failuresConsumed (operationsOn c [n.exchange call]) = 0 := by
  by_cases hc : c ∈ call.channels
  · cases call with
    | operate x op =>
      obtain rfl : c = x := List.mem_singleton.1 hc
      rw [operationsOn_exchange_operate]
      cases op with
      | receive s =>
        refine channel_receive (P := fun _ r => failuresConsumed
          [((.receive s, .received r) : Operation τ ε × Outcome τ ε)] = 0) s ?_ ?_ ?_
        · exact fun _ _ _ => rfl
        · intro f pending hq hone htake
          rw [h.not_arrived ht hq hp hone] at htake
          cases htake
        · exact fun _ _ => rfl
      | failReceive f =>
        have hgone : ((n.failReceive c f).channel c).flushSender = none :=
          channel_failReceive (P := fun b => b.flushSender = none) f rfl rfl rfl
        rw [show ((n.failReceive c f).channel c).flushSender = some p from hp'] at hgone
        cases hgone
      | _ => rfl
    | flushAll cs s d => rfl
    | _ => cases hc
  · rw [operationsOn_exchange_eq_nil n hc]
    rfl

/-- While a flushing sender stays registered, only values consume places. -/
theorem consumes_nothing {p : FlushParty} (before mid : List (Call τ ε))
    (hlen : (operationsOn c (({} : Network τ ε).history (before ++ mid))).length < UInt64.size)
    (hp : ∀ a, a <+: mid →
      ((({} : Network τ ε).run (before ++ a)).channel c).flushSender = some p) :
    failuresConsumed (operationsOn c (({} : Network τ ε).history (before ++ mid))) =
      failuresConsumed (operationsOn c (({} : Network τ ε).history before)) := by
  induction mid using List.reverseRecOn with
  | nil => rw [List.append_nil]
  | append_singleton mid call ih =>
    have hops : operationsOn c (({} : Network τ ε).history (before ++ (mid ++ [call]))) =
        operationsOn c (({} : Network τ ε).history (before ++ mid)) ++
          operationsOn c [(({} : Network τ ε).run (before ++ mid)).exchange call] := by
      rw [← List.append_assoc, operationsOn_history_snoc]
    rw [hops, List.length_append] at hlen
    have hshort : (operationsOn c (({} : Network τ ε).history (before ++ mid))).length <
      UInt64.size := by omega
    have hafter := hp (mid ++ [call]) (List.prefix_refl _)
    rw [← List.append_assoc, run_append] at hafter
    rw [hops, failuresConsumed_append, failuresConsumed_exchange_eq_zero
      (parties_run (before ++ mid) c hshort) (tally_run (before ++ mid) c hshort)
      (hp mid (List.prefix_append ..)) hafter, Nat.add_zero]
    exact ih hshort fun a ha => hp a (ha.trans (List.prefix_append ..))

/-! ## Soundness -/

/-- On a drained channel nothing is queued, unless more failures have consumed a place than failures
of the sender have taken one. -/
theorem obtained_eq_of_isDrained {channel : Channel τ ε} (ht : channel.Tally ops)
    (hd : channel.isDrained = true) (hle : failuresConsumed ops ≤ sendFailures ops) :
    valuesOf (obtained ops) = valuesOf (submitted ops) := by
  have hgap := ht.gap
  have hd : channel.sendCount.toNat ≤ channel.recvCount.toNat :=
    UInt64.le_iff_toNat_le.1 (of_decide_eq_true hd)
  have hq : channel.queue = [] := List.length_eq_zero_iff.1 (by
    change channel.size = 0
    omega)
  have hvalues := ht.values
  rw [Channel.values, hq, List.map_nil, List.append_nil] at hvalues
  exact hvalues

/-- The attempt to receive that tells the coordinator of a flushing sender gets the value whose
place that sender has waited for. -/
theorem obtained_of_tells (calls : List (Call τ ε)) {c : Channel.Ref} {k : Coordinator.Ref}
    {t : Strand.Ref}
    (hlen : (operationsOn c (({} : Network τ ε).history calls)).length < UInt64.size)
    (htold : (({} : Network τ ε).run calls).Tells c k (.receive t)) :
    let n := ({} : Network τ ε).run calls
    let ops := operationsOn c (({} : Network τ ε).history calls)
    let got := valuesOf (obtained (operationsOn c
      (({} : Network τ ε).history (calls ++ [.operate c (.receive t)]))))
    got <+: valuesOf (submitted ops) ∧
      ∃ p, (n.channel c).flushSender = some p ∧
        got.length + failuresConsumed ops = p.threshold.toNat := by
  intro n ops got
  obtain ⟨hq, p, hp, hlast, -⟩ := htold
  obtain ⟨m, rest, hq⟩ := List.exists_cons_of_ne_nil hq
  have ht : (n.channel c).Tally ops := tally_run calls c hlen
  have hgot : got = valuesOf (obtained ops) ++ [m.value] := by
    have hreceived : (n.operate c (.receive t)).2 = .received (.value m.value) :=
      congrArg Prod.snd (operate_receive_of_queue hq t)
    have hops : operationsOn c (({} : Network τ ε).history (calls ++ [.operate c (.receive t)])) =
        ops ++ [(.receive t, .received (.value m.value))] := by
      rw [operationsOn_history_operate, hreceived]
    change valuesOf (obtained (operationsOn c _)) = _
    rw [hops, obtained_append, valuesOf_append]
    rfl
  refine ⟨?_, p, hp, ?_⟩
  · rw [hgot, ← ht.values, Channel.values, hq]
    exact ⟨rest.map (·.value), by simp⟩
  · have hsucc : ((n.channel c).recvCount + 1).toNat = (n.channel c).recvCount.toNat + 1 :=
      (parties_run calls c hlen).toNat_recvCount_succ hp
    have hrecv := ht.recvCount
    rw [hgot, hlast, hsucc, List.length_append, List.length_singleton]
    omega

/-- When a flush tells its coordinator that the channel has drained, the values that were sent
before the flush have been received, as long as by the time of the flush no more failures had
consumed a place than failures of the sender had taken one. If the flush had to wait, this is
exactly the condition under which they have. -/
theorem flush_sound (before mid : List (Call τ ε)) (c : Channel.Ref) (s t : Strand.Ref)
    (d : Slot.Ref) (k : Coordinator.Ref)
    (hlen : (operationsOn c (({} : Network τ ε).history
      (before ++ .operate c (.flush s d k) :: mid))).length < UInt64.size) :
    let n := ({} : Network τ ε).run before
    let m := (n.flush c s d k).1
    let ops := operationsOn c (({} : Network τ ε).history before)
    let after := operationsOn c (({} : Network τ ε).history
      (before ++ .operate c (.flush s d k) :: mid ++ [.operate c (.receive t)]))
    (n.Tells c k (.flush s d k) → failuresConsumed ops ≤ sendFailures ops →
      valuesOf (obtained ops) = valuesOf (submitted ops)) ∧
    ((∀ a, a <+: mid →
        ((m.run a).channel c).flushSender = some ⟨⟨s, d⟩, (n.channel c).sendCount, k⟩) →
      (m.run mid).Tells c k (.receive t) →
        (valuesOf (submitted ops) <+: valuesOf (obtained after) ↔
          failuresConsumed ops ≤ sendFailures ops)) := by
  intro n m ops after
  have hbefore : ops.length < UInt64.size := by
    rw [history_append, operationsOn_append, List.length_append] at hlen
    exact Nat.lt_of_le_of_lt (Nat.le_add_right ..) hlen
  have ht : (n.channel c).Tally ops := tally_run before c hbefore
  refine ⟨fun htold hle => obtained_eq_of_isDrained ht htold.2.1 hle, fun hwaits htold => ?_⟩
  have hflush : operationsOn c (({} : Network τ ε).history
      (before ++ [.operate c (.flush s d k)])) =
        ops ++ [(.flush s d k, .completed (n.flush c s d k).2)] := by
    rw [history_append, history_cons, history_nil, operationsOn_append,
      operationsOn_exchange_operate]
    rfl
  have hcalls : before ++ .operate c (.flush s d k) :: mid =
      (before ++ [.operate c (.flush s d k)]) ++ mid := by simp
  have hrun : ∀ a, ({} : Network τ ε).run ((before ++ [.operate c (.flush s d k)]) ++ a) =
      m.run a := by
    intro a
    rw [run_append, run_append]
    rfl
  rw [hcalls] at hlen
  rw [← hrun] at htold
  obtain ⟨hgot, p, hp, hplace⟩ := obtained_of_tells _ hlen htold
  have hp : p = ⟨⟨s, d⟩, (n.channel c).sendCount, k⟩ := by
    rw [hrun, hwaits mid (List.prefix_refl mid)] at hp
    exact (Option.some.inj hp).symm
  have hconsumed := consumes_nothing _ mid hlen fun a ha => by
    rw [hrun]
    exact hwaits a ha
  rw [hconsumed, hflush, failuresConsumed_append, hp] at hplace
  have hplace : (valuesOf (obtained after)).length + failuresConsumed ops =
      (n.channel c).sendCount.toNat := by
    rw [← hplace]
    change _ = (valuesOf (obtained (operationsOn c _))).length + (failuresConsumed ops + 0)
    rw [← hcalls, Nat.add_zero]
  have hsent : valuesOf (submitted ops) <+: valuesOf (submitted (operationsOn c
      (({} : Network τ ε).history ((before ++ [.operate c (.flush s d k)]) ++ mid)))) := by
    rw [← hcalls, history_append, operationsOn_append, submitted_append, valuesOf_append]
    exact List.prefix_append ..
  -- Both are initial parts of what was sent in all, so only their lengths matter.
  have hsend := ht.sendCount
  have hlength := length_valuesOf_submitted ops
  constructor
  · intro hprefix
    have hle := hprefix.length_le
    omega
  · intro hle
    refine List.prefix_of_prefix_length_le hsent ?_ (by omega)
    change valuesOf (obtained (operationsOn c _)) <+: _
    rw [hcalls]
    exact hgot

/-- The receiver of the failure that came first then gets the value that was flushed, and not the
one after it. -/
theorem flush_sound_later :
    let before : List (Call Nat String) := [
      .createReadySet,
      .createStrand (some "tx") ⟨0⟩,
      .createStrand (some "rx") ⟨0⟩,
      .createStrand (some "other") ⟨0⟩,
      .createSlot,
      .createDrainLog,
      .createChannel {},
      .operate ⟨0⟩ (.failSend (.error "gone")),
      .operate ⟨0⟩ (.receive ⟨1⟩),
      .operate ⟨0⟩ (.send 1 ⟨0⟩)]
    let mid : List (Call Nat String) := [.operate ⟨0⟩ (.send 2 ⟨2⟩)]
    let m := ((({} : Network Nat String).run before).flush ⟨0⟩ ⟨0⟩ ⟨0⟩ ⟨0⟩).1
    let ops := operationsOn ⟨0⟩ (({} : Network Nat String).history before)
    let after := operationsOn ⟨0⟩ (({} : Network Nat String).history
      (before ++ .operate ⟨0⟩ (.flush ⟨0⟩ ⟨0⟩ ⟨0⟩) :: mid ++ [.operate ⟨0⟩ (.receive ⟨1⟩)]))
    (m.run mid).Tells ⟨0⟩ ⟨0⟩ (.receive ⟨1⟩) ∧ valuesOf (submitted ops) = [1] ∧
      valuesOf (submitted ops) <+: valuesOf (obtained after) := by
  intro before mid m ops after
  have htold : (m.run mid).Tells ⟨0⟩ ⟨0⟩ (.receive ⟨1⟩) :=
    ⟨nofun, _, rfl, rfl, rfl⟩
  refine ⟨htold, rfl, ?_⟩
  obtain ⟨-, hlater⟩ := flush_sound before mid ⟨0⟩ ⟨0⟩ ⟨1⟩ ⟨0⟩ ⟨0⟩ (by decide)
  refine (hlater (fun a ha => ?_) htold).2 (by decide)
  rcases List.prefix_cons_iff.1 ha with rfl | ⟨b, rfl, hb⟩
  · rfl
  · rw [List.prefix_nil.1 hb]
    rfl

/-- The receiving worker fails on an idle channel, and consumes a place that nothing has taken. The
next value takes it, and a flush finds the channel drained although the value is still queued. -/
theorem told_before_received :
    let before : List (Call Nat String) := [
      .createReadySet,
      .createStrand (some "tx") ⟨0⟩,
      .createStrand (some "rx") ⟨0⟩,
      .createSlot,
      .createDrainLog,
      .createChannel {},
      .operate ⟨0⟩ (.failReceive (.error "lost")),
      .operate ⟨0⟩ (.send 1 ⟨0⟩)]
    let n := ({} : Network Nat String).run before
    let ops := operationsOn ⟨0⟩ (({} : Network Nat String).history before)
    (n.flush ⟨0⟩ ⟨0⟩ ⟨0⟩ ⟨0⟩).1.coordinator ⟨0⟩ = .drainLog [Channel.Ref.id ⟨0⟩] ∧
      n.Tells ⟨0⟩ ⟨0⟩ (.flush ⟨0⟩ ⟨0⟩ ⟨0⟩) ∧
        valuesOf (submitted ops) = [1] ∧ valuesOf (obtained ops) = [] := by
  intro before n ops
  exact ⟨by decide, ⟨rfl, rfl, rfl⟩, rfl, rfl⟩

end Network

end Rendezvous
