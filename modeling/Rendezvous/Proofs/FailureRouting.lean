import Rendezvous.Proofs.ParkedReceiver
import Rendezvous.Proofs.Stream
import Rendezvous.Proofs.SyncMessages

/-!
# Where the failure of a receiving worker goes

It goes to one place, whoever is registered with the channel: to the sender that flushes, or else to
the sender that waits for its value, or else to the channel itself, which keeps it or gives it up.

* **Reaching a sender** (`Network.Reaches`): the slot of one sender holds the failure, and that one
  is woken. Nobody else notices (`Network.Untouched`).
* **Candidates** (`failFlushSender_open`, `failFlushSender_stale`, …): a candidate takes the failure
  if its slot is unresolved, and otherwise hands back the failure that it was offered.
* **The route** (`failReceive_routed`).
-/

namespace Rendezvous.Network

variable {τ ε : Type} {n l m : Network τ ε} {c : Channel.Ref} {f : Failure ε}

/-! ## Reaching a sender -/

/-- Neither a slot nor a strand nor a ready set has changed, and nobody tried to wake a strand. -/
structure Untouched (n m : Network τ ε) : Prop where
  slots : m.slots = n.slots
  strands : m.strands = n.strands
  readySets : m.readySets = n.readySets
  attempts : m.attempts = n.attempts

/-- The failure has been delivered to the slot of `p`, and the strand of `p` has been woken. No
other slot has changed, and nobody tried to wake another strand. -/
structure Reaches (n : Network τ ε) (p : Party) (f : Failure ε) (m : Network τ ε) : Prop where
  slot : ∀ d, m.slot d = if d = p.slot then .filled (.failed f) else n.slot d
  wakes : n.WakesOnly p.strand m

namespace Untouched

theorem refl (n : Network τ ε) : n.Untouched n := ⟨rfl, rfl, rfl, rfl⟩

theorem trans (hl : n.Untouched l) (hm : l.Untouched m) : n.Untouched m where
  slots := hm.slots.trans hl.slots
  strands := hm.strands.trans hl.strands
  readySets := hm.readySets.trans hl.readySets
  attempts := hm.attempts.trans hl.attempts

theorem emit (h : n.Untouched m) {e : Event} (he : e.attempt? = none) : n.Untouched (m.emit e) :=
  h.trans ⟨rfl, rfl, rfl, attempts_emit m he⟩

theorem updateChannel (h : n.Untouched m) (c : Channel.Ref) (g : Channel τ ε → Channel τ ε) :
    n.Untouched (m.updateChannel c g) := h.trans ⟨rfl, rfl, rfl, rfl⟩

theorem slot (h : n.Untouched m) (d : Slot.Ref) : m.slot d = n.slot d := by
  rw [Network.slot, h.slots]

theorem storeFailure (h : n.Untouched m) (c : Channel.Ref) (f : Failure ε) :
    n.Untouched (m.storeFailure c f) := by
  unfold Network.storeFailure
  dsimp only
  split
  · exact (h.updateChannel c _).emit rfl
  · exact h.updateChannel c _

theorem retainFailure (h : n.Untouched m) (c : Channel.Ref) (f : Failure ε) :
    n.Untouched (m.retainFailure c f) := by
  unfold Network.retainFailure
  split
  · exact (h.emit rfl).storeFailure c f
  · exact h.emit rfl

theorem countReceiveFailure (n : Network τ ε) (c : Channel.Ref) (f : Failure ε) :
    n.Untouched (n.countReceiveFailure c f) := ((refl n).updateChannel c _).emit rfl

end Untouched

namespace Reaches

variable {p : Party}

/-- Nothing was touched before. -/
theorem after (h : l.Reaches p f m) (hl : n.Untouched l) : n.Reaches p f m where
  slot d := by rw [h.slot, hl.slot]
  wakes := by
    have hstrands : ∀ t, l.strand t = n.strand t := fun t => by rw [strand, hl.strands]
    obtain ⟨hs, hr⟩ := wake_congr hl.strands hl.readySets p.strand
    refine ⟨?_, h.wakes.strands.trans hs, h.wakes.readySets.trans hr⟩
    rw [h.wakes.attempts, hl.attempts, strandTag, strandTag, hstrands]

/-- Nothing is touched afterwards. -/
theorem before (h : n.Reaches p f l) (hm : l.Untouched m) : n.Reaches p f m where
  slot d := by rw [hm.slot, h.slot]
  wakes := ⟨hm.attempts.trans h.wakes.attempts, hm.strands.trans h.wakes.strands,
    hm.readySets.trans h.wakes.readySets⟩

/-- An unresolved slot takes the failure, which reaches its sender. -/
theorem deliver (hl : n.Untouched l) (ho : (n.slot p.slot).isResolved = false) (f : Failure ε) :
    ∃ m, l.deliver p (.failed f) = (m, none) ∧ n.Reaches p f m := by
  rw [← hl.slot] at ho
  obtain ⟨hs, hr⟩ := wake_congr (n := l) (m := l.setSlot p.slot (.filled (.failed f))) rfl rfl
    p.strand
  have hreach : l.Reaches p f ((l.setSlot p.slot (.filled (.failed f))).wake p.strand) :=
    ⟨fun d => by rw [slot_wake, slot_setSlot], attempts_wake _ _, hs, hr⟩
  exact ⟨_, deliver_open _ ho, hreach.after hl⟩

end Reaches

/-! ## Candidates -/

/-- What a sender hands back is the failure that it was offered. -/
theorem failure?_of_deliver {p : Party} {r : Resolution ε}
    (h : (n.deliver p (.failed f)).2 = some r) : r.failure? = some f := by
  cases ho : (n.slot p.slot).isResolved with
  | true =>
    rw [deliver_resolved _ ho] at h
    obtain rfl := Option.some.inj h
    rfl
  | false =>
    rw [deliver_open _ ho] at h
    cases h

/-- A resolved slot hands the failure back. -/
theorem Untouched.deliver {p : Party} (hl : n.Untouched l)
    (ho : (n.slot p.slot).isResolved = true) (f : Failure ε) :
    ∃ m, l.deliver p (.failed f) = (m, some (.failed f)) ∧ n.Untouched m := by
  rw [← hl.slot] at ho
  exact ⟨_, deliver_resolved _ ho, hl.emit rfl⟩

/-- A flushing sender takes the failure if its flush goes on. -/
theorem failFlushSender_open {q : FlushParty} (hq : (n.channel c).flushSender = some q)
    (ho : (n.slot q.slot).isResolved = false) (f : Failure ε) :
    ∃ m, n.failFlushSender c f = (m, none) ∧ n.Reaches q.toParty f m := by
  obtain ⟨m, hm, hreach⟩ := Reaches.deliver (p := q.toParty)
    ((Untouched.refl n).updateChannel c fun channel => { channel with flushSender := none }) ho f
  simp only [failFlushSender, hq]
  rw [hm]
  exact ⟨_, rfl, hreach.before ((Untouched.refl m).emit rfl)⟩

/-- Otherwise the failure goes on as it is, and the other candidate is still registered. -/
theorem failFlushSender_stale
    (hstale : ∀ q, (n.channel c).flushSender = some q → (n.slot q.slot).isResolved = true)
    (f : Failure ε) : ∃ m, n.failFlushSender c f = (m, some f) ∧ n.Untouched m ∧
      (m.channel c).syncSender = (n.channel c).syncSender := by
  have hchannel := channel_failFlushSender n c c f
  rw [if_pos rfl] at hchannel
  have hparty : ((n.failFlushSender c f).1.channel c).syncSender =
      (n.channel c).syncSender := by rw [hchannel]
  cases hq : (n.channel c).flushSender with
  | none =>
    simp only [failFlushSender, hq]
    exact ⟨n, rfl, .refl n, rfl⟩
  | some q =>
    obtain ⟨m, hm, huntouched⟩ := Untouched.deliver (p := q.toParty)
      ((Untouched.refl n).updateChannel c fun channel => { channel with flushSender := none })
      (hstale q hq) f
    simp only [failFlushSender, hq] at hparty ⊢
    rw [hm] at hparty ⊢
    exact ⟨_, rfl, huntouched.emit rfl, hparty⟩

/-- A sender that waits for its value takes the failure. -/
theorem failSyncSender_open {p : Party} (hp : (n.channel c).syncSender = some p)
    (ho : (n.slot p.slot).isResolved = false) (f : Failure ε) :
    ∃ m, n.failSyncSender c f = (m, none) ∧ n.Reaches p f m := by
  obtain ⟨m, hm, hreach⟩ := Reaches.deliver (p := p)
    ((Untouched.refl n).updateChannel c fun channel => { channel with syncSender := none }) ho f
  simp only [failSyncSender, hp]
  rw [hm]
  exact ⟨_, rfl, hreach.before (((Untouched.refl m).emit rfl).updateChannel c _)⟩

/-- Otherwise the failure goes on as it is. -/
theorem failSyncSender_stale
    (hstale : ∀ p, (n.channel c).syncSender = some p → (n.slot p.slot).isResolved = true)
    (f : Failure ε) : ∃ m, n.failSyncSender c f = (m, some f) ∧ n.Untouched m := by
  cases hp : (n.channel c).syncSender with
  | none =>
    simp only [failSyncSender, hp]
    exact ⟨n, rfl, .refl n⟩
  | some p =>
    obtain ⟨m, hm, huntouched⟩ := Untouched.deliver (p := p)
      ((Untouched.refl n).updateChannel c fun channel => { channel with syncSender := none })
      (hstale p hp) f
    simp only [failSyncSender, hp]
    rw [hm]
    exact ⟨m, rfl, huntouched⟩

/-! ## The route -/

/-- The failure consumes a place before it goes anywhere. -/
theorem failReceive_eq (n : Network τ ε) (c : Channel.Ref) (f : Failure ε) :
    n.failReceive c f = match (n.countReceiveFailure c f).failFlushSender c f with
      | (m, none) => m
      | (m, some g) => match m.failSyncSender c g with
        | (l, none) => l
        | (l, some g) => l.retainFailure c g := rfl

/-- The candidates, before the failure goes anywhere. -/
theorem candidates_countReceiveFailure (n : Network τ ε) (c : Channel.Ref) (f : Failure ε) :
    ((n.countReceiveFailure c f).channel c).flushSender = (n.channel c).flushSender ∧
      ((n.countReceiveFailure c f).channel c).syncSender = (n.channel c).syncSender := by
  rw [channel_countReceiveFailure, if_pos rfl]
  exact ⟨rfl, rfl⟩

theorem reaches_flushSender {q : FlushParty} (hq : (n.channel c).flushSender = some q)
    (ho : (n.slot q.slot).isResolved = false) (f : Failure ε) :
    n.Reaches q.toParty f (n.failReceive c f) := by
  obtain ⟨hflush, -⟩ := n.candidates_countReceiveFailure c f
  obtain ⟨m, hm, hreach⟩ := failFlushSender_open (hflush.trans hq) ho f
  rw [failReceive_eq, hm]
  exact hreach.after (.countReceiveFailure n c f)

theorem reaches_syncSender
    (hstale : ∀ q, (n.channel c).flushSender = some q → (n.slot q.slot).isResolved = true)
    {p : Party} (hp : (n.channel c).syncSender = some p)
    (ho : (n.slot p.slot).isResolved = false) (f : Failure ε) :
    n.Reaches p f (n.failReceive c f) := by
  obtain ⟨hflush, hsync⟩ := n.candidates_countReceiveFailure c f
  obtain ⟨m, hm, huntouched, hparty⟩ := failFlushSender_stale (hflush.symm ▸ hstale) f
  obtain ⟨l, hl, hreach⟩ := failSyncSender_open ((hparty.trans hsync).trans hp)
    (huntouched.slot _ ▸ ho) f
  rw [failReceive_eq, hm]
  dsimp only
  rw [hl]
  exact hreach.after ((Untouched.countReceiveFailure n c f).trans huntouched)

theorem untouched_failReceive
    (hflushing : ∀ q, (n.channel c).flushSender = some q → (n.slot q.slot).isResolved = true)
    (hwaiting : ∀ p, (n.channel c).syncSender = some p → (n.slot p.slot).isResolved = true)
    (f : Failure ε) : n.Untouched (n.failReceive c f) := by
  obtain ⟨hflush, hsync⟩ := n.candidates_countReceiveFailure c f
  obtain ⟨m, hm, huntouched, hparty⟩ := failFlushSender_stale (hflush.symm ▸ hflushing) f
  obtain ⟨l, hl, huntouched'⟩ := failSyncSender_stale (n := m) (c := c) (fun p hp => by
    rw [huntouched.slot]
    exact hwaiting p (by rw [← hp, hparty, hsync])) f
  rw [failReceive_eq, hm]
  dsimp only
  rw [hl]
  exact (((Untouched.countReceiveFailure n c f).trans huntouched).trans
    huntouched').retainFailure c f

/-- If nobody waits for a queued value, there is nobody to release. -/
theorem queue_releaseSync_of_unmarked {channel : Channel τ ε}
    (h : ∀ x ∈ channel.queue, x.sync = false) : channel.releaseSync.queue = channel.queue := by
  have hfirst : ∀ l : List (Message τ), (∀ x ∈ l, x.sync = false) →
      Channel.releaseFirst l = l := by
    intro l hl
    induction l with
    | nil => rfl
    | cons x l ih =>
      have hx : x.sync = false := hl x List.mem_cons_self
      rw [Channel.releaseFirst, if_neg (by simp [hx]),
        ih fun y hy => hl y (List.mem_cons_of_mem x hy)]
  rw [Channel.releaseSync, hfirst _ fun x hx => h x (List.mem_reverse.1 hx),
    List.reverse_reverse]

theorem channel_of_flushSender {q : FlushParty} (hq : (n.channel c).flushSender = some q)
    (ho : (n.slot q.slot).isResolved = false) (f : Failure ε) : (n.failReceive c f).channel c =
      { n.channel c with recvCount := (n.channel c).recvCount + 1, flushSender := none } := by
  refine failReceive_outcome (P := fun m => m.channel c = _) f (fun m _ _ _ h => h) ?_ ?_
  · intro m _ hstale
    rw [hstale q hq] at ho
    cases ho
  · intro m hstale
    rw [hstale q hq] at ho
    cases ho

theorem channel_of_syncSender {p : Party} (hp : (n.channel c).syncSender = some p)
    (hexposed : n.Exposed c p) (f : Failure ε) : (n.failReceive c f).channel c =
      { n.channel c with
        recvCount := (n.channel c).recvCount + 1
        flushSender := none
        syncSender := none }.releaseSync := by
  obtain ⟨hopen, hstale⟩ := hexposed
  refine failReceive_outcome (P := fun m => m.channel c = _) f ?_ (fun m _ _ _ _ _ h => h) ?_
  · intro m q hq ho
    rw [hstale q hq] at ho
    cases ho
  · intro m _ hresolved
    rw [hresolved p hp] at hopen
    cases hopen

theorem channel_of_nobody
    (hflushing : ∀ q, (n.channel c).flushSender = some q → (n.slot q.slot).isResolved = true)
    (hwaiting : ∀ p, (n.channel c).syncSender = some p → (n.slot p.slot).isResolved = true)
    (f : Failure ε) : (n.failReceive c f).channel c =
      { n.channel c with
        recvCount := (n.channel c).recvCount + 1
        flushSender := none
        syncSender := none
        pending := if (n.channel c).retainReceiveFailures then (n.channel c).pending.put f
          else (n.channel c).pending } := by
  refine failReceive_outcome (P := fun m => m.channel c = _) f ?_ ?_ fun m _ _ h => h
  · intro m q hq ho
    rw [hflushing q hq] at ho
    cases ho
  · intro m p _ hp ho
    rw [hwaiting p hp] at ho
    cases ho

/-- In every network the failure of a receiving worker goes to one place. A sender whose flush goes
on gets it. Otherwise a sender that waits for its value and whose slot is unresolved gets it, and
the newest message for which a sender waits has none any more. Otherwise it reaches nobody: it
stays pending, in place of an older one of its kind, or is given up, as the options of the channel
say. Whoever was asked is not registered any more. In each case one place is consumed, and the
values, the receiver, other channels and all coordinators stay. A sender hands back nothing but the
failure itself, so it is never lost on the way. -/
theorem failReceive_routed (n : Network τ ε) (c : Channel.Ref) (f : Failure ε) :
    let a := n.channel c
    let m := n.failReceive c f
    let b := m.channel c
    (∀ q, a.flushSender = some q → (n.slot q.slot).isResolved = false →
      n.Reaches q.toParty f m ∧ b.flushSender = none ∧ b.syncSender = a.syncSender ∧
        b.queue = a.queue ∧ b.pending = a.pending) ∧
      (∀ p, a.syncSender = some p → n.Exposed c p →
        n.Reaches p f m ∧ b.flushSender = none ∧ b.syncSender = none ∧
          (∀ front x back, a.queue = front ++ x :: back → x.sync = true →
            (∀ y ∈ back, y.sync = false) → b.queue = front ++ { x with sync := false } :: back) ∧
          ((∀ x ∈ a.queue, x.sync = false) → b.queue = a.queue) ∧ b.pending = a.pending) ∧
      ((∀ q, a.flushSender = some q → (n.slot q.slot).isResolved = true) →
        (∀ p, a.syncSender = some p → (n.slot p.slot).isResolved = true) →
        n.Untouched m ∧ b.flushSender = none ∧ b.syncSender = none ∧ b.queue = a.queue ∧
          ∀ k, b.pending.get k = if a.retainReceiveFailures = true ∧ k = f.kind
            then some f.payload else a.pending.get k) ∧
      b.recvCount = a.recvCount + 1 ∧ b.sendCount = a.sendCount ∧ b.values = a.values ∧
      b.receiver = a.receiver ∧ (∀ x, x ≠ c → m.channel x = n.channel x) ∧
      (∀ k, m.coordinator k = n.coordinator k) ∧
      ∀ (l : Network τ ε) p r, (l.deliver p (.failed f)).2 = some r → r.failure? = some f := by
  intro a m b
  have hmoves : Moves Moves.anything Moves.anything (· = c) (fun _ => False) n m :=
    Moves.failReceive (C := (· = c)) rfl f (fun p _ _ => ⟨trivial, trivial⟩)
      fun p _ _ => ⟨trivial, trivial⟩
  have hcounted : b.recvCount = a.recvCount + 1 ∧ b.sendCount = a.sendCount ∧
      b.values = a.values ∧ b.receiver = a.receiver :=
    channel_failReceive (P := fun b => b.recvCount = a.recvCount + 1 ∧
      b.sendCount = a.sendCount ∧ b.values = a.values ∧ b.receiver = a.receiver) f
      ⟨rfl, rfl, rfl, rfl⟩ ⟨rfl, rfl, Channel.values_releaseSync _, rfl⟩ ⟨rfl, rfl, rfl, rfl⟩
  refine ⟨fun q hq ho => ?_, fun p hp hexposed => ?_, fun hflushing hwaiting => ?_, hcounted.1,
    hcounted.2.1, hcounted.2.2.1, hcounted.2.2.2, fun x hx => hmoves.channel hx,
    fun k => hmoves.coordinator not_false, fun l p r hr => failure?_of_deliver hr⟩
  · have hchannel := channel_of_flushSender hq ho f
    refine ⟨reaches_flushSender hq ho f, ?_⟩
    rw [show b = _ from hchannel]
    exact ⟨rfl, rfl, rfl, rfl⟩
  · have hchannel := channel_of_syncSender hp hexposed f
    refine ⟨reaches_syncSender hexposed.2 hp hexposed.1 f, ?_⟩
    rw [show b = _ from hchannel]
    exact ⟨rfl, rfl, fun front x back hq hx hback => Channel.queue_releaseSync hq hx hback,
      fun hnone => queue_releaseSync_of_unmarked hnone, rfl⟩
  · have hchannel := channel_of_nobody hflushing hwaiting f
    refine ⟨untouched_failReceive hflushing hwaiting f, ?_⟩
    rw [show b = _ from hchannel]
    refine ⟨rfl, rfl, rfl, fun k => ?_⟩
    cases hretain : (n.channel c).retainReceiveFailures with
    | true => simp [a, Pending.get_put]
    | false => simp [a]

/-- The flush of a sender is over while it is still registered with another channel, and it waits
for its value there. The failure passes over the registration that is left and ends the wait. -/
theorem failReceive_routed_behind_stale :
    let calls : List (Call Nat String) := [
      .createReadySet,
      .createStrand (some "tx") ⟨0⟩,
      .createSlot,
      .createSlot,
      .createChannel {},
      .createChannel {},
      .operate ⟨0⟩ (.send 1 ⟨0⟩),
      .operate ⟨1⟩ (.send 2 ⟨0⟩),
      .flushAll [⟨0⟩, ⟨1⟩] ⟨0⟩ ⟨0⟩,
      .operate ⟨0⟩ (.failReceive (.error "lost")),
      .dispatch ⟨0⟩,
      .operate ⟨1⟩ (.syncSend 3 ⟨0⟩ ⟨1⟩)]
    let n := ({} : Network Nat String).run calls
    (n.channel ⟨1⟩).flushSender.map (·.slot) = some ⟨0⟩ ∧ (n.slot ⟨0⟩).isResolved = true ∧
      (n.channel ⟨1⟩).syncSender = some ⟨⟨0⟩, ⟨1⟩⟩ ∧ n.Exposed ⟨1⟩ ⟨⟨0⟩, ⟨1⟩⟩ ∧
      n.Reaches ⟨⟨0⟩, ⟨1⟩⟩ (.panic "gone") (n.failReceive ⟨1⟩ (.panic "gone")) ∧
      ((n.failReceive ⟨1⟩ (.panic "gone")).channel ⟨1⟩).queue = [⟨2, false⟩, ⟨3, false⟩] := by
  intro calls n
  have hexposed : n.Exposed ⟨1⟩ ⟨⟨0⟩, ⟨1⟩⟩ := by
    refine ⟨rfl, fun q hq => ?_⟩
    obtain rfl := Option.some.inj hq
    rfl
  obtain ⟨hreach, -, -, hqueue, -⟩ :=
    (failReceive_routed n ⟨1⟩ (.panic "gone")).2.1 ⟨⟨0⟩, ⟨1⟩⟩ rfl hexposed
  exact ⟨rfl, rfl, rfl, hexposed, hreach, hqueue [⟨2, false⟩] ⟨3, true⟩ [] rfl rfl nofun⟩

end Rendezvous.Network
