import Rendezvous.Proofs.History

/-!
# A parked receiver misses nothing

A receiver waits only while there is nothing to receive, and whatever could be received later wakes
it first.

* **Nothing to receive** (`Channel.Idle`): what is known of a channel while a receiver waits there.
  Every call keeps it (`idle_perform`), unless the receiving worker is reported to have failed while
  the receiver waits (`SparesReceiver`): that consumes a place, and a failure of the sender may have
  arrived by it.
* **Attempts to wake** (`Network.attempts`, `Network.WakesOnly`): the strands that somebody tried to
  wake, as the log reports them, and steps that try to wake one strand and do nothing else to
  strands and ready sets.
* **Runs** (`parked_receiver_misses_nothing`).
-/

namespace Rendezvous

variable {τ ε : Type}

/-- While a receiver waits nothing is queued and no failure has arrived. -/
def Channel.Idle (channel : Channel τ ε) : Prop :=
  channel.hasReceiver = true → channel.queue = [] ∧ channel.arrived? = none

namespace Channel

variable {channel b : Channel τ ε}

theorem Idle.of_none (h : channel.hasReceiver = false) : channel.Idle := by
  intro hreceiver
  rw [h] at hreceiver
  cases hreceiver

/-- A failure has arrived if it is pending and exactly one place is left. -/
theorem arrived?_eq_none : channel.arrived? = none ↔
    ¬ (channel.sendCount = channel.recvCount + 1 ∧ channel.hasPendingFailure = true) := by
  unfold arrived? hasPendingFailure
  rw [← Pending.isSome_take?]
  by_cases hone : channel.sendCount = channel.recvCount + 1
  · rw [if_pos hone]
    cases channel.pending.take? <;> simp [hone]
  · rw [if_neg hone]
    simp [hone]

/-- Fewer pending failures bring none that has arrived. -/
theorem Idle.flushed (h : channel.Idle) {p : Option FlushParty} {pending : Pending ε}
    (hp : channel.pending.take? = none → pending = channel.pending) :
    { channel with flushSender := p, pending }.Idle := by
  intro hreceiver
  obtain ⟨hq, ha⟩ := h hreceiver
  refine ⟨hq, ?_⟩
  unfold arrived? at ha ⊢
  dsimp only
  split
  · rename_i hone
    rw [if_pos hone] at ha
    rw [hp ha, ha]
  · rfl

end Channel

namespace Network

variable {n m : Network τ ε} {c : Channel.Ref}

/-! ## Nothing to receive -/

/-- The receiving worker is not reported to have failed while the receiver waits. -/
def SparesReceiver (c : Channel.Ref) (n : Network τ ε) : Call τ ε → Prop
  | .operate x (.failReceive _) => x = c → (n.channel c).hasReceiver = false
  | _ => True

instance (c : Channel.Ref) (n : Network τ ε) : DecidablePred (SparesReceiver c n) := fun
  | .operate x op => match op with
    | .failReceive _ => inferInstanceAs (Decidable (x = c → _ = false))
    | .send .. | .syncSend .. | .receive .. | .flush .. | .failSend .. => instDecidableTrue
  | .createReadySet | .createStrand .. | .createSlot | .createChannel _ | .createDrainLog
  | .createBarrier .. | .createTable _ | .dropScheduler _ | .dropConsumer _ | .dispatch _
  | .poll .. | .wake _ | .markRunning _ | .resume _ | .offer .. | .take _ | .notifyDrained ..
  | .flushAll .. | .lookup .. | .lookupOrCreate .. | .unlink .. => instDecidableTrue

theorem idle_flush (h : (n.channel c).Idle) (s : Strand.Ref) (d : Slot.Ref)
    (k : Coordinator.Ref) : ((n.flush c s d k).1.channel c).Idle := by
  rw [channel_flush, if_pos rfl]
  split
  · rename_i hp
    exact h.flushed fun hnone => by rw [hnone] at hp; cases hp
  · split
    · exact h
    · exact h.flushed fun _ => rfl

theorem idle_operate (h : (n.channel c).Idle) {op : Operation τ ε}
    (hop : SparesReceiver c n (.operate c op)) : ((n.operate c op).1.channel c).Idle := by
  cases op with
  | send value s =>
    change ((n.send c value s).channel c).Idle
    rw [channel_send, if_pos rfl]
    exact .of_none rfl
  | syncSend value s d =>
    refine channel_syncSend (P := Channel.Idle) value s d ?_ ?_ ?_
    · exact fun _ => .of_none rfl
    · exact fun f pending hr _ => .of_none hr
    · exact fun hr _ => .of_none hr
  | receive s =>
    refine channel_receive (P := fun b _ => b.Idle) s ?_ ?_ ?_
    · -- A receiver that waits would have nothing to take.
      intro m rest hq hreceiver
      rw [(h hreceiver).1] at hq
      cases hq
    · intro f pending _ hone htake hreceiver
      have ha := (h hreceiver).2
      rw [Channel.arrived?, if_pos hone, htake] at ha
      cases ha
    · exact fun hq ha _ => ⟨hq, ha⟩
  | flush s d k => exact idle_flush h s d k
  | failSend f =>
    change ((n.failSend c f).channel c).Idle
    rw [channel_failSend, if_pos rfl]
    exact .of_none rfl
  | failReceive f =>
    have hnone : (n.channel c).hasReceiver = false := hop rfl
    exact channel_failReceive f (.of_none hnone) (.of_none hnone) (.of_none hnone)

/-- So it is after each call that spares the receiver. -/
theorem idle_perform (h : (n.channel c).Idle) {call : Call τ ε} (hcall : SparesReceiver c n call) :
    ((n.perform call).1.channel c).Idle := by
  by_cases hc : c ∈ call.channels
  · cases call with
    | operate x op =>
      obtain rfl : c = x := List.mem_singleton.1 hc
      exact idle_operate h hcall
    | flushAll cs s d =>
      exact n.flushAll_keeps (fun m s d k hm => idle_flush hm s d k)
        (fun channel d hm => hm.flushed fun _ => rfl) cs s d h
    | _ => cases hc
  · obtain he | ⟨-, options, he⟩ := n.channel_perform_of_notMem call hc
    · rw [he]
      exact h
    · rw [he]
      exact .of_none rfl

end Network

/-! ## Attempts to wake -/

/-- The strand that somebody tried to wake, as an event reports it. -/
def Event.attempt? : Event → Option StrandTag
  | .woken s | .wakeIgnored s _ => some s
  | _ => none

namespace Network

variable {n m l : Network τ ε} {c : Channel.Ref} {r : Strand.Ref}

/-- The strands that somebody tried to wake, as the log reports them, oldest first. -/
def attempts (n : Network τ ε) : List StrandTag := n.log.filterMap Event.attempt?

/-- Any other event reports no attempt. -/
theorem attempts_emit (n : Network τ ε) {e : Event} (he : e.attempt? = none) :
    (n.emit e).attempts = n.attempts := by
  simp [attempts, emit, he]

theorem attempts_suspend (n : Network τ ε) (s : Strand.Ref) :
    (n.suspend s).attempts = n.attempts := by
  unfold suspend
  split
  · rfl
  · exact attempts_emit _ rfl

/-- Whether or not it succeeds, an attempt is reported once. -/
theorem attempts_wake (n : Network τ ε) (s : Strand.Ref) :
    (n.wake s).attempts = n.attempts ++ [n.strandTag s] := by
  unfold wake enqueue
  dsimp only
  split
  · split
    · simp [attempts, emit, setPhase, setStrand, setReadySet, Event.attempt?]
    · simp [attempts, emit, setPhase, setStrand, Event.attempt?]
  · simp [attempts, emit, Event.attempt?]

/-- Somebody tried to wake `r` and no other strand, and otherwise neither a strand nor a ready set
has changed. -/
structure WakesOnly (n : Network τ ε) (r : Strand.Ref) (m : Network τ ε) : Prop where
  attempts : m.attempts = n.attempts ++ [n.strandTag r]
  strands : m.strands = (n.wake r).strands
  readySets : m.readySets = (n.wake r).readySets

/-- The receiver that waits is woken, whatever happened to channels before. -/
theorem wakesOnly_wakeReceiver (hr : (m.channel c).receiver = some r)
    (ha : m.attempts = n.attempts) (hs : m.strands = n.strands)
    (hq : m.readySets = n.readySets) : n.WakesOnly r (m.wakeReceiver c) := by
  unfold wakeReceiver
  rw [hr]
  have htag : m.strandTag r = n.strandTag r := by
    rw [strandTag, strandTag, strand, strand, hs]
  have hwake := wake_congr (m := (m.updateChannel c fun channel =>
    { channel with receiver := none }).emit (.wakingReceiver
      ((m.updateChannel c fun channel => { channel with receiver := none }).channelTag c)
      ((m.updateChannel c fun channel => { channel with receiver := none }).strandTag r)))
    (n := n) hs hq r
  refine ⟨?_, hwake.1, hwake.2⟩
  rw [attempts_wake, attempts_emit _ rfl, ← htag, ← ha]
  rfl

theorem wakesOnly_send (hr : (n.channel c).receiver = some r) (value : τ) (s : Strand.Ref) :
    n.WakesOnly r (n.send c value s) := by
  refine wakesOnly_wakeReceiver ?_ (attempts_emit _ rfl) rfl rfl
  rw [channel_emit, channel_updateChannel_self]
  exact hr

/-- The sender is suspended first, whether or not it takes the place of another. -/
theorem wakesOnly_syncSend (hr : (n.channel c).receiver = some r) (value : τ) (s : Strand.Ref)
    (d : Slot.Ref) : (n.suspend s).WakesOnly r (n.syncSend c value s d).1 := by
  have hreceiver : ((n.channel c).enqueue ⟨value, true⟩).hasReceiver = true := by
    rw [Channel.hasReceiver, Channel.enqueue, hr]
    rfl
  have parked : ∀ l : Network τ ε, l.attempts = n.attempts → l.strands = n.strands →
      l.readySets = n.readySets →
      (l.parkSyncSender c ⟨s, d⟩).attempts = (n.suspend s).attempts ∧
        (l.parkSyncSender c ⟨s, d⟩).strands = (n.suspend s).strands ∧
        (l.parkSyncSender c ⟨s, d⟩).readySets = (n.suspend s).readySets := by
    intro l ha hs hq
    have hsuspend : (l.suspend s).attempts = (n.suspend s).attempts := by
      rw [attempts_suspend, attempts_suspend, ha]
    have hready : (l.suspend s).readySets = (n.suspend s).readySets := by
      rw [readySets_suspend, readySets_suspend, hq]
    unfold parkSyncSender
    dsimp only
    split
    · exact ⟨hsuspend, suspend_congr hs s, hready⟩
    · exact ⟨(attempts_emit _ rfl).trans hsuspend, suspend_congr hs s, hready⟩
  unfold syncSend
  simp only [channel_emit, channel_updateChannel_self, if_pos hreceiver]
  obtain ⟨ha, hs, hq⟩ := parked ((n.updateChannel c (·.enqueue ⟨value, true⟩)).emit
    (.syncSent _ _ _)) (attempts_emit _ rfl) rfl rfl
  refine wakesOnly_wakeReceiver ?_ ha hs hq
  rw [channel_parkSyncSender, if_pos rfl, channel_emit, channel_updateChannel_self]
  exact hr

theorem wakesOnly_failSend (hr : (n.channel c).receiver = some r) (f : Failure ε) :
    n.WakesOnly r (n.failSend c f) := by
  have stored : ∀ l : Network τ ε, (l.storeFailure c f).attempts = l.attempts ∧
      (l.storeFailure c f).strands = l.strands ∧ (l.storeFailure c f).readySets = l.readySets := by
    intro l
    unfold storeFailure
    dsimp only
    split
    · exact ⟨attempts_emit _ rfl, rfl, rfl⟩
    · exact ⟨rfl, rfl, rfl⟩
  obtain ⟨ha, hs, hq⟩ := stored ((n.updateChannel c (·.countSent)).emit (.sendFailed _ _ _))
  refine wakesOnly_wakeReceiver ?_ (ha.trans (attempts_emit _ rfl)) hs hq
  rw [channel_storeFailure, if_pos rfl, channel_emit, channel_updateChannel_self]
  exact hr

/-! ## Runs -/

/-- In every run in which the receiving worker is not reported to have failed while the receiver
waits, a receiver that waits misses nothing. Nothing is queued and no failure has arrived, so that
every attempt to receive has to be repeated and changes neither the stream nor the failures.
Whatever the sending side puts into the stream removes the registration and wakes that receiver, and
no other strand. -/
theorem parked_receiver_misses_nothing (calls : List (Call τ ε)) (c : Channel.Ref)
    (hspared : ({} : Network τ ε).Keeps (SparesReceiver c) calls) {r : Strand.Ref}
    (hr : ((({} : Network τ ε).run calls).channel c).receiver = some r) :
    let n := ({} : Network τ ε).run calls
    let channel := n.channel c
    channel.queue = [] ∧
      ¬ (channel.sendCount = channel.recvCount + 1 ∧ channel.hasPendingFailure = true) ∧
      (∀ s, (n.receive c s).2 = .retry ∧
        (n.receive c s).1.channel c = { channel with receiver := some s }) ∧
      (∀ value s, ((n.send c value s).channel c).receiver = none ∧
        n.WakesOnly r (n.send c value s)) ∧
      (∀ value s d, ((n.syncSend c value s d).1.channel c).receiver = none ∧
        (n.suspend s).WakesOnly r (n.syncSend c value s d).1) ∧
      ∀ f, ((n.failSend c f).channel c).receiver = none ∧ n.WakesOnly r (n.failSend c f) := by
  intro n channel
  have hidle : channel.Idle := hspared.invariant (P := fun m => (m.channel c).Idle)
    (fun _ _ hm hcall => idle_perform hm hcall) (.of_none rfl)
  have hreceiver : channel.hasReceiver = true := Option.isSome_iff_exists.2 ⟨r, hr⟩
  obtain ⟨hq, ha⟩ := hidle hreceiver
  refine ⟨hq, Channel.arrived?_eq_none.1 ha, fun s => ?_, fun value s => ⟨?_, ?_⟩,
    fun value s d => ⟨?_, ?_⟩, fun f => ⟨?_, ?_⟩⟩
  · have hreceive : n.receive c s = (n.parkReceiver c s, .retry) := by
      simp only [receive, show (n.channel c).queue = [] from hq,
        show (n.channel c).arrived? = none from ha]
    rw [hreceive]
    refine ⟨rfl, ?_⟩
    rw [channel_parkReceiver, if_pos rfl]
  · rw [channel_send, if_pos rfl]
  · exact wakesOnly_send hr value s
  · rw [channel_syncSend_of_hasReceiver n c value s d hreceiver]
  · exact wakesOnly_syncSend hr value s d
  · rw [channel_failSend, if_pos rfl]
  · exact wakesOnly_failSend hr f

/-- Two failures of the sender are pending when the receiver comes. It waits, since none of them has
arrived, and another one wakes it. -/
theorem parked_receiver_misses_nothing_behind_failures :
    let calls : List (Call Nat String) := [
      .createReadySet,
      .createStrand (some "tx") ⟨0⟩,
      .createStrand (some "rx") ⟨0⟩,
      .createChannel { retainReceiveFailures := true },
      .operate ⟨0⟩ (.failReceive (.panic "early")),
      .operate ⟨0⟩ (.failSend (.error "lost")),
      .operate ⟨0⟩ (.failSend (.panic "gone")),
      .operate ⟨0⟩ (.failSend (.error "late")),
      .operate ⟨0⟩ (.receive ⟨1⟩)]
    let n := ({} : Network Nat String).run calls
    ({} : Network Nat String).Keeps (SparesReceiver ⟨0⟩) calls ∧
      (n.channel ⟨0⟩).receiver = some ⟨1⟩ ∧ (n.channel ⟨0⟩).hasPendingFailure = true ∧
      (∀ s, (n.receive ⟨0⟩ s).2 = .retry) ∧
      n.WakesOnly ⟨1⟩ (n.failSend ⟨0⟩ (.error "again")) := by
  intro calls n
  have hspared : ({} : Network Nat String).Keeps (SparesReceiver ⟨0⟩) calls := by decide
  obtain ⟨-, -, hretry, -, -, hfail⟩ :=
    parked_receiver_misses_nothing calls ⟨0⟩ hspared (r := ⟨1⟩) rfl
  exact ⟨hspared, rfl, rfl, fun s => (hretry s).1, (hfail _).2⟩

end Network

end Rendezvous
