import Mathlib.Data.List.Induction
import Rendezvous.Proofs.FailureRouting
import Rendezvous.Proofs.ParkedFlush
import Rendezvous.Proofs.ParkedReceiver
import Rendezvous.Proofs.SlotHistory

/-!
# Failures that are kept for the next sender

A channel may keep the failure of its receiving worker until a sender blocks. Here is how long it is
kept, and which sender gets it.

* **Places** (`Channel.Ahead`): how far the receiving side is ahead of the values that it received.
  On a channel without failures it is not; a failure that is kept puts it one place ahead
  (`Channel.Ahead.failReceive`).
* **Keeping** (`Call.Streams`, `Channel.Ahead.run`): one place ahead, the receiver never meets the
  failure. So it is kept while values are sent and received.
* **Handing over** (`HandsOver`, `PassesOver`): the next flush ends with the failure, and so does
  the next synchronous send, unless a receiver waits. If one does, the sender is suspended, and the
  failure is still kept (`retained_failure_ends_unless_received`).
-/

namespace Rendezvous

variable {τ ε : Type}

/-! ## Places -/

/-- The receiving side has consumed `lead` more places than the sending side has taken for what was
received, and `pending` is what nobody has consumed yet. -/
structure Channel.Ahead (lead : UInt64) (pending : Pending ε) (channel : Channel τ ε) : Prop where
  pending : channel.pending = pending
  places : channel.recvCount + UInt64.ofNat channel.size = channel.sendCount + lead

/-- A call that uses a channel, if at all, to send without waiting or to receive. -/
def Call.Streams (c : Channel.Ref) : Call τ ε → Prop
  | .operate x (.syncSend ..) | .operate x (.flush ..) | .operate x (.failSend _)
  | .operate x (.failReceive _) => x ≠ c
  | .flushAll cs _ _ => c ∉ cs
  | _ => True

namespace Channel.Ahead

variable {lead : UInt64} {pending : Pending ε} {a b : Channel τ ε}

/-- Only the queue, the counters and the pending failures matter. -/
theorem congr (h : a.Ahead lead pending) (hp : b.pending = a.pending) (hq : b.size = a.size)
    (hs : b.sendCount = a.sendCount) (hr : b.recvCount = a.recvCount) : b.Ahead lead pending :=
  ⟨hp.trans h.pending, by rw [hq, hs, hr, h.places]⟩

/-- One more value takes one more place. -/
theorem enqueue (h : a.Ahead lead pending) (m : Message τ) : (a.enqueue m).Ahead lead pending := by
  refine ⟨h.pending, ?_⟩
  have hplaces := h.places
  rw [size] at hplaces
  rw [size, Channel.enqueue, List.length_append, List.length_singleton, UInt64.ofNat_add]
  grind

/-- No failure arrives while the receiving side is level with the sending side, or one place
ahead. -/
theorem not_last (h : a.Ahead lead pending) (hlead : lead + 1 ≠ 0) (hq : a.queue = []) :
    a.sendCount ≠ a.recvCount + 1 := by
  have hplaces := h.places
  rw [size, hq, List.length_nil] at hplaces
  grind

variable {n : Network τ ε} {c : Channel.Ref}

theorem send (h : (n.channel c).Ahead lead pending) (value : τ) (s : Strand.Ref) :
    ((n.send c value s).channel c).Ahead lead pending := by
  rw [Network.channel_send, if_pos rfl]
  exact (h.enqueue ⟨value, false⟩).congr rfl rfl rfl rfl

theorem receive (h : (n.channel c).Ahead lead pending) (hlead : lead + 1 ≠ 0) (s : Strand.Ref) :
    ((n.receive c s).1.channel c).Ahead lead pending := by
  refine Network.channel_receive (P := fun b _ => b.Ahead lead pending) s ?_ ?_ ?_
  · intro m rest hq
    refine ⟨h.pending, ?_⟩
    have hplaces := h.places
    rw [size, hq, List.length_cons, UInt64.ofNat_add] at hplaces
    rw [size]
    grind
  · intro f rest hq hone
    exact absurd hone (h.not_last hlead hq)
  · exact fun _ _ => h.congr rfl rfl rfl rfl

/-- As long as nothing is pending a value that its sender waits for is no different. -/
theorem syncSend (h : (n.channel c).Ahead lead {}) (value : τ) (s : Strand.Ref) (d : Slot.Ref) :
    ((n.syncSend c value s d).1.channel c).Ahead lead {} := by
  refine Network.channel_syncSend (P := (Channel.Ahead lead {} ·)) value s d ?_ ?_ ?_
  · exact fun _ => (h.enqueue ⟨value, true⟩).congr rfl rfl rfl rfl
  · intro f rest _ hp
    rw [h.pending] at hp
    cases hp
  · exact fun _ _ => (h.enqueue ⟨value, true⟩).congr rfl rfl rfl rfl

/-- So is a flush. -/
theorem flush (h : (n.channel c).Ahead lead {}) (s : Strand.Ref) (d : Slot.Ref)
    (k : Coordinator.Ref) : ((n.flush c s d k).1.channel c).Ahead lead {} := by
  have hflushed := Network.flushed_flush n c s d k c
  have hpending := hflushed.pending (by rw [h.pending]; rfl)
  rw [hflushed.rest]
  exact h.congr hpending rfl rfl rfl

/-- The failure of a receiving worker that nobody waits for is kept, if the channel is to keep it.
The place that it consumes was not taken by anything. -/
theorem failReceive (h : (n.channel c).Ahead lead {})
    (hretain : (n.channel c).retainReceiveFailures = true)
    (hflushing : ∀ q, (n.channel c).flushSender = some q → (n.slot q.slot).isResolved = true)
    (hwaiting : ∀ p, (n.channel c).syncSender = some p → (n.slot p.slot).isResolved = true)
    (f : Failure ε) :
    ((n.failReceive c f).channel c).Ahead (lead + 1) (({} : Pending ε).put f) := by
  rw [Network.channel_of_nobody hflushing hwaiting]
  refine ⟨?_, ?_⟩
  · dsimp only
    rw [if_pos hretain, h.pending]
  · have hplaces := h.places
    rw [size] at hplaces ⊢
    grind

/-- What is pending stays so while values are sent and received. If nothing is pending, it stays so
until a worker is reported to have failed. -/
theorem run (h : (n.channel c).Ahead lead pending) (hlead : lead + 1 ≠ 0) {calls : List (Call τ ε)}
    (hcalls : ∀ call ∈ calls, call.Streams c ∨ pending = {} ∧ ¬ call.Fails c) :
    ((n.run calls).channel c).Ahead lead pending := by
  induction calls generalizing n with
  | nil => exact h
  | cons call calls ih =>
    refine ih ?_ fun x hx => hcalls x (List.mem_cons_of_mem call hx)
    have hcall := hcalls call List.mem_cons_self
    by_cases hc : c ∈ call.channels
    · cases call with
      | operate x op =>
        obtain rfl : c = x := List.mem_singleton.1 hc
        cases op with
        | send value s => exact h.send value s
        | receive s => exact h.receive hlead s
        | syncSend value s d =>
          obtain ⟨rfl, -⟩ := hcall.resolve_left fun hstreams => hstreams rfl
          exact h.syncSend value s d
        | flush s d k =>
          obtain ⟨rfl, -⟩ := hcall.resolve_left fun hstreams => hstreams rfl
          exact h.flush s d k
        | failSend f | failReceive f =>
          exact absurd rfl (hcall.resolve_left fun hstreams => hstreams rfl).2
      | flushAll cs s d =>
        obtain ⟨rfl, -⟩ := hcall.resolve_left fun hstreams => hstreams hc
        exact n.flushAll_keeps (fun m s d k hm => hm.flush s d k)
          (fun channel d hm => hm.congr rfl rfl rfl rfl) cs s d h
      | _ => cases hc
    · obtain hsame | ⟨hdefault, options, hcreated⟩ := n.channel_perform_of_notMem call hc
      · exact hsame ▸ h
      · rw [hcreated]
        rw [hdefault] at h
        exact h.congr rfl rfl rfl rfl

end Channel.Ahead

/-! ## Handing over -/

/-- Taking out the only failure that is pending leaves nothing. -/
theorem Pending.take?_put (f : Failure ε) : (({} : Pending ε).put f).take? = some (f, {}) := by
  cases f with | mk kind e => cases kind <;> rfl

namespace Network

variable {n : Network τ ε} {c : Channel.Ref} {f : Failure ε} {s : Strand.Ref} {d : Slot.Ref}

/-- From `n` to `m` the failure of the receiving worker got into the slot. No strand was suspended
or woken for it, and nothing is pending any more. -/
structure HandsOver (n : Network τ ε) (c : Channel.Ref) (d : Slot.Ref) (f : Failure ε)
    (m : Network τ ε) : Prop where
  slot : m.slot d = .filled (.failed f)
  strands : m.strands = n.strands
  readySets : m.readySets = n.readySets
  pending : (m.channel c).hasPendingFailure = false

/-- From `n` to `m` a sender was suspended and registered with the channel, and the receiver `r`
that waited there was woken. No slot got anything, and what was pending still is. -/
structure PassesOver (n : Network τ ε) (c : Channel.Ref) (p : Party) (r : Strand.Ref)
    (m : Network τ ε) : Prop where
  slot : ∀ d, m.slot d = n.slot d
  pending : (m.channel c).pending = (n.channel c).pending
  syncSender : (m.channel c).syncSender = some p
  wakes : (n.suspend p.strand).WakesOnly r m

/-- An unresolved slot that is offered the failure takes it, and only the channel is changed
besides. -/
theorem HandsOver.offer {m : Network τ ε} (hpending : (m.channel c).pending = {})
    (hs : m.strands = n.strands) (hr : m.readySets = n.readySets)
    (hd : (m.slot d).isResolved = false) : n.HandsOver c d f (m.offer d (.failed f)).1 := by
  have hempty : (m.channel c).hasPendingFailure = false := by
    rw [Channel.hasPendingFailure, hpending]
    rfl
  rw [offer_open _ hd]
  exact ⟨(slot_setSlot m d _ d).trans (if_pos rfl), hs, hr, hempty⟩

/-- A flush always looks for a pending failure first. -/
theorem flush_handsOver (hp : (n.channel c).pending.take? = some (f, {}))
    (hd : (n.slot d).isResolved = false) (s : Strand.Ref) (k : Coordinator.Ref) :
    (n.flush c s d k).2 = true ∧ n.HandsOver c d f (n.flush c s d k).1 := by
  obtain ⟨e, hflush⟩ := flush_pending (s := s) (d := d) (k := k) hp
  rw [hflush]
  refine ⟨rfl, .offer ?_ rfl rfl hd⟩
  rw [channel_emit, channel_updateChannel_self]

/-- A synchronous send does so only if no receiver waits. -/
theorem syncSend_handsOver (hr : (n.channel c).hasReceiver = false)
    (hp : (n.channel c).pending.take? = some (f, {})) (hd : (n.slot d).isResolved = false)
    (value : τ) (s : Strand.Ref) :
    (n.syncSend c value s d).2 = true ∧ n.HandsOver c d f (n.syncSend c value s d).1 := by
  have hr' : ((n.channel c).enqueue ⟨value, true⟩).hasReceiver = false := hr
  have hp' : ((n.channel c).enqueue ⟨value, true⟩).pending.take? = some (f, {}) := hp
  simp only [syncSend, channel_emit, channel_updateChannel_self, hr', hp', Bool.false_eq_true,
    if_false]
  refine ⟨trivial, .offer ?_ rfl rfl hd⟩
  rw [channel_updateChannel_self, channel_emit, channel_updateChannel_self]
  rfl

/-- If a receiver waits, the sender waits for it, whatever is pending. -/
theorem syncSend_passesOver {r : Strand.Ref} (hr : (n.channel c).receiver = some r) (value : τ)
    (s : Strand.Ref) (d : Slot.Ref) : (n.syncSend c value s d).2 = false ∧
      n.PassesOver c ⟨s, d⟩ r (n.syncSend c value s d).1 := by
  have hreceiver : (n.channel c).hasReceiver = true := by rw [Channel.hasReceiver, hr]; rfl
  have hchannel := channel_syncSend_of_hasReceiver n c value s d hreceiver
  refine ⟨?_, ⟨fun e => ?_, ?_, ?_, wakesOnly_syncSend hr value s d⟩⟩
  · rw [ended_syncSend, hreceiver]
    rfl
  · have hreceiver' : ((n.channel c).enqueue ⟨value, true⟩).hasReceiver = true := hreceiver
    simp only [syncSend, channel_emit, channel_updateChannel_self, if_pos hreceiver']
    unfold wakeReceiver
    split
    · exact ((Still.refl _).parkSyncSender c ⟨s, d⟩).slot e
    · exact (slot_wake _ _ e).trans (((Still.refl _).parkSyncSender c ⟨s, d⟩).slot e)
  · rw [hchannel]
    rfl
  · rw [hchannel]

/-- Take a channel that keeps failures of its receiving worker and on which no worker has failed so
far. A failure that meets no sender there is kept while values are sent and received, alone and
unchanged. The next flush ends with it on the spot. So does the next synchronous send if no receiver
waits. If one waits, the sender is suspended beside the failure, which is still kept. -/
theorem retained_failure_ends_unless_received (before later : List (Call τ ε)) (c : Channel.Ref)
    (f : Failure ε) (d : Slot.Ref) :
    let n := ({} : Network τ ε).run before
    let m := (n.failReceive c f).run later
    (n.channel c).retainReceiveFailures = true → (∀ call ∈ before, ¬ call.Fails c) →
    (∀ q, (n.channel c).flushSender = some q → (n.slot q.slot).isResolved = true) →
    (∀ p, (n.channel c).syncSender = some p → (n.slot p.slot).isResolved = true) →
    (∀ call ∈ later, call.Streams c) → (m.slot d).isResolved = false →
    (m.channel c).pending = ({} : Pending ε).put f ∧
      (∀ s k, (m.flush c s d k).2 = true ∧ m.HandsOver c d f (m.flush c s d k).1) ∧
      ((m.channel c).receiver = none → ∀ value s,
        (m.syncSend c value s d).2 = true ∧ m.HandsOver c d f (m.syncSend c value s d).1) ∧
      ∀ r, (m.channel c).receiver = some r → ∀ value s,
        (m.syncSend c value s d).2 = false ∧
          m.PassesOver c ⟨s, d⟩ r (m.syncSend c value s d).1 := by
  intro n m hretain hunfailed hflushing hwaiting hlater hd
  have hstart : (({} : Network τ ε).channel c).Ahead 0 {} := ⟨rfl, rfl⟩
  have hlevel : (n.channel c).Ahead 0 {} :=
    hstart.run (by decide) fun call hcall => .inr ⟨rfl, hunfailed call hcall⟩
  have hkept : (m.channel c).Ahead (0 + 1) (({} : Pending ε).put f) :=
    (hlevel.failReceive hretain hflushing hwaiting f).run (by decide) fun call hcall =>
      .inl (hlater call hcall)
  have htake : (m.channel c).pending.take? = some (f, {}) := by
    rw [hkept.pending, Pending.take?_put]
  refine ⟨hkept.pending, fun s k => flush_handsOver htake hd s k, fun hr value s => ?_,
    fun r hr value s => syncSend_passesOver hr value s d⟩
  refine syncSend_handsOver ?_ htake hd value s
  rw [Channel.hasReceiver, hr]
  rfl

/-- A sender blocks again after two more values, one of them received. -/
theorem retained_failure_ends_sync_send_behind_values :
    let before : List (Call Nat String) := [
      .createReadySet,
      .createStrand (some "tx") ⟨0⟩,
      .createStrand (some "rx") ⟨0⟩,
      .createSlot,
      .createSlot,
      .createChannel { retainReceiveFailures := true },
      .operate ⟨0⟩ (.syncSend 1 ⟨0⟩ ⟨0⟩),
      .operate ⟨0⟩ (.receive ⟨1⟩),
      .dispatch ⟨0⟩]
    let later : List (Call Nat String) := [
      .operate ⟨0⟩ (.send 2 ⟨0⟩),
      .operate ⟨0⟩ (.send 3 ⟨0⟩),
      .operate ⟨0⟩ (.receive ⟨1⟩)]
    let n := ({} : Network Nat String).run before
    let m := (n.failReceive ⟨0⟩ (.panic "gone")).run later
    (n.channel ⟨0⟩).retainReceiveFailures = true ∧ (∀ call ∈ before, ¬ call.Fails ⟨0⟩) ∧
      (n.channel ⟨0⟩).hasSender = false ∧ (∀ call ∈ later, call.Streams ⟨0⟩) ∧
      (m.slot ⟨1⟩).isResolved = false ∧ (m.syncSend ⟨0⟩ 4 ⟨0⟩ ⟨1⟩).2 = true ∧
      m.HandsOver ⟨0⟩ ⟨1⟩ (.panic "gone") (m.syncSend ⟨0⟩ 4 ⟨0⟩ ⟨1⟩).1 := by
  intro before later n m
  have hunfailed : ∀ call ∈ before, ¬ call.Fails ⟨0⟩ := by
    simp [before, Call.Fails]
  have hlater : ∀ call ∈ later, call.Streams ⟨0⟩ := by
    simp [later, Call.Streams]
  have hretain : (n.channel ⟨0⟩).retainReceiveFailures = true := by decide
  have hflushing : (n.channel ⟨0⟩).flushSender = none := by decide
  have hwaiting : (n.channel ⟨0⟩).syncSender = none := by decide
  have hsenders : (n.channel ⟨0⟩).hasSender = false := by decide
  have hopen : (m.slot ⟨1⟩).isResolved = false := by decide
  have hidle : (m.channel ⟨0⟩).receiver = none := by decide
  have hends := retained_failure_ends_unless_received before later ⟨0⟩ (.panic "gone") ⟨1⟩ hretain
    hunfailed (fun q hq => nomatch hflushing.symm.trans hq)
    (fun p hp => nomatch hwaiting.symm.trans hp) hlater hopen
  obtain ⟨hended, hover⟩ := hends.2.2.1 hidle 4 ⟨0⟩
  exact ⟨hretain, hunfailed, hsenders, hlater, hopen, hended, hover⟩

/-- The receiver had found nothing to receive when its worker failed, so it still waits. The sender
is suspended although the failure is kept, and waits for a receiver that does not come. -/
theorem retained_failure_passed_over :
    let before : List (Call Nat String) := [
      .createReadySet,
      .createStrand (some "tx") ⟨0⟩,
      .createStrand (some "rx") ⟨0⟩,
      .createSlot,
      .createChannel { retainReceiveFailures := true },
      .operate ⟨0⟩ (.receive ⟨1⟩)]
    let n := ({} : Network Nat String).run before
    let m := n.failReceive ⟨0⟩ (.error "lost")
    (n.channel ⟨0⟩).retainReceiveFailures = true ∧ (n.channel ⟨0⟩).hasSender = false ∧
      (m.slot ⟨0⟩).isResolved = false ∧ (m.strand ⟨0⟩).phase = .running ∧
      ¬ ((m.syncSend ⟨0⟩ 1 ⟨0⟩ ⟨0⟩).2 = true ∧
        (m.syncSend ⟨0⟩ 1 ⟨0⟩ ⟨0⟩).1.slot ⟨0⟩ = .filled (.failed (.error "lost")) ∧
        ((m.syncSend ⟨0⟩ 1 ⟨0⟩ ⟨0⟩).1.strand ⟨0⟩).phase = .running ∧
        ((m.syncSend ⟨0⟩ 1 ⟨0⟩ ⟨0⟩).1.channel ⟨0⟩).hasPendingFailure = false) := by
  decide

end Network

end Rendezvous
