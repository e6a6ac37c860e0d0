import Rendezvous.Network.Call

/-!
# What a step touches

The steps from which the operations are built change one or two stores each. Here is what they do
to the others: nothing.

* **Calls** (`Call.channels`, `Call.strands`, …): what a call is passed.
* **The log** (`channel_emit`, …): writing down an event changes no object.
* **Channels** (`channel_updateChannel`): a channel is changed alone.
* **Scheduling** (`strand_suspend`, `strand_wake`, `readySet_wake`, …): suspending a strand changes
  that strand, waking it also its ready set.
* **Delivery** (`deliver_open`, `slot_deliver`, …): a resolution reaches one slot and wakes one
  strand; a drained channel is noted by one coordinator.
-/

namespace Rendezvous

/-- What a coordinator is once it has been told that the channel with that number has drained. -/
def Coordinator.note (id : ChannelId) : Coordinator → Coordinator
  | .drainLog ids => .drainLog (ids ++ [id])
  | .barrier b => .barrier (if id ∈ b.drained then b else b.note id)

section
variable {τ ε : Type}

/-! ## What a call is passed -/

/-- The strands that an operation is passed. -/
def Operation.strands : Operation τ ε → List Strand.Ref
  | .send _ s | .syncSend _ s _ | .receive s | .flush s _ _ => [s]
  | .failSend _ | .failReceive _ => []

/-- The slots that an operation is passed. -/
def Operation.slots : Operation τ ε → List Slot.Ref
  | .syncSend _ _ d | .flush _ d _ => [d]
  | _ => []

/-- The coordinators that an operation is passed. -/
def Operation.coordinators : Operation τ ε → List Coordinator.Ref
  | .flush _ _ k => [k]
  | _ => []

namespace Call

/-- The channels that a call is passed. -/
def channels : Call τ ε → List Channel.Ref
  | .operate c _ => [c]
  | .flushAll cs _ _ => cs
  | _ => []

/-- The strands that a call is passed to act on. -/
def strands : Call τ ε → List Strand.Ref
  | .createBarrier s _ _ | .wake s | .markRunning s | .resume s | .flushAll _ s _ => [s]
  | .operate _ op => op.strands
  | _ => []

/-- The slots that a call is passed. -/
def slots : Call τ ε → List Slot.Ref
  | .createBarrier _ d _ | .offer d _ | .take d | .flushAll _ _ d => [d]
  | .operate _ op => op.slots
  | _ => []

/-- The coordinators that a call is passed. -/
def coordinators : Call τ ε → List Coordinator.Ref
  | .operate _ op => op.coordinators
  | .notifyDrained k _ => [k]
  | _ => []

/-- The channels that a call flushes. -/
def flushed : Call τ ε → List Channel.Ref
  | .operate c (.flush ..) => [c]
  | .flushAll cs _ _ => cs
  | _ => []

end Call

end

namespace Network

variable {τ ε : Type} (n : Network τ ε)

/-! ## The log -/

section
variable (e : Event)

@[simp] theorem readySet_emit (q : ReadySet.Ref) : (n.emit e).readySet q = n.readySet q := rfl
@[simp] theorem strand_emit (s : Strand.Ref) : (n.emit e).strand s = n.strand s := rfl
@[simp] theorem slot_emit (d : Slot.Ref) : (n.emit e).slot d = n.slot d := rfl
@[simp] theorem channels_emit : (n.emit e).channels = n.channels := rfl
@[simp] theorem channel_emit (c : Channel.Ref) : (n.emit e).channel c = n.channel c := rfl
@[simp] theorem coordinator_emit (k : Coordinator.Ref) :
    (n.emit e).coordinator k = n.coordinator k := rfl

end

/-! ## Channels -/

section
variable (c : Channel.Ref) (f : Channel τ ε → Channel τ ε)

@[simp] theorem readySet_updateChannel (q : ReadySet.Ref) :
    (n.updateChannel c f).readySet q = n.readySet q := rfl
@[simp] theorem strand_updateChannel (s : Strand.Ref) :
    (n.updateChannel c f).strand s = n.strand s := rfl
@[simp] theorem slot_updateChannel (d : Slot.Ref) : (n.updateChannel c f).slot d = n.slot d := rfl
@[simp] theorem coordinator_updateChannel (k : Coordinator.Ref) :
    (n.updateChannel c f).coordinator k = n.coordinator k := rfl

theorem channel_updateChannel (x : Channel.Ref) :
    (n.updateChannel c f).channel x = if x = c then f (n.channel c) else n.channel x := by
  simp only [channel, updateChannel, setChannel, Store.get_set]

@[simp] theorem channel_updateChannel_self :
    (n.updateChannel c f).channel c = f (n.channel c) := by
  rw [channel_updateChannel, if_pos rfl]

/-- If one channel becomes `a`, what `a` has in common with that channel does not change. -/
theorem channel_ite {α : Type} (g : Channel τ ε → α) {a : Channel τ ε} (h : g a = g (n.channel c))
    (x : Channel.Ref) : g (if x = c then a else n.channel x) = g (n.channel x) := by
  split
  · rename_i hx
    rw [h, hx]
  · rfl

theorem channel_updateChannel_of_ne {x : Channel.Ref} (h : x ≠ c) :
    (n.updateChannel c f).channel x = n.channel x := by
  rw [channel_updateChannel, if_neg h]

end

/-! ## Scheduling -/

section
variable (s : Strand.Ref)

@[simp] theorem readySets_suspend : (n.suspend s).readySets = n.readySets := by
  unfold suspend; split <;> rfl

@[simp] theorem readySet_suspend (q : ReadySet.Ref) :
    (n.suspend s).readySet q = n.readySet q := by
  rw [readySet, readySets_suspend]

@[simp] theorem slot_suspend (d : Slot.Ref) : (n.suspend s).slot d = n.slot d := by
  unfold suspend; split <;> rfl

@[simp] theorem channels_suspend : (n.suspend s).channels = n.channels := by
  unfold suspend; split <;> rfl

@[simp] theorem channel_suspend (c : Channel.Ref) : (n.suspend s).channel c = n.channel c := by
  rw [channel, channels_suspend]

@[simp] theorem coordinators_suspend : (n.suspend s).coordinators = n.coordinators := by
  unfold suspend; split <;> rfl

@[simp] theorem coordinator_suspend (k : Coordinator.Ref) :
    (n.suspend s).coordinator k = n.coordinator k := by
  rw [coordinator, coordinators_suspend]

/-- A running strand is suspended, and no other strand changes. -/
theorem strand_suspend (t : Strand.Ref) :
    (n.suspend s).strand t = if t = s ∧ (n.strand s).phase = .running
      then { n.strand s with phase := .suspended } else n.strand t := by
  unfold suspend
  split
  · rename_i h
    simp only [strand, setPhase, setStrand, Store.get_set, h, and_true]
  · rename_i h
    simp [h]

@[simp] theorem readySet_markRunning (q : ReadySet.Ref) :
    (n.markRunning s).readySet q = n.readySet q := by
  unfold markRunning; split <;> rfl

@[simp] theorem slot_markRunning (d : Slot.Ref) : (n.markRunning s).slot d = n.slot d := by
  unfold markRunning; split <;> rfl

@[simp] theorem channels_markRunning : (n.markRunning s).channels = n.channels := by
  unfold markRunning; split <;> rfl

@[simp] theorem channel_markRunning (c : Channel.Ref) :
    (n.markRunning s).channel c = n.channel c := by
  rw [channel, channels_markRunning]

@[simp] theorem coordinators_markRunning : (n.markRunning s).coordinators = n.coordinators := by
  unfold markRunning; split <;> rfl

@[simp] theorem coordinator_markRunning (k : Coordinator.Ref) :
    (n.markRunning s).coordinator k = n.coordinator k := by
  rw [coordinator, coordinators_markRunning]

/-- A suspended strand runs again, and no other strand changes. -/
theorem strand_markRunning (t : Strand.Ref) :
    (n.markRunning s).strand t = if t = s ∧ (n.strand s).phase = .suspended
      then { n.strand s with phase := .running } else n.strand t := by
  unfold markRunning isSuspended
  by_cases h : (n.strand s).phase = .suspended
  · simp only [strand, setPhase, setStrand, Store.get_set, h, beq_self_eq_true, ↓reduceIte,
      and_true]
  · simp [h]

@[simp] theorem strand_enqueue (t : Strand.Ref) : (n.enqueue s).strand t = n.strand t := by
  unfold enqueue; dsimp only; split <;> rfl

@[simp] theorem slot_enqueue (d : Slot.Ref) : (n.enqueue s).slot d = n.slot d := by
  unfold enqueue; dsimp only; split <;> rfl

@[simp] theorem channels_enqueue : (n.enqueue s).channels = n.channels := by
  unfold enqueue; dsimp only; split <;> rfl

@[simp] theorem coordinators_enqueue : (n.enqueue s).coordinators = n.coordinators := by
  unfold enqueue; dsimp only; split <;> rfl

@[simp] theorem slot_wake (d : Slot.Ref) : (n.wake s).slot d = n.slot d := by
  unfold wake; split
  · rw [slot_enqueue]; rfl
  · rfl

@[simp] theorem channels_wake : (n.wake s).channels = n.channels := by
  unfold wake; split
  · rw [channels_enqueue]; rfl
  · rfl

@[simp] theorem channel_wake (c : Channel.Ref) : (n.wake s).channel c = n.channel c := by
  rw [channel, channels_wake]

@[simp] theorem coordinators_wake : (n.wake s).coordinators = n.coordinators := by
  unfold wake; split
  · rw [coordinators_enqueue]; rfl
  · rfl

@[simp] theorem coordinator_wake (k : Coordinator.Ref) :
    (n.wake s).coordinator k = n.coordinator k := by
  rw [coordinator, coordinators_wake]

theorem strands_suspend : (n.suspend s).strands = if (n.strand s).phase = .running then
    n.strands.set s { n.strand s with phase := .suspended } else n.strands := by
  unfold suspend
  split <;> rfl

theorem strands_wake : (n.wake s).strands = if n.isSuspended s then
    n.strands.set s { n.strand s with phase := .ready } else n.strands := by
  unfold wake enqueue
  dsimp only
  split
  · split <;> rfl
  · rfl

theorem readySets_wake : (n.wake s).readySets =
    if n.isSuspended s ∧ (n.readySet (n.strand s).home).hasConsumer then
      n.readySets.set (n.strand s).home { n.readySet (n.strand s).home with
        queue := (n.readySet (n.strand s).home).queue ++ [s] }
    else n.readySets := by
  have hset : ∀ q, ((n.setPhase s .ready).emit (.woken (n.strandTag s))).readySet q =
      n.readySet q := fun _ => rfl
  have hhome : (((n.setPhase s .ready).emit (.woken (n.strandTag s))).strand s).home =
      (n.strand s).home := by
    simp [strand, setPhase, setStrand, emit]
  unfold wake enqueue
  dsimp only
  rw [hhome, hset]
  by_cases hsus : n.isSuspended s = true
  · rw [if_pos hsus]
    simp only [hsus, true_and]
    split <;> rfl
  · rw [if_neg hsus, if_neg fun hand => hsus hand.1]
    rfl

/-- A suspended strand becomes ready, and no other strand changes. -/
theorem strand_wake (t : Strand.Ref) :
    (n.wake s).strand t = if t = s ∧ (n.strand s).phase = .suspended
      then { n.strand s with phase := .ready } else n.strand t := by
  rw [strand, strands_wake, isSuspended]
  by_cases h : (n.strand s).phase = .suspended
  · rw [h, beq_self_eq_true, if_pos rfl, Store.get_set]
    simp only [and_true]
  · rw [if_neg (h ∘ eq_of_beq), if_neg (h ∘ And.right)]

/-- A strand that was suspended is queued at its home, and no other ready set changes. -/
theorem readySet_wake (q : ReadySet.Ref) :
    (n.wake s).readySet q = if (n.strand s).phase = .suspended ∧ q = (n.strand s).home ∧
        (n.readySet q).hasConsumer = true
      then { n.readySet q with queue := (n.readySet q).queue ++ [s] } else n.readySet q := by
  rw [readySet, readySets_wake]
  simp only [isSuspended, beq_iff_eq]
  by_cases hq : q = (n.strand s).home
  · subst hq
    simp only [true_and]
    split
    · rw [Store.get_set, if_pos rfl]
    · rfl
  · simp only [hq, false_and, and_false, ↓reduceIte]
    split
    · rw [Store.get_set, if_neg hq]
    · rfl

/-- What suspending does to strands depends on nothing else. -/
theorem suspend_congr {n m : Network τ ε} (hs : m.strands = n.strands) (s : Strand.Ref) :
    (m.suspend s).strands = (n.suspend s).strands := by
  have hstrand : ∀ t, m.strand t = n.strand t := fun t => by rw [strand, hs]
  simp only [strands_suspend, hstrand, hs]

/-- What waking does to strands and ready sets depends on nothing else. -/
theorem wake_congr {n m : Network τ ε} (hs : m.strands = n.strands)
    (hr : m.readySets = n.readySets) (s : Strand.Ref) :
    (m.wake s).strands = (n.wake s).strands ∧ (m.wake s).readySets = (n.wake s).readySets := by
  have hstrand : ∀ t, m.strand t = n.strand t := fun t => by rw [strand, hs]
  have hready : ∀ q, m.readySet q = n.readySet q := fun q => by rw [readySet, hr]
  simp only [strands_wake, readySets_wake, isSuspended, hstrand, hready, hs, hr]
  exact ⟨rfl, rfl⟩

end

/-! ## Delivery -/

section
variable (d : Slot.Ref) (r : Resolution ε)

@[simp] theorem readySet_setSlot (x : Slot ε) (q : ReadySet.Ref) :
    (n.setSlot d x).readySet q = n.readySet q := rfl
@[simp] theorem strand_setSlot (x : Slot ε) (s : Strand.Ref) :
    (n.setSlot d x).strand s = n.strand s := rfl
@[simp] theorem channels_setSlot (x : Slot ε) : (n.setSlot d x).channels = n.channels := rfl
@[simp] theorem channel_setSlot (x : Slot ε) (c : Channel.Ref) :
    (n.setSlot d x).channel c = n.channel c := rfl
@[simp] theorem coordinator_setSlot (x : Slot ε) (k : Coordinator.Ref) :
    (n.setSlot d x).coordinator k = n.coordinator k := rfl

theorem slot_setSlot (x : Slot ε) (e : Slot.Ref) :
    (n.setSlot d x).slot e = if e = d then x else n.slot e := by
  simp only [slot, setSlot, Store.get_set]

variable {n d}

/-- An unresolved slot takes what it is offered. -/
theorem offer_open (h : (n.slot d).isResolved = false) :
    n.offer d r = (n.setSlot d (.filled r), none) := by
  simp only [offer, Slot.offer_of_not_isResolved h]

/-- A resolved slot hands back what it is offered. -/
theorem offer_resolved (h : (n.slot d).isResolved = true) : n.offer d r = (n, some r) := by
  simp only [offer, Slot.offer_of_isResolved h]

variable {p : Party}

/-- A delivery to an unresolved slot fills it and wakes the sender. -/
theorem deliver_open (h : (n.slot p.slot).isResolved = false) :
    n.deliver p r = ((n.setSlot p.slot (.filled r)).wake p.strand, none) := by
  simp only [deliver, offer_open r h]

/-- A delivery to a resolved slot changes nothing. -/
theorem deliver_resolved (h : (n.slot p.slot).isResolved = true) :
    n.deliver p r = (n.emit (.alreadyResolved (n.strandTag p.strand)), some r) := by
  simp only [deliver, offer_resolved r h]

/-- A barrier whose slot is resolved releases nobody. -/
theorem completeBarrier_resolved {b : Barrier} (h : (n.slot b.slot).isResolved = true) :
    n.completeBarrier b = n := by
  simp only [completeBarrier, offer_resolved _ h]

/-- A barrier whose slot is unresolved fills it and wakes the sender. -/
theorem completeBarrier_open {b : Barrier} (h : (n.slot b.slot).isResolved = false) :
    n.completeBarrier b = ((n.setSlot b.slot (.filled .done)).emit (.flushComplete
      ((n.setSlot b.slot (.filled .done)).strandTag b.strand))).wake b.strand := by
  simp only [completeBarrier, offer_open _ h]

variable (n d p)

@[simp] theorem channels_offer : (n.offer d r).1.channels = n.channels := by
  unfold offer; split <;> rfl

@[simp] theorem channel_offer (c : Channel.Ref) : (n.offer d r).1.channel c = n.channel c := by
  rw [channel, channels_offer]

@[simp] theorem channels_deliver : (n.deliver p r).1.channels = n.channels := by
  cases h : (n.slot p.slot).isResolved with
  | true => rw [deliver_resolved r h, channels_emit]
  | false => rw [deliver_open r h, channels_wake, channels_setSlot]

@[simp] theorem channel_deliver (c : Channel.Ref) : (n.deliver p r).1.channel c = n.channel c := by
  rw [channel, channels_deliver]

/-- A delivery fills the slot of the sender, if it is unresolved, and no other slot changes. -/
theorem slot_deliver (e : Slot.Ref) : (n.deliver p r).1.slot e =
    if e = p.slot ∧ (n.slot p.slot).isResolved = false then .filled r else n.slot e := by
  cases h : (n.slot p.slot).isResolved with
  | true => simp [deliver_resolved r h]
  | false => simp [deliver_open r h, slot_setSlot]

@[simp] theorem coordinator_offer (k : Coordinator.Ref) :
    (n.offer d r).1.coordinator k = n.coordinator k := by
  unfold offer; split <;> rfl

@[simp] theorem coordinator_deliver (k : Coordinator.Ref) :
    (n.deliver p r).1.coordinator k = n.coordinator k := by
  cases h : (n.slot p.slot).isResolved with
  | true => rw [deliver_resolved r h, coordinator_emit]
  | false => rw [deliver_open r h, coordinator_wake, coordinator_setSlot]

@[simp] theorem coordinator_completeBarrier (b : Barrier) (k : Coordinator.Ref) :
    (n.completeBarrier b).coordinator k = n.coordinator k := by
  cases h : (n.slot b.slot).isResolved with
  | true => rw [completeBarrier_resolved h]
  | false => rw [completeBarrier_open h, coordinator_wake, coordinator_emit, coordinator_setSlot]

@[simp] theorem channels_completeBarrier (b : Barrier) :
    (n.completeBarrier b).channels = n.channels := by
  cases h : (n.slot b.slot).isResolved with
  | true => rw [completeBarrier_resolved h]
  | false => rw [completeBarrier_open h, channels_wake, channels_emit, channels_setSlot]

@[simp] theorem channels_notifyDrained (k : Coordinator.Ref) (id : ChannelId) :
    (n.notifyDrained k id).channels = n.channels := by
  unfold notifyDrained
  split
  · rfl
  · dsimp only
    split
    · rfl
    · split
      · rw [channels_completeBarrier]; rfl
      · rfl

theorem coordinator_setCoordinator (k j : Coordinator.Ref) (x : Coordinator) :
    (n.setCoordinator k x).coordinator j = if j = k then x else n.coordinator j := by
  simp only [coordinator, setCoordinator, Store.get_set]

/-- The coordinator that is told notes the channel, and no other coordinator changes. -/
theorem coordinator_notifyDrained (k j : Coordinator.Ref) (id : ChannelId) :
    (n.notifyDrained k id).coordinator j =
      if j = k then (n.coordinator k).note id else n.coordinator j := by
  unfold notifyDrained Coordinator.note
  cases hk : n.coordinator k with
  | drainLog ids => exact coordinator_setCoordinator ..
  | barrier b =>
    dsimp only
    by_cases hid : id ∈ b.drained
    · rw [if_pos hid, if_pos hid, coordinator_emit]
      split <;> simp_all
    · rw [if_neg hid, if_neg hid]
      split
      · rw [coordinator_completeBarrier, coordinator_emit, coordinator_setCoordinator]
      · rw [coordinator_emit, coordinator_setCoordinator]

section
variable {n : Network τ ε} {k : Coordinator.Ref} {b : Barrier} {id : ChannelId}

/-- A barrier that has not heard of enough channels releases nobody, and neither does one that is
told of a channel again. -/
theorem notifyDrained_incomplete (hk : n.coordinator k = .barrier b)
    (h : id ∈ b.drained ∨ b.drained.length + 1 ≠ b.expected) :
    (n.notifyDrained k id).readySets = n.readySets ∧ (n.notifyDrained k id).strands = n.strands ∧
      (n.notifyDrained k id).slots = n.slots := by
  simp only [notifyDrained, hk]
  split
  · exact ⟨rfl, rfl, rfl⟩
  · rename_i hid
    have hlen : (b.note id).drainedCount ≠ (b.note id).expected := by
      simpa [Barrier.note, Barrier.drainedCount, hid] using h
    rw [if_neg hlen]
    exact ⟨rfl, rfl, rfl⟩

/-- A barrier whose slot is resolved releases nobody. -/
theorem notifyDrained_resolved (id : ChannelId) (hk : n.coordinator k = .barrier b)
    (h : (n.slot b.slot).isResolved = true) :
    (n.notifyDrained k id).readySets = n.readySets ∧ (n.notifyDrained k id).strands = n.strands ∧
      (n.notifyDrained k id).slots = n.slots := by
  simp only [notifyDrained, hk]
  split
  · exact ⟨rfl, rfl, rfl⟩
  · split
    · rw [completeBarrier_resolved (n := (n.setCoordinator k _).emit _) (b := b.note id) h]
      exact ⟨rfl, rfl, rfl⟩
    · exact ⟨rfl, rfl, rfl⟩

/-- The barrier that hears of the last channel fills its slot and wakes its sender. -/
theorem notifyDrained_complete (hk : n.coordinator k = .barrier b) (hid : id ∉ b.drained)
    (hlen : b.drained.length + 1 = b.expected) (h : (n.slot b.slot).isResolved = false) :
    ∃ e f, n.notifyDrained k id = ((((n.setCoordinator k (.barrier (b.note id))).emit e).setSlot
      b.slot (.filled .done)).emit f).wake b.strand := by
  have hcount : (b.note id).drainedCount = (b.note id).expected := by
    simpa [Barrier.note, Barrier.drainedCount] using hlen
  simp only [notifyDrained, hk, if_neg hid, if_pos hcount]
  rw [completeBarrier_open (n := (n.setCoordinator k _).emit _) (b := b.note id) h]
  exact ⟨_, _, rfl⟩

end

@[simp] theorem channel_notifyDrained (k : Coordinator.Ref) (id : ChannelId) (c : Channel.Ref) :
    (n.notifyDrained k id).channel c = n.channel c := by
  rw [channel, channels_notifyDrained]

end

end Network

end Rendezvous
