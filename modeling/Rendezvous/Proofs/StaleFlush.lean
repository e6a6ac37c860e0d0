import Rendezvous.Proofs.ChannelEffects
import Rendezvous.Proofs.History

/-!
# Stale registrations

A flush of several channels may end while its sender is still registered with some of them. Such a
registration is inert: nobody can tell whether it is there.

* **Agreement** (`Network.Agree`): two networks that are equal, but for stale registrations that
  only the first one has, for the channels that barriers of ended flushes have heard of, and for the
  log.
* **Steps** (`Agree.change`, `Agree.setSlot`, …): steps that are made on both sides keep the
  agreement. So does a step on one side only that removes a stale registration (`Agree.forget`,
  `Agree.without`) or tells the barrier of an ended flush (`Agree.notifyEnded`).
* **Operations** (`Agree.send`, …, `Agree.failReceive`): each of them answers the same on both sides
  and keeps the agreement.
* **Runs** (`stale_flush_inert`): so does every run.
-/

namespace Rendezvous

variable {τ ε : Type}

namespace Network

/-! ## Agreement -/

/-- A registration whose flush is over: its slot is resolved, and its coordinator is the barrier
that was made for that slot. -/
def Stale (n : Network τ ε) (p : FlushParty) : Prop :=
  (n.slot p.slot).isResolved = true ∧
    ∃ b, n.coordinator p.coordinator = .barrier b ∧ b.slot = p.slot

/-- Two channels that are equal, but for a stale registration that only the first one has. -/
structure ChannelsAgree (n : Network τ ε) (a b : Channel τ ε) : Prop where
  rest : b = { a with flushSender := b.flushSender }
  flushSender : b.flushSender = a.flushSender ∨
    b.flushSender = none ∧ ∀ p, a.flushSender = some p → n.Stale p

/-- Two coordinators that are equal, but for the channels that the barrier of an ended flush has
heard of. -/
def CoordinatorsAgree (n : Network τ ε) (x y : Coordinator) : Prop :=
  y = x ∨ ∃ b drained, x = .barrier b ∧ y = .barrier { b with drained } ∧
    (n.slot b.slot).isResolved = true

/-- Two networks that are equal, but for stale registrations that only the first one has, for the
channels that barriers of ended flushes have heard of, and for the log. -/
structure Agree (n m : Network τ ε) : Prop where
  readySets : m.readySets = n.readySets
  strands : m.strands = n.strands
  slots : m.slots = n.slots
  tables : m.tables = n.tables
  sizeChannels : m.channels.size = n.channels.size
  sizeCoordinators : m.coordinators.size = n.coordinators.size
  channel : ∀ c, n.ChannelsAgree (n.channel c) (m.channel c)
  coordinator : ∀ k, n.CoordinatorsAgree (n.coordinator k) (m.coordinator k)

/-- Two networks that agree, with the same answer. -/
structure Alike {α : Type} (x y : Network τ ε × α) : Prop where
  answer : y.2 = x.2
  agree : Agree x.1 y.1

theorem Alike.exists {α : Type} {x y : Network τ ε × α} (h : Alike x y) :
    ∃ n m a, x = (n, a) ∧ y = (m, a) ∧ Agree n m :=
  ⟨x.1, y.1, x.2, rfl, congrArg (y.1, ·) h.answer, h.agree⟩

variable {n m l : Network τ ε} {c : Channel.Ref} {d : Slot.Ref} {k : Coordinator.Ref}

/-! ### What stays stale -/

/-- What is stale in one network is stale in the other. -/
structure KeepsStale (n m : Network τ ε) : Prop where
  slot : ∀ d, (n.slot d).isResolved = true → (m.slot d).isResolved = true
  barrier : ∀ k b, n.coordinator k = .barrier b →
    ∃ b', m.coordinator k = .barrier b' ∧ b'.slot = b.slot

namespace KeepsStale

theorem of_eq (hd : m.slots = n.slots) (hk : m.coordinators = n.coordinators) :
    n.KeepsStale m := by
  refine ⟨fun d hr => ?_, fun k b hb => ⟨b, ?_, rfl⟩⟩
  · rw [Network.slot, hd]
    exact hr
  · rw [coordinator, hk]
    exact hb

theorem setSlot {x : Slot ε} (hx : (n.slot d).isResolved = true → x.isResolved = true) :
    n.KeepsStale (n.setSlot d x) := by
  refine ⟨fun e he => ?_, fun k b hb => ⟨b, hb, rfl⟩⟩
  rw [slot_setSlot]
  split
  · rename_i heq
    exact hx (heq ▸ he)
  · exact he

/-- A barrier may be replaced by one for the same slot. -/
theorem setCoordinator {x : Coordinator} (hx : ∀ b, n.coordinator k = .barrier b →
      ∃ b', x = .barrier b' ∧ b'.slot = b.slot) : n.KeepsStale (n.setCoordinator k x) := by
  refine ⟨fun d hd => hd, fun j b hb => ?_⟩
  rw [coordinator_setCoordinator]
  split
  · rename_i heq
    exact hx b (heq ▸ hb)
  · exact ⟨b, hb, rfl⟩

end KeepsStale

theorem Stale.later {p : FlushParty} (hp : n.Stale p) (hk : n.KeepsStale m) : m.Stale p := by
  obtain ⟨hd, b, hb, hslot⟩ := hp
  obtain ⟨b', hb', hslot'⟩ := hk.barrier _ b hb
  exact ⟨hk.slot _ hd, b', hb', hslot'.trans hslot⟩

namespace ChannelsAgree

variable {a b : Channel τ ε}

theorem refl (n : Network τ ε) (a : Channel τ ε) : n.ChannelsAgree a a := ⟨rfl, .inl rfl⟩

theorem later (h : n.ChannelsAgree a b) (hk : n.KeepsStale m) : m.ChannelsAgree a b :=
  ⟨h.rest, h.flushSender.imp_right fun hstale =>
    ⟨hstale.1, fun p hp => (hstale.2 p hp).later hk⟩⟩

/-- A function of a channel that does not look at the flushing sender. -/
theorem same (h : n.ChannelsAgree a b) {α : Type} {g : Channel τ ε → α}
    (hg : ∀ (a : Channel τ ε) p, g { a with flushSender := p } = g a) : g b = g a :=
  (congrArg g h.rest).trans (hg a _)

/-- A change that has nothing to do with the flushing sender. -/
theorem map (h : n.ChannelsAgree a b) {f : Channel τ ε → Channel τ ε}
    (hf : ∀ (a : Channel τ ε) p, f { a with flushSender := p } = { f a with flushSender := p }) :
    n.ChannelsAgree (f a) (f b) := by
  have hkeeps : ∀ a : Channel τ ε, (f a).flushSender = a.flushSender := fun a =>
    (congrArg Channel.flushSender (hf a a.flushSender) :)
  refine ⟨?_, ?_⟩
  · rw [hkeeps b, ← hf, ← h.rest]
  · rw [hkeeps a, hkeeps b]
    exact h.flushSender

end ChannelsAgree

theorem CoordinatorsAgree.later {x y : Coordinator} (h : n.CoordinatorsAgree x y)
    (hk : n.KeepsStale m) : m.CoordinatorsAgree x y := by
  obtain rfl | ⟨b, drained, hx, hy, hd⟩ := h
  · exact .inl rfl
  · exact .inr ⟨b, drained, hx, hy, hk.slot _ hd⟩

theorem updateChannel_id (h : c.index < n.channels.size) : n.updateChannel c id = n := by
  rw [updateChannel, setChannel, id, Store.set_get h]

/-- A channel with a registration was written. -/
theorem index_lt_of_flushSender {p : FlushParty} (hp : (n.channel c).flushSender = some p) :
    c.index < n.channels.size := by
  have hwritten : n.channel c ≠ default := fun hdefault => by
    rw [hdefault] at hp
    cases hp
  exact Store.index_lt_size hwritten

/-- A barrier of an ended flush only notes what it is told. -/
theorem notifyDrained_ended {b : Barrier} (hk : n.coordinator k = .barrier b)
    (hd : (n.slot b.slot).isResolved = true) (id : ChannelId) : ∃ drained e,
      n.notifyDrained k id = (n.setCoordinator k (.barrier { b with drained })).emit e := by
  unfold notifyDrained
  rw [hk]
  dsimp only
  split
  · have hwritten : n.coordinator k ≠ default := hk ▸ nofun
    have hself : n.setCoordinator k (.barrier b) = n := by
      rw [← hk, setCoordinator, Store.set_get (Store.index_lt_size hwritten)]
    exact ⟨b.drained, _, congrArg (emit · _) hself.symm⟩
  · split
    · exact ⟨b.drained ++ [id], _,
        completeBarrier_resolved (n := (n.setCoordinator k _).emit _) (b := b.note id) hd⟩
    · exact ⟨b.drained ++ [id], _, rfl⟩

namespace Agree

theorem refl (n : Network τ ε) : Agree n n :=
  ⟨rfl, rfl, rfl, rfl, rfl, rfl, fun _ => .refl n _, fun _ => .inl rfl⟩

theorem slot (h : Agree n m) (d : Slot.Ref) : m.slot d = n.slot d := by rw [Network.slot, h.slots]

theorem strand (h : Agree n m) (s : Strand.Ref) : m.strand s = n.strand s := by
  rw [Network.strand, h.strands]

theorem readySet (h : Agree n m) (q : ReadySet.Ref) : m.readySet q = n.readySet q := by
  rw [Network.readySet, h.readySets]

theorem table (h : Agree n m) (t : Table.Ref) : m.table t = n.table t := by
  rw [Network.table, h.tables]

theorem isResolved (h : Agree n m) (d : Slot.Ref) :
    (m.slot d).isResolved = (n.slot d).isResolved := by rw [h.slot]

theorem isSuspended (h : Agree n m) (s : Strand.Ref) : m.isSuspended s = n.isSuspended s := by
  rw [Network.isSuspended, Network.isSuspended, h.strand]

theorem lookup (h : Agree n m) (t : Table.Ref) (name : String) :
    m.lookup t name = n.lookup t name := by
  rw [Network.lookup, Network.lookup, h.table]

theorem sendCount (h : Agree n m) (c : Channel.Ref) :
    (m.channel c).sendCount = (n.channel c).sendCount :=
  (h.channel c).same (g := Channel.sendCount) fun _ _ => rfl

theorem queue (h : Agree n m) (c : Channel.Ref) : (m.channel c).queue = (n.channel c).queue :=
  (h.channel c).same (g := Channel.queue) fun _ _ => rfl

theorem pending (h : Agree n m) (c : Channel.Ref) :
    (m.channel c).pending = (n.channel c).pending :=
  (h.channel c).same (g := Channel.pending) fun _ _ => rfl

theorem receiver (h : Agree n m) (c : Channel.Ref) :
    (m.channel c).receiver = (n.channel c).receiver :=
  (h.channel c).same (g := Channel.receiver) fun _ _ => rfl

theorem hasReceiver (h : Agree n m) (c : Channel.Ref) :
    (m.channel c).hasReceiver = (n.channel c).hasReceiver :=
  (h.channel c).same (g := Channel.hasReceiver) fun _ _ => rfl

theorem syncSender (h : Agree n m) (c : Channel.Ref) :
    (m.channel c).syncSender = (n.channel c).syncSender :=
  (h.channel c).same (g := Channel.syncSender) fun _ _ => rfl

/-! ## Steps -/

/-- What is written down makes no difference. -/
theorem logs (h : Agree n m) (a b : List Event) : Agree { n with log := a } { m with log := b } :=
  ⟨h.readySets, h.strands, h.slots, h.tables, h.sizeChannels, h.sizeCoordinators,
    fun c => (h.channel c).later (.of_eq rfl rfl), h.coordinator⟩

theorem emit (h : Agree n m) (e e' : Event) : Agree (n.emit e) (m.emit e') := h.logs _ _

theorem emitLeft (h : Agree n m) (e : Event) : Agree (n.emit e) m := h.logs _ m.log

/-! ### Scheduling -/

theorem setReadySet (h : Agree n m) (q : ReadySet.Ref) (x : ReadySet) :
    Agree (n.setReadySet q x) (m.setReadySet q x) :=
  ⟨congrArg (Store.set · q x) h.readySets, h.strands, h.slots, h.tables, h.sizeChannels,
    h.sizeCoordinators, fun c => (h.channel c).later (.of_eq rfl rfl), h.coordinator⟩

theorem setStrand (h : Agree n m) (s : Strand.Ref) (x : Strand) :
    Agree (n.setStrand s x) (m.setStrand s x) :=
  ⟨h.readySets, congrArg (Store.set · s x) h.strands, h.slots, h.tables, h.sizeChannels,
    h.sizeCoordinators, fun c => (h.channel c).later (.of_eq rfl rfl), h.coordinator⟩

theorem setTable (h : Agree n m) (t : Table.Ref) (x : Table) :
    Agree (n.setTable t x) (m.setTable t x) :=
  ⟨h.readySets, h.strands, h.slots, congrArg (Store.set · t x) h.tables, h.sizeChannels,
    h.sizeCoordinators, fun c => (h.channel c).later (.of_eq rfl rfl), h.coordinator⟩

theorem setPhase (h : Agree n m) (s : Strand.Ref) (p : Phase) :
    Agree (n.setPhase s p) (m.setPhase s p) := by
  unfold Network.setPhase
  rw [h.strand]
  exact h.setStrand s _

theorem suspend (h : Agree n m) (s : Strand.Ref) : Agree (n.suspend s) (m.suspend s) := by
  unfold Network.suspend
  rw [h.strand]
  split
  · exact h.setPhase s _
  · exact h.emit _ _

theorem markRunning (h : Agree n m) (s : Strand.Ref) :
    Agree (n.markRunning s) (m.markRunning s) := by
  unfold Network.markRunning
  rw [h.isSuspended]
  split
  · exact h.setPhase s _
  · exact h

theorem enqueue (h : Agree n m) (s : Strand.Ref) : Agree (n.enqueue s) (m.enqueue s) := by
  unfold Network.enqueue
  dsimp only
  rw [h.strand, h.readySet]
  split
  · exact h.setReadySet _ _
  · exact h.emit _ _

theorem wake (h : Agree n m) (s : Strand.Ref) : Agree (n.wake s) (m.wake s) := by
  unfold Network.wake
  rw [h.isSuspended]
  split
  · exact ((h.setPhase s _).emit _ _).enqueue s
  · exact h.emit _ _

theorem dispatch (h : Agree n m) (q : ReadySet.Ref) : Alike (n.dispatch q) (m.dispatch q) := by
  unfold Network.dispatch
  rw [h.readySet]
  split
  · exact ⟨rfl, h⟩
  · exact ⟨rfl, (h.setReadySet q _).setPhase _ _⟩

theorem isClosed (h : Agree n m) (q : ReadySet.Ref) (held : List Strand.Ref) :
    m.isClosed q held = n.isClosed q held := by
  unfold Network.isClosed
  simp only [h.readySet, h.strand]

theorem poll (h : Agree n m) (q : ReadySet.Ref) (held : List Strand.Ref) :
    Alike (n.poll q held) (m.poll q held) := by
  obtain ⟨n', m', s, hn, hm, h'⟩ := (h.dispatch q).exists
  unfold Network.poll
  rw [hn, hm]
  cases s with
  | some s => exact ⟨rfl, h'⟩
  | none =>
    refine ⟨?_, h'⟩
    dsimp only
    rw [h'.isClosed]

/-! ### Channels -/

/-- One channel changes on both sides. -/
theorem change (h : Agree n m) (c : Channel.Ref) {f g : Channel τ ε → Channel τ ε}
    (hc : n.ChannelsAgree (f (n.channel c)) (g (m.channel c))) :
    Agree (n.updateChannel c f) (m.updateChannel c g) := by
  refine ⟨h.readySets, h.strands, h.slots, h.tables, ?_, h.sizeCoordinators, fun x => ?_,
    h.coordinator⟩
  · show (m.channels.set c _).size = (n.channels.set c _).size
    rw [Store.size_set, Store.size_set, h.sizeChannels]
  · refine .later (n := n) ?_ (.of_eq rfl rfl)
    rw [channel_updateChannel, channel_updateChannel]
    split
    · exact hc
    · exact h.channel x

/-- A change that has nothing to do with the flushing sender. -/
theorem update (h : Agree n m) (c : Channel.Ref) {f : Channel τ ε → Channel τ ε}
    (hf : ∀ (a : Channel τ ε) p, f { a with flushSender := p } = { f a with flushSender := p }) :
    Agree (n.updateChannel c f) (m.updateChannel c f) := h.change c ((h.channel c).map hf)

/-- The flushing sender changes on both sides. -/
theorem register (h : Agree n m) (c : Channel.Ref) (p : Option FlushParty) :
    Agree (n.updateChannel c fun channel => { channel with flushSender := p })
      (m.updateChannel c fun channel => { channel with flushSender := p }) := by
  refine h.change c ⟨?_, .inl rfl⟩
  rw [(h.channel c).rest]

/-- A stale registration goes on the first side, if it is not there on the second. -/
theorem forget (h : Agree n m) {p : FlushParty} (hp : (n.channel c).flushSender = some p)
    (hm : (m.channel c).flushSender = none) :
    Agree (n.updateChannel c fun channel => { channel with flushSender := none }) m := by
  have hindex : c.index < m.channels.size := h.sizeChannels ▸ index_lt_of_flushSender hp
  have hchange := h.change c (f := fun channel => { channel with flushSender := none }) (g := id)
    ⟨by rw [id, (h.channel c).rest, hm], .inl hm⟩
  rwa [updateChannel_id hindex] at hchange

/-- A stale registration goes on the second side. -/
theorem without (h : Agree n m) {p : FlushParty} (hp : (n.channel c).flushSender = some p)
    (hs : n.Stale p) :
    Agree n (m.updateChannel c fun channel => { channel with flushSender := none }) := by
  have hchange := h.change c (f := id) (g := fun channel => { channel with flushSender := none })
    ⟨by rw [id, (h.channel c).rest],
      .inr ⟨rfl, fun q hq => Option.some.inj (hp.symm.trans hq) ▸ hs⟩⟩
  rwa [updateChannel_id (index_lt_of_flushSender hp)] at hchange

/-! ### Delivery -/

theorem setSlot (h : Agree n m) {x : Slot ε}
    (hx : (n.slot d).isResolved = true → x.isResolved = true) :
    Agree (n.setSlot d x) (m.setSlot d x) :=
  ⟨h.readySets, h.strands, congrArg (Store.set · d x) h.slots, h.tables, h.sizeChannels,
    h.sizeCoordinators, fun c => (h.channel c).later (.setSlot hx),
    fun k => (h.coordinator k).later (.setSlot hx)⟩

/-- One coordinator changes on both sides. -/
theorem setCoordinator (h : Agree n m) {x y : Coordinator}
    (hx : ∀ b, n.coordinator k = .barrier b → ∃ b', x = .barrier b' ∧ b'.slot = b.slot)
    (hxy : n.CoordinatorsAgree x y) : Agree (n.setCoordinator k x) (m.setCoordinator k y) := by
  refine ⟨h.readySets, h.strands, h.slots, h.tables, h.sizeChannels, ?_,
    fun c => (h.channel c).later (.setCoordinator hx), fun j => ?_⟩
  · show (m.coordinators.set k _).size = (n.coordinators.set k _).size
    rw [Store.size_set, Store.size_set, h.sizeCoordinators]
  · rw [coordinator_setCoordinator, coordinator_setCoordinator]
    split
    · exact hxy
    · exact h.coordinator j

theorem offer (h : Agree n m) (d : Slot.Ref) (r : Resolution ε) :
    Alike (n.offer d r) (m.offer d r) := by
  cases hd : (n.slot d).isResolved with
  | true =>
    rw [offer_resolved r hd, offer_resolved r ((h.isResolved d).trans hd)]
    exact ⟨rfl, h⟩
  | false =>
    rw [offer_open r hd, offer_open r ((h.isResolved d).trans hd)]
    exact ⟨rfl, h.setSlot fun _ => rfl⟩

theorem offered (h : Agree n m) (d : Slot.Ref) (r : Resolution ε) :
    Agree (n.offer d r).1 (m.offer d r).1 := (h.offer d r).agree

theorem deliver (h : Agree n m) (p : Party) (r : Resolution ε) :
    Alike (n.deliver p r) (m.deliver p r) := by
  obtain ⟨n', m', o, hn, hm, h'⟩ := (h.offer p.slot r).exists
  unfold Network.deliver
  rw [hn, hm]
  cases o with
  | none => exact ⟨rfl, h'.wake _⟩
  | some refused => exact ⟨rfl, h'.emit _ _⟩

theorem completeBarrier (h : Agree n m) (b : Barrier) :
    Agree (n.completeBarrier b) (m.completeBarrier b) := by
  obtain ⟨n', m', o, hn, hm, h'⟩ := (h.offer b.slot .done).exists
  unfold Network.completeBarrier
  rw [hn, hm]
  cases o with
  | none => exact (h'.emit _ _).wake _
  | some refused => exact h'

/-- The barrier of an ended flush may be told by one side alone. -/
theorem notifyEnded (h : Agree n m) {b : Barrier} (hk : n.coordinator k = .barrier b)
    (hd : (n.slot b.slot).isResolved = true) (id : ChannelId) : Agree (n.notifyDrained k id) m := by
  obtain ⟨drained, e, he⟩ := notifyDrained_ended hk hd id
  have hwritten : n.coordinator k ≠ default := hk ▸ nofun
  have hindex : k.index < m.coordinators.size := h.sizeCoordinators ▸ Store.index_lt_size hwritten
  have hself : m.setCoordinator k (m.coordinator k) = m := by
    rw [Network.setCoordinator, Store.set_get hindex]
  have hnoted : ∃ drained', m.coordinator k = .barrier { b with drained := drained' } := by
    obtain hsame | ⟨b', drained', hb', hm, -⟩ := h.coordinator k
    · exact ⟨b.drained, hsame.trans hk⟩
    · obtain rfl : b = b' := Coordinator.barrier.inj (hk.symm.trans hb')
      exact ⟨drained', hm⟩
  obtain ⟨drained', hm⟩ := hnoted
  have htold := h.setCoordinator (k := k) (x := .barrier { b with drained })
    (y := m.coordinator k) (fun b' hb' => ⟨_, rfl, by rw [hk] at hb'; cases hb'; rfl⟩)
    (.inr ⟨_, drained', rfl, hm, hd⟩)
  rw [he]
  exact hself ▸ htold.emitLeft e

theorem notifyDrained (h : Agree n m) (k : Coordinator.Ref) (id : ChannelId) :
    Agree (n.notifyDrained k id) (m.notifyDrained k id) := by
  obtain hsame | ⟨b, drained, hn, hm, hd⟩ := h.coordinator k
  · unfold Network.notifyDrained
    rw [hsame]
    cases hk : n.coordinator k with
    | drainLog ids => exact h.setCoordinator (fun b hb => nomatch hk.symm.trans hb) (.inl rfl)
    | barrier b =>
      dsimp only
      split
      · exact h.emit _ _
      · have hnoted : Agree (n.setCoordinator k (.barrier (b.note id)))
            (m.setCoordinator k (.barrier (b.note id))) :=
          h.setCoordinator (fun b' hb' => ⟨_, rfl, by rw [hk] at hb'; cases hb'; rfl⟩) (.inl rfl)
        split
        · exact (hnoted.emit _ _).completeBarrier _
        · exact hnoted.emit _ _
  · obtain ⟨a, e, hna⟩ := notifyDrained_ended hn hd id
    obtain ⟨a', e', hma⟩ := notifyDrained_ended hm ((h.isResolved b.slot).trans hd) id
    rw [hna, hma]
    have htold : Agree (n.setCoordinator k (.barrier { b with drained := a }))
        (m.setCoordinator k (.barrier { b with drained := a' })) :=
      h.setCoordinator (fun b' hb' => ⟨_, rfl, by rw [hn] at hb'; cases hb'; rfl⟩)
        (.inr ⟨_, a', rfl, rfl, hd⟩)
    exact htold.emit e e'

/-! ## Transfer -/

theorem wakeReceiver (h : Agree n m) (c : Channel.Ref) :
    Agree (n.wakeReceiver c) (m.wakeReceiver c) := by
  unfold Network.wakeReceiver
  rw [h.receiver]
  split
  · exact h
  · exact ((h.update c fun _ _ => rfl).emit _ _).wake _

theorem send (h : Agree n m) (c : Channel.Ref) (value : τ) (s : Strand.Ref) :
    Agree (n.send c value s) (m.send c value s) :=
  ((h.update c fun _ _ => rfl).emit _ _).wakeReceiver c

theorem parkSyncSender (h : Agree n m) (c : Channel.Ref) (p : Party) :
    Agree (n.parkSyncSender c p) (m.parkSyncSender c p) := by
  have suspended := h.suspend p.strand
  have parked : Agree _ _ := suspended.update c
    (f := fun channel => { channel with syncSender := some p }) fun _ _ => rfl
  unfold Network.parkSyncSender
  dsimp only
  rw [suspended.syncSender]
  split
  · exact parked
  · exact parked.emit _ _

theorem syncSend (h : Agree n m) (c : Channel.Ref) (value : τ) (s : Strand.Ref) (d : Slot.Ref) :
    Alike (n.syncSend c value s d) (m.syncSend c value s d) := by
  have sent : Agree (n.updateChannel c (·.enqueue ⟨value, true⟩))
      (m.updateChannel c (·.enqueue ⟨value, true⟩)) := h.update c fun _ _ => rfl
  have hreceiver : ((m.channel c).enqueue ⟨value, true⟩).hasReceiver =
      ((n.channel c).enqueue ⟨value, true⟩).hasReceiver := h.hasReceiver c
  have hpending : ((m.channel c).enqueue ⟨value, true⟩).pending =
      ((n.channel c).enqueue ⟨value, true⟩).pending := h.pending c
  simp only [Network.syncSend, channel_emit, channel_updateChannel_self, hpending]
  by_cases hr : ((n.channel c).enqueue ⟨value, true⟩).hasReceiver = true
  · rw [if_pos hr, if_pos (hreceiver.trans hr)]
    exact ⟨rfl, ((sent.emit _ _).parkSyncSender c _).wakeReceiver c⟩
  · rw [if_neg hr, if_neg (fun hm => hr (hreceiver.symm.trans hm))]
    split
    · refine ⟨rfl, offered (update (emit (update (sent.emit _ _) c ?_) _ _) c ?_) d _⟩
      iterate 2 exact fun _ _ => rfl
    · exact ⟨rfl, (sent.emit _ _).parkSyncSender c _⟩

theorem releaseSyncSender (h : Agree n m) (c : Channel.Ref) :
    Agree (n.releaseSyncSender c) (m.releaseSyncSender c) := by
  unfold Network.releaseSyncSender
  rw [h.syncSender]
  split
  · exact h.emit _ _
  · exact (((h.update c fun _ _ => rfl).emit _ _).deliver _ _).agree

/-- A stale sender for whom the channel drains tells the barrier of its ended flush. -/
theorem noteDrained (h : Agree n m) (c : Channel.Ref) :
    Agree (n.noteDrained c) (m.noteDrained c) := by
  have hcount : (m.channel c).recvCount = (n.channel c).recvCount :=
    (h.channel c).same (g := Channel.recvCount) fun _ _ => rfl
  unfold Network.noteDrained Channel.drainedSender?
  rw [hcount]
  obtain hsame | ⟨hnone, hstale⟩ := (h.channel c).flushSender
  · rw [hsame]
    split
    · exact h
    · exact ((h.register c none).emit _ _).notifyDrained _ _
  · rw [hnone]
    cases hp : (n.channel c).flushSender.filter (·.threshold == (n.channel c).recvCount) with
    | none => exact h
    | some p =>
      have hregistered := Option.eq_some_of_filter_eq_some hp
      obtain ⟨hd, b, hb, hslot⟩ := hstale p hregistered
      exact ((h.forget hregistered hnone).emitLeft _).notifyEnded hb (hslot ▸ hd) c.id

theorem receiveMessage (h : Agree n m) (c : Channel.Ref) (s : Strand.Ref) (msg : Message τ)
    (rest : List (Message τ)) :
    Agree (n.receiveMessage c s msg rest) (m.receiveMessage c s msg rest) := by
  have counted : Agree (n.countMessage c s rest) (m.countMessage c s rest) :=
    (h.update c fun _ _ => rfl).emit _ _
  rw [receiveMessage_eq, receiveMessage_eq]
  refine noteDrained ?_ c
  unfold takeMessage
  split
  · exact counted.releaseSyncSender c
  · exact counted

theorem parkReceiver (h : Agree n m) (c : Channel.Ref) (s : Strand.Ref) :
    Agree (n.parkReceiver c s) (m.parkReceiver c s) := by
  unfold Network.parkReceiver
  dsimp only
  refine emit (update (suspend ?_ s) c fun _ _ => rfl) _ _
  rw [h.receiver]
  split
  · exact h
  · split
    · exact h
    · exact h.emit _ _

theorem receive (h : Agree n m) (c : Channel.Ref) (s : Strand.Ref) :
    Alike (n.receive c s) (m.receive c s) := by
  have harrived : (m.channel c).arrived? = (n.channel c).arrived? :=
    (h.channel c).same (g := Channel.arrived?) fun _ _ => rfl
  unfold Network.receive
  rw [h.queue, harrived]
  split
  · exact ⟨rfl, h.receiveMessage c s _ _⟩
  · split
    · exact ⟨rfl, (h.update c fun _ _ => rfl).emit _ _⟩
    · exact ⟨rfl, h.parkReceiver c s⟩

/-! ## Flushing -/

/-- A sender that takes the place of a stale one is registered like one that takes a free place. -/
theorem parkFlushSender (h : Agree n m) (c : Channel.Ref) (p : Party) (k : Coordinator.Ref) :
    Agree (n.parkFlushSender c p k) (m.parkFlushSender c p k) := by
  have parked : ∀ e e', Agree
      (((n.emit e).suspend p.strand).updateChannel c fun channel => { channel with
        flushSender := some { p with threshold := (n.channel c).sendCount, coordinator := k } })
      (((m.emit e').suspend p.strand).updateChannel c fun channel => { channel with
        flushSender := some { p with threshold := (n.channel c).sendCount, coordinator := k } }) :=
    fun e e' => ((h.emit e e').suspend p.strand).register c _
  unfold Network.parkFlushSender
  dsimp only
  rw [h.sendCount]
  split <;> split
  · exact parked _ _
  · exact (parked _ _).logs _ _
  · exact (parked _ _).logs _ _
  · exact (parked _ _).emit _ _

theorem flush (h : Agree n m) (c : Channel.Ref) (s : Strand.Ref) (d : Slot.Ref)
    (k : Coordinator.Ref) : Alike (n.flush c s d k) (m.flush c s d k) := by
  have hdrained : (m.channel c).isDrained = (n.channel c).isDrained :=
    (h.channel c).same (g := Channel.isDrained) fun _ _ => rfl
  unfold Network.flush
  rw [h.pending, hdrained]
  split
  · exact ⟨rfl, ((h.update c fun _ _ => rfl).emit _ _).offered d _⟩
  · split
    · exact ⟨rfl, (h.emit _ _).notifyDrained k _⟩
    · exact ⟨rfl, h.parkFlushSender c _ k⟩

theorem withdrawFlush (h : Agree n m) (d : Slot.Ref) (c : Channel.Ref) :
    Agree (n.withdrawFlush d c) (m.withdrawFlush d c) := by
  unfold Network.withdrawFlush
  obtain hsame | ⟨hnone, -⟩ := (h.channel c).flushSender
  · rw [hsame]
    split
    · exact h
    · split
      · exact (h.emit _ _).register c none
      · exact h
  · rw [hnone]
    split
    · exact h
    · rename_i p hp
      split
      · exact (h.emitLeft _).forget hp hnone
      · exact h

theorem withdrawAll (h : Agree n m) (d : Slot.Ref) (cs : List Channel.Ref) :
    Agree (cs.foldl (·.withdrawFlush d) n) (cs.foldl (·.withdrawFlush d) m) := by
  induction cs generalizing n m with
  | nil => exact h
  | cons c cs ih => exact ih (h.withdrawFlush d c)

theorem flushEach (h : Agree n m) (s : Strand.Ref) (d : Slot.Ref) (k : Coordinator.Ref)
    (asked rest : List Channel.Ref) (parked : Bool) :
    Alike (n.flushEach s d k asked rest parked) (m.flushEach s d k asked rest parked) := by
  induction rest generalizing n m asked parked with
  | nil => exact ⟨rfl, h⟩
  | cons c rest ih =>
    obtain ⟨n', m', ended, hn, hm, h'⟩ := (h.flush c s d k).exists
    rw [Network.flushEach, Network.flushEach, hn, hm]
    dsimp only
    rw [h'.isResolved]
    split
    · have withdrawn := h'.withdrawAll d (asked ++ [c])
      split
      · exact ⟨withdrawn.isSuspended s, withdrawn.markRunning s⟩
      · exact ⟨rfl, withdrawn⟩
    · exact ih h' _ _

theorem createBarrier (h : Agree n m) (s : Strand.Ref) (d : Slot.Ref) (expected : Nat) :
    Alike (n.createBarrier s d expected) (m.createBarrier s d expected) := by
  have hfresh : m.coordinators.fresh = n.coordinators.fresh :=
    congrArg Reference.nth h.sizeCoordinators
  refine ⟨hfresh, ?_⟩
  unfold Network.createBarrier
  rw [hfresh]
  refine h.setCoordinator (fun b hb => ?_) (.inl rfl)
  rw [Network.coordinator, Store.get_fresh] at hb
  cases hb

theorem flushAll (h : Agree n m) (cs : List Channel.Ref) (s : Strand.Ref) (d : Slot.Ref) :
    Alike (n.flushAll cs s d) (m.flushAll cs s d) := by
  obtain ⟨n', m', k, hn, hm, h'⟩ :=
    (h.createBarrier s d (cs.map (·.id)).eraseDups.length).exists
  unfold Network.flushAll
  dsimp only
  rw [hn, hm]
  split
  · exact ⟨rfl, h.offered d _⟩
  · exact h'.flushEach s d k _ _ _

/-! ## Failing -/

theorem storeFailure (h : Agree n m) (c : Channel.Ref) (f : Failure ε) :
    Agree (n.storeFailure c f) (m.storeFailure c f) := by
  have stored : Agree _ _ := h.update c
    (f := fun channel => { channel with pending := channel.pending.put f }) fun _ _ => rfl
  unfold Network.storeFailure
  dsimp only
  rw [h.pending]
  split
  · exact stored.emit _ _
  · exact stored

theorem failSend (h : Agree n m) (c : Channel.Ref) (f : Failure ε) :
    Agree (n.failSend c f) (m.failSend c f) :=
  (((h.update c fun _ _ => rfl).emit _ _).storeFailure c f).wakeReceiver c

/-- A stale sender hands the failure on unchanged. -/
theorem failFlushSender (h : Agree n m) (c : Channel.Ref) (f : Failure ε) :
    Alike (n.failFlushSender c f) (m.failFlushSender c f) := by
  unfold Network.failFlushSender
  obtain hsame | ⟨hnone, hstale⟩ := (h.channel c).flushSender
  · rw [hsame]
    cases (n.channel c).flushSender with
    | none => exact ⟨rfl, h⟩
    | some p =>
      obtain ⟨n', m', o, hn, hm, h'⟩ := ((h.register c none).deliver p.toParty (.failed f)).exists
      dsimp only
      rw [hn, hm]
      cases o with
      | none => exact ⟨rfl, h'.emit _ _⟩
      | some refused =>
        dsimp only
        split
        · exact ⟨rfl, h'.emit _ _⟩
        · exact ⟨rfl, h'⟩
  · rw [hnone]
    cases hp : (n.channel c).flushSender with
    | none => exact ⟨rfl, h⟩
    | some p =>
      dsimp only
      rw [deliver_resolved _ ((slot_updateChannel ..).symm ▸ (hstale p hp).1)]
      exact ⟨rfl, (h.forget hp hnone).logs _ m.log⟩

theorem failSyncSender (h : Agree n m) (c : Channel.Ref) (f : Failure ε) :
    Alike (n.failSyncSender c f) (m.failSyncSender c f) := by
  unfold Network.failSyncSender
  rw [h.syncSender]
  split
  · exact ⟨rfl, h⟩
  · rename_i p _
    have cleared : Agree _ _ := h.update c
      (f := fun channel => { channel with syncSender := none }) fun _ _ => rfl
    obtain ⟨n', m', o, hn, hm, h'⟩ := (cleared.deliver p (.failed f)).exists
    dsimp only
    rw [hn, hm]
    cases o with
    | none => exact ⟨rfl, (h'.emit _ _).update c fun _ _ => rfl⟩
    | some refused => exact ⟨rfl, h'⟩

theorem retainFailure (h : Agree n m) (c : Channel.Ref) (f : Failure ε) :
    Agree (n.retainFailure c f) (m.retainFailure c f) := by
  have hretain : (m.channel c).retainReceiveFailures = (n.channel c).retainReceiveFailures :=
    (h.channel c).same (g := Channel.retainReceiveFailures) fun _ _ => rfl
  unfold Network.retainFailure
  rw [hretain]
  split
  · exact (h.emit _ _).storeFailure c f
  · exact h.emit _ _

theorem failReceive (h : Agree n m) (c : Channel.Ref) (f : Failure ε) :
    Agree (n.failReceive c f) (m.failReceive c f) := by
  have counted : Agree (n.countReceiveFailure c f) (m.countReceiveFailure c f) :=
    (h.update c fun _ _ => rfl).emit _ _
  obtain ⟨n', m', o, hn, hm, flushed⟩ := (counted.failFlushSender c f).exists
  unfold countReceiveFailure at hn hm
  unfold Network.failReceive
  dsimp only at hn hm ⊢
  rw [hn, hm]
  cases o with
  | none => exact flushed
  | some g =>
    obtain ⟨n'', m'', o', hn', hm', synced⟩ := (flushed.failSyncSender c g).exists
    dsimp only
    rw [hn', hm']
    cases o' with
    | none => exact synced
    | some g' => exact synced.retainFailure c g'

/-! ## Calls and runs -/

theorem operate (h : Agree n m) (c : Channel.Ref) (op : Operation τ ε) :
    Alike (n.operate c op) (m.operate c op) := by
  cases op with
  | send value s => exact ⟨rfl, h.send c value s⟩
  | syncSend value s d =>
    have sent := h.syncSend c value s d
    exact ⟨congrArg Outcome.completed sent.answer, sent.agree⟩
  | receive s =>
    have received := h.receive c s
    exact ⟨congrArg Outcome.received received.answer, received.agree⟩
  | flush s d k =>
    have flushed := h.flush c s d k
    exact ⟨congrArg Outcome.completed flushed.answer, flushed.agree⟩
  | failSend f => exact ⟨rfl, h.failSend c f⟩
  | failReceive f => exact ⟨rfl, h.failReceive c f⟩

theorem createChannel (h : Agree n m) (options : ChannelOptions) :
    Alike (n.createChannel options) (m.createChannel options) := by
  have hfresh : m.channels.fresh = n.channels.fresh := congrArg Reference.nth h.sizeChannels
  refine ⟨hfresh, ?_⟩
  unfold Network.createChannel
  rw [hfresh]
  have created : Agree _ _ := h.change n.channels.fresh (f := fun _ => .create options)
    (g := fun _ => .create options) (.refl n _)
  exact created.emit _ _

theorem lookupOrCreate (h : Agree n m) (t : Table.Ref) (name : String) :
    Alike (n.lookupOrCreate t name) (m.lookupOrCreate t name) := by
  unfold Network.lookupOrCreate
  rw [h.lookup, h.table]
  split
  · exact ⟨rfl, h⟩
  · obtain ⟨n', m', c, hn, hm, h'⟩ := (h.createChannel ((n.table t).options.withName name)).exists
    rw [hn, hm]
    dsimp only
    rw [h'.table]
    exact ⟨rfl, h'.setTable t _⟩

theorem perform (h : Agree n m) (call : Call τ ε) : Alike (n.perform call) (m.perform call) := by
  cases call with
  | createReadySet =>
    refine ⟨(congrArg Store.fresh h.readySets :), ?_⟩
    show Agree (n.setReadySet n.readySets.fresh {}) (m.setReadySet m.readySets.fresh {})
    exact h.readySets ▸ h.setReadySet _ _
  | createStrand name home =>
    refine ⟨(congrArg Store.fresh h.strands :), ?_⟩
    show Agree (n.setStrand n.strands.fresh { name, home })
      (m.setStrand m.strands.fresh { name, home })
    exact h.strands ▸ h.setStrand _ _
  | createSlot =>
    refine ⟨(congrArg Store.fresh h.slots :), ?_⟩
    show Agree (n.setSlot n.slots.fresh .empty) (m.setSlot m.slots.fresh .empty)
    rw [h.slots]
    refine h.setSlot fun hd => ?_
    rw [Network.slot, Store.get_fresh] at hd
    cases hd
  | createTable options =>
    refine ⟨(congrArg Store.fresh h.tables :), ?_⟩
    show Agree (n.setTable n.tables.fresh { options }) (m.setTable m.tables.fresh { options })
    exact h.tables ▸ h.setTable _ _
  | createChannel options => exact h.createChannel options
  | createDrainLog =>
    have hfresh : m.coordinators.fresh = n.coordinators.fresh :=
      congrArg Reference.nth h.sizeCoordinators
    refine ⟨hfresh, ?_⟩
    show Agree (n.setCoordinator n.coordinators.fresh (.drainLog []))
      (m.setCoordinator m.coordinators.fresh (.drainLog []))
    rw [hfresh]
    refine h.setCoordinator (fun b hb => ?_) (.inl rfl)
    rw [Network.coordinator, Store.get_fresh] at hb
    cases hb
  | createBarrier s d expected => exact h.createBarrier s d expected
  | dropScheduler q =>
    refine ⟨rfl, ?_⟩
    show Agree (n.setReadySet q (n.readySet q).dropScheduler)
      (m.setReadySet q (m.readySet q).dropScheduler)
    rw [h.readySet]
    exact h.setReadySet q _
  | dropConsumer q =>
    refine ⟨rfl, ?_⟩
    show Agree (n.setReadySet q (n.readySet q).dropConsumer)
      (m.setReadySet q (m.readySet q).dropConsumer)
    rw [h.readySet]
    exact h.setReadySet q _
  | dispatch q => exact h.dispatch q
  | poll q held => exact h.poll q held
  | wake s => exact ⟨h.isSuspended s, h.wake s⟩
  | markRunning s => exact ⟨h.isSuspended s, h.markRunning s⟩
  | resume s => exact ⟨rfl, h.setPhase s .running⟩
  | offer d r => exact h.offer d r
  | take d =>
    refine ⟨congrArg (Slot.take · |>.1) (h.slot d), ?_⟩
    show Agree (n.setSlot d (n.slot d).take.2) (m.setSlot d (m.slot d).take.2)
    rw [h.slot]
    exact h.setSlot fun hd => (Slot.isResolved_take _).trans hd
  | operate c op => exact h.operate c op
  | notifyDrained k id => exact ⟨rfl, h.notifyDrained k id⟩
  | flushAll cs s d => exact h.flushAll cs s d
  | lookup t name => exact ⟨h.lookup t name, h⟩
  | lookupOrCreate t name => exact h.lookupOrCreate t name
  | unlink t name =>
    refine ⟨h.lookup t name, ?_⟩
    show Agree (n.setTable t ((n.table t).erase name)) (m.setTable t ((m.table t).erase name))
    rw [h.table]
    exact h.setTable t _

end Agree

/-- A stale registration makes no difference. Two networks that agree give the same answers to the
same calls, and agree after each of them. -/
theorem stale_flush_inert (h : Agree n m) (calls : List (Call τ ε)) :
    m.history calls = n.history calls ∧ Agree (n.run calls) (m.run calls) := by
  induction calls generalizing n m with
  | nil => exact ⟨rfl, h⟩
  | cons call calls ih =>
    have performed := h.perform call
    obtain ⟨hhistory, hagree⟩ := ih performed.agree
    have hfirst : m.exchange call = n.exchange call :=
      congrArg (Exchange.mk call) performed.answer
    refine ⟨?_, hagree⟩
    rw [history_cons, history_cons, hfirst, hhistory]

/-- A flush of three channels fails on the first one, and stays registered with the others. A
failure and the last value that it waited for meet these registrations. -/
theorem stale_flush_inert_failed_elsewhere :
    let n := ({} : Network Nat String).run [
      .createReadySet,
      .createStrand (some "tx") ⟨0⟩,
      .createStrand (some "rx") ⟨0⟩,
      .createSlot,
      .createSlot,
      .createChannel {},
      .createChannel { retainReceiveFailures := true },
      .createChannel {},
      .operate ⟨0⟩ (.send 1 ⟨0⟩),
      .operate ⟨1⟩ (.send 2 ⟨0⟩),
      .operate ⟨2⟩ (.send 3 ⟨0⟩),
      .flushAll [⟨0⟩, ⟨1⟩, ⟨2⟩] ⟨0⟩ ⟨0⟩,
      .operate ⟨0⟩ (.failReceive (.panic "gone")),
      .dispatch ⟨0⟩]
    let clear : Channel Nat String → Channel Nat String :=
      fun channel => { channel with flushSender := none }
    let m := (n.updateChannel ⟨1⟩ clear).updateChannel ⟨2⟩ clear
    let calls : List (Call Nat String) := [
      .operate ⟨1⟩ (.syncSend 4 ⟨0⟩ ⟨1⟩),
      .operate ⟨1⟩ (.failReceive (.error "late")),
      .operate ⟨2⟩ (.receive ⟨1⟩),
      .dispatch ⟨0⟩,
      .take ⟨1⟩]
    (n.channel ⟨1⟩).hasFlushSender = true ∧ (n.channel ⟨2⟩).hasFlushSender = true ∧ n.Agree m ∧
      m.history calls = n.history calls ∧ (n.run calls).Agree (m.run calls) ∧
      ((n.run calls).log ≠ (m.run calls).log) := by
  intro n clear m calls
  have hagree : n.Agree m :=
    ((Agree.refl n).without (c := ⟨1⟩) rfl ⟨rfl, _, rfl, rfl⟩).without (c := ⟨2⟩) rfl
      ⟨rfl, _, rfl, rfl⟩
  obtain ⟨hhistory, hruns⟩ := stale_flush_inert hagree calls
  exact ⟨rfl, rfl, hagree, hhistory, hruns, by decide⟩

end Network

end Rendezvous
