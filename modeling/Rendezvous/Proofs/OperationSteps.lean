import Rendezvous.Proofs.Steps

/-!
# The steps of an operation

What an operation can do, in terms of whom it finds registered when it begins. Whatever is true of
the steps that are listed here is true of all operations.

* **Counting** (`Network.counted`, `Network.Counting`): first an operation takes or consumes a place
  in the stream, if it does so at all.
* **The rest** (`Network.Does`): then it reports (`Network.Reports`), registers and suspends whom it
  is passed, wakes the receiver, releases suspended senders (`Network.Frees`), tells coordinators
  (`Network.Notifies`), or passes on a pending failure (`Network.EndsWith`).
* **Operations** (`steps_operate`): that is all that an operation does.
* **Several channels** (`Steps.flushAll`): a flush of several channels is made of a new barrier and
  of the flushes of each channel.
* **Calls** (`Steps.perform`): most calls are made of steps too.
-/

namespace Rendezvous

variable {τ ε : Type}

namespace Operation

/-- The strand that an operation may suspend. -/
def waiter? : Operation τ ε → Option Strand.Ref
  | .syncSend _ s _ | .receive s | .flush s _ _ => some s
  | .send .. | .failSend _ | .failReceive _ => none

/-- Whether an operation gives the receiver something to receive. -/
def wakesReceiver : Operation τ ε → Bool
  | .send .. | .syncSend .. | .failSend _ => true
  | .receive _ | .flush .. | .failReceive _ => false

/-- Whether an operation reports a failure. -/
def fails : Operation τ ε → Bool
  | .failSend _ | .failReceive _ => true
  | .send .. | .syncSend .. | .receive _ | .flush .. => false

end Operation

namespace Network

variable (n : Network τ ε) (c : Channel.Ref)

/-- What is next has been taken from the channel. Nobody has noticed yet. -/
def countReceive (s : Strand.Ref) : Network τ ε :=
  match (n.channel c).queue with
  | _ :: rest => n.countMessage c s rest
  | [] =>
    match (n.channel c).arrived? with
    | some (f, pending) => n.receiveFailure c s f pending
    | none => n

/-- The network once an operation has taken or consumed its place in the stream, if it does. -/
def counted : Operation τ ε → Network τ ε
  | .send value s =>
    let n := n.updateChannel c (·.enqueue ⟨value, false⟩)
    n.emit (.sent (n.channelTag c) (n.strandTag s) (n.channel c).sendCount)
  | .syncSend value s _ =>
    let n := n.updateChannel c (·.enqueue ⟨value, true⟩)
    n.emit (.syncSent (n.channelTag c) (n.strandTag s) (n.channel c).sendCount)
  | .receive s => n.countReceive c s
  | .flush .. => n
  | .failSend f =>
    let n := n.updateChannel c (·.countSent)
    n.emit (.sendFailed (n.channelTag c) f.kind (n.channel c).sendCount)
  | .failReceive f => n.countReceiveFailure c f

/-- A place is counted by a change to the channel and by an event. -/
inductive Counting (m : Network τ ε) : Step τ ε → Prop where
  | update {f : Channel τ ε → Channel τ ε}
      (hr : (m.channel c).Registers (fun _ => False) (fun _ => False) (fun _ => False)
        (f (m.channel c)))
      (ho : (f (m.channel c)).options = (m.channel c).options) : Counting m (.update c f)
  | emit {e : Event} (he : e.isCount = true) : Counting m (.emit e)

/-- The coordinators that an operation tells that the channel has drained. -/
inductive Notifies : Operation τ ε → Coordinator.Ref → Prop where
  | passed {s : Strand.Ref} {d : Slot.Ref} {k : Coordinator.Ref} : Notifies (.flush s d k) k
  | registered {s : Strand.Ref} {p : FlushParty} (hp : (n.channel c).flushSender = some p)
      (hdue : p.threshold = (n.channel c).recvCount + 1) : Notifies (.receive s) p.coordinator

/-- The suspended senders that an operation releases, and what their slots get. -/
inductive Frees : Operation τ ε → Party → Resolution ε → Prop where
  | received {s : Strand.Ref} {p : Party} (hp : (n.channel c).syncSender = some p) :
      Frees (.receive s) p .done
  | drained {op : Operation τ ε} {k : Coordinator.Ref} {b : Barrier} (hk : n.Notifies c op k)
      (hb : n.coordinator k = .barrier b) : Frees op ⟨b.strand, b.slot⟩ .done
  | failedFlush {f : Failure ε} {p : FlushParty} (hp : (n.channel c).flushSender = some p) :
      Frees (.failReceive f) p.toParty (.failed f)
  | failedSync {f : Failure ε} {p : Party} (hp : (n.channel c).syncSender = some p) :
      Frees (.failReceive f) p (.failed f)

/-- The pending failures with which an operation ends at once, and the slots that get them. -/
inductive EndsWith : Operation τ ε → Slot.Ref → Failure ε → Prop where
  | syncSend {value : τ} {s : Strand.Ref} {d : Slot.Ref} {f : Failure ε} {rest : Pending ε}
      (hr : (n.channel c).hasReceiver = false) (hp : (n.channel c).pending.take? = some (f, rest)) :
      EndsWith (.syncSend value s d) d f
  | flush {s : Strand.Ref} {d : Slot.Ref} {k : Coordinator.Ref} {f : Failure ε} {rest : Pending ε}
      (hp : (n.channel c).pending.take? = some (f, rest)) : EndsWith (.flush s d k) d f

/-- The events that an operation reports after it has counted its place. Warnings need a cause. -/
inductive Reports : Operation τ ε → Event → Prop where
  | plain {op : Operation τ ε} {e : Event} (he : e.isPlain = true) : Reports op e
  | lost {op : Operation τ ε} {e : Event} (hop : op.fails = true) (he : e.isLoss = true) :
      Reports op e
  | syncSenderReplaced {value : τ} {s : Strand.Ref} {d : Slot.Ref} {x : ChannelTag} {y : StrandTag}
      (h : (n.channel c).syncSender ≠ none) :
      Reports (.syncSend value s d) (.syncSenderReplaced x y)
  | syncOrphaned {s : Strand.Ref} {msg : Message τ} {rest : List (Message τ)} {x : ChannelTag}
      (hq : (n.channel c).queue = msg :: rest) (hsync : msg.sync = true)
      (h : (n.channel c).syncSender = none) : Reports (.receive s) (.syncOrphaned x)
  | receiverDisplaced {s : Strand.Ref} {x : ChannelTag} {y z : StrandTag}
      (h : (n.channel c).receiver ≠ none) : Reports (.receive s) (.receiverDisplaced x y z)
  | flushSenderReplaced {s : Strand.Ref} {d : Slot.Ref} {k : Coordinator.Ref} {p : FlushParty}
      {x : ChannelTag} {y : StrandTag} (h : (n.channel c).flushSender = some p) :
      Reports (.flush s d k) (.flushSenderReplaced x y (n.slot p.slot).isResolved)
  | drainRepeated {op : Operation τ ε} {k : Coordinator.Ref} {x : StrandTag}
      (hk : n.Notifies c op k) (h : (n.coordinator k).Knows c.id) :
      Reports op (.drainRepeated c.id x)

/-- The steps that an operation makes after it has counted its place. -/
inductive Does (op : Operation τ ε) (m : Network τ ε) : Step τ ε → Prop where
  | emit {e : Event} (he : n.Reports c op e) : Does op m (.emit e)
  | suspend {s : Strand.Ref} (hs : op.waiter? = some s) : Does op m (.suspend s)
  | wakeReceiver {s : Strand.Ref} (hop : op.wakesReceiver = true)
      (hs : (n.channel c).receiver = some s) : Does op m (.wake s)
  | wake {p : Party} {r : Resolution ε} (hp : n.Frees c op p r)
      (ho : (n.slot p.slot).isResolved = false) : Does op m (.wake p.strand)
  | release {p : Party} {r : Resolution ε} (hp : n.Frees c op p r)
      (ho : (n.slot p.slot).isResolved = false) (hm : (m.slot p.slot).isResolved = false) :
      Does op m (.fill p.slot r)
  | settle {d : Slot.Ref} {f : Failure ε} (hd : n.EndsWith c op d f)
      (hm : (m.slot d).isResolved = false) : Does op m (.fill d (.failed f))
  | update {f : Channel τ ε → Channel τ ε}
      (hf : (m.channel c).Follows (op.waiter? = some ·) (· ∈ op.slots) (· ∈ op.coordinators)
        (f (m.channel c))) : Does op m (.update c f)
  | coordinate {k : Coordinator.Ref} (hk : n.Notifies c op k) :
      Does op m (.coordinate k ((m.coordinator k).note c.id))

variable {n c}

theorem steps_counted (op : Operation τ ε) : Steps (Counting c) n (n.counted c op) := by
  have once : ∀ {f : Channel τ ε → Channel τ ε} {e : Event},
      (n.channel c).Registers (fun _ => False) (fun _ => False) (fun _ => False)
        (f (n.channel c)) → (f (n.channel c)).options = (n.channel c).options →
      e.isCount = true → Steps (Counting c) n ((n.updateChannel c f).emit e) :=
    fun hr ho he => (Steps.refl.update (.update hr ho)).emit (.emit he)
  cases op with
  | receive s =>
    show Steps (Counting c) n (n.countReceive c s)
    unfold countReceive
    split
    · exact once (.less (.inl rfl) (.inl rfl) (.inl rfl)) rfl rfl
    · split
      · exact once (.less (.inl rfl) (.inl rfl) (.inl rfl)) rfl rfl
      · exact .refl
  | flush => exact .refl
  | _ => exact once (.less (.inl rfl) (.inl rfl) (.inl rfl)) rfl rfl

theorem lenient_does (op : Operation τ ε) : Lenient (n.Does c op) (· = c) where
  emit he := .emit (.plain he)
  update hc hf := hc ▸ .update ⟨hf.registers.mono nofun nofun nofun, hf.options, hf.sendCount,
    hf.recvCount⟩

theorem EndsWith.mem_slots {op : Operation τ ε} {d : Slot.Ref} {f : Failure ε}
    (h : n.EndsWith c op d f) : d ∈ op.slots := by
  cases h <;> exact List.mem_singleton_self d

theorem Does.releasing {op : Operation τ ε} {p : Party} {r : Resolution ε} (hp : n.Frees c op p r)
    (ho : (n.slot p.slot).isResolved = false) : Releasing (n.Does c op) p r :=
  ⟨.release hp ho, .wake hp ho⟩

theorem Does.unresolved {op : Operation τ ε} {m : Network τ ε} {d : Slot.Ref} {r : Resolution ε}
    (h : n.Does c op m (.fill d r)) : (m.slot d).isResolved = false := by
  cases h with
  | release _ _ hm => exact hm
  | settle _ hm => exact hm

theorem Does.informing {op : Operation τ ε} {k : Coordinator.Ref} (hk : n.Notifies c op k) :
    Informing (n.Does c op) n k c.id where
  note := .coordinate hk
  again h := .emit (.drainRepeated hk h)
  complete _ hb := Does.releasing (.drained hk hb)

theorem steps_send (value : τ) (s : Strand.Ref) :
    Steps (n.Does c (.send value s)) (n.counted c (.send value s)) (n.send c value s) := by
  refine Steps.refl.wakeReceiver (lenient_does _) rfl fun t ht => .wakeReceiver rfl ?_
  rw [counted, channel_emit, channel_updateChannel_self] at ht
  exact ht

theorem steps_syncSend (value : τ) (s : Strand.Ref) (d : Slot.Ref) :
    Steps (n.Does c (.syncSend value s d)) (n.counted c (.syncSend value s d))
      (n.syncSend c value s d).1 := by
  have hchannel : (n.counted c (.syncSend value s d)).channel c =
      (n.channel c).enqueue ⟨value, true⟩ := by
    rw [counted, channel_emit, channel_updateChannel_self]
  have parked : Steps (n.Does c (.syncSend value s d)) (n.counted c (.syncSend value s d))
      ((n.counted c (.syncSend value s d)).parkSyncSender c ⟨s, d⟩) := by
    refine Steps.refl.parkSyncSender (.suspend rfl) (.update ⟨⟨fun _ => .inl, fun p hp => ?_,
      fun _ => .inl⟩, rfl, rfl, rfl⟩) fun h => .emit (.syncSenderReplaced ?_)
    · cases hp
      exact .inr ⟨rfl, List.mem_singleton_self d⟩
    · rw [hchannel] at h
      exact h
  -- The same, as it stands in the definition of `syncSend`.
  have henqueued := hchannel
  rw [counted] at henqueued
  unfold syncSend
  dsimp only
  rw [henqueued]
  split
  · refine parked.wakeReceiver (lenient_does _) rfl fun t ht => .wakeReceiver rfl ?_
    rw [channel_parkSyncSender, if_pos rfl, hchannel] at ht
    exact ht
  · rename_i hr
    split
    · rename_i hp
      refine .offer (.update (.emit (.update .refl ?_) (.emit (.plain rfl))) ?_)
        (.settle (.syncSend (Bool.eq_false_iff.2 hr) hp))
      · exact .update ⟨.less (.inl rfl) (.inl rfl) (.inl rfl), rfl, rfl, rfl⟩
      · exact .update ⟨.less (.inl rfl) (.inl rfl) (.inl rfl), rfl, rfl, rfl⟩
    · exact parked

/-- What is left to do once a value has been taken from the channel. -/
theorem steps_receiveMessage {msg : Message τ} {rest : List (Message τ)}
    (hq : (n.channel c).queue = msg :: rest) (s : Strand.Ref) :
    Steps (n.Does c (.receive s)) (n.countMessage c s rest) (n.receiveMessage c s msg rest) := by
  have taken : Steps (n.Does c (.receive s)) (n.countMessage c s rest)
      (n.takeMessage c s msg rest) :=
    Steps.refl.takeMessage (lenient_does _) rfl
      (fun hsync hnone => .emit (.syncOrphaned hq hsync hnone))
      fun _ hp ho => Does.releasing (.received hp) ho
  rw [receiveMessage_eq]
  refine taken.noteDrained (lenient_does _) rfl fun p hp => ?_
  rw [channel_takeMessage, if_pos rfl, Channel.drainedSender?, Option.filter_eq_some_iff,
    beq_iff_eq] at hp
  have hk : n.Notifies c (.receive s) p.coordinator := .registered hp.1 hp.2
  refine ⟨(Does.informing hk).note, fun hknows => ?_, fun b hb ho => ?_⟩
  · rw [coordinator_takeMessage] at hknows
    exact (Does.informing hk).again hknows
  · rw [coordinator_takeMessage] at hb
    exact (Does.informing hk).complete b hb (taken.unresolved Does.unresolved ho)

theorem steps_receive (s : Strand.Ref) :
    Steps (n.Does c (.receive s)) (n.countReceive c s) (n.receive c s).1 := by
  cases hq : (n.channel c).queue with
  | cons msg rest =>
    simp only [countReceive, receive, hq]
    exact steps_receiveMessage hq s
  | nil =>
    cases ha : (n.channel c).arrived? with
    | some arrived =>
      simp only [countReceive, receive, hq, ha]
      exact .refl
    | none =>
      simp only [countReceive, receive, hq, ha]
      refine Steps.refl.parkReceiver (lenient_does _) (.suspend rfl)
        (.update ⟨⟨fun t ht => .inr ?_, fun _ => .inl, fun _ => .inl⟩, rfl, rfl, rfl⟩)
        fun h => .emit (.receiverDisplaced h)
      exact ht

theorem steps_flush (s : Strand.Ref) (d : Slot.Ref) (k : Coordinator.Ref) :
    Steps (n.Does c (.flush s d k)) n (n.flush c s d k).1 := by
  have hP : Lenient (n.Does c (.flush s d k)) (· = c) := lenient_does _
  unfold flush
  split
  · rename_i hp
    refine .offer (.emit (.update .refl ?_) (.emit (.plain rfl))) (.settle (.flush hp))
    exact .update ⟨.less (.inl rfl) (.inl rfl) (.inl rfl), rfl, rfl, rfl⟩
  · split
    · have hk := Does.informing (n := n) (c := c) (.passed (s := s) (d := d) (k := k))
      exact (Steps.refl.emit (hP.emit rfl)).notifyDrained hP ⟨hk.note, hk.again, hk.complete⟩
    · refine Steps.refl.parkFlushSender hP (.suspend rfl)
        (.update ⟨⟨fun _ => .inl, fun _ => .inl, fun p hp => ?_⟩, rfl, rfl, rfl⟩)
        fun q hq => .emit (.flushSenderReplaced hq)
      cases hp
      exact .inr ⟨rfl, List.mem_singleton_self d, List.mem_singleton_self k⟩

theorem steps_failSend (f : Failure ε) :
    Steps (n.Does c (.failSend f)) (n.counted c (.failSend f)) (n.failSend c f) := by
  have hP : Lenient (n.Does c (.failSend f)) (· = c) := lenient_does _
  refine (Steps.refl.storeFailure hP rfl f (.emit (.lost rfl rfl))).wakeReceiver hP rfl
    fun t ht => .wakeReceiver rfl ?_
  rw [channel_storeFailure, if_pos rfl, counted, channel_emit, channel_updateChannel_self] at ht
  exact ht

theorem steps_failReceive (f : Failure ε) :
    Steps (n.Does c (.failReceive f)) (n.countReceiveFailure c f) (n.failReceive c f) := by
  have hP : Lenient (n.Does c (.failReceive f)) (· = c) := lenient_does _
  have hcounted : (n.countReceiveFailure c f).channel c =
      { n.channel c with recvCount := (n.channel c).recvCount + 1 } := by
    rw [channel_countReceiveFailure, if_pos rfl]
  have flushed : Steps (n.Does c (.failReceive f)) (n.countReceiveFailure c f)
      ((n.countReceiveFailure c f).failFlushSender c f).1 := by
    refine Steps.refl.failFlushSender hP rfl fun p hp ho => ?_
    rw [hcounted] at hp
    exact Does.releasing (.failedFlush hp) ho
  have hchannel := channel_failFlushSender (n.countReceiveFailure c f) c c f
  rw [if_pos rfl, hcounted] at hchannel
  -- The failure that a stale flushing sender hands back is the one that it was offered.
  have synced : ∀ m, (n.countReceiveFailure c f).failFlushSender c f = (m, some f) →
      Steps (n.Does c (.failReceive f)) (n.countReceiveFailure c f) (m.failSyncSender c f).1 := by
    intro m hm
    rw [hm] at flushed hchannel
    refine flushed.failSyncSender hP rfl fun p hp ho => ?_
    rw [hchannel] at hp
    exact Does.releasing (.failedSync hp) (flushed.unresolved Does.unresolved ho)
  refine failReceive_cases (fun m hm => ?_) (fun m g l hm hl => ?_) fun m g l g' hm hl => ?_
  · rw [hm] at flushed
    exact flushed
  · obtain ⟨hno, -⟩ | ⟨hon, -⟩ := failFlushSender_cases hm
    · cases hno
    · cases hon
      have hsync := synced m hm
      rw [hl] at hsync
      exact hsync
  · obtain ⟨hno, -⟩ | ⟨hon, -⟩ := failFlushSender_cases hm
    · cases hno
    · cases hon
      have hsync := synced m hm
      rw [hl] at hsync
      exact hsync.retainFailure hP rfl g' fun he => .emit (.lost rfl he)

/-- What an operation does after it has counted its place. -/
theorem steps_of_counted (op : Operation τ ε) :
    Steps (n.Does c op) (n.counted c op) (n.operate c op).1 := by
  cases op with
  | send value s => exact steps_send value s
  | syncSend value s d => exact steps_syncSend value s d
  | receive s => exact steps_receive s
  | flush s d k => exact steps_flush s d k
  | failSend f => exact steps_failSend f
  | failReceive f => exact steps_failReceive f

/-- What an operation does, counting first. -/
theorem steps_operate {P : Network τ ε → Step τ ε → Prop} {op : Operation τ ε}
    (hcount : ∀ {m x}, Counting c m x → P m x) (hdoes : ∀ {m x}, n.Does c op m x → P m x) :
    Steps P n (n.operate c op).1 :=
  ((steps_counted op).mono fun _ _ => hcount).trans ((steps_of_counted op).mono fun _ _ => hdoes)

/-! ## Flushing several channels -/

/-- A flush tells the coordinator of a channel without a pending failure on which nothing is left to
receive, and of no other. -/
theorem coordinator_flush (s : Strand.Ref) (d : Slot.Ref) (k j : Coordinator.Ref) :
    (n.flush c s d k).1.coordinator j =
      if (n.channel c).pending.take? = none ∧ (n.channel c).isDrained = true ∧ j = k
        then (n.coordinator k).note c.id else n.coordinator j := by
  unfold flush
  split
  · rename_i hp
    rw [coordinator_offer, coordinator_emit, coordinator_updateChannel, hp, if_neg nofun]
  · rename_i hp
    split
    · rename_i hd
      rw [coordinator_notifyDrained, coordinator_emit, coordinator_emit]
      simp only [hp, hd, true_and]
    · rename_i hd
      unfold parkFlushSender
      dsimp only
      split <;> simp [hd]

/-- Whether a coordinator, if it is a barrier, releases that strand through that slot. -/
def Releases (n : Network τ ε) (k : Coordinator.Ref) (s : Strand.Ref) (d : Slot.Ref) : Prop :=
  ∀ b, n.coordinator k = .barrier b → b.strand = s ∧ b.slot = d

theorem releases_createBarrier (n : Network τ ε) (s : Strand.Ref) (d : Slot.Ref) (expected : Nat) :
    (n.createBarrier s d expected).1.Releases n.coordinators.fresh s d := by
  intro b hb
  rw [createBarrier, coordinator_setCoordinator, if_pos rfl] at hb
  cases hb
  exact ⟨rfl, rfl⟩

/-- Whom a barrier releases does not change while it is told of channels. -/
theorem releases_note {k : Coordinator.Ref} {s : Strand.Ref} {d : Slot.Ref} {m : Network τ ε}
    (id : ChannelId) (h : n.Releases k s d)
    (hm : m.coordinator k = n.coordinator k ∨ m.coordinator k = (n.coordinator k).note id) :
    m.Releases k s d := by
  intro b hb
  obtain hm | hm := hm
  · exact h b (hm ▸ hb)
  · rw [hm] at hb
    cases hk : n.coordinator k with
    | drainLog ids => rw [hk] at hb; cases hb
    | barrier b' =>
      rw [hk, Coordinator.note] at hb
      cases hb
      have hb' := h b' hk
      split <;> exact hb'

namespace Steps

variable {P : Network τ ε → Step τ ε → Prop} {C : Channel.Ref → Prop} {m : Network τ ε}
  {s : Strand.Ref} {d : Slot.Ref}

/-- Channels are flushed with a barrier that releases the sender, and nobody else. -/
theorem flushEach (h : Steps P n m) (hP : Lenient P C) {k : Coordinator.Ref}
    {asked rest : List Channel.Ref} {parked : Bool} (hs : ∀ {l}, P l (.markRunning s))
    (hk : m.Releases k s d) (ha : ∀ c ∈ asked, C c) (hr : ∀ c ∈ rest, C c)
    (flush : ∀ l c, C c → l.Releases k s d → Steps P l (l.flush c s d k).1) :
    Steps P n (m.flushEach s d k asked rest parked).1 := by
  induction rest generalizing m asked parked with
  | nil => exact h
  | cons c rest ih =>
    have flushed := h.trans (flush m c (hr c List.mem_cons_self) hk)
    have hk' : (m.flush c s d k).1.Releases k s d := by
      refine releases_note c.id hk ?_
      rw [coordinator_flush]
      split
      · exact .inr rfl
      · exact .inl rfl
    have ha' : ∀ x ∈ asked ++ [c], C x := by
      intro x hx
      obtain hx | hx := List.mem_append.1 hx
      · exact ha x hx
      · exact List.mem_singleton.1 hx ▸ hr c List.mem_cons_self
    rw [Network.flushEach]
    dsimp only
    split
    · split
      · exact (flushed.withdrawAll hP d ha').markRunning hs
      · exact flushed.withdrawAll hP d ha'
    · exact ih flushed hk' ha' fun x hx => hr x (List.mem_cons_of_mem _ hx)

theorem flushAll {cs : List Channel.Ref} (hP : Lenient P C) (hcs : ∀ c ∈ cs, C c)
    (hs : ∀ {l}, P l (.markRunning s))
    (hd : (n.slot d).isResolved = false → P n (.fill d .done))
    (hk : cs ≠ [] → ∀ expected, P n (.coordinate n.coordinators.fresh
      (.barrier { strand := s, slot := d, expected })))
    (flush : cs ≠ [] → ∀ l c, C c → l.Releases n.coordinators.fresh s d →
      Steps P l (l.flush c s d n.coordinators.fresh).1) :
    Steps P n (n.flushAll cs s d).1 := by
  unfold Network.flushAll
  dsimp only
  split
  · exact Steps.refl.offer hd
  · rename_i hlen
    have hne : cs ≠ [] := fun hnil => hlen (hnil ▸ rfl)
    have created : Steps P n (n.createBarrier s d (cs.map (·.id)).eraseDups.length).1 :=
      Steps.refl.coordinate (hk hne _)
    exact created.flushEach hP hs (n.releases_createBarrier s d _) nofun hcs (flush hne)

end Steps

end Network

/-! ## Calls -/

namespace Step

/-- Whether a step changes no channel and no table, and reports no more than what becomes of a
strand. -/
def isFree : Step τ ε → Bool
  | .suspend _ | .markRunning _ | .wake _ | .fill .. | .coordinate .. => true
  | .emit _ | .update .. | .setTable .. => false

end Step

namespace Call

/-- Whether a call is made of steps: it neither creates a strand, a slot, a channel or a ready set,
nor dispatches, nor takes anything out of a slot. -/
def isMove : Call τ ε → Bool
  | .createDrainLog | .createBarrier .. | .createTable _ | .wake _ | .markRunning _ | .offer ..
  | .operate .. | .notifyDrained .. | .flushAll .. | .lookup .. | .unlink .. => true
  | _ => false

/-- Whether a call is about a table. -/
def isOnTable : Call τ ε → Bool
  | .createTable _ | .lookup .. | .lookupOrCreate .. | .unlink .. => true
  | _ => false

end Call

namespace Network

/-- Whether all free steps are allowed, what is done to a channel anyway, whichever it is, and the
report of a repeated notification. -/
structure Tolerant (P : Network τ ε → Step τ ε → Prop) : Prop extends
    Lenient P fun _ => True where
  free : ∀ {m x}, x.isFree = true → P m x
  again : ∀ {m id s}, P m (.emit (.drainRepeated id s))

/-- A call is made of steps, and so are the operations in it. -/
theorem Steps.perform {P : Network τ ε → Step τ ε → Prop} {n : Network τ ε} {call : Call τ ε}
    (h : call.isMove = true) (hP : Tolerant P)
    (htable : call.isOnTable = true → ∀ {t x}, P n (.setTable t x))
    (flush : ∀ m c s d k, Steps P m (m.flush c s d k).1)
    (operate : ∀ c op, call = .operate c op → Steps P n (n.operate c op).1) :
    Steps P n (n.perform call).1 := by
  have informing : ∀ k id, Informing P n k id := fun k id =>
    ⟨hP.free rfl, fun _ => hP.again, fun _ _ _ => ⟨fun _ => hP.free rfl, hP.free rfl⟩⟩
  cases call with
  | createDrainLog => exact Steps.refl.coordinate (hP.free rfl)
  | createBarrier s d expected => exact Steps.refl.coordinate (hP.free rfl)
  | createTable options => exact Steps.refl.step (.setTable _ _) (htable rfl)
  | wake s => exact Steps.refl.wake (hP.free rfl)
  | markRunning s => exact Steps.refl.markRunning (hP.free rfl)
  | offer d r => exact Steps.refl.offer fun _ => hP.free rfl
  | operate c op => exact operate c op rfl
  | notifyDrained k id => exact Steps.refl.notifyDrained hP.toLenient (informing k id)
  | flushAll cs s d =>
    exact Steps.flushAll hP.toLenient (fun _ _ => trivial) (hP.free rfl) (fun _ => hP.free rfl)
      (fun _ _ => hP.free rfl) fun _ l c _ _ => flush l c s d _
  | lookup => exact .refl
  | unlink t name => exact Steps.refl.step (.setTable _ _) (htable rfl)
  | _ => cases h

end Network

end Rendezvous
