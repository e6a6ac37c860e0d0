import Rendezvous.Proofs.Frame

/-!
# What the operations do to channels

Each operation acts on one channel. Here is the channel that it leaves behind, in closed form.

* **Sending** (`channel_send`, `channel_syncSend`): the value is put at the end of the queue.
* **Receiving** (`channel_receive`): the head of the queue, or the failure that has arrived, is
  taken.
* **Flushing** (`channel_flush`, `channel_withdrawFlush`): a pending failure is taken, or the sender
  is registered, or nothing changes. A flush of several channels does nothing else to any of them
  (`flushAll_keeps`).
* **Failing** (`channel_failSend`, `channel_failReceive`): the registrations and the pending
  failures change, and no value does.
-/

namespace Rendezvous

/-- Writing what is there already. -/
theorem Channel.with_flushSender_self {τ ε : Type} {channel : Channel τ ε} {p : Option FlushParty}
    (h : channel.flushSender = p) : { channel with flushSender := p } = channel := by
  rw [← h]

/-- Writing what is there already. -/
theorem Channel.with_syncSender_self {τ ε : Type} {channel : Channel τ ε} {p : Option Party}
    (h : channel.syncSender = p) : { channel with syncSender := p } = channel := by
  rw [← h]

namespace Network

variable {τ ε : Type} (n : Network τ ε) (c x : Channel.Ref)

/-! ## Sending -/

theorem channel_wakeReceiver : (n.wakeReceiver c).channel x =
    if x = c then { n.channel c with receiver := none } else n.channel x := by
  unfold wakeReceiver
  split
  · rename_i h
    by_cases hx : x = c
    · subst hx; rw [if_pos rfl, ← h]
    · rw [if_neg hx]
  · simp only [channel_wake, channel_emit, channel_updateChannel]

theorem channel_send (value : τ) (s : Strand.Ref) : (n.send c value s).channel x =
    if x = c then { (n.channel c).enqueue ⟨value, false⟩ with receiver := none }
    else n.channel x := by
  simp only [send, channel_wakeReceiver, channel_emit, channel_updateChannel, if_true]
  split <;> rfl

theorem channel_parkSyncSender (p : Party) : (n.parkSyncSender c p).channel x =
    if x = c then { n.channel c with syncSender := some p } else n.channel x := by
  unfold parkSyncSender
  dsimp only
  split <;> simp only [channel_emit, channel_updateChannel, channel_suspend]

/-- A receiver that waits is woken, and the sender waits for it. -/
theorem channel_syncSend_of_hasReceiver (value : τ) (s : Strand.Ref) (d : Slot.Ref)
    (h : (n.channel c).hasReceiver = true) : (n.syncSend c value s d).1.channel c =
      { (n.channel c).enqueue ⟨value, true⟩ with syncSender := some ⟨s, d⟩, receiver := none } := by
  have hr : ((n.channel c).enqueue ⟨value, true⟩).hasReceiver = true := h
  simp only [syncSend, channel_emit, channel_updateChannel_self, if_pos hr, channel_wakeReceiver,
    channel_parkSyncSender, if_true]

/-- A pending failure ends the wait of the sender before it begins. -/
theorem channel_syncSend_of_pending (value : τ) (s : Strand.Ref) (d : Slot.Ref)
    (h : (n.channel c).hasReceiver = false) {f : Failure ε} {pending : Pending ε}
    (hp : (n.channel c).pending.take? = some (f, pending)) :
    (n.syncSend c value s d).1.channel c =
      { (n.channel c).enqueue ⟨value, true⟩ with pending }.releaseNewest := by
  have hr : ((n.channel c).enqueue ⟨value, true⟩).hasReceiver = false := h
  have hp' : ((n.channel c).enqueue ⟨value, true⟩).pending.take? = some (f, pending) := hp
  simp only [syncSend, channel_emit, channel_updateChannel_self, hr, hp', Bool.false_eq_true,
    if_false, channel_offer]

/-- Without a receiver and a failure the sender is registered. -/
theorem channel_syncSend_of_idle (value : τ) (s : Strand.Ref) (d : Slot.Ref)
    (h : (n.channel c).hasReceiver = false) (hp : (n.channel c).pending.take? = none) :
    (n.syncSend c value s d).1.channel c =
      { (n.channel c).enqueue ⟨value, true⟩ with syncSender := some ⟨s, d⟩ } := by
  have hr : ((n.channel c).enqueue ⟨value, true⟩).hasReceiver = false := h
  have hp' : ((n.channel c).enqueue ⟨value, true⟩).pending.take? = none := hp
  simp only [syncSend, channel_emit, channel_updateChannel_self, hr, hp', Bool.false_eq_true,
    if_false, channel_parkSyncSender, if_true]

/-- The send is over on the spot if a failure is pending and no receiver was waiting. -/
theorem ended_syncSend (value : τ) (s : Strand.Ref) (d : Slot.Ref) : (n.syncSend c value s d).2 =
    (!(n.channel c).hasReceiver && (n.channel c).pending.take?.isSome) := by
  have hr : ((n.channel c).enqueue ⟨value, true⟩).hasReceiver = (n.channel c).hasReceiver := rfl
  have hp : ((n.channel c).enqueue ⟨value, true⟩).pending = (n.channel c).pending := rfl
  simp only [syncSend, channel_emit, channel_updateChannel_self, hr, hp]
  cases (n.channel c).hasReceiver <;> cases (n.channel c).pending.take? <;> rfl

variable {n c} in
/-- The value is put at the end of the queue. The sender waits for it, unless a failure is pending
and no receiver was waiting. -/
theorem channel_syncSend {P : Channel τ ε → Prop} (value : τ) (s : Strand.Ref) (d : Slot.Ref)
    (receiver : (n.channel c).hasReceiver = true →
      P { (n.channel c).enqueue ⟨value, true⟩ with syncSender := some ⟨s, d⟩, receiver := none })
    (pending : ∀ f pending, (n.channel c).hasReceiver = false →
      (n.channel c).pending.take? = some (f, pending) →
        P { (n.channel c).enqueue ⟨value, true⟩ with pending }.releaseNewest)
    (idle : (n.channel c).hasReceiver = false → (n.channel c).pending.take? = none →
      P { (n.channel c).enqueue ⟨value, true⟩ with syncSender := some ⟨s, d⟩ }) :
    P ((n.syncSend c value s d).1.channel c) := by
  cases hr : (n.channel c).hasReceiver with
  | true =>
    rw [channel_syncSend_of_hasReceiver n c value s d hr]
    exact receiver hr
  | false =>
    cases hp : (n.channel c).pending.take? with
    | some taken =>
      rw [channel_syncSend_of_pending n c value s d hr hp]
      exact pending taken.1 taken.2 hr hp
    | none =>
      rw [channel_syncSend_of_idle n c value s d hr hp]
      exact idle hr hp

/-! ## Receiving -/

theorem channel_releaseSyncSender : (n.releaseSyncSender c).channel x =
    if x = c then { n.channel c with syncSender := none } else n.channel x := by
  unfold releaseSyncSender
  split
  · rename_i h
    by_cases hx : x = c
    · subst hx; rw [if_pos rfl, ← h, channel_emit]
    · rw [if_neg hx, channel_emit]
  · simp only [channel_deliver, channel_emit, channel_updateChannel]

theorem channel_noteDrained : (n.noteDrained c).channel x =
    if x = c then { n.channel c with
      flushSender := (n.channel c).flushSender.filter (·.threshold != (n.channel c).recvCount) }
    else n.channel x := by
  unfold noteDrained Channel.drainedSender?
  cases hf : (n.channel c).flushSender with
  | none =>
    simp only [Option.filter_none, Channel.with_flushSender_self hf]
    split <;> simp_all
  | some p =>
    by_cases hp : p.threshold = (n.channel c).recvCount
    · simp [Option.filter_some, hp, channel_updateChannel]
    · simp only [Option.filter_some, beq_iff_eq, hp, if_false, bne_iff_ne, ne_eq,
        not_false_eq_true, if_true, Channel.with_flushSender_self hf]
      split <;> simp_all

/-- A value has been taken from the queue, and `rest` is behind it. -/
def countMessage (s : Strand.Ref) (rest : List (Message τ)) : Network τ ε :=
  let n := n.updateChannel c fun channel => { channel with queue := rest }.countReceived
  n.emit (.received (n.channelTag c) (n.strandTag s) (n.channel c).recvCount)

theorem channel_countMessage (s : Strand.Ref) (rest : List (Message τ)) :
    (n.countMessage c s rest).channel x = if x = c then { n.channel c with
      queue := rest
      recvCount := (n.channel c).recvCount + 1 } else n.channel x := by
  simp only [countMessage, channel_emit, channel_updateChannel]
  rfl

/-- The value has reached the receiver, and the sender that waited for it has been released. Nobody
has noticed yet whether the channel has drained. -/
def takeMessage (s : Strand.Ref) (m : Message τ) (rest : List (Message τ)) : Network τ ε :=
  if m.sync then (n.countMessage c s rest).releaseSyncSender c else n.countMessage c s rest

theorem receiveMessage_eq (s : Strand.Ref) (m : Message τ) (rest : List (Message τ)) :
    n.receiveMessage c s m rest = (n.takeMessage c s m rest).noteDrained c := rfl

theorem channel_takeMessage (s : Strand.Ref) (m : Message τ) (rest : List (Message τ)) :
    (n.takeMessage c s m rest).channel x = if x = c then { n.channel c with
      queue := rest
      recvCount := (n.channel c).recvCount + 1
      syncSender := if m.sync then none else (n.channel c).syncSender } else n.channel x := by
  unfold takeMessage
  cases hm : m.sync with
  | true =>
    simp only [if_true, channel_releaseSyncSender, channel_countMessage]
    split <;> rfl
  | false => simp only [Bool.false_eq_true, if_false, channel_countMessage]

theorem coordinator_releaseSyncSender (k : Coordinator.Ref) :
    (n.releaseSyncSender c).coordinator k = n.coordinator k := by
  unfold releaseSyncSender
  split
  · rfl
  · rw [coordinator_deliver, coordinator_emit, coordinator_updateChannel]

theorem coordinator_takeMessage (s : Strand.Ref) (m : Message τ) (rest : List (Message τ))
    (k : Coordinator.Ref) : (n.takeMessage c s m rest).coordinator k = n.coordinator k := by
  unfold takeMessage
  split
  · exact coordinator_releaseSyncSender _ c k
  · rfl

/-- The channel after its first message was received, with the queue `rest` behind it. -/
theorem channel_receiveMessage (s : Strand.Ref) (m : Message τ) (rest : List (Message τ)) :
    (n.receiveMessage c s m rest).channel x =
      if x = c then { n.channel c with
        queue := rest
        recvCount := (n.channel c).recvCount + 1
        syncSender := if m.sync then none else (n.channel c).syncSender
        flushSender := (n.channel c).flushSender.filter
          (·.threshold != (n.channel c).recvCount + 1) }
      else n.channel x := by
  rw [receiveMessage_eq, channel_noteDrained, channel_takeMessage, channel_takeMessage, if_pos rfl]
  split <;> rfl

theorem channel_receiveFailure (s : Strand.Ref) (f : Failure ε) (pending : Pending ε) :
    (n.receiveFailure c s f pending).channel x =
      if x = c then { n.channel c with pending, recvCount := (n.channel c).recvCount + 1 }
      else n.channel x := by
  simp only [receiveFailure, channel_emit, channel_updateChannel]
  rfl

theorem channel_parkReceiver (s : Strand.Ref) : (n.parkReceiver c s).channel x =
    if x = c then { n.channel c with receiver := some s } else n.channel x := by
  unfold parkReceiver
  simp only [channel_emit, channel_updateChannel, channel_suspend]
  cases (n.channel c).receiver with
  | none => rfl
  | some other => by_cases h : other = s <;> simp only [h, ↓reduceIte, channel_emit]

variable {n c} in
/-- A value that is next in the queue is received. -/
theorem receive_of_queue {m : Message τ} {rest : List (Message τ)}
    (hq : (n.channel c).queue = m :: rest) (s : Strand.Ref) :
    n.receive c s = (n.receiveMessage c s m rest, .value m.value) := by
  simp only [receive, hq]

variable {n c} in
theorem operate_receive_of_queue {m : Message τ} {rest : List (Message τ)}
    (hq : (n.channel c).queue = m :: rest) (s : Strand.Ref) : n.operate c (.receive s) =
      (n.receiveMessage c s m rest, .received (.value m.value)) := by
  simp only [operate, receive_of_queue hq]
  rfl

variable {n c} in
/-- The head of the queue is received, or the failure that has arrived, or the receiver is
registered. -/
theorem channel_receive {P : Channel τ ε → Received τ ε → Prop} (s : Strand.Ref)
    (value : ∀ m rest, (n.channel c).queue = m :: rest → P { n.channel c with
      queue := rest
      recvCount := (n.channel c).recvCount + 1
      syncSender := if m.sync then none else (n.channel c).syncSender
      flushSender :=
        (n.channel c).flushSender.filter (·.threshold != (n.channel c).recvCount + 1) }
      (.value m.value))
    (failure : ∀ f pending, (n.channel c).queue = [] →
      (n.channel c).sendCount = (n.channel c).recvCount + 1 →
      (n.channel c).pending.take? = some (f, pending) →
        P { n.channel c with pending, recvCount := (n.channel c).recvCount + 1 } (.failed f))
    (nothing : (n.channel c).queue = [] → (n.channel c).arrived? = none →
      P { n.channel c with receiver := some s } .retry) :
    P ((n.receive c s).1.channel c) (n.receive c s).2 := by
  unfold receive
  split
  · rename_i m rest hq
    have hchannel := value m rest hq
    rw [channel_receiveMessage, if_pos rfl]
    exact hchannel
  · rename_i hq
    split
    · rename_i f pending ha
      rw [channel_receiveFailure, if_pos rfl]
      unfold Channel.arrived? at ha
      split at ha
      · rename_i hone
        exact failure f pending hq hone ha
      · cases ha
    · rename_i ha
      rw [channel_parkReceiver, if_pos rfl]
      exact nothing hq ha

/-! ## Flushing -/

theorem channel_parkFlushSender (p : Party) (k : Coordinator.Ref) :
    (n.parkFlushSender c p k).channel x =
      if x = c then { n.channel c with
        flushSender := some { p with threshold := (n.channel c).sendCount, coordinator := k } }
      else n.channel x := by
  unfold parkFlushSender
  dsimp only
  split <;> simp only [channel_emit, channel_updateChannel, channel_suspend]

/-- A flush takes a pending failure, or registers the sender, or leaves the channel as it is. -/
theorem channel_flush (s : Strand.Ref) (d : Slot.Ref) (k : Coordinator.Ref) :
    (n.flush c s d k).1.channel x =
      if x = c then match (n.channel c).pending.take? with
        | some (_, pending) => { n.channel c with pending }
        | none => if (n.channel c).isDrained then n.channel c else
          { n.channel c with flushSender := some ⟨⟨s, d⟩, (n.channel c).sendCount, k⟩ }
      else n.channel x := by
  cases h : (n.channel c).pending.take? with
  | some r =>
    obtain ⟨f, pending⟩ := r
    simp only [flush, h, channel_offer, channel_emit, channel_updateChannel]
  | none =>
    by_cases hd : (n.channel c).isDrained = true
    · simp only [flush, h, hd, ↓reduceIte, channel_notifyDrained, channel_emit]
      split <;> simp_all
    · simp only [flush, h, hd, Bool.false_eq_true, ↓reduceIte, channel_parkFlushSender]

theorem channel_withdrawFlush (d : Slot.Ref) : (n.withdrawFlush d c).channel x =
    if x = c then { n.channel c with
      flushSender := (n.channel c).flushSender.filter (·.slot ≠ d) } else n.channel x := by
  unfold withdrawFlush
  cases hf : (n.channel c).flushSender with
  | none =>
    simp only [Option.filter_none, Channel.with_flushSender_self hf]
    split <;> simp_all
  | some p =>
    by_cases hp : p.slot = d
    · simp [Option.filter_some, hp, channel_updateChannel]
    · simp only [Option.filter_some, hp, if_false, decide_eq_true_eq, ne_eq, not_false_eq_true,
        if_true, Channel.with_flushSender_self hf]
      split <;> simp_all

/-! ## Flushing several channels -/

/-- What flushes and withdrawals keep of a channel, a flush of several channels keeps too. -/
theorem flushAll_keeps {P : Channel τ ε → Prop} {c : Channel.Ref}
    (flush : ∀ (m : Network τ ε) (s : Strand.Ref) (d : Slot.Ref) (k : Coordinator.Ref),
      P (m.channel c) → P ((m.flush c s d k).1.channel c))
    (withdraw : ∀ (channel : Channel τ ε) (d : Slot.Ref), P channel →
      P { channel with flushSender := channel.flushSender.filter (·.slot ≠ d) })
    (cs : List Channel.Ref) (s : Strand.Ref) (d : Slot.Ref) (h : P (n.channel c)) :
    P ((n.flushAll cs s d).1.channel c) := by
  have flushed : ∀ (m : Network τ ε) (x : Channel.Ref) (k : Coordinator.Ref),
      P (m.channel c) → P ((m.flush x s d k).1.channel c) := by
    intro m x k hm
    by_cases hx : c = x
    · exact hx ▸ flush m s d k hm
    · rw [channel_flush, if_neg hx]
      exact hm
  have withdrawn : ∀ (xs : List Channel.Ref) (m : Network τ ε),
      P (m.channel c) → P ((xs.foldl (·.withdrawFlush d) m).channel c) := by
    intro xs
    induction xs with
    | nil => exact fun _ hm => hm
    | cons x xs ih =>
      refine fun m hm => ih _ ?_
      rw [channel_withdrawFlush]
      split
      · rename_i hx
        exact hx ▸ withdraw (m.channel c) d hm
      · exact hm
  have asked : ∀ (rest asked : List Channel.Ref) (m : Network τ ε) (k : Coordinator.Ref)
      (parked : Bool), P (m.channel c) → P ((m.flushEach s d k asked rest parked).1.channel c) := by
    intro rest
    induction rest with
    | nil => exact fun _ _ _ _ hm => hm
    | cons x rest ih =>
      intro asked m k parked hm
      have hx := flushed m x k hm
      rw [flushEach]
      dsimp only
      split
      · have hw := withdrawn (asked ++ [x]) _ hx
        split
        · rw [channel_markRunning]
          exact hw
        · exact hw
      · exact ih _ _ _ _ hx
  unfold flushAll
  dsimp only
  split
  · rw [channel_offer]
    exact h
  · exact asked cs [] (n.createBarrier s d _).1 _ false h

/-! ## Failing -/

theorem channel_storeFailure (f : Failure ε) : (n.storeFailure c f).channel x =
    if x = c then { n.channel c with pending := (n.channel c).pending.put f }
    else n.channel x := by
  unfold storeFailure
  dsimp only
  split <;> simp only [channel_emit, channel_updateChannel]

theorem channel_failSend (f : Failure ε) : (n.failSend c f).channel x =
    if x = c then { n.channel c with
      sendCount := (n.channel c).sendCount + 1
      pending := (n.channel c).pending.put f
      receiver := none } else n.channel x := by
  simp only [failSend, channel_wakeReceiver, channel_storeFailure, channel_emit,
    channel_updateChannel, if_true]
  split <;> rfl

theorem channel_failFlushSender (f : Failure ε) : (n.failFlushSender c f).1.channel x =
    if x = c then { n.channel c with flushSender := none } else n.channel x := by
  unfold failFlushSender
  split
  · rename_i h
    by_cases hx : x = c
    · subst hx; rw [if_pos rfl, ← h]
    · rw [if_neg hx]
  · rename_i p h
    have hd := channel_deliver (n.updateChannel c fun channel =>
      { channel with flushSender := none }) (.failed f) p.toParty x
    rw [channel_updateChannel] at hd
    dsimp only
    split
    · rename_i heq
      rw [heq] at hd
      exact hd
    · rename_i heq
      rw [heq] at hd
      split <;> exact hd

/-- Either the failure reached the sender, and the newest message with a sender that waits has none
any more, or only the registration is gone. -/
theorem channel_failSyncSender (f : Failure ε) : (n.failSyncSender c f).1.channel x =
    if x = c then
      if (n.failSyncSender c f).2 = none then
        { n.channel c with syncSender := none }.releaseSync
      else { n.channel c with syncSender := none }
    else n.channel x := by
  unfold failSyncSender
  cases h : (n.channel c).syncSender with
  | none =>
    simp only [Channel.with_syncSender_self h, reduceCtorEq, if_false]
    split <;> simp_all
  | some p =>
    cases hr : (n.slot p.slot).isResolved with
    | true => simp [deliver_resolved (.failed f) (n := n.updateChannel c _) (p := p) hr,
        channel_updateChannel]
    | false =>
      simp only [deliver_open (.failed f) (n := n.updateChannel c _) (p := p) hr,
        channel_updateChannel, channel_emit, channel_wake, channel_setSlot, ↓reduceIte]
      split <;> rfl

theorem channel_retainFailure (f : Failure ε) : (n.retainFailure c f).channel x =
    if x = c then
      if (n.channel c).retainReceiveFailures
        then { n.channel c with pending := (n.channel c).pending.put f } else n.channel c
    else n.channel x := by
  unfold retainFailure
  by_cases hx : x = c
  · subst hx
    split <;> simp [channel_storeFailure]
  · split <;> simp [channel_storeFailure, hx]

/-- The failure of the receiving worker has consumed a place, and has not gone anywhere yet. -/
def countReceiveFailure (f : Failure ε) : Network τ ε :=
  let n := n.updateChannel c (·.countReceived)
  n.emit (.receiveFailed (n.channelTag c) f.kind (n.channel c).recvCount)

theorem channel_countReceiveFailure (f : Failure ε) : (n.countReceiveFailure c f).channel x =
    if x = c then { n.channel c with recvCount := (n.channel c).recvCount + 1 }
    else n.channel x := by
  simp only [countReceiveFailure, channel_emit, channel_updateChannel]
  rfl

variable {n c} in
/-- The failure of the receiving worker goes to the flushing sender, or else to the one that waits
for its value, or else to the channel. -/
theorem failReceive_cases {P : Network τ ε → Prop} {f : Failure ε}
    (flush : ∀ m, (n.countReceiveFailure c f).failFlushSender c f = (m, none) → P m)
    (sync : ∀ m g l, (n.countReceiveFailure c f).failFlushSender c f = (m, some g) →
      m.failSyncSender c g = (l, none) → P l)
    (retain : ∀ m g l g', (n.countReceiveFailure c f).failFlushSender c f = (m, some g) →
      m.failSyncSender c g = (l, some g') → P (l.retainFailure c g')) : P (n.failReceive c f) := by
  rcases hflush : (n.countReceiveFailure c f).failFlushSender c f with ⟨m, _ | g⟩
  · have hend := flush m hflush
    rw [countReceiveFailure] at hflush
    simpa only [failReceive, hflush] using hend
  · rcases hsync : m.failSyncSender c g with ⟨l, _ | g'⟩
    · have hend := sync m g l hflush hsync
      rw [countReceiveFailure] at hflush
      simpa only [failReceive, hflush, hsync] using hend
    · have hend := retain m g l g' hflush hsync
      rw [countReceiveFailure] at hflush
      simpa only [failReceive, hflush, hsync] using hend

variable {n c} in
/-- A flushing sender takes the failure exactly if its slot is unresolved. Otherwise the failure
goes on as it is, and no slot changes. -/
theorem failFlushSender_cases {m : Network τ ε} {f : Failure ε} {o : Option (Failure ε)}
    (h : n.failFlushSender c f = (m, o)) :
    (o = none ∧ ∃ q, (n.channel c).flushSender = some q ∧ (n.slot q.slot).isResolved = false) ∨
      o = some f ∧ (∀ q, (n.channel c).flushSender = some q → (n.slot q.slot).isResolved = true) ∧
        ∀ d, m.slot d = n.slot d := by
  cases hq : (n.channel c).flushSender with
  | none =>
    simp only [failFlushSender, hq] at h
    obtain ⟨rfl, rfl⟩ := Prod.mk.inj h
    exact .inr ⟨rfl, nofun, fun _ => rfl⟩
  | some q =>
    cases hr : (n.slot q.slot).isResolved with
    | false =>
      simp only [failFlushSender, hq, deliver_open (.failed f) (n := n.updateChannel c _)
        (p := q.toParty) hr] at h
      exact .inl ⟨(congrArg Prod.snd h).symm, q, rfl, hr⟩
    | true =>
      simp only [failFlushSender, hq, deliver_resolved (.failed f) (n := n.updateChannel c _)
        (p := q.toParty) hr, Resolution.failure?_failed] at h
      obtain ⟨rfl, rfl⟩ := Prod.mk.inj h
      refine .inr ⟨rfl, fun q' hq' => ?_, fun _ => rfl⟩
      obtain rfl := Option.some.inj hq'
      exact hr

variable {n c} in
/-- So does a sender that waits for its value, and the failure is then in its slot. -/
theorem failSyncSender_cases {m : Network τ ε} {f : Failure ε} {o : Option (Failure ε)}
    (h : n.failSyncSender c f = (m, o)) :
    (o = none ∧ ∃ p, (n.channel c).syncSender = some p ∧ (n.slot p.slot).isResolved = false ∧
        m.slot p.slot = .filled (.failed f)) ∨
      o = some f ∧ ∀ p, (n.channel c).syncSender = some p → (n.slot p.slot).isResolved = true := by
  cases hp : (n.channel c).syncSender with
  | none =>
    simp only [failSyncSender, hp] at h
    exact .inr ⟨(congrArg Prod.snd h).symm, nofun⟩
  | some p =>
    cases hr : (n.slot p.slot).isResolved with
    | false =>
      simp only [failSyncSender, hp, deliver_open (.failed f) (n := n.updateChannel c _) hr] at h
      obtain ⟨rfl, rfl⟩ := Prod.mk.inj h
      refine .inl ⟨rfl, p, rfl, hr, ?_⟩
      rw [slot_updateChannel, slot_emit, slot_wake, slot_setSlot, if_pos rfl]
    | true =>
      simp only [failSyncSender, hp, deliver_resolved (.failed f) (n := n.updateChannel c _) hr,
        Resolution.failure?_failed] at h
      refine .inr ⟨(congrArg Prod.snd h).symm, fun p' hp' => ?_⟩
      obtain rfl := Option.some.inj hp'
      exact hr

variable {n c} in
/-- The failure of the receiving worker consumes a place and removes the flushing sender, who takes
the failure if its slot is unresolved. If not, so does the sender that waits for its value, and
nobody waits any more for the newest value that a sender waited for. If neither does, both are
removed, and the channel's options decide about the failure. -/
theorem failReceive_outcome {P : Network τ ε → Prop} (f : Failure ε)
    (flush : ∀ m q, (n.channel c).flushSender = some q → (n.slot q.slot).isResolved = false →
      m.channel c =
        { n.channel c with recvCount := (n.channel c).recvCount + 1, flushSender := none } → P m)
    (sync : ∀ m p,
      (∀ q, (n.channel c).flushSender = some q → (n.slot q.slot).isResolved = true) →
      (n.channel c).syncSender = some p → (n.slot p.slot).isResolved = false →
      m.slot p.slot = .filled (.failed f) →
      m.channel c = { n.channel c with
        recvCount := (n.channel c).recvCount + 1
        flushSender := none
        syncSender := none }.releaseSync → P m)
    (retain : ∀ m,
      (∀ q, (n.channel c).flushSender = some q → (n.slot q.slot).isResolved = true) →
      (∀ p, (n.channel c).syncSender = some p → (n.slot p.slot).isResolved = true) →
      m.channel c = { n.channel c with
        recvCount := (n.channel c).recvCount + 1
        flushSender := none
        syncSender := none
        pending := if (n.channel c).retainReceiveFailures then (n.channel c).pending.put f
          else (n.channel c).pending } → P m) : P (n.failReceive c f) := by
  have hslot : ∀ d, (n.countReceiveFailure c f).slot d = n.slot d := fun _ => rfl
  have hcounted : (n.countReceiveFailure c f).channel c =
      { n.channel c with recvCount := (n.channel c).recvCount + 1 } := by
    rw [channel_countReceiveFailure, if_pos rfl]
  have flushed : ∀ m o, (n.countReceiveFailure c f).failFlushSender c f = (m, o) → m.channel c =
      { n.channel c with recvCount := (n.channel c).recvCount + 1, flushSender := none } := by
    intro m o hm
    have hchannel := channel_failFlushSender (n.countReceiveFailure c f) c c f
    rw [hm, if_pos rfl, hcounted] at hchannel
    exact hchannel
  refine failReceive_cases (fun m hm => ?_) (fun m g l hm hl => ?_) fun m g l g' hm hl => ?_
  · obtain ⟨-, q, hq, hopen⟩ | ⟨hno, -⟩ := failFlushSender_cases hm
    · rw [hcounted] at hq
      exact flush m q hq hopen (flushed m none hm)
    · cases hno
  · obtain ⟨hno, -⟩ | ⟨hon, hstale, hkept⟩ := failFlushSender_cases hm
    · cases hno
    · obtain rfl := Option.some.inj hon
      obtain ⟨-, p, hp, hopen, hfilled⟩ | ⟨hno, -⟩ := failSyncSender_cases hl
      · have hchannel := channel_failSyncSender m c c g
        rw [hl, if_pos rfl, if_pos rfl, flushed m _ hm] at hchannel
        rw [hcounted] at hstale
        rw [flushed m _ hm] at hp
        rw [hkept, hslot] at hopen
        exact sync l p hstale hp hopen hfilled hchannel
      · cases hno
  · obtain ⟨hno, -⟩ | ⟨hon, hstale, hkept⟩ := failFlushSender_cases hm
    · cases hno
    · obtain rfl := Option.some.inj hon
      obtain ⟨hno, -⟩ | ⟨hon', hresolved⟩ := failSyncSender_cases hl
      · cases hno
      · obtain rfl := Option.some.inj hon'
        have hchannel := channel_failSyncSender m c c g'
        rw [hl, if_pos rfl, if_neg nofun, flushed m _ hm] at hchannel
        rw [hcounted] at hstale
        simp only [flushed m _ hm, hkept, hslot] at hresolved
        refine retain _ hstale hresolved ?_
        rw [channel_retainFailure, if_pos rfl, show l.channel c = _ from hchannel]
        dsimp only
        cases (n.channel c).retainReceiveFailures <;> rfl

variable {n c} in
/-- What that does to the channel, whatever the slots are. -/
theorem channel_failReceive {P : Channel τ ε → Prop} (f : Failure ε)
    (flush : P { n.channel c with recvCount := (n.channel c).recvCount + 1, flushSender := none })
    (sync : P { n.channel c with
      recvCount := (n.channel c).recvCount + 1
      flushSender := none
      syncSender := none }.releaseSync)
    (retain : P { n.channel c with
      recvCount := (n.channel c).recvCount + 1
      flushSender := none
      syncSender := none
      pending := if (n.channel c).retainReceiveFailures then (n.channel c).pending.put f
        else (n.channel c).pending }) : P ((n.failReceive c f).channel c) :=
  failReceive_outcome (P := fun m => P (m.channel c)) f (fun _ _ _ _ h => h ▸ flush)
    (fun _ _ _ _ _ _ h => h ▸ sync) fun _ _ _ h => h ▸ retain

/-! ## Calls -/

theorem channel_dispatch (q : ReadySet.Ref) : (n.dispatch q).1.channel x = n.channel x := by
  unfold dispatch; split <;> rfl

/-- What a consumer that is prepared to wait does to the network. -/
theorem fst_poll (q : ReadySet.Ref) (held : List Strand.Ref) :
    (n.poll q held).1 = (n.dispatch q).1 := by
  unfold poll
  split <;> rename_i h <;> rw [h]

theorem channel_poll (q : ReadySet.Ref) (held : List Strand.Ref) :
    (n.poll q held).1.channel x = n.channel x := by
  rw [fst_poll, channel_dispatch]

theorem channel_createChannel (options : ChannelOptions) :
    (n.createChannel options).1.channel x =
      if x = n.channels.fresh then .create options else n.channel x := by
  simp only [createChannel, channel_emit, channel, setChannel, Store.get_set]

end Network

end Rendezvous
