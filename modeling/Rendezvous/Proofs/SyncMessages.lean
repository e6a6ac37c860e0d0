import Rendezvous.Proofs.Parking

/-!
# Messages that a sender waits for

The queue marks the messages for which a sender waits, and the channel registers one such sender.
Nothing in a message says who sent it. Here is why the registered sender and the marks belong
together, in every run.

* **Who sent a message** (`sendings`, `Channel.enRoute`): the queued messages are those of the last
  sends, in order.
* **Attribution** (`Channel.Attributed`): a message is marked only if the send has suspended its
  sender. The sender that is registered is the one that was suspended last, and its message is the
  newest of those that are marked. Each operation keeps this (`Attributed.operate`), and so does a
  run (`attributed_run`).
* **Failing receivers** (`Channel.queue_releaseSync`, `Network.failReceive_of_exposed`): so the
  search from the newest message backwards finds the message of the registered sender.
* **Draining** (`Network.values_receives`, `Network.drained`): whoever waits is released once the
  queue has been received.
-/

namespace Rendezvous

variable {τ ε : Type}

/-! ## Who sent a message -/

/-- Whether an operation sent a value and suspended its sender until it is received. -/
def suspendsSender : Operation τ ε × Outcome τ ε → Bool
  | (.syncSend .., .completed false) => true
  | _ => false

/-- The operations that sent a value. -/
def sendings (ops : List (Operation τ ε × Outcome τ ε)) : List (Operation τ ε × Outcome τ ε) :=
  ops.filter (·.1.isSend)

@[simp] theorem sendings_append (a b : List (Operation τ ε × Outcome τ ε)) :
    sendings (a ++ b) = sendings a ++ sendings b := List.filter_append ..

/-- An operation put that message into the queue. The mark may be gone by now, but it is there only
if the sender was suspended. -/
structure Message.SentBy (m : Message τ) (o : Operation τ ε × Outcome τ ε) : Prop where
  value : o.1.item? = some (.ok m.value)
  sync : m.sync = true → suspendsSender o = true

/-- The operation that suspended this sender when it sent that value. -/
def Party.sending (p : Party) (value : τ) : Operation τ ε × Outcome τ ε :=
  (.syncSend value p.strand p.slot, .completed false)

namespace Message.SentBy

variable {m : Message τ} {o : Operation τ ε × Outcome τ ε}

theorem isSend (h : m.SentBy o) : o.1.isSend = true := by
  have hvalue := h.value
  cases ho : o.1 <;> simp_all [Operation.item?, Operation.isSend]

/-- A marked message was sent by a synchronous send that is not over at once. -/
theorem eq_sending (h : m.SentBy o) (hm : m.sync = true) :
    ∃ p : Party, o = p.sending m.value := by
  have hsuspends := h.sync hm
  have hvalue := h.value
  unfold suspendsSender at hsuspends
  split at hsuspends
  · rename_i v s d
    simp only [Operation.item?, Option.some.injEq, Except.ok.injEq] at hvalue
    exact ⟨⟨s, d⟩, by rw [hvalue, Party.sending]⟩
  · cases hsuspends

/-- Whoever sent the message, its mark may be removed. -/
theorem release (h : m.SentBy o) : { m with sync := false }.SentBy o := ⟨h.value, nofun⟩

end Message.SentBy

/-- Of some messages, each behind the operation that sent it, the newest that is marked is the one
of this sender. No later send has suspended its sender. -/
def Party.Newest (p : Party) (l : List ((Operation τ ε × Outcome τ ε) × Message τ)) : Prop :=
  ∃ front m back, l = front ++ (p.sending m.value, m) :: back ∧ m.sync = true ∧
    ∀ x ∈ back, suspendsSender x.1 = false ∧ x.2.sync = false

namespace Party.Newest

variable {p : Party} {l : List ((Operation τ ε × Outcome τ ε) × Message τ)}

/-- A sender that was suspended last is the newest. -/
theorem last (l : List ((Operation τ ε × Outcome τ ε) × Message τ)) (value : τ) :
    p.Newest (l ++ [(p.sending value, ⟨value, true⟩)]) :=
  ⟨l, ⟨value, true⟩, [], rfl, rfl, nofun⟩

/-- It stays the newest when a value is sent for which nobody waits. -/
theorem snoc (h : p.Newest l) {o : Operation τ ε × Outcome τ ε} {m : Message τ}
    (ho : suspendsSender o = false) (hm : m.sync = false) : p.Newest (l ++ [(o, m)]) := by
  obtain ⟨front, own, back, rfl, hsync, hback⟩ := h
  refine ⟨front, own, back ++ [(o, m)], by simp, hsync, fun x hx => ?_⟩
  obtain hx | hx := List.mem_append.1 hx
  · exact hback x hx
  · obtain rfl := List.mem_singleton.1 hx
    exact ⟨ho, hm⟩

/-- Either it is the first message, and no other is marked, or it is one of the others. -/
theorem cons {x : (Operation τ ε × Outcome τ ε) × Message τ} (h : p.Newest (x :: l)) :
    (x.2.sync = true ∧ x.1 = p.sending x.2.value ∧
      ∀ y ∈ l, suspendsSender y.1 = false ∧ y.2.sync = false) ∨ p.Newest l := by
  obtain ⟨front, m, back, heq, hm, hback⟩ := h
  obtain ⟨-, heq⟩ | ⟨front, -, rfl⟩ := List.cons_eq_append_iff.1 heq
  · cases heq
    exact .inl ⟨hm, rfl, hback⟩
  · exact .inr ⟨front, m, back, rfl, hm, hback⟩

theorem exists_marked (h : p.Newest l) : ∃ x ∈ l, x.2.sync = true := by
  obtain ⟨front, m, back, rfl, hm, -⟩ := h
  exact ⟨(p.sending m.value, m), by simp, hm⟩

end Party.Newest

namespace Channel

/-! ## Attribution -/

/-- The queued messages, each behind the operation that sent it: those of the last sends. -/
def enRoute (channel : Channel τ ε) (ops : List (Operation τ ε × Outcome τ ε)) :
    List ((Operation τ ε × Outcome τ ε) × Message τ) :=
  ((sendings ops).drop (valuesOf (obtained ops)).length).zip channel.queue

theorem enRoute_eq {channel : Channel τ ε} {ops : List (Operation τ ε × Outcome τ ε)}
    {l : List ((Operation τ ε × Outcome τ ε) × Message τ)}
    (hsent : l.map (·.1) = (sendings ops).drop (valuesOf (obtained ops)).length)
    (hqueue : l.map (·.2) = channel.queue) : channel.enRoute ops = l :=
  (List.zip_of_prod hsent hqueue).symm

/-- Each value that was sent was received or is queued, each message was sent by the operation that
stands before it, and the message of the registered sender is the newest that is marked. -/
structure Attributed (ops : List (Operation τ ε × Outcome τ ε)) (channel : Channel τ ε) :
    Prop where
  length : (sendings ops).length = (valuesOf (obtained ops)).length + channel.size
  sentBy : ∀ x ∈ channel.enRoute ops, x.2.SentBy x.1
  newest : ∀ p, channel.syncSender = some p → p.Newest (channel.enRoute ops)

/-- A message for which nobody waits is passed over. -/
theorem releaseFirst_append {back : List (Message τ)} (hback : ∀ m ∈ back, m.sync = false)
    {m : Message τ} (hm : m.sync = true) (front : List (Message τ)) :
    releaseFirst (back ++ m :: front) = back ++ { m with sync := false } :: front := by
  induction back with
  | nil => exact if_pos hm
  | cons x back ih =>
    have hx : x.sync = false := hback x List.mem_cons_self
    rw [List.cons_append, releaseFirst, if_neg (by simp [hx]),
      ih fun y hy => hback y (List.mem_cons_of_mem x hy)]
    rfl

/-- The search from the newest message backwards ends at the newest one that is marked. -/
theorem queue_releaseSync {channel : Channel τ ε} {front back : List (Message τ)} {m : Message τ}
    (hqueue : channel.queue = front ++ m :: back) (hm : m.sync = true)
    (hback : ∀ x ∈ back, x.sync = false) :
    channel.releaseSync.queue = front ++ { m with sync := false } :: back := by
  have hreverse : channel.queue.reverse = back.reverse ++ m :: front.reverse := by simp [hqueue]
  rw [releaseSync, hreverse,
    releaseFirst_append (fun x hx => hback x (List.mem_reverse.1 hx)) hm]
  simp

namespace Attributed

variable {ops l : List (Operation τ ε × Outcome τ ε)} {a b : Channel τ ε}

theorem map_fst_enRoute (h : a.Attributed ops) :
    (a.enRoute ops).map (·.1) = (sendings ops).drop (valuesOf (obtained ops)).length := by
  refine List.map_fst_zip ?_
  have hlength := h.length
  rw [size] at hlength
  rw [List.length_drop]
  omega

theorem map_snd_enRoute (h : a.Attributed ops) : (a.enRoute ops).map (·.2) = a.queue := by
  refine List.map_snd_zip ?_
  have hlength := h.length
  rw [size] at hlength
  rw [List.length_drop]
  omega

/-- Steps in which no value is sent or received and no mark changes. A sender may be removed. -/
theorem still (h : a.Attributed ops) (hsend : sendings l = [])
    (hreceive : valuesOf (obtained l) = []) (hqueue : b.queue = a.queue)
    (hsender : ∀ p, b.syncSender = some p → a.syncSender = some p) : b.Attributed (ops ++ l) := by
  have hsame : b.enRoute (ops ++ l) = a.enRoute ops := by
    rw [enRoute, sendings_append, hsend, obtained_append, valuesOf_append, hreceive, hqueue,
      List.append_nil, List.append_nil, enRoute]
  refine ⟨?_, hsame ▸ h.sentBy, fun p hp => hsame ▸ h.newest p (hsender p hp)⟩
  rw [sendings_append, hsend, obtained_append, valuesOf_append, hreceive, List.append_nil,
    List.append_nil, size, hqueue]
  exact h.length

/-- A message was put at the end of the queue. -/
theorem enRoute_push (h : a.Attributed ops) {o : Operation τ ε × Outcome τ ε} {m : Message τ}
    (hm : m.SentBy o) (ho : o.2.item? = none) (hqueue : b.queue = a.queue ++ [m]) :
    b.enRoute (ops ++ [o]) = a.enRoute ops ++ [(o, m)] := by
  have hlength := h.length
  refine enRoute_eq ?_ ?_
  · have hsent : sendings [o] = [o] := by simp [sendings, hm.isSend]
    have hnone : obtained [o] = [] := by simp [obtained, ho]
    rw [List.map_append, h.map_fst_enRoute, sendings_append, hsent, obtained_append, hnone,
      List.append_nil, List.drop_append_of_le_length (by omega)]
    rfl
  · rw [List.map_append, h.map_snd_enRoute, hqueue]
    rfl

/-- The sender of the new message is registered, or else nobody waits for this message. -/
theorem push (h : a.Attributed ops) {o : Operation τ ε × Outcome τ ε} {m : Message τ}
    (hm : m.SentBy o) (ho : o.2.item? = none) (hqueue : b.queue = a.queue ++ [m])
    (hsender : ∀ p, b.syncSender = some p → (m.sync = true ∧ o = p.sending m.value) ∨
      a.syncSender = some p ∧ suspendsSender o = false ∧ m.sync = false) :
    b.Attributed (ops ++ [o]) := by
  have hpush := h.enRoute_push hm ho hqueue
  refine ⟨?_, fun x hx => ?_, fun p hp => ?_⟩
  · have hlength := h.length
    have hsent : sendings [o] = [o] := by simp [sendings, hm.isSend]
    have hnone : obtained [o] = [] := by simp [obtained, ho]
    rw [size] at hlength
    rw [sendings_append, hsent, obtained_append, hnone, List.append_nil, List.length_append,
      List.length_singleton, size, hqueue, List.length_append, List.length_singleton]
    omega
  · rw [hpush] at hx
    obtain hx | hx := List.mem_append.1 hx
    · exact h.sentBy x hx
    · obtain rfl := List.mem_singleton.1 hx
      exact hm
  · rw [hpush]
    obtain ⟨hsync, rfl⟩ | ⟨hp, ho, hsync⟩ := hsender p hp
    · obtain ⟨value, sync⟩ := m
      obtain rfl : sync = true := hsync
      exact .last _ value
    · exact (h.newest p hp).snoc ho hsync

/-- The first message was received. If a sender waited for it, whoever is registered is removed. -/
theorem pop (h : a.Attributed ops) {m : Message τ} {rest : List (Message τ)} (s : Strand.Ref)
    (hqueue : a.queue = m :: rest) (hrest : b.queue = rest)
    (hsender : b.syncSender = if m.sync then none else a.syncSender) :
    b.Attributed (ops ++ [(.receive s, .received (.value m.value))]) := by
  obtain ⟨x, l, hroute, rfl, htail⟩ := List.map_eq_cons_iff.1 (h.map_snd_enRoute.trans hqueue)
  have hgot : (valuesOf (obtained (ops ++ [(.receive s, .received (.value x.2.value))]))).length =
      (valuesOf (obtained ops)).length + 1 := by
    rw [obtained_append, valuesOf_append, List.length_append]
    rfl
  have hsent : sendings (ops ++ [(.receive s, .received (.value x.2.value))]) = sendings ops := by
    rw [sendings_append]
    exact List.append_nil _
  have hpop : b.enRoute (ops ++ [(.receive s, .received (.value x.2.value))]) = l := by
    refine enRoute_eq ?_ (htail.trans hrest.symm)
    have hmap := h.map_fst_enRoute
    rw [hroute] at hmap
    rw [hsent, hgot, ← List.drop_drop, ← hmap]
    rfl
  refine ⟨?_, fun y hy => ?_, fun p hp => ?_⟩
  · have hlength := h.length
    rw [size, hqueue, List.length_cons] at hlength
    rw [hsent, hgot, size, hrest]
    omega
  · rw [hpop] at hy
    exact h.sentBy y (hroute ▸ List.mem_cons_of_mem x hy)
  · rw [hpop]
    cases hx : x.2.sync with
    | true =>
      rw [hsender, hx] at hp
      cases hp
    | false =>
      rw [hsender, hx] at hp
      obtain ⟨hmarked, -⟩ | hnewest := (hroute ▸ h.newest p hp : p.Newest (x :: l)).cons
      · rw [hx] at hmarked
        cases hmarked
      · exact hnewest

/-- The mark of the message whose sender is registered is removed, and so is the sender. -/
theorem release (h : a.Attributed ops) {p : Party} (hp : a.syncSender = some p)
    (hsend : sendings l = []) (hreceive : valuesOf (obtained l) = [])
    (hqueue : b.queue = a.releaseSync.queue) (hsender : b.syncSender = none) :
    b.Attributed (ops ++ l) := by
  obtain ⟨front, m, back, hroute, hsync, hback⟩ := h.newest p hp
  have hsent := h.map_fst_enRoute
  have hmessages := h.map_snd_enRoute
  rw [hroute, List.map_append, List.map_cons] at hsent hmessages
  have hreleased : b.enRoute (ops ++ l) =
      front ++ (p.sending m.value, { m with sync := false }) :: back := by
    refine enRoute_eq ?_ ?_
    · rw [sendings_append, hsend, obtained_append, valuesOf_append, hreceive, List.append_nil,
        List.append_nil, ← hsent, List.map_append, List.map_cons]
    · rw [hqueue, queue_releaseSync hmessages.symm hsync fun x hx => ?_, List.map_append,
        List.map_cons]
      obtain ⟨y, hy, rfl⟩ := List.mem_map.1 hx
      exact (hback y hy).2
  refine ⟨?_, fun x hx => ?_, fun q hq => ?_⟩
  · rw [sendings_append, hsend, obtained_append, valuesOf_append, hreceive, List.append_nil,
      List.append_nil, h.length, ← size_releaseSync a, size, size, hqueue]
  · have hsentBy := h.sentBy
    rw [hroute] at hsentBy
    rw [hreleased] at hx
    obtain hx | hx := List.mem_append.1 hx
    · exact hsentBy x (List.mem_append_left _ hx)
    · obtain rfl | hx := List.mem_cons.1 hx
      · exact (hsentBy _ (List.mem_append_right _ List.mem_cons_self)).release
      · exact hsentBy x (List.mem_append_right _ (List.mem_cons_of_mem _ hx))
  · rw [hsender] at hq
    cases hq

end Attributed

end Channel

/-! ## Runs -/

namespace Channel.Attributed

variable {n : Network τ ε} {c : Channel.Ref} {ops : List (Operation τ ε × Outcome τ ε)}

theorem send (h : (n.channel c).Attributed ops) (value : τ) (s : Strand.Ref) :
    ((n.send c value s).channel c).Attributed (ops ++ [(.send value s, .done)]) := by
  rw [Network.channel_send, if_pos rfl]
  exact h.push (m := ⟨value, false⟩) ⟨rfl, nofun⟩ rfl rfl fun p hp => .inr ⟨hp, rfl, rfl⟩

theorem syncSend (h : (n.channel c).Attributed ops) (value : τ) (s : Strand.Ref) (d : Slot.Ref) :
    ((n.syncSend c value s d).1.channel c).Attributed
      (ops ++ [(.syncSend value s d, .completed (n.syncSend c value s d).2)]) := by
  rw [Network.ended_syncSend]
  refine Network.channel_syncSend value s d (fun hr => ?_) (fun f pending hr hp => ?_)
    fun hr hp => ?_
  · rw [hr]
    refine h.push (m := ⟨value, true⟩) ⟨rfl, fun _ => rfl⟩ rfl rfl fun p hp => .inl ⟨rfl, ?_⟩
    obtain rfl := Option.some.inj hp
    rfl
  · rw [hr, hp, releaseNewest_enqueue]
    exact h.push (m := ⟨value, false⟩) ⟨rfl, nofun⟩ rfl rfl fun p hp => .inr ⟨hp, rfl, rfl⟩
  · rw [hr, hp]
    refine h.push (m := ⟨value, true⟩) ⟨rfl, fun _ => rfl⟩ rfl rfl fun p hp => .inl ⟨rfl, ?_⟩
    obtain rfl := Option.some.inj hp
    rfl

theorem receive (h : (n.channel c).Attributed ops) (s : Strand.Ref) :
    ((n.receive c s).1.channel c).Attributed
      (ops ++ [(.receive s, .received (n.receive c s).2)]) := by
  refine Network.channel_receive (P := fun b r =>
    b.Attributed (ops ++ [(.receive s, .received r)])) s ?_ ?_ ?_
  · exact fun m rest hq => h.pop s hq rfl rfl
  · exact fun f pending _ _ _ => h.still rfl rfl rfl fun p hp => hp
  · exact fun _ _ => h.still rfl rfl rfl fun p hp => hp

theorem flush (h : (n.channel c).Attributed ops) (s : Strand.Ref) (d : Slot.Ref)
    (k : Coordinator.Ref) {l : List (Operation τ ε × Outcome τ ε)} (hsend : sendings l = [])
    (hreceive : valuesOf (obtained l) = []) :
    ((n.flush c s d k).1.channel c).Attributed (ops ++ l) := by
  have hrest := (Network.flushed_flush n c s d k c).rest
  refine h.still hsend hreceive (by rw [hrest]) fun p hp => ?_
  rw [hrest] at hp
  exact hp

theorem failReceive (h : (n.channel c).Attributed ops) (f : Failure ε) :
    ((n.failReceive c f).channel c).Attributed (ops ++ [(.failReceive f, .done)]) := by
  refine Network.failReceive_outcome (P := fun m =>
    (m.channel c).Attributed (ops ++ [(.failReceive f, .done)])) f ?_ ?_ ?_
  · intro m q _ _ hchannel
    exact hchannel ▸ h.still rfl rfl rfl fun p hp => hp
  · intro m p _ hp _ _ hchannel
    exact hchannel ▸ h.release hp rfl rfl rfl rfl
  · intro m _ _ hchannel
    exact hchannel ▸ h.still rfl rfl rfl nofun

/-- So it is after each operation. -/
theorem operate (h : (n.channel c).Attributed ops) (op : Operation τ ε) :
    ((n.operate c op).1.channel c).Attributed (ops ++ [(op, (n.operate c op).2)]) := by
  cases op with
  | send value s => exact h.send value s
  | syncSend value s d => exact h.syncSend value s d
  | receive s => exact h.receive s
  | flush s d k => exact h.flush s d k rfl rfl
  | failSend f =>
    change ((n.failSend c f).channel c).Attributed _
    rw [Network.channel_failSend, if_pos rfl]
    exact h.still rfl rfl rfl fun p hp => hp
  | failReceive f => exact h.failReceive f

end Channel.Attributed

namespace Network

/-- In every run the marks and the registered sender belong together. -/
theorem attributed_run (calls : List (Call τ ε)) (c : Channel.Ref) :
    ((({} : Network τ ε).run calls).channel c).Attributed
      (operationsOn c (({} : Network τ ε).history calls)) := by
  refine channel_run (P := fun ops b => b.Attributed ops) ⟨rfl, nofun, nofun⟩
    (fun ops options h => ⟨h.length, h.sentBy, nofun⟩) (fun _ op h => h.operate op)
    (fun n ops s d k h => ?_) (fun ops channel d h => ⟨h.length, h.sentBy, h.newest⟩) calls
  rw [← List.append_nil ops]
  exact h.flush s d k rfl rfl

/-! ## Receiving and failing -/

section
variable {n : Network τ ε} {c : Channel.Ref} {p : Party}

/-- The registered sender is told, if its slot is unresolved. No other slot changes. -/
theorem slot_takeMessage {m : Message τ} (hp : (n.channel c).syncSender = some p)
    (hm : m.sync = true) (s : Strand.Ref) (rest : List (Message τ)) (d : Slot.Ref) :
    (n.takeMessage c s m rest).slot d =
      if d = p.slot ∧ (n.slot p.slot).isResolved = false then .filled .done else n.slot d := by
  have hp' : ((n.countMessage c s rest).channel c).syncSender = some p := by
    rw [channel_countMessage, if_pos rfl]
    exact hp
  have hslot : ∀ d, (n.countMessage c s rest).slot d = n.slot d := fun _ => rfl
  simp only [takeMessage, if_pos hm, releaseSyncSender, hp', slot_deliver, slot_emit,
    slot_updateChannel, hslot]

/-- A barrier may be told after that, but no slot is resolved twice. -/
theorem slot_receive {m : Message τ} {rest : List (Message τ)}
    (hq : (n.channel c).queue = m :: rest) (hp : (n.channel c).syncSender = some p)
    (hm : m.sync = true) (s : Strand.Ref) : (n.receive c s).1.slot p.slot =
      if (n.slot p.slot).isResolved then n.slot p.slot else .filled .done := by
  have htaken : (n.takeMessage c s m rest).slot p.slot =
      if (n.slot p.slot).isResolved then n.slot p.slot else .filled .done := by
    rw [slot_takeMessage hp hm]
    cases (n.slot p.slot).isResolved <;> simp
  have hresolved : ((n.takeMessage c s m rest).slot p.slot).isResolved = true := by
    rw [htaken]
    split
    · assumption
    · rfl
  have hmoves : Moves Moves.anything Moves.anything Moves.anything Moves.anything
      (n.takeMessage c s m rest) ((n.takeMessage c s m rest).noteDrained c) :=
    Moves.refl.noteDrained trivial (fun _ _ => trivial) fun _ _ _ _ _ => ⟨trivial, trivial⟩
  rw [receive_of_queue hq, receiveMessage_eq, hmoves.resolved hresolved, htaken]

/-- A failure of the receiving worker would be given to this sender: its slot is unresolved, and no
flushing sender would take the failure before. -/
def Exposed (n : Network τ ε) (c : Channel.Ref) (p : Party) : Prop :=
  (n.slot p.slot).isResolved = false ∧
    ∀ q, (n.channel c).flushSender = some q → (n.slot q.slot).isResolved = true

/-- A registered sender gets the failure if it is exposed, and the newest marked message loses its
mark. -/
theorem failReceive_of_exposed (f : Failure ε) (hp : (n.channel c).syncSender = some p)
    (hexposed : n.Exposed c p) {front back : List (Message τ)} {m : Message τ}
    (hq : (n.channel c).queue = front ++ m :: back) (hm : m.sync = true)
    (hback : ∀ x ∈ back, x.sync = false) :
    (n.failReceive c f).slot p.slot = .filled (.failed f) ∧
      ((n.failReceive c f).channel c).syncSender = none ∧
      ((n.failReceive c f).channel c).queue = front ++ { m with sync := false } :: back := by
  refine failReceive_outcome (P := fun k => k.slot p.slot = _ ∧ (k.channel c).syncSender = none ∧
    (k.channel c).queue = _) f ?_ ?_ ?_
  · intro k q hflush hopen _
    rw [hexposed.2 q hflush] at hopen
    cases hopen
  · intro k p' _ hp' _ hfilled hchannel
    obtain rfl := Option.some.inj (hp.symm.trans hp')
    refine ⟨hfilled, congrArg Channel.syncSender hchannel, ?_⟩
    rw [hchannel]
    exact Channel.queue_releaseSync hq hm hback
  · intro k _ hresolved _
    have hopen := hexposed.1
    rw [hresolved p hp] at hopen
    cases hopen

/-- If nobody is registered that is exposed, the failure changes no message. -/
theorem queue_failReceive_of_not_exposed (f : Failure ε)
    (hexposed : ∀ p, (n.channel c).syncSender = some p → ¬ n.Exposed c p) :
    ((n.failReceive c f).channel c).queue = (n.channel c).queue := by
  refine failReceive_outcome (P := fun k => (k.channel c).queue = (n.channel c).queue) f ?_ ?_ ?_
  · intro k q _ _ hchannel
    rw [hchannel]
  · intro k p hflush hp hopen _ _
    exact absurd ⟨hopen, hflush⟩ (hexposed p hp)
  · intro k _ _ hchannel
    rw [hchannel]

/-- A resolved slot stays as it is while nothing is created and nothing is taken. -/
theorem slot_run_of_isResolved {d : Slot.Ref} (calls : List (Call τ ε))
    (hmove : ∀ call ∈ calls, call.isMove = true) (hd : (n.slot d).isResolved = true) :
    (n.run calls).slot d = n.slot d := by
  induction calls generalizing n with
  | nil => rfl
  | cons call calls ih =>
    have hcall := (Moves.performAny n (hmove call List.mem_cons_self)).resolved hd
    rw [run_cons, ih (fun x hx => hmove x (List.mem_cons_of_mem call hx)) (by rw [hcall, hd]),
      hcall]

/-- These strands try to receive, one after the other. -/
def receives (c : Channel.Ref) (ss : List Strand.Ref) : List (Call τ ε) :=
  ss.map fun s => .operate c (.receive s)

/-- What is left when a value was received from the queue. -/
theorem queue_receive {m : Message τ} {rest : List (Message τ)}
    (hq : (n.channel c).queue = m :: rest) (s : Strand.Ref) :
    ((n.receive c s).1.channel c).queue = rest ∧ ((n.receive c s).1.channel c).syncSender =
      if m.sync then none else (n.channel c).syncSender := by
  rw [receive_of_queue hq, channel_receiveMessage, if_pos rfl]
  exact ⟨rfl, rfl⟩

/-- Receiving as often as messages are queued returns their values. -/
theorem values_receives (ss : List Strand.Ref) (hlen : ss.length = (n.channel c).size) :
    (operationsOn c (n.history (receives c ss))).map (·.2) =
      (n.channel c).queue.map (fun m => .received (.value m.value)) := by
  induction ss generalizing n with
  | nil =>
    have hq : (n.channel c).queue = [] := List.length_eq_zero_iff.1 hlen.symm
    rw [hq]
    rfl
  | cons s ss ih =>
    cases hq : (n.channel c).queue with
    | nil =>
      rw [Channel.size, hq] at hlen
      cases hlen
    | cons m rest =>
      obtain ⟨hqueue, -⟩ := queue_receive hq s
      rw [Channel.size, hq, List.length_cons, List.length_cons] at hlen
      have hvalues := ih (n := (n.receive c s).1) (by rw [Channel.size, hqueue]; omega)
      rw [hqueue] at hvalues
      rw [receives, List.map_cons, operationsOn_history_cons, operationsOn_exchange_operate,
        operate_receive_of_queue hq, List.map_append, List.map_cons]
      exact congrArg (.received (.value m.value) :: ·) hvalues

/-- If some message is marked while a sender is registered, then in the end nobody waits, and the
slot of the sender is resolved. -/
theorem drained (ss : List Strand.Ref) (hlen : ss.length = (n.channel c).size)
    (hmarked : ∀ p, (n.channel c).syncSender = some p →
      ∃ m ∈ (n.channel c).queue, m.sync = true) :
    ((n.run (receives c ss)).channel c).syncSender = none ∧
      ∀ p, (n.channel c).syncSender = some p →
        ((n.run (receives c ss)).slot p.slot).isResolved = true := by
  induction ss generalizing n with
  | nil =>
    have hq : (n.channel c).queue = [] := List.length_eq_zero_iff.1 hlen.symm
    have hnone : ∀ p, (n.channel c).syncSender ≠ some p := by
      intro p hp
      obtain ⟨m, hm, -⟩ := hmarked p hp
      rw [hq] at hm
      cases hm
    exact ⟨Option.eq_none_iff_forall_ne_some.2 hnone, fun p hp => absurd hp (hnone p)⟩
  | cons s ss ih =>
    cases hq : (n.channel c).queue with
    | nil =>
      rw [Channel.size, hq] at hlen
      cases hlen
    | cons m rest =>
      obtain ⟨hqueue, hsender⟩ := queue_receive hq s
      rw [Channel.size, hq, List.length_cons, List.length_cons] at hlen
      have hrest : ss.length = ((n.receive c s).1.channel c).size := by
        rw [Channel.size, hqueue]
        omega
      cases hm : m.sync with
      | true =>
        -- Whoever was registered is told now. Later on nobody is, and the slot stays resolved.
        rw [hm, if_pos rfl] at hsender
        obtain ⟨hnone, -⟩ := ih hrest fun p hp => by rw [hsender] at hp; cases hp
        refine ⟨hnone, fun p hp => ?_⟩
        have hslot : ((n.receive c s).1.slot p.slot).isResolved = true := by
          rw [slot_receive hq hp hm]
          split
          · assumption
          · rfl
        have hkept : (n.run (receives c (s :: ss))).slot p.slot = (n.receive c s).1.slot p.slot :=
          slot_run_of_isResolved (receives c ss) (by simp [receives, Call.isMove]) hslot
        rw [hkept, hslot]
      | false =>
        rw [hm, if_neg Bool.false_ne_true] at hsender
        obtain ⟨hnone, hresolved⟩ := ih hrest fun p hp => by
          obtain ⟨m', hmem, hm'⟩ := hmarked p (hsender ▸ hp)
          rw [hq] at hmem
          obtain rfl | hmem := List.mem_cons.1 hmem
          · rw [hm] at hm'
            cases hm'
          · exact ⟨m', hqueue ▸ hmem, hm'⟩
        exact ⟨hnone, fun p hp => hresolved p (hsender.trans hp)⟩

end

/-- In every run, whatever happens to its slots and strands: each marked message was sent by a
synchronous send that suspended its sender, and the message of the registered sender, who was
suspended last, is the newest that is marked. So a failure of the receiving worker removes the mark
of exactly that message if the sender gets it, and no mark otherwise. Receiving as often as messages
are queued returns their values, and then nobody waits any more and the sender's slot is
resolved. -/
theorem registered_sender_queued (calls : List (Call τ ε)) (c : Channel.Ref) :
    let n := ({} : Network τ ε).run calls
    let ops := operationsOn c (({} : Network τ ε).history calls)
    let channel := n.channel c
    let l := channel.enRoute ops
    (l.map (·.1) = (sendings ops).drop (valuesOf (obtained ops)).length ∧
        l.map (·.2) = channel.queue ∧
        ∀ x ∈ l, x.2.sync = true → ∃ p : Party, x.1 = p.sending x.2.value) ∧
      (∀ p, channel.syncSender = some p → ∃ front m back,
        l = front ++ (p.sending m.value, m) :: back ∧ m.sync = true ∧
          (∀ x ∈ back, suspendsSender x.1 = false ∧ x.2.sync = false) ∧
          (n.Exposed c p → ∀ f, (n.failReceive c f).slot p.slot = .filled (.failed f) ∧
            ((n.failReceive c f).channel c).syncSender = none ∧
            ((n.failReceive c f).channel c).queue =
              front.map (·.2) ++ { m with sync := false } :: back.map (·.2))) ∧
      ((∀ p, channel.syncSender = some p → ¬ n.Exposed c p) →
        ∀ f, ((n.failReceive c f).channel c).queue = channel.queue) ∧
      ∀ ss : List Strand.Ref, ss.length = channel.size →
        (operationsOn c (n.history (receives c ss))).map (·.2) =
            channel.queue.map (fun m => .received (.value m.value)) ∧
          ((n.run (receives c ss)).channel c).syncSender = none ∧
          ∀ p, channel.syncSender = some p →
            ((n.run (receives c ss)).slot p.slot).isResolved = true := by
  intro n ops channel l
  have h : channel.Attributed ops := attributed_run calls c
  have hqueue : l.map (·.2) = channel.queue := h.map_snd_enRoute
  refine ⟨⟨h.map_fst_enRoute, hqueue, fun x hx => (h.sentBy x hx).eq_sending⟩, fun p hp => ?_,
    fun hexposed f => queue_failReceive_of_not_exposed f hexposed,
    fun ss hlen => ⟨values_receives ss hlen, drained ss hlen fun p hp => ?_⟩⟩
  · obtain ⟨front, m, back, hroute, hm, hback⟩ := h.newest p hp
    refine ⟨front, m, back, hroute, hm, hback, fun hexposed f =>
      failReceive_of_exposed f hp hexposed ?_ hm fun x hx => ?_⟩
    · rw [← hqueue, show l = _ from hroute, List.map_append, List.map_cons]
    · obtain ⟨y, hy, rfl⟩ := List.mem_map.1 hx
      exact (hback y hy).2
  · obtain ⟨x, hx, hm⟩ := (h.newest p hp).exists_marked
    exact ⟨x.2, hqueue ▸ List.mem_map_of_mem hx, hm⟩

/-- The first sender was released by somebody else. The failure that comes too late for it leaves
its message marked. That message is not the one of the second sender, who gets the second
failure. -/
theorem registered_sender_queued_behind_stale :
    let resolved : List (Call Nat String) := [
      .createReadySet,
      .createStrand (some "tx") ⟨0⟩,
      .createChannel {},
      .createSlot,
      .createSlot,
      .operate ⟨0⟩ (.syncSend 1 ⟨0⟩ ⟨0⟩),
      .offer ⟨0⟩ .done,
      .wake ⟨0⟩]
    let calls : List (Call Nat String) := resolved ++ [
      .operate ⟨0⟩ (.failReceive (.error "late")),
      .operate ⟨0⟩ (.syncSend 2 ⟨0⟩ ⟨1⟩),
      .operate ⟨0⟩ (.send 3 ⟨0⟩)]
    let m := ({} : Network Nat String).run resolved
    let n := ({} : Network Nat String).run calls
    ((m.failReceive ⟨0⟩ (.error "late")).channel ⟨0⟩).queue = [⟨1, true⟩] ∧
      (n.channel ⟨0⟩).queue = [⟨1, true⟩, ⟨2, true⟩, ⟨3, false⟩] ∧
      (n.channel ⟨0⟩).syncSender = some ⟨⟨0⟩, ⟨1⟩⟩ ∧
      (n.failReceive ⟨0⟩ (.error "lost")).slot ⟨1⟩ = .filled (.failed (.error "lost")) ∧
      ((n.failReceive ⟨0⟩ (.error "lost")).channel ⟨0⟩).queue =
        [⟨1, true⟩, ⟨2, false⟩, ⟨3, false⟩] ∧
      ((n.run (receives ⟨0⟩ [⟨1⟩, ⟨1⟩, ⟨1⟩])).slot ⟨1⟩).isResolved = true := by
  intro resolved calls m n
  obtain ⟨-, -, hlate, -⟩ := registered_sender_queued resolved ⟨0⟩
  obtain ⟨-, howner, -, hdrained⟩ := registered_sender_queued calls ⟨0⟩
  have hexposed : n.Exposed ⟨0⟩ ⟨⟨0⟩, ⟨1⟩⟩ := ⟨rfl, nofun⟩
  have hnot : ∀ p, (m.channel ⟨0⟩).syncSender = some p → ¬ m.Exposed ⟨0⟩ p := by
    rintro p hp ⟨hopen, -⟩
    cases hp
    cases hopen
  obtain ⟨front, own, back, -, -, -, hfails⟩ := howner ⟨⟨0⟩, ⟨1⟩⟩ rfl
  exact ⟨hlate hnot _, rfl, rfl, (hfails hexposed _).1, rfl,
    (hdrained [⟨1⟩, ⟨1⟩, ⟨1⟩] rfl).2.2 ⟨⟨0⟩, ⟨1⟩⟩ rfl⟩

end Network

end Rendezvous
