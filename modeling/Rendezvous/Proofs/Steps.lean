import Rendezvous.Proofs.ChannelEffects

/-!
# Steps

The operations are built from a few steps. How their parts are put together is looked at here, once
and for all: what every step keeps, each part keeps.

* **Steps** (`Step`, `Network.Steps`): some steps lead from one network to another, and each of them
  is allowed where it is made.
* **What steps keep** (`Steps.resolved`, `Steps.channel_eq`, `Steps.log`): if nothing else is
  allowed, resolved slots stay, channels keep what every change to them keeps, and the log grows by
  the events that are allowed.
* **What is allowed anyway** (`Network.Lenient`): plain reports, and changes to a channel by which
  nothing is counted and nobody is registered anew.
* **Parts of operations** (`Steps.deliver`, …, `Steps.retainFailure`): they are made of what is
  allowed anyway, and of the steps that suspend, release, tell or register somebody.
-/

namespace Rendezvous

variable {τ ε : Type}

/-- What an operation changes at once. -/
inductive Step (τ ε : Type) where
  | emit (e : Event)
  | suspend (s : Strand.Ref)
  | markRunning (s : Strand.Ref)
  | wake (s : Strand.Ref)
  | fill (d : Slot.Ref) (r : Resolution ε)
  | update (c : Channel.Ref) (f : Channel τ ε → Channel τ ε)
  | coordinate (k : Coordinator.Ref) (x : Coordinator)
  | setTable (t : Table.Ref) (x : Table)

namespace Network

/-- The network after a step. -/
def step (n : Network τ ε) : Step τ ε → Network τ ε
  | .emit e => n.emit e
  | .suspend s => n.suspend s
  | .markRunning s => n.markRunning s
  | .wake s => n.wake s
  | .fill d r => n.setSlot d (.filled r)
  | .update c f => n.updateChannel c f
  | .coordinate k x => n.setCoordinator k x
  | .setTable t x => n.setTable t x

/-- Some steps, each of which is allowed in the network where it is made. -/
inductive Steps (P : Network τ ε → Step τ ε → Prop) (n : Network τ ε) : Network τ ε → Prop where
  | refl : Steps P n n
  | step {m : Network τ ε} (h : Steps P n m) (x : Step τ ε) (hx : P m x) : Steps P n (m.step x)

namespace Steps

variable {P Q : Network τ ε → Step τ ε → Prop} {l m n : Network τ ε}

theorem trans (h : Steps P n l) (h' : Steps P l m) : Steps P n m := by
  induction h' with
  | refl => exact h
  | step _ x hx ih => exact ih.step x hx

/-- The same steps, where more is allowed. -/
theorem mono (h : Steps P n m) (hPQ : ∀ l x, P l x → Q l x) : Steps Q n m := by
  induction h with
  | refl => exact .refl
  | step _ x hx ih => exact ih.step x (hPQ _ x hx)

theorem emit (h : Steps P n m) {e : Event} (he : P m (.emit e)) : Steps P n (m.emit e) :=
  h.step _ he

theorem suspend (h : Steps P n m) {s : Strand.Ref} (hs : P m (.suspend s)) :
    Steps P n (m.suspend s) := h.step _ hs

theorem markRunning (h : Steps P n m) {s : Strand.Ref} (hs : P m (.markRunning s)) :
    Steps P n (m.markRunning s) := h.step _ hs

theorem wake (h : Steps P n m) {s : Strand.Ref} (hs : P m (.wake s)) : Steps P n (m.wake s) :=
  h.step _ hs

theorem fill (h : Steps P n m) {d : Slot.Ref} {r : Resolution ε} (hd : P m (.fill d r)) :
    Steps P n (m.setSlot d (.filled r)) := h.step _ hd

theorem update (h : Steps P n m) {c : Channel.Ref} {f : Channel τ ε → Channel τ ε}
    (hf : P m (.update c f)) : Steps P n (m.updateChannel c f) := h.step _ hf

theorem coordinate (h : Steps P n m) {k : Coordinator.Ref} {x : Coordinator}
    (hk : P m (.coordinate k x)) : Steps P n (m.setCoordinator k x) := h.step _ hk

/-! ## What steps keep -/

/-- If unresolved slots only are filled, then a resolved slot stays as it is. -/
theorem resolved (h : Steps P n m)
    (hP : ∀ {l d r}, P l (.fill d r) → (l.slot d).isResolved = false) {d : Slot.Ref}
    (hd : (n.slot d).isResolved = true) : m.slot d = n.slot d := by
  induction h with
  | refl => rfl
  | @step m _ x hx ih =>
    rw [← ih]
    cases x with
    | suspend s => exact slot_suspend ..
    | markRunning s => exact slot_markRunning ..
    | wake s => exact slot_wake ..
    | fill e r =>
      refine (slot_setSlot ..).trans (if_neg ?_)
      rintro rfl
      have hopen := hP hx
      rw [ih, hd] at hopen
      cases hopen
    | emit | update | coordinate | setTable => rfl

/-- A slot that is unresolved at the end was so at the start. -/
theorem unresolved (h : Steps P n m)
    (hP : ∀ {l d r}, P l (.fill d r) → (l.slot d).isResolved = false) {d : Slot.Ref}
    (hd : (m.slot d).isResolved = false) : (n.slot d).isResolved = false := by
  cases hn : (n.slot d).isResolved with
  | false => rfl
  | true => rw [h.resolved hP hn, hn] at hd; cases hd

/-- What every change to a channel keeps, stays. -/
theorem channel_eq {α : Type} {g : Channel τ ε → α} (h : Steps P n m)
    (hP : ∀ {l c f}, P l (.update c f) → g (f (l.channel c)) = g (l.channel c))
    (c : Channel.Ref) : g (m.channel c) = g (n.channel c) := by
  induction h with
  | refl => rfl
  | @step m _ x hx ih =>
    rw [← ih]
    cases x with
    | suspend s => exact congrArg g (channel_suspend ..)
    | markRunning s => exact congrArg g (channel_markRunning ..)
    | wake s => exact congrArg g (channel_wake ..)
    | update x f =>
      refine (congrArg g (channel_updateChannel ..)).trans ?_
      exact m.channel_ite x g (hP hx) c
    | emit | fill | coordinate | setTable => rfl

/-- No channel is lost. -/
theorem size_channels (h : Steps P n m) : n.channels.size ≤ m.channels.size := by
  induction h with
  | refl => exact Nat.le_refl _
  | @step m _ x _ ih =>
    refine Nat.le_trans ih ?_
    cases x with
    | suspend s => exact Nat.le_of_eq (congrArg Store.size (channels_suspend ..)).symm
    | markRunning s => exact Nat.le_of_eq (congrArg Store.size (channels_markRunning ..)).symm
    | wake s => exact Nat.le_of_eq (congrArg Store.size (channels_wake ..)).symm
    | update c f =>
      exact Nat.le_trans (Nat.le_max_left ..) (Nat.le_of_eq (Store.size_set ..).symm)
    | emit | fill | coordinate | setTable => exact Nat.le_refl _

end Steps

end Network

/-! ## The log -/

/-- Whether an event says what becomes of one strand that is suspended or woken. -/
def Event.isScheduling : Event → Bool
  | .suspendIgnored .. | .woken _ | .wakeIgnored .. | .readySetGone _ => true
  | _ => false

namespace Network

variable {P : Network τ ε → Step τ ε → Prop} {m n : Network τ ε}

theorem log_suspend (n : Network τ ε) (s : Strand.Ref) :
    ∃ l, (n.suspend s).log = n.log ++ l ∧ ∀ e ∈ l, e.isScheduling = true := by
  unfold suspend
  split
  · exact ⟨[], (List.append_nil _).symm, nofun⟩
  · exact ⟨_, rfl, List.forall_mem_singleton.2 rfl⟩

theorem log_markRunning (n : Network τ ε) (s : Strand.Ref) : (n.markRunning s).log = n.log := by
  unfold markRunning
  split <;> rfl

theorem log_wake (n : Network τ ε) (s : Strand.Ref) :
    ∃ l, (n.wake s).log = n.log ++ l ∧ ∀ e ∈ l, e.isScheduling = true := by
  unfold wake
  split
  · unfold enqueue
    dsimp only
    split
    · exact ⟨_, rfl, List.forall_mem_singleton.2 rfl⟩
    · refine ⟨_, List.append_assoc .., ?_⟩
      exact List.forall_mem_cons.2 ⟨rfl, List.forall_mem_singleton.2 rfl⟩
  · exact ⟨_, rfl, List.forall_mem_singleton.2 rfl⟩

/-- The log grows by what steps report, and by what becomes of strands. -/
theorem Steps.log {p : Event → Prop} (h : Steps P n m) (hP : ∀ {l e}, P l (.emit e) → p e)
    (hs : ∀ e, e.isScheduling = true → p e) : ∃ l, m.log = n.log ++ l ∧ ∀ e ∈ l, p e := by
  induction h with
  | refl => exact ⟨[], (List.append_nil _).symm, nofun⟩
  | @step m _ x hx ih =>
    have grow : ∀ {m' : Network τ ε} {l}, m'.log = m.log ++ l → (∀ e ∈ l, p e) →
        ∃ l, m'.log = n.log ++ l ∧ ∀ e ∈ l, p e := by
      intro m' l hl hp
      obtain ⟨l', hl', hp'⟩ := ih
      refine ⟨l' ++ l, by rw [hl, hl', List.append_assoc], fun e he => ?_⟩
      exact (List.mem_append.1 he).elim (hp' e) (hp e)
    cases x with
    | emit e => exact grow rfl (List.forall_mem_singleton.2 (hP hx))
    | suspend s =>
      obtain ⟨l, hl, hp⟩ := m.log_suspend s
      exact grow hl fun e he => hs e (hp e he)
    | wake s =>
      obtain ⟨l, hl, hp⟩ := m.log_wake s
      exact grow hl fun e he => hs e (hp e he)
    | markRunning s => exact (log_markRunning m s).symm ▸ ih
    | fill | update | coordinate | setTable => exact ih

end Network

/-! ## What is allowed anyway -/

/-- Whether an event gives up a failure. -/
def Event.isLoss : Event → Bool
  | .failureOverwritten _ | .failureDropped _ => true
  | _ => false

/-- Whether an event reports that a place was taken or consumed. -/
def Event.isCount : Event → Bool
  | .sent .. | .syncSent .. | .received .. | .failureReceived .. | .sendFailed ..
  | .receiveFailed .. => true
  | _ => false

/-- Whether an event says what its operation is doing and no more: nothing is counted or lost, no
counterpart is missing, and it is not about one strand alone. -/
def Event.isPlain : Event → Bool
  | .wakingReceiver .. | .syncSendFailed .. | .syncReceived .. | .flushDrained ..
  | .receiveParked .. | .flushFailed .. | .flushNothing .. | .flushParked ..
  | .flushSenderFailed .. | .syncSenderFailed .. | .staleFlushDiscarded .. | .failureRetained _
  | .flushWithdrawn _ | .alreadyResolved _ | .drainNoted .. | .flushComplete _ => true
  | _ => false

/-- What a channel was created with. -/
def Channel.options (channel : Channel τ ε) : ChannelOptions :=
  ⟨channel.name, channel.retainReceiveFailures⟩

@[simp] theorem Channel.options_create (options : ChannelOptions) :
    (Channel.create options : Channel τ ε).options = options := rfl

/-- Whoever is registered with `b` was registered with `a`, or is a strand in `S`, with a slot in
`D` and a coordinator in `K`. -/
structure Channel.Registers (S : Strand.Ref → Prop) (D : Slot.Ref → Prop)
    (K : Coordinator.Ref → Prop) (a b : Channel τ ε) : Prop where
  receiver : ∀ t, b.receiver = some t → a.receiver = some t ∨ S t
  syncSender : ∀ p, b.syncSender = some p → a.syncSender = some p ∨ S p.strand ∧ D p.slot
  flushSender : ∀ p, b.flushSender = some p →
    a.flushSender = some p ∨ S p.strand ∧ D p.slot ∧ K p.coordinator

namespace Channel.Registers

variable {S S' : Strand.Ref → Prop} {D D' : Slot.Ref → Prop} {K K' : Coordinator.Ref → Prop}
  {a b c : Channel τ ε}

/-- Nobody is registered anew, and some may be gone. -/
theorem less (hr : b.receiver = a.receiver ∨ b.receiver = none)
    (hy : b.syncSender = a.syncSender ∨ b.syncSender = none)
    (hf : b.flushSender = a.flushSender ∨ b.flushSender = none) : a.Registers S D K b where
  receiver t ht := by
    rcases hr with hr | hr
    · exact .inl (hr ▸ ht)
    · rw [hr] at ht
      cases ht
  syncSender p hp := by
    rcases hy with hy | hy
    · exact .inl (hy ▸ hp)
    · rw [hy] at hp
      cases hp
  flushSender p hp := by
    rcases hf with hf | hf
    · exact .inl (hf ▸ hp)
    · rw [hf] at hp
      cases hp

theorem refl (a : Channel τ ε) : a.Registers S D K a := .less (.inl rfl) (.inl rfl) (.inl rfl)

theorem trans (hab : a.Registers S D K b) (hbc : b.Registers S D K c) : a.Registers S D K c where
  receiver t ht := (hbc.receiver t ht).elim (hab.receiver t) .inr
  syncSender p hp := (hbc.syncSender p hp).elim (hab.syncSender p) .inr
  flushSender p hp := (hbc.flushSender p hp).elim (hab.flushSender p) .inr

theorem mono (h : a.Registers S D K b) (hS : ∀ s, S s → S' s) (hD : ∀ d, D d → D' d)
    (hK : ∀ k, K k → K' k) : a.Registers S' D' K' b where
  receiver t ht := (h.receiver t ht).imp_right (hS t)
  syncSender p hp := (h.syncSender p hp).imp_right fun hin => ⟨hS _ hin.1, hD _ hin.2⟩
  flushSender p hp := (h.flushSender p hp).imp_right fun hin =>
    ⟨hS _ hin.1, hD _ hin.2.1, hK _ hin.2.2⟩

end Channel.Registers

/-- Nothing is counted, the options stay, and whoever is registered anew is a strand in `S`, with a
slot in `D` and a coordinator in `K`. -/
structure Channel.Follows (S : Strand.Ref → Prop) (D : Slot.Ref → Prop)
    (K : Coordinator.Ref → Prop) (a b : Channel τ ε) : Prop where
  registers : a.Registers S D K b
  options : b.options = a.options
  sendCount : b.sendCount = a.sendCount
  recvCount : b.recvCount = a.recvCount

/-- Nothing is counted, the options stay, and nobody is registered anew. -/
abbrev Channel.Lessens (a b : Channel τ ε) : Prop :=
  a.Follows (fun _ => False) (fun _ => False) (fun _ => False) b

/-- Whether a coordinator, being a barrier, knows that the channel with that number has drained. -/
def Coordinator.Knows (id : ChannelId) : Coordinator → Prop
  | .barrier b => id ∈ b.drained
  | .drainLog _ => False

namespace Network

/-- Whether all is allowed that is done to the channels `C` anyway. -/
structure Lenient (P : Network τ ε → Step τ ε → Prop) (C : Channel.Ref → Prop) : Prop where
  emit : ∀ {m e}, e.isPlain = true → P m (.emit e)
  update : ∀ {m c f}, C c → (m.channel c).Lessens (f (m.channel c)) → P m (.update c f)

/-- Whether a suspended sender may be released with that resolution. -/
structure Releasing (P : Network τ ε → Step τ ε → Prop) (p : Party) (r : Resolution ε) : Prop where
  fill : ∀ {m}, (m.slot p.slot).isResolved = false → P m (.fill p.slot r)
  wake : ∀ {m}, P m (.wake p.strand)

/-- Whether a coordinator may be told of a channel. -/
structure Informing (P : Network τ ε → Step τ ε → Prop) (n : Network τ ε) (k : Coordinator.Ref)
    (id : ChannelId) : Prop where
  note : ∀ {m}, P m (.coordinate k ((m.coordinator k).note id))
  again : (n.coordinator k).Knows id → ∀ {m s}, P m (.emit (.drainRepeated id s))
  complete : ∀ b, n.coordinator k = .barrier b → (n.slot b.slot).isResolved = false →
    Releasing P ⟨b.strand, b.slot⟩ .done

namespace Steps

variable {P : Network τ ε → Step τ ε → Prop} {C : Channel.Ref → Prop} {m n : Network τ ε}
  {c : Channel.Ref}

/-! ## Delivery -/

theorem offer (h : Steps P n m) {d : Slot.Ref} {r : Resolution ε}
    (hd : (m.slot d).isResolved = false → P m (.fill d r)) : Steps P n (m.offer d r).1 := by
  cases ho : (m.slot d).isResolved with
  | true => rw [offer_resolved r ho]; exact h
  | false => rw [offer_open r ho]; exact h.fill (hd ho)

theorem deliver (h : Steps P n m) (hP : Lenient P C) {p : Party} {r : Resolution ε}
    (hp : (m.slot p.slot).isResolved = false → Releasing P p r) :
    Steps P n (m.deliver p r).1 := by
  cases ho : (m.slot p.slot).isResolved with
  | true => rw [deliver_resolved r ho]; exact h.emit (hP.emit rfl)
  | false => rw [deliver_open r ho]; exact (h.fill ((hp ho).fill ho)).wake (hp ho).wake

theorem completeBarrier (h : Steps P n m) (hP : Lenient P C) {b : Barrier}
    (hb : (m.slot b.slot).isResolved = false → Releasing P ⟨b.strand, b.slot⟩ .done) :
    Steps P n (m.completeBarrier b) := by
  cases ho : (m.slot b.slot).isResolved with
  | true => rw [completeBarrier_resolved ho]; exact h
  | false =>
    rw [completeBarrier_open ho]
    exact ((h.fill ((hb ho).fill ho)).emit (hP.emit rfl)).wake (hb ho).wake

theorem notifyDrained (h : Steps P n m) (hP : Lenient P C) {k : Coordinator.Ref} {id : ChannelId}
    (hk : Informing P m k id) : Steps P n (m.notifyDrained k id) := by
  have hnote := hk.note (m := m)
  have hagain := hk.again
  unfold Network.notifyDrained
  split <;> rename_i heq <;> rw [heq] at hnote hagain
  · exact h.coordinate hnote
  · rename_i b
    dsimp only
    split
    · rename_i hid
      exact h.emit (hagain hid)
    · rename_i hid
      rw [Coordinator.note, if_neg hid] at hnote
      have noted := (h.coordinate hnote).emit (hP.emit (e := .drainNoted id
        (m.strandTag b.strand) (b.note id).drainedCount (b.note id).expected) rfl)
      split
      · exact noted.completeBarrier hP (hk.complete b heq)
      · exact noted

/-! ## Transfer -/

theorem wakeReceiver (h : Steps P n m) (hP : Lenient P C) (hc : C c)
    (hr : ∀ s, (m.channel c).receiver = some s → ∀ {l}, P l (.wake s)) :
    Steps P n (m.wakeReceiver c) := by
  unfold Network.wakeReceiver
  split
  · exact h
  · rename_i s hs
    have removed := h.update (f := fun channel => { channel with receiver := none })
      (hP.update hc ⟨.less (.inr rfl) (.inl rfl) (.inl rfl), rfl, rfl, rfl⟩)
    exact (removed.emit (hP.emit rfl)).wake (hr s hs)

theorem parkSyncSender (h : Steps P n m) {p : Party} (hs : P m (.suspend p.strand))
    (hp : ∀ {l}, P l (.update c fun channel => { channel with syncSender := some p }))
    (hother : (m.channel c).syncSender ≠ none → ∀ {l x y}, P l (.emit (.syncSenderReplaced x y))) :
    Steps P n (m.parkSyncSender c p) := by
  unfold Network.parkSyncSender
  dsimp only
  split
  · exact (h.suspend hs).update hp
  · rename_i other heq
    rw [channel_suspend] at heq
    exact ((h.suspend hs).update hp).emit (hother (heq ▸ nofun))

theorem releaseSyncSender (h : Steps P n m) (hP : Lenient P C) (hc : C c)
    (hnone : (m.channel c).syncSender = none → ∀ {x}, P m (.emit (.syncOrphaned x)))
    (hp : ∀ p, (m.channel c).syncSender = some p → (m.slot p.slot).isResolved = false →
      Releasing P p .done) : Steps P n (m.releaseSyncSender c) := by
  unfold Network.releaseSyncSender
  split
  · rename_i heq
    exact h.emit (hnone heq)
  · rename_i p heq
    have removed := h.update (f := fun channel => { channel with syncSender := none })
      (hP.update hc ⟨.less (.inl rfl) (.inr rfl) (.inl rfl), rfl, rfl, rfl⟩)
    exact (removed.emit (hP.emit rfl)).deliver hP (hp p heq)

theorem takeMessage {s : Strand.Ref} {msg : Message τ} {rest : List (Message τ)}
    (h : Steps P n (m.countMessage c s rest)) (hP : Lenient P C) (hc : C c)
    (hnone : msg.sync = true → (m.channel c).syncSender = none →
      ∀ {l x}, P l (.emit (.syncOrphaned x)))
    (hp : ∀ p, (m.channel c).syncSender = some p → (m.slot p.slot).isResolved = false →
      Releasing P p .done) : Steps P n (m.takeMessage c s msg rest) := by
  have hchannel : ((m.countMessage c s rest).channel c).syncSender = (m.channel c).syncSender := by
    rw [channel_countMessage, if_pos rfl]
  unfold Network.takeMessage
  split
  · rename_i hsync
    exact h.releaseSyncSender hP hc (fun hno => hnone hsync (hchannel ▸ hno))
      fun p hsome => hp p (hchannel ▸ hsome)
  · exact h

theorem noteDrained (h : Steps P n m) (hP : Lenient P C) (hc : C c)
    (hk : ∀ p, (m.channel c).drainedSender? = some p → Informing P m p.coordinator c.id) :
    Steps P n (m.noteDrained c) := by
  unfold Network.noteDrained
  split
  · exact h
  · rename_i p heq
    have hp := hk p heq
    have removed := h.update (f := fun channel => { channel with flushSender := none })
      (hP.update hc ⟨.less (.inl rfl) (.inl rfl) (.inr rfl), rfl, rfl, rfl⟩)
    exact (removed.emit (hP.emit rfl)).notifyDrained hP ⟨hp.note, hp.again, hp.complete⟩

theorem parkReceiver (h : Steps P n m) (hP : Lenient P C) {s : Strand.Ref}
    (hs : ∀ {l}, P l (.suspend s))
    (hr : ∀ {l}, P l (.update c fun channel => { channel with receiver := some s }))
    (hother : (m.channel c).receiver ≠ none → ∀ {x y z}, P m (.emit (.receiverDisplaced x y z))) :
    Steps P n (m.parkReceiver c s) := by
  unfold Network.parkReceiver
  dsimp only
  refine emit (update (suspend ?_ hs) hr) (hP.emit rfl)
  split
  · exact h
  · rename_i other heq
    split
    · exact h
    · exact h.emit (hother (heq ▸ nofun))

/-! ## Flushing -/

theorem parkFlushSender (h : Steps P n m) (hP : Lenient P C) {p : Party} {k : Coordinator.Ref}
    (hs : ∀ {l}, P l (.suspend p.strand))
    (hp : ∀ {l threshold}, P l (.update c fun channel =>
      { channel with flushSender := some { p with threshold, coordinator := k } }))
    (hother : ∀ q, (m.channel c).flushSender = some q →
      ∀ {l x y}, P l (.emit (.flushSenderReplaced x y (m.slot q.slot).isResolved))) :
    Steps P n (m.parkFlushSender c p k) := by
  unfold Network.parkFlushSender
  dsimp only
  split
  · exact ((h.emit (hP.emit rfl)).suspend hs).update hp
  · rename_i q heq
    rw [channel_suspend] at heq
    refine (((h.emit (hP.emit rfl)).suspend hs).update hp).emit ?_
    rw [slot_updateChannel, slot_suspend, slot_emit]
    exact hother q heq

theorem withdrawFlush (h : Steps P n m) (hP : Lenient P C) (hc : C c) (d : Slot.Ref) :
    Steps P n (m.withdrawFlush d c) := by
  unfold Network.withdrawFlush
  split
  · exact h
  · split
    · exact (h.emit (hP.emit rfl)).update
        (hP.update hc ⟨.less (.inl rfl) (.inl rfl) (.inr rfl), rfl, rfl, rfl⟩)
    · exact h

theorem withdrawAll (h : Steps P n m) (hP : Lenient P C) (d : Slot.Ref) {cs : List Channel.Ref}
    (hcs : ∀ c ∈ cs, C c) : Steps P n (cs.foldl (·.withdrawFlush d) m) := by
  induction cs generalizing m with
  | nil => exact h
  | cons c cs ih =>
    exact ih (h.withdrawFlush hP (hcs c List.mem_cons_self) d)
      fun x hx => hcs x (List.mem_cons_of_mem _ hx)

/-! ## Failing -/

theorem storeFailure (h : Steps P n m) (hP : Lenient P C) (hc : C c) (f : Failure ε)
    (hlost : ∀ {l x}, P l (.emit (.failureOverwritten x))) :
    Steps P n (m.storeFailure c f) := by
  have stored := h.update (f := fun channel => { channel with pending := channel.pending.put f })
    (hP.update hc ⟨.less (.inl rfl) (.inl rfl) (.inl rfl), rfl, rfl, rfl⟩)
  unfold Network.storeFailure
  dsimp only
  split
  · exact stored.emit hlost
  · exact stored

theorem failFlushSender (h : Steps P n m) (hP : Lenient P C) (hc : C c) {f : Failure ε}
    (hp : ∀ p, (m.channel c).flushSender = some p → (m.slot p.slot).isResolved = false →
      Releasing P p.toParty (.failed f)) : Steps P n (m.failFlushSender c f).1 := by
  unfold Network.failFlushSender
  split
  · exact h
  · rename_i p heq
    have removed := h.update (f := fun channel => { channel with flushSender := none })
      (hP.update hc ⟨.less (.inl rfl) (.inl rfl) (.inr rfl), rfl, rfl, rfl⟩)
    have delivered := removed.deliver hP (hp p heq)
    dsimp only
    split <;> rename_i heq <;> rw [heq] at delivered
    · exact delivered.emit (hP.emit rfl)
    · split
      · exact delivered.emit (hP.emit rfl)
      · exact delivered

theorem failSyncSender (h : Steps P n m) (hP : Lenient P C) (hc : C c) {f : Failure ε}
    (hp : ∀ p, (m.channel c).syncSender = some p → (m.slot p.slot).isResolved = false →
      Releasing P p (.failed f)) : Steps P n (m.failSyncSender c f).1 := by
  unfold Network.failSyncSender
  split
  · exact h
  · rename_i p heq
    have removed := h.update (f := fun channel => { channel with syncSender := none })
      (hP.update hc ⟨.less (.inl rfl) (.inr rfl) (.inl rfl), rfl, rfl, rfl⟩)
    have delivered := removed.deliver hP (hp p heq)
    dsimp only
    split <;> rename_i heq <;> rw [heq] at delivered
    · exact (delivered.emit (hP.emit rfl)).update
        (hP.update hc ⟨.less (.inl rfl) (.inl rfl) (.inl rfl), rfl, rfl, rfl⟩)
    · exact delivered

theorem retainFailure (h : Steps P n m) (hP : Lenient P C) (hc : C c) (f : Failure ε)
    (hlost : ∀ {l e}, e.isLoss = true → P l (.emit e)) : Steps P n (m.retainFailure c f) := by
  unfold Network.retainFailure
  split
  · exact (h.emit (hP.emit rfl)).storeFailure hP hc f (hlost rfl)
  · exact h.emit (hlost rfl)

end Steps

end Network

end Rendezvous
