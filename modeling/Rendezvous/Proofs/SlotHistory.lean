import Rendezvous.Proofs.Deeds
import Rendezvous.Proofs.OperationSteps
import Rendezvous.Proofs.ParkedReceiver

/-!
# What happens to a slot

A slot takes one resolution, gives it back once, and releases at most one sender, whoever uses it
and however often.

* **Handlings** (`Handling`): a use of a slot, or an attempt to wake a strand, together with the
  network in which it happens.
* **Handlings of a run** (`Network.handlings`): what its calls do to slots and strands, one step of
  an operation at a time. Between two handlings no slot changes and nobody tries to wake a strand
  (`Network.Passes`, `passes_run`).
* **The account of a slot** (`Account`): what was accepted and what was taken so far determine the
  slot. Every handling keeps the account (`Account.step`) and obeys it (`Account.obeys`).
* **Runs** (`Network.slot_settled_once`).
-/

namespace Rendezvous

variable {τ ε : Type}

/-! ## Handlings -/

/-- What is done to a slot, or to a strand that waits. -/
inductive HandlingAct (ε : Type) where
  /-- A resolution is offered to a slot, and nobody is woken. -/
  | offer (d : Slot.Ref) (r : Resolution ε)
  /-- A resolution is delivered to a registered sender. -/
  | deliver (p : Party) (r : Resolution ε)
  /-- A barrier that has heard of enough channels releases its sender. -/
  | complete (b : Barrier)
  /-- A resolution is taken out of a slot, if there is one to take. -/
  | take (d : Slot.Ref)
  /-- A strand is woken that waits for no slot, or is woken by hand. -/
  | wake (s : Strand.Ref)

/-- A use of a slot or an attempt to wake a strand, with the network in which it happens. -/
structure Handling (τ ε : Type) where
  before : Network τ ε
  act : HandlingAct ε

namespace Handling

/-- The network after a handling. -/
def after (x : Handling τ ε) : Network τ ε :=
  match x.act with
  | .offer d r => (x.before.offer d r).1
  | .deliver p r => (x.before.deliver p r).1
  | .complete b => x.before.completeBarrier b
  | .take d => (x.before.take d).1
  | .wake s => x.before.wake s

/-- The slot to which something is offered, and what. -/
def offered? (x : Handling τ ε) : Option (Slot.Ref × Resolution ε) :=
  match x.act with
  | .offer d r => some (d, r)
  | .deliver p r => some (p.slot, r)
  | .complete b => some (b.slot, .done)
  | .take _ | .wake _ => none

/-- What comes back: the resolution that is refused, or the one that is taken. -/
def returned? (x : Handling τ ε) : Option (Resolution ε) :=
  match x.act with
  | .offer d r => (x.before.offer d r).2
  | .deliver p r => (x.before.deliver p r).2
  | .complete b => (x.before.offer b.slot .done).2
  | .take d => (x.before.take d).2
  | .wake _ => none

/-- The resolution that slot `d` accepts. -/
def accepted? (d : Slot.Ref) (x : Handling τ ε) : Option (Resolution ε) :=
  match x.offered? with
  | some (e, r) => if e = d ∧ x.returned? = none then some r else none
  | none => none

/-- The resolution that is taken out of slot `d`. -/
def taken? (d : Slot.Ref) (x : Handling τ ε) : Option (Resolution ε) :=
  match x.act with
  | .take e => if e = d then x.returned? else none
  | _ => none

/-- The sender that a waiting party or a barrier is there to release. -/
def sender? (x : Handling τ ε) : Option Party :=
  match x.act with
  | .deliver p _ => some p
  | .complete b => some ⟨b.strand, b.slot⟩
  | .offer .. | .take _ | .wake _ => none

/-- The strands that somebody tries to wake. -/
def attempts (x : Handling τ ε) : List StrandTag :=
  x.after.attempts.drop x.before.attempts.length

end Handling

/-- The resolutions that slot `d` has accepted. -/
def acceptances (d : Slot.Ref) (h : List (Handling τ ε)) : List (Resolution ε) :=
  h.filterMap (·.accepted? d)

/-- The resolutions that were taken out of slot `d`. -/
def takings (d : Slot.Ref) (h : List (Handling τ ε)) : List (Resolution ε) :=
  h.filterMap (·.taken? d)

/-- The senders that somebody tries to wake in releasing them through slot `d`. -/
def senderWakes (d : Slot.Ref) (h : List (Handling τ ε)) : List StrandTag :=
  (h.filter (·.sender?.map (·.slot) = some d)).flatMap (·.attempts)

/-! ## Handlings of a run -/

namespace Network

section
variable (n : Network τ ε) (c : Channel.Ref)

/-- Waking the strand that waits to receive. -/
def receiverHandlings : List (Handling τ ε) :=
  match (n.channel c).receiver with
  | none => []
  | some s =>
    let n := n.updateChannel c fun channel => { channel with receiver := none }
    [⟨n.emit (.wakingReceiver (n.channelTag c) (n.strandTag s)), .wake s⟩]

/-- Telling a coordinator that a channel has drained. -/
def coordinatorHandlings (k : Coordinator.Ref) (id : ChannelId) : List (Handling τ ε) :=
  match n.coordinator k with
  | .drainLog _ => []
  | .barrier b =>
    if id ∈ b.drained then []
    else
      let b := b.note id
      let n := n.setCoordinator k (.barrier b)
      let n := n.emit (.drainNoted id (n.strandTag b.strand) b.drainedCount b.expected)
      if b.drainedCount = b.expected then [⟨n, .complete b⟩] else []

/-- Releasing the sender whose value was received. -/
def syncSenderHandlings : List (Handling τ ε) :=
  match (n.channel c).syncSender with
  | none => []
  | some p =>
    let n := n.updateChannel c fun channel => { channel with syncSender := none }
    [⟨n.emit (.syncReceived (n.channelTag c) (n.strandTag p.strand)), .deliver p .done⟩]

/-- Telling the coordinator of the flushing sender, if a received value has drained the channel. -/
def drainHandlings : List (Handling τ ε) :=
  match (n.channel c).drainedSender? with
  | none => []
  | some p =>
    let n := n.updateChannel c fun channel => { channel with flushSender := none }
    (n.emit (.flushDrained (n.channelTag c) (n.strandTag p.strand))).coordinatorHandlings
      p.coordinator c.id

/-- Delivering a failure to the flushing sender. -/
def flushFailureHandlings (f : Failure ε) : List (Handling τ ε) :=
  match (n.channel c).flushSender with
  | none => []
  | some p =>
    [⟨n.updateChannel c fun channel => { channel with flushSender := none },
      .deliver p.toParty (.failed f)⟩]

/-- Delivering a failure to the sender that waits for its value. -/
def syncFailureHandlings (f : Failure ε) : List (Handling τ ε) :=
  match (n.channel c).syncSender with
  | none => []
  | some p =>
    [⟨n.updateChannel c fun channel => { channel with syncSender := none },
      .deliver p (.failed f)⟩]

/-- What an operation does to slots and strands. -/
def operationHandlings : Operation τ ε → List (Handling τ ε)
  | .send value s =>
    let n := n.updateChannel c (·.enqueue ⟨value, false⟩)
    (n.emit (.sent (n.channelTag c) (n.strandTag s) (n.channel c).sendCount)).receiverHandlings c
  | .syncSend value s d =>
    let n := n.updateChannel c (·.enqueue ⟨value, true⟩)
    let n := n.emit (.syncSent (n.channelTag c) (n.strandTag s) (n.channel c).sendCount)
    if (n.channel c).hasReceiver then (n.parkSyncSender c ⟨s, d⟩).receiverHandlings c
    else
      match (n.channel c).pending.take? with
      | some (f, pending) =>
        let n := n.updateChannel c fun channel => { channel with pending }
        let n := n.emit (.syncSendFailed (n.channelTag c) (n.strandTag s) f.kind)
        [⟨n.updateChannel c (·.releaseNewest), .offer d (.failed f)⟩]
      | none => []
  | .receive s =>
    match (n.channel c).queue with
    | m :: rest =>
      (if m.sync then (n.countMessage c s rest).syncSenderHandlings c else []) ++
        (n.takeMessage c s m rest).drainHandlings c
    | [] => []
  | .flush s d k =>
    match (n.channel c).pending.take? with
    | some (f, pending) =>
      let n := n.updateChannel c fun channel => { channel with pending }
      [⟨n.emit (.flushFailed (n.channelTag c) (n.strandTag s) f.kind), .offer d (.failed f)⟩]
    | none =>
      if (n.channel c).isDrained then
        (n.emit (.flushNothing (n.channelTag c) (n.strandTag s))).coordinatorHandlings k c.id
      else []
  | .failSend f =>
    let n := n.updateChannel c (·.countSent)
    let n := n.emit (.sendFailed (n.channelTag c) f.kind (n.channel c).sendCount)
    (n.storeFailure c f).receiverHandlings c
  | .failReceive f =>
    let n := n.countReceiveFailure c f
    n.flushFailureHandlings c f ++
      match n.failFlushSender c f with
      | (_, none) => []
      | (n, some f) => n.syncFailureHandlings c f

end

end Network

/-- What a deed does to slots and strands. -/
def Deed.handlings (x : Deed τ ε) : List (Handling τ ε) :=
  match x.act with
  | .operate op => x.before.operationHandlings x.channel op
  | .withdraw _ => []

namespace Network

/-- What a call does to slots and strands. -/
def handlingsOf (n : Network τ ε) : Call τ ε → List (Handling τ ε)
  | .offer d r => [⟨n, .offer d r⟩]
  | .take d => [⟨n, .take d⟩]
  | .wake s => [⟨n, .wake s⟩]
  | .notifyDrained k id => n.coordinatorHandlings k id
  | .flushAll [] _ d => [⟨n, .offer d .done⟩]
  | call => (n.deedsOf call).flatMap Deed.handlings

/-- What a run does to slots and strands, oldest first. -/
def handlings (n : Network τ ε) : List (Call τ ε) → List (Handling τ ε)
  | [] => []
  | call :: calls => n.handlingsOf call ++ (n.perform call).1.handlings calls

theorem handlings_append (n : Network τ ε) (a b : List (Call τ ε)) :
    n.handlings (a ++ b) = n.handlings a ++ (n.run a).handlings b := by
  induction a generalizing n with
  | nil => rfl
  | cons call a ih => rw [List.cons_append, handlings, handlings, ih, List.append_assoc, run_cons]

/-! ### Nothing in between -/

/-- No slot has changed, and nobody tried to wake a strand. -/
structure Still (n m : Network τ ε) : Prop where
  slot : ∀ d, m.slot d = n.slot d
  attempts : m.attempts = n.attempts

/-- These handlings lead from one network to another, and nothing else happens to slots or to
strands that wait. -/
def Passes (n : Network τ ε) : List (Handling τ ε) → Network τ ε → Prop
  | [], m => n.Still m
  | x :: l, m => n.Still x.before ∧ x.after.Passes l m

variable {n m k : Network τ ε} {c : Channel.Ref}

/-- Whether a step neither fills a slot nor tries to wake a strand. -/
def Idle (_ : Network τ ε) : Step τ ε → Prop
  | .emit e => e.attempt? = none
  | .wake _ | .fill .. => False
  | _ => True

theorem lenient_idle : Lenient (Idle (τ := τ) (ε := ε)) fun _ => True where
  emit {_ e} he := by cases e <;> first | rfl | cases he
  update _ _ := trivial

theorem Steps.still (h : Steps Idle n m) : n.Still m := by
  induction h with
  | refl => exact ⟨fun _ => rfl, rfl⟩
  | @step m _ x hx ih =>
    have next : m.Still (m.step x) := by
      cases x with
      | emit e => exact ⟨fun _ => rfl, attempts_emit m hx⟩
      | suspend s => exact ⟨slot_suspend m s, attempts_suspend m s⟩
      | markRunning s =>
        exact ⟨slot_markRunning m s, congrArg (·.filterMap Event.attempt?) (log_markRunning m s)⟩
      | wake | fill => cases hx
      | update | coordinate | setTable => exact ⟨fun _ => rfl, rfl⟩
    exact ⟨fun d => (next.slot d).trans (ih.slot d), next.attempts.trans ih.attempts⟩

namespace Still

theorem refl (n : Network τ ε) : n.Still n := Steps.refl.still

theorem trans (h : n.Still m) (h' : m.Still k) : n.Still k :=
  ⟨fun d => (h'.slot d).trans (h.slot d), h'.attempts.trans h.attempts⟩

theorem emit (h : n.Still m) {e : Event} (he : e.attempt? = none) : n.Still (m.emit e) :=
  h.trans (Steps.refl.emit he).still

theorem updateChannel (h : n.Still m) (c : Channel.Ref) (f : Channel τ ε → Channel τ ε) :
    n.Still (m.updateChannel c f) := h.trans (Steps.refl.update trivial).still

theorem setCoordinator (h : n.Still m) (k : Coordinator.Ref) (x : Coordinator) :
    n.Still (m.setCoordinator k x) := h.trans (Steps.refl.coordinate trivial).still

theorem markRunning (h : n.Still m) (s : Strand.Ref) : n.Still (m.markRunning s) :=
  h.trans (Steps.refl.markRunning trivial).still

theorem parkSyncSender (h : n.Still m) (c : Channel.Ref) (p : Party) :
    n.Still (m.parkSyncSender c p) :=
  h.trans (Steps.refl.parkSyncSender trivial trivial fun _ => rfl).still

theorem parkFlushSender (h : n.Still m) (c : Channel.Ref) (p : Party) (k : Coordinator.Ref) :
    n.Still (m.parkFlushSender c p k) :=
  h.trans (Steps.refl.parkFlushSender lenient_idle trivial trivial fun _ _ => rfl).still

theorem parkReceiver (h : n.Still m) (c : Channel.Ref) (s : Strand.Ref) :
    n.Still (m.parkReceiver c s) :=
  h.trans (Steps.refl.parkReceiver lenient_idle trivial trivial fun _ => rfl).still

theorem storeFailure (h : n.Still m) (c : Channel.Ref) (f : Failure ε) :
    n.Still (m.storeFailure c f) :=
  h.trans (Steps.refl.storeFailure lenient_idle trivial f rfl).still

theorem retainFailure (h : n.Still m) (c : Channel.Ref) (f : Failure ε) :
    n.Still (m.retainFailure c f) := by
  refine h.trans (Steps.refl.retainFailure lenient_idle trivial f fun {_ e} he => ?_).still
  cases e <;> first | rfl | cases he

theorem withdrawFlush (h : n.Still m) (d : Slot.Ref) (c : Channel.Ref) :
    n.Still (m.withdrawFlush d c) :=
  h.trans (Steps.refl.withdrawFlush lenient_idle trivial d).still

end Still

namespace Passes

variable {l l' : List (Handling τ ε)}

theorem single (h : n.Still m) (act : HandlingAct ε) :
    n.Passes [⟨m, act⟩] (Handling.after ⟨m, act⟩) := ⟨h, .refl _⟩

theorem behind (h : n.Still m) (hl : m.Passes l k) : n.Passes l k := by
  cases l with
  | nil => exact h.trans hl
  | cons x l => exact ⟨h.trans hl.1, hl.2⟩

theorem append (h : n.Passes l m) (h' : m.Passes l' k) : n.Passes (l ++ l') k := by
  induction l generalizing n with
  | nil => exact h'.behind h
  | cons x l ih => exact ⟨h.1, ih h.2⟩

theorem still (h : n.Passes l m) (h' : m.Still k) : n.Passes l k := by
  have hl : n.Passes (l ++ []) k := h.append h'
  rwa [List.append_nil] at hl

/-! ### Operations

The handlings of an operation are listed in the order of its parts. So the parts are matched with
their handlings one by one, and what lies in between is still. -/

theorem wakeReceiver (h : n.Still m) (c : Channel.Ref) :
    n.Passes (m.receiverHandlings c) (m.wakeReceiver c) := by
  unfold receiverHandlings Network.wakeReceiver
  cases (m.channel c).receiver with
  | none => exact h
  | some s => exact single (.emit (h.updateChannel c _) rfl) _

theorem notifyDrained (h : n.Still m) (k : Coordinator.Ref) (id : ChannelId) :
    n.Passes (m.coordinatorHandlings k id) (m.notifyDrained k id) := by
  unfold coordinatorHandlings Network.notifyDrained
  cases m.coordinator k with
  | drainLog ids => exact h.setCoordinator k _
  | barrier b =>
    dsimp only
    by_cases hid : id ∈ b.drained
    · rw [if_pos hid, if_pos hid]
      exact .emit h rfl
    · rw [if_neg hid, if_neg hid]
      by_cases hlast : (b.note id).drainedCount = (b.note id).expected
      · rw [if_pos hlast, if_pos hlast]
        exact single (.emit (h.setCoordinator k _) rfl) _
      · rw [if_neg hlast, if_neg hlast]
        exact .emit (h.setCoordinator k _) rfl

theorem releaseSyncSender (h : n.Still m) (c : Channel.Ref) :
    n.Passes (m.syncSenderHandlings c) (m.releaseSyncSender c) := by
  unfold syncSenderHandlings Network.releaseSyncSender
  cases (m.channel c).syncSender with
  | none => exact .emit h rfl
  | some p => exact single (.emit (h.updateChannel c _) rfl) _

theorem noteDrained (h : n.Still m) (c : Channel.Ref) :
    n.Passes (m.drainHandlings c) (m.noteDrained c) := by
  unfold drainHandlings Network.noteDrained
  cases (m.channel c).drainedSender? with
  | none => exact h
  | some p => exact notifyDrained (.emit (h.updateChannel c _) rfl) _ c.id

theorem failFlushSender (h : n.Still m) (c : Channel.Ref) (f : Failure ε) :
    n.Passes (m.flushFailureHandlings c f) (m.failFlushSender c f).1 := by
  unfold flushFailureHandlings Network.failFlushSender
  cases (m.channel c).flushSender with
  | none => exact h
  | some p =>
    have hl := single (h.updateChannel c fun channel => { channel with flushSender := none })
      (.deliver p.toParty (.failed f))
    rw [Handling.after] at hl
    dsimp only at hl ⊢
    split
    · rename_i heq
      rw [heq] at hl
      exact hl.still (.emit (.refl _) rfl)
    · rename_i heq
      rw [heq] at hl
      split
      · exact hl.still (.emit (.refl _) rfl)
      · exact hl

theorem failSyncSender (h : n.Still m) (c : Channel.Ref) (f : Failure ε) :
    n.Passes (m.syncFailureHandlings c f) (m.failSyncSender c f).1 := by
  unfold syncFailureHandlings Network.failSyncSender
  cases (m.channel c).syncSender with
  | none => exact h
  | some p =>
    have hl := single (h.updateChannel c fun channel => { channel with syncSender := none })
      (.deliver p (.failed f))
    rw [Handling.after] at hl
    dsimp only at hl ⊢
    split
    · rename_i heq
      rw [heq] at hl
      exact hl.still (.updateChannel (.emit (.refl _) rfl) c _)
    · rename_i heq
      rw [heq] at hl
      exact hl

theorem receive (n : Network τ ε) (c : Channel.Ref) (s : Strand.Ref) :
    n.Passes (n.operationHandlings c (.receive s)) (n.receive c s).1 := by
  unfold operationHandlings Network.receive
  cases (n.channel c).queue with
  | cons m rest =>
    have hcount : n.Still (n.countMessage c s rest) := .emit (.updateChannel (.refl n) c _) rfl
    have htake : n.Passes (if m.sync then (n.countMessage c s rest).syncSenderHandlings c else [])
        (n.takeMessage c s m rest) := by
      unfold takeMessage
      split
      · exact releaseSyncSender hcount c
      · exact hcount
    exact htake.append (noteDrained (.refl _) c)
  | nil =>
    dsimp only
    split
    · exact .emit (.updateChannel (.refl n) c _) rfl
    · exact .parkReceiver (.refl n) c s

theorem syncSend (n : Network τ ε) (c : Channel.Ref) (value : τ) (s : Strand.Ref) (d : Slot.Ref) :
    n.Passes (n.operationHandlings c (.syncSend value s d)) (n.syncSend c value s d).1 := by
  have hsent : ∀ e : Event, e.attempt? = none →
      n.Still ((n.updateChannel c (·.enqueue ⟨value, true⟩)).emit e) :=
    fun _ he => .emit (.updateChannel (.refl n) c _) he
  unfold operationHandlings Network.syncSend
  simp only [channel_emit, channel_updateChannel_self]
  split
  · exact wakeReceiver ((hsent _ rfl).parkSyncSender c _) c
  · cases ((n.channel c).enqueue ⟨value, true⟩).pending.take? with
    | some r =>
      exact single (.updateChannel (.emit (.updateChannel (hsent _ rfl) c _) rfl) c _) _
    | none => exact .parkSyncSender (hsent _ rfl) c _

theorem flush (n : Network τ ε) (c : Channel.Ref) (s : Strand.Ref) (d : Slot.Ref)
    (k : Coordinator.Ref) :
    n.Passes (n.operationHandlings c (.flush s d k)) (n.flush c s d k).1 := by
  unfold operationHandlings Network.flush
  cases (n.channel c).pending.take? with
  | some r => exact single (.emit (.updateChannel (.refl n) c _) rfl) _
  | none =>
    dsimp only
    split
    · exact notifyDrained (.emit (.refl n) rfl) k c.id
    · exact .parkFlushSender (.refl n) c _ k

theorem failReceive (n : Network τ ε) (c : Channel.Ref) (f : Failure ε) :
    n.Passes (n.operationHandlings c (.failReceive f)) (n.failReceive c f) := by
  have hcount : n.Still (n.countReceiveFailure c f) := .emit (.updateChannel (.refl n) c _) rfl
  have hflush := failFlushSender hcount c f
  unfold operationHandlings
  dsimp only
  refine failReceive_cases (fun m hm => ?_) (fun m g l hm hl => ?_) fun m g l g' hm hl => ?_
  all_goals
    rw [hm] at hflush ⊢
    dsimp only at hflush ⊢
  · rw [List.append_nil]
    exact hflush
  · have hsync := failSyncSender (.refl m) c g
    rw [hl] at hsync
    exact hflush.append hsync
  · have hsync := failSyncSender (.refl m) c g
    rw [hl] at hsync
    exact hflush.append (hsync.still (.retainFailure (.refl l) c g'))

theorem operate (n : Network τ ε) (c : Channel.Ref) (op : Operation τ ε) :
    n.Passes (n.operationHandlings c op) (n.operate c op).1 := by
  cases op with
  | send value s => exact wakeReceiver (.emit (.updateChannel (.refl n) c _) rfl) c
  | syncSend value s d => exact syncSend n c value s d
  | receive s => exact receive n c s
  | flush s d k => exact flush n c s d k
  | failSend f =>
    exact wakeReceiver (.storeFailure (.emit (.updateChannel (.refl n) c _) rfl) c f) c
  | failReceive f => exact failReceive n c f

theorem deed (x : Deed τ ε) : x.before.Passes x.handlings x.after := by
  obtain ⟨n, c, act⟩ := x
  cases act with
  | operate op => exact operate n c op
  | withdraw d => exact .withdrawFlush (.refl n) d c

theorem leads {deeds : List (Deed τ ε)} (h : n.Leads deeds m) :
    n.Passes (deeds.flatMap Deed.handlings) m := by
  induction deeds generalizing n with
  | nil =>
    obtain rfl : m = n := h
    exact .refl m
  | cons x deeds ih =>
    obtain ⟨rfl, hleads⟩ := h
    exact (deed x).append (ih hleads)

theorem flushAll (n : Network τ ε) (cs : List Channel.Ref) (s : Strand.Ref) (d : Slot.Ref) :
    n.Passes (n.handlingsOf (.flushAll cs s d)) (n.flushAll cs s d).1 := by
  cases cs with
  | nil => exact single (.refl n) (.offer d .done)
  | cons c cs =>
    obtain ⟨m, hleads, hm⟩ := n.flushAll_deeds (List.cons_ne_nil c cs) s d
    have hcreated : n.Still (n.createBarrier s d ((c :: cs).map (·.id)).eraseDups.length).1 :=
      .setCoordinator (.refl n) _ _
    have hl : n.Passes (n.handlingsOf (.flushAll (c :: cs) s d)) m := (leads hleads).behind hcreated
    obtain hm | hm := hm
    · rw [hm]
      exact hl
    · rw [hm]
      exact hl.still (.markRunning (.refl m) s)

end Passes

/-- Creating a slot makes no difference, since it has the initial value already. -/
theorem Still.createSlot (n : Network τ ε) : n.Still n.createSlot.1 := by
  refine ⟨fun d => (slot_setSlot n n.slots.fresh .empty d).trans ?_, rfl⟩
  split
  · rename_i hd
    rw [hd]
    exact (Store.get_fresh n.slots).symm
  · rfl

theorem Still.dispatch (n : Network τ ε) (q : ReadySet.Ref) : n.Still (n.dispatch q).1 := by
  unfold Network.dispatch
  split <;> exact ⟨fun _ => rfl, rfl⟩

theorem Still.createChannel (n : Network τ ε) (options : ChannelOptions) :
    n.Still (n.createChannel options).1 :=
  ⟨fun _ => rfl, attempts_emit (n.setChannel _ _) rfl⟩

/-- A call leads through its handlings. -/
theorem passes_perform (n : Network τ ε) (call : Call τ ε) :
    n.Passes (n.handlingsOf call) (n.perform call).1 := by
  cases call with
  | offer d r => exact .single (.refl n) _
  | take d => exact .single (.refl n) _
  | wake s => exact .single (.refl n) _
  | notifyDrained k id => exact .notifyDrained (.refl n) k id
  | flushAll cs s d => exact .flushAll n cs s d
  | operate c op =>
    have hl := Passes.operate n c op
    rwa [← List.append_nil (n.operationHandlings c op)] at hl
  | markRunning s => exact Still.markRunning (.refl n) s
  | createSlot => exact .createSlot n
  | createChannel options => exact .createChannel n options
  | dispatch q => exact .dispatch n q
  | poll q held =>
    change n.Still (n.poll q held).1
    rw [fst_poll]
    exact .dispatch n q
  | lookupOrCreate t name =>
    change n.Still (n.lookupOrCreate t name).1
    unfold Network.lookupOrCreate
    split
    · exact .refl n
    · exact (Still.createChannel n _).trans ⟨fun _ => rfl, rfl⟩
  | _ => exact ⟨fun _ => rfl, rfl⟩

/-- So does a run. -/
theorem passes_run (n : Network τ ε) (calls : List (Call τ ε)) :
    n.Passes (n.handlings calls) (n.run calls) := by
  induction calls generalizing n with
  | nil => exact .refl n
  | cons call calls ih => exact (n.passes_perform call).append (ih _)

end Network

/-! ## The account of a slot -/

namespace Handling

variable {x : Handling τ ε} {d e : Slot.Ref} {r : Resolution ε}

/-- A resolved slot hands back what it is offered. Nothing changes, and nobody is woken. -/
theorem refused (h : x.offered? = some (e, r)) (hres : (x.before.slot e).isResolved = true) :
    x.returned? = some r ∧ x.after = { x.before with log := x.after.log } ∧ x.attempts = [] := by
  obtain ⟨n, act⟩ := x
  cases act with
  | offer d r =>
    cases h
    unfold returned? attempts after
    dsimp only
    rw [Network.offer_resolved r hres]
    exact ⟨rfl, rfl, List.drop_length⟩
  | deliver p r =>
    cases h
    unfold returned? attempts after
    dsimp only
    rw [Network.deliver_resolved r hres]
    refine ⟨rfl, rfl, ?_⟩
    rw [Network.attempts_emit n rfl, List.drop_length]
  | complete b =>
    cases h
    unfold returned? attempts after
    dsimp only
    rw [Network.completeBarrier_resolved hres, Network.offer_resolved .done hres]
    exact ⟨rfl, rfl, List.drop_length⟩
  | take | wake => cases h

/-- An unresolved slot keeps what it is offered. A sender that is released through it is woken. -/
theorem fills (h : x.offered? = some (e, r)) (ho : (x.before.slot e).isResolved = false) :
    x.returned? = none ∧
      (∀ d, x.after.slot d = if d = e then .filled r else x.before.slot d) ∧
      x.attempts = x.sender?.toList.map fun p => x.before.strandTag p.strand := by
  obtain ⟨n, act⟩ := x
  cases act with
  | offer d r =>
    cases h
    unfold returned? attempts after
    dsimp only
    rw [Network.offer_open r ho]
    exact ⟨rfl, Network.slot_setSlot n _ _, List.drop_length⟩
  | deliver p r =>
    cases h
    unfold returned? attempts after
    dsimp only
    rw [Network.deliver_open r ho]
    refine ⟨rfl, fun d => ?_, ?_⟩
    · rw [Network.slot_wake, Network.slot_setSlot]
    · rw [Network.attempts_wake]
      exact List.drop_left
  | complete b =>
    cases h
    unfold returned? attempts after
    dsimp only
    rw [Network.completeBarrier_open ho, Network.offer_open .done ho]
    refine ⟨rfl, fun d => ?_, ?_⟩
    · rw [Network.slot_wake, Network.slot_emit, Network.slot_setSlot]
    · rw [Network.attempts_wake, Network.attempts_emit _ rfl]
      exact List.drop_left
  | take | wake => cases h

theorem accepted?_of_offered (h : x.offered? = some (e, r)) :
    x.accepted? d = if e = d ∧ x.returned? = none then some r else none := by
  rw [accepted?, h]

theorem taken?_of_offered (h : x.offered? = some (e, r)) : x.taken? d = none := by
  obtain ⟨n, act⟩ := x
  cases act with
  | take | wake => cases h
  | offer | deliver | complete => rfl

/-- What a handling does to slot `d`: nothing, or it fills the slot, or it takes what is there. -/
theorem effect (d : Slot.Ref) (x : Handling τ ε) :
    (x.accepted? d = none ∧ x.taken? d = none ∧ x.after.slot d = x.before.slot d) ∨
      (∃ r, (x.before.slot d).isResolved = false ∧ x.accepted? d = some r ∧ x.taken? d = none ∧
        x.after.slot d = .filled r) ∨
      x.accepted? d = none ∧ x.taken? d = (x.before.slot d).take.1 ∧
        x.after.slot d = (x.before.slot d).take.2 := by
  cases h : x.offered? with
  | some offered =>
    obtain ⟨e, r⟩ := offered
    have hacc := accepted?_of_offered (d := d) h
    have htaken := taken?_of_offered (d := d) h
    cases ho : (x.before.slot e).isResolved with
    | true =>
      obtain ⟨hret, hafter, -⟩ := refused h ho
      refine .inl ⟨?_, htaken, by rw [hafter]⟩
      rw [hacc, hret, if_neg (by simp)]
    | false =>
      obtain ⟨hret, hslot, -⟩ := fills h ho
      by_cases he : e = d
      · subst he
        refine .inr (.inl ⟨r, ho, ?_, htaken, by rw [hslot, if_pos rfl]⟩)
        rw [hacc, if_pos ⟨rfl, hret⟩]
      · refine .inl ⟨?_, htaken, by rw [hslot, if_neg (Ne.symm he)]⟩
        rw [hacc, if_neg fun hand => he hand.1]
  | none =>
    have hacc : x.accepted? d = none := by rw [accepted?, h]
    obtain ⟨n, act⟩ := x
    cases act with
    | offer | deliver | complete => cases h
    | wake s => exact .inl ⟨hacc, rfl, Network.slot_wake n s d⟩
    | take e =>
      have hslot : (n.take e).1.slot d = if d = e then (n.slot e).take.2 else n.slot d :=
        n.slot_setSlot e _ d
      by_cases he : e = d
      · subst he
        exact .inr (.inr ⟨hacc, if_pos rfl, hslot.trans (if_pos rfl)⟩)
      · exact .inl ⟨hacc, if_neg he, hslot.trans (if_neg (Ne.symm he))⟩

end Handling

theorem acceptances_snoc (d : Slot.Ref) (h : List (Handling τ ε)) (x : Handling τ ε) :
    acceptances d (h ++ [x]) = acceptances d h ++ (x.accepted? d).toList := by
  rw [acceptances, List.filterMap_append, acceptances, List.filterMap_cons, List.filterMap_nil]
  cases x.accepted? d <;> rfl

theorem takings_snoc (d : Slot.Ref) (h : List (Handling τ ε)) (x : Handling τ ε) :
    takings d (h ++ [x]) = takings d h ++ (x.taken? d).toList := by
  rw [takings, List.filterMap_append, takings, List.filterMap_cons, List.filterMap_nil]
  cases x.taken? d <;> rfl

/-- What a slot is, by what it has accepted and by what was taken out of it. -/
inductive Account : List (Resolution ε) → List (Resolution ε) → Slot ε → Prop where
  | fresh : Account [] [] .empty
  | held (r : Resolution ε) : Account [r] [] (.filled r)
  | spent (r : Resolution ε) : Account [r] [r] .taken

namespace Account

variable {past : List (Handling τ ε)} {x : Handling τ ε} {d : Slot.Ref}
  {ins outs : List (Resolution ε)} {slot : Slot ε}

theorem length_le (h : Account ins outs slot) : ins.length ≤ 1 := by
  cases h <;> simp

theorem isResolved_iff (h : Account ins outs slot) : slot.isResolved = true ↔ ins ≠ [] := by
  cases h <;> simp [Slot.isResolved]

/-- Nothing is taken that was not accepted. -/
theorem outs_le (h : Account ins outs slot) : outs <+: ins := by
  cases h with
  | fresh | spent => exact List.prefix_rfl
  | held r => exact List.nil_prefix

theorem take_eq (h : Account ins outs slot) :
    slot.take.1 = if outs = [] then ins.head? else none := by
  cases h <;> rfl

/-- An unresolved slot has an empty account until it is filled. -/
theorem fill (h : Account ins outs slot) (ho : slot.isResolved = false) (r : Resolution ε) :
    Account (ins ++ [r]) outs (.filled r) := by
  cases h with
  | fresh => exact .held r
  | held | spent => cases ho

/-- What is taken is entered. -/
theorem take (h : Account ins outs slot) :
    Account ins (outs ++ slot.take.1.toList) slot.take.2 := by
  cases h with
  | fresh => exact .fresh
  | held r => exact .spent r
  | spent r => exact .spent r

/-- Every handling keeps the account. -/
theorem step (h : Account (acceptances d past) (takings d past) (x.before.slot d)) :
    Account (acceptances d (past ++ [x])) (takings d (past ++ [x])) (x.after.slot d) := by
  rw [acceptances_snoc, takings_snoc]
  obtain ⟨ha, ht, hslot⟩ | ⟨r, ho, ha, ht, hslot⟩ | ⟨ha, ht, hslot⟩ := x.effect d
  · rw [ha, ht, hslot, Option.toList_none, List.append_nil, List.append_nil]
    exact h
  · rw [ha, ht, hslot, Option.toList_none, List.append_nil]
    exact h.fill ho r
  · rw [ha, ht, hslot, Option.toList_none, List.append_nil]
    exact h.take

end Account

/-- How slot `d` behaves in the handling `x`, if the handlings `past` came before.

* It is resolved exactly if it has accepted something.
* The first resolution that it is offered is accepted. Every later one comes back as it is, and
  nothing changes but the log.
* What was accepted can be taken once. Nothing can be taken before or afterwards.
* A sender is woken through it, once, exactly if it accepts a resolution in that very handling. -/
structure Handling.Obeys (d : Slot.Ref) (past : List (Handling τ ε)) (x : Handling τ ε) : Prop where
  resolved : (x.before.slot d).isResolved = true ↔ acceptances d past ≠ []
  first : ∀ r, x.offered? = some (d, r) → acceptances d past = [] →
    x.returned? = none ∧ x.after.slot d = .filled r
  later : ∀ r, x.offered? = some (d, r) → acceptances d past ≠ [] →
    x.returned? = some r ∧ x.after = { x.before with log := x.after.log } ∧ x.attempts = []
  take : x.act = .take d →
    x.returned? = if takings d past = [] then (acceptances d past).head? else none
  wakes : ∀ p, x.sender? = some p → p.slot = d →
    x.attempts = if (x.accepted? d).isSome then [x.before.strandTag p.strand] else []

theorem Handling.offered?_of_sender {x : Handling τ ε} {p : Party} (h : x.sender? = some p) :
    ∃ r, x.offered? = some (p.slot, r) := by
  obtain ⟨n, act⟩ := x
  cases act with
  | deliver | complete =>
    cases h
    exact ⟨_, rfl⟩
  | offer | take | wake => cases h

/-- A slot whose account is kept obeys it. -/
theorem Account.obeys {d : Slot.Ref} {past : List (Handling τ ε)} {x : Handling τ ε}
    (h : Account (acceptances d past) (takings d past) (x.before.slot d)) : x.Obeys d past := by
  have opened : acceptances d past = [] → (x.before.slot d).isResolved = false := by
    intro hnone
    rw [Bool.eq_false_iff, ne_eq, h.isResolved_iff]
    exact fun hsome => hsome hnone
  constructor
  case resolved => exact h.isResolved_iff
  case first =>
    intro r hr hnone
    obtain ⟨hret, hslot, -⟩ := Handling.fills hr (opened hnone)
    exact ⟨hret, by rw [hslot, if_pos rfl]⟩
  case later => exact fun r hr hsome => Handling.refused hr (h.isResolved_iff.2 hsome)
  case take =>
    intro hact
    rw [← h.take_eq, Handling.returned?, hact]
    rfl
  case wakes =>
    rintro p hp rfl
    obtain ⟨r, hr⟩ := Handling.offered?_of_sender hp
    rw [Handling.accepted?_of_offered hr]
    cases ho : (x.before.slot p.slot).isResolved with
    | true =>
      obtain ⟨hret, -, hattempts⟩ := Handling.refused hr ho
      rw [hattempts, hret, if_neg (c := p.slot = p.slot ∧ some r = none) (by simp)]
      rfl
    | false =>
      obtain ⟨hret, -, hattempts⟩ := Handling.fills hr ho
      rw [hattempts, hret, hp, if_pos (c := p.slot = p.slot ∧ none = none) ⟨rfl, rfl⟩]
      rfl

/-! ## Runs -/

namespace Network

variable {n m : Network τ ε} {d : Slot.Ref}

/-- The account is kept all the way. -/
theorem Passes.account (past : List (Handling τ ε)) {l : List (Handling τ ε)} (h : n.Passes l m)
    (hn : Account (acceptances d past) (takings d past) (n.slot d)) :
    Account (acceptances d (past ++ l)) (takings d (past ++ l)) (m.slot d) ∧
      ∀ a x b, l = a ++ x :: b → x.Obeys d (past ++ a) := by
  -- Along the handlings: what is done already moves to `past`.
  induction l generalizing n past with
  | nil =>
    rw [List.append_nil, h.slot d]
    exact ⟨hn, fun a x b hl => absurd hl (by simp)⟩
  | cons y l ih =>
    obtain ⟨hstill, hl⟩ := h
    have hy : Account (acceptances d past) (takings d past) (y.before.slot d) :=
      (hstill.slot d).symm ▸ hn
    obtain ⟨hend, hobeys⟩ := ih _ hl hy.step
    rw [List.append_assoc, List.singleton_append] at hend
    refine ⟨hend, fun a x b hsplit => ?_⟩
    cases a with
    | nil =>
      obtain ⟨rfl, -⟩ := List.cons.inj hsplit
      rw [List.append_nil]
      exact hy.obeys
    | cons z a =>
      obtain ⟨rfl, hrest⟩ := List.cons.inj hsplit
      have hx := hobeys a x b hrest
      rwa [List.append_assoc, List.singleton_append] at hx

/-- The account of a run from the start. -/
theorem account_run (calls : List (Call τ ε)) (d : Slot.Ref) :
    Account (acceptances d (({} : Network τ ε).handlings calls))
      (takings d (({} : Network τ ε).handlings calls)) ((({} : Network τ ε).run calls).slot d) :=
  ((passes_run {} calls).account [] .fresh).1

/-- A slot through which a sender is woken has accepted a resolution for it. -/
theorem length_senderWakes_le {h : List (Handling τ ε)}
    (hobeys : ∀ a x b, h = a ++ x :: b → x.Obeys d a) :
    (senderWakes d h).length ≤ (acceptances d h).length := by
  induction h using List.reverseRecOn with
  | nil => exact Nat.le_refl 0
  | append_singleton h x ih =>
    have hx := hobeys h x [] rfl
    have hle := ih fun a y b hsplit => hobeys a y (b ++ [x]) (by rw [hsplit]; simp)
    rw [acceptances_snoc, List.length_append, senderWakes, List.filter_append, List.flatMap_append,
      List.length_append]
    refine Nat.add_le_add hle ?_
    rw [List.filter_cons, List.filter_nil]
    split
    · rename_i hsender
      obtain ⟨p, hp, hd⟩ := Option.map_eq_some_iff.1 (of_decide_eq_true hsender)
      rw [List.flatMap_singleton, hx.wakes p hp hd]
      cases x.accepted? d <;> simp
    · exact Nat.zero_le _

/-- In every run: a slot accepts one resolution at most, refuses all others without any effect,
gives back what it accepted once, and is never unresolved again. Whoever waits to release a sender
through it tries to wake that sender exactly if it has just filled the slot, so at most one sender
is woken through it. -/
theorem slot_settled_once (calls : List (Call τ ε)) (d : Slot.Ref) :
    let n := ({} : Network τ ε)
    let h := n.handlings calls
    n.Passes h (n.run calls) ∧
      (acceptances d h).length ≤ 1 ∧ takings d h <+: acceptances d h ∧
      (∀ past x rest, h = past ++ x :: rest → x.Obeys d past) ∧
      (∀ a b, calls = a ++ b → ((n.run a).slot d).isResolved = true →
        ((n.run calls).slot d).isResolved = true) ∧
      (((n.run calls).slot d).isResolved = true ↔ acceptances d h ≠ []) ∧
      (senderWakes d h).length ≤ 1 := by
  intro n h
  have hpasses : n.Passes h (n.run calls) := passes_run n calls
  have haccount : Account (acceptances d h) (takings d h) ((n.run calls).slot d) :=
    account_run calls d
  have hobeys : ∀ past x rest, h = past ++ x :: rest → x.Obeys d past :=
    (hpasses.account [] .fresh).2
  refine ⟨hpasses, haccount.length_le, haccount.outs_le, hobeys, ?_, haccount.isResolved_iff, ?_⟩
  · rintro a b rfl ha
    rw [(account_run a d).isResolved_iff] at ha
    rw [haccount.isResolved_iff, show h = _ from n.handlings_append a b, acceptances,
      List.filterMap_append]
    exact fun hnone => ha (List.append_eq_nil_iff.1 hnone).1
  · exact Nat.le_trans (length_senderWakes_le hobeys) haccount.length_le

/-- Two senders wait on one slot, on two channels. The first value received fills the slot and wakes
its sender, the second one is told nothing. What is in the slot is taken once. -/
theorem slot_settled_once_shared :
    let calls : List (Call Nat String) := [
      .createReadySet,
      .createStrand (some "tx") ⟨0⟩,
      .createStrand (some "rx") ⟨0⟩,
      .createStrand (some "other") ⟨0⟩,
      .createChannel {},
      .createChannel {},
      .createSlot,
      .operate ⟨0⟩ (.syncSend 1 ⟨0⟩ ⟨0⟩),
      .operate ⟨1⟩ (.syncSend 2 ⟨2⟩ ⟨0⟩),
      .operate ⟨0⟩ (.receive ⟨1⟩),
      .operate ⟨1⟩ (.receive ⟨1⟩),
      .take ⟨0⟩,
      .take ⟨0⟩]
    let n := ({} : Network Nat String)
    let h := n.handlings calls
    h.map (·.sender?.map (·.strand)) = [some ⟨0⟩, some ⟨2⟩, none, none] ∧
      h.map (·.returned?) = [none, some .done, some .done, none] ∧
      (acceptances ⟨0⟩ h).length ≤ 1 ∧ (senderWakes ⟨0⟩ h).length ≤ 1 ∧
      (∃ past x rest, h = past ++ x :: rest ∧ x.sender? = some ⟨⟨2⟩, ⟨0⟩⟩ ∧ x.attempts = []) ∧
      ((n.run calls).slot ⟨0⟩).isResolved = true := by
  intro calls n h
  obtain ⟨-, hone, -, hobeys, hstays, -, hwakes⟩ := slot_settled_once calls ⟨0⟩
  have hsecond : h[1]?.map (·.sender?) = some (some ⟨⟨2⟩, ⟨0⟩⟩) := by decide
  obtain ⟨x, hx, hsender⟩ := Option.map_eq_some_iff.1 hsecond
  obtain ⟨hlen, rfl⟩ := List.getElem?_eq_some_iff.1 hx
  have hsplit : h = h.take 1 ++ h[1] :: h.drop 2 := by
    rw [← List.drop_eq_getElem_cons hlen, List.take_append_drop]
  have hsome : acceptances ⟨0⟩ (h.take 1) ≠ [] := by decide
  obtain ⟨r, hr⟩ := Handling.offered?_of_sender hsender
  refine ⟨by decide, by decide, hone, hwakes, ⟨_, _, _, hsplit, hsender, ?_⟩,
    hstays (calls.take 10) (calls.drop 10) rfl (by decide)⟩
  exact ((hobeys _ _ _ hsplit).later r hr hsome).2.2

end Network

end Rendezvous
