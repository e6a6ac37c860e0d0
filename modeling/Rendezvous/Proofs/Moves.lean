import Rendezvous.Proofs.OperationSteps

/-!
# How far an operation reaches

Operations reach strands and slots only through what is registered. Everything else stays.

* **Moves** (`Network.Moves S D C K`): some steps that suspend, wake or take back suspensions of
  strands in `S` only, fill unresolved slots in `D` only, change channels in `C` only and register
  nobody else there, and change coordinators in `K` only.
* **What stays** (`Moves.strand`, `Moves.slot`, `Moves.channel`, `Moves.coordinator`): a strand
  outside `S`, a slot outside `D`, a channel outside `C`, a coordinator outside `K`. No slot is
  resolved twice (`Moves.resolved`), no channel is created (`Moves.size`), and barriers do not begin
  to release others (`Moves.barrier`).
* **Operations are moves** (`Moves.operate`, `Moves.flushAll`), if the strands and slots that they
  are passed, and those that they find registered and still waiting, are in `S` and in `D`.
-/

namespace Rendezvous

variable {τ ε : Type} {S : Strand.Ref → Prop} {D : Slot.Ref → Prop} {C : Channel.Ref → Prop}
  {K : Coordinator.Ref → Prop}

/-- A barrier that is told of a channel releases whom it released before. -/
theorem Coordinator.eq_barrier_of_note {x : Coordinator} {id : ChannelId} {b : Barrier}
    (h : x.note id = .barrier b) :
    ∃ b', x = .barrier b' ∧ b'.strand = b.strand ∧ b'.slot = b.slot := by
  cases x with
  | drainLog ids => cases h
  | barrier b' =>
    cases h
    refine ⟨b', rfl, ?_⟩
    split <;> exact ⟨rfl, rfl⟩

namespace Network

/-! ## Moves -/

/-- Whether a step moves a strand in `S`, fills an unresolved slot in `D`, changes a channel in `C`
and registers nobody else there, or changes a coordinator in `K`. -/
def Moving (S : Strand.Ref → Prop) (D : Slot.Ref → Prop) (C : Channel.Ref → Prop)
    (K : Coordinator.Ref → Prop) (n : Network τ ε) : Step τ ε → Prop
  | .emit _ | .setTable .. => True
  | .suspend s | .markRunning s | .wake s => S s
  | .fill d _ => D d ∧ (n.slot d).isResolved = false
  | .update c f => C c ∧ (n.channel c).Registers S D K (f (n.channel c))
  | .coordinate k x => K k ∧ ∀ b, x = .barrier b → (∃ b', n.coordinator k = .barrier b' ∧
      b'.strand = b.strand ∧ b'.slot = b.slot) ∨ S b.strand ∧ D b.slot

/-- Some steps that move strands in `S` only, fill unresolved slots in `D` only, change channels in
`C` only and register nobody else there, and change coordinators in `K` only. -/
def Moves (S : Strand.Ref → Prop) (D : Slot.Ref → Prop) (C : Channel.Ref → Prop)
    (K : Coordinator.Ref → Prop) (n m : Network τ ε) : Prop := Steps (Moving S D C K) n m

namespace Moves

variable {l m n : Network τ ε}

theorem refl : Moves S D C K n n := Steps.refl

/-! ## What stays -/

theorem strand (h : Moves S D C K n m) {s : Strand.Ref} (hs : ¬ S s) : m.strand s = n.strand s := by
  have other : ∀ {t}, S t → s ≠ t := fun ht hst => hs (hst ▸ ht)
  induction h with
  | refl => rfl
  | step _ x hx ih =>
    rw [← ih]
    cases x with
    | suspend t => exact (strand_suspend ..).trans (if_neg fun hst => other hx hst.1)
    | markRunning t => exact (strand_markRunning ..).trans (if_neg fun hst => other hx hst.1)
    | wake t => exact (strand_wake ..).trans (if_neg fun hst => other hx hst.1)
    | emit | fill | update | coordinate | setTable => rfl

/-- No ready set loses its consumer. -/
theorem hasConsumer (h : Moves S D C K n m) (q : ReadySet.Ref) :
    (m.readySet q).hasConsumer = (n.readySet q).hasConsumer := by
  induction h with
  | refl => rfl
  | @step m _ x _ ih =>
    rw [← ih]
    cases x with
    | suspend t => exact congrArg ReadySet.hasConsumer (readySet_suspend ..)
    | markRunning t => exact congrArg ReadySet.hasConsumer (readySet_markRunning ..)
    | wake t =>
      show ((m.wake t).readySet q).hasConsumer = _
      rw [readySet_wake]
      split <;> rfl
    | emit | fill | update | coordinate | setTable => rfl

theorem slot (h : Moves S D C K n m) {d : Slot.Ref} (hd : ¬ D d) : m.slot d = n.slot d := by
  induction h with
  | refl => rfl
  | step _ x hx ih =>
    rw [← ih]
    cases x with
    | suspend t => exact slot_suspend ..
    | markRunning t => exact slot_markRunning ..
    | wake t => exact slot_wake ..
    | fill e r =>
      refine (slot_setSlot ..).trans (if_neg ?_)
      rintro rfl
      exact hd hx.1
    | emit | update | coordinate | setTable => rfl

/-- A resolved slot stays as it is. -/
theorem resolved (h : Moves S D C K n m) {d : Slot.Ref} (hd : (n.slot d).isResolved = true) :
    m.slot d = n.slot d := Steps.resolved h And.right hd

/-- A slot that is unresolved at the end was so at the start. -/
theorem unresolved (h : Moves S D C K n m) {d : Slot.Ref} (hd : (m.slot d).isResolved = false) :
    (n.slot d).isResolved = false := Steps.unresolved h And.right hd

theorem channel (h : Moves S D C K n m) {c : Channel.Ref} (hc : ¬ C c) :
    m.channel c = n.channel c := by
  induction h with
  | refl => rfl
  | step _ x hx ih =>
    rw [← ih]
    cases x with
    | suspend t => exact channel_suspend ..
    | markRunning t => exact channel_markRunning ..
    | wake t => exact channel_wake ..
    | update y f =>
      refine channel_updateChannel_of_ne _ _ _ ?_
      rintro rfl
      exact hc hx.1
    | emit | fill | coordinate | setTable => rfl

/-- A coordinator outside `K` stays. -/
theorem coordinator (h : Moves S D C K n m) {k : Coordinator.Ref} (hk : ¬ K k) :
    m.coordinator k = n.coordinator k := by
  induction h with
  | refl => rfl
  | step _ x hx ih =>
    rw [← ih]
    cases x with
    | suspend t => exact coordinator_suspend ..
    | markRunning t => exact coordinator_markRunning ..
    | wake t => exact coordinator_wake ..
    | coordinate j y =>
      refine (coordinator_setCoordinator ..).trans (if_neg ?_)
      rintro rfl
      exact hk hx.1
    | emit | fill | update | setTable => rfl

/-- A barrier releases the sender and the slot that it released before, or others in `S` and `D`. -/
theorem barrier (h : Moves S D C K n m) {k : Coordinator.Ref} {b : Barrier}
    (hb : m.coordinator k = .barrier b) : (∃ b', n.coordinator k = .barrier b' ∧
      b'.strand = b.strand ∧ b'.slot = b.slot) ∨ S b.strand ∧ D b.slot := by
  induction h generalizing b with
  | refl => exact .inl ⟨b, hb, rfl, rfl⟩
  | step _ x hx ih =>
    cases x with
    | suspend t => exact ih (hb ▸ (coordinator_suspend ..).symm)
    | markRunning t => exact ih (hb ▸ (coordinator_markRunning ..).symm)
    | wake t => exact ih (hb ▸ (coordinator_wake ..).symm)
    | coordinate j y =>
      replace hb := (coordinator_setCoordinator ..).symm.trans hb
      split at hb
      · rename_i hk
        subst hk
        rcases hx.2 b hb with ⟨b', hb', hstrand, hslot⟩ | hin
        · rw [← hstrand, ← hslot]
          exact ih hb'
        · exact .inr hin
      · exact ih hb
    | emit | fill | update | setTable => exact ih hb

/-- Nobody is registered anew but strands in `S`, with slots in `D` and coordinators in `K`. -/
theorem registers (h : Moves S D C K n m) (c : Channel.Ref) :
    (n.channel c).Registers S D K (m.channel c) := by
  induction h with
  | refl => exact .refl _
  | @step m _ x hx ih =>
    cases x with
    | suspend t => exact (channel_suspend ..).symm ▸ ih
    | markRunning t => exact (channel_markRunning ..).symm ▸ ih
    | wake t => exact (channel_wake ..).symm ▸ ih
    | update y f =>
      show (n.channel c).Registers S D K ((m.updateChannel y f).channel c)
      rw [channel_updateChannel]
      split
      · rename_i hy
        subst hy
        exact ih.trans hx.2
      · exact ih
    | emit | fill | coordinate | setTable => exact ih

/-- If the channels in `C` exist, no channel is created. -/
theorem size (h : Moves S D C K n m) (hC : ∀ c, C c → c.index < n.channels.size) :
    m.channels.size = n.channels.size := by
  induction h with
  | refl => rfl
  | @step m _ x hx ih =>
    cases x with
    | suspend t => exact (congrArg Store.size (channels_suspend ..)).trans ih
    | markRunning t => exact (congrArg Store.size (channels_markRunning ..)).trans ih
    | wake t => exact (congrArg Store.size (channels_wake ..)).trans ih
    | update c f =>
      have hle : c.index + 1 ≤ m.channels.size := ih ▸ hC c hx.1
      exact (Store.size_set ..).trans ((Nat.max_eq_left hle).trans ih)
    | emit | fill | coordinate | setTable => exact ih

/-- No coordinator is lost. -/
theorem size_coordinators (h : Moves S D C K n m) :
    n.coordinators.size ≤ m.coordinators.size := by
  induction h with
  | refl => exact Nat.le_refl _
  | @step m _ x _ ih =>
    refine Nat.le_trans ih ?_
    cases x with
    | suspend t => exact Nat.le_of_eq (congrArg Store.size (coordinators_suspend ..)).symm
    | markRunning t => exact Nat.le_of_eq (congrArg Store.size (coordinators_markRunning ..)).symm
    | wake t => exact Nat.le_of_eq (congrArg Store.size (coordinators_wake ..)).symm
    | coordinate k y =>
      exact Nat.le_trans (Nat.le_max_left ..) (Nat.le_of_eq (Store.size_set ..).symm)
    | emit | fill | update | setTable => exact Nat.le_refl _

/-! ## Steps that move -/

variable {c : Channel.Ref}

theorem emit (h : Moves S D C K n m) (e : Event) : Moves S D C K n (m.emit e) :=
  Steps.emit h trivial

theorem suspend (h : Moves S D C K n m) {s : Strand.Ref} (hs : S s) :
    Moves S D C K n (m.suspend s) := Steps.suspend h hs

theorem markRunning (h : Moves S D C K n m) {s : Strand.Ref} (hs : S s) :
    Moves S D C K n (m.markRunning s) := Steps.markRunning h hs

theorem wake (h : Moves S D C K n m) {s : Strand.Ref} (hs : S s) : Moves S D C K n (m.wake s) :=
  Steps.wake h hs

theorem coordinate (h : Moves S D C K n m) {k : Coordinator.Ref} {x : Coordinator} (hk : K k)
    (hx : ∀ b, x = .barrier b → (∃ b', m.coordinator k = .barrier b' ∧ b'.strand = b.strand ∧
      b'.slot = b.slot) ∨ S b.strand ∧ D b.slot) : Moves S D C K n (m.setCoordinator k x) :=
  Steps.coordinate h ⟨hk, hx⟩

theorem setTable (h : Moves S D C K n m) (t : Table.Ref) (x : Table) :
    Moves S D C K n (m.setTable t x) := Steps.step h (.setTable t x) trivial

/-- A change that leaves the registrations as they are, or removes some. -/
theorem change (h : Moves S D C K n m) (hc : C c) {f : Channel τ ε → Channel τ ε}
    (hr : (f (m.channel c)).receiver = (m.channel c).receiver ∨ (f (m.channel c)).receiver = none)
    (hy : (f (m.channel c)).syncSender = (m.channel c).syncSender ∨
      (f (m.channel c)).syncSender = none)
    (hf : (f (m.channel c)).flushSender = (m.channel c).flushSender ∨
      (f (m.channel c)).flushSender = none) : Moves S D C K n (m.updateChannel c f) :=
  Steps.update h ⟨hc, .less hr hy hf⟩

/-! ## Parts of operations -/

theorem lenient : Lenient (Moving (τ := τ) (ε := ε) S D C K) C where
  emit _ := trivial
  update hc hf := ⟨hc, hf.registers.mono nofun nofun nofun⟩

theorem releasing {p : Party} {r : Resolution ε} (hp : S p.strand ∧ D p.slot) :
    Releasing (Moving (τ := τ) S D C K) p r := ⟨fun ho => ⟨hp.2, ho⟩, hp.1⟩

theorem informing {k : Coordinator.Ref} {id : ChannelId} (hK : K k)
    (hk : ∀ b, m.coordinator k = .barrier b → (m.slot b.slot).isResolved = false →
      S b.strand ∧ D b.slot) : Informing (Moving S D C K) m k id where
  note := ⟨hK, fun _ hb => .inl (Coordinator.eq_barrier_of_note hb)⟩
  again _ := trivial
  complete b hb ho := releasing (hk b hb ho)

theorem offer (h : Moves S D C K n m) {d : Slot.Ref} (r : Resolution ε)
    (hd : (m.slot d).isResolved = false → D d) : Moves S D C K n (m.offer d r).1 :=
  Steps.offer h fun ho => ⟨hd ho, ho⟩

theorem deliver (h : Moves S D C K n m) {p : Party} (r : Resolution ε)
    (hp : (m.slot p.slot).isResolved = false → S p.strand ∧ D p.slot) :
    Moves S D C K n (m.deliver p r).1 :=
  Steps.deliver h lenient fun ho => releasing (hp ho)

theorem notifyDrained (h : Moves S D C K n m) {k : Coordinator.Ref} (id : ChannelId) (hK : K k)
    (hk : ∀ b, m.coordinator k = .barrier b → (m.slot b.slot).isResolved = false →
      S b.strand ∧ D b.slot) : Moves S D C K n (m.notifyDrained k id) :=
  Steps.notifyDrained h lenient (informing hK hk)

theorem noteDrained (h : Moves S D C K n m) (hc : C c)
    (hK : ∀ p, (m.channel c).drainedSender? = some p → K p.coordinator)
    (hp : ∀ p, (m.channel c).drainedSender? = some p →
      ∀ b, m.coordinator p.coordinator = .barrier b → (m.slot b.slot).isResolved = false →
        S b.strand ∧ D b.slot) : Moves S D C K n (m.noteDrained c) :=
  Steps.noteDrained h lenient hc fun p hdue => informing (hK p hdue) (hp p hdue)

/-- What taking a value reaches is the sender that waited for it. -/
theorem takeMessage (hc : C c) (s : Strand.Ref) {m : Message τ} {rest : List (Message τ)}
    (hsync : ∀ p, (n.channel c).syncSender = some p →
      (n.slot p.slot).isResolved = false → S p.strand ∧ D p.slot) :
    Moves S D C K n (n.takeMessage c s m rest) := by
  have counted : Moves S D C K n (n.countMessage c s rest) :=
    .emit (.change .refl hc (.inl rfl) (.inl rfl) (.inl rfl)) _
  exact Steps.takeMessage counted lenient hc (fun _ _ => trivial)
    fun p hp ho => releasing (hsync p hp ho)

theorem withdrawAll (h : Moves S D C K n m) (d : Slot.Ref) {cs : List Channel.Ref}
    (hcs : ∀ c ∈ cs, C c) : Moves S D C K n (cs.foldl (·.withdrawFlush d) m) :=
  Steps.withdrawAll h lenient d hcs

/-! ## Operations -/

/-- What an operation reaches: the strand that it suspends, the receiver that it wakes, and the
senders that it releases. -/
theorem operate (op : Operation τ ε) (h : Moves S D C K n m) (hc : C c)
    (hs : ∀ s, op.waiter? = some s → S s) (hd : ∀ d ∈ op.slots, D d)
    (hks : ∀ k ∈ op.coordinators, K k)
    (hr : op.wakesReceiver = true → ∀ t, (m.channel c).receiver = some t → S t)
    (hfree : ∀ p r, m.Frees c op p r → (m.slot p.slot).isResolved = false →
      S p.strand ∧ D p.slot)
    (hK : ∀ k, m.Notifies c op k → K k) : Moves S D C K n (m.operate c op).1 := by
  refine Steps.trans h (steps_operate (fun hx => ?_) fun hx => ?_)
  · cases hx with
    | update hr _ => exact ⟨hc, hr.mono nofun nofun nofun⟩
    | emit _ => trivial
  · cases hx with
    | emit _ => trivial
    | suspend hwait => exact hs _ hwait
    | wakeReceiver hop ht => exact hr hop _ ht
    | wake hp ho => exact (hfree _ _ hp ho).1
    | release hp ho hm => exact ⟨(hfree _ _ hp ho).2, hm⟩
    | settle hown hm => exact ⟨hd _ hown.mem_slots, hm⟩
    | update hf => exact ⟨hc, hf.registers.mono hs hd hks⟩
    | coordinate hk => exact ⟨hK _ hk, fun _ hb => .inl (Coordinator.eq_barrier_of_note hb)⟩

theorem send (h : Moves S D C K n m) (hc : C c) (value : τ) (s : Strand.Ref)
    (hr : ∀ t, (m.channel c).receiver = some t → S t) : Moves S D C K n (m.send c value s) := by
  refine operate (.send value s) h hc nofun nofun nofun (fun _ => hr) (fun p r hp _ => ?_)
    nofun
  cases hp with
  | drained hk => cases hk

theorem syncSend (h : Moves S D C K n m) (hc : C c) (value : τ) {s : Strand.Ref} {d : Slot.Ref}
    (hs : S s) (hd : D d) (hr : ∀ t, (m.channel c).receiver = some t → S t) :
    Moves S D C K n (m.syncSend c value s d).1 := by
  refine operate (.syncSend value s d) h hc ?_ ?_ nofun (fun _ => hr) (fun p r hp _ => ?_)
    nofun
  · rintro _ ⟨⟩
    exact hs
  · exact fun e he => List.mem_singleton.1 he ▸ hd
  · cases hp with
    | drained hk => cases hk

/-- What a received value reaches: the sender that waited for it, and, once the channel has drained,
the sender that flushed it. -/
theorem receive (hc : C c) {s : Strand.Ref} (hs : S s)
    (hsync : ∀ p, (n.channel c).syncSender = some p →
      (n.slot p.slot).isResolved = false → S p.strand ∧ D p.slot)
    (hK : ∀ p, (n.channel c).flushSender = some p →
      p.threshold = (n.channel c).recvCount + 1 → K p.coordinator)
    (hflush : ∀ p, (n.channel c).flushSender = some p →
      p.threshold = (n.channel c).recvCount + 1 → ∀ b, n.coordinator p.coordinator = .barrier b →
        (n.slot b.slot).isResolved = false → S b.strand ∧ D b.slot) :
    Moves S D C K n (n.receive c s).1 := by
  refine operate (.receive s) .refl hc ?_ nofun nofun nofun (fun p r hp ho => ?_)
    fun k hk => ?_
  · rintro _ ⟨⟩
    exact hs
  · cases hp with
    | received hp => exact hsync p hp ho
    | drained hk hb =>
      cases hk with
      | registered hp hdue => exact hflush _ hp hdue _ hb ho
  · cases hk with
    | registered hp hdue => exact hK _ hp hdue

theorem flush (h : Moves S D C K n m) (hc : C c) {s : Strand.Ref} {d : Slot.Ref}
    {k : Coordinator.Ref} (hs : S s) (hd : D d) (hK : K k)
    (hk : ∀ b, m.coordinator k = .barrier b → (m.slot b.slot).isResolved = false →
      S b.strand ∧ D b.slot) : Moves S D C K n (m.flush c s d k).1 := by
  refine operate (.flush s d k) h hc ?_ ?_ ?_ nofun (fun p r hp ho => ?_) fun j hj => ?_
  · rintro _ ⟨⟩
    exact hs
  · exact fun e he => List.mem_singleton.1 he ▸ hd
  · exact fun j hj => List.mem_singleton.1 hj ▸ hK
  · cases hp with
    | drained hk' hb =>
      cases hk' with
      | passed => exact hk _ hb ho
  · cases hj with
    | passed => exact hK

theorem failSend (h : Moves S D C K n m) (hc : C c) (f : Failure ε)
    (hr : ∀ t, (m.channel c).receiver = some t → S t) : Moves S D C K n (m.failSend c f) := by
  refine operate (.failSend f) h hc nofun nofun nofun (fun _ => hr) (fun p r hp _ => ?_)
    nofun
  cases hp with
  | drained hk => cases hk

theorem failReceive (hc : C c) (f : Failure ε)
    (hflush : ∀ p, (n.channel c).flushSender = some p →
      (n.slot p.slot).isResolved = false → S p.strand ∧ D p.slot)
    (hsync : ∀ p, (n.channel c).syncSender = some p →
      (n.slot p.slot).isResolved = false → S p.strand ∧ D p.slot) :
    Moves S D C K n (n.failReceive c f) := by
  refine operate (.failReceive f) .refl hc nofun nofun nofun nofun (fun p r hp ho => ?_)
    nofun
  cases hp with
  | drained hk => cases hk
  | failedFlush hp => exact hflush _ hp ho
  | failedSync hp => exact hsync _ hp ho

/-- A flush with a barrier that releases the sender. -/
theorem flush_of_releases (hc : C c) {s : Strand.Ref} {d : Slot.Ref} {k : Coordinator.Ref}
    (hs : S s) (hd : D d) (hK : K k) (hk : n.Releases k s d) :
    Moves S D C K n (n.flush c s d k).1 := by
  refine flush .refl hc hs hd hK fun b hb _ => ?_
  obtain ⟨rfl, rfl⟩ := hk b hb
  exact ⟨hs, hd⟩

theorem flushEach (h : Moves S D C K n m) {s : Strand.Ref} {d : Slot.Ref} {k : Coordinator.Ref}
    {asked rest : List Channel.Ref} {parked : Bool} (hs : S s) (hd : D d)
    (hK : K k) (hk : m.Releases k s d) (ha : ∀ c ∈ asked, C c) (hr : ∀ c ∈ rest, C c) :
    Moves S D C K n (m.flushEach s d k asked rest parked).1 :=
  Steps.flushEach h lenient hs hk ha hr fun _ _ hc => flush_of_releases hc hs hd hK

theorem flushAll {cs : List Channel.Ref} {s : Strand.Ref} {d : Slot.Ref} (hs : S s) (hd : D d)
    (hcs : ∀ c ∈ cs, C c) (hK : cs ≠ [] → K n.coordinators.fresh) :
    Moves S D C K n (n.flushAll cs s d).1 := by
  refine Steps.flushAll lenient hcs hs (fun ho => ⟨hd, ho⟩) (fun hne _ => ⟨hK hne, ?_⟩)
    fun hne _ _ hc => flush_of_releases hc hs hd (hK hne)
  rintro _ ⟨⟩
  exact .inr ⟨hs, hd⟩

/-! ## All of them -/

/-- Any strand, slot or channel. -/
def anything {α : Type} (_ : α) : Prop := True

theorem anything_intro {α : Type} (a : α) : anything a := trivial

/-- Moves of any strands, slots and channels, but of no coordinator. -/
abbrev Free {τ ε : Type} (n m : Network τ ε) : Prop :=
  Moves anything anything anything (fun _ => False) n m

end Moves

end Network

namespace Call

/-- Whether a call creates a coordinator. -/
def createsCoordinator : Call τ ε → Bool
  | .createDrainLog | .createBarrier .. | .flushAll (_ :: _) _ _ => true
  | _ => false

end Call

namespace Network

/-- Any other call is passed no channels. -/
theorem notMem_channels_of_not_isMove {call : Call τ ε} (h : call.isMove = false)
    (c : Channel.Ref) : c ∉ call.channels := by
  cases call <;> first | exact List.not_mem_nil | cases h

/-- Whatever a call that is made of moves does to strands and slots, it changes the channels that it
is passed only. The coordinators that it meets are registered, or passed to it, or created by it. -/
theorem Moves.perform (n : Network τ ε) {call : Call τ ε} (h : call.isMove = true)
    (hreg : ∀ c p, (n.channel c).flushSender = some p → K p.coordinator)
    (hK : ∀ k ∈ call.coordinators, K k)
    (hfresh : call.createsCoordinator = true → K n.coordinators.fresh) :
    Moves anything anything (· ∈ call.channels) K n (n.perform call).1 := by
  have hn : Moves anything anything (· ∈ call.channels) K n n := .refl
  have both : ∀ (s : Strand.Ref) (d : Slot.Ref), anything s ∧ anything d :=
    fun s d => ⟨anything_intro s, anything_intro d⟩
  cases call with
  | operate c op =>
    refine hn.operate op (List.mem_singleton.2 rfl) (fun s _ => anything_intro s)
      (fun d _ => anything_intro d) hK (fun _ t _ => anything_intro t)
      (fun p _ _ _ => both p.strand p.slot) fun k hk => ?_
    cases hk with
    | passed => exact hK k (List.mem_singleton.2 rfl)
    | registered hp => exact hreg c _ hp
  | flushAll cs s d =>
    refine .flushAll (anything_intro s) (anything_intro d) (fun c hc => hc) fun hne => ?_
    cases cs with
    | nil => exact absurd rfl hne
    | cons c cs => exact hfresh rfl
  | wake s => exact hn.wake (anything_intro s)
  | markRunning s => exact hn.markRunning (anything_intro s)
  | offer d r => exact hn.offer r fun _ => anything_intro d
  | notifyDrained k id =>
    exact hn.notifyDrained id (hK k (List.mem_singleton.2 rfl)) fun b _ _ => both b.strand b.slot
  | createDrainLog => exact hn.coordinate (hfresh rfl) nofun
  | createBarrier s d expected =>
    exact hn.coordinate (hfresh rfl) fun _ _ => .inr (both _ _)
  | createTable | unlink => exact hn.setTable _ _
  | lookup => exact hn
  | _ => cases h

/-- Whatever coordinators it meets. -/
theorem Moves.performAny (n : Network τ ε) {call : Call τ ε} (h : call.isMove = true) :
    Moves anything anything (· ∈ call.channels) anything n (n.perform call).1 :=
  .perform n h (fun _ p _ => anything_intro p.coordinator) (fun k _ => anything_intro k)
    fun _ => anything_intro _

end Network

/-- A channel that a call is not passed stays as it is, or is created by it. -/
theorem Network.channel_perform_of_notMem {τ ε : Type} (n : Network τ ε) (call : Call τ ε)
    {x : Channel.Ref} (h : x ∉ call.channels) :
    (n.perform call).1.channel x = n.channel x ∨
      n.channel x = default ∧ ∃ options, (n.perform call).1.channel x = .create options := by
  have created : ∀ (m : Network τ ε) (options : ChannelOptions),
      m.channel x = (if x = n.channels.fresh then .create options else n.channel x) →
      m.channel x = n.channel x ∨
        n.channel x = default ∧ ∃ options, m.channel x = .create options := by
    intro m options hm
    split at hm
    · rename_i hx
      exact .inr ⟨hx ▸ Store.get_fresh _, options, hm⟩
    · exact .inl hm
  cases call with
  | createChannel options => exact created _ options (channel_createChannel n x options)
  | lookupOrCreate t name =>
    cases hl : n.lookup t name with
    | some c =>
      refine .inl ?_
      simp only [perform, lookupOrCreate, hl]
    | none =>
      refine created _ ((n.table t).options.withName name) ?_
      rw [← channel_createChannel]
      simp only [perform, lookupOrCreate, hl]
      rfl
  | dispatch q => exact .inl (channel_dispatch n x q)
  | poll q held => exact .inl (channel_poll n x q held)
  | createReadySet | createStrand | createSlot | dropScheduler | dropConsumer | resume | take =>
    exact .inl rfl
  | _ => exact .inl ((Moves.performAny n rfl).channel h)

/-- What is pending there stays pending. -/
theorem Network.pending_perform_of_notMem {τ ε : Type} (n : Network τ ε) (call : Call τ ε)
    {x : Channel.Ref} (h : x ∉ call.channels) :
    ((n.perform call).1.channel x).pending = (n.channel x).pending := by
  obtain hsame | ⟨hdefault, options, hcreated⟩ := n.channel_perform_of_notMem call h
  · rw [hsame]
  · rw [hcreated, hdefault]
    rfl

end Rendezvous
