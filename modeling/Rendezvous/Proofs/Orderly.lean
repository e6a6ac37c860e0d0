import Rendezvous.Proofs.ReadySets
import Rendezvous.Proofs.Waiting

/-!
# Orderly networks

A network is orderly if its books are in order, for some `w`, and its barriers guard all flushes.
Every operation that is made by the rules of use keeps it so.

* **Parts** (`Orderly.same`, `Orderly.updateChannel`): steps that touch no registration.
* **Waking and parking** (`Orderly.wakeReceiver`, `Orderly.parkSyncSender`, …): steps by which one
  strand stops or starts to wait.
* **Drained channels** (`Orderly.noteDrained`): the sender of a flush waits on until the last of its
  channels is drained.
* **Operations** (`Orderly.send`, …, `Orderly.flushAll`).
-/

namespace Rendezvous.Network

variable {τ ε : Type}

/-- The books are in order, and the barriers guard all flushes. -/
structure Orderly (R : Roles) (n : Network τ ε) : Prop where
  guarded : Guarded R n
  waiting : ∃ w, Waiting R n w

variable {R : Roles} {n m : Network τ ε} {c : Channel.Ref} {s : Strand.Ref} {d : Slot.Ref}

theorem phase_wake (h : (n.strand s).phase = .suspended) (t : Strand.Ref) :
    ((n.wake s).strand t).phase = if t = s then .ready else (n.strand t).phase := by
  rw [strand_wake]
  by_cases ht : t = s
  · rw [if_pos ⟨ht, h⟩, if_pos ht]
  · rw [if_neg fun hand => ht hand.1, if_neg ht]

theorem phase_suspend (h : (n.strand s).phase = .running) (t : Strand.Ref) :
    ((n.suspend s).strand t).phase = if t = s then .suspended else (n.strand t).phase := by
  rw [strand_suspend]
  by_cases ht : t = s
  · rw [if_pos ⟨ht, h⟩, if_pos ht]
  · rw [if_neg fun hand => ht hand.1, if_neg ht]

/-! ## Steps that settle -/

/-- All flush registrations, slots and barriers stay. -/
theorem Settles.same (hf : ∀ c, (m.channel c).flushSender = (n.channel c).flushSender)
    (hd : ∀ d, (n.slot d).isResolved = true → (m.slot d).isResolved = true)
    (hk : ∀ k b, n.coordinator k = .barrier b → m.coordinator k = .barrier b) : Settles n m where
  flush c _ hp := hf c ▸ hp
  kept c _ hp _ := (hf c).trans hp
  resolved := hd
  barrier _ _ b _ hb := ⟨b, hk _ b hb, rfl, rfl, fun _ => rfl⟩

/-- One flush registration is removed, and its slot is resolved. Barriers that wait for other
channels stay. -/
theorem Settles.drop {p : FlushParty} (hp : (n.channel c).flushSender = some p)
    (hf : ∀ x, (m.channel x).flushSender = if x = c then none else (n.channel x).flushSender)
    (hres : (m.slot p.slot).isResolved = true)
    (hd : ∀ d, (n.slot d).isResolved = true → (m.slot d).isResolved = true)
    (hk : ∀ k b, n.coordinator k = .barrier b → ∃ b', m.coordinator k = .barrier b' ∧
      b'.strand = b.strand ∧ b'.slot = b.slot ∧ ((m.slot b.slot).isResolved = false → b' = b)) :
    Settles n m where
  flush x q hq := by
    rw [hf] at hq
    split at hq
    · cases hq
    · exact hq
  kept x q hq ho := by
    rw [hf, if_neg, hq]
    rintro rfl
    rw [hp] at hq
    cases hq
    rw [hres] at ho
    cases ho
  resolved := hd
  barrier _ _ b _ hb := hk _ b hb

theorem Fresh.emit (h : n.Fresh d) (e : Event) : (n.emit e).Fresh d := h

/-- A slot stays fresh while something else about a channel changes. -/
theorem Fresh.updateChannel (h : n.Fresh d) {f : Channel τ ε → Channel τ ε}
    (hy : (f (n.channel c)).syncSender = (n.channel c).syncSender)
    (hf : (f (n.channel c)).flushSender = (n.channel c).flushSender) :
    (n.updateChannel c f).Fresh d := by
  refine ⟨h.1, fun x => ?_⟩
  have hx := h.2 x
  rw [← channel_ite n c (·.syncSender) hy x, ← channel_ite n c (·.flushSender) hf x] at hx
  rw [channel_updateChannel]
  exact hx

namespace Orderly

/-- Steps that touch neither registrations nor suspensions nor slots nor barriers. -/
theorem same (h : Orderly R n)
    (hs : ∀ s, (m.strand s).phase = .suspended ↔ (n.strand s).phase = .suspended)
    (hr : ∀ c, (m.channel c).receiver = (n.channel c).receiver)
    (hy : ∀ c, (m.channel c).syncSender = (n.channel c).syncSender)
    (hf : ∀ c, (m.channel c).flushSender = (n.channel c).flushSender)
    (hd : ∀ d, (m.slot d).isResolved = (n.slot d).isResolved)
    (hk : ∀ k b, n.coordinator k = .barrier b → m.coordinator k = .barrier b) : Orderly R m := by
  obtain ⟨w, hw⟩ := h.waiting
  have hm : Settles n m := .same hf (fun d hres => (hd d).trans hres) hk
  exact ⟨h.guarded.settle hm, w, hw.settle hm hs hr hy
    fun s v d hv hvd => (hd d).trans (hw.unresolved s v d hv hvd)⟩

theorem emit (h : Orderly R n) (e : Event) : Orderly R (n.emit e) :=
  h.same (fun _ => .rfl) (fun _ => rfl) (fun _ => rfl) (fun _ => rfl) (fun _ => rfl)
    fun _ _ hb => hb

/-- Changing something else about a channel. -/
theorem updateChannel (h : Orderly R n) {f : Channel τ ε → Channel τ ε}
    (hr : (f (n.channel c)).receiver = (n.channel c).receiver)
    (hy : (f (n.channel c)).syncSender = (n.channel c).syncSender)
    (hf : (f (n.channel c)).flushSender = (n.channel c).flushSender) :
    Orderly R (n.updateChannel c f) := by
  have hc := channel_updateChannel n c f
  refine h.same (fun _ => .rfl) (fun x => ?_) (fun x => ?_) (fun x => ?_) (fun _ => rfl)
    fun _ _ hb => hb
  · rw [hc]
    exact channel_ite n c (·.receiver) hr x
  · rw [hc]
    exact channel_ite n c (·.syncSender) hy x
  · rw [hc]
    exact channel_ite n c (·.flushSender) hf x

/-- A fresh slot is resolved at once. -/
theorem offer (h : Orderly R n) (hd : n.Fresh d) (r : Resolution ε) :
    Orderly R (n.offer d r).1 := by
  obtain ⟨w, hw⟩ := h.waiting
  rw [offer_open r hd.1]
  have hm : Settles n (n.setSlot d (.filled r)) := by
    refine .same (fun _ => rfl) (fun e he => ?_) fun _ _ hb => hb
    rw [slot_setSlot]
    split
    · rfl
    · exact he
  refine ⟨h.guarded.settle hm, w, hw.settle hm (fun _ => .rfl) (fun _ => rfl) (fun _ => rfl) ?_⟩
  intro t v e hv hve
  have hne : e ≠ d := fun hed => hw.slot_ne_of_fresh hd t v hv (hed ▸ hve)
  rw [slot_setSlot, if_neg hne]
  exact hw.unresolved t v e hv hve

/-! ## Waking -/

theorem wakeReceiver (h : Orderly R n) (c : Channel.Ref) : Orderly R (n.wakeReceiver c) := by
  obtain ⟨w, hw⟩ := h.waiting
  cases hr : (n.channel c).receiver with
  | none =>
    have hsame : n.wakeReceiver c = n := by simp only [Network.wakeReceiver, hr]
    rw [hsame]
    exact h
  | some s =>
    have hws := (hw.receiver c s).1 hr
    have hsus := (hw.suspended s).2 ⟨_, hws⟩
    have hc := channel_wakeReceiver n c
    have hstrand : ∀ t, ((n.wakeReceiver c).strand t).phase =
        if t = s then .ready else (n.strand t).phase := by
      intro t
      simp only [Network.wakeReceiver, hr]
      exact phase_wake (n := (n.updateChannel c _).emit _) hsus t
    have hslot : ∀ d, (n.wakeReceiver c).slot d = n.slot d := by
      intro d
      simp only [Network.wakeReceiver, hr, slot_wake, slot_emit, slot_updateChannel]
    have hcoord : ∀ k, (n.wakeReceiver c).coordinator k = n.coordinator k := by
      intro k
      simp only [Network.wakeReceiver, hr, coordinator_wake, coordinator_emit,
        coordinator_updateChannel]
    have hm : Settles n (n.wakeReceiver c) := by
      refine .same (fun x => ?_) (fun d hd => by rw [hslot]; exact hd) fun k b hb => by
        rw [hcoord, hb]
      rw [hc]
      exact channel_ite n c (·.flushSender) (by rfl) x
    refine ⟨h.guarded.settle hm, _, hw.release hm hws hstrand (fun x t => ?_) (fun x p => ?_) ?_⟩
    · rw [hc]
      by_cases hx : x = c
      · subst hx
        rw [if_pos rfl, hr]
        simp only [Option.some.injEq, reduceCtorEq, false_iff, not_and, not_not]
        exact Eq.symm
      · rw [if_neg hx, iff_self_and]
        exact hw.receiver_ne hws fun heq => hx (Wait.receive.inj heq).symm
    · have hsame : ((n.wakeReceiver c).channel x).syncSender = (n.channel x).syncSender := by
        rw [hc]
        exact channel_ite n c (·.syncSender) (by rfl) x
      rw [hsame, iff_self_and]
      exact hw.syncSender_ne hws nofun
    · intro d
      rw [hslot]
      simp [Wait.slot?]

/-- A sender whose value is received, or for which a failure takes the place of that, is released.
-/
theorem deliverSync (h : Orderly R n) {p : Party} (hp : (n.channel c).syncSender = some p)
    (r : Resolution ε) : Orderly R ((n.updateChannel c fun channel =>
      { channel with syncSender := none }).deliver p r).1 := by
  obtain ⟨w, hw⟩ := h.waiting
  have hws := (hw.syncSender c p).1 hp
  have hsus := (hw.suspended _).2 ⟨_, hws⟩
  have hopen := hw.unresolved _ _ _ hws rfl
  have hc := channel_updateChannel n c fun channel => { channel with syncSender := none }
  rw [deliver_open (n := n.updateChannel c _) r hopen]
  have hm : Settles n (((n.updateChannel c fun channel =>
      { channel with syncSender := none }).setSlot
      p.slot (.filled r)).wake p.strand) := by
    refine .same (fun x => ?_) (fun d hd => ?_) fun k b hb => ?_
    · rw [channel_wake, channel_setSlot, hc]
      exact channel_ite n c (·.flushSender) (by rfl) x
    · rw [slot_wake, slot_setSlot]
      split
      · rfl
      · exact hd
    · rw [coordinator_wake]
      exact hb
  refine ⟨h.guarded.settle hm, _, hw.release hm hws (fun t => ?_) (fun x t => ?_) (fun x q => ?_)
    fun d => ?_⟩
  · exact phase_wake (n := (n.updateChannel c _).setSlot p.slot _) hsus t
  · have hsame : ((n.updateChannel c fun channel =>
        { channel with syncSender := none }).channel x).receiver = (n.channel x).receiver := by
      rw [hc]
      exact channel_ite n c (·.receiver) (by rfl) x
    rw [channel_wake, channel_setSlot, hsame, iff_self_and]
    exact hw.receiver_ne hws nofun
  · rw [channel_wake, channel_setSlot, hc]
    by_cases hx : x = c
    · subst hx
      rw [if_pos rfl, hp]
      simp only [Option.some.injEq, reduceCtorEq, false_iff, not_and, not_not]
      rintro rfl
      rfl
    · rw [if_neg hx, iff_self_and]
      exact hw.syncSender_ne hws fun e heq => hx (Wait.sync.inj heq).1.symm
  · rw [slot_wake, slot_setSlot]
    by_cases hd : d = p.slot
    · simp [hd, Wait.slot?, Slot.isResolved]
    · simp [hd, Wait.slot?, Ne.symm hd]

theorem releaseSyncSender (h : Orderly R n) (c : Channel.Ref) :
    Orderly R (n.releaseSyncSender c) := by
  unfold Network.releaseSyncSender
  split
  · exact h.emit _
  · rename_i p hp
    exact (h.emit _).deliverSync hp .done

/-! ## Parking -/

/-- Where a strand that runs is the sender, nobody waits for a value to be received. -/
theorem no_syncSender {w : Strand.Ref → Option Wait} (hw : Waiting R n w)
    (hs : (n.strand (R.sender c)).phase = .running) : (n.channel c).syncSender = none := by
  cases hp : (n.channel c).syncSender with
  | none => rfl
  | some p =>
    have hwp := (hw.syncSender c p).1 hp
    have hrole : R.sender c = p.strand := hw.roles _ _ hwp
    rw [← hrole, hw.none_of_running hs] at hwp
    cases hwp

/-- Where a strand that runs is the receiver, nobody waits to receive. -/
theorem no_receiver {w : Strand.Ref → Option Wait} (hw : Waiting R n w)
    (hs : (n.strand (R.receiver c)).phase = .running) : (n.channel c).receiver = none := by
  cases ht : (n.channel c).receiver with
  | none => rfl
  | some t =>
    have hwt := (hw.receiver c t).1 ht
    have hrole : R.receiver c = t := hw.roles _ _ hwt
    rw [← hrole, hw.none_of_running hs] at hwt
    cases hwt

theorem parkSyncSender (h : Orderly R n) (hs : (n.strand (R.sender c)).phase = .running)
    (hd : n.Fresh d) : Orderly R (n.parkSyncSender c ⟨R.sender c, d⟩) := by
  obtain ⟨w, hw⟩ := h.waiting
  have hnone := no_syncSender hw hs
  have hpark : n.parkSyncSender c ⟨R.sender c, d⟩ = (n.suspend (R.sender c)).updateChannel c
      fun channel => { channel with syncSender := some ⟨R.sender c, d⟩ } := by
    simp only [Network.parkSyncSender, channel_suspend, hnone]
  have hc := channel_parkSyncSender n c
  have hm : Settles n (n.parkSyncSender c ⟨R.sender c, d⟩) := by
    refine .same (fun x => ?_) (fun e he => ?_) fun k b hb => ?_
    · rw [hc]
      exact channel_ite n c (·.flushSender) (by rfl) x
    · rw [hpark, slot_updateChannel, slot_suspend]
      exact he
    · rw [hpark, coordinator_updateChannel, coordinator_suspend]
      exact hb
  have hslot : ∀ e, (n.parkSyncSender c ⟨R.sender c, d⟩).slot e = n.slot e := by
    intro e
    rw [hpark, slot_updateChannel, slot_suspend]
  refine ⟨h.guarded.settle hm, _, hw.park (v := .sync c d) (hw.none_of_running hs) rfl
    (fun t => ?_) (fun x t => ?_) (fun x p => ?_) (fun x p hp _ => .inl (hm.flush x p hp))
    (fun x p hp ho => hm.kept x p hp (by rw [hslot]; exact ho)) nofun (fun e => by rw [hslot]) ?_⟩
  · rw [hpark]
    exact phase_suspend hs t
  · rw [hc]
    simp [channel_ite n c (·.receiver)]
  · rw [hc]
    by_cases hx : x = c
    · subst hx
      rw [if_pos rfl, hnone]
      obtain ⟨t, e⟩ := p
      simp [eq_comm]
    · rw [if_neg hx]
      simp [Ne.symm hx]
  · rintro e ⟨⟩
    exact ⟨hd.1, fun t u hu => hw.slot_ne_of_fresh hd t u hu⟩

theorem parkReceiver (h : Orderly R n) (hs : (n.strand (R.receiver c)).phase = .running) :
    Orderly R (n.parkReceiver c (R.receiver c)) := by
  obtain ⟨w, hw⟩ := h.waiting
  have hnone := no_receiver hw hs
  have hpark : ∃ e, n.parkReceiver c (R.receiver c) = ((n.suspend (R.receiver c)).updateChannel c
      fun channel => { channel with receiver := some (R.receiver c) }).emit e := by
    simp only [Network.parkReceiver, hnone]
    exact ⟨_, rfl⟩
  obtain ⟨e, hpark⟩ := hpark
  have hc := channel_parkReceiver n c
  have hslot : ∀ d, (n.parkReceiver c (R.receiver c)).slot d = n.slot d := by
    intro d
    rw [hpark, slot_emit, slot_updateChannel, slot_suspend]
  have hm : Settles n (n.parkReceiver c (R.receiver c)) := by
    refine .same (fun x => ?_) (fun d hd => by rw [hslot]; exact hd) fun k b hb => ?_
    · rw [hc]
      exact channel_ite n c (·.flushSender) (by rfl) x
    · rw [hpark, coordinator_emit, coordinator_updateChannel, coordinator_suspend]
      exact hb
  refine ⟨h.guarded.settle hm, _, hw.park (v := .receive c) (hw.none_of_running hs) rfl
    (fun t => ?_) (fun x t => ?_) (fun x p => ?_) (fun x p hp _ => .inl (hm.flush x p hp))
    (fun x p hp ho => hm.kept x p hp (by rw [hslot]; exact ho)) nofun (fun d => by rw [hslot])
    nofun⟩
  · rw [hpark]
    exact phase_suspend hs t
  · rw [hc]
    by_cases hx : x = c
    · subst hx
      rw [if_pos rfl, hnone]
      simp [eq_comm]
    · rw [if_neg hx]
      simp [Ne.symm hx]
  · rw [hc]
    simp [channel_ite n c (·.syncSender)]

/-! ## Drained channels -/

/-- The registration of a flush that has ended is removed. -/
theorem drop (h : Orderly R n) {p : FlushParty} (hp : (n.channel c).flushSender = some p)
    (hres : (n.slot p.slot).isResolved = true) :
    Orderly R (n.updateChannel c fun channel => { channel with flushSender := none }) := by
  obtain ⟨w, hw⟩ := h.waiting
  have hc := channel_updateChannel n c fun channel => { channel with flushSender := none }
  have hm : Settles n (n.updateChannel c fun channel => { channel with flushSender := none }) := by
    refine .drop hp (fun x => ?_) hres (fun _ hd => hd)
      fun k b hb => ⟨b, hb, rfl, rfl, fun _ => rfl⟩
    rw [hc]
    split <;> rfl
  refine ⟨h.guarded.settle hm, w, hw.settle hm (fun _ => .rfl) (fun x => ?_) (fun x => ?_)
    hw.unresolved⟩
  · rw [hc]
    exact channel_ite n c (·.receiver) (by rfl) x
  · rw [hc]
    exact channel_ite n c (·.syncSender) (by rfl) x

/-- `m` comes from `n` by removing the flush registration `p` of `c` and telling its barrier `b`. -/
structure Drains (n : Network τ ε) (c : Channel.Ref) (p : FlushParty) (b : Barrier)
    (m : Network τ ε) : Prop where
  party : (n.channel c).flushSender = some p
  barrier : n.coordinator p.coordinator = .barrier b
  flushSender : ∀ x, (m.channel x).flushSender =
    if x = c then none else (n.channel x).flushSender
  receiver : ∀ x, (m.channel x).receiver = (n.channel x).receiver
  syncSender : ∀ x, (m.channel x).syncSender = (n.channel x).syncSender
  coordinator : ∀ k, m.coordinator k = if k = p.coordinator
    then .barrier (if c.id ∈ b.drained then b else b.note c.id) else n.coordinator k

theorem drains_notifyDrained {p : FlushParty} {b : Barrier}
    (hp : (n.channel c).flushSender = some p) (hb : n.coordinator p.coordinator = .barrier b) :
    Drains n c p b ((n.updateChannel c fun channel =>
      { channel with flushSender := none }).notifyDrained p.coordinator c.id) where
  party := hp
  barrier := hb
  flushSender x := by
    rw [channel_notifyDrained, channel_updateChannel]
    split <;> rfl
  receiver x := by
    rw [channel_notifyDrained, channel_updateChannel]
    exact channel_ite n c (·.receiver) (by rfl) x
  syncSender x := by
    rw [channel_notifyDrained, channel_updateChannel]
    exact channel_ite n c (·.syncSender) (by rfl) x
  coordinator k := by
    rw [coordinator_notifyDrained, coordinator_updateChannel, coordinator_updateChannel, hb]
    rfl

namespace Drains

variable {p : FlushParty} {b : Barrier}

/-- With its slot resolved the registration does not count any more. -/
theorem settles (h : Drains n c p b m) (hslot : b.slot = p.slot)
    (hres : (m.slot p.slot).isResolved = true)
    (hd : ∀ d, (n.slot d).isResolved = true → (m.slot d).isResolved = true) : Settles n m := by
  refine .drop h.party h.flushSender hres hd fun k b' hb' => ?_
  rw [h.coordinator]
  by_cases hk : k = p.coordinator
  · rw [hk, h.barrier] at hb'
    cases hb'
    rw [if_pos hk]
    refine ⟨_, rfl, ?_, ?_, fun ho => ?_⟩
    · split <;> rfl
    · split <;> rfl
    · rw [hslot, hres] at ho
      cases ho
  · rw [if_neg hk]
    exact ⟨b', hb', rfl, rfl, fun _ => rfl⟩

/-- The sender waits for other channels. -/
theorem waits (h : Drains n c p b m) (hn : Orderly R n)
    (ho : (n.slot p.slot).isResolved = false) (hlen : b.drained.length + 1 ≠ b.expected)
    (hs : ∀ t, m.strand t = n.strand t) (hd : ∀ d, m.slot d = n.slot d) : Orderly R m := by
  obtain ⟨w, hw⟩ := hn.waiting
  have hcounts : n.Counts p.coordinator b := by
    obtain ⟨b', hb', -, -, hcounts⟩ := hn.guarded.barrier c p h.party
    rw [h.barrier] at hb'
    cases hb'
    exact hcounts ho
  have hback : ∀ x q, (m.channel x).flushSender = some q →
      x ≠ c ∧ (n.channel x).flushSender = some q := by
    intro x q hq
    rw [h.flushSender] at hq
    split at hq
    · cases hq
    · rename_i hx
      exact ⟨hx, hq⟩
  refine ⟨⟨fun x q hq => hn.guarded.sender x q (hback x q hq).2, fun x q hq => ?_⟩, w, ?_⟩
  · obtain ⟨hx, hq⟩ := hback x q hq
    obtain ⟨b', hb', hstrand, hslot, hcounts'⟩ := hn.guarded.barrier x q hq
    by_cases hk : q.coordinator = p.coordinator
    · -- The barrier that was told.
      rw [hk, h.barrier] at hb'
      cases hb'
      have hnotMem := hcounts.notMem h.party rfl
      rw [h.coordinator, if_pos hk, if_neg hnotMem, hk]
      exact ⟨_, rfl, hstrand, hslot, fun _ => hcounts.note h.party rfl h.flushSender⟩
    · rw [h.coordinator, if_neg hk, hd]
      exact ⟨b', hb', hstrand, hslot,
        fun ho' => (hcounts' ho').other h.party (Ne.symm hk) h.flushSender⟩
  · constructor
    case suspended => intro t; rw [hs, hw.suspended]
    case receiver => intro x t; rw [h.receiver, hw.receiver]
    case syncSender => intro x q; rw [h.syncSender, hw.syncSender]
    case flushing => intro x q hq hqo; exact hw.flushing x q (hback x q hq).2 (hd q.slot ▸ hqo)
    case registered =>
      intro t e ht
      obtain ⟨x, q, hq, rfl, rfl⟩ := hw.registered t e ht
      by_cases hx : x = c
      · -- The sender is registered with another channel for the same flush.
        subst hx
        rw [h.party] at hq
        cases hq
        obtain ⟨y, r, hyx, hr, hrk⟩ := hcounts.another h.party rfl hlen
        obtain ⟨b₁, hb₁, hstrand₁, hslot₁, -⟩ := hn.guarded.barrier x p h.party
        obtain ⟨b₂, hb₂, hstrand₂, hslot₂, -⟩ := hn.guarded.barrier y r hr
        rw [hrk, hb₁] at hb₂
        cases hb₂
        refine ⟨y, r, ?_, hstrand₂.symm.trans hstrand₁, hslot₂.symm.trans hslot₁⟩
        rw [h.flushSender, if_neg hyx, hr]
      · exact ⟨x, q, by rw [h.flushSender, if_neg hx, hq], rfl, rfl⟩
    case unresolved => intro t v e hv hve; rw [hd]; exact hw.unresolved t v e hv hve
    case owner => exact hw.owner
    case roles => exact hw.roles

/-- The flush has ended before. -/
theorem stale (h : Drains n c p b m) (hn : Orderly R n) (hslot : b.slot = p.slot)
    (ho : (n.slot p.slot).isResolved = true) (hs : ∀ t, m.strand t = n.strand t)
    (hd : ∀ d, m.slot d = n.slot d) : Orderly R m := by
  obtain ⟨w, hw⟩ := hn.waiting
  have hset := h.settles hslot (by rw [hd, ho]) fun e he => by rw [hd, he]
  exact ⟨hn.guarded.settle hset, w, hw.settle hset (fun t => by rw [hs]) h.receiver h.syncSender
    fun t v e hv hve => by rw [hd]; exact hw.unresolved t v e hv hve⟩

/-- The sender is released. -/
theorem last (h : Drains n c p b m) (hn : Orderly R n) (hslot : b.slot = p.slot)
    (ho : (n.slot p.slot).isResolved = false)
    (hs : ∀ t, (m.strand t).phase = if t = p.strand then .ready else (n.strand t).phase)
    (hd : ∀ x, m.slot x = if x = p.slot then .filled .done else n.slot x) : Orderly R m := by
  obtain ⟨w, hw⟩ := hn.waiting
  have hws := hw.flushing c p h.party ho
  have hset := h.settles hslot (by rw [hd, if_pos rfl]; rfl) fun x hx => by
    rw [hd]
    split
    · rfl
    · exact hx
  refine ⟨hn.guarded.settle hset, _, hw.release hset hws hs (fun x t => ?_) (fun x q => ?_)
    fun x => ?_⟩
  · rw [h.receiver, iff_self_and]
    exact hw.receiver_ne hws nofun
  · rw [h.syncSender, iff_self_and]
    exact hw.syncSender_ne hws nofun
  · rw [hd]
    by_cases hx : x = p.slot
    · simp [hx, Wait.slot?, Slot.isResolved]
    · simp [hx, Wait.slot?, Ne.symm hx]

end Drains

/-- A channel has drained for the sender registered there. The flush has ended before, or it ends
now, or the sender waits for other channels. -/
theorem drain (h : Orderly R n) {p : FlushParty} (hp : (n.channel c).flushSender = some p) :
    Orderly R ((n.updateChannel c fun channel =>
      { channel with flushSender := none }).notifyDrained p.coordinator c.id) := by
  obtain ⟨w, hw⟩ := h.waiting
  obtain ⟨b, hb, hstrand, hslot, hcounts⟩ := h.guarded.barrier c p hp
  have hm := drains_notifyDrained hp hb
  have hbl : (n.updateChannel c fun channel =>
      { channel with flushSender := none }).coordinator p.coordinator = .barrier b := hb
  cases ho : (n.slot p.slot).isResolved with
  | true =>
    obtain ⟨-, hs, hd⟩ := notifyDrained_resolved c.id hbl (hslot ▸ ho)
    exact hm.stale h hslot ho (fun t => by rw [strand, hs]; rfl) fun e => by rw [slot, hd]; rfl
  | false =>
    by_cases hlen : b.drained.length + 1 = b.expected
    · obtain ⟨e, f, hdone⟩ := notifyDrained_complete hbl ((hcounts ho).notMem hp rfl) hlen
        (hslot ▸ ho)
      refine hm.last h hslot ho (fun t => ?_) fun x => ?_
      · have hsus : (n.strand b.strand).phase = .suspended :=
          (hw.suspended _).2 ⟨_, hstrand ▸ hw.flushing c p hp ho⟩
        rw [hdone, ← hstrand]
        refine (phase_wake ?_ t).trans rfl
        exact hsus
      · rw [hdone, slot_wake, slot_emit, slot_setSlot, hslot]
        rfl
    · obtain ⟨-, hs, hd⟩ := notifyDrained_incomplete hbl (.inr hlen)
      exact hm.waits h ho hlen (fun t => by rw [strand, hs]; rfl) fun e => by rw [slot, hd]; rfl

theorem noteDrained (h : Orderly R n) (c : Channel.Ref) : Orderly R (n.noteDrained c) := by
  unfold Network.noteDrained
  split
  · exact h
  · rename_i p hp
    exact (h.emit _).drain (Option.filter_eq_some_iff.1 hp).1

/-- A flushing sender for which a failure takes the place of its channel is released, unless its
flush has ended before. Its other registrations do not count any more. -/
theorem deliverFlush (h : Orderly R n) {p : FlushParty} (hp : (n.channel c).flushSender = some p)
    (r : Resolution ε) : Orderly R ((n.updateChannel c fun channel =>
      { channel with flushSender := none }).deliver p.toParty r).1 := by
  cases ho : (n.slot p.slot).isResolved with
  | true =>
    rw [deliver_resolved (n := n.updateChannel c _) r ho]
    exact (h.drop hp ho).emit _
  | false =>
    obtain ⟨w, hw⟩ := h.waiting
    have hws := hw.flushing c p hp ho
    have hsus := (hw.suspended _).2 ⟨_, hws⟩
    have hc := channel_updateChannel n c fun channel => { channel with flushSender := none }
    rw [deliver_open (n := n.updateChannel c _) r ho]
    have hfilled : ∀ d, ((((n.updateChannel c fun channel =>
        { channel with flushSender := none }).setSlot p.slot (.filled r)).wake p.strand).slot d) =
        if d = p.slot then .filled r else n.slot d := by
      intro d
      rw [slot_wake, slot_setSlot]
      rfl
    have hm : Settles n (((n.updateChannel c fun channel =>
        { channel with flushSender := none }).setSlot p.slot (.filled r)).wake p.strand) := by
      refine .drop hp (fun x => ?_) (by rw [hfilled, if_pos rfl]; rfl) (fun d hd => ?_)
        fun k b hb => ⟨b, ?_, rfl, rfl, fun _ => rfl⟩
      · rw [channel_wake, channel_setSlot, hc]
        split <;> rfl
      · rw [hfilled]
        split
        · rfl
        · exact hd
      · rw [coordinator_wake]
        exact hb
    refine ⟨h.guarded.settle hm, _, hw.release hm hws (fun t => ?_) (fun x t => ?_) (fun x q => ?_)
      fun d => ?_⟩
    · exact phase_wake (n := (n.updateChannel c _).setSlot p.slot _) hsus t
    · have hsame : ((n.updateChannel c fun channel =>
          { channel with flushSender := none }).channel x).receiver = (n.channel x).receiver := by
        rw [hc]
        exact channel_ite n c (·.receiver) (by rfl) x
      rw [channel_wake, channel_setSlot, hsame, iff_self_and]
      exact hw.receiver_ne hws nofun
    · have hsame : ((n.updateChannel c fun channel =>
          { channel with flushSender := none }).channel x).syncSender =
          (n.channel x).syncSender := by
        rw [hc]
        exact channel_ite n c (·.syncSender) (by rfl) x
      rw [channel_wake, channel_setSlot, hsame, iff_self_and]
      exact hw.syncSender_ne hws nofun
    · rw [hfilled]
      by_cases hd : d = p.slot
      · simp [hd, Wait.slot?, Slot.isResolved]
      · simp [hd, Wait.slot?, Ne.symm hd]

/-! ## Operations -/

theorem send (h : Orderly R n) (value : τ) (s : Strand.Ref) : Orderly R (n.send c value s) :=
  ((h.updateChannel rfl rfl rfl).emit _).wakeReceiver c

theorem syncSend (h : Orderly R n) (value : τ) (hs : (n.strand (R.sender c)).phase = .running)
    (hd : n.Fresh d) : Orderly R (n.syncSend c value (R.sender c) d).1 := by
  have hsent : ∀ e, Orderly R ((n.updateChannel c (·.enqueue ⟨value, true⟩)).emit e) :=
    fun e => (h.updateChannel rfl rfl rfl).emit e
  have hfresh : (n.updateChannel c (·.enqueue ⟨value, true⟩)).Fresh d := hd.updateChannel rfl rfl
  unfold Network.syncSend
  dsimp only
  split
  · exact ((hsent _).parkSyncSender hs hfresh).wakeReceiver c
  · split
    · -- The failure that is pending ends the wait before it begins.
      refine offer ?_ ?_ _
      · exact (((hsent _).updateChannel rfl rfl rfl).emit _).updateChannel rfl rfl rfl
      · exact (((hfresh.emit _).updateChannel rfl rfl).emit _).updateChannel rfl rfl
    · exact (hsent _).parkSyncSender hs hfresh

theorem receive (h : Orderly R n) (hs : (n.strand (R.receiver c)).phase = .running) :
    Orderly R (n.receive c (R.receiver c)).1 := by
  unfold Network.receive
  split
  · unfold receiveMessage
    dsimp only
    split
    · exact (((h.updateChannel rfl rfl rfl).emit _).releaseSyncSender c).noteDrained c
    · exact ((h.updateChannel rfl rfl rfl).emit _).noteDrained c
  · split
    · exact (h.updateChannel rfl rfl rfl).emit _
    · exact h.parkReceiver hs

theorem storeFailure (h : Orderly R n) (c : Channel.Ref) (f : Failure ε) :
    Orderly R (n.storeFailure c f) := by
  unfold Network.storeFailure
  dsimp only
  split
  · exact (h.updateChannel rfl rfl rfl).emit _
  · exact h.updateChannel rfl rfl rfl

theorem failSend (h : Orderly R n) (c : Channel.Ref) (f : Failure ε) :
    Orderly R (n.failSend c f) :=
  (((h.updateChannel rfl rfl rfl).emit _).storeFailure c f).wakeReceiver c

theorem failFlushSender (h : Orderly R n) (c : Channel.Ref) (f : Failure ε) :
    Orderly R (n.failFlushSender c f).1 := by
  unfold Network.failFlushSender
  split
  · exact h
  · rename_i p hp
    have hd := h.deliverFlush hp (.failed f)
    dsimp only
    split
    · rename_i heq
      rw [heq] at hd
      exact hd.emit _
    · rename_i heq
      rw [heq] at hd
      split
      · exact hd.emit _
      · exact hd

theorem failSyncSender (h : Orderly R n) (c : Channel.Ref) (f : Failure ε) :
    Orderly R (n.failSyncSender c f).1 := by
  unfold Network.failSyncSender
  split
  · exact h
  · rename_i p hp
    have hd := h.deliverSync hp (.failed f)
    dsimp only
    split
    · rename_i heq
      rw [heq] at hd
      exact (hd.emit _).updateChannel rfl rfl rfl
    · rename_i heq
      rw [heq] at hd
      exact hd

theorem retainFailure (h : Orderly R n) (c : Channel.Ref) (f : Failure ε) :
    Orderly R (n.retainFailure c f) := by
  unfold Network.retainFailure
  split
  · exact (h.emit _).storeFailure c f
  · exact h.emit _

theorem failReceive (h : Orderly R n) (c : Channel.Ref) (f : Failure ε) :
    Orderly R (n.failReceive c f) := by
  have hcounted : Orderly R (n.countReceiveFailure c f) := (h.updateChannel rfl rfl rfl).emit _
  have flushed : ∀ m o, (n.countReceiveFailure c f).failFlushSender c f = (m, o) →
      Orderly R m := by
    intro m o hm
    have hflush := hcounted.failFlushSender c f
    rw [hm] at hflush
    exact hflush
  have synced : ∀ m g l o, (n.countReceiveFailure c f).failFlushSender c f = (m, some g) →
      m.failSyncSender c g = (l, o) → Orderly R l := by
    intro m g l o hm hl
    have hsync := (flushed m _ hm).failSyncSender c g
    rw [hl] at hsync
    exact hsync
  exact failReceive_cases (fun m hm => flushed m none hm)
    (fun m g l hm hl => synced m g l none hm hl)
    fun m g l g' hm hl => (synced m g l _ hm hl).retainFailure c g'

end Orderly

end Rendezvous.Network
