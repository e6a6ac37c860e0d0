import Rendezvous.Proofs.ReadySets

/-!
# Bystanders

A call reaches a strand or a slot only if it is passed one of them, or meets somebody who is
registered with one of them.

* **Missing** (`Network.Misses`): what a call is passed and what it meets has nothing to do with the
  strand `s` and the slot `d`. A barrier for them does not count once its slot is resolved
  (`Network.Avoids`).
* **Sparing** (`Network.Spares`): a call that misses `s` and `d` leaves both as they are, and
  registers neither (`Misses.spares`).
* **Registrations** (`Network.Clear`): nobody is registered with `s` or `d`, but on some channels to
  flush. Calls that miss them keep it so (`Clear.spares`), and calls that are not passed them miss
  them (`Clear.misses`).
-/

namespace Rendezvous

variable {τ ε : Type}

namespace Network

/-- A coordinator neither wakes the strand nor fills the slot: if it is a barrier for one of them,
it has nothing to release any more. -/
def Avoids (n : Network τ ε) (s : Strand.Ref) (d : Slot.Ref) (k : Coordinator.Ref) : Prop :=
  ∀ b, n.coordinator k = .barrier b → (n.slot b.slot).isResolved = false → b.strand ≠ s ∧ b.slot ≠ d

/-- A call is passed neither the strand nor the slot, nor a barrier for them. -/
structure Elsewhere (n : Network τ ε) (s : Strand.Ref) (d : Slot.Ref) (call : Call τ ε) : Prop where
  strand : s ∉ call.strands
  slot : d ∉ call.slots
  coordinator : ∀ k ∈ call.coordinators, n.Avoids s d k

/-- Nor does it meet them on the channels that it is passed. -/
structure Misses (n : Network τ ε) (s : Strand.Ref) (d : Slot.Ref) (call : Call τ ε) : Prop
    extends Elsewhere n s d call where
  receiver : ∀ c ∈ call.channels, (n.channel c).receiver ≠ some s
  syncSender : ∀ c ∈ call.channels, ∀ p, (n.channel c).syncSender = some p →
    p.strand ≠ s ∧ p.slot ≠ d
  drained : ∀ c t, call = .operate c (.receive t) → ∀ p, (n.channel c).flushSender = some p →
    p.threshold = (n.channel c).recvCount + 1 → n.Avoids s d p.coordinator
  failed : ∀ c f, call = .operate c (.failReceive f) → ∀ p, (n.channel c).flushSender = some p →
    (n.slot p.slot).isResolved = false → p.strand ≠ s ∧ p.slot ≠ d

/-- The strand does not stop to wait and does not start to, the slot stays as it is, and nobody is
registered anew with one of them. -/
structure Spares (n : Network τ ε) (s : Strand.Ref) (d : Slot.Ref) (m : Network τ ε) : Prop where
  phase : (m.strand s).phase = (n.strand s).phase ∨
    (n.strand s).phase ≠ .suspended ∧ (m.strand s).phase = .running
  slot : m.slot d = n.slot d
  resolved : ∀ e, (n.slot e).isResolved = true → (m.slot e).isResolved = true
  coordinator : ∀ k, ¬ n.Avoids s d k → m.coordinator k = n.coordinator k
  avoids : ∀ k, n.Avoids s d k → m.Avoids s d k
  registers : ∀ c, (n.channel c).Registers (· ≠ s) (· ≠ d) (n.Avoids s d) (m.channel c)

variable {n m : Network τ ε} {s : Strand.Ref} {d : Slot.Ref} {call : Call τ ε}

/-- The coordinator that is created next is no barrier. -/
theorem avoids_fresh (n : Network τ ε) (s : Strand.Ref) (d : Slot.Ref) :
    n.Avoids s d n.coordinators.fresh := by
  intro b hb
  rw [coordinator, Store.get_fresh] at hb
  cases hb

instance (n : Network τ ε) (s : Strand.Ref) (d : Slot.Ref) (k : Coordinator.Ref) :
    Decidable (n.Avoids s d k) :=
  match h : n.coordinator k with
  | .drainLog _ => isTrue fun b hb => by rw [h] at hb; cases hb
  | .barrier b =>
    decidable_of_iff ((n.slot b.slot).isResolved = false → b.strand ≠ s ∧ b.slot ≠ d)
      ⟨fun hb b' hb' => by rw [h] at hb'; cases hb'; exact hb, fun hk => hk b h⟩

instance (n : Network τ ε) (s : Strand.Ref) (d : Slot.Ref) (call : Call τ ε) :
    Decidable (n.Elsewhere s d call) :=
  decidable_of_iff (s ∉ call.strands ∧ d ∉ call.slots ∧ ∀ k ∈ call.coordinators, n.Avoids s d k)
    ⟨fun ⟨hs, hd, hk⟩ => ⟨hs, hd, hk⟩, fun h => ⟨h.strand, h.slot, h.coordinator⟩⟩

/-! ## Sparing -/

theorem Spares.suspended (h : n.Spares s d m) (hs : (n.strand s).phase = .suspended) :
    (m.strand s).phase = .suspended := by
  rcases h.phase with hsame | ⟨hawake, -⟩
  · rw [hsame, hs]
  · exact absurd hs hawake

theorem Spares.unresolved (h : n.Spares s d m) (hd : (n.slot d).isResolved = false) :
    (m.slot d).isResolved = false := by
  rw [h.slot, hd]

theorem Spares.of_moves {C : Channel.Ref → Prop}
    (h : Moves (· ≠ s) (· ≠ d) C (n.Avoids s d) n m) : n.Spares s d m where
  phase := by rw [h.strand fun hs => hs rfl]; exact .inl rfl
  slot := h.slot fun hd => hd rfl
  resolved e he := by rw [h.resolved he, he]
  coordinator k hk := h.coordinator hk
  avoids k hk b hb ho := by
    rcases h.barrier hb with ⟨b', hb', hstrand, hslot⟩ | hother
    · rw [← hstrand, ← hslot]
      exact hk b' hb' (hslot ▸ h.unresolved ho)
    · exact hother
  registers := h.registers

/-- A step that leaves the coordinators and the registrations alone. -/
theorem Spares.still (hp : (m.strand s).phase = (n.strand s).phase ∨
      (n.strand s).phase ≠ .suspended ∧ (m.strand s).phase = .running)
    (hd : m.slot d = n.slot d)
    (hres : ∀ e, (n.slot e).isResolved = true → (m.slot e).isResolved = true)
    (hk : m.coordinators = n.coordinators)
    (hc : ∀ c, (n.channel c).Registers (· ≠ s) (· ≠ d) (n.Avoids s d) (m.channel c)) :
    n.Spares s d m where
  phase := hp
  slot := hd
  resolved := hres
  coordinator k _ := by rw [Network.coordinator, hk]
  avoids k hn b hb ho := by
    rw [Network.coordinator, hk] at hb
    refine hn b hb (Bool.eq_false_iff.2 fun he => ?_)
    rw [hres _ he] at ho
    cases ho
  registers := hc

/-- A call that is made of moves and misses the strand and the slot moves others only. -/
theorem Misses.moves (h : n.Misses s d call) (hmove : call.isMove = true) :
    Moves (· ≠ s) (· ≠ d) (· ∈ call.channels) (n.Avoids s d) n (n.perform call).1 := by
  have hn : Moves (· ≠ s) (· ≠ d) (· ∈ call.channels) (n.Avoids s d) n n := .refl
  have hs : ∀ {t}, t ∈ call.strands → t ≠ s := fun ht hts => h.strand (hts ▸ ht)
  have hd : ∀ {e}, e ∈ call.slots → e ≠ d := fun he hed => h.slot (hed ▸ he)
  cases call with
  | operate c op =>
    have hc : c ∈ (Call.operate c op).channels := List.mem_singleton.2 rfl
    have hr : ∀ t, (n.channel c).receiver = some t → t ≠ s := by
      rintro t ht rfl
      exact h.receiver c hc ht
    have hy := h.syncSender c hc
    cases op with
    | send value t => exact hn.send hc value t hr
    | syncSend value t e =>
      exact hn.syncSend hc value (hs (List.mem_singleton.2 rfl)) (hd (List.mem_singleton.2 rfl)) hr
    | receive t =>
      refine .receive hc (hs (List.mem_singleton.2 rfl)) (fun p hp _ => hy p hp)
        (h.drained c t rfl) fun p hp hlast b hb ho => h.drained c t rfl p hp hlast b hb ho
    | flush t e k =>
      have hk := h.coordinator k (List.mem_singleton.2 rfl)
      exact hn.flush hc (hs (List.mem_singleton.2 rfl)) (hd (List.mem_singleton.2 rfl)) hk hk
    | failSend f => exact hn.failSend hc f hr
    | failReceive f => exact .failReceive hc f (h.failed c f rfl) fun p hp _ => hy p hp
  | flushAll cs t e =>
    exact .flushAll (hs (List.mem_singleton.2 rfl)) (hd (List.mem_singleton.2 rfl)) (fun c hc => hc)
      fun _ => n.avoids_fresh s d
  | wake t => exact hn.wake (hs (List.mem_singleton.2 rfl))
  | markRunning t => exact hn.markRunning (hs (List.mem_singleton.2 rfl))
  | offer e r => exact hn.offer r fun _ => hd (List.mem_singleton.2 rfl)
  | notifyDrained k id =>
    have hk := h.coordinator k (List.mem_singleton.2 rfl)
    exact hn.notifyDrained id hk hk
  | createDrainLog => exact hn.coordinate (n.avoids_fresh s d) nofun
  | createBarrier t e expected =>
    refine hn.coordinate (n.avoids_fresh s d) ?_
    rintro _ ⟨⟩
    exact .inr ⟨hs (List.mem_singleton.2 rfl), hd (List.mem_singleton.2 rfl)⟩
  | createTable | unlink => exact hn.setTable _ _
  | lookup => exact hn
  | _ => cases hmove

/-- The strand that is handed out was ready, since it was queued. -/
theorem phase_dispatch (h : n.Queued s) (q : ReadySet.Ref) :
    ((n.dispatch q).1.strand s).phase = (n.strand s).phase ∨
      (n.strand s).phase ≠ .suspended ∧ ((n.dispatch q).1.strand s).phase = .running := by
  unfold dispatch
  split
  · exact .inl rfl
  · rename_i t rest heq
    have hstrand : ((n.setReadySet q { n.readySet q with queue := rest }).resume t).strand s =
        if s = t then { n.strand t with phase := .running } else n.strand s := by
      simp only [strand, resume, setPhase, setStrand, setReadySet, Store.get_set]
    show (((n.setReadySet q { n.readySet q with queue := rest }).resume t).strand s).phase = _ ∨
      _ ∧ (((n.setReadySet q { n.readySet q with queue := rest }).resume t).strand s).phase = _
    rw [hstrand]
    by_cases hst : s = t
    · subst hst
      have hcount := h q
      rw [heq, List.count_cons_self] at hcount
      split at hcount
      · rename_i hand
        rw [if_pos rfl, hand.2.1]
        exact .inr ⟨by decide, rfl⟩
      · cases hcount
    · rw [if_neg hst]
      exact .inl rfl

/-- A call that misses the strand and the slot spares them. -/
theorem Misses.spares (h : n.Misses s d call) (hq : n.Queued s) :
    n.Spares s d (n.perform call).1 := by
  have hc : call.isMove = false →
      ∀ c, (n.channel c).Registers (· ≠ s) (· ≠ d) (n.Avoids s d)
        ((n.perform call).1.channel c) := by
    intro hmove c
    rcases n.channel_perform_of_notMem call (notMem_channels_of_not_isMove hmove c) with
      he | ⟨hdefault, options, he⟩
    · rw [he]
      exact .refl _
    · rw [he, hdefault]
      exact .less (.inl rfl) (.inl rfl) (.inl rfl)
  have dispatched : ∀ q, (∀ c, (n.channel c).Registers (· ≠ s) (· ≠ d) (n.Avoids s d)
      ((n.dispatch q).1.channel c)) → n.Spares s d (n.dispatch q).1 := by
    intro q hc
    have hsame : (n.dispatch q).1.slots = n.slots ∧
        (n.dispatch q).1.coordinators = n.coordinators := by
      unfold dispatch
      split <;> exact ⟨rfl, rfl⟩
    refine .still (phase_dispatch hq q) (congrArg (Store.get · d) hsame.1) (fun e he => ?_)
      hsame.2 hc
    exact (congrArg (fun l => (Store.get l e).isResolved) hsame.1).trans he
  cases call with
  | createStrand name home =>
    refine .still (.inl ?_) rfl (fun _ => id) rfl (hc rfl)
    refine (congrArg Strand.phase (Store.get_set ..)).trans ?_
    split
    · rename_i hs
      have hdefault : n.strand s = {} := by rw [hs]; exact Store.get_fresh _
      rw [hdefault]
    · rfl
  | createSlot =>
    have hfresh : n.slot n.slots.fresh = .empty := Store.get_fresh _
    have hslot : ∀ e, (n.perform .createSlot).1.slot e = n.slot e := by
      intro e
      refine (slot_setSlot n n.slots.fresh .empty e).trans ?_
      split
      · rename_i he
        rw [he, hfresh]
      · rfl
    exact .still (.inl rfl) (hslot d) (fun e he => by rw [hslot, he]) rfl (hc rfl)
  | take e =>
    refine .still (.inl rfl) ?_ (fun x hx => ?_) rfl (hc rfl)
    · refine (slot_setSlot n e (n.slot e).take.2 d).trans (if_neg fun hde => ?_)
      exact h.slot (List.mem_singleton.2 hde)
    · refine (congrArg Slot.isResolved (slot_setSlot n e (n.slot e).take.2 x)).trans ?_
      split
      · rename_i hxe
        rw [Slot.isResolved_take, ← hxe, hx]
      · exact hx
  | resume t =>
    refine .still (.inl ?_) rfl (fun _ => id) rfl (hc rfl)
    refine congrArg Strand.phase ((Store.get_set ..).trans (if_neg fun hst => ?_))
    exact h.strand (List.mem_singleton.2 hst)
  | dispatch q => exact dispatched q (hc rfl)
  | poll q held =>
    have hpoll : (n.perform (.poll q held)).1 = (n.dispatch q).1 := by
      show (n.poll q held).1 = _
      unfold poll
      split <;> rename_i heq <;> rw [heq]
    rw [hpoll] at hc ⊢
    exact dispatched q (hc rfl)
  | lookupOrCreate t name =>
    have hsame : (n.lookupOrCreate t name).1.strands = n.strands ∧
        (n.lookupOrCreate t name).1.slots = n.slots ∧
        (n.lookupOrCreate t name).1.coordinators = n.coordinators := by
      unfold lookupOrCreate
      split <;> exact ⟨rfl, rfl, rfl⟩
    obtain ⟨hs, hd, hk⟩ := hsame
    refine .still (.inl (congrArg (fun l => (Store.get l s).phase) hs))
      (congrArg (Store.get · d) hd) (fun e he => ?_) hk (hc rfl)
    exact (congrArg (fun l => (Store.get l e).isResolved) hd).trans he
  | createReadySet | createChannel | dropScheduler | dropConsumer =>
    exact .still (.inl rfl) rfl (fun _ => id) rfl (hc rfl)
  | _ => exact .of_moves (h.moves rfl)

/-! ## Registrations -/

/-- Nobody is registered with the strand or with the slot, but on the channels in `live` to flush. A
registration to flush does not count once its slot is resolved. -/
structure Clear (n : Network τ ε) (s : Strand.Ref) (d : Slot.Ref) (live : Channel.Ref → Prop) :
    Prop where
  receiver : ∀ c, (n.channel c).receiver ≠ some s
  syncSender : ∀ c p, (n.channel c).syncSender = some p → p.strand ≠ s ∧ p.slot ≠ d
  flushSender : ∀ c p, (n.channel c).flushSender = some p → ¬ live c →
    n.Avoids s d p.coordinator ∧ ((n.slot p.slot).isResolved = false → p.strand ≠ s ∧ p.slot ≠ d)

variable {live : Channel.Ref → Prop}

/-- Nobody is registered at all. -/
theorem Clear.of_none (h : ∀ c, (n.channel c).receiver = none ∧ (n.channel c).syncSender = none ∧
    (n.channel c).flushSender = none) : n.Clear s d live where
  receiver c := by rw [(h c).1]; nofun
  syncSender c p hp := by rw [(h c).2.1] at hp; cases hp
  flushSender c p hp := by rw [(h c).2.2] at hp; cases hp

theorem Clear.spares (h : n.Clear s d live) (hm : n.Spares s d m) : m.Clear s d live where
  receiver c hc := by
    rcases (hm.registers c).receiver s hc with hold | hother
    · exact h.receiver c hold
    · exact hother rfl
  syncSender c p hp := by
    rcases (hm.registers c).syncSender p hp with hold | hother
    · exact h.syncSender c p hold
    · exact hother
  flushSender c p hp hl := by
    rcases (hm.registers c).flushSender p hp with hold | ⟨hstrand, hslot, hk⟩
    · obtain ⟨hk, hother⟩ := h.flushSender c p hold hl
      refine ⟨hm.avoids _ hk, fun ho => hother (Bool.eq_false_iff.2 fun hn => ?_)⟩
      rw [hm.resolved _ hn] at ho
      cases ho
    · exact ⟨hm.avoids _ hk, fun _ => ⟨hstrand, hslot⟩⟩

/-- A call that is passed neither of them misses them, if it does not meet them on a channel in
`live`. -/
theorem Clear.misses (h : n.Clear s d live) (he : n.Elsewhere s d call)
    (hd : ∀ c t, call = .operate c (.receive t) → live c → ∀ p, (n.channel c).flushSender = some p →
      p.threshold ≠ (n.channel c).recvCount + 1)
    (hf : ∀ c f, call = .operate c (.failReceive f) → ¬ live c) : n.Misses s d call where
  toElsewhere := he
  receiver c _ := h.receiver c
  syncSender c _ := h.syncSender c
  drained c t hcall p hp hlast :=
    (h.flushSender c p hp fun hl => hd c t hcall hl p hp hlast).1
  failed c f hcall p hp := (h.flushSender c p hp (hf c f hcall)).2

end Network

end Rendezvous
