import Rendezvous.Proofs.Creation
import Rendezvous.Proofs.Deeds
import Rendezvous.Proofs.Waiting

/-!
# What a flush of several channels answers

The answer, and what the flush has done by then, can be told from the channels as they were before.

* **Pending failures** (`Pending.foremost?`): the failure that ends a flush is the panic of the
  first channel that has a failure, or else its error.
* **Who waits** (`Deed.parks`, `parks_of_registered`): a sender is registered at the end only if one
  of the flushes on the way has registered it. So a flush that has asked all its channels without a
  result has suspended its sender.
* **The answer** (`flushAll_outcome`).
-/

namespace Rendezvous

variable {τ ε : Type}

/-! ## Pending failures -/

namespace Pending

/-- The pending panic, or else the pending error. -/
def foremost? (p : Pending ε) : Option (Failure ε) :=
  (p.panic.map Failure.panic).or (p.error.map Failure.error)

/-- The failure that is consumed is the foremost one. -/
theorem foremost?_of_take? {p rest : Pending ε} {f : Failure ε} (h : p.take? = some (f, rest)) :
    p.foremost? = some f := by
  cases p with | mk panic error =>
  cases panic <;> cases error <;>
    simp only [take?, Option.some.injEq, Prod.mk.injEq, reduceCtorEq] at h
  all_goals
    obtain ⟨rfl, -⟩ := h
    rfl

/-- Only that one is consumed. -/
theorem get_rest {p rest : Pending ε} {f : Failure ε} (h : p.take? = some (f, rest))
    (k : FailureKind) : rest.get k = if k = f.kind then none else p.get k := by
  obtain ⟨-, hnone, hother⟩ := get_of_take? h
  by_cases hk : k = f.kind
  · rw [if_pos hk, hk, hnone]
  · rw [if_neg hk, hother k hk]

end Pending

/-- A failure can be consumed exactly if one is pending. -/
theorem Channel.hasPendingFailure_eq_false {channel : Channel τ ε} :
    channel.hasPendingFailure = false ↔ channel.pending.take? = none := by
  rw [hasPendingFailure, ← Pending.isSome_take?, Option.isSome_eq_false_iff,
    Option.isNone_iff_eq_none]

theorem Channel.isDrained_eq_false {channel : Channel τ ε} :
    channel.isDrained = false ↔ channel.recvCount < channel.sendCount := by
  rw [isDrained, decide_eq_false_iff_not, UInt64.not_le]

/-! ## Who waits -/

/-- Whether a deed is a flush whose sender waits. -/
def Deed.parks (x : Deed τ ε) : Bool :=
  match x.act with
  | .operate (.flush s d k) => !(x.before.flush x.channel s d k).2
  | _ => false

namespace Network

variable {n : Network τ ε} {c : Channel.Ref} {s : Strand.Ref} {d : Slot.Ref} {k : Coordinator.Ref}

/-- A flush that is over has registered nobody. -/
theorem flushSender_flush_of_ended (h : (n.flush c s d k).2 = true) (x : Channel.Ref) :
    ((n.flush c s d k).1.channel x).flushSender = (n.channel x).flushSender := by
  rw [channel_flush]
  cases hp : (n.channel c).pending.take? with
  | some taken => exact channel_ite n c (·.flushSender) (by rfl) x
  | none =>
    cases hd : (n.channel c).isDrained with
    | true => exact channel_ite n c (·.flushSender) rfl x
    | false =>
      rw [flush_undrained s d k hp hd] at h
      cases h

/-- If the sender is registered at the end and was not at the start, one of the flushes has
registered it. -/
theorem parks_of_registered {asked rest : List Channel.Ref} {parked : Bool} {x : Channel.Ref}
    {p : FlushParty} (hfresh : ∀ q, (n.channel x).flushSender = some q → q.slot ≠ d)
    (hp : ((n.flushEach s d k asked rest parked).1.channel x).flushSender = some p)
    (hd : p.slot = d) : (n.flushings s d k asked rest).any Deed.parks = true := by
  induction rest generalizing n asked parked with
  | nil => exact absurd hd (hfresh p hp)
  | cons c rest ih =>
    rw [flushings, List.any_cons]
    cases hended : (n.flush c s d k).2 with
    | false => simp [Deed.parks, hended]
    | true =>
      have hsame : ∀ q, ((n.flush c s d k).1.channel x).flushSender = some q → q.slot ≠ d := by
        rw [flushSender_flush_of_ended hended]
        exact hfresh
      by_cases hres : ((n.flush c s d k).1.slot d).isResolved = true
      · -- Whoever flushes with the slot has withdrawn.
        have hwithdrawn : (n.flushEach s d k asked (c :: rest) parked).1.channel x =
            ((asked ++ [c]).foldl (·.withdrawFlush d) (n.flush c s d k).1).channel x := by
          rw [flushEach]
          dsimp only
          rw [if_pos hres]
          split
          · exact channel_markRunning ..
          · rfl
        rw [hwithdrawn, channel_withdrawAll] at hp
        split at hp
        · exact absurd hd (hsame p (Option.filter_eq_some_iff.1 hp).1)
        · exact absurd hd (hsame p hp)
      · rw [flushEach] at hp
        dsimp only at hp
        rw [if_neg hres] at hp
        rw [if_neg hres, ih hsame hp, Bool.or_true]

/-- A flush after which its slot is unresolved has asked all its channels and suspended its sender
on the way. -/
theorem flushAll_parks {cs : List Channel.Ref} (hfresh : n.Fresh d) {x : Channel.Ref}
    {p : FlushParty} (hp : ((n.flushAll cs s d).1.channel x).flushSender = some p)
    (hd : p.slot = d) : (n.deedsOf (.flushAll cs s d)).any Deed.parks = true := by
  cases cs with
  | nil =>
    have hsame : (n.flushAll [] s d).1.channel x = n.channel x := channel_offer ..
    rw [hsame] at hp
    exact absurd hd ((hfresh.2 x).2 p hp)
  | cons c cs =>
    have hexpected : (((c :: cs).map (·.id)).eraseDups).length ≠ 0 := by
      rw [List.map_cons, List.eraseDups_cons]
      exact Nat.succ_ne_zero _
    unfold flushAll at hp
    unfold deedsOf
    dsimp only at hp ⊢
    rw [if_neg hexpected] at hp
    rw [if_neg (List.cons_ne_nil c cs)]
    exact parks_of_registered (hfresh.2 x).2 hp hd

/-! ## The answer -/

namespace Answered

variable {cs : List Channel.Ref} {m : Network τ ε} {isOver : Bool}

/-- The first pending failure ends the flush, and no other failure is consumed. -/
theorem failed_of_pending (h : n.Answered s d cs (m, isOver))
    (hpending : ∃ c ∈ cs, (n.channel c).hasPendingFailure = true) :
    isOver = true ∧ ∃ asked c rest f, cs = asked ++ c :: rest ∧
      (∀ x ∈ asked, (n.channel x).hasPendingFailure = false) ∧
      (n.channel c).pending.foremost? = some f ∧ m.slot d = .filled (.failed f) ∧
      ∀ x k, (m.channel x).pending.get k = if x = c ∧ k = f.kind then none
        else (n.channel x).pending.get k := by
  obtain ⟨y, hy, hpending⟩ := hpending
  have hsome : (n.channel y).pending.take? ≠ none := by
    rw [ne_eq, ← Channel.hasPendingFailure_eq_false, hpending]
    decide
  cases h with
  | @failed asked rest c f _ _ hcs hnone htaken hended hchannel =>
    refine ⟨rfl, asked, c, rest, f, hcs,
      fun x hx => Channel.hasPendingFailure_eq_false.2 (hnone x hx),
      Pending.foremost?_of_take? htaken, by rw [hended.slot, if_pos rfl], fun x k => ?_⟩
    rw [hchannel]
    by_cases hx : x = c
    · simp only [hx, if_true, true_and]
      exact Pending.get_rest htaken k
    · simp only [hx, if_false, false_and]
  | drained hall => exact absurd (hall y hy).1 hsome
  | parked hnone => exact absurd (hnone y hy) hsome

/-- Without a pending failure no flush on the way has one to consume. -/
theorem take?_eq_none (hnone : ∀ c ∈ cs, (n.channel c).hasPendingFailure = false)
    {asked rest : List Channel.Ref} (hcs : cs = asked ++ c :: rest) :
    (n.channel c).pending.take? = none :=
  Channel.hasPendingFailure_eq_false.1 (hnone c (by simp [hcs]))

/-- Without a pending failure the flush has not failed, and there is nothing to consume. -/
theorem pending_eq (h : n.Answered s d cs (m, isOver))
    (hnone : ∀ c ∈ cs, (n.channel c).hasPendingFailure = false) (x : Channel.Ref) :
    (m.channel x).pending = (n.channel x).pending := by
  cases h with
  | failed hcs _ htaken => cases htaken.symm.trans (take?_eq_none hnone hcs)
  | drained _ _ hchannel => rw [hchannel]
  | parked _ _ hasked => exact hasked.pending x

/-- With all channels drained the flush is over. -/
theorem done_of_drained (h : n.Answered s d cs (m, isOver))
    (hnone : ∀ c ∈ cs, (n.channel c).hasPendingFailure = false)
    (hall : ∀ c ∈ cs, (n.channel c).sendCount ≤ (n.channel c).recvCount) :
    isOver = true ∧ m.slot d = .filled .done := by
  cases h with
  | failed hcs _ htaken => cases htaken.symm.trans (take?_eq_none hnone hcs)
  | drained _ hended _ => exact ⟨rfl, by rw [hended.slot, if_pos rfl]⟩
  | parked _ hsome _ =>
    obtain ⟨c, hc, hd⟩ := hsome
    exact absurd (hall c hc) (UInt64.not_le.2 (Channel.isDrained_eq_false.1 hd))

/-- Otherwise the sender waits for those that are not. -/
theorem parked_of_undrained (h : n.Answered s d cs (m, isOver)) (hfresh : n.Fresh d)
    (hnone : ∀ c ∈ cs, (n.channel c).hasPendingFailure = false)
    (hsome : ∃ c ∈ cs, (n.channel c).recvCount < (n.channel c).sendCount) :
    isOver = false ∧ (m.slot d).isResolved = false ∧ (m.strand s).phase = .suspended ∧
      ∀ x p, ((m.channel x).flushSender = some p ∧ p.slot = d) ↔
        (x ∈ cs ∧ (n.channel x).recvCount < (n.channel x).sendCount ∧
          p = ⟨⟨s, d⟩, (n.channel x).sendCount, n.coordinators.fresh⟩) := by
  cases h with
  | failed hcs _ htaken => cases htaken.symm.trans (take?_eq_none hnone hcs)
  | drained hall _ _ =>
    obtain ⟨c, hc, hlt⟩ := hsome
    rw [← Channel.isDrained_eq_false, (hall c hc).2] at hlt
    cases hlt
  | parked _ hundrained hasked =>
    refine ⟨rfl, by rw [hasked.slot, hfresh.1], by rw [hasked.strand, if_pos ⟨rfl, hundrained⟩],
      fun x p => ?_⟩
    rw [hasked.channel, ← Channel.isDrained_eq_false, ← and_assoc (a := x ∈ cs)]
    by_cases hx : x ∈ cs ∧ (n.channel x).isDrained = false
    · simp only [hx, and_self, if_true, Option.some.injEq, true_and]
      constructor
      · rintro ⟨rfl, -⟩
        rfl
      · rintro rfl
        exact ⟨rfl, rfl⟩
    · simp only [hx, if_false, false_and, iff_false, not_and]
      exact (hfresh.2 x).2 p

/-- A flush that is over leaves its sender running, and no registration. -/
theorem running_of_over (h : n.Answered s d cs (m, isOver)) (hrun : (n.strand s).phase = .running)
    (hfresh : n.Fresh d) (hover : isOver = true) : (m.strand s).phase = .running ∧
      ∀ x p, (m.channel x).flushSender = some p → p.slot ≠ d := by
  cases h with
  | failed _ _ _ hended hchannel =>
    refine ⟨by rw [hended.strand, hrun], fun x p hp => ?_⟩
    rw [hchannel] at hp
    dsimp only at hp
    split at hp
    · cases hp
    · exact (hfresh.2 x).2 p hp
  | drained _ hended hchannel =>
    refine ⟨by rw [hended.strand, hrun], fun x p hp => ?_⟩
    rw [hchannel] at hp
    exact (hfresh.2 x).2 p hp
  | parked => cases hover

/-- Failures and flushing senders are all that a flush changes about channels. -/
theorem channel_eq (h : n.Answered s d cs (m, isOver)) (x : Channel.Ref) :
    m.channel x = { n.channel x with
      pending := (m.channel x).pending, flushSender := (m.channel x).flushSender } := by
  cases h with
  | failed _ _ _ _ hchannel => rw [hchannel]
  | drained _ _ hchannel => rw [hchannel]
  | parked _ _ hasked =>
    rw [hasked.channel]
    split <;> rfl

theorem readySet_eq (h : n.Answered s d cs (m, isOver)) (q : ReadySet.Ref) :
    m.readySet q = n.readySet q := by
  cases h with
  | failed _ _ _ hended _ => exact hended.readySet q
  | drained _ hended _ => exact hended.readySet q
  | parked _ _ hasked => exact hasked.readySet q

/-- If the slot is unresolved at the end, one of the flushes has suspended the sender. -/
theorem parks (h : n.Answered s d cs (n.flushAll cs s d)) (hfresh : n.Fresh d)
    (hopen : ((n.flushAll cs s d).1.slot d).isResolved = false) :
    (n.deedsOf (.flushAll cs s d)).any Deed.parks = true := by
  revert hopen
  have hparks : ∀ x p, ((n.flushAll cs s d).1.channel x).flushSender = some p → p.slot = d →
      (n.deedsOf (.flushAll cs s d)).any Deed.parks = true := fun x p => flushAll_parks hfresh
  revert hparks
  generalize n.flushAll cs s d = answered at h ⊢
  intro hparks hopen
  cases h with
  | failed _ _ _ hended _ =>
    rw [hended.slot, if_pos rfl] at hopen
    cases hopen
  | drained _ hended _ =>
    rw [hended.slot, if_pos rfl] at hopen
    cases hopen
  | parked _ hsome hasked =>
    obtain ⟨c, hc, hd⟩ := hsome
    refine hparks c ⟨⟨s, d⟩, (n.channel c).sendCount, n.coordinators.fresh⟩ ?_ rfl
    rw [hasked.channel, if_pos ⟨hc, hd⟩]

end Answered

/-- How a flush of several channels ends that is made by a running strand and given a fresh slot,
where the channels exist and have different numbers. If one of them has a pending failure, the flush
is over, the slot holds the foremost failure of the first such channel, and nothing else has been
consumed. Otherwise, if all are drained, the flush is over with nothing left to wait for. Otherwise
the sender is suspended, and is registered with exactly the channels that are not drained, until
what was sent there so far is received. When the flush is over, the sender runs and is registered
nowhere with that slot. In each case the channels are changed in their failures and their
flushing senders only, and no ready set changes. Whenever the slot is still unresolved at the end,
a flush on the way has suspended the sender. -/
theorem flushAll_outcome (n : Network τ ε) (cs : List Channel.Ref) {s : Strand.Ref} {d : Slot.Ref}
    (hrun : (n.strand s).phase = .running) (hfresh : n.Fresh d) (hexist : ∀ c ∈ cs, n.Exists c)
    (hsize : n.channels.size < UInt64.size) :
    let m := (n.flushAll cs s d).1
    let isOver := (n.flushAll cs s d).2
    ((∃ c ∈ cs, (n.channel c).hasPendingFailure = true) →
      isOver = true ∧ ∃ asked c rest f, cs = asked ++ c :: rest ∧
        (∀ x ∈ asked, (n.channel x).hasPendingFailure = false) ∧
        (n.channel c).pending.foremost? = some f ∧ m.slot d = .filled (.failed f) ∧
        ∀ x k, (m.channel x).pending.get k = if x = c ∧ k = f.kind then none
          else (n.channel x).pending.get k) ∧
      ((∀ c ∈ cs, (n.channel c).hasPendingFailure = false) →
        (∀ x, (m.channel x).pending = (n.channel x).pending) ∧
        ((∀ c ∈ cs, (n.channel c).sendCount ≤ (n.channel c).recvCount) →
          isOver = true ∧ m.slot d = .filled .done) ∧
        ((∃ c ∈ cs, (n.channel c).recvCount < (n.channel c).sendCount) →
          isOver = false ∧ (m.slot d).isResolved = false ∧ (m.strand s).phase = .suspended ∧
            ∀ x p, ((m.channel x).flushSender = some p ∧ p.slot = d) ↔
              (x ∈ cs ∧ (n.channel x).recvCount < (n.channel x).sendCount ∧
                p = ⟨⟨s, d⟩, (n.channel x).sendCount, n.coordinators.fresh⟩))) ∧
      (isOver = true → (m.strand s).phase = .running ∧
        ∀ x p, (m.channel x).flushSender = some p → p.slot ≠ d) ∧
      (∀ x, m.channel x = { n.channel x with
        pending := (m.channel x).pending, flushSender := (m.channel x).flushSender }) ∧
      (∀ q, m.readySet q = n.readySet q) ∧
      ((m.slot d).isResolved = false → (n.deedsOf (.flushAll cs s d)).any Deed.parks = true) := by
  intro m isOver
  have h : n.Answered s d cs (m, isOver) :=
    n.flushAll_cases cs hrun hfresh.1 (fun x => (hfresh.2 x).2) fun a ha b hb =>
      id_inj_of_exists hsize (hexist a ha) (hexist b hb)
  exact ⟨h.failed_of_pending, fun hnone => ⟨h.pending_eq hnone, h.done_of_drained hnone,
    h.parked_of_undrained hfresh hnone⟩, h.running_of_over hrun hfresh, h.channel_eq,
    h.readySet_eq, h.parks hfresh⟩

/-- The first channel is not drained and is asked twice, the second is drained, and two failures are
pending on the third. The panic ends the flush, and the error stays. -/
theorem flushAll_outcome_third :
    let calls : List (Call Nat String) := [
      .createReadySet,
      .createStrand (some "tx") ⟨0⟩,
      .createChannel {},
      .createChannel {},
      .createChannel {},
      .createSlot,
      .operate ⟨0⟩ (.send 1 ⟨0⟩),
      .operate ⟨2⟩ (.failSend (.error "lost")),
      .operate ⟨2⟩ (.failSend (.panic "gone"))]
    let n := ({} : Network Nat String).run calls
    let cs : List Channel.Ref := [⟨0⟩, ⟨1⟩, ⟨0⟩, ⟨2⟩]
    (n.strand ⟨0⟩).phase = .running ∧ n.Fresh ⟨0⟩ ∧ (∀ c ∈ cs, n.Exists c) ∧
      n.channels.size < UInt64.size ∧ (n.flushAll cs ⟨0⟩ ⟨0⟩).2 = true ∧
      (n.flushAll cs ⟨0⟩ ⟨0⟩).1.slot ⟨0⟩ = .filled (.failed (.panic "gone")) ∧
      ((n.flushAll cs ⟨0⟩ ⟨0⟩).1.strand ⟨0⟩).phase = .running ∧
      ∀ x p, ((n.flushAll cs ⟨0⟩ ⟨0⟩).1.channel x).flushSender = some p → p.slot ≠ ⟨0⟩ := by
  intro calls n cs
  have hfresh : n.Fresh ⟨0⟩ := by decide
  have hexist : ∀ c ∈ cs, n.Exists c := by decide
  have hsize : n.channels.size < UInt64.size := by decide
  obtain ⟨hfailed, -, hover, -⟩ := flushAll_outcome n cs (s := ⟨0⟩) rfl hfresh hexist hsize
  obtain ⟨htrue, -⟩ := hfailed ⟨⟨2⟩, by decide, by decide⟩
  exact ⟨rfl, hfresh, hexist, hsize, htrue, by decide, hover htrue⟩

end Network

end Rendezvous
