import Rendezvous.Proofs.History
import Rendezvous.Proofs.Moves

/-!
# What there is

The callers of a network use what was created before.

* **Channels** (`Network.Exists`): operations on channels that exist create none, and any other call
  creates one at most (`size_perform`). So there are no more channels than calls, and as long as
  these fit a word all channels have different numbers (`id_inj_of_exists`).
* **Coordinators** (`Network.HasCoordinator`): those that are registered exist
  (`hasCoordinator_run`), since nobody passes others.
-/

namespace Rendezvous.Network

open Moves (anything anything_intro)

variable {τ ε : Type} {n : Network τ ε}

/-- The channel was created. -/
def Exists (n : Network τ ε) (c : Channel.Ref) : Prop := c.index < n.channels.size

instance (n : Network τ ε) (c : Channel.Ref) : Decidable (n.Exists c) := Nat.decLt ..

/-- A call that is passed existing channels creates one channel, or none. -/
theorem size_perform {call : Call τ ε} (h : ∀ c ∈ call.channels, n.Exists c) :
    (n.perform call).1.channels.size = n.channels.size ∨
      (n.perform call).1.channels.size = n.channels.size + 1 := by
  cases call with
  | createChannel options => exact .inr (Store.size_set_fresh ..)
  | lookupOrCreate t name =>
    cases hl : n.lookup t name with
    | some c => exact .inl (by simp only [perform, lookupOrCreate, hl])
    | none =>
      refine .inr ?_
      simp only [perform, lookupOrCreate, hl]
      exact Store.size_set_fresh ..
  | dispatch q =>
    refine .inl ?_
    change (n.dispatch q).1.channels.size = _
    unfold dispatch
    split <;> rfl
  | poll q held =>
    refine .inl ?_
    change (n.poll q held).1.channels.size = _
    have hq : (n.dispatch q).1.channels.size = n.channels.size := by
      unfold dispatch
      split <;> rfl
    unfold poll
    split <;> rename_i heq <;> rw [heq] at hq <;> exact hq
  | createReadySet | createStrand | createSlot | dropScheduler | dropConsumer | resume | take =>
    exact .inl rfl
  | _ => exact .inl ((Moves.performAny n rfl).size h)

/-- As long as the channels that exist fit a word, they have different numbers. -/
theorem id_inj_of_exists (h : n.channels.size < UInt64.size) {a b : Channel.Ref}
    (ha : n.Exists a) (hb : n.Exists b) (hid : a.id = b.id) : a = b :=
  (Channel.Ref.id_inj (Nat.lt_of_le_of_lt ha h) (Nat.lt_of_le_of_lt hb h)).1 hid

/-! ## Coordinators -/

/-- The coordinator was created. -/
def HasCoordinator (n : Network τ ε) (k : Coordinator.Ref) : Prop :=
  k.index < n.coordinators.size

/-- A call is passed channels and coordinators that were created. -/
def Created (n : Network τ ε) (call : Call τ ε) : Prop :=
  (∀ c ∈ call.channels, n.Exists c) ∧ ∀ k ∈ call.coordinators, n.HasCoordinator k

instance (n : Network τ ε) (k : Coordinator.Ref) : Decidable (n.HasCoordinator k) := Nat.decLt ..

instance (n : Network τ ε) (call : Call τ ε) : Decidable (n.Created call) :=
  inferInstanceAs (Decidable ((∀ c ∈ _, _) ∧ ∀ k ∈ _, _))

/-- In a run that passes what was created there are no more channels than calls. -/
theorem size_run_le {calls : List (Call τ ε)} (h : n.Keeps Created calls) :
    (n.run calls).channels.size ≤ n.channels.size + calls.length := by
  induction calls generalizing n with
  | nil => exact Nat.le_refl _
  | cons call calls ih =>
    have hone := size_perform h.1.1
    have hrest := ih h.2
    rw [run_cons, List.length_cons]
    omega

theorem size_coordinators_perform (n : Network τ ε) (call : Call τ ε) :
    n.coordinators.size ≤ (n.perform call).1.coordinators.size := by
  cases call with
  | dispatch q =>
    show _ ≤ (n.dispatch q).1.coordinators.size
    unfold dispatch
    split <;> exact Nat.le_refl _
  | poll q held =>
    have hq : (n.dispatch q).1.coordinators = n.coordinators := by
      unfold dispatch
      split <;> rfl
    show _ ≤ (n.poll q held).1.coordinators.size
    unfold poll
    split <;> rename_i heq <;> rw [heq] at hq <;> exact Nat.le_of_eq (congrArg Store.size hq.symm)
  | lookupOrCreate t name =>
    show _ ≤ (n.lookupOrCreate t name).1.coordinators.size
    unfold lookupOrCreate
    split <;> exact Nat.le_refl _
  | createReadySet | createStrand | createSlot | createChannel | dropScheduler | dropConsumer
  | resume | take => exact Nat.le_refl _
  | _ => exact (Moves.performAny n rfl).size_coordinators

/-- What a flush of some channels creates is a barrier. -/
theorem size_coordinators_flushAll (n : Network τ ε) {cs : List Channel.Ref} (s : Strand.Ref)
    (d : Slot.Ref) (h : cs ≠ []) :
    n.coordinators.size < (n.flushAll cs s d).1.coordinators.size := by
  obtain ⟨c, rest, rfl⟩ := List.exists_cons_of_ne_nil h
  have hmem : c.id ∈ ((c :: rest).map (·.id)).eraseDups := List.mem_eraseDups.2 (by simp)
  let m := (n.createBarrier s d ((c :: rest).map (·.id)).eraseDups.length).1
  have hm : m.coordinators.size = n.coordinators.size + 1 := Store.size_set_fresh ..
  have hmoves : Moves anything anything anything anything m
      (m.flushEach s d n.coordinators.fresh [] (c :: rest) false).1 :=
    .flushEach .refl (anything_intro s) (anything_intro d) (anything_intro _)
      (n.releases_createBarrier s d _) (fun x hx => nomatch hx) fun x _ => anything_intro x
  have hsize := hmoves.size_coordinators
  unfold flushAll
  dsimp only
  rw [if_neg (Nat.ne_of_gt (List.length_pos_of_mem hmem))]
  show n.coordinators.size <
    (m.flushEach s d n.coordinators.fresh [] (c :: rest) false).1.coordinators.size
  omega

/-- A call that creates a coordinator leaves one more. -/
theorem hasCoordinator_fresh {call : Call τ ε} (h : call.createsCoordinator = true) :
    (n.perform call).1.HasCoordinator n.coordinators.fresh := by
  have created : ∀ x : Coordinator,
      n.coordinators.size < (n.setCoordinator n.coordinators.fresh x).coordinators.size := by
    intro x
    have hsize : (n.setCoordinator n.coordinators.fresh x).coordinators.size =
        n.coordinators.size + 1 := Store.size_set_fresh ..
    omega
  show n.coordinators.size < _
  cases call with
  | createDrainLog => exact created _
  | createBarrier s d expected => exact created _
  | flushAll cs s d =>
    cases cs with
    | nil => cases h
    | cons c cs => exact n.size_coordinators_flushAll s d (List.cons_ne_nil c cs)
  | _ => cases h

/-- Whoever is registered to flush has a coordinator that exists. -/
theorem hasCoordinator_perform {call : Call τ ε} (hn : ∀ c p, (n.channel c).flushSender = some p →
      n.HasCoordinator p.coordinator) (hc : ∀ k ∈ call.coordinators, n.HasCoordinator k) :
    ∀ c p, ((n.perform call).1.channel c).flushSender = some p →
      (n.perform call).1.HasCoordinator p.coordinator := by
  have stays : ∀ k, n.HasCoordinator k → (n.perform call).1.HasCoordinator k :=
    fun k hk => Nat.lt_of_lt_of_le hk (n.size_coordinators_perform call)
  intro c p hp
  cases hmove : call.isMove with
  | true =>
    have hmoves := Moves.perform n hmove (fun x q hq => stays _ (hn x q hq))
      (fun k hk => stays k (hc k hk)) hasCoordinator_fresh
    rcases (hmoves.registers c).flushSender p hp with hold | ⟨-, -, hk⟩
    · exact stays _ (hn c p hold)
    · exact hk
  | false =>
    rcases n.channel_perform_of_notMem call (notMem_channels_of_not_isMove hmove c) with
      he | ⟨-, options, he⟩
    · exact stays _ (hn c p (he ▸ hp))
    · rw [he] at hp
      cases hp

/-- So it is in every run that passes what was created. -/
theorem hasCoordinator_run {calls : List (Call τ ε)}
    (h : ({} : Network τ ε).Keeps Created calls) (c : Channel.Ref) (p : FlushParty)
    (hp : ((({} : Network τ ε).run calls).channel c).flushSender = some p) :
    (({} : Network τ ε).run calls).HasCoordinator p.coordinator :=
  h.invariant (P := fun n => ∀ c p, (n.channel c).flushSender = some p →
    n.HasCoordinator p.coordinator) (fun _ _ hn hc => hasCoordinator_perform hn hc.2) nofun c p hp

end Rendezvous.Network
