import Rendezvous.Proofs.Moves

/-!
# Ready sets

A ready strand is queued exactly once, at its home, and no other strand is queued. Every call keeps
this, with one exception: a strand that is resumed out of turn stays queued.

* `Network.Queued`: the places of one strand in the ready sets.
* `Moves.queued`: operations keep it, whatever they move. `Queued.perform` and `Queued.run`: so do
  all calls but `resume`.
-/

namespace Rendezvous.Network

variable {τ ε : Type}

/-- The strand is queued once if it is ready and its home has a consumer, and not at all
otherwise. -/
def Queued (n : Network τ ε) (s : Strand.Ref) : Prop :=
  ∀ q, (n.readySet q).queue.count s =
    if (n.strand s).home = q ∧ (n.strand s).phase = .ready ∧ (n.readySet q).hasConsumer = true
      then 1 else 0

namespace Queued

variable {n m : Network τ ε} {s : Strand.Ref}

/-- A strand that keeps its phase and its places stays queued as it was. -/
theorem congr (h : n.Queued s) (hs : m.strand s = n.strand s)
    (hq : ∀ q, (m.readySet q).queue.count s = (n.readySet q).queue.count s ∧
      (m.readySet q).hasConsumer = (n.readySet q).hasConsumer) : m.Queued s := by
  intro q
  rw [(hq q).1, h q, hs, (hq q).2]

/-- A strand that is neither ready before nor after stays out of the ready sets. -/
theorem idle (h : n.Queued s) (hn : (n.strand s).phase ≠ .ready)
    (hm : (m.strand s).phase ≠ .ready)
    (hq : ∀ q, (m.readySet q).queue.count s = (n.readySet q).queue.count s) : m.Queued s := by
  intro q
  rw [hq q, h q, if_neg fun hand => hn hand.2.1, if_neg fun hand => hm hand.2.1]

theorem suspend (h : n.Queued s) (t : Strand.Ref) : (n.suspend t).Queued s := by
  by_cases ht : s = t ∧ (n.strand t).phase = .running
  · obtain ⟨rfl, hrun⟩ := ht
    refine h.idle (by simp [hrun]) ?_ fun q => by rw [readySet_suspend]
    rw [strand_suspend, if_pos ⟨rfl, hrun⟩]
    simp
  · exact h.congr (by rw [strand_suspend, if_neg ht]) fun q => by simp

theorem markRunning (h : n.Queued s) (t : Strand.Ref) : (n.markRunning t).Queued s := by
  by_cases ht : s = t ∧ (n.strand t).phase = .suspended
  · obtain ⟨rfl, hsus⟩ := ht
    refine h.idle (by simp [hsus]) ?_ fun q => by rw [readySet_markRunning]
    rw [strand_markRunning, if_pos ⟨rfl, hsus⟩]
    simp
  · exact h.congr (by rw [strand_markRunning, if_neg ht]) fun q => by simp

theorem wake (h : n.Queued s) (t : Strand.Ref) : (n.wake t).Queued s := by
  by_cases ht : s = t ∧ (n.strand t).phase = .suspended
  · -- The strand was in no ready set, and enters that of its home.
    obtain ⟨rfl, hsus⟩ := ht
    intro q
    have hs : (n.readySet q).queue.count s = 0 := by rw [h q, if_neg (by simp [hsus])]
    rw [readySet_wake, strand_wake, if_pos (c := s = s ∧ _) ⟨rfl, hsus⟩]
    by_cases hq : q = (n.strand s).home ∧ (n.readySet q).hasConsumer = true
    · rw [if_pos (c := _ = Phase.suspended ∧ _) ⟨hsus, hq⟩, if_pos ⟨hq.1.symm, rfl, hq.2⟩,
        List.count_append, hs]
      simp
    · rw [if_neg (c := _ = Phase.suspended ∧ _) fun hand => hq hand.2,
        if_neg fun hand => hq ⟨hand.1.symm, hand.2.2⟩, hs]
  · refine h.congr (by rw [strand_wake, if_neg ht]) fun q => ?_
    rw [readySet_wake]
    split
    · rename_i hand
      have hts : t ≠ s := fun hts => ht ⟨hts.symm, hand.1⟩
      rw [List.count_append, List.count_singleton, beq_false_of_ne hts]
      exact ⟨rfl, rfl⟩
    · exact ⟨rfl, rfl⟩

/-- Operations keep every strand queued as it should be, whatever they move. -/
theorem moves {S : Strand.Ref → Prop} {D : Slot.Ref → Prop} {C : Channel.Ref → Prop}
    {K : Coordinator.Ref → Prop} (h : n.Queued s) (hm : Moves S D C K n m) : m.Queued s := by
  induction hm with
  | refl => exact h
  | step _ x _ ih =>
    cases x with
    | suspend t => exact ih.suspend t
    | markRunning t => exact ih.markRunning t
    | wake t => exact ih.wake t
    | emit | fill | update | coordinate | setTable => exact ih

/-- The strand that is handed out leaves its ready set, and it runs. -/
theorem dispatch (h : n.Queued s) (q : ReadySet.Ref) : (n.dispatch q).1.Queued s := by
  unfold Network.dispatch
  split
  · exact h
  · rename_i t rest hq
    have hset : ∀ p, ((n.setReadySet q { n.readySet q with queue := rest }).resume t).readySet p =
        if p = q then { n.readySet q with queue := rest } else n.readySet p := by
      intro p
      simp only [readySet, resume, setPhase, setStrand, setReadySet, Store.get_set]
    have hstrand : ((n.setReadySet q { n.readySet q with queue := rest }).resume t).strand s =
        if s = t then { n.strand t with phase := .running } else n.strand s := by
      simp only [strand, resume, setPhase, setStrand, setReadySet, Store.get_set]
    have hhead := h q
    rw [hq, List.count_cons] at hhead
    intro p
    dsimp only
    rw [hset, hstrand]
    by_cases hst : s = t
    · -- It was queued once, so this is its only place.
      subst hst
      rw [beq_self_eq_true, if_pos rfl] at hhead
      rw [if_pos (c := s = s) rfl]
      by_cases hpq : p = q
      · rw [if_pos hpq, if_neg fun hand => Phase.noConfusion hand.2.1]
        split at hhead
        · exact Nat.succ.inj hhead
        · cases hhead
      · rw [if_neg hpq, h p, if_neg, if_neg fun hand => Phase.noConfusion hand.2.1]
        intro hand
        split at hhead
        · rename_i hhome
          exact hpq (hand.1.symm.trans hhome.1)
        · cases hhead
    · rw [beq_false_of_ne (Ne.symm hst)] at hhead
      rw [if_neg hst]
      by_cases hpq : p = q
      · subst hpq
        rw [if_pos rfl]
        exact hhead
      · rw [if_neg hpq]
        exact h p

theorem dropConsumer (h : n.Queued s) (q : ReadySet.Ref) :
    (n.setReadySet q (n.readySet q).dropConsumer).Queued s := by
  intro p
  have hset : (n.setReadySet q (n.readySet q).dropConsumer).readySet p =
      if p = q then (n.readySet q).dropConsumer else n.readySet p := Store.get_set ..
  rw [hset]
  by_cases hpq : p = q
  · rw [if_pos hpq, if_neg fun hand => Bool.noConfusion hand.2.2]
    rfl
  · rw [if_neg hpq]
    exact h p

/-- A strand that is created was not in use. -/
theorem createStrand (h : n.Queued s) (name : Option String) (home : ReadySet.Ref) :
    (n.createStrand name home).1.Queued s := by
  have hset : (n.createStrand name home).1.strand s =
      if s = n.strands.fresh then { name, home } else n.strand s := Store.get_set ..
  by_cases hs : s = n.strands.fresh
  · have hdefault : n.strand s = {} := by rw [hs]; exact Store.get_fresh _
    refine h.idle (by rw [hdefault]; decide) ?_ fun _ => rfl
    rw [hset, if_pos hs]
    nofun
  · exact h.congr (by rw [hset, if_neg hs]) fun q => ⟨rfl, rfl⟩

/-- Nobody but `resume` moves a strand past its ready set. -/
theorem perform (h : n.Queued s) {call : Call τ ε} (hc : call ≠ .resume s) :
    (n.perform call).1.Queued s := by
  cases call with
  | createReadySet =>
    refine h.congr rfl fun q => ?_
    have hset : (n.createReadySet).1.readySet q =
        if q = n.readySets.fresh then {} else n.readySet q := Store.get_set ..
    change ((n.createReadySet).1.readySet q).queue.count s = _ ∧
      ((n.createReadySet).1.readySet q).hasConsumer = _
    rw [hset]
    split
    · rename_i hq
      have hdefault : n.readySet q = {} := by rw [hq]; exact Store.get_fresh _
      rw [hdefault]
      exact ⟨rfl, rfl⟩
    · exact ⟨rfl, rfl⟩
  | createStrand name home => exact h.createStrand name home
  | dropScheduler q =>
    refine h.congr rfl fun p => ?_
    have hset : (n.setReadySet q (n.readySet q).dropScheduler).readySet p =
        if p = q then (n.readySet q).dropScheduler else n.readySet p := Store.get_set ..
    change ((n.setReadySet q (n.readySet q).dropScheduler).readySet p).queue.count s = _ ∧
      ((n.setReadySet q (n.readySet q).dropScheduler).readySet p).hasConsumer = _
    rw [hset]
    split
    · rename_i hpq
      subst hpq
      exact ⟨rfl, rfl⟩
    · exact ⟨rfl, rfl⟩
  | dropConsumer q => exact h.dropConsumer q
  | dispatch q => exact h.dispatch q
  | poll q held =>
    change (n.poll q held).1.Queued s
    rw [fst_poll]
    exact h.dispatch q
  | resume t =>
    have ht : s ≠ t := fun ht => hc (ht ▸ rfl)
    refine h.congr ?_ fun _ => ⟨rfl, rfl⟩
    exact (Store.get_set ..).trans (if_neg ht)
  | lookupOrCreate t name =>
    have hstrand : (n.lookupOrCreate t name).1.strand s = n.strand s := by
      unfold Network.lookupOrCreate
      split <;> rfl
    have hset : ∀ q, (n.lookupOrCreate t name).1.readySet q = n.readySet q := fun q => by
      unfold Network.lookupOrCreate
      split <;> rfl
    exact h.congr hstrand fun q => ⟨congrArg (·.queue.count s) (hset q),
      congrArg (·.hasConsumer) (hset q)⟩
  | createSlot | createChannel | take => exact h.congr rfl fun _ => ⟨rfl, rfl⟩
  | _ => exact h.moves (.performAny n rfl)

/-- So does a run. -/
theorem run (h : n.Queued s) {calls : List (Call τ ε)} (hc : .resume s ∉ calls) :
    (n.run calls).Queued s := by
  induction calls generalizing n with
  | nil => exact h
  | cons call calls ih =>
    rw [List.mem_cons, not_or] at hc
    exact ih (h.perform (Ne.symm hc.1)) hc.2

/-- At the start no strand is queued. -/
theorem start (s : Strand.Ref) : ({} : Network τ ε).Queued s := fun _ =>
  (if_neg fun hand => Phase.noConfusion hand.2.1).symm

end Queued

/-- Only who drops the consumer of a ready set takes it away. -/
theorem hasConsumer_perform {n : Network τ ε} {call : Call τ ε} {q : ReadySet.Ref}
    (h : (n.readySet q).hasConsumer = true) (hc : call ≠ .dropConsumer q) :
    ((n.perform call).1.readySet q).hasConsumer = true := by
  have dispatched : ∀ p, ((n.dispatch p).1.readySet q).hasConsumer = true := by
    intro p
    unfold Network.dispatch
    split
    · exact h
    · refine (congrArg ReadySet.hasConsumer (Store.get_set ..)).trans ?_
      split
      · rename_i hqp
        subst hqp
        exact h
      · exact h
  cases call with
  | createReadySet =>
    refine (congrArg ReadySet.hasConsumer (Store.get_set ..)).trans ?_
    split
    · rfl
    · exact h
  | dropScheduler p =>
    refine (congrArg ReadySet.hasConsumer (Store.get_set ..)).trans ?_
    split
    · rename_i hqp
      subst hqp
      exact h
    · exact h
  | dropConsumer p =>
    refine (congrArg ReadySet.hasConsumer (Store.get_set ..)).trans ?_
    rw [if_neg fun hqp => hc (congrArg Call.dropConsumer hqp).symm]
    exact h
  | dispatch p => exact dispatched p
  | poll p held =>
    change ((n.poll p held).1.readySet q).hasConsumer = true
    rw [fst_poll]
    exact dispatched p
  | lookupOrCreate t name =>
    change ((n.lookupOrCreate t name).1.readySet q).hasConsumer = true
    unfold Network.lookupOrCreate
    split <;> exact h
  | createStrand | createSlot | createChannel | resume | take => exact h
  | _ => exact ((Moves.performAny n rfl).hasConsumer q).trans h

end Rendezvous.Network
