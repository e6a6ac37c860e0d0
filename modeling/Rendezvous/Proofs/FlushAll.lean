import Rendezvous.Proofs.Moves

/-!
# Flushing several channels

What a flush of several channels leaves behind, in closed form, if it is made by a running strand
and given a fresh slot.

* **Distinct numbers** (`length_eq_eraseDups`): a barrier has heard of enough channels exactly if it
  has heard of all.
* **On the way** (`Network.Asked`): the channels asked so far that are not drained have the sender
  registered, and the barrier knows those that are.
* **The end** (`Network.flushAll_cases`): the first pending failure ends the flush, or all channels
  are drained, or the sender is registered with all that are not.
-/

namespace Rendezvous

variable {τ ε : Type}

/-! ## Distinct numbers -/

theorem nodup_eraseDups {α : Type} [BEq α] [LawfulBEq α] (l : List α) : l.eraseDups.Nodup := by
  match l with
  | [] => exact List.nodup_nil
  | a :: l =>
    rw [List.eraseDups_cons, List.nodup_cons]
    refine ⟨?_, nodup_eraseDups _⟩
    rw [List.mem_eraseDups, List.mem_filter]
    simp
termination_by l.length
decreasing_by exact Nat.lt_succ_of_le (List.length_filter_le ..)

/-- Some different members of a list are as many as there are exactly if they are all. -/
theorem length_eq_eraseDups {α : Type} [BEq α] [LawfulBEq α] {part l : List α} (hn : part.Nodup)
    (hsub : part ⊆ l) : part.length = l.eraseDups.length ↔ ∀ a ∈ l, a ∈ part := by
  have hle := hn.length_le_of_subset fun a ha => List.mem_eraseDups.2 (hsub ha)
  constructor
  · intro h a ha
    cases hmem : part.contains a with
    | true => exact List.contains_iff_mem.1 hmem
    | false =>
      have hnot : a ∉ part := fun hmem' => by rw [List.contains_iff_mem.2 hmem'] at hmem; cases hmem
      have hlong : (a :: part).length ≤ l.eraseDups.length := by
        refine (List.nodup_cons.2 ⟨hnot, hn⟩).length_le_of_subset fun b hb => ?_
        obtain rfl | hb := List.mem_cons.1 hb
        · exact List.mem_eraseDups.2 ha
        · exact List.mem_eraseDups.2 (hsub hb)
      rw [List.length_cons] at hlong
      omega
  · intro h
    have hge := (nodup_eraseDups l).length_le_of_subset fun a ha => h a (List.mem_eraseDups.1 ha)
    omega

namespace Network

variable {n m : Network τ ε} {s : Strand.Ref} {d : Slot.Ref} {c : Channel.Ref}

/-! ## One flush -/

section
variable (n : Network τ ε) (c : Channel.Ref) (p : Party) (k : Coordinator.Ref)

theorem readySet_parkFlushSender (q : ReadySet.Ref) :
    (n.parkFlushSender c p k).readySet q = n.readySet q := by
  unfold parkFlushSender; dsimp only; split <;> simp

theorem strand_parkFlushSender (t : Strand.Ref) : (n.parkFlushSender c p k).strand t =
    if t = p.strand ∧ (n.strand p.strand).phase = .running
      then { n.strand p.strand with phase := .suspended } else n.strand t := by
  unfold parkFlushSender
  dsimp only
  split <;> exact strand_suspend (n.emit _) p.strand t

theorem slot_parkFlushSender (d : Slot.Ref) : (n.parkFlushSender c p k).slot d = n.slot d := by
  unfold parkFlushSender; dsimp only; split <;> simp

theorem coordinator_parkFlushSender (j : Coordinator.Ref) :
    (n.parkFlushSender c p k).coordinator j = n.coordinator j := by
  unfold parkFlushSender; dsimp only; split <;> simp

end

section
variable {n : Network τ ε} {c : Channel.Ref} (s : Strand.Ref) (d : Slot.Ref) (k : Coordinator.Ref)

theorem flush_pending {f : Failure ε} {pending : Pending ε}
    (hp : (n.channel c).pending.take? = some (f, pending)) : ∃ e, n.flush c s d k =
      ((((n.updateChannel c fun channel => { channel with pending }).emit e).offer d
        (.failed f)).1, true) := by
  simp only [flush, hp]
  exact ⟨_, rfl⟩

theorem flush_drained (hp : (n.channel c).pending.take? = none)
    (hd : (n.channel c).isDrained = true) :
    ∃ e, n.flush c s d k = ((n.emit e).notifyDrained k c.id, true) := by
  simp only [flush, hp, hd, if_true]
  exact ⟨_, rfl⟩

theorem flush_undrained (hp : (n.channel c).pending.take? = none)
    (hd : (n.channel c).isDrained = false) :
    n.flush c s d k = (n.parkFlushSender c ⟨s, d⟩ k, false) := by
  simp only [flush, hp, hd, Bool.false_eq_true, if_false]

end

/-! ## Withdrawing -/

section
variable (n : Network τ ε) (d : Slot.Ref) (cs : List Channel.Ref)

theorem channel_withdrawAll (x : Channel.Ref) : (cs.foldl (·.withdrawFlush d) n).channel x =
    if x ∈ cs then { n.channel x with
      flushSender := (n.channel x).flushSender.filter (·.slot ≠ d) } else n.channel x := by
  induction cs generalizing n with
  | nil => rfl
  | cons c cs ih =>
    rw [List.foldl_cons, ih, channel_withdrawFlush]
    by_cases hx : x = c
    · subst hx
      rw [if_pos rfl, if_pos List.mem_cons_self]
      split <;> simp [Option.filter_filter]
    · rw [if_neg hx]
      simp [hx]

/-- Withdrawing a registration reaches nothing but channels. -/
theorem withdrawAll_stores : (cs.foldl (·.withdrawFlush d) n).readySets = n.readySets ∧
    (cs.foldl (·.withdrawFlush d) n).strands = n.strands ∧
    (cs.foldl (·.withdrawFlush d) n).slots = n.slots ∧
    (cs.foldl (·.withdrawFlush d) n).coordinators = n.coordinators := by
  have one : ∀ (m : Network τ ε) (c : Channel.Ref), (m.withdrawFlush d c).readySets = m.readySets ∧
      (m.withdrawFlush d c).strands = m.strands ∧ (m.withdrawFlush d c).slots = m.slots ∧
      (m.withdrawFlush d c).coordinators = m.coordinators := by
    intro m c
    unfold withdrawFlush
    split
    · exact ⟨rfl, rfl, rfl, rfl⟩
    · split <;> exact ⟨rfl, rfl, rfl, rfl⟩
  induction cs generalizing n with
  | nil => exact ⟨rfl, rfl, rfl, rfl⟩
  | cons c cs ih =>
    obtain ⟨hr, hs, hd, hk⟩ := ih (n.withdrawFlush d c)
    obtain ⟨hr', hs', hd', hk'⟩ := one n c
    exact ⟨hr.trans hr', hs.trans hs', hd.trans hd', hk.trans hk'⟩

end

/-- Nothing is withdrawn where nobody waits on the slot. -/
theorem filter_flushSender_of_fresh {d : Slot.Ref} {party : Option FlushParty}
    (h : ∀ p, party = some p → p.slot ≠ d) : party.filter (·.slot ≠ d) = party := by
  cases party with
  | none => rfl
  | some p => simpa [Option.filter_some] using h p rfl

/-! ## What the barrier knows -/

/-- `drained` lists, each once, the numbers of the drained channels of `l`. -/
def Known (n : Network τ ε) (l : List Channel.Ref) (drained : List ChannelId) : Prop :=
  drained.Nodup ∧ ∀ id, id ∈ drained ↔ ∃ c ∈ l, (n.channel c).isDrained = true ∧ c.id = id

namespace Known

variable {l : List Channel.Ref} {drained : List ChannelId}

theorem nil : n.Known [] [] := ⟨List.nodup_nil, fun _ => by simp⟩

/-- A channel that is not drained is not known. -/
theorem snoc (h : n.Known l drained) (hd : (n.channel c).isDrained = false) :
    n.Known (l ++ [c]) drained := by
  refine ⟨h.1, fun id => ?_⟩
  rw [h.2]
  constructor
  · rintro ⟨x, hx, hand⟩
    exact ⟨x, List.mem_append_left _ hx, hand⟩
  · rintro ⟨x, hx, hdx, hid⟩
    obtain hx | hx := List.mem_append.1 hx
    · exact ⟨x, hx, hdx, hid⟩
    · rw [List.mem_singleton.1 hx, hd] at hdx
      cases hdx

/-- A drained channel is known from now on. -/
theorem note (h : n.Known l drained) (hd : (n.channel c).isDrained = true) :
    n.Known (l ++ [c]) (if c.id ∈ drained then drained else drained ++ [c.id]) := by
  have hmem : ∀ id, id ∈ drained ∨ id = c.id ↔
      ∃ x ∈ l ++ [c], (n.channel x).isDrained = true ∧ x.id = id := by
    intro id
    rw [h.2]
    constructor
    · rintro (⟨x, hx, hand⟩ | rfl)
      · exact ⟨x, List.mem_append_left _ hx, hand⟩
      · exact ⟨c, by simp, hd, rfl⟩
    · rintro ⟨x, hx, hdx, hid⟩
      obtain hx | hx := List.mem_append.1 hx
      · exact .inl ⟨x, hx, hdx, hid⟩
      · rw [List.mem_singleton.1 hx] at hid
        exact .inr hid.symm
  split
  · rename_i hc
    refine ⟨h.1, fun id => ?_⟩
    rw [← hmem, or_iff_left_of_imp]
    rintro rfl
    exact hc
  · rename_i hc
    refine ⟨?_, fun id => by rw [← hmem, List.mem_append, List.mem_singleton]⟩
    rw [List.nodup_append]
    refine ⟨h.1, by simp, ?_⟩
    intro a ha b hb hab
    rw [List.mem_singleton.1 hb] at hab
    exact hc (hab ▸ ha)

/-- Different channels of `cs` having different numbers, as many numbers are known as `cs` has
channels exactly if all of `cs` are in `l` and drained. -/
theorem length_eq {cs : List Channel.Ref} (h : n.Known l drained) (hsub : l ⊆ cs)
    (hid : ∀ a ∈ cs, ∀ b ∈ cs, a.id = b.id → a = b) :
    drained.length = (cs.map (·.id)).eraseDups.length ↔
      ∀ c ∈ cs, c ∈ l ∧ (n.channel c).isDrained = true := by
  have hdrained : drained ⊆ cs.map (·.id) := by
    intro id hmem
    obtain ⟨x, hx, -, rfl⟩ := (h.2 id).1 hmem
    exact List.mem_map_of_mem (hsub hx)
  rw [length_eq_eraseDups h.1 hdrained]
  constructor
  · intro hall c hc
    obtain ⟨x, hx, hdx, hxc⟩ := (h.2 c.id).1 (hall c.id (List.mem_map_of_mem hc))
    obtain rfl := hid x (hsub hx) c hc hxc
    exact ⟨hx, hdx⟩
  · intro hall id hmem
    obtain ⟨c, hc, rfl⟩ := List.mem_map.1 hmem
    exact (h.2 c.id).2 ⟨c, (hall c hc).1, (hall c hc).2, rfl⟩

end Known

/-! ## On the way -/

/-- How the network `m` looks if a flush of `s` into `d` that began in the network `n` has asked the
channels of `l`, and none of them had a failure. -/
structure Asked (n : Network τ ε) (s : Strand.Ref) (d : Slot.Ref) (expected : Nat)
    (l : List Channel.Ref) (m : Network τ ε) : Prop where
  readySet : ∀ q, m.readySet q = n.readySet q
  strand : ∀ t, m.strand t = if t = s ∧ ∃ c ∈ l, (n.channel c).isDrained = false
    then { n.strand s with phase := .suspended } else n.strand t
  slot : ∀ e, m.slot e = n.slot e
  channel : ∀ c, m.channel c = if c ∈ l ∧ (n.channel c).isDrained = false
    then { n.channel c with
      flushSender := some ⟨⟨s, d⟩, (n.channel c).sendCount, n.coordinators.fresh⟩ }
    else n.channel c
  coordinator : ∀ k, k ≠ n.coordinators.fresh → m.coordinator k = n.coordinator k
  barrier : ∃ drained, m.coordinator n.coordinators.fresh = .barrier ⟨s, d, expected, drained⟩ ∧
    n.Known l drained

/-- The end of a flush with the result `r`: the result is in the slot, and nobody was suspended. -/
structure Ended (n : Network τ ε) (d : Slot.Ref) (r : Resolution ε) (m : Network τ ε) : Prop where
  readySet : ∀ q, m.readySet q = n.readySet q
  strand : ∀ t, m.strand t = n.strand t
  slot : ∀ e, m.slot e = if e = d then .filled r else n.slot e
  coordinator : ∀ k, k ≠ n.coordinators.fresh → m.coordinator k = n.coordinator k

namespace Asked

variable {expected : Nat} {l : List Channel.Ref}

theorem start (n : Network τ ε) (s : Strand.Ref) (d : Slot.Ref) (expected : Nat) :
    n.Asked s d expected [] (n.createBarrier s d expected).1 where
  readySet _ := rfl
  strand _ := (if_neg fun h => nomatch h.2).symm
  slot _ := rfl
  channel _ := (if_neg fun h => nomatch h.1).symm
  coordinator k hk := by rw [createBarrier, coordinator_setCoordinator, if_neg hk]
  barrier := by
    refine ⟨[], ?_, .nil⟩
    rw [createBarrier, coordinator_setCoordinator, if_pos rfl]

theorem emit (h : n.Asked s d expected l m) (e : Event) : n.Asked s d expected l (m.emit e) :=
  ⟨h.readySet, h.strand, h.slot, h.channel, h.coordinator, h.barrier⟩

/-- Asking changes neither the counters nor the pending failures of a channel. -/
theorem isDrained (h : n.Asked s d expected l m) (c : Channel.Ref) :
    (m.channel c).isDrained = (n.channel c).isDrained := by
  rw [h.channel]
  split <;> rfl

theorem pending (h : n.Asked s d expected l m) (c : Channel.Ref) :
    (m.channel c).pending = (n.channel c).pending := by
  rw [h.channel]
  split <;> rfl

/-- The sender is suspended as soon as a channel is not drained, and registered with that one. -/
theorem park (h : n.Asked s d expected l m) (hrun : (n.strand s).phase = .running)
    (hd : (n.channel c).isDrained = false) :
    n.Asked s d expected (l ++ [c]) (m.parkFlushSender c ⟨s, d⟩ n.coordinators.fresh) where
  readySet q := by rw [readySet_parkFlushSender, h.readySet]
  strand t := by
    have hsome : ∃ x ∈ l ++ [c], (n.channel x).isDrained = false := ⟨c, by simp, hd⟩
    have hs := h.strand s
    rw [strand_parkFlushSender]
    by_cases ht : t = s
    · subst ht
      rw [if_pos (c := t = t ∧ ∃ x ∈ l ++ [c], _) ⟨rfl, hsome⟩]
      split at hs
      · rw [if_neg (by simp [hs]), hs]
      · rw [if_pos ⟨rfl, by rw [hs, hrun]⟩, hs]
    · rw [if_neg fun hand => ht hand.1, if_neg fun hand => ht hand.1, h.strand t,
        if_neg fun hand => ht hand.1]
  slot e := by rw [slot_parkFlushSender, h.slot]
  channel x := by
    rw [channel_parkFlushSender]
    by_cases hx : x = c
    · subst hx
      rw [if_pos rfl, if_pos ⟨by simp, hd⟩, h.channel]
      split <;> rfl
    · rw [if_neg hx, h.channel]
      simp [hx]
  coordinator k hk := by rw [coordinator_parkFlushSender, h.coordinator k hk]
  barrier := by
    obtain ⟨drained, hbarrier, hknown⟩ := h.barrier
    exact ⟨drained, by rw [coordinator_parkFlushSender, hbarrier], hknown.snoc hd⟩

/-- A drained channel is noted by the barrier, which waits for others. -/
theorem note (h : n.Asked s d expected l m) (hd : (n.channel c).isDrained = true)
    (hwaits : ∀ drained, n.Known (l ++ [c]) drained → drained.length ≠ expected) :
    n.Asked s d expected (l ++ [c]) (m.notifyDrained n.coordinators.fresh c.id) := by
  obtain ⟨drained, hbarrier, hknown⟩ := h.barrier
  have hnoted := hknown.note hd
  have hundrained : ∀ x, x ∈ l ++ [c] ∧ (n.channel x).isDrained = false ↔
      x ∈ l ∧ (n.channel x).isDrained = false := by
    intro x
    rw [List.mem_append, List.mem_singleton]
    constructor
    · rintro ⟨hx | rfl, hdx⟩
      · exact ⟨hx, hdx⟩
      · rw [hd] at hdx
        cases hdx
    · rintro ⟨hx, hdx⟩
      exact ⟨.inl hx, hdx⟩
  have hwait : c.id ∈ drained ∨ drained.length + 1 ≠ expected := by
    by_cases hc : c.id ∈ drained
    · exact .inl hc
    · rw [if_neg hc] at hnoted
      exact .inr fun hlen => hwaits _ hnoted (by rw [List.length_append]; exact hlen)
  obtain ⟨hr, hs, hsl⟩ := notifyDrained_incomplete hbarrier hwait
  refine ⟨fun q => ?_, fun t => ?_, fun e => ?_, fun x => ?_, fun k hk => ?_, _, ?_, hnoted⟩
  · rw [Network.readySet, hr]; exact h.readySet q
  · rw [Network.strand, hs]
    refine (h.strand t).trans ?_
    congr 1
    simp only [hundrained]
  · rw [Network.slot, hsl]; exact h.slot e
  · rw [channel_notifyDrained, h.channel]
    simp only [hundrained]
  · rw [coordinator_notifyDrained, if_neg hk, h.coordinator k hk]
  · rw [coordinator_notifyDrained, if_pos rfl, hbarrier, Coordinator.note]
    split <;> rfl

/-- The last drained channel completes the barrier. The sender was never suspended, so it is not
woken either. -/
theorem complete (h : n.Asked s d expected l m) (hrun : (n.strand s).phase = .running)
    (ho : (n.slot d).isResolved = false) (hall : ∀ x ∈ l ++ [c], (n.channel x).isDrained = true)
    (hnew : ∀ drained, n.Known l drained → c.id ∉ drained)
    (hlast : ∀ drained, n.Known (l ++ [c]) drained → drained.length = expected) :
    n.Ended d .done (m.notifyDrained n.coordinators.fresh c.id) ∧
      ∀ x, (m.notifyDrained n.coordinators.fresh c.id).channel x = n.channel x := by
  obtain ⟨drained, hbarrier, hknown⟩ := h.barrier
  have hnoted := hknown.note (hall c (by simp))
  rw [if_neg (hnew drained hknown)] at hnoted
  have hlen := hlast _ hnoted
  rw [List.length_append] at hlen
  have hopen : (m.slot d).isResolved = false := by rw [h.slot, ho]
  obtain ⟨e, f, hdone⟩ := notifyDrained_complete hbarrier (hnew drained hknown) hlen hopen
  have hundrained : ∀ x ∈ l, ¬ (n.channel x).isDrained = false := by
    intro x hx
    rw [hall x (List.mem_append_left _ hx)]
    decide
  have hstrand : ∀ t, m.strand t = n.strand t := by
    intro t
    rw [h.strand, if_neg]
    rintro ⟨-, x, hx, hdx⟩
    exact hundrained x hx hdx
  have hawake : ¬ (m.strand s).phase = .suspended := by rw [hstrand, hrun]; decide
  refine ⟨⟨fun q => ?_, fun t => ?_, fun x => ?_, fun k hk => ?_⟩, fun x => ?_⟩
  · rw [hdone, readySet_wake, if_neg fun hand => hawake hand.1]
    exact h.readySet q
  · rw [hdone, strand_wake, if_neg fun hand => hawake hand.2]
    exact hstrand t
  · rw [hdone, slot_wake, slot_emit, slot_setSlot]
    split
    · rfl
    · exact h.slot x
  · rw [coordinator_notifyDrained, if_neg hk, h.coordinator k hk]
  · rw [channel_notifyDrained, h.channel, if_neg fun hand => hundrained x hand.1 hand.2]

/-- A pending failure ends the flush, and all registrations are withdrawn. -/
theorem fail (h : n.Asked s d expected l m) (ho : (n.slot d).isResolved = false)
    (hfresh : ∀ x p, (n.channel x).flushSender = some p → p.slot ≠ d)
    (hnone : ∀ x ∈ l, (n.channel x).pending.take? = none) {f : Failure ε} {pending : Pending ε}
    (hp : (n.channel c).pending.take? = some (f, pending)) {r : Network τ ε}
    (hr : r = (l ++ [c]).foldl (·.withdrawFlush d)
      (m.flush c s d n.coordinators.fresh).1) :
    (∀ q, r.readySet q = n.readySet q) ∧ (∀ t, r.strand t = m.strand t) ∧
      (∀ e, r.slot e = if e = d then .filled (.failed f) else n.slot e) ∧
      (∀ k, k ≠ n.coordinators.fresh → r.coordinator k = n.coordinator k) ∧
      ∀ x, r.channel x = { n.channel x with
        pending := if x = c then pending else (n.channel x).pending
        flushSender := if x ∈ l ∧ (n.channel x).isDrained = false then none
          else (n.channel x).flushSender } := by
  have hpm : (m.channel c).pending.take? = some (f, pending) := by rw [h.pending, hp]
  have hopen : (m.slot d).isResolved = false := by rw [h.slot, ho]
  obtain ⟨e, hflush⟩ := flush_pending s d n.coordinators.fresh hpm
  rw [offer_open (n := (m.updateChannel c _).emit e) _ hopen] at hflush
  obtain ⟨hrs, hss, hds, hks⟩ :=
    withdrawAll_stores (m.flush c s d n.coordinators.fresh).1 d (l ++ [c])
  rw [← hr, hflush] at hrs hss hds hks
  refine ⟨fun q => ?_, fun t => ?_, fun x => ?_, fun k hk => ?_, fun x => ?_⟩
  · rw [Network.readySet, hrs]; exact h.readySet q
  · rw [Network.strand, hss]; rfl
  · rw [Network.slot, hds]
    refine (slot_setSlot _ d _ x).trans ?_
    split
    · rfl
    · exact h.slot x
  · rw [Network.coordinator, hks]; exact h.coordinator k hk
  · rw [hr, channel_withdrawAll, hflush, channel_setSlot, channel_emit, channel_updateChannel]
    by_cases hx : x ∈ l ∧ (n.channel x).isDrained = false
    · -- The sender was registered here by this flush.
      have hxc : x ≠ c := by
        rintro rfl
        rw [hnone x hx.1] at hp
        cases hp
      rw [if_pos (List.mem_append_left _ hx.1), if_neg hxc, if_neg hxc, if_pos hx, h.channel,
        if_pos hx]
      simp
    · have hkept := filter_flushSender_of_fresh (hfresh x)
      have hmx : m.channel x = n.channel x := by rw [h.channel, if_neg hx]
      rw [if_neg hx]
      by_cases hxc : x = c
      · subst hxc
        rw [if_pos (by simp), if_pos rfl, if_pos rfl, hmx, hkept]
      · rw [if_neg hxc, if_neg hxc, hmx, hkept]
        split <;> rfl

end Asked

/-! ## The end -/

/-- How a flush of the channels `cs` that began in `n` ends: the network, and the answer. -/
inductive Answered (n : Network τ ε) (s : Strand.Ref) (d : Slot.Ref) (cs : List Channel.Ref) :
    Network τ ε × Bool → Prop where
  /-- The first failure that is pending is in the slot. Registrations that this flush took the place
  of are gone, and its own too. -/
  | failed {asked rest : List Channel.Ref} {c : Channel.Ref} {f : Failure ε} {pending : Pending ε}
      {m : Network τ ε} (hcs : cs = asked ++ c :: rest)
      (hnone : ∀ x ∈ asked, (n.channel x).pending.take? = none)
      (hp : (n.channel c).pending.take? = some (f, pending)) (hended : n.Ended d (.failed f) m)
      (hchannel : ∀ x, m.channel x = { n.channel x with
        pending := if x = c then pending else (n.channel x).pending
        flushSender := if x ∈ asked ∧ (n.channel x).isDrained = false then none
          else (n.channel x).flushSender }) : Answered n s d cs (m, true)
  /-- All channels are drained. -/
  | drained {m : Network τ ε}
      (hall : ∀ c ∈ cs, (n.channel c).pending.take? = none ∧ (n.channel c).isDrained = true)
      (hended : n.Ended d .done m) (hchannel : ∀ x, m.channel x = n.channel x) :
      Answered n s d cs (m, true)
  /-- The sender waits. -/
  | parked {m : Network τ ε} (hnone : ∀ c ∈ cs, (n.channel c).pending.take? = none)
      (hsome : ∃ c ∈ cs, (n.channel c).isDrained = false)
      (hasked : n.Asked s d (cs.map (·.id)).eraseDups.length cs m) : Answered n s d cs (m, false)

/-- A pending failure ends the flush. A sender that this flush has suspended goes on at once. -/
theorem Asked.answered_failed {expected : Nat} {cs asked rest : List Channel.Ref}
    (h : n.Asked s d expected asked m) (hrun : (n.strand s).phase = .running)
    (ho : (n.slot d).isResolved = false)
    (hfresh : ∀ x p, (n.channel x).flushSender = some p → p.slot ≠ d)
    (hcs : cs = asked ++ c :: rest) (hnone : ∀ x ∈ asked, (n.channel x).pending.take? = none)
    {f : Failure ε} {pending : Pending ε} (hp : (n.channel c).pending.take? = some (f, pending))
    {l : Network τ ε} (hl : l = (asked ++ [c]).foldl (·.withdrawFlush d)
      (m.flush c s d n.coordinators.fresh).1) {parked : Bool}
    (hparked : parked = true ↔ ∃ x ∈ asked, (n.channel x).isDrained = false) :
    n.Answered s d cs
      (if parked = true then (l.markRunning s, l.isSuspended s) else (l, true)) := by
  obtain ⟨hr, hs, hsl, hk, hc⟩ := h.fail ho hfresh hnone hp hl
  cases parked with
  | false =>
    rw [if_neg Bool.false_ne_true]
    refine .failed hcs hnone hp ⟨hr, fun t => ?_, hsl, hk⟩ hc
    rw [hs, h.strand, if_neg fun hand => Bool.false_ne_true (hparked.2 hand.2)]
  | true =>
    have hsus : l.strand s = { n.strand s with phase := .suspended } := by
      rw [hs, h.strand, if_pos ⟨rfl, hparked.1 rfl⟩]
    have hphase : (l.strand s).phase = .suspended := by rw [hsus]
    have hback : l.isSuspended s = true := by rw [isSuspended, hphase]; rfl
    rw [if_pos rfl, hback]
    refine .failed hcs hnone hp ⟨fun q => ?_, fun t => ?_, fun e => ?_, fun k hne => ?_⟩
      fun x => ?_
    · rw [readySet_markRunning, hr]
    · rw [strand_markRunning]
      by_cases ht : t = s
      · subst ht
        rw [if_pos ⟨rfl, hphase⟩, hsus]
        cases hn : n.strand t with | mk name home phase =>
        rw [hn] at hrun
        rw [← hrun]
      · rw [if_neg fun hand => ht hand.1, hs, h.strand, if_neg fun hand => ht hand.1]
    · rw [slot_markRunning, hsl]
    · rw [coordinator_markRunning, hk k hne]
    · rw [channel_markRunning, hc]

/-- A barrier that is complete ends the flush. There is nothing to withdraw. -/
theorem Ended.answered_drained {cs asked : List Channel.Ref} (h : n.Ended d .done m)
    (hchannel : ∀ x, m.channel x = n.channel x)
    (hfresh : ∀ x p, (n.channel x).flushSender = some p → p.slot ≠ d)
    (hall : ∀ c ∈ cs, (n.channel c).pending.take? = none ∧ (n.channel c).isDrained = true)
    {l : Network τ ε} (hl : l = asked.foldl (·.withdrawFlush d) m) :
    n.Answered s d cs (l, true) := by
  obtain ⟨hr, hs, hsl, hk⟩ := withdrawAll_stores m d asked
  rw [← hl] at hr hs hsl hk
  refine .drained hall ⟨fun q => ?_, fun t => ?_, fun x => ?_, fun k hne => ?_⟩ fun x => ?_
  · rw [Network.readySet, hr]; exact h.readySet q
  · rw [Network.strand, hs]; exact h.strand t
  · rw [Network.slot, hsl]; exact h.slot x
  · rw [Network.coordinator, hk]; exact h.coordinator k hne
  · rw [hl, channel_withdrawAll, hchannel, filter_flushSender_of_fresh (hfresh x)]
    split <;> rfl

/-- The flush goes on from the channels asked so far to the end. -/
theorem answered_flushEach {cs asked rest : List Channel.Ref} {parked : Bool}
    (h : n.Asked s d (cs.map (·.id)).eraseDups.length asked m)
    (hrun : (n.strand s).phase = .running) (ho : (n.slot d).isResolved = false)
    (hfresh : ∀ x p, (n.channel x).flushSender = some p → p.slot ≠ d)
    (hid : ∀ a ∈ cs, ∀ b ∈ cs, a.id = b.id → a = b) (hcs : cs = asked ++ rest)
    (hnone : ∀ x ∈ asked, (n.channel x).pending.take? = none)
    (hparked : parked = true ↔ ∃ x ∈ asked, (n.channel x).isDrained = false)
    (hwaits : ¬ ∀ x ∈ cs, x ∈ asked ∧ (n.channel x).isDrained = true) :
    n.Answered s d cs (m.flushEach s d n.coordinators.fresh asked rest parked) := by
  induction rest generalizing m asked parked with
  | nil =>
    rw [List.append_nil] at hcs
    subst hcs
    refine .parked hnone ?_ h
    simp only [Classical.not_forall, not_and, Bool.not_eq_true] at hwaits
    obtain ⟨x, hx, hdx⟩ := hwaits
    exact ⟨x, hx, hdx hx⟩
  | cons c rest ih =>
    have hsub : asked ++ [c] ⊆ cs := by simp [hcs]
    have hcs' : cs = asked ++ [c] ++ rest := by simp [hcs]
    rw [flushEach]
    cases hp : (n.channel c).pending.take? with
    | some taken =>
      obtain ⟨f, pending⟩ := taken
      have hpm : (m.channel c).pending.take? = some (f, pending) := by rw [h.pending, hp]
      have hopen : (m.slot d).isResolved = false := by rw [h.slot, ho]
      obtain ⟨e, hflush⟩ := flush_pending s d n.coordinators.fresh hpm
      have hended : (m.flush c s d n.coordinators.fresh).2 = true := by rw [hflush]
      have hfilled : ((m.flush c s d n.coordinators.fresh).1.slot d).isResolved = true := by
        rw [hflush, offer_open (n := (m.updateChannel c _).emit e) _ hopen, slot_setSlot,
          if_pos rfl]
        rfl
      dsimp only
      rw [if_pos hfilled, hended, Bool.not_true, Bool.or_false]
      exact h.answered_failed hrun ho hfresh hcs hnone hp rfl hparked
    | none =>
      have hpm : (m.channel c).pending.take? = none := by rw [h.pending, hp]
      have hnone' : ∀ x ∈ asked ++ [c], (n.channel x).pending.take? = none := by
        intro x hx
        obtain hx | hx := List.mem_append.1 hx
        · exact hnone x hx
        · rw [List.mem_singleton.1 hx, hp]
      cases hd : (n.channel c).isDrained with
      | false =>
        have hdm : (m.channel c).isDrained = false := by rw [h.isDrained, hd]
        have hasked := h.park hrun hd
        have hopen : ¬ ((m.parkFlushSender c ⟨s, d⟩ n.coordinators.fresh).slot d).isResolved =
            true := by
          rw [hasked.slot, ho]
          decide
        rw [flush_undrained s d n.coordinators.fresh hpm hdm]
        dsimp only
        rw [if_neg hopen]
        refine ih hasked hcs' hnone' ?_ fun hall => ?_
        · simp [hd]
        · have := (hall c (hsub (by simp))).2
          rw [hd] at this
          cases this
      | true =>
        have hdm : (m.channel c).isDrained = true := by rw [h.isDrained, hd]
        obtain ⟨e, hflush⟩ := flush_drained s d n.coordinators.fresh hpm hdm
        rw [hflush]
        dsimp only
        by_cases hall : ∀ x ∈ cs, x ∈ asked ++ [c] ∧ (n.channel x).isDrained = true
        · have hnew : ∀ drained, n.Known asked drained → c.id ∉ drained := by
            intro drained hknown hmem
            obtain ⟨x, hx, -, hxc⟩ := (hknown.2 c.id).1 hmem
            obtain rfl := hid x (hsub (List.mem_append_left _ hx)) c (hsub (by simp)) hxc
            refine hwaits fun y hy => ⟨?_, (hall y hy).2⟩
            obtain hy' | hy' := List.mem_append.1 (hall y hy).1
            · exact hy'
            · exact List.mem_singleton.1 hy' ▸ hx
          have hdrained : ∀ x ∈ asked ++ [c], (n.channel x).isDrained = true :=
            fun x hx => (hall x (hsub hx)).2
          obtain ⟨hended, hchannel⟩ := (h.emit e).complete hrun ho hdrained hnew
            fun drained hknown => (hknown.length_eq hsub hid).2 hall
          have hfilled : (((m.emit e).notifyDrained n.coordinators.fresh c.id).slot d).isResolved =
              true := by
            rw [hended.slot, if_pos rfl]
            rfl
          have hrunning : parked = false := by
            cases parked with
            | false => rfl
            | true =>
              obtain ⟨x, hx, hdx⟩ := hparked.1 rfl
              rw [hdrained x (List.mem_append_left _ hx)] at hdx
              cases hdx
          rw [if_pos hfilled, hrunning, Bool.not_true, Bool.or_false, if_neg Bool.false_ne_true]
          have hdone : ∀ x ∈ cs, (n.channel x).pending.take? = none ∧
              (n.channel x).isDrained = true :=
            fun x hx => ⟨hnone' x (hall x hx).1, (hall x hx).2⟩
          exact hended.answered_drained hchannel hfresh hdone rfl
        · have hasked := (h.emit e).note hd fun drained hknown hlen =>
            hall ((hknown.length_eq hsub hid).1 hlen)
          have hopen : ¬ (((m.emit e).notifyDrained n.coordinators.fresh c.id).slot d).isResolved =
              true := by
            rw [hasked.slot, ho]
            decide
          rw [if_neg hopen]
          refine ih hasked hcs' hnone' ?_ hall
          simpa [hd] using hparked

/-- How a flush of several channels ends that is made by a running strand and given a fresh slot. -/
theorem flushAll_cases (n : Network τ ε) (cs : List Channel.Ref) {s : Strand.Ref} {d : Slot.Ref}
    (hrun : (n.strand s).phase = .running) (ho : (n.slot d).isResolved = false)
    (hfresh : ∀ x p, (n.channel x).flushSender = some p → p.slot ≠ d)
    (hid : ∀ a ∈ cs, ∀ b ∈ cs, a.id = b.id → a = b) : n.Answered s d cs (n.flushAll cs s d) := by
  unfold flushAll
  dsimp only
  cases cs with
  | nil =>
    have hzero : (([] : List Channel.Ref).map (·.id)).eraseDups.length = 0 := rfl
    rw [if_pos hzero, offer_open _ ho]
    exact .drained (fun c hc => nomatch hc)
      ⟨fun _ => rfl, fun _ => rfl, fun e => slot_setSlot n d _ e, fun _ _ => rfl⟩ fun _ => rfl
  | cons c cs =>
    have hmem : c.id ∈ ((c :: cs).map (·.id)).eraseDups := List.mem_eraseDups.2 (by simp)
    rw [if_neg (Nat.ne_of_gt (List.length_pos_of_mem hmem))]
    refine answered_flushEach (.start n s d _) hrun ho hfresh hid rfl (fun x hx => nomatch hx) ?_
      fun hall => nomatch (hall c List.mem_cons_self).1
    exact ⟨fun h => Bool.noConfusion h, fun ⟨_, hx, _⟩ => nomatch hx⟩

end Network

end Rendezvous
