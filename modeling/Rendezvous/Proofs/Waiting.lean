import Mathlib.Logic.Function.Basic
import Rendezvous.Proofs.FlushAll

/-!
# Who waits for what

Under the rules of use a suspended strand waits for one thing, and is registered for it and for
nothing else.

* **Waits** (`Wait`): a strand waits to receive from a channel, or for its value to be received, or
  for its flush to end. `Network.Waits` says so in terms of what is registered where.
* **The books** (`Network.Waiting`): a function `w` from strands to waits, and the registrations of
  the channels are exactly those of `w`. A flush registration whose slot is resolved is left over
  from a flush that has ended, and does not count.
* **The barriers** (`Network.Guarded`): whoever is registered to flush is released by the barrier of
  that flush, which counts the channels that it has heard of and still waits for those where the
  sender is registered.
* **Transitions**: a strand waits for something new (`Waiting.park`), or nothing any more
  (`Waiting.release`), or as before (`Waiting.settle`).
-/

namespace Rendezvous

variable {τ ε : Type}

/-- Who sends and who receives on each channel. -/
structure Roles where
  sender : Channel.Ref → Strand.Ref
  receiver : Channel.Ref → Strand.Ref

/-- What a suspended strand waits for. -/
inductive Wait where
  /-- For something to receive. -/
  | receive (c : Channel.Ref)
  /-- For its value to be received, with the result in a slot. -/
  | sync (c : Channel.Ref) (d : Slot.Ref)
  /-- For its flush to end, with the result in a slot. -/
  | flush (d : Slot.Ref)
  deriving DecidableEq

/-- The slot through which the wait ends. -/
def Wait.slot? : Wait → Option Slot.Ref
  | receive _ => none
  | sync _ d => some d
  | flush d => some d

/-- Whether a strand may wait like that in its roles. -/
def Roles.Plays (R : Roles) (s : Strand.Ref) : Wait → Prop
  | .receive c => R.receiver c = s
  | .sync c _ => R.sender c = s
  | .flush _ => True

namespace Network

/-- A strand is registered for a wait. A flush registration counts as long as its slot is
unresolved. -/
def Waits (n : Network τ ε) (s : Strand.Ref) : Wait → Prop
  | .receive c => (n.channel c).receiver = some s
  | .sync c d => (n.channel c).syncSender = some ⟨s, d⟩
  | .flush d => (n.slot d).isResolved = false ∧
      ∃ c p, (n.channel c).flushSender = some p ∧ p.strand = s ∧ p.slot = d

/-- A slot that may be passed to an operation: nothing was delivered to it, and it is registered
nowhere. -/
def Fresh (n : Network τ ε) (d : Slot.Ref) : Prop :=
  (n.slot d).isResolved = false ∧
    ∀ c, (∀ p, (n.channel c).syncSender = some p → p.slot ≠ d) ∧
      ∀ p, (n.channel c).flushSender = some p → p.slot ≠ d

/-- Nobody is registered with a channel that was never created. -/
theorem fresh_iff {n : Network τ ε} {d : Slot.Ref} :
    n.Fresh d ↔ (n.slot d).isResolved = false ∧ ∀ channel ∈ n.channels.items,
      channel.syncSender.map (·.slot) ≠ some d ∧ channel.flushSender.map (·.slot) ≠ some d := by
  have hmap : ∀ {α : Type} (o : Option α) (f : α → Slot.Ref),
      o.map f ≠ some d ↔ ∀ p, o = some p → f p ≠ d := by
    intro α o f
    cases o <;> simp
  simp only [Fresh, ← hmap]
  refine and_congr_right fun _ => ?_
  rw [n.channels.forall_get (P := fun channel => channel.syncSender.map (·.slot) ≠ some d ∧
    channel.flushSender.map (·.slot) ≠ some d)]
  exact and_iff_right ⟨nofun, nofun⟩

instance (n : Network τ ε) (d : Slot.Ref) : Decidable (n.Fresh d) :=
  decidable_of_iff _ fresh_iff.symm

/-! ## The books -/

/-- Each suspended strand waits as `w` says, no other strand waits, and the registrations are those
of `w`. -/
structure Waiting (R : Roles) (n : Network τ ε) (w : Strand.Ref → Option Wait) : Prop where
  suspended : ∀ s, (n.strand s).phase = .suspended ↔ ∃ v, w s = some v
  receiver : ∀ c s, (n.channel c).receiver = some s ↔ w s = some (.receive c)
  syncSender : ∀ c p, (n.channel c).syncSender = some p ↔ w p.strand = some (.sync c p.slot)
  flushing : ∀ c p, (n.channel c).flushSender = some p → (n.slot p.slot).isResolved = false →
    w p.strand = some (.flush p.slot)
  registered : ∀ s d, w s = some (.flush d) →
    ∃ c p, (n.channel c).flushSender = some p ∧ p.strand = s ∧ p.slot = d
  unresolved : ∀ s v d, w s = some v → v.slot? = some d → (n.slot d).isResolved = false
  owner : ∀ s t v u d, w s = some v → w t = some u → v.slot? = some d → u.slot? = some d → s = t
  roles : ∀ s v, w s = some v → R.Plays s v

/-- The barrier `k` counts the channels that it has heard of, and waits for those where somebody is
registered with it. -/
def Counts (n : Network τ ε) (k : Coordinator.Ref) (b : Barrier) : Prop :=
  ∃ left : List Channel.Ref,
    (∀ c, c ∈ left ↔ ∃ p, (n.channel c).flushSender = some p ∧ p.coordinator = k) ∧
    (b.drained ++ left.map (·.id)).Nodup ∧ b.drained.length + left.length = b.expected

/-- Whoever is registered to flush a channel is its sender, and is released by a barrier that counts
as long as it has not done so. -/
structure Guarded (R : Roles) (n : Network τ ε) : Prop where
  sender : ∀ c p, (n.channel c).flushSender = some p → R.sender c = p.strand
  barrier : ∀ c p, (n.channel c).flushSender = some p →
    ∃ b, n.coordinator p.coordinator = .barrier b ∧ b.strand = p.strand ∧ b.slot = p.slot ∧
      ((n.slot p.slot).isResolved = false → n.Counts p.coordinator b)

/-- `m` comes from `n` by removing flush registrations that do not count any more, and barriers that
wait for the others stay as they are. -/
structure Settles (n m : Network τ ε) : Prop where
  flush : ∀ c p, (m.channel c).flushSender = some p → (n.channel c).flushSender = some p
  kept : ∀ c p, (n.channel c).flushSender = some p → (m.slot p.slot).isResolved = false →
    (m.channel c).flushSender = some p
  resolved : ∀ d, (n.slot d).isResolved = true → (m.slot d).isResolved = true
  barrier : ∀ c p b, (m.channel c).flushSender = some p → n.coordinator p.coordinator = .barrier b →
    ∃ b', m.coordinator p.coordinator = .barrier b' ∧ b'.strand = b.strand ∧ b'.slot = b.slot ∧
      ((m.slot b.slot).isResolved = false → b' = b)

variable {R : Roles} {n m : Network τ ε} {w : Strand.Ref → Option Wait}

theorem Settles.unresolved (h : Settles n m) {d : Slot.Ref} (hd : (m.slot d).isResolved = false) :
    (n.slot d).isResolved = false := by
  cases hn : (n.slot d).isResolved with
  | false => rfl
  | true => rw [h.resolved d hn] at hd; cases hd

theorem Guarded.settle (h : Guarded R n) (hm : Settles n m) : Guarded R m where
  sender c p hp := h.sender c p (hm.flush c p hp)
  barrier c p hp := by
    obtain ⟨b, hb, hstrand, hslot, hcounts⟩ := h.barrier c p (hm.flush c p hp)
    obtain ⟨b', hb', hstrand', hslot', hsame⟩ := hm.barrier c p b hp hb
    refine ⟨b', hb', hstrand'.trans hstrand, hslot'.trans hslot, fun ho => ?_⟩
    obtain ⟨left, hleft, hnodup, hlen⟩ := hcounts (hm.unresolved ho)
    rw [hsame (hslot ▸ ho)]
    refine ⟨left, fun x => ?_, hnodup, hlen⟩
    rw [hleft]
    constructor
    · rintro ⟨q, hq, hk⟩
      -- All registrations with one barrier are for one slot.
      obtain ⟨b₁, hb₁, -, hslot₁, -⟩ := h.barrier x q hq
      rw [hk, hb] at hb₁
      cases hb₁
      exact ⟨q, hm.kept x q hq (by rw [← hslot₁, hslot]; exact ho), hk⟩
    · rintro ⟨q, hq, hk⟩
      exact ⟨q, hm.flush x q hq, hk⟩

/-! ## Counting -/

theorem nodup_of_map_id {l : List Channel.Ref} (h : (l.map (·.id)).Nodup) : l.Nodup :=
  (List.pairwise_map.1 h).imp fun hne heq => hne (congrArg Channel.Ref.id heq)

namespace Counts

variable {k : Coordinator.Ref} {b : Barrier} {c : Channel.Ref} {p : FlushParty}

/-- The channels that a barrier still waits for are different, and it has not heard of them. -/
theorem notMem (h : n.Counts k b) (hp : (n.channel c).flushSender = some p)
    (hk : p.coordinator = k) : c.id ∉ b.drained := by
  obtain ⟨left, hleft, hnodup, -⟩ := h
  have hc : c.id ∈ left.map (·.id) := List.mem_map_of_mem ((hleft c).2 ⟨p, hp, hk⟩)
  exact fun hmem => (List.nodup_append.1 hnodup).2.2 _ hmem _ hc rfl

/-- As long as one more channel is not enough, the sender is registered with another. -/
theorem another (h : n.Counts k b) (hp : (n.channel c).flushSender = some p)
    (hk : p.coordinator = k) (hlen : b.drained.length + 1 ≠ b.expected) :
    ∃ x q, x ≠ c ∧ (n.channel x).flushSender = some q ∧ q.coordinator = k := by
  obtain ⟨left, hleft, hnodup, hcount⟩ := h
  have hc : c ∈ left := (hleft c).2 ⟨p, hp, hk⟩
  have hnodup' := nodup_of_map_id (List.nodup_append.1 hnodup).2.1
  have hlong : 0 < (left.erase c).length := by
    have := List.length_pos_of_mem hc
    rw [List.length_erase_of_mem hc]
    omega
  obtain ⟨x, hx⟩ := List.exists_mem_of_length_pos hlong
  obtain ⟨hxc, hxl⟩ := (hnodup'.mem_erase_iff).1 hx
  obtain ⟨q, hq, hqk⟩ := (hleft x).1 hxl
  exact ⟨x, q, hxc, hq, hqk⟩

/-- A barrier that notes a channel does not wait for it any more. -/
theorem note (h : n.Counts k b) (hp : (n.channel c).flushSender = some p)
    (hk : p.coordinator = k)
    (hf : ∀ x, (m.channel x).flushSender = if x = c then none else (n.channel x).flushSender) :
    m.Counts k (b.note c.id) := by
  obtain ⟨left, hleft, hnodup, hcount⟩ := h
  have hc : c ∈ left := (hleft c).2 ⟨p, hp, hk⟩
  have hnodup' := nodup_of_map_id (List.nodup_append.1 hnodup).2.1
  refine ⟨left.erase c, fun x => ?_, ?_, ?_⟩
  · rw [hnodup'.mem_erase_iff, hleft, hf]
    by_cases hx : x = c
    · simp [hx]
    · simp [hx]
  · have hperm : (b.drained ++ left.map (·.id)).Perm
        (b.drained ++ [c.id] ++ (left.erase c).map (·.id)) := by
      rw [List.append_assoc]
      exact ((List.perm_cons_erase hc).map (·.id)).append_left _
    exact hperm.nodup_iff.1 hnodup
  · have := List.length_pos_of_mem hc
    simp only [Barrier.note, List.length_append, List.length_singleton,
      List.length_erase_of_mem hc]
    omega

/-- A barrier does not notice channels that are registered with another one. -/
theorem other (h : n.Counts k b) (hp : (n.channel c).flushSender = some p)
    (hk : p.coordinator ≠ k)
    (hf : ∀ x, (m.channel x).flushSender = if x = c then none else (n.channel x).flushSender) :
    m.Counts k b := by
  obtain ⟨left, hleft, hnodup, hcount⟩ := h
  refine ⟨left, fun x => ?_, hnodup, hcount⟩
  rw [hleft, hf]
  by_cases hx : x = c
  · subst hx
    simp [hp, hk]
  · simp [hx]

end Counts

namespace Waiting

/-- A strand waits for what it is registered for. -/
theorem waits_iff (h : Waiting R n w) (s : Strand.Ref) (v : Wait) : n.Waits s v ↔ w s = some v := by
  cases v with
  | receive c => exact h.receiver c s
  | sync c d => exact h.syncSender c ⟨s, d⟩
  | flush d =>
    constructor
    · rintro ⟨ho, c, p, hp, rfl, rfl⟩
      exact h.flushing c p hp ho
    · intro hw
      exact ⟨h.unresolved s _ d hw rfl, h.registered s d hw⟩

/-- Nobody waits through a slot that is not registered anywhere. -/
theorem slot_ne_of_fresh (h : Waiting R n w) {d : Slot.Ref} (hd : n.Fresh d) (s : Strand.Ref)
    (v : Wait) (hw : w s = some v) : v.slot? ≠ some d := by
  cases v with
  | receive c => nofun
  | sync c e =>
    have hne := (hd.2 c).1 ⟨s, e⟩ ((h.syncSender c ⟨s, e⟩).2 hw)
    exact fun heq => hne (Option.some.inj heq)
  | flush e =>
    obtain ⟨c, p, hp, -, rfl⟩ := h.registered s e hw
    have hne := (hd.2 c).2 p hp
    exact fun heq => hne (Option.some.inj heq)

/-- A strand that waits for something else does not receive. -/
theorem receiver_ne (h : Waiting R n w) {s : Strand.Ref} {v : Wait} (hw : w s = some v)
    {c : Channel.Ref} (hv : v ≠ .receive c) {t : Strand.Ref}
    (ht : (n.channel c).receiver = some t) : t ≠ s := by
  rintro rfl
  rw [(h.receiver c t).1 ht] at hw
  exact hv (Option.some.inj hw).symm

/-- A strand that waits for something else has not sent a value for which it waits. -/
theorem syncSender_ne (h : Waiting R n w) {s : Strand.Ref} {v : Wait} (hw : w s = some v)
    {c : Channel.Ref} (hv : ∀ d, v ≠ .sync c d) {p : Party}
    (hp : (n.channel c).syncSender = some p) : p.strand ≠ s := by
  rintro rfl
  rw [(h.syncSender c p).1 hp] at hw
  exact hv _ (Option.some.inj hw).symm

/-- A strand that runs waits for nothing. -/
theorem none_of_running (h : Waiting R n w) {s : Strand.Ref} (hs : (n.strand s).phase = .running) :
    w s = none := by
  cases hw : w s with
  | none => rfl
  | some v => rw [(h.suspended s).2 ⟨v, hw⟩] at hs; cases hs

/-! ## Transitions -/

/-- Nobody starts or stops to wait, but some flush registrations that do not count any more may
go. -/
theorem settle (h : Waiting R n w) (hm : Settles n m)
    (hs : ∀ s, (m.strand s).phase = .suspended ↔ (n.strand s).phase = .suspended)
    (hr : ∀ c, (m.channel c).receiver = (n.channel c).receiver)
    (hy : ∀ c, (m.channel c).syncSender = (n.channel c).syncSender)
    (ho : ∀ s v d, w s = some v → v.slot? = some d → (m.slot d).isResolved = false) :
    Waiting R m w where
  suspended s := by rw [hs, h.suspended]
  receiver c s := by rw [hr, h.receiver]
  syncSender c p := by rw [hy, h.syncSender]
  flushing c p hp hd := h.flushing c p (hm.flush c p hp) (hm.unresolved hd)
  registered s d hw := by
    obtain ⟨c, p, hp, rfl, rfl⟩ := h.registered s d hw
    exact ⟨c, p, hm.kept c p hp (ho _ _ _ hw rfl), rfl, rfl⟩
  unresolved := ho
  owner := h.owner
  roles := h.roles

/-- A strand stops to wait, and its slot is resolved if it waited through one. -/
theorem release (h : Waiting R n w) (hm : Settles n m) {s : Strand.Ref} {v : Wait}
    (hw : w s = some v)
    (hs : ∀ t, (m.strand t).phase = if t = s then .ready else (n.strand t).phase)
    (hr : ∀ c t, (m.channel c).receiver = some t ↔ (n.channel c).receiver = some t ∧ t ≠ s)
    (hy : ∀ c p, (m.channel c).syncSender = some p ↔
      (n.channel c).syncSender = some p ∧ p.strand ≠ s)
    (ho : ∀ d, (m.slot d).isResolved = true ↔ (n.slot d).isResolved = true ∨ v.slot? = some d) :
    Waiting R m (Function.update w s none) := by
  have hw' : ∀ t u, Function.update w s none t = some u ↔ w t = some u ∧ t ≠ s := by
    intro t u
    by_cases ht : t = s
    · subst ht
      simp
    · simp [ht]
  have hopen : ∀ t u d, w t = some u → t ≠ s → u.slot? = some d →
      (m.slot d).isResolved = false := by
    intro t u d ht hts hd
    rw [Bool.eq_false_iff, ne_eq, ho, h.unresolved t u d ht hd]
    rintro (hres | hvd)
    · cases hres
    · exact hts (h.owner t s u v d ht hw hd hvd)
  constructor
  case suspended =>
    intro t
    rw [hs]
    simp only [hw']
    by_cases ht : t = s
    · simp [ht]
    · simp [ht, h.suspended]
  case receiver => intro c t; rw [hr, hw', h.receiver]
  case syncSender => intro c p; rw [hy, hw', h.syncSender]
  case flushing =>
    intro c p hp hd
    have hwp := h.flushing c p (hm.flush c p hp) (hm.unresolved hd)
    refine (hw' _ _).2 ⟨hwp, ?_⟩
    rintro rfl
    rw [hw] at hwp
    cases hwp
    rw [(ho p.slot).2 (.inr rfl)] at hd
    cases hd
  case registered =>
    intro t d ht
    obtain ⟨ht, hts⟩ := (hw' _ _).1 ht
    obtain ⟨c, p, hp, rfl, rfl⟩ := h.registered t d ht
    exact ⟨c, p, hm.kept c p hp (hopen _ _ _ ht hts rfl), rfl, rfl⟩
  case unresolved =>
    intro t u d ht hd
    obtain ⟨ht, hts⟩ := (hw' _ _).1 ht
    exact hopen t u d ht hts hd
  case owner =>
    intro t t' u u' d ht ht'
    exact h.owner t t' u u' d ((hw' _ _).1 ht).1 ((hw' _ _).1 ht').1
  case roles => intro t u ht; exact h.roles t u ((hw' _ _).1 ht).1

/-- A strand that runs starts to wait, through a fresh slot if it waits through one. -/
theorem park (h : Waiting R n w) {s : Strand.Ref} {v : Wait} (hw : w s = none)
    (hv : R.Plays s v)
    (hs : ∀ t, (m.strand t).phase = if t = s then .suspended else (n.strand t).phase)
    (hr : ∀ c t, (m.channel c).receiver = some t ↔
      (n.channel c).receiver = some t ∨ t = s ∧ v = .receive c)
    (hy : ∀ c p, (m.channel c).syncSender = some p ↔
      (n.channel c).syncSender = some p ∨ p.strand = s ∧ v = .sync c p.slot)
    (hf : ∀ c p, (m.channel c).flushSender = some p → (m.slot p.slot).isResolved = false →
      (n.channel c).flushSender = some p ∨ p.strand = s ∧ v = .flush p.slot)
    (hk : ∀ c p, (n.channel c).flushSender = some p → (n.slot p.slot).isResolved = false →
      (m.channel c).flushSender = some p)
    (hg : ∀ d, v = .flush d →
      ∃ c p, (m.channel c).flushSender = some p ∧ p.strand = s ∧ p.slot = d)
    (ho : ∀ d, (m.slot d).isResolved = (n.slot d).isResolved)
    (hfresh : ∀ d, v.slot? = some d →
      (n.slot d).isResolved = false ∧ ∀ t u, w t = some u → u.slot? ≠ some d) :
    Waiting R m (Function.update w s (some v)) := by
  have hw' : ∀ t u, Function.update w s (some v) t = some u ↔ w t = some u ∨ t = s ∧ v = u := by
    intro t u
    by_cases ht : t = s
    · subst ht
      simp [hw]
    · simp [ht]
  constructor
  case suspended =>
    intro t
    rw [hs]
    simp only [hw']
    by_cases ht : t = s
    · simp [ht]
    · simp [ht, h.suspended]
  case receiver => intro c t; rw [hr, hw', h.receiver]
  case syncSender => intro c p; rw [hy, hw', h.syncSender]
  case flushing =>
    intro c p hp hd
    obtain hp | hp := hf c p hp hd
    · exact (hw' _ _).2 (.inl (h.flushing c p hp (ho p.slot ▸ hd)))
    · exact (hw' _ _).2 (.inr hp)
  case registered =>
    intro t d ht
    obtain ht | ⟨rfl, rfl⟩ := (hw' _ _).1 ht
    · obtain ⟨c, p, hp, rfl, rfl⟩ := h.registered t d ht
      exact ⟨c, p, hk c p hp (h.unresolved _ _ _ ht rfl), rfl, rfl⟩
    · exact hg d rfl
  case unresolved =>
    intro t u d ht hd
    rw [ho]
    obtain ht | ⟨rfl, rfl⟩ := (hw' _ _).1 ht
    · exact h.unresolved t u d ht hd
    · exact (hfresh d hd).1
  case owner =>
    intro t t' u u' d ht ht' hd hd'
    obtain hwt | ⟨rfl, rfl⟩ := (hw' _ _).1 ht <;> obtain hwt' | ⟨rfl, rfl⟩ := (hw' _ _).1 ht'
    · exact h.owner t t' u u' d hwt hwt' hd hd'
    · exact absurd hd ((hfresh d hd').2 t u hwt)
    · exact absurd hd' ((hfresh d hd).2 t' u' hwt')
    · rfl
  case roles =>
    intro t u ht
    obtain ht | ⟨rfl, rfl⟩ := (hw' _ _).1 ht
    · exact h.roles t u ht
    · exact hv

end Waiting

end Network

end Rendezvous
