import Rendezvous.Proofs.Frame

/-!
# Matching networks

When the order of two steps does not matter, and what is left of it if it hardly does.

* **Matching** (`Network.Matches`): two networks can be told apart only by their logs, by the order
  of a ready set, and by the order in which a barrier has heard of its channels. Every step takes
  matching networks to matching ones (`Matches.suspend`, `Matches.wake`, `Matches.deliver`).
* **Barriers** (`Coordinator.Serves`): a barrier may be told of two channels in either order
  (`Serves.note_comm`), and releases its sender through the same slot in either
  (`Serves.released?_comm`).
* **Exchanging two steps.** A change of anything else can be made before or after strands are moved
  (`Aside`). Strands are woken in either order, and senders with different slots are released in
  either order; a strand suspends itself before or after another is woken.
-/

namespace Rendezvous

variable {τ ε : Type}

/-! ## Matching networks -/

/-- Two ready sets hold the same strands, perhaps in different orders. -/
structure ReadySet.UpToOrder (a b : ReadySet) : Prop where
  queue : a.queue.Perm b.queue
  hasConsumer : a.hasConsumer = b.hasConsumer
  hasScheduler : a.hasScheduler = b.hasScheduler

/-- Two coordinators are the same, but for the order in which a barrier has heard of its
channels. -/
inductive Coordinator.UpToOrder : Coordinator → Coordinator → Prop
  | drainLog (ids : List ChannelId) : UpToOrder (.drainLog ids) (.drainLog ids)
  | barrier (b : Barrier) {ids : List ChannelId} (h : b.drained.Perm ids) :
    UpToOrder (.barrier b) (.barrier { b with drained := ids })

namespace ReadySet.UpToOrder

variable {a b c : ReadySet}

theorem refl (a : ReadySet) : a.UpToOrder a := ⟨.refl _, rfl, rfl⟩

theorem symm (h : a.UpToOrder b) : b.UpToOrder a :=
  ⟨h.queue.symm, h.hasConsumer.symm, h.hasScheduler.symm⟩

theorem trans (h : a.UpToOrder b) (h' : b.UpToOrder c) : a.UpToOrder c :=
  ⟨h.queue.trans h'.queue, h.hasConsumer.trans h'.hasConsumer,
    h.hasScheduler.trans h'.hasScheduler⟩

end ReadySet.UpToOrder

namespace Coordinator

/-- The sender that a coordinator releases when it is told of that channel. -/
def released? (id : ChannelId) : Coordinator → Option Party
  | .drainLog _ => none
  | .barrier b =>
    if id ∉ b.drained ∧ b.drained.length + 1 = b.expected then some ⟨b.strand, b.slot⟩ else none

/-- A barrier that releases that sender. -/
def Serves (p : Party) (x : Coordinator) : Prop :=
  ∃ b, x = .barrier b ∧ b.strand = p.strand ∧ b.slot = p.slot

namespace UpToOrder

variable {x y z : Coordinator}

theorem refl : (x : Coordinator) → x.UpToOrder x
  | .drainLog ids => .drainLog ids
  | .barrier b => .barrier b (.refl _)

theorem symm (h : x.UpToOrder y) : y.UpToOrder x := by
  cases h with
  | drainLog ids => exact .drainLog ids
  | barrier b h => exact .barrier { b with drained := _ } h.symm

theorem trans (h : x.UpToOrder y) (h' : y.UpToOrder z) : x.UpToOrder z := by
  cases h with
  | drainLog ids => exact h'
  | barrier b h => cases h' with
    | barrier _ h' => exact .barrier b (h.trans h')

/-- A barrier that is told of a channel has that channel among those it knows. -/
theorem insert (b : Barrier) (id : ChannelId) : ((Coordinator.barrier b).note id).UpToOrder
    (.barrier { b with drained := b.drained.insert id }) := by
  unfold Coordinator.note
  by_cases hid : id ∈ b.drained
  · simp only [if_pos hid, List.insert_of_mem hid]
    exact .refl _
  · simp only [if_neg hid, List.insert_of_not_mem hid]
    exact .barrier (b.note id) (List.perm_append_singleton id b.drained)

theorem note (h : x.UpToOrder y) (id : ChannelId) : (x.note id).UpToOrder (y.note id) := by
  cases h with
  | drainLog ids => exact .refl _
  | @barrier b ids h =>
    have hinsert : UpToOrder (.barrier { b with drained := b.drained.insert id })
        (.barrier { b with drained := ids.insert id }) := .barrier _ (h.insert id)
    exact (insert b id).trans (hinsert.trans (insert { b with drained := ids } id).symm)

theorem released? (h : x.UpToOrder y) (id : ChannelId) : x.released? id = y.released? id := by
  cases h with
  | drainLog ids => rfl
  | barrier b h => simp only [Coordinator.released?, h.mem_iff, h.length_eq]

end UpToOrder

namespace Serves

variable {p q : Party} {x : Coordinator}

theorem note (h : x.Serves p) (id : ChannelId) : (x.note id).Serves p := by
  obtain ⟨b, rfl, hb⟩ := h
  refine ⟨_, rfl, ?_⟩
  split <;> exact hb

/-- A barrier releases nobody else. -/
theorem eq_of_released? (h : x.Serves p) {id : ChannelId} (hq : x.released? id = some q) :
    q = p := by
  obtain ⟨b, rfl, hs, hd⟩ := h
  simp only [released?, hs, hd, Option.ite_none_right_eq_some, Option.some.injEq] at hq
  exact hq.2.symm

/-- It does not matter in which order a barrier is told of two channels. -/
theorem note_comm (h : x.Serves p) (i j : ChannelId) :
    ((x.note i).note j).UpToOrder ((x.note j).note i) := by
  obtain ⟨b, rfl, -⟩ := h
  have both : ∀ i j : ChannelId, (((Coordinator.barrier b).note i).note j).UpToOrder
      (.barrier { b with drained := (b.drained.insert i).insert j }) := fun i j =>
    ((UpToOrder.insert b i).note j).trans (UpToOrder.insert { b with drained := _ } j)
  have swap : UpToOrder (.barrier { b with drained := (b.drained.insert i).insert j })
      (.barrier { b with drained := (b.drained.insert j).insert i }) :=
    .barrier _ (List.perm_insert_swap j i b.drained)
  exact (both i j).trans (swap.trans (both j i).symm)

/-- Whichever of two channels a barrier is told of first, it releases its sender as soon as it has
heard of enough channels. -/
theorem released?_comm (h : x.Serves p) (i j : ChannelId) :
    (x.released? i).or ((x.note i).released? j) = (x.released? j).or ((x.note j).released? i) := by
  obtain ⟨b, rfl, -⟩ := h
  by_cases hij : i = j
  · rw [hij]
  · have hji : ¬ j = i := Ne.symm hij
    by_cases hi : i ∈ b.drained <;> by_cases hj : j ∈ b.drained <;>
      simp [released?, Coordinator.note, Barrier.note, hi, hj, hij, hji]

end Serves

end Coordinator

namespace Network

/-- Two networks are the same, but for their logs, for the order of a ready set, and for the order
in which a barrier has heard of its channels. -/
structure Matches (n m : Network τ ε) : Prop where
  channel : ∀ c, n.channel c = m.channel c
  slot : ∀ d, n.slot d = m.slot d
  strand : ∀ s, n.strand s = m.strand s
  table : ∀ t, n.table t = m.table t
  readySet : ∀ q, (n.readySet q).UpToOrder (m.readySet q)
  coordinator : ∀ k, (n.coordinator k).UpToOrder (m.coordinator k)

section
variable (n : Network τ ε)

theorem channel_setChannel (c y : Channel.Ref) (x : Channel τ ε) :
    (n.setChannel c x).channel y = if y = c then x else n.channel y := by
  simp only [channel, setChannel, Store.get_set]

@[simp] theorem table_suspend (s : Strand.Ref) (t : Table.Ref) :
    (n.suspend s).table t = n.table t := by
  unfold suspend; split <;> rfl

@[simp] theorem table_wake (s : Strand.Ref) (t : Table.Ref) : (n.wake s).table t = n.table t := by
  unfold wake enqueue
  dsimp only
  split
  · split <;> rfl
  · rfl

/-- A delivery that is refused changes no strand. -/
theorem strand_deliver (p : Party) (r : Resolution ε) (s : Strand.Ref) :
    (n.deliver p r).1.strand s = if (n.slot p.slot).isResolved then n.strand s
      else (n.wake p.strand).strand s := by
  cases h : (n.slot p.slot).isResolved with
  | true => rw [deliver_resolved r h, strand_emit, if_pos rfl]
  | false =>
    have hwake := (wake_congr (n := n) (m := n.setSlot p.slot (.filled r)) rfl rfl p.strand).1
    rw [deliver_open r h, if_neg Bool.false_ne_true, strand, hwake]

/-- A delivery that is refused changes no ready set. -/
theorem readySet_deliver (p : Party) (r : Resolution ε) (q : ReadySet.Ref) :
    (n.deliver p r).1.readySet q = if (n.slot p.slot).isResolved then n.readySet q
      else (n.wake p.strand).readySet q := by
  cases h : (n.slot p.slot).isResolved with
  | true => rw [deliver_resolved r h, readySet_emit, if_pos rfl]
  | false =>
    have hwake := (wake_congr (n := n) (m := n.setSlot p.slot (.filled r)) rfl rfl p.strand).2
    rw [deliver_open r h, if_neg Bool.false_ne_true, readySet, hwake]

@[simp] theorem table_deliver (p : Party) (r : Resolution ε) (t : Table.Ref) :
    (n.deliver p r).1.table t = n.table t := by
  cases h : (n.slot p.slot).isResolved with
  | true => rw [deliver_resolved r h]; rfl
  | false => rw [deliver_open r h, table_wake]; rfl

end

namespace Matches

variable {n m l : Network τ ε}

theorem refl (n : Network τ ε) : n.Matches n :=
  ⟨fun _ => rfl, fun _ => rfl, fun _ => rfl, fun _ => rfl, fun _ => .refl _, fun _ => .refl _⟩

theorem symm (h : n.Matches m) : m.Matches n :=
  ⟨fun c => (h.channel c).symm, fun d => (h.slot d).symm, fun s => (h.strand s).symm,
    fun t => (h.table t).symm, fun q => (h.readySet q).symm, fun k => (h.coordinator k).symm⟩

theorem trans (h : n.Matches m) (h' : m.Matches l) : n.Matches l :=
  ⟨fun c => (h.channel c).trans (h'.channel c), fun d => (h.slot d).trans (h'.slot d),
    fun s => (h.strand s).trans (h'.strand s), fun t => (h.table t).trans (h'.table t),
    fun q => (h.readySet q).trans (h'.readySet q),
    fun k => (h.coordinator k).trans (h'.coordinator k)⟩

instance : Trans (Matches (τ := τ) (ε := ε)) Matches Matches := ⟨trans⟩

theorem emit (n : Network τ ε) (e : Event) : (n.emit e).Matches n :=
  ⟨fun _ => rfl, fun _ => rfl, fun _ => rfl, fun _ => rfl, fun _ => .refl _, fun _ => .refl _⟩

theorem setChannel (h : n.Matches m) (c : Channel.Ref) (x : Channel τ ε) :
    (n.setChannel c x).Matches (m.setChannel c x) := by
  refine ⟨fun y => ?_, h.slot, h.strand, h.table, h.readySet, h.coordinator⟩
  rw [channel_setChannel, channel_setChannel, h.channel]

theorem setCoordinator (h : n.Matches m) (k : Coordinator.Ref) {x y : Coordinator}
    (hxy : x.UpToOrder y) : (n.setCoordinator k x).Matches (m.setCoordinator k y) := by
  refine ⟨h.channel, h.slot, h.strand, h.table, h.readySet, fun j => ?_⟩
  rw [coordinator_setCoordinator, coordinator_setCoordinator]
  split
  · exact hxy
  · exact h.coordinator j

theorem suspend (h : n.Matches m) (s : Strand.Ref) : (n.suspend s).Matches (m.suspend s) where
  channel c := by simp only [channel_suspend, h.channel]
  slot d := by simp only [slot_suspend, h.slot]
  strand t := by simp only [strand_suspend, h.strand]
  table t := by simpa only [table_suspend] using h.table t
  readySet q := by simpa only [readySet_suspend] using h.readySet q
  coordinator k := by simpa only [coordinator_suspend] using h.coordinator k

theorem wake (h : n.Matches m) (s : Strand.Ref) : (n.wake s).Matches (m.wake s) where
  channel c := by simp only [channel_wake, h.channel]
  slot d := by simp only [slot_wake, h.slot]
  strand t := by simp only [strand_wake, h.strand]
  table t := by simpa only [table_wake] using h.table t
  readySet q := by
    have hq := h.readySet q
    simp only [readySet_wake, h.strand, hq.hasConsumer]
    split
    · exact ⟨hq.queue.append_right [s], rfl, hq.hasScheduler⟩
    · exact hq
  coordinator k := by simpa only [coordinator_wake] using h.coordinator k

theorem deliver (h : n.Matches m) (p : Party) (r : Resolution ε) :
    (n.deliver p r).1.Matches (m.deliver p r).1 where
  channel c := by simp only [channel_deliver, h.channel]
  slot d := by simp only [slot_deliver, h.slot]
  strand s := by simp only [strand_deliver, h.slot, h.strand, (h.wake p.strand).strand]
  table t := by simpa only [table_deliver] using h.table t
  readySet q := by
    simp only [readySet_deliver, h.slot]
    split
    · exact h.readySet q
    · exact (h.wake p.strand).readySet q
  coordinator k := by simpa only [coordinator_deliver] using h.coordinator k

end Matches

/-! ## Exchanging two steps -/

/-- Releases a sender whose wait is over, if there is one. -/
def relieve (n : Network τ ε) : Option Party → Network τ ε
  | none => n
  | some p => (n.deliver p .done).1

theorem Matches.relieve {n m : Network τ ε} (h : n.Matches m) (o : Option Party) :
    (n.relieve o).Matches (m.relieve o) := by
  cases o with
  | none => exact h
  | some p => exact h.deliver p .done

/-- A change that concerns neither strands nor ready sets nor the log: whatever is done to these can
be done before or after it. -/
structure Aside (f : Network τ ε → Network τ ε) : Prop where
  strands : ∀ n, (f n).strands = n.strands
  readySets : ∀ n, (f n).readySets = n.readySets
  setStrand : ∀ n s x, (f n).setStrand s x = f (n.setStrand s x)
  setReadySet : ∀ n q x, (f n).setReadySet q x = f (n.setReadySet q x)
  emit : ∀ n e, (f n).emit e = f (n.emit e)

theorem aside_setSlot (d : Slot.Ref) (x : Slot ε) :
    Aside fun n : Network τ ε => n.setSlot d x :=
  ⟨fun _ => rfl, fun _ => rfl, fun _ _ _ => rfl, fun _ _ _ => rfl, fun _ _ => rfl⟩

theorem aside_setChannel (c : Channel.Ref) (x : Channel τ ε) : Aside (·.setChannel c x) :=
  ⟨fun _ => rfl, fun _ => rfl, fun _ _ _ => rfl, fun _ _ _ => rfl, fun _ _ => rfl⟩

theorem aside_setCoordinator (k : Coordinator.Ref) (x : Coordinator) :
    Aside fun n : Network τ ε => n.setCoordinator k x :=
  ⟨fun _ => rfl, fun _ => rfl, fun _ _ _ => rfl, fun _ _ _ => rfl, fun _ _ => rfl⟩

namespace Aside

variable {f : Network τ ε → Network τ ε}

theorem strand (h : Aside f) (n : Network τ ε) (s : Strand.Ref) : (f n).strand s = n.strand s := by
  rw [Network.strand, h.strands]

theorem strandTag (h : Aside f) (n : Network τ ε) (s : Strand.Ref) :
    (f n).strandTag s = n.strandTag s := by
  rw [Network.strandTag, h.strand, Network.strandTag]

theorem readySet (h : Aside f) (n : Network τ ε) (q : ReadySet.Ref) :
    (f n).readySet q = n.readySet q := by
  rw [Network.readySet, h.readySets]

theorem suspend (h : Aside f) (n : Network τ ε) (s : Strand.Ref) :
    (f n).suspend s = f (n.suspend s) := by
  unfold Network.suspend setPhase
  rw [apply_ite f]
  simp only [h.strand, h.strandTag, h.setStrand, h.emit]

theorem wake (h : Aside f) (n : Network τ ε) (s : Strand.Ref) : (f n).wake s = f (n.wake s) := by
  have queued : ∀ m : Network τ ε, (f m).enqueue s = f (m.enqueue s) := by
    intro m
    unfold Network.enqueue
    dsimp only
    rw [apply_ite f]
    simp only [h.strand, h.strandTag, h.readySet, h.setReadySet, h.emit]
  unfold Network.wake isSuspended setPhase
  rw [apply_ite f]
  simp only [h.strand, h.strandTag, h.setStrand, h.emit, queued]

/-- If the change concerns no slot either, a delivery can be made before or after it. -/
theorem deliver (h : Aside f) (hslots : ∀ n, (f n).slots = n.slots)
    (hset : ∀ n d x, (f n).setSlot d x = f (n.setSlot d x)) (n : Network τ ε) (p : Party)
    (r : Resolution ε) : ((f n).deliver p r).1 = f (n.deliver p r).1 := by
  have hslot : (f n).slot p.slot = n.slot p.slot := by rw [slot, hslots]
  cases ho : (n.slot p.slot).isResolved with
  | true =>
    rw [deliver_resolved r ho, deliver_resolved r (hslot ▸ ho), h.strandTag]
    exact h.emit ..
  | false =>
    rw [deliver_open r ho, deliver_open r (hslot ▸ ho), hset]
    exact h.wake ..

end Aside

section
variable (n : Network τ ε)

theorem deliver_setChannel (c : Channel.Ref) (x : Channel τ ε) (p : Party) (r : Resolution ε) :
    ((n.setChannel c x).deliver p r).1 = (n.deliver p r).1.setChannel c x :=
  (aside_setChannel c x).deliver (fun _ => rfl) (fun _ _ _ => rfl) n p r

theorem deliver_setCoordinator (k : Coordinator.Ref) (x : Coordinator) (p : Party)
    (r : Resolution ε) :
    ((n.setCoordinator k x).deliver p r).1 = (n.deliver p r).1.setCoordinator k x :=
  (aside_setCoordinator k x).deliver (fun _ => rfl) (fun _ _ _ => rfl) n p r

/-- A strand suspends itself before or after another is woken. -/
theorem matches_suspend_wake {s t : Strand.Ref} (hst : s ≠ t) :
    ((n.suspend s).wake t).Matches ((n.wake t).suspend s) where
  channel c := by simp
  slot d := by simp
  strand u := by
    simp only [strand_wake, strand_suspend, hst, Ne.symm hst, false_and, if_false]
    by_cases hs : u = s
    · subst hs
      simp [hst]
    · simp [hs]
  table u := by simp
  readySet q := by
    simp only [readySet_wake, readySet_suspend, strand_suspend, Ne.symm hst, false_and, if_false]
    exact .refl _
  coordinator k := by simpa using .refl _

theorem matches_suspend_suspend (s t : Strand.Ref) :
    ((n.suspend s).suspend t).Matches ((n.suspend t).suspend s) where
  channel c := by simp
  slot d := by simp
  strand u := by
    simp only [strand_suspend]
    by_cases hst : s = t
    · rw [hst]
    · by_cases hs : u = s
      · subst hs
        simp [hst]
      · simp [hs, Ne.symm hst]
  table u := by simp
  readySet q := by simpa using .refl _
  coordinator k := by simpa using .refl _

/-- Whom a ready set gets if a strand is woken. -/
def entrants (s : Strand.Ref) (q : ReadySet.Ref) : List Strand.Ref :=
  if (n.strand s).phase = .suspended ∧ q = (n.strand s).home ∧ (n.readySet q).hasConsumer = true
    then [s] else []

theorem readySet_wake_entrants (s : Strand.Ref) (q : ReadySet.Ref) : (n.wake s).readySet q =
    { n.readySet q with queue := (n.readySet q).queue ++ n.entrants s q } := by
  rw [readySet_wake, entrants]
  split
  · rfl
  · rw [List.append_nil]

theorem entrants_wake {s t : Strand.Ref} (q : ReadySet.Ref) (h : t ≠ s) :
    (n.wake s).entrants t q = n.entrants t q := by
  have hstrand : (n.wake s).strand t = n.strand t := by
    rw [strand_wake, if_neg fun hand => h hand.1]
  unfold entrants
  rw [hstrand, readySet_wake_entrants]

/-- Two strands are woken in either order. -/
theorem matches_wake_wake (s t : Strand.Ref) :
    ((n.wake s).wake t).Matches ((n.wake t).wake s) := by
  by_cases hst : s = t
  · rw [hst]
    exact .refl _
  refine ⟨fun c => by simp, fun d => by simp, fun u => ?_, fun u => by simp, fun q => ?_,
    fun k => by simpa using .refl _⟩
  · simp only [strand_wake, hst, Ne.symm hst, false_and, if_false]
    by_cases hs : u = s
    · subst hs
      simp [hst]
    · simp [hs]
  · rw [readySet_wake_entrants, readySet_wake_entrants, readySet_wake_entrants,
      readySet_wake_entrants, entrants_wake n q (Ne.symm hst), entrants_wake n q hst]
    refine ⟨?_, rfl, rfl⟩
    dsimp only
    rw [List.append_assoc, List.append_assoc]
    exact List.perm_append_comm.append_left _

/-- A delivery that is refused is nothing but an event. -/
theorem matches_deliver_resolved {p : Party} (h : (n.slot p.slot).isResolved = true)
    (r : Resolution ε) : (n.deliver p r).1.Matches n := by
  rw [deliver_resolved r h]
  exact .emit n _

theorem matches_suspend_deliver {s : Strand.Ref} {p : Party} (r : Resolution ε)
    (h : p.strand = s → (n.slot p.slot).isResolved = true) :
    ((n.suspend s).deliver p r).1.Matches ((n.deliver p r).1.suspend s) := by
  cases ho : (n.slot p.slot).isResolved with
  | true =>
    have hsuspend : ((n.suspend s).slot p.slot).isResolved = true := by rwa [slot_suspend]
    exact (matches_deliver_resolved _ hsuspend r).trans
      ((matches_deliver_resolved n ho r).suspend s).symm
  | false =>
    have hst : s ≠ p.strand := fun hs => by
      rw [h hs.symm] at ho
      cases ho
    have hsuspend : ((n.suspend s).slot p.slot).isResolved = false := by rwa [slot_suspend]
    rw [deliver_open r hsuspend, deliver_open r ho, ← (aside_setSlot p.slot _).suspend]
    exact matches_suspend_wake _ hst

theorem matches_setSlot_setSlot {d e : Slot.Ref} (h : d ≠ e) (x y : Slot ε) :
    ((n.setSlot d x).setSlot e y).Matches ((n.setSlot e y).setSlot d x) := by
  refine ⟨fun _ => rfl, fun a => ?_, fun _ => rfl, fun _ => rfl, fun _ => .refl _, fun _ => .refl _⟩
  simp only [slot_setSlot]
  by_cases hd : a = d
  · rw [if_pos hd, if_pos hd, if_neg fun he => h (hd.symm.trans he)]
  · rw [if_neg hd, if_neg hd]

/-- Two senders with different slots are released in either order. -/
theorem matches_deliver_deliver {p q : Party} (h : p.slot ≠ q.slot) (r r' : Resolution ε) :
    ((n.deliver p r).1.deliver q r').1.Matches ((n.deliver q r').1.deliver p r).1 := by
  have still : ∀ {p q : Party} {r r' : Resolution ε}, (n.slot p.slot).isResolved = true →
      ((n.deliver p r).1.deliver q r').1.Matches ((n.deliver q r').1.deliver p r).1 := by
    intro p q r r' hp
    have hp' : ((n.deliver q r').1.slot p.slot).isResolved = true := by
      rw [slot_deliver]
      split
      · rfl
      · exact hp
    exact ((matches_deliver_resolved n hp r).deliver q r').trans
      (matches_deliver_resolved _ hp' r).symm
  cases hp : (n.slot p.slot).isResolved with
  | true => exact still hp
  | false => cases hq : (n.slot q.slot).isResolved with
    | true => exact (still hq).symm
    | false =>
      have hq' : ((n.deliver p r).1.slot q.slot).isResolved = false := by
        rwa [slot_deliver, if_neg fun hand => h hand.1.symm]
      have hp' : ((n.deliver q r').1.slot p.slot).isResolved = false := by
        rwa [slot_deliver, if_neg fun hand => h hand.1]
      rw [deliver_open r' hq', deliver_open r hp', deliver_open r hp, deliver_open r' hq,
        ← (aside_setSlot q.slot _).wake, ← (aside_setSlot p.slot _).wake]
      exact (matches_wake_wake _ _ _).trans
        (((matches_setSlot_setSlot n h _ _).wake q.strand).wake p.strand)

theorem matches_completeBarrier (b : Barrier) :
    (n.completeBarrier b).Matches (n.relieve (some ⟨b.strand, b.slot⟩)) := by
  cases ho : (n.slot b.slot).isResolved with
  | true =>
    rw [completeBarrier_resolved ho]
    exact (matches_deliver_resolved (p := ⟨b.strand, b.slot⟩) n ho .done).symm
  | false =>
    have hdeliver := deliver_open (p := ⟨b.strand, b.slot⟩) .done ho
    rw [completeBarrier_open ho, relieve, hdeliver]
    exact (Matches.emit _ _).wake b.strand

/-- Telling a coordinator is to note the channel and to release whom that releases. -/
theorem matches_notifyDrained (k : Coordinator.Ref) (id : ChannelId) :
    (n.notifyDrained k id).Matches ((n.setCoordinator k ((n.coordinator k).note id)).relieve
      ((n.coordinator k).released? id)) := by
  unfold notifyDrained
  cases hk : n.coordinator k with
  | drainLog ids => exact .refl _
  | barrier b =>
    dsimp only
    by_cases hid : id ∈ b.drained
    · have hnote : (Coordinator.barrier b).note id = n.coordinator k := by
        rw [Coordinator.note, if_pos hid, hk]
      rw [if_pos hid, Coordinator.released?, if_neg fun hand => hand.1 hid, hnote]
      refine (Matches.emit n _).trans ⟨fun _ => rfl, fun _ => rfl, fun _ => rfl, fun _ => rfl,
        fun _ => .refl _, fun j => ?_⟩
      rw [relieve, coordinator_setCoordinator]
      split
      · rename_i hj
        rw [hj]
        exact .refl _
      · exact .refl _
    · have hnote : (Coordinator.barrier b).note id = .barrier (b.note id) := by
        rw [Coordinator.note, if_neg hid]
      have hlen : (b.note id).drainedCount = b.drained.length + 1 := List.length_append
      rw [if_neg hid, hnote, hlen]
      by_cases hlast : b.drained.length + 1 = b.expected
      · rw [if_pos (show _ = (b.note id).expected from hlast), Coordinator.released?,
          if_pos ⟨hid, hlast⟩]
        exact (matches_completeBarrier _ (b.note id)).trans ((Matches.emit _ _).relieve _)
      · rw [if_neg (show ¬ _ = (b.note id).expected from hlast), Coordinator.released?,
          if_neg fun hand => hlast hand.2]
        exact .emit _ _

end

/-! ### Writing twice -/

section
variable {n : Network τ ε}

/-- A channel is what was written last. -/
theorem matches_setChannel_self (c : Channel.Ref) (x y : Channel τ ε) :
    ((n.setChannel c x).setChannel c y).Matches (n.setChannel c y) := by
  refine ⟨fun b => ?_, fun _ => rfl, fun _ => rfl, fun _ => rfl, fun _ => .refl _, fun _ => .refl _⟩
  simp only [channel_setChannel]
  split <;> rfl

/-- Channels are written in either order. -/
theorem matches_setChannel_of_ne {A B : Channel.Ref} (h : A ≠ B) (x y : Channel τ ε) :
    ((n.setChannel A x).setChannel B y).Matches ((n.setChannel B y).setChannel A x) := by
  refine ⟨fun c => ?_, fun _ => rfl, fun _ => rfl, fun _ => rfl, fun _ => .refl _, fun _ => .refl _⟩
  simp only [channel_setChannel]
  by_cases hA : c = A
  · rw [if_pos hA, if_pos hA, if_neg fun hB => h (hA.symm.trans hB)]
  · rw [if_neg hA, if_neg hA]

/-- A coordinator is written before or after another. -/
theorem matches_setCoordinator_of_ne {j k : Coordinator.Ref} (h : j ≠ k) (x y : Coordinator) :
    ((n.setCoordinator j x).setCoordinator k y).Matches
      ((n.setCoordinator k y).setCoordinator j x) := by
  refine ⟨fun _ => rfl, fun _ => rfl, fun _ => rfl, fun _ => rfl, fun _ => .refl _, fun i => ?_⟩
  simp only [coordinator_setCoordinator]
  by_cases hj : i = j
  · rw [if_pos hj, if_pos hj, if_neg fun hk => h (hj.symm.trans hk)]
    exact .refl _
  · rw [if_neg hj, if_neg hj]
    exact .refl _

/-- A coordinator is what was written last. -/
theorem matches_setCoordinator_self (k : Coordinator.Ref) (x y : Coordinator) :
    ((n.setCoordinator k x).setCoordinator k y).Matches (n.setCoordinator k y) := by
  refine ⟨fun _ => rfl, fun _ => rfl, fun _ => rfl, fun _ => rfl, fun _ => .refl _, fun i => ?_⟩
  simp only [coordinator_setCoordinator]
  split <;> exact .refl _

theorem relieve_setCoordinator (k : Coordinator.Ref) (x : Coordinator) (o : Option Party) :
    (n.setCoordinator k x).relieve o = (n.relieve o).setCoordinator k x := by
  cases o with
  | none => rfl
  | some p => exact n.deliver_setCoordinator k x p .done

/-- Of two releases through one slot only the first does anything. -/
theorem matches_relieve_or {o o' : Option Party}
    (h : ∀ p q, o = some p → o' = some q → p.slot = q.slot) :
    ((n.relieve o).relieve o').Matches (n.relieve (o.or o')) := by
  cases o with
  | none => exact .refl _
  | some p => cases o' with
    | none => exact .refl _
    | some q =>
      have hresolved : ((n.deliver p .done).1.slot q.slot).isResolved = true := by
        rw [slot_deliver, ← h p q rfl rfl]
        cases ho : (n.slot p.slot).isResolved with
        | true => simpa using ho
        | false => simp [Slot.isResolved]
      exact matches_deliver_resolved _ hresolved .done

end

end Network

end Rendezvous
