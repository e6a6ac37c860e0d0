import Rendezvous.Proofs.History
import Rendezvous.Proofs.ReadySets

/-!
# The order of dispatch

Strands are dispatched in the order in which they were woken, whoever wakes them and whatever they
were doing.

* **Steps** (`Network.Tacit`): of the steps from which the operations are built only one, waking a
  strand, reports that a strand was woken (`steps_tacit_perform`).
* **Woken strands** (`Network.Wakes`): the strands that were woken between two networks. The log
  reports them in their order, and each was put at the end of its ready set. All steps wake some
  strands in this sense (`Steps.wakes`).
* **Runs** (`Network.InOrder`, `dispatched_in_order`): what was dispatched from a ready set and what
  is still queued there are the strands at home there that were woken, in order.
-/

namespace Rendezvous

variable {τ ε : Type}

/-- The strand that an event reports to have been woken. -/
def Event.woken? : Event → Option StrandTag
  | .woken s => some s
  | _ => none

/-- The strand that a consumer found. -/
def Poll.strand? : Poll → Option Strand.Ref
  | .strand s => some s
  | .closed | .pending => none

/-- The strand that was dispatched from `q` in an exchange. -/
def Exchange.dispatched? (q : ReadySet.Ref) : Exchange τ ε → Option Strand.Ref
  | ⟨.dispatch p, answer⟩ => if p = q then answer else none
  | ⟨.poll p _, answer⟩ => if p = q then Poll.strand? answer else none
  | _ => none

/-- The strands that were dispatched from `q`, oldest first. -/
def dispatched (q : ReadySet.Ref) (h : List (Exchange τ ε)) : List Strand.Ref :=
  h.filterMap (·.dispatched? q)

theorem dispatched_append (q : ReadySet.Ref) (a b : List (Exchange τ ε)) :
    dispatched q (a ++ b) = dispatched q a ++ dispatched q b := List.filterMap_append ..

theorem dispatched_singleton (q : ReadySet.Ref) (x : Exchange τ ε) :
    dispatched q [x] = (x.dispatched? q).toList := by
  unfold dispatched
  cases hx : x.dispatched? q <;> simp [hx]

namespace Network

/-! ## Steps -/

/-- Whether a step, unless it wakes a strand, does not report that a strand was woken. -/
def Tacit (_ : Network τ ε) : Step τ ε → Prop
  | .emit e => e.woken? = none
  | _ => True

/-- What an operation reports by itself is not that a strand was woken. -/
theorem Reports.woken? {n : Network τ ε} {c : Channel.Ref} {op : Operation τ ε} {e : Event}
    (h : n.Reports c op e) : e.woken? = none := by
  cases h with
  | plain he | lost _ he => cases e <;> first | rfl | cases he
  | _ => rfl

theorem tolerant_tacit : Tolerant (Tacit (τ := τ) (ε := ε)) where
  emit {_ e} he := by cases e <;> first | rfl | cases he
  update _ _ := trivial
  free {_ x} hx := by cases x <;> trivial
  again := rfl

theorem steps_tacit (n : Network τ ε) (c : Channel.Ref) (op : Operation τ ε) :
    Steps Tacit n (n.operate c op).1 := by
  refine steps_operate (fun hx => ?_) fun hx => ?_
  · cases hx with
    | update => trivial
    | @emit e he => cases e <;> first | rfl | cases he
  · cases hx with
    | emit he => exact he.woken?
    | _ => trivial

/-- Most calls are made of such steps. The others change ready sets, or create something, or resume
a strand, or take something out of a slot. -/
theorem steps_tacit_perform (n : Network τ ε) {call : Call τ ε} (h : call.isMove = true) :
    Steps Tacit n (n.perform call).1 :=
  Steps.perform h tolerant_tacit (fun _ => trivial)
    (fun m c s d k => m.steps_tacit c (.flush s d k)) fun c op _ => n.steps_tacit c op

/-! ## Woken strands -/

/-- The strands that the log reports to have been woken, oldest first. -/
def wakings (n : Network τ ε) : List StrandTag := n.log.filterMap Event.woken?

/-- Any other event reports no strand to have been woken. -/
theorem wakings_emit (n : Network τ ε) {e : Event} (he : e.woken? = none) :
    (n.emit e).wakings = n.wakings := by
  simp [wakings, emit, he]

theorem wakings_emit_woken (n : Network τ ε) (s : StrandTag) :
    (n.emit (.woken s)).wakings = n.wakings ++ [s] := by
  simp [wakings, emit, Event.woken?]

theorem wakings_enqueue (n : Network τ ε) (s : Strand.Ref) : (n.enqueue s).wakings = n.wakings := by
  unfold enqueue
  dsimp only
  split
  · rfl
  · exact wakings_emit _ rfl

/-- A strand is reported to have been woken exactly if it was suspended. -/
theorem wakings_wake (n : Network τ ε) (s : Strand.Ref) :
    (n.wake s).wakings = n.wakings ++ if n.isSuspended s then [n.strandTag s] else [] := by
  unfold wake
  split
  · rw [wakings_enqueue, wakings_emit_woken]
    rfl
  · rw [wakings_emit _ rfl, List.append_nil]

theorem strands_enqueue (n : Network τ ε) (s : Strand.Ref) : (n.enqueue s).strands = n.strands := by
  unfold enqueue
  dsimp only
  split <;> rfl

theorem size_setStrand (n : Network τ ε) (s : Strand.Ref) (x : Strand) :
    (n.setStrand s x).strands.size = max n.strands.size (s.index + 1) := Store.length_put ..

/-- A phase is all that changes. -/
theorem strand_setPhase (n : Network τ ε) (s t : Strand.Ref) (p : Phase) :
    ((n.setPhase s p).strand t).home = (n.strand t).home ∧
      ((n.setPhase s p).strand t).name = (n.strand t).name := by
  have hset : (n.setPhase s p).strand t =
      if t = s then { n.strand s with phase := p } else n.strand t := Store.get_set ..
  rw [hset]
  split
  · rename_i hts
    rw [hts]
    exact ⟨rfl, rfl⟩
  · exact ⟨rfl, rfl⟩

/-- The strands of `l` were woken, in this order: the log reports them, and each of them was put at
the end of its ready set. Otherwise no ready set has changed, and every strand is at home where it
was. -/
structure Wakes (n : Network τ ε) (l : List Strand.Ref) (m : Network τ ε) : Prop where
  wakings : m.wakings = n.wakings ++ l.map n.strandTag
  queue : ∀ q, (n.readySet q).hasConsumer = true → (m.readySet q).queue =
    (n.readySet q).queue ++ l.filter fun s => (n.strand s).home = q
  hasConsumer : ∀ q, (m.readySet q).hasConsumer = (n.readySet q).hasConsumer
  home : ∀ s, (m.strand s).home = (n.strand s).home
  name : ∀ s, (m.strand s).name = (n.strand s).name
  size : n.strands.size ≤ m.strands.size
  created : ∀ s ∈ l, s.index < m.strands.size

namespace Wakes

variable {n m m' : Network τ ε} {l : List Strand.Ref} {s : Strand.Ref}

theorem refl (n : Network τ ε) : Wakes n [] n where
  wakings := (List.append_nil _).symm
  queue _ _ := (List.append_nil _).symm
  hasConsumer _ := rfl
  home _ := rfl
  name _ := rfl
  size := Nat.le_refl _
  created := nofun

/-- Strands may change otherwise while nobody is woken. -/
theorem idle (h : Wakes n l m) (hlog : m'.wakings = m.wakings)
    (hq : ∀ q, m'.readySet q = m.readySet q)
    (hs : ∀ s, (m'.strand s).home = (m.strand s).home ∧ (m'.strand s).name = (m.strand s).name)
    (hsize : m.strands.size ≤ m'.strands.size) : Wakes n l m' where
  wakings := hlog.trans h.wakings
  queue q hc := (hq q).symm ▸ h.queue q hc
  hasConsumer q := (hq q).symm ▸ h.hasConsumer q
  home s := (hs s).1.trans (h.home s)
  name s := (hs s).2.trans (h.name s)
  size := Nat.le_trans h.size hsize
  created s hs := Nat.lt_of_lt_of_le (h.created s hs) hsize

/-- A step that changes neither strands nor ready sets and wakes nobody. -/
theorem still (h : Wakes n l m) (hlog : m'.wakings = m.wakings) (hr : m'.readySets = m.readySets)
    (hs : m'.strands = m.strands) : Wakes n l m' := by
  refine h.idle hlog (fun q => ?_) (fun s => ?_) (Nat.le_of_eq (congrArg Store.size hs.symm))
  · rw [readySet, hr]
  · rw [strand, hs]
    exact ⟨rfl, rfl⟩

theorem setPhase (h : Wakes n l m) (s : Strand.Ref) (p : Phase) : Wakes n l (m.setPhase s p) :=
  h.idle rfl (fun _ => rfl) (fun t => m.strand_setPhase s t p)
    (Nat.le_trans (Nat.le_max_left ..) (Nat.le_of_eq (size_setStrand ..).symm))

theorem tag (h : Wakes n l m) (s : Strand.Ref) : m.strandTag s = n.strandTag s :=
  congrArg (StrandTag.mk s.id) (h.name s)

theorem suspend (h : Wakes n l m) (s : Strand.Ref) : Wakes n l (m.suspend s) := by
  unfold Network.suspend
  split
  · exact h.setPhase s _
  · exact h.still (wakings_emit _ rfl) rfl rfl

theorem markRunning (h : Wakes n l m) (s : Strand.Ref) : Wakes n l (m.markRunning s) := by
  unfold Network.markRunning
  split
  · exact h.setPhase s _
  · exact h

/-- A strand that was suspended is woken, and is the last one. -/
theorem wake (h : Wakes n l m) (s : Strand.Ref) : ∃ l', Wakes n l' (m.wake s) := by
  have hwakings := m.wakings_wake s
  cases hs : m.isSuspended s with
  | true =>
    have hsus : (m.strand s).phase = .suspended := beq_iff_eq.1 hs
    refine ⟨l ++ [s], ?_⟩
    have ready := h.setPhase s .ready
    have hwake : m.wake s =
        ((m.setPhase s .ready).emit (.woken (m.strandTag s))).enqueue s := by
      rw [Network.wake, if_pos hs]
    have hstrand : ∀ t, (m.wake s).strand t = (m.setPhase s .ready).strand t := fun t => by
      rw [hwake, strand_enqueue, strand_emit]
    have hsize : (m.wake s).strands.size = max m.strands.size (s.index + 1) := by
      rw [hwake, strands_enqueue]
      exact size_setStrand ..
    refine ⟨?_, fun q hc => ?_, fun q => ?_, fun t => hstrand t ▸ ready.home t,
      fun t => hstrand t ▸ ready.name t, hsize ▸ Nat.le_trans h.size (Nat.le_max_left ..),
      fun t ht => ?_⟩
    · rw [hwakings, if_pos hs, h.wakings, h.tag, List.map_append, List.map_singleton,
        List.append_assoc]
    · have hlive : (m.readySet q).hasConsumer = true := (h.hasConsumer q).trans hc
      rw [readySet_wake, h.home, List.filter_append, ← List.append_assoc, ← h.queue q hc]
      by_cases hq : q = (n.strand s).home
      · rw [if_pos ⟨hsus, hq, hlive⟩]
        simp [hq]
      · rw [if_neg fun hand => hq hand.2.1]
        simp [Ne.symm hq]
    · rw [← h.hasConsumer q, readySet_wake]
      split <;> rfl
    · rw [hsize]
      rcases List.mem_append.1 ht with ht | ht
      · exact Nat.lt_of_lt_of_le (h.created t ht) (Nat.le_max_left ..)
      · rw [List.mem_singleton.1 ht]
        exact Nat.le_max_right ..
  | false =>
    refine ⟨l, ?_⟩
    rw [Network.wake, if_neg (by simp [hs])]
    exact h.still (wakings_emit _ rfl) rfl rfl

end Wakes

/-- All these steps wake some strands. -/
theorem Steps.wakes {n m : Network τ ε} (h : Steps Tacit n m) : ∃ l, Wakes n l m := by
  induction h with
  | refl => exact ⟨[], .refl n⟩
  | step _ x hx ih =>
    obtain ⟨l, hl⟩ := ih
    cases x with
    | emit e => exact ⟨l, hl.still (wakings_emit _ hx) rfl rfl⟩
    | suspend s => exact ⟨l, hl.suspend s⟩
    | markRunning s => exact ⟨l, hl.markRunning s⟩
    | wake s => exact hl.wake s
    | fill | update | coordinate | setTable => exact ⟨l, hl.still rfl rfl rfl⟩

/-! ## Runs -/

/-- No call that is made of steps dispatches a strand. -/
theorem dispatched_exchange_of_isMove (n : Network τ ε) {call : Call τ ε}
    (h : call.isMove = true) (q : ReadySet.Ref) : dispatched q [n.exchange call] = [] := by
  cases call <;> first | rfl | cases h

theorem dispatched_exchange_dispatch (n : Network τ ε) (p q : ReadySet.Ref) :
    dispatched q [n.exchange (.dispatch p)] = if p = q then (n.dispatch p).2.toList else [] := by
  have hone : (n.exchange (.dispatch p)).dispatched? q =
      if p = q then (n.dispatch p).2 else none := rfl
  rw [dispatched_singleton, hone]
  split <;> rfl

/-- A consumer that is prepared to wait gets the same strand. -/
theorem strand?_poll (n : Network τ ε) (q : ReadySet.Ref) (held : List Strand.Ref) :
    (n.poll q held).2.strand? = (n.dispatch q).2 := by
  unfold poll
  split <;> rename_i heq <;> rw [heq]
  · rfl
  · dsimp only
    split <;> rfl

theorem dispatched_exchange_poll (n : Network τ ε) (p q : ReadySet.Ref) (held : List Strand.Ref) :
    dispatched q [n.exchange (.poll p held)] = if p = q then (n.dispatch p).2.toList else [] := by
  have hone : (n.exchange (.poll p held)).dispatched? q =
      if p = q then (n.poll p held).2.strand? else none := rfl
  rw [dispatched_singleton, hone, strand?_poll]
  split <;> rfl

/-- The log reports the strands of `woken`, in this order. From a ready set those of them that are
at home there were dispatched, in this order, and those not yet dispatched are queued. -/
structure InOrder (n : Network τ ε) (h : List (Exchange τ ε)) (woken : List Strand.Ref) :
    Prop where
  wakings : n.wakings = woken.map n.strandTag
  created : ∀ s ∈ woken, s.index < n.strands.size
  order : ∀ q, (n.readySet q).hasConsumer = true →
    dispatched q h ++ (n.readySet q).queue = woken.filter fun s => (n.strand s).home = q

namespace InOrder

variable {n m : Network τ ε} {h : List (Exchange τ ε)} {x : Exchange τ ε}
  {woken l : List Strand.Ref}

/-- What is dispatched leaves the front of its ready set, and who is woken is put at the end. -/
theorem snoc (ho : InOrder n h woken) (hwakings : m.wakings = n.wakings ++ l.map m.strandTag)
    (hs : ∀ s : Strand.Ref, s.index < n.strands.size →
      (m.strand s).home = (n.strand s).home ∧ (m.strand s).name = (n.strand s).name)
    (hsize : n.strands.size ≤ m.strands.size) (hl : ∀ s ∈ l, s.index < m.strands.size)
    (hq : ∀ q, (m.readySet q).hasConsumer = true → (n.readySet q).hasConsumer = true ∧
      dispatched q [x] ++ (m.readySet q).queue =
        (n.readySet q).queue ++ l.filter fun s => (m.strand s).home = q) :
    InOrder m (h ++ [x]) (woken ++ l) where
  wakings := by
    rw [hwakings, ho.wakings, List.map_append]
    congr 1
    refine List.map_congr_left fun s hmem => ?_
    exact congrArg (StrandTag.mk s.id) (hs s (ho.created s hmem)).2.symm
  created s hmem := by
    rcases List.mem_append.1 hmem with hold | hnew
    · exact Nat.lt_of_lt_of_le (ho.created s hold) hsize
    · exact hl s hnew
  order q hc := by
    obtain ⟨hlive, hmoved⟩ := hq q hc
    have hkept : (woken.filter fun s => (m.strand s).home = q) =
        woken.filter fun s => (n.strand s).home = q := by
      refine List.filter_congr fun s hmem => ?_
      rw [(hs s (ho.created s hmem)).1]
    rw [dispatched_append, List.append_assoc, hmoved, ← List.append_assoc, ho.order q hlive,
      List.filter_append, hkept]

/-- A call that neither wakes nor dispatches, nor changes a ready set that has a consumer. -/
theorem still (ho : InOrder n h woken) (hwakings : m.wakings = n.wakings)
    (hs : ∀ s : Strand.Ref, s.index < n.strands.size →
      (m.strand s).home = (n.strand s).home ∧ (m.strand s).name = (n.strand s).name)
    (hsize : n.strands.size ≤ m.strands.size) (hx : ∀ q, dispatched q [x] = [])
    (hq : ∀ q, (m.readySet q).hasConsumer = true → (n.readySet q).hasConsumer = true ∧
      (m.readySet q).queue = (n.readySet q).queue) : InOrder m (h ++ [x]) woken := by
  rw [← List.append_nil woken]
  refine ho.snoc (hwakings.trans (List.append_nil _).symm) hs hsize nofun fun q hc => ?_
  rw [hx q, (hq q hc).2]
  exact ⟨(hq q hc).1, (List.append_nil _).symm⟩

/-- A ready set is changed, but for the strands that are queued while it has a consumer. -/
theorem setReadySet (ho : InOrder n h woken) (p : ReadySet.Ref) {r : ReadySet}
    (hr : r.hasConsumer = true →
      (n.readySet p).hasConsumer = true ∧ r.queue = (n.readySet p).queue)
    (hx : ∀ q, dispatched q [x] = []) : InOrder (n.setReadySet p r) (h ++ [x]) woken := by
  refine ho.still rfl (fun _ _ => ⟨rfl, rfl⟩) (Nat.le_refl _) hx fun q hc => ?_
  have hset : (n.setReadySet p r).readySet q = if q = p then r else n.readySet q :=
    Store.get_set ..
  rw [hset] at hc ⊢
  by_cases hq : q = p
  · rw [if_pos hq] at hc ⊢
    exact hq ▸ hr hc
  · rw [if_neg hq] at hc ⊢
    exact ⟨hc, rfl⟩

/-- Some strands are woken. -/
theorem wakes (ho : InOrder n h woken) (hw : Wakes n l m) (hx : ∀ q, dispatched q [x] = []) :
    InOrder m (h ++ [x]) (woken ++ l) := by
  refine ho.snoc ?_ (fun s _ => ⟨hw.home s, hw.name s⟩) hw.size hw.created fun q hc => ?_
  · rw [hw.wakings, List.map_congr_left fun s _ => hw.tag s]
  · have hlive : (n.readySet q).hasConsumer = true := (hw.hasConsumer q).symm.trans hc
    rw [hx q, hw.queue q hlive]
    simp only [hw.home]
    exact ⟨hlive, rfl⟩

/-- The strand that was queued first is handed out. -/
theorem dispatch (ho : InOrder n h woken) (q : ReadySet.Ref)
    (hx : ∀ p, dispatched p [x] = if q = p then (n.dispatch q).2.toList else []) :
    InOrder (n.dispatch q).1 (h ++ [x]) woken := by
  unfold Network.dispatch at hx ⊢
  split at hx
  · exact ho.still rfl (fun _ _ => ⟨rfl, rfl⟩) (Nat.le_refl _)
      (fun p => by rw [hx p]; split <;> rfl) fun _ hc => ⟨hc, rfl⟩
  · rename_i s rest hqueue
    have hset : ∀ p, ((n.setReadySet q { n.readySet q with queue := rest }).resume s).readySet p =
        if p = q then { n.readySet q with queue := rest } else n.readySet p :=
      fun _ => Store.get_set ..
    rw [← List.append_nil woken]
    refine ho.snoc (List.append_nil _).symm
      (fun t _ => strand_setPhase (n.setReadySet q _) s t .running)
      (Nat.le_trans (Nat.le_max_left ..) (Nat.le_of_eq (size_setStrand ..).symm))
      (fun _ ht => absurd ht List.not_mem_nil) fun p hc => ?_
    rw [hset] at hc ⊢
    rw [hx p]
    by_cases hpq : p = q
    · subst hpq
      rw [if_pos rfl] at hc
      rw [if_pos rfl, if_pos rfl, hqueue]
      exact ⟨hc, (List.append_nil _).symm⟩
    · rw [if_neg hpq] at hc
      rw [if_neg hpq, if_neg (Ne.symm hpq)]
      exact ⟨hc, (List.append_nil _).symm⟩

/-- Every call keeps the order. -/
theorem perform (ho : InOrder n h woken) (call : Call τ ε) :
    ∃ l, InOrder (n.perform call).1 (h ++ [n.exchange call]) (woken ++ l) := by
  cases hmove : call.isMove with
  | true =>
    obtain ⟨l, hl⟩ := (n.steps_tacit_perform hmove).wakes
    exact ⟨l, ho.wakes hl (n.dispatched_exchange_of_isMove hmove)⟩
  | false =>
    have created : ∀ options, (n.createChannel options).1.wakings = n.wakings :=
      fun _ => wakings_emit (n.setChannel _ _) rfl
    refine ⟨[], ?_⟩
    rw [List.append_nil]
    cases call with
    | createReadySet =>
      refine ho.setReadySet n.readySets.fresh (fun _ => ?_) fun _ => rfl
      rw [readySet, Store.get_fresh]
      exact ⟨rfl, rfl⟩
    | createStrand name home =>
      refine ho.still rfl (fun s hs => ?_) (Nat.le_of_lt ?_) (fun _ => rfl) fun _ hc => ⟨hc, rfl⟩
      · have hset : (n.perform (.createStrand name home)).1.strand s =
            if s = n.strands.fresh then { name, home } else n.strand s := Store.get_set ..
        rw [hset, if_neg]
        · exact ⟨rfl, rfl⟩
        · rintro rfl
          exact Nat.lt_irrefl _ hs
      · exact Nat.lt_of_lt_of_eq (Nat.lt_succ_self _) (Store.size_set_fresh ..).symm
    | dropScheduler p => exact ho.setReadySet p (fun hc => ⟨hc, rfl⟩) fun _ => rfl
    | dropConsumer p =>
      exact ho.setReadySet p (fun hc => absurd hc Bool.false_ne_true) fun _ => rfl
    | createSlot | take =>
      exact ho.still rfl (fun _ _ => ⟨rfl, rfl⟩) (Nat.le_refl _) (fun _ => rfl)
        fun _ hc => ⟨hc, rfl⟩
    | createChannel options =>
      exact ho.still (created options) (fun _ _ => ⟨rfl, rfl⟩) (Nat.le_refl _) (fun _ => rfl)
        fun _ hc => ⟨hc, rfl⟩
    | lookupOrCreate t name =>
      change InOrder (n.lookupOrCreate t name).1 _ _
      unfold lookupOrCreate
      split
      · exact ho.still rfl (fun _ _ => ⟨rfl, rfl⟩) (Nat.le_refl _) (fun _ => rfl)
          fun _ hc => ⟨hc, rfl⟩
      · exact ho.still (created _) (fun _ _ => ⟨rfl, rfl⟩) (Nat.le_refl _) (fun _ => rfl)
          fun _ hc => ⟨hc, rfl⟩
    | dispatch q => exact ho.dispatch q fun p => n.dispatched_exchange_dispatch q p
    | poll q held =>
      change InOrder (n.poll q held).1 _ _
      rw [fst_poll]
      exact ho.dispatch q fun p => n.dispatched_exchange_poll q p held
    | resume s =>
      exact ho.still rfl (fun t _ => n.strand_setPhase s t .running)
        (Nat.le_trans (Nat.le_max_left ..) (Nat.le_of_eq (size_setStrand ..).symm)) (fun _ => rfl)
        fun _ hc => ⟨hc, rfl⟩
    | _ => cases hmove

/-- So does every run. -/
theorem run (ho : InOrder n h woken) (calls : List (Call τ ε)) :
    ∃ l, InOrder (n.run calls) (h ++ n.history calls) (woken ++ l) := by
  induction calls generalizing n h woken with
  | nil => exact ⟨[], by rwa [history_nil, run_nil, List.append_nil, List.append_nil]⟩
  | cons call calls ih =>
    obtain ⟨l, hl⟩ := ho.perform call
    obtain ⟨l', hl'⟩ := ih hl
    refine ⟨l ++ l', ?_⟩
    rw [List.append_assoc, List.append_assoc] at hl'
    exact hl'

theorem start : InOrder ({} : Network τ ε) [] [] := ⟨rfl, nofun, fun _ _ => rfl⟩

end InOrder

/-- As long as nobody resumes strands out of turn: whatever strands issue operations and in which
state they are, a ready set that has a consumer holds each strand at home there exactly once if it
is ready, and not at all if it runs or is suspended. The strands that were dispatched from it, and
then those that are queued, are the strands at home there in the order in which they were woken. -/
theorem dispatched_in_order (calls : List (Call τ ε)) (hresume : ∀ s, .resume s ∉ calls) :
    let n := ({} : Network τ ε).run calls
    let h := ({} : Network τ ε).history calls
    ∃ woken : List Strand.Ref, n.wakings = woken.map n.strandTag ∧
      ∀ q, (n.readySet q).hasConsumer = true →
        (∀ s, (n.readySet q).queue.count s =
          if (n.strand s).home = q ∧ (n.strand s).phase = .ready then 1 else 0) ∧
        dispatched q h ++ (n.readySet q).queue =
          woken.filter fun s => (n.strand s).home = q := by
  intro n h
  obtain ⟨woken, ho⟩ := InOrder.start.run calls
  refine ⟨woken, ho.wakings, fun q hc => ⟨fun s => ?_, ho.order q hc⟩⟩
  have hqueued : n.Queued s := (Queued.start s).run (hresume s)
  rw [hqueued q]
  simp only [hc, and_true]

/-- A receiver is woken, and before it is dispatched it releases a sender and waits on another
channel. The second value does not queue it again, and it is dispatched before the sender. -/
theorem dispatched_in_order_ready_receiver :
    let calls : List (Call Nat String) := [
      .createReadySet,
      .createStrand (some "tx") ⟨0⟩,
      .createStrand (some "rx") ⟨0⟩,
      .createStrand (some "other") ⟨0⟩,
      .createSlot,
      .createChannel {},
      .createChannel {},
      .operate ⟨0⟩ (.receive ⟨1⟩),
      .operate ⟨1⟩ (.syncSend 1 ⟨0⟩ ⟨0⟩),
      .operate ⟨0⟩ (.send 2 ⟨2⟩),
      .operate ⟨1⟩ (.receive ⟨1⟩),
      .operate ⟨1⟩ (.receive ⟨1⟩),
      .operate ⟨1⟩ (.send 3 ⟨2⟩),
      .dispatch ⟨0⟩]
    let n := ({} : Network Nat String).run calls
    let h := ({} : Network Nat String).history calls
    (∀ s, .resume s ∉ calls) ∧ (n.readySet ⟨0⟩).hasConsumer = true ∧
      (∀ s, (n.readySet ⟨0⟩).queue.count s =
        if (n.strand s).home = ⟨0⟩ ∧ (n.strand s).phase = .ready then 1 else 0) ∧
      dispatched ⟨0⟩ h = [⟨1⟩] ∧ (n.readySet ⟨0⟩).queue = [⟨0⟩] ∧
      ∃ woken : List Strand.Ref, n.wakings = woken.map n.strandTag ∧
        dispatched ⟨0⟩ h ++ (n.readySet ⟨0⟩).queue =
          woken.filter fun s => (n.strand s).home = ⟨0⟩ := by
  intro calls n h
  have hresume : ∀ s, Call.resume s ∉ calls := by simp [calls]
  have hlive : (n.readySet ⟨0⟩).hasConsumer = true := rfl
  obtain ⟨woken, hwakings, hsets⟩ := dispatched_in_order calls hresume
  obtain ⟨hcount, horder⟩ := hsets ⟨0⟩ hlive
  exact ⟨hresume, hlive, hcount, by decide, by decide, woken, hwakings, horder⟩

end Network

end Rendezvous
