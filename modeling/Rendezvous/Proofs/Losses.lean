import Mathlib.Algebra.BigOperators.Group.Finset.Basic
import Mathlib.Algebra.Order.Group.Multiset
import Rendezvous.Proofs.OperationSteps

/-!
# Failures that are delivered and failures that are given up

Where a failure goes can be seen from outside: a slot holds it, or a warning says that it is lost.

* **Observation** (`Network.accepted`, `Network.lost`): the failures that slots have accepted
  between two networks, and those that the log gives up.
* **Calm** (`Network.Calm`): no slot has accepted a failure and no failure was given up. Slots may
  still get to know that a wait is over. Most steps leave it calm (`Steps.calm`), and so does every
  operation that neither reports a failure nor ends with a pending one (`calm_operate`).
* **The others** (`Delivers.accepted_eq`, `lost_of_emit`): one delivery or one warning, with calm
  before and after, is all that is seen.
-/

namespace Rendezvous

variable {τ ε : Type}

/-! ## Observation -/

/-- The failure that waits in a slot to be taken. -/
def Slot.failure? : Slot ε → Option (Failure ε)
  | .filled r => r.failure?
  | _ => none

/-- The failure that a slot has accepted in between. -/
def Slot.accepted (before after : Slot ε) : Multiset (Failure ε) :=
  if before.isResolved then 0 else after.failure?.toList

theorem Slot.eq_empty {slot : Slot ε} (h : slot.isResolved = false) : slot = .empty := by
  cases slot <;> first | rfl | cases h

/-- A slot has not changed, or has got to know that a wait is over. -/
def Slot.Calm (before after : Slot ε) : Prop :=
  after = before ∨ before = .empty ∧ after = .filled .done

theorem Slot.Calm.trans {a b c : Slot ε} (hab : a.Calm b) (hbc : b.Calm c) : a.Calm c := by
  rcases hbc with rfl | ⟨rfl, rfl⟩
  · exact hab
  · rcases hab with rfl | ⟨-, hfilled⟩
    · exact .inr ⟨rfl, rfl⟩
    · cases hfilled

theorem Slot.Calm.accepted_eq_zero {a b : Slot ε} (h : a.Calm b) : a.accepted b = 0 := by
  unfold accepted
  rcases h with rfl | ⟨rfl, rfl⟩
  · cases b <;> rfl
  · rfl

/-- The failure that an event gives up, when `f` was reported while the failures `p` were pending.
-/
def Event.lost? (p : Pending ε) (f : Failure ε) : Event → Option (Failure ε)
  | .failureOverwritten _ => (p.get f.kind).map (Failure.mk f.kind)
  | .failureDropped _ => some f
  | _ => none

/-- Failures are given up with a warning. -/
theorem Event.level_of_isLoss {e : Event} (h : e.isLoss = true) : e.level = .warn := by
  cases e <;> first | rfl | cases h

theorem Event.lost?_of_not_isLoss {e : Event} (h : e.isLoss = false) (p : Pending ε)
    (f : Failure ε) : e.lost? p f = none := by
  cases e <;> first | rfl | cases h

namespace Network

/-- The failures that slots have accepted between two networks. -/
def accepted (n m : Network τ ε) : Multiset (Failure ε) :=
  ∑ i ∈ Finset.range m.slots.size, (n.slot ⟨i⟩).accepted (m.slot ⟨i⟩)

/-- The failures that the log gives up between two networks, when `f` was reported while the
failures `p` were pending. -/
def lost (p : Pending ε) (f : Failure ε) (n m : Network τ ε) : Multiset (Failure ε) :=
  (m.log.drop n.log.length).filterMap (Event.lost? p f)

/-! ## Calm -/

/-- The log has grown, and has given up no failure. -/
def Silent (n m : Network τ ε) : Prop := ∃ l, m.log = n.log ++ l ∧ ∀ e ∈ l, e.isLoss = false

theorem Silent.trans {n m l : Network τ ε} (hl : Silent n l) (hm : Silent l m) : Silent n m := by
  obtain ⟨a, ha, hquiet⟩ := hl
  obtain ⟨b, hb, hquiet'⟩ := hm
  refine ⟨a ++ b, by rw [hb, ha, List.append_assoc], fun e he => ?_⟩
  exact (List.mem_append.1 he).elim (hquiet e) (hquiet' e)

/-- No slot has accepted a failure and no failure has been given up. -/
structure Calm (n m : Network τ ε) : Prop where
  slot : ∀ d, (n.slot d).Calm (m.slot d)
  silent : n.Silent m

/-- Whether a step gives up no failure, and offers none to a slot. -/
def Gentle (n : Network τ ε) : Step τ ε → Prop
  | .emit e => e.isLoss = false
  | .fill d r => (n.slot d).isResolved = false ∧ r = .done
  | _ => True

variable {n m l : Network τ ε} {c : Channel.Ref}

theorem lenient_gentle : Lenient (Gentle (τ := τ) (ε := ε)) fun _ => True where
  emit {_ e} he := by cases e <;> first | rfl | cases he
  update _ _ := trivial

theorem Steps.calm (h : Steps Gentle n m) : Calm n m := by
  refine ⟨fun d => ?_, h.log (fun he => he) fun e he => by cases e <;> first | rfl | cases he⟩
  induction h with
  | refl => exact .inl rfl
  | step _ x hx ih =>
    refine ih.trans ?_
    cases x with
    | suspend s => exact .inl (slot_suspend ..)
    | markRunning s => exact .inl (slot_markRunning ..)
    | wake s => exact .inl (slot_wake ..)
    | fill e r =>
      obtain ⟨hopen, rfl⟩ := hx
      refine (slot_setSlot ..).symm ▸ ?_
      split
      · rename_i he
        exact .inr ⟨he ▸ Slot.eq_empty hopen, rfl⟩
      · exact .inl rfl
    | emit | update | coordinate | setTable => exact .inl rfl

/-- An operation that reports no failure, and does not end with a pending one. -/
theorem calm_operate {op : Operation τ ε} (hop : op.fails = false)
    (hend : ∀ d f, ¬ n.EndsWith c op d f) : Calm n (n.operate c op).1 := by
  refine (steps_operate (fun hx => ?_) fun hx => ?_).calm
  · cases hx with
    | update => trivial
    | @emit e he => cases e <;> first | rfl | cases he
  · cases hx with
    | emit he =>
      cases he with
      | plain he => exact lenient_gentle.emit he
      | lost hfails => rw [hop] at hfails; cases hfails
      | _ => rfl
    | release hp _ hm =>
      cases hp with
      | received | drained => exact ⟨hm, rfl⟩
      | failedFlush | failedSync => cases hop
    | settle hd => exact absurd hd (hend _ _)
    | _ => trivial

namespace Calm

theorem refl (n : Network τ ε) : Calm n n := Steps.refl.calm

theorem trans (hl : Calm n l) (hm : Calm l m) : Calm n m :=
  ⟨fun d => (hl.slot d).trans (hm.slot d), hl.silent.trans hm.silent⟩

theorem emit (h : Calm n m) {e : Event} (he : e.isLoss = false) : Calm n (m.emit e) :=
  h.trans (Steps.refl.emit he).calm

theorem updateChannel (h : Calm n m) (f : Channel τ ε → Channel τ ε) :
    Calm n (m.updateChannel c f) := h.trans (Steps.refl.update trivial).calm

theorem wake (h : Calm n m) (s : Strand.Ref) : Calm n (m.wake s) :=
  h.trans (Steps.refl.wake trivial).calm

theorem wakeReceiver (h : Calm n m) (c : Channel.Ref) : Calm n (m.wakeReceiver c) :=
  h.trans (Steps.refl.wakeReceiver lenient_gentle trivial fun _ _ _ => trivial).calm

/-- A resolved slot accepts nothing. -/
theorem refuse (h : Calm n m) {d : Slot.Ref} (hd : (m.slot d).isResolved = true)
    (r : Resolution ε) : Calm n (m.offer d r).1 := by
  rw [offer_resolved r hd]
  exact h

end Calm

variable {f : Failure ε}

/-- No failure is accepted where no slot gets one. -/
theorem accepted_eq_zero (h : ∀ d, (n.slot d).Calm (m.slot d)) : n.accepted m = 0 :=
  Finset.sum_eq_zero fun i _ => (h ⟨i⟩).accepted_eq_zero

theorem filterMap_lost?_eq_nil {l : List Event} (h : ∀ e ∈ l, e.isLoss = false) (p : Pending ε)
    (f : Failure ε) : l.filterMap (Event.lost? p f) = [] :=
  List.filterMap_eq_nil_iff.2 fun e he => Event.lost?_of_not_isLoss (h e he) p f

theorem lost_eq_zero (h : n.Silent m) (p : Pending ε) (f : Failure ε) : lost p f n m = 0 := by
  obtain ⟨l, hl, hquiet⟩ := h
  unfold lost
  rw [hl, List.drop_left, filterMap_lost?_eq_nil hquiet]
  rfl

/-! ## Deliveries and warnings -/

/-- A failure has been delivered to a slot, and otherwise nothing has happened to failures. -/
def Delivers (f : Failure ε) (n m : Network τ ε) : Prop :=
  ∃ l d, Calm n l ∧ (l.slot d).isResolved = false ∧ Calm (l.setSlot d (.filled (.failed f))) m

theorem Delivers.of_calm (hl : Calm n l) (h : Delivers f l m) : Delivers f n m := by
  obtain ⟨k, d, hk, hd, hm⟩ := h
  exact ⟨k, d, hl.trans hk, hd, hm⟩

theorem Delivers.calm (h : Delivers f n l) (hm : Calm l m) : Delivers f n m := by
  obtain ⟨k, d, hk, hd, hl⟩ := h
  exact ⟨k, d, hk, hd, hl.trans hm⟩

/-- An unresolved slot accepts a failure that it is offered. -/
theorem Delivers.offer {d : Slot.Ref} (hd : (n.slot d).isResolved = false) :
    Delivers f n (n.offer d (.failed f)).1 := by
  rw [offer_open _ hd]
  exact ⟨n, d, .refl n, hd, .refl _⟩

/-- A suspended sender gets the failure, or hands it back. -/
theorem Delivers.deliver (h : Calm n l) {p : Party} {o : Option (Resolution ε)}
    (hm : l.deliver p (.failed f) = (m, o)) :
    o = none ∧ Delivers f n m ∨ o = some (.failed f) ∧ Calm n m := by
  cases hd : (l.slot p.slot).isResolved with
  | true =>
    rw [deliver_resolved _ hd] at hm
    obtain ⟨rfl, rfl⟩ := Prod.mk.inj hm
    exact .inr ⟨rfl, h.emit rfl⟩
  | false =>
    rw [deliver_open _ hd] at hm
    obtain ⟨rfl, rfl⟩ := Prod.mk.inj hm
    exact .inl ⟨rfl, l, p.slot, h, hd, (Calm.refl _).wake _⟩

theorem Delivers.silent (h : Delivers f n m) : n.Silent m := by
  obtain ⟨l, d, hl, -, hm⟩ := h
  exact hl.silent.trans (l := l) hm.silent

/-- The failure that is delivered is the only one accepted. -/
theorem Delivers.accepted_eq (h : Delivers f n m) : n.accepted m = {f} := by
  obtain ⟨l, d, hl, hd, hm⟩ := h
  have hempty : n.slot d = .empty := by
    rcases hl.slot d with hsame | ⟨hempty, -⟩
    · exact Slot.eq_empty (hsame ▸ hd)
    · exact hempty
  have hfilled : m.slot d = .filled (.failed f) := by
    have hset := slot_setSlot l d (.filled (.failed f)) d
    rw [if_pos rfl] at hset
    rcases hm.slot d with hsame | ⟨hno, -⟩
    · rw [hsame, hset]
    · rw [hset] at hno
      cases hno
  have hother : ∀ e, e ≠ d → (n.slot e).accepted (m.slot e) = 0 := by
    intro e he
    have hset := slot_setSlot l d (.filled (.failed f)) e
    rw [if_neg he] at hset
    exact ((hl.slot e).trans (hset ▸ hm.slot e)).accepted_eq_zero
  have hwritten : m.slot d ≠ default := hfilled ▸ nofun
  have hsize : d.index ∈ Finset.range m.slots.size :=
    Finset.mem_range.2 (Store.index_lt_size hwritten)
  refine (Finset.sum_eq_single_of_mem d.index hsize fun i _ hi => hother ⟨i⟩ ?_).trans ?_
  · rintro rfl
    exact hi rfl
  · change (n.slot d).accepted (m.slot d) = _
    rw [hempty, hfilled]
    rfl

/-- A warning between silent steps is all that they give up. -/
theorem lost_of_emit {e : Event} (hl : n.Silent l) (hm : (l.emit e).Silent m) (p : Pending ε)
    (f : Failure ε) : lost p f n m = (e.lost? p f).toList := by
  obtain ⟨a, ha, hquiet⟩ := hl
  obtain ⟨b, hb, hquiet'⟩ := hm
  have hlog : m.log.drop n.log.length = a ++ [e] ++ b := by
    rw [hb, show (l.emit e).log = l.log ++ [e] from rfl, ha, List.append_assoc, List.append_assoc,
      List.drop_left, List.append_assoc]
  unfold lost
  rw [hlog, List.filterMap_append, List.filterMap_append, filterMap_lost?_eq_nil hquiet,
    filterMap_lost?_eq_nil hquiet', List.nil_append, List.append_nil]
  cases he : e.lost? p f <;> simp [he]

end Network

end Rendezvous
