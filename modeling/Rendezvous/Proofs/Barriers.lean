import Rendezvous.Proofs.FailureRouting
import Rendezvous.Proofs.SlotHistory

/-!
# What barriers are told

A barrier counts channels, not notifications, and completes once, whatever else happens to its slot
and to its strand.

* **Tellings** (`Telling`): a coordinator is told that a channel has drained, together with the
  network in which this happens.
* **Tellings of a run** (`Network.tellings`): whoever tells, by hand or through a channel. Between
  two tellings no coordinator changes but by being created, and no resolved slot becomes unresolved
  (`Network.Hears`, `hears_run`).
* **What is known** (`Network.Informed`): a coordinator knows the channels that it was told of, and
  a barrier that knows enough of them has a resolved slot. Every telling keeps this
  (`Informed.tell`).
* **Completion** (`Completes`): a telling that makes the number of different channels what the
  barrier expects. It is the only one that has an effect on anything else
  (`released_notifyDrained`, `untouched_notifyDrained`), and comes once
  (`barrier_completes_once`).
-/

namespace Rendezvous

variable {τ ε : Type}

/-- The channels that a coordinator knows to have drained. -/
def Coordinator.known : Coordinator → List ChannelId
  | .barrier b => b.drained
  | .drainLog ids => ids

/-! ## Tellings -/

/-- A coordinator is told that a channel has drained. -/
structure Telling (τ ε : Type) where
  before : Network τ ε
  coordinator : Coordinator.Ref
  channel : ChannelId

namespace Telling

/-- The network after a telling. -/
def after (x : Telling τ ε) : Network τ ε := x.before.notifyDrained x.coordinator x.channel

/-- What the coordinator offers then, and to which slot. -/
def offers (x : Telling τ ε) : List (Slot.Ref × Resolution ε) :=
  (x.before.coordinatorHandlings x.coordinator x.channel).filterMap (·.offered?)

end Telling

/-- The tellings to one coordinator. -/
def tellingsTo (k : Coordinator.Ref) (l : List (Telling τ ε)) : List (Telling τ ε) :=
  l.filter (·.coordinator = k)

theorem tellingsTo_cons (k : Coordinator.Ref) (x : Telling τ ε) (l : List (Telling τ ε)) :
    tellingsTo k (x :: l) = if x.coordinator = k then x :: tellingsTo k l else tellingsTo k l := by
  simp [tellingsTo, List.filter_cons]

/-- The channels of which a coordinator is told. -/
def toldOf (l : List (Telling τ ε)) : List ChannelId := l.map (·.channel)

theorem toldOf_snoc (past : List (Telling τ ε)) (x : Telling τ ε) :
    toldOf (past ++ [x]) = toldOf past ++ [x.channel] := List.map_append

/-- What holds of each element of a list and those before it, and of one more behind them. -/
theorem forall_split_snoc {α : Type} {P : List α → α → Prop} {past : List α} {y : α}
    (h : ∀ a x rest, past = a ++ x :: rest → P a x) (hy : P past y) :
    ∀ a x rest, past ++ [y] = a ++ x :: rest → P a x := by
  intro a x rest hsplit
  rcases List.eq_nil_or_concat rest with rfl | ⟨rest, z, rfl⟩
  · obtain ⟨rfl, hx⟩ := List.append_inj' hsplit rfl
    cases hx
    exact hy
  · rw [List.concat_eq_append, ← List.cons_append, ← List.append_assoc] at hsplit
    exact h a x rest (List.append_inj' hsplit rfl).1

/-- How many different channels there are. -/
def distinct (ids : List ChannelId) : Nat := ids.eraseDups.length

/-- Being told of one more channel makes the number of different ones what is expected. -/
def Completes (expected : Nat) (past : List ChannelId) (id : ChannelId) : Prop :=
  distinct past < expected ∧ distinct (past ++ [id]) = expected

instance (expected : Nat) (past : List ChannelId) (id : ChannelId) :
    Decidable (Completes expected past id) := inferInstanceAs (Decidable (_ ∧ _))

theorem eraseDups_snoc (past : List ChannelId) (id : ChannelId) : (past ++ [id]).eraseDups =
    if id ∈ past then past.eraseDups else past.eraseDups ++ [id] := by
  rw [List.eraseDups_append]
  split
  · rename_i h
    simp [List.removeAll, h]
  · rename_i h
    simp [List.removeAll, h, List.eraseDups_cons]

theorem completes_iff {expected : Nat} {past : List ChannelId} {id : ChannelId} :
    Completes expected past id ↔ id ∉ past.eraseDups ∧ past.eraseDups.length + 1 = expected := by
  unfold Completes distinct
  rw [eraseDups_snoc, List.mem_eraseDups]
  by_cases h : id ∈ past
  · rw [if_pos h]
    simp only [h, not_true_eq_false, false_and, iff_false]
    omega
  · rw [if_neg h, List.length_append, List.length_singleton]
    simp only [h, not_false_eq_true, true_and]
    omega

/-! ## Tellings of a run -/

namespace Network

section
variable (n : Network τ ε) (c : Channel.Ref)

/-- Telling the coordinator of the flushing sender, if a received value has drained the channel. -/
def drainTellings : List (Telling τ ε) :=
  match (n.channel c).drainedSender? with
  | none => []
  | some p =>
    let n := n.updateChannel c fun channel => { channel with flushSender := none }
    [⟨n.emit (.flushDrained (n.channelTag c) (n.strandTag p.strand)), p.coordinator, c.id⟩]

/-- What an operation tells. -/
def operationTellings : Operation τ ε → List (Telling τ ε)
  | .receive s =>
    match (n.channel c).queue with
    | m :: rest => (n.takeMessage c s m rest).drainTellings c
    | [] => []
  | .flush s _ k =>
    match (n.channel c).pending.take? with
    | some _ => []
    | none =>
      if (n.channel c).isDrained then
        [⟨n.emit (.flushNothing (n.channelTag c) (n.strandTag s)), k, c.id⟩]
      else []
  | _ => []

end

end Network

/-- What a deed tells. -/
def Deed.tellings (x : Deed τ ε) : List (Telling τ ε) :=
  match x.act with
  | .operate op => x.before.operationTellings x.channel op
  | .withdraw _ => []

namespace Network

/-- What a call tells. -/
def tellingsOf (n : Network τ ε) : Call τ ε → List (Telling τ ε)
  | .notifyDrained k id => [⟨n, k, id⟩]
  | call => (n.deedsOf call).flatMap Deed.tellings

/-- What a run tells, oldest first. -/
def tellings (n : Network τ ε) : List (Call τ ε) → List (Telling τ ε)
  | [] => []
  | call :: calls => n.tellingsOf call ++ (n.perform call).1.tellings calls

/-! ### Nothing in between -/

/-- Every coordinator is as it was, or has been created, and every resolved slot still is
resolved. -/
structure Quiet (n m : Network τ ε) : Prop where
  coordinator : ∀ k, m.coordinator k = n.coordinator k ∨
    n.coordinator k = default ∧ (m.coordinator k).known = []
  resolved : ∀ d, (n.slot d).isResolved = true → (m.slot d).isResolved = true

/-- These tellings lead from one network to another, and no coordinator learns anything else. -/
def Hears (n : Network τ ε) : List (Telling τ ε) → Network τ ε → Prop
  | [], m => n.Quiet m
  | x :: l, m => n.Quiet x.before ∧ x.after.Hears l m

variable {n m l : Network τ ε} {c : Channel.Ref}

namespace Quiet

theorem refl (n : Network τ ε) : n.Quiet n := ⟨fun _ => .inl rfl, fun _ => id⟩

theorem trans (h : n.Quiet m) (h' : m.Quiet l) : n.Quiet l := by
  refine ⟨fun k => ?_, fun d hd => h'.resolved d (h.resolved d hd)⟩
  obtain hk' | ⟨hdefault, hnew⟩ := h'.coordinator k
  · rw [hk']
    exact h.coordinator k
  · obtain hk | ⟨hk, -⟩ := h.coordinator k
    · exact .inr ⟨hk.symm.trans hdefault, hnew⟩
    · exact .inr ⟨hk, hnew⟩

/-- What moves no coordinator is quiet. -/
theorem moves {S : Strand.Ref → Prop} {D : Slot.Ref → Prop} {C : Channel.Ref → Prop}
    (h : Moves S D C (fun _ => False) n m) : n.Quiet m :=
  ⟨fun _ => .inl (h.coordinator id), fun _ hd => (h.resolved hd).symm ▸ hd⟩

/-- So is a change of anything but coordinators and slots. -/
theorem same (hk : m.coordinators = n.coordinators) (hd : m.slots = n.slots) : n.Quiet m :=
  ⟨fun k => .inl (by rw [Network.coordinator, hk]), fun d => by rw [slot, slot, hd]; exact id⟩

theorem emit (h : n.Quiet m) (e : Event) : n.Quiet (m.emit e) := h.trans (.same rfl rfl)

theorem updateChannel (h : n.Quiet m) (c : Channel.Ref) (f : Channel τ ε → Channel τ ε) :
    n.Quiet (m.updateChannel c f) := h.trans (.same rfl rfl)

theorem setSlot {d : Slot.Ref} {x : Slot ε}
    (hx : (n.slot d).isResolved = true → x.isResolved = true) : n.Quiet (n.setSlot d x) := by
  refine ⟨fun _ => .inl rfl, fun e he => ?_⟩
  rw [slot_setSlot]
  split
  · rename_i h
    exact hx (h ▸ he)
  · exact he

/-- A new coordinator knows nothing. -/
theorem create {x : Coordinator} (hx : x.known = []) :
    n.Quiet (n.setCoordinator n.coordinators.fresh x) := by
  refine ⟨fun k => ?_, fun _ => id⟩
  rw [coordinator_setCoordinator]
  split
  · rename_i hk
    exact .inr ⟨hk ▸ Store.get_fresh n.coordinators, hx⟩
  · exact .inl rfl

end Quiet

namespace Hears

variable {h h' : List (Telling τ ε)}

theorem single (hq : n.Quiet m) (k : Coordinator.Ref) (id : ChannelId) :
    n.Hears [⟨m, k, id⟩] (m.notifyDrained k id) := ⟨hq, .refl _⟩

theorem behind (hq : n.Quiet m) (hl : m.Hears h l) : n.Hears h l := by
  cases h with
  | nil => exact hq.trans hl
  | cons x h => exact ⟨hq.trans hl.1, hl.2⟩

theorem append (hm : n.Hears h m) (hl : m.Hears h' l) : n.Hears (h ++ h') l := by
  induction h generalizing n with
  | nil => exact hl.behind hm
  | cons x h ih => exact ⟨hm.1, ih hm.2⟩

theorem quiet (hm : n.Hears h m) (hl : m.Quiet l) : n.Hears h l := by
  have happend : n.Hears (h ++ []) l := hm.append hl
  rwa [List.append_nil] at happend

theorem noteDrained (hq : n.Quiet m) (c : Channel.Ref) :
    n.Hears (m.drainTellings c) (m.noteDrained c) := by
  unfold drainTellings Network.noteDrained
  cases (m.channel c).drainedSender? with
  | none => exact hq
  | some p => exact single (.emit (hq.updateChannel c _) _) p.coordinator c.id

theorem receive (n : Network τ ε) (c : Channel.Ref) (s : Strand.Ref) :
    n.Hears (n.operationTellings c (.receive s)) (n.receive c s).1 := by
  have parked : n.Quiet (n.parkReceiver c s) := by
    refine ⟨fun k => .inl ?_, fun d hd => ?_⟩
    · unfold parkReceiver
      rw [coordinator_emit, coordinator_updateChannel, coordinator_suspend]
      split
      · rfl
      · split <;> rfl
    · rwa [((Still.refl n).parkReceiver c s).slot d]
  unfold operationTellings Network.receive
  cases (n.channel c).queue with
  | cons m rest =>
    have htake : Moves.Free n (n.takeMessage c s m rest) :=
      .takeMessage (Moves.anything_intro c) s fun p _ _ =>
        ⟨Moves.anything_intro p.strand, Moves.anything_intro p.slot⟩
    exact noteDrained (.moves htake) c
  | nil =>
    dsimp only
    split
    · exact .same rfl rfl
    · exact parked

theorem flush (n : Network τ ε) (c : Channel.Ref) (s : Strand.Ref) (d : Slot.Ref)
    (k : Coordinator.Ref) :
    n.Hears (n.operationTellings c (.flush s d k)) (n.flush c s d k).1 := by
  have hn : Moves.Free n n := .refl
  unfold operationTellings Network.flush
  cases (n.channel c).pending.take? with
  | some r =>
    exact .moves (.offer (.emit (.change hn (Moves.anything_intro c) (.inl rfl) (.inl rfl)
      (.inl rfl)) _) _ fun _ => Moves.anything_intro d)
  | none =>
    dsimp only
    split
    · exact single (.emit (.refl n) _) k c.id
    · refine ⟨fun j => .inl ?_, fun e he => ?_⟩
      · unfold parkFlushSender
        dsimp only
        split <;> simp
      · rwa [((Still.refl n).parkFlushSender c ⟨s, d⟩ k).slot e]

theorem operate (n : Network τ ε) (c : Channel.Ref) (op : Operation τ ε) :
    n.Hears (n.operationTellings c op) (n.operate c op).1 := by
  have hn : Moves.Free n n := .refl
  have hc := Moves.anything_intro c
  have both : ∀ p : Party, Moves.anything p.strand ∧ Moves.anything p.slot :=
    fun p => ⟨Moves.anything_intro p.strand, Moves.anything_intro p.slot⟩
  cases op with
  | receive s => exact receive n c s
  | flush s d k => exact flush n c s d k
  | send value s => exact .moves (hn.send hc value s fun t _ => Moves.anything_intro t)
  | syncSend value s d =>
    exact .moves (hn.syncSend hc value (both ⟨s, d⟩).1 (both ⟨s, d⟩).2
      fun t _ => Moves.anything_intro t)
  | failSend f => exact .moves (hn.failSend hc f fun t _ => Moves.anything_intro t)
  | failReceive f =>
    have hmoves : Moves.Free n (n.failReceive c f) :=
      .failReceive hc f (fun p _ _ => both p.toParty) fun p _ _ => both p
    exact .moves hmoves

theorem deed (x : Deed τ ε) : x.before.Hears x.tellings x.after := by
  obtain ⟨n, c, act⟩ := x
  cases act with
  | operate op => exact operate n c op
  | withdraw d =>
    have hn : Moves.Free n n := .refl
    exact .moves (hn.withdrawAll d fun x (_ : x ∈ [c]) => Moves.anything_intro x)

theorem leads {deeds : List (Deed τ ε)} (h : n.Leads deeds m) :
    n.Hears (deeds.flatMap Deed.tellings) m := by
  induction deeds generalizing n with
  | nil =>
    obtain rfl : m = n := h
    exact .refl m
  | cons x deeds ih =>
    obtain ⟨rfl, hleads⟩ := h
    exact (deed x).append (ih hleads)

theorem flushAll (n : Network τ ε) (cs : List Channel.Ref) (s : Strand.Ref) (d : Slot.Ref) :
    n.Hears (n.tellingsOf (.flushAll cs s d)) (n.flushAll cs s d).1 := by
  have hn : ∀ m : Network τ ε, Moves.Free m m := fun _ => .refl
  by_cases hcs : cs = []
  · subst hcs
    exact .moves ((hn n).offer _ fun _ => Moves.anything_intro d)
  · obtain ⟨m, hleads, hm⟩ := n.flushAll_deeds hcs s d
    have hl : n.Hears (n.tellingsOf (.flushAll cs s d)) m := (leads hleads).behind (.create rfl)
    obtain hm | hm := hm
    · rw [hm]
      exact hl
    · rw [hm]
      exact hl.quiet (.moves ((hn m).markRunning (Moves.anything_intro s)))

end Hears

/-- A call leads through its tellings. -/
theorem hears_perform (n : Network τ ε) (call : Call τ ε) :
    n.Hears (n.tellingsOf call) (n.perform call).1 := by
  have hn : Moves.Free n n := .refl
  cases call with
  | notifyDrained k id => exact .single (.refl n) k id
  | flushAll cs s d => exact .flushAll n cs s d
  | operate c op =>
    have hl := Hears.operate n c op
    rwa [← List.append_nil (n.operationTellings c op)] at hl
  | offer d r => exact .moves (hn.offer r fun _ => Moves.anything_intro d)
  | wake s => exact .moves (hn.wake (Moves.anything_intro s))
  | markRunning s => exact .moves (hn.markRunning (Moves.anything_intro s))
  | take d =>
    have hd : (n.slot d).take.2.isResolved = (n.slot d).isResolved := Slot.isResolved_take _
    exact .setSlot fun h => hd.trans h
  | createSlot =>
    refine .setSlot fun h => ?_
    rw [slot, Store.get_fresh] at h
    cases h
  | createDrainLog | createBarrier => exact .create rfl
  | dispatch q =>
    change n.Quiet (n.dispatch q).1
    unfold dispatch
    split <;> exact .same rfl rfl
  | poll q held =>
    change n.Quiet (n.poll q held).1
    rw [fst_poll]
    unfold dispatch
    split <;> exact .same rfl rfl
  | lookupOrCreate t name =>
    change n.Quiet (n.lookupOrCreate t name).1
    unfold lookupOrCreate
    split <;> exact .same rfl rfl
  | _ => exact .same rfl rfl

/-- So does a run. -/
theorem hears_run (n : Network τ ε) (calls : List (Call τ ε)) :
    n.Hears (n.tellings calls) (n.run calls) := by
  induction calls generalizing n with
  | nil => exact .refl n
  | cons call calls ih => exact (n.hears_perform call).append (ih _)

/-! ## Completion -/

variable {k : Coordinator.Ref} {b : Barrier} {id : ChannelId}

/-- A barrier that has not heard of enough channels, or is told of one again, touches nobody, and
neither does one whose slot is resolved. -/
theorem untouched_notifyDrained (hk : n.coordinator k = .barrier b)
    (h : ¬ (id ∉ b.drained ∧ b.drained.length + 1 = b.expected) ∨
      (n.slot b.slot).isResolved = true) : n.Untouched (n.notifyDrained k id) := by
  have hlen : (b.note id).drainedCount = b.drained.length + 1 := by
    simp [Barrier.note, Barrier.drainedCount]
  unfold notifyDrained
  rw [hk]
  dsimp only
  split
  · exact .emit (.refl n) rfl
  · rename_i hid
    have noted : n.Untouched ((n.setCoordinator k (.barrier (b.note id))).emit
        (.drainNoted id ((n.setCoordinator k (.barrier (b.note id))).strandTag (b.note id).strand)
          (b.note id).drainedCount (b.note id).expected)) :=
      ⟨rfl, rfl, rfl, attempts_emit (n.setCoordinator k _) rfl⟩
    split
    · rename_i hlast
      have hresolved := h.resolve_left fun hno => hno ⟨hid, hlen.symm.trans hlast⟩
      rw [completeBarrier_resolved (n := (n.setCoordinator k _).emit _) (b := b.note id) hresolved]
      exact noted
    · exact noted

/-- A barrier that has just heard of enough channels fills its slot and wakes its strand. -/
theorem released_notifyDrained (hk : n.coordinator k = .barrier b) (hid : id ∉ b.drained)
    (hlast : b.drained.length + 1 = b.expected) (ho : (n.slot b.slot).isResolved = false) :
    (∀ d, (n.notifyDrained k id).slot d = if d = b.slot then .filled .done else n.slot d) ∧
      n.WakesOnly b.strand (n.notifyDrained k id) := by
  have hcount : (b.note id).drainedCount = (b.note id).expected := by
    simpa [Barrier.note, Barrier.drainedCount] using hlast
  unfold notifyDrained
  simp only [hk, if_neg hid, if_pos hcount]
  rw [completeBarrier_open (n := (n.setCoordinator k _).emit _) (b := b.note id) ho]
  refine ⟨fun d => ?_, ?_, ?_, ?_⟩
  · rw [slot_wake, slot_emit, slot_setSlot]
    rfl
  · rw [attempts_wake, attempts_emit _ rfl]
    exact congrArg (· ++ _) (attempts_emit (n.setCoordinator k _) rfl)
  · refine (wake_congr (n := n) ?_ ?_ _).1 <;> rfl
  · refine (wake_congr (n := n) ?_ ?_ _).2 <;> rfl

/-- A barrier makes its offer when it has just heard of enough channels, whether or not its slot
accepts it. -/
theorem offers_of_barrier (hk : n.coordinator k = .barrier b) (id : ChannelId) :
    (⟨n, k, id⟩ : Telling τ ε).offers =
      if id ∉ b.drained ∧ b.drained.length + 1 = b.expected then [(b.slot, .done)] else [] := by
  have hlen : (b.note id).drainedCount = b.drained.length + 1 := by
    simp [Barrier.note, Barrier.drainedCount]
  unfold Telling.offers coordinatorHandlings
  simp only [hk, hlen]
  by_cases hid : id ∈ b.drained
  · rw [if_pos hid, if_neg fun h => h.1 hid]
    rfl
  · rw [if_neg hid]
    by_cases hlast : b.drained.length + 1 = b.expected
    · rw [if_pos (show _ = (b.note id).expected from hlast), if_pos ⟨hid, hlast⟩]
      rfl
    · rw [if_neg (show ¬ _ = (b.note id).expected from hlast), if_neg fun h => hlast h.2]
      rfl

/-! ## What is known -/

theorem isComplete_iff : b.isComplete = true ↔ b.expected ≤ b.drained.length := decide_eq_true_iff

theorem isComplete_note :
    (b.note id).isComplete = true ↔ b.expected ≤ b.drained.length + 1 := by
  rw [isComplete_iff, Barrier.note, List.length_append, List.length_singleton]

/-- What the barrier `b` is in `n`, if it has been told `past`: it has noted each channel once, it
has made its offer if it has heard of enough channels, and its slot is resolved then. The tellings
found it as it was at the time. -/
structure Noted (n : Network τ ε) (k : Coordinator.Ref) (past : List (Telling τ ε)) (b : Barrier) :
    Prop where
  drained : b.drained = (toldOf past).eraseDups
  offers : 1 ≤ b.expected → past.flatMap (·.offers) =
    if b.isComplete then [(b.slot, .done)] else []
  resolved : 1 ≤ b.expected → b.isComplete = true → (n.slot b.slot).isResolved = true
  found : ∀ a x rest, past = a ++ x :: rest → x.coordinator = k ∧
    x.before.coordinator k = .barrier { b with drained := (toldOf a).eraseDups }

/-- A coordinator knows what it has been told. -/
structure Informed (n : Network τ ε) (k : Coordinator.Ref) (past : List (Telling τ ε)) : Prop where
  drainLog : ∀ ids, n.coordinator k = .drainLog ids → ids = toldOf past
  barrier : ∀ b, n.coordinator k = .barrier b → n.Noted k past b

namespace Informed

variable {past : List (Telling τ ε)}

theorem quiet (h : n.Informed k past) (hq : n.Quiet m) : m.Informed k past := by
  obtain hk | ⟨hdefault, hnew⟩ := hq.coordinator k
  · refine ⟨fun ids hids => h.drainLog ids (hk ▸ hids), fun b hb => ?_⟩
    have hb := h.barrier b (hk ▸ hb)
    exact ⟨hb.drained, hb.offers, fun he hc => hq.resolved _ (hb.resolved he hc), hb.found⟩
  · have hnil : past = [] := List.map_eq_nil_iff.1 (h.drainLog [] hdefault).symm
    subst hnil
    refine ⟨fun ids hids => ?_, fun b hb => ?_⟩
    · rw [hids] at hnew
      exact hnew
    · rw [hb] at hnew
      have hincomplete : 1 ≤ b.expected → b.isComplete = false := by
        intro he
        rw [Barrier.isComplete, Barrier.drainedCount, show b.drained = [] from hnew]
        exact decide_eq_false (by simp; omega)
      refine ⟨hnew, fun he => by rw [hincomplete he]; rfl, fun he hc => ?_, fun a x rest ha => ?_⟩
      · rw [hincomplete he] at hc
        cases hc
      · exact absurd ha (by simp)

/-- Telling another coordinator is quiet for this one. -/
theorem tell_other {x : Telling τ ε} (h : x.before.Informed k past) (hx : x.coordinator ≠ k) :
    x.after.Informed k past := by
  have hmoves : Moves Moves.anything Moves.anything Moves.anything (· ≠ k) x.before x.after :=
    Moves.notifyDrained .refl x.channel hx fun b _ _ =>
      ⟨Moves.anything_intro b.strand, Moves.anything_intro b.slot⟩
  have hk : x.after.coordinator k = x.before.coordinator k := hmoves.coordinator fun h => h rfl
  refine ⟨fun ids hids => h.drainLog ids (hk ▸ hids), fun b hb => ?_⟩
  have hb := h.barrier b (hk ▸ hb)
  refine ⟨hb.drained, hb.offers, fun he hc => ?_, hb.found⟩
  rw [hmoves.resolved (hb.resolved he hc)]
  exact hb.resolved he hc

/-- Telling a barrier of a channel that it has noted. -/
theorem tell_again (h : n.Noted k past b) (hb : n.coordinator k = .barrier b)
    (hid : id ∈ b.drained) : (n.notifyDrained k id).Noted k (past ++ [⟨n, k, id⟩]) b := by
  have htold : id ∈ toldOf past := by rwa [h.drained, List.mem_eraseDups] at hid
  have hrests : n.Untouched (n.notifyDrained k id) :=
    untouched_notifyDrained hb (.inl fun hand => hand.1 hid)
  have hnone : (⟨n, k, id⟩ : Telling τ ε).offers = [] :=
    (offers_of_barrier hb id).trans (if_neg fun hand => hand.1 hid)
  refine ⟨?_, fun he => ?_, fun he hc => ?_, forall_split_snoc h.found ⟨rfl, ?_⟩⟩
  · rw [toldOf_snoc, eraseDups_snoc, if_pos htold, h.drained]
  · rw [List.flatMap_append, List.flatMap_singleton, hnone, List.append_nil, h.offers he]
  · rw [hrests.slot]
    exact h.resolved he hc
  · rw [← h.drained, hb]

/-- Telling a barrier of a channel that it notes now. It completes by this, or is as complete as it
was before. -/
theorem tell_new (h : n.Noted k past b) (hb : n.coordinator k = .barrier b)
    (hid : id ∉ b.drained) :
    (n.notifyDrained k id).Noted k (past ++ [⟨n, k, id⟩]) (b.note id) := by
  have htold : id ∉ toldOf past := by rwa [h.drained, List.mem_eraseDups] at hid
  have hoffers := offers_of_barrier hb id
  have hdrained : (b.note id).drained = (toldOf (past ++ [⟨n, k, id⟩])).eraseDups := by
    rw [toldOf_snoc, eraseDups_snoc, if_neg htold, ← h.drained, Barrier.note]
  have hfound : n.coordinator k = .barrier { b with drained := (toldOf past).eraseDups } := by
    rw [← h.drained, hb]
  by_cases hlast : b.drained.length + 1 = b.expected
  · have hbefore : ¬ b.isComplete = true := fun hc => by
      have hle := isComplete_iff.1 hc
      omega
    have hafter : (b.note id).isComplete = true := isComplete_note.2 (Nat.le_of_eq hlast.symm)
    refine ⟨hdrained, fun he => ?_, fun _ _ => ?_, forall_split_snoc h.found ⟨rfl, hfound⟩⟩
    · rw [List.flatMap_append, List.flatMap_singleton, h.offers he, hoffers, if_neg hbefore,
        if_pos ⟨hid, hlast⟩, if_pos hafter]
      rfl
    · cases ho : (n.slot b.slot).isResolved with
      | true =>
        rw [(untouched_notifyDrained hb (.inr ho)).slot]
        exact ho
      | false =>
        rw [(released_notifyDrained hb hid hlast ho).1, Barrier.note, if_pos rfl]
        rfl
  · have hsame : (b.note id).isComplete = b.isComplete := by
      rw [Bool.eq_iff_iff, isComplete_note, isComplete_iff]
      omega
    refine ⟨hdrained, fun he => ?_, fun he hc => ?_, forall_split_snoc h.found ⟨rfl, hfound⟩⟩
    · have hnone := hoffers.trans (if_neg fun hand => hlast hand.2)
      rw [List.flatMap_append, List.flatMap_singleton, hnone, List.append_nil, h.offers he, hsame]
      rfl
    · rw [(untouched_notifyDrained hb (.inl fun hand => hlast hand.2)).slot]
      exact h.resolved he (hsame ▸ hc)

/-- Telling a coordinator. -/
theorem tell (h : n.Informed k past) (id : ChannelId) :
    (n.notifyDrained k id).Informed k (past ++ [⟨n, k, id⟩]) := by
  have hafter : (n.notifyDrained k id).coordinator k = (n.coordinator k).note id := by
    rw [coordinator_notifyDrained, if_pos rfl]
  cases hk : n.coordinator k with
  | drainLog ids =>
    rw [hk, Coordinator.note] at hafter
    refine ⟨fun l hl => ?_, fun b hb => ?_⟩
    · rw [hafter] at hl
      cases hl
      rw [toldOf_snoc, h.drainLog ids hk]
    · rw [hafter] at hb
      cases hb
  | barrier b =>
    rw [hk, Coordinator.note] at hafter
    refine ⟨fun l hl => ?_, fun b' hb' => ?_⟩
    · rw [hafter] at hl
      cases hl
    · rw [hafter] at hb'
      cases hb'
      by_cases hid : id ∈ b.drained
      · rw [if_pos hid]
        exact tell_again (h.barrier b hk) hk hid
      · rw [if_neg hid]
        exact tell_new (h.barrier b hk) hk hid

end Informed

/-- What was told along the way is known in the end. -/
theorem Hears.informed {h past : List (Telling τ ε)} (hm : n.Hears h m) (hn : n.Informed k past) :
    m.Informed k (past ++ tellingsTo k h) := by
  -- Along the tellings: what is told already moves to `past`.
  induction h generalizing n past with
  | nil =>
    rw [tellingsTo, List.filter_nil, List.append_nil]
    exact hn.quiet hm
  | cons x h ih =>
    have hx := hn.quiet hm.1
    rw [tellingsTo_cons]
    split
    · rename_i hk
      subst hk
      have htold := ih hm.2 (hx.tell x.channel)
      rwa [List.append_assoc] at htold
    · rename_i hk
      exact ih hm.2 (hx.tell_other hk)

/-- In every run a coordinator knows what it has been told. -/
theorem informed_run (calls : List (Call τ ε)) (k : Coordinator.Ref) :
    (({} : Network τ ε).run calls).Informed k
      (tellingsTo k (({} : Network τ ε).tellings calls)) := by
  have hstart : ({} : Network τ ε).Informed k [] := by
    refine ⟨fun ids hids => ?_, nofun⟩
    cases hids
    rfl
  exact (hears_run {} calls).informed hstart

/-! ## Runs -/

/-- In every run, whoever tells a barrier, how often, and of which channels, and whatever else
happens to its slot and to its strand: the barrier has counted the different channels it was told
of. If it expects one at least, it has made one offer if that count has reached what it expects, and
none before; its slot is resolved then. The offer is made in the telling by which the count becomes
what the barrier expects. That telling fills the slot and wakes the strand if the slot is
unresolved. Apart from this, no telling touches a slot, a strand or a ready set. -/
theorem barrier_completes_once (calls : List (Call τ ε)) (k : Coordinator.Ref) (b : Barrier) :
    let n := ({} : Network τ ε).run calls
    let told := tellingsTo k (({} : Network τ ε).tellings calls)
    n.coordinator k = .barrier b → 1 ≤ b.expected →
    b.drainedCount = distinct (toldOf told) ∧
      told.flatMap (·.offers) = (if b.isComplete then [(b.slot, .done)] else []) ∧
      (b.isComplete = true → (n.slot b.slot).isResolved = true) ∧
      ∀ past x rest, told = past ++ x :: rest →
        if Completes b.expected (toldOf past) x.channel then
          x.offers = [(b.slot, .done)] ∧
            if (x.before.slot b.slot).isResolved then x.before.Untouched x.after
            else (∀ d, x.after.slot d = if d = b.slot then .filled .done else x.before.slot d) ∧
              x.before.WakesOnly b.strand x.after
        else x.offers = [] ∧ x.before.Untouched x.after := by
  intro n told hb he
  have hnoted : n.Noted k told b := (informed_run calls k).barrier b hb
  refine ⟨congrArg List.length hnoted.drained, hnoted.offers he, hnoted.resolved he, ?_⟩
  intro past x rest hsplit
  obtain ⟨l, j, id⟩ := x
  obtain ⟨hj, hfound⟩ := hnoted.found past _ rest hsplit
  obtain rfl : j = k := hj
  have hoffers := offers_of_barrier hfound id
  split
  · rename_i hcompletes
    obtain ⟨hid, hlast⟩ := completes_iff.1 hcompletes
    refine ⟨hoffers.trans (if_pos ⟨hid, hlast⟩), ?_⟩
    split
    · rename_i ho
      exact untouched_notifyDrained hfound (.inr ho)
    · rename_i ho
      have hreleased := released_notifyDrained hfound hid hlast (Bool.eq_false_iff.2 ho)
      exact hreleased
  · rename_i hno
    have hno := mt completes_iff.2 hno
    exact ⟨hoffers.trans (if_neg hno), untouched_notifyDrained hfound (.inl hno)⟩

/-- A barrier is told of one channel twice by hand, then of the channel that its sender flushes, and
of a third one after the resolution was taken. The third telling completes it, and the last one
comes too late. -/
theorem barrier_completes_once_of_two :
    let calls : List (Call Nat String) := [
      .createReadySet,
      .createStrand (some "tx") ⟨0⟩,
      .createStrand (some "rx") ⟨0⟩,
      .createSlot,
      .createBarrier ⟨0⟩ ⟨0⟩ 2,
      .createChannel {},
      .operate ⟨0⟩ (.send 1 ⟨0⟩),
      .operate ⟨0⟩ (.flush ⟨0⟩ ⟨0⟩ ⟨0⟩),
      .notifyDrained ⟨0⟩ ⟨5⟩,
      .notifyDrained ⟨0⟩ ⟨5⟩,
      .operate ⟨0⟩ (.receive ⟨1⟩),
      .take ⟨0⟩,
      .notifyDrained ⟨0⟩ ⟨9⟩]
    let n := ({} : Network Nat String).run calls
    let told := tellingsTo ⟨0⟩ (({} : Network Nat String).tellings calls)
    toldOf told = [⟨5⟩, ⟨5⟩, ⟨1⟩, ⟨9⟩] ∧
      (∃ b, n.coordinator ⟨0⟩ = .barrier b ∧ b.expected = 2 ∧ b.drainedCount = 3) ∧
      told.flatMap (·.offers) = [(⟨0⟩, .done)] ∧ (n.slot ⟨0⟩).isResolved = true ∧
      ∃ past x rest, told = past ++ x :: rest ∧ Completes 2 (toldOf past) x.channel ∧
        x.before.WakesOnly ⟨0⟩ x.after := by
  intro calls n told
  let b : Barrier := { strand := ⟨0⟩, slot := ⟨0⟩, expected := 2, drained := [⟨5⟩, ⟨1⟩, ⟨9⟩] }
  obtain ⟨hcount, hoffers, hresolved, heach⟩ :=
    barrier_completes_once calls ⟨0⟩ b rfl (by decide)
  have hthird : told[2]?.map (fun x => (x.channel, (x.before.slot ⟨0⟩).isResolved)) =
      some (⟨1⟩, false) := by decide
  obtain ⟨x, hx, hpair⟩ := Option.map_eq_some_iff.1 hthird
  obtain ⟨hlen, rfl⟩ := List.getElem?_eq_some_iff.1 hx
  obtain ⟨hchannel, hopen⟩ := Prod.mk.inj hpair
  have hsplit : told = told.take 2 ++ told[2] :: told.drop 3 := by
    rw [← List.drop_eq_getElem_cons hlen, List.take_append_drop]
  have hcompletes : Completes 2 (toldOf (told.take 2)) told[2].channel := by
    rw [hchannel]
    decide
  have hreleased := heach _ _ _ hsplit
  rw [if_pos hcompletes, if_neg (Bool.eq_false_iff.1 hopen)] at hreleased
  exact ⟨by decide, ⟨b, rfl, rfl, rfl⟩, hoffers, hresolved rfl, _, _, _, hsplit, hcompletes,
    hreleased.2.2⟩

end Network

end Rendezvous
