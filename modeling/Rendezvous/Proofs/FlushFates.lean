import Rendezvous.Proofs.Deeds
import Rendezvous.Proofs.FlushSoundness

/-!
# What becomes of a flush

Every flush of a channel has one fate. It ends in the call, or its sender is registered and leaves
in one of four ways.

* **Fates** (`Fate`, `FlushWait`): what can become of a flush. `fates` keeps the book of a list of
  deeds on one channel: one entry for each flush, in their order.
* **Deeds** (`Deed.opened?`, `Deed.settled`, `Deed.told?`): what a deed adds to the book, what it
  does to the wait of a registered sender, and whom it tells that the channel has drained. The
  network bears them out (`Deed.toList_flushSender_after`, `Deed.coordinator_after`).
* **Books** (`waiting_record`, `told_record`, `getElem?_record`): the sender that waits is the one
  that is registered, each telling is in the book, and what is no longer waiting does not change.
* **Runs** (`flush_has_one_fate`): so it is in every run, and a registered sender waits for a place
  that was taken and not yet consumed.
-/

namespace Rendezvous

variable {τ ε : Type}

/-- What has become of a sender that was registered by a flush. -/
inductive FlushWait where
  /-- It is still registered. -/
  | waiting
  /-- The channel drained, and its coordinator was told. -/
  | drained
  /-- The receiving worker failed. -/
  | ended
  /-- Another flush took its place. -/
  | displaced
  /-- Its flush was over, so that it was withdrawn. -/
  | withdrawn
  deriving DecidableEq

/-- What has become of a flush. -/
inductive Fate where
  /-- A failure that was pending ended it in the call. -/
  | failed
  /-- Nothing was left to receive, so that the coordinator was told in the call. -/
  | told (k : Coordinator.Ref)
  /-- Its sender was registered. -/
  | parked (p : FlushParty) (w : FlushWait)
  deriving DecidableEq

namespace Fate

/-- The sender that is still registered. -/
def waiting? : Fate → Option FlushParty
  | parked p .waiting => some p
  | _ => none

/-- The coordinator that was told. -/
def told? : Fate → Option Coordinator.Ref
  | told k => some k
  | parked p .drained => some p.coordinator
  | _ => none

end Fate

namespace Deed

/-- The fate of a flush right after the call. -/
def opened? (x : Deed τ ε) : Option Fate :=
  match x.act with
  | .operate (.flush s d k) =>
    let channel := x.before.channel x.channel
    if (x.before.flush x.channel s d k).2 then
      some (if channel.hasPendingFailure then .failed else .told k)
    else some (.parked ⟨⟨s, d⟩, channel.sendCount, k⟩ .waiting)
  | _ => none

/-- What a deed does to the wait of a sender that is registered. The channel drains at the attempt
to receive that gets a value and makes the count equal to the threshold. -/
def settled (x : Deed τ ε) (p : FlushParty) : FlushWait :=
  match x.act with
  | .operate (.receive s) =>
    match (x.before.receive x.channel s).2 with
    | .value _ =>
      if (x.after.channel x.channel).recvCount = p.threshold then .drained else .waiting
    | _ => .waiting
  | .operate (.failReceive _) => .ended
  | .operate (.flush s d k) => if (x.before.flush x.channel s d k).2 then .waiting else .displaced
  | .withdraw d => if p.slot = d then .withdrawn else .waiting
  | _ => .waiting

/-- The coordinator that a deed tells. -/
def told? (x : Deed τ ε) : Option Coordinator.Ref :=
  (x.opened?.bind Fate.told?).or
    (((x.before.channel x.channel).flushSender.filter (x.settled · = .drained)).map (·.coordinator))

/-- How a flush ends in the call. It takes a failure that is pending and tells nobody; or nothing
was left to receive, and it tells its coordinator; or it registers its sender up to the places taken
so far, and tells nobody. -/
def EndsOneWay (x : Deed τ ε) (s : Strand.Ref) (d : Slot.Ref) (k : Coordinator.Ref) : Prop :=
  let channel := x.before.channel x.channel
  let p : FlushParty := ⟨⟨s, d⟩, channel.sendCount, k⟩
  (x.opened? = some .failed ∧ x.told? = none ∧ ∃ f pending,
      channel.pending.take? = some (f, pending) ∧
        x.after.channel x.channel = { channel with pending }) ∨
    (x.opened? = some (.told k) ∧ x.told? = some k ∧ channel.pending.take? = none ∧
      channel.isDrained = true ∧ x.after.channel x.channel = channel) ∨
    (x.opened? = some (.parked p .waiting) ∧ x.told? = none ∧ channel.pending.take? = none ∧
      channel.isDrained = false ∧
        x.after.channel x.channel = { channel with flushSender := some p })

end Deed

/-- What a deed makes of the fate of an earlier flush. -/
def Fate.settle (x : Deed τ ε) : Fate → Fate
  | parked p .waiting => parked p (x.settled p)
  | f => f

/-- The book after one more deed. -/
def record (book : List Fate) (x : Deed τ ε) : List Fate :=
  book.map (Fate.settle x) ++ x.opened?.toList

/-- The fates of the flushes among some deeds on one channel. -/
def fates (deeds : List (Deed τ ε)) : List Fate := deeds.foldl record []

/-! ## Deeds -/

namespace Deed

open Network

theorem act_of_isFlush {x : Deed τ ε} (h : x.isFlush = true) :
    ∃ s d k, x.act = .operate (.flush s d k) := by
  unfold isFlush at h
  split at h
  · exact ⟨_, _, _, ‹_›⟩
  · cases h

/-- A flush has a fate right after the call, and no other deed does. -/
theorem isSome_opened? (x : Deed τ ε) : x.opened?.isSome = x.isFlush := by
  obtain ⟨n, c, act⟩ := x
  unfold opened? isFlush
  cases act with
  | withdraw d => rfl
  | operate op =>
    cases op with
    | flush s d k =>
      dsimp only
      split <;> rfl
    | _ => rfl

theorem opened?_eq_none {x : Deed τ ε} (h : x.isFlush = false) : x.opened? = none := by
  rw [← Option.isNone_iff_eq_none, ← Option.not_isSome, isSome_opened?, h, Bool.not_false]

theorem filter_drained {x : Deed τ ε} {o : Option FlushParty} (h : ∀ p, x.settled p ≠ .drained) :
    o.filter (x.settled · = .drained) = none :=
  Option.filter_eq_none_iff.2 fun p _ => by simp [h]

/-- A deed for which the channel drains for no sender that waits tells of itself only. -/
theorem told?_of_settled {x : Deed τ ε} (h : ∀ p, x.settled p ≠ .drained) :
    x.told? = x.opened?.bind Fate.told? := by
  rw [told?, filter_drained h, Option.map_none, Option.or_none]

/-- The channel drains for a sender exactly at the attempt to receive that gets a value and makes
the count equal to the threshold. -/
theorem settled_eq_drained {x : Deed τ ε} {p : FlushParty} :
    x.settled p = .drained ↔ ∃ s v, x.act = .operate (.receive s) ∧
      (x.before.receive x.channel s).2 = .value v ∧
        (x.after.channel x.channel).recvCount = p.threshold := by
  constructor
  · intro h
    unfold settled at h
    split at h
    · rename_i s hact
      split at h
      · rename_i v hv
        split at h
        · rename_i hlast
          exact ⟨s, v, hact, hv, hlast⟩
        · cases h
      · cases h
    · cases h
    · split at h <;> cases h
    · split at h <;> cases h
    · cases h
  · rintro ⟨s, v, hact, hv, hlast⟩
    simp only [settled, hact, hv, hlast, if_true]

section
variable {x : Deed τ ε} {s : Strand.Ref} {d : Slot.Ref} {k : Coordinator.Ref}
  (h : x.act = .operate (.flush s d k))
include h

/-- A flush displaces the sender that is registered exactly if it registers its own. -/
theorem settled_flush (p : FlushParty) :
    x.settled p = if (x.opened?.bind Fate.waiting?).isSome then .displaced else .waiting := by
  simp only [settled, opened?, h]
  split
  · split <;> rfl
  · rfl

theorem settled_flush_ne (p : FlushParty) : x.settled p ≠ .drained := by
  rw [settled_flush h]
  split <;> exact nofun

/-- A flush takes a failure that is pending, or tells its coordinator, or registers its sender. -/
theorem endsOneWay_flush : x.EndsOneWay s d k := by
  unfold EndsOneWay
  intro channel p
  have htold : x.told? = x.opened?.bind Fate.told? := told?_of_settled (settled_flush_ne h)
  have hopened : x.opened? = if (x.before.flush x.channel s d k).2 then
      some (if channel.hasPendingFailure then .failed else .told k)
    else some (.parked p .waiting) := by
    simp only [opened?, h]
    rfl
  have hafter : x.after = (x.before.flush x.channel s d k).1 := by
    simp only [after, h]
    rfl
  have hfailure : channel.hasPendingFailure = channel.pending.take?.isSome :=
    (Pending.isSome_take? _).symm
  rw [htold, hopened, hafter, channel_flush, if_pos rfl, hfailure]
  cases hp : channel.pending.take? with
  | some taken =>
    obtain ⟨e, he⟩ := flush_pending s d k hp
    rw [he]
    exact .inl ⟨rfl, rfl, taken.1, taken.2, rfl, rfl⟩
  | none =>
    cases hd : channel.isDrained with
    | true =>
      obtain ⟨e, he⟩ := flush_drained s d k hp hd
      rw [he]
      exact .inr (.inl ⟨rfl, rfl, rfl, rfl, rfl⟩)
    | false =>
      rw [flush_undrained s d k hp hd]
      exact .inr (.inr ⟨rfl, rfl, rfl, rfl, rfl⟩)

end

/-- An attempt to receive drains the channel for a sender exactly if a value is queued and the place
of that value is the last before the sender's threshold. -/
theorem settled_receive (n : Network τ ε) (c : Channel.Ref) (s : Strand.Ref) (p : FlushParty) :
    (⟨n, c, .operate (.receive s)⟩ : Deed τ ε).settled p =
      if (n.channel c).queue ≠ [] ∧ p.threshold = (n.channel c).recvCount + 1 then .drained
      else .waiting := by
  have hafter : (n.operate c (.receive s)).1.channel c = (n.receive c s).1.channel c := rfl
  unfold settled after
  dsimp only
  rw [hafter]
  refine channel_receive (P := fun b (r : Received τ ε) => (match r with
    | .value _ => if b.recvCount = p.threshold then FlushWait.drained else .waiting
    | _ => .waiting) = _) s ?_ ?_ ?_
  · intro m rest hq
    simp only [hq, ne_eq, List.cons_ne_nil, not_false_eq_true, true_and]
    exact if_congr eq_comm rfl rfl
  · intro f pending hq _ _
    simp [hq]
  · intro hq _
    simp [hq]

theorem filter_waiting {x : Deed τ ε} {o : Option FlushParty} (h : ∀ p, x.settled p = .waiting) :
    o.filter (x.settled · = .waiting) = o := by
  cases o <;> simp [Option.filter_some, h]

/-- The sender that is registered after a deed that is no flush was registered before and still
waits. -/
theorem flushSender_after {x : Deed τ ε} (h : x.isFlush = false) :
    (x.after.channel x.channel).flushSender =
      (x.before.channel x.channel).flushSender.filter (x.settled · = .waiting) := by
  obtain ⟨n, c, act⟩ := x
  cases act with
  | withdraw d =>
    have hwithdrawn := (channel_withdrawFlush n c c d).trans (if_pos rfl)
    refine (congrArg Channel.flushSender hwithdrawn).trans ?_
    refine congrArg (Option.filter · _) (funext fun p => ?_)
    by_cases hp : p.slot = d <;> simp [settled, hp]
  | operate op =>
    cases op with
    | flush s d k => cases h
    | send value s =>
      rw [filter_waiting fun _ => rfl]
      exact (congrArg Channel.flushSender ((channel_send n c c value s).trans (if_pos rfl)) :)
    | failSend f =>
      rw [filter_waiting fun _ => rfl]
      exact (congrArg Channel.flushSender ((channel_failSend n c c f).trans (if_pos rfl)) :)
    | syncSend value s d =>
      rw [filter_waiting fun _ => rfl]
      exact channel_syncSend (P := fun b => b.flushSender = (n.channel c).flushSender) value s d
        (fun _ => rfl) (fun _ _ _ _ => rfl) fun _ _ => rfl
    | failReceive f =>
      have hgone : (n.channel c).flushSender.filter
          (fun p => (⟨n, c, .operate (.failReceive f)⟩ : Deed τ ε).settled p = .waiting) = none :=
        Option.filter_eq_none_iff.2 fun _ _ => by simp [settled]
      refine .trans ?_ hgone.symm
      exact channel_failReceive (P := fun b => b.flushSender = none) f rfl rfl rfl
    | receive s =>
      refine channel_receive (P := fun b _ => b.flushSender = (n.channel c).flushSender.filter
        (fun p => (⟨n, c, .operate (.receive s)⟩ : Deed τ ε).settled p = .waiting)) s ?_ ?_ ?_
      · intro m rest hq
        refine congrArg (Option.filter · _) (funext fun p => ?_)
        by_cases hp : p.threshold = (n.channel c).recvCount + 1 <;> simp [settled_receive, hq, hp]
      · intro f pending hq _ _
        exact (filter_waiting fun p => by simp [settled_receive, hq]).symm
      · intro hq _
        exact (filter_waiting fun p => by simp [settled_receive, hq]).symm

/-- The sender that is registered after a deed was registered before and still waits, or has just
been registered. -/
theorem toList_flushSender_after (x : Deed τ ε) :
    (x.after.channel x.channel).flushSender.toList =
      ((x.before.channel x.channel).flushSender.filter (x.settled · = .waiting)).toList ++
        (x.opened?.bind Fate.waiting?).toList := by
  cases h : x.isFlush with
  | false =>
    rw [flushSender_after h, opened?_eq_none h, Option.bind_none, Option.toList_none,
      List.append_nil]
  | true =>
    obtain ⟨s, d, k, hact⟩ := act_of_isFlush h
    have hsettled := settled_flush hact
    obtain ⟨hopened, -, f, pending, -, hafter⟩ | ⟨hopened, -, -, -, hafter⟩ |
      ⟨hopened, -, -, -, hafter⟩ := endsOneWay_flush hact
    all_goals
      rw [hopened] at hsettled ⊢
      rw [hafter]
    · rw [filter_waiting hsettled]
      exact (List.append_nil _).symm
    · rw [filter_waiting hsettled]
      exact (List.append_nil _).symm
    · have hdisplaced : (x.before.channel x.channel).flushSender.filter
          (x.settled · = .waiting) = none :=
        Option.filter_eq_none_iff.2 fun p _ => by simp [hsettled, Fate.waiting?]
      rw [hdisplaced]
      rfl

/-- A deed tells the coordinator of a sender that waited, or that of a flush which it is itself. -/
theorem toList_told? (x : Deed τ ε) : x.told?.toList =
    (((x.before.channel x.channel).flushSender.filter (x.settled · = .drained)).map
      (·.coordinator)).toList ++ (x.opened?.bind Fate.told?).toList := by
  cases h : x.isFlush with
  | false =>
    rw [told?, opened?_eq_none h, Option.bind_none, Option.none_or, Option.toList_none,
      List.append_nil]
  | true =>
    obtain ⟨s, d, k, hact⟩ := act_of_isFlush h
    rw [told?_of_settled (settled_flush_ne hact), filter_drained (settled_flush_ne hact)]
    rfl

theorem told?_receive (n : Network τ ε) (c : Channel.Ref) (s : Strand.Ref) (k : Coordinator.Ref) :
    (⟨n, c, .operate (.receive s)⟩ : Deed τ ε).told? = some k ↔ n.Tells c k (.receive s) := by
  change ((n.channel c).flushSender.filter _).map _ = some k ↔ _
  simp only [Option.map_eq_some_iff, Option.filter_eq_some_iff, settled_receive, Tells,
    decide_eq_true_eq]
  constructor
  · rintro ⟨p, ⟨hp, hdrained⟩, rfl⟩
    split at hdrained
    · rename_i hlast
      exact ⟨hlast.1, p, hp, hlast.2, rfl⟩
    · cases hdrained
  · rintro ⟨hq, p, hp, hlast, rfl⟩
    exact ⟨p, ⟨hp, if_pos ⟨hq, hlast⟩⟩, rfl⟩

/-- A deed tells the coordinator that the channel has drained, and no other. -/
theorem coordinator_after (x : Deed τ ε) (k : Coordinator.Ref) : x.after.coordinator k =
    if x.told? = some k then (x.before.coordinator k).note x.channel.id
    else x.before.coordinator k := by
  obtain ⟨n, c, act⟩ := x
  cases act with
  | withdraw d =>
    have hsilent : (⟨n, c, .withdraw d⟩ : Deed τ ε).told? = none := told?_of_settled fun p => by
      simp only [settled]
      split <;> exact nofun
    rw [hsilent, if_neg nofun]
    exact congrArg (Store.get · k) (withdrawAll_stores n d [c]).2.2.2
  | operate op =>
    cases op with
    | flush s d j =>
      refine (coordinator_flush s d j k).trans ?_
      obtain ⟨-, htold, f, pending, hp, -⟩ | ⟨-, htold, hp, hd, -⟩ | ⟨-, htold, hp, hd, -⟩ :=
        endsOneWay_flush (x := ⟨n, c, .operate (.flush s d j)⟩) rfl
      all_goals
        dsimp only at hp
        rw [htold, hp]
      · rw [if_neg nofun, if_neg nofun]
      · dsimp only at hd
        simp only [hd, true_and, Option.some.injEq]
        split
        · rename_i hk
          rw [if_pos hk.symm, hk]
        · rename_i hk
          rw [if_neg fun hj => hk hj.symm]
      · dsimp only at hd
        rw [if_neg fun hall => Bool.false_ne_true (hd.symm.trans hall.2.1), if_neg nofun]
    | receive s =>
      obtain ⟨htold, hnot⟩ := coordinator_receive (n := n) (c := c) s k
      split
      · rename_i h
        exact htold ((told?_receive n c s k).1 h)
      · rename_i h
        exact hnot fun ht => h ((told?_receive n c s k).2 ht)
    | _ =>
      rw [told?_of_settled]
      · exact (coordinator_operate (n := n) (c := c) _ k).2 id
      · exact fun _ => nofun

end Deed

/-! ## The book -/

namespace Fate

theorem waiting?_settle (x : Deed τ ε) (f : Fate) :
    (f.settle x).waiting? = f.waiting?.filter (x.settled · = .waiting) := by
  cases f with
  | parked p w =>
    cases w with
    | waiting => cases h : x.settled p <;> simp [settle, waiting?, Option.filter_some, h]
    | _ => rfl
  | _ => rfl

/-- A fate tells somebody after a deed if it did before, or if the channel drained for it. -/
theorem told?_settle (x : Deed τ ε) (f : Fate) : (f.settle x).told? =
    f.told?.or ((f.waiting?.filter (x.settled · = .drained)).map (·.coordinator)) := by
  cases f with
  | parked p w =>
    cases w with
    | waiting => cases h : x.settled p <;> simp [settle, waiting?, told?, Option.filter_some, h]
    | _ => rfl
  | _ => rfl

theorem settle_of_not_waiting (x : Deed τ ε) {f : Fate} (h : f.waiting? = none) :
    f.settle x = f := by
  cases f with
  | parked p w =>
    cases w with
    | waiting => cases h
    | _ => rfl
  | _ => rfl

/-- Nobody was told of a sender that waits. -/
theorem told?_of_waiting {f : Fate} {p : FlushParty} (h : f.waiting? = some p) :
    f.told? = none := by
  cases f with
  | parked q w =>
    cases w with
    | waiting => rfl
    | _ => cases h
  | _ => cases h

end Fate

theorem filterMap_toList {α β : Type} (f : α → Option β) (o : Option α) :
    o.toList.filterMap f = (o.bind f).toList := by
  cases o with
  | none => rfl
  | some a => cases h : f a <;> simp [h]

/-- The senders that wait after a deed are those it leaves waiting, and the new one. -/
theorem waiting_record (book : List Fate) (x : Deed τ ε) :
    (record book x).filterMap Fate.waiting? =
      (book.filterMap Fate.waiting?).filter (x.settled · = .waiting) ++
        (x.opened?.bind Fate.waiting?).toList := by
  rw [record, List.filterMap_append, filterMap_toList, List.filterMap_map, List.filter_filterMap]
  refine congrArg (· ++ _) (congrArg (List.filterMap · book) (funext fun f => ?_))
  exact f.waiting?_settle x

/-- Those who were told after a deed on earlier flushes are those before it, and the coordinators of
the senders for whom the channel drained. -/
theorem told_map_settle (book : List Fate) (x : Deed τ ε) :
    ((book.map (Fate.settle x)).filterMap Fate.told?).Perm (book.filterMap Fate.told? ++
      ((book.filterMap Fate.waiting?).filter (x.settled · = .drained)).map (·.coordinator)) := by
  induction book with
  | nil => exact .nil
  | cons f book ih =>
    have hsettle := f.told?_settle x
    cases hw : f.waiting? with
    | none =>
      rw [hw, Option.filter_none, Option.map_none, Option.or_none] at hsettle
      rw [List.map_cons, List.filterMap_cons_none hw]
      cases ht : f.told? with
      | none =>
        rw [List.filterMap_cons_none (hsettle.trans ht), List.filterMap_cons_none ht]
        exact ih
      | some k =>
        rw [List.filterMap_cons_some (hsettle.trans ht), List.filterMap_cons_some ht]
        exact ih.cons k
    | some p =>
      have ht := Fate.told?_of_waiting hw
      rw [List.map_cons, List.filterMap_cons_some hw, List.filterMap_cons_none ht]
      rw [hw, ht, Option.none_or, Option.filter_some] at hsettle
      by_cases hp : x.settled p = .drained
      · rw [if_pos (decide_eq_true hp), Option.map_some] at hsettle
        rw [List.filterMap_cons_some hsettle, List.filter_cons, if_pos (decide_eq_true hp),
          List.map_cons]
        exact (ih.cons _).trans List.perm_middle.symm
      · rw [if_neg (by simpa using hp), Option.map_none] at hsettle
        rw [List.filterMap_cons_none hsettle, List.filter_cons, if_neg (by simpa using hp)]
        exact ih

/-- Those who were told after a deed are those before it and the coordinator that it tells, if the
sender that waits is the one that is registered. -/
theorem told_record {book : List Fate} {x : Deed τ ε} (h : book.filterMap Fate.waiting? =
      (x.before.channel x.channel).flushSender.toList) :
    ((record book x).filterMap Fate.told?).Perm
      (book.filterMap Fate.told? ++ x.told?.toList) := by
  have hsettled := told_map_settle book x
  rw [h, ← Option.toList_filter, ← Option.toList_map] at hsettled
  rw [record, List.filterMap_append, filterMap_toList, x.toList_told?, ← List.append_assoc]
  exact hsettled.append_right _

/-- What is no longer waiting does not change. -/
theorem getElem?_record {book : List Fate} {i : Nat} {f : Fate} (x : Deed τ ε)
    (h : book[i]? = some f) (hf : f.waiting? = none) : (record book x)[i]? = some f := by
  have hi : i < book.length := (List.getElem?_eq_some_iff.1 h).1
  rw [record, List.getElem?_append_left (by simpa using hi), List.getElem?_map, h, Option.map_some,
    Fate.settle_of_not_waiting x hf]

theorem length_record (book : List Fate) (x : Deed τ ε) :
    (record book x).length = book.length + if x.isFlush then 1 else 0 := by
  rw [record, List.length_append, List.length_map, ← x.isSome_opened?]
  cases x.opened? <;> rfl

/-! ## Lists of deeds -/

theorem fates_snoc (deeds : List (Deed τ ε)) (x : Deed τ ε) :
    fates (deeds ++ [x]) = record (fates deeds) x := by
  rw [fates, List.foldl_append]
  rfl

/-- There is one fate for each flush. -/
theorem length_fates (deeds : List (Deed τ ε)) :
    (fates deeds).length = deeds.countP Deed.isFlush := by
  induction deeds using List.reverseRecOn with
  | nil => rfl
  | append_singleton deeds x ih =>
    rw [fates_snoc, length_record, ih, List.countP_append, List.countP_singleton]

/-- The fate of a flush right after the call comes behind those of earlier flushes. -/
theorem getElem?_fates_snoc (deeds : List (Deed τ ε)) (x : Deed τ ε) :
    (fates (deeds ++ [x]))[(fates deeds).length]? = x.opened? := by
  rw [fates_snoc, record, List.getElem?_append_right (by simp), List.length_map, Nat.sub_self]
  cases x.opened? <;> rfl

/-- A fate that is settled is final. -/
theorem getElem?_fates_append (a b : List (Deed τ ε)) {i : Nat} {f : Fate}
    (h : (fates a)[i]? = some f) (hf : f.waiting? = none) : (fates (a ++ b))[i]? = some f := by
  induction b using List.reverseRecOn with
  | nil => rwa [List.append_nil]
  | append_singleton b x ih =>
    rw [← List.append_assoc, fates_snoc]
    exact getElem?_record x ih hf

/-- The sender that waits after a deed is the one that is registered, if it was so before. -/
theorem waiting_fates_snoc {deeds : List (Deed τ ε)} {x : Deed τ ε}
    (h : (fates deeds).filterMap Fate.waiting? =
      (x.before.channel x.channel).flushSender.toList) :
    (fates (deeds ++ [x])).filterMap Fate.waiting? =
      (x.after.channel x.channel).flushSender.toList := by
  rw [fates_snoc, waiting_record, h, x.toList_flushSender_after, Option.toList_filter]

/-- Before each of some deeds on `c` the sender that waits is the one that is registered. -/
def Tracked (c : Channel.Ref) (deeds : List (Deed τ ε)) : Prop :=
  ∀ a x b, deeds = a ++ x :: b → x.channel = c ∧
    (fates a).filterMap Fate.waiting? = (x.before.channel c).flushSender.toList

namespace Tracked

variable {c : Channel.Ref} {deeds : List (Deed τ ε)}

theorem snoc (h : Tracked c deeds) {x : Deed τ ε} (hx : x.channel = c)
    (hw : (fates deeds).filterMap Fate.waiting? = (x.before.channel c).flushSender.toList) :
    Tracked c (deeds ++ [x]) := by
  intro a y b heq
  rcases List.eq_nil_or_concat b with rfl | ⟨b, z, rfl⟩
  · obtain ⟨rfl, hy⟩ := List.append_inj' heq rfl
    obtain rfl := List.head_eq_of_cons_eq hy
    exact ⟨hx, hw⟩
  · rw [List.concat_eq_append, ← List.cons_append, ← List.append_assoc] at heq
    exact h a y b (List.append_inj' heq rfl).1

/-- Each telling is in the book. -/
theorem told (h : Tracked c deeds) {a : List (Deed τ ε)} (ha : a <+: deeds) :
    (a.filterMap Deed.told?).Perm ((fates a).filterMap Fate.told?) := by
  induction a using List.reverseRecOn with
  | nil => exact .nil
  | append_singleton a x ih =>
    obtain ⟨b, rfl⟩ := ha
    obtain ⟨rfl, hw⟩ := h a x b (List.append_assoc ..)
    have hlast : [x].filterMap Deed.told? = x.told?.toList := by
      cases hx : x.told? <;> simp [hx]
    rw [fates_snoc, List.filterMap_append, hlast]
    refine .trans ?_ (told_record hw).symm
    exact (ih ⟨[x] ++ b, (List.append_assoc ..).symm⟩).append_right _

end Tracked

namespace Network

/-- In every run the sender that waits is the one that is registered, at the end and before each
deed on the channel. -/
theorem tracked_run (calls : List (Call τ ε)) (c : Channel.Ref) :
    let deeds := deedsOn c (({} : Network τ ε).deeds calls)
    (fates deeds).filterMap Fate.waiting? =
      ((({} : Network τ ε).run calls).channel c).flushSender.toList ∧ Tracked c deeds := by
  refine channel_deeds (P := fun deeds b => (fates deeds).filterMap Fate.waiting? =
    b.flushSender.toList ∧ Tracked c deeds) ⟨rfl, ?_⟩ (fun _ _ h => h) ?_ calls
  · intro a x b heq
    cases a <;> cases heq
  · rintro deeds x rfl ⟨hw, htracked⟩
    exact ⟨waiting_fates_snoc hw, htracked.snoc rfl hw⟩

/-- Every flush of a channel has one fate.

While its sender is registered, that sender waits for a place that was taken and not yet consumed.
In the call a flush takes a failure, tells its coordinator, or registers its sender. The registered
sender is the one that waits, and it leaves in one of four ways. The channel drains for it exactly
at the attempt to receive that makes the count equal to its threshold; then its coordinator is told.
What has become of a flush that waits no longer is final, and nobody is told but for a flush that
then is over. So coordinators are not told more often than the channel is flushed. -/
theorem flush_has_one_fate (calls : List (Call τ ε)) (c : Channel.Ref)
    (hlen : (operationsOn c (({} : Network τ ε).history calls)).length < UInt64.size) :
    let channel := (({} : Network τ ε).run calls).channel c
    let deeds := deedsOn c (({} : Network τ ε).deeds calls)
    (∀ p, channel.flushSender = some p →
      channel.recvCount < p.threshold ∧ p.threshold ≤ channel.sendCount) ∧
    (fates deeds).length = deeds.countP Deed.isFlush ∧
    (fates deeds).filterMap Fate.waiting? = channel.flushSender.toList ∧
    (∀ a x b, deeds = a ++ x :: b →
      (fates a).filterMap Fate.waiting? = (x.before.channel c).flushSender.toList ∧
      (fates (a ++ [x])).filterMap Fate.waiting? = (x.after.channel c).flushSender.toList ∧
      (fates (a ++ [x]))[(fates a).length]? = x.opened? ∧
      (∀ (i : Nat) (f : Fate), (fates a)[i]? = some f → f.waiting? = none →
        (fates deeds)[i]? = some f) ∧
      (∀ s d k, x.act = .operate (.flush s d k) → x.EndsOneWay s d k) ∧
      (∀ p, x.settled p = .drained ↔ ∃ s v, x.act = .operate (.receive s) ∧
        (x.before.receive c s).2 = .value v ∧ (x.after.channel c).recvCount = p.threshold) ∧
      (∀ k, x.after.coordinator k = if x.told? = some k then (x.before.coordinator k).note c.id
        else x.before.coordinator k)) ∧
    (∀ a, a <+: deeds → (a.filterMap Deed.told?).Perm ((fates a).filterMap Fate.told?)) ∧
    (deeds.filterMap Deed.told?).length ≤ deeds.countP Deed.isFlush := by
  intro channel deeds
  obtain ⟨hwaiting, htracked⟩ := tracked_run (τ := τ) (ε := ε) calls c
  refine ⟨fun p hp => ?_, length_fates deeds, hwaiting, fun a x b heq => ?_,
    fun a ha => htracked.told ha, ?_⟩
  · obtain ⟨hrecv, hsend, -⟩ := (parties_run calls c hlen).flushSender p hp
    exact ⟨hrecv, hsend⟩
  · obtain ⟨rfl, hw⟩ := htracked a x b heq
    refine ⟨hw, waiting_fates_snoc hw, getElem?_fates_snoc a x, fun i f hi hf => ?_,
      fun s d k => x.endsOneWay_flush, fun p => x.settled_eq_drained, x.coordinator_after⟩
    rw [heq]
    exact getElem?_fates_append a _ hi hf
  · rw [(htracked.told (List.prefix_refl _)).length_eq, ← length_fates]
    exact List.length_filterMap_le ..

/-- One flush for each fate. The coordinator is told twice, and not for the other flushes. -/
theorem flush_has_one_fate_each :
    let calls : List (Call Nat String) := [
      .createReadySet,
      .createStrand (some "tx") ⟨0⟩,
      .createStrand (some "rx") ⟨0⟩,
      .createSlot,
      .createSlot,
      .createSlot,
      .createChannel {},
      .createChannel { retainReceiveFailures := true },
      .createDrainLog,
      .operate ⟨0⟩ (.flush ⟨0⟩ ⟨0⟩ ⟨0⟩),
      .operate ⟨0⟩ (.send 1 ⟨0⟩),
      .operate ⟨0⟩ (.flush ⟨0⟩ ⟨0⟩ ⟨0⟩),
      .operate ⟨0⟩ (.send 2 ⟨0⟩),
      .operate ⟨0⟩ (.flush ⟨0⟩ ⟨0⟩ ⟨0⟩),
      .operate ⟨0⟩ (.receive ⟨1⟩),
      .operate ⟨0⟩ (.receive ⟨1⟩),
      .operate ⟨0⟩ (.send 3 ⟨0⟩),
      .operate ⟨0⟩ (.flush ⟨0⟩ ⟨1⟩ ⟨0⟩),
      .operate ⟨0⟩ (.failReceive (.error "gone")),
      .operate ⟨0⟩ (.send 4 ⟨0⟩),
      .operate ⟨1⟩ (.failReceive (.error "early")),
      .flushAll [⟨0⟩, ⟨1⟩] ⟨0⟩ ⟨2⟩,
      .operate ⟨0⟩ (.failSend (.error "lost")),
      .operate ⟨0⟩ (.flush ⟨0⟩ ⟨0⟩ ⟨0⟩)]
    let deeds := deedsOn ⟨0⟩ (({} : Network Nat String).deeds calls)
    (operationsOn ⟨0⟩ (({} : Network Nat String).history calls)).length < UInt64.size ∧
      fates deeds = [
        .told ⟨0⟩,
        .parked ⟨⟨⟨0⟩, ⟨0⟩⟩, 1, ⟨0⟩⟩ .displaced,
        .parked ⟨⟨⟨0⟩, ⟨0⟩⟩, 2, ⟨0⟩⟩ .drained,
        .parked ⟨⟨⟨0⟩, ⟨1⟩⟩, 3, ⟨0⟩⟩ .ended,
        .parked ⟨⟨⟨0⟩, ⟨2⟩⟩, 4, ⟨1⟩⟩ .withdrawn,
        .failed] ∧
      deeds.filterMap Deed.told? = [⟨0⟩, ⟨0⟩] ∧
      (fates deeds).length = deeds.countP Deed.isFlush ∧
      (deeds.filterMap Deed.told?).length ≤ deeds.countP Deed.isFlush := by
  intro calls deeds
  have hlen : (operationsOn ⟨0⟩ (({} : Network Nat String).history calls)).length <
      UInt64.size := by
    decide
  obtain ⟨-, hlength, -, -, -, htold⟩ := flush_has_one_fate calls ⟨0⟩ hlen
  exact ⟨hlen, by decide, by decide, hlength, htold⟩

end Network

end Rendezvous
