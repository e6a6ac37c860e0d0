import Rendezvous.Proofs.Barriers
import Rendezvous.Proofs.Matching

/-!
# Receives on different channels

Two receives on different channels can be exchanged, even if between them they complete one flush.

* **Effects** (`Effect`): what a receive does beyond its channel. It releases a sender, tells a
  coordinator, or suspends the receiver. Its channel alone decides which of these it does
  (`Channel.effects`, `Yields.receive`).
* **Exchange** (`Network.Apart`): effects that meet in no strand, and in no slot unless it is the
  slot of one barrier, can be exchanged, up to matching (`Apart.comm`), and so can lists of them
  (`matches_applyAll_comm`).
* **Flushes** (`Registrant.BegunAfter`): who is registered by a flush of several channels is
  released by the barrier of that flush (`serves_of_begunAfter`).
-/

namespace Rendezvous

variable {τ ε : Type}

/-! ## Effects -/

/-- What a receive does beyond its channel. -/
inductive Effect where
  /-- A sender is released. -/
  | release (p : Party)
  /-- The coordinator of a flushing sender is told of a channel. -/
  | tell (p : FlushParty) (id : ChannelId)
  /-- A receiver is suspended. -/
  | park (s : Strand.Ref)

namespace Network

variable {n m : Network τ ε}

def apply (n : Network τ ε) : Effect → Network τ ε
  | .release p => (n.deliver p .done).1
  | .tell p id => n.notifyDrained p.coordinator id
  | .park s => n.suspend s

def applyAll (n : Network τ ε) (l : List Effect) : Network τ ε := l.foldl apply n

theorem applyAll_cons (n : Network τ ε) (e : Effect) (l : List Effect) :
    n.applyAll (e :: l) = (n.apply e).applyAll l := rfl

theorem applyAll_append (n : Network τ ε) (l l' : List Effect) :
    n.applyAll (l ++ l') = (n.applyAll l).applyAll l' := List.foldl_append

/-- Whoever is told of a channel is a barrier that releases the flushing sender. -/
def Fits (n : Network τ ε) : Effect → Prop
  | .tell p _ => (n.coordinator p.coordinator).Serves p.toParty
  | .release _ => True
  | .park _ => True

/-- Two effects do not meet: they release senders through different slots, unless one barrier is
told by both; and they do not suspend a strand that is still to be released. -/
def Apart (n : Network τ ε) : Effect → Effect → Prop
  | .release p, .release q => p.slot ≠ q.slot
  | .release p, .tell q _ => p.slot ≠ q.slot
  | .tell p _, .release q => p.slot ≠ q.slot
  | .tell p _, .tell q _ => p.coordinator = q.coordinator ∨ p.slot ≠ q.slot
  | .park s, .release p => p.strand = s → (n.slot p.slot).isResolved = true
  | .park s, .tell p _ => p.strand = s → (n.slot p.slot).isResolved = true
  | .release p, .park s => p.strand = s → (n.slot p.slot).isResolved = true
  | .tell p _, .park s => p.strand = s → (n.slot p.slot).isResolved = true
  | .park _, .park _ => True

/-- Telling a flushing sender's barrier. -/
theorem matches_tell (n : Network τ ε) (p : FlushParty) (id : ChannelId) :
    (n.apply (.tell p id)).Matches ((n.setCoordinator p.coordinator
      ((n.coordinator p.coordinator).note id)).relieve
        ((n.coordinator p.coordinator).released? id)) :=
  n.matches_notifyDrained p.coordinator id

theorem Matches.apply (h : n.Matches m) (e : Effect) : (n.apply e).Matches (m.apply e) := by
  cases e with
  | release p => exact h.deliver p .done
  | park s => exact h.suspend s
  | tell p id =>
    have hk := h.coordinator p.coordinator
    refine (n.matches_tell p id).trans (.trans ?_ (m.matches_tell p id).symm)
    rw [hk.released? id]
    exact (h.setCoordinator p.coordinator (hk.note id)).relieve _

theorem Matches.applyAll (h : n.Matches m) (l : List Effect) :
    (n.applyAll l).Matches (m.applyAll l) := by
  induction l generalizing n m with
  | nil => exact h
  | cons e l ih => exact ih (h.apply e)

/-- An effect that leaves a barrier alone can be exchanged with telling it, if it can be exchanged
with writing it and with the release of its sender. -/
theorem matches_apply_tell {e : Effect} {q : FlushParty} {id : ChannelId}
    (hq : n.Fits (.tell q id))
    (same : (n.apply e).coordinator q.coordinator = n.coordinator q.coordinator)
    (write : ∀ x, ((n.apply e).setCoordinator q.coordinator x).Matches
      ((n.setCoordinator q.coordinator x).apply e))
    (release : ∀ x,
      (((n.setCoordinator q.coordinator x).apply e).apply (.release q.toParty)).Matches
        (((n.setCoordinator q.coordinator x).apply (.release q.toParty)).apply e)) :
    ((n.apply e).apply (.tell q id)).Matches ((n.apply (.tell q id)).apply e) := by
  refine ((n.apply e).matches_tell q id).trans (.trans ?_ ((n.matches_tell q id).apply e).symm)
  rw [same]
  refine ((write _).relieve _).trans ?_
  cases ho : (n.coordinator q.coordinator).released? id with
  | none => exact .refl _
  | some p =>
    rw [hq.eq_of_released? ho]
    exact release _

theorem matches_release_tell {p : Party} {q : FlushParty} {id : ChannelId}
    (hq : n.Fits (.tell q id)) (h : p.slot ≠ q.slot) :
    ((n.apply (.release p)).apply (.tell q id)).Matches
      ((n.apply (.tell q id)).apply (.release p)) := by
  refine matches_apply_tell hq (coordinator_deliver ..) (fun x => ?_) fun x =>
    matches_deliver_deliver _ h .done .done
  have hset := n.deliver_setCoordinator q.coordinator x p .done
  rw [apply, apply, hset]
  exact .refl _

theorem matches_park_tell {s : Strand.Ref} {q : FlushParty} {id : ChannelId}
    (hq : n.Fits (.tell q id)) (h : q.strand = s → (n.slot q.slot).isResolved = true) :
    ((n.apply (.park s)).apply (.tell q id)).Matches
      ((n.apply (.tell q id)).apply (.park s)) := by
  refine matches_apply_tell hq (coordinator_suspend ..) (fun x => ?_) fun x =>
    matches_suspend_deliver (n.setCoordinator q.coordinator x) .done h
  have hset := (aside_setCoordinator q.coordinator x).suspend n s
  rw [apply, apply, hset]
  exact .refl _

/-- Two barriers that release different senders are told in either order. -/
theorem matches_tell_tell_of_ne {p q : FlushParty} {i j : ChannelId} (hp : n.Fits (.tell p i))
    (hq : n.Fits (.tell q j)) (h : p.slot ≠ q.slot) :
    ((n.apply (.tell p i)).apply (.tell q j)).Matches
      ((n.apply (.tell q j)).apply (.tell p i)) := by
  have hk : p.coordinator ≠ q.coordinator := fun hk => by
    obtain ⟨b, hb, -, hslot⟩ := hp
    obtain ⟨b', hb', -, hslot'⟩ := hq
    rw [hk, hb'] at hb
    cases hb
    exact h (hslot.symm.trans hslot')
  have fits : ∀ x, (n.setCoordinator q.coordinator x).Fits (.tell p i) := fun x => by
    rwa [Fits, coordinator_setCoordinator, if_neg hk]
  refine matches_apply_tell hq ?_ (fun x => ?_) fun x => (matches_release_tell (fits x) h.symm).symm
  · exact (coordinator_notifyDrained ..).trans (if_neg hk.symm)
  · have hother : (n.setCoordinator q.coordinator x).coordinator p.coordinator =
        n.coordinator p.coordinator := by
      rw [coordinator_setCoordinator, if_neg hk]
    refine ((n.matches_tell p i).setCoordinator q.coordinator (.refl x)).trans ?_
    refine .trans ?_ ((n.setCoordinator q.coordinator x).matches_tell p i).symm
    rw [hother, ← relieve_setCoordinator]
    exact (matches_setCoordinator_of_ne hk _ _).relieve _

/-- A barrier that was told of two channels knows both, and has released its sender if that was
due. -/
theorem matches_tell_tell {p q : FlushParty} (h : p.coordinator = q.coordinator) {o : Party}
    (hk : (n.coordinator p.coordinator).Serves o) (i j : ChannelId) :
    ((n.apply (.tell p i)).apply (.tell q j)).Matches ((n.setCoordinator p.coordinator
      (((n.coordinator p.coordinator).note i).note j)).relieve
        (((n.coordinator p.coordinator).released? i).or
          (((n.coordinator p.coordinator).note i).released? j))) := by
  have htold : (n.apply (.tell p i)).coordinator q.coordinator =
      (n.coordinator p.coordinator).note i := by
    rw [← h]
    exact (coordinator_notifyDrained ..).trans (if_pos rfl)
  have hwrite := (n.matches_tell p i).setCoordinator p.coordinator
    (.refl (((n.coordinator p.coordinator).note i).note j))
  rw [← relieve_setCoordinator] at hwrite
  have hlast := (n.apply (.tell p i)).matches_tell q j
  rw [htold, ← h] at hlast
  refine hlast.trans ((hwrite.relieve _).trans ((matches_relieve_or fun a b ha hb => ?_).trans
    ((matches_setCoordinator_self _ _ _).relieve _)))
  rw [hk.eq_of_released? ha, (hk.note i).eq_of_released? hb]

/-- One barrier is told of two channels in either order. -/
theorem matches_tell_tell_self {p q : FlushParty} {i j : ChannelId} (hp : n.Fits (.tell p i))
    (h : p.coordinator = q.coordinator) :
    ((n.apply (.tell p i)).apply (.tell q j)).Matches
      ((n.apply (.tell q j)).apply (.tell p i)) := by
  have hk : (n.coordinator p.coordinator).Serves p.toParty := hp
  have hpq := matches_tell_tell h hk i j
  have hqp := matches_tell_tell h.symm (h ▸ hk) j i
  refine hpq.trans (.trans ?_ hqp.symm)
  rw [← h, hk.released?_comm i j]
  exact ((Matches.refl n).setCoordinator p.coordinator (hk.note_comm i j)).relieve _

/-- Two effects that do not meet can be exchanged. -/
theorem Apart.comm {e f : Effect} (h : n.Apart e f) (he : n.Fits e) (hf : n.Fits f) :
    ((n.apply e).apply f).Matches ((n.apply f).apply e) := by
  cases e with
  | release p => cases f with
    | release q => exact matches_deliver_deliver n h .done .done
    | tell q id => exact matches_release_tell hf h
    | park s => exact (matches_suspend_deliver n .done h).symm
  | tell p i => cases f with
    | release q => exact (matches_release_tell he (Ne.symm h)).symm
    | tell q j =>
      obtain hk | hslot := h
      · exact matches_tell_tell_self he hk
      · exact matches_tell_tell_of_ne he hf hslot
    | park s => exact (matches_park_tell he h).symm
  | park s => cases f with
    | release q => exact matches_suspend_deliver n .done h
    | tell q id => exact matches_park_tell hf h
    | park t => exact matches_suspend_suspend n s t

/-! ### Lists of effects -/

theorem resolved_apply (e : Effect) {d : Slot.Ref} (h : (n.slot d).isResolved = true) :
    ((n.apply e).slot d).isResolved = true := by
  have hmoves :
      Moves Moves.anything Moves.anything Moves.anything Moves.anything n (n.apply e) := by
    cases e with
    | release p =>
      exact Moves.deliver .refl .done fun _ =>
        ⟨Moves.anything_intro p.strand, Moves.anything_intro p.slot⟩
    | tell p id =>
      exact Moves.notifyDrained .refl id (Moves.anything_intro p.coordinator) fun b _ _ =>
        ⟨Moves.anything_intro b.strand, Moves.anything_intro b.slot⟩
    | park s => exact Moves.suspend .refl (Moves.anything_intro s)
  rw [hmoves.resolved h]
  exact h

theorem Fits.apply {f : Effect} (h : n.Fits f) (e : Effect) : (n.apply e).Fits f := by
  cases f with
  | release p => trivial
  | park s => trivial
  | tell q id =>
    have hq : (n.coordinator q.coordinator).Serves q.toParty := h
    change ((n.apply e).coordinator q.coordinator).Serves q.toParty
    cases e with
    | release p => rwa [Network.apply, coordinator_deliver]
    | park s => rwa [Network.apply, coordinator_suspend]
    | tell p i =>
      rw [Network.apply, coordinator_notifyDrained]
      split
      · rename_i hk
        exact hk ▸ hq.note i
      · exact hq

theorem Apart.apply {f g : Effect} (h : n.Apart f g) (e : Effect) : (n.apply e).Apart f g := by
  cases f with
  | park s => cases g with
    | park t => trivial
    | _ => exact fun hs => resolved_apply e (h hs)
  | _ => cases g with
    | park s => exact fun hs => resolved_apply e (h hs)
    | _ => exact h

/-- An effect can be exchanged with a list of effects. -/
theorem matches_applyAll_apply {e : Effect} {l : List Effect} (he : n.Fits e)
    (hl : ∀ f ∈ l, n.Fits f) (h : ∀ f ∈ l, n.Apart e f) :
    ((n.apply e).applyAll l).Matches ((n.applyAll l).apply e) := by
  induction l generalizing n with
  | nil => exact .refl _
  | cons f l ih =>
    have hf := List.mem_cons_self (a := f) (l := l)
    have hswap := (h f hf).comm he (hl f hf)
    exact (hswap.applyAll l).trans (ih (he.apply f)
      (fun g hg => (hl g (List.mem_cons_of_mem f hg)).apply f)
      fun g hg => (h g (List.mem_cons_of_mem f hg)).apply f)

/-- Lists of effects can be exchanged. -/
theorem matches_applyAll_comm {l l' : List Effect} (hl : ∀ e ∈ l, n.Fits e)
    (hl' : ∀ f ∈ l', n.Fits f) (h : ∀ e ∈ l, ∀ f ∈ l', n.Apart e f) :
    ((n.applyAll l).applyAll l').Matches ((n.applyAll l').applyAll l) := by
  induction l generalizing n with
  | nil => exact .refl _
  | cons e l ih =>
    have he := List.mem_cons_self (a := e) (l := l)
    have hrest : ((n.apply e).applyAll l).applyAll l' |>.Matches
        (((n.apply e).applyAll l').applyAll l) :=
      ih (fun f hf => (hl f (List.mem_cons_of_mem e hf)).apply e) (fun f hf => (hl' f hf).apply e)
        fun f hf g hg => (h f (List.mem_cons_of_mem e hf) g hg).apply e
    exact hrest.trans ((matches_applyAll_apply (hl e he) hl' (h e he)).applyAll l)

/-! ## What a receive does -/

@[simp] theorem channel_apply (n : Network τ ε) (e : Effect) (c : Channel.Ref) :
    (n.apply e).channel c = n.channel c := by
  cases e <;> simp [apply]

@[simp] theorem channel_applyAll (n : Network τ ε) (l : List Effect) (c : Channel.Ref) :
    (n.applyAll l).channel c = n.channel c := by
  induction l generalizing n with
  | nil => rfl
  | cons e l ih => rw [applyAll_cons, ih, channel_apply]

/-- A channel can be written before or after an effect. -/
theorem matches_setChannel_apply (n : Network τ ε) (c : Channel.Ref) (x : Channel τ ε)
    (e : Effect) : ((n.setChannel c x).apply e).Matches ((n.apply e).setChannel c x) := by
  cases e with
  | release p =>
    rw [apply, apply, deliver_setChannel]
    exact .refl _
  | park s =>
    have hsuspend := (aside_setChannel c x).suspend n s
    rw [apply, apply, hsuspend]
    exact .refl _
  | tell p id =>
    have hrelieve : ∀ o, ((n.setCoordinator p.coordinator
        ((n.coordinator p.coordinator).note id)).setChannel c x).relieve o = ((n.setCoordinator
          p.coordinator ((n.coordinator p.coordinator).note id)).relieve o).setChannel c x := by
      intro o
      cases o with
      | none => rfl
      | some q => exact deliver_setChannel _ c x q .done
    refine ((n.setChannel c x).matches_tell p id).trans (.trans ?_
      ((n.matches_tell p id).setChannel c x).symm)
    rw [← hrelieve]
    exact .refl _

theorem matches_setChannel_applyAll (n : Network τ ε) (c : Channel.Ref) (x : Channel τ ε)
    (l : List Effect) :
    ((n.setChannel c x).applyAll l).Matches ((n.applyAll l).setChannel c x) := by
  induction l generalizing n with
  | nil => exact .refl _
  | cons e l ih => exact ((n.matches_setChannel_apply c x e).applyAll l).trans (ih (n.apply e))

/-- The steps that lead from `n` to the last network change the channel `c`, have these effects, and
do nothing else. -/
inductive Yields (n : Network τ ε) (c : Channel.Ref) : List Effect → Network τ ε → Prop where
  | refl : Yields n c [] n
  | emit {l : List Effect} {m : Network τ ε} (h : Yields n c l m) (e : Event) :
    Yields n c l (m.emit e)
  | update {l : List Effect} {m : Network τ ε} (h : Yields n c l m)
    (f : Channel τ ε → Channel τ ε) : Yields n c l (m.updateChannel c f)
  | apply {l : List Effect} {m : Network τ ε} (h : Yields n c l m) (e : Effect) :
    Yields n c (l ++ [e]) (m.apply e)

/-- The channel may as well be written at once, and the effects come afterwards. -/
theorem Yields.matches {c : Channel.Ref} {l : List Effect} (h : n.Yields c l m) :
    m.Matches ((n.setChannel c (m.channel c)).applyAll l) := by
  induction h with
  | refl =>
    refine ⟨fun b => ?_, fun _ => rfl, fun _ => rfl, fun _ => rfl, fun _ => .refl _,
      fun _ => .refl _⟩
    rw [applyAll, List.foldl_nil, channel_setChannel]
    split
    · rename_i hb
      rw [hb]
    · rfl
  | emit _ e ih => exact (Matches.emit _ e).trans ih
  | @update l m h f ih =>
    rw [channel_updateChannel_self]
    exact (ih.setChannel c _).trans ((matches_setChannel_applyAll _ c _ l).symm.trans
      ((matches_setChannel_self c _ _).applyAll l))
  | @apply l m h e ih =>
    rw [channel_apply, applyAll_append]
    exact ih.apply e

end Network

/-- The effects of trying to receive from a channel. -/
def Channel.effects (channel : Channel τ ε) (c : Channel.Ref) (s : Strand.Ref) : List Effect :=
  match channel.queue with
  | m :: _ =>
    (if m.sync then channel.syncSender.toList.map .release else []) ++
      channel.countReceived.drainedSender?.toList.map (.tell · c.id)
  | [] => if channel.arrived?.isSome then [] else [.park s]

namespace Network

variable {n m : Network τ ε} {c : Channel.Ref}

theorem Yields.receiveMessage (c : Channel.Ref) (s : Strand.Ref) (m : Message τ)
    (rest : List (Message τ)) :
    n.Yields c ((if m.sync then (n.channel c).syncSender.toList.map .release else []) ++
      (n.channel c).countReceived.drainedSender?.toList.map (.tell · c.id))
      (n.receiveMessage c s m rest) := by
  have counted : n.Yields c [] (n.countMessage c s rest) := .emit (.update .refl _) _
  have taken : n.Yields c (if m.sync then (n.channel c).syncSender.toList.map .release else [])
      (n.takeMessage c s m rest) := by
    unfold takeMessage
    split
    · have hsync : ((n.countMessage c s rest).channel c).syncSender = (n.channel c).syncSender := by
        rw [channel_countMessage, if_pos rfl]
      unfold releaseSyncSender
      rw [hsync]
      cases (n.channel c).syncSender with
      | none => exact counted.emit _
      | some p => exact .apply (.emit (.update counted _) _) (.release p)
    · exact counted
  have hdrained : ((n.takeMessage c s m rest).channel c).drainedSender? =
      (n.channel c).countReceived.drainedSender? := by
    rw [channel_takeMessage, if_pos rfl]
    rfl
  rw [receiveMessage_eq]
  unfold noteDrained
  rw [hdrained]
  cases (n.channel c).countReceived.drainedSender? with
  | none => exact (List.append_nil _).symm ▸ taken
  | some p => exact .apply (.emit (.update taken _) _) (.tell p c.id)

theorem Yields.receive (n : Network τ ε) (c : Channel.Ref) (s : Strand.Ref) :
    n.Yields c ((n.channel c).effects c s) (n.receive c s).1 := by
  unfold Channel.effects Network.receive
  cases (n.channel c).queue with
  | cons m rest => exact .receiveMessage c s m rest
  | nil =>
    dsimp only
    cases (n.channel c).arrived? with
    | some taken => exact .emit (.update .refl _) _
    | none =>
      change n.Yields c ([] ++ [.park s]) (n.parkReceiver c s)
      unfold parkReceiver
      refine .emit (.update (.apply ?_ (.park s)) _) _
      split
      · exact .refl
      · split
        · exact .refl
        · exact .emit .refl _

/-- What is received, and what becomes of the channel, depends on the channel alone. -/
theorem receive_congr (h : m.channel c = n.channel c) (s : Strand.Ref) :
    (m.receive c s).1.channel c = (n.receive c s).1.channel c ∧
      (m.receive c s).2 = (n.receive c s).2 := by
  unfold receive
  rw [h]
  split
  · simp only [channel_receiveMessage, h, if_true, and_self]
  · split
    · simp only [channel_receiveFailure, h, if_true, and_self]
    · simp only [channel_parkReceiver, h, if_true, and_self]

/-! ## Two receives -/

section
variable {A B : Channel.Ref}

/-- A receive does not touch any other channel. -/
theorem channel_receive_of_ne (n : Network τ ε) (h : B ≠ A) (s : Strand.Ref) :
    (n.receive A s).1.channel B = n.channel B := by
  rw [(Yields.receive n A s).matches.channel, channel_applyAll, channel_setChannel, if_neg h]

/-- After two receives both channels are written, and the effects of the first one come before
those of the second. -/
theorem matches_receive_receive (n : Network τ ε) (h : B ≠ A) (r t : Strand.Ref) :
    ((n.receive A r).1.receive B t).1.Matches
      ((((n.setChannel A ((n.receive A r).1.channel A)).setChannel B
        ((n.receive B t).1.channel B)).applyAll ((n.channel A).effects A r)).applyAll
          ((n.channel B).effects B t)) := by
  have hB := n.channel_receive_of_ne h r
  have hsecond := (Yields.receive (n.receive A r).1 B t).matches
  rw [(receive_congr hB t).1, hB] at hsecond
  have hfirst := (Yields.receive n A r).matches.setChannel B ((n.receive B t).1.channel B)
  exact hsecond.trans ((hfirst.trans (matches_setChannel_applyAll _ B _ _).symm).applyAll _)

theorem fits_setChannel {x : Channel τ ε} {e : Effect} (h : n.Fits e) :
    (n.setChannel c x).Fits e := by
  cases e <;> exact h

theorem apart_setChannel {x : Channel τ ε} {e f : Effect} (h : n.Apart e f) :
    (n.setChannel c x).Apart e f := by
  cases e <;> cases f <;> exact h

/-- Receives whose effects do not meet can be exchanged. -/
theorem receive_comm (hAB : A ≠ B) {r t : Strand.Ref}
    (hA : ∀ e ∈ (n.channel A).effects A r, n.Fits e)
    (hB : ∀ f ∈ (n.channel B).effects B t, n.Fits f)
    (h : ∀ e ∈ (n.channel A).effects A r, ∀ f ∈ (n.channel B).effects B t, n.Apart e f) :
    ((n.receive A r).1.receive B t).1.Matches ((n.receive B t).1.receive A r).1 := by
  refine (n.matches_receive_receive hAB.symm r t).trans
    (.trans ?_ (n.matches_receive_receive hAB t r).symm)
  refine (matches_applyAll_comm (fun e he => fits_setChannel (fits_setChannel (hA e he)))
    (fun f hf => fits_setChannel (fits_setChannel (hB f hf)))
    fun e he f hf => apart_setChannel (apart_setChannel (h e he f hf))).trans ?_
  exact ((matches_setChannel_of_ne hAB _ _).applyAll _).applyAll _

end

end Network

/-! ## Registered senders -/

/-- A sender that is registered with a channel, until its value is received or until the channel has
drained. -/
inductive Registrant where
  | sync (p : Party)
  | flush (p : FlushParty)
  deriving DecidableEq

namespace Registrant

def party : Registrant → Party
  | sync p => p
  | flush p => p.toParty

/-- The sender was registered with the channel `c` by the flush of several channels that was begun
after the calls `a`. -/
def BegunAfter (calls a : List (Call τ ε)) (c : Channel.Ref) : Registrant → Prop
  | sync _ => False
  | flush p => ∃ cs rest, calls = a ++ .flushAll cs p.strand p.slot :: rest ∧ c ∈ cs ∧
      p.coordinator = (({} : Network τ ε).run a).coordinators.fresh

end Registrant

/-- The senders that are registered with a channel. -/
def Channel.registrants (channel : Channel τ ε) : List Registrant :=
  channel.syncSender.toList.map .sync ++ channel.flushSender.toList.map .flush

/-- The effects of a receive concern the senders that are registered, and the receiver. -/
theorem Channel.effects_cases {channel : Channel τ ε} {c : Channel.Ref} {s : Strand.Ref}
    {e : Effect} (h : e ∈ channel.effects c s) :
    (∃ p, .sync p ∈ channel.registrants ∧ e = .release p) ∨
      (∃ p, .flush p ∈ channel.registrants ∧ e = .tell p c.id) ∨ e = .park s := by
  unfold Channel.effects at h
  split at h
  · obtain he | he := List.mem_append.1 h
    · split at he
      · obtain ⟨p, hp, rfl⟩ := List.mem_map.1 he
        exact .inl ⟨p, List.mem_append_left _ (List.mem_map_of_mem hp), rfl⟩
      · cases he
    · obtain ⟨p, hp, rfl⟩ := List.mem_map.1 he
      have hp := Option.mem_toList.2 (Option.filter_eq_some_iff.1 (Option.mem_toList.1 hp)).1
      exact .inr (.inl ⟨p, List.mem_append_right _ (List.mem_map_of_mem hp), rfl⟩)
  · split at h
    · cases h
    · exact .inr (.inr (List.mem_singleton.1 h))

namespace Network

variable {n m : Network τ ε}

/-- A sender with that strand is registered somewhere, and its wait is not over. -/
def ParkedAsSender (n : Network τ ε) (s : Strand.Ref) : Prop :=
  ∃ c, ∃ x ∈ (n.channel c).registrants,
    x.party.strand = s ∧ (n.slot x.party.slot).isResolved = false

/-- Nobody is registered with a channel that was never created. -/
theorem parkedAsSender_iff {s : Strand.Ref} : n.ParkedAsSender s ↔
    ∃ channel ∈ n.channels.items, ∃ x ∈ channel.registrants,
      x.party.strand = s ∧ (n.slot x.party.slot).isResolved = false := by
  have hget := n.channels.forall_get (P := fun channel => ¬ ∃ x ∈ channel.registrants,
    x.party.strand = s ∧ (n.slot x.party.slot).isResolved = false)
  have hdefault : ¬ ∃ x ∈ (default : Channel τ ε).registrants,
      x.party.strand = s ∧ (n.slot x.party.slot).isResolved = false :=
    fun ⟨_, hx, _⟩ => absurd hx List.not_mem_nil
  rw [← not_iff_not, ParkedAsSender, not_exists]
  refine (hget.trans (and_iff_right hdefault)).trans ?_
  simp only [not_exists, not_and]

instance (n : Network τ ε) (s : Strand.Ref) : Decidable (n.ParkedAsSender s) :=
  decidable_of_iff _ parkedAsSender_iff.symm

/-- A barrier releases the same sender as long as it exists. -/
theorem Hears.serves {h : List (Telling τ ε)} (hm : n.Hears h m) {k : Coordinator.Ref} {p : Party}
    (hk : (n.coordinator k).Serves p) : (m.coordinator k).Serves p := by
  have quiet : ∀ {n m : Network τ ε}, n.Quiet m → (n.coordinator k).Serves p →
      (m.coordinator k).Serves p := by
    intro n m hq hk
    obtain hsame | ⟨hdefault, -⟩ := hq.coordinator k
    · rwa [hsame]
    · obtain ⟨b, hb, -⟩ := hk
      rw [hdefault] at hb
      cases hb
  induction h generalizing n with
  | nil => exact quiet hm hk
  | cons x h ih =>
    refine ih hm.2 ?_
    have hx := quiet hm.1 hk
    rw [Telling.after, coordinator_notifyDrained]
    split
    · rename_i hj
      exact (hj ▸ hx).note _
    · exact hx

/-- Whoever is registered by a flush of several channels is released by the barrier of that
flush. -/
theorem serves_of_begunAfter {calls a : List (Call τ ε)} {c : Channel.Ref} {p : FlushParty}
    (h : (Registrant.flush p).BegunAfter calls a c) :
    ((({} : Network τ ε).run calls).coordinator p.coordinator).Serves p.toParty := by
  obtain ⟨cs, rest, rfl, hc, hk⟩ := h
  have hcs : cs ≠ [] := List.ne_nil_of_mem hc
  rw [run_append, run_cons]
  refine (hears_run _ rest).serves ?_
  obtain ⟨m, hleads, hm⟩ := flushAll_deeds (({} : Network τ ε).run a) hcs p.strand p.slot
  have hcreated : ((({} : Network τ ε).run a).createBarrier p.strand p.slot
      (cs.map (·.id)).eraseDups.length).1.coordinator p.coordinator |>.Serves p.toParty := by
    rw [createBarrier, coordinator_setCoordinator, if_pos hk]
    exact ⟨_, rfl, rfl, rfl⟩
  have hflushed := (Hears.leads hleads).serves hcreated
  change ((((({} : Network τ ε).run a).flushAll cs p.strand p.slot).1).coordinator _).Serves _
  obtain hm | hm := hm
  · rwa [hm]
  · rwa [hm, coordinator_markRunning]

/-- In every run two receives on different channels can be exchanged, if the two strands are not
parked as senders, if whoever is registered to flush one of the channels was registered by a flush
of several channels, and if senders of the two channels share a slot only if both were registered by
the same one. Both strands receive the same in either order, whether a value, a failure or nothing.
Afterwards all channels, slots and strands are the same, all barriers have heard of the same
channels, and all ready sets hold the same strands. -/
theorem receives_commute (calls : List (Call τ ε)) (A B : Channel.Ref) (r t : Strand.Ref) :
    let n := ({} : Network τ ε).run calls
    A ≠ B → ¬ n.ParkedAsSender r → ¬ n.ParkedAsSender t →
    (∀ c ∈ [A, B], ∀ p, .flush p ∈ (n.channel c).registrants →
      ∃ a, (Registrant.flush p).BegunAfter calls a c) →
    (∀ x ∈ (n.channel A).registrants, ∀ y ∈ (n.channel B).registrants,
      x.party.slot = y.party.slot → ∃ a, x.BegunAfter calls a A ∧ y.BegunAfter calls a B) →
    ((n.receive A r).1.receive B t).2 = (n.receive B t).2 ∧
      ((n.receive B t).1.receive A r).2 = (n.receive A r).2 ∧
      ((n.receive A r).1.receive B t).1.Matches ((n.receive B t).1.receive A r).1 := by
  intro n hAB hr ht hflush hshare
  refine ⟨(receive_congr (n.channel_receive_of_ne hAB.symm r) t).2,
    (receive_congr (n.channel_receive_of_ne hAB t) r).2, ?_⟩
  have fits : ∀ c ∈ [A, B], ∀ s, ∀ e ∈ (n.channel c).effects c s, n.Fits e := by
    intro c hc s e he
    obtain ⟨p, -, rfl⟩ | ⟨p, hp, rfl⟩ | rfl := Channel.effects_cases he
    · trivial
    · obtain ⟨a, ha⟩ := hflush c hc p hp
      exact serves_of_begunAfter ha
    · trivial
  have resolved : ∀ {c s}, ¬ n.ParkedAsSender s → ∀ {x}, x ∈ (n.channel c).registrants →
      x.party.strand = s → (n.slot x.party.slot).isResolved = true := by
    intro c s hs x hx hstrand
    exact of_not_not fun ho => hs ⟨c, x, hx, hstrand, Bool.eq_false_iff.2 ho⟩
  refine receive_comm hAB (fits A (by simp) r) (fits B (by simp) t) fun e he f hf => ?_
  obtain ⟨p, hp, rfl⟩ | ⟨p, hp, rfl⟩ | rfl := Channel.effects_cases he
  · obtain ⟨q, hq, rfl⟩ | ⟨q, hq, rfl⟩ | rfl := Channel.effects_cases hf
    · exact fun hslot => (hshare _ hp _ hq hslot).elim fun _ h => h.1
    · exact fun hslot => (hshare _ hp _ hq hslot).elim fun _ h => h.1
    · exact resolved ht hp
  · obtain ⟨q, hq, rfl⟩ | ⟨q, hq, rfl⟩ | rfl := Channel.effects_cases hf
    · exact fun hslot => (hshare _ hp _ hq hslot).elim fun _ h => h.2
    · by_cases hslot : p.slot = q.slot
      · obtain ⟨a, ⟨_, _, _, _, hk⟩, ⟨_, _, _, _, hk'⟩⟩ := hshare _ hp _ hq hslot
        exact .inl (hk.trans hk'.symm)
      · exact .inr hslot
    · exact resolved ht hp
  · obtain ⟨q, hq, rfl⟩ | ⟨q, hq, rfl⟩ | rfl := Channel.effects_cases hf
    · exact resolved hr hq
    · exact resolved hr hq
    · trivial

/-- A strand flushes two channels, on each of which a sender waits for its value. Whichever value is
received first, the other one completes the flush, and three strands get ready: in another order,
and the barrier hears of its channels in another order. -/
theorem receives_commute_of_one_flush :
    let before : List (Call Nat String) := [
      .createReadySet,
      .createStrand (some "flushing") ⟨0⟩,
      .createStrand (some "left receiver") ⟨0⟩,
      .createStrand (some "right receiver") ⟨0⟩,
      .createStrand (some "left sender") ⟨0⟩,
      .createStrand (some "right sender") ⟨0⟩,
      .createSlot,
      .createSlot,
      .createSlot,
      .createChannel {},
      .createChannel {},
      .operate ⟨0⟩ (.syncSend 7 ⟨3⟩ ⟨1⟩),
      .operate ⟨1⟩ (.syncSend 8 ⟨4⟩ ⟨2⟩)]
    let n := ({} : Network Nat String).run (before ++ [.flushAll [⟨0⟩, ⟨1⟩] ⟨0⟩ ⟨0⟩])
    let p : FlushParty := { strand := ⟨0⟩, slot := ⟨0⟩, threshold := 1, coordinator := ⟨0⟩ }
    let leftFirst := ((n.receive ⟨0⟩ ⟨1⟩).1.receive ⟨1⟩ ⟨2⟩).1
    let rightFirst := ((n.receive ⟨1⟩ ⟨2⟩).1.receive ⟨0⟩ ⟨1⟩).1
    ¬ n.ParkedAsSender ⟨1⟩ ∧ ¬ n.ParkedAsSender ⟨2⟩ ∧
      (n.channel ⟨0⟩).registrants = [.sync ⟨⟨3⟩, ⟨1⟩⟩, .flush p] ∧
      (n.channel ⟨1⟩).registrants = [.sync ⟨⟨4⟩, ⟨2⟩⟩, .flush p] ∧
      (n.slot ⟨0⟩).isResolved = false ∧ (leftFirst.slot ⟨0⟩).isResolved = true ∧
      (leftFirst.readySet ⟨0⟩).queue = [⟨3⟩, ⟨4⟩, ⟨0⟩] ∧
      (rightFirst.readySet ⟨0⟩).queue = [⟨4⟩, ⟨3⟩, ⟨0⟩] ∧
      leftFirst.coordinator ⟨0⟩ ≠ rightFirst.coordinator ⟨0⟩ ∧ leftFirst.Matches rightFirst := by
  intro before n p leftFirst rightFirst
  have hfirst : (n.channel ⟨0⟩).registrants = [.sync ⟨⟨3⟩, ⟨1⟩⟩, .flush p] := by decide
  have hsecond : (n.channel ⟨1⟩).registrants = [.sync ⟨⟨4⟩, ⟨2⟩⟩, .flush p] := by decide
  have hbarrier : p.coordinator = (({} : Network Nat String).run before).coordinators.fresh := by
    decide
  have begun : ∀ c ∈ [(⟨0⟩ : Channel.Ref), ⟨1⟩], (Registrant.flush p).BegunAfter
      (before ++ [.flushAll [⟨0⟩, ⟨1⟩] ⟨0⟩ ⟨0⟩]) before c := fun c hc => ⟨_, _, rfl, hc, hbarrier⟩
  have hflushing : ∀ c ∈ [(⟨0⟩ : Channel.Ref), ⟨1⟩], ∀ q,
      .flush q ∈ (n.channel c).registrants → q = p := by
    intro c hc q hq
    obtain rfl | rfl : c = ⟨0⟩ ∨ c = ⟨1⟩ := by simpa using hc
    · simpa [hfirst] using hq
    · simpa [hsecond] using hq
  have hshared : ∀ x ∈ [Registrant.sync ⟨⟨3⟩, ⟨1⟩⟩, .flush p],
      ∀ y ∈ [Registrant.sync ⟨⟨4⟩, ⟨2⟩⟩, .flush p],
        x.party.slot = y.party.slot → x = .flush p ∧ y = .flush p := by decide
  have hcommute := receives_commute (before ++ [.flushAll [⟨0⟩, ⟨1⟩] ⟨0⟩ ⟨0⟩]) ⟨0⟩ ⟨1⟩ ⟨1⟩ ⟨2⟩
    (by decide) (by decide) (by decide)
    (fun c hc q hq => by
      rw [hflushing c hc q hq]
      exact ⟨before, begun c hc⟩)
    (fun x hx y hy hslot => by
      rw [hfirst] at hx
      rw [hsecond] at hy
      obtain ⟨rfl, rfl⟩ := hshared x hx y hy hslot
      exact ⟨before, begun ⟨0⟩ (by decide), begun ⟨1⟩ (by decide)⟩)
  exact ⟨by decide, by decide, hfirst, hsecond, by decide, by decide, by decide, by decide,
    by decide, hcommute.2.2⟩

end Network

end Rendezvous
