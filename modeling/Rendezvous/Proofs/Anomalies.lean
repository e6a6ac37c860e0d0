import Rendezvous.Proofs.StaleFlush
import Rendezvous.Proofs.SyncCompletion
import Rendezvous.Proofs.Wakeups

/-!
# Warnings that nobody sees

Five of the warnings tell of a party, a message, a slot or a barrier that has lost its counterpart.
Under the rules of use none of them is ever logged.

* **Anomalies** (`Event.isAnomaly`): the events with one of these five texts. A network without one
  in its log is `Network.Clean`.
* **Barriers** (`Network.Unheard`): the barrier with which a sender is registered has not heard of
  that channel yet, whether or not the flush has ended.
* **Operations** (`Clean.operate`, `Clean.flushAll`): an operation is clean if none of the warnings
  for which it has a cause (`Network.Reports`) is an anomaly.
* **Runs** (`Paired.run`, `Network.no_anomalies`): the rules of use provide all counterparts.
-/

namespace Rendezvous

/-- The texts of the warnings that the rules of use exclude. -/
def anomalies : List String := [
  "sync sender replaced",
  "sync message received with no waiting sender",
  "flush sender replaced",
  "second receiver registered on channel, displacing the first",
  "duplicate drain notification"]

/-- Whether an event tells of a counterpart that is missing or displaced. -/
def Event.isAnomaly : Event → Bool
  | .syncSenderReplaced .. | .syncOrphaned .. | .receiverDisplaced .. | .drainRepeated .. => true
  | .flushSenderReplaced _ _ stale => !stale
  | _ => false

/-- Anomalies are known by their texts. -/
theorem Event.isAnomaly_iff (e : Event) : e.isAnomaly = true ↔ e.message ∈ anomalies := by
  unfold isAnomaly message
  cases e with
  | syncSendFailed c s kind | flushFailed c s kind | failureReceived c s kind n =>
    dsimp only
    cases kind <;> decide
  | flushSenderReplaced c s stale =>
    dsimp only
    cases stale <;> decide
  | _ =>
    dsimp only
    decide

/-- What an operation reports anyway is no anomaly. -/
theorem Event.not_isAnomaly_of_isPlain {e : Event} (h : e.isPlain = true) :
    e.isAnomaly = false := by
  cases e <;> first | rfl | cases h

theorem Event.not_isAnomaly_of_isLoss {e : Event} (h : e.isLoss = true) : e.isAnomaly = false := by
  cases e <;> first | rfl | cases h

/-- A barrier that is told of a channel hears of no other. -/
theorem Coordinator.knows_of_note {x : Coordinator} {id other : ChannelId}
    (h : (x.note id).Knows other) : x.Knows other ∨ other = id := by
  cases x with
  | drainLog ids => cases h
  | barrier b =>
    rw [note, Knows] at h
    split at h
    · exact .inl h
    · simpa [Knows, Barrier.note] using h

namespace Network

variable {τ ε : Type} {R : Roles} {n m : Network τ ε} {c : Channel.Ref} {s : Strand.Ref}
  {d : Slot.Ref} {k : Coordinator.Ref}

/-! ## Clean operations -/

/-- No anomaly was logged. -/
def Clean (n : Network τ ε) : Prop := ∀ e ∈ n.log, e.isAnomaly = false

/-- Whether a step, if it is a report, reports no anomaly. -/
def Harmless (_ : Network τ ε) : Step τ ε → Prop
  | .emit e => e.isAnomaly = false
  | _ => True

theorem lenient_harmless : Lenient (Harmless (τ := τ) (ε := ε)) fun _ => True where
  emit := Event.not_isAnomaly_of_isPlain
  update _ _ := trivial

namespace Clean

theorem steps (h : n.Clean) (hm : Steps Harmless n m) : m.Clean := by
  obtain ⟨l, hl, hclean⟩ := hm.log (p := fun e => e.isAnomaly = false) (fun he => he)
    fun e he => by cases e <;> first | rfl | cases he
  intro e he
  rw [hl] at he
  exact (List.mem_append.1 he).elim (h e) (hclean e)

/-- An operation is clean if none of its warnings tells of a counterpart. -/
theorem operate (h : n.Clean) (op : Operation τ ε)
    (hr : ∀ e, n.Reports c op e → e.isAnomaly = false) : (n.operate c op).1.Clean := by
  refine h.steps (steps_operate (fun hx => ?_) fun hx => ?_)
  · cases hx with
    | update => trivial
    | @emit e he => cases e <;> first | rfl | cases he
  · cases hx with
    | emit he => exact hr _ he
    | _ => trivial

/-- Nobody waits for a flush there, or only somebody whose flush has ended, and the barrier has not
heard of the channel. -/
theorem flush (h : n.Clean) (hstale : ∀ p, (n.channel c).flushSender = some p →
    (n.slot p.slot).isResolved = true) (hk : ¬ (n.coordinator k).Knows c.id) (s : Strand.Ref)
    (d : Slot.Ref) : (n.flush c s d k).1.Clean := by
  refine h.operate (.flush s d k) fun e he => ?_
  cases he with
  | plain he => exact Event.not_isAnomaly_of_isPlain he
  | lost hop => cases hop
  | flushSenderReplaced hp => rw [hstale _ hp]; rfl
  | drainRepeated hpassed hknows =>
    cases hpassed with
    | passed => exact absurd hknows hk

/-- The channels still to be asked are different, and the barrier has heard of none of them. -/
theorem flushEach (h : n.Clean) {asked rest : List Channel.Ref} {parked : Bool}
    (hid : (rest.map (·.id)).Nodup)
    (hstale : ∀ c ∈ rest, ∀ p, (n.channel c).flushSender = some p →
      (n.slot p.slot).isResolved = true)
    (hk : ∀ c ∈ rest, ¬ (n.coordinator k).Knows c.id) (s : Strand.Ref) (d : Slot.Ref) :
    (n.flushEach s d k asked rest parked).1.Clean := by
  induction rest generalizing n asked parked with
  | nil => exact h
  | cons c rest ih =>
    obtain ⟨hc, hid⟩ := List.nodup_cons.1 hid
    have other : ∀ x ∈ rest, x.id ≠ c.id := fun x hx hxc => hc (List.mem_map.2 ⟨x, hx, hxc⟩)
    have hflush := h.flush (hstale c List.mem_cons_self) (hk c List.mem_cons_self) s d
    rw [Network.flushEach]
    dsimp only
    have withdrawn : Steps Harmless (n.flush c s d k).1
        ((asked ++ [c]).foldl (·.withdrawFlush d) (n.flush c s d k).1) :=
      Steps.refl.withdrawAll lenient_harmless d fun _ _ => trivial
    split
    · split
      · exact hflush.steps (withdrawn.markRunning trivial)
      · exact hflush.steps withdrawn
    · have hmoves : Moves Moves.anything Moves.anything Moves.anything Moves.anything n
          (n.flush c s d k).1 :=
        .flush .refl trivial trivial trivial trivial fun _ _ _ => ⟨trivial, trivial⟩
      refine ih hflush hid (fun x hx p hp => ?_) fun x hx hknows => ?_
      · rw [channel_flush, if_neg fun hxc => other x hx (congrArg _ hxc)] at hp
        have hended := hstale x (List.mem_cons_of_mem _ hx) p hp
        rw [hmoves.resolved hended]
        exact hended
      · rw [coordinator_flush] at hknows
        split at hknows
        · exact (Coordinator.knows_of_note hknows).elim (hk x (List.mem_cons_of_mem _ hx))
            (other x hx)
        · exact hk x (List.mem_cons_of_mem _ hx) hknows

theorem flushAll (h : n.Clean) {cs : List Channel.Ref} (hid : (cs.map (·.id)).Nodup)
    (hstale : ∀ c ∈ cs, ∀ p, (n.channel c).flushSender = some p →
      (n.slot p.slot).isResolved = true) (s : Strand.Ref) (d : Slot.Ref) :
    (n.flushAll cs s d).1.Clean := by
  unfold Network.flushAll
  dsimp only
  split
  · exact h.steps (Steps.refl.offer fun _ => trivial)
  · have hcreated : (n.createBarrier s d (cs.map (·.id)).eraseDups.length).1.Clean := h
    refine hcreated.flushEach hid hstale (fun c _ hknows => ?_) s d
    rw [createBarrier, coordinator_setCoordinator, if_pos rfl] at hknows
    cases hknows

end Clean

/-! ## Barriers that have not heard -/

theorem coordinator_parkReceiver (s : Strand.Ref) (k : Coordinator.Ref) :
    (n.parkReceiver c s).coordinator k = n.coordinator k := by
  unfold parkReceiver
  simp only [coordinator_emit, coordinator_updateChannel, coordinator_suspend]
  split
  · rfl
  · split <;> rfl

/-- One channel changes, but not its flushing sender. -/
theorem flushSender_eq {a : Channel τ ε}
    (hchannel : ∀ x, m.channel x = if x = c then a else n.channel x)
    (ha : a.flushSender = (n.channel c).flushSender) (x : Channel.Ref) :
    (m.channel x).flushSender = (n.channel x).flushSender := by
  rw [hchannel]
  exact channel_ite n c (·.flushSender) ha x

/-- The barrier of a flushing sender has not heard of the channel where that sender waits. -/
def Unheard (n : Network τ ε) : Prop :=
  ∀ c p, (n.channel c).flushSender = some p → ¬ (n.coordinator p.coordinator).Knows c.id

namespace Unheard

/-- Steps by which nobody starts to flush, and no coordinator is told of anything. -/
theorem keep (h : n.Unheard)
    (hf : ∀ x p, (m.channel x).flushSender = some p → (n.channel x).flushSender = some p)
    (hk : ∀ x p, (n.channel x).flushSender = some p →
      m.coordinator p.coordinator = n.coordinator p.coordinator) : m.Unheard := by
  intro x p hp
  have hp' := hf x p hp
  rw [hk x p hp']
  exact h x p hp'

theorem still (h : n.Unheard) (hf : ∀ x, (m.channel x).flushSender = (n.channel x).flushSender)
    (hk : ∀ k, m.coordinator k = n.coordinator k) : m.Unheard :=
  h.keep (fun x _ hp => hf x ▸ hp) fun _ p _ => hk p.coordinator

theorem moves {S : Strand.Ref → Prop} {D : Slot.Ref → Prop} {C : Channel.Ref → Prop}
    (h : n.Unheard) (hm : Moves S D C (fun _ => False) n m) : m.Unheard := by
  refine h.keep (fun x p hp => ?_) fun x p _ => hm.coordinator not_false
  exact ((hm.registers x).flushSender p hp).resolve_right fun hnew => hnew.2.2

/-- The barrier hears of a channel where its sender is registered no more. -/
theorem noteDrained (h : n.Unheard) (hid : ∀ x p, (n.channel x).flushSender = some p →
    x.id = c.id → x = c) : (n.noteDrained c).Unheard := by
  intro x p hp hknows
  rw [channel_noteDrained] at hp
  cases hq : (n.channel c).drainedSender? with
  | none =>
    have hsame : n.noteDrained c = n := by simp only [Network.noteDrained, hq]
    rw [hsame] at hknows
    have hp : (n.channel x).flushSender = some p := by
      split at hp
      · rename_i hx
        exact hx ▸ (Option.filter_eq_some_iff.1 hp).1
      · exact hp
    exact h x p hp hknows
  | some q =>
    obtain ⟨hq', hdue⟩ := Option.filter_eq_some_iff.1 hq
    -- The sender that the barrier was there for is registered with `c` no more.
    have hxc : x ≠ c := by
      rintro rfl
      rw [if_pos rfl, hq', Option.filter_some, if_neg (by simp [eq_of_beq hdue])] at hp
      cases hp
    rw [if_neg hxc] at hp
    simp only [Network.noteDrained, hq, coordinator_notifyDrained, coordinator_emit,
      coordinator_updateChannel] at hknows
    split at hknows
    · rename_i hk
      obtain hknows | hx := Coordinator.knows_of_note hknows
      · exact h x p hp (hk ▸ hknows)
      · exact hxc (hid x p hp hx)
    · exact h x p hp hknows

theorem receive (h : n.Unheard) (hid : ∀ x p, (n.channel x).flushSender = some p →
    x.id = c.id → x = c) (s : Strand.Ref) : (n.receive c s).1.Unheard := by
  unfold Network.receive
  split
  · rename_i msg rest _
    dsimp only
    rw [receiveMessage_eq]
    have hflush := flushSender_eq (fun x => channel_takeMessage n c x s msg rest) rfl
    exact noteDrained (h.still hflush fun k => coordinator_takeMessage ..)
      fun x p hp => hid x p (hflush x ▸ hp)
  · split
    · exact h.still (flushSender_eq (fun x => channel_receiveFailure n c x s _ _) rfl) fun _ => rfl
    · exact h.still (flushSender_eq (fun x => channel_parkReceiver n c x s) rfl)
        (coordinator_parkReceiver s)

/-- A flush that waits is registered where its new barrier has heard of nothing. -/
theorem flushAll (h : n.Unheard) (hg : Guarded R n) {cs : List Channel.Ref}
    (hs : (n.strand s).phase = .running) (hd : n.Fresh d)
    (hid : ∀ a ∈ cs, ∀ b ∈ cs, a.id = b.id → a = b) : (n.flushAll cs s d).1.Unheard := by
  have old : ∀ x p, (n.channel x).flushSender = some p → p.coordinator ≠ n.coordinators.fresh := by
    intro x p hp
    obtain ⟨b, hb, -⟩ := hg.barrier x p hp
    exact ne_fresh_of_barrier hb
  have hends := n.flushAll_cases cs hs hd.1 (fun x => (hd.2 x).2) hid
  revert hends
  rcases n.flushAll cs s d with ⟨m, ended⟩
  intro hends
  cases hends with
  | failed _ _ _ hended hchannel =>
    refine h.keep (fun x p hp => ?_) fun x p hp => hended.coordinator _ (old x p hp)
    rw [hchannel] at hp
    dsimp only at hp
    split at hp
    · cases hp
    · exact hp
  | drained _ hended hchannel =>
    exact h.keep (fun x p hp => hchannel x ▸ hp) fun x p hp => hended.coordinator _ (old x p hp)
  | parked _ _ hasked =>
    intro x p hp
    rw [hasked.channel] at hp
    split at hp
    · rename_i hx
      cases hp
      obtain ⟨drained, hbarrier, hknown⟩ := hasked.barrier
      rw [hbarrier]
      intro hmem
      obtain ⟨y, hy, hdrained, hyx⟩ := (hknown.2 x.id).1 hmem
      rw [hid y hy x hx.1 hyx, hx.2] at hdrained
      cases hdrained
    · rw [hasked.coordinator _ (old x p hp)]
      exact h x p hp

theorem operate (h : n.Unheard) (hid : ∀ x p, (n.channel x).flushSender = some p →
    x.id = c.id → x = c) {op : Operation τ ε} (hp : R.PermitsOn n c op) :
    (n.operate c op).1.Unheard := by
  have hn : Moves.Free n n := .refl
  cases op with
  | send value s => exact h.moves (hn.send trivial value s fun _ _ => trivial)
  | syncSend value s d =>
    exact h.moves (hn.syncSend trivial value trivial trivial fun _ _ => trivial)
  | receive s => exact h.receive hid s
  | flush => cases hp
  | failSend f => exact h.moves (hn.failSend trivial f fun _ _ => trivial)
  | failReceive f =>
    exact h.moves (S := Moves.anything) (D := Moves.anything) (C := Moves.anything)
      (.failReceive trivial f (fun _ _ _ => ⟨trivial, trivial⟩) fun _ _ _ => ⟨trivial, trivial⟩)

theorem createChannel (h : n.Unheard) (options : ChannelOptions) :
    (n.createChannel options).1.Unheard := by
  refine h.keep (fun x p hp => ?_) fun _ _ _ => rfl
  rw [channel_createChannel] at hp
  split at hp
  · cases hp
  · exact hp

end Unheard

end Network

/-! ## Runs -/

/-- The rules of use, and no flush is asked for the same channel twice. -/
def Roles.PermitsOnce {τ ε : Type} (R : Roles) (n : Network τ ε) (call : Call τ ε) : Prop :=
  R.Permits n call ∧ call.flushed.Nodup

instance {τ ε : Type} (R : Roles) (n : Network τ ε) (call : Call τ ε) :
    Decidable (R.PermitsOnce n call) := inferInstanceAs (Decidable (_ ∧ _))

namespace Network

variable {τ ε : Type} {R : Roles} {n : Network τ ε} {c : Channel.Ref}

/-- By the rules of use no marked message is left behind. -/
theorem Orderly.not_abandons (h : Orderly R n) {call : Call τ ε} (hp : R.Permits n call) :
    ¬ call.Abandons c n := by
  obtain ⟨w, hw⟩ := h.waiting
  cases call with
  | operate x op =>
    rintro ⟨rfl, hop⟩
    cases op with
    | syncSend value s d =>
      obtain ⟨-, rfl, hs, -⟩ := hp
      rw [Operation.Abandons, Channel.hasSyncSender, no_syncSender hw hs] at hop
      cases hop.1
    | failReceive f =>
      obtain ⟨p, hsync, hres⟩ := (Option.any_eq_true _ _).1 hop.2
      rw [hw.unresolved _ _ _ ((hw.syncSender x p).1 hsync) rfl] at hres
      cases hres
    | _ => exact hop
  | _ => exact id

/-- Parties, messages, slots and barriers have their counterparts, and no anomaly was logged. -/
structure Paired (R : Roles) (n : Network τ ε) : Prop where
  orderly : Orderly R n
  tidy : ∀ c, (n.channel c).Tidy
  unheard : n.Unheard
  clean : n.Clean

namespace Paired

theorem operate (h : Paired R n) {op : Operation τ ε} (hp : R.PermitsOn n c op) :
    (n.operate c op).1.Clean := by
  obtain ⟨w, hw⟩ := h.orderly.waiting
  refine h.clean.operate op fun e he => ?_
  cases he with
  | plain he => exact Event.not_isAnomaly_of_isPlain he
  | lost _ he => exact Event.not_isAnomaly_of_isLoss he
  | syncSenderReplaced hsome =>
    obtain ⟨rfl, hs, -⟩ := hp
    exact absurd (Orderly.no_syncSender hw hs) hsome
  | syncOrphaned hq hmarked hnone =>
    have hcount := h.tidy c
    rw [Channel.Tidy, hnone] at hcount
    exact absurd hmarked (List.countP_eq_zero.1 hcount _ (hq ▸ List.mem_cons_self))
  | receiverDisplaced hsome =>
    obtain ⟨rfl, hs⟩ := hp
    exact absurd (Orderly.no_receiver hw hs) hsome
  | flushSenderReplaced => cases hp
  | drainRepeated hk hknows =>
    cases hk with
    | passed => cases hp
    | registered hreg => exact absurd hknows (h.unheard c _ hreg)

theorem flushAll (h : Paired R n) {cs : List Channel.Ref} {s : Strand.Ref} (d : Slot.Ref)
    (hs : (n.strand s).phase = .running) (hrole : ∀ c ∈ cs, R.sender c = s) (hnodup : cs.Nodup)
    (hid : ∀ a ∈ cs, ∀ b ∈ cs, a.id = b.id → a = b) : (n.flushAll cs s d).1.Clean := by
  obtain ⟨w, hw⟩ := h.orderly.waiting
  refine h.clean.flushAll ?_ (fun c hc p hp => ?_) s d
  · refine List.pairwise_map.2 (hnodup.imp_of_mem fun ha hb hne heq => ?_)
    exact hne (hid _ ha _ hb heq)
  · exact hw.stale h.orderly.guarded ((hrole c hc).symm ▸ hs) hp

theorem clean_perform (h : Paired R n) (hsize : n.channels.size < UInt64.size) {call : Call τ ε}
    (hp : R.PermitsOnce n call) : (n.perform call).1.Clean := by
  have dispatched : ∀ q, (n.dispatch q).1.Clean := by
    intro q
    unfold Network.dispatch
    split <;> exact h.clean
  have created : ∀ options, (n.createChannel options).1.Clean := by
    intro options
    have hset : (n.setChannel n.channels.fresh (.create options)).Clean := h.clean
    exact hset.steps (Steps.refl.emit rfl)
  obtain ⟨hp, hnodup⟩ := hp
  cases call with
  | operate c op => exact h.operate hp.2
  | flushAll cs s d =>
    exact h.flushAll d hp.2.1 (fun c hc => (hp.1 c hc).2) hnodup fun a ha b hb =>
      id_inj_of_exists hsize (hp.1 a ha).1 (hp.1 b hb).1
  | dispatch q => exact dispatched q
  | poll q held =>
    change (n.poll q held).1.Clean
    rw [fst_poll]
    exact dispatched q
  | createChannel options => exact created options
  | lookupOrCreate t name =>
    change (n.lookupOrCreate t name).1.Clean
    unfold Network.lookupOrCreate
    split
    · exact h.clean
    · exact created _
  | dropConsumer | wake | markRunning | resume | offer | notifyDrained => cases hp
  | _ => exact h.clean

theorem unheard_perform (h : Paired R n) (hsize : n.channels.size < UInt64.size)
    {call : Call τ ε} (hp : R.Permits n call) : (n.perform call).1.Unheard := by
  have dispatched : ∀ q, (n.dispatch q).1.Unheard := by
    intro q
    unfold Network.dispatch
    split <;> exact h.unheard
  have coordinated : ∀ x, (n.setCoordinator n.coordinators.fresh x).Unheard := by
    intro x
    refine h.unheard.keep (fun _ _ hp => hp) fun c p hp => ?_
    obtain ⟨b, hb, -⟩ := h.orderly.guarded.barrier c p hp
    rw [coordinator_setCoordinator, if_neg (ne_fresh_of_barrier hb)]
  cases call with
  | operate c op =>
    refine h.unheard.operate (fun x p hreg hxc => ?_) hp.2
    exact id_inj_of_exists hsize (index_lt_of_flushSender hreg) hp.1 hxc
  | flushAll cs s d =>
    exact h.unheard.flushAll h.orderly.guarded hp.2.1 hp.2.2 fun a ha b hb =>
      id_inj_of_exists hsize (hp.1 a ha).1 (hp.1 b hb).1
  | createDrainLog | createBarrier => exact coordinated _
  | dispatch q => exact dispatched q
  | poll q held =>
    change (n.poll q held).1.Unheard
    rw [fst_poll]
    exact dispatched q
  | createChannel options => exact h.unheard.createChannel options
  | lookupOrCreate t name =>
    change (n.lookupOrCreate t name).1.Unheard
    unfold Network.lookupOrCreate
    split
    · exact h.unheard
    · exact h.unheard.createChannel _
  | dropConsumer | wake | markRunning | resume | offer | notifyDrained => cases hp
  | _ => exact h.unheard

/-- A call that keeps the rules finds all counterparts, and leaves them in place. -/
theorem perform (h : Paired R n) (hq : ∀ s, n.Queued s) (hsize : n.channels.size < UInt64.size)
    {call : Call τ ε} (hp : R.PermitsOnce n call) : Paired R (n.perform call).1 where
  orderly := h.orderly.perform hq hsize hp.1
  tidy c := (h.tidy c).perform (h.orderly.not_abandons hp.1)
  unheard := h.unheard_perform hsize hp.1
  clean := h.clean_perform hsize hp

theorem start : Paired R ({} : Network τ ε) := ⟨.start, fun _ => rfl, nofun, nofun⟩

/-- So does a run, as long as there are no more channels than a word can number. -/
theorem run (h : Paired R n) (hq : ∀ s, n.Queued s) {calls : List (Call τ ε)}
    (hp : n.Keeps R.PermitsOnce calls) (hsize : n.channels.size + calls.length < UInt64.size) :
    Paired R (n.run calls) := by
  induction calls generalizing n with
  | nil => exact h
  | cons call calls ih =>
    obtain ⟨hcall, hrest⟩ := hp
    rw [List.length_cons] at hsize
    have hstep : (n.perform call).1.channels.size + calls.length < UInt64.size := by
      have hone := size_perform (exists_of_permits hcall.1)
      omega
    refine ih (h.perform hq (by omega) hcall) (fun s => (hq s).perform ?_) hrest hstep
    rintro rfl
    exact hcall.1

end Paired

/-- In every run that keeps the rules there is one marked message on a channel if a sender waits for
its value there, and none otherwise; and none of the five warnings is ever logged. -/
theorem no_anomalies (R : Roles) (calls : List (Call τ ε))
    (hrules : ({} : Network τ ε).Keeps R.PermitsOnce calls) (hlen : calls.length < UInt64.size) :
    let n := ({} : Network τ ε).run calls
    (∀ c, (n.channel c).queue.countP (·.sync) = if (n.channel c).hasSyncSender then 1 else 0) ∧
      ∀ e ∈ n.log, e.message ∉ anomalies := by
  intro n
  have hsize : ({} : Network τ ε).channels.size + calls.length < UInt64.size := by
    have hnone : ({} : Network τ ε).channels.size = 0 := rfl
    omega
  have hn : Paired R n := Paired.start.run Queued.start hrules hsize
  refine ⟨fun c => ?_, fun e he => ?_⟩
  · rw [hn.tidy c, Channel.hasSyncSender]
    cases (n.channel c).syncSender <;> rfl
  · rw [← e.isAnomaly_iff, hn.clean e he]
    exact Bool.false_ne_true

/-- A flush fails on its first channel and leaves a registration with the second one behind, which
the next flush replaces. Afterwards the sender waits for its value to be received. -/
theorem no_anomalies_stale :
    let R : Roles := ⟨fun _ => ⟨0⟩, fun _ => ⟨1⟩⟩
    let calls : List (Call Nat String) := [
      .createReadySet,
      .createStrand (some "tx") ⟨0⟩,
      .createStrand (some "rx") ⟨0⟩,
      .createSlot,
      .createSlot,
      .createSlot,
      .createChannel {},
      .createChannel {},
      .operate ⟨0⟩ (.send 1 ⟨0⟩),
      .operate ⟨1⟩ (.send 2 ⟨0⟩),
      .flushAll [⟨0⟩, ⟨1⟩] ⟨0⟩ ⟨0⟩,
      .operate ⟨0⟩ (.failReceive (.error "lost")),
      .dispatch ⟨0⟩,
      .flushAll [⟨1⟩] ⟨0⟩ ⟨1⟩,
      .operate ⟨1⟩ (.receive ⟨1⟩),
      .dispatch ⟨0⟩,
      .operate ⟨0⟩ (.syncSend 3 ⟨0⟩ ⟨2⟩)]
    let n := ({} : Network Nat String).run calls
    ({} : Network Nat String).Keeps R.PermitsOnce calls ∧ calls.length < UInt64.size ∧
      "stale flush sender replaced" ∈ n.log.map (·.message) ∧
      (n.channel ⟨0⟩).queue = [⟨1, false⟩, ⟨3, true⟩] ∧
      (n.channel ⟨0⟩).queue.countP (·.sync) = 1 ∧ ∀ e ∈ n.log, e.message ∉ anomalies := by
  intro R calls n
  have hrules : ({} : Network Nat String).Keeps R.PermitsOnce calls := by decide
  have hlen : calls.length < UInt64.size := by decide
  obtain ⟨hmarked, hclean⟩ := no_anomalies R calls hrules hlen
  exact ⟨hrules, hlen, by decide, by decide, hmarked ⟨0⟩, hclean⟩

end Network

end Rendezvous
