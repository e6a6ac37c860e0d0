import Rendezvous.Proofs.Creation
import Rendezvous.Proofs.OperationSteps

/-!
# The log as an audit trail

Whoever reads a complete log can follow both counters of every channel, step by step, and tells the
channels apart by nothing but their texts.

* **Reading** (`audit`): the counts that events show, picked out by their message and by the text of
  their channel.
* **Texts** (`ChannelTag.id_of_text`): however channels are named, the text of a channel tells its
  number.
* **Entries** (`Event.entry?`): what an event says about a counter. The message and the fields of an
  event show exactly this (`audit_eq`).
* **Operations** (`Network.Records`, `Network.Unrecorded`): an operation makes one entry where it
  counts its place, if it does, and none afterwards (`steps_uncounted`). So a call makes one entry
  and counts one place with it, or makes no entry and counts nothing (`perform_records`).
* **Runs** (`Network.Audited`, `log_audits_counters`).
-/

namespace Rendezvous

variable {τ ε : Type}

/-! ## Reading -/

/-- The side of a channel that a counter belongs to. -/
inductive Side where
  | sending
  | receiving
  deriving DecidableEq

namespace Side

/-- The field under which events show the counter. -/
def label : Side → String
  | sending => "send_count"
  | receiving => "recv_count"

/-- The messages of the events that tell of a change of the counter. -/
def messages : Side → List String
  | sending => ["send", "sync send", "send-side failure"]
  | receiving => ["receive", "receive panic", "receive error", "receive-side failure"]

end Side

/-- The counter of one side. -/
def Channel.count (channel : Channel τ ε) : Side → UInt64
  | .sending => channel.sendCount
  | .receiving => channel.recvCount

/-- What a log that shows everything tells about the counter of one side, oldest first: the events
with the right messages and the right text for the channel are picked out, and their count is
read. -/
def audit (side : Side) (text : String) (log : List Event) : List (Option FieldValue) :=
  (log.filter fun e => Level.trace.shows e.level ∧
    e.fields.lookup "channel" = some (.text text) ∧ e.message ∈ side.messages).map
      (·.fields.lookup side.label)

/-! ## Texts -/

/-- What follows the number in the text of a channel: nothing, or the name in brackets. -/
theorem ChannelTag.toList_toString (t : ChannelTag) : ∃ rest, (toString t).toList =
    "chan#".toList ++ (Nat.toDigits 10 t.id.number.toNat ++ rest) ∧
      rest.takeWhile Char.isDigit = [] := by
  obtain ⟨⟨number⟩, name⟩ := t
  have hid : (toString (⟨number⟩ : ChannelId)).toList =
      "chan#".toList ++ Nat.toDigits 10 number.toNat := by
    rw [← Nat.toList_repr]
    exact String.toList_append
  cases name with
  | none => exact ⟨[], by rw [List.append_nil]; exact hid, rfl⟩
  | some name =>
    refine ⟨'(' :: (name.toList ++ [')']), ?_, rfl⟩
    change (toString (⟨number⟩ : ChannelId) ++ "(" ++ name ++ ")").toList = _
    simp [String.toList_append, hid]

/-- The text of a channel tells its number, whatever the names are. -/
theorem ChannelTag.id_of_text {a b : ChannelTag} (h : toString a = toString b) : a.id = b.id := by
  have digits : ∀ (t : ChannelTag) rest, rest.takeWhile Char.isDigit = [] →
      (Nat.toDigits 10 t.id.number.toNat ++ rest).takeWhile Char.isDigit =
        Nat.toDigits 10 t.id.number.toNat := by
    intro t rest hrest
    rw [List.takeWhile_append_of_pos fun c hc =>
      Nat.isDigit_of_mem_toDigits (by decide) (by decide) hc, hrest, List.append_nil]
  obtain ⟨ra, ha, hra⟩ := a.toList_toString
  obtain ⟨rb, hb, hrb⟩ := b.toList_toString
  have hcut := List.append_cancel_left (ha.symm.trans ((congrArg String.toList h).trans hb))
  have hdigits := (digits a ra hra).symm.trans ((congrArg _ hcut).trans (digits b rb hrb))
  have hnumber := congrArg (Nat.ofDigitChars 10 · 0) hdigits
  simp only [Nat.ofDigitChars_ten_toDigits, UInt64.toNat_inj] at hnumber
  exact congrArg ChannelId.mk hnumber

/-! ## Entries -/

/-- What is said about a counter. -/
structure Entry where
  side : Side
  channel : ChannelTag
  count : UInt64
  deriving DecidableEq

namespace Event

/-- What an event says about a counter. -/
def entry? : Event → Option Entry
  | .sent c _ n | .syncSent c _ n | .sendFailed c _ n => some ⟨.sending, c, n⟩
  | .received c _ n | .failureReceived c _ _ n | .receiveFailed c _ n => some ⟨.receiving, c, n⟩
  | _ => none

theorem shows_trace (e : Event) : Level.trace.shows e.level = true := by
  cases e.level <;> rfl

/-- The message of an event tells whether it makes an entry, and for which side. -/
theorem message_mem_iff (e : Event) (side : Side) :
    e.message ∈ side.messages ↔ e.entry?.map (·.side) = some side := by
  unfold message entry?
  cases e with
  | syncSendFailed c s kind | flushFailed c s kind | failureReceived c s kind n =>
    dsimp only [Option.map]
    cases kind <;> cases side <;> decide
  | flushSenderReplaced c s stale =>
    dsimp only
    cases stale <;> cases side <;> decide
  | _ =>
    dsimp only [Option.map]
    cases side <;> decide

/-- The fields of an event that makes an entry show it. -/
theorem fields_of_entry? {e : Event} {x : Entry} (h : e.entry? = some x) :
    e.fields.lookup "channel" = some (.text (toString x.channel)) ∧
      e.fields.lookup x.side.label = some (.count x.count.toNat) := by
  cases e with
  | sent | syncSent | sendFailed | received | failureReceived | receiveFailed =>
    obtain rfl := Option.some.inj h
    exact ⟨rfl, rfl⟩
  | _ => cases h

end Event

/-- The entries that one side of a channel makes. -/
def countsOf (side : Side) (tag : ChannelTag) (entries : List Entry) : List UInt64 :=
  (entries.filter fun x => x.side = side ∧ x.channel = tag).map (·.count)

/-- The audit finds the entries with the right side and a channel of that text. -/
theorem audit_eq (side : Side) (text : String) (log : List Event) : audit side text log =
    ((log.filterMap Event.entry?).filter fun x => x.side = side ∧ toString x.channel = text).map
      fun x => some (.count x.count.toNat) := by
  induction log with
  | nil => rfl
  | cons e log ih =>
    have hmem := e.message_mem_iff side
    unfold audit at ih ⊢
    rw [List.filter_cons, List.filterMap_cons]
    cases he : e.entry? with
    | none =>
      rw [he] at hmem
      rw [if_neg fun h => nomatch hmem.1 (of_decide_eq_true h).2.2]
      exact ih
    | some x =>
      obtain ⟨hchannel, hcount⟩ := Event.fields_of_entry? he
      rw [he, Option.map_some, Option.some.injEq] at hmem
      have hshown : (Level.trace.shows e.level = true ∧
          e.fields.lookup "channel" = some (.text text) ∧ e.message ∈ side.messages) ↔
          x.side = side ∧ toString x.channel = text := by
        rw [hchannel, hmem, Option.some.injEq, FieldValue.text.injEq, and_comm (b := x.side = side)]
        exact and_iff_right e.shows_trace
      dsimp only
      rw [List.filter_cons]
      by_cases hx : x.side = side ∧ toString x.channel = text
      · rw [if_pos (decide_eq_true (hshown.2 hx)), if_pos (decide_eq_true hx), List.map_cons,
          List.map_cons, ih, ← hx.1, hcount]
      · rw [if_neg fun h => hx (hshown.1 (of_decide_eq_true h)),
          if_neg fun h => hx (of_decide_eq_true h), ih]

/-! ## Operations -/

namespace Network

/-- The entries of the log, oldest first. -/
def entries (n : Network τ ε) : List Entry := n.log.filterMap Event.entry?

theorem entries_emit (n : Network τ ε) (e : Event) :
    (n.emit e).entries = n.entries ++ e.entry?.toList := by
  rw [entries, emit, List.filterMap_append, entries]
  cases h : e.entry? <;> simp [h]

/-- No entry was made, no place was counted, and the channels have kept their names. -/
structure Unrecorded (n m : Network τ ε) : Prop where
  entries : m.entries = n.entries
  count : ∀ x side, (m.channel x).count side = (n.channel x).count side
  name : ∀ x, n.Exists x → (m.channel x).name = (n.channel x).name
  size : n.channels.size ≤ m.channels.size

/-- One side of a channel has counted one more place, and an entry was made of it. -/
structure Records (n : Network τ ε) (side : Side) (c : Channel.Ref) (m : Network τ ε) : Prop where
  entries : m.entries = n.entries ++ [⟨side, n.channelTag c, (n.channel c).count side + 1⟩]
  count : ∀ x t, (m.channel x).count t =
    if x = c ∧ t = side then (n.channel c).count side + 1 else (n.channel x).count t
  name : ∀ x, n.Exists x → (m.channel x).name = (n.channel x).name
  size : n.channels.size ≤ m.channels.size

variable {n m l : Network τ ε} {c : Channel.Ref} {side : Side}

/-- Whether a step makes no entry, and keeps the name and the counts of its channel. -/
def Uncounted (n : Network τ ε) : Step τ ε → Prop
  | .emit e => e.entry? = none
  | .update c f => (f (n.channel c)).name = (n.channel c).name ∧
      ∀ side, (f (n.channel c)).count side = (n.channel c).count side
  | _ => True

theorem Steps.unrecorded (h : Steps Uncounted n m) : n.Unrecorded m where
  entries := by
    obtain ⟨l, hl, hnone⟩ := h.log (p := fun e => e.entry? = none) (fun he => he)
      fun e he => by cases e <;> first | rfl | cases he
    rw [Network.entries, hl, List.filterMap_append, List.filterMap_eq_nil_iff.2 hnone,
      List.append_nil, Network.entries]
  count x side := h.channel_eq (g := (·.count side)) (fun hx => hx.2 side) x
  name x _ := h.channel_eq (g := (·.name)) And.left x
  size := h.size_channels

theorem uncounted_follows {S : Strand.Ref → Prop} {D : Slot.Ref → Prop} {K : Coordinator.Ref → Prop}
    {f : Channel τ ε → Channel τ ε} (h : (n.channel c).Follows S D K (f (n.channel c))) :
    Uncounted n (.update c f) := by
  refine ⟨congrArg ChannelOptions.name h.options, fun side => ?_⟩
  cases side with
  | sending => exact h.sendCount
  | receiving => exact h.recvCount

/-- What an operation reports by itself makes no entry. -/
theorem Reports.entry? {op : Operation τ ε} {e : Event} (h : n.Reports c op e) :
    e.entry? = none := by
  cases h with
  | plain he | lost _ he => cases e <;> first | rfl | cases he
  | _ => rfl

theorem tolerant_uncounted : Tolerant (Uncounted (τ := τ) (ε := ε)) where
  emit {_ e} he := by cases e <;> first | rfl | cases he
  update _ hf := uncounted_follows hf
  free {_ x} hx := by cases x <;> trivial
  again := rfl

/-- Once an operation has counted its place, it counts no other. -/
theorem steps_uncounted (n : Network τ ε) (c : Channel.Ref) (op : Operation τ ε) :
    Steps Uncounted (n.counted c op) (n.operate c op).1 := by
  refine (steps_of_counted op).mono fun m x hx => ?_
  cases hx with
  | emit he => exact he.entry?
  | update hf => exact uncounted_follows hf
  | _ => trivial

namespace Unrecorded

theorem refl (n : Network τ ε) : n.Unrecorded n :=
  ⟨rfl, fun _ _ => rfl, fun _ _ => rfl, Nat.le_refl _⟩

theorem trans (h : n.Unrecorded m) (h' : m.Unrecorded l) : n.Unrecorded l where
  entries := h'.entries.trans h.entries
  count x t := (h'.count x t).trans (h.count x t)
  name x hx := (h'.name x (Nat.lt_of_lt_of_le hx h.size)).trans (h.name x hx)
  size := Nat.le_trans h.size h'.size

/-- A channel is created with both counters at zero. -/
theorem createChannel (n : Network τ ε) (options : ChannelOptions) :
    n.Unrecorded (n.createChannel options).1 := by
  refine ⟨?_, fun x t => ?_, fun x hx => ?_, ?_⟩
  · exact (entries_emit (n.setChannel _ _) _).trans (List.append_nil _)
  · rw [channel_createChannel]
    split
    · rename_i hx
      rw [hx, channel, Store.get_fresh]
      cases t <;> rfl
    · rfl
  · rw [channel_createChannel, if_neg]
    rintro rfl
    exact Nat.lt_irrefl _ hx
  · exact Nat.le_of_lt (Nat.lt_of_lt_of_eq (Nat.lt_succ_self _) (Store.size_set_fresh ..).symm)

/-- Anything that changes neither a channel nor the log. -/
theorem still (hc : m.channels = n.channels) (hl : m.log = n.log) : n.Unrecorded m := by
  refine ⟨?_, fun x t => ?_, fun x _ => ?_, ?_⟩
  · rw [Network.entries, Network.entries, hl]
  · rw [channel, hc, ← channel]
  · rw [channel, hc, ← channel]
  · exact Nat.le_of_eq (congrArg Store.size hc.symm)

theorem dispatch (n : Network τ ε) (q : ReadySet.Ref) : n.Unrecorded (n.dispatch q).1 := by
  unfold Network.dispatch
  split
  · exact .refl n
  · exact .still rfl rfl

end Unrecorded

namespace Records

/-- What makes the entry. -/
theorem first {f : Channel τ ε → Channel τ ε} {e : Event}
    (hname : (f (n.channel c)).name = (n.channel c).name)
    (hcount : ∀ t, (f (n.channel c)).count t =
      if t = side then (n.channel c).count side + 1 else (n.channel c).count t)
    (he : e.entry? = some ⟨side, (n.updateChannel c f).channelTag c,
      ((n.updateChannel c f).channel c).count side⟩) :
    n.Records side c ((n.updateChannel c f).emit e) := by
  refine ⟨?_, fun x t => ?_, fun x _ => ?_, ?_⟩
  · rw [entries_emit, he, channelTag, channel_updateChannel_self, hcount, if_pos rfl, Channel.tag,
      hname]
    rfl
  · rw [channel_emit, channel_updateChannel]
    by_cases hx : x = c
    · subst hx
      rw [if_pos rfl, hcount]
      simp only [true_and]
    · rw [if_neg hx, if_neg fun hand => hx hand.1]
  · rw [channel_emit, channel_updateChannel]
    exact n.channel_ite c (·.name) hname x
  · exact Nat.le_trans (Nat.le_max_left ..) (Nat.le_of_eq (Store.size_set ..).symm)

/-- What comes afterwards makes no other. -/
theorem followed (h : n.Records side c m) (h' : m.Unrecorded l) : n.Records side c l where
  entries := h'.entries.trans h.entries
  count x t := (h'.count x t).trans (h.count x t)
  name x hx := (h'.name x (Nat.lt_of_lt_of_le hx h.size)).trans (h.name x hx)
  size := Nat.le_trans h.size h'.size

end Records

/-- An operation makes no entry, or one entry for one side of its channel, where it counts. -/
theorem counted_records (n : Network τ ε) (c : Channel.Ref) (op : Operation τ ε) :
    n.counted c op = n ∨ ∃ side, n.Records side c (n.counted c op) := by
  cases op with
  | send | syncSend | failSend =>
    exact .inr ⟨.sending, .first rfl (fun t => by cases t <;> rfl) rfl⟩
  | failReceive => exact .inr ⟨.receiving, .first rfl (fun t => by cases t <;> rfl) rfl⟩
  | flush => exact .inl rfl
  | receive s =>
    show n.countReceive c s = n ∨ ∃ side, n.Records side c (n.countReceive c s)
    unfold countReceive
    split
    · exact .inr ⟨.receiving, .first rfl (fun t => by cases t <;> rfl) rfl⟩
    · split
      · exact .inr ⟨.receiving, .first rfl (fun t => by cases t <;> rfl) rfl⟩
      · exact .inl rfl

theorem operate_records (n : Network τ ε) (c : Channel.Ref) (op : Operation τ ε) :
    n.Unrecorded (n.operate c op).1 ∨ ∃ side, n.Records side c (n.operate c op).1 := by
  have after := (n.steps_uncounted c op).unrecorded
  obtain hsame | ⟨side, hrecords⟩ := n.counted_records c op
  · rw [hsame] at after
    exact .inl after
  · exact .inr ⟨side, hrecords.followed after⟩

/-- A call makes no entry, or one entry for one side of a channel that it is passed. -/
theorem perform_records (n : Network τ ε) (call : Call τ ε) :
    n.Unrecorded (n.perform call).1 ∨
      ∃ c ∈ call.channels, ∃ side, n.Records side c (n.perform call).1 := by
  have moved : call.isMove = true → (∀ c op, call ≠ .operate c op) →
      n.Unrecorded (n.perform call).1 := fun h hop =>
    (Steps.perform h tolerant_uncounted (fun _ => trivial)
      (fun m c s d k => m.steps_uncounted c (.flush s d k))
      fun c op heq => absurd heq (hop c op)).unrecorded
  cases call with
  | operate c op =>
    obtain hnone | hone := n.operate_records c op
    · exact .inl hnone
    · exact .inr ⟨c, List.mem_singleton.2 rfl, hone⟩
  | createChannel options => exact .inl (.createChannel n options)
  | dispatch q => exact .inl (.dispatch n q)
  | poll q held =>
    refine .inl ?_
    change n.Unrecorded (n.poll q held).1
    rw [fst_poll]
    exact .dispatch n q
  | lookupOrCreate t name =>
    refine .inl ?_
    change n.Unrecorded (n.lookupOrCreate t name).1
    unfold lookupOrCreate
    split
    · exact .refl n
    · exact (Unrecorded.createChannel n _).trans (.still rfl rfl)
  | createReadySet | createStrand | createSlot | dropScheduler | dropConsumer | resume | take =>
    exact .inl (.still rfl rfl)
  | _ => exact .inl (moved rfl nofun)

/-! ## Runs -/

end Network

/-- Counts that go up one by one, from one to the last. -/
inductive Trail : List UInt64 → UInt64 → Prop where
  | start : Trail [] 0
  | next {l : List UInt64} {k : UInt64} (h : Trail l k) : Trail (l ++ [k + 1]) (k + 1)

/-- As long as there are not too many, these are the numbers from one to the last. -/
theorem Trail.map_toNat {l : List UInt64} {k : UInt64} (h : Trail l k)
    (hlen : l.length < UInt64.size) :
    k.toNat = l.length ∧ l.map UInt64.toNat = List.range' 1 l.length := by
  induction h with
  | start => exact ⟨rfl, rfl⟩
  | @next l k h ih =>
    rw [List.length_append, List.length_singleton] at hlen ⊢
    obtain ⟨hk, hl⟩ := ih (Nat.lt_of_succ_lt hlen)
    have hnext : (k + 1).toNat = l.length + 1 := by
      rw [UInt64.toNat_add, hk]
      exact Nat.mod_eq_of_lt hlen
    refine ⟨hnext, ?_⟩
    rw [List.map_append, hl, List.map_singleton, hnext, List.range'_1_concat, Nat.add_comm 1]

namespace Network

/-- The state of the audit after at most `k` calls: every entry is about a channel that exists and
goes by the name it has, and the entries of each side of a channel are a trail. -/
structure Audited (k : Nat) (n : Network τ ε) : Prop where
  known : ∀ x ∈ n.entries, ∃ c, n.Exists c ∧ x.channel = n.channelTag c
  trail : ∀ c side, n.Exists c →
    Trail (countsOf side (n.channelTag c) n.entries) ((n.channel c).count side)
  entries : n.entries.length ≤ k
  channels : n.channels.size ≤ k

variable {n m : Network τ ε} {c : Channel.Ref} {side : Side} {k : Nat}

/-- As long as the channels fit a word, different ones have different tags, in whatever network they
are named. -/
theorem eq_of_channelTag (hsize : m.channels.size < UInt64.size) {a b : Channel.Ref}
    (ha : m.Exists a) (hb : m.Exists b) (h : n.channelTag a = m.channelTag b) : a = b :=
  id_inj_of_exists hsize ha hb (congrArg ChannelTag.id h)

theorem channelTag_eq (h : (m.channel c).name = (n.channel c).name) :
    m.channelTag c = n.channelTag c := by
  rw [channelTag, channelTag, Channel.tag, Channel.tag, h]

/-- A channel that does not exist has the initial value. -/
theorem channel_eq_default (h : ¬ n.Exists c) : n.channel c = default := by
  by_contra hne
  exact h (Store.index_lt_size hne)

namespace Audited

/-- Channels keep their names, and there is no entry about a channel that has just been created. -/
theorem trail_later (h : n.Audited k) (hsize : m.channels.size < UInt64.size)
    (hle : n.channels.size ≤ m.channels.size)
    (hname : ∀ x, n.Exists x → (m.channel x).name = (n.channel x).name) (hc : m.Exists c)
    (side : Side) :
    Trail (countsOf side (m.channelTag c) n.entries) ((n.channel c).count side) := by
  by_cases hold : n.Exists c
  · rw [channelTag_eq (hname c hold)]
    exact h.trail c side hold
  · have hnone : countsOf side (m.channelTag c) n.entries = [] := by
      refine List.map_eq_nil_iff.2 (List.filter_eq_nil_iff.2 fun x hx htag => hold ?_)
      obtain ⟨y, hy, hxy⟩ := h.known x hx
      have hcy := (of_decide_eq_true htag).2
      rw [hxy] at hcy
      exact eq_of_channelTag hsize (Nat.lt_of_lt_of_le hy hle) hc hcy ▸ hy
    rw [hnone, channel_eq_default hold]
    cases side <;> exact .start

theorem known_later (h : n.Audited k) (hle : n.channels.size ≤ m.channels.size)
    (hname : ∀ x, n.Exists x → (m.channel x).name = (n.channel x).name) {x : Entry}
    (hx : x ∈ n.entries) : ∃ c, m.Exists c ∧ x.channel = m.channelTag c := by
  obtain ⟨c, hc, htag⟩ := h.known x hx
  exact ⟨c, Nat.lt_of_lt_of_le hc hle, htag.trans (channelTag_eq (hname c hc)).symm⟩

/-- A call without an entry. -/
theorem unrecorded (h : n.Audited k) (hm : n.Unrecorded m) (hsize : m.channels.size ≤ k + 1)
    (hk : k + 1 < UInt64.size) : m.Audited (k + 1) := by
  refine ⟨fun x hx => ?_, fun c side hc => ?_, ?_, hsize⟩
  · rw [hm.entries] at hx
    exact h.known_later hm.size hm.name hx
  · rw [hm.entries, hm.count]
    exact h.trail_later (Nat.lt_of_le_of_lt hsize hk) hm.size hm.name hc side
  · rw [hm.entries]
    exact Nat.le_succ_of_le h.entries

/-- A call with an entry. -/
theorem records (h : n.Audited k) (hc : n.Exists c) (hm : n.Records side c m)
    (hsize : m.channels.size ≤ k + 1) (hk : k + 1 < UInt64.size) : m.Audited (k + 1) := by
  have hword := Nat.lt_of_le_of_lt hsize hk
  have hc' : m.Exists c := Nat.lt_of_lt_of_le hc hm.size
  refine ⟨fun x hx => ?_, fun y t hy => ?_, ?_, hsize⟩
  · rw [hm.entries] at hx
    obtain hx | hx := List.mem_append.1 hx
    · exact h.known_later hm.size hm.name hx
    · obtain rfl := List.mem_singleton.1 hx
      exact ⟨c, hc', (channelTag_eq (hm.name c hc)).symm⟩
  · have htrail := h.trail_later hword hm.size hm.name hy t
    rw [hm.entries, hm.count, countsOf, List.filter_append, List.map_append, List.filter_cons,
      List.filter_nil]
    by_cases hand : y = c ∧ t = side
    · obtain ⟨rfl, rfl⟩ := hand
      have hsame : t = t ∧ n.channelTag y = m.channelTag y :=
        ⟨rfl, (channelTag_eq (hm.name y hc)).symm⟩
      rw [if_pos (decide_eq_true hsame), if_pos (c := y = y ∧ t = t) ⟨rfl, rfl⟩]
      exact htrail.next
    · have hother : ¬ (side = t ∧ n.channelTag c = m.channelTag y) := fun h =>
        hand ⟨(eq_of_channelTag hword hc' hy h.2).symm, h.1.symm⟩
      rw [if_neg hand, if_neg fun h => hother (of_decide_eq_true h), List.map_nil, List.append_nil]
      exact htrail
  · rw [hm.entries, List.length_append, List.length_singleton]
    exact Nat.succ_le_succ h.entries

end Audited

/-- In every run on channels that exist. -/
theorem audited_run {calls : List (Call τ ε)}
    (h : ({} : Network τ ε).Keeps (fun n call => ∀ c ∈ call.channels, n.Exists c) calls)
    (hlen : calls.length < UInt64.size) :
    (({} : Network τ ε).run calls).Audited calls.length := by
  induction calls using List.reverseRecOn with
  | nil => exact ⟨nofun, fun c _ hc => absurd hc (Nat.not_lt_zero _), Nat.le_refl 0, Nat.le_refl 0⟩
  | append_singleton calls call ih =>
    obtain ⟨hcalls, hcall, -⟩ := keeps_append.1 h
    rw [List.length_append, List.length_singleton] at hlen ⊢
    have haudited := ih hcalls (Nat.lt_of_succ_lt hlen)
    have hsize : ((({} : Network τ ε).run calls).perform call).1.channels.size ≤
        calls.length + 1 := by
      have hchannels := haudited.channels
      rcases size_perform hcall with hsame | hone <;> omega
    rw [run_append]
    rcases perform_records (({} : Network τ ε).run calls) call with hm | ⟨c, hc, side, hm⟩
    · exact haudited.unrecorded hm hsize hlen
    · exact haudited.records (hcall c hc) hm hsize hlen

/-- In every run of fewer calls than a word can count, on any channels that exist and whatever their
names are: the events about the sending side of a channel, as far as they can be told by their
message and by the text of their channel, show the numbers from one to the number of places that
are taken, each once and in order; and those about the receiving side show the numbers from one to
the number of places consumed. -/
theorem log_audits_counters {calls : List (Call τ ε)} {c : Channel.Ref}
    (hexist : ({} : Network τ ε).Keeps (fun n call => ∀ c ∈ call.channels, n.Exists c) calls)
    (hlen : calls.length < UInt64.size) (hc : (({} : Network τ ε).run calls).Exists c) :
    let n := ({} : Network τ ε).run calls
    let text := toString (n.channelTag c)
    audit .sending text n.log =
        (List.range' 1 (n.channel c).sendCount.toNat).map (fun i => some (.count i)) ∧
      audit .receiving text n.log =
        (List.range' 1 (n.channel c).recvCount.toNat).map (fun i => some (.count i)) := by
  intro n text
  have haudited : n.Audited calls.length := audited_run hexist hlen
  have hword : n.channels.size < UInt64.size := Nat.lt_of_le_of_lt haudited.channels hlen
  have both : ∀ side : Side, audit side text n.log =
      (List.range' 1 ((n.channel c).count side).toNat).map fun i => some (.count i) := by
    intro side
    have htags : (n.entries.filter fun x => x.side = side ∧ toString x.channel = text) =
        n.entries.filter fun x => x.side = side ∧ x.channel = n.channelTag c := by
      refine List.filter_congr fun x hx => decide_eq_decide.2 (and_congr_right fun _ => ?_)
      refine ⟨fun htext => ?_, fun htag => congrArg toString htag⟩
      obtain ⟨y, hy, hxy⟩ := haudited.known x hx
      have hid : x.channel.id = c.id := ChannelTag.id_of_text htext
      rw [hxy] at hid ⊢
      rw [id_inj_of_exists hword hy hc hid]
    have hlength : (countsOf side (n.channelTag c) n.entries).length < UInt64.size := by
      refine Nat.lt_of_le_of_lt ?_ hlen
      rw [countsOf, List.length_map]
      exact Nat.le_trans (List.length_filter_le ..) haudited.entries
    obtain ⟨hcount, hnumbers⟩ := (haudited.trail c side hc).map_toNat hlength
    rw [audit_eq, show n.log.filterMap Event.entry? = n.entries from rfl, htags, hcount, ← hnumbers,
      countsOf, List.map_map, List.map_map]
    rfl
  exact ⟨both .sending, both .receiving⟩

/-- Two channels go by the same name, and both are used. -/
theorem log_audits_counters_same_name :
    let calls : List (Call Nat String) := [
      .createReadySet,
      .createStrand (some "tx") ⟨0⟩,
      .createStrand (some "rx") ⟨0⟩,
      .createSlot,
      .createChannel { name := some "jobs" },
      .createChannel { name := some "jobs" },
      .operate ⟨0⟩ (.send 1 ⟨0⟩),
      .operate ⟨1⟩ (.failSend (.panic "gone")),
      .operate ⟨0⟩ (.syncSend 2 ⟨0⟩ ⟨0⟩),
      .operate ⟨1⟩ (.receive ⟨1⟩),
      .operate ⟨0⟩ (.receive ⟨1⟩),
      .operate ⟨0⟩ (.failReceive (.error "lost"))]
    let n := ({} : Network Nat String).run calls
    ({} : Network Nat String).Keeps (fun n call => ∀ c ∈ call.channels, n.Exists c) calls ∧
      calls.length < UInt64.size ∧ n.Exists ⟨0⟩ ∧
      (n.channelTag ⟨0⟩).name = (n.channelTag ⟨1⟩).name ∧
      audit .sending (toString (n.channelTag ⟨0⟩)) n.log = [some (.count 1), some (.count 2)] ∧
      audit .receiving (toString (n.channelTag ⟨0⟩)) n.log = [some (.count 1), some (.count 2)] ∧
      audit .receiving (toString (n.channelTag ⟨1⟩)) n.log = [some (.count 1)] := by
  intro calls n
  have hexist : ({} : Network Nat String).Keeps (fun n call => ∀ c ∈ call.channels, n.Exists c)
      calls := by decide
  have hlen : calls.length < UInt64.size := by decide
  have hfirst := log_audits_counters hexist hlen (c := ⟨0⟩) (by decide)
  have hsecond := log_audits_counters hexist hlen (c := ⟨1⟩) (by decide)
  exact ⟨hexist, hlen, by decide, rfl, hfirst.1, hfirst.2, hsecond.2⟩

end Network

end Rendezvous
