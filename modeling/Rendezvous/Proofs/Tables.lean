import Rendezvous.Proofs.AuditTrail
import Rendezvous.Proofs.Directory

/-!
# Tables as maps

A table is a finite map from names to channels, whatever else happens in its network.

* **What callers see** (`Exchange.found?`, `Exchange.removed?`): the channel that a table gives out
  under a name, and the channel that is taken out of it. From these alone follows what a map holds
  under each name (`held`).
* **One call** (`table_perform`): it inserts a new channel, erases a name, or leaves the table as it
  is. So the table changes as the map does (`lookup_perform`).
* **What was given out** (`lookup_run_of_kept`, `lookup_run_or_new`): as long as nothing is removed
  the same channel is given out, and after that none that existed before.
* **Runs** (`Network.Listed`): the table holds what a map holds, and what it gave out exists under
  the name asked for. From this follow the laws of a map (`table_maps_names`).
-/

namespace Rendezvous

variable {τ ε : Type}

/-! ## What callers see -/

namespace Exchange

/-- The channel that a table gives out under a name: it is found, or created. -/
def found? (t : Table.Ref) (name : String) : Exchange τ ε → Option Channel.Ref
  | ⟨.lookup u key, answer⟩ => if u = t ∧ key = name then answer else none
  | ⟨.lookupOrCreate u key, c⟩ => if u = t ∧ key = name then some c else none
  | _ => none

/-- The channel that is taken out of a table under a name. -/
def removed? (t : Table.Ref) (name : String) : Exchange τ ε → Option Channel.Ref
  | ⟨.unlink u key, answer⟩ => if u = t ∧ key = name then answer else none
  | _ => none

/-- What a map holds under a name after an exchange, where `old` is what it held before. -/
def leaves (t : Table.Ref) (name : String) (old : Option Channel.Ref) (x : Exchange τ ε) :
    Option Channel.Ref :=
  if (x.removed? t name).isSome then none else (x.found? t name).or old

/-- A call does not give out a channel and take it out of the table. -/
theorem removed?_of_found? {t : Table.Ref} {name : String} {x : Exchange τ ε} {c : Channel.Ref}
    (h : x.found? t name = some c) : x.removed? t name = none := by
  obtain ⟨call, answer⟩ := x
  cases call <;> first | rfl | cases h

end Exchange

/-- What a map from names to channels holds under a name after some exchanges with it: the channel
that was given out last, unless it was removed since. -/
def held (t : Table.Ref) (name : String) (h : List (Exchange τ ε)) : Option Channel.Ref :=
  h.foldl (Exchange.leaves t name) none

theorem held_snoc (t : Table.Ref) (name : String) (h : List (Exchange τ ε)) (x : Exchange τ ε) :
    held t name (h ++ [x]) = x.leaves t name (held t name h) := by
  rw [held, List.foldl_append]
  rfl

/-- What is held was given out. -/
theorem found?_of_held {t : Table.Ref} {name : String} {h : List (Exchange τ ε)} {c : Channel.Ref}
    (hc : held t name h = some c) : ∃ x ∈ h, x.found? t name = some c := by
  induction h using List.reverseRecOn with
  | nil => cases hc
  | append_singleton h x ih =>
    rw [held_snoc, Exchange.leaves] at hc
    split at hc
    · cases hc
    · rcases Option.or_eq_some_iff.1 hc with hx | ⟨-, hold⟩
      · exact ⟨x, List.mem_append_right h (List.mem_singleton.2 rfl), hx⟩
      · obtain ⟨y, hy, hfound⟩ := ih hold
        exact ⟨y, List.mem_append_left [x] hy, hfound⟩

namespace Network

variable {n : Network τ ε} {t : Table.Ref}

/-! ## One call -/

/-- The table was created. -/
def HasTable (n : Network τ ε) (t : Table.Ref) : Prop := t.index < n.tables.size

theorem table_setTable (n : Network τ ε) (t u : Table.Ref) (x : Table) :
    (n.setTable u x).table t = if t = u then x else n.table t := Store.get_set ..

theorem size_tables_setTable (n : Network τ ε) (t : Table.Ref) (x : Table) :
    n.tables.size ≤ (n.setTable t x).tables.size :=
  Nat.le_trans (Nat.le_max_left ..) (Nat.le_of_eq (Store.size_set ..).symm)

theorem lookupOrCreate_of_some {name : String} {c : Channel.Ref} (h : n.lookup t name = some c) :
    n.lookupOrCreate t name = (n, c) := by
  simp only [lookupOrCreate, h]

theorem lookupOrCreate_of_none {name : String} (h : n.lookup t name = none) :
    n.lookupOrCreate t name =
      ((n.createChannel ((n.table t).options.withName name)).1.setTable t
        ((n.table t).insert name n.channels.fresh), n.channels.fresh) := by
  simp only [lookupOrCreate, h]
  rfl

section
variable (n t) (u : Table.Ref) (key name : String) (old : Option Channel.Ref)

theorem leaves_lookup : (n.exchange (.lookup u key)).leaves t name old =
    (if u = t ∧ key = name then n.lookup u key else none).or old := rfl

theorem leaves_lookupOrCreate : (n.exchange (.lookupOrCreate u key)).leaves t name old =
    (if u = t ∧ key = name then some (n.lookupOrCreate u key).2 else none).or old := rfl

theorem leaves_unlink : (n.exchange (.unlink u key)).leaves t name old =
    if (if u = t ∧ key = name then n.lookup u key else none).isSome then none else old := rfl

end

/-- A call inserts a channel that it creates because a name is absent, or it erases a name, or the
table stays as it is, and so does a map. -/
theorem table_perform (ht : n.HasTable t) (call : Call τ ε) :
    ((n.perform call).1.table t = n.table t ∧
      ∀ name, (n.exchange call).leaves t name (n.lookup t name) = n.lookup t name) ∨
    (∃ key, call = .lookupOrCreate t key ∧ n.lookup t key = none ∧
      (n.perform call).1.table t = (n.table t).insert key n.channels.fresh) ∨
    ∃ key, call = .unlink t key ∧ (n.perform call).1.table t = (n.table t).erase key := by
  cases call with
  | createTable options =>
    have hne : t ≠ n.tables.fresh := by
      rintro rfl
      exact Nat.lt_irrefl _ ht
    exact .inl ⟨(table_setTable n t _ _).trans (if_neg hne), fun _ => rfl⟩
  | lookup u key =>
    refine .inl ⟨rfl, fun name => ?_⟩
    rw [leaves_lookup]
    split
    · rename_i h
      rw [h.1, h.2, Option.or_self]
    · rfl
  | lookupOrCreate u key =>
    cases hl : n.lookup u key with
    | some c =>
      have hc := lookupOrCreate_of_some hl
      refine .inl ⟨congrArg (·.1.table t) hc, fun name => ?_⟩
      rw [leaves_lookupOrCreate]
      split
      · rename_i h
        rw [hc, ← h.1, ← h.2, hl]
        rfl
      · rfl
    | none =>
      -- Another table inserts its channel without a say in this one.
      have hc := lookupOrCreate_of_none hl
      by_cases hu : u = t
      · subst hu
        refine .inr (.inl ⟨key, rfl, hl, (congrArg (·.1.table u) hc).trans ?_⟩)
        exact (table_setTable _ u u _).trans (if_pos rfl)
      · refine .inl ⟨(congrArg (·.1.table t) hc).trans ?_, fun name => ?_⟩
        · exact (table_setTable _ t u _).trans (if_neg (Ne.symm hu))
        · rw [leaves_lookupOrCreate, if_neg fun h => hu h.1]
          rfl
  | unlink u key =>
    by_cases hu : u = t
    · subst hu
      exact .inr (.inr ⟨key, rfl, (table_setTable n u u _).trans (if_pos rfl)⟩)
    · refine .inl ⟨(table_setTable n t u _).trans (if_neg (Ne.symm hu)), fun name => ?_⟩
      rw [leaves_unlink, if_neg (c := u = t ∧ key = name) fun h => hu h.1]
      rfl
  | createChannel options => exact .inl ⟨rfl, fun _ => rfl⟩
  | _ => exact .inl ⟨congrArg (·.get t) (tables_of_directory (directory_perform n rfl rfl)),
      fun _ => rfl⟩

/-- What the table holds under a name changes as what a map holds. -/
theorem lookup_perform (ht : n.HasTable t) (call : Call τ ε) (name : String) :
    (n.perform call).1.lookup t name = (n.exchange call).leaves t name (n.lookup t name) := by
  change ((n.perform call).1.table t).get? name = _
  obtain ⟨htable, hleaves⟩ | ⟨key, rfl, hl, htable⟩ | ⟨key, rfl, htable⟩ := table_perform ht call
  · rw [htable]
    exact (hleaves name).symm
  · rw [htable, Table.get?_insert, leaves_lookupOrCreate, lookupOrCreate_of_none hl]
    by_cases hname : name = key
    · rw [if_pos hname, if_pos ⟨rfl, hname.symm⟩]
      rfl
    · rw [if_neg hname, if_neg fun h => hname h.2.symm]
      rfl
  · rw [htable, Table.get?_erase, leaves_unlink]
    by_cases hname : name = key
    · subst hname
      rw [if_pos rfl, if_pos (c := t = t ∧ name = name) ⟨rfl, rfl⟩]
      cases n.lookup t name <;> rfl
    · rw [if_neg hname, if_neg (c := t = t ∧ key = name) fun h => hname h.2.symm]
      rfl

/-- A channel that a table gives out is the one that it holds, or a new one since it holds none. -/
theorem lookup_of_found? {call : Call τ ε} {name : String} {c : Channel.Ref}
    (h : (n.exchange call).found? t name = some c) :
    n.lookup t name = some c ∨
      call = .lookupOrCreate t name ∧ n.lookup t name = none ∧ c = n.channels.fresh := by
  cases call with
  | lookup u key =>
    obtain ⟨⟨rfl, rfl⟩, hc⟩ := Option.ite_none_right_eq_some.1 h
    exact .inl hc
  | lookupOrCreate u key =>
    obtain ⟨⟨rfl, rfl⟩, hc⟩ := Option.ite_none_right_eq_some.1 h
    cases hl : n.lookup u key with
    | some old =>
      rw [perform, lookupOrCreate_of_some hl] at hc
      exact .inl hc
    | none =>
      rw [perform, lookupOrCreate_of_none hl] at hc
      exact .inr ⟨rfl, rfl, (Option.some.inj hc).symm⟩
  | _ => cases h

/-- Channels are never lost. -/
theorem size_le_perform (n : Network τ ε) (call : Call τ ε) :
    n.channels.size ≤ (n.perform call).1.channels.size := by
  rcases perform_records n call with h | ⟨c, -, side, h⟩
  · exact h.size
  · exact h.size

theorem exists_perform {c : Channel.Ref} (hc : n.Exists c) (call : Call τ ε) :
    (n.perform call).1.Exists c := Nat.lt_of_lt_of_le hc (n.size_le_perform call)

theorem exists_run {c : Channel.Ref} (hc : n.Exists c) (calls : List (Call τ ε)) :
    (n.run calls).Exists c := by
  induction calls generalizing n with
  | nil => exact hc
  | cons call calls ih => exact ih (exists_perform hc call)

theorem not_exists_fresh (n : Network τ ε) : ¬ n.Exists n.channels.fresh := Nat.lt_irrefl _

theorem hasTable_perform (ht : n.HasTable t) (call : Call τ ε) :
    (n.perform call).1.HasTable t := by
  refine Nat.lt_of_lt_of_le ht ?_
  cases call with
  | createTable | unlink => exact size_tables_setTable ..
  | lookup | createChannel => exact Nat.le_refl _
  | lookupOrCreate u key =>
    change n.tables.size ≤ (n.lookupOrCreate u key).1.tables.size
    unfold lookupOrCreate
    split
    · exact Nat.le_refl _
    · exact size_tables_setTable (n.createChannel _).1 u _
  | _ =>
    refine Nat.le_of_eq (congrArg Store.size (Eq.symm ?_))
    exact tables_of_directory (directory_perform n rfl rfl)

theorem hasTable_run (ht : n.HasTable t) (calls : List (Call τ ε)) : (n.run calls).HasTable t := by
  induction calls generalizing n with
  | nil => exact ht
  | cons call calls ih => exact ih (hasTable_perform ht call)

section
variable {c : Channel.Ref}

/-- Creating a channel touches no other. -/
theorem channel_createChannel_of_exists (hc : n.Exists c) (options : ChannelOptions) :
    (n.createChannel options).1.channel c = n.channel c := by
  rw [channel_createChannel, if_neg]
  rintro rfl
  exact n.not_exists_fresh hc

/-- A call about a table touches no channel that exists. -/
theorem channel_perform_of_isOnTable {call : Call τ ε} (h : call.isOnTable = true)
    (hc : n.Exists c) : (n.perform call).1.channel c = n.channel c := by
  cases call with
  | createTable | lookup | unlink => rfl
  | lookupOrCreate u key =>
    change (n.lookupOrCreate u key).1.channel c = _
    unfold lookupOrCreate
    split
    · rfl
    · exact channel_createChannel_of_exists hc _
  | _ => cases h

/-- Channels stay what they were created as. -/
theorem options_perform (hc : n.Exists c) (call : Call τ ε) :
    ((n.perform call).1.channel c).options = (n.channel c).options := by
  cases htable : call.isOnTable with
  | true => rw [channel_perform_of_isOnTable htable hc]
  | false =>
    cases hcreates : call.createsChannel with
    | true =>
      cases call with
      | createChannel options => exact congrArg _ (channel_createChannel_of_exists hc options)
      | _ => cases hcreates
    | false => exact options_of_directory (directory_perform n htable hcreates) c

/-- A channel is created under its name, with the options of the table. -/
theorem channel_lookupOrCreate {name : String} (h : n.lookup t name = none) :
    (n.lookupOrCreate t name).1.channel n.channels.fresh =
      .create ((n.table t).options.withName name) := by
  rw [lookupOrCreate_of_none h]
  exact (channel_createChannel n _ _).trans (if_pos rfl)

theorem size_lookupOrCreate {name : String} (h : n.lookup t name = none) :
    (n.lookupOrCreate t name).1.channels.size = n.channels.size + 1 := by
  rw [lookupOrCreate_of_none h]
  exact Store.size_set_fresh ..

end

/-! ## What was given out -/

section
variable {name : String} {c : Channel.Ref}

/-- What a table gives out it holds. -/
theorem lookup_perform_of_found? (ht : n.HasTable t) {call : Call τ ε}
    (h : (n.exchange call).found? t name = some c) :
    (n.perform call).1.lookup t name = some c := by
  rw [lookup_perform ht, Exchange.leaves, Exchange.removed?_of_found? h, h]
  rfl

/-- As long as nothing is removed, the table holds the same channel. -/
theorem lookup_run_of_kept (ht : n.HasTable t) (hc : n.lookup t name = some c)
    {calls : List (Call τ ε)} (hkept : ∀ x ∈ n.history calls, x.removed? t name = none) :
    (n.run calls).lookup t name = some c := by
  induction calls generalizing n with
  | nil => exact hc
  | cons call calls ih =>
    refine ih (hasTable_perform ht call) ?_ fun x hx => hkept x (List.mem_cons_of_mem _ hx)
    rw [lookup_perform ht, Exchange.leaves, hkept _ List.mem_cons_self]
    cases hfound : (n.exchange call).found? t name with
    | none => exact hc
    | some d =>
      rcases lookup_of_found? hfound with hd | ⟨-, hnone, -⟩
      · exact hd.symm.trans hc
      · rw [hc] at hnone
        cases hnone

/-- What the table holds later it holds already, or it does not exist yet. -/
theorem lookup_run_or_new (ht : n.HasTable t) {calls : List (Call τ ε)}
    (hc : (n.run calls).lookup t name = some c) : n.lookup t name = some c ∨ ¬ n.Exists c := by
  induction calls generalizing n with
  | nil => exact .inl hc
  | cons call calls ih =>
    rcases ih (hasTable_perform ht call) hc with hheld | hnew
    · rw [lookup_perform ht, Exchange.leaves] at hheld
      split at hheld
      · cases hheld
      · rcases Option.or_eq_some_iff.1 hheld with hfound | ⟨-, hold⟩
        · rcases lookup_of_found? hfound with hold | ⟨-, -, rfl⟩
          · exact .inl hold
          · exact .inr n.not_exists_fresh
        · exact .inl hold
    · exact .inr fun hold => hnew (exists_perform hold call)

/-- Two channels given out under one name are the same exactly if none was removed in between. -/
theorem found?_eq_iff (ht : n.HasTable t) {first second : Call τ ε} {between : List (Call τ ε)}
    {d : Channel.Ref} (hc : (n.exchange first).found? t name = some c)
    (hexists : (n.perform first).1.Exists c)
    (hd : (((n.perform first).1.run between).exchange second).found? t name = some d) :
    c = d ↔ ∀ x ∈ (n.perform first).1.history between, x.removed? t name = none := by
  have ht' := hasTable_perform ht first
  constructor
  · rintro rfl x hx
    obtain ⟨past, rest, hsplit⟩ := List.append_of_mem hx
    obtain ⟨before, call, after, rfl, -, rfl, -⟩ := history_split hsplit
    by_contra hremoved
    -- Nothing is held after the removal, so what is given out then did not exist.
    have ht'' := hasTable_run ht' before
    have hgone : ((((n.perform first).1.run before).perform call).1).lookup t name = none := by
      rw [lookup_perform ht'', Exchange.leaves, if_pos (Option.isSome_iff_ne_none.2 hremoved)]
    have hstill := exists_perform (exists_run hexists before) call
    rw [run_append, run_cons] at hd
    rcases lookup_of_found? hd with hheld | ⟨-, -, rfl⟩
    · rcases lookup_run_or_new (hasTable_perform ht'' call) hheld with hold | hnew
      · rw [hgone] at hold
        cases hold
      · exact hnew hstill
    · exact not_exists_fresh _ (exists_run hstill after)
  · intro hkept
    have hheld := lookup_run_of_kept ht' (lookup_perform_of_found? ht hc) hkept
    rcases lookup_of_found? hd with hsame | ⟨-, hnone, -⟩
    · exact Option.some.inj (hheld.symm.trans hsame)
    · rw [hheld] at hnone
      cases hnone

end

/-! ## Runs -/

/-- A table with template `template`, after the exchanges `h` with it. -/
structure Listed (t : Table.Ref) (template : ChannelOptions) (h : List (Exchange τ ε))
    (n : Network τ ε) : Prop where
  created : n.HasTable t
  options : (n.table t).options = template
  nodup : (n.table t).names.Nodup
  /-- It holds what a map holds. -/
  lookup : ∀ name, n.lookup t name = held t name h
  /-- What it gave out exists, and was created from the template under the name asked for. -/
  given : ∀ x ∈ h, ∀ name c, x.found? t name = some c →
    n.Exists c ∧ (n.channel c).options = template.withName name

/-- A new table is empty. -/
theorem listed_createTable (n : Network τ ε) (template : ChannelOptions) :
    (n.createTable template).1.Listed (n.createTable template).2 template [] := by
  have hempty : (n.createTable template).1.table n.tables.fresh = { options := template } :=
    (table_setTable n _ _ _).trans (if_pos rfl)
  refine ⟨?_, congrArg Table.options hempty, ?_, fun name => ?_, fun x hx => nomatch hx⟩
  · exact Nat.lt_of_lt_of_eq (Nat.lt_succ_self _) (Store.size_set_fresh ..).symm
  · exact (congrArg (·.names.Nodup) hempty).mpr List.nodup_nil
  · exact congrArg (·.get? name) hempty

namespace Listed

variable {template : ChannelOptions} {h : List (Exchange τ ε)}

/-- What is given out later exists, and it has the name asked for. -/
theorem given_perform (hn : n.Listed t template h) {call : Call τ ε} {name : String}
    {c : Channel.Ref} (hc : (n.exchange call).found? t name = some c) :
    (n.perform call).1.Exists c ∧
      ((n.perform call).1.channel c).options = template.withName name := by
  rcases lookup_of_found? hc with hheld | ⟨rfl, hnone, rfl⟩
  · obtain ⟨x, hx, hfound⟩ := found?_of_held ((hn.lookup name).symm.trans hheld)
    obtain ⟨hexists, hoptions⟩ := hn.given x hx name c hfound
    exact ⟨exists_perform hexists call, (options_perform hexists call).trans hoptions⟩
  · refine ⟨Nat.lt_of_lt_of_eq (Nat.lt_succ_self _) (size_lookupOrCreate hnone).symm, ?_⟩
    refine (congrArg Channel.options (channel_lookupOrCreate hnone)).trans ?_
    rw [Channel.options_create, hn.options]

theorem perform (hn : n.Listed t template h) (call : Call τ ε) :
    (n.perform call).1.Listed t template (h ++ [n.exchange call]) where
  created := hasTable_perform hn.created call
  options := by
    rcases table_perform hn.created call with ⟨hsame, -⟩ | ⟨key, -, -, hins⟩ | ⟨key, -, hera⟩
    · exact (congrArg Table.options hsame).trans hn.options
    · exact (congrArg Table.options hins).trans hn.options
    · exact (congrArg Table.options hera).trans hn.options
  nodup := by
    rcases table_perform hn.created call with ⟨hsame, -⟩ | ⟨key, -, -, hins⟩ | ⟨key, -, hera⟩
    · rw [hsame]
      exact hn.nodup
    · rw [hins]
      exact Table.nodup_names_insert hn.nodup key _
    · rw [hera]
      exact Table.nodup_names_erase hn.nodup key
  lookup name := by rw [lookup_perform hn.created, held_snoc, hn.lookup]
  given x hx name c hc := by
    rcases List.mem_append.1 hx with hx | hx
    · obtain ⟨hexists, hoptions⟩ := hn.given x hx name c hc
      exact ⟨exists_perform hexists call, (options_perform hexists call).trans hoptions⟩
    · obtain rfl := List.mem_singleton.1 hx
      exact hn.given_perform hc

theorem run (hn : n.Listed t template h) (calls : List (Call τ ε)) :
    (n.run calls).Listed t template (h ++ n.history calls) := by
  induction calls generalizing n h with
  | nil =>
    rw [history_nil, List.append_nil]
    exact hn
  | cons call calls ih =>
    rw [history_cons, List.append_cons]
    exact ih (hn.perform call)

/-- A channel is given out under one name only. -/
theorem name_of_given (hn : n.Listed t template h) {x y : Exchange τ ε} (hx : x ∈ h) (hy : y ∈ h)
    {a b : String} {c : Channel.Ref} (ha : x.found? t a = some c) (hb : y.found? t b = some c) :
    a = b := by
  have hname := (hn.given x hx a c ha).2.symm.trans (hn.given y hy b c hb).2
  exact Option.some.inj (congrArg ChannelOptions.name hname)

/-- A channel is held under one name only, now and later. -/
theorem name_unique (hn : n.Listed t template h) {p q : List (Exchange τ ε)} (hp : p <+: h)
    (hq : q <+: h) {a b : String} {c : Channel.Ref} (ha : held t a p = some c)
    (hb : held t b q = some c) : a = b := by
  obtain ⟨x, hx, hxfound⟩ := found?_of_held ha
  obtain ⟨y, hy, hyfound⟩ := found?_of_held hb
  exact hn.name_of_given (hp.subset hx) (hq.subset hy) hxfound hyfound

/-- Two channels that were given out are the same exactly if they were asked for under one name and
none was removed in between. -/
theorem given_eq_iff (hn : n.Listed t template []) {calls : List (Call τ ε)}
    {past mid rest : List (Exchange τ ε)} {x y : Exchange τ ε} {a b : String} {c d : Channel.Ref}
    (hsplit : n.history calls = past ++ x :: (mid ++ y :: rest)) (hc : x.found? t a = some c)
    (hd : y.found? t b = some d) : c = d ↔ a = b ∧ ∀ z ∈ mid, z.removed? t a = none := by
  have hend : (n.run calls).Listed t template (past ++ x :: (mid ++ y :: rest)) :=
    hsplit ▸ hn.run calls
  obtain ⟨before, first, after, rfl, rfl, rfl, hafter⟩ := history_split hsplit
  obtain ⟨between, second, last, rfl, rfl, rfl, -⟩ := history_split hafter
  have hbefore := hn.run before
  have hexists := (hbefore.given_perform hc).1
  constructor
  · rintro rfl
    obtain rfl : a = b := hend.name_of_given (by simp) (by simp) hc hd
    exact ⟨rfl, (found?_eq_iff hbefore.created hc hexists hd).1 rfl⟩
  · rintro ⟨rfl, hkept⟩
    exact (found?_eq_iff hbefore.created hc hexists hd).2 hkept

end Listed

/-- In every run that works with tables and with anything else, as long as the channels fit a word,
a table is a finite map from names to channels:

* what is found under a name, and what is taken out, is what the map holds;
* two channels found under one name are the same exactly if none was removed in between;
* a channel is created exactly if the name is absent, from the template of the table under the
  name asked for, and no other channel ever created has its number or another name in this table;
* the names listed are those present, each once, and the size is their number;
* no call about a table touches a channel that exists, be it in a table or not.

A channel between two workers is found by `Table.pairName`, and so by a name like any other. -/
theorem table_maps_names (before calls : List (Call τ ε)) (template : ChannelOptions) :
    let created := (({} : Network τ ε).run before).createTable template
    let t := created.2
    let n := created.1.run calls
    let h := created.1.history calls
    n.channels.size < UInt64.size →
    (∀ name, n.lookup t name = held t name h ∧ (n.unlink t name).2 = held t name h) ∧
    (∀ name past x mid y rest c d, h = past ++ x :: (mid ++ y :: rest) →
      x.found? t name = some c → y.found? t name = some d →
      (c = d ↔ ∀ z ∈ mid, z.removed? t name = none)) ∧
    (∀ name, match held t name h with
      | some c => n.lookupOrCreate t name = (n, c)
      | none =>
        let minted := n.lookupOrCreate t name
        ¬ n.Exists minted.2 ∧ minted.1.channels.size = n.channels.size + 1 ∧
          minted.1.channel minted.2 = .create (template.withName name)) ∧
    (∀ x ∈ h, ∀ name c, x.found? t name = some c →
      n.Exists c ∧ (∀ e, n.Exists e → e.id = c.id → e = c) ∧ (n.channel c).name = some name ∧
        (n.channel c).retainReceiveFailures = template.retainReceiveFailures) ∧
    (∀ p q a b c, p <+: h → q <+: h → held t a p = some c → held t b q = some c → a = b) ∧
    ((n.table t).names.Nodup ∧ (∀ name, name ∈ (n.table t).names ↔ held t name h ≠ none) ∧
      (n.table t).size = (n.table t).names.length) ∧
    ∀ call : Call τ ε, call.isOnTable = true → ∀ c, n.Exists c →
      (n.perform call).1.channel c = n.channel c := by
  intro created t n h hsize
  have hstart := listed_createTable (({} : Network τ ε).run before) template
  have hn : n.Listed t template h := hstart.run calls
  refine ⟨fun name => ⟨hn.lookup name, hn.lookup name⟩,
    fun name past x mid y rest c d hsplit hc hd => ?same,
    fun name => ?minted, fun x hx name c hc => ?given,
    fun p q a b c hp hq ha hb => hn.name_unique hp hq ha hb,
    ⟨hn.nodup, fun name => ?names, (List.length_map ..).symm⟩,
    fun call htable c hc => channel_perform_of_isOnTable htable hc⟩
  case same =>
    rw [hstart.given_eq_iff hsplit hc hd]
    exact and_iff_right rfl
  case minted =>
    rw [← hn.lookup name]
    cases hl : n.lookup t name with
    | some c => exact lookupOrCreate_of_some hl
    | none =>
      have hfresh : (n.lookupOrCreate t name).2 = n.channels.fresh :=
        congrArg Prod.snd (lookupOrCreate_of_none hl)
      refine ⟨hfresh ▸ not_exists_fresh n, size_lookupOrCreate hl, ?_⟩
      rw [hfresh, channel_lookupOrCreate hl, hn.options]
  case given =>
    obtain ⟨hexists, hoptions⟩ := hn.given x hx name c hc
    exact ⟨hexists, fun e he hid => id_inj_of_exists hsize he hexists hid,
      congrArg ChannelOptions.name hoptions,
      congrArg ChannelOptions.retainReceiveFailures hoptions⟩
  case names =>
    rw [Table.mem_names, ← hn.lookup name]
    rfl

/-- The channel of a pair is found, used, removed, used again and created anew, while the template
has a name of its own and another channel goes by the name of the pair. -/
theorem table_maps_names_anew :
    let before : List (Call Nat String) :=
      [.createTable {}, .createChannel { name := some "a->b" }, .createReadySet,
        .createStrand none ⟨0⟩]
    let template : ChannelOptions := { name := some "template", retainReceiveFailures := true }
    let calls : List (Call Nat String) := [
      .lookupOrCreate ⟨1⟩ (Table.pairName "a" "b"),
      .operate ⟨1⟩ (.failReceive (.error "lost")),
      .lookup ⟨1⟩ "a->b",
      .unlink ⟨1⟩ "a->b",
      .operate ⟨1⟩ (.send 7 ⟨0⟩),
      .lookup ⟨1⟩ "a->b",
      .lookupOrCreate ⟨1⟩ "a->b",
      .lookupOrCreate ⟨1⟩ (Table.pairName "b" "a")]
    let created := (({} : Network Nat String).run before).createTable template
    let n := created.1.run calls
    n.channels.size < UInt64.size ∧ n.lookup ⟨1⟩ "a->b" = some ⟨2⟩ ∧
      (∀ e, n.Exists e → e.id = Channel.Ref.id ⟨2⟩ → e = ⟨2⟩) ∧
      (n.channel ⟨2⟩).name = some "a->b" ∧ (n.channel ⟨2⟩).retainReceiveFailures = true ∧
      "b->a" ∈ (n.table ⟨1⟩).names ∧
      (n.perform (.unlink ⟨1⟩ "a->b")).1.channel ⟨1⟩ = n.channel ⟨1⟩ ∧
      (n.channel ⟨1⟩).queue = [⟨7, false⟩] ∧ (n.channel ⟨1⟩).pending.get .error = some "lost" := by
  intro before template calls created n
  have hsize : n.channels.size < UInt64.size := by decide
  obtain ⟨hlookup, -, -, hgiven, -, ⟨-, hnames, -⟩, hkept⟩ :=
    table_maps_names before calls template hsize
  have hheld : held ⟨1⟩ "a->b" (created.1.history calls) = some ⟨2⟩ := by decide
  have hother : held ⟨1⟩ "b->a" (created.1.history calls) ≠ none := by decide
  obtain ⟨x, hx, hfound⟩ := found?_of_held hheld
  obtain ⟨-, hid, hname, hretain⟩ := hgiven x hx "a->b" ⟨2⟩ hfound
  exact ⟨hsize, (hlookup "a->b").1.trans hheld, hid, hname, hretain, (hnames "b->a").2 hother,
    hkept (.unlink ⟨1⟩ "a->b") rfl ⟨1⟩ (by decide), by decide⟩

end Network

end Rendezvous
