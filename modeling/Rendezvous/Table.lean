import Rendezvous.Channel.Options
import Rendezvous.Identity

/-!
# Channel tables

A table finds the channels between the workers of one invocation by name.

* `Table.get?`, `Table.insert`, `Table.erase`: a finite map from names to channels, pinned down by
  `get?_insert` and `get?_erase`.
* `Table.pairName`: the name under which the channel from one worker to another is found.
-/

namespace Rendezvous

/-- Channels by name. Each name has at most one entry. -/
structure Table where
  /-- What every channel of the table is created with, but for its name. -/
  options : ChannelOptions := {}
  entries : List (String × Channel.Ref) := []
  deriving DecidableEq, Inhabited

namespace Table

/-- The channel of that name. -/
def get? (t : Table) (name : String) : Option Channel.Ref := t.entries.lookup name

/-- Removes the channel of that name. -/
def erase (t : Table) (name : String) : Table :=
  { t with entries := t.entries.filter (·.1 != name) }

/-- Makes a channel the one of that name. -/
def insert (t : Table) (name : String) (c : Channel.Ref) : Table :=
  { t with entries := (t.erase name).entries ++ [(name, c)] }

def size (t : Table) : Nat := t.entries.length

def isEmpty (t : Table) : Bool := t.entries.isEmpty

/-- The names in use. -/
def names (t : Table) : List String := t.entries.map (·.1)

/-- The name of the channel from one worker to another. -/
def pairName (sender receiver : String) : String := sender ++ "->" ++ receiver

theorem lookup_filter_ne (l : List (String × Channel.Ref)) (name key : String) :
    (l.filter (·.1 != name)).lookup key = if key = name then none else l.lookup key := by
  induction l with
  | nil => simp
  | cons e l ih =>
    obtain ⟨k, c⟩ := e
    by_cases hk : k = name
    · subst hk
      rw [List.filter_cons_of_neg (by simp), ih]
      by_cases hkey : key = k
      · simp [hkey]
      · simp [hkey, List.lookup_cons, beq_false_of_ne hkey]
    · by_cases hkey : key = k
      · subst hkey
        simp [hk]
      · simp [hk, ih, List.lookup_cons, beq_false_of_ne hkey]

/-- An erased name is gone, and every other name means what it meant before. -/
theorem get?_erase (t : Table) (name key : String) :
    (t.erase name).get? key = if key = name then none else t.get? key :=
  lookup_filter_ne t.entries name key

/-- An inserted name means its channel, and every other name what it meant before. -/
theorem get?_insert (t : Table) (name key : String) (c : Channel.Ref) :
    (t.insert name c).get? key = if key = name then some c else t.get? key := by
  simp only [get?, insert, erase, List.lookup_append, lookup_filter_ne]
  by_cases h : key = name
  · simp [h]
  · simp [h, List.lookup_cons, beq_false_of_ne h]

/-- The names in use are those that mean a channel. -/
theorem mem_names {t : Table} {name : String} : name ∈ t.names ↔ t.get? name ≠ none := by
  rw [names, get?, Ne, List.lookup_eq_none_iff, List.mem_map]
  constructor
  · rintro ⟨e, he, rfl⟩ habsent
    exact bne_iff_ne.1 (habsent e he) rfl
  · intro hpresent
    refine Classical.byContradiction fun hnone => hpresent fun e he => bne_iff_ne.2 fun hname => ?_
    exact hnone ⟨e, he, hname.symm⟩

theorem nodup_names_erase {t : Table} (h : t.names.Nodup) (name : String) :
    (t.erase name).names.Nodup :=
  h.sublist ((List.filter_sublist).map _)

/-- Inserting keeps the names apart. -/
theorem nodup_names_insert {t : Table} (h : t.names.Nodup) (name : String) (c : Channel.Ref) :
    (t.insert name c).names.Nodup := by
  have he := nodup_names_erase h name
  simp only [names, insert, List.map_append, List.nodup_append] at he ⊢
  refine ⟨he, by simp, fun a ha b hb => ?_⟩
  simp only [erase, List.mem_map, List.mem_filter, bne_iff_ne] at ha
  obtain ⟨e, ⟨_, hne⟩, rfl⟩ := ha
  simp only [List.map_cons, List.map_nil, List.mem_singleton] at hb
  exact hb ▸ hne

end Table

end Rendezvous
