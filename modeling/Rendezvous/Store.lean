/-!
# Stores

The objects of a network live in stores and point at one another by reference.

* `Reference κ`: `κ` numbers the objects of one kind, from zero, in the order of creation.
* `Store κ α`: the objects of one kind. Reading is total: an object that was never written has
  the initial value `default`.
* `Store.get_set`: a write is seen under its own reference and under no other, whatever the two
  references are.
* `Store.get_fresh`: the object that is created next has the initial value until then.
* `Store.set_get`: writing what is there changes nothing.
-/

namespace Rendezvous

/-- The values of `κ` are the natural numbers under another name. -/
class Reference (κ : Type) where
  nth : Nat → κ
  index : κ → Nat
  index_nth : ∀ i, index (nth i) = i
  nth_index : ∀ r, nth (index r) = r

theorem Reference.index_inj {κ : Type} [Reference κ] {r t : κ} : index r = index t ↔ r = t :=
  ⟨fun h => by rw [← nth_index r, h, nth_index], fun h => h ▸ rfl⟩

/-- The objects of one kind in the order of creation. -/
structure Store (κ α : Type) where
  items : List α := []

namespace Store

variable {κ α : Type} [Reference κ] [Inhabited α]

/-- How many objects the store holds. -/
def size (s : Store κ α) : Nat := s.items.length

/-- The object that `r` refers to. -/
def get (s : Store κ α) (r : κ) : α := s.items.getD (Reference.index r) default

/-- Puts `x` at place `i`; a shorter list is first filled up with initial values. -/
def put (x : α) : List α → Nat → List α
  | [], 0 => [x]
  | [], i + 1 => default :: put x [] i
  | _ :: l, 0 => x :: l
  | y :: l, i + 1 => y :: put x l i

/-- Makes `x` the object that `r` refers to. -/
def set (s : Store κ α) (r : κ) (x : α) : Store κ α := ⟨put x s.items (Reference.index r)⟩

/-- The reference of the object that is created next. -/
def fresh (s : Store κ α) : κ := Reference.nth s.size

theorem getD_put (x : α) (l : List α) (i j : Nat) :
    (put x l i).getD j default = if j = i then x else l.getD j default := by
  fun_induction put x l i generalizing j with
  | case1 => cases j <;> simp
  | case2 i ih => cases j with
    | zero => simp
    | succ j => have := ih j; simp_all
  | case3 => cases j <;> simp
  | case4 y l i ih => cases j with
    | zero => simp
    | succ j => have := ih j; simp_all

theorem length_put (x : α) (l : List α) (i : Nat) :
    (put x l i).length = max l.length (i + 1) := by
  fun_induction put x l i with
  | case1 => rfl
  | case2 i ih => simp_all
  | case3 => simp
  | case4 y l i ih => simp_all

/-- A write is seen under its own reference and under no other. -/
theorem get_set [DecidableEq κ] (s : Store κ α) (r t : κ) (x : α) :
    (s.set r x).get t = if t = r then x else s.get t := by
  simp only [get, set, getD_put, Reference.index_inj]

@[simp] theorem get_set_self (s : Store κ α) (r : κ) (x : α) : (s.set r x).get r = x := by
  simp only [get, set, getD_put, if_true]

/-- The object that is created next has the initial value. -/
theorem get_fresh (s : Store κ α) : s.get s.fresh = default := by
  simp [get, fresh, size, Reference.index_nth]

/-- What can be read are the initial value and the objects of the store. -/
theorem forall_get (s : Store κ α) {P : α → Prop} :
    (∀ r, P (s.get r)) ↔ P default ∧ ∀ x ∈ s.items, P x := by
  constructor
  · refine fun h => ⟨s.get_fresh ▸ h s.fresh, fun x hx => ?_⟩
    obtain ⟨i, hi, rfl⟩ := List.getElem_of_mem hx
    have hget := h (Reference.nth i)
    rw [get, Reference.index_nth, List.getD_eq_getElem?_getD, List.getElem?_eq_getElem hi] at hget
    exact hget
  · rintro ⟨hdefault, hitems⟩ r
    rw [get, List.getD_eq_getElem?_getD]
    cases hx : s.items[Reference.index r]? with
    | some x => exact hitems x (List.mem_of_getElem? hx)
    | none => exact hdefault

theorem size_set (s : Store κ α) (r : κ) (x : α) :
    (s.set r x).size = max s.size (Reference.index r + 1) :=
  length_put x s.items (Reference.index r)

/-- Creating an object takes one more place. -/
theorem size_set_fresh (s : Store κ α) (x : α) : (s.set s.fresh x).size = s.size + 1 := by
  rw [size_set, fresh, Reference.index_nth]
  exact Nat.max_eq_right (Nat.le_succ _)

/-- What is not the initial value was written. -/
theorem index_lt_size {s : Store κ α} {r : κ} (h : s.get r ≠ default) :
    Reference.index r < s.size := by
  refine Nat.lt_of_not_le fun hge => h ?_
  rw [get, List.getD_eq_getElem?_getD, List.getElem?_eq_none hge]
  rfl

theorem put_getD (l : List α) (i : Nat) (h : i < l.length) : put (l.getD i default) l i = l := by
  induction l generalizing i with
  | nil => cases h
  | cons y l ih => cases i with
    | zero => rfl
    | succ i => exact congrArg (y :: ·) (ih i (Nat.lt_of_succ_lt_succ h))

/-- Writing what is there changes nothing. -/
theorem set_get {s : Store κ α} {r : κ} (h : Reference.index r < s.size) :
    s.set r (s.get r) = s := by
  rw [set, get, put_getD _ _ h]

end Store

end Rendezvous
