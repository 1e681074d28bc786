import Bytebase.Go.Basic

/-!
# Go — the slice `sort.Slice` sorts

`sort.Slice(x, less)` sorts a slice in place through two closures over it:
`less(i, j)` compares the elements at two indices and `swap(i, j)`
exchanges them. Here the slice is its element function `d : Nat → α`,
`data.Less(i, j)` is `lt (d i) (d j)` and `data.Swap(i, j)` is
`swap d i j`. The functions of Go's `zsortfunc.go` move elements only by
swaps inside the range `[a, b)` they are handed.

What their proofs share: `data[a:b]` as a list (`elems`); the loops that
move an index while a test holds (`scanUp`, `scanDown`); `SegPerm a b d d'`,
a step that permutes `[a, b)` and leaves every other index alone;
`Ascending`, the range in order for `less`; and `StrictWeakOrder`, what
`less` must be for a sort to sort.
-/

namespace Bytebase.Go

variable {α : Type}

/-- `data.Swap(i, j)`. -/
def swap (d : Nat → α) (i j : Nat) : Nat → α := fun k => if k = i then d j else if k = j then d i else d k

/-- `data[a:b]`, in index order. -/
def elems (d : Nat → α) (a b : Nat) : List α := (List.range' a (b - a)).map d

theorem swap_eq_comp (d : Nat → α) (i j : Nat) : swap d i j = d ∘ Equiv.swap i j := by
  funext k
  simp only [swap, Function.comp, Equiv.swap_apply_def]
  split_ifs <;> rfl

theorem swap_apply_of_ne {d : Nat → α} {i j k : Nat} (hi : k ≠ i) (hj : k ≠ j) : swap d i j k = d k := by
  simp [swap, hi, hj]

@[simp] theorem swap_apply_left (d : Nat → α) (i j : Nat) : swap d i j i = d j := by simp [swap]

@[simp] theorem swap_apply_right (d : Nat → α) (i j : Nat) : swap d i j j = d i := by
  by_cases h : j = i <;> simp [swap, h]

@[simp] theorem swap_self (d : Nat → α) (i : Nat) : swap d i i = d := by
  funext k; by_cases h : k = i <;> simp [swap, h]

/-! ## `data[a:b]` -/

theorem elems_of_le {d : Nat → α} {a b : Nat} (h : b ≤ a) : elems d a b = [] := by
  simp [elems, Nat.sub_eq_zero_of_le h]

theorem length_elems (d : Nat → α) (a b : Nat) : (elems d a b).length = b - a := by simp [elems]

theorem mem_elems {d : Nat → α} {a b : Nat} {x : α} : x ∈ elems d a b ↔ ∃ k, a ≤ k ∧ k < b ∧ d k = x := by
  simp only [elems, List.mem_map, List.mem_range'_1]
  constructor
  · rintro ⟨k, ⟨h1, h2⟩, rfl⟩; exact ⟨k, h1, by omega, rfl⟩
  · rintro ⟨k, h1, h2, rfl⟩; exact ⟨k, ⟨h1, by omega⟩, rfl⟩

theorem elems_append {d : Nat → α} {a m b : Nat} (h1 : a ≤ m) (h2 : m ≤ b) :
    elems d a m ++ elems d m b = elems d a b := by
  have := List.range'_append a (m - a) (b - m) 1
  rw [Nat.one_mul, Nat.add_sub_cancel' h1, show b - m + (m - a) = b - a by omega] at this
  simp only [elems, ← List.map_append, this]

theorem elems_eq_cons {d : Nat → α} {a b : Nat} (h : a < b) : elems d a b = d a :: elems d (a + 1) b := by
  rw [← elems_append (Nat.le_succ a) h]; simp [elems]

theorem elems_congr {d d' : Nat → α} {a b : Nat} (h : ∀ k, a ≤ k → k < b → d k = d' k) :
    elems d a b = elems d' a b :=
  List.map_congr_left fun k hk => by simp only [List.mem_range'_1] at hk; exact h k hk.1 (by omega)

theorem elems_concat {d : Nat → α} {a b : Nat} (h : a ≤ b) : elems d a (b + 1) = elems d a b ++ [d b] := by
  rw [← elems_append h (Nat.le_succ b)]; simp [elems]

/-- `data[a+1:b+1]` of a slice shifted one up is `data[a:b]`. -/
theorem elems_succ {d d' : Nat → α} {a b : Nat} (h : ∀ k, a ≤ k → k < b → d' (k + 1) = d k) :
    elems d' (a + 1) (b + 1) = elems d a b := by
  rw [elems, elems, Nat.add_sub_add_right, Nat.add_comm a 1, ← List.map_add_range', List.map_map]
  exact List.map_congr_left fun k hk => by
    simp only [List.mem_range'_1] at hk; simpa [Nat.add_comm 1 k] using h k hk.1 (by omega)

/-- A swap inside `[a, b)` permutes `data[a:b]`. -/
theorem elems_swap_perm {d : Nat → α} {a b i j : Nat} (hi : a ≤ i ∧ i < b) (hj : a ≤ j ∧ j < b) :
    (elems (swap d i j) a b).Perm (elems d a b) := by
  have hidx : ((List.range' a (b - a)).map (Equiv.swap i j)).Perm (List.range' a (b - a)) := by
    refine (List.perm_ext_iff_of_nodup ((List.nodup_range' _ _).map (Equiv.injective _))
      (List.nodup_range' _ _)).2 fun k => ?_
    simp only [List.mem_map, List.mem_range'_1]
    constructor
    · rintro ⟨k', hk', rfl⟩; rw [Equiv.swap_apply_def]; split_ifs <;> omega
    · intro hk
      refine ⟨Equiv.swap i j k, ?_, Equiv.swap_apply_self _ _ _⟩
      rw [Equiv.swap_apply_def]; split_ifs <;> omega
  rw [elems, swap_eq_comp, ← List.map_map]
  exact hidx.map d

/-! ## Loops that move an index -/

/-- `for i <= j && p(i) { i++ }`, or `for i < b && p(i) { i++ }`: `i` up
while `p` holds, at most `n` steps (`j + 1 - i`, or `b - i`). -/
def scanUp (p : Nat → Bool) (i : Nat) : (n : Nat) → Nat
  | 0 => i
  | n + 1 => if p i then scanUp p (i + 1) n else i

/-- `for i <= j && p(j) { j-- }`: `j` down while `p` holds, at most
`n = j + 1 - i` steps. -/
def scanDown (p : Nat → Bool) (j : Nat) : (n : Nat) → Nat
  | 0 => j
  | n + 1 => if p j then scanDown p (j - 1) n else j

theorem scanUp_spec (p : Nat → Bool) (i n : Nat) :
    i ≤ scanUp p i n ∧ scanUp p i n ≤ i + n ∧ (∀ k, i ≤ k → k < scanUp p i n → p k = true) ∧
      (scanUp p i n < i + n → p (scanUp p i n) = false) := by
  induction n generalizing i with
  | zero => exact ⟨le_rfl, le_rfl, fun k h1 h2 => absurd h2 (by simpa [scanUp] using h1), fun h => absurd h (by simp [scanUp])⟩
  | succ n ih =>
    by_cases hp : p i
    · obtain ⟨h1, h2, h3, h4⟩ := ih (i + 1)
      simp only [scanUp, hp, if_true]
      refine ⟨by omega, by omega, fun k hk hk' => ?_, fun h => h4 (by omega)⟩
      rcases Nat.eq_or_lt_of_le hk with rfl | hk
      · exact hp
      · exact h3 k hk hk'
    · rw [scanUp, if_neg hp]
      exact ⟨le_rfl, by omega, fun k h1 h2 => absurd h2 (by omega), fun _ => by simpa using hp⟩

theorem scanDown_spec (p : Nat → Bool) {j n : Nat} (h : n ≤ j) :
    j - n ≤ scanDown p j n ∧ scanDown p j n ≤ j ∧ (∀ k, scanDown p j n < k → k ≤ j → p k = true) ∧
      (j - n < scanDown p j n → p (scanDown p j n) = false) := by
  induction n generalizing j with
  | zero => exact ⟨by simp [scanDown], by simp [scanDown], fun k h1 h2 => absurd h2 (by simp [scanDown] at h1; omega),
      fun h => absurd h (by simp [scanDown])⟩
  | succ n ih =>
    by_cases hp : p j
    · obtain ⟨h1, h2, h3, h4⟩ := ih (j := j - 1) (by omega)
      simp only [scanDown, hp, if_true]
      refine ⟨by omega, by omega, fun k hk hk' => ?_, fun h => h4 (by omega)⟩
      rcases Nat.eq_or_lt_of_le hk' with rfl | hk'
      · exact hp
      · exact h3 k hk (by omega)
    · rw [scanDown, if_neg hp]
      exact ⟨by omega, le_rfl, fun k h1 h2 => absurd h2 (by omega), fun _ => by simpa using hp⟩

theorem scanDown_le (p : Nat → Bool) (j n : Nat) : scanDown p j n ≤ j := by
  induction n generalizing j with
  | zero => exact le_rfl
  | succ n ih =>
    rw [scanDown]
    split
    · exact (ih (j - 1)).trans (Nat.sub_le j 1)
    · exact le_rfl

/-! ## Steps that permute a range -/

/-- A step on `[a, b)`: it permutes the range's elements and leaves every
other index alone. -/
structure SegPerm (a b : Nat) (d d' : Nat → α) : Prop where
  perm : (elems d' a b).Perm (elems d a b)
  frame : ∀ k, k < a ∨ b ≤ k → d' k = d k

namespace SegPerm

variable {a b : Nat} {d d' d'' : Nat → α}

@[refl] theorem refl (a b : Nat) (d : Nat → α) : SegPerm a b d d := ⟨.refl _, fun _ _ => rfl⟩

theorem trans (h : SegPerm a b d d') (h' : SegPerm a b d' d'') : SegPerm a b d d'' :=
  ⟨h'.perm.trans h.perm, fun k hk => (h'.frame k hk).trans (h.frame k hk)⟩

theorem swap {i j : Nat} (hi : a ≤ i ∧ i < b) (hj : a ≤ j ∧ j < b) : SegPerm a b d (Go.swap d i j) :=
  ⟨elems_swap_perm hi hj, fun k hk => swap_apply_of_ne (by omega) (by omega)⟩

/-- A step on a range is a step on any range around it. -/
theorem mono (h : SegPerm a b d d') {a' b' : Nat} (ha : a' ≤ a) (hb : b ≤ b') : SegPerm a' b' d d' := by
  refine ⟨?_, fun k hk => h.frame k (by omega)⟩
  by_cases hab : a ≤ b
  · rw [← elems_append ha (hab.trans hb), ← elems_append hab hb, ← elems_append ha (hab.trans hb),
      ← elems_append hab hb, elems_congr fun k _ hk => h.frame k (.inl hk),
      elems_congr (a := b) fun k hk _ => h.frame k (.inr hk)]
    exact (h.perm.append_right _).append_left _
  · rw [elems_congr fun k _ _ => h.frame k (by omega)]

/-- An element of the range after the step was an element of it before. -/
theorem mem (h : SegPerm a b d d') {k : Nat} (hk : a ≤ k ∧ k < b) : d' k ∈ elems d a b :=
  h.perm.subset (mem_elems.2 ⟨k, hk.1, hk.2, rfl⟩)

/-- A property of every element of the range survives the step. -/
theorem forall_mem (h : SegPerm a b d d') {p : α → Prop} (hp : ∀ k, a ≤ k → k < b → p (d k))
    {k : Nat} (hk : a ≤ k ∧ k < b) : p (d' k) := by
  obtain ⟨k', h1, h2, he⟩ := mem_elems.1 (h.mem hk)
  exact he ▸ hp k' h1 h2

end SegPerm

/-! ## Order -/

/-- `[a, b)` is in order for `lt`: no element is less than one before it. -/
def Ascending (lt : α → α → Bool) (d : Nat → α) (a b : Nat) : Prop :=
  ∀ i j, a ≤ i → i < j → j < b → lt (d j) (d i) = false

/-- What `less` must be for a sort to sort: irreflexive and transitive,
and "not less than" transitive too, so that it is a total preorder and
elements neither less than the other are interchangeable. -/
structure StrictWeakOrder (lt : α → α → Bool) : Prop where
  irrefl : ∀ x, lt x x = false
  trans : ∀ {x y z}, lt x y = true → lt y z = true → lt x z = true
  not_lt_trans : ∀ {x y z}, lt y x = false → lt z y = false → lt z x = false

/-- Neither element is less than the other: a sort may put them either
way round. -/
def tie (lt : α → α → Bool) (x y : α) : Bool := !lt x y && !lt y x

@[simp] theorem tie_eq_true {lt : α → α → Bool} {x y : α} : tie lt x y = true ↔ lt x y = false ∧ lt y x = false := by
  simp [tie]

namespace StrictWeakOrder

variable {lt : α → α → Bool} (o : StrictWeakOrder lt) {x y z : α}
include o

theorem asymm (h : lt x y = true) : lt y x = false := by
  cases h' : lt y x
  · rfl
  · have := o.irrefl x; rw [o.trans h h'] at this; cases this

theorem lt_of_lt_of_not_lt (h : lt x y = true) (h' : lt z y = false) : lt x z = true := by
  cases h'' : lt x z
  · rw [o.not_lt_trans h' h''] at h; cases h
  · rfl

theorem lt_of_not_lt_of_lt (h : lt y x = false) (h' : lt y z = true) : lt x z = true := by
  cases h'' : lt x z
  · rw [o.not_lt_trans h'' h] at h'; cases h'
  · rfl

theorem not_lt_of_lt_of_not_lt (h : lt x y = true) (h' : lt x z = false) : lt y z = false := by
  cases h'' : lt y z
  · rfl
  · rw [o.trans h h''] at h'; cases h'

/-- Two elements tied with a third are not less than one another. -/
theorem not_lt_of_tie (hx : tie lt z x = true) (hy : tie lt z y = true) : lt x y = false := by
  rw [tie_eq_true] at hx hy
  cases h : lt x y
  · rfl
  · rw [o.lt_of_lt_of_not_lt h hy.1] at hx; cases hx.2

end StrictWeakOrder

section Key

/-! A `less` that compares a key in a linear order, as every `less` of the
server does (a field, or a tuple of fields read in turn). -/

variable {β : Type} [LinearOrder β] (key : α → β) {lt : α → α → Bool}
  (h : ∀ x y, lt x y = true ↔ key x < key y)
include h

theorem lt_eq_false_iff_of_key {x y : α} : lt x y = false ↔ key y ≤ key x := by
  rw [Bool.eq_false_iff, ne_eq, h, not_lt]

theorem StrictWeakOrder.of_key : StrictWeakOrder lt where
  irrefl _ := (lt_eq_false_iff_of_key key h).2 le_rfl
  trans hxy hyz := (h _ _).2 (((h _ _).1 hxy).trans ((h _ _).1 hyz))
  not_lt_trans hyx hzy :=
    (lt_eq_false_iff_of_key key h).2 (((lt_eq_false_iff_of_key key h).1 hyx).trans ((lt_eq_false_iff_of_key key h).1 hzy))

theorem tie_iff_of_key {x y : α} : tie lt x y = true ↔ key x = key y := by
  rw [tie_eq_true, lt_eq_false_iff_of_key key h, lt_eq_false_iff_of_key key h, le_antisymm_iff, and_comm]

end Key

theorem Ascending.congr {lt : α → α → Bool} {d d' : Nat → α} {a b : Nat} (hs : Ascending lt d a b)
    (h : ∀ k, a ≤ k → k < b → d' k = d k) : Ascending lt d' a b := fun i j hi hij hj => by
  rw [h i hi (by omega), h j (by omega) hj]; exact hs i j hi hij hj

/-- `data[a:b]` in order is a sorted list. -/
theorem Ascending.sorted {lt : α → α → Bool} {d : Nat → α} {a b : Nat} (hs : Ascending lt d a b) :
    (elems d a b).Sorted fun x y => lt y x = false := by
  rw [List.Sorted, List.pairwise_iff_getElem]
  intro i j hi hj hij
  simp only [elems, List.getElem_map, List.getElem_range', Nat.one_mul]
  simp only [length_elems] at hi hj
  exact hs _ _ (Nat.le_add_right a i) (by omega) (by omega)

/-- Two ascending ranges around an element no left element is above and
no right element is below make one ascending range. -/
theorem Ascending.join {lt : α → α → Bool} (o : StrictWeakOrder lt) {d : Nat → α} {a m b : Nat}
    (hl : Ascending lt d a m) (hr : Ascending lt d (m + 1) b)
    (hlm : ∀ k, a ≤ k → k < m → lt (d m) (d k) = false) (hmr : ∀ k, m < k → k < b → lt (d k) (d m) = false) :
    Ascending lt d a b := by
  intro i j hi hij hj
  rcases Nat.lt_trichotomy i m with him | rfl | hmi
  · rcases Nat.lt_trichotomy j m with hjm | rfl | hmj
    · exact hl i j hi hij hjm
    · exact hlm i hi him
    · exact o.not_lt_trans (hlm i hi him) (hmr j hmj hj)
  · exact hmr j hij hj
  · exact hr i j hmi hij hj

/-- A range in order stays in order with one more element not less than
its last. -/
theorem Ascending.snoc {lt : α → α → Bool} (o : StrictWeakOrder lt) {d : Nat → α} {a k : Nat}
    (hs : Ascending lt d a k) (h : a < k → lt (d k) (d (k - 1)) = false) : Ascending lt d a (k + 1) := by
  intro i j hi hij hj
  rcases Nat.lt_or_eq_of_le (Nat.le_of_lt_succ hj) with hj | rfl
  · exact hs i j hi hij hj
  · rcases Nat.lt_or_eq_of_le (Nat.le_sub_one_of_lt hij) with hi' | hi'
    · exact o.not_lt_trans (hs i (j - 1) hi hi' (by omega)) (h (by omega))
    · rw [hi']; exact h (by omega)

/-- A range in order stays in order on to `j` when each next element is
not less than the one before it. -/
theorem Ascending.extend {lt : α → α → Bool} (o : StrictWeakOrder lt) {d : Nat → α} {a i j : Nat}
    (hs : Ascending lt d a i) (h : ∀ k, i ≤ k → k < j → lt (d k) (d (k - 1)) = false) : Ascending lt d a j := by
  induction j with
  | zero => exact fun _ _ _ _ hj => absurd hj (Nat.not_lt_zero _)
  | succ j ih =>
    by_cases hj : j < i
    · exact fun x y hx hxy hy => hs x y hx hxy (by omega)
    · exact (ih fun k h1 h2 => h k h1 (by omega)).snoc o fun _ => h j (by omega) (by omega)

end Bytebase.Go
