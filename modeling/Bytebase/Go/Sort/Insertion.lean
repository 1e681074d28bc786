import Bytebase.Go.Sort.Slice

/-!
# Go — `insertionSort_func`

The sort `sort.Slice` uses on ranges of at most twelve elements: each
element in turn sinks left past the elements it is less than. The same
inner loop shifts elements in `partialInsertionSort_func`, which tries to
finish a nearly sorted range with a few such shifts.

One characterization of the inner loop (`InsertedAt`: where the element
stops, what it passed, what stayed) gives the three facts the sort needs.
The range is permuted, whatever `less` is. It ends in order when `less` is
a strict weak order. Tied elements keep their order, since an element only
passes elements it is less than (`filter_tie_insertionSortFunc`).

`partialInsertionSort_func` shifts left with `for j := i - 1; j >= 1; j--`,
past the start of its range. It stays inside the range only because
`pdqsort_func` calls it where no element of the range is less than
`data[a-1]` (`LowerBound`): for any `less` it permutes `data[:b]`, and
under that bound `data[a:b]`.
-/

namespace Bytebase.Go

variable {α : Type}

/-- The inner loop `for j := i; j > a && data.Less(j, j-1); j-- { data.Swap(j, j-1) }`,
from `j` with at most `n = j - a` steps left. -/
def insertDown (lt : α → α → Bool) (d : Nat → α) (j : Nat) : (n : Nat) → Nat → α
  | 0 => d
  | n + 1 => if lt (d j) (d (j - 1)) then insertDown lt (swap d j (j - 1)) (j - 1) n else d

/-- The outer loop `for i := a + 1; i < b; i++`, from `i` with `n` iterations
left. -/
def insertionLoop (lt : α → α → Bool) (a : Nat) (d : Nat → α) (i : Nat) : (n : Nat) → Nat → α
  | 0 => d
  | n + 1 => insertionLoop lt a (insertDown lt d i (i - a)) (i + 1) n

/-- `insertionSort_func(data, a, b)`. -/
def insertionSortFunc (lt : α → α → Bool) (d : Nat → α) (a b : Nat) : Nat → α :=
  insertionLoop lt a d (a + 1) (b - (a + 1))

/-! ## The inner loop -/

/-- What the inner loop does with the element at `j`: it ends at `p`, the
elements of `[p, j)` moved one up, each greater than it, and it stopped at
`a` or above an element it is not less than. -/
structure InsertedAt (lt : α → α → Bool) (d d' : Nat → α) (a j p : Nat) : Prop where
  bounds : a ≤ p ∧ p ≤ j
  at_p : d' p = d j
  shifted : ∀ k, p < k → k ≤ j → d' k = d (k - 1) ∧ lt (d j) (d (k - 1)) = true
  frame : ∀ k, k < p ∨ j < k → d' k = d k
  stop : a < p → lt (d j) (d (p - 1)) = false

variable {lt : α → α → Bool}

theorem insertDown_spec (d : Nat → α) (a n : Nat) :
    ∃ p, InsertedAt lt d (insertDown lt d (a + n) n) a (a + n) p := by
  induction n generalizing d with
  | zero =>
    exact ⟨a, ⟨le_refl a, le_refl a⟩, rfl, fun k h1 h2 => absurd h2 (by omega), fun _ _ => rfl,
      fun h => absurd h (lt_irrefl a)⟩
  | succ n ih =>
    rw [insertDown, Nat.add_succ_sub_one]
    split
    · rename_i hlt
      obtain ⟨p, hp⟩ := ih (swap d (a + (n + 1)) (a + n))
      obtain ⟨hpa, hpj⟩ := hp.bounds
      have hd : ∀ k, k < a + n → swap d (a + (n + 1)) (a + n) k = d k := fun k hk =>
        swap_apply_of_ne (by omega) (by omega)
      refine ⟨p, ⟨hp.bounds.1, by omega⟩, ?_, fun k h1 h2 => ?_, fun k hk => ?_, fun ha => ?_⟩
      · rw [hp.at_p, swap_apply_right]
      · rcases Nat.lt_or_ge k (a + (n + 1)) with hk | hk
        · obtain ⟨he, hl⟩ := hp.shifted k h1 (by omega)
          rw [he, hd _ (by omega)]
          rw [swap_apply_right, hd _ (by omega)] at hl
          exact ⟨rfl, hl⟩
        · obtain rfl : k = a + (n + 1) := by omega
          rw [hp.frame _ (.inr (by omega)), swap_apply_left, Nat.add_succ_sub_one]
          exact ⟨rfl, hlt⟩
      · rw [hp.frame k (hk.imp_right fun _ => by omega)]
        exact swap_apply_of_ne (by omega) (by omega)
      · have := hp.stop ha
        rwa [swap_apply_right, hd _ (by omega)] at this
    · rename_i hnlt
      exact ⟨a + (n + 1), ⟨by omega, le_refl _⟩, rfl, fun k h1 h2 => absurd h2 (by omega), fun _ _ => rfl,
        fun _ => by simpa [Nat.add_succ_sub_one] using hnlt⟩

section

variable {d d' : Nat → α} {a j p : Nat}

theorem InsertedAt.elems_eq (h : InsertedAt lt d d' a j p) :
    elems d' a (j + 1) = elems d a p ++ d j :: elems d p j := by
  obtain ⟨hpa, hpj⟩ := h.bounds
  rw [← elems_append h.bounds.1 (by omega : p ≤ j + 1), elems_eq_cons (by omega : p < j + 1), h.at_p,
    elems_congr fun k _ hk => h.frame k (.inl hk),
    elems_succ (d := d) fun k hk hkj => by simpa using (h.shifted (k + 1) (by omega) hkj).1]

theorem InsertedAt.elems_old (h : InsertedAt lt d d' a j p) :
    elems d a (j + 1) = elems d a p ++ elems d p j ++ [d j] := by
  rw [elems_append h.bounds.1 h.bounds.2, elems_concat (h.bounds.1.trans h.bounds.2)]

theorem InsertedAt.segPerm (h : InsertedAt lt d d' a j p) : SegPerm a (j + 1) d d' := by
  obtain ⟨hpa, hpj⟩ := h.bounds
  refine ⟨?_, fun k hk => h.frame k (hk.imp (fun hk => by omega) fun hk => by omega)⟩
  rw [h.elems_eq, h.elems_old, List.append_assoc]
  exact List.perm_middle.trans (List.perm_append_singleton _ _).symm |>.trans (by rw [List.append_assoc])

theorem InsertedAt.ascending (o : StrictWeakOrder lt) (h : InsertedAt lt d d' a j p) (hs : Ascending lt d a j) :
    Ascending lt d' a (j + 1) := by
  obtain ⟨hpa, hpj⟩ := h.bounds
  have hprev : ∀ k, a ≤ k → k < p → lt (d j) (d k) = false := fun k hk hkp => by
    have hstop := h.stop (by omega)
    rcases Nat.lt_or_ge k (p - 1) with hk' | hk'
    · exact o.not_lt_trans (hs k (p - 1) hk hk' (by omega)) hstop
    · rwa [show k = p - 1 by omega]
  intro i i' hi hii' hi'
  rcases Nat.lt_trichotomy i' p with hlt | rfl | hgt
  · rw [h.frame i (.inl (by omega)), h.frame i' (.inl hlt)]; exact hs i i' hi hii' (by omega)
  · rw [h.at_p, h.frame i (.inl hii')]; exact hprev i hi hii'
  · obtain ⟨he', hl'⟩ := h.shifted i' hgt (by omega)
    rw [he']
    rcases Nat.lt_trichotomy i p with hip | rfl | hpi
    · rw [h.frame i (.inl hip)]; exact hs i (i' - 1) hi (by omega) (by omega)
    · rw [h.at_p]; exact o.asymm hl'
    · rw [(h.shifted i hpi (by omega)).1]; exact hs (i - 1) (i' - 1) (by omega) (by omega) (by omega)

theorem InsertedAt.filter_tie (o : StrictWeakOrder lt) (h : InsertedAt lt d d' a j p) (z : α) :
    (elems d' a (j + 1)).filter (tie lt z) = (elems d a (j + 1)).filter (tie lt z) := by
  obtain ⟨hpa, hpj⟩ := h.bounds
  rw [h.elems_eq, h.elems_old]
  simp only [List.filter_append, List.filter_cons, List.filter_singleton, List.append_assoc]
  cases hz : tie lt z (d j)
  · simp
  · have hB : (elems d p j).filter (tie lt z) = [] := List.filter_eq_nil_iff.2 fun y hy hzy => by
      obtain ⟨k, h1, h2, rfl⟩ := mem_elems.1 hy
      have := (h.shifted (k + 1) (by omega) (by omega)).2
      rw [Nat.add_sub_cancel, o.not_lt_of_tie hz hzy] at this
      cases this
    simp [hB]

end

/-! ## The outer loop -/

theorem insertDown_inserted (lt : α → α → Bool) (d : Nat → α) {a i : Nat} (h : a ≤ i) :
    ∃ p, InsertedAt lt d (insertDown lt d i (i - a)) a i p := by
  obtain ⟨n, rfl⟩ := Nat.exists_eq_add_of_le h
  rw [Nat.add_sub_cancel_left]
  exact insertDown_spec d a n

theorem segPerm_insertionLoop (lt : α → α → Bool) (d : Nat → α) {a i : Nat} (h : a ≤ i) (n : Nat) :
    SegPerm a (i + n) d (insertionLoop lt a d i n) := by
  induction n generalizing d i with
  | zero => exact .refl _ _ _
  | succ n ih =>
    obtain ⟨p, hp⟩ := insertDown_inserted lt d h
    exact (hp.segPerm.mono le_rfl (by omega)).trans (by simpa [Nat.add_right_comm] using ih _ (by omega : a ≤ i + 1))

theorem ascending_insertionLoop (o : StrictWeakOrder lt) (d : Nat → α) {a i : Nat} (h : a ≤ i)
    (hs : Ascending lt d a i) (n : Nat) : Ascending lt (insertionLoop lt a d i n) a (i + n) := by
  induction n generalizing d i with
  | zero => exact hs
  | succ n ih =>
    obtain ⟨p, hp⟩ := insertDown_inserted lt d h
    simpa [Nat.add_right_comm] using ih _ (by omega : a ≤ i + 1) (hp.ascending o hs)

theorem filter_tie_insertionLoop (o : StrictWeakOrder lt) (d : Nat → α) {a i : Nat} (h : a ≤ i) (n : Nat) (z : α) :
    (elems (insertionLoop lt a d i n) a (i + n)).filter (tie lt z) = (elems d a (i + n)).filter (tie lt z) := by
  induction n generalizing d i with
  | zero => rfl
  | succ n ih =>
    obtain ⟨p, hp⟩ := insertDown_inserted lt d h
    rw [insertionLoop, show i + (n + 1) = i + 1 + n by omega, ih _ (by omega),
      ← elems_append (by omega : a ≤ i + 1) (by omega : i + 1 ≤ i + 1 + n),
      ← elems_append (by omega : a ≤ i + 1) (by omega : i + 1 ≤ i + 1 + n), List.filter_append, List.filter_append,
      hp.filter_tie o, elems_congr fun k hk _ => hp.frame k (.inr (by omega))]

/-! ## The sort -/

theorem segPerm_insertionSortFunc (d : Nat → α) (a b : Nat) : SegPerm a b d (insertionSortFunc lt d a b) := by
  by_cases h : a < b
  · simpa [show a + 1 + (b - (a + 1)) = b by omega] using segPerm_insertionLoop lt d (Nat.le_succ a) (b - (a + 1))
  · rw [insertionSortFunc, show b - (a + 1) = 0 by omega]; exact .refl _ _ _

theorem ascending_insertionSortFunc (o : StrictWeakOrder lt) (d : Nat → α) (a b : Nat) :
    Ascending lt (insertionSortFunc lt d a b) a b := by
  by_cases h : a < b
  · have hs : Ascending lt d a (a + 1) := fun i j _ hij hj => absurd hij (by omega)
    simpa [show a + 1 + (b - (a + 1)) = b by omega] using
      ascending_insertionLoop o d (Nat.le_succ a) hs (b - (a + 1))
  · exact fun i j hi hij hj => absurd hj (by omega)

/-- **Insertion sort keeps ties in order**: the elements tied with any one
element come out in the order they went in. -/
theorem filter_tie_insertionSortFunc (o : StrictWeakOrder lt) (d : Nat → α) (a b : Nat) (z : α) :
    (elems (insertionSortFunc lt d a b) a b).filter (tie lt z) = (elems d a b).filter (tie lt z) := by
  by_cases h : a < b
  · simpa [show a + 1 + (b - (a + 1)) = b by omega] using
      filter_tie_insertionLoop o d (Nat.le_succ a) (b - (a + 1)) z
  · rw [insertionSortFunc, show b - (a + 1) = 0 by omega]; rfl

/-! ## `partialInsertionSort_func` -/

/-- The right shift of `partialInsertionSort_func` from `j`, at most
`n = b - j` steps: `for ; j < b; j++ { if !data.Less(j, j-1) { break }; data.Swap(j, j-1) }`. -/
def shiftUp (lt : α → α → Bool) (d : Nat → α) (j : Nat) : (n : Nat) → Nat → α
  | 0 => d
  | n + 1 => if !lt (d j) (d (j - 1)) then d else shiftUp lt (swap d j (j - 1)) (j + 1) n

/-- One turn's moves in `partialInsertionSort_func` at the pair `i - 1, i`
found out of order: swap the pair, shift the smaller element left (Go's
`for j := i - 1; j >= 1; j--`, `insertDown` down to index `0`) and the
greater right. -/
def shiftPair (lt : α → α → Bool) (a b : Nat) (d : Nat → α) (i : Nat) : Nat → α :=
  let d := swap d i (i - 1)
  let d := if 2 ≤ i - a then insertDown lt d (i - 1) (i - 1) else d
  if 2 ≤ b - i then shiftUp lt d (i + 1) (b - (i + 1)) else d

/-- `partialInsertionSort_func(data, a, b)` from `i`, with `steps` of its
`maxSteps = 5` left: scan to the next pair out of order; none means the
range is sorted; on ranges shorter than `shortestShifting = 50` give up;
else shift the pair apart and go on. -/
def partialInsertionLoop (lt : α → α → Bool) (a b : Nat) (d : Nat → α) (i : Nat) :
    (steps : Nat) → Bool × (Nat → α)
  | 0 => (false, d)
  | steps + 1 =>
    let i := scanUp (fun k => !lt (d k) (d (k - 1))) i (b - i)
    if i = b then (true, d)
    else if b - a < 50 then (false, d)
    else partialInsertionLoop lt a b (shiftPair lt a b d i) i steps

/-- `partialInsertionSort_func(data, a, b)`: whether the range is now
sorted, and the data. -/
def partialInsertionSortFunc (lt : α → α → Bool) (d : Nat → α) (a b : Nat) : Bool × (Nat → α) :=
  partialInsertionLoop lt a b d (a + 1) 5

/-- No element of `[a, b)` is less than `data[a-1]`, if there is one: what
`pdqsort_func` keeps of each range it sorts. -/
def LowerBound (lt : α → α → Bool) (d : Nat → α) (a b : Nat) : Prop :=
  0 < a → ∀ k, a ≤ k → k < b → lt (d k) (d (a - 1)) = false

theorem LowerBound.segPerm {d d' : Nat → α} {a b : Nat} (h : LowerBound lt d a b) (hs : SegPerm a b d d') :
    LowerBound lt d' a b := fun ha k hk hkb => by
  rw [hs.frame (a - 1) (.inl (by omega))]
  exact hs.forall_mem (p := fun x => lt x (d (a - 1)) = false) (h ha) ⟨hk, hkb⟩

theorem LowerBound.mono {d : Nat → α} {a b b' : Nat} (h : LowerBound lt d a b) (hb : b' ≤ b) : LowerBound lt d a b' :=
  fun ha k hk hkb => h ha k hk (by omega)

theorem segPerm_shiftUp (lt : α → α → Bool) (d : Nat → α) {i b j : Nat} (hj : i < j) (n : Nat) (hn : j + n ≤ b) :
    SegPerm i b d (shiftUp lt d j n) := by
  induction n generalizing d j with
  | zero => exact .refl _ _ _
  | succ n ih =>
    rw [shiftUp]
    split
    · exact .refl _ _ _
    · exact (SegPerm.swap (by omega) (by omega)).trans (ih _ (by omega) (by omega))

/-- One turn's moves permute `data[:b]`, whatever `less` is. -/
theorem segPerm_shiftPair (lt : α → α → Bool) (d : Nat → α) {a b i : Nat} (hi : 0 < i ∧ i < b) :
    SegPerm 0 b d (shiftPair lt a b d i) := by
  have h1 : SegPerm 0 b d (swap d i (i - 1)) := .swap (by omega) (by omega)
  simp only [shiftPair]
  generalize swap d i (i - 1) = D1 at h1
  have h2 : SegPerm 0 b D1 (if 2 ≤ i - a then insertDown lt D1 (i - 1) (i - 1) else D1) := by
    split
    · obtain ⟨p, hp⟩ := insertDown_inserted lt D1 (Nat.zero_le (i - 1))
      exact hp.segPerm.mono le_rfl (by omega)
    · exact .refl _ _ _
  generalize (if 2 ≤ i - a then insertDown lt D1 (i - 1) (i - 1) else D1) = D2 at h2
  refine h1.trans (h2.trans ?_)
  split
  · exact (segPerm_shiftUp lt D2 (i := i) (by omega) _ (by omega)).mono (Nat.zero_le _) le_rfl
  · exact .refl _ _ _

theorem segPerm_partialInsertionLoop (lt : α → α → Bool) (d : Nat → α) {a b i : Nat} (hi : 0 < i ∧ i ≤ b)
    (steps : Nat) : SegPerm 0 b d (partialInsertionLoop lt a b d i steps).2 := by
  induction steps generalizing d i with
  | zero => exact .refl _ _ _
  | succ steps ih =>
    obtain ⟨u1, u2, -, -⟩ := scanUp_spec (fun k => !lt (d k) (d (k - 1))) i (b - i)
    rw [partialInsertionLoop]
    generalize scanUp (fun k => !lt (d k) (d (k - 1))) i (b - i) = i' at u1 u2
    split_ifs
    · exact .refl _ _ _
    · exact .refl _ _ _
    · exact (segPerm_shiftPair lt d (by omega)).trans (ih _ (by omega))

/-- **`partialInsertionSort_func` permutes `data[:b]`**, whatever `less` is. -/
theorem segPerm_partialInsertionSortFunc (lt : α → α → Bool) (d : Nat → α) {a b : Nat} (h : a < b) :
    SegPerm 0 b d (partialInsertionSortFunc lt d a b).2 :=
  segPerm_partialInsertionLoop lt d (by omega) 5

section Order

variable (o : StrictWeakOrder lt)
include o

/-- One turn's moves, under the lower bound: they permute `data[a:b]`, and
`[a, i)` is in order after them. -/
theorem shiftPair_spec {d : Nat → α} {a b i : Nat} (hlow : LowerBound lt d a b) (hi : a < i ∧ i < b)
    (hs : Ascending lt d a i) :
    SegPerm a b d (shiftPair lt a b d i) ∧ Ascending lt (shiftPair lt a b d i) a i := by
  have h1 : SegPerm a b d (swap d i (i - 1)) := .swap (by omega) (by omega)
  have hasc : Ascending lt (swap d i (i - 1)) a (i - 1) := fun x y hx hxy hy => by
    rw [swap_apply_of_ne (by omega) (by omega), swap_apply_of_ne (by omega) (by omega)]
    exact hs x y hx hxy (by omega)
  have hmoved : swap d i (i - 1) (i - 1) = d i := swap_apply_right _ _ _
  have hbelow : ∀ k, k < i - 1 → swap d i (i - 1) k = d k := fun k hk => swap_apply_of_ne (by omega) (by omega)
  simp only [shiftPair]
  generalize swap d i (i - 1) = D1 at h1 hasc hmoved hbelow
  have h2 : SegPerm a i D1 (if 2 ≤ i - a then insertDown lt D1 (i - 1) (i - 1) else D1) ∧
      Ascending lt (if 2 ≤ i - a then insertDown lt D1 (i - 1) (i - 1) else D1) a i := by
    split
    · obtain ⟨p, hp⟩ := insertDown_inserted lt D1 (Nat.zero_le (i - 1))
      -- the element shifted left stops at `a`, for `data[a-1]` is not greater than it
      have hpa : a ≤ p := by
        by_contra hpa
        have := (hp.shifted a (by omega) (by omega)).2
        rw [hmoved, hbelow _ (by omega), hlow (by omega) i (by omega) (by omega)] at this
        cases this
      have hp' : InsertedAt lt D1 _ a (i - 1) p :=
        ⟨⟨hpa, hp.bounds.2⟩, hp.at_p, hp.shifted, hp.frame, fun _ => hp.stop (by omega)⟩
      rw [show i = i - 1 + 1 by omega]
      exact ⟨hp'.segPerm, hp'.ascending o hasc⟩
    · exact ⟨.refl _ _ _, fun x y hx hxy hy => absurd hy (by omega)⟩
  generalize (if 2 ≤ i - a then insertDown lt D1 (i - 1) (i - 1) else D1) = D2 at h2
  have h3 : SegPerm i b D2 (if 2 ≤ b - i then shiftUp lt D2 (i + 1) (b - (i + 1)) else D2) := by
    split
    · exact segPerm_shiftUp lt D2 (by omega) _ (by omega)
    · exact .refl _ _ _
  generalize (if 2 ≤ b - i then shiftUp lt D2 (i + 1) (b - (i + 1)) else D2) = D3 at h3
  refine ⟨h1.trans ((h2.1.mono le_rfl (by omega)).trans (h3.mono (by omega) le_rfl)), fun x y hx hxy hy => ?_⟩
  rw [h3.frame x (.inl (by omega)), h3.frame y (.inl hy)]
  exact h2.2 x y hx hxy hy

theorem partialInsertionLoop_spec {d : Nat → α} {a b i : Nat} (steps : Nat) (hlow : LowerBound lt d a b)
    (hi : a < i ∧ i ≤ b) (hs : Ascending lt d a i) :
    SegPerm a b d (partialInsertionLoop lt a b d i steps).2 ∧
      ((partialInsertionLoop lt a b d i steps).1 = true → Ascending lt (partialInsertionLoop lt a b d i steps).2 a b) := by
  induction steps generalizing d i with
  | zero => exact ⟨.refl _ _ _, fun h => absurd h (by simp [partialInsertionLoop])⟩
  | succ steps ih =>
    obtain ⟨u1, u2, u3, -⟩ := scanUp_spec (fun k => !lt (d k) (d (k - 1))) i (b - i)
    rw [partialInsertionLoop]
    generalize scanUp (fun k => !lt (d k) (d (k - 1))) i (b - i) = i' at u1 u2 u3
    have hs' : Ascending lt d a i' := hs.extend o fun k h1 h2 => by simpa using u3 k h1 h2
    split_ifs with hb h50
    · subst hb; exact ⟨.refl _ _ _, fun _ => hs'⟩
    · exact ⟨.refl _ _ _, fun h => absurd h (by simp)⟩
    · obtain ⟨hseg, hasc⟩ := shiftPair_spec o hlow ⟨by omega, by omega⟩ hs'
      obtain ⟨ih1, ih2⟩ := ih (hlow.segPerm hseg) ⟨by omega, by omega⟩ hasc
      exact ⟨hseg.trans ih1, ih2⟩

/-- **Under the lower bound, `partialInsertionSort_func` permutes
`data[a:b]`, and when it reports the range sorted, it is.** -/
theorem partialInsertionSortFunc_spec {d : Nat → α} {a b : Nat} (hlow : LowerBound lt d a b) (h : a < b) :
    SegPerm a b d (partialInsertionSortFunc lt d a b).2 ∧
      ((partialInsertionSortFunc lt d a b).1 = true → Ascending lt (partialInsertionSortFunc lt d a b).2 a b) :=
  partialInsertionLoop_spec o 5 hlow ⟨Nat.lt_succ_self a, h⟩ fun _ _ hx hxy hy => absurd hxy (by omega)

end Order

end Bytebase.Go
