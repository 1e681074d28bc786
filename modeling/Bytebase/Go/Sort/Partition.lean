import Bytebase.Go.Sort.Slice

/-!
# Go — `partition_func` and `partitionEqual_func`

Both put the pivot at `a` and run the same loop on `[a+1, b)`: `i` scans
up over the elements of the left kind, `j` scans down over those of the
right kind, and while the scans have not crossed the two found are
swapped. `partition_func` splits into "less than the pivot" and "not
less", then swaps the pivot between the two parts; `partitionEqual_func`
splits into "not greater than the pivot" and "greater", with the pivot
left at `a`.

The loop is `crossLoop`, given `q`, the test of the left kind. Go's loops
compare with `data[a]`, which holds the pivot all along, since the loop
swaps only inside `[a+1, b)`: `q` reads it once. Each scan is given
`j + 1 - i` steps and the loop `b - a` turns, enough that neither is cut
short (`crossLoop_spec`). `CrossInv` is the loop's invariant; `Partitioned`
and `PartitionedEqual` say what each function leaves.
-/

namespace Bytebase.Go

variable {α : Type}

/-- The two scans that open each turn of both partitions' loops: `i` up
over the elements `q` holds of, then `j` down over those it does not. -/
def scanRound (q : α → Bool) (d : Nat → α) (i j : Nat) : Nat × Nat :=
  let i := scanUp (fun k => q (d k)) i (j + 1 - i)
  (i, scanDown (fun k => !q (d k)) j (j + 1 - i))

/-- The loop both partitions share, for `fuel` more swaps: scan; stop once
the scans have crossed (`i > j`); else `data.Swap(i, j); i++; j--` and go
on. It returns the final `i`, `j` and data. -/
def crossLoop (q : α → Bool) (fuel : Nat) (d : Nat → α) (i j : Nat) : Nat × Nat × (Nat → α) :=
  let r := scanRound q d i j
  if r.2 < r.1 then (r.1, r.2, d)
  else match fuel with
    | 0 => (r.1, r.2, d)
    | fuel + 1 => crossLoop q fuel (swap d r.1 r.2) (r.1 + 1) (r.2 - 1)

/-- `partition_func(data, a, b, pivot)`: the pivot's new index `mid`,
whether the first scans already crossed (no swap was needed), and the data. -/
def partitionFunc (lt : α → α → Bool) (d : Nat → α) (a b pivot : Nat) : Nat × Bool × (Nat → α) :=
  let d := swap d a pivot
  let q := fun x => lt x (d a)
  let r := scanRound q d (a + 1) (b - 1)
  if r.2 < r.1 then (r.2, true, swap d r.2 a)
  else
    let s := crossLoop q (b - a) (swap d r.1 r.2) (r.1 + 1) (r.2 - 1)
    (s.2.1, false, swap s.2.2 s.2.1 a)

/-- `partitionEqual_func(data, a, b, pivot)`: the index `i` where the
elements greater than the pivot start, and the data. -/
def partitionEqualFunc (lt : α → α → Bool) (d : Nat → α) (a b pivot : Nat) : Nat × (Nat → α) :=
  let d := swap d a pivot
  let s := crossLoop (fun x => !lt (d a) x) (b - a) d (a + 1) (b - 1)
  (s.1, s.2.2)

/-! ## The loop -/

theorem scanRound_bounds (q : α → Bool) (d : Nat → α) (i j : Nat) :
    i ≤ (scanRound q d i j).1 ∧ (scanRound q d i j).2 ≤ j :=
  ⟨(scanUp_spec _ i _).1, scanDown_le _ j _⟩

/-- What both partitions' loops keep: the elements of `[a+1, i)` are of
the left kind (`q`), those of `(j, b)` of the right kind. -/
structure CrossInv (q : α → Bool) (d : Nat → α) (a b i j : Nat) : Prop where
  bounds : a + 1 ≤ i ∧ i ≤ j + 1 ∧ j < b
  left : ∀ k, a + 1 ≤ k → k < i → q (d k) = true
  right : ∀ k, j < k → k < b → q (d k) = false

/-- One round of scans keeps the invariant; the scans either cross, `i`
just past `j`, or stop at an element of each kind, `i` before `j`. -/
theorem CrossInv.scanRound {q : α → Bool} {d : Nat → α} {a b i j : Nat} (h : CrossInv q d a b i j) :
    CrossInv q d a b (scanRound q d i j).1 (scanRound q d i j).2 ∧
      ((scanRound q d i j).2 < (scanRound q d i j).1 → (scanRound q d i j).1 = (scanRound q d i j).2 + 1) ∧
      ((scanRound q d i j).1 ≤ (scanRound q d i j).2 → (scanRound q d i j).1 < (scanRound q d i j).2 ∧
        q (d (scanRound q d i j).1) = false ∧ q (d (scanRound q d i j).2) = true) := by
  obtain ⟨⟨hai, hij, hjb⟩, hl, hr⟩ := h
  obtain ⟨u1, u2, u3, u4⟩ := scanUp_spec (fun k => q (d k)) i (j + 1 - i)
  simp only [Go.scanRound]
  generalize scanUp (fun k => q (d k)) i (j + 1 - i) = i' at u1 u2 u3 u4
  obtain ⟨v1, v2, v3, v4⟩ := scanDown_spec (fun k => !q (d k)) (j := j) (n := j + 1 - i') (by omega)
  generalize scanDown (fun k => !q (d k)) j (j + 1 - i') = j' at v1 v2 v3 v4
  simp only [Bool.not_eq_true', Bool.not_eq_false'] at v3 v4
  refine ⟨⟨⟨by omega, by omega, by omega⟩, fun k h1 h2 => ?_, fun k h1 h2 => ?_⟩, fun _ => by omega, fun hle => ?_⟩
  · by_cases hk : k < i
    · exact hl k h1 hk
    · exact u3 k (by omega) h2
  · by_cases hk : k ≤ j
    · simpa using v3 k h1 hk
    · exact hr k (by omega) h2
  · have hi' := u4 (by omega)
    have hj' := v4 (by omega)
    refine ⟨Nat.lt_of_le_of_ne hle fun he => ?_, hi', hj'⟩
    rw [he, hj'] at hi'
    cases hi'

/-- The swap of a turn puts each of the two found elements on its own side. -/
theorem CrossInv.swap {q : α → Bool} {d : Nat → α} {a b i j : Nat} (h : CrossInv q d a b i j) (hij : i < j)
    (hi : q (d i) = false) (hj : q (d j) = true) : CrossInv q (Go.swap d i j) a b (i + 1) (j - 1) := by
  obtain ⟨⟨hai, -, hjb⟩, hl, hr⟩ := h
  refine ⟨⟨by omega, by omega, by omega⟩, fun k h1 h2 => ?_, fun k h1 h2 => ?_⟩
  · rcases Nat.lt_or_eq_of_le (Nat.le_of_lt_succ h2) with hk | rfl
    · rw [swap_apply_of_ne (by omega) (by omega)]; exact hl k h1 hk
    · rw [swap_apply_left]; exact hj
  · rcases Nat.lt_or_eq_of_le (show j ≤ k by omega) with hk | rfl
    · rw [swap_apply_of_ne (by omega) (by omega)]; exact hr k hk h2
    · rw [swap_apply_right]; exact hi

/-- **The loop, given a turn for each two elements of `[i, j]`, runs until
the scans cross**, keeping the invariant. -/
theorem crossLoop_spec {q : α → Bool} (fuel : Nat) {d : Nat → α} {a b i j : Nat} (h : CrossInv q d a b i j)
    (hf : j + 1 - i ≤ fuel) :
    CrossInv q (crossLoop q fuel d i j).2.2 a b (crossLoop q fuel d i j).1 (crossLoop q fuel d i j).2.1 ∧
      (crossLoop q fuel d i j).1 = (crossLoop q fuel d i j).2.1 + 1 := by
  obtain ⟨hinv, hcross, hturn⟩ := h.scanRound
  have hb := scanRound_bounds q d i j
  induction fuel generalizing d i j with
  | zero =>
    rw [crossLoop]
    split
    case isTrue hc => exact ⟨hinv, hcross hc⟩
    case isFalse hc => have := hturn (by omega); omega
  | succ fuel ih =>
    rw [crossLoop]
    split
    case isTrue hc => exact ⟨hinv, hcross hc⟩
    case isFalse hc =>
      obtain ⟨hlt, hi, hj⟩ := hturn (by omega)
      have hs := hinv.swap hlt hi hj
      exact ih hs (by omega) hs.scanRound.1 hs.scanRound.2.1 hs.scanRound.2.2 (scanRound_bounds _ _ _ _)

theorem segPerm_crossLoop (q : α → Bool) (fuel : Nat) (d : Nat → α) {a b i j : Nat} (hi : a + 1 ≤ i)
    (hj : j < b) : SegPerm (a + 1) b d (crossLoop q fuel d i j).2.2 := by
  induction fuel generalizing d i j with
  | zero => rw [crossLoop]; split <;> exact .refl _ _ _
  | succ fuel ih =>
    have hb := scanRound_bounds q d i j
    rw [crossLoop]
    split
    · exact .refl _ _ _
    · exact (SegPerm.swap (by omega) (by omega)).trans (ih _ (by omega) (by omega))

/-! ## What the two functions leave -/

/-- What `partition_func` leaves: the pivot at `mid`, the elements of
`[a, mid)` less than it, those of `(mid, b)` not less. -/
structure Partitioned (lt : α → α → Bool) (d : Nat → α) (a mid b : Nat) : Prop where
  bounds : a ≤ mid ∧ mid < b
  left : ∀ k, a ≤ k → k < mid → lt (d k) (d mid) = true
  right : ∀ k, mid < k → k < b → lt (d k) (d mid) = false

/-- What `partitionEqual_func` leaves: the pivot at `a`, the elements of
`(a, mid)` not greater than it, those of `[mid, b)` greater. -/
structure PartitionedEqual (lt : α → α → Bool) (d : Nat → α) (a mid b : Nat) : Prop where
  bounds : a < mid ∧ mid ≤ b
  left : ∀ k, a < k → k < mid → lt (d a) (d k) = false
  right : ∀ k, mid ≤ k → k < b → lt (d a) (d k) = true

variable {lt : α → α → Bool}

/-- The final `data.Swap(j, a)` of `partition_func` puts the pivot between
the two parts. -/
theorem CrossInv.partitioned {d : Nat → α} {a b m : Nat} {p : α}
    (h : CrossInv (fun x => lt x p) d a b (m + 1) m) (hp : d a = p) : Partitioned lt (Go.swap d m a) a m b := by
  obtain ⟨⟨ha, -, hb⟩, hl, hr⟩ := h
  refine ⟨⟨by omega, hb⟩, fun k h1 h2 => ?_, fun k h1 h2 => ?_⟩ <;> rw [swap_apply_left, hp]
  · rcases Nat.eq_or_lt_of_le h1 with rfl | hk
    · rw [swap_apply_right]; exact hl m (by omega) (by omega)
    · rw [swap_apply_of_ne (by omega) (by omega)]; exact hl k hk (by omega)
  · rw [swap_apply_of_ne (by omega) (by omega)]; exact hr k h1 h2

theorem CrossInv.partitionedEqual {d : Nat → α} {a b m : Nat} {p : α}
    (h : CrossInv (fun x => !lt p x) d a b (m + 1) m) (hp : d a = p) : PartitionedEqual lt d a (m + 1) b := by
  obtain ⟨⟨ha, -, hb⟩, hl, hr⟩ := h
  refine ⟨⟨by omega, by omega⟩, fun k h1 h2 => ?_, fun k h1 h2 => ?_⟩ <;> rw [hp]
  · simpa using hl k h1 h2
  · simpa using hr k (by omega) h2

/-- `partition_func` and `partitionEqual_func` start alike: the pivot to
`a`, and nothing yet known of `[a+1, b)`. -/
theorem crossInv_start (q : α → Bool) (d : Nat → α) {a b : Nat} (h : a < b) : CrossInv q d a b (a + 1) (b - 1) :=
  ⟨by omega, fun _ _ h2 => absurd h2 (by omega), fun _ h1 h2 => absurd h2 (by omega)⟩

/-- **`partition_func` permutes `data[a:b]` and partitions it around the
pivot**, whatever `less` is. -/
theorem partitionFunc_spec (lt : α → α → Bool) (d : Nat → α) {a b pivot : Nat} (hp : a ≤ pivot ∧ pivot < b) :
    SegPerm a b d (partitionFunc lt d a b pivot).2.2 ∧
      Partitioned lt (partitionFunc lt d a b pivot).2.2 a (partitionFunc lt d a b pivot).1 b := by
  have hseg : SegPerm a b d (swap d a pivot) := .swap ⟨le_rfl, by omega⟩ hp
  simp only [partitionFunc]
  generalize swap d a pivot = D at hseg ⊢
  obtain ⟨hinv, hcross, hturn⟩ := (crossInv_start (fun x => lt x (D a)) D (by omega : a < b)).scanRound
  have hb := hinv.bounds
  split
  case isTrue hc =>
    rw [hcross hc] at hinv
    exact ⟨hseg.trans (.swap (by omega) (by omega)), hinv.partitioned rfl⟩
  case isFalse hc =>
    obtain ⟨hlt, hi, hj⟩ := hturn (by omega)
    generalize scanRound (fun x => lt x (D a)) D (a + 1) (b - 1) = r at *
    have h1 : SegPerm a b D (swap D r.1 r.2) := .swap (by omega) (by omega)
    obtain ⟨hinv', heq⟩ := crossLoop_spec (b - a) (hinv.swap hlt hi hj) (by omega)
    have hsl := segPerm_crossLoop (fun x => lt x (D a)) (b - a) (swap D r.1 r.2) (a := a) (b := b)
      (i := r.1 + 1) (j := r.2 - 1) (by omega) (by omega)
    generalize crossLoop (fun x => lt x (D a)) (b - a) (swap D r.1 r.2) (r.1 + 1) (r.2 - 1) = s at *
    rw [heq] at hinv'
    have hb' := hinv'.bounds
    have h3 : SegPerm a b s.2.2 (swap s.2.2 s.2.1 a) := .swap (by omega) (by omega)
    refine ⟨hseg.trans ((h1.trans (hsl.mono (by omega) le_rfl)).trans h3), hinv'.partitioned ?_⟩
    rw [hsl.frame a (.inl (by omega)), swap_apply_of_ne (by omega) (by omega)]

/-- **`partitionEqual_func` permutes `data[a:b]` and splits it after the
pivot's equals**, the pivot left at `a`, whatever `less` is. -/
theorem partitionEqualFunc_spec (lt : α → α → Bool) (d : Nat → α) {a b pivot : Nat} (hp : a ≤ pivot ∧ pivot < b) :
    SegPerm a b d (partitionEqualFunc lt d a b pivot).2 ∧ (partitionEqualFunc lt d a b pivot).2 a = d pivot ∧
      PartitionedEqual lt (partitionEqualFunc lt d a b pivot).2 a (partitionEqualFunc lt d a b pivot).1 b := by
  have hseg : SegPerm a b d (swap d a pivot) := .swap ⟨le_rfl, by omega⟩ hp
  have hpiv : swap d a pivot a = d pivot := swap_apply_left _ _ _
  simp only [partitionEqualFunc]
  generalize swap d a pivot = D at hseg hpiv ⊢
  obtain ⟨hinv, heq⟩ := crossLoop_spec (b - a) (crossInv_start (fun x => !lt (D a) x) D (by omega : a < b))
    (by omega)
  have hsl := segPerm_crossLoop (fun x => !lt (D a) x) (b - a) D (a := a) (b := b) (i := a + 1) (j := b - 1) le_rfl
    (by omega)
  rw [heq] at hinv ⊢
  have hDa := hsl.frame a (.inl (by omega))
  exact ⟨hseg.trans (hsl.mono (by omega) le_rfl), hDa.trans hpiv, hinv.partitionedEqual hDa⟩


/-! ## Sorting the sides

`pdqsort_func` sorts each side of a partition apart, in either order. What
a side's sort must not undo: permuting one side keeps the partition, and
a partition whose two sides are in order is in order. -/

section Sides

variable {D D' : Nat → α} {a mid b : Nat}

theorem Partitioned.segPerm_left (hp : Partitioned lt D a mid b) (h : SegPerm a mid D D') :
    Partitioned lt D' a mid b where
  bounds := hp.bounds
  left k hk hkm := by
    rw [h.frame mid (.inr le_rfl)]
    exact h.forall_mem (p := fun x => lt x (D mid) = true) hp.left ⟨hk, hkm⟩
  right k hk hkb := by
    rw [h.frame mid (.inr le_rfl), h.frame k (.inr hk.le)]
    exact hp.right k hk hkb

theorem Partitioned.segPerm_right (hp : Partitioned lt D a mid b) (h : SegPerm (mid + 1) b D D') :
    Partitioned lt D' a mid b where
  bounds := hp.bounds
  left k hk hkm := by
    rw [h.frame mid (.inl (Nat.lt_succ_self mid)), h.frame k (.inl (by omega))]
    exact hp.left k hk hkm
  right k hk hkb := by
    rw [h.frame mid (.inl (Nat.lt_succ_self mid))]
    exact h.forall_mem (p := fun x => lt x (D mid) = false) hp.right ⟨hk, hkb⟩

theorem Partitioned.ascending (o : StrictWeakOrder lt) (hp : Partitioned lt D a mid b) (hl : Ascending lt D a mid)
    (hr : Ascending lt D (mid + 1) b) : Ascending lt D a b :=
  hl.join o hr (fun k hk hkm => o.asymm (hp.left k hk hkm)) hp.right

/-- After `partitionEqual_func`, with `[a, mid)` all tied with the pivot,
sorting `[mid, b)` sorts the range. -/
theorem PartitionedEqual.ascending (o : StrictWeakOrder lt) (hpe : PartitionedEqual lt D a mid b)
    (htie : ∀ k, a ≤ k → k < mid → tie lt (D a) (D k) = true) (h : SegPerm mid b D D') (hr : Ascending lt D' mid b) :
    Ascending lt D' a b := fun i j hi hij hj => by
  have hfr : ∀ k, k < mid → D' k = D k := fun k hk => h.frame k (.inl hk)
  by_cases hjm : j < mid
  · rw [hfr i (by omega), hfr j hjm]
    exact o.not_lt_of_tie (htie j (by omega) hjm) (htie i hi (by omega))
  by_cases him : i < mid
  · rw [hfr i him]
    refine o.not_lt_of_lt_of_not_lt ?_ (tie_eq_true.1 (htie i hi him)).1
    exact h.forall_mem (p := fun x => lt (D a) x = true) hpe.right ⟨by omega, hj⟩
  · exact hr i j (by omega) hij hj

end Sides

end Bytebase.Go
