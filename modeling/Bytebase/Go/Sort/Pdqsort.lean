import Bytebase.Go.Sort.Insertion
import Bytebase.Go.Sort.Heap
import Bytebase.Go.Sort.Partition
import Bytebase.Go.Sort.Pivot

/-!
# Go — `pdqsort_func` and `sort.Slice`

`sort.Slice(x, less)` runs `pdqsort_func(data, 0, n, bits.Len(n))`, a
pattern-defeating quicksort. Each turn of its loop insertion-sorts a
range of at most `maxInsertion = 12` elements and returns; falls back to
heap sort once `limit` bad pivots are spent; otherwise picks a pivot,
maybe finishes a range that looks sorted, and partitions, sorting the
smaller side by recursion and looping on the other. After a pivot not
greater than `data[a-1]` it splits off the pivot's equals instead
(`partitionEqual_func`), which are then in place.

`pdqsortLoop` is the loop and the recursion on one `fuel`: every turn
that goes on shrinks the range, so `b - a` turns are enough, and
`sliceSort` gives `n`.

The results, on lists (`sortSlice`): the output is a permutation of the
input whatever `less` is (`sortSlice_perm`); it is in order when `less`
is a strict weak order (`sortSlice_sorted`); and on at most twelve
elements ties keep their order (`sortSlice_filter_tie`), but not beyond:
the sort is not stable.
-/

namespace Bytebase.Go

variable {α : Type}

/-- What a turn of `pdqsort_func` has when it comes to partition: whether
`partialInsertionSort_func` finished the range, the data, the pivot, and
the limit. -/
structure Turn (α : Type) where
  sorted : Bool
  data : Nat → α
  pivot : Nat
  limit : Nat

/-- The start of a turn of `pdqsort_func`: break patterns after an
unbalanced partition, choose the pivot, reverse a range seen descending,
and try to finish a range seen ascending after a balanced partition that
moved nothing. -/
def turnStart (lt : α → α → Bool) (d : Nat → α) (a b limit : Nat) (wasBalanced wasPartitioned : Bool) : Turn α :=
  let (d, limit) := if !wasBalanced then (breakPatternsFunc d a b, limit - 1) else (d, limit)
  let (pivot, hint) := choosePivotFunc lt d a b
  let (d, pivot, hint) :=
    if hint = .decreasing then (reverseRangeFunc d a b, (b - 1) - (pivot - a), SortedHint.increasing)
    else (d, pivot, hint)
  let (sorted, d) :=
    if wasBalanced && wasPartitioned && hint == .increasing then partialInsertionSortFunc lt d a b
    else (false, d)
  ⟨sorted, d, pivot, limit⟩

/-- `pdqsort_func(data, a, b, limit)` with the loop's `wasBalanced` and
`wasPartitioned`, for `fuel` more turns and levels of recursion. -/
def pdqsortLoop (lt : α → α → Bool) :
    (fuel : Nat) → (d : Nat → α) → (a b limit : Nat) → (wasBalanced wasPartitioned : Bool) → Nat → α
  | 0, d, _, _, _, _, _ => d
  | fuel + 1, d, a, b, limit, wasBalanced, wasPartitioned =>
    let length := b - a
    if length ≤ 12 then insertionSortFunc lt d a b
    else if limit = 0 then heapSortFunc lt d a b
    else
      let t := turnStart lt d a b limit wasBalanced wasPartitioned
      if t.sorted then t.data
      else if 0 < a && !lt (t.data (a - 1)) (t.data t.pivot) then
        let (mid, d) := partitionEqualFunc lt t.data a b t.pivot
        pdqsortLoop lt fuel d mid b t.limit wasBalanced wasPartitioned
      else
        let (mid, alreadyPartitioned, d) := partitionFunc lt t.data a b t.pivot
        let leftLen := mid - a
        let rightLen := b - mid
        let balanceThreshold := length / 8
        if leftLen < rightLen then
          let d := pdqsortLoop lt fuel d a mid t.limit true true
          pdqsortLoop lt fuel d (mid + 1) b t.limit (balanceThreshold ≤ leftLen) alreadyPartitioned
        else
          let d := pdqsortLoop lt fuel d (mid + 1) b t.limit true true
          pdqsortLoop lt fuel d a mid t.limit (balanceThreshold ≤ rightLen) alreadyPartitioned

/-- `sort.Slice(x, less)` on a slice of `n` elements:
`pdqsort_func(lessSwap{less, swap}, 0, n, bits.Len(uint(n)))`. -/
def sliceSort (lt : α → α → Bool) (d : Nat → α) (n : Nat) : Nat → α :=
  pdqsortLoop lt n d 0 n (bitsLen n) true true

/-- `sort.Slice` on a list: the list as a slice, sorted in place, read back. -/
def sortSlice (lt : α → α → Bool) : List α → List α
  | [] => []
  | x :: xs => elems (sliceSort lt (fun k => (x :: xs).getD k x) (xs.length + 1)) 0 (xs.length + 1)

/-! ## The start of a turn -/

/-- What the start of a turn can do: permute the range, pick a pivot in
it, and either hand the result to `partialInsertionSort_func` or not. -/
theorem turnStart_cases (lt : α → α → Bool) (d : Nat → α) {a b : Nat} (limit : Nat) (wb wp : Bool) (hab : a < b) :
    ∃ d', SegPerm a b d d' ∧ a ≤ (turnStart lt d a b limit wb wp).pivot ∧ (turnStart lt d a b limit wb wp).pivot < b ∧
      (((turnStart lt d a b limit wb wp).sorted, (turnStart lt d a b limit wb wp).data) = partialInsertionSortFunc lt d' a b ∨
        (turnStart lt d a b limit wb wp).sorted = false ∧ (turnStart lt d a b limit wb wp).data = d') := by
  simp only [turnStart]
  have h1 : SegPerm a b d (if !wb then (breakPatternsFunc d a b, limit - 1) else (d, limit)).1 := by
    split
    · exact segPerm_breakPatternsFunc d a b
    · exact .refl _ _ _
  generalize (if !wb then (breakPatternsFunc d a b, limit - 1) else (d, limit)) = s1 at h1 ⊢
  obtain ⟨d1, l1⟩ := s1
  have hp := choosePivotFunc_mem lt d1 hab
  generalize choosePivotFunc lt d1 a b = s2 at hp ⊢
  obtain ⟨p1, hint⟩ := s2
  dsimp only at hp ⊢
  by_cases hh : hint = .decreasing
  · simp only [hh, if_true]
    exact ⟨_, h1.trans (segPerm_reverseRangeFunc d1 hab), by omega, by omega, by split <;> simp⟩
  · simp only [hh, if_false]
    exact ⟨_, h1, hp.1, hp.2, by split <;> simp⟩

/-- The start of a turn permutes `data[:b]`, whatever `less` is. -/
theorem turnStart_segPerm (lt : α → α → Bool) (d : Nat → α) {a b : Nat} (limit : Nat) (wb wp : Bool) (hab : a < b) :
    SegPerm 0 b d (turnStart lt d a b limit wb wp).data ∧ a ≤ (turnStart lt d a b limit wb wp).pivot ∧
      (turnStart lt d a b limit wb wp).pivot < b := by
  obtain ⟨d', hd', hp1, hp2, hc | ⟨-, hc⟩⟩ := turnStart_cases lt d limit wb wp hab
  · refine ⟨(hd'.mono (Nat.zero_le a) le_rfl).trans ?_, hp1, hp2⟩
    rw [show (turnStart lt d a b limit wb wp).data = (partialInsertionSortFunc lt d' a b).2 by rw [← hc]]
    exact segPerm_partialInsertionSortFunc lt d' hab
  · exact ⟨hc ▸ hd'.mono (Nat.zero_le a) le_rfl, hp1, hp2⟩

/-! ## The loop permutes, whatever `less` is -/

theorem segPerm_pdqsortLoop (lt : α → α → Bool) (fuel : Nat) (d : Nat → α) {a b : Nat} (limit : Nat) (wb wp : Bool)
    (hab : a ≤ b) : SegPerm 0 b d (pdqsortLoop lt fuel d a b limit wb wp) := by
  induction fuel generalizing d a b limit wb wp with
  | zero => exact .refl _ _ _
  | succ fuel ih =>
    rw [pdqsortLoop]
    dsimp only
    split_ifs with h12 hl0 hs hpe
    · exact (segPerm_insertionSortFunc d a b).mono (Nat.zero_le a) le_rfl
    · exact (segPerm_heapSortFunc d hab).mono (Nat.zero_le a) le_rfl
    all_goals
      obtain ⟨ht, hp1, hp2⟩ := turnStart_segPerm lt d limit wb wp (by omega : a < b)
      generalize turnStart lt d a b limit wb wp = t at ht hp1 hp2 ⊢
    · exact ht
    · obtain ⟨hseg, -, hpe⟩ := partitionEqualFunc_spec lt t.data ⟨hp1, hp2⟩
      generalize partitionEqualFunc lt t.data a b t.pivot = r at hseg hpe ⊢
      obtain ⟨mid, D⟩ := r
      exact ht.trans ((hseg.mono (Nat.zero_le a) le_rfl).trans (ih D t.limit wb wp hpe.bounds.2))
    all_goals
      obtain ⟨hseg, hp⟩ := partitionFunc_spec lt t.data ⟨hp1, hp2⟩
      generalize partitionFunc lt t.data a b t.pivot = r at hseg hp ⊢
      obtain ⟨mid, ap, D⟩ := r
      have hm := hp.bounds
      refine ht.trans ((hseg.mono (Nat.zero_le a) le_rfl).trans ?_)
    · exact ((ih D _ _ _ hm.1).mono le_rfl (by omega)).trans (ih _ _ _ _ (by omega))
    · exact (ih D _ _ _ (by omega)).trans ((ih _ _ _ _ hm.1).mono le_rfl (by omega))

/-! ## The loop sorts, when `less` is a strict weak order -/

/-- The right side of a partition is bounded below by the pivot. -/
theorem Partitioned.lowerBound_right {lt : α → α → Bool} {D : Nat → α} {a mid b : Nat}
    (hp : Partitioned lt D a mid b) : LowerBound lt D (mid + 1) b :=
  fun _ k hk hkb => by rw [Nat.add_sub_cancel]; exact hp.right k hk hkb

section Order

variable {lt : α → α → Bool} (o : StrictWeakOrder lt)
include o

/-- Under the lower bound, the start of a turn permutes `data[a:b]`, and
when it reports the range sorted, it is. -/
theorem turnStart_spec {d : Nat → α} {a b : Nat} (limit : Nat) (wb wp : Bool) (hlow : LowerBound lt d a b)
    (hab : a < b) :
    SegPerm a b d (turnStart lt d a b limit wb wp).data ∧
      ((turnStart lt d a b limit wb wp).sorted = true → Ascending lt (turnStart lt d a b limit wb wp).data a b) ∧
      a ≤ (turnStart lt d a b limit wb wp).pivot ∧ (turnStart lt d a b limit wb wp).pivot < b := by
  obtain ⟨d', hd', hp1, hp2, hc | ⟨hc1, hc⟩⟩ := turnStart_cases lt d limit wb wp hab
  · obtain ⟨h1, h2⟩ := partialInsertionSortFunc_spec o (hlow.segPerm hd') hab
    rw [← hc] at h1 h2
    exact ⟨hd'.trans h1, h2, hp1, hp2⟩
  · rw [hc]
    exact ⟨hd', fun h => absurd (hc1.symm.trans h) Bool.false_ne_true, hp1, hp2⟩

/-- After a pivot not greater than `data[a-1]`: the pivot's equals, split
off by `partitionEqual_func`, are all tied with the pivot, and the rest of
the range keeps a lower bound. -/
theorem PartitionedEqual.tie_of_lowerBound {D : Nat → α} {a mid b : Nat} (hpe : PartitionedEqual lt D a mid b)
    (hlow : LowerBound lt D a b) (ha : 0 < a) (hpiv : lt (D (a - 1)) (D a) = false) :
    (∀ k, a ≤ k → k < mid → tie lt (D a) (D k) = true) ∧ LowerBound lt D mid b := by
  have hm := hpe.bounds
  have htie : ∀ k, a ≤ k → k < mid → tie lt (D a) (D k) = true := fun k hk hkm => by
    refine tie_eq_true.2 ⟨?_, o.not_lt_trans hpiv (hlow ha k hk (by omega))⟩
    rcases Nat.eq_or_lt_of_le hk with rfl | hk
    · exact o.irrefl _
    · exact hpe.left k hk hkm
  refine ⟨htie, fun _ k hk hkb => o.not_lt_of_lt_of_not_lt (hpe.right k hk hkb) ?_⟩
  exact (tie_eq_true.1 (htie (mid - 1) (by omega) (by omega))).1

theorem pdqsortLoop_spec (fuel : Nat) {d : Nat → α} {a b : Nat} (limit : Nat) (wb wp : Bool) (hf : b - a ≤ fuel)
    (hab : a ≤ b) (hlow : LowerBound lt d a b) :
    SegPerm a b d (pdqsortLoop lt fuel d a b limit wb wp) ∧ Ascending lt (pdqsortLoop lt fuel d a b limit wb wp) a b := by
  induction fuel generalizing d a b limit wb wp with
  | zero => exact ⟨.refl _ _ _, fun i j hi hij hj => absurd hj (by omega)⟩
  | succ fuel ih =>
    rw [pdqsortLoop]
    dsimp only
    split_ifs with h12 hl0 hs hpe
    · exact ⟨segPerm_insertionSortFunc d a b, ascending_insertionSortFunc o d a b⟩
    · exact ⟨segPerm_heapSortFunc d hab, ascending_heapSortFunc o d hab⟩
    all_goals
      obtain ⟨ht, hsorted, hp1, hp2⟩ := turnStart_spec o limit wb wp hlow (by omega : a < b)
      have hlowT := hlow.segPerm ht
      generalize turnStart lt d a b limit wb wp = t at *
    · exact ⟨ht, hsorted hs⟩
    · -- the pivot's equals are in place; sort the rest
      simp only [Bool.and_eq_true, decide_eq_true_eq, Bool.not_eq_true'] at hpe
      obtain ⟨hseg, hpiv, hpe'⟩ := partitionEqualFunc_spec lt t.data ⟨hp1, hp2⟩
      generalize partitionEqualFunc lt t.data a b t.pivot = r at hseg hpiv hpe' ⊢
      obtain ⟨mid, D⟩ := r
      dsimp only at hseg hpiv hpe' ⊢
      have hm := hpe'.bounds
      have hpivD : lt (D (a - 1)) (D a) = false := by rw [hpiv, hseg.frame _ (.inl (by omega))]; exact hpe.2
      obtain ⟨htie, hlowR⟩ := hpe'.tie_of_lowerBound o (hlowT.segPerm hseg) hpe.1 hpivD
      obtain ⟨ih1, ih2⟩ := ih (d := D) t.limit wb wp (by omega) hm.2 hlowR
      exact ⟨ht.trans (hseg.trans (ih1.mono (by omega) le_rfl)), hpe'.ascending o htie ih1 ih2⟩
    all_goals
      obtain ⟨hseg, hp⟩ := partitionFunc_spec lt t.data ⟨hp1, hp2⟩
      generalize partitionFunc lt t.data a b t.pivot = r at *
      obtain ⟨mid, ap, D⟩ := r
      dsimp only at *
      have hm := hp.bounds
      have hlowD := hlowT.segPerm hseg
      refine (fun h => ⟨ht.trans (hseg.trans h.1), h.2⟩ : SegPerm a b D _ ∧ Ascending lt _ a b → _) ?_
    · -- the left side first, then the right
      obtain ⟨hL1, hL2⟩ := ih (d := D) t.limit true true (by omega) hm.1 (hlowD.mono hm.2.le)
      generalize pdqsortLoop lt fuel D a mid t.limit true true = DL at hL1 hL2 ⊢
      have hpL := hp.segPerm_left hL1
      obtain ⟨hR1, hR2⟩ := ih (d := DL) t.limit _ ap (by omega) (by omega) hpL.lowerBound_right
      exact ⟨(hL1.mono le_rfl (by omega)).trans (hR1.mono (by omega) le_rfl),
        (hpL.segPerm_right hR1).ascending o (hL2.congr fun k _ hk => hR1.frame k (.inl (by omega))) hR2⟩
    · -- the right side first, then the left
      obtain ⟨hR1, hR2⟩ := ih (d := D) t.limit true true (by omega) (by omega) hp.lowerBound_right
      generalize pdqsortLoop lt fuel D (mid + 1) b t.limit true true = DR at hR1 hR2 ⊢
      obtain ⟨hL1, hL2⟩ := ih (d := DR) t.limit _ ap (by omega) hm.1
        ((hlowD.segPerm (hR1.mono (by omega) le_rfl)).mono hm.2.le)
      exact ⟨(hR1.mono (by omega) le_rfl).trans (hL1.mono le_rfl (by omega)),
        ((hp.segPerm_right hR1).segPerm_left hL1).ascending o hL2
          (hR2.congr fun k hk _ => hL1.frame k (.inr (by omega)))⟩

end Order

/-! ## `sort.Slice` on lists -/

/-- A list read as a slice and back. -/
theorem elems_getD (x : α) (l : List α) : elems (fun k => l.getD k x) 0 l.length = l := by
  refine List.ext_getElem (length_elems _ _ _) fun i h1 h2 => ?_
  simp [elems, List.getD_eq_getElem?_getD, List.getElem?_eq_getElem h2]

/-- On at most twelve elements `pdqsort_func` is one insertion sort. -/
theorem pdqsortLoop_of_le (lt : α → α → Bool) (fuel : Nat) (d : Nat → α) {a b : Nat} (limit : Nat) (wb wp : Bool)
    (h : b - a ≤ 12) : pdqsortLoop lt (fuel + 1) d a b limit wb wp = insertionSortFunc lt d a b := by
  rw [pdqsortLoop]
  exact if_pos h

/-- **`sort.Slice` permutes the slice**, whatever `less` is. -/
theorem sortSlice_perm (lt : α → α → Bool) (l : List α) : (sortSlice lt l).Perm l := by
  cases l with
  | nil => exact .refl _
  | cons x xs =>
    have h := (segPerm_pdqsortLoop lt (xs.length + 1) (fun k => (x :: xs).getD k x) (bitsLen (xs.length + 1)) true true
      (Nat.zero_le (xs.length + 1))).perm
    rw [show elems (fun k => (x :: xs).getD k x) 0 (xs.length + 1) = x :: xs from elems_getD x (x :: xs)] at h
    exact h

section Order

variable {lt : α → α → Bool} (o : StrictWeakOrder lt)
include o

/-- **`sort.Slice` sorts** when `less` is a strict weak order: no element
is less than one before it. -/
theorem sortSlice_sorted (l : List α) : (sortSlice lt l).Sorted fun x y => lt y x = false := by
  cases l with
  | nil => exact List.sorted_nil
  | cons x xs =>
    exact (pdqsortLoop_spec o (xs.length + 1) (d := fun k => (x :: xs).getD k x) (bitsLen (xs.length + 1)) true true
      (by omega) (Nat.zero_le _) fun h => absurd h (Nat.lt_irrefl 0)).2.sorted

example : sortSlice (fun x y : Nat => decide (x < y)) [5, 3, 9, 1, 4, 1, 8, 2, 7, 6, 0, 3, 5, 9, 2] =
    [0, 1, 1, 2, 2, 3, 3, 4, 5, 5, 6, 7, 8, 9, 9] := by decide

/-- **On at most twelve elements `sort.Slice` keeps ties in order**: the
elements tied with any one element come out in the order they went in. -/
theorem sortSlice_filter_tie (l : List α) (h : l.length ≤ 12) (z : α) :
    (sortSlice lt l).filter (tie lt z) = l.filter (tie lt z) := by
  cases l with
  | nil => rfl
  | cons x xs =>
    have := filter_tie_insertionSortFunc o (fun k => (x :: xs).getD k x) 0 (xs.length + 1) z
    rw [← pdqsortLoop_of_le lt xs.length _ (a := 0) (b := xs.length + 1) (bitsLen (xs.length + 1)) true true
      (by simpa using h), show elems (fun k => (x :: xs).getD k x) 0 (xs.length + 1) = x :: xs from
      elems_getD x (x :: xs)] at this
    exact this

end Order

end Bytebase.Go
