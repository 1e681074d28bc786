import Bytebase.Go.Sort.Slice

/-!
# Go — `heapSort_func`

`pdqsort_func` falls back to heap sort once it has picked too many bad
pivots. `heapSort_func(data, a, b)` builds a max-heap on `data[a:b]`,
node `k` at index `a + k` with children `2k+1` and `2k+2`, sifting down
each inner node from the last; it then swaps the root (a greatest
element) behind the heap and sifts the new root down, once per element.

Each loop is structural recursion on its turn count. `siftDown_func`'s
loop moves `root` to a child each turn, so `hi - root` turns finish it;
`siftDownFunc` gives it `hi - lo`.

The proofs follow the loops: `SiftOrder` is the heap order with the node
being sifted left out (`.move` for one swap, `.finish` at the stop), and
`PopInv` is the second loop's invariant.
-/

namespace Bytebase.Go

variable {α : Type} {lt : α → α → Bool}

/-- The child `siftDown_func` compares `root` with:
`child := 2*root + 1; if child+1 < hi && data.Less(first+child, first+child+1) { child++ }`. -/
def greaterChild (lt : α → α → Bool) (d : Nat → α) (hi first root : Nat) : Nat :=
  let child := 2 * root + 1
  if child + 1 < hi && lt (d (first + child)) (d (first + child + 1)) then child + 1 else child

/-- The loop of `siftDown_func(data, lo, hi, first)` from node `root`, for
`n` more turns: it stops when `root` has no child in the heap or is not
less than its greater child, and otherwise swaps the two and goes on at
that child. -/
def siftDownLoop (lt : α → α → Bool) (hi first : Nat) (d : Nat → α) (root : Nat) : (n : Nat) → Nat → α
  | 0 => d
  | n + 1 =>
    if hi ≤ 2 * root + 1 then d
    else
      let child := greaterChild lt d hi first root
      if !lt (d (first + root)) (d (first + child)) then d
      else siftDownLoop lt hi first (swap d (first + root) (first + child)) child n

/-- `siftDown_func(data, lo, hi, first)`. -/
def siftDownFunc (lt : α → α → Bool) (d : Nat → α) (lo hi first : Nat) : Nat → α :=
  siftDownLoop lt hi first d lo (hi - lo)

/-- `for i := (hi - 1) / 2; i >= 0; i-- { siftDown_func(data, i, hi, first) }`,
its last `n` turns: `i = n - 1` down to `0`. -/
def heapifyLoop (lt : α → α → Bool) (hi first : Nat) (d : Nat → α) : (n : Nat) → Nat → α
  | 0 => d
  | i + 1 => heapifyLoop lt hi first (siftDownFunc lt d i hi first) i

/-- `for i := hi - 1; i >= 0; i-- { data.Swap(first, first+i); siftDown_func(data, lo, i, first) }`
with `lo = 0`, its last `n` turns: `i = n - 1` down to `0`. -/
def popLoop (lt : α → α → Bool) (first : Nat) (d : Nat → α) : (n : Nat) → Nat → α
  | 0 => d
  | i + 1 => popLoop lt first (siftDownFunc lt (swap d first (first + i)) 0 i first) i

/-- `heapSort_func(data, a, b)`: the first loop runs `(hi - 1) / 2 + 1` turns
(in Go `(hi - 1) / 2` is `0` for `hi = 0`, as it is on `Nat`), the second `hi`. -/
def heapSortFunc (lt : α → α → Bool) (d : Nat → α) (a b : Nat) : Nat → α :=
  let first := a
  let hi := b - a
  popLoop lt first (heapifyLoop lt hi first d ((hi - 1) / 2 + 1)) hi

/-! ## The heap order -/

/-- The nodes `lo` and after of the heap `data[first:first+hi]` are each not
less than their children (the parent of node `k > 0` is `(k - 1) / 2`). -/
def HeapOrdered (lt : α → α → Bool) (d : Nat → α) (first lo hi : Nat) : Prop :=
  ∀ k, 0 < k → k < hi → lo ≤ (k - 1) / 2 → lt (d (first + (k - 1) / 2)) (d (first + k)) = false

/-- The heap order while node `root` sinks: every parent `lo` or after but
`root` is not less than its children, and neither is `root`'s parent less
than `root`'s children. -/
structure SiftOrder (lt : α → α → Bool) (d : Nat → α) (first lo hi root : Nat) : Prop where
  except : ∀ k, 0 < k → k < hi → lo ≤ (k - 1) / 2 → (k - 1) / 2 ≠ root →
    lt (d (first + (k - 1) / 2)) (d (first + k)) = false
  grand : lo < root → ∀ k, 0 < k → k < hi → (k - 1) / 2 = root →
    lt (d (first + (root - 1) / 2)) (d (first + k)) = false

theorem greaterChild_bounds (lt : α → α → Bool) (d : Nat → α) (first : Nat) {hi root : Nat}
    (h : 2 * root + 1 < hi) :
    2 * root + 1 ≤ greaterChild lt d hi first root ∧ greaterChild lt d hi first root ≤ 2 * root + 2 ∧
      greaterChild lt d hi first root < hi := by
  simp only [greaterChild]
  split
  case isTrue hc => simp only [Bool.and_eq_true, decide_eq_true_eq] at hc; omega
  case isFalse => omega

/-- Sifting the node just above the heap order's lower end: the order holds
with that node left out. -/
theorem HeapOrdered.siftOrder {d : Nat → α} {first i hi : Nat} (h : HeapOrdered lt d first (i + 1) hi) :
    SiftOrder lt d first i hi i :=
  ⟨fun k hk hkhi _ hne => h k hk hkhi (by omega), fun h => absurd h (Nat.lt_irrefl i)⟩

/-- Where `siftDown_func` stops, `root` is not less than its children, and
the heap order is whole again. -/
theorem SiftOrder.finish {d : Nat → α} {first lo hi root : Nat} (h : SiftOrder lt d first lo hi root)
    (hstop : ∀ k, 0 < k → k < hi → (k - 1) / 2 = root → lt (d (first + root)) (d (first + k)) = false) :
    HeapOrdered lt d first lo hi := fun k hk hkhi hlk => by
  by_cases hp : (k - 1) / 2 = root
  · rw [hp]; exact hstop k hk hkhi hp
  · exact h.except k hk hkhi hlk hp

theorem segPerm_siftDownLoop (lt : α → α → Bool) (d : Nat → α) (hi first root n : Nat) :
    SegPerm (first + root) (first + hi) d (siftDownLoop lt hi first d root n) := by
  induction n generalizing d root with
  | zero => exact .refl _ _ _
  | succ n ih =>
    unfold siftDownLoop
    split
    · exact .refl _ _ _
    · have hb := greaterChild_bounds lt d first (by omega : 2 * root + 1 < hi)
      dsimp only
      split
      · exact .refl _ _ _
      · exact (SegPerm.swap (by omega) (by omega)).trans ((ih _ _).mono (by omega) le_rfl)

theorem segPerm_heapifyLoop (lt : α → α → Bool) (d : Nat → α) (hi first n : Nat) :
    SegPerm first (first + hi) d (heapifyLoop lt hi first d n) := by
  induction n generalizing d with
  | zero => exact .refl _ _ _
  | succ i ih => exact ((segPerm_siftDownLoop lt d hi first i _).mono (by omega) le_rfl).trans (ih _)

theorem segPerm_popLoop (lt : α → α → Bool) (d : Nat → α) (first : Nat) {n hi : Nat} (hn : n ≤ hi) :
    SegPerm first (first + hi) d (popLoop lt first d n) := by
  induction n generalizing d with
  | zero => exact .refl _ _ _
  | succ i ih =>
    exact (SegPerm.swap (by omega) (by omega)).trans
      (((segPerm_siftDownLoop lt _ i first 0 _).mono (by omega) (by omega)).trans (ih _ (by omega)))

/-- **Heap sort permutes** `data[a:b]`, whatever `less` is. -/
theorem segPerm_heapSortFunc (d : Nat → α) {a b : Nat} (h : a ≤ b) : SegPerm a b d (heapSortFunc lt d a b) := by
  have := (segPerm_heapifyLoop lt d (b - a) a ((b - a - 1) / 2 + 1)).trans
    (segPerm_popLoop lt _ a (le_refl (b - a)))
  rwa [Nat.add_sub_cancel' h] at this

/-- The invariant of heap sort's second loop with `n` elements left in the
heap: `data[first:first+n]` is a heap, the elements taken from it stand
behind it in order, and none of them is less than an element of the heap. -/
structure PopInv (lt : α → α → Bool) (d : Nat → α) (first n hi : Nat) : Prop where
  heap : HeapOrdered lt d first 0 n
  sorted : Ascending lt d (first + n) (first + hi)
  below : ∀ k m, k < n → first + n ≤ m → m < first + hi → lt (d m) (d (first + k)) = false

section Order

variable (o : StrictWeakOrder lt)
include o

/-- Neither child of `root` is greater than the one `greaterChild` picks. -/
theorem greaterChild_max (d : Nat → α) (first : Nat) {hi root k : Nat} (hk : 0 < k) (hkhi : k < hi)
    (hkr : (k - 1) / 2 = root) : lt (d (first + greaterChild lt d hi first root)) (d (first + k)) = false := by
  have hk' : k = 2 * root + 1 ∨ k = 2 * root + 2 := by omega
  simp only [greaterChild]
  split
  case isTrue hc =>
    simp only [Bool.and_eq_true, decide_eq_true_eq] at hc
    rcases hk' with rfl | rfl
    · exact o.asymm hc.2
    · exact o.irrefl _
  case isFalse hc =>
    rcases hk' with rfl | rfl
    · exact o.irrefl _
    · simpa [hkhi, Nat.add_assoc] using hc

/-- One turn of `siftDown_func`: swapping `root` with its greater child,
when `root` is less than it, moves the left-out node down to that child. -/
theorem SiftOrder.move {d : Nat → α} {first lo hi root : Nat} (h : SiftOrder lt d first lo hi root)
    (hc : 2 * root + 1 < hi) (hlt : lt (d (first + root)) (d (first + greaterChild lt d hi first root)) = true) :
    SiftOrder lt (swap d (first + root) (first + greaterChild lt d hi first root)) first lo hi
      (greaterChild lt d hi first root) := by
  have hb := greaterChild_bounds lt d first hc
  have hmax : ∀ k, 0 < k → k < hi → (k - 1) / 2 = root →
      lt (d (first + greaterChild lt d hi first root)) (d (first + k)) = false :=
    fun _ => greaterChild_max o d first
  generalize greaterChild lt d hi first root = c at hb hlt hmax ⊢
  have hD : ∀ x, x ≠ root → x ≠ c → swap d (first + root) (first + c) (first + x) = d (first + x) :=
    fun x h1 h2 => swap_apply_of_ne (by omega) (by omega)
  constructor
  · intro k hk hkhi hlk hkc
    by_cases hkc' : k = c
    · rw [hkc', show (c - 1) / 2 = root by omega, swap_apply_left, swap_apply_right]
      exact o.asymm hlt
    by_cases hkr : k = root
    · rw [hkr, hD _ (by omega) (by omega), swap_apply_left]
      exact h.grand (by omega) c (by omega) hb.2.2 (by omega)
    rw [hD k hkr hkc']
    by_cases hp : (k - 1) / 2 = root
    · rw [hp, swap_apply_left]; exact hmax k hk hkhi hp
    · rw [hD _ hp hkc]; exact h.except k hk hkhi hlk hp
  · intro _ k hk hkhi hkc
    rw [show (c - 1) / 2 = root by omega, swap_apply_left, hD k (by omega) (by omega), ← hkc]
    exact h.except k hk hkhi (by omega) (by omega)

/-- `siftDown_func`'s loop, given turns enough to reach a leaf, leaves the
heap order whole. -/
theorem heapOrdered_siftDownLoop {d : Nat → α} {first lo hi root n : Nat} (h : SiftOrder lt d first lo hi root)
    (hlo : lo ≤ root) (hn : hi ≤ root + n) : HeapOrdered lt (siftDownLoop lt hi first d root n) first lo hi := by
  induction n generalizing d root with
  | zero => exact h.finish fun k hk hkhi hkr => absurd hkhi (by omega)
  | succ n ih =>
    unfold siftDownLoop
    split
    case isTrue hleaf => exact h.finish fun k hk hkhi hkr => absurd hkhi (by omega)
    case isFalse hc =>
      have hb := greaterChild_bounds lt d first (by omega : 2 * root + 1 < hi)
      dsimp only
      split
      case isTrue hstop =>
        simp only [Bool.not_eq_true'] at hstop
        exact h.finish fun k hk hkhi hkr => o.not_lt_trans (greaterChild_max o d first hk hkhi hkr) hstop
      case isFalse hlt =>
        exact ih (h.move o (by omega) (by simpa using hlt)) (by omega) (by omega)

theorem heapOrdered_heapifyLoop {d : Nat → α} {hi first n : Nat} (h : HeapOrdered lt d first n hi) :
    HeapOrdered lt (heapifyLoop lt hi first d n) first 0 hi := by
  induction n generalizing d with
  | zero => exact h
  | succ i ih => exact ih (heapOrdered_siftDownLoop o h.siftOrder le_rfl (by omega))

/-- The root of a heap is not less than any of its elements. -/
theorem HeapOrdered.root_max {d : Nat → α} {first n : Nat} (h : HeapOrdered lt d first 0 n) {k : Nat}
    (hk : k < n) : lt (d first) (d (first + k)) = false := by
  induction k using Nat.strong_induction_on with
  | _ k ih =>
    rcases Nat.eq_zero_or_pos k with rfl | hk0
    · exact o.irrefl _
    · exact o.not_lt_trans (h k hk0 hk (Nat.zero_le _)) (ih _ (by omega) (by omega))

/-- One turn of heap sort's second loop: the root, a greatest element of
the heap, goes behind it, and the heap is sifted again. -/
theorem PopInv.pop {d : Nat → α} {first i hi : Nat} (h : PopInv lt d first (i + 1) hi) (hi' : i < hi) :
    PopInv lt (siftDownFunc lt (swap d first (first + i)) 0 i first) first i hi := by
  -- the root and every element taken so far are not less than any element of the heap
  have G : ∀ x y, first ≤ x → x ≤ first + i → (y = first ∨ first + i < y ∧ y < first + hi) →
      lt (d y) (d x) = false := by
    rintro x y hx hxi (rfl | ⟨hy, hyhi⟩)
    · simpa [Nat.add_sub_cancel' hx] using h.heap.root_max o (k := x - y) (by omega)
    · simpa [Nat.add_sub_cancel' hx] using h.below (x - first) y (by omega) (by omega) hyhi
  have hsift : SiftOrder lt (swap d first (first + i)) first 0 i 0 := ⟨fun k hk hki _ hne => by
      rw [swap_apply_of_ne (by omega) (by omega), swap_apply_of_ne (by omega) (by omega)]
      exact h.heap k hk (by omega) (Nat.zero_le _), fun h0 => absurd h0 (Nat.lt_irrefl 0)⟩
  have hseg := segPerm_siftDownLoop lt (swap d first (first + i)) i first 0 (i - 0)
  refine ⟨heapOrdered_siftDownLoop o hsift le_rfl (by omega), fun x y hx hxy hy => ?_, fun k m hk hm hmhi => ?_⟩
  · rw [siftDownFunc, hseg.frame x (.inr (by omega)), hseg.frame y (.inr (by omega)),
      swap_apply_of_ne (by omega) (by omega)]
    rcases Nat.eq_or_lt_of_le hx with rfl | hx'
    · rw [swap_apply_right]; exact G first y le_rfl (by omega) (.inr ⟨by omega, hy⟩)
    · rw [swap_apply_of_ne (by omega) (by omega)]; exact h.sorted x y (by omega) hxy hy
  · rw [siftDownFunc, hseg.frame m (.inr (by omega))]
    refine hseg.forall_mem (p := fun v => lt (swap d first (first + i) m) v = false)
      (fun x hx hxi => ?_) ⟨by omega, by omega⟩
    simp only [swap]
    split_ifs <;> exact G _ _ (by omega) (by omega) (by omega)

theorem ascending_popLoop {d : Nat → α} {first n hi : Nat} (h : PopInv lt d first n hi) (hn : n ≤ hi) :
    Ascending lt (popLoop lt first d n) first (first + hi) := by
  induction n generalizing d with
  | zero => simpa using h.sorted
  | succ i ih => exact ih (h.pop o (by omega)) (by omega)

/-- **Heap sort sorts** `data[a:b]` when `less` is a strict weak order. -/
theorem ascending_heapSortFunc (d : Nat → α) {a b : Nat} (h : a ≤ b) : Ascending lt (heapSortFunc lt d a b) a b := by
  have hheap := heapOrdered_heapifyLoop o
    (fun k _ hk hle => absurd hle (by omega) : HeapOrdered lt d a ((b - a - 1) / 2 + 1) (b - a))
  have := ascending_popLoop o (show PopInv lt _ a (b - a) (b - a) from
    ⟨hheap, fun _ _ _ _ hy => absurd hy (by omega), fun _ _ _ hm hmhi => absurd hmhi (by omega)⟩) le_rfl
  rwa [Nat.add_sub_cancel' h] at this

end Order

example : elems (heapSortFunc (fun x y : Nat => decide (x < y)) (fun k => [3, 1, 4, 1, 5].getD k 0) 0 5) 0 5 =
    [1, 1, 3, 4, 5] := by decide

end Bytebase.Go
