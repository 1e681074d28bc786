import Bytebase.Go.Sort.Slice

/-!
# Go — choosing the pivot, and the moves that only reorder

`choosePivot_func` reads the range and moves nothing: it returns the
index of a median of three (each first a median of its neighbours on
ranges of 50 or more), and a hint of the order it saw, from how many of
its comparisons found a pair out of order. `reverseRange_func` reverses a
range found descending, and `breakPatterns_func` swaps three pseudo-random
elements into the middle after an unbalanced partition.

What `pdqsort_func` needs of them: the pivot lies in the range
(`choosePivotFunc_mem`), and the two moves permute the range
(`segPerm_reverseRangeFunc`, `segPerm_breakPatternsFunc`). The second
rests on `nextPowerOfTwo length ≤ 2 * length`, so that the random index,
less `length` once, falls inside the range.
-/

namespace Bytebase.Go

variable {α : Type} {lt : α → α → Bool}

/-- `sortedHint`: what `choosePivot_func` saw of the order of the range. -/
inductive SortedHint
  | unknown
  | increasing
  | decreasing
  deriving DecidableEq, Repr

/-- `order2_func(data, a, b, &swaps)`: `a, b` so that `data[a] <= data[b]`,
a swap counted when they change places. -/
def order2 (lt : α → α → Bool) (d : Nat → α) (a b swaps : Nat) : Nat × Nat × Nat :=
  if lt (d b) (d a) then (b, a, swaps + 1) else (a, b, swaps)

/-- `median_func(data, a, b, c, &swaps)`: the index of the median of the
three, and the swap count. -/
def median (lt : α → α → Bool) (d : Nat → α) (a b c swaps : Nat) : Nat × Nat :=
  let (a, b, swaps) := order2 lt d a b swaps
  let (b, _, swaps) := order2 lt d b c swaps
  let (_, b, swaps) := order2 lt d a b swaps
  (b, swaps)

/-- `medianAdjacent_func(data, a, &swaps)`. -/
def medianAdjacent (lt : α → α → Bool) (d : Nat → α) (a swaps : Nat) : Nat × Nat :=
  median lt d (a - 1) a (a + 1) swaps

/-- The pivot `choosePivot_func(data, a, b)` picks, with the swaps it
counted: the quarter points `i, j, k`; from length 8 the median of the
three, and from `shortestNinther = 50` each first the median of its
neighbours (Tukey's ninther). -/
def pivotSwaps (lt : α → α → Bool) (d : Nat → α) (a b : Nat) : Nat × Nat :=
  let l := b - a
  let i := a + l / 4 * 1
  let j := a + l / 4 * 2
  let k := a + l / 4 * 3
  if 8 ≤ l then
    if 50 ≤ l then
      let i := medianAdjacent lt d i 0
      let j := medianAdjacent lt d j i.2
      let k := medianAdjacent lt d k j.2
      median lt d i.1 j.1 k.1 k.2
    else median lt d i j k 0
  else (j, 0)

/-- `choosePivot_func(data, a, b)`: the pivot, and the hint from the swap
count, `increasingHint` for none and `decreasingHint` for all
`maxSwaps = 4 * 3`. -/
def choosePivotFunc (lt : α → α → Bool) (d : Nat → α) (a b : Nat) : Nat × SortedHint :=
  let (pivot, swaps) := pivotSwaps lt d a b
  (pivot, if swaps = 0 then .increasing else if swaps = 4 * 3 then .decreasing else .unknown)

/-- The loop of `reverseRange_func`, `n` turns at most:
`for i < j { data.Swap(i, j); i++; j-- }`. -/
def reverseLoop (d : Nat → α) (i j : Nat) : (n : Nat) → Nat → α
  | 0 => d
  | n + 1 => if i < j then reverseLoop (swap d i j) (i + 1) (j - 1) n else d

/-- `reverseRange_func(data, a, b)`. -/
def reverseRangeFunc (d : Nat → α) (a b : Nat) : Nat → α := reverseLoop d a (b - 1) (b - a)

/-- `xorshift.Next()`: `*r ^= *r << 13; *r ^= *r >> 7; *r ^= *r << 17`. -/
def xorshiftNext (r : UInt64) : UInt64 :=
  let r := r ^^^ (r <<< 13)
  let r := r ^^^ (r >>> 7)
  r ^^^ (r <<< 17)

/-- `bits.Len(x)` from `fuel` halvings: the number of bits of `x`; `x`
halvings are enough (`bitsLen`). -/
def bitsLenLoop : (fuel x : Nat) → Nat
  | 0, _ => 0
  | fuel + 1, x => if x = 0 then 0 else bitsLenLoop fuel (x / 2) + 1

/-- `bits.Len(uint(x))`. -/
def bitsLen (x : Nat) : Nat := bitsLenLoop x x

/-- `nextPowerOfTwo(length)`: `1 << bits.Len(uint(length))`. -/
def nextPowerOfTwo (length : Nat) : Nat := 2 ^ bitsLen length

/-- The loop of `breakPatterns_func` from turn `i`, `n` turns:
`other := int(uint(random.Next()) & (modulus - 1))`, less `length` if it
reaches it, and `data.Swap(idx-1+i, a+other)`. -/
def breakPatternsLoop (d : Nat → α) (a length modulus idx : Nat) (random : UInt64) (i : Nat) :
    (n : Nat) → Nat → α
  | 0 => d
  | n + 1 =>
    let random := xorshiftNext random
    let other := random.toNat &&& (modulus - 1)
    let other := if length ≤ other then other - length else other
    breakPatternsLoop (swap d (idx - 1 + i) (a + other)) a length modulus idx random (i + 1) n

/-- `breakPatterns_func(data, a, b)`: three swaps around the middle, from
length 8, with the generator seeded by the length. -/
def breakPatternsFunc (d : Nat → α) (a b : Nat) : Nat → α :=
  let length := b - a
  if 8 ≤ length then
    breakPatternsLoop d a length (nextPowerOfTwo length) (a + length / 4 * 2 - 1) (UInt64.ofNat length) 0 3
  else d

/-! ## The pivot lies in the range -/

theorem median_mem (lt : α → α → Bool) (d : Nat → α) (x y z s : Nat) :
    (median lt d x y z s).1 = x ∨ (median lt d x y z s).1 = y ∨ (median lt d x y z s).1 = z := by
  simp only [median, order2]
  split_ifs <;> simp

theorem medianAdjacent_bounds (lt : α → α → Bool) (d : Nat → α) (m s : Nat) :
    m - 1 ≤ (medianAdjacent lt d m s).1 ∧ (medianAdjacent lt d m s).1 ≤ m + 1 := by
  rcases median_mem lt d (m - 1) m (m + 1) s with h | h | h <;> simp only [medianAdjacent, h] <;> omega

/-- **The pivot lies in the range** `[a, b)`. -/
theorem choosePivotFunc_mem (lt : α → α → Bool) (d : Nat → α) {a b : Nat} (h : a < b) :
    a ≤ (choosePivotFunc lt d a b).1 ∧ (choosePivotFunc lt d a b).1 < b := by
  show a ≤ (pivotSwaps lt d a b).1 ∧ (pivotSwaps lt d a b).1 < b
  simp only [pivotSwaps]
  split_ifs with h8 h50
  · have hi := medianAdjacent_bounds lt d (a + (b - a) / 4 * 1) 0
    have hj := medianAdjacent_bounds lt d (a + (b - a) / 4 * 2) (medianAdjacent lt d (a + (b - a) / 4 * 1) 0).2
    have hk := medianAdjacent_bounds lt d (a + (b - a) / 4 * 3)
      (medianAdjacent lt d (a + (b - a) / 4 * 2) (medianAdjacent lt d (a + (b - a) / 4 * 1) 0).2).2
    rcases median_mem lt d _ _ _ _ with hm | hm | hm <;> rw [hm] <;> omega
  · rcases median_mem lt d _ _ _ _ with hm | hm | hm <;> rw [hm] <;> omega
  · omega

/-! ## The moves permute the range -/

theorem segPerm_reverseLoop (d : Nat → α) {a b i j : Nat} (hi : a ≤ i) (hj : j < b) (n : Nat) :
    SegPerm a b d (reverseLoop d i j n) := by
  induction n generalizing d i j with
  | zero => exact .refl _ _ _
  | succ n ih =>
    rw [reverseLoop]
    split
    · exact (SegPerm.swap (by omega) (by omega)).trans (ih _ (by omega) (by omega))
    · exact .refl _ _ _

theorem segPerm_reverseRangeFunc (d : Nat → α) {a b : Nat} (h : a < b) : SegPerm a b d (reverseRangeFunc d a b) :=
  segPerm_reverseLoop d le_rfl (by omega) _

theorem bitsLenLoop_zero (fuel : Nat) : bitsLenLoop fuel 0 = 0 := by
  cases fuel <;> rfl

theorem two_pow_bitsLenLoop_le {fuel x : Nat} (h : x ≤ fuel) (hx : 0 < x) : 2 ^ bitsLenLoop fuel x ≤ 2 * x := by
  induction fuel generalizing x with
  | zero => omega
  | succ fuel ih =>
    rw [bitsLenLoop, if_neg (by omega), Nat.pow_succ]
    rcases Nat.eq_zero_or_pos (x / 2) with h0 | h0
    · rw [h0, bitsLenLoop_zero]; omega
    · have := ih (x := x / 2) (by omega) h0; omega

/-- `nextPowerOfTwo(length)` is at most twice `length`. -/
theorem nextPowerOfTwo_le {length : Nat} (h : 0 < length) : nextPowerOfTwo length ≤ 2 * length :=
  two_pow_bitsLenLoop_le le_rfl h

theorem segPerm_breakPatternsLoop (d : Nat → α) {a b length modulus idx : Nat} (random : UInt64) {i : Nat}
    (hlen : a + length ≤ b) (hmod : 0 < modulus ∧ modulus ≤ 2 * length) (n : Nat)
    (hidx : ∀ t, i ≤ t → t < i + n → a ≤ idx - 1 + t ∧ idx - 1 + t < b) :
    SegPerm a b d (breakPatternsLoop d a length modulus idx random i n) := by
  induction n generalizing d random i with
  | zero => exact .refl _ _ _
  | succ n ih =>
    have hand := Nat.and_le_right (n := (xorshiftNext random).toNat) (m := modulus - 1)
    rw [breakPatternsLoop]
    refine (SegPerm.swap (hidx i le_rfl (by omega)) ?_).trans (ih _ _ fun t h1 h2 => hidx t (by omega) (by omega))
    dsimp only
    split <;> omega

/-- **`breakPatterns_func` permutes** `data[a:b]`. -/
theorem segPerm_breakPatternsFunc (d : Nat → α) (a b : Nat) : SegPerm a b d (breakPatternsFunc d a b) := by
  rw [breakPatternsFunc]
  split
  case isTrue h =>
    have := nextPowerOfTwo_le (by omega : 0 < b - a)
    exact segPerm_breakPatternsLoop d _ (by omega) ⟨Nat.pos_pow_of_pos _ (by omega), this⟩ 3
      fun t _ ht => by omega
  case isFalse => exact .refl _ _ _

end Bytebase.Go
