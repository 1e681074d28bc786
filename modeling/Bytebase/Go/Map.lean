import Bytebase.Go.Basic

/-!
# Go — maps, grouping and sorting

A Go `map[K]V` is its list of entries with pairwise distinct keys; the
order of the list is one order a `range` over the map may visit, and Go
promises none, so every statement about a `range` quantifies over the
visiting order (a permutation of the entries).

`m[k] = append(m[k], x)`, the grouping idiom of `groupFileInfoByRepo` and
`groupFileInfoByDatabase`, is `appendAt`; grouping a list is a fold of it.
`sort.Strings` is an insertion sort: on distinct keys every correct sort
gives the same list.
-/

namespace Bytebase.Go

/-- A Go map: its entries, keys pairwise distinct. -/
structure GoMap (K V : Type) where
  entries : List (K × V)
  nodup : (entries.map Prod.fst).Nodup

namespace GoMap

variable {K V α : Type} [DecidableEq K]

/-- The value an entry list holds for `k`. -/
def lookupEntry : List (K × V) → K → Option V
  | [], _ => none
  | (k', v) :: rest, k => if k' = k then some v else lookupEntry rest k

/-- `m[k] = v` on an entry list: the entry of `k` is replaced, or one is
appended. -/
def setEntry : List (K × V) → K → V → List (K × V)
  | [], k, v => [(k, v)]
  | (k', v') :: rest, k, v => if k' = k then (k, v) :: rest else (k', v') :: setEntry rest k v

theorem keys_setEntry (l : List (K × V)) (k : K) (v : V) :
    (setEntry l k v).map Prod.fst = if k ∈ l.map Prod.fst then l.map Prod.fst else l.map Prod.fst ++ [k] := by
  induction l with
  | nil => simp [setEntry]
  | cons p rest ih =>
    obtain ⟨k', v'⟩ := p
    by_cases h : k' = k
    · simp [setEntry, h]
    · by_cases hk : k ∈ rest.map Prod.fst <;> simp_all [setEntry, Ne.symm h]

theorem nodup_setEntry {l : List (K × V)} (h : (l.map Prod.fst).Nodup) (k : K) (v : V) :
    ((setEntry l k v).map Prod.fst).Nodup := by
  rw [keys_setEntry]
  split
  · exact h
  · rename_i hk
    exact h.append (List.nodup_singleton k) (List.disjoint_singleton.mpr hk)

theorem lookupEntry_of_mem {l : List (K × V)} (h : (l.map Prod.fst).Nodup) {k : K} {v : V} (hm : (k, v) ∈ l) :
    lookupEntry l k = some v := by
  induction l with
  | nil => cases hm
  | cons p rest ih =>
    obtain ⟨k', v'⟩ := p
    simp only [List.map_cons, List.nodup_cons] at h
    rcases List.mem_cons.1 hm with he | hm
    · cases he; simp [lookupEntry]
    · have hk : k' ≠ k := fun e => h.1 (e ▸ List.mem_map_of_mem Prod.fst hm)
      simp [lookupEntry, hk, ih h.2 hm]

/-- The empty map. -/
def empty : GoMap K V := ⟨[], List.nodup_nil⟩

/-- `m[k]`, `none` for a missing key. -/
def get? (m : GoMap K V) (k : K) : Option V := lookupEntry m.entries k

/-- `m[k] = v`. -/
def set (m : GoMap K V) (k : K) (v : V) : GoMap K V :=
  ⟨setEntry m.entries k v, nodup_setEntry m.nodup k v⟩

/-- `m[k] = append(m[k], x)`. -/
def appendAt (m : GoMap K (List α)) (k : K) (x : α) : GoMap K (List α) :=
  m.set k ((m.get? k).getD [] ++ [x])

/-- The map `for _, x := range xs { m[key(x)] = append(m[key(x)], x) }` builds. -/
def groupBy (key : α → K) (xs : List α) : GoMap K (List α) :=
  xs.foldl (fun m x => m.appendAt (key x) x) empty

theorem lookupEntry_setEntry (l : List (K × V)) (k j : K) (v : V) :
    lookupEntry (setEntry l k v) j = if k = j then some v else lookupEntry l j := by
  induction l with
  | nil => simp [setEntry, lookupEntry]
  | cons p rest ih =>
    obtain ⟨k', v'⟩ := p
    by_cases h : k' = k
    · subst h; by_cases hj : k' = j <;> simp [setEntry, lookupEntry, hj]
    · simp only [setEntry, h, if_false, lookupEntry, ih]
      by_cases hj : k' = j
      · subst hj; simp [Ne.symm h]
      · simp [hj]

@[simp] theorem get?_set (m : GoMap K V) (k j : K) (v : V) :
    (m.set k v).get? j = if k = j then some v else m.get? j :=
  lookupEntry_setEntry _ _ _ _

/-- The keys of a map, in entry order. -/
def keys (m : GoMap K V) : List K := m.entries.map Prod.fst

theorem get?_of_mem (m : GoMap K V) {k : K} {v : V} (h : (k, v) ∈ m.entries) : m.get? k = some v :=
  lookupEntry_of_mem m.nodup h

/-- Looking up every key of a map, in any order, meets exactly its values. -/
theorem mem_flatMap_get? (m : GoMap K (List α)) {ks : List K} (hks : ks.Perm m.keys) (a : α) :
    a ∈ ks.flatMap (fun k => (m.get? k).getD []) ↔ a ∈ m.entries.flatMap (·.2) := by
  simp only [List.mem_flatMap, hks.mem_iff, keys, List.mem_map]
  constructor
  · rintro ⟨k, ⟨⟨k', v⟩, he, rfl⟩, ha⟩
    exact ⟨(k', v), he, by simpa [m.get?_of_mem he] using ha⟩
  · rintro ⟨⟨k, v⟩, he, ha⟩
    exact ⟨k, ⟨(k, v), he, rfl⟩, by simpa [m.get?_of_mem he] using ha⟩

@[simp] theorem get?_empty (k : K) : (empty : GoMap K V).get? k = none := rfl

/-- The values of a map of lists, entry after entry. -/
def values (m : GoMap K (List α)) : List α := m.entries.flatMap (·.2)

theorem mem_flatMap_setEntry_append {l : List (K × List α)} (h : (l.map Prod.fst).Nodup) (k : K) (y x : α) :
    x ∈ (setEntry l k ((lookupEntry l k).getD [] ++ [y])).flatMap (·.2) ↔ x ∈ l.flatMap (·.2) ∨ x = y := by
  induction l with
  | nil => simp [setEntry, lookupEntry]
  | cons p rest ih =>
    obtain ⟨k', v'⟩ := p
    simp only [List.map_cons, List.nodup_cons] at h
    by_cases hk : k' = k
    · subst hk; simp [setEntry, lookupEntry, or_comm, or_left_comm]
    · simp [setEntry, lookupEntry, hk, ih h.2, or_assoc]

@[simp] theorem mem_values_appendAt (m : GoMap K (List α)) (k : K) (y x : α) :
    x ∈ (m.appendAt k y).values ↔ x ∈ m.values ∨ x = y :=
  mem_flatMap_setEntry_append m.nodup k y x

theorem mem_of_lookupEntry {l : List (K × V)} {k : K} {v : V} (h : lookupEntry l k = some v) : (k, v) ∈ l := by
  induction l with
  | nil => cases h
  | cons p rest ih =>
    obtain ⟨k', v'⟩ := p
    simp only [lookupEntry] at h
    split at h
    · cases h; simp_all
    · exact List.mem_cons_of_mem _ (ih h)

theorem get?_eq_some_iff (m : GoMap K V) {k : K} {v : V} : m.get? k = some v ↔ (k, v) ∈ m.entries :=
  ⟨mem_of_lookupEntry, m.get?_of_mem⟩

theorem groupBy_append_singleton (key : α → K) (xs : List α) (x : α) :
    groupBy key (xs ++ [x]) = (groupBy key xs).appendAt (key x) x := by
  rw [groupBy, List.foldl_append]; rfl

/-- The group of `k` is the sublist of the elements of key `k`, in list
order, and there is one exactly when that sublist is not empty. -/
theorem get?_groupBy (key : α → K) (xs : List α) (k : K) :
    (groupBy key xs).get? k = if (xs.filter (key · = k)).isEmpty then none else some (xs.filter (key · = k)) := by
  induction xs using List.reverseRecOn with
  | nil => rfl
  | append_singleton xs x ih =>
    have hget : ((groupBy key xs).get? k).getD [] = xs.filter (key · = k) := by
      rw [ih]; split <;> simp_all [List.isEmpty_iff]
    rw [groupBy_append_singleton, appendAt, get?_set]
    by_cases hx : key x = k
    · subst hx
      simp [hget, List.filter_append]
    · simp [hx, ih, List.filter_append]

/-- **What `groupBy` builds**: one entry for every key some element has,
holding the elements of that key in list order. -/
theorem mem_entries_groupBy (key : α → K) (xs : List α) (k : K) (g : List α) :
    (k, g) ∈ (groupBy key xs).entries ↔ g ≠ [] ∧ g = xs.filter (key · = k) := by
  rw [← get?_eq_some_iff, get?_groupBy]
  split <;> rename_i he <;> rw [List.isEmpty_iff] at he
  · simp only [reduceCtorEq, false_iff, not_and]
    rintro hg rfl; exact hg he
  · simp only [Option.some.injEq]
    constructor
    · rintro rfl; exact ⟨he, rfl⟩
    · rintro ⟨-, rfl⟩; rfl

omit [DecidableEq K] in
@[simp] theorem values_empty : (empty : GoMap K (List α)).values = [] := rfl

/-- The map a sequence of writes `m[k] = v` leaves. -/
def setAll (m : GoMap K V) (ws : List (K × V)) : GoMap K V := ws.foldl (fun m w => m.set w.1 w.2) m

theorem get?_setAll_of_not_mem (m : GoMap K V) {ws : List (K × V)} {k : K} (hk : k ∉ ws.map Prod.fst) :
    (m.setAll ws).get? k = m.get? k := by
  induction ws generalizing m with
  | nil => rfl
  | cons w rest ih =>
    simp only [List.map_cons, List.mem_cons, not_or] at hk
    show ((m.set w.1 w.2).setAll rest).get? k = _
    rw [ih _ hk.2, get?_set, if_neg (Ne.symm hk.1)]

theorem get?_setAll_of_mem (m : GoMap K V) {ws : List (K × V)} (hws : (ws.map Prod.fst).Nodup) {k : K} {v : V}
    (hkv : (k, v) ∈ ws) : (m.setAll ws).get? k = some v := by
  induction ws generalizing m with
  | nil => cases hkv
  | cons w rest ih =>
    simp only [List.map_cons, List.nodup_cons] at hws
    show ((m.set w.1 w.2).setAll rest).get? k = _
    rcases List.mem_cons.1 hkv with rfl | hkv
    · exact (get?_setAll_of_not_mem _ hws.1).trans (by simp)
    · exact ih _ hws.2 hkv

/-- Writes with distinct keys leave, from the empty map, exactly their
pairs. -/
theorem get?_setAll_empty {ws : List (K × V)} (hws : (ws.map Prod.fst).Nodup) (k : K) (v : V) :
    (empty.setAll ws).get? k = some v ↔ (k, v) ∈ ws := by
  by_cases hk : k ∈ ws.map Prod.fst
  · obtain ⟨⟨k, v'⟩, hmem, rfl⟩ := List.mem_map.1 hk
    rw [get?_setAll_of_mem _ hws hmem]
    constructor
    · rintro ⟨⟩; exact hmem
    · intro h; exact (get?_setAll_of_mem empty hws hmem).symm.trans (get?_setAll_of_mem empty hws h)
  · rw [get?_setAll_of_not_mem _ hk, get?_empty]
    exact ⟨nofun, fun h => absurd (List.mem_map_of_mem Prod.fst h) hk⟩

end GoMap

/-- `sort.Strings`: ascending in Go's string order. Equal strings are
identical, so the sorted list is unique and any sorting algorithm gives
it. -/
def sortStrings (l : List String) : List String := l.insertionSort fun a b => stringLess b a = false

theorem sortStrings_perm (l : List String) : (sortStrings l).Perm l := List.perm_insertionSort _ l

end Bytebase.Go
