import Bytebase.Go.Map

/-!
# Frontend — JavaScript maps and arrays

A `Map` of the frontend's stores is its list of entries in insertion
order, keys pairwise distinct: `set` on a key it holds replaces the value
in place, on a new key appends an entry; `delete` removes the key's entry;
`values()` and `for … of` follow the entry order. Keys are compared with
SameValueZero, which on the numbers and strings the stores use is
equality. The entry list is the one `GoMap` keeps, whose `setEntry`
already replaces in place and appends at the end.

An array a store keeps in a map and mutates in place (`list[i] = x`,
`push`, `splice`) is the map's value for that key; the stores' actions
commit fresh arrays, so no two keys share one. The array operations the
stores call (`findIndex`, indexing, `splice`) keep JavaScript's answers at
the edges: `-1` for a miss, `undefined` out of range, and a negative start
counted from the end.
-/

namespace Bytebase.Frontend

open Bytebase.Go

/-- A JavaScript `Map`: its entries in insertion order, keys distinct. -/
structure JsMap (K V : Type) where
  entries : List (K × V)
  nodup : (entries.map Prod.fst).Nodup

namespace JsMap

variable {K V : Type} [DecidableEq K]

/-- `new Map()`. -/
def empty : JsMap K V := ⟨[], List.nodup_nil⟩

/-- `m.get(k)`, `none` for `undefined`. -/
def get (m : JsMap K V) (k : K) : Option V := GoMap.lookupEntry m.entries k

/-- `m.set(k, v)`. -/
def set (m : JsMap K V) (k : K) (v : V) : JsMap K V :=
  ⟨GoMap.setEntry m.entries k v, GoMap.nodup_setEntry m.nodup k v⟩

/-- `m.delete(k)`. -/
def delete (m : JsMap K V) (k : K) : JsMap K V :=
  ⟨m.entries.filter (·.1 ≠ k), m.nodup.sublist ((List.filter_sublist _).map _)⟩

/-- `Array.from(m.values())`. -/
def values (m : JsMap K V) : List V := m.entries.map Prod.snd

@[simp] theorem get_empty (k : K) : (empty : JsMap K V).get k = none := rfl

@[simp] theorem get_set (m : JsMap K V) (k j : K) (v : V) :
    (m.set k v).get j = if k = j then some v else m.get j :=
  GoMap.lookupEntry_setEntry _ _ _ _

theorem lookupEntry_filter (l : List (K × V)) (k j : K) :
    GoMap.lookupEntry (l.filter (·.1 ≠ k)) j = if k = j then none else GoMap.lookupEntry l j := by
  induction l with
  | nil => simp [GoMap.lookupEntry]
  | cons p rest ih =>
    obtain ⟨k', v'⟩ := p
    rw [List.filter_cons]
    by_cases hk : k' = k
    · subst hk
      rw [if_neg (by simp), ih]
      by_cases hj : k' = j <;> simp [GoMap.lookupEntry, hj]
    · rw [if_pos (by simpa using hk)]
      simp only [GoMap.lookupEntry, ih]
      by_cases hj : k' = j
      · subst hj; simp [Ne.symm hk]
      · simp [hj]

@[simp] theorem get_delete (m : JsMap K V) (k j : K) :
    (m.delete k).get j = if k = j then none else m.get j :=
  lookupEntry_filter _ _ _

theorem get_eq_some_iff (m : JsMap K V) {k : K} {v : V} : m.get k = some v ↔ (k, v) ∈ m.entries := by
  refine ⟨fun h => ?_, GoMap.lookupEntry_of_mem m.nodup⟩
  obtain ⟨entries, nodup⟩ := m
  simp only [get] at h ⊢
  clear nodup
  induction entries with
  | nil => cases h
  | cons p rest ih =>
    obtain ⟨k', v'⟩ := p
    simp only [GoMap.lookupEntry] at h
    split at h
    · cases h; simp_all
    · exact List.mem_cons_of_mem _ (ih h)

theorem setEntry_perm {l : List (K × V)} (h : (l.map Prod.fst).Nodup) (k : K) (v : V) :
    (GoMap.setEntry l k v).Perm (l.filter (·.1 ≠ k) ++ [(k, v)]) := by
  induction l with
  | nil => simp [GoMap.setEntry]
  | cons p rest ih =>
    obtain ⟨k', v'⟩ := p
    simp only [List.map_cons, List.nodup_cons] at h
    rw [GoMap.setEntry, List.filter_cons]
    by_cases hk : k' = k
    · subst hk
      have hrest : rest.filter (·.1 ≠ k') = rest :=
        List.filter_eq_self.2 fun q hq => decide_eq_true fun e => h.1 (e ▸ List.mem_map_of_mem Prod.fst hq)
      rw [if_pos rfl, if_neg (by simp), hrest]
      exact (List.perm_append_singleton _ _).symm
    · rw [if_neg hk, if_pos (by simpa using hk)]
      exact (ih h.2).cons _

/-- The values after `set` are, up to order, those of the other keys and
the new one. -/
theorem values_set_perm (m : JsMap K V) (k : K) (v : V) :
    (m.set k v).values.Perm ((m.entries.filter (·.1 ≠ k)).map Prod.snd ++ [v]) := by
  simpa [values, set] using (setEntry_perm m.nodup k v).map Prod.snd

theorem mem_entries_set (m : JsMap K V) {k j : K} {v w : V} :
    (j, w) ∈ (m.set k v).entries ↔ (j = k ∧ w = v) ∨ ((j, w) ∈ m.entries ∧ j ≠ k) := by
  show (j, w) ∈ GoMap.setEntry m.entries k v ↔ _
  rw [(setEntry_perm m.nodup k v).mem_iff]
  simp [List.mem_filter, or_comm]

theorem mem_entries_delete (m : JsMap K V) {k j : K} {w : V} :
    (j, w) ∈ (m.delete k).entries ↔ (j, w) ∈ m.entries ∧ j ≠ k := by
  simp [delete]

theorem values_delete_sublist (m : JsMap K V) (k : K) : (m.delete k).values.Sublist m.values :=
  (List.filter_sublist _).map _

theorem mem_values_delete {m : JsMap K V} {k : K} {v : V} :
    v ∈ (m.delete k).values ↔ ∃ j, j ≠ k ∧ (j, v) ∈ m.entries := by
  simp [values, delete, and_comm]

end JsMap

/-! ## Arrays -/

namespace JsArray

variable {α : Type}

/-- `list.findIndex(p)`: the first index where `p` holds, `-1` when there
is none. -/
def findIndex (l : List α) (p : α → Bool) : Int :=
  match l.findIdx? p with
  | some i => i
  | none => -1

/-- `list[i]`, `undefined` at an index outside the array, a negative one
included. -/
def get? (l : List α) (i : Int) : Option α := if 0 ≤ i then l[i.toNat]? else none

/-- `list.splice(start, 1)`: a negative `start` counts from the end, so
`-1` removes the last element; a `start` past the end removes nothing. -/
def spliceOne (l : List α) (start : Int) : List α :=
  l.eraseIdx (if start < 0 then (l.length + start).toNat else start.toNat)

theorem findIndex_of_getElem {l : List α} {p : α → Bool} {n : Nat} (hn : n < l.length) (hp : p l[n] = true) :
    ∃ i, ∃ hi : i < l.length, findIndex l p = i ∧ p l[i] = true := by
  unfold findIndex
  cases h : l.findIdx? p with
  | none => exact absurd hp (by simpa using List.findIdx?_eq_none_iff.1 h _ (List.getElem_mem hn))
  | some i =>
    obtain ⟨hi, hpi, -⟩ := List.findIdx?_eq_some_iff_getElem.1 h
    exact ⟨i, hi, rfl, hpi⟩

theorem get?_eq_some {l : List α} {i : Int} {a : α} (h : get? l i = some a) :
    ∃ n, ∃ hn : n < l.length, i = n ∧ l[n] = a := by
  unfold get? at h
  split at h
  · obtain ⟨hn, rfl⟩ := List.getElem?_eq_some_iff.1 h
    exact ⟨i.toNat, hn, by omega, rfl⟩
  · cases h

end JsArray

end Bytebase.Frontend
