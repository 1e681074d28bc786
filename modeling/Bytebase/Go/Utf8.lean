import Bytebase.Go.Basic

/-!
# Go — strings as their UTF-8 bytes

A Go string is its bytes, and Go's `<` on strings compares them in turn
as unsigned numbers, a proper prefix first (`bytesLess`). The model reads
a string as its runes and compares those (`stringLess`). The two agree on
the UTF-8 encoding of every string (`bytesLess_toUTF8`): the encoding keeps
the order of code points, and no rune's bytes are a prefix of another's,
so the first byte where two encodings differ lies in the first rune where
the strings differ, and orders the two as that rune does.

The bytes of a rune are those of Lean's own encoder, `String.utf8EncodeChar`;
`utf8Bytes_eq` reads its bit operations as the table of the standard.
-/

namespace Bytebase.Go

/-! ## The encoder as arithmetic -/

/-- A lead or continuation byte, `x &&& (2^k - 1) ||| tag`, with the tag
above the `k` bits it keeps. -/
theorem toNat_and_or {x m t : UInt8} (k s : Nat) (hm : m.toNat = 2 ^ k - 1) (ht : t.toNat = 2 ^ k * s) :
    (x &&& m ||| t).toNat = 2 ^ k * s + x.toNat % 2 ^ k := by
  show (x.toBitVec &&& m.toBitVec ||| t.toBitVec).toNat = _
  rw [BitVec.toNat_or, BitVec.toNat_and]
  change x.toNat &&& m.toNat ||| t.toNat = _
  rw [hm, ht, Nat.and_pow_two_sub_one_eq_mod, Nat.lor_comm, ← Nat.mul_add_lt_is_or (Nat.mod_lt _ (Nat.two_pow_pos k))]

theorem toNat_shiftRight (v : UInt32) (i : Nat) (hi : i < 32) :
    (v >>> (OfNat.ofNat i : UInt32)).toNat = v.toNat / 2 ^ i := by
  show (v.toBitVec >>> ((OfNat.ofNat i : UInt32).toBitVec % 32)).toNat = _
  simp [Nat.shiftRight_eq_div_pow, Nat.mod_eq_of_lt (show i < 4294967296 by omega), Nat.mod_eq_of_lt hi]
  rfl

theorem val_le_iff (c : Char) (n : Nat) (h : n < 2 ^ 32) : c.val ≤ (OfNat.ofNat n : UInt32) ↔ c.toNat ≤ n := by
  show c.toNat ≤ n % 2 ^ 32 ↔ _
  rw [Nat.mod_eq_of_lt h]

/-- Every code point is below `0x110000`. -/
theorem char_toNat_lt (c : Char) : c.toNat < 0x110000 := by
  have := c.valid
  simp only [UInt32.isValidChar, Nat.isValidChar] at this
  show c.val.toNat < _
  omega

/-- The bytes of a rune's UTF-8 encoding, as numbers. -/
def utf8Bytes (c : Char) : List Nat := (String.utf8EncodeChar c).map UInt8.toNat

/-- The table of UTF-8: one to four bytes by the size of the code point,
a lead byte tagged with the length and six bits in each byte after it. -/
theorem utf8Bytes_eq (c : Char) : utf8Bytes c =
    if c.toNat ≤ 0x7f then [c.toNat]
    else if c.toNat ≤ 0x7ff then [0xc0 + c.toNat / 64, 0x80 + c.toNat % 64]
    else if c.toNat ≤ 0xffff then [0xe0 + c.toNat / 4096, 0x80 + c.toNat / 64 % 64, 0x80 + c.toNat % 64]
    else [0xf0 + c.toNat / 262144, 0x80 + c.toNat / 4096 % 64, 0x80 + c.toNat / 64 % 64, 0x80 + c.toNat % 64] := by
  have hmax := char_toNat_lt c
  have hv : c.toNat = c.val.toNat := rfl
  simp only [utf8Bytes, String.utf8EncodeChar, val_le_iff c 0x7f (by norm_num), val_le_iff c 0x7ff (by norm_num),
    val_le_iff c 0xffff (by norm_num)]
  split_ifs <;> simp only [List.map_cons, List.map_nil, UInt32.toUInt8_toNat, Nat.reducePow, Nat.reduceMul,
    toNat_and_or (m := 63) (t := 128) 6 2 rfl rfl, toNat_and_or (m := 31) (t := 192) 5 6 rfl rfl,
    toNat_and_or (m := 15) (t := 224) 4 14 rfl rfl, toNat_and_or (m := 7) (t := 240) 3 30 rfl rfl,
    toNat_shiftRight _ 6 (by omega), toNat_shiftRight _ 12 (by omega), toNat_shiftRight _ 18 (by omega),
    Nat.mod_mod_of_dvd _ (by norm_num : 64 ∣ 256), List.cons.injEq, add_right_inj, and_true] <;> omega

theorem utf8Bytes_ne_nil (c : Char) : utf8Bytes c ≠ [] := by
  rw [utf8Bytes_eq]; split_ifs <;> simp

/-! ## Go's `<` on bytes -/

/-- Go's `<` on strings, as the runtime compares them: byte by byte as
unsigned numbers, a proper prefix first. -/
def bytesLess : List Nat → List Nat → Bool
  | [], [] => false
  | [], _ :: _ => true
  | _ :: _, [] => false
  | a :: as, b :: bs => a < b || (a == b && bytesLess as bs)

theorem bytesLess_append_left (p s t : List Nat) : bytesLess (p ++ s) (p ++ t) = bytesLess s t := by
  induction p with
  | nil => rfl
  | cons x p ih => simp [bytesLess, ih]

/-- Two byte strings part at a byte where the first is smaller. -/
def Diverge (u w : List Nat) : Prop := ∃ p x y s t, u = p ++ x :: s ∧ w = p ++ y :: t ∧ x < y

theorem diverge_head {x y : Nat} (s t : List Nat) (h : x < y) : Diverge (x :: s) (y :: t) :=
  ⟨[], x, y, s, t, rfl, rfl, h⟩

theorem Diverge.cons {u w : List Nat} (h : Diverge u w) (x : Nat) : Diverge (x :: u) (x :: w) := by
  obtain ⟨p, a, b, s, t, rfl, rfl, hab⟩ := h
  exact ⟨x :: p, a, b, s, t, rfl, rfl, hab⟩

/-- Whatever follows them, the first of two diverging byte strings is the
less. -/
theorem Diverge.bytesLess {u w : List Nat} (h : Diverge u w) (s t : List Nat) :
    bytesLess (u ++ s) (w ++ t) = true ∧ bytesLess (w ++ t) (u ++ s) = false := by
  obtain ⟨p, x, y, s', t', rfl, rfl, hxy⟩ := h
  simp only [List.append_assoc, List.cons_append, bytesLess_append_left]
  constructor
  · simp [Go.bytesLess, hxy]
  · simp [Go.bytesLess, Nat.not_lt.2 hxy.le, hxy.ne']

/-- Byte strings part at the first byte where they differ: a byte not
greater, and equal only if the rest part. -/
theorem diverge_cons_of_le {x y x' y' : Nat} {s t : List Nat} (hxy : x ≤ y)
    (h : x = y → Diverge (x' :: s) (y' :: t)) : Diverge (x :: x' :: s) (y :: y' :: t) := by
  rcases Nat.lt_or_eq_of_le hxy with hxy | rfl
  · exact diverge_head _ _ hxy
  · exact (h rfl).cons x

/-- The encodings of two runes diverge, in the order of the runes: of two
lengths at the lead byte, of one length at the first six bits that differ. -/
theorem utf8Bytes_diverge {c d : Char} (h : c.toNat < d.toNat) : Diverge (utf8Bytes c) (utf8Bytes d) := by
  have hc := char_toNat_lt c
  have hd := char_toNat_lt d
  rw [utf8Bytes_eq, utf8Bytes_eq]
  split_ifs <;> first
    | omega
    | exact diverge_head _ _ (by omega)
    | (repeat refine diverge_cons_of_le (by omega) fun _ => ?_); exact diverge_head _ _ (by omega)

/-! ## Bytes and runes compare alike -/

theorem bytesLess_flatMap : ∀ l₁ l₂ : List Char,
    bytesLess (l₁.flatMap utf8Bytes) (l₂.flatMap utf8Bytes) = runesLess l₁ l₂
  | [], [] => rfl
  | [], d :: ds => by
    obtain ⟨x, s, hx⟩ := List.exists_cons_of_ne_nil (utf8Bytes_ne_nil d)
    simp [hx, bytesLess, runesLess]
  | c :: cs, [] => by
    obtain ⟨x, s, hx⟩ := List.exists_cons_of_ne_nil (utf8Bytes_ne_nil c)
    simp [hx, bytesLess, runesLess]
  | c :: cs, d :: ds => by
    rw [List.flatMap_cons, List.flatMap_cons]
    rcases lt_trichotomy c.toNat d.toNat with h | h | h
    · rw [((utf8Bytes_diverge h).bytesLess _ _).1]
      simp [runesLess, h]
    · obtain rfl : c = d := Char.eq_of_val_eq (UInt32.toNat.inj h)
      rw [bytesLess_append_left, bytesLess_flatMap cs ds]
      simp [runesLess]
    · have hne : c ≠ d := fun e => h.ne' (congrArg Char.toNat e)
      rw [((utf8Bytes_diverge h).bytesLess _ _).2]
      simp [runesLess, Nat.not_lt.2 h.le, hne]

/-- **Go's `<` on strings is `stringLess`**: comparing the UTF-8 bytes of
two strings compares their runes. -/
theorem bytesLess_toUTF8 (a b : String) :
    bytesLess (a.toUTF8.data.toList.map UInt8.toNat) (b.toUTF8.data.toList.map UInt8.toNat) = stringLess a b := by
  have (s : String) : s.toUTF8.data.toList.map UInt8.toNat = s.toList.flatMap utf8Bytes := by
    simp only [String.toUTF8, List.map_flatMap]
    rfl
  rw [this, this, bytesLess_flatMap, stringLess]

example : bytesLess ("é".toUTF8.data.toList.map UInt8.toNat) ("z".toUTF8.data.toList.map UInt8.toNat) = false := by
  decide

end Bytebase.Go
