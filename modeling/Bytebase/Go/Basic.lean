import Mathlib

/-!
# Go — strings and errors

The pieces of Go's `strings`, `strconv`, `unicode`, `fmt` and `errors`
packages, and of the server's own `common` package, that the server code
calls, on `String` read as its list of runes. Every function is the
package function of the same name, restricted to the arguments the
server passes (`Replace` with `n = 1`, `Contains` with a one-rune needle).

Errors keep what the handlers put in them: the HTTP status of an
`echo.HTTPError` and its message, or the text of a plain error.
-/

namespace Bytebase.Go

universe u v

/-- Results compare constructor by constructor, so that what a call
returns can be decided. -/
instance decEqExcept {ε : Type u} {α : Type v} [DecidableEq ε] [DecidableEq α] : DecidableEq (Except ε α)
  | .error e, .error e' => decidable_of_iff (e = e') (by simp)
  | .ok a, .ok a' => decidable_of_iff (a = a') (by simp)
  | .error _, .ok _ => isFalse nofun
  | .ok _, .error _ => isFalse nofun

/-! ## Strings -/

/-- `strings.HasPrefix(s, prefix)`. -/
def hasPrefix (s pre : String) : Bool := pre.toList.isPrefixOf s.toList

/-- `strings.TrimPrefix(s, prefix)`. -/
def trimPrefix (s pre : String) : String :=
  if hasPrefix s pre then ⟨s.toList.drop pre.length⟩ else s

/-- `strings.Contains(s, string(c))`. -/
def containsRune (s : String) (c : Char) : Bool := s.toList.contains c

/-- `strings.Replace(s, old, new, 1)` on rune lists: the first occurrence of
`old` is replaced; an empty `old` matches at the start. -/
def replaceFirst (old new : List Char) : List Char → List Char
  | [] => if old.isEmpty then new else []
  | c :: cs =>
    if old.isPrefixOf (c :: cs) then new ++ (c :: cs).drop old.length
    else c :: replaceFirst old new cs

/-- `strings.Replace(s, old, new, 1)`. -/
def replaceOnce (s old new : String) : String :=
  ⟨replaceFirst old.toList new.toList s.toList⟩

/-- `strings.ReplaceAll(s, string(old), new)`, for a one-rune `old`. -/
def replaceAllRune (s : String) (old : Char) (new : String) : String :=
  ⟨s.toList.flatMap fun c => if c = old then new.toList else [c]⟩

/-- `strings.Trim(s, string(c))`: every leading and trailing `c` removed. -/
def trimRune (s : String) (c : Char) : String :=
  ⟨((s.toList.dropWhile (· == c)).reverse.dropWhile (· == c)).reverse⟩

/-- `strings.Join(elems, sep)`. -/
def join (elems : List String) (sep : String) : String := sep.intercalate elems

/-- The loop of `strings.EqualFold` that walks the case-folding orbit of
`sr` with `unicode.SimpleFold` until it comes back to `sr` or reaches
`tr`. The fuel, one step per code point, never runs out when every orbit
of the table is a cycle, as Go's are. -/
def foldOrbit (simpleFold : Char → Char) (sr tr : Char) : Nat → Char → Char
  | 0, r => r
  | fuel + 1, r => if r ≠ sr ∧ r < tr then foldOrbit simpleFold sr tr fuel (simpleFold r) else r

/-- `strings.EqualFold` on rune lists, given `unicode.SimpleFold`: two
different runes agree when they are an ASCII letter and its lower case,
or, past ASCII, when the smaller one's orbit reaches the larger. -/
def equalFoldRunes (simpleFold : Char → Char) : List Char → List Char → Bool
  | sr :: s, tr :: t =>
    if tr = sr then equalFoldRunes simpleFold s t
    else
      let (sr, tr) := if tr < sr then (tr, sr) else (sr, tr)
      if tr.toNat < 0x80 then ('A' ≤ sr && sr ≤ 'Z' && tr.toNat == sr.toNat + 32) && equalFoldRunes simpleFold s t
      else foldOrbit simpleFold sr tr 0x110000 (simpleFold sr) == tr && equalFoldRunes simpleFold s t
  | s, t => s.isEmpty && t.isEmpty

/-- `strings.EqualFold(s, t)`. Go's Unicode tables are not part of these
sources, so `unicode.SimpleFold` is a parameter: the next larger rune of
the argument's case-folding orbit, wrapping to its smallest. -/
def equalFold (simpleFold : Char → Char) (s t : String) : Bool := equalFoldRunes simpleFold s.toList t.toList

example : equalFold (fun c => if c = 'Ü' then 'ü' else if c = 'ü' then 'Ü' else c) "Staging-Ü" "staging-ü" = true := by
  decide

/-- The escape `strconv.Quote` writes for one rune: quote, backslash and the
usual control characters; other runes are copied. -/
def quoteRune : Char → List Char
  | '"' => ['\\', '"']
  | '\\' => ['\\', '\\']
  | '\n' => ['\\', 'n']
  | '\r' => ['\\', 'r']
  | '\t' => ['\\', 't']
  | c => [c]

/-- `fmt.Sprintf("%q", s)`. -/
def quote (s : String) : String :=
  ⟨'"' :: s.toList.flatMap quoteRune ++ ['"']⟩

/-- `common.HasPrefixes(s, prefixes...)`: some prefix of the list starts `s`. -/
def hasPrefixes (s : String) (prefixes : List String) : Bool := prefixes.any (hasPrefix s)

/-- `unicode.IsSpace`: the Latin-1 spaces, then Unicode's other `White_Space`
runes. -/
def isSpace (c : Char) : Bool :=
  c = '\t' || c = '\n' || c = '\x0B' || c = '\x0C' || c = '\r' || c = ' ' || c = '\x85' || c = '\xA0' ||
    c.toNat = 0x1680 || (0x2000 ≤ c.toNat && c.toNat ≤ 0x200A) || c.toNat = 0x2028 ||
    c.toNat = 0x2029 || c.toNat = 0x202F || c.toNat = 0x205F || c.toNat = 0x3000

/-- `strings.Fields(s)`: the maximal runs of non-space runes. -/
def fields (s : String) : List String :=
  ((s.toList.splitOnP isSpace).filter (· ≠ [])).map String.mk

/-- `strings.ToLower` on ASCII. No other rune lowers to an ASCII letter but
the Kelvin sign and the dotted capital I, so a comparison of the result with
an ASCII word that has neither `k` nor `i` is Go's. -/
def toLower (s : String) : String := ⟨s.toList.map Char.toLower⟩

/-- `fmt.Sprintf("%q", l)` for a string slice: each element quoted, spaces
between, in brackets. -/
def quoteSlice (l : List String) : String := "[" ++ join (l.map quote) " " ++ "]"

@[simp] theorem hasPrefix_iff (s pre : String) :
    hasPrefix s pre = true ↔ pre.toList <+: s.toList := by
  simp [hasPrefix, List.isPrefixOf_iff_prefix]

@[simp] theorem containsRune_iff (s : String) (c : Char) :
    containsRune s c = true ↔ c ∈ s.toList := by
  simp [containsRune]

/-- Go's `<` on runes of two strings: lexicographic, rune by rune. -/
def runesLess : List Char → List Char → Bool
  | [], [] => false
  | [], _ :: _ => true
  | _ :: _, [] => false
  | a :: as, b :: bs => a.toNat < b.toNat || (a == b && runesLess as bs)

/-- Go's `<` on strings. Go compares the UTF-8 bytes, and UTF-8 keeps the
order of code points, so this is the rune-by-rune order. -/
def stringLess (a b : String) : Bool := runesLess a.toList b.toList

example : stringLess "2022.1" "2022.10" = true ∧ stringLess "b" "a" = false := by decide

theorem runesLess_iff : ∀ {l₁ l₂ : List Char}, runesLess l₁ l₂ = true ↔ l₁ < l₂
  | [], [] => iff_of_false Bool.false_ne_true (List.Lex.not_nil_right _ _)
  | [], _ :: _ => iff_of_true rfl (List.nil_lt_cons _ _)
  | _ :: _, [] => iff_of_false Bool.false_ne_true (List.Lex.not_nil_right _ _)
  | a :: as, b :: bs => by
    simp only [runesLess, Bool.or_eq_true, decide_eq_true_eq, Bool.and_eq_true, beq_iff_eq, runesLess_iff]
    constructor
    · rintro (h | ⟨rfl, h⟩)
      · exact .rel h
      · exact .cons h
    · intro h
      cases h with
      | cons h => exact .inr ⟨rfl, h⟩
      | rel h => exact .inl h

/-- Go's `<` on strings is `String`'s order. -/
theorem stringLess_iff {a b : String} : stringLess a b = true ↔ a < b := by
  rw [stringLess, runesLess_iff, String.lt_iff_toList_lt]

/-! ## Numbers -/

/-- The value of a list of decimal digits, most significant first. -/
def digitsValue (ds : List Char) : Nat :=
  ds.foldl (fun n d => 10 * n + (d.toNat - '0'.toNat)) 0

/-- `strconv.Atoi` on a 64-bit platform: an optional sign, then one or more
ASCII digits, the value within `int64`. -/
def atoi (s : String) : Option Int :=
  let (neg, ds) : Bool × List Char := match s.toList with
    | '+' :: ds => (false, ds)
    | '-' :: ds => (true, ds)
    | ds => (false, ds)
  if ds.isEmpty || !ds.all Char.isDigit then none
  else
    let v : Int := if neg then -(digitsValue ds : Int) else digitsValue ds
    if -2 ^ 63 ≤ v ∧ v < 2 ^ 63 then some v else none

/-- `strconv.Itoa(i)`: the decimal digits of `|i|`, after a minus sign when
`i` is negative. -/
def itoa (i : Int) : String := if i < 0 then "-" ++ Nat.repr i.natAbs else Nat.repr i.natAbs

theorem digitsValue_concat (ds : List Char) (c : Char) :
    digitsValue (ds ++ [c]) = 10 * digitsValue ds + (c.toNat - '0'.toNat) := by
  simp [digitsValue, List.foldl_append]

theorem digitChar_isDigit : ∀ d < 10, (Nat.digitChar d).isDigit ∧ (Nat.digitChar d).toNat - '0'.toNat = d := by
  decide

/-- The digits `Nat.toDigits` prints in front of `ds`, given enough fuel:
one or more ASCII digits whose value is `n`. -/
theorem toDigitsCore_ten {fuel n : Nat} (ds : List Char) (h : n < fuel) :
    ∃ D, Nat.toDigitsCore 10 fuel n ds = D ++ ds ∧ D ≠ [] ∧ D.all Char.isDigit ∧ digitsValue D = n := by
  induction fuel generalizing n ds with
  | zero => omega
  | succ fuel ih =>
    obtain ⟨hd, hv⟩ := digitChar_isDigit (n % 10) (Nat.mod_lt n (by decide))
    simp only [Nat.toDigitsCore]
    split
    · refine ⟨[Nat.digitChar (n % 10)], rfl, List.cons_ne_nil _ _, by simpa using hd, ?_⟩
      simp only [digitsValue, List.foldl, hv]
      omega
    · obtain ⟨D, hD, -, hall, hval⟩ := ih (Nat.digitChar (n % 10) :: ds) (n := n / 10) (by omega)
      refine ⟨D ++ [Nat.digitChar (n % 10)], by simpa using hD, by simp, by simp [hall, hd], ?_⟩
      rw [digitsValue_concat, hval, hv]
      omega

/-- **`strconv.Atoi` reads back what `strconv.Itoa` prints**, for every
`int64`. The printed digits never start with a sign, so only a negative
number's own minus sign is read as one. -/
theorem atoi_itoa {i : Int} (h : -2 ^ 63 ≤ i ∧ i < 2 ^ 63) : atoi (itoa i) = some i := by
  obtain ⟨D, hD, hne, hall, hval⟩ := toDigitsCore_ten [] (Nat.lt_succ_self i.natAbs)
  have hrepr : (Nat.repr i.natAbs).toList = D := (List.append_nil D) ▸ hD
  obtain ⟨c, D', rfl⟩ := List.exists_cons_of_ne_nil hne
  have hc : c.isDigit = true := by simp_all
  have habs : (i.natAbs : Int) = if i < 0 then -i else i := by split <;> omega
  unfold atoi itoa
  split_ifs with hneg
  · rw [show ("-" ++ Nat.repr i.natAbs).toList = '-' :: c :: D' by rw [← hrepr]; rfl]
    simpa [hall, hval, habs, hneg] using h
  · rw [hrepr]
    split
    rename_i neg ds hsign
    -- the first digit is neither sign
    obtain ⟨rfl, rfl⟩ : neg = false ∧ ds = c :: D' := by
      split at hsign <;> simp_all
    simpa [hall, hval, habs, hneg] using h

example : itoa (-42) = "-42" ∧ atoi (itoa (-42)) = some (-42) := by decide

/-- What `toString` prints for an integer (as `%d` does): a minus sign and
decimal digits. -/
theorem mem_toString_int {i : Int} {c : Char} (h : c ∈ (toString i).toList) : c = '-' ∨ c.isDigit := by
  have hnat (n : Nat) (hc : c ∈ (Nat.repr n).toList) : c.isDigit := by
    obtain ⟨D, hD, -, hall, -⟩ := toDigitsCore_ten [] (Nat.lt_succ_self n)
    have hrepr : (Nat.repr n).toList = D := (List.append_nil D) ▸ hD
    exact List.all_eq_true.1 hall c (hrepr ▸ hc)
  rcases i with n | n
  · exact .inr (hnat n h)
  · rcases List.mem_cons.1 h with h | h
    · exact .inl h
    · exact .inr (hnat (n + 1) h)

/-- `toString` prints at least one rune for an integer. -/
theorem toString_int_ne_nil (i : Int) : (toString i).toList ≠ [] := by
  rcases i with n | n
  · obtain ⟨D, hD, hne, -, -⟩ := toDigitsCore_ten [] (Nat.lt_succ_self n)
    have hrepr : (Nat.repr n).toList = D := (List.append_nil D) ▸ hD
    show (Nat.repr n).toList ≠ []
    rw [hrepr]
    exact hne
  · exact List.cons_ne_nil _ _

/-! ## Errors -/

/-- An error value as the handlers build it. -/
inductive GoError where
  /-- `echo.NewHTTPError(code, message)`; an internal cause is not shown. -/
  | http (code : Nat) (message : String)
  /-- `errors.New`, `errors.Errorf` or a wrapped error: its text. -/
  | plain (text : String)
  deriving DecidableEq, Repr

/-- The text `err.Error()` prints. -/
def GoError.text : GoError → String
  | .http code msg => "code=" ++ toString code ++ ", message=" ++ msg
  | .plain t => t

/-- `errors.Wrap(err, msg)` for a non-nil `err`. -/
def GoError.wrap (e : GoError) (msg : String) : GoError := .plain (msg ++ ": " ++ e.text)

end Bytebase.Go
