import Bytebase.Go.Basic

/-!
# Go — `path.Join` and `filepath.Match`

`path.Join` builds the template a changed file is matched against
(`getFileInfo`), and `filepath.Match` decides whether a pushed branch
passes a repository's branch filter (`isWebhookEventBranch`).

`filepath.Match` follows Go 1.16 and later: after a chunk fails to match,
the rest of the pattern is still checked, so a malformed pattern is an
error (`ErrBadPattern`, here `.error ()`) even when the name could never
match. The separator is `/`. Names are read rune by rune: `?` and a
character class consume one rune, as in Go; the star's search skips one
rune at a time where Go skips one byte. The two agree on ASCII names. On a
name with multi-byte runes Go also tries the chunk from inside a rune,
where it decodes U+FFFD, so `*[^é]` matches `é` in Go and not here.

The three scanners recurse on fuel, one unit per rune of the pattern;
`pattern.length + 1` is always enough, and running out is an error.
-/

namespace Bytebase.Go

/-! ## `path.Clean` and `path.Join` -/

/-- One segment of `path.Clean`'s scan, on the stack of kept segments (last
kept first): `.` is dropped, `..` removes the last real segment, or stays
when there is none to remove and the path is relative. -/
def cleanStep (rooted : Bool) (stack : List (List Char)) (seg : List Char) : List (List Char) :=
  if seg.isEmpty || seg = ['.'] then stack
  else if seg = ['.', '.'] then
    match stack with
    | top :: rest => if top = ['.', '.'] then ['.', '.'] :: stack else rest
    | [] => if rooted then [] else [['.', '.']]
  else seg :: stack

/-- `path.Clean`: the shortest path equal to `p` by purely lexical processing. -/
def pathClean (p : String) : String :=
  let cs := p.toList
  let rooted := cs.head? == some '/'
  let stack := (cs.splitOn '/').foldl (cleanStep rooted) []
  let body := (List.intersperse ['/'] stack.reverse).flatten
  let out := if rooted then '/' :: body else body
  if out.isEmpty then "." else ⟨out⟩

/-- `path.Join(a, b)`: the non-empty elements joined by `/`, then cleaned. -/
def pathJoin (a b : String) : String :=
  if a.isEmpty && b.isEmpty then ""
  else if a.isEmpty then pathClean b
  else pathClean (a ++ "/" ++ b)

/-! ## `filepath.Match` -/

/-- `scanChunk` after the leading stars: the chunk runs to the first star
outside a character class; a backslash escapes the rune after it. -/
def scanChunkBody (inrange : Bool) : List Char → List Char × List Char
  | [] => ([], [])
  | '\\' :: c :: p => let r := scanChunkBody inrange p; ('\\' :: c :: r.1, r.2)
  | '[' :: p => let r := scanChunkBody true p; ('[' :: r.1, r.2)
  | ']' :: p => let r := scanChunkBody false p; (']' :: r.1, r.2)
  | '*' :: p =>
    if inrange then let r := scanChunkBody inrange p; ('*' :: r.1, r.2)
    else ([], '*' :: p)
  | c :: p => let r := scanChunkBody inrange p; (c :: r.1, r.2)

/-- `scanChunk(pattern)`: whether stars lead, the chunk, and the rest. -/
def scanChunk (pattern : List Char) : Bool × List Char × List Char :=
  let body := pattern.dropWhile (· == '*')
  (body.length < pattern.length, scanChunkBody false body)

/-- `getEsc(chunk)`: one rune of a character class, unescaped, and the rest,
which must not be empty. -/
def getEsc : List Char → Except Unit (Char × List Char)
  | [] => .error ()
  | '-' :: _ => .error ()
  | ']' :: _ => .error ()
  | '\\' :: [] => .error ()
  | '\\' :: c :: rest => if rest.isEmpty then .error () else .ok (c, rest)
  | c :: rest => if rest.isEmpty then .error () else .ok (c, rest)

/-- The range loop of a character class (after `[` and an optional `^`):
whether rune `r` falls in one of the ranges, and the chunk after the
closing `]`. `started` is Go's `nrange > 0`. -/
def classLoop : Nat → Char → Bool → Bool → List Char → Except Unit (Bool × List Char)
  | 0, _, _, _, _ => .error ()
  | fuel + 1, r, m, started, chunk =>
    match chunk with
    | ']' :: rest => if started then .ok (m, rest) else .error ()
    | _ => do
      let (lo, chunk) ← getEsc chunk
      let (hi, chunk) ← match chunk with
        | '-' :: ch => getEsc ch
        | ch => pure (lo, ch)
      classLoop fuel r (m || (lo ≤ r && r ≤ hi)) true chunk

/-- `matchChunk(chunk, s)`: `some rest` when the chunk matches a prefix of
`s`, `none` when it does not, an error when the chunk is malformed. The
flag is Go's `failed`: once set, `s` is no longer read but the chunk is
still checked. -/
def matchChunk : Nat → List Char → Bool → List Char → Except Unit (Option (List Char))
  | 0, _, _, _ => .error ()
  | _ + 1, [], failed, s => .ok (if failed then none else some s)
  | fuel + 1, c :: chunk, failed, s =>
    let failed := failed || s.isEmpty
    let literal (d : Char) (chunk : List Char) :=
      if failed then matchChunk fuel chunk true s
      else matchChunk fuel chunk (s.head? != some d) s.tail
    match c with
    | '[' => do
      let r := if failed then '\x00' else s.headD '\x00'
      let s' := if failed then s else s.tail
      let (negated, chunk) : Bool × List Char := match chunk with
        | '^' :: ch => (true, ch)
        | ch => (false, ch)
      let (m, chunk) ← classLoop fuel r false false chunk
      matchChunk fuel chunk (failed || m == negated) s'
    | '?' =>
      if failed then matchChunk fuel chunk true s
      else matchChunk fuel chunk (s.head? == some '/') s.tail
    | '\\' =>
      match chunk with
      | [] => .error ()
      | d :: chunk => literal d chunk
    | d => literal d chunk

/-- The star's search in `Match`: skip one more rune (never a separator)
and retry the chunk; for the last chunk only a match that ends the name
counts. -/
def starSearch (chunkAt : List Char → Except Unit (Option (List Char))) (last : Bool) :
    List Char → Except Unit (Option (List Char))
  | [] => .ok none
  | c :: rest =>
    if c = '/' then .ok none
    else match chunkAt rest with
      | .ok (some t) => if last && !t.isEmpty then starSearch chunkAt last rest else .ok (some t)
      | .ok none => starSearch chunkAt last rest
      | .error e => .error e

/-- The check `Match` makes before it answers `false`: every chunk left in
the pattern must be well-formed. -/
def validateRest : Nat → List Char → Except Unit Unit
  | 0, _ => .error ()
  | _ + 1, [] => .ok ()
  | fuel + 1, pattern =>
    let (_, chunk, rest) := scanChunk pattern
    match matchChunk (chunk.length + 1) chunk false [] with
    | .error e => .error e
    | .ok _ => validateRest fuel rest

/-- The `Pattern:` loop of `filepath.Match`, chunk by chunk. -/
def matchLoop : Nat → List Char → List Char → Except Unit Bool
  | 0, _, _ => .error ()
  | _ + 1, [], name => .ok name.isEmpty
  | fuel + 1, pattern, name =>
    let (star, chunk, rest) := scanChunk pattern
    let chunkAt := matchChunk (chunk.length + 1) chunk false
    let giveUp : Except Unit Bool := (validateRest (rest.length + 1) rest).map fun _ => false
    let viaStar : Except Unit Bool :=
      if star then
        match starSearch chunkAt rest.isEmpty name with
        | .ok (some t) => matchLoop fuel rest t
        | .ok none => giveUp
        | .error e => .error e
      else giveUp
    if star && chunk.isEmpty then .ok !(name.contains '/')
    else match chunkAt name with
      | .ok (some t) => if t.isEmpty || !rest.isEmpty then matchLoop fuel rest t else viaStar
      | .ok none => viaStar
      | .error e => .error e

/-- `filepath.Match(pattern, name)`: `.error ()` is `ErrBadPattern`. -/
def filepathMatch (pattern name : String) : Except Unit Bool :=
  matchLoop (pattern.length + 1) pattern.toList name.toList

example : filepathMatch "release/*" "release/1.0" = .ok true := by decide
example : filepathMatch "release/*" "release" = .ok false := by decide
example : filepathMatch "release-[*" "main" = .error () := by decide

/-! ## Patterns without syntax -/

/-- A rune `filepath.Match` reads as pattern syntax off Windows. -/
def metaRune (c : Char) : Bool := c == '*' || c == '?' || c == '[' || c == '\\'

/-- `filepath.hasMeta(path)`: `strings.ContainsAny(path, "*?[\\")`. -/
def hasMeta (path : String) : Bool := path.toList.any metaRune

theorem not_metaRune {c : Char} (h : metaRune c = false) : c ≠ '*' ∧ c ≠ '?' ∧ c ≠ '[' ∧ c ≠ '\\' := by
  simpa [metaRune, and_assoc] using h

theorem scanChunkBody_literal {p : List Char} (h : ∀ c ∈ p, metaRune c = false) :
    scanChunkBody false p = (p, []) := by
  induction p with
  | nil => rfl
  | cons c p ih =>
    have hr := ih fun d hd => h d (List.mem_cons_of_mem _ hd)
    obtain ⟨h1, h2, h3, h4⟩ := not_metaRune (h c (List.mem_cons_self _ _))
    by_cases hb : c = ']'
    · subst hb; simp [scanChunkBody, hr]
    · rw [scanChunkBody, hr] <;> simp_all

/-- A chunk without syntax matches a prefix of `s` equal to it, rune for
rune, and hands back the rest. -/
theorem matchChunk_literal {p : List Char} (h : ∀ c ∈ p, metaRune c = false) :
    ∀ fuel, p.length < fuel → ∀ failed s, matchChunk fuel p failed s =
      .ok (if !failed && p.isPrefixOf s then some (s.drop p.length) else none) := by
  induction p with
  | nil =>
    rintro (_ | fuel) hf failed s
    · cases hf
    · cases failed <;> simp [matchChunk]
  | cons c p ih =>
    rintro (_ | fuel) hf failed s
    · cases hf
    have ih' := ih (fun d hd => h d (List.mem_cons_of_mem _ hd)) fuel (by simp at hf; omega)
    obtain ⟨h1, h2, h3, h4⟩ := not_metaRune (h c (List.mem_cons_self _ _))
    -- the rune is a literal: the other arms of the match are excluded
    rw [matchChunk] <;> try exact fun e => absurd e ‹_›
    rcases s with _ | ⟨d, s⟩
    · cases failed <;> simp [ih']
    · cases failed
      · by_cases hd : d = c
        · subst hd; simp [ih']
        · simp [ih', hd, Ne.symm hd]
      · simp [ih']

theorem prefix_drop_eq_nil_iff {l s : List Char} : (l <+: s ∧ s.drop l.length = []) ↔ l = s := by
  constructor
  · rintro ⟨⟨t, rfl⟩, ht⟩
    rw [List.drop_left] at ht
    subst ht
    exact (List.append_nil l).symm
  · rintro rfl; simp

/-- **A pattern without syntax matches only itself.** -/
theorem filepathMatch_of_hasMeta_eq_false {pattern : String} (h : hasMeta pattern = false) (name : String) :
    filepathMatch pattern name = .ok (pattern == name) := by
  replace h : ∀ c ∈ pattern.toList, metaRune c = false := by simpa [hasMeta] using h
  have heq : (pattern == name) = decide (pattern.toList = name.toList) := by
    rw [Bool.eq_iff_iff, beq_iff_eq, decide_eq_true_iff]
    exact ⟨congrArg String.toList, fun e => by cases pattern; cases name; cases e; rfl⟩
  unfold filepathMatch
  rw [heq, show pattern.length = pattern.toList.length from rfl]
  generalize pattern.toList = l at h
  generalize name.toList = s
  rcases l with _ | ⟨c, p⟩
  · cases s <;> rfl
  · obtain ⟨h1, -, -, -⟩ := not_metaRune (h c (List.mem_cons_self _ _))
    have hscan : scanChunk (c :: p) = (false, c :: p, []) := by
      simp [scanChunk, h1, scanChunkBody_literal h]
    have hiff := @prefix_drop_eq_nil_iff (c :: p) s
    simp only [matchLoop, hscan, matchChunk_literal h _ (Nat.lt_succ_self _)]
    by_cases hpre : (c :: p) <+: s
    · by_cases hnil : s.drop (c :: p).length = []
      · have he : c :: p = s := hiff.1 ⟨hpre, hnil⟩
        simp [hpre, hnil, he, matchLoop]
      · have hne : c :: p ≠ s := fun e => hnil (hiff.2 e).2
        simp [hpre, hne, validateRest, Except.map]
        exact fun hle => absurd (List.drop_eq_nil_of_le hle) hnil
    · have hne : c :: p ≠ s := fun e => hpre (hiff.2 e).1
      simp [hpre, hne, validateRest, Except.map]

end Bytebase.Go
