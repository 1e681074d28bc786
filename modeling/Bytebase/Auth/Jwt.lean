import Bytebase.Go.Basic

/-!
# Auth — parsing a JWT

`jwt.ParseWithClaims` of `golang-jwt/jwt/v4`, the one library call the
server's token checks rest on. The library decodes the claims before it
looks up the key or checks anything, so a token that fails every check
still hands its claims to the caller; the error it returns is a bit set, and
the token is `Valid` exactly when no bit is set.

Base64, JSON and HMAC are outside this model: a `JwtCodec` says what a
token string decodes to and whether its signature verifies under a key.
Times are Unix seconds, and the clock is read at a whole second.
-/

namespace Bytebase.Auth

/-- The claims of a token: `jwt.RegisteredClaims` with the fields the server
reads. -/
structure Claims where
  subject : String
  audience : List String
  expiresAt : Option Int
  notBefore : Option Int
  issuedAt : Option Int
  deriving DecidableEq, Repr

/-- A zero `Claims`, as the server allocates it before parsing. -/
def Claims.zero : Claims := ⟨"", [], none, none, none⟩

/-- A token as `ParseUnverified` reads it: the header's `alg` and `kid` (when
it is a string) and the claims. -/
structure Token where
  alg : String
  kid : Option String
  claims : Claims
  deriving DecidableEq, Repr

/-- What the library does to bytes: decode a token string (three segments of
base64 JSON) and verify its signature under a key. -/
structure JwtCodec where
  decode : String → Option Token
  verify : String → String → Bool

/-- The bits of `jwt.ValidationError` a parse can set. -/
inductive ValidationFlag where
  | malformed | unverifiable | signatureInvalid | expired | issuedAt | notValidYet
  deriving DecidableEq, Repr

/-- The signing methods `jwt` registers. -/
def signingMethods : List String :=
  ["HS256", "HS384", "HS512", "RS256", "RS384", "RS512", "ES256", "ES384", "ES512",
    "PS256", "PS384", "PS512", "EdDSA", "none"]

/-- `!VerifyExpiresAt(now, false)`: an `exp` is set and `now` is not before
it. -/
def isExpired (now : Int) (c : Claims) : Bool := c.expiresAt.any fun exp => !decide (now < exp)

/-- `!VerifyIssuedAt(now, false)`: an `iat` is set and `now` is before it. -/
def isUsedBeforeIssued (now : Int) (c : Claims) : Bool := c.issuedAt.any fun iat => decide (now < iat)

/-- `!VerifyNotBefore(now, false)`: an `nbf` is set and `now` is before it. -/
def isNotValidYet (now : Int) (c : Claims) : Bool := c.notBefore.any fun nbf => decide (now < nbf)

/-- `RegisteredClaims.Valid()` at time `now`: the bits it sets, in the order it
sets them. -/
def claimsErrors (now : Int) (c : Claims) : List ValidationFlag :=
  (if isExpired now c then [.expired] else []) ++ (if isUsedBeforeIssued now c then [.issuedAt] else []) ++
    (if isNotValidYet now c then [.notValidYet] else [])

/-- What `jwt.ParseWithClaims` leaves: the claims it decoded and the bits of
its error (none for a nil error). -/
structure Parsed where
  claims : Claims
  errors : List ValidationFlag
  deriving DecidableEq, Repr

/-- `token.Valid`. -/
def Parsed.valid (p : Parsed) : Bool := p.errors.isEmpty

/-- `jwt.ParseWithClaims(tokenString, claims, keyFunc)` at time `now`, with
`keyFunc` returning the key or failing. A token that does not decode leaves
the claims zero; one with an unknown algorithm, or whose key is refused, is
unverifiable with its claims decoded; otherwise the claims' bits come first
and a bad signature is added to them. -/
def parseWithClaims (codec : JwtCodec) (now : Int) (keyFunc : Token → Option String)
    (tokenString : String) : Parsed :=
  match codec.decode tokenString with
  | none => ⟨Claims.zero, [.malformed]⟩
  | some t =>
    if t.alg ∉ signingMethods then ⟨t.claims, [.unverifiable]⟩
    else match keyFunc t with
    | none => ⟨t.claims, [.unverifiable]⟩
    | some key =>
      ⟨t.claims, claimsErrors now t.claims ++ if codec.verify tokenString key then [] else [.signatureInvalid]⟩

/-! ## What a parse without error, or with only an expiry, says -/

/-- The claims' times hold at `now`: not before issue, not before `nbf`. -/
def Started (now : Int) (c : Claims) : Prop :=
  (∀ iat ∈ c.issuedAt, iat ≤ now) ∧ ∀ nbf ∈ c.notBefore, nbf ≤ now

/-- The token has not expired at `now`; a token without `exp` never does. -/
def Unexpired (now : Int) (c : Claims) : Prop := ∀ exp ∈ c.expiresAt, now < exp

/-- The token decodes to `t`, whose key `keyFunc` gives and whose signature
verifies under it. -/
def Verifies (codec : JwtCodec) (keyFunc : Token → Option String) (tokenString : String) (t : Token) : Prop :=
  codec.decode tokenString = some t ∧ ∃ key, keyFunc t = some key ∧ codec.verify tokenString key = true

section

variable {codec : JwtCodec} {now : Int} {keyFunc : Token → Option String} {s : String}

theorem isExpired_eq_false {c : Claims} : isExpired now c = false ↔ Unexpired now c := by
  cases h : c.expiresAt <;> simp [isExpired, Unexpired, h]

theorem started_iff {c : Claims} : Started now c ↔ isUsedBeforeIssued now c = false ∧ isNotValidYet now c = false := by
  cases hi : c.issuedAt <;> cases hn : c.notBefore <;>
    simp [Started, isUsedBeforeIssued, isNotValidYet, hi, hn, Int.not_lt]

theorem claimsErrors_eq_nil_iff (c : Claims) : claimsErrors now c = [] ↔ Unexpired now c ∧ Started now c := by
  rw [← isExpired_eq_false, started_iff, claimsErrors]
  cases isExpired now c <;> cases isUsedBeforeIssued now c <;> cases isNotValidYet now c <;> simp

theorem claimsErrors_eq_expired_iff (c : Claims) :
    claimsErrors now c = [.expired] ↔ ¬Unexpired now c ∧ Started now c := by
  rw [← isExpired_eq_false, started_iff, claimsErrors]
  cases isExpired now c <;> cases isUsedBeforeIssued now c <;> cases isNotValidYet now c <;> simp

/-- What a parse can end in: a malformed or unverifiable token, or a decoded
one whose key was found, with the bits of its claims and signature. -/
theorem parseWithClaims_cases :
    (parseWithClaims codec now keyFunc s).errors = [.malformed] ∨
      (parseWithClaims codec now keyFunc s).errors = [.unverifiable] ∨
      ∃ t key, codec.decode s = some t ∧ keyFunc t = some key ∧
        (parseWithClaims codec now keyFunc s).claims = t.claims ∧
        (parseWithClaims codec now keyFunc s).errors =
          claimsErrors now t.claims ++ if codec.verify s key then [] else [.signatureInvalid] := by
  unfold parseWithClaims
  split
  · exact .inl rfl
  rename_i t hd
  split_ifs
  · split
    · exact .inr (.inl rfl)
    · rename_i key hk
      exact .inr (.inr ⟨t, key, hd, hk, rfl, rfl⟩)
  · exact .inr (.inl rfl)

/-- A parse with no error bit: the token verifies and its times hold. -/
theorem parseWithClaims_errors_eq_nil (h : (parseWithClaims codec now keyFunc s).errors = []) :
    ∃ t, Verifies codec keyFunc s t ∧ (parseWithClaims codec now keyFunc s).claims = t.claims ∧
      Unexpired now t.claims ∧ Started now t.claims := by
  rcases parseWithClaims_cases with he | he | ⟨t, key, hd, hk, hc, he⟩ <;> rw [he] at h
  · cases h
  · cases h
  obtain ⟨hcl, hsig⟩ := List.append_eq_nil.1 h
  split at hsig
  · exact ⟨t, ⟨hd, key, hk, ‹_›⟩, hc, (claimsErrors_eq_nil_iff _).1 hcl⟩
  · cases hsig

/-- A parse whose one error bit is the expiry: the token verifies and was
issued, but has expired. -/
theorem parseWithClaims_errors_eq_expired (h : (parseWithClaims codec now keyFunc s).errors = [.expired]) :
    ∃ t, Verifies codec keyFunc s t ∧ (parseWithClaims codec now keyFunc s).claims = t.claims ∧
      ¬Unexpired now t.claims ∧ Started now t.claims := by
  rcases parseWithClaims_cases with he | he | ⟨t, key, hd, hk, hc, he⟩ <;> rw [he] at h
  · cases h
  · cases h
  split at h
  · rw [List.append_nil] at h
    exact ⟨t, ⟨hd, key, hk, ‹_›⟩, hc, (claimsErrors_eq_expired_iff _).1 h⟩
  · simpa using congrArg List.getLast? h

/-- The claims a parse hands back are the decoded ones, whatever its error;
a token that does not decode leaves them zero. -/
theorem parseWithClaims_claims :
    (parseWithClaims codec now keyFunc s).claims = ((codec.decode s).map (·.claims)).getD Claims.zero := by
  unfold parseWithClaims
  split
  · simp [*]
  · rename_i t hd
    simp only [hd, Option.map_some', Option.getD_some]
    split_ifs <;> (try split) <;> rfl

/-- A token with a registered algorithm, whose key is found and whose
signature verifies under it: the parse keeps its claims, with their bits
only. -/
theorem parseWithClaims_of_verify {t : Token} {key : String} (hd : codec.decode s = some t)
    (halg : t.alg ∈ signingMethods) (hk : keyFunc t = some key) (hv : codec.verify s key = true) :
    parseWithClaims codec now keyFunc s = ⟨t.claims, claimsErrors now t.claims⟩ := by
  simp [parseWithClaims, hd, halg, hk, hv]

/-- Claims with an `exp`, an `iat` that has passed and no `nbf`: the expiry
is the one bit they can set. -/
theorem claimsErrors_of_issued {subject : String} {audience : List String} {exp iat : Int} (h : iat ≤ now) :
    claimsErrors now ⟨subject, audience, some exp, none, some iat⟩ = if now < exp then [] else [.expired] := by
  by_cases he : now < exp <;> simp [claimsErrors, isExpired, isUsedBeforeIssued, isNotValidYet, he, Int.not_lt.2 h]

end

end Bytebase.Auth
