import Bytebase.Auth.Jwt
import Bytebase.Api

/-!
# Auth — the JWT middleware

`JWTMiddleware` of `server/activity.go`: which requests pass without a
token, where the access token is read from, and when an expired access
token is let through because the request also carries a refresh token.
The handler's result is an `Outcome`: `next` was called (with the
principal ID stored in the context, and the user new token cookies were
set for), an HTTP error was returned, or the handler panicked.

The store's `GetPrincipalByID`, the clock and the package constant
`openAPIPrefix` (not among the sources) are fields of an `AuthEnv`.
`GenerateTokensAndSetCookies` cannot fail: HS256 signing with a byte-slice
key returns no error, so its one effect is the cookies it sets, the tokens
`generateAccessToken` and `generateRefreshToken` build. What a call of
`next` guarantees (`jwtMiddleware_next`) is the converse of what a session
the server issued obtains (`jwtMiddleware_of_session`), and falls short of
it in one place: the refresh token need not name the access token's
principal.
-/

namespace Bytebase.Auth

open Bytebase.Go Bytebase.Api

/-- An HTTP request as the middleware reads it. -/
structure Request where
  /-- `c.Request().URL.Path`. -/
  urlPath : String
  /-- `c.Path()`: the route the request matched. -/
  routePath : String
  method : String
  /-- `Header.Get("Authorization")`, empty when absent. -/
  authorization : String
  /-- The pairs of the `Cookie` header, in order. -/
  cookies : List (String × String)
  deriving DecidableEq, Repr

/-- `c.Cookie(name)`: the first cookie of that name. -/
def Request.cookie (req : Request) (name : String) : Option String :=
  (req.cookies.find? (·.1 == name)).map (·.2)

/-- What `JWTMiddleware` reads besides the request. -/
structure AuthEnv where
  pathPrefix : String
  /-- The package constant `openAPIPrefix`. -/
  openAPIPrefix : String
  mode : String
  secret : String
  /-- `time.Now()`. -/
  now : Int
  codec : JwtCodec
  /-- `principalStore.GetPrincipalByID`. -/
  getPrincipalByID : Int → Except GoError (Option Principal)

/-- What the handler did. -/
inductive Outcome where
  /-- `next(c)`, with the principal ID stored in the context (none on a
  path that skips authentication) and the user new token cookies were set
  for. -/
  | next (principalID : Option Int) (reissuedFor : Option Principal)
  | error (e : GoError)
  | panic (what : String)
  deriving DecidableEq, Repr

/-! ## Constants and helpers -/

/-- `accessTokenCookieName`. -/
def accessTokenCookieName : String := "access-token"

/-- `refreshTokenCookieName`. -/
def refreshTokenCookieName : String := "refresh-token"

/-- `refreshThresholdDuration`, in seconds. -/
def refreshThresholdDuration : Int := 3600

/-- `fmt.Sprintf(accessTokenAudienceFmt, mode)`. -/
def accessTokenAudience (mode : String) : String := "bb.user.access." ++ mode

/-- `fmt.Sprintf(refreshTokenAudienceFmt, mode)`. -/
def refreshTokenAudience (mode : String) : String := "bb.user.refresh." ++ mode

/-- `audienceContains(audience, token)`. -/
def audienceContains (audience : List String) (token : String) : Bool := audience.any (· == token)

/-- The key function both parses pass: an HS256 token with `kid` "v1" is
checked against the secret, any other is refused. The access and refresh
closures differ only in the texts of their errors, which end up as the
internal cause of an error and are never shown. -/
def hs256KeyFunc (secret : String) (t : Token) : Option String :=
  if t.alg ≠ "HS256" then none
  else if t.kid = some "v1" then some secret else none

/-- `findAccessToken(c)`: an OpenAPI route reads a bearer token from the
`Authorization` header (a missing header gives an empty token), any other
route the access-token cookie. -/
def findAccessToken (env : AuthEnv) (req : Request) : Except GoError String :=
  if hasPrefixes req.routePath [env.openAPIPrefix] then
    if req.authorization = "" then .ok ""
    else match fields req.authorization with
      | [scheme, token] =>
        if toLower scheme = "bearer" then .ok token
        else .error (.plain "Authorization header format must be Bearer \x7btoken\x7d")
      | _ => .error (.plain "Authorization header format must be Bearer \x7btoken\x7d")
  else match req.cookie accessTokenCookieName with
    | none => .error (.plain "http: named cookie not present")
    | some v => .ok v

/-- The requests `JWTMiddleware` passes to `next` without a token: paths
under `/auth` or `/actuator`, a GET under `/subscription`, and the OpenAPI
SQL route. -/
def skipsAuth (env : AuthEnv) (req : Request) : Bool :=
  let path := trimPrefix req.urlPath env.pathPrefix
  hasPrefixes path ["/auth", "/actuator"] || (hasPrefixes path ["/subscription"] && req.method == "GET") ||
    hasPrefixes req.routePath [env.openAPIPrefix ++ "/sql"]

/-! ## The middleware -/

/-- `generateTokenFunc`, for the principal of the access token: the refresh
cookie is parsed, and when it has no error and the refresh audience, new
tokens are set (`true`). `ParseWithClaims` never returns the bare
`jwt.ErrSignatureInvalid`, so a bad signature takes the server-error
branch. -/
def generateTokenFunc (env : AuthEnv) (req : Request) (principalID : Int) : Except GoError Bool :=
  match req.cookie refreshTokenCookieName with
  | none => .error (.http 401 "Failed to generate access token. Missing refresh token.")
  | some rc =>
    let refreshToken := parseWithClaims env.codec env.now (hs256KeyFunc env.secret) rc
    if !refreshToken.errors.isEmpty then
      .error (.http 500 ("Server error to refresh expired token. User Id " ++ toString principalID))
    else if !audienceContains refreshToken.claims.audience (refreshTokenAudience env.mode) then
      .error (.http 401 ("Invalid refresh token, audience mismatch, got " ++ quoteSlice refreshToken.claims.audience ++
        ", expected " ++ quote (refreshTokenAudience env.mode) ++ ". you may send request to the wrong environment"))
    else .ok refreshToken.valid

/-- The branch of `JWTMiddleware` taken once the access token's error is
nil or cleared: the subject must name an existing principal, and when
`generateToken` is set, a failure of `generateTokenFunc` is returned only if
the access token is not valid. -/
def acceptAccessToken (env : AuthEnv) (req : Request) (accessToken : Parsed) (generateToken : Bool) : Outcome :=
  match atoi accessToken.claims.subject with
  | none => .error (.http 401 "Malformed ID in the token.")
  | some principalID =>
    match env.getPrincipalByID principalID with
    | .error _ => .error (.http 500 ("Server error to find user ID: " ++ toString principalID))
    | .ok none => .error (.http 401 ("Failed to find user ID: " ++ toString principalID))
    | .ok (some user) =>
      if !generateToken then .next (some principalID) none
      else match generateTokenFunc env req principalID with
        | .error e => if accessToken.valid then .next (some principalID) none else .error e
        | .ok reissued => .next (some principalID) (if reissued then some user else none)

/-- `JWTMiddleware(pathPrefix, principalStore, next, mode, secret)` on one
request. The audience is checked before the parse error, and the expiry is
read (a nil `ExpiresAt` panics) before it; an error whose only bit is the
expiry is cleared and forces new tokens. -/
def jwtMiddleware (env : AuthEnv) (req : Request) : Outcome :=
  if skipsAuth env req then .next none none
  else match findAccessToken env req with
  | .error _ => .error (.http 401 "Missing access token")
  | .ok token =>
    let accessToken := parseWithClaims env.codec env.now (hs256KeyFunc env.secret) token
    if !audienceContains accessToken.claims.audience (accessTokenAudience env.mode) then
      .error (.http 401 ("Invalid access token, audience mismatch, got " ++ quoteSlice accessToken.claims.audience ++
        ", expected " ++ quote (accessTokenAudience env.mode) ++ ". you may send request to the wrong environment"))
    else match accessToken.claims.expiresAt with
    | none => .panic "invalid memory address or nil pointer dereference"
    | some exp =>
      let generateToken := decide (exp - env.now < refreshThresholdDuration)
      if accessToken.errors = [] then acceptAccessToken env req accessToken generateToken
      else if accessToken.errors = [.expired] then acceptAccessToken env req accessToken true
      else .error (.http 401 "Invalid or expired access token")

/-! ## What a call of `next` guarantees -/

@[simp] theorem hs256KeyFunc_eq_some {secret key : String} {t : Token} :
    hs256KeyFunc secret t = some key ↔ t.alg = "HS256" ∧ t.kid = some "v1" ∧ key = secret := by
  unfold hs256KeyFunc
  split_ifs <;> simp_all [eq_comm]

@[simp] theorem audienceContains_iff (audience : List String) (token : String) :
    audienceContains audience token = true ↔ token ∈ audience := by
  simp [audienceContains]

/-- The request's refresh-token cookie is signed with the secret under HS256
and `kid` "v1", has started, has not expired, and has the refresh audience. -/
def RefreshTokenAccepted (env : AuthEnv) (req : Request) : Prop :=
  ∃ rc r, req.cookie refreshTokenCookieName = some rc ∧ Verifies env.codec (hs256KeyFunc env.secret) rc r ∧
    Unexpired env.now r.claims ∧ Started env.now r.claims ∧ refreshTokenAudience env.mode ∈ r.claims.audience

section

variable {env : AuthEnv} {req : Request}

theorem generateTokenFunc_ok {p : Int} {reissued : Bool} (h : generateTokenFunc env req p = .ok reissued) :
    RefreshTokenAccepted env req := by
  simp only [generateTokenFunc] at h
  split at h
  · cases h
  rename_i rc hrc
  split at h
  · cases h
  rename_i herr
  split at h
  · cases h
  rename_i haud
  obtain ⟨r, hv, hc, hu, hs⟩ := parseWithClaims_errors_eq_nil (by simpa using herr)
  exact ⟨rc, r, hrc, hv, hu, hs, by simpa [hc] using haud⟩

theorem acceptAccessToken_next {a : Parsed} {g : Bool} {p : Int} {reissued : Option Principal}
    (h : acceptAccessToken env req a g = .next (some p) reissued) :
    atoi a.claims.subject = some p ∧ (g = false ∨ a.valid = true ∨ RefreshTokenAccepted env req) := by
  unfold acceptAccessToken at h
  split at h
  · cases h
  rename_i q hq
  split at h
  · cases h
  · cases h
  split at h
  · cases h; exact ⟨hq, .inl (by simpa using ‹(!g) = true›)⟩
  split at h
  · split at h
    · cases h; exact ⟨hq, .inr (.inl ‹_›)⟩
    · cases h
  · cases h; exact ⟨hq, .inr (.inr (generateTokenFunc_ok ‹_›))⟩

/-- **What `next` with a principal guarantees.** The request was not
skipped and carried an access token for `p`, signed with the secret under
HS256 and `kid` "v1", with the access audience, already started; and either
that token has not expired, or the request's refresh token is signed,
started and unexpired with the refresh audience. Nothing ties the refresh
token's subject to `p`. -/
theorem jwtMiddleware_next {p : Int} {reissued : Option Principal}
    (h : jwtMiddleware env req = .next (some p) reissued) :
    skipsAuth env req = false ∧ ∃ token t, findAccessToken env req = .ok token ∧
      Verifies env.codec (hs256KeyFunc env.secret) token t ∧ atoi t.claims.subject = some p ∧
      accessTokenAudience env.mode ∈ t.claims.audience ∧ Started env.now t.claims ∧
      (Unexpired env.now t.claims ∨ RefreshTokenAccepted env req) := by
  simp only [jwtMiddleware] at h
  split at h
  · cases h
  refine ⟨by simpa using ‹¬skipsAuth env req = true›, ?_⟩
  split at h
  · cases h
  rename_i token htok
  split at h
  · cases h
  rename_i haud
  split at h
  · cases h
  split at h
  · rename_i h0
    obtain ⟨hp, -⟩ := acceptAccessToken_next h
    obtain ⟨t, hv, hc, hu, hs⟩ := parseWithClaims_errors_eq_nil h0
    exact ⟨token, t, htok, hv, hc ▸ hp, by simpa [hc] using haud, hs, .inl hu⟩
  split at h
  · rename_i h1
    obtain ⟨hp, hr⟩ := acceptAccessToken_next h
    obtain ⟨t, hv, hc, -, hs⟩ := parseWithClaims_errors_eq_expired h1
    refine ⟨token, t, htok, hv, hc ▸ hp, by simpa [hc] using haud, hs, .inr ?_⟩
    rcases hr with hg | hvalid | hr
    · cases hg
    · simp [Parsed.valid, h1] at hvalid
    · exact hr
  · cases h

/-! ## When the middleware panics -/

theorem acceptAccessToken_ne_panic (a : Parsed) (g : Bool) (what : String) :
    acceptAccessToken env req a g ≠ .panic what := by
  unfold acceptAccessToken
  repeat' split
  all_goals nofun

/-- **The middleware panics exactly on a decodable token with the access
audience and no expiry.** Its signature, key and times play no part: the
audience and the expiry are read before the parse error. -/
theorem jwtMiddleware_eq_panic {what : String} :
    jwtMiddleware env req = .panic what ↔
      skipsAuth env req = false ∧ ∃ token t, findAccessToken env req = .ok token ∧ env.codec.decode token = some t ∧
        accessTokenAudience env.mode ∈ t.claims.audience ∧ t.claims.expiresAt = none ∧
        what = "invalid memory address or nil pointer dereference" := by
  simp only [jwtMiddleware]
  constructor
  · intro h
    split at h
    · cases h
    refine ⟨by simpa using ‹¬skipsAuth env req = true›, ?_⟩
    split at h
    · cases h
    rename_i token htok
    split at h
    · cases h
    rename_i haud
    split at h
    · rename_i hexp
      rw [parseWithClaims_claims] at haud hexp
      cases hd : env.codec.decode token with
      | none => simp [hd, Claims.zero, audienceContains] at haud
      | some t =>
        simp only [hd, Option.map_some', Option.getD_some] at haud hexp
        exact ⟨token, t, htok, hd, by simpa using haud, hexp, (Outcome.panic.inj h).symm⟩
    · split at h
      · exact absurd h (acceptAccessToken_ne_panic _ _ _)
      split at h
      · exact absurd h (acceptAccessToken_ne_panic _ _ _)
      · cases h
  · rintro ⟨hskip, token, t, htok, hd, haud, hexp, rfl⟩
    have hc : (parseWithClaims env.codec env.now (hs256KeyFunc env.secret) token).claims = t.claims := by
      rw [parseWithClaims_claims, hd]; rfl
    simp [hskip, htok, hc, haud, hexp]

end

/-! ## A session the server issued -/

/-- `accessTokenDuration`, in seconds. -/
def accessTokenDuration : Int := 86400

/-- `refreshTokenDuration`, in seconds. -/
def refreshTokenDuration : Int := 604800

/-- The token `generateToken(user, aud, expirationTime, secret)` signs when
the clock reads `now`: HS256 with `kid` "v1", the one audience `aud`, the
subject `strconv.Itoa(user.ID)`, issued at `now` and without `nbf`. -/
def generateToken (user : Principal) (aud : String) (expirationTime now : Int) : Token :=
  ⟨"HS256", some "v1", ⟨itoa user.id, [aud], some expirationTime, none, some now⟩⟩

/-- `generateAccessToken(user, mode, secret)` at `now`. -/
def generateAccessToken (user : Principal) (mode : String) (now : Int) : Token :=
  generateToken user (accessTokenAudience mode) (now + accessTokenDuration) now

/-- `generateRefreshToken(user, mode, secret)` at `now`. -/
def generateRefreshToken (user : Principal) (mode : String) (now : Int) : Token :=
  generateToken user (refreshTokenAudience mode) (now + refreshTokenDuration) now

/-- The request carries, as the first cookies of their names, the two
tokens `GenerateTokensAndSetCookies(c, user, mode, secret)` set at
`issuedAt`: each string decodes to the token the server built and verifies
under the secret. -/
def CarriesSession (env : AuthEnv) (req : Request) (user : Principal) (issuedAt : Int) : Prop :=
  ∃ access refresh, req.cookie accessTokenCookieName = some access ∧ req.cookie refreshTokenCookieName = some refresh ∧
    env.codec.decode access = some (generateAccessToken user env.mode issuedAt) ∧ env.codec.verify access env.secret ∧
    env.codec.decode refresh = some (generateRefreshToken user env.mode issuedAt) ∧ env.codec.verify refresh env.secret

section

variable {env : AuthEnv} {req : Request} {user : Principal}

/-- A token the server signed, presented once it has been issued: the parse
keeps its claims, and its one possible error bit is the expiry. -/
theorem parseWithClaims_generateToken {s aud : String} {exp iat : Int}
    (hd : env.codec.decode s = some (generateToken user aud exp iat)) (hv : env.codec.verify s env.secret = true)
    (hiat : iat ≤ env.now) :
    parseWithClaims env.codec env.now (hs256KeyFunc env.secret) s =
      ⟨(generateToken user aud exp iat).claims, if env.now < exp then [] else [.expired]⟩ := by
  rw [parseWithClaims_of_verify hd (List.mem_cons_self _ _) (by simp [generateToken]) hv]
  exact congrArg _ (claimsErrors_of_issued hiat)

/-- The refresh token of a session the server issued is accepted until it
expires, whichever principal the access token names. -/
theorem generateTokenFunc_of_session {issuedAt : Int} (hs : CarriesSession env req user issuedAt)
    (hnow : issuedAt ≤ env.now ∧ env.now < issuedAt + refreshTokenDuration) (p : Int) :
    generateTokenFunc env req p = .ok true := by
  obtain ⟨-, refresh, -, hrc, -, -, hd, hv⟩ := hs
  simp [generateTokenFunc, hrc, parseWithClaims_generateToken hd hv hnow.1, hnow.2, Parsed.valid,
    generateRefreshToken, generateToken]

theorem acceptAccessToken_of_subject {a : Parsed} {g : Bool} (hsub : a.claims.subject = itoa user.id)
    (hid : -2 ^ 63 ≤ user.id ∧ user.id < 2 ^ 63) (hstore : env.getPrincipalByID user.id = .ok (some user))
    (hrefresh : generateTokenFunc env req user.id = .ok true) :
    acceptAccessToken env req a g = .next (some user.id) (if g then some user else none) := by
  cases g <;> simp [acceptAccessToken, hsub, atoi_itoa hid, hstore, hrefresh]

/-- **A session the server issued passes as its user.** A request on a
cookie-authenticated route that carries the tokens set for `user` at
`issuedAt` passes as `user` until the refresh token expires, seven days
on; new tokens are set once the access token is within
`refreshThresholdDuration` of its expiry, or past it. -/
theorem jwtMiddleware_of_session {issuedAt : Int} (hs : CarriesSession env req user issuedAt)
    (hskip : skipsAuth env req = false) (hroute : hasPrefixes req.routePath [env.openAPIPrefix] = false)
    (hid : -2 ^ 63 ≤ user.id ∧ user.id < 2 ^ 63) (hstore : env.getPrincipalByID user.id = .ok (some user))
    (hnow : issuedAt ≤ env.now ∧ env.now < issuedAt + refreshTokenDuration) :
    jwtMiddleware env req = .next (some user.id)
      (if issuedAt + accessTokenDuration - env.now < refreshThresholdDuration then some user else none) := by
  have haccept := fun a g hsub => acceptAccessToken_of_subject (a := a) (g := g) hsub hid hstore
    (generateTokenFunc_of_session hs hnow user.id)
  obtain ⟨access, -, hac, -, hd, hv, -⟩ := hs
  have hfind : findAccessToken env req = .ok access := by simp [findAccessToken, hroute, hac]
  simp only [jwtMiddleware, hskip, hfind, parseWithClaims_generateToken hd hv hnow.1]
  by_cases hexp : env.now < issuedAt + accessTokenDuration
  · simp [hexp, haccept, generateAccessToken, generateToken]
  · have hlate : issuedAt + accessTokenDuration - env.now < refreshThresholdDuration := by
      simp only [refreshThresholdDuration]; omega
    simp [hexp, hlate, haccept, generateAccessToken, generateToken]

end

/-- A server in mode "prod" at second 1000 that issued principal 1 its
session, the token strings "a" and "r", at second 0. -/
def sessionEnv : AuthEnv where
  pathPrefix := "/api"
  openAPIPrefix := "/v1"
  mode := "prod"
  secret := "secret"
  now := 1000
  codec := ⟨fun s => if s = "a" then some (generateAccessToken ⟨1, "dba"⟩ "prod" 0)
      else if s = "r" then some (generateRefreshToken ⟨1, "dba"⟩ "prod" 0) else none,
    fun s key => key == "secret" && (s == "a" || s == "r")⟩
  getPrincipalByID id := .ok (if id = 1 then some ⟨1, "dba"⟩ else none)

/-- A request that carries that session. -/
def sessionRequest : Request :=
  ⟨"/api/issue", "/api/issue", "GET", "", [(accessTokenCookieName, "a"), (refreshTokenCookieName, "r")]⟩

example : jwtMiddleware sessionEnv sessionRequest = .next (some 1) none :=
  @jwtMiddleware_of_session sessionEnv sessionRequest ⟨1, "dba"⟩ 0 ⟨"a", "r", rfl, rfl, rfl, rfl, rfl, rfl⟩
    (by decide) (by decide) (by decide) rfl (by decide)

/-! ## An access token renewed by another principal's refresh token -/

/-- A codec that knows two tokens, both HS256 with `kid` "v1" and signed with
"secret": an access token of principal 1 that expired at second 100, and a
refresh token of principal 2 valid until second 10000. -/
def crossCodec : JwtCodec where
  decode s :=
    if s = "access.1" then some ⟨"HS256", some "v1", ⟨"1", ["bb.user.access.prod"], some 100, none, some 0⟩⟩
    else if s = "refresh.2" then some ⟨"HS256", some "v1", ⟨"2", ["bb.user.refresh.prod"], some 10000, none, some 0⟩⟩
    else none
  verify s key := key == "secret" && (s == "access.1" || s == "refresh.2")

/-- A server in mode "prod" at second 1000 whose store holds principals 1
and 2. -/
def crossEnv : AuthEnv where
  pathPrefix := "/api"
  openAPIPrefix := "/v1"
  mode := "prod"
  secret := "secret"
  now := 1000
  codec := crossCodec
  getPrincipalByID id := .ok (if id = 1 then some ⟨1, "dba"⟩ else if id = 2 then some ⟨2, "developer"⟩ else none)

/-- A request carrying principal 1's expired access token and principal 2's
refresh token. -/
def crossRequest : Request where
  urlPath := "/api/issue"
  routePath := "/api/issue"
  method := "GET"
  authorization := ""
  cookies := [(accessTokenCookieName, "access.1"), (refreshTokenCookieName, "refresh.2")]

/-- The middleware calls `next` as principal 1 and sets new tokens for
principal 1, on the strength of a refresh token whose subject is 2. -/
theorem jwtMiddleware_mixed_token_pair :
    jwtMiddleware crossEnv crossRequest = .next (some 1) (some ⟨1, "dba"⟩) ∧
      crossRequest.cookie refreshTokenCookieName = some "refresh.2" ∧
      (crossEnv.codec.decode "refresh.2").map (·.claims.subject) = some "2" := by
  decide


/-! ## A forged token without an expiry -/

/-- A codec that decodes one token, "forged": HS256 with `kid` "v1", the
access audience of mode "prod" and no expiry, whose signature verifies
under no key. -/
def forgedCodec : JwtCodec where
  decode s := if s = "forged" then some ⟨"HS256", some "v1", ⟨"1", ["bb.user.access.prod"], none, none, none⟩⟩ else none
  verify _ _ := false

/-- A server in mode "prod" that receives the forged token as its access
cookie. -/
def forgedEnv : AuthEnv where
  pathPrefix := "/api"
  openAPIPrefix := "/v1"
  mode := "prod"
  secret := "secret"
  now := 1000
  codec := forgedCodec
  getPrincipalByID _ := .ok none

/-- A request on a route that needs authentication, carrying the forged
token. -/
def forgedRequest : Request :=
  ⟨"/api/issue", "/api/issue", "GET", "", [(accessTokenCookieName, "forged")]⟩

/-- The forged token, whose signature does not verify, reaches the
dereference of its absent expiry. -/
theorem jwtMiddleware_forged_token_panics :
    forgedEnv.codec.verify "forged" forgedEnv.secret = false ∧
      jwtMiddleware forgedEnv forgedRequest = .panic "invalid memory address or nil pointer dereference" := by
  decide

end Bytebase.Auth
