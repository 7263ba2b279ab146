import Tenantory.ApiRoutes

/-! Sessions, from the sign-in to the requests that use its token. Signing in hands out the
access token only, so that no client comes to hold a refresh token, and whoever is admitted
to a protected route has given the password of that account a quarter of an hour before at
most. -/

namespace Tenantory

open Svc UuidText

structure LoginDto where
  email : String
  password : String

theorem Svc.runs_map_eq_ok {α β : Type} {f : α → β} {p : Svc α} {b : β} {w w' : World} :
    (f <$> p).runs w = (.ok b, w') ↔ ∃ a, p.runs w = (.ok a, w') ∧ f a = b := by
  rw [map_eq_pure_bind, runs_bind_eq_ok]
  constructor
  · rintro ⟨a, w₁, ran, last⟩
    obtain ⟨same, rfl⟩ := runs_pure_eq_ok.mp last
    exact ⟨a, ran, same⟩
  · rintro ⟨a, ran, rfl⟩
    exact ⟨a, w', ran, rfl⟩

namespace AuthService

/-- `compare` is the comparison of bcryptjs. -/
def login (compare : String → String → Bool) (jwt : JwtService)
    (context : Option AuditContextData)
    (now : Timestamp) (tenantId : String) (dto : LoginDto) : Svc String := do
  match ← findOneByEmail tenantId dto.email with
  | none => throw (.unauthorized "Invalid credentials")
  | some user => do
      if user.isActive = false then throw (.unauthorized "Account is deactivated")
      if compare dto.password user.passwordHash = false then
        throw (.unauthorized "Invalid credentials")
      let accessToken := (generateTokens jwt now user).1
      AuditService.record context
        { action := .login
          entityType := .user
          entityId := uuidOut user.id
          oldValues := none
          newValues := none
          metadata := none
          actorId := some (uuidOut user.id) }
      pure accessToken

end AuthService

/-! ## Requests -/

/-- A request that hands out tokens, or one to any other route. -/
inductive SessionCall
  | login (dto : LoginDto)
  | refresh (dto : RefreshTokenDto)
  | other (route : ApiRoute) (elsewhere : route ≠ .login ∧ route ≠ .refresh)
      (handler : Caller → Svc Unit)

def SessionCall.route : SessionCall → ApiRoute
  | login _ => .login
  | refresh _ => .refresh
  | other route _ _ => route

structure SessionRequest where
  now : Timestamp
  headers : RequestHeaders
  call : SessionCall
  /-- what the pipes refuse the parameters, the query or the body with -/
  refusal : Option Err

/-- The tokens in the body of an answer; the other routes answer with none. -/
inductive SessionAnswer
  | login (accessToken : String)
  | refresh (tokens : TokenResponse)
  | other

def SessionAnswer.tokens : SessionAnswer → List String
  | login accessToken => [accessToken]
  | refresh response => [response.accessToken, response.refreshToken]
  | other => []

structure SessionLibraries extends RequestLibraries where
  compare : String → String → Bool

/-- A request of a run, with the state that it came to and its answer. -/
structure SessionStep where
  request : SessionRequest
  before : World
  answer : Except Err SessionAnswer

def SessionStep.tokens (step : SessionStep) : List String :=
  match step.answer with
  | .ok answer => answer.tokens
  | .error _ => []

namespace SessionRequest

variable (libraries : SessionLibraries) (request : SessionRequest)

def admission : Svc Caller :=
  request.call.route.admission libraries.toRequestLibraries request.now request.headers

def handle (caller : Caller) : Svc SessionAnswer :=
  match request.call with
  | .login dto => .login <$> AuthService.login libraries.compare libraries.jwt
      (some (caller.auditContext request.headers)) request.now caller.tenantId dto
  | .refresh dto =>
      .refresh <$> AuthService.refreshToken libraries.jwt request.now caller.tenantId dto
  | .other _ _ handler => do
      handler caller
      pure .other

/-- The guards, the pipes and the handler. -/
def answer : Svc SessionAnswer := do
  let caller ← request.admission libraries
  match request.refusal with
  | some e => throw e
  | none => request.handle libraries caller

/-- The texts in a request that are read as tokens. -/
def tokens : List String :=
  request.headers.bearer.toList ++
    match request.call with
    | .refresh dto => [dto.refreshToken]
    | _ => []

/-- Requests that are served one after the other. -/
def run (libraries : SessionLibraries) : List SessionRequest → World → List SessionStep
  | [], _ => []
  | request :: requests, w =>
      let out := (request.answer libraries).runs { w with clock := request.now }
      ⟨request, { w with clock := request.now }, out.1⟩ :: run libraries requests out.2

/-- What verifies has been handed out before: nobody signs tokens but the application. -/
def Unforged (steps : List SessionStep) : Prop :=
  ∀ token ∈ request.tokens, ∀ secret payload,
    libraries.jwt.verifyAsync secret token request.now = .ok payload →
      ∃ step ∈ steps, token ∈ step.tokens

end SessionRequest

/-- The tokens verify under the secret they are signed with, for a quarter of an hour, counted
in seconds. -/
def JwtService.Expires (jwt : JwtService) : Prop :=
  ∀ secret secret' payload payload' signed now,
    jwt.verifyAsync secret' (jwt.signAsync secret payload signed) now = .ok payload' →
      secret' = secret ∧ payload' = payload ∧ now / 1000 < signed / 1000 + 900

/-! ## What hands out tokens -/

section Answers

variable {libraries : SessionLibraries} {request : SessionRequest} {w w' : World}

def User.payload (user : User) : JwtPayload :=
  ⟨uuidOut user.id, uuidOut user.tenantId, user.email, user.role⟩

/-- The account of the tenant whose password has been given. -/
structure SignsIn (libraries : SessionLibraries) (db : Database) (tenantId : String)
    (dto : LoginDto) (user : User) : Prop where
  stored : user ∈ db.users
  tenant : uuidIn tenantId = some user.tenantId
  email : user.email = dto.email
  live : user.deletedAt = none
  active : user.isActive = true
  password : libraries.compare dto.password user.passwordHash = true

theorem AuthService.login_eq_ok {context : Option AuditContextData} {now : Timestamp}
    {tenantId token : String} {dto : LoginDto}
    (ran : (login libraries.compare libraries.jwt context now tenantId dto).runs w =
      (.ok token, w')) :
    ∃ user, SignsIn libraries w.db tenantId dto user ∧
      token = libraries.jwt.signAsync .access user.payload now := by
  obtain ⟨user, read, ran⟩ := (runs_found_eq_ok rfl).mp ran
  obtain ⟨tenant, named, found⟩ := bind_eq_ok.mp read
  have found := Except.ok.inj found
  have fits := Table.holds_of_find? found
  simp only [Bool.and_eq_true, beq_iff_eq] at fits
  have owned : uuidIn tenantId = some user.tenantId := by
    rw [fits.1.2]
    exact uuidParam_eq_ok.mp named
  cases active : user.isActive with
  | false => simp [active] at ran
  | true =>
      cases right : libraries.compare dto.password user.passwordHash with
      | false => simp [active, right] at ran
      | true =>
          simp only [active, right, Bool.true_eq_false, if_false] at ran
          obtain ⟨⟨⟩, w₁, -, last⟩ := runs_bind_eq_ok.mp ran
          obtain ⟨rfl, -⟩ := runs_pure_eq_ok.mp last
          exact ⟨user, ⟨Table.mem_of_find? found, owned, fits.1.1,
            Option.isNone_iff_eq_none.mp fits.2, active, right⟩, rfl⟩

theorem AuthService.refreshToken_eq_ok {jwt : JwtService} {now : Timestamp} {tenantId : String}
    {dto : RefreshTokenDto} {response : TokenResponse}
    (ran : (refreshToken jwt now tenantId dto).runs w = (.ok response, w')) :
    ∃ payload, jwt.verifyAsync .refresh dto.refreshToken now = .ok payload := by
  obtain ⟨payload, w₁, verified, -⟩ := runs_bind_eq_ok.mp ran
  refine ⟨payload, ?_⟩
  cases checked : jwt.verifyAsync .refresh dto.refreshToken now with
  | error e =>
      rw [checked] at verified
      cases verified
  | ok read =>
      rw [checked] at verified
      cases verified
      rfl

/-- Whoever signs in names the tenant in the header. -/
theorem ApiRoute.login_admitted {libraries : RequestLibraries} {now : Timestamp}
    {headers : RequestHeaders} {caller : Caller}
    (ran : (login.admission libraries now headers).runs w = (.ok caller, w')) :
    w' = w ∧ headers.tenantId = some caller.tenantId := by
  have ran : (guarded libraries now login.guards headers).runs w = (.ok caller, w') := ran
  obtain ⟨header, w₁, used, passed⟩ := runs_bind_eq_ok.mp ran
  obtain ⟨rfl, sent, -⟩ := TenantMiddleware.use_eq_ok.mp used
  cases passed
  exact ⟨rfl, sent⟩

/-- The step has been made by the handlers. -/
def SessionStep.Served (libraries : SessionLibraries) (step : SessionStep) : Prop :=
  step.answer = ((step.request.answer libraries).runs step.before).1

theorem SessionRequest.run_served {requests : List SessionRequest} {step : SessionStep}
    (mem : step ∈ run libraries requests w) : step.Served libraries := by
  induction requests generalizing w with
  | nil => cases mem
  | cons request requests ih =>
      rcases List.mem_cons.mp mem with rfl | later
      · rfl
      · exact ih later

/-- A sign-in that has been answered with the token. -/
structure SessionStep.HandsOut (libraries : SessionLibraries) (step : SessionStep)
    (tenantId : String) (user : User) (token : String) : Prop where
  header : step.request.headers.tenantId = some tenantId
  signsIn : ∃ dto, step.request.call = .login dto ∧
    SignsIn libraries step.before.db tenantId dto user
  signed : token = libraries.jwt.signAsync .access user.payload step.request.now

/-- How a request has come to its answer. -/
theorem SessionStep.Served.cases {step : SessionStep} {answer : SessionAnswer}
    (served : step.Served libraries) (answered : step.answer = .ok answer) :
    (∃ tenantId user token, answer = .login token ∧
        step.HandsOut libraries tenantId user token) ∨
      (∃ response dto payload, answer = .refresh response ∧ step.request.call = .refresh dto ∧
        libraries.jwt.verifyAsync .refresh dto.refreshToken step.request.now = .ok payload) ∨
      answer = .other := by
  obtain ⟨⟨now, headers, call, refusal⟩, before, _⟩ := step
  have ran : ((SessionRequest.mk now headers call refusal).answer libraries).runs before =
      (.ok answer, _) := Prod.ext (served.symm.trans answered) rfl
  obtain ⟨caller, w₁, admitted, handled⟩ := runs_bind_eq_ok.mp ran
  cases refusal with
  | some e => exact (runs_throw_eq_ok.mp handled).elim
  | none =>
      cases call with
      | login dto =>
          obtain ⟨rfl, sent⟩ := ApiRoute.login_admitted admitted
          obtain ⟨accessToken, signed, rfl⟩ := Svc.runs_map_eq_ok.mp handled
          obtain ⟨user, signsIn, rfl⟩ := AuthService.login_eq_ok signed
          exact .inl ⟨caller.tenantId, user, _, rfl, sent, ⟨dto, rfl, signsIn⟩, rfl⟩
      | refresh dto =>
          obtain ⟨response, refreshed, rfl⟩ := Svc.runs_map_eq_ok.mp handled
          obtain ⟨payload, verified⟩ := AuthService.refreshToken_eq_ok refreshed
          exact .inr (.inl ⟨response, dto, payload, rfl, rfl, verified⟩)
      | other route elsewhere handler =>
          obtain ⟨⟨⟩, w₂, -, last⟩ := runs_bind_eq_ok.mp handled
          obtain ⟨rfl, -⟩ := runs_pure_eq_ok.mp last
          exact .inr (.inr rfl)

end Answers

/-! ## Runs -/

section Runs

variable {libraries : SessionLibraries} {steps : List SessionStep}

/-- Steps that the handlers have made, where nobody has forged a token. -/
structure Genuine (libraries : SessionLibraries) (steps : List SessionStep) : Prop where
  served : ∀ step ∈ steps, step.Served libraries
  unforged : ∀ before step after, steps = before ++ step :: after →
    step.request.Unforged libraries before

theorem Genuine.front {later : List SessionStep} (genuine : Genuine libraries (steps ++ later)) :
    Genuine libraries steps where
  served step mem := genuine.served step (List.mem_append_left _ mem)
  unforged before step after split :=
    genuine.unforged before step (after ++ later) (by simp [split])

/-- Where no refresh has been granted, every token is that of a sign-in. -/
theorem Genuine.handsOut (genuine : Genuine libraries steps)
    (none : ∀ step ∈ steps, ∀ response, step.answer ≠ .ok (.refresh response))
    {step : SessionStep} (mem : step ∈ steps) {token : String} (given : token ∈ step.tokens) :
    ∃ tenantId user, step.HandsOut libraries tenantId user token := by
  unfold SessionStep.tokens at given
  cases answered : step.answer with
  | error e =>
      rw [answered] at given
      cases given
  | ok answer =>
      rw [answered] at given
      rcases (genuine.served step mem).cases answered with
        ⟨tenantId, user, token', rfl, handsOut⟩ | ⟨response, _, _, rfl, _⟩ | rfl
      · rw [List.mem_singleton.mp given]
        exact ⟨tenantId, user, handsOut⟩
      · exact absurd answered (none step mem response)
      · cases given

/-- A refresh would need a token that was signed as such, and only a refresh hands these out. -/
theorem Genuine.no_refresh (expires : libraries.jwt.Expires) (genuine : Genuine libraries steps) :
    ∀ step ∈ steps, ∀ response, step.answer ≠ .ok (.refresh response) := by
  induction steps using List.reverseRecOn with
  | nil => exact fun _ mem => nomatch mem
  | append_singleton before last ih =>
      have earlier := ih genuine.front
      intro step mem response granted
      rcases List.mem_append.mp mem with old | new
      · exact earlier step old response granted
      · obtain rfl := List.mem_singleton.mp new
        rcases (genuine.served step mem).cases granted with
          ⟨_, _, _, impossible, _⟩ | ⟨_, dto, payload, _, call, verified⟩ | impossible
        · cases impossible
        · have sent : dto.refreshToken ∈ step.request.tokens := by
            simp [SessionRequest.tokens, call]
          obtain ⟨origin, there, given⟩ :=
            genuine.unforged before step [] rfl _ sent _ _ verified
          obtain ⟨tenantId, user, handsOut⟩ := genuine.front.handsOut earlier there given
          rw [handsOut.signed] at verified
          cases (expires _ _ _ _ _ _ verified).1
        · cases impossible

end Runs

/-- The account that a request is admitted for, and the sign-in that its token is from. -/
structure Session (libraries : SessionLibraries) (earlier : List SessionStep) (step : SessionStep)
    (caller : Caller) (user : User) : Prop where
  caller : caller = ⟨uuidOut user.tenantId, some user.authenticated⟩
  stored : user ∈ step.before.db.users
  live : user.deletedAt = none
  active : user.isActive = true
  permitted : Permits step.request.call.route.guards user.role
  begun : ∃ origin ∈ earlier, ∃ tenantId row token,
    origin.HandsOut libraries tenantId row token ∧
    row.id = user.id ∧ row.tenantId = user.tenantId ∧
      step.request.now / 1000 < origin.request.now / 1000 + 900

variable {libraries : SessionLibraries}

theorem Genuine.session {before later : List SessionStep} {step : SessionStep}
    (expires : libraries.jwt.Expires) (genuine : Genuine libraries (before ++ step :: later))
    (closed : step.request.call.route.Protected) {caller : Caller}
    (admitted : ((step.request.admission libraries).runs step.before).1 = .ok caller) :
    ∃ user, Session libraries before step caller user := by
  obtain ⟨token, payload, sent, verified, named, user, subject, attached, permitted⟩ :=
    closed.admits (Prod.ext admitted rfl)
  have presented : token ∈ step.request.tokens := by simp [SessionRequest.tokens, sent]
  obtain ⟨origin, there, given⟩ :=
    genuine.unforged before step later rfl token presented _ _ verified
  obtain ⟨tenantId, row, handsOut⟩ :=
    genuine.front.handsOut (genuine.front.no_refresh expires) there given
  rw [handsOut.signed] at verified
  obtain ⟨-, rfl, recent⟩ := expires _ _ _ _ _ _ verified
  obtain ⟨stored, sub, owner, live, active⟩ := subject
  have same : row.id = user.id := Option.some.inj ((uuidIn_uuidOut row.id).symm.trans sub)
  have owned : row.tenantId = user.tenantId :=
    Option.some.inj ((uuidIn_uuidOut row.tenantId).symm.trans owner)
  refine ⟨user, ?_, stored, live, active, permitted, origin, there, tenantId, row,
    token, handsOut,
    same, owned, recent⟩
  obtain ⟨text, attachedUser⟩ := caller
  cases attached
  cases named
  rw [← owned]
  rfl

/-- No request to renew a token is ever granted: nobody holds a refresh token. -/
theorem refresh_never_granted (expires : libraries.jwt.Expires) (requests : List SessionRequest)
    (w : World) (unforged : ∀ before step after, SessionRequest.run libraries requests w =
      before ++ step :: after → step.request.Unforged libraries before) :
    ∀ step ∈ SessionRequest.run libraries requests w, ∀ response,
      step.answer ≠ .ok (.refresh response) := by
  have genuine : Genuine libraries (SessionRequest.run libraries requests w) :=
    ⟨fun _ mem => SessionRequest.run_served mem, unforged⟩
  exact genuine.no_refresh expires

/-- Who is admitted to a protected route is an active user of the tenant now, with a role that the
route asks for, and has signed in to this account with its password less than a quarter of an hour
before. -/
theorem admitted_after_login (expires : libraries.jwt.Expires) (requests : List SessionRequest)
    (w : World) (unforged : ∀ before step after, SessionRequest.run libraries requests w =
      before ++ step :: after → step.request.Unforged libraries before)
    (before : List SessionStep) (step : SessionStep) (after : List SessionStep)
    (served : SessionRequest.run libraries requests w = before ++ step :: after)
    (closed : step.request.call.route.Protected) (caller : Caller)
    (admitted : ((step.request.admission libraries).runs step.before).1 = .ok caller) :
    ∃ user, Session libraries before step caller user := by
  have genuine : Genuine libraries (SessionRequest.run libraries requests w) :=
    ⟨fun _ mem => SessionRequest.run_served mem, unforged⟩
  exact Genuine.session expires (served ▸ genuine) closed admitted

open SampleShop

namespace SampleShop

/-- Only the token that the administrator gets at the second second verifies. -/
def signing : JwtService where
  signAsync secret payload signed :=
    if secret = .access ∧ payload = adminPayload ∧ signed = 2000 then "token" else "unread"
  verifyAsync secret token now :=
    if token = "token" ∧ secret = .access ∧ now / 1000 < 902 then .ok adminPayload
    else .error (.unauthorized "jwt malformed")

theorem signing_expires : signing.Expires := by
  intro secret secret' payload payload' signed now verified
  by_cases ours : secret = .access ∧ payload = adminPayload ∧ signed = 2000
  · obtain ⟨rfl, rfl, rfl⟩ := ours
    by_cases read : secret' = .access ∧ now / 1000 < 902
    · simp [signing, read] at verified
      exact ⟨read.1, verified.symm, read.2⟩
    · simp [signing, read] at verified
  · simp [signing, ours] at verified

def sessionLibraries : SessionLibraries where
  jwt := signing
  isUUID text := (uuidIn text).isSome
  compare password hash := password == "secret" && hash == "hash"

/-- The administrator signs in and looks at the profile. -/
def signInRequests : List SessionRequest :=
  [⟨2000, ⟨some (uuidOut tenantId), none, none, none, none⟩,
    .login ⟨"ada@acme.com", "secret"⟩,
      none⟩,
    ⟨60000, adminHeaders, .other .me (by decide) fun _ => pure (), none⟩]

/-- Later the token that was handed out is presented as a refresh token. -/
def renewRequests : List SessionRequest :=
  signInRequests ++ [⟨61000, ⟨some (uuidOut tenantId), none, none, none, none⟩,
    .refresh ⟨"token"⟩, none⟩]

def profileCaller : Caller := ⟨uuidOut tenantId, some admin.authenticated⟩

end SampleShop

/-- The token that the second request sends is in the answer to the first. -/
theorem sign_in_unforged : ∀ before step after,
    SessionRequest.run sessionLibraries signInRequests (world administered) =
      before ++ step :: after → step.request.Unforged sessionLibraries before := by
  intro before step after split token sent secret payload verified
  match before, split with
  | [], split =>
      cases split
      cases sent
  | [first], split =>
      cases split
      have same : token = "token" := List.mem_singleton.mp sent
      subst same
      exact ⟨_, List.mem_singleton_self _, by decide⟩
  | _ :: _ :: _, split => simp [SessionRequest.run, signInRequests] at split

theorem admitted_after_login_admin : ∃ origin step caller user,
    SessionRequest.run sessionLibraries signInRequests (world administered) = [origin, step] ∧
      Session sessionLibraries [origin] step caller user := by
  obtain ⟨user, session⟩ := admitted_after_login signing_expires signInRequests
    (world administered)
    sign_in_unforged [_] _ [] rfl (by decide) profileCaller rfl
  exact ⟨_, _, profileCaller, user, rfl, session⟩

theorem renew_unforged : ∀ before step after,
    SessionRequest.run sessionLibraries renewRequests (world administered) =
      before ++ step :: after → step.request.Unforged sessionLibraries before := by
  intro before step after split token sent secret payload verified
  match before, split with
  | [], split =>
      cases split
      cases sent
  | [first], split | [first, _], split =>
      cases split
      have same : token = "token" := List.mem_singleton.mp sent
      subst same
      exact ⟨_, List.mem_cons_self, by decide⟩
  | _ :: _ :: _ :: _, split => simp [SessionRequest.run, renewRequests, signInRequests] at split

theorem refresh_never_granted_admin :
    (SessionRequest.run sessionLibraries renewRequests (world administered)).map
        (fun step => (step.request.call.route, step.answer.isOk)) =
      [(.login, true), (.me, true), (.refresh, false)] ∧
    ∀ step ∈ SessionRequest.run sessionLibraries renewRequests (world administered),
      ∀ response, step.answer ≠ .ok (.refresh response) :=
  ⟨by decide, refresh_never_granted signing_expires renewRequests (world administered)
    renew_unforged⟩

end Tenantory
