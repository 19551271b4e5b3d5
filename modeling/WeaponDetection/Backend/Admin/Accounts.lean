import WeaponDetection.Backend.Admin.PasswordHasher
import WeaponDetection.Backend.Contracts
import WeaponDetection.Foundations.GuidRoundTrip
import WeaponDetection.Foundations.KeyedTable
import WeaponDetection.Foundations.TransitionSystem

/-!
# Admin accounts and their sessions

Models `AdminBootstrapper.cs`, `AuthService.cs`, `JwtIssuer.cs`, `AdminSessionValidator.cs` and
`SessionAuthorizationHandler.cs` over the tables `AdminUsers` and `AdminSessions`.  Processes that start and
requests that log in and out overlap: each action of the system is one statement on the database together with
what the code does up to the next one.
-/

namespace WeaponDetection.Backend.Admin

open WeaponDetection.Foundations

/-! ## Entities -/

/-- `DateTimeOffset` of the clock, in ticks of 100 ns. -/
abbrev Ticks := ℤ

/-- `Guid.NewGuid()` is never the empty one. -/
abbrev NewGuid := {g : Guid // g ≠ 0}

/-- `AdminUser`. -/
structure AdminUser where
  userId : Guid
  credentialIdentifier : String
  passwordHash : String
  deriving DecidableEq

/-- The constructor of `AdminUser`, `none` for an `ArgumentException`. -/
def AdminUser.create (userId : Guid) (credentialIdentifier passwordHash : String) : Option AdminUser :=
  if DotNet.isNullOrWhiteSpace credentialIdentifier then none
  else if DotNet.isNullOrWhiteSpace passwordHash then none
  else some ⟨userId, DotNet.trim credentialIdentifier, passwordHash⟩

/-- `AdminSession`. -/
structure AdminSession where
  sessionId : Guid
  userId : Guid
  issuedAt : Ticks
  expiresAt : Ticks
  revoked : Bool
  deriving DecidableEq

/-- The constructor of `AdminSession`, `none` for an `ArgumentException`. -/
def AdminSession.create (sessionId userId : Guid) (issuedAt expiresAt : Ticks) : Option AdminSession :=
  if sessionId = 0 then none
  else if userId = 0 then none
  else if expiresAt ≤ issuedAt then none
  else some ⟨sessionId, userId, issuedAt, expiresAt, false⟩

/-- `Revoke`. -/
def AdminSession.revoke (session : AdminSession) : AdminSession := { session with revoked := true }

/-- The tables `AdminUsers` and `AdminSessions`. -/
structure AdminDb where
  users : KeyedTable AdminUser.userId
  sessions : KeyedTable AdminSession.sessionId

/-! ## Tokens -/

/-- `JwtOptions`, as `JwtOptionsValidator` lets the Backend start with them. -/
structure JwtOptions where
  issuer : String
  audience : String
  signingKey : String
  accessTokenLifetimeMinutes : ℤ
  lifetime : 0 < accessTokenLifetimeMinutes ∧ accessTokenLifetimeMinutes ≤ 24 * 60

/-- `JwtPayload`, as `Issue` fills it. -/
structure JwtPayload where
  issuer : String
  audience : String
  sub : String
  jti : String
  notBefore : Ticks
  expires : Ticks
  issuedAt : Ticks
  deriving DecidableEq

/-- What a validated token says of its bearer. -/
structure TokenClaims where
  sub : Option String
  jti : Option String
  deriving DecidableEq

/-- The token handler of the JWT library. -/
structure JwtLibrary where
  /-- `WriteToken`, signed with HMAC-SHA256 under a key. -/
  writeToken : String → JwtPayload → String
  /-- The JWT Bearer middleware under the options at some instant, `none` where it does not authenticate. -/
  validateToken : JwtOptions → Ticks → String → Option TokenClaims

/-- The claims `nbf` and `exp` count whole seconds. -/
def wholeSeconds (t : Ticks) : Ticks := t / 10000000 * 10000000

/-- A token that was written under the options is valid from its `nbf` to its `exp`. -/
def JwtLibrary.Reads (jwt : JwtLibrary) (options : JwtOptions) : Prop :=
  ∀ (payload : JwtPayload) (now : Ticks), payload.issuer = options.issuer → payload.audience = options.audience →
    jwt.validateToken options now (jwt.writeToken options.signingKey payload) =
      if wholeSeconds payload.notBefore ≤ now ∧ now ≤ wholeSeconds payload.expires then
        some ⟨some payload.sub, some payload.jti⟩
      else none

/-- What the Backend runs on: the password hasher, the collation of `CredentialIdentifier` and the tokens. -/
structure AuthRuntime where
  kdf : Pbkdf2
  collate : String → String
  jwt : JwtLibrary
  options : JwtOptions

variable (runtime : AuthRuntime)

/-- Two identifiers are one to the unique index on `CredentialIdentifier`. -/
def AuthRuntime.SameIdentifier (a b : String) : Prop := runtime.collate a = runtime.collate b

instance (a b : String) : Decidable (runtime.SameIdentifier a b) :=
  inferInstanceAs (Decidable (runtime.collate a = runtime.collate b))

/-- `JwtIssuer.Issue` with the constructor of `AdminSession` after it: the session and its token. -/
def issue (userId : Guid) (sessionId : NewGuid) (now : Ticks) : Option (AdminSession × String) :=
  let expiresAt := now + runtime.options.accessTokenLifetimeMinutes * 600000000
  let payload : JwtPayload :=
    { issuer := runtime.options.issuer, audience := runtime.options.audience, sub := Python.uuidText userId
      jti := Python.uuidText sessionId.1, notBefore := now, expires := expiresAt, issuedAt := now }
  (AdminSession.create sessionId.1 userId now expiresAt).map
    (·, runtime.jwt.writeToken runtime.options.signingKey payload)

/-! ## Bootstrap -/

/-- `BootstrapAdmin`. -/
structure BootstrapConfiguration where
  credentialIdentifier : Option String
  password : Option String

/-- `BootstrapAsync` up to its `INSERT`: `none` where there is nothing to insert, because an account exists or the
configuration will not do. -/
def prepareAdmin (db : AdminDb) (configuration : BootstrapConfiguration) (salt : Salt) (userId : NewGuid) :
    Option AdminUser := do
  if db.users.rows ≠ [] then none
  else
    let credentialIdentifier ← configuration.credentialIdentifier
    let password ← configuration.password
    if DotNet.isNullOrWhiteSpace credentialIdentifier then none
    else if DotNet.isNullOrWhiteSpace password then none
    else AdminUser.create userId.1 credentialIdentifier (← hash runtime.kdf password salt)

/-- The lengths of the columns of `AdminUsers`. -/
def AdminUser.Fits (user : AdminUser) : Prop :=
  DotNet.length user.credentialIdentifier ≤ 256 ∧ DotNet.length user.passwordHash ≤ 512

instance (user : AdminUser) : Decidable user.Fits := instDecidableAnd

/-- `INSERT INTO AdminUsers`, against the lengths of the columns, the primary key and the unique index. -/
def AdminDb.insertUser (db : AdminDb) (user : AdminUser) : Option AdminDb :=
  if ¬ user.Fits then none
  else if ∃ other ∈ db.users.rows, runtime.SameIdentifier other.credentialIdentifier user.credentialIdentifier then none
  else (db.users.insert user).map fun users => { db with users }

/-! ## `LoginAsync` -/

/-- How `LoginAsync` ends before its `INSERT`. -/
inductive LoginRefusal where
  | argumentException
  | invalidCredentials
  deriving DecidableEq

/-- The account under an identifier. -/
def AdminDb.findUser (db : AdminDb) (credentialIdentifier : String) : Option AdminUser :=
  db.users.rows.find? fun u => runtime.SameIdentifier u.credentialIdentifier credentialIdentifier

/-- `LoginAsync` up to its `INSERT`. -/
def checkLogin (db : AdminDb) (credentialIdentifier password : String) (now : Ticks) (sessionId : NewGuid) :
    Except LoginRefusal (AdminSession × String) :=
  if DotNet.isNullOrWhiteSpace credentialIdentifier then .error .argumentException
  else if DotNet.isNullOrWhiteSpace password then .error .argumentException
  else
    match db.findUser runtime (DotNet.trim credentialIdentifier) with
    | none => .error .invalidCredentials
    | some admin =>
      if verify runtime.kdf password admin.passwordHash ≠ some .success then .error .invalidCredentials
      else
        match issue runtime admin.userId sessionId now with
        | none => .error .argumentException
        | some issued => .ok issued

/-- `INSERT INTO AdminSessions`. -/
def AdminDb.insertSession (db : AdminDb) (session : AdminSession) : Option AdminDb :=
  (db.sessions.insert session).map fun sessions => { db with sessions }

/-! ## Authorization and `LogoutAsync` -/

/-- The condition of the two queries. -/
def AdminSession.IsActive (session : AdminSession) (sessionId userId : Guid) (now : Ticks) : Prop :=
  session.sessionId = sessionId ∧ session.userId = userId ∧ session.revoked = false ∧ now < session.expiresAt

instance (session : AdminSession) (sessionId userId : Guid) (now : Ticks) :
    Decidable (session.IsActive sessionId userId now) := instDecidableAnd

/-- `IsSessionActiveAsync`. -/
def isSessionActive (db : AdminDb) (sessionId userId : Guid) (now : Ticks) : Bool :=
  if sessionId = 0 ∨ userId = 0 then false
  else db.sessions.rows.any fun session => session.IsActive sessionId userId now

/-- The identifiers of the two claims. -/
def TokenClaims.ids (claims : TokenClaims) : Option (Guid × Guid) := do
  let sessionId ← DotNet.guidTryParse (← claims.jti)
  let userId ← DotNet.guidTryParse (← claims.sub)
  return (sessionId, userId)

/-- The authorization of a request: the middleware at one instant, the session at another. -/
def authorize (db : AdminDb) (token : String) (nowToken nowSession : Ticks) : Option (Guid × Guid) := do
  let claims ← runtime.jwt.validateToken runtime.options nowToken token
  let ids ← claims.ids
  if isSessionActive db ids.1 ids.2 nowSession then some ids else none

/-- `LogoutAsync` up to its `UPDATE`, the row it will write. -/
def loadSession (db : AdminDb) (sessionId userId : Guid) (now : Ticks) : Option AdminSession :=
  if sessionId = 0 ∨ userId = 0 then none
  else db.sessions.rows.find? fun session => session.IsActive sessionId userId now

/-- The row with `Revoked` set. -/
def AdminSession.setRevoked (sessionId : Guid) (session : AdminSession) : AdminSession :=
  if session.sessionId = sessionId then session.revoke else session

theorem AdminSession.setRevoked_sessionId (sessionId : Guid) (session : AdminSession) :
    (session.setRevoked sessionId).sessionId = session.sessionId := by
  unfold AdminSession.setRevoked
  split <;> rfl

/-- `UPDATE AdminSessions SET Revoked = 1`. -/
def AdminDb.revokeSession (db : AdminDb) (sessionId : Guid) : AdminDb :=
  { db with
    sessions := db.sessions.update (AdminSession.setRevoked sessionId) (AdminSession.setRevoked_sessionId sessionId) }

/-! ## Overlapping requests -/

/-- What was presented at a login. -/
structure Presented where
  credentialIdentifier : String
  password : String
  deriving DecidableEq

/-- Where a task stands between its statements. -/
inductive Task where
  | idle
  /-- A starting process before its `INSERT`. -/
  | bootstrapping (user : AdminUser)
  /-- A login before its `INSERT`. -/
  | loggingIn (session : AdminSession) (token : String) (presented : Presented)
  /-- A logout behind the authorization. -/
  | authorized (sessionId userId : Guid)
  /-- A logout before its `UPDATE`. -/
  | loggingOut (session : AdminSession)

/-- What was answered: a token, or that the session is logged out. -/
inductive AuthEvent where
  | loggedIn (session : AdminSession) (token : String) (presented : Presented)
  | loggedOut (sessionId : Guid)
  deriving DecidableEq

/-- The database, the tasks under way and what was answered so far. -/
structure AuthState where
  db : AdminDb
  tasks : ℕ → Task
  history : List AuthEvent

/-- What happens next. -/
inductive AuthAction where
  | bootstrap (task : ℕ) (configuration : BootstrapConfiguration) (salt : Salt) (userId : NewGuid)
  | login (task : ℕ) (presented : Presented) (now : Ticks) (sessionId : NewGuid)
  | logout (task : ℕ) (token : String) (nowToken nowSession : Ticks)
  /-- The query of `LogoutAsync`. -/
  | load (task : ℕ) (now : Ticks)
  /-- The statement a task is about to run goes through. -/
  | save (task : ℕ)
  /-- A task ends without it: an exception, a cancelled request, a stopped process. -/
  | stop (task : ℕ)

/-- The state with another task. -/
def AuthState.setTask (s : AuthState) (task : ℕ) (next : Task) : AuthState :=
  { s with tasks := Function.update s.tasks task next }

/-- A task begins. -/
def AuthState.start (s : AuthState) (task : ℕ) (next : Option Task) : Option AuthState :=
  match s.tasks task with
  | .idle => next.map (s.setTask task)
  | _ => none

/-- One statement. -/
def authStep (s : AuthState) : AuthAction → Option AuthState
  | .bootstrap task configuration salt userId =>
    s.start task ((prepareAdmin runtime s.db configuration salt userId).map .bootstrapping)
  | .login task presented now sessionId =>
    s.start task
      ((checkLogin runtime s.db presented.credentialIdentifier presented.password now sessionId).toOption.map
        fun issued => .loggingIn issued.1 issued.2 presented)
  | .logout task token nowToken nowSession =>
    s.start task ((authorize runtime s.db token nowToken nowSession).map fun ids => .authorized ids.1 ids.2)
  | .load task now =>
    match s.tasks task with
    | .authorized sessionId userId => (loadSession s.db sessionId userId now).map fun session =>
        s.setTask task (.loggingOut session)
    | _ => none
  | .save task =>
    match s.tasks task with
    | .bootstrapping user => (s.db.insertUser runtime user).map fun db => { s.setTask task .idle with db }
    | .loggingIn session token presented =>
      (s.db.insertSession session).map fun db =>
        { s.setTask task .idle with db, history := .loggedIn session token presented :: s.history }
    | .loggingOut session =>
      some { s.setTask task .idle with
        db := s.db.revokeSession session.sessionId, history := .loggedOut session.sessionId :: s.history }
    | _ => none
  | .stop task => some (s.setTask task .idle)

/-- The Backend from an empty database on. -/
def authSystem : TransitionSystem AuthState AuthAction where
  init s := s = ⟨⟨.empty, .empty⟩, fun _ => .idle, []⟩
  step := authStep runtime

end WeaponDetection.Backend.Admin
