import Mathlib.Logic.Denumerable
import Mathlib.Logic.Equiv.List
import WeaponDetection.Backend.Admin.Accounts
import WeaponDetection.Foundations.Grants

/-!
# Who is let in

The rows of `AdminSessions` are the sessions that were logged in, revoked where one was logged out
(`AuthInv`).  So a request is let in for exactly the sessions the history says are open
(`authorize_iff`), and the token a login answered is good until it expires or is logged out
(`authorize_token_iff`), however logins and logouts overlap.
-/

namespace WeaponDetection.Backend.Admin

open WeaponDetection.Foundations
open WeaponDetection.Foundations.Base64 (toBase64String)

variable {runtime : AuthRuntime} {s s' : AuthState}

/-! ## The history of the sessions -/

/-- What an answer says of the sessions. -/
def AuthEvent.grant : AuthEvent → GrantEvent AdminSession Guid
  | .loggedIn session _ _ => .granted session
  | .loggedOut sessionId => .closed sessionId

/-- The session was logged in. -/
def LoggedIn (h : List AuthEvent) (session : AdminSession) : Prop :=
  ∃ token presented, .loggedIn session token presented ∈ h

theorem granted_mem_iff {h : List AuthEvent} {session : AdminSession} :
    .granted session ∈ h.map AuthEvent.grant ↔ LoggedIn h session := by
  rw [List.mem_map]
  constructor
  · rintro ⟨event, hevent, heq⟩
    cases event with
    | loggedIn other token presented =>
      cases heq
      exact ⟨token, presented, hevent⟩
    | loggedOut sessionId => cases heq
  · rintro ⟨token, presented, hevent⟩
    exact ⟨_, hevent, rfl⟩

theorem closed_mem_iff {h : List AuthEvent} {sessionId : Guid} :
    .closed sessionId ∈ h.map AuthEvent.grant ↔ .loggedOut sessionId ∈ h := by
  rw [List.mem_map]
  constructor
  · rintro ⟨event, hevent, heq⟩
    cases event with
    | loggedIn other token presented => cases heq
    | loggedOut other =>
      cases heq
      exact hevent
  · exact fun hevent => ⟨_, hevent, rfl⟩

/-! ## What every reachable state satisfies -/

/-- The session and token were issued for the account of the identifier, whose password was presented. -/
def IssuedTo (runtime : AuthRuntime) (users : KeyedTable AdminUser.userId) (session : AdminSession) (token : String)
    (presented : Presented) : Prop :=
  ∃ user ∈ users, runtime.SameIdentifier user.credentialIdentifier (DotNet.trim presented.credentialIdentifier) ∧
    verify runtime.kdf presented.password user.passwordHash = some .success ∧
    ∃ sessionId now, issue runtime user.userId sessionId now = some (session, token)

/-- The invariant of the overlapping requests. -/
structure AuthInv (runtime : AuthRuntime) (s : AuthState) : Prop where
  rows : s.db.sessions.rows = rowsAfter AdminSession.sessionId AdminSession.revoke (s.history.map AuthEvent.grant)
  lawful : LawfulGrants AdminSession.sessionId (s.history.map AuthEvent.grant)
  logins : ∀ session token presented, .loggedIn session token presented ∈ s.history →
    IssuedTo runtime s.db.users session token presented
  loggingIn : ∀ task session token presented, s.tasks task = .loggingIn session token presented →
    IssuedTo runtime s.db.users session token presented
  loggingOut : ∀ task session, s.tasks task = .loggingOut session → ∃ row, LoggedIn s.history row ∧
    row.sessionId = session.sessionId

/-- A session of a table is one that was logged in. -/
theorem AuthInv.mem_sessions_iff (hs : AuthInv runtime s) {row : AdminSession} :
    row ∈ s.db.sessions ↔ ∃ session, LoggedIn s.history session ∧
      row = if .loggedOut session.sessionId ∈ s.history then session.revoke else session := by
  have hkey : ∀ row : AdminSession, row.revoke.sessionId = row.sessionId := fun _ => rfl
  have htwice : ∀ row : AdminSession, row.revoke.revoke = row.revoke := fun _ => rfl
  rw [← KeyedTable.mem_rows, hs.rows, mem_rowsAfter_iff hs.lawful hkey htwice]
  simp only [granted_mem_iff, asLeft, closed_mem_iff]

/-! ## Steps -/

theorem IssuedTo.frame {users users' : KeyedTable AdminUser.userId} {session : AdminSession} {token : String}
    {presented : Presented} (h : IssuedTo runtime users session token presented) (husers : ∀ u ∈ users, u ∈ users') :
    IssuedTo runtime users' session token presented := by
  obtain ⟨user, huser, hrest⟩ := h
  exact ⟨user, husers user huser, hrest⟩

/-- A login that passes its checks is issued to an account. -/
theorem issuedTo_of_checkLogin {db : AdminDb} {presented : Presented} {now : Ticks} {sessionId : NewGuid}
    {issued : AdminSession × String}
    (h : checkLogin runtime db presented.credentialIdentifier presented.password now sessionId = .ok issued) :
    IssuedTo runtime db.users issued.1 issued.2 presented := by
  unfold checkLogin at h
  split at h
  · cases h
  split at h
  · cases h
  split at h
  · cases h
  rename_i admin hfound
  split at h
  · cases h
  rename_i hverify
  split at h
  · cases h
  rename_i hissue
  cases h
  refine ⟨admin, List.mem_of_find?_eq_some hfound, ?_, not_not.1 hverify, sessionId, now, hissue⟩
  simpa using List.find?_some hfound

/-- What a session that is issued looks like. -/
theorem issue_eq_some {userId : Guid} {sessionId : NewGuid} {now : Ticks} {session : AdminSession} {token : String}
    (h : issue runtime userId sessionId now = some (session, token)) :
    session = ⟨sessionId.1, userId, now, now + runtime.options.accessTokenLifetimeMinutes * 600000000, false⟩ ∧
      userId ≠ 0 ∧
      token = runtime.jwt.writeToken runtime.options.signingKey
        { issuer := runtime.options.issuer, audience := runtime.options.audience, sub := Python.uuidText userId
          jti := Python.uuidText sessionId.1, notBefore := now
          expires := now + runtime.options.accessTokenLifetimeMinutes * 600000000, issuedAt := now } := by
  unfold issue AdminSession.create at h
  simp only at h
  split at h
  · cases h
  split at h
  · cases h
  rename_i huser
  split at h
  · cases h
  cases h
  exact ⟨rfl, huser, rfl⟩

/-- A state that differs in tasks that neither log in nor out satisfies the invariant. -/
theorem AuthInv.setTask (hs : AuthInv runtime s) {task : ℕ} {next : Task}
    (hin : ∀ session token presented, next = .loggingIn session token presented →
      IssuedTo runtime s.db.users session token presented)
    (hout : ∀ session, next = .loggingOut session → ∃ row, LoggedIn s.history row ∧
      row.sessionId = session.sessionId) : AuthInv runtime (s.setTask task next) := by
  constructor
  case rows => exact hs.rows
  case lawful => exact hs.lawful
  case logins => exact hs.logins
  case loggingIn =>
    intro other session token presented hother
    by_cases heq : other = task
    · subst heq
      exact hin session token presented ((Function.update_self _ _ _).symm.trans hother)
    · exact hs.loggingIn other session token presented ((Function.update_of_ne heq _ _).symm.trans hother)
  case loggingOut =>
    intro other session hother
    by_cases heq : other = task
    · subst heq
      exact hout session ((Function.update_self _ _ _).symm.trans hother)
    · exact hs.loggingOut other session ((Function.update_of_ne heq _ _).symm.trans hother)

theorem AuthInv.idle (hs : AuthInv runtime s) (task : ℕ) : AuthInv runtime (s.setTask task .idle) :=
  hs.setTask (fun _ _ _ h => by cases h) (fun _ h => by cases h)

/-- A task that begins has its values from the database. -/
theorem start_eq_some {task : ℕ} {next : Option Task} (h : s.start task next = some s') :
    ∃ begun, next = some begun ∧ s' = s.setTask task begun := by
  unfold AuthState.start at h
  split at h
  · obtain ⟨begun, hnext, rfl⟩ := Option.map_eq_some_iff.1 h
    exact ⟨begun, hnext, rfl⟩
  · cases h

theorem insertUser_eq_some {db db' : AdminDb} {user : AdminUser} (h : db.insertUser runtime user = some db') :
    db'.sessions = db.sessions ∧ (∀ u, u ∈ db'.users ↔ u ∈ db.users ∨ u = user) ∧
      ∀ u ∈ db.users, ¬ runtime.SameIdentifier u.credentialIdentifier user.credentialIdentifier := by
  unfold AdminDb.insertUser at h
  split at h
  · cases h
  split at h
  · cases h
  rename_i hfresh
  obtain ⟨users, husers, rfl⟩ := Option.map_eq_some_iff.1 h
  exact ⟨rfl, fun u => KeyedTable.mem_of_insert husers, fun u hu hsame => hfresh ⟨u, hu, hsame⟩⟩

/-- A logout is of a session that was logged in. -/
theorem loggedIn_of_loadSession (hs : AuthInv runtime s) {sessionId userId : Guid} {now : Ticks}
    {session : AdminSession} (h : loadSession s.db sessionId userId now = some session) :
    ∃ row, LoggedIn s.history row ∧ row.sessionId = session.sessionId := by
  unfold loadSession at h
  split at h
  · cases h
  have hmem : session ∈ s.db.sessions := List.mem_of_find?_eq_some h
  obtain ⟨row, hrow, heq⟩ := hs.mem_sessions_iff.1 hmem
  refine ⟨row, hrow, ?_⟩
  rw [heq]
  split <;> rfl

theorem authInv_insertUser (hs : AuthInv runtime s) {user : AdminUser} {db : AdminDb}
    (h : s.db.insertUser runtime user = some db) : AuthInv runtime { s with db } := by
  obtain ⟨hsessions, husers, -⟩ := insertUser_eq_some h
  have hkept : ∀ u ∈ s.db.users, u ∈ db.users := fun u hu => (husers u).2 (.inl hu)
  constructor
  case rows =>
    change db.sessions.rows = _
    rw [hsessions]
    exact hs.rows
  case lawful => exact hs.lawful
  case logins => exact fun session token presented h => (hs.logins session token presented h).frame hkept
  case loggingIn => exact fun task session token presented h => (hs.loggingIn task session token presented h).frame hkept
  case loggingOut => exact hs.loggingOut

theorem authInv_insertSession (hs : AuthInv runtime s) {session : AdminSession} {token : String} {presented : Presented}
    (hissued : IssuedTo runtime s.db.users session token presented) {db : AdminDb}
    (h : s.db.insertSession session = some db) :
    AuthInv runtime { s with db, history := .loggedIn session token presented :: s.history } := by
  obtain ⟨sessions, hinsert, rfl⟩ := Option.map_eq_some_iff.1 h
  obtain ⟨hfresh, hrows⟩ := KeyedTable.insert_eq_some_iff.1 hinsert
  constructor
  case rows =>
    change sessions.rows = rowsAfter _ _ _ ++ [session]
    rw [hrows, hs.rows]
  case lawful =>
    refine .granted hs.lawful fun other hother hsame => ?_
    have hmem : (if .loggedOut other.sessionId ∈ s.history then other.revoke else other) ∈ s.db.sessions :=
      hs.mem_sessions_iff.2 ⟨other, granted_mem_iff.1 hother, rfl⟩
    refine hfresh _ hmem ?_
    split
    · exact hsame
    · exact hsame
  case logins =>
    intro other token' presented' hother
    rcases List.mem_cons.1 hother with heq | hother
    · cases heq
      exact hissued
    · exact hs.logins other token' presented' hother
  case loggingIn => exact hs.loggingIn
  case loggingOut =>
    intro task other htask
    obtain ⟨row, ⟨token', presented', hrow⟩, hid⟩ := hs.loggingOut task other htask
    exact ⟨row, ⟨token', presented', List.mem_cons_of_mem _ hrow⟩, hid⟩

theorem authInv_revokeSession (hs : AuthInv runtime s) {session : AdminSession}
    (hsession : ∃ row, LoggedIn s.history row ∧ row.sessionId = session.sessionId) :
    AuthInv runtime
      { s with db := s.db.revokeSession session.sessionId, history := .loggedOut session.sessionId :: s.history } := by
  obtain ⟨row, hrow, hid⟩ := hsession
  constructor
  case rows =>
    change s.db.sessions.rows.map (AdminSession.setRevoked session.sessionId) = List.map _ _
    rw [hs.rows]
    rfl
  case lawful => exact .closed hs.lawful (granted_mem_iff.2 hrow) hid
  case logins =>
    intro other token presented hother
    rcases List.mem_cons.1 hother with heq | hother
    · cases heq
    · exact hs.logins other token presented hother
  case loggingIn => exact hs.loggingIn
  case loggingOut =>
    intro task other htask
    obtain ⟨row', ⟨token', presented', hrow'⟩, hid'⟩ := hs.loggingOut task other htask
    exact ⟨row', ⟨token', presented', List.mem_cons_of_mem _ hrow'⟩, hid'⟩

/-- The step lemma. -/
theorem authInv_step {a : AuthAction} (hs : AuthInv runtime s) (h : authStep runtime s a = some s') :
    AuthInv runtime s' := by
  cases a with
  | bootstrap task configuration salt userId =>
    obtain ⟨begun, hnext, rfl⟩ := start_eq_some h
    obtain ⟨user, -, rfl⟩ := Option.map_eq_some_iff.1 hnext
    exact hs.setTask (fun _ _ _ h => by cases h) (fun _ h => by cases h)
  | login task presented now sessionId =>
    obtain ⟨begun, hnext, rfl⟩ := start_eq_some h
    obtain ⟨issued, hissued, rfl⟩ := Option.map_eq_some_iff.1 hnext
    refine hs.setTask (fun session token other h => ?_) (fun _ h => by cases h)
    cases h
    cases hcheck : checkLogin runtime s.db presented.credentialIdentifier presented.password now sessionId with
    | error refusal =>
      rw [hcheck] at hissued
      cases hissued
    | ok value =>
      rw [hcheck] at hissued
      cases hissued
      exact issuedTo_of_checkLogin hcheck
  | logout task token nowToken nowSession =>
    obtain ⟨begun, hnext, rfl⟩ := start_eq_some h
    obtain ⟨ids, -, rfl⟩ := Option.map_eq_some_iff.1 hnext
    exact hs.setTask (fun _ _ _ h => by cases h) (fun _ h => by cases h)
  | load task now =>
    simp only [authStep] at h
    split at h
    · obtain ⟨session, hloaded, rfl⟩ := Option.map_eq_some_iff.1 h
      refine hs.setTask (fun _ _ _ h => by cases h) (fun other h => ?_)
      cases h
      exact loggedIn_of_loadSession hs hloaded
    · cases h
  | save task =>
    simp only [authStep] at h
    split at h
    · rename_i user _
      obtain ⟨db, hinsert, rfl⟩ := Option.map_eq_some_iff.1 h
      exact authInv_insertUser (hs.idle task) hinsert
    · rename_i session token presented htask
      obtain ⟨db, hinsert, rfl⟩ := Option.map_eq_some_iff.1 h
      exact authInv_insertSession (hs.idle task) (hs.loggingIn task session token presented htask) hinsert
    · rename_i session htask
      cases h
      exact authInv_revokeSession (hs.idle task) (hs.loggingOut task session htask)
    · cases h
  | stop task =>
    cases h
    exact hs.idle task

theorem authInv_reachable (hs : (authSystem runtime).Reachable s) : AuthInv runtime s := by
  have hstep : ∀ s a s', AuthInv runtime s → (authSystem runtime).step s a = some s' → AuthInv runtime s' :=
    fun _ _ _ hs h => authInv_step hs h
  refine hs.invariant ?_ hstep
  rintro _ rfl
  constructor
  case rows => rfl
  case lawful => exact .nil
  case logins =>
    intro session token presented h
    cases h
  case loggingIn =>
    intro task session token presented h
    cases h
  case loggingOut =>
    intro task session h
    cases h

/-! ## Who is let in -/

/-- The session is open at an instant. -/
def Open (h : List AuthEvent) (session : AdminSession) (now : Ticks) : Prop :=
  LoggedIn h session ∧ now < session.expiresAt ∧ .loggedOut session.sessionId ∉ h

theorem isSessionActive_iff (hs : AuthInv runtime s) {sessionId userId : Guid} {now : Ticks} :
    isSessionActive s.db sessionId userId now = true ↔
      ∃ session, session.sessionId = sessionId ∧ session.userId = userId ∧ Open s.history session now := by
  have hids : ∀ session, LoggedIn s.history session → session.sessionId ≠ 0 ∧ session.userId ≠ 0 ∧
      session.revoked = false := by
    rintro session ⟨token, presented, hlogin⟩
    obtain ⟨user, -, -, -, sessionId, now, hissue⟩ := hs.logins session token presented hlogin
    obtain ⟨rfl, huser, -⟩ := issue_eq_some hissue
    exact ⟨sessionId.2, huser, rfl⟩
  unfold isSessionActive
  constructor
  · intro h
    split at h
    · cases h
    obtain ⟨row, hrow, hactive⟩ := List.any_eq_true.1 h
    obtain ⟨hsession, huser, hrevoked, hexpiry⟩ := of_decide_eq_true hactive
    obtain ⟨session, hlogin, rfl⟩ := hs.mem_sessions_iff.1 hrow
    split at hsession
    · rename_i hout
      rw [if_pos hout] at hrevoked
      cases hrevoked
    · rename_i hout
      rw [if_neg hout] at huser hexpiry
      exact ⟨session, hsession, huser, hlogin, hexpiry, hout⟩
  · rintro ⟨session, rfl, rfl, hlogin, hexpiry, hout⟩
    obtain ⟨hsession, huser, hrevoked⟩ := hids session hlogin
    rw [if_neg (not_or.2 ⟨hsession, huser⟩)]
    refine List.any_eq_true.2 ⟨session, hs.mem_sessions_iff.2 ⟨session, hlogin, (if_neg hout).symm⟩, ?_⟩
    exact decide_eq_true ⟨rfl, rfl, hrevoked, hexpiry⟩

/-- A request is let in by a token that names an active session. -/
theorem authorize_eq_some_iff {db : AdminDb} {token : String} {nowToken nowSession : Ticks} {sessionId userId : Guid} :
    authorize runtime db token nowToken nowSession = some (sessionId, userId) ↔
      (∃ claims, runtime.jwt.validateToken runtime.options nowToken token = some claims ∧
        claims.ids = some (sessionId, userId)) ∧
      isSessionActive db sessionId userId nowSession = true := by
  unfold authorize
  simp only [Option.bind_eq_bind, Option.bind_eq_some_iff]
  constructor
  · rintro ⟨claims, hclaims, ids, hids, h⟩
    split at h
    · rename_i hopen
      cases h
      exact ⟨⟨claims, hclaims, hids⟩, hopen⟩
    · cases h
  · rintro ⟨⟨claims, hclaims, hids⟩, hopen⟩
    exact ⟨claims, hclaims, _, hids, if_pos hopen⟩

/-- **However requests overlap, a request is let in as the user of a session if and only if its token is valid and
names them, the session was logged in with the password of an account and is not expired, and no logout of it has
gone through.** -/
theorem authorize_iff (hs : (authSystem runtime).Reachable s) {token : String} {nowToken nowSession : Ticks}
    {sessionId userId : Guid} :
    authorize runtime s.db token nowToken nowSession = some (sessionId, userId) ↔
      (∃ claims, runtime.jwt.validateToken runtime.options nowToken token = some claims ∧
        claims.ids = some (sessionId, userId)) ∧
      ∃ session issuedToken presented, .loggedIn session issuedToken presented ∈ s.history ∧
        IssuedTo runtime s.db.users session issuedToken presented ∧ session.sessionId = sessionId ∧
        session.userId = userId ∧ nowSession < session.expiresAt ∧ .loggedOut sessionId ∉ s.history := by
  have hinv := authInv_reachable hs
  rw [authorize_eq_some_iff, isSessionActive_iff hinv]
  refine and_congr_right fun _ => ?_
  constructor
  · rintro ⟨session, rfl, rfl, ⟨issuedToken, presented, hlogin⟩, hexpiry, hout⟩
    exact ⟨session, issuedToken, presented, hlogin, hinv.logins _ _ _ hlogin, rfl, rfl, hexpiry, hout⟩
  · rintro ⟨session, issuedToken, presented, hlogin, -, rfl, rfl, hexpiry, hout⟩
    exact ⟨session, rfl, rfl, ⟨issuedToken, presented, hlogin⟩, hexpiry, hout⟩

/-- **The token a login answered lets its user in from the second it was issued until it expires or a logout of its
session goes through, and neither before nor after.** -/
theorem authorize_token_iff (hjwt : runtime.jwt.Reads runtime.options) (hs : (authSystem runtime).Reachable s)
    {session : AdminSession} {token : String} {presented : Presented}
    (hlogin : .loggedIn session token presented ∈ s.history) (nowToken nowSession : Ticks) :
    authorize runtime s.db token nowToken nowSession = some (session.sessionId, session.userId) ↔
      wholeSeconds session.issuedAt ≤ nowToken ∧ nowToken ≤ wholeSeconds session.expiresAt ∧
        nowSession < session.expiresAt ∧ .loggedOut session.sessionId ∉ s.history := by
  have hinv := authInv_reachable hs
  obtain ⟨user, -, -, -, sessionId, now, hissue⟩ := hinv.logins session token presented hlogin
  obtain ⟨hsession, -, htoken⟩ := issue_eq_some hissue
  have hvalid : runtime.jwt.validateToken runtime.options nowToken token =
      if wholeSeconds session.issuedAt ≤ nowToken ∧ nowToken ≤ wholeSeconds session.expiresAt then
        some ⟨some (Python.uuidText session.userId), some (Python.uuidText session.sessionId)⟩
      else none := by
    rw [htoken, hjwt _ nowToken rfl rfl, hsession]
  have hids : (⟨some (Python.uuidText session.userId), some (Python.uuidText session.sessionId)⟩ : TokenClaims).ids =
      some (session.sessionId, session.userId) := by
    simp only [TokenClaims.ids, Option.bind_eq_bind, Option.bind_some, DotNet.guidTryParse_uuidText, Option.pure_def]
  rw [authorize_eq_some_iff, isSessionActive_iff hinv, hvalid]
  constructor
  · rintro ⟨⟨claims, hclaims, -⟩, other, hid, -, ⟨otherToken, otherPresented, hother⟩, hexpiry, hout⟩
    split at hclaims
    · rename_i hwindow
      -- the session of the identifier is this one
      have hsame : other = session := hinv.lawful.eq_of_key_eq (granted_mem_iff.2 ⟨_, _, hother⟩)
        (granted_mem_iff.2 ⟨_, _, hlogin⟩) hid
      rw [hsame] at hexpiry hout
      exact ⟨hwindow.1, hwindow.2, hexpiry, hout⟩
    · cases hclaims
  · rintro ⟨hfrom, hto, hexpiry, hout⟩
    exact ⟨⟨_, if_pos ⟨hfrom, hto⟩, hids⟩, session, rfl, rfl, ⟨token, presented, hlogin⟩, hexpiry, hout⟩

/-! ## An Admin logs in and out -/

/-- The characters of a text as numbers. -/
def codes (text : String) : List ℕ := text.toList.map Char.toNat

/-- The text of the numbers. -/
def ofCodes (numbers : List ℕ) : String := String.ofList (numbers.map Char.ofNat)

theorem ofCodes_codes (text : String) : ofCodes (codes text) = text := by
  have hchars : (text.toList.map Char.toNat).map Char.ofNat = text.toList := by
    rw [List.map_map]
    refine (List.map_congr_left fun c _ => ?_).trans (List.map_id _)
    exact Char.ofNat_toNat c
  rw [ofCodes, codes, hchars, String.ofList_toList]

/-- The claims of a token as one number. -/
abbrev TokenCode := List ℕ × List ℕ × List ℕ × List ℕ × ℤ × ℤ

/-- Tokens that are the number of their claims. -/
def plainJwt : JwtLibrary where
  writeToken _ payload :=
    let code : TokenCode := (codes payload.issuer, codes payload.audience, codes payload.sub, codes payload.jti,
      payload.notBefore, payload.expires)
    toString (Encodable.encode code)
  validateToken options now token :=
    (Encodable.decode (Nat.ofDigitChars 10 token.toList 0) : Option TokenCode).bind fun code =>
      if code.1 = codes options.issuer ∧ code.2.1 = codes options.audience ∧
          wholeSeconds code.2.2.2.2.1 ≤ now ∧ now ≤ wholeSeconds code.2.2.2.2.2 then
        some ⟨some (ofCodes code.2.2.1), some (ofCodes code.2.2.2.1)⟩
      else none

theorem plainJwt_reads (options : JwtOptions) : plainJwt.Reads options := by
  intro payload now hissuer haudience
  simp only [plainJwt, DotNet.ofDigitChars_toString, Encodable.encodek, Option.bind_some, hissuer, haudience, true_and,
    ofCodes_codes]

theorem sampleLifetime : (0 : ℤ) < 60 ∧ (60 : ℤ) ≤ 24 * 60 := by decide

/-- Subkeys that tell one password from all others. -/
def sampleKdf : Pbkdf2 where
  derive password _ _ size := List.replicate size (if password = "correct horse" then 1 else 0)
  length_derive _ _ _ _ := List.length_replicate

/-- A Backend with tokens of an hour. -/
def sampleRuntime : AuthRuntime :=
  ⟨sampleKdf, DotNet.toLowerInvariant, plainJwt, ⟨"backend", "dashboard", "key", 60, sampleLifetime⟩⟩

/-- A salt of zero bytes. -/
def sampleSalt : Salt := ⟨List.replicate 16 0, List.length_replicate⟩

/-- The hash of the password. -/
def sampleHash : String :=
  toBase64String (payload iterations sampleSalt (sampleKdf.derive "correct horse" sampleSalt iterations subkeySizeBytes))

theorem hash_sample : hash sampleKdf "correct horse" sampleSalt = some sampleHash :=
  if_neg (by decide)

/-- The Admin of the configuration. -/
def sampleAdmin : AdminUser := ⟨1, "admin", sampleHash⟩

/-- The session of a login at the start of the clock. -/
def sampleSession : AdminSession := ⟨2, 1, 0, 36000000000, false⟩

/-- What the Admin presents. -/
def samplePresented : Presented := ⟨"Admin ", "correct horse"⟩

/-- The empty Backend. -/
def sampleStart : AuthState := ⟨⟨.empty, .empty⟩, fun _ => .idle, []⟩

theorem bootstrap_sample : authStep sampleRuntime sampleStart
    (.bootstrap 0 ⟨some "admin", some "correct horse"⟩ sampleSalt ⟨1, by decide⟩) =
      some (sampleStart.setTask 0 (.bootstrapping sampleAdmin)) := by
  have hidentifier : DotNet.isNullOrWhiteSpace "admin" = false := by decide
  have hpassword : DotNet.isNullOrWhiteSpace "correct horse" = false := by decide
  have hhash : hash sampleRuntime.kdf "correct horse" sampleSalt = some sampleHash := hash_sample
  have htrim : DotNet.trim "admin" = "admin" := by decide
  simp [authStep, AuthState.start, sampleStart, prepareAdmin, KeyedTable.empty, hidentifier, hpassword, hhash,
    AdminUser.create, not_blank_hash hash_sample, htrim, sampleAdmin]

theorem fits_sample : sampleAdmin.Fits := by
  have hidentifier : DotNet.length "admin" ≤ 256 := by decide
  have hhash : DotNet.length sampleHash ≤ 512 := by decide
  exact ⟨hidentifier, hhash⟩

theorem nodup_sample : ([sampleAdmin].map AdminUser.userId).Nodup := List.nodup_singleton _

theorem nodup_sampleSession : ([sampleSession].map AdminSession.sessionId).Nodup := List.nodup_singleton _

/-- The database with the Admin. -/
def sampleDb : AdminDb := ⟨⟨[sampleAdmin], nodup_sample⟩, .empty⟩

/-- The Backend with its Admin. -/
def sampleBootstrapped : AuthState :=
  { (sampleStart.setTask 0 (.bootstrapping sampleAdmin)).setTask 0 .idle with db := sampleDb }

theorem saveAdmin_sample : authStep sampleRuntime (sampleStart.setTask 0 (.bootstrapping sampleAdmin)) (.save 0) =
    some sampleBootstrapped := by
  have hinsert : sampleStart.db.insertUser sampleRuntime sampleAdmin = some sampleDb := by
    simp [AdminDb.insertUser, fits_sample, sampleStart, KeyedTable.empty, KeyedTable.insert, sampleDb]
  have htask : (sampleStart.setTask 0 (.bootstrapping sampleAdmin)).tasks 0 = .bootstrapping sampleAdmin := rfl
  have hdb : (sampleStart.setTask 0 (.bootstrapping sampleAdmin)).db = sampleStart.db := rfl
  simp only [authStep, htask, hdb, hinsert, Option.map_some]
  rfl

/-- The token of the session. -/
def sampleToken : String :=
  plainJwt.writeToken "key" ⟨"backend", "dashboard", Python.uuidText 1, Python.uuidText 2, 0, 36000000000, 0⟩

theorem issue_sample : issue sampleRuntime sampleAdmin.userId ⟨2, by decide⟩ 0 = some (sampleSession, sampleToken) := rfl

theorem login_sample : authStep sampleRuntime sampleBootstrapped (.login 0 samplePresented 0 ⟨2, by decide⟩) =
    some (sampleBootstrapped.setTask 0 (.loggingIn sampleSession sampleToken samplePresented)) := by
  have hidentifier : DotNet.isNullOrWhiteSpace samplePresented.credentialIdentifier = false := by decide
  have hpassword : DotNet.isNullOrWhiteSpace samplePresented.password = false := by decide
  have hfound : sampleDb.findUser sampleRuntime (DotNet.trim samplePresented.credentialIdentifier) = some sampleAdmin := by
    decide
  have hverify : verify sampleRuntime.kdf samplePresented.password sampleAdmin.passwordHash = some .success :=
    (verify_hash_iff hash_sample hpassword).2 rfl
  have hcheck : checkLogin sampleRuntime sampleDb samplePresented.credentialIdentifier samplePresented.password 0
      ⟨2, by decide⟩ = .ok (sampleSession, sampleToken) := by
    simp only [checkLogin, hidentifier, hpassword, hfound, hverify, issue_sample, Bool.false_eq_true, if_false, ne_eq,
      not_true]
  have htask : sampleBootstrapped.tasks 0 = .idle := rfl
  have hdb : sampleBootstrapped.db = sampleDb := rfl
  simp only [authStep, AuthState.start, htask, hdb, hcheck, Except.toOption, Option.map_some]

/-- The Backend after the login. -/
def sampleLoggedIn : AuthState :=
  { (sampleBootstrapped.setTask 0 (.loggingIn sampleSession sampleToken samplePresented)).setTask 0 .idle with
    db := ⟨sampleDb.users, ⟨[sampleSession], nodup_sampleSession⟩⟩
    history := [.loggedIn sampleSession sampleToken samplePresented] }

theorem saveSession_sample : authStep sampleRuntime
    (sampleBootstrapped.setTask 0 (.loggingIn sampleSession sampleToken samplePresented)) (.save 0) =
      some sampleLoggedIn := by
  have hinsert : sampleDb.insertSession sampleSession =
      some ⟨sampleDb.users, ⟨[sampleSession], nodup_sampleSession⟩⟩ := by
    simp [AdminDb.insertSession, sampleDb, KeyedTable.empty, KeyedTable.insert]
  have htask : (sampleBootstrapped.setTask 0 (.loggingIn sampleSession sampleToken samplePresented)).tasks 0 =
      .loggingIn sampleSession sampleToken samplePresented := rfl
  have hdb : (sampleBootstrapped.setTask 0 (.loggingIn sampleSession sampleToken samplePresented)).db = sampleDb := rfl
  simp only [authStep, htask, hdb, hinsert, Option.map_some]
  rfl

theorem step_of {a : AuthAction} (h : authStep runtime s a = some s') : (authSystem runtime).step s a = some s' := h

theorem reachable_sample : (authSystem sampleRuntime).Reachable sampleLoggedIn := by
  have hstart : (authSystem sampleRuntime).Reachable sampleStart := .init rfl
  have hlogin := ((hstart.step (step_of bootstrap_sample)).step (step_of saveAdmin_sample)).step (step_of login_sample)
  exact hlogin.step (step_of saveSession_sample)

/-- The request right after the login is let in. -/
theorem authorize_sample : authorize sampleRuntime sampleLoggedIn.db sampleToken 1 1 = some (2, 1) := by
  have hvalid : sampleRuntime.jwt.validateToken sampleRuntime.options 1 sampleToken =
      some ⟨some (Python.uuidText 1), some (Python.uuidText 2)⟩ := by
    refine (plainJwt_reads sampleRuntime.options _ 1 rfl rfl).trans (if_pos ?_)
    decide
  have hactive : isSessionActive sampleLoggedIn.db 2 1 1 = true := by decide
  simp only [authorize, hvalid, TokenClaims.ids, DotNet.guidTryParse_uuidText, Option.bind_eq_bind, Option.bind_some,
    Option.pure_def, hactive, if_true]

/-- It is let in for the login before it. -/
theorem sample_authorized : ∃ session issuedToken presented,
    .loggedIn session issuedToken presented ∈ sampleLoggedIn.history ∧
      IssuedTo sampleRuntime sampleLoggedIn.db.users session issuedToken presented ∧ session.sessionId = 2 ∧
      session.userId = 1 ∧ 1 < session.expiresAt ∧ .loggedOut 2 ∉ sampleLoggedIn.history :=
  ((authorize_iff reachable_sample).1 authorize_sample).2

/-- An hour later the token lets nobody in. -/
theorem sample_expired : authorize sampleRuntime sampleLoggedIn.db sampleToken 36000000000 36000000000 ≠ some (2, 1) := by
  intro h
  have hwindow := (authorize_token_iff (plainJwt_reads _) reachable_sample (List.mem_singleton.2 rfl) _ _).1 h
  exact absurd hwindow.2.2.1 (by decide)

end WeaponDetection.Backend.Admin
