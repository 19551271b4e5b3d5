import WeaponDetection.Backend.Admin.Authorization

/-!
# The one Admin

Processes that start at the same time may all find no account and go on to insert one.  The unique index on
`CredentialIdentifier` lets one of them through as long as all have the same identifier configured
(`single_admin`), and the configured password is the one that logs in.
-/

namespace WeaponDetection.Backend.Admin

open WeaponDetection.Foundations

variable {runtime : AuthRuntime} {s s' : AuthState} {credentialIdentifier password : String}

/-! ## Configured accounts -/

/-- Every process that starts has this account configured. -/
def Configured (runtime : AuthRuntime) (credentialIdentifier password : String) (_ : AuthState) : AuthAction → Prop
  | .bootstrap _ configuration _ _ =>
    ∃ identifier, configuration.credentialIdentifier = some identifier ∧ configuration.password = some password ∧
      runtime.SameIdentifier (DotNet.trim identifier) credentialIdentifier
  | _ => True

/-- The account has the identifier and a hash of the password. -/
def IsConfigured (runtime : AuthRuntime) (credentialIdentifier password : String) (user : AdminUser) : Prop :=
  user.userId ≠ 0 ∧ runtime.SameIdentifier user.credentialIdentifier credentialIdentifier ∧
    ∃ salt, hash runtime.kdf password salt = some user.passwordHash

/-- All accounts, there and on their way, are the configured one. -/
structure BootstrapInv (runtime : AuthRuntime) (credentialIdentifier password : String) (s : AuthState) : Prop where
  users : ∀ user ∈ s.db.users, IsConfigured runtime credentialIdentifier password user
  bootstrapping : ∀ task user, s.tasks task = .bootstrapping user → IsConfigured runtime credentialIdentifier password user
  single : ∀ user ∈ s.db.users, ∀ other ∈ s.db.users, user = other

theorem prepareAdmin_configured {db : AdminDb} {configuration : BootstrapConfiguration} {salt : Salt} {userId : NewGuid}
    {user : AdminUser} {identifier : String} (hidentifier : configuration.credentialIdentifier = some identifier)
    (hpassword : configuration.password = some password)
    (hsame : runtime.SameIdentifier (DotNet.trim identifier) credentialIdentifier)
    (h : prepareAdmin runtime db configuration salt userId = some user) :
    IsConfigured runtime credentialIdentifier password user := by
  unfold prepareAdmin at h
  split at h
  · cases h
  rw [hidentifier, hpassword] at h
  simp only [Option.bind_eq_bind, Option.bind_some] at h
  split at h
  · cases h
  split at h
  · cases h
  obtain ⟨passwordHash, hhash, hcreate⟩ := Option.bind_eq_some_iff.1 h
  unfold AdminUser.create at hcreate
  split at hcreate
  · cases hcreate
  split at hcreate
  · cases hcreate
  cases hcreate
  exact ⟨userId.2, hsame, salt, hhash⟩

/-- A task that is not a start of a process leaves the invariant alone. -/
theorem BootstrapInv.setTask (hs : BootstrapInv runtime credentialIdentifier password s) {task : ℕ} {next : Task}
    (hnext : ∀ user, next = .bootstrapping user → IsConfigured runtime credentialIdentifier password user) :
    BootstrapInv runtime credentialIdentifier password (s.setTask task next) := by
  constructor
  case users => exact hs.users
  case bootstrapping =>
    intro other user hother
    by_cases heq : other = task
    · subst heq
      exact hnext user ((Function.update_self _ _ _).symm.trans hother)
    · exact hs.bootstrapping other user ((Function.update_of_ne heq _ _).symm.trans hother)
  case single => exact hs.single

theorem BootstrapInv.idle (hs : BootstrapInv runtime credentialIdentifier password s) (task : ℕ) :
    BootstrapInv runtime credentialIdentifier password (s.setTask task .idle) :=
  hs.setTask fun _ h => by cases h

/-- The step lemma. -/
theorem bootstrapInv_step {a : AuthAction} (hs : BootstrapInv runtime credentialIdentifier password s)
    (hguard : Configured runtime credentialIdentifier password s a) (h : authStep runtime s a = some s') :
    BootstrapInv runtime credentialIdentifier password s' := by
  cases a with
  | bootstrap task configuration salt userId =>
    obtain ⟨identifier, hidentifier, hpassword, hsame⟩ := hguard
    obtain ⟨begun, hnext, rfl⟩ := start_eq_some h
    obtain ⟨user, hprepared, rfl⟩ := Option.map_eq_some_iff.1 hnext
    refine hs.setTask fun other heq => ?_
    cases heq
    exact prepareAdmin_configured hidentifier hpassword hsame hprepared
  | login task presented now sessionId =>
    obtain ⟨begun, hnext, rfl⟩ := start_eq_some h
    obtain ⟨issued, -, rfl⟩ := Option.map_eq_some_iff.1 hnext
    exact hs.setTask fun _ h => by cases h
  | logout task token nowToken nowSession =>
    obtain ⟨begun, hnext, rfl⟩ := start_eq_some h
    obtain ⟨ids, -, rfl⟩ := Option.map_eq_some_iff.1 hnext
    exact hs.setTask fun _ h => by cases h
  | load task now =>
    simp only [authStep] at h
    split at h
    · obtain ⟨session, -, rfl⟩ := Option.map_eq_some_iff.1 h
      exact hs.setTask fun _ h => by cases h
    · cases h
  | save task =>
    simp only [authStep] at h
    split at h
    · rename_i user htask
      obtain ⟨db, hinsert, rfl⟩ := Option.map_eq_some_iff.1 h
      obtain ⟨-, husers, hfresh⟩ := insertUser_eq_some hinsert
      have hconfigured := hs.bootstrapping task user htask
      -- an account that was there has the identifier that is inserted
      have hempty : ∀ u, u ∉ s.db.users := fun u hu =>
        hfresh u hu ((hs.users u hu).2.1.trans hconfigured.2.1.symm)
      have hidle := hs.idle task
      constructor
      case users =>
        intro u hu
        rcases (husers u).1 hu with hu | rfl
        · exact hs.users u hu
        · exact hconfigured
      case bootstrapping => exact hidle.bootstrapping
      case single =>
        intro u hu other hother
        rw [((husers u).1 hu).resolve_left (hempty u), ((husers other).1 hother).resolve_left (hempty other)]
    · obtain ⟨db, hinsert, rfl⟩ := Option.map_eq_some_iff.1 h
      obtain ⟨sessions, -, rfl⟩ := Option.map_eq_some_iff.1 hinsert
      have hidle := hs.idle task
      exact ⟨hidle.users, hidle.bootstrapping, hidle.single⟩
    · cases h
      have hidle := hs.idle task
      exact ⟨hidle.users, hidle.bootstrapping, hidle.single⟩
    · cases h
  | stop task =>
    cases h
    exact hs.idle task

/-- The run lemma. -/
theorem bootstrapInv_reachable
    (hs : (authSystem runtime).ReachableUnder (Configured runtime credentialIdentifier password) s) :
    BootstrapInv runtime credentialIdentifier password s := by
  have hstep : ∀ s a s', BootstrapInv runtime credentialIdentifier password s →
      Configured runtime credentialIdentifier password s a → (authSystem runtime).step s a = some s' →
        BootstrapInv runtime credentialIdentifier password s' := fun _ _ _ hs hguard h => bootstrapInv_step hs hguard h
  refine hs.invariant_of_guard ?_ hstep
  rintro _ rfl
  constructor
  case users =>
    intro user huser
    cases huser
  case bootstrapping =>
    intro task user h
    cases h
  case single =>
    intro user huser
    cases huser

/-! ## Logins -/

/-- An account with an identifier of its own is issued a session. -/
theorem issue_isSome {userId : Guid} (huser : userId ≠ 0) (sessionId : NewGuid) (now : Ticks) :
    ∃ issued, issue runtime userId sessionId now = some issued := by
  have hlifetime : ¬ now + runtime.options.accessTokenLifetimeMinutes * 600000000 ≤ now :=
    Int.not_le.2 (Int.lt_add_of_pos_right now (Int.mul_pos runtime.options.lifetime.1 (by decide)))
  unfold issue AdminSession.create
  simp only [sessionId.2, huser, hlifetime, if_false]
  exact ⟨_, rfl⟩

/-- A login is issued a session exactly when there is an account under the identifier whose hash the password
verifies. -/
theorem checkLogin_ok_iff {db : AdminDb} {presented : Presented} {now : Ticks} {sessionId : NewGuid}
    (hids : ∀ user ∈ db.users, user.userId ≠ 0) :
    (∃ issued, checkLogin runtime db presented.credentialIdentifier presented.password now sessionId = .ok issued) ↔
      DotNet.isNullOrWhiteSpace presented.credentialIdentifier = false ∧
        DotNet.isNullOrWhiteSpace presented.password = false ∧
        ∃ user, db.findUser runtime (DotNet.trim presented.credentialIdentifier) = some user ∧
          verify runtime.kdf presented.password user.passwordHash = some .success := by
  unfold checkLogin
  constructor
  · rintro ⟨issued, h⟩
    split at h
    · cases h
    rename_i hidentifier
    split at h
    · cases h
    rename_i hpassword
    split at h
    · cases h
    rename_i user hfound
    split at h
    · cases h
    rename_i hverify
    exact ⟨Bool.eq_false_iff.2 hidentifier, Bool.eq_false_iff.2 hpassword, user, hfound, not_not.1 hverify⟩
  · rintro ⟨hidentifier, hpassword, user, hfound, hverify⟩
    obtain ⟨issued, hissue⟩ : ∃ issued, issue runtime user.userId sessionId now = some issued :=
      issue_isSome (hids user (List.mem_of_find?_eq_some hfound)) sessionId now
    simp only [hidentifier, hpassword, hfound, hverify, hissue, Bool.false_eq_true, if_false, ne_eq, not_true]
    exact ⟨issued, rfl⟩

/-- **However many processes start with one account configured, there is at most one account, it has the configured
identifier and a hash of the configured password, and those log in who present the identifier and a password with
the same subkey.** -/
theorem single_admin (hs : (authSystem runtime).ReachableUnder (Configured runtime credentialIdentifier password) s) :
    s.db.users.rows.length ≤ 1 ∧
      ∀ user ∈ s.db.users, ∃ salt, hash runtime.kdf password salt = some user.passwordHash ∧
        ∀ (presented : Presented) (now : Ticks) (sessionId : NewGuid),
          (∃ issued, checkLogin runtime s.db presented.credentialIdentifier presented.password now sessionId = .ok issued) ↔
            DotNet.isNullOrWhiteSpace presented.credentialIdentifier = false ∧
              DotNet.isNullOrWhiteSpace presented.password = false ∧
              runtime.SameIdentifier (DotNet.trim presented.credentialIdentifier) credentialIdentifier ∧
              runtime.kdf.derive presented.password salt iterations subkeySizeBytes =
                runtime.kdf.derive password salt iterations subkeySizeBytes := by
  have hinv := bootstrapInv_reachable hs
  have hids : ∀ user ∈ s.db.users, user.userId ≠ 0 := fun user huser => (hinv.users user huser).1
  constructor
  · cases hrows : s.db.users.rows with
    | nil => exact Nat.zero_le 1
    | cons user rest =>
      cases rest with
      | nil => exact Nat.le_refl 1
      | cons other rest =>
        -- two rows under one key
        have hsame := hinv.single user (by rw [← KeyedTable.mem_rows, hrows]; simp) other
          (by rw [← KeyedTable.mem_rows, hrows]; simp)
        have hnodup := s.db.users.nodup
        rw [hrows, hsame] at hnodup
        simp at hnodup
  · intro user huser
    obtain ⟨-, hidentifier, salt, hhash⟩ := hinv.users user huser
    refine ⟨salt, hhash, fun presented now sessionId => ?_⟩
    rw [checkLogin_ok_iff hids]
    refine and_congr_right fun _ => and_congr_right fun hpassword => ?_
    constructor
    · rintro ⟨found, hfound, hverify⟩
      have hmem : found ∈ s.db.users := List.mem_of_find?_eq_some hfound
      have hmatch : runtime.SameIdentifier found.credentialIdentifier (DotNet.trim presented.credentialIdentifier) := by
        simpa using List.find?_some hfound
      rw [hinv.single found hmem user huser] at hmatch hverify
      exact ⟨hmatch.symm.trans hidentifier, (verify_hash_iff hhash hpassword).1 hverify⟩
    · rintro ⟨hmatch, hsubkey⟩
      refine ⟨user, ?_, (verify_hash_iff hhash hpassword).2 hsubkey⟩
      have hfindable : runtime.SameIdentifier user.credentialIdentifier (DotNet.trim presented.credentialIdentifier) :=
        hidentifier.trans hmatch.symm
      cases hfound : s.db.findUser runtime (DotNet.trim presented.credentialIdentifier) with
      | none =>
        have hnone := List.find?_eq_none.1 hfound user huser
        exact absurd hfindable (by simpa using hnone)
      | some found => rw [hinv.single found (List.mem_of_find?_eq_some hfound) user huser]

theorem reachableUnder_sample : (authSystem sampleRuntime).ReachableUnder (Configured sampleRuntime "admin" "correct horse")
    sampleBootstrapped := by
  have hstart : (authSystem sampleRuntime).ReachableUnder (Configured sampleRuntime "admin" "correct horse") sampleStart :=
    .init rfl
  have htrim : sampleRuntime.SameIdentifier (DotNet.trim "admin") "admin" := by decide +kernel
  have hconfigured : Configured sampleRuntime "admin" "correct horse" sampleStart
      (.bootstrap 0 ⟨some "admin", some "correct horse"⟩ sampleSalt ⟨1, by decide⟩) := ⟨"admin", rfl, rfl, htrim⟩
  have hsave : Configured sampleRuntime "admin" "correct horse"
      (sampleStart.setTask 0 (.bootstrapping sampleAdmin)) (.save 0) := trivial
  exact (hstart.step hconfigured (step_of bootstrap_sample)).step hsave (step_of saveAdmin_sample)

/-- The Admin of the configuration logs in. -/
theorem sampleAdmin_logs_in : sampleBootstrapped.db.users.rows.length ≤ 1 ∧
    ∃ issued, checkLogin sampleRuntime sampleBootstrapped.db "Admin " "correct horse" 0 ⟨2, by decide⟩ = .ok issued := by
  obtain ⟨hlength, huser⟩ := single_admin reachableUnder_sample
  obtain ⟨salt, -, hlogin⟩ := huser sampleAdmin (List.mem_singleton.2 rfl)
  refine ⟨hlength, (hlogin samplePresented 0 ⟨2, by decide⟩).2 ⟨by decide +kernel, by decide +kernel, ?_, rfl⟩⟩
  decide +kernel

end WeaponDetection.Backend.Admin
