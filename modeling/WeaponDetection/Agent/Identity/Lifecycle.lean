import WeaponDetection.Agent.Identity.Supervisor

/-!
# The lifecycle of the stored identity

Over every run of the Agent, with any answer of the Backend, the key file, the clock, the components
and the database, and a stop at any point.  `Allowed` says what must have happened before each call
that matters; each program of the supervisor is shown to make its calls only then (`startup_safe`,
`monitorIteration_safe`), and `identity_lifecycle` reads the lifecycle off the steps.
-/

namespace WeaponDetection.Agent.Identity

open WeaponDetection.Foundations
open WeaponDetection.Foundations.Python
open WeaponDetection.Agent.Detection (Instant)

/-! ## What the history says -/

/-- A startup begins here. -/
def Moment.isStartup : Moment → Bool
  | .startup => true
  | .answered _ _ => false

/-- A request to `POST /api/v1/activate`. -/
def Moment.isActivationRequest : Moment → Bool
  | .answered (.postActivate _) _ => true
  | _ => false

/-- The secret the Backend issued in its answer to an activation request. -/
def Moment.issuedSecret : Moment → Option String
  | .answered (.postActivate _) exchange =>
    match readActivation exchange with
    | .ok result => some result.sharedSecret
    | .error _ => none
  | _ => none

/-- The secret a transaction committed. -/
def Moment.committedSecret : Moment → Option String
  | .answered (.transaction (.store identity)) (.ok ()) => identity.sharedSecret
  | .answered (.transaction (.replaceSharedSecret sharedSecret _)) (.ok ()) => some sharedSecret
  | _ => none

/-- The Backend confirmed that these credentials are not valid. -/
def Moment.Rejects (deviceId sharedSecret : String) : Moment → Prop
  | .answered (.postValidate d s) exchange =>
    d = deviceId ∧ s = sharedSecret ∧ classifyValidation exchange = .confirmedRejected
  | _ => False

/-- What happened since the latest startup, the latest first. -/
def sinceStartup (history : List Moment) : List Moment :=
  history.takeWhile fun moment => !moment.isStartup

@[simp] theorem sinceStartup_startup (history : List Moment) :
    sinceStartup (.startup :: history) = [] := rfl

@[simp] theorem sinceStartup_answered (c : Call) (answer : c.Answer) (history : List Moment) :
    sinceStartup (.answered c answer :: history) = .answered c answer :: sinceStartup history := rfl

/-- The activation requests since the latest startup. -/
def activationRequests (history : List Moment) : ℕ :=
  (sinceStartup history).countP Moment.isActivationRequest

/-- Since the latest startup the Backend issued a secret, after that it was committed, and it is the
one that is stored. -/
def ActivationCommitted (w : World) : Prop :=
  ∃ newer older : List Moment, ∃ commit : Moment, ∃ secret : String,
    sinceStartup w.history = newer ++ commit :: older ∧ commit.committedSecret = some secret ∧
      (∃ request ∈ older, request.issuedSecret = some secret) ∧
        ∃ row ∈ w.table, row.protectedSharedSecret = some secret

/-! ## When a call may be made -/

/-- What the world must look like at each call. -/
def Allowed : Call → World → Prop
  | .postActivate _, w => activationRequests w.history = 0
  | .unlinkKeyFile, w => ActivationCommitted w
  | .transaction .markReactivationRequired, w =>
    ∀ row ∈ w.table, ∃ secret moment older, row.protectedSharedSecret = some secret ∧
      w.history = moment :: older ∧ moment.Rejects row.deviceId secret
  | .startComponent _, w => ∃ row ∈ w.table, row.operationalState = .operational
  | _, _ => True

/-- The invariant of the world. -/
structure Kept (w : World) : Prop where
  check : ∀ row ∈ w.table, row.Check
  requests : activationRequests w.history ≤ 1

/-- A call that is no activation request leaves their number as it is. -/
theorem activationRequests_answered {c : Call} (h : ∀ key, c ≠ .postActivate key)
    (answer : c.Answer) (history : List Moment) :
    activationRequests (.answered c answer :: history) = activationRequests history := by
  have hno : Moment.isActivationRequest (.answered c answer) = false := by
    cases c with
    | postActivate key => exact absurd rfl (h key)
    | _ => rfl
  rw [activationRequests, sinceStartup_answered, List.countP_cons_of_neg (by simp [hno])]
  rfl

/-- The invariant is kept by every answer to an allowed call. -/
theorem Kept.responds {w w' : World} {c : Call} {answer : c.Answer} (h : Kept w)
    (hallowed : Allowed c w) (hr : responds c w answer w') : Kept w' := by
  obtain ⟨hpossible, rfl⟩ := hr
  constructor
  · intro row hrow
    cases c with
    | transaction t =>
      cases answer with
      | error e => exact h.check row hrow
      | ok u =>
        obtain ⟨row', hrun⟩ := hpossible
        rw [write_transaction_ok hrun] at hrow
        cases hrow
        exact (Transaction.run_eq_ok_iff.mp hrun).2
    | _ => exact h.check row hrow
  · cases c with
    | postActivate key =>
      have hnone : activationRequests w.history = 0 := hallowed
      rw [activationRequests] at hnone
      rw [activationRequests, sinceStartup_answered, List.countP_cons_of_pos rfl, hnone]
    | _ =>
      rw [activationRequests_answered (by intro key hkey; cases hkey)]
      exact h.requests

/-! ## The programs -/

section Programs

variable {α : Type}

/-- Safety of a program of the identity code, whatever it raises. -/
abbrev AgentSafe (post : α → World → Prop) (p : AgentProgram α) (w : World) : Prop :=
  Safe responds Kept Allowed post (fun _ _ => True) p w

/-- A call that reads: the table is what it was, and the history grew by one moment. -/
theorem AgentSafe.read {c : Call} {next : c.Answer → AgentProgram α} {post : α → World → Prop}
    {w : World} (hc : c.ReadOnly) (hw : Kept w) (hallowed : Allowed c w)
    (h : ∀ answer w', Call.Possible c w.table answer → Kept w' → w'.table = w.table →
      w'.history = .answered c answer :: w.history → AgentSafe post (next answer) w') :
    AgentSafe post (.call c next) w := by
  refine ⟨hw, hallowed, ?_⟩
  intro answer w' hr
  have hw' := hw.responds hallowed hr
  obtain ⟨hpossible, rfl⟩ := hr
  exact h answer _ hpossible hw' (write_of_readOnly hc answer w.table) rfl

/-- Raising is always safe. -/
theorem AgentSafe.raise {post : α → World → Prop} {w : World} (hw : Kept w) (e : AgentError) :
    AgentSafe post (.raise e) w := ⟨hw, trivial⟩

/-- Translating an exception is safe. -/
theorem AgentSafe.rethrow {post : α → World → Prop} {p : AgentProgram α} {w : World}
    {translate : AgentError → AgentError} (h : AgentSafe post p w) :
    AgentSafe post (p.handle fun e => .raise (translate e)) w :=
  Safe.handle h fun _ _ hw _ => AgentSafe.raise hw _

theorem AgentSafe.ofExcept {post : α → World → Prop} {w : World} {result : Except AgentError α}
    (hw : Kept w) (h : ∀ a, result = .ok a → post a w) :
    AgentSafe post (Program.ofExcept result) w := by
  cases result with
  | error e => exact AgentSafe.raise hw e
  | ok a => exact ⟨hw, h a rfl⟩

end Programs

/-- From one world to a later one by calls that read and are no activation requests. -/
structure Reads (w w' : World) : Prop where
  table : w'.table = w.table
  requests : activationRequests w'.history = activationRequests w.history
  grown : ∃ newer, sinceStartup w'.history = newer ++ sinceStartup w.history

theorem Reads.refl (w : World) : Reads w w := ⟨rfl, rfl, [], rfl⟩

theorem Reads.trans {w₁ w₂ w₃ : World} (h : Reads w₁ w₂) (h' : Reads w₂ w₃) : Reads w₁ w₃ := by
  obtain ⟨newer, hnewer⟩ := h.grown
  obtain ⟨newer', hnewer'⟩ := h'.grown
  exact ⟨h'.table.trans h.table, h'.requests.trans h.requests, newer' ++ newer,
    by rw [hnewer', hnewer, List.append_assoc]⟩

/-- A world after a call that is no activation request and left the table alone. -/
theorem Reads.answered {c : Call} {w w' : World} {answer : c.Answer}
    (h : ∀ key, c ≠ .postActivate key) (htable : w'.table = w.table)
    (hhistory : w'.history = .answered c answer :: w.history) : Reads w w' :=
  ⟨htable, by rw [hhistory, activationRequests_answered h],
    [.answered c answer], by rw [hhistory, sinceStartup_answered]; rfl⟩

/-! ### Reading the table, the key and the clock -/

/-- `load` reads what is stored. -/
theorem load_safe {w : World} (hw : Kept w) :
    AgentSafe (fun identity w' => Reads w w' ∧ loadRow w.table = .ok identity) load w := by
  apply AgentSafe.read (c := .selectIdentity) trivial hw trivial
  intro answer w' hpossible hw' htable hhistory
  have hreads := Reads.answered (by intro key hkey; cases hkey) htable hhistory
  cases answer with
  | error e => exact AgentSafe.raise hw' e
  | ok rows =>
    cases hpossible
    exact AgentSafe.ofExcept hw' fun identity hload => ⟨hreads, hload⟩

theorem resolve_safe {w : World} (hw : Kept w) (environmentKey : Option String) :
    AgentSafe (fun _ w' => Reads w w') (resolve environmentKey) w := by
  cases environmentKey with
  | some key => exact ⟨hw, Reads.refl w⟩
  | none =>
    apply AgentSafe.read (c := .keyFileExists) trivial hw trivial
    intro answer w₁ _ hw₁ htable₁ hhistory₁
    have hreads₁ := Reads.answered (by intro key hkey; cases hkey) htable₁ hhistory₁
    match answer with
    | .error e => exact AgentSafe.raise hw₁ e
    | .ok false => exact ⟨hw₁, hreads₁⟩
    | .ok true =>
      apply AgentSafe.read (c := .readKeyFile) trivial hw₁ trivial
      intro answer w₂ _ hw₂ htable₂ hhistory₂
      have hreads₂ := Reads.answered (by intro key hkey; cases hkey) htable₂ hhistory₂
      match answer with
      | .error e => cases e <;> exact AgentSafe.raise hw₂ _
      | .ok raw =>
        show AgentSafe _ (if isBlank raw then _ else _) w₂
        split
        · exact AgentSafe.raise hw₂ _
        · exact ⟨hw₂, hreads₁.trans hreads₂⟩

theorem nowUtc_safe {w : World} (hw : Kept w) : AgentSafe (fun _ w' => Reads w w') nowUtc w := by
  apply AgentSafe.read (c := .clock) trivial hw trivial
  intro answer w' _ hw' htable hhistory
  match answer with
  | none => exact AgentSafe.raise hw' _
  | some instant =>
    exact ⟨hw', Reads.answered (by intro key hkey; cases hkey) htable hhistory⟩

/-! ### One activation -/

/-- Since the latest startup the Backend issued this secret. -/
def Issued (w : World) (secret : String) : Prop :=
  ∃ request ∈ sinceStartup w.history, request.issuedSecret = some secret

theorem Issued.reads {w w' : World} {secret : String} (h : Issued w secret) (hreads : Reads w w') :
    Issued w' secret := by
  obtain ⟨request, hmem, hissued⟩ := h
  obtain ⟨newer, hnewer⟩ := hreads.grown
  exact ⟨request, hnewer ▸ List.mem_append_right newer hmem, hissued⟩

/-- The one request: made only where none was made since the startup. -/
theorem callBackend_safe {w : World} (hw : Kept w) (hnone : activationRequests w.history = 0)
    (resolved : ResolvedActivationKey) :
    AgentSafe (fun result w' => Issued w' result.sharedSecret) (callBackend resolved) w := by
  apply AgentSafe.read (c := .postActivate resolved.key) trivial hw hnone
  intro exchange w' _ hw' _ hhistory
  cases hread : readActivation exchange with
  | error e => cases e <;> exact AgentSafe.raise hw' _
  | ok result =>
    refine ⟨hw', .answered (.postActivate resolved.key) exchange, ?_, ?_⟩
    · rw [hhistory, sinceStartup_answered]
      exact List.mem_cons_self
    · simp only [Moment.issuedSecret, hread]

/-- Committing a secret the Backend issued. -/
theorem commit_safe {w : World} (hw : Kept w) {t : Transaction} {secret : String}
    (ht : t ≠ .markReactivationRequired)
    (hcommits : Moment.committedSecret (.answered (.transaction t) (.ok ())) = some secret)
    (hstores : ∀ table row, t.newRow table = .ok row → row.protectedSharedSecret = some secret)
    (hissued : Issued w secret) :
    AgentSafe (fun _ w' => ActivationCommitted w') (commit t) w := by
  have hallowed : Allowed (.transaction t) w := by
    cases t with
    | markReactivationRequired => exact absurd rfl ht
    | _ => trivial
  refine ⟨hw, hallowed, ?_⟩
  intro answer w' hr
  have hw' := hw.responds hallowed hr
  obtain ⟨hpossible, rfl⟩ := hr
  cases answer with
  | error e => exact AgentSafe.raise hw' e
  | ok u =>
    obtain ⟨row, hrun⟩ := hpossible
    have hrow := hstores w.table row (Transaction.run_eq_ok_iff.mp hrun).1
    exact ⟨hw', [], sinceStartup w.history, _, secret, rfl, hcommits, hissued, row,
      write_transaction_ok hrun, hrow⟩

/-- A first activation stores the issued secret: no secret of the Backend is empty. -/
theorem newRow_store {identity : DeviceIdentity} {secret : String} {table : IdentityTable}
    {row : IdentityRow} (hsecret : identity.sharedSecret = some secret)
    (hnonblank : isBlank secret = false) (h : (Transaction.store identity).newRow table = .ok row) :
    row.protectedSharedSecret = some secret := by
  have hne : secret ≠ "" := by
    rintro rfl
    cases hnonblank
  cases table with
  | some row => cases h
  | none =>
    cases h
    simp [hsecret, hne]

theorem newRow_replaceSharedSecret {secret : String} {now : Instant} {table : IdentityTable}
    {row : IdentityRow} (h : (Transaction.replaceSharedSecret secret now).newRow table = .ok row) :
    row.protectedSharedSecret = some secret := by
  cases table with
  | none => cases h
  | some row =>
    cases h
    rfl

/-- The key file is deleted only after the commit. -/
theorem deleteKeyFileIfNeeded_safe {w : World} (hw : Kept w)
    (hcommitted : ActivationCommitted w) (resolved : ResolvedActivationKey) :
    AgentSafe (fun _ _ => True) (deleteKeyFileIfNeeded resolved) w := by
  rw [deleteKeyFileIfNeeded]
  split
  · exact ⟨hw, trivial⟩
  · apply AgentSafe.read (c := .unlinkKeyFile) trivial hw hcommitted
    intro answer w' _ hw' _ _
    match answer with
    | .ok () => exact ⟨hw', trivial⟩
    | .error e => cases e <;> exact AgentSafe.raise hw' _

theorem firstActivation_safe {w : World} (hw : Kept w) (hnone : activationRequests w.history = 0)
    (resolved : ResolvedActivationKey) :
    AgentSafe (fun _ _ => True) (firstActivation resolved) w := by
  apply Safe.bind (callBackend_safe hw hnone resolved)
  intro result w₁ hw₁ hissued
  apply Safe.bind (nowUtc_safe hw₁)
  intro now w₂ hw₂ hreads
  apply Safe.bind (AgentSafe.rethrow (commit_safe hw₂ (by intro h; cases h) rfl
    (fun _ _ => newRow_store rfl result.sharedSecret_nonblank) (hissued.reads hreads)))
  intro _ w₃ hw₃ hcommitted
  apply Safe.bind (deleteKeyFileIfNeeded_safe hw₃ hcommitted resolved)
  intro _ w₄ hw₄ _
  exact ⟨hw₄, trivial⟩

theorem reactivation_safe {w : World} (hw : Kept w) (hnone : activationRequests w.history = 0)
    (existing : DeviceIdentity) (resolved : ResolvedActivationKey) :
    AgentSafe (fun _ _ => True) (reactivation existing resolved) w := by
  apply Safe.bind (callBackend_safe hw hnone resolved)
  intro result w₁ hw₁ hissued
  split
  · exact AgentSafe.raise hw₁ _
  · apply Safe.bind (nowUtc_safe hw₁)
    intro now w₂ hw₂ hreads
    apply Safe.bind (AgentSafe.rethrow (commit_safe hw₂ (by intro h; cases h) rfl
      (fun _ _ => newRow_replaceSharedSecret) (hissued.reads hreads)))
    intro _ w₃ hw₃ hcommitted
    apply Safe.bind (deleteKeyFileIfNeeded_safe hw₃ hcommitted resolved)
    intro _ w₄ hw₄ _
    exact ⟨hw₄, trivial⟩

theorem activate_safe {w : World} (hw : Kept w) (hnone : activationRequests w.history = 0)
    (environmentKey : Option String) :
    AgentSafe (fun _ _ => True) (activate environmentKey) w := by
  apply Safe.bind (load_safe hw)
  intro existing w₁ hw₁ hload
  apply Safe.bind (resolve_safe hw₁ environmentKey)
  intro resolved w₂ hw₂ hreads
  have hnone₂ : activationRequests w₂.history = 0 := by
    rw [hreads.requests, hload.1.requests, hnone]
  split
  · exact AgentSafe.raise hw₂ _
  · exact firstActivation_safe hw₂ hnone₂ _
  · exact ⟨hw₂, trivial⟩
  · exact reactivation_safe hw₂ hnone₂ _ _

/-! ### The components -/

theorem rollbackStarted_safe {w : World} (hw : Kept w) (started : List Component) :
    AgentSafe (fun _ _ => True) (rollbackStarted started) w := by
  induction started generalizing w with
  | nil => exact ⟨hw, trivial⟩
  | cons component rest ih =>
    apply AgentSafe.read (c := .stopComponent component) trivial hw trivial
    intro _ w' _ hw' _ _
    exact ih hw'

theorem stopRunningLocked_safe {w : World} (hw : Kept w) (running : List Component) :
    AgentSafe (fun _ _ => True) (stopRunningLocked running) w := by
  induction running generalizing w with
  | nil => exact ⟨hw, trivial⟩
  | cons component rest ih =>
    apply AgentSafe.read (c := .stopComponent component) trivial hw trivial
    intro stopped w' _ hw' _ _
    apply Safe.bind (ih hw')
    intro failures w'' hw'' _
    split <;> exact ⟨hw'', trivial⟩

/-- Components are started one after the other over the same Operational row. -/
theorem startPending_safe {w : World} (hw : Kept w)
    (hrow : ∃ row ∈ w.table, row.operationalState = .operational) (pending : List Component)
    (coordinator : OperationalStateCoordinator) (startedNow : List Component) :
    AgentSafe (fun _ _ => True) (startPending coordinator startedNow pending) w := by
  induction pending generalizing w coordinator startedNow with
  | nil => exact ⟨hw, trivial⟩
  | cons component rest ih =>
    apply AgentSafe.read (c := .startComponent component) trivial hw hrow
    intro started w' _ hw' htable _
    split
    · exact ih hw' (htable ▸ hrow) _ _
    · apply Safe.bind (rollbackStarted_safe hw' _)
      intro _ w'' hw'' _
      exact AgentSafe.raise hw'' _

theorem enterOperational_safe {w : World} (hw : Kept w) {identity : DeviceIdentity}
    (hload : loadRow w.table = .ok (some identity)) (components : List Component)
    (branch : StartupBranch) :
    AgentSafe (fun _ _ => True) (enterOperational components branch identity) w := by
  obtain ⟨row, hrow, _, _, hstate⟩ := loadRow_eq_ok_some hload
  have hstart : AgentSafe (fun _ _ => True) (startOperationalComponents
      { components, state := identity.operationalState, running := [] }) w := by
    rw [startOperationalComponents]
    split
    · next h => exact startPending_safe hw ⟨row, hrow, hstate.trans h⟩ _ _ _
    · exact AgentSafe.raise hw _
  apply Safe.bind hstart
  intro coordinator w' hw' _
  exact ⟨hw', trivial⟩

/-! ### Validation and the lock -/

/-- The lock is set only where the latest answer rejected the stored credentials. -/
theorem lock_safe {w : World} (hw : Kept w)
    (hrejected : Allowed (.transaction .markReactivationRequired) w) :
    AgentSafe (fun _ _ => True) (commit .markReactivationRequired) w := by
  refine ⟨hw, hrejected, ?_⟩
  intro answer w' hr
  exact AgentSafe.ofExcept (hw.responds hrejected hr) fun _ _ => trivial

/-- A validation of the stored credentials: a confirmed rejection allows the lock. -/
theorem validate_safe {w : World} (hw : Kept w) {identity : DeviceIdentity} {secret : String}
    (hload : loadRow w.table = .ok (some identity)) (hsecret : identity.sharedSecret = some secret) :
    AgentSafe (fun outcome w' => w'.table = w.table ∧
        (outcome = .confirmedRejected → Allowed (.transaction .markReactivationRequired) w'))
      (validate identity.deviceId secret) w := by
  apply AgentSafe.read (c := .postValidate identity.deviceId secret) trivial hw trivial
  intro exchange w' _ hw' htable hhistory
  refine ⟨hw', htable, ?_⟩
  intro houtcome row hrow
  obtain ⟨row', hrow', hid, hstored, _⟩ := loadRow_eq_ok_some hload
  rw [htable, hrow'] at hrow
  cases hrow
  exact ⟨secret, _, w.history, hstored.trans hsecret, hhistory, hid.symm, rfl, houtcome⟩

theorem attemptOnce_safe {w : World} (hw : Kept w) :
    AgentSafe (fun _ _ => True) attemptOnce w := by
  have hidentity : AgentSafe (fun identity w' => ∀ found, identity = some found →
      loadRow w'.table = .ok (some found)) loadAuthenticatableIdentity w := by
    apply Safe.bind (load_safe hw)
    intro identity w₁ hw₁ hload
    rw [← hload.1.table] at hload
    split
    · exact AgentSafe.raise hw₁ _
    · split
      · exact ⟨hw₁, by intro found hfound; cases hfound⟩
      · split
        · refine ⟨hw₁, ?_⟩
          intro found hfound
          cases hfound
          exact hload.2
        · exact AgentSafe.raise hw₁ _
  apply Safe.bind hidentity
  intro identity w₁ hw₁ hload
  split
  · exact ⟨hw₁, trivial⟩
  · next found =>
    cases hsecret : found.sharedSecret with
    | none => exact AgentSafe.raise hw₁ _
    | some secret =>
      apply Safe.bind (validate_safe hw₁ (hload found rfl) hsecret)
      intro outcome w₂ hw₂ hvalidated
      split
      · apply Safe.bind (AgentSafe.rethrow (lock_safe hw₂ (hvalidated.2 rfl)))
        intro _ w₃ hw₃ _
        exact ⟨hw₃, trivial⟩
      · exact ⟨hw₂, trivial⟩
      · exact ⟨hw₂, trivial⟩

/-! ### The supervisor -/

theorem startupValidateOperational_safe {w : World} (hw : Kept w) {identity : DeviceIdentity}
    (hload : loadRow w.table = .ok (some identity)) (components : List Component) :
    AgentSafe (fun _ _ => True) (startupValidateOperational components identity) w := by
  rw [startupValidateOperational]
  split
  · exact AgentSafe.raise hw _
  · next secret hsecret =>
    apply Safe.bind (validate_safe hw hload hsecret)
    intro outcome w₁ hw₁ hvalidated
    rw [← hvalidated.1] at hload
    split
    · apply Safe.bind (AgentSafe.rethrow (lock_safe hw₁ (hvalidated.2 rfl)))
      intro _ w₂ hw₂ _
      exact ⟨hw₂, trivial⟩
    · exact enterOperational_safe hw₁ hload _ _
    · exact enterOperational_safe hw₁ hload _ _

theorem startupWithKey_safe {w : World} (hw : Kept w) (hnone : activationRequests w.history = 0)
    (environmentKey : Option String) (components : List Component)
    (identityBefore : Option DeviceIdentity) :
    AgentSafe (fun _ _ => True) (startupWithKey environmentKey components identityBefore) w := by
  apply Safe.bind (activate_safe hw hnone environmentKey)
  intro _ w₁ hw₁ _
  apply Safe.bind (load_safe hw₁)
  intro identity w₂ hw₂ hload
  rw [← hload.1.table] at hload
  split
  · exact AgentSafe.raise hw₂ _
  · split
    · exact enterOperational_safe hw₂ hload.2 _ _
    · exact AgentSafe.raise hw₂ _

/-- Every startup makes its calls only when they are allowed. -/
theorem startup_safe {w : World} (hw : Kept w) (hnone : activationRequests w.history = 0)
    (environmentKey : Option String) (components : List Component) :
    AgentSafe (fun _ _ => True) (startup environmentKey components) w := by
  apply Safe.bind (AgentSafe.rethrow (load_safe hw))
  intro identity w₁ hw₁ hload
  apply Safe.bind (resolve_safe hw₁ environmentKey)
  intro resolved w₂ hw₂ hreads
  have hload₂ : loadRow w₂.table = .ok identity := by rw [hreads.table, hload.1.table, hload.2]
  have hnone₂ : activationRequests w₂.history = 0 := by
    rw [hreads.requests, hload.1.requests, hnone]
  split
  · exact startupWithKey_safe hw₂ hnone₂ _ _ _
  · split
    · exact AgentSafe.raise hw₂ _
    · split
      · exact ⟨hw₂, trivial⟩
      · split
        · exact startupValidateOperational_safe hw₂ hload₂ _
        · exact AgentSafe.raise hw₂ _

theorem enterReactivationRequired_safe {w : World} (hw : Kept w)
    (coordinator : OperationalStateCoordinator) :
    AgentSafe (fun _ _ => True) (enterReactivationRequired coordinator) w := by
  apply Safe.bind (stopRunningLocked_safe hw _)
  intro failures w' hw' _
  exact ⟨hw', trivial⟩

/-- So does every iteration of the monitor. -/
theorem monitorIteration_safe {w : World} (hw : Kept w) (runtime : Runtime) :
    AgentSafe (fun _ _ => True) (monitorIteration runtime) w := by
  have hattempt : AgentSafe (fun _ _ => True)
      (attemptOnce.handle fun _ => .done true) w :=
    Safe.handle (attemptOnce_safe hw) fun _ w' hw' _ => ⟨hw', trivial⟩
  apply Safe.bind hattempt
  intro terminal w₁ hw₁ _
  split
  · apply Safe.bind (enterReactivationRequired_safe hw₁ _)
    intro coordinator w₂ hw₂ _
    exact ⟨hw₂, trivial⟩
  · exact ⟨hw₁, trivial⟩

/-! ## Runs -/

/-- The state of the Agent's host. -/
abbrev AgentState := Host.State calls AgentError Runtime World

/-- In every reachable state the invariant holds and the running program is safe. -/
theorem reachable_safe {s : AgentState} (h : agent.Reachable s) :
    Kept s.world ∧ ∀ p ∈ s.process, AgentSafe (fun _ _ => True) p s.world := by
  apply h.safe
  · intro w hinit
    exact ⟨hinit.2, by rw [hinit.1]; exact Nat.zero_le 1⟩
  · intro w p w' hw hboot
    obtain ⟨environmentKey, components, rfl, rfl⟩ := hboot
    have hw' : Kept { w with history := .startup :: w.history } := ⟨hw.check, Nat.zero_le 1⟩
    exact startup_safe hw' rfl environmentKey components
  · intro w runtime p hw _ hresume
    obtain ⟨_, rfl⟩ := hresume
    exact monitorIteration_safe hw runtime
  · intro w hw
    exact hw

/-- A step that answers a call was allowed to make it. -/
theorem step_allowed {s s' : AgentState} (h : agent.Reachable s) (hstep : agent.Step s s')
    {c : Call} {answer : c.Answer}
    (hcall : s'.world.history = .answered c answer :: s.world.history) : Allowed c s.world := by
  cases hstep with
  | boot hboot =>
    obtain ⟨environmentKey, components, _, rfl⟩ := hboot
    cases hcall
  | answer hr =>
    have hallowed := ((reachable_safe h).2 _ rfl).2.1
    obtain ⟨_, rfl⟩ := hr
    cases hcall
    exact hallowed
  | resume _ => exact absurd hcall.symm (List.cons_ne_self _ _)
  | stop => exact absurd hcall.symm (List.cons_ne_self _ _)

/-- Every step keeps the device id and the time of the first activation. -/
theorem step_permanent {s s' : AgentState} (hstep : agent.Step s s') {row : IdentityRow}
    (hrow : s.world.table = some row) :
    ∃ row', s'.world.table = some row' ∧ row'.deviceId = row.deviceId ∧
      row'.activatedAt = row.activatedAt := by
  cases hstep with
  | boot hboot =>
    obtain ⟨environmentKey, components, _, rfl⟩ := hboot
    exact ⟨row, hrow, rfl, rfl⟩
  | answer hr =>
    obtain ⟨_, rfl⟩ := hr
    rw [show _ = some row from hrow]
    exact write_permanent
  | resume _ => exact ⟨row, hrow, rfl, rfl⟩
  | stop => exact ⟨row, hrow, rfl, rfl⟩

theorem steps_permanent {s s' : AgentState} (hsteps : agent.Steps s s') {row : IdentityRow}
    (hrow : s.world.table = some row) :
    ∃ row', s'.world.table = some row' ∧ row'.deviceId = row.deviceId ∧
      row'.activatedAt = row.activatedAt := by
  induction hsteps with
  | refl => exact ⟨row, hrow, rfl, rfl⟩
  | tail _ hstep ih =>
    obtain ⟨row₁, hrow₁, hid₁, hat₁⟩ := ih
    obtain ⟨row₂, hrow₂, hid₂, hat₂⟩ := step_permanent hstep hrow₁
    exact ⟨row₂, hrow₂, hid₂.trans hid₁, hat₂.trans hat₁⟩

/-- A step that clears the stored secret is the lock. -/
theorem step_cleared {s s' : AgentState} (hstep : agent.Step s s') {row row' : IdentityRow}
    (hrow : s.world.table = some row) (hrow' : s'.world.table = some row')
    (hstored : row.protectedSharedSecret ≠ none) (hcleared : row'.protectedSharedSecret = none) :
    s'.world.history =
      .answered (.transaction .markReactivationRequired) (.ok ()) :: s.world.history := by
  have hkept : row ≠ row' := by
    rintro rfl
    exact hstored hcleared
  cases hstep with
  | boot hboot =>
    obtain ⟨environmentKey, components, _, rfl⟩ := hboot
    exact absurd (Option.some.inj (hrow.symm.trans hrow')) hkept
  | @answer w w' c next answer hr =>
    obtain ⟨hpossible, rfl⟩ := hr
    cases c with
    | transaction t =>
      cases answer with
      | error e => exact absurd (Option.some.inj (hrow.symm.trans hrow')) hkept
      | ok u =>
        obtain ⟨row₁, hrun⟩ := hpossible
        replace hrow' := (write_transaction_ok hrun).symm.trans hrow'
        cases hrow'
        have hnew := (Transaction.run_eq_ok_iff.mp hrun).1
        rw [show w.table = some row from hrow] at hnew
        cases t with
        | markReactivationRequired => rfl
        | store identity => cases hnew
        | replaceSharedSecret secret now =>
          cases hnew
          cases hcleared
    | _ => exact absurd (Option.some.inj (hrow.symm.trans hrow')) hkept
  | resume _ => exact absurd (Option.some.inj (hrow.symm.trans hrow')) hkept
  | stop => exact absurd (Option.some.inj (hrow.symm.trans hrow')) hkept

/-- The lifecycle of the identity, in every reachable state of the Agent: a secret is stored exactly
while the identity is Operational; the latest startup made at most one activation request; the device
id and the time of the first activation stay what they are in every continuation of the run; the
secret is cleared only right after the Backend rejected it; the key file is deleted only after the
secret of this startup's activation was committed; and a component is started only over an
Operational identity. -/
theorem identity_lifecycle {s : AgentState} (h : agent.Reachable s) :
    (∀ row ∈ s.world.table,
      row.protectedSharedSecret.isSome = true ↔ row.operationalState = .operational) ∧
    activationRequests s.world.history ≤ 1 ∧
    (∀ s', agent.Steps s s' → ∀ row, s.world.table = some row → ∃ row',
      s'.world.table = some row' ∧ row'.deviceId = row.deviceId ∧
        row'.activatedAt = row.activatedAt) ∧
    ∀ s', agent.Step s s' →
      (∀ row row', s.world.table = some row → s'.world.table = some row' →
        row.protectedSharedSecret ≠ none → row'.protectedSharedSecret = none →
          ∃ secret moment older, row.protectedSharedSecret = some secret ∧
            s.world.history = moment :: older ∧ moment.Rejects row.deviceId secret) ∧
      (∀ answer, s'.world.history = .answered .unlinkKeyFile answer :: s.world.history →
        ActivationCommitted s.world) ∧
      (∀ component answer,
        s'.world.history = .answered (.startComponent component) answer :: s.world.history →
          ∃ row, s.world.table = some row ∧ row.operationalState = .operational) := by
  have hkept := (reachable_safe h).1
  refine ⟨hkept.check, hkept.requests, fun s' hsteps row hrow => steps_permanent hsteps hrow, ?_⟩
  intro s' hstep
  refine ⟨?_, fun answer hcall => step_allowed h hstep hcall, ?_⟩
  · intro row row' hrow hrow' hstored hcleared
    have hlock := step_cleared hstep hrow hrow' hstored hcleared
    exact step_allowed h hstep hlock row hrow
  · intro component answer hcall
    obtain ⟨row, hrow, hstate⟩ := step_allowed h hstep hcall
    exact ⟨row, hrow, hstate⟩

/-- An answered call extends a run. -/
theorem reachable_answered {w : World} {c : Call} {next : c.Answer → AgentProgram Runtime}
    (h : agent.Reachable ⟨w, some (.call c next)⟩) (answer : c.Answer)
    (hpossible : c.Possible w.table answer) :
    agent.Reachable ⟨⟨c.write answer w.table, .answered c answer :: w.history⟩,
      some (next answer)⟩ :=
  h.step (.answer ⟨hpossible, rfl⟩)

/-- An answer that issues a secret. -/
def issuingAnswer : Exchange :=
  .response 200 (.json (.dict [("success", .bool true), ("data", .dict
    [("deviceId", .str "d1"), ("sharedSecret", .str "s1"), ("branchId", .str "b1")])]))

/-- What a first activation stores. -/
def activatedRow : IdentityRow := ⟨"d1", some "s1", .utc 0, .utc 0, .operational⟩

/-- A first activation with a key of the environment, cut right after its commit. -/
def activatedWorld : World where
  table := some activatedRow
  history :=
    [.answered (.transaction (.store ⟨"d1", some "s1", 0, 0, .operational, by decide⟩)) (.ok ()),
     .answered .clock (some 0), .answered (.postActivate "k") issuingAnswer,
     .answered .selectIdentity (.ok none), .answered .selectIdentity (.ok none), .startup]

theorem activatedWorld_reachable : agent.Reachable ⟨activatedWorld, none⟩ := by
  have h₀ : agent.Reachable ⟨⟨none, []⟩, none⟩ := .init ⟨rfl, by simp⟩
  have h₁ := h₀.step (.boot ⟨some "k", [], rfl, rfl⟩)
  -- the supervisor and the activation service each load the table
  have h₂ := reachable_answered h₁ (.ok none) (by rfl)
  have h₃ := reachable_answered h₂ (.ok none) (by rfl)
  have h₄ := reachable_answered h₃ issuingAnswer trivial
  have h₅ := reachable_answered h₄ (some 0) trivial
  have h₆ := reachable_answered h₅ (.ok ()) (by exact ⟨activatedRow, rfl⟩)
  exact h₆.step .stop

theorem identity_lifecycle_activatedWorld :
    activationRequests activatedWorld.history ≤ 1 ∧
      ∀ s', agent.Steps ⟨activatedWorld, none⟩ s' → ∃ row', s'.world.table = some row' ∧
        row'.deviceId = "d1" ∧ row'.activatedAt = .utc 0 := by
  obtain ⟨_, hrequests, hpermanent, _⟩ := identity_lifecycle activatedWorld_reachable
  exact ⟨hrequests, fun s' hsteps => hpermanent s' hsteps activatedRow rfl⟩

end WeaponDetection.Agent.Identity
