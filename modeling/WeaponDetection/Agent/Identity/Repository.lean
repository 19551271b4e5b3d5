import WeaponDetection.Foundations.EffectProgram
import WeaponDetection.Agent.Detection.Validation

/-!
# The stored device identity

Models the identity records of `persistence/models.py` and `persistence/device_identity_repository.py`
over the singleton table `DeviceIdentity`, and the calls the identity code makes to the world around
it: the table, the key file, the clock, the two Backend endpoints and the operational components.

The world keeps the history of these calls beside the table, the latest first, with a mark where an
Agent started; the table depends on the history only through the transactions that succeeded.
-/

namespace WeaponDetection.Agent.Identity

open WeaponDetection.Foundations
open WeaponDetection.Foundations.Python
open WeaponDetection.Agent.Detection (Instant)

/-! ## Records -/

/-- `OperationalState`. -/
inductive OperationalState where
  | operational
  | reactivationRequired
  deriving DecidableEq

/-- A stored timestamp: what `to_iso_utc` wrote, or a text `parse_iso_utc` rejects. -/
inductive StoredTime where
  | utc (instant : Instant)
  | unreadable (text : String)
  deriving DecidableEq

/-- A row of the table `DeviceIdentity`. -/
structure IdentityRow where
  deviceId : String
  protectedSharedSecret : Option String
  activatedAt : StoredTime
  lastActivatedAt : StoredTime
  operationalState : OperationalState
  deriving DecidableEq

/-- The table: the primary key `SingletonGuard = 1` leaves room for one row. -/
abbrev IdentityTable := Option IdentityRow

/-- The table's CHECK: a secret is stored exactly while the state is Operational. -/
def IdentityRow.Check (row : IdentityRow) : Prop :=
  row.protectedSharedSecret.isSome = true ↔ row.operationalState = .operational

instance (row : IdentityRow) : Decidable row.Check := inferInstanceAs (Decidable (_ ↔ _))

/-- `DeviceIdentity`; `__post_init__` refuses every other pair of secret and state. -/
structure DeviceIdentity where
  deviceId : String
  sharedSecret : Option String
  activatedAt : Instant
  lastActivatedAt : Instant
  operationalState : OperationalState
  consistent : sharedSecret.isSome = true ↔ operationalState = .operational

/-- `DeviceIdentity.can_authenticate`. -/
def DeviceIdentity.canAuthenticate (identity : DeviceIdentity) : Bool :=
  identity.operationalState = .operational && identity.sharedSecret.isSome

/-! ## Errors -/

/-- The exceptions the identity code raises or lets through. -/
inductive AgentError where
  -- `sqlite3.Error`, and what opening the file raises besides (`DatabaseInitializationError`, `OSError`)
  | sqlite
  | databaseUnavailable
  -- `RepositoryError`
  | identityAlreadyExists
  | invalidIdentityState
  -- `ActivationClientError`
  | activationTimeout
  | activationTransport
  | activationRejected (statusCode : ℕ) (errorCode : Option String)
  | activationServer (statusCode : ℕ)
  | invalidActivationResponse (message : String)
  -- `ActivationServiceError`
  | activationKeyMissing
  | activationKeyFile
  | deviceIdentityMismatch
  | activationOutcomeAmbiguous
  | activationPersistence
  | activationKeyCleanup
  -- the supervisor, the coordinator and the validation loop
  | agentStartup
  | operationalComponentsLocked
  | operationalComponentStart
  | operationalComponentShutdown
  | deviceIdentityUnavailable
  | credentialLockPersistence
  -- of the standard library
  | valueError
  | unicodeDecodeError
  | osError
  deriving DecidableEq

/-- `except (RepositoryError, sqlite3.Error)`. -/
def AgentError.isPersistence : AgentError → Bool
  | .sqlite | .identityAlreadyExists | .invalidIdentityState => true
  | _ => false

/-- The errors of the database itself, which may meet any access. -/
def AgentError.isDatabase : AgentError → Bool
  | .sqlite | .databaseUnavailable => true
  | _ => false

/-! ## The transactions of the repository -/

/-- `parse_iso_utc`. -/
def StoredTime.parse : StoredTime → Except AgentError Instant
  | .utc instant => .ok instant
  | .unreadable _ => .error .invalidIdentityState

/-- `DeviceIdentityRepository.load`, from the rows its query returned. -/
def loadRow : IdentityTable → Except AgentError (Option DeviceIdentity)
  | none => .ok none
  | some row => do
    let activatedAt ← row.activatedAt.parse
    let lastActivatedAt ← row.lastActivatedAt.parse
    if h : row.Check then
      .ok (some
        { deviceId := row.deviceId, sharedSecret := row.protectedSharedSecret
          activatedAt, lastActivatedAt, operationalState := row.operationalState, consistent := h })
    else .error .invalidIdentityState

/-- The writes of the repository, each one transaction. -/
inductive Transaction where
  | store (identity : DeviceIdentity)
  | replaceSharedSecret (sharedSecret : String) (lastActivatedAt : Instant)
  | markReactivationRequired

/-- The row a transaction writes. -/
def Transaction.newRow : Transaction → IdentityTable → Except AgentError IdentityRow
  | .store _, some _ => .error .identityAlreadyExists
  | .store identity, none =>
    .ok
      { deviceId := identity.deviceId
        -- an empty `SecretStr` is false
        protectedSharedSecret := identity.sharedSecret.filter (· ≠ "")
        activatedAt := .utc identity.activatedAt
        lastActivatedAt := .utc identity.lastActivatedAt
        operationalState := identity.operationalState }
  | .replaceSharedSecret _ _, none => .error .invalidIdentityState
  | .replaceSharedSecret sharedSecret lastActivatedAt, some row =>
    .ok { row with
          protectedSharedSecret := some sharedSecret
          lastActivatedAt := .utc lastActivatedAt
          operationalState := .operational }
  | .markReactivationRequired, none => .error .invalidIdentityState
  | .markReactivationRequired, some row =>
    .ok { row with protectedSharedSecret := none, operationalState := .reactivationRequired }

/-- `store`, `replace_shared_secret` and `mark_reactivation_required`: the database refuses a row
that violates the CHECK. -/
def Transaction.run (t : Transaction) (table : IdentityTable) : Except AgentError IdentityRow := do
  let row ← t.newRow table
  if row.Check then .ok row else .error .sqlite

theorem Transaction.run_eq_ok_iff {t : Transaction} {table : IdentityTable} {row : IdentityRow} :
    t.run table = .ok row ↔ t.newRow table = .ok row ∧ row.Check := by
  rw [Transaction.run, bind_eq_ok_iff]
  constructor
  · rintro ⟨row', hrow, hcheck⟩
    split at hcheck
    · next h =>
      cases hcheck
      exact ⟨hrow, h⟩
    · cases hcheck
  · intro h
    exact ⟨row, h.1, if_pos h.2⟩

/-- A loaded identity says what the row says. -/
theorem loadRow_eq_ok_some {table : IdentityTable} {identity : DeviceIdentity}
    (h : loadRow table = .ok (some identity)) :
    ∃ row, table = some row ∧ row.deviceId = identity.deviceId ∧
      row.protectedSharedSecret = identity.sharedSecret ∧
      row.operationalState = identity.operationalState := by
  cases table with
  | none => cases h
  | some row =>
    simp only [loadRow, bind_eq_ok_iff] at h
    obtain ⟨_, _, _, _, h⟩ := h
    split at h
    · cases h
      exact ⟨row, rfl, rfl, rfl, rfl⟩
    · cases h

theorem loadRow_eq_ok_none {table : IdentityTable} (h : loadRow table = .ok none) :
    table = none := by
  cases table with
  | none => rfl
  | some row =>
    simp only [loadRow, bind_eq_ok_iff] at h
    obtain ⟨_, _, _, _, h⟩ := h
    split at h <;> cases h

/-- No transaction touches the device id or the time of the first activation. -/
theorem Transaction.run_permanent {t : Transaction} {row row' : IdentityRow}
    (h : t.run (some row) = .ok row') :
    row'.deviceId = row.deviceId ∧ row'.activatedAt = row.activatedAt := by
  replace h := (run_eq_ok_iff.mp h).1
  cases t with
  | store identity => cases h
  | replaceSharedSecret sharedSecret lastActivatedAt =>
    cases h
    exact ⟨rfl, rfl⟩
  | markReactivationRequired =>
    cases h
    exact ⟨rfl, rfl⟩

/-! ## The calls -/

/-- The body of an answer as `response.json()` reads it. -/
inductive Body where
  | notJson
  | notUnicode
  | json (value : PyValue)

/-- One HTTP exchange as the caller sees it. -/
inductive Exchange where
  | timeout
  | transportError
  | response (status : ℕ) (body : Body)

/-- A registered operational component, by its place among them. -/
abbrev Component := ℕ

/-- The calls of the identity code. -/
inductive Call where
  | selectIdentity
  | transaction (t : Transaction)
  | keyFileExists
  | readKeyFile
  | unlinkKeyFile
  | postActivate (activationKey : String)
  | clock
  | postValidate (deviceId sharedSecret : String)
  | startComponent (component : Component)
  | stopComponent (component : Component)

/-- The answers: a result or the exception the call raised. -/
def Call.Answer : Call → Type
  | .selectIdentity => Except AgentError IdentityTable
  | .transaction _ => Except AgentError Unit
  | .keyFileExists => Except AgentError Bool
  | .readKeyFile => Except AgentError String
  | .unlinkKeyFile => Except AgentError Unit
  | .postActivate _ => Exchange
  -- `none`: a naive datetime
  | .clock => Option Instant
  | .postValidate _ _ => Exchange
  -- whether the coroutine returned
  | .startComponent _ => Bool
  | .stopComponent _ => Bool

/-- The interface of the identity code. -/
abbrev calls : Interface := ⟨Call, Call.Answer⟩

/-- A program of the identity code. -/
abbrev AgentProgram := Program calls AgentError

/-! ## The world -/

/-- What happened: an Agent started, or a call was answered. -/
inductive Moment where
  | startup
  | answered (c : Call) (answer : c.Answer)

/-- The stored identity and the history of the calls, the latest first. -/
structure World where
  table : IdentityTable
  history : List Moment

/-- What a call that was answered did to the table. -/
def Call.write : (c : Call) → c.Answer → IdentityTable → IdentityTable
  | .transaction t, .ok (), table =>
    match t.run table with
    | .ok row => some row
    | .error _ => table
  | _, _, table => table

/-- The answers the table allows: the database may fail any access, and what does not depend on the
table may be anything. -/
def Call.Possible : (c : Call) → IdentityTable → c.Answer → Prop
  | .selectIdentity, table, .ok rows => rows = table
  | .selectIdentity, _, .error e => e.isDatabase = true
  | .transaction t, table, .ok () => ∃ row, t.run table = .ok row
  | .transaction t, table, .error e => e.isDatabase = true ∨ t.run table = .error e
  | _, _, _ => True

/-- The world's answer to a call. -/
def responds : Response calls World := fun c w answer w' =>
  Call.Possible c w.table answer ∧
    w' = ⟨Call.write c answer w.table, .answered c answer :: w.history⟩

/-- The calls that leave the table alone. -/
def Call.ReadOnly : Call → Prop
  | .transaction _ => False
  | _ => True

theorem write_of_readOnly {c : Call} (h : c.ReadOnly) (answer : c.Answer) (table : IdentityTable) :
    c.write answer table = table := by
  cases c with
  | transaction t => exact h.elim
  | _ => rfl

/-- A transaction that was not answered `ok` wrote nothing. -/
theorem write_transaction_error (t : Transaction) (e : AgentError) (table : IdentityTable) :
    Call.write (.transaction t) (.error e) table = table := rfl

theorem write_transaction_ok {t : Transaction} {table : IdentityTable} {row : IdentityRow}
    (h : t.run table = .ok row) : Call.write (.transaction t) (.ok ()) table = some row := by
  simp only [Call.write, h]

/-- A row keeps its device id and the time of its first activation at every answer. -/
theorem write_permanent {c : Call} {answer : c.Answer} {row : IdentityRow} :
    ∃ row', c.write answer (some row) = some row' ∧ row'.deviceId = row.deviceId ∧
      row'.activatedAt = row.activatedAt := by
  cases c with
  | transaction t =>
    cases answer with
    | error e => exact ⟨row, rfl, rfl, rfl⟩
    | ok u =>
      cases hrun : t.run (some row) with
      | error e => exact ⟨row, by simp only [Call.write, hrun], rfl, rfl⟩
      | ok row' => exact ⟨row', write_transaction_ok hrun, Transaction.run_permanent hrun⟩
  | _ => exact ⟨row, rfl, rfl, rfl⟩

end WeaponDetection.Agent.Identity
