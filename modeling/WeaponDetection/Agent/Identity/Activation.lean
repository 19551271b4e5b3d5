import WeaponDetection.Agent.Identity.Repository
import WeaponDetection.Foundations.ConfigParser

/-!
# Activation and reactivation

Models `activation/backend_client.py`, `activation/key_resolver.py` and `activation/service.py`: one
request for each activation, never repeated, and what is stored and deleted after its answer.
-/

namespace WeaponDetection.Agent.Identity

open WeaponDetection.Foundations
open WeaponDetection.Foundations.Python
open WeaponDetection.Agent.Detection (Instant)

/-! ## The answer of the Backend -/

/-- `ActivationResult`; `__post_init__` refuses blank fields. -/
structure ActivationResult where
  deviceId : String
  sharedSecret : String
  branchId : String
  deviceId_nonblank : isBlank deviceId = false
  sharedSecret_nonblank : isBlank sharedSecret = false
  branchId_nonblank : isBlank branchId = false

/-- `_require_non_blank_str`. -/
def requireNonBlankStr (data : PyDict) (key : String) :
    Except AgentError { text : String // isBlank text = false } :=
  match data.get? key with
  | some (.str value) =>
    if h : isBlank value = false then .ok ⟨value, h⟩
    else .error (.invalidActivationResponse
      ("activation response field '" ++ key ++ "' is missing, not a string, or blank"))
  | _ => .error (.invalidActivationResponse
      ("activation response field '" ++ key ++ "' is missing, not a string, or blank"))

/-- `ActivationResult.from_response_data`. -/
def ActivationResult.fromResponseData : Option PyValue → Except AgentError ActivationResult
  | some (.dict data) => do
    let deviceId ← requireNonBlankStr data "deviceId"
    let sharedSecret ← requireNonBlankStr data "sharedSecret"
    let branchId ← requireNonBlankStr data "branchId"
    .ok ⟨deviceId, sharedSecret, branchId, deviceId.2, sharedSecret.2, branchId.2⟩
  | _ => .error (.invalidActivationResponse "activation response contained no data object")

/-- `_parse_success`. -/
def parseSuccess : Body → Except AgentError ActivationResult
  | .notJson => .error (.invalidActivationResponse "the activation response body was not valid JSON")
  -- only `JSONDecodeError` is caught
  | .notUnicode => .error .unicodeDecodeError
  | .json (.dict payload) =>
    match PyDict.get? payload "success" with
    | some (.bool true) => ActivationResult.fromResponseData (PyDict.get? payload "data")
    | _ => .error (.invalidActivationResponse "the activation response did not indicate success")
  | .json _ =>
    .error (.invalidActivationResponse "the activation response envelope was not an object")

/-- `_safe_error_code`; a body that is not text is not caught here either. -/
def safeErrorCode : Body → Except AgentError (Option String)
  | .notJson => .ok none
  | .notUnicode => .error .unicodeDecodeError
  | .json (.dict payload) =>
    match PyDict.get? payload "errorCode" with
    | some (.str code) => .ok (some code)
    | _ => .ok none
  | .json _ => .ok none

/-- `BackendActivationClient.activate`, from what came of its one request. -/
def readActivation : Exchange → Except AgentError ActivationResult
  | .timeout => .error .activationTimeout
  | .transportError => .error .activationTransport
  | .response status body =>
    if status = 200 then parseSuccess body
    else if status = 401 then do
      let errorCode ← safeErrorCode body
      .error (.activationRejected status errorCode)
    else .error (.activationServer status)

/-! ## The Activation Key -/

/-- `KeySource`. -/
inductive KeySource where
  | environment
  | file
  deriving DecidableEq

/-- `ResolvedActivationKey`. -/
structure ResolvedActivationKey where
  key : String
  source : KeySource

/-- `ActivationKeyResolver.resolve`. -/
def resolve (environmentKey : Option String) : AgentProgram (Option ResolvedActivationKey) :=
  match environmentKey with
  | some key => .done (some ⟨key, .environment⟩)
  | none => .call .keyFileExists fun answer => do
    match answer with
    | .error e => .raise e
    | .ok false => .done none
    | .ok true => .call .readKeyFile fun answer =>
      match answer with
      | .error .osError => .raise .activationKeyFile
      | .error e => .raise e
      | .ok raw =>
        if isBlank raw then .raise .activationKeyFile
        else .done (some ⟨String.ofList (Text.strip raw.toList), .file⟩)

/-- `_delete_key_file_if_needed`, with `ActivationKeyResolver.delete_key_file`. -/
def deleteKeyFileIfNeeded (resolved : ResolvedActivationKey) : AgentProgram Unit :=
  match resolved.source with
  | .environment => .done ()
  | .file => .call .unlinkKeyFile fun answer =>
    match answer with
    | .ok () => .done ()
    | .error .osError => .raise .activationKeyCleanup
    | .error e => .raise e

/-! ## The service -/

/-- `DeviceIdentityRepository.load`. -/
def load : AgentProgram (Option DeviceIdentity) :=
  .call .selectIdentity fun answer =>
    match answer with
    | .error e => .raise e
    | .ok rows => Program.ofExcept (loadRow rows)

/-- A write of the repository. -/
def commit (t : Transaction) : AgentProgram Unit :=
  .call (.transaction t) Program.ofExcept

/-- `ActivationOutcome`. -/
inductive ActivationOutcome where
  | firstActivation
  | reactivation
  | alreadyActivated
  deriving DecidableEq

/-- `ActivationServiceResult`. -/
structure ActivationServiceResult where
  outcome : ActivationOutcome
  deviceId : String
  activatedAt : Instant
  lastActivatedAt : Instant
  branchId : Option String

/-- `_call_backend`. -/
def callBackend (resolved : ResolvedActivationKey) : AgentProgram ActivationResult :=
  .call (.postActivate resolved.key) fun exchange =>
    match readActivation exchange with
    | .ok result => .done result
    | .error .activationTimeout => .raise .activationOutcomeAmbiguous
    | .error e => .raise e

/-- `_now_utc`. -/
def nowUtc : AgentProgram Instant :=
  .call .clock fun now =>
    match now with
    | some instant => .done instant
    | none => .raise .valueError

/-- `except (RepositoryError, sqlite3.Error) as exc: raise ActivationPersistenceError`. -/
def orPersistenceError (p : AgentProgram Unit) : AgentProgram Unit :=
  p.handle fun e => .raise (if e.isPersistence then .activationPersistence else e)

/-- `_first_activation`. -/
def firstActivation (resolved : ResolvedActivationKey) : AgentProgram ActivationServiceResult := do
  let result ← callBackend resolved
  let now ← nowUtc
  let identity : DeviceIdentity :=
    { deviceId := result.deviceId, sharedSecret := some result.sharedSecret, activatedAt := now
      lastActivatedAt := now, operationalState := .operational, consistent := by simp }
  orPersistenceError (commit (.store identity))
  deleteKeyFileIfNeeded resolved
  return ⟨.firstActivation, result.deviceId, now, now, some result.branchId⟩

/-- `_reactivation`. -/
def reactivation (existing : DeviceIdentity) (resolved : ResolvedActivationKey) :
    AgentProgram ActivationServiceResult := do
  let result ← callBackend resolved
  if result.deviceId ≠ existing.deviceId then .raise .deviceIdentityMismatch
  else do
    let now ← nowUtc
    orPersistenceError (commit (.replaceSharedSecret result.sharedSecret now))
    deleteKeyFileIfNeeded resolved
    return ⟨.reactivation, existing.deviceId, existing.activatedAt, now, some result.branchId⟩

/-- `ActivationService.activate`. -/
def activate (environmentKey : Option String) : AgentProgram ActivationServiceResult := do
  let existing ← load
  let resolved ← resolve environmentKey
  match existing, resolved with
  | none, none => .raise .activationKeyMissing
  | none, some resolved => firstActivation resolved
  | some existing, none =>
    return ⟨.alreadyActivated, existing.deviceId, existing.activatedAt, existing.lastActivatedAt, none⟩
  | some existing, some resolved => reactivation existing resolved

end WeaponDetection.Agent.Identity
