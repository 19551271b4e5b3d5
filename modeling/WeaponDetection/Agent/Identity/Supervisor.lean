import WeaponDetection.Agent.Identity.Activation

/-!
# The runtime supervisor

Models `validation/client.py`, `validation/monitor.py`, `runtime/operational_state_coordinator.py` and
`runtime/supervisor.py`.  A startup is one program; when it ends with a running monitor, each
iteration of the monitor is one more program of the same process.
-/

namespace WeaponDetection.Agent.Identity

open WeaponDetection.Foundations
open WeaponDetection.Foundations.Python
open WeaponDetection.Agent.Detection (Instant)

/-! ## Credential validation -/

/-- `CredentialValidationOutcome`. -/
inductive CredentialValidationOutcome where
  | valid
  | confirmedRejected
  | indeterminate
  deriving DecidableEq

/-- `_classify_success`. -/
def classifySuccess : Body → CredentialValidationOutcome
  | .json (.dict payload) =>
    match PyDict.get? payload "success", PyDict.get? payload "errorCode",
      PyDict.get? payload "data" with
    | some (.bool true), none, none => .valid
    | some (.bool true), some .none, none => .valid
    | some (.bool true), none, some .none => .valid
    | some (.bool true), some .none, some .none => .valid
    | _, _, _ => .indeterminate
  | _ => .indeterminate

/-- `_classify_rejection`. -/
def classifyRejection : Body → CredentialValidationOutcome
  | .json (.dict payload) =>
    match PyDict.get? payload "success", PyDict.get? payload "errorCode" with
    | some (.bool false), some (.str code) =>
      if code = "INVALID_DEVICE_CREDENTIALS" then .confirmedRejected else .indeterminate
    | _, _ => .indeterminate
  | _ => .indeterminate

/-- `CredentialValidationClient.validate`, from what came of its one request. -/
def classifyValidation : Exchange → CredentialValidationOutcome
  | .timeout => .indeterminate
  | .transportError => .indeterminate
  | .response status body =>
    if status = 200 then classifySuccess body
    else if status = 401 then classifyRejection body
    else .indeterminate

/-- `CredentialValidationClient.validate`. -/
def validate (deviceId sharedSecret : String) : AgentProgram CredentialValidationOutcome :=
  .call (.postValidate deviceId sharedSecret) fun exchange => .done (classifyValidation exchange)

/-! ## The operational-state coordinator -/

/-- `OperationalStateCoordinator`. -/
structure OperationalStateCoordinator where
  components : List Component
  state : OperationalState
  running : List Component

/-- `_rollback_started`, over the started components in reverse order. -/
def rollbackStarted : List Component → AgentProgram Unit
  | [] => .done ()
  -- a stop that fails is logged and does not mask the start failure
  | component :: rest => .call (.stopComponent component) fun _ => rollbackStarted rest

/-- The loop of `start_operational_components` over the pending components. -/
def startPending (coordinator : OperationalStateCoordinator) (startedNow : List Component) :
    List Component → AgentProgram OperationalStateCoordinator
  | [] => .done coordinator
  | component :: rest => .call (.startComponent component) fun started =>
    match started with
    | true =>
      startPending { coordinator with running := coordinator.running ++ [component] }
        (startedNow ++ [component]) rest
    | false => (rollbackStarted startedNow.reverse).bind fun _ => .raise .operationalComponentStart

/-- `start_operational_components`. -/
def startOperationalComponents (coordinator : OperationalStateCoordinator) :
    AgentProgram OperationalStateCoordinator :=
  if coordinator.state = .operational then
    startPending coordinator []
      (coordinator.components.filter fun component => component ∉ coordinator.running)
  else .raise .operationalComponentsLocked

/-- `_stop_running_locked`, over the running components in reverse order: what is left running. -/
def stopRunningLocked : List Component → AgentProgram (List Component)
  | [] => .done []
  | component :: rest => .call (.stopComponent component) fun stopped =>
    (stopRunningLocked rest).bind fun failures =>
      match stopped with
      | true => .done failures
      | false => .done (component :: failures)

/-- `enter_reactivation_required`.  The `OperationalComponentShutdownError` of a component that did
not stop is caught and logged by both callers. -/
def enterReactivationRequired (coordinator : OperationalStateCoordinator) :
    AgentProgram OperationalStateCoordinator := do
  let failures ← stopRunningLocked coordinator.running.reverse
  return { coordinator with state := .reactivationRequired, running := failures.reverse }

/-! ## The monitor -/

/-- `_load_authenticatable_identity`: `none` when the identity is locked. -/
def loadAuthenticatableIdentity : AgentProgram (Option DeviceIdentity) := do
  match ← load with
  | none => .raise .deviceIdentityUnavailable
  | some identity =>
    if identity.operationalState = .reactivationRequired then return none
    else if identity.canAuthenticate then return some identity
    else .raise .deviceIdentityUnavailable

/-- `_lock_on_confirmed_rejection`. -/
def lockOnConfirmedRejection : AgentProgram Unit :=
  (commit .markReactivationRequired).handle fun e =>
    .raise (if e.isPersistence then .credentialLockPersistence else e)

/-- `_attempt_once`: whether the loop has come to its terminal result. -/
def attemptOnce : AgentProgram Bool := do
  match ← loadAuthenticatableIdentity with
  | none => return true
  | some identity =>
    match identity.sharedSecret with
    | none => .raise .valueError
    | some sharedSecret =>
      match ← validate identity.deviceId sharedSecret with
      | .confirmedRejected => do
        lockOnConfirmedRejection
        return true
      | .valid => return false
      | .indeterminate => return false

/-! ## The supervisor -/

/-- `StartupBranch`. -/
inductive StartupBranch where
  | firstActivation
  | reactivation
  | lockedReactivationRequired
  | operationalValidated
  | operationalOffline
  | startupConfirmedRejected
  deriving DecidableEq

/-- What a startup leaves running: the coordinator, and whether the monitor task runs. -/
structure Runtime where
  startupBranch : StartupBranch
  coordinator : OperationalStateCoordinator
  monitorRunning : Bool

/-- `_locked_coordinator`. -/
def lockedCoordinator (components : List Component) : OperationalStateCoordinator :=
  { components, state := .reactivationRequired, running := [] }

/-- `_enter_operational`. -/
def enterOperational (components : List Component) (branch : StartupBranch)
    (identity : DeviceIdentity) : AgentProgram Runtime := do
  let coordinator ← startOperationalComponents
    { components, state := identity.operationalState, running := [] }
  return { startupBranch := branch, coordinator, monitorRunning := true }

/-- `_load_identity`. -/
def loadIdentity : AgentProgram (Option DeviceIdentity) :=
  load.handle fun e => .raise (if e.isPersistence then .agentStartup else e)

/-- `_startup_with_key`. -/
def startupWithKey (environmentKey : Option String) (components : List Component)
    (identityBefore : Option DeviceIdentity) : AgentProgram Runtime := do
  let _ ← activate environmentKey
  let branch := if identityBefore.isNone then .firstActivation else .reactivation
  match ← load with
  | none => .raise .agentStartup
  | some identity =>
    if identity.canAuthenticate then enterOperational components branch identity
    else .raise .agentStartup

/-- `_startup_confirmed_rejected`. -/
def startupConfirmedRejected (components : List Component) : AgentProgram Runtime := do
  (commit .markReactivationRequired).handle fun e =>
    .raise (if e.isPersistence then .agentStartup else e)
  return { startupBranch := .startupConfirmedRejected
           coordinator := lockedCoordinator components, monitorRunning := false }

/-- `_startup_validate_operational`. -/
def startupValidateOperational (components : List Component) (identity : DeviceIdentity) :
    AgentProgram Runtime :=
  match identity.sharedSecret with
  -- the assertion: `can_authenticate` guarantees a secret
  | none => .raise .valueError
  | some sharedSecret => do
    match ← validate identity.deviceId sharedSecret with
    | .confirmedRejected => startupConfirmedRejected components
    | .valid => enterOperational components .operationalValidated identity
    | .indeterminate => enterOperational components .operationalOffline identity

/-- `AgentRuntimeSupervisor.startup`. -/
def startup (environmentKey : Option String) (components : List Component) :
    AgentProgram Runtime := do
  let identity ← loadIdentity
  let resolved ← resolve environmentKey
  if resolved.isSome then startupWithKey environmentKey components identity
  else
    match identity with
    | none => .raise .activationKeyMissing
    | some identity =>
      if identity.operationalState = .reactivationRequired then
        return { startupBranch := .lockedReactivationRequired
                 coordinator := lockedCoordinator components, monitorRunning := false }
      else if identity.canAuthenticate then startupValidateOperational components identity
      else .raise .agentStartup

/-- `_run_monitor`: one turn of the loop of `CredentialValidationMonitor.run` and, when it is the last,
the reaction to its result or to its fatal error. -/
def monitorIteration (runtime : Runtime) : AgentProgram Runtime := do
  -- `except Exception`: a fatal failure of the monitor locks the runtime as well
  let terminal ← attemptOnce.handle fun _ => .done true
  if terminal then do
    let coordinator ← enterReactivationRequired runtime.coordinator
    return { runtime with coordinator, monitorRunning := false }
  else return runtime

/-! ## The Agent -/

/-- The Agent as its host sees it: any startup, with any key in the environment and any registered
components, and the iterations of a running monitor.  Before the first startup the table is empty or
holds any row its CHECK admits. -/
def agent : Host calls AgentError Runtime World where
  init w := w.history = [] ∧ ∀ row ∈ w.table, row.Check
  boot w p w' := ∃ environmentKey components,
    p = startup environmentKey components ∧ w' = { w with history := .startup :: w.history }
  resume runtime p := runtime.monitorRunning = true ∧ p = monitorIteration runtime
  responds := responds
  abandon w := w

end WeaponDetection.Agent.Identity
