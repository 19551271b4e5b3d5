import WeaponDetection.Foundations.SqliteConnection

/-!
# The schema of the Agent's database and its migrations

Models `persistence/schema.py`: the tables of every shipped version, the statements of the five
migrations in their order, and `initialize_schema`, which runs the missing ones, each in its own
transaction (`persistence/database.py`).
-/

namespace WeaponDetection.Agent.Persistence

open WeaponDetection.Foundations
open WeaponDetection.Foundations.Sqlite

/-! ## Names -/

/-- The tables, with the names under which the migrations build their replacements. -/
inductive TableName where
  | schemaVersion
  | deviceIdentity
  | deviceIdentityV2
  | configCache
  | detectionEvent
  | detectionEventV4
  | detectionEventV6
  | snapshotOutbox
  | snapshotOutboxV6
  deriving DecidableEq

instance : Fintype TableName where
  elems := {.schemaVersion, .deviceIdentity, .deviceIdentityV2, .configCache, .detectionEvent,
    .detectionEventV4, .detectionEventV6, .snapshotOutbox, .snapshotOutboxV6}
  complete := by
    intro name
    cases name <;> decide

/-- The indexes. -/
inductive IndexName where
  | detectionEventDeliveryStatusCreatedAtUtc
  | snapshotOutboxUploadStatusCapturedAtUtc
  deriving DecidableEq

/-- The columns of all tables. -/
inductive ColumnName where
  | version
  | singletonGuard
  | deviceId
  | protectedSharedSecret
  | activatedAt
  | lastActivatedAt
  | operationalState
  | configJson
  | updatedAt
  | eventId
  | cameraId
  | sourceId
  | classId
  | className
  | confidence
  | frameNumber
  | detectedAtUtc
  | frameWidth
  | frameHeight
  | bboxLeft
  | bboxTop
  | bboxWidth
  | bboxHeight
  | deliveryStatus
  | deliveredAtUtc
  | finalizedAtUtc
  | createdAtUtc
  | localPath
  | captureStatus
  | uploadStatus
  | backendAlertId
  | contentType
  | sizeBytes
  | sha256
  | capturedAtUtc
  | uploadedAtUtc
  | attemptCount
  | lastAttemptAtUtc
  | lastErrorCategory
  deriving DecidableEq

/-- A database of the Agent. -/
abbrev AgentDatabase := Sqlite.Database TableName ColumnName IndexName

/-- A table definition of the Agent. -/
abbrev AgentTableDef := TableDef TableName ColumnName

/-- A statement over the Agent's database. -/
abbrev AgentStatement := Statement TableName ColumnName IndexName

/-- `name TEXT NOT NULL`. -/
def textNotNull (name : ColumnName) : ColumnDef ColumnName := ⟨name, .text, true, .null⟩

/-- `name TEXT NULL`. -/
def textNull (name : ColumnName) : ColumnDef ColumnName := ⟨name, .text, false, .null⟩

/-- `name INTEGER NOT NULL`. -/
def integerNotNull (name : ColumnName) : ColumnDef ColumnName := ⟨name, .integer, true, .null⟩

/-- `name REAL NOT NULL`. -/
def realNotNull (name : ColumnName) : ColumnDef ColumnName := ⟨name, .real, true, .null⟩

/-- `name TEXT PRIMARY KEY`, which does not exclude NULL. -/
def textPrimaryKey (name : ColumnName) : ColumnDef ColumnName := ⟨name, .text, false, .null⟩

/-- A text literal. -/
abbrev quoted (s : String) : Value := .text s

/-! ## Version 1 -/

/-- `SchemaVersion`. -/
def schemaVersionDdl : AgentTableDef where
  columns := [integerNotNull .version]
  primaryKey := none
  checks := []
  foreignKeys := []

/-- `SingletonGuard INTEGER PRIMARY KEY CHECK (SingletonGuard = 1)`: the alias of the row id is never
NULL. -/
def singletonGuardCheck : Condition ColumnName := .isIn .singletonGuard [.integer 1]

/-- `DeviceIdentity` of version 1. -/
def deviceIdentityV1Ddl : AgentTableDef where
  columns :=
    [integerNotNull .singletonGuard, textNotNull .deviceId, textNotNull .protectedSharedSecret,
     textNotNull .activatedAt, textNotNull .lastActivatedAt]
  primaryKey := some .singletonGuard
  checks := [singletonGuardCheck]
  foreignKeys := []

/-- `ConfigCache`. -/
def configCacheDdl : AgentTableDef where
  columns := [integerNotNull .singletonGuard, textNotNull .configJson, textNotNull .updatedAt]
  primaryKey := some .singletonGuard
  checks := [singletonGuardCheck]
  foreignKeys := []

/-- `SCHEMA_V1_STATEMENTS`, and the row `_apply_version_1` inserts after them. -/
def applyVersion1Statements : List AgentStatement :=
  [.createTable true .schemaVersion schemaVersionDdl,
   .createTable true .deviceIdentity deviceIdentityV1Ddl,
   .createTable true .configCache configCacheDdl,
   .insertValues .schemaVersion [.version] [.integer 1]]

/-! ## Version 2 -/

/-- `_device_identity_v2_ddl`. -/
def deviceIdentityV2Ddl : AgentTableDef where
  columns :=
    [integerNotNull .singletonGuard, textNotNull .deviceId, textNull .protectedSharedSecret,
     textNotNull .activatedAt, textNotNull .lastActivatedAt, textNotNull .operationalState]
  primaryKey := some .singletonGuard
  checks :=
    [singletonGuardCheck,
     .isIn .operationalState [quoted "Operational", quoted "ReactivationRequired"],
     .or (.and (.isIn .operationalState [quoted "Operational"]) (.isNotNull .protectedSharedSecret))
       (.and (.isIn .operationalState [quoted "ReactivationRequired"])
         (.isNull .protectedSharedSecret))]
  foreignKeys := []

/-- `_MIGRATION_V1_TO_V2_STATEMENTS`. -/
def migrationV1ToV2Statements : List AgentStatement :=
  [.createTable false .deviceIdentityV2 deviceIdentityV2Ddl,
   .insertSelect .deviceIdentityV2
     [.singletonGuard, .deviceId, .protectedSharedSecret, .activatedAt, .lastActivatedAt,
      .operationalState]
     [.column .singletonGuard, .column .deviceId, .column .protectedSharedSecret,
      .column .activatedAt, .column .lastActivatedAt, .literal (quoted "Operational")]
     .deviceIdentity,
   .dropTable .deviceIdentity,
   .renameTable .deviceIdentityV2 .deviceIdentity,
   .updateAll .schemaVersion .version (.integer 2)]

/-! ## Version 3 -/

/-- The columns of `DetectionEvent` before `DeliveryStatus`, the same in every version. -/
def detectionEventFields : List (ColumnDef ColumnName) :=
  [textPrimaryKey .eventId, textNotNull .deviceId, textNotNull .cameraId, integerNotNull .sourceId,
   integerNotNull .classId, textNotNull .className, realNotNull .confidence,
   integerNotNull .frameNumber, textNotNull .detectedAtUtc, integerNotNull .frameWidth,
   integerNotNull .frameHeight, realNotNull .bboxLeft, realNotNull .bboxTop, realNotNull .bboxWidth,
   realNotNull .bboxHeight]

/-- `DeliveryStatus TEXT NOT NULL DEFAULT 'pending'`. -/
def deliveryStatusColumn : ColumnDef ColumnName := ⟨.deliveryStatus, .text, true, quoted "pending"⟩

/-- `DetectionEvent` of version 3. -/
def detectionEventV3Ddl : AgentTableDef where
  columns := detectionEventFields ++ [deliveryStatusColumn, textNotNull .createdAtUtc]
  primaryKey := some .eventId
  checks := [.isIn .deliveryStatus [quoted "pending", quoted "delivered"]]
  foreignKeys := []

/-- `CREATE INDEX IF NOT EXISTS idx_detection_event_delivery_status_created_at_utc`. -/
def createDetectionEventIndex : AgentStatement :=
  .createIndex .detectionEventDeliveryStatusCreatedAtUtc .detectionEvent
    [.deliveryStatus, .createdAtUtc]

/-- `_MIGRATION_V2_TO_V3_STATEMENTS`. -/
def migrationV2ToV3Statements : List AgentStatement :=
  [.createTable true .detectionEvent detectionEventV3Ddl,
   createDetectionEventIndex,
   .updateAll .schemaVersion .version (.integer 3)]

/-! ## Version 4 -/

/-- `_detection_event_v4_ddl`. -/
def detectionEventV4Ddl : AgentTableDef where
  columns := detectionEventFields ++
    [deliveryStatusColumn, textNull .deliveredAtUtc, textNotNull .createdAtUtc]
  primaryKey := some .eventId
  checks := [.isIn .deliveryStatus [quoted "pending", quoted "delivered"]]
  foreignKeys := []

/-- `_MIGRATION_V3_TO_V4_STATEMENTS`. -/
def migrationV3ToV4Statements : List AgentStatement :=
  [.createTable false .detectionEventV4 detectionEventV4Ddl,
   .insertSelect .detectionEventV4
     [.eventId, .deviceId, .cameraId, .sourceId, .classId, .className, .confidence, .frameNumber,
      .detectedAtUtc, .frameWidth, .frameHeight, .bboxLeft, .bboxTop, .bboxWidth, .bboxHeight,
      .deliveryStatus, .deliveredAtUtc, .createdAtUtc]
     [.column .eventId, .column .deviceId, .column .cameraId, .column .sourceId, .column .classId,
      .column .className, .column .confidence, .column .frameNumber, .column .detectedAtUtc,
      .column .frameWidth, .column .frameHeight, .column .bboxLeft, .column .bboxTop,
      .column .bboxWidth, .column .bboxHeight, .column .deliveryStatus, .literal .null,
      .column .createdAtUtc]
     .detectionEvent,
   .dropTable .detectionEvent,
   .renameTable .detectionEventV4 .detectionEvent,
   createDetectionEventIndex,
   .updateAll .schemaVersion .version (.integer 4)]

/-! ## Version 5 -/

/-- `SnapshotOutbox` with the values its `UploadStatus` admits. -/
def snapshotOutboxDdl (uploadStatuses : List Value) : AgentTableDef where
  columns :=
    [textPrimaryKey .eventId, textNotNull .localPath, textNotNull .captureStatus,
     ⟨.uploadStatus, .text, true, quoted "pending"⟩, textNull .backendAlertId,
     textNotNull .contentType, integerNotNull .sizeBytes, textNotNull .sha256,
     textNotNull .capturedAtUtc, textNull .uploadedAtUtc, ⟨.attemptCount, .integer, true, .integer 0⟩,
     textNull .lastAttemptAtUtc, textNull .lastErrorCategory]
  primaryKey := some .eventId
  checks :=
    [.isIn .captureStatus [quoted "captured", quoted "capture_failed"],
     .isIn .uploadStatus uploadStatuses]
  foreignKeys := [⟨.eventId, .detectionEvent, .eventId⟩]

/-- `SnapshotOutbox` of version 5. -/
def snapshotOutboxV5Ddl : AgentTableDef := snapshotOutboxDdl [quoted "pending", quoted "uploaded"]

/-- `CREATE INDEX IF NOT EXISTS idx_snapshot_outbox_upload_status_captured_at_utc`. -/
def createSnapshotOutboxIndex : AgentStatement :=
  .createIndex .snapshotOutboxUploadStatusCapturedAtUtc .snapshotOutbox
    [.uploadStatus, .capturedAtUtc]

/-- `_MIGRATION_V4_TO_V5_STATEMENTS`. -/
def migrationV4ToV5Statements : List AgentStatement :=
  [.createTable true .snapshotOutbox snapshotOutboxV5Ddl,
   createSnapshotOutboxIndex,
   .updateAll .schemaVersion .version (.integer 5)]

/-! ## Version 6 -/

/-- `_detection_event_v6_ddl`. -/
def detectionEventV6Ddl : AgentTableDef where
  columns := detectionEventFields ++
    [deliveryStatusColumn, textNull .deliveredAtUtc, textNull .finalizedAtUtc,
     textNotNull .createdAtUtc]
  primaryKey := some .eventId
  checks :=
    [.isIn .deliveryStatus [quoted "pending", quoted "delivered", quoted "suppressed_by_quota"]]
  foreignKeys := []

/-- `_snapshot_outbox_v6_ddl`. -/
def snapshotOutboxV6Ddl : AgentTableDef :=
  snapshotOutboxDdl [quoted "pending", quoted "uploaded", quoted "suppressed_by_quota"]

/-- `_MIGRATION_V5_TO_V6_STATEMENTS`. -/
def migrationV5ToV6Statements : List AgentStatement :=
  [.createTable false .detectionEventV6 detectionEventV6Ddl,
   .insertSelect .detectionEventV6
     [.eventId, .deviceId, .cameraId, .sourceId, .classId, .className, .confidence, .frameNumber,
      .detectedAtUtc, .frameWidth, .frameHeight, .bboxLeft, .bboxTop, .bboxWidth, .bboxHeight,
      .deliveryStatus, .deliveredAtUtc, .finalizedAtUtc, .createdAtUtc]
     [.column .eventId, .column .deviceId, .column .cameraId, .column .sourceId, .column .classId,
      .column .className, .column .confidence, .column .frameNumber, .column .detectedAtUtc,
      .column .frameWidth, .column .frameHeight, .column .bboxLeft, .column .bboxTop,
      .column .bboxWidth, .column .bboxHeight, .column .deliveryStatus, .column .deliveredAtUtc,
      .literal .null, .column .createdAtUtc]
     .detectionEvent,
   .dropTable .detectionEvent,
   .renameTable .detectionEventV6 .detectionEvent,
   createDetectionEventIndex,
   .createTable false .snapshotOutboxV6 snapshotOutboxV6Ddl,
   .insertSelect .snapshotOutboxV6
     [.eventId, .localPath, .captureStatus, .uploadStatus, .backendAlertId, .contentType,
      .sizeBytes, .sha256, .capturedAtUtc, .uploadedAtUtc, .attemptCount, .lastAttemptAtUtc,
      .lastErrorCategory]
     [.column .eventId, .column .localPath, .column .captureStatus, .column .uploadStatus,
      .column .backendAlertId, .column .contentType, .column .sizeBytes, .column .sha256,
      .column .capturedAtUtc, .column .uploadedAtUtc, .column .attemptCount,
      .column .lastAttemptAtUtc, .column .lastErrorCategory]
     .snapshotOutbox,
   .dropTable .snapshotOutbox,
   .renameTable .snapshotOutboxV6 .snapshotOutbox,
   createSnapshotOutboxIndex,
   .updateAll .schemaVersion .version (.integer 6)]

/-! ## `initialize_schema` -/

/-- What the initializer raises. -/
inductive SchemaError where
  /-- `sqlite3.Error`. -/
  | sqlite
  | unsupportedSchemaVersion (version : ℤ)
  | invalidSchemaState
  deriving DecidableEq

/-- A program over a connection to the Agent's database. -/
abbrev SchemaProgram := Program (connection TableName ColumnName IndexName) SchemaError

/-- `read_schema_version`. -/
def readSchemaVersion : SchemaProgram (Option ℤ) :=
  .call (.tableExists .schemaVersion) fun answer =>
    match answer with
    | none => .raise .sqlite
    | some false => .done none
    | some true => .call (.selectColumn .schemaVersion .version) fun answer =>
      match answer with
      | none => .raise .sqlite
      | some [.integer value] =>
        if value < 1 then .raise .invalidSchemaState else .done (some value)
      | some _ => .raise .invalidSchemaState

/-- `_apply_version_1`. -/
def applyVersion1 : SchemaProgram Unit := transaction .sqlite applyVersion1Statements

/-- `_migrate_v1_to_v2`. -/
def migrateV1ToV2 : SchemaProgram Unit := transaction .sqlite migrationV1ToV2Statements

/-- `_migrate_v2_to_v3`. -/
def migrateV2ToV3 : SchemaProgram Unit := transaction .sqlite migrationV2ToV3Statements

/-- `_migrate_v3_to_v4`. -/
def migrateV3ToV4 : SchemaProgram Unit := transaction .sqlite migrationV3ToV4Statements

/-- `_migrate_v4_to_v5`. -/
def migrateV4ToV5 : SchemaProgram Unit := transaction .sqlite migrationV4ToV5Statements

/-- `_migrate_v5_to_v6`: the pragma is switched off around the transaction. -/
def migrateV5ToV6 : SchemaProgram Unit :=
  (perform .sqlite (.setForeignKeys false)).bind fun _ =>
    (transaction .sqlite migrationV5ToV6Statements).finally_
      (perform .sqlite (.setForeignKeys true))

/-- `if version == from: migrate; version = from + 1`. -/
def migrateFrom (origin : ℤ) (migrate : SchemaProgram Unit) (version : ℤ) : SchemaProgram ℤ :=
  if version = origin then migrate.bind fun _ => .done (origin + 1) else .done version

/-- `initialize_schema`. -/
def initializeSchema : SchemaProgram ℤ := do
  let recorded ← readSchemaVersion
  let version ←
    match recorded with
    | none => applyVersion1.bind fun _ => .done 1
    | some version => .done version
  let version ← migrateFrom 1 migrateV1ToV2 version
  let version ← migrateFrom 2 migrateV2ToV3 version
  let version ← migrateFrom 3 migrateV3ToV4 version
  let version ← migrateFrom 4 migrateV4ToV5 version
  let version ← migrateFrom 5 migrateV5ToV6 version
  if version = 6 then .done version
  else if version > 6 then .raise (.unsupportedSchemaVersion version)
  else .raise .invalidSchemaState

end WeaponDetection.Agent.Persistence
