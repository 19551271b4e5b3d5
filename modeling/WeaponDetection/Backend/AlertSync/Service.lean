import WeaponDetection.Backend.AlertSync.Records
import WeaponDetection.Foundations.TransitionSystem

/-!
# Sync batches as interleaved transactions

Models `SyncEventsAsync` of `AlertSyncService.cs` and what it calls, statement by statement: one
transaction a batch, one savepoint an event, under read committed.  A session reads the committed
rows and its own writes; an inserting or updating statement waits while another session has an
uncommitted write on the same row or unique key; a rollback to the savepoint undoes the writes since
and lets go of what they locked.  A plain read never waits here: waiting for a writer is reading
later.
-/

namespace WeaponDetection.Backend.AlertSync

open WeaponDetection.Foundations

/-! ## Options, outcomes, batches -/

/-- `AlertQuotaOptions`, as `AlertQuotaOptionsValidator` lets them through at startup. -/
structure AlertQuotaOptions where
  enabled : Bool
  maximumPerBranchPerDay : ℕ
  valid : 1 ≤ maximumPerBranchPerDay ∧ maximumPerBranchPerDay ≤ 10000

/-- `SyncEventErrorCodes`, of a rejected event. -/
inductive SyncEventErrorCode where
  | invalidConfidence
  | invalidBoundingBox
  | unknownCamera
  | eventDataConflict
  deriving DecidableEq

/-- `SyncEventOutcome`. -/
inductive SyncEventOutcome where
  | accepted (eventId alertId : Guid)
  | duplicate (eventId alertId : Guid)
  | rejected (eventId : Guid) (errorCode : SyncEventErrorCode)
  /-- With the error code `BRANCH_DAILY_ALERT_QUOTA_REACHED`. -/
  | quotaExceeded (eventId : Guid) (maximum : ℕ) (localDate : String)
  deriving DecidableEq

/-- The event an outcome says was suppressed. -/
def SyncEventOutcome.suppressedEvent : SyncEventOutcome → Option Guid
  | .quotaExceeded eventId _ _ => some eventId
  | _ => none

/-- The arguments of one `SyncEventsAsync`, and the timezone it resolves for the Branch. -/
structure SyncBatch where
  deviceId : Guid
  branchId : Guid
  timeZone : TimeZone
  events : List DetectionEventDto

/-- What a statement takes from its surroundings: the clock, `Guid.NewGuid()` and the answer of
`ResolveCameraIdAsync`, whose table other operations change at will. -/
structure Surroundings where
  nowUtc : DateTime
  newGuid : Guid
  resolvedCameraId : Option Guid
  deriving DecidableEq

/-! ## Sessions -/

/-- The event a session works on, and the ones after it. -/
structure Current where
  evt : DetectionEventDto
  resolvedCameraId : Guid
  rest : List DetectionEventDto
  deriving DecidableEq

/-- The statement of an event that comes next. -/
inductive Point where
  | lookupAlert
  | lookupSuppressed
  | lookupQuotaRow
  | insertQuotaRow
  | consumeQuota
  /-- `charge`: the quota row that was consumed for it, none when the quota is disabled. -/
  | insertAlert (charge : Option Slot)
  | resolveDuplicate
  | insertSuppressed
  | countSuppression
  deriving DecidableEq

/-- Why a batch was rolled back. -/
inductive Failure where
  | argument (e : ArgumentException)
  /-- `InvalidOperationException` of `ResolveDuplicateOrConflictAsync`. -/
  | conflictingAlertGone
  /-- Any other database error. -/
  | database
  /-- A cancelled request, a deadlock victim, a lost connection, a crash. -/
  | interrupted
  deriving DecidableEq

/-- How far a batch has come. -/
inductive Stage where
  /-- At the head of the loop, with these events to go. -/
  | next (rest : List DetectionEventDto)
  | event (current : Current) (point : Point)
  | committed
  | aborted (failure : Failure)
  deriving DecidableEq

/-- A batch in its transaction.  `savepoint` is what had been written when the savepoint of the
current event was created. -/
structure Session where
  batch : SyncBatch
  stage : Stage
  savepoint : List Write
  pending : List Write
  results : List SyncEventOutcome

/-- A batch that has just opened its transaction. -/
def SyncBatch.session (batch : SyncBatch) : Session := ⟨batch, .next batch.events, [], [], []⟩

/-- The unique key of the current event. -/
def SyncBatch.key (batch : SyncBatch) (evt : DetectionEventDto) : EventKey := ⟨batch.deviceId, evt.eventId⟩

/-- The quota row of the current event. -/
def SyncBatch.slot (batch : SyncBatch) (evt : DetectionEventDto) : Slot :=
  ⟨batch.branchId, resolveLocalDate evt.detectedAtUtc batch.timeZone⟩

/-! ## Statements -/

/-- What a statement does to the uncommitted writes of its session. -/
inductive Effect where
  | keep
  /-- `CreateSavepointAsync`. -/
  | createSavepoint
  | write (w : Write)
  /-- `RollbackAndReestablishSavepointAsync`. -/
  | rollback
  deriving DecidableEq

/-- What a session does next. -/
inductive Move where
  /-- Go on to a stage, perhaps with a result for the event. -/
  | goOn (effect : Effect) (result : Option SyncEventOutcome) (stage : Stage)
  | commit
  | fail (failure : Failure)
  deriving DecidableEq

/-- `1e-9` as a double. -/
def epsilon : Double := .finite (4835703278458517 / 4835703278458516698824704)

/-- `Math.Abs(a - b) < epsilon`. -/
def withinEpsilon (a b : Double) : Bool := (a.add b.neg).abs.lt epsilon

/-- `ImmutableFieldsMatch`. -/
def immutableFieldsMatch (existing : Alert) (evt : DetectionEventDto) (resolvedCameraId : Guid) : Bool :=
  existing.cameraId == resolvedCameraId &&
    existing.detectedAtUtc.ticks == evt.detectedAtUtc.ticks &&
    existing.classId == evt.classId &&
    existing.className == DotNet.trim evt.className &&
    withinEpsilon existing.confidence evt.confidence &&
    existing.frameNumber == evt.frameNumber &&
    existing.frameWidth == evt.frameWidth &&
    existing.frameHeight == evt.frameHeight &&
    withinEpsilon existing.bboxLeft evt.boundingBox.left &&
    withinEpsilon existing.bboxTop evt.boundingBox.top &&
    withinEpsilon existing.bboxWidth evt.boundingBox.width &&
    withinEpsilon existing.bboxHeight evt.boundingBox.height

/-- The outcome of an event whose Alert exists. -/
def duplicateOrConflict (existing : Alert) (c : Current) : SyncEventOutcome :=
  if immutableFieldsMatch existing c.evt c.resolvedCameraId then
    .duplicate c.evt.eventId existing.alertId
  else .rejected c.evt.eventId .eventDataConflict

/-- The Alert under a unique key. -/
def AlertDb.findAlert (db : AlertDb) (key : EventKey) : Option StoredAlert :=
  db.alerts.find? (·.alert.key = key)

/-- A suppressed detection is recorded under a unique key. -/
def AlertDb.isSuppressed (db : AlertDb) (key : EventKey) : Bool := db.suppressed.any (·.key = key)

/-- The class-specific counters an event counts for. -/
def isClass (name : String) (evt : DetectionEventDto) : Bool :=
  DotNet.toLowerInvariant (DotNet.trim evt.className) == name

/-- The loop head of `SyncEventsAsync`: the checks that need no savepoint. -/
def loopHead (env : Surroundings) : List DetectionEventDto → Move
  | [] => .commit
  | evt :: rest =>
    if !isConfidenceValid evt.confidence then
      .goOn .keep (some (.rejected evt.eventId .invalidConfidence)) (.next rest)
    else if !isFrameAndBoundingBoxValid evt then
      .goOn .keep (some (.rejected evt.eventId .invalidBoundingBox)) (.next rest)
    else
      match env.resolvedCameraId with
      | none => .goOn .keep (some (.rejected evt.eventId .unknownCamera)) (.next rest)
      | some resolvedCameraId =>
        .goOn .createSavepoint none (.event ⟨evt, resolvedCameraId, rest⟩ .lookupAlert)

/-- One statement of an event, on the tables as the session sees them. -/
def eventStatement (options : AlertQuotaOptions) (env : Surroundings) (batch : SyncBatch)
    (view : AlertDb) (c : Current) : Point → Move
  | .lookupAlert =>
    match view.findAlert (batch.key c.evt) with
    | some row => .goOn .keep (some (duplicateOrConflict row.alert c)) (.next c.rest)
    | none =>
      if !options.enabled then .goOn .keep none (.event c (.insertAlert none))
      else .goOn .keep none (.event c .lookupSuppressed)
  | .lookupSuppressed =>
    if view.isSuppressed (batch.key c.evt) then .goOn .keep (some (quotaExceeded c)) (.next c.rest)
    else .goOn .keep none (.event c .lookupQuotaRow)
  -- `EnsureQuotaRowExistsAsync`
  | .lookupQuotaRow =>
    if (view.quotas (batch.slot c.evt)).isSome then .goOn .keep none (.event c .consumeQuota)
    else .goOn .keep none (.event c .insertQuotaRow)
  | .insertQuotaRow =>
    match BranchDailyAlertQuota.check (batch.slot c.evt) with
    | .error e => .fail (.argument e)
    | .ok () =>
      if (view.quotas (batch.slot c.evt)).isSome then .goOn .rollback none (.event c .consumeQuota)
      else .goOn (.write (.insertQuota (batch.slot c.evt))) none (.event c .consumeQuota)
  -- The conditional increment, and whether it changed a row.
  | .consumeQuota =>
    match view.quotas (batch.slot c.evt) with
    | none => .goOn .keep none (.event c .insertSuppressed)
    | some q =>
      if q.acceptedAlertCount < options.maximumPerBranchPerDay then
        .goOn (.write (.consumeQuota (batch.slot c.evt))) none
          (.event c (.insertAlert (some (batch.slot c.evt))))
      else .goOn .keep none (.event c .insertSuppressed)
  | .insertAlert charge =>
    match buildAlert env.newGuid batch.deviceId c.resolvedCameraId env.nowUtc c.evt with
    | .error e => .fail (.argument e)
    | .ok alert =>
      if view.alerts.any (·.alert.alertId = alert.alertId) then .fail .database
      else if (view.findAlert alert.key).isSome then .goOn .rollback none (.event c .resolveDuplicate)
      else
        .goOn (.write (.insertAlert ⟨alert, charge⟩)) (some (.accepted c.evt.eventId alert.alertId))
          (.next c.rest)
  -- `ResolveDuplicateOrConflictAsync`
  | .resolveDuplicate =>
    match view.findAlert (batch.key c.evt) with
    | none => .fail .conflictingAlertGone
    | some row => .goOn .keep (some (duplicateOrConflict row.alert c)) (.next c.rest)
  | .insertSuppressed =>
    match SuppressedDetectionEvent.create batch.deviceId c.evt.eventId (batch.slot c.evt)
        c.evt.className c.evt.detectedAtUtc branchDailyAlertQuotaReachedReason env.nowUtc with
    | .error e => .fail (.argument e)
    | .ok row =>
      if view.isSuppressed row.key then .goOn .rollback (some (quotaExceeded c)) (.next c.rest)
      else .goOn (.write (.insertSuppressed row)) none (.event c .countSuppression)
  -- `IncrementSuppressionCountersAsync`
  | .countSuppression =>
    match view.quotas (batch.slot c.evt) with
    | none => .goOn .keep (some (quotaExceeded c)) (.next c.rest)
    | some q =>
      if (q.countSuppression (isClass "gun" c.evt) (isClass "knife" c.evt) env.nowUtc).fits then
        .goOn (.write (.countSuppression (batch.slot c.evt) (isClass "gun" c.evt)
          (isClass "knife" c.evt) env.nowUtc)) (some (quotaExceeded c)) (.next c.rest)
      else .fail .database
where
  quotaExceeded (c : Current) : SyncEventOutcome :=
    .quotaExceeded c.evt.eventId options.maximumPerBranchPerDay (batch.slot c.evt).localDate

/-- The next statement of a session, none once its transaction has ended. -/
def Session.statement (options : AlertQuotaOptions) (env : Surroundings) (db : AlertDb)
    (session : Session) : Option Move :=
  match session.stage with
  | .next rest => some (loopHead env rest)
  | .event c point =>
    some (eventStatement options env session.batch (db.view session.pending) c point)
  | .committed | .aborted _ => none

/-- The row or unique key a statement has to have for itself. -/
def Session.waitsFor (session : Session) : Option Resource :=
  match session.stage with
  | .event c point =>
    match point with
    | .insertQuotaRow | .consumeQuota | .countSuppression =>
      some (.quota (session.batch.slot c.evt))
    | .insertAlert _ => some (.alert (session.batch.key c.evt))
    | .insertSuppressed => some (.suppressed (session.batch.key c.evt))
    | _ => none
  | _ => none

/-! ## Sessions at work -/

/-- What a statement leaves of the savepoint and of the uncommitted writes. -/
def Session.perform (session : Session) (effect : Effect) (result : Option SyncEventOutcome)
    (stage : Stage) : Session :=
  { session with
    stage
    results := session.results ++ result.toList
    savepoint := match effect with
      | .createSavepoint => session.pending
      | _ => session.savepoint
    pending := match effect with
      | .keep | .createSavepoint => session.pending
      | .write w => session.pending ++ [w]
      | .rollback => session.savepoint }

/-- The transaction has ended, one way or the other. -/
def Session.ended (session : Session) (stage : Stage) : Session :=
  { session with stage, savepoint := [], pending := [] }

/-- A session after its move. -/
def Session.after (session : Session) : Move → Session
  | .goOn effect result stage => session.perform effect result stage
  | .commit => session.ended .committed
  | .fail failure => session.ended (.aborted failure)

/-- The committed tables and the batches begun so far. -/
structure SyncState where
  db : AlertDb
  sessions : List Session

/-- The uncommitted writes of a session. -/
def SyncState.pending (s : SyncState) (i : ℕ) : List Write :=
  match s.sessions[i]? with
  | none => []
  | some session => session.pending

/-- No other session has an uncommitted write on what a statement waits for. -/
def SyncState.Granted (s : SyncState) (i : ℕ) (session : Session) : Prop :=
  ∀ r ∈ session.waitsFor, ∀ j, j < s.sessions.length → j ≠ i → ¬ alertStore.Touches (s.pending j) r

instance (ws : List Write) (r : Resource) : Decidable (alertStore.Touches ws r) :=
  inferInstanceAs (Decidable (∃ w ∈ ws, w.resource = r))

instance (s : SyncState) (i : ℕ) (session : Session) : Decidable (s.Granted i session) :=
  inferInstanceAs (Decidable (∀ r ∈ session.waitsFor, ∀ j, j < s.sessions.length → j ≠ i →
    ¬ alertStore.Touches (s.pending j) r))

/-- A session makes its move: only a commit reaches the tables. -/
def SyncState.perform (s : SyncState) (i : ℕ) (session : Session) (move : Move) : SyncState where
  db := match move with
    | .commit => s.db.view session.pending
    | _ => s.db
  sessions := s.sessions.set i (session.after move)

/-- What can happen next. -/
inductive SyncAction where
  | begin (batch : SyncBatch)
  | advance (i : ℕ) (env : Surroundings)
  | interrupt (i : ℕ)

/-- One step of one session. -/
def syncStep (options : AlertQuotaOptions) (s : SyncState) : SyncAction → Option SyncState
  | .begin batch => some { s with sessions := s.sessions ++ [batch.session] }
  | .advance i env =>
    s.sessions[i]?.bind fun session =>
      if s.Granted i session then
        (session.statement options env s.db).map (s.perform i session)
      else none
  | .interrupt i =>
    s.sessions[i]?.bind fun session =>
      match session.stage with
      | .committed | .aborted _ => none
      | _ => some (s.perform i session (.fail .interrupted))

/-- What the migration that adds the quota finds: Alerts, none of them charged to a quota row. -/
structure AlertDb.Initial (db : AlertDb) : Prop where
  keys_nodup : (db.alerts.map (·.alert.key)).Nodup
  uncharged : ∀ row ∈ db.alerts, row.chargedTo = none
  suppressed : db.suppressed = []
  quotas : ∀ slot, db.quotas slot = none

/-- The batches against one database as a transition system. -/
def syncSystem (options : AlertQuotaOptions) : TransitionSystem SyncState SyncAction where
  init s := s.db.Initial ∧ s.sessions = []
  step := syncStep options

/-! ## Two batches of one Branch -/

/-- A detection of 2024-02-29. -/
def sampleEvent (eventId : Guid) : DetectionEventDto where
  eventId := eventId
  cameraId := "cam-1"
  detectedAtUtc := ⟨638448462000000000, .utc⟩
  createdAtUtc := ⟨638448462000000000, .utc⟩
  classId := ⟨0, by decide⟩
  className := "gun"
  confidence := .finite (9 / 10)
  sourceId := ⟨0, by decide⟩
  frameNumber := ⟨1, by decide⟩
  frameWidth := ⟨1920, by decide⟩
  frameHeight := ⟨1080, by decide⟩
  boundingBox := ⟨.finite 10, .finite 10, .finite 100, .finite 100⟩

/-- A batch of one event, of a Device in UTC. -/
def sampleBatch (eventId : Guid) : SyncBatch := ⟨1, 2, ⟨fun _ => 0⟩, [sampleEvent eventId]⟩

/-- The quota row of the sample batches. -/
def sampleSlot : Slot := (sampleBatch 0).slot (sampleEvent 0)

/-- One Alert a day. -/
def onePerDay : AlertQuotaOptions := ⟨true, 1, by decide⟩

/-- Empty tables. -/
def emptyTables : AlertDb := ⟨[], [], fun _ => none⟩

theorem emptyTables_initial : emptyTables.Initial where
  keys_nodup := List.nodup_nil
  uncharged _ hrow := absurd hrow List.not_mem_nil
  suppressed := rfl
  quotas _ := rfl

/-- Two batches of one event each: both have looked everything up before the first goes on to its
commit, and then the second goes on to its own. -/
def lateSchedule (first second : Guid) : List SyncAction :=
  let advance (i : ℕ) : SyncAction := .advance i ⟨⟨638448462100000000, .utc⟩, 100 + i, some 7⟩
  [.begin (sampleBatch first), .begin (sampleBatch second)] ++ List.replicate 4 (advance 0) ++
    List.replicate 4 (advance 1) ++ List.replicate 4 (advance 0) ++ List.replicate 5 (advance 1)

end WeaponDetection.Backend.AlertSync
