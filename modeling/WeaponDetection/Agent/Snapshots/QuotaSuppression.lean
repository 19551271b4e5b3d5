import WeaponDetection.Agent.Snapshots.Spool
import WeaponDetection.Agent.Sync.Worker
import WeaponDetection.Foundations.TransitionSystem

/-!
# Quota suppression against a capture in progress

The capture of one snapshot (`_process_snapshot`) and the sync iteration that receives
`quota_exceeded` (`_mark_suppressed_by_quota`) interleaved step by step.  A capture writes the file
and then inserts the row; the sink reads the row, cancels it and then removes the file.

The cancel is a one-shot on the row it finds.  A row inserted later stays pending, and nothing on the
capture's side looks at the event again: suppression wins only where the sink reads the row after the
capture has inserted it, or the capture writes nothing (`quota_suppression_wins`).
-/

namespace WeaponDetection.Agent.Snapshots

open WeaponDetection.Foundations (KeyedTable OrderedDict TransitionSystem)
open WeaponDetection.Foundations.Python (Uuid)
open WeaponDetection.Agent.Detection (Instant)
open WeaponDetection.Agent.Persistence

/-! ## State -/

/-- Where `_process_snapshot` stands. -/
inductive CapturePoint where
  | checks
  /-- Before `write_snapshot_atomic`. -/
  | write (eventId : Uuid) (data : Bytes)
  /-- Before `create_captured`. -/
  | insert (file : CapturedFile)
  | done
  deriving DecidableEq

/-- Where the sync iteration stands, with the events whose snapshots are still to be cancelled. -/
inductive SyncPoint where
  /-- Before `mark_suppressed_by_quota_many`. -/
  | mark (toMark : List Uuid)
  /-- Before the next call of the sink. -/
  | sink (todo : List Uuid)
  /-- In the sink, before `cancel_for_quota`, with what `get` returned. -/
  | cancel (eventId : Uuid) (record : Option SnapshotOutboxRecord) (todo : List Uuid)
  /-- In the sink, before the file is removed. -/
  | unlink (eventId : Uuid) (localPath : String) (todo : List Uuid)
  deriving DecidableEq

/-- The events the sink has not read yet. -/
def SyncPoint.toRead : SyncPoint → List Uuid
  | .mark toMark => toMark
  | .sink todo => todo
  | .cancel _ _ todo => todo
  | .unlink _ _ todo => todo

/-- The database, the spool and the two activities. -/
structure SuppressionState where
  db : Database
  spool : Spool
  capture : CapturePoint
  sync : SyncPoint

/-! ## Steps -/

/-- The next step of either activity; `fails` for one that raises. -/
inductive SuppressionAction where
  | check
  | write (fails : Bool)
  | insert (capturedAt : Instant) (fails : Bool)
  | mark (finalizedAt : Instant) (fails : Bool)
  | read (fails : Bool)
  | cancel (fails : Bool)
  | unlink (fails : Bool)

/-- The answer of `cancel_for_quota`: whether it finds a pending row. -/
def cancelUpdates (snapshots : SnapshotOutboxTable) (eventId : Uuid) : Bool :=
  (snapshots.find? eventId).any fun row => row.uploadStatus = .pending

/-- One step of `_process_snapshot`. -/
def captureStep (cfg : CaptureConfig) (item : SnapshotQueueItem) (s : SuppressionState) :
    SuppressionAction → Option SuppressionState
  | .check =>
    match s.capture with
    | .checks =>
      match admits cfg s.spool item with
      | none => some { s with capture := .done }
      | some eventId => some { s with capture := .write eventId item.data }
    | _ => none
  | .write fails =>
    match s.capture with
    | .write eventId data =>
      if fails then some { s with capture := .done }
      else some { s with
        spool := s.spool.set (snapshotName eventId) data
        capture := .insert (capturedFile cfg eventId data) }
    | _ => none
  | .insert capturedAt fails =>
    match s.capture with
    | .insert file =>
      if fails then some { s with capture := .done }
      -- An existing row, or an unknown event, leaves the database as it is.
      else some { s with db := (createCaptured s.db file capturedAt).getD s.db, capture := .done }
    | _ => none
  | _ => none

/-- One step of `_mark_suppressed_by_quota`, with the sink of `default_sync_components_factory`. -/
def syncStep (cfg : CaptureConfig) (s : SuppressionState) :
    SuppressionAction → Option SuppressionState
  | .mark finalizedAt fails =>
    match s.sync with
    | .mark toMark =>
      if fails then some { s with sync := .sink [] }
      else some { s with
        db := { s.db with
          detectionEvents := markSuppressedByQuotaMany s.db.detectionEvents toMark finalizedAt }
        sync := .sink (if cfg.snapshotCaptureEnabled then toMark else []) }
    | _ => none
  | .read fails =>
    match s.sync with
    | .sink (eventId :: todo) =>
      if fails then some { s with sync := .sink todo }
      else some { s with sync := .cancel eventId (s.db.snapshots.find? eventId) todo }
    | _ => none
  | .cancel fails =>
    match s.sync with
    | .cancel eventId record todo =>
      if fails then some { s with sync := .sink todo }
      else
        let s' := { s with
          db := { s.db with snapshots := cancelForQuota s.db.snapshots eventId } }
        match cancelUpdates s.db.snapshots eventId, record with
        | true, some record => some { s' with sync := .unlink eventId record.localPath todo }
        | _, _ => some { s' with sync := .sink todo }
    | _ => none
  | .unlink fails =>
    match s.sync with
    | .unlink _ localPath todo =>
      if fails then some { s with sync := .sink todo }
      else some { s with spool := s.spool.unlink cfg.spoolPath localPath, sync := .sink todo }
    | _ => none
  | _ => none

/-- One step of either. -/
def suppressionStep (cfg : CaptureConfig) (item : SnapshotQueueItem) (s : SuppressionState)
    (a : SuppressionAction) : Option SuppressionState :=
  (captureStep cfg item s a).or (syncStep cfg s a)

/-- A capture and a sync iteration over any database and spool. -/
def suppressionSystem (cfg : CaptureConfig) (item : SnapshotQueueItem) (toMark : List Uuid) :
    TransitionSystem SuppressionState SuppressionAction where
  init := fun s => s.capture = .checks ∧ s.sync = .mark toMark
  step := suppressionStep cfg item

/-! ## The event's row and file -/

/-- The event's JPEG is in the spool. -/
def SuppressionState.HasFile (cfg : CaptureConfig) (eventId : Uuid) (s : SuppressionState) : Prop :=
  s.spool.isFile cfg.spoolPath (snapshotPath cfg.spoolPath eventId) = true

/-- The capture of the event is before its file. -/
def CapturePoint.Writing (eventId : Uuid) : CapturePoint → Prop
  | .write id _ => id = eventId
  | _ => False

/-- The capture of the event is between its file and its row. -/
def CapturePoint.Inserting (eventId : Uuid) : CapturePoint → Prop
  | .insert file => file.eventId = eventId
  | _ => False

/-- The row, if any, is suppressed, and the file is gone. -/
def SuppressionState.Suppressed (cfg : CaptureConfig) (eventId : Uuid) (s : SuppressionState) :
    Prop :=
  (∀ row, s.db.snapshots.find? eventId = some row → row.uploadStatus = .suppressedByQuota) ∧
    ¬ s.HasFile cfg eventId

/-- What the sink can put right.  Without a row there is no file and no row about to come; with one,
the upload is not done, and a file is that of a pending row. -/
def SuppressionState.Readable (cfg : CaptureConfig) (eventId : Uuid) (s : SuppressionState) : Prop :=
  match s.db.snapshots.find? eventId with
  | none => ¬ s.HasFile cfg eventId ∧ ¬ s.capture.Inserting eventId
  | some row => row.uploadStatus ≠ .uploaded ∧
      (s.HasFile cfg eventId → row.uploadStatus = .pending ∧
        row.localPath = snapshotPath cfg.spoolPath eventId)

/-- The sink is going to remove the event's file. -/
def SyncPoint.WillUnlink (cfg : CaptureConfig) (eventId : Uuid) : SyncPoint → Prop
  | .cancel id (some record) _ => id = eventId ∧ record.uploadStatus = .pending ∧
      record.localPath = snapshotPath cfg.spoolPath eventId
  | .unlink id localPath _ => id = eventId ∧ localPath = snapshotPath cfg.spoolPath eventId
  | _ => False

/-- The sink reads the event's row when it can put things right, no file is written after it has
looked, and it does not fail. -/
def ReadsInTime (cfg : CaptureConfig) (eventId : Uuid) (s : SuppressionState) :
    SuppressionAction → Prop
  | .write fails => fails = true ∨ ¬ s.capture.Writing eventId ∨ eventId ∈ s.sync.toRead ∨
      s.sync.WillUnlink cfg eventId
  | .read fails => fails = false ∧
      (s.sync.toRead.head? = some eventId → s.Readable cfg eventId)
  | .mark _ fails => fails = false
  | .cancel fails => fails = false
  | .unlink fails => fails = false
  | _ => True

section Decidability

variable (cfg : CaptureConfig) (eventId : Uuid)

instance (s : SuppressionState) : Decidable (s.HasFile cfg eventId) :=
  inferInstanceAs (Decidable (_ = true))

instance (capture : CapturePoint) : Decidable (capture.Writing eventId) := by
  unfold CapturePoint.Writing
  split <;> infer_instance

instance (capture : CapturePoint) : Decidable (capture.Inserting eventId) := by
  unfold CapturePoint.Inserting
  split <;> infer_instance

instance (s : SuppressionState) : Decidable (s.Readable cfg eventId) := by
  unfold SuppressionState.Readable
  split <;> infer_instance

instance (sync : SyncPoint) : Decidable (sync.WillUnlink cfg eventId) := by
  unfold SyncPoint.WillUnlink
  split <;> infer_instance

instance (s : SuppressionState) (a : SuppressionAction) : Decidable (ReadsInTime cfg eventId s a) := by
  unfold ReadsInTime
  split <;> infer_instance

end Decidability

/-! ## What the steps do to the event's row -/

/-- Cancelling suppresses a pending row and leaves every other one. -/
theorem find?_cancelForQuota (snapshots : SnapshotOutboxTable) (id eventId : Uuid) :
    (cancelForQuota snapshots id).find? eventId = (snapshots.find? eventId).map fun row =>
      if row.eventId = id ∧ row.uploadStatus = .pending then
        { row with uploadStatus := .suppressedByQuota }
      else row :=
  KeyedTable.find?_update _ _ _ _

theorem find?_cancelForQuota_of_ne (snapshots : SnapshotOutboxTable) {id eventId : Uuid}
    (hne : id ≠ eventId) : (cancelForQuota snapshots id).find? eventId = snapshots.find? eventId := by
  rw [find?_cancelForQuota]
  cases hrow : snapshots.find? eventId with
  | none => rfl
  | some row =>
    have hid : row.eventId = eventId := (KeyedTable.find?_eq_some_iff.mp hrow).2
    have hother : ¬ (row.eventId = id ∧ row.uploadStatus = .pending) := fun h =>
      hne (h.1.symm.trans hid)
    rw [Option.map_some, if_neg hother]

/-- A row that is there keeps `create_captured` out, and one of another event does not matter. -/
theorem find?_createCaptured (db : Database) (file : CapturedFile) (capturedAt : Instant)
    {eventId : Uuid}
    (h : file.eventId = eventId → (db.snapshots.find? eventId).isSome = true) :
    ((createCaptured db file capturedAt).getD db).snapshots.find? eventId =
      db.snapshots.find? eventId := by
  unfold createCaptured
  cases db.detectionEvents.find? file.eventId with
  | none => rfl
  | some event =>
    cases hinsert : db.snapshots.insert (file.row capturedAt) with
    | none => rfl
    | some snapshots =>
      have hfind := KeyedTable.find?_of_insert hinsert eventId
      simp only [Option.map_some, Option.getD_some, hfind]
      refine if_neg fun hid : file.eventId = eventId => ?_
      obtain ⟨row, hrow⟩ := Option.isSome_iff_exists.mp (h hid)
      obtain ⟨hmem, hkey⟩ := KeyedTable.find?_eq_some_iff.mp hrow
      exact (KeyedTable.insert_eq_some_iff.mp hinsert).1 row hmem (hkey.trans hid.symm)

/-! ## The invariant -/

/-- The event is dealt with, and no capture brings its row back. -/
def SuppressionState.Settled (cfg : CaptureConfig) (eventId : Uuid) (s : SuppressionState) : Prop :=
  s.Suppressed cfg eventId ∧
    (s.capture.Inserting eventId → (s.db.snapshots.find? eventId).isSome = true)

/-- What holds once the sink has read the event: while it is in the sink, what was read is what is
there; after it the event is dealt with. -/
def SuppressionState.AfterRead (cfg : CaptureConfig) (eventId : Uuid) (s : SuppressionState) :
    SyncPoint → Prop
  | .cancel id record _ =>
    (id = eventId → record = s.db.snapshots.find? eventId ∧ s.Readable cfg eventId) ∧
      (id ≠ eventId → s.Settled cfg eventId)
  | .unlink id localPath _ =>
    (id = eventId → (∃ row, s.db.snapshots.find? eventId = some row ∧
        row.uploadStatus = .suppressedByQuota) ∧
      (s.HasFile cfg eventId → localPath = snapshotPath cfg.spoolPath eventId)) ∧
      (id ≠ eventId → s.Settled cfg eventId)
  | _ => s.Settled cfg eventId

/-- Before the sink reads the event, nothing is known. -/
def SuppressionInv (cfg : CaptureConfig) (eventId : Uuid) (s : SuppressionState) : Prop :=
  eventId ∈ s.sync.toRead ∨ s.AfterRead cfg eventId s.sync

section Steps

variable {cfg : CaptureConfig} {eventId : Uuid} {s s' : SuppressionState}

/-- A step that leaves the event's row alone and brings neither its file nor a pending insert. -/
structure Quiet (cfg : CaptureConfig) (eventId : Uuid) (s s' : SuppressionState) : Prop where
  row : s'.db.snapshots.find? eventId = s.db.snapshots.find? eventId
  file : s'.HasFile cfg eventId → s.HasFile cfg eventId
  inserting : s'.capture.Inserting eventId → s.capture.Inserting eventId

theorem SuppressionState.Settled.isSome (h : s.Settled cfg eventId)
    (hinserting : s.capture.Inserting eventId) :
    (s.db.snapshots.find? eventId).isSome = true := h.2 hinserting

theorem SuppressionState.Settled.quiet (h : s.Settled cfg eventId) (hq : Quiet cfg eventId s s') :
    s'.Settled cfg eventId := by
  obtain ⟨⟨hrow, hfile⟩, hinserting⟩ := h
  refine ⟨⟨fun row hr => hrow row (hq.row ▸ hr), fun hf => hfile (hq.file hf)⟩, fun hi => ?_⟩
  rw [hq.row]
  exact hinserting (hq.inserting hi)

theorem SuppressionState.Readable.quiet (h : s.Readable cfg eventId) (hq : Quiet cfg eventId s s') :
    s'.Readable cfg eventId := by
  unfold SuppressionState.Readable at h ⊢
  rw [hq.row]
  cases hrow : s.db.snapshots.find? eventId with
  | none =>
    rw [hrow] at h
    exact ⟨fun hf => h.1 (hq.file hf), fun hi => h.2 (hq.inserting hi)⟩
  | some row =>
    rw [hrow] at h
    exact ⟨h.1, fun hf => h.2 (hq.file hf)⟩

theorem SuppressionState.AfterRead.quiet {sync : SyncPoint} (h : s.AfterRead cfg eventId sync)
    (hq : Quiet cfg eventId s s') : s'.AfterRead cfg eventId sync := by
  cases sync with
  | mark toMark => exact SuppressionState.Settled.quiet h hq
  | sink todo => exact SuppressionState.Settled.quiet h hq
  | cancel id record todo =>
    refine ⟨fun hid => ?_, fun hid => (h.2 hid).quiet hq⟩
    rw [hq.row]
    exact ⟨(h.1 hid).1, (h.1 hid).2.quiet hq⟩
  | unlink id localPath todo =>
    refine ⟨fun hid => ?_, fun hid => (h.2 hid).quiet hq⟩
    rw [hq.row]
    exact ⟨(h.1 hid).1, fun hf => (h.1 hid).2 (hq.file hf)⟩

/-- Steps of the capture that are quiet about the event. -/
theorem SuppressionInv.quiet (h : SuppressionInv cfg eventId s) (hq : Quiet cfg eventId s s')
    (hsync : s'.sync = s.sync) : SuppressionInv cfg eventId s' := by
  rw [SuppressionInv, hsync]
  exact h.imp_right fun hafter => hafter.quiet hq

/-- Once the sink has read the event, a capture about to insert its row finds one there. -/
theorem SuppressionState.AfterRead.isSome_of_inserting {sync : SyncPoint}
    (h : s.AfterRead cfg eventId sync) (hinserting : s.capture.Inserting eventId) :
    (s.db.snapshots.find? eventId).isSome = true := by
  cases sync with
  | mark toMark => exact SuppressionState.Settled.isSome h hinserting
  | sink todo => exact SuppressionState.Settled.isSome h hinserting
  | cancel id record todo =>
    by_cases hid : id = eventId
    · have hreadable := (h.1 hid).2
      unfold SuppressionState.Readable at hreadable
      cases hrow : s.db.snapshots.find? eventId with
      | none =>
        rw [hrow] at hreadable
        exact absurd hinserting hreadable.2
      | some row => rfl
    · exact (h.2 hid).isSome hinserting
  | unlink id localPath todo =>
    by_cases hid : id = eventId
    · obtain ⟨⟨row, hrow, -⟩, -⟩ := h.1 hid
      rw [hrow]
      rfl
    · exact (h.2 hid).isSome hinserting

/-- A file written while the sink is going to remove it. -/
theorem SuppressionState.AfterRead.write {sync : SyncPoint} (h : s.AfterRead cfg eventId sync)
    (hunlink : sync.WillUnlink cfg eventId) (spool : Spool) (capture : CapturePoint) :
    SuppressionState.AfterRead cfg eventId { s with spool, capture } sync := by
  cases sync with
  | mark toMark => cases hunlink
  | sink todo => cases hunlink
  | cancel id record todo =>
    cases record with
    | none => cases hunlink
    | some record =>
      obtain ⟨hid, hpending, hpath⟩ := hunlink
      obtain ⟨hrecord, -⟩ := h.1 hid
      refine ⟨fun _ => ⟨hrecord, ?_⟩, fun hne => absurd hid hne⟩
      unfold SuppressionState.Readable
      simp only [← hrecord]
      exact ⟨by simp [hpending], fun _ => ⟨hpending, hpath⟩⟩
  | unlink id localPath todo =>
    obtain ⟨hid, hpath⟩ := hunlink
    exact ⟨fun _ => ⟨(h.1 hid).1, fun _ => hpath⟩, fun hne => absurd hid hne⟩

/-- The step lemma of the capture. -/
theorem SuppressionInv.captureStep {item : SnapshotQueueItem} {a : SuppressionAction}
    (h : SuppressionInv cfg eventId s) (hguard : ReadsInTime cfg eventId s a)
    (hs : captureStep cfg item s a = some s') : SuppressionInv cfg eventId s' := by
  cases a with
  | check =>
    simp only [Snapshots.captureStep] at hs
    split at hs
    · split at hs <;> cases hs
      · exact h.quiet ⟨rfl, id, fun hi => absurd hi id⟩ rfl
      · exact h.quiet ⟨rfl, id, fun hi => absurd hi id⟩ rfl
    · cases hs
  | write fails =>
    simp only [Snapshots.captureStep] at hs
    split at hs
    · rename_i id data hcapture
      split at hs
      · cases hs
        exact h.quiet ⟨rfl, fun hf => hf, fun hi => absurd hi fun hf => hf⟩ rfl
      · rename_i hfails
        cases hs
        by_cases hid : id = eventId
        · -- The event's own file: the sink has not looked, or is going to remove it.
          subst hid
          have hwriting : s.capture.Writing id := by rw [hcapture]; rfl
          rcases hguard with hf | hnot | hread | hunlink
          · exact absurd hf hfails
          · exact absurd hwriting hnot
          · exact .inl hread
          · by_cases hread : id ∈ s.sync.toRead
            · exact .inl hread
            · exact .inr ((h.resolve_left hread).write hunlink _ _)
        · refine h.quiet ⟨rfl, fun hf => ?_, fun hi => absurd hi hid⟩ rfl
          rcases Spool.isFile_of_set hf with hold | hnew
          · exact hold
          · exact absurd (snapshotName_injective (filePath_inj hnew)).symm hid
    · cases hs
  | insert capturedAt fails =>
    simp only [Snapshots.captureStep] at hs
    split at hs
    · rename_i file hcapture
      split at hs <;> cases hs
      · exact h.quiet ⟨rfl, fun hf => hf, fun hi => absurd hi fun hf => hf⟩ rfl
      · by_cases hread : eventId ∈ s.sync.toRead
        · exact .inl hread
        · refine h.quiet ⟨find?_createCaptured s.db file capturedAt fun hid => ?_, fun hf => hf,
            fun hi => absurd hi fun hf => hf⟩ rfl
          apply (h.resolve_left hread).isSome_of_inserting
          rw [hcapture]
          exact hid
    · cases hs
  | mark finalizedAt fails => cases hs
  | read fails => cases hs
  | cancel fails => cases hs
  | unlink fails => cases hs

/-- The sink's cancel of the row it has read. -/
theorem SuppressionInv.cancelStep {id : Uuid} {record : Option SnapshotOutboxRecord}
    {todo : List Uuid} (h : SuppressionInv cfg eventId s) (hsync : s.sync = .cancel id record todo)
    (hs : syncStep cfg s (.cancel false) = some s') : SuppressionInv cfg eventId s' := by
  simp only [syncStep, hsync, Bool.false_eq_true, if_false] at hs
  by_cases hread : eventId ∈ todo
  · -- The event comes again.
    split at hs <;> cases hs <;> exact .inl hread
  · have hafter := h.resolve_left (by rw [hsync]; exact hread)
    rw [hsync] at hafter
    by_cases hid : id = eventId
    · subst hid
      obtain ⟨hrecord, hreadable⟩ := hafter.1 rfl
      unfold SuppressionState.Readable at hreadable
      cases hrow : s.db.snapshots.find? id with
      | none =>
        rw [hrow] at hreadable hrecord
        simp only [cancelUpdates, hrow, Option.any_none] at hs
        cases hs
        refine .inr ⟨⟨fun row hr => ?_, hreadable.1⟩, fun hi => absurd hi hreadable.2⟩
        simp [find?_cancelForQuota, hrow] at hr
      | some row =>
        rw [hrow] at hreadable hrecord
        have hkey : row.eventId = id := (KeyedTable.find?_eq_some_iff.mp hrow).2
        obtain ⟨hnot, hfile⟩ := hreadable
        by_cases hpending : row.uploadStatus = .pending
        · -- The row is suppressed, and its file is the one to remove.
          simp only [cancelUpdates, hrow, hrecord, Option.any_some, hpending, decide_true] at hs
          cases hs
          refine .inr ⟨fun _ => ⟨⟨{ row with uploadStatus := .suppressedByQuota }, ?_, rfl⟩,
            fun hf => (hfile hf).2⟩, fun hne => absurd rfl hne⟩
          simp [find?_cancelForQuota, hrow, hkey, hpending]
        · -- The row was suppressed before, and has no file.
          simp only [cancelUpdates, hrow, Option.any_some, hpending, decide_false] at hs
          cases hs
          have hsuppressed : row.uploadStatus = .suppressedByQuota := by
            cases hstatus : row.uploadStatus with
            | pending => exact absurd hstatus hpending
            | uploaded => exact absurd hstatus hnot
            | suppressedByQuota => rfl
          refine .inr ⟨⟨fun row' hr => ?_, fun hf => hpending (hfile hf).1⟩, fun _ => ?_⟩
          · simp only [find?_cancelForQuota, hrow, hpending, and_false, if_false,
              Option.map_some, Option.some.injEq] at hr
            rw [← hr, hsuppressed]
          · simp [find?_cancelForQuota, hrow]
    · have hquiet : ∀ sync, SuppressionState.Settled cfg eventId { s with
          db := { s.db with snapshots := cancelForQuota s.db.snapshots id }, sync := sync } :=
        fun sync => (hafter.2 hid).quiet
          ⟨find?_cancelForQuota_of_ne _ hid, fun hf => hf, fun hi => hi⟩
      split at hs <;> cases hs
      · exact .inr ⟨fun heq => absurd heq hid, fun _ => hquiet _⟩
      · exact .inr (hquiet _)

/-- The step lemma of the sync iteration. -/
theorem SuppressionInv.syncStep {a : SuppressionAction}
    (henabled : cfg.snapshotCaptureEnabled = true) (h : SuppressionInv cfg eventId s)
    (hguard : ReadsInTime cfg eventId s a) (hs : syncStep cfg s a = some s') :
    SuppressionInv cfg eventId s' := by
  cases a with
  | mark finalizedAt fails =>
    obtain rfl : fails = false := hguard
    cases hsync : s.sync with
    | mark toMark =>
      simp only [Snapshots.syncStep, hsync, henabled, if_true, Bool.false_eq_true, if_false] at hs
      cases hs
      rw [SuppressionInv, hsync] at h
      exact h.imp id fun hafter =>
        SuppressionState.Settled.quiet hafter ⟨rfl, fun hf => hf, fun hi => hi⟩
    | sink todo => simp [Snapshots.syncStep, hsync] at hs
    | cancel id record todo => simp [Snapshots.syncStep, hsync] at hs
    | unlink id localPath todo => simp [Snapshots.syncStep, hsync] at hs
  | read fails =>
    obtain ⟨rfl, hreadable⟩ := hguard
    simp only [Snapshots.syncStep] at hs
    split at hs
    · rename_i id todo hsync
      simp only [Bool.false_eq_true, if_false] at hs
      cases hs
      by_cases hread : eventId ∈ todo
      · exact .inl hread
      · refine .inr ⟨fun hid => ?_, fun hid => ?_⟩
        · subst hid
          exact ⟨rfl, hreadable (by rw [hsync]; rfl)⟩
        · rw [SuppressionInv, hsync] at h
          have hnot : eventId ∉ id :: todo := by
            simpa [eq_comm] using And.intro hid hread
          exact SuppressionState.Settled.quiet (h.resolve_left hnot)
            ⟨rfl, fun hf => hf, fun hi => hi⟩
    · cases hs
  | cancel fails =>
    obtain rfl : fails = false := hguard
    cases hsync : s.sync with
    | mark toMark => simp [Snapshots.syncStep, hsync] at hs
    | sink todo => simp [Snapshots.syncStep, hsync] at hs
    | cancel id record todo => exact h.cancelStep hsync hs
    | unlink id localPath todo => simp [Snapshots.syncStep, hsync] at hs
  | unlink fails =>
    obtain rfl : fails = false := hguard
    simp only [Snapshots.syncStep] at hs
    split at hs
    · rename_i id localPath todo hsync
      simp only [Bool.false_eq_true, if_false] at hs
      cases hs
      rw [SuppressionInv, hsync] at h
      refine h.imp_right fun hafter => ?_
      by_cases hid : id = eventId
      · -- The event's file goes, if it is there.
        obtain ⟨⟨row, hrow, hsuppressed⟩, hfile⟩ := hafter.1 hid
        refine ⟨⟨fun row' hr => ?_, fun hf => ?_⟩, fun _ => ?_⟩
        · rw [show row' = row from Option.some.inj (hr.symm.trans hrow), hsuppressed]
        · have hpath := hfile (Spool.isFile_of_unlink hf)
          rw [SuppressionState.HasFile, hpath, Spool.isFile_unlink_self] at hf
          cases hf
        · show (s.db.snapshots.find? eventId).isSome = true
          rw [hrow]
          rfl
      · exact (hafter.2 hid).quiet ⟨rfl, fun hf => Spool.isFile_of_unlink hf, fun hi => hi⟩
    · cases hs
  | check => cases hs
  | write fails => cases hs
  | insert capturedAt fails => cases hs

end Steps

/-- **Where the sink reads the event's row in time and does not fail, quota suppression wins**: once
the sync iteration is over, and whatever the capture still does, the row, if there is one, is
suppressed and the JPEG is gone. -/
theorem quota_suppression_wins (cfg : CaptureConfig) (henabled : cfg.snapshotCaptureEnabled = true)
    (item : SnapshotQueueItem) (toMark : List Uuid) (eventId : Uuid) (hmember : eventId ∈ toMark)
    (s : SuppressionState)
    (h : (suppressionSystem cfg item toMark).ReachableUnder (ReadsInTime cfg eventId) s)
    (hsync : s.sync = .sink []) : s.Suppressed cfg eventId := by
  have hinv : SuppressionInv cfg eventId s := by
    apply h.invariant_of_guard
    · rintro s ⟨-, hinit⟩
      left
      rw [hinit]
      exact hmember
    · intro s a s' hinv hguard hs
      -- Either activity takes the step.
      rcases Option.or_eq_some_iff.mp hs with hcapture | ⟨-, hother⟩
      · exact hinv.captureStep hguard hcapture
      · exact hinv.syncStep henabled hguard hother
  rw [SuppressionInv, hsync] at hinv
  exact (hinv.resolve_left List.not_mem_nil).1

/-- The smallest JPEG the validation accepts: one pixel, nothing after the frame header. -/
def onePixel : Bytes := [0xFF, 0xD8, 0xFF, 0xC0, 0x00, 0x0B, 0x08, 0x00, 0x01, 0x00, 0x01]

/-- Capture into a spool with room for one megabyte. -/
def smallSpool : CaptureConfig :=
  { snapshotCaptureEnabled := true, spoolPath := "/var/lib/agent/snapshots"
    maxFileBytes := 1000, maxSpoolBytes := 1000000
    computeSha256 := fun _ => "b49726fc93e61e58cf9af0eb1c0ecb9959428c399750640aba717fc40ef28180" }

/-- The snapshot of event 1. -/
def firstSnapshot : SnapshotQueueItem := ⟨"00000000-0000-0000-0000-000000000001", onePixel⟩

/-- Event 1 is in the database; neither activity has begun. -/
def beforeSuppression : SuppressionState :=
  { db := ⟨⟨[newRow (Sync.sampleEvent 1) 0], Sync.nodup_samplePending⟩, .empty⟩, spool := .empty
    capture := .checks, sync := .mark [1] }

/-- The whole capture. -/
def captureAll : List SuppressionAction := [.check, .write false, .insert 5 false]

/-- The file's row is inserted between the mark and the sink's read. -/
theorem quota_suppression_wins_inTime :
    ∃ s, (suppressionSystem smallSpool firstSnapshot [1]).ReachableUnder (ReadsInTime smallSpool 1) s ∧
      (s.db.snapshots.find? 1).isSome = true ∧ s.Suppressed smallSpool 1 := by
  let actions : List SuppressionAction :=
    [.check, .write false, .mark 6 false, .insert 5 false, .read false, .cancel false, .unlink false]
  have hend : ((suppressionSystem smallSpool firstSnapshot [1]).exec beforeSuppression actions).map
      (fun s => ((s.db.snapshots.find? 1).isSome, s.sync)) = some (true, .sink []) := by decide +kernel
  obtain ⟨s, hrun, hpair⟩ := Option.map_eq_some_iff.mp hend
  obtain ⟨hrow, hsync⟩ := Prod.mk.inj hpair
  have hreach : (suppressionSystem smallSpool firstSnapshot [1]).ReachableUnder
      (ReadsInTime smallSpool 1) s :=
    .exec (.init ⟨rfl, rfl⟩) (by decide +kernel) hrun
  exact ⟨s, hreach, hrow,
    quota_suppression_wins smallSpool rfl firstSnapshot [1] 1 (by decide) s hreach hsync⟩

/-- The sink runs first: the capture's row stays pending, with its file in the spool. -/
theorem late_capture_not_suppressed :
    ∃ s, (suppressionSystem smallSpool firstSnapshot [1]).Reachable s ∧ s.capture = .done ∧
      s.sync = .sink [] ∧ ¬ s.Suppressed smallSpool 1 := by
  let actions : List SuppressionAction := [.mark 6 false, .read false, .cancel false] ++ captureAll
  have hend : ((suppressionSystem smallSpool firstSnapshot [1]).exec beforeSuppression actions).map
      (fun s => (decide (s.HasFile smallSpool 1), s.capture, s.sync)) =
      some (true, .done, .sink []) := by decide +kernel
  obtain ⟨s, hrun, hpair⟩ := Option.map_eq_some_iff.mp hend
  obtain ⟨hfile, hends⟩ := Prod.mk.inj hpair
  obtain ⟨hcapture, hsync⟩ := Prod.mk.inj hends
  exact ⟨s, .exec (.init ⟨rfl, rfl⟩) hrun, hcapture, hsync,
    fun hsuppressed => hsuppressed.2 (of_decide_eq_true hfile)⟩

/-! ## The sync iteration on its own -/

/-- The sink's calls one after another are the cancels of the sync worker's model. -/
theorem sink_uninterrupted (cfg : CaptureConfig) (item : SnapshotQueueItem) (toMark todo : List Uuid)
    (s : SuppressionState) (hsync : s.sync = .sink todo) :
    ∃ actions s', (suppressionSystem cfg item toMark).exec s actions = some s' ∧
      s'.sync = .sink [] ∧ s'.db.detectionEvents = s.db.detectionEvents ∧
      s'.db.snapshots = todo.foldl cancelForQuota s.db.snapshots := by
  induction todo generalizing s with
  | nil => exact ⟨[], s, rfl, hsync, rfl, rfl⟩
  | cons eventId todo ih =>
    let sys := suppressionSystem cfg item toMark
    let inSink : SuppressionState :=
      { s with sync := .cancel eventId (s.db.snapshots.find? eventId) todo }
    let cancelled : SuppressionState := { s with
      db := { s.db with snapshots := cancelForQuota s.db.snapshots eventId } }
    have hread : sys.step s (.read false) = some inSink := by
      simp [sys, inSink, suppressionSystem, suppressionStep, captureStep, syncStep, hsync]
    by_cases hpending : cancelUpdates s.db.snapshots eventId = true
    · obtain ⟨row, hrow⟩ : ∃ row, s.db.snapshots.find? eventId = some row := by
        cases hrow : s.db.snapshots.find? eventId with
        | none => simp [cancelUpdates, hrow] at hpending
        | some row => exact ⟨row, rfl⟩
      have hcancel : sys.step inSink (.cancel false) =
          some { cancelled with sync := .unlink eventId row.localPath todo } := by
        simp [sys, inSink, cancelled, suppressionSystem, suppressionStep, captureStep, syncStep,
          hpending, hrow]
      obtain ⟨actions, s', hrun, hend⟩ := ih { cancelled with
        spool := s.spool.unlink cfg.spoolPath row.localPath, sync := .sink todo } rfl
      refine ⟨.read false :: .cancel false :: .unlink false :: actions, s', ?_, hend⟩
      rw [TransitionSystem.exec_cons, hread, Option.bind_some, TransitionSystem.exec_cons, hcancel,
        Option.bind_some]
      exact hrun
    · have hcancel : sys.step inSink (.cancel false) =
          some { cancelled with sync := .sink todo } := by
        simp [sys, inSink, cancelled, suppressionSystem, suppressionStep, captureStep, syncStep,
          hpending]
      obtain ⟨actions, s', hrun, hend⟩ := ih { cancelled with sync := .sink todo } rfl
      refine ⟨.read false :: .cancel false :: actions, s', ?_, hend⟩
      rw [TransitionSystem.exec_cons, hread, Option.bind_some, TransitionSystem.exec_cons, hcancel,
        Option.bind_some]
      exact hrun

/-- A sync iteration that nothing interrupts leaves the database of `_mark_suppressed_by_quota`. -/
theorem sync_uninterrupted (cfg : CaptureConfig) (item : SnapshotQueueItem)
    (syncCfg : Sync.SyncConfig) (hflag : syncCfg.snapshotCaptureEnabled = cfg.snapshotCaptureEnabled)
    (result : Sync.SyncBatchResult) (finalizedAt : Instant) (s : SuppressionState)
    (hsync : s.sync = .mark (result.quotaExceeded.map Prod.fst)) :
    ∃ actions s', (suppressionSystem cfg item (result.quotaExceeded.map Prod.fst)).exec s actions =
        some s' ∧ s'.sync = .sink [] ∧
      s'.db = Sync.markSuppressedByQuota syncCfg result finalizedAt s.db := by
  let toMark := result.quotaExceeded.map Prod.fst
  let todo := if cfg.snapshotCaptureEnabled then toMark else []
  let marked : SuppressionState := { s with
    db := { s.db with
      detectionEvents := markSuppressedByQuotaMany s.db.detectionEvents toMark finalizedAt }
    sync := .sink todo }
  have hmark : (suppressionSystem cfg item toMark).step s (.mark finalizedAt false) = some marked := by
    simp [marked, todo, toMark, suppressionSystem, suppressionStep, captureStep, syncStep, hsync]
  obtain ⟨actions, s', hrun, hend, hevents, hsnapshots⟩ :=
    sink_uninterrupted cfg item toMark todo marked rfl
  refine ⟨.mark finalizedAt false :: actions, s', ?_, hend, ?_⟩
  · rw [TransitionSystem.exec_cons, hmark, Option.bind_some]
    exact hrun
  · have hdb : s'.db = ⟨markSuppressedByQuotaMany s.db.detectionEvents toMark finalizedAt,
        todo.foldl cancelForQuota s.db.snapshots⟩ := by
      show (⟨s'.db.detectionEvents, s'.db.snapshots⟩ : Database) = _
      rw [hevents, hsnapshots]
    rw [hdb, Sync.markSuppressedByQuota, hflag]
    by_cases hnil : toMark = []
    · simp [toMark, todo, hnil, markSuppressedByQuotaMany]
    · simp only [toMark] at hnil
      simp only [todo, toMark, hnil, if_false]
      cases cfg.snapshotCaptureEnabled <;> rfl

end WeaponDetection.Agent.Snapshots
