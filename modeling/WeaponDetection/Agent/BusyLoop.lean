import WeaponDetection.Agent.Sync.Worker
import WeaponDetection.Agent.Snapshots.UploadProgress

/-!
# Iterations without a pause

Models `_run` of `DetectionEventSyncWorker` and `SnapshotUploadWorker` around one `_drain_once`: how
the iteration pauses before the next one.  Both workers go on at once after a full batch, whether it
retired a row or not: `paces_iff`.
-/

namespace WeaponDetection.Agent

open WeaponDetection.Foundations (KeyedTable)
open WeaponDetection.Foundations.Python (Uuid PyValue)
open WeaponDetection.Agent.Detection (Instant)
open WeaponDetection.Agent.Persistence
open WeaponDetection.Agent.Sync
open WeaponDetection.Agent.Snapshots

/-! ## The iterations -/

/-- An iteration of `DetectionEventSyncWorker._run`.  A call that raises leaves some database behind
and reaches the handler, which sleeps the backoff. -/
def syncIteration (cfg : SyncConfig) (identity : Option DeviceIdentity) (answer : HttpAnswer)
    (deliveredAt finalizedAt : Instant) (raised : Option Database) (db : Database) : Database × IterationEnd :=
  match raised with
  | some left => (left, .backoffSleep)
  | none =>
    let outcome := drainOnce cfg identity answer deliveredAt finalizedAt db
    match outcome.result with
    | .failure | .raised => (outcome.db, .backoffSleep)
    | .success | .idle => (outcome.db, if outcome.idle then .idleSleep else .goesOn)

/-- An iteration of `SnapshotUploadWorker._run`. -/
def uploadIteration (cfg : UploadConfig) (identity : Option DeviceIdentity) (backend : UploadBackend)
    (clock : Uuid → Instant) (raised : Option UploadState) (s : UploadState) : UploadState × IterationEnd :=
  match raised with
  | some left => (left, .backoffSleep)
  | none => uploadDrainOnce cfg identity backend clock s

/-- No detection leaves `pending`. -/
def RetiresNoEvent (before after : DetectionEventTable) : Prop :=
  ∀ r ∈ before, r.deliveryStatus = .pending →
    (after.find? r.eventId).map OutboxRow.deliveryStatus = some .pending

/-- No snapshot leaves `pending`. -/
def RetiresNoSnapshot (before after : SnapshotOutboxTable) : Prop :=
  ∀ r ∈ before, r.uploadStatus = .pending →
    (after.find? r.eventId).map SnapshotOutboxRecord.uploadStatus = some .pending

/-! ## The sync worker -/

/-- The oldest pending rows fill a batch and are all of the current device, and the answer settles no
pending row. -/
structure SyncSpins (cfg : SyncConfig) (table : DetectionEventTable) (identity : Option DeviceIdentity)
    (answer : HttpAnswer) : Prop where
  full : (listPending table cfg.batchSize).length = cfg.batchSize
  own : batchToSend cfg table identity = listPending table cfg.batchSize
  unsettled : ∃ results, answerResults answer = some results ∧
    ∀ r ∈ table, r.deliveryStatus = .pending → verdict results r.eventId = none

section Sync

variable (cfg : SyncConfig) (identity : Option DeviceIdentity) (answer : HttpAnswer)
variable (deliveredAt finalizedAt : Instant) (db : Database)

/-- The batch is the pending page less the rows of other devices. -/
theorem batchToSend_sublist : (batchToSend cfg db.detectionEvents identity).Sublist
    (listPending db.detectionEvents cfg.batchSize) := by
  unfold batchToSend
  split
  · exact List.nil_sublist _
  · split
    · exact List.filter_sublist
    · exact List.nil_sublist _

/-- When the loop goes on at once. -/
theorem syncIteration_goesOn_iff :
    (syncIteration cfg identity answer deliveredAt finalizedAt none db).2 = .goesOn ↔
      (listPending db.detectionEvents cfg.batchSize).length = cfg.batchSize ∧
        batchToSend cfg db.detectionEvents identity = listPending db.detectionEvents cfg.batchSize ∧
        ∃ results, answerResults answer = some results := by
  have hpage : (listPending db.detectionEvents cfg.batchSize).length ≤ cfg.batchSize :=
    List.length_take_le _ _
  have hsub := batchToSend_sublist cfg identity db
  by_cases hnil : batchToSend cfg db.detectionEvents identity = []
  · have hidle : (syncIteration cfg identity answer deliveredAt finalizedAt none db).2 = .idleSleep := by
      simp [syncIteration, drainOnce, hnil]
    rw [hidle]
    refine iff_of_false (nofun) fun ⟨hfull, hown, _⟩ => ?_
    rw [hnil] at hown
    rw [← hown] at hfull
    exact cfg.batchSize_pos.ne hfull
  · cases hresults : answerResults answer with
    | none =>
      obtain ⟨failure, hfailure⟩ := classify_of_answerResults_none hresults
      simp [syncIteration, drainOnce, hnil, hfailure]
    | some results =>
      have hclassify := classify_of_answerResults hresults
      have hend : (syncIteration cfg identity answer deliveredAt finalizedAt none db).2 =
          if (batchToSend cfg db.detectionEvents identity).length ≠
              (listPending db.detectionEvents cfg.batchSize).length ∨
            (listPending db.detectionEvents cfg.batchSize).length < cfg.batchSize then .idleSleep
          else .goesOn := by
        simp [syncIteration, drainOnce, hnil, hclassify]
      rw [hend, ite_eq_right_iff]
      constructor
      · intro h
        have hgoes : ¬ ((batchToSend cfg db.detectionEvents identity).length ≠
              (listPending db.detectionEvents cfg.batchSize).length ∨
            (listPending db.detectionEvents cfg.batchSize).length < cfg.batchSize) := fun hc => nomatch h hc
        rw [not_or, not_not, not_lt] at hgoes
        exact ⟨le_antisymm hpage hgoes.2, hsub.eq_of_length hgoes.1, results, rfl⟩
      · rintro ⟨hfull, hown, -⟩ (hne | hlt)
        · exact absurd (congrArg List.length hown) hne
        · exact absurd hfull hlt.ne

/-- What is left of the pending rows by an iteration that goes on. -/
theorem retiresNoEvent_iff {results : List PyValue} (hanswer : answerResults answer = some results)
    (hsend : batchToSend cfg db.detectionEvents identity ≠ []) :
    RetiresNoEvent db.detectionEvents
        (syncIteration cfg identity answer deliveredAt finalizedAt none db).1.detectionEvents ↔
      ∀ r ∈ db.detectionEvents, r.deliveryStatus = .pending → verdict results r.eventId = none := by
  have hafter : (syncIteration cfg identity answer deliveredAt finalizedAt none db).1 =
      markSuppressedByQuota cfg (parseResults results) finalizedAt
        (markDelivered cfg (parseResults results) deliveredAt db) := by
    simp [syncIteration, drainOnce, hsend, classify_of_answerResults hanswer]
  rw [hafter]
  refine forall₂_congr fun r hr => forall_congr' fun hpending => ?_
  rw [status_after_marks cfg results deliveredAt finalizedAt db hr, if_pos hpending, Option.some.injEq,
    hpending]
  cases hverdict : verdict results r.eventId with
  | none => simp
  | some status =>
    have hne : status ≠ .pending := fun h => verdict_ne_pending results r.eventId (h ▸ hverdict)
    simp [hne]

end Sync

/-! ## The upload worker -/

/-- The oldest upload-ready rows fill a batch, and none of them has its captured file. -/
structure UploadSpins (cfg : UploadConfig) (identity : Option DeviceIdentity) (s : UploadState) : Prop where
  operational : identity.any (·.operational) = true
  full : (listUploadReady s.snapshots cfg.batchSize).length = cfg.batchSize
  unusable : ∀ r ∈ listUploadReady s.snapshots cfg.batchSize, localProblem cfg s.spool r ≠ none

section Upload

variable {cfg : UploadConfig} {backend : UploadBackend} {clock : Uuid → Instant}

theorem retiresNoSnapshot_recordAttemptFailure (table : SnapshotOutboxTable) (eventId : Uuid)
    (attemptAtUtc : Instant) (errorCategory : String) :
    RetiresNoSnapshot table (recordAttemptFailure table eventId attemptAtUtc errorCategory) := by
  intro r hr hpending
  rw [recordAttemptFailure, KeyedTable.find?_update, KeyedTable.find?_eq_some_iff.mpr ⟨hr, rfl⟩,
    Option.map_some, Option.map_some]
  split <;> rw [hpending]

theorem mem_recordAttemptFailure {table : SnapshotOutboxTable} {eventId : Uuid} {attemptAtUtc : Instant}
    {errorCategory : String} {r : SnapshotOutboxRecord}
    (h : r ∈ recordAttemptFailure table eventId attemptAtUtc errorCategory) :
    ∃ old ∈ table, old.eventId = r.eventId ∧ old.uploadStatus = r.uploadStatus := by
  unfold recordAttemptFailure at h
  obtain ⟨old, hold, rfl⟩ := KeyedTable.mem_update.mp h
  refine ⟨old, hold, ?_⟩
  split <;> exact ⟨rfl, rfl⟩

theorem RetiresNoSnapshot.trans {t₁ t₂ t₃ : SnapshotOutboxTable} (h : RetiresNoSnapshot t₁ t₂)
    (h' : RetiresNoSnapshot t₂ t₃) : RetiresNoSnapshot t₁ t₃ := by
  intro r hr hpending
  obtain ⟨r', hfind, hpending'⟩ := Option.map_eq_some_iff.mp (h r hr hpending)
  obtain ⟨hr', hid⟩ := KeyedTable.find?_eq_some_iff.mp hfind
  rw [← hid]
  exact h' r' hr' hpending'

/-- A batch without a usable file leaves the spool as it is and retires nothing. -/
theorem uploadRows_of_unusable (backend : UploadBackend) (clock : Uuid → Instant) {page : List SnapshotOutboxRecord} {s : UploadState}
    (h : ∀ r ∈ page, localProblem cfg s.spool r ≠ none) :
    (uploadRows cfg backend clock page s).2 = true ∧
      RetiresNoSnapshot s.snapshots (uploadRows cfg backend clock page s).1.snapshots := by
  induction page generalizing s with
  | nil => exact ⟨rfl, fun r hr hpending => by
      rw [uploadRows, KeyedTable.find?_eq_some_iff.mpr ⟨hr, rfl⟩, Option.map_some, hpending]⟩
  | cons record rest ih =>
    obtain ⟨category, hproblem⟩ := Option.ne_none_iff_exists'.mp (h record List.mem_cons_self)
    simp only [uploadRows, uploadOne, hproblem]
    obtain ⟨hend, hretires⟩ := ih (s := ⟨recordAttemptFailure s.snapshots record.eventId
      (clock record.eventId) category, s.spool⟩) fun r hr => h r (List.mem_cons_of_mem _ hr)
    exact ⟨hend, (retiresNoSnapshot_recordAttemptFailure _ _ _ _).trans hretires⟩

/-- A batch that is gone through without retiring anything has no usable file. -/
theorem unusable_of_uploadRows {page : List SnapshotOutboxRecord} {s : UploadState}
    (hpage : ∀ r ∈ page, ∃ row ∈ s.snapshots, row.eventId = r.eventId ∧ row.uploadStatus = .pending)
    (hend : (uploadRows cfg backend clock page s).2 = true)
    (hretires : RetiresNoSnapshot s.snapshots (uploadRows cfg backend clock page s).1.snapshots) :
    ∀ r ∈ page, localProblem cfg s.spool r ≠ none := by
  induction page generalizing s with
  | nil => exact fun r hr => absurd hr List.not_mem_nil
  | cons record rest ih =>
    obtain ⟨row, hrow, hid, hpending⟩ := hpage record List.mem_cons_self
    cases hproblem : localProblem cfg s.spool record with
    | some category =>
      simp only [uploadRows, uploadOne, hproblem] at hend hretires
      have hkept : ∀ r ∈ rest, ∃ row ∈ recordAttemptFailure s.snapshots record.eventId
          (clock record.eventId) category, row.eventId = r.eventId ∧ row.uploadStatus = .pending := by
        intro r hr
        obtain ⟨row, hrow, hid, hpending⟩ := hpage r (List.mem_cons_of_mem _ hr)
        obtain ⟨row', hfind, hpending'⟩ := Option.map_eq_some_iff.mp
          (retiresNoSnapshot_recordAttemptFailure s.snapshots record.eventId (clock record.eventId) category
            row hrow hpending)
        obtain ⟨hrow', hid'⟩ := KeyedTable.find?_eq_some_iff.mp hfind
        exact ⟨row', hrow', hid'.trans hid, hpending'⟩
      have hrest := ih hkept hend fun r hr hpending => by
        obtain ⟨old, hold, hid, hstatus⟩ := mem_recordAttemptFailure hr
        rw [← hid]
        exact hretires old hold (hstatus.trans hpending)
      intro r hr
      rcases List.mem_cons.mp hr with rfl | hr
      · simp [hproblem]
      · exact hrest r hr
    | none =>
      cases hbackend : backend (uploadRequest record) with
      | some reason => simp [uploadRows, uploadOne, hproblem, hbackend] at hend
      | none =>
        -- the row is uploaded, and stays so
        simp only [uploadRows, uploadOne, hproblem, hbackend] at hretires
        have huploaded : IsUploaded (markUploaded s.snapshots record.eventId (clock record.eventId))
            row.eventId := by
          refine ⟨_, KeyedTable.mem_update.mpr ⟨row, hrow, rfl⟩, ?_⟩
          rw [if_pos ⟨hid, hpending⟩]
          exact ⟨rfl, rfl⟩
        have hkept : IsUploaded (uploadRows cfg backend clock rest
            ⟨markUploaded s.snapshots record.eventId (clock record.eventId),
              s.spool.unlink cfg.spoolPath record.localPath⟩).1.snapshots row.eventId :=
          isUploaded_uploadRows clock rest huploaded
        obtain ⟨row', hrow', hid', hstatus⟩ := hkept
        have hstill := hretires row hrow hpending
        rw [KeyedTable.find?_eq_some_iff.mpr ⟨hrow', hid'⟩, Option.map_some, hstatus] at hstill
        cases hstill

/-- Rows of a batch are pending rows of the table. -/
theorem pending_of_mem_listUploadReady {table : SnapshotOutboxTable} {limit : ℕ}
    {r : SnapshotOutboxRecord} (h : r ∈ listUploadReady table limit) :
    ∃ row ∈ table, row.eventId = r.eventId ∧ row.uploadStatus = .pending := by
  have hmem := (List.mem_insertionSort uploadOrder).mp (List.mem_of_mem_take h)
  obtain ⟨hmem, hready⟩ := List.mem_filter.mp hmem
  exact ⟨r, hmem, rfl, (of_decide_eq_true hready).2.1⟩

end Upload

/-! ## When the workers pace themselves -/

/-- The iteration retires a detection, or pauses. -/
def SyncPaces (cfg : SyncConfig) (identity : Option DeviceIdentity) (answer : HttpAnswer)
    (deliveredAt finalizedAt : Instant) (raised : Option Database) (db : Database) : Prop :=
  let next := syncIteration cfg identity answer deliveredAt finalizedAt raised db
  RetiresNoEvent db.detectionEvents next.1.detectionEvents → next.2 ≠ .goesOn

/-- The iteration retires a snapshot, or pauses. -/
def UploadPaces (cfg : UploadConfig) (identity : Option DeviceIdentity) (backend : UploadBackend)
    (clock : Uuid → Instant) (raised : Option UploadState) (s : UploadState) : Prop :=
  let next := uploadIteration cfg identity backend clock raised s
  RetiresNoSnapshot s.snapshots next.1.snapshots → next.2 ≠ .goesOn

theorem syncPaces_iff (cfg : SyncConfig) (identity : Option DeviceIdentity) (answer : HttpAnswer)
    (deliveredAt finalizedAt : Instant) (raised : Option Database) (db : Database) :
    SyncPaces cfg identity answer deliveredAt finalizedAt raised db ↔
      raised.isSome ∨ ¬ SyncSpins cfg db.detectionEvents identity answer := by
  cases raised with
  | some left => simp [SyncPaces, syncIteration]
  | none =>
    simp only [SyncPaces, Option.isSome_none, Bool.false_eq_true, false_or]
    have hgoes := syncIteration_goesOn_iff cfg identity answer deliveredAt finalizedAt db
    have hsend : ∀ {table : DetectionEventTable}, (listPending table cfg.batchSize).length = cfg.batchSize →
        batchToSend cfg table identity = listPending table cfg.batchSize →
        batchToSend cfg table identity ≠ [] := by
      intro table hfull hown hnil
      rw [← hown, hnil] at hfull
      exact cfg.batchSize_pos.ne hfull
    constructor
    · rintro hpaces ⟨hfull, hown, results, hanswer, hnone⟩
      refine hpaces ?_ (hgoes.mpr ⟨hfull, hown, results, hanswer⟩)
      exact (retiresNoEvent_iff cfg identity answer deliveredAt finalizedAt db hanswer
        (hsend hfull hown)).mpr hnone
    · intro hspins hretires hend
      obtain ⟨hfull, hown, results, hanswer⟩ := hgoes.mp hend
      exact hspins ⟨hfull, hown, results, hanswer, (retiresNoEvent_iff cfg identity answer deliveredAt
        finalizedAt db hanswer (hsend hfull hown)).mp hretires⟩

theorem uploadPaces_iff (cfg : UploadConfig) (identity : Option DeviceIdentity) (backend : UploadBackend)
    (clock : Uuid → Instant) (raised : Option UploadState) (s : UploadState) :
    UploadPaces cfg identity backend clock raised s ↔ raised.isSome ∨ ¬ UploadSpins cfg identity s := by
  cases raised with
  | some left => simp [UploadPaces, uploadIteration]
  | none =>
    simp only [UploadPaces, uploadIteration, Option.isSome_none, Bool.false_eq_true, false_or]
    by_cases hoperational : identity.any (·.operational) = true
    · have hstate : (uploadDrainOnce cfg identity backend clock s).1 =
          (uploadRows cfg backend clock (listUploadReady s.snapshots cfg.batchSize) s).1 :=
        uploadDrainOnce_state hoperational
      have hle : (listUploadReady s.snapshots cfg.batchSize).length ≤ cfg.batchSize := List.length_take_le _ _
      have hgoes : (uploadDrainOnce cfg identity backend clock s).2 = .goesOn ↔
          (listUploadReady s.snapshots cfg.batchSize).length = cfg.batchSize ∧
            (uploadRows cfg backend clock (listUploadReady s.snapshots cfg.batchSize) s).2 = true := by
        simp only [uploadDrainOnce, hoperational, if_true]
        by_cases hnil : listUploadReady s.snapshots cfg.batchSize = []
        · have hpos := cfg.batchSize_pos
          simp only [hnil, if_true, reduceCtorEq, List.length_nil, false_iff, not_and]
          exact fun h => absurd h hpos.ne
        · rw [if_neg hnil]
          cases hrows : uploadRows cfg backend clock (listUploadReady s.snapshots cfg.batchSize) s with
          | mk s' goesOn =>
            cases goesOn with
            | false => simp
            | true =>
              simp only [ite_eq_right_iff, reduceCtorEq, imp_false, not_lt, and_true]
              exact ⟨fun h => le_antisymm hle h, fun h => h.ge⟩
      rw [hstate, ne_eq, hgoes]
      constructor
      · rintro hpaces ⟨-, hfull, hunusable⟩
        obtain ⟨hend, hretires⟩ := uploadRows_of_unusable backend clock hunusable
        exact hpaces hretires ⟨hfull, hend⟩
      · rintro hspins hretires ⟨hfull, hend⟩
        exact hspins ⟨hoperational, hfull, unusable_of_uploadRows
          (fun r hr => pending_of_mem_listUploadReady hr) hend hretires⟩
    · refine iff_of_true (fun _ => ?_) fun hspins => hoperational hspins.operational
      simp [uploadDrainOnce, hoperational]

/-- **An iteration that retires no row is followed by a pause if and only if a call raised or the worker
does not spin.** -/
theorem paces_iff (syncCfg : SyncConfig) (uploadCfg : UploadConfig) (identity : Option DeviceIdentity)
    (answer : HttpAnswer) (backend : UploadBackend) (deliveredAt finalizedAt : Instant)
    (clock : Uuid → Instant) (raisedSync : Option Database) (raisedUpload : Option UploadState)
    (db : Database) (s : UploadState) :
    (SyncPaces syncCfg identity answer deliveredAt finalizedAt raisedSync db ↔
        raisedSync.isSome ∨ ¬ SyncSpins syncCfg db.detectionEvents identity answer) ∧
      (UploadPaces uploadCfg identity backend clock raisedUpload s ↔
        raisedUpload.isSome ∨ ¬ UploadSpins uploadCfg identity s) :=
  ⟨syncPaces_iff syncCfg identity answer deliveredAt finalizedAt raisedSync db,
    uploadPaces_iff uploadCfg identity backend clock raisedUpload s⟩

/-- A full batch of one rejected detection is sent again at once, and a full batch of one snapshot
without its file is looked at again at once. -/
theorem full_batch_spins :
    ¬ SyncPaces oneByOne (some sampleIdentity)
        (.response 200 (some (answerOne "00000000-0000-0000-0000-000000000001" "rejected"))) 0 0 none
        twoPending ∧
      ¬ UploadPaces oneUpload (some sampleIdentity) (fun _ => none) (fun _ => 0) none firstFileMissing := by
  constructor
  · rw [syncPaces_iff, Option.isSome_none, Bool.false_eq_true, false_or, not_not]
    refine ⟨by decide +kernel, by decide +kernel, _, rfl, fun r hr _ => ?_⟩
    have hrows : r = newRow (sampleEvent 1) 0 ∨ r = newRow (sampleEvent 2) 0 := by
      simpa [twoPending] using KeyedTable.mem_rows.mpr hr
    rcases hrows with rfl | rfl
    · decide +kernel
    · decide +kernel
  · rw [uploadPaces_iff, Option.isSome_none, Bool.false_eq_true, false_or, not_not]
    exact ⟨rfl, by decide +kernel, by decide +kernel⟩

end WeaponDetection.Agent
