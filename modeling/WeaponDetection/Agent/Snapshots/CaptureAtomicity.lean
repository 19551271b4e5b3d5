import WeaponDetection.Agent.Snapshots.Reconciliation

/-!
# What a capture leaves behind

Models one call of `_process_snapshot` with every way its calls can fail.  The file is renamed before
the row is inserted, and nothing takes it back when the insert fails, so a snapshot of an unknown event
leaves a file, and a second snapshot of an event overwrites the file of the first: `capture_atomic_iff`.
-/

namespace WeaponDetection.Agent.Snapshots

open WeaponDetection.Foundations
open WeaponDetection.Foundations.Python (Uuid uuidText)
open WeaponDetection.Agent.Detection (DetectionEvent Instant)
open WeaponDetection.Agent.Persistence

/-! ## The function -/

/-- The temporary file of a capture; `token` is `uuid4().hex`. -/
def tempName (eventId : Uuid) (token : String) : String :=
  "." ++ uuidText eventId ++ "." ++ token ++ ".tmp"

/-- How `write_snapshot_atomic` ends. -/
inductive WriteEnd where
  | written
  /-- An exception: what the temporary file holds where it was created, and whether the handler could
  remove it. -/
  | failed (left : Option Bytes) (removed : Bool)

/-- How the calls of a capture end. -/
structure CaptureCalls where
  token : String
  write : WriteEnd
  /-- The insert raises another database error. -/
  insertRaises : Bool
  now : Instant

/-- The Agent's database and its spool directory. -/
structure SpoolState where
  db : Database
  spool : Spool

/-- `write_snapshot_atomic`, with `true` when it returns. -/
def writeSnapshotAtomic (spool : Spool) (eventId : Uuid) (data : Bytes) (calls : CaptureCalls) :
    Spool × Bool :=
  let temp := tempName eventId calls.token
  match calls.write with
  | .written => (Spool.replace (spool.set temp data) temp (snapshotName eventId), true)
  | .failed none _ => (spool, false)
  | .failed (some left) true => ((spool.set temp left).pop temp, false)
  | .failed (some left) false => (spool.set temp left, false)

/-- `_process_snapshot`. -/
def processSnapshot (cfg : CaptureConfig) (calls : CaptureCalls) (s : SpoolState) (item : SnapshotQueueItem) :
    SpoolState :=
  match admits cfg s.spool item with
  | none => s
  | some eventId =>
    match writeSnapshotAtomic s.spool eventId item.data calls with
    | (spool, false) => { s with spool }
    | (spool, true) =>
      if calls.insertRaises then { s with spool }
      else
        -- a duplicate and an unknown event leave the table as it is
        { db := (createCaptured s.db (capturedFile cfg eventId item.data) calls.now).getD s.db, spool }

/-- No file has the name of the temporary file yet. -/
def FreshToken (cfg : CaptureConfig) (calls : CaptureCalls) (s : SpoolState) (item : SnapshotQueueItem) :
    Prop :=
  ∀ eventId ∈ admits cfg s.spool item, s.spool.get? (tempName eventId calls.token) = none

/-! ## Atomic captures -/

/-- The file of the row is the one the row records. -/
def HasFile (cfg : CaptureConfig) (spool : Spool) (row : SnapshotOutboxRecord) : Prop :=
  ∃ content, spool.read? cfg.spoolPath row.localPath = some content ∧
    cfg.computeSha256 content = row.sha256 ∧ content.length = row.sizeBytes

/-- One new captured row with its file, and nothing else. -/
def CreatesRow (cfg : CaptureConfig) (s s' : SpoolState) : Prop :=
  ∃ row, s'.db.snapshots.rows = s.db.snapshots.rows ++ [row] ∧ row.captureStatus = .captured ∧
    HasFile cfg s'.spool row ∧
      ∀ name, filePath cfg.spoolPath name ≠ row.localPath → s'.spool.get? name = s.spool.get? name

/-- Every row and every file is as it was. -/
def Unchanged (s s' : SpoolState) : Prop :=
  s'.db.snapshots = s.db.snapshots ∧ ∀ name, s'.spool.get? name = s.spool.get? name

/-- The call creates one row or leaves everything as it was. -/
def CapturesAtomically (cfg : CaptureConfig) (calls : CaptureCalls) (s : SpoolState)
    (item : SnapshotQueueItem) : Prop :=
  CreatesRow cfg s (processSnapshot cfg calls s item) ∨ Unchanged s (processSnapshot cfg calls s item)

/-- The row can be inserted: the event is known and has none yet, and the database does not fail. -/
def InsertSucceeds (calls : CaptureCalls) (db : Database) (eventId : Uuid) : Prop :=
  calls.insertRaises = false ∧ (db.detectionEvents.find? eventId).isSome ∧ db.snapshots.find? eventId = none

/-- The capture has nothing to restore: it is not admitted; or the write fails and leaves no temporary
file; or the row can be inserted; or the spool holds the same bytes already. -/
def NothingToRestore (cfg : CaptureConfig) (calls : CaptureCalls) (s : SpoolState)
    (item : SnapshotQueueItem) : Prop :=
  ∀ eventId ∈ admits cfg s.spool item,
    match calls.write with
    | .failed left removed => left = none ∨ removed = true
    | .written =>
      InsertSucceeds calls s.db eventId ∨ s.spool.get? (snapshotName eventId) = some item.data

section Write

variable {spool : Spool} {eventId : Uuid} {data : Bytes} {calls : CaptureCalls}

/-- A file of the spool is found under its path. -/
theorem Spool.read?_filePath (spool : Spool) (spoolPath name : String) :
    spool.read? spoolPath (filePath spoolPath name) = spool.get? name := by
  unfold Spool.read? OrderedDict.get?
  congr 2
  funext file
  exact decide_eq_decide.mpr ⟨filePath_inj, fun h => h ▸ rfl⟩

/-- A write that succeeds changes the final file only. -/
theorem get?_written (data : Bytes) (hwrite : calls.write = .written)
    (hfresh : spool.get? (tempName eventId calls.token) = none) (name : String) :
    (writeSnapshotAtomic spool eventId data calls).1.get? name =
      if name = snapshotName eventId then some data else spool.get? name := by
  simp only [writeSnapshotAtomic, hwrite, Spool.replace, OrderedDict.get?_set_self]
  by_cases hname : name = snapshotName eventId
  · rw [if_pos hname, hname, OrderedDict.get?_set_self]
  · rw [if_neg hname, OrderedDict.get?_set_of_ne _ _ hname, OrderedDict.get?_pop]
    split
    · rename_i htemp
      rw [htemp, hfresh]
    · rename_i htemp
      rw [OrderedDict.get?_set_of_ne _ _ htemp]

/-- A write that fails leaves the files as they were if and only if it leaves no temporary file. -/
theorem get?_failed_iff {left : Option Bytes} {removed : Bool} (hwrite : calls.write = .failed left removed)
    (hfresh : spool.get? (tempName eventId calls.token) = none) :
    (∀ name, (writeSnapshotAtomic spool eventId data calls).1.get? name = spool.get? name) ↔
      left = none ∨ removed = true := by
  simp only [writeSnapshotAtomic, hwrite]
  cases left with
  | none => simp
  | some left =>
    cases removed with
    | true =>
      refine iff_of_true (fun name => ?_) (.inr rfl)
      rw [OrderedDict.get?_pop]
      split
      · rename_i htemp
        rw [htemp, hfresh]
      · rename_i htemp
        rw [OrderedDict.get?_set_of_ne _ _ htemp]
    | false =>
      refine iff_of_false (fun hsame => ?_) (by simp)
      have htemp := hsame (tempName eventId calls.token)
      rw [OrderedDict.get?_set_self, hfresh] at htemp
      cases htemp

/-- `create_captured` with a known event and no row yet. -/
theorem createCaptured_of_free {db : Database} (file : CapturedFile) (now : Instant)
    (hknown : (db.detectionEvents.find? file.eventId).isSome) (hfree : db.snapshots.find? file.eventId = none) :
    ∃ db', createCaptured db file now = some db' ∧ db'.snapshots.rows = db.snapshots.rows ++ [file.row now] := by
  obtain ⟨event, hevent⟩ := Option.isSome_iff_exists.mp hknown
  cases hinsert : db.snapshots.insert (file.row now) with
  | none =>
    obtain ⟨row, hrow, hid⟩ := KeyedTable.insert_eq_none_iff.mp hinsert
    exact absurd hid (KeyedTable.find?_eq_none_iff.mp hfree row hrow)
  | some snapshots =>
    refine ⟨{ db with snapshots }, ?_, (KeyedTable.insert_eq_some_iff.mp hinsert).2⟩
    simp only [createCaptured, hevent, hinsert, Option.map_some]

/-- Otherwise nothing is inserted. -/
theorem createCaptured_of_not_free {db : Database} {file : CapturedFile} {now : Instant}
    (h : ¬ ((db.detectionEvents.find? file.eventId).isSome ∧ db.snapshots.find? file.eventId = none)) :
    createCaptured db file now = none := by
  unfold createCaptured
  cases hevent : db.detectionEvents.find? file.eventId with
  | none => rfl
  | some event =>
    have hrow : db.snapshots.find? file.eventId ≠ none := fun hnone => h ⟨by simp [hevent], hnone⟩
    obtain ⟨row, hrow⟩ := Option.ne_none_iff_exists'.mp hrow
    obtain ⟨hmem, hid⟩ := KeyedTable.find?_eq_some_iff.mp hrow
    have hinsert : db.snapshots.insert (file.row now) = none :=
      KeyedTable.insert_eq_none_iff.mpr ⟨row, hmem, hid⟩
    simp only [hinsert, Option.map_none]

end Write

/-- Where no row is inserted, the files have to be as they were. -/
theorem atomic_of_spool_iff (cfg : CaptureConfig) (s : SpoolState) (spool : Spool) :
    CreatesRow cfg s { s with spool } ∨ Unchanged s { s with spool } ↔
      ∀ name, spool.get? name = s.spool.get? name := by
  have hnone : ¬ CreatesRow cfg s { s with spool } := by
    rintro ⟨row, hrows, -⟩
    have hlength := congrArg List.length hrows
    simp at hlength
  rw [or_iff_right hnone]
  exact and_iff_right rfl

/-- **A capture creates one row with its file or leaves everything as it was if and only if it has
nothing to restore.** -/
theorem capturesAtomically_iff (cfg : CaptureConfig) (calls : CaptureCalls) (s : SpoolState)
    (item : SnapshotQueueItem) (hfresh : FreshToken cfg calls s item) :
    CapturesAtomically cfg calls s item ↔ NothingToRestore cfg calls s item := by
  unfold CapturesAtomically NothingToRestore
  cases hadmits : admits cfg s.spool item with
  | none =>
    have hsame : processSnapshot cfg calls s item = s := by simp only [processSnapshot, hadmits]
    rw [hsame]
    exact iff_of_true (.inr ⟨rfl, fun _ => rfl⟩) (by simp)
  | some eventId =>
    have hfresh := hfresh eventId hadmits
    simp only [Option.mem_some_iff, forall_eq']
    cases hwrite : calls.write with
    | failed left removed =>
      have hafter : processSnapshot cfg calls s item =
          { s with spool := (writeSnapshotAtomic s.spool eventId item.data calls).1 } := by
        have hend : (writeSnapshotAtomic s.spool eventId item.data calls).2 = false := by
          simp only [writeSnapshotAtomic, hwrite]
          cases left with
          | none => rfl
          | some left => cases removed <;> rfl
        simp only [processSnapshot, hadmits]
        split
        · rename_i spool hpair
          rw [hpair]
        · rename_i spool hpair
          rw [hpair] at hend
          cases hend
      rw [hafter, atomic_of_spool_iff]
      exact get?_failed_iff hwrite hfresh
    | written =>
      have hget := fun name => get?_written item.data hwrite hfresh name
      obtain ⟨spool, hpair⟩ : ∃ spool, writeSnapshotAtomic s.spool eventId item.data calls = (spool, true) := by
        refine ⟨(writeSnapshotAtomic s.spool eventId item.data calls).1, ?_⟩
        simp only [writeSnapshotAtomic, hwrite]
      rw [hpair] at hget
      simp only at hget ⊢
      by_cases hinsert : InsertSucceeds calls s.db eventId
      · obtain ⟨hraises, hknown, hfree⟩ := hinsert
        obtain ⟨db', hdb, hrows⟩ := createCaptured_of_free
          (capturedFile cfg eventId item.data) calls.now hknown hfree
        have hafter : processSnapshot cfg calls s item = ⟨db', spool⟩ := by
          simp only [processSnapshot, hadmits, hpair, hraises, hdb, Option.getD_some, Bool.false_eq_true,
            if_false]
        rw [hafter]
        refine iff_of_true (.inl ⟨_, hrows, rfl, ⟨item.data, ?_, rfl, rfl⟩, fun name hname => ?_⟩)
          (.inl ⟨hraises, hknown, hfree⟩)
        · show spool.read? cfg.spoolPath (filePath cfg.spoolPath (snapshotName eventId)) = _
          rw [Spool.read?_filePath, hget, if_pos rfl]
        · rw [hget, if_neg]
          exact fun h => hname (h ▸ rfl)
      · have hafter : processSnapshot cfg calls s item = { s with spool } := by
          simp only [processSnapshot, hadmits, hpair]
          split
          · rfl
          · rename_i hraises
            rw [createCaptured_of_not_free fun h => hinsert ⟨by simpa using hraises, h⟩, Option.getD_none]
        rw [hafter, atomic_of_spool_iff, or_iff_right hinsert]
        constructor
        · intro hsame
          rw [← hsame, hget, if_pos rfl]
        · intro hbytes name
          rw [hget]
          split
          · rename_i hname
            rw [hname, hbytes]
          · rfl

/-! ## Runs of the Agent -/

/-- What changes the table or the spool. -/
inductive SpoolAction where
  /-- A detection is persisted. -/
  | detect (event : DetectionEvent) (createdAt : Instant)
  /-- A call of `_process_snapshot`; a crash in the middle of it is one whose next call fails. -/
  | process (item : SnapshotQueueItem) (calls : CaptureCalls)
  | associate (eventId : Uuid) (alertId : String)
  | recordFailure (eventId : Uuid) (attemptAt : Instant) (errorCategory : String)
  | markUploaded (eventId : Uuid) (uploadedAt : Instant)
  | cancelForQuota (eventId : Uuid)
  /-- The upload worker or the quota sink removes the file of a row that is no longer pending. -/
  | removeFile (eventId : Uuid)
  /-- The ingest handler starts. -/
  | reconcile (faults : ReconcileFaults)

instance (cfg : CaptureConfig) (calls : CaptureCalls) (s : SpoolState) (item : SnapshotQueueItem) :
    Decidable (FreshToken cfg calls s item) :=
  decidable_of_iff ((admits cfg s.spool item).all fun eventId =>
      (s.spool.get? (tempName eventId calls.token)).isNone) (by
    simp [FreshToken, Option.all_eq_true])

/-- One step. -/
def spoolStep (cfg : CaptureConfig) (s : SpoolState) : SpoolAction → Option SpoolState
  | .detect event createdAt =>
    match insert s.db.detectionEvents event createdAt with
    | .ok detectionEvents => some { s with db := { s.db with detectionEvents } }
    | .error _ => none
  | .process item calls => if FreshToken cfg calls s item then some (processSnapshot cfg calls s item) else none
  | .associate eventId alertId =>
    some { s with db := { s.db with snapshots := (associateAlertId s.db.snapshots eventId alertId).1 } }
  | .recordFailure eventId attemptAt errorCategory =>
    some { s with db := { s.db with
      snapshots := recordAttemptFailure s.db.snapshots eventId attemptAt errorCategory } }
  | .markUploaded eventId uploadedAt =>
    some { s with db := { s.db with snapshots := Persistence.markUploaded s.db.snapshots eventId uploadedAt } }
  | .cancelForQuota eventId =>
    some { s with db := { s.db with snapshots := Persistence.cancelForQuota s.db.snapshots eventId } }
  | .removeFile eventId =>
    match s.db.snapshots.find? eventId with
    | none => none
    | some row =>
      if row.uploadStatus = .pending then none
      else some { s with spool := s.spool.unlink cfg.spoolPath row.localPath }
  | .reconcile faults =>
    let (db, spool) := reconcileSnapshotSpool cfg faults s.db s.spool
    some { db, spool }

/-- The Agent's captures, from an empty database and an empty spool. -/
def captureSystem (cfg : CaptureConfig) : TransitionSystem SpoolState SpoolAction where
  init := fun s => s = ⟨⟨.empty, .empty⟩, .empty⟩
  step := spoolStep cfg

/-- Every captured row that is still to be uploaded has its file. -/
def FilesMatch (cfg : CaptureConfig) (s : SpoolState) : Prop :=
  ∀ row ∈ s.db.snapshots, row.captureStatus = .captured → row.uploadStatus = .pending →
    HasFile cfg s.spool row

/-- A capture has nothing to restore. -/
def StepsAtomically (cfg : CaptureConfig) (s : SpoolState) : SpoolAction → Prop
  | .process item calls => NothingToRestore cfg calls s item
  | _ => True

section Runs

variable {cfg : CaptureConfig} {s s' : SpoolState}

/-- The file of a placed row is looked up under the name of its event. -/
theorem hasFile_congr {spool spool' : Spool} {row : SnapshotOutboxRecord}
    (hplaced : row.localPath = snapshotPath cfg.spoolPath row.eventId)
    (h : spool'.get? (snapshotName row.eventId) = spool.get? (snapshotName row.eventId)) :
    HasFile cfg spool' row ↔ HasFile cfg spool row := by
  unfold HasFile
  rw [hplaced, snapshotPath, Spool.read?_filePath, Spool.read?_filePath, h]

/-- Changing other columns of the rows, or ending an upload. -/
theorem FilesMatch.of_rows (h : FilesMatch cfg s) {snapshots : SnapshotOutboxTable}
    {f : SnapshotOutboxRecord → SnapshotOutboxRecord} (hrows : snapshots.rows = s.db.snapshots.rows.map f)
    (hf : ∀ r, (f r).captureStatus = .captured → (f r).uploadStatus = .pending →
      r.captureStatus = .captured ∧ r.uploadStatus = .pending)
    (hcolumns : ∀ r, (f r).localPath = r.localPath ∧ (f r).sha256 = r.sha256 ∧ (f r).sizeBytes = r.sizeBytes) :
    FilesMatch cfg { s with db := { s.db with snapshots } } := by
  intro row hrow hcaptured hpending
  rw [← KeyedTable.mem_rows, hrows] at hrow
  obtain ⟨r, hr, rfl⟩ := List.mem_map.mp hrow
  obtain ⟨hcaptured, hpending⟩ := hf r hcaptured hpending
  obtain ⟨hpath, hsha, hsize⟩ := hcolumns r
  obtain ⟨content, hread, hmatches⟩ := h r hr hcaptured hpending
  refine ⟨content, ?_, ?_⟩
  · rw [hpath]
    exact hread
  · rw [hsha, hsize]
    exact hmatches

theorem placed_processSnapshot (h : Placed cfg s.db.snapshots) (calls : CaptureCalls)
    (item : SnapshotQueueItem) : Placed cfg (processSnapshot cfg calls s item).db.snapshots := by
  unfold processSnapshot
  split
  · exact h
  · split
    · exact h
    · split
      · exact h
      · exact h.createCaptured rfl calls.now

/-- An atomic capture keeps the files of the other rows. -/
theorem filesMatch_of_atomic (h : FilesMatch cfg s) (hplaced : Placed cfg s.db.snapshots)
    (hplaced' : Placed cfg s'.db.snapshots) (hatomic : CreatesRow cfg s s' ∨ Unchanged s s') :
    FilesMatch cfg s' := by
  rcases hatomic with ⟨new, hrows, -, hfile, hothers⟩ | ⟨hsnapshots, hsame⟩
  · intro row hrow hcaptured hpending
    have hmem := hrow
    rw [← KeyedTable.mem_rows, hrows, List.mem_append, List.mem_singleton] at hmem
    rcases hmem with hold | rfl
    · refine (hasFile_congr (hplaced row hold) (hothers _ fun hpath => ?_)).mpr (h row hold hcaptured hpending)
      -- the new row's event had none before
      have hnew : new ∈ s'.db.snapshots := by
        rw [← KeyedTable.mem_rows, hrows]
        exact List.mem_append_right _ List.mem_cons_self
      rw [hplaced' new hnew] at hpath
      have hid : row.eventId = new.eventId := snapshotName_injective (filePath_inj hpath)
      have hnodup := s'.db.snapshots.nodup
      rw [hrows, List.map_append, List.nodup_append] at hnodup
      exact hnodup.2.2 _ (List.mem_map_of_mem hold) _ List.mem_cons_self hid
    · exact hfile
  · intro row hrow hcaptured hpending
    rw [hsnapshots] at hrow
    exact (hasFile_congr (hplaced row hrow) (hsame _)).mpr (h row hrow hcaptured hpending)

/-- The file of a finished row is no other row's. -/
theorem filesMatch_removeFile (h : FilesMatch cfg s) (hplaced : Placed cfg s.db.snapshots)
    {gone : SnapshotOutboxRecord} (hgone : gone ∈ s.db.snapshots) (hover : gone.uploadStatus ≠ .pending) :
    FilesMatch cfg { s with spool := s.spool.unlink cfg.spoolPath gone.localPath } := by
  intro row hrow hcaptured hpending
  refine (hasFile_congr (hplaced row hrow) (OrderedDict.get?_filter_of_key fun content => ?_)).mpr
    (h row hrow hcaptured hpending)
  rw [decide_eq_true_eq, hplaced gone hgone]
  intro hpath
  have hid : row.eventId = gone.eventId := snapshotName_injective (filePath_inj hpath)
  rw [KeyedTable.eq_of_key_eq hrow hgone hid] at hpending
  exact hover hpending

theorem filesMatch_reconcile (h : FilesMatch cfg s) (hplaced : Placed cfg s.db.snapshots)
    (faults : ReconcileFaults) :
    FilesMatch cfg ⟨(reconcileSnapshotSpool cfg faults s.db s.spool).1,
      (reconcileSnapshotSpool cfg faults s.db s.spool).2⟩ := by
  cases hlist : faults.list with
  | true => simpa [reconcileSnapshotSpool, hlist] using h
  | false =>
    let snapshots := s.db.snapshots.update (reconciledRow cfg faults s.spool)
      (eventId_reconciledRow cfg faults s.spool)
    have hreconciled : snapshots.rows = s.db.snapshots.rows.map (reconciledRow cfg faults s.spool) := rfl
    have hrows := h.of_rows hreconciled
      (fun r => by unfold reconciledRow; split <;> simp_all)
      (fun r => by unfold reconciledRow; split <;> exact ⟨rfl, rfl, rfl⟩)
    rw [snapshots_reconcile cfg faults s.spool s.db hlist]
    intro row hrow hcaptured hpending
    obtain ⟨old, hold, heq⟩ : ∃ old ∈ s.db.snapshots, reconciledRow cfg faults s.spool old = row :=
      List.mem_map.mp hrow
    have hid : row.eventId = old.eventId := by rw [← heq, eventId_reconciledRow]
    have hpath : row.localPath = snapshotPath cfg.spoolPath row.eventId := by
      rw [hid, ← heq, localPath_reconciledRow, hplaced old hold]
    refine (hasFile_congr hpath ?_).mpr (hrows row hrow hcaptured hpending)
    simp only [reconcileSnapshotSpool, hlist, Bool.false_eq_true, if_false]
    refine OrderedDict.get?_filter_of_key fun content => ?_
    -- the file belongs to a known event
    have hknown : isOrphan (s.db.snapshots.rows.map SnapshotOutboxRecord.eventId)
        (snapshotName row.eventId) = false := by
      rw [Bool.eq_false_iff, Ne, isOrphan_iff, not_and]
      intro _ hnot
      exact hnot old.eventId (List.mem_map_of_mem hold) (by rw [hid])
    rw [hknown]
    rfl

/-- The step lemma. -/
theorem filesMatch_step {a : SpoolAction} (hplaced : Placed cfg s.db.snapshots) (h : FilesMatch cfg s)
    (hatomic : StepsAtomically cfg s a) (hs : spoolStep cfg s a = some s') :
    Placed cfg s'.db.snapshots ∧ FilesMatch cfg s' := by
  cases a with
  | detect event createdAt =>
    simp only [spoolStep] at hs
    split at hs <;> cases hs
    exact ⟨hplaced, h⟩
  | process item calls =>
    simp only [spoolStep] at hs
    split at hs
    · rename_i hfresh
      cases hs
      have hplaced' := placed_processSnapshot hplaced calls item
      exact ⟨hplaced', filesMatch_of_atomic h hplaced hplaced'
        ((capturesAtomically_iff cfg calls s item hfresh).mpr hatomic)⟩
    · cases hs
  | associate eventId alertId =>
    cases hs
    refine ⟨hplaced.associate eventId alertId, ?_⟩
    unfold associateAlertId
    split
    · exact h
    · split
      · split <;> exact h
      · exact h.of_rows rfl (fun r => by split <;> exact And.intro) fun r => by split <;> exact ⟨rfl, rfl, rfl⟩
  | recordFailure eventId attemptAt errorCategory =>
    cases hs
    exact ⟨hplaced.of_rows rfl fun r => by split <;> exact ⟨rfl, rfl⟩,
      h.of_rows rfl (fun r => by split <;> exact And.intro) fun r => by split <;> exact ⟨rfl, rfl, rfl⟩⟩
  | markUploaded eventId uploadedAt =>
    cases hs
    exact ⟨hplaced.of_rows rfl fun r => by split <;> exact ⟨rfl, rfl⟩,
      h.of_rows rfl (fun r => by split <;> simp_all) fun r => by split <;> exact ⟨rfl, rfl, rfl⟩⟩
  | cancelForQuota eventId =>
    cases hs
    exact ⟨hplaced.of_rows rfl fun r => by split <;> exact ⟨rfl, rfl⟩,
      h.of_rows rfl (fun r => by split <;> simp_all) fun r => by split <;> exact ⟨rfl, rfl, rfl⟩⟩
  | removeFile eventId =>
    simp only [spoolStep] at hs
    split at hs
    · cases hs
    · rename_i row hrow
      split at hs
      · cases hs
      · rename_i hover
        cases hs
        exact ⟨hplaced, filesMatch_removeFile h hplaced (KeyedTable.find?_eq_some_iff.mp hrow).1 hover⟩
  | reconcile faults =>
    cases hs
    exact ⟨hplaced.reconcile faults s.spool, filesMatch_reconcile h hplaced faults⟩

/-- The run lemma. -/
theorem filesMatch_of_reachable (h : (captureSystem cfg).ReachableUnder (StepsAtomically cfg) s) :
    FilesMatch cfg s := by
  have hboth : Placed cfg s.db.snapshots ∧ FilesMatch cfg s := by
    let Inv := fun s : SpoolState => Placed cfg s.db.snapshots ∧ FilesMatch cfg s
    show Inv s
    refine h.invariant_of_guard ?_ ?_
    · rintro s rfl
      exact ⟨fun row hrow => absurd hrow List.not_mem_nil, fun row hrow => absurd hrow List.not_mem_nil⟩
    · intro s a s' hinv hguard hs
      exact filesMatch_step hinv.1 hinv.2 hguard hs
  exact hboth.2

end Runs

/-- **A capture is atomic if and only if it has nothing to restore; and where every capture of a run has
nothing to restore, every captured row that is still to be uploaded has its file.** -/
theorem capture_atomic_iff (cfg : CaptureConfig) :
    (∀ calls s item, FreshToken cfg calls s item →
        (CapturesAtomically cfg calls s item ↔ NothingToRestore cfg calls s item)) ∧
      ∀ s, (captureSystem cfg).ReachableUnder (StepsAtomically cfg) s → FilesMatch cfg s :=
  ⟨capturesAtomically_iff cfg, fun _ h => filesMatch_of_reachable h⟩

/-- The digests of the two images below. -/
def twoImages : CaptureConfig :=
  { smallSpool with
    computeSha256 := fun data =>
      if data = onePixel then "b49726fc93e61e58cf9af0eb1c0ecb9959428c399750640aba717fc40ef28180"
      else "a2fc8172b597e8609ce14de952e45d2dda77cc19a7ed1e642f9ca90d5c0ee26c" }

/-- The same pixel with one more byte behind it, for event 1 again. -/
def secondSnapshot : SnapshotQueueItem := ⟨"00000000-0000-0000-0000-000000000001", onePixel ++ [0x00]⟩

/-- No call fails. -/
def noFailure (token : String) : CaptureCalls :=
  { token, write := .written, insertRaises := false, now := 7 }

/-- Event 1 is in the database. -/
def oneEvent : SpoolState := ⟨⟨⟨[newRow (Sync.sampleEvent 1) 0], Sync.nodup_samplePending⟩, .empty⟩, .empty⟩

instance (cfg : CaptureConfig) (spool : Spool) (row : SnapshotOutboxRecord) : Decidable (HasFile cfg spool row) :=
  decidable_of_iff ((spool.read? cfg.spoolPath row.localPath).any fun content =>
      decide (cfg.computeSha256 content = row.sha256 ∧ content.length = row.sizeBytes)) (by
    simp [HasFile, Option.any_eq_true])

instance (cfg : CaptureConfig) (s : SpoolState) : Decidable (FilesMatch cfg s) :=
  inferInstanceAs (Decidable (∀ row ∈ s.db.snapshots.rows, _))

/-- The first snapshot of event 1 is captured. -/
theorem capture_atomic_oneEvent :
    CapturesAtomically twoImages (noFailure "a") oneEvent firstSnapshot ∧
      ∃ s, (captureSystem twoImages).Reachable s ∧ s.db.snapshots.rows.length = 1 ∧ FilesMatch twoImages s := by
  obtain ⟨hcalls, hruns⟩ := capture_atomic_iff twoImages
  have hadmits : ∀ s : SpoolState, s.spool = .empty → admits twoImages s.spool firstSnapshot = some 1 := fun s hs => by
    rw [hs]
    decide +kernel
  have hnothing : ∀ s : SpoolState, s.spool = .empty → InsertSucceeds (noFailure "a") s.db 1 →
      NothingToRestore twoImages (noFailure "a") s firstSnapshot := by
    intro s hs hinsert eventId hmem
    rw [hadmits s hs, Option.mem_some_iff] at hmem
    exact .inl (hmem ▸ hinsert)
  constructor
  · refine (hcalls (noFailure "a") oneEvent firstSnapshot fun _ _ => rfl).mpr (hnothing _ rfl ?_)
    exact ⟨rfl, by decide +kernel, by decide +kernel⟩
  · let actions : List SpoolAction := [.detect (Sync.sampleEvent 1) 0, .process firstSnapshot (noFailure "a")]
    have hend : ((captureSystem twoImages).exec ⟨⟨.empty, .empty⟩, .empty⟩ actions).map
        (fun s => s.db.snapshots.rows.length) = some 1 := by decide +kernel
    obtain ⟨s, hrun, hlength⟩ := Option.map_eq_some_iff.mp hend
    have hmeets : (captureSystem twoImages).Meets (StepsAtomically twoImages)
        ⟨⟨.empty, .empty⟩, .empty⟩ actions := by
      refine ⟨trivial, fun s' hs' => ⟨?_, fun _ _ => trivial⟩⟩
      cases hs'
      exact hnothing _ rfl ⟨rfl, by decide +kernel, by decide +kernel⟩
    exact ⟨s, .exec (.init rfl) hrun, hlength, hruns s (.exec (.init rfl) hmeets hrun)⟩

/-- A second snapshot of event 1 replaces the file of the first, whose row stays. -/
theorem second_snapshot_overwrites :
    ∃ s, (captureSystem twoImages).Reachable s ∧ FreshToken twoImages (noFailure "b") s secondSnapshot ∧
      ¬ CapturesAtomically twoImages (noFailure "b") s secondSnapshot ∧
      ¬ FilesMatch twoImages (processSnapshot twoImages (noFailure "b") s secondSnapshot) := by
  let actions : List SpoolAction := [.detect (Sync.sampleEvent 1) 0, .process firstSnapshot (noFailure "a")]
  have hend : ((captureSystem twoImages).exec ⟨⟨.empty, .empty⟩, .empty⟩ actions).map
      (fun s => (admits twoImages s.spool secondSnapshot, (s.db.snapshots.find? 1).isSome,
        s.spool.get? (snapshotName 1), decide (FreshToken twoImages (noFailure "b") s secondSnapshot),
        decide (FilesMatch twoImages (processSnapshot twoImages (noFailure "b") s secondSnapshot)))) =
      some (some 1, true, some onePixel, true, false) := by decide +kernel
  obtain ⟨s, hrun, hpair⟩ := Option.map_eq_some_iff.mp hend
  simp only [Prod.mk.injEq, decide_eq_true_eq, decide_eq_false_iff_not] at hpair
  obtain ⟨hadmits, hrow, hfile, hfresh, hmatch⟩ := hpair
  refine ⟨s, .exec (.init rfl) hrun, hfresh, ?_, hmatch⟩
  rw [capturesAtomically_iff twoImages (noFailure "b") s secondSnapshot hfresh]
  intro hnothing
  rcases hnothing 1 hadmits with ⟨-, -, hfree⟩ | hbytes
  · rw [hfree] at hrow
    cases hrow
  · rw [hfile] at hbytes
    cases hbytes

end WeaponDetection.Agent.Snapshots
