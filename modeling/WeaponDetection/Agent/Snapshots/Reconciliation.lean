import WeaponDetection.Agent.Snapshots.QuotaSuppression

/-!
# Reconciliation of the spool at startup

Models `reconcile_snapshot_spool`, and around it every step of the Agent that writes the
`SnapshotOutbox` table or the spool: captures, alert associations, quota cancellations and uploads,
each cut into the steps between which the process can die.

A file is missing from a finished row by design: the upload worker and the quota sink remove it once
the row says so.  `reconcile_snapshot_spool` asks for the capture status only, so it reports these
captures as failed at the next start (`reconciliation_exact_iff`).
-/

namespace WeaponDetection.Agent.Snapshots

open WeaponDetection.Foundations (KeyedTable OrderedDict TransitionSystem)
open WeaponDetection.Foundations.Python (Uuid uuidText)
open WeaponDetection.Agent.Detection (DetectionEvent Instant)
open WeaponDetection.Agent.Persistence

/-! ## The function -/

/-- The calls that raise during a reconciliation. -/
structure ReconcileFaults where
  list : Bool
  get : Uuid → Bool
  mark : Uuid → Bool
  unlink : String → Bool

/-- No call raises. -/
def ReconcileFaults.none : ReconcileFaults := ⟨false, fun _ => false, fun _ => false, fun _ => false⟩

/-- The body of the first loop. -/
def reconcileRow (cfg : CaptureConfig) (faults : ReconcileFaults) (spool : Spool)
    (snapshots : SnapshotOutboxTable) (eventId : Uuid) : SnapshotOutboxTable :=
  if faults.get eventId then snapshots
  else
    match snapshots.find? eventId with
    | .none => snapshots
    | some record =>
      if record.captureStatus ≠ .captured then snapshots
      else if spool.isFile cfg.spoolPath record.localPath then snapshots
      else if faults.mark eventId then snapshots
      else markCaptureFailed snapshots eventId

/-- The second loop removes a file: it is a `.jpg` whose stem is no known identifier. -/
def isOrphan (knownIds : List Uuid) (name : String) : Bool :=
  isJpg name && !(knownIds.map uuidText).contains (stem name)

/-- `reconcile_snapshot_spool`. -/
def reconcileSnapshotSpool (cfg : CaptureConfig) (faults : ReconcileFaults) (db : Database)
    (spool : Spool) : Database × Spool :=
  if faults.list then (db, spool)
  else
    let knownIds := db.snapshots.rows.map SnapshotOutboxRecord.eventId
    ({ db with snapshots := knownIds.foldl (reconcileRow cfg faults spool) db.snapshots },
      spool.filter fun file => !isOrphan knownIds file.1 || faults.unlink file.1)

/-! ## What it does to a row -/

/-- The row after the first loop. -/
def reconciledRow (cfg : CaptureConfig) (faults : ReconcileFaults) (spool : Spool)
    (row : SnapshotOutboxRecord) : SnapshotOutboxRecord :=
  if row.captureStatus = .captured ∧ spool.isFile cfg.spoolPath row.localPath = false ∧
      faults.get row.eventId = false ∧ faults.mark row.eventId = false then
    { row with captureStatus := .captureFailed }
  else row

section Reconcile

variable (cfg : CaptureConfig) (faults : ReconcileFaults) (spool : Spool)

@[simp] theorem eventId_reconciledRow (row : SnapshotOutboxRecord) :
    (reconciledRow cfg faults spool row).eventId = row.eventId := by
  unfold reconciledRow
  split <;> rfl

@[simp] theorem localPath_reconciledRow (row : SnapshotOutboxRecord) :
    (reconciledRow cfg faults spool row).localPath = row.localPath := by
  unfold reconciledRow
  split <;> rfl

/-- The row depends on the spool through its own file only. -/
theorem reconciledRow_congr {spool' : Spool} {row : SnapshotOutboxRecord}
    (h : spool'.isFile cfg.spoolPath row.localPath = spool.isFile cfg.spoolPath row.localPath) :
    reconciledRow cfg faults spool' row = reconciledRow cfg faults spool row := by
  simp only [reconciledRow, h]

@[simp] theorem reconciledRow_idem (row : SnapshotOutboxRecord) :
    reconciledRow cfg faults spool (reconciledRow cfg faults spool row) =
      reconciledRow cfg faults spool row := by
  by_cases h : row.captureStatus = .captured ∧ spool.isFile cfg.spoolPath row.localPath = false ∧
      faults.get row.eventId = false ∧ faults.mark row.eventId = false
  · simp [reconciledRow, h]
  · simp [reconciledRow, h]

/-- An update that changes no row of the table. -/
theorem update_eq_self {snapshots : SnapshotOutboxTable}
    {f : SnapshotOutboxRecord → SnapshotOutboxRecord} {hf : ∀ r, (f r).eventId = r.eventId}
    (h : ∀ row ∈ snapshots, f row = row) : snapshots.update f hf = snapshots := by
  apply KeyedTable.ext_rows
  rw [KeyedTable.rows_update]
  conv_rhs => rw [← List.map_id snapshots.rows]
  exact List.map_congr_left h

/-- One pass of the first loop changes the row it is about. -/
theorem reconcileRow_eq (snapshots : SnapshotOutboxTable) (id : Uuid) :
    reconcileRow cfg faults spool snapshots id =
      snapshots.update
        (fun row => if row.eventId = id then reconciledRow cfg faults spool row else row)
        (fun row => by split <;> simp) := by
  have hkeep : (∀ row ∈ snapshots, row.eventId = id → reconciledRow cfg faults spool row = row) →
      snapshots = snapshots.update
        (fun row => if row.eventId = id then reconciledRow cfg faults spool row else row)
        (fun row => by split <;> simp) := by
    intro hsame
    refine (update_eq_self fun row hrow => ?_).symm
    by_cases hid : row.eventId = id
    · rw [if_pos hid, hsame row hrow hid]
    · rw [if_neg hid]
  unfold reconcileRow
  split
  · rename_i hget
    exact hkeep fun row _ hid => by simp [reconciledRow, hid, hget]
  · rename_i hget
    split
    · rename_i hnone
      exact hkeep fun row hrow hid => absurd hid (KeyedTable.find?_eq_none_iff.mp hnone row hrow)
    · rename_i record hfind
      -- the row the pass looks at is the only one under `id`
      have hsame : ∀ row ∈ snapshots, row.eventId = id → row = record := by
        intro row hrow hid
        obtain ⟨hrecord, hkey⟩ := KeyedTable.find?_eq_some_iff.mp hfind
        exact KeyedTable.eq_of_key_eq hrow hrecord (hid.trans hkey.symm)
      split
      · rename_i hstatus
        exact hkeep fun row hrow hid => by
          rw [hsame row hrow hid, reconciledRow, if_neg fun h => hstatus h.1]
      · split
        · rename_i hfile
          exact hkeep fun row hrow hid => by
            rw [hsame row hrow hid, reconciledRow, if_neg fun h => by rw [hfile] at h; cases h.2.1]
        · split
          · rename_i hmark
            exact hkeep fun row hrow hid => by simp [reconciledRow, hid, hmark]
          · rename_i hstatus hfile hmark
            simp only [ne_eq, Bool.not_eq_true, not_not] at hstatus hfile hmark hget
            apply KeyedTable.ext_rows
            rw [markCaptureFailed, KeyedTable.rows_update, KeyedTable.rows_update]
            refine List.map_congr_left fun row hrow => ?_
            by_cases hid : row.eventId = id
            · have hrecord := hsame row hrow hid
              subst hrecord
              simp [hid, reconciledRow, hstatus, hfile, hget, hmark]
            · simp [hid]

/-- The first loop settles every row whose identifier it comes to. -/
theorem foldl_reconcileRow_eq (ids : List Uuid) (snapshots : SnapshotOutboxTable) :
    ids.foldl (reconcileRow cfg faults spool) snapshots =
      snapshots.update
        (fun row => if row.eventId ∈ ids then reconciledRow cfg faults spool row else row)
        (fun row => by split <;> simp) := by
  induction ids generalizing snapshots with
  | nil => exact (update_eq_self fun row _ => by simp).symm
  | cons id ids ih =>
    rw [List.foldl_cons, ih, reconcileRow_eq]
    apply KeyedTable.ext_rows
    simp only [KeyedTable.rows_update, List.map_map]
    refine List.map_congr_left fun row _ => ?_
    by_cases hid : row.eventId = id
    · by_cases hrest : id ∈ ids <;> simp [hid, hrest]
    · by_cases hrest : row.eventId ∈ ids <;> simp [hid, hrest]

/-- Every row is settled. -/
theorem snapshots_reconcile (db : Database) (h : faults.list = false) :
    (reconcileSnapshotSpool cfg faults db spool).1 =
      { db with snapshots :=
          db.snapshots.update (reconciledRow cfg faults spool) (eventId_reconciledRow cfg faults spool) } := by
  simp only [reconcileSnapshotSpool, h, Bool.false_eq_true, if_false, foldl_reconcileRow_eq]
  congr 1
  apply KeyedTable.ext_rows
  simp only [KeyedTable.rows_update]
  refine List.map_congr_left fun row hrow => ?_
  rw [if_pos (List.mem_map.mpr ⟨row, hrow, rfl⟩)]

end Reconcile

/-! ## The Agent around it -/

/-- The content `_local_file_hash_and_size` reads. -/
def Spool.read? (spool : Spool) (spoolPath localPath : String) : Option Bytes :=
  (spool.entries.find? fun file => decide (filePath spoolPath file.1 = localPath)).map Prod.snd

/-- An operation between two of its steps. -/
inductive SnapshotTask where
  /-- `write_snapshot_atomic` before `os.replace`. -/
  | rename (tempName : String) (eventId : Uuid) (data : Bytes)
  /-- `_process_snapshot` before `create_captured`. -/
  | insert (file : CapturedFile)
  /-- The quota sink before `cancel_for_quota`. -/
  | cancel (eventId : Uuid) (record : Option SnapshotOutboxRecord)
  /-- The quota sink or the upload worker before it removes the file. -/
  | unlink (localPath : String)
  /-- `_upload_one` before it reads the file. -/
  | hash (record : SnapshotOutboxRecord)
  /-- `_upload_one` while it awaits the Backend. -/
  | upload (record : SnapshotOutboxRecord)

/-- The database, the spool and the operations under way. -/
structure SnapshotState where
  db : Database
  spool : Spool
  tasks : List SnapshotTask

/-- How the next call of an operation ends. -/
structure TaskOutcome where
  succeeds : Bool
  now : Instant
  errorCategory : String

/-- What can happen next. -/
inductive SnapshotAction where
  /-- A detection is persisted. -/
  | detect (event : DetectionEvent) (createdAt : Instant)
  /-- `_process_snapshot` up to the temporary file; `token` is its random part. -/
  | capture (item : SnapshotQueueItem) (token : String)
  | associate (eventId : Uuid) (alertId : String)
  /-- The quota sink reads the record. -/
  | readForCancel (eventId : Uuid)
  /-- `_drain_once` of the upload worker lists its batch. -/
  | listUploads (limit : ℕ)
  /-- An operation makes its next call. -/
  | advance (task : ℕ) (outcome : TaskOutcome)
  /-- An operation ends early: its worker is stopped, or gives up the rest of a batch. -/
  | abandon (task : ℕ)
  /-- The process dies. -/
  | crash
  /-- The ingest handler starts. -/
  | reconcile (faults : ReconcileFaults)

/-- The next call of an operation: the state after it, and what is left to do. -/
def runTask (cfg : CaptureConfig) (s : SnapshotState) (outcome : TaskOutcome) :
    SnapshotTask → SnapshotState × Option SnapshotTask
  | .rename tempName eventId data =>
    if outcome.succeeds then
      ({ s with spool := s.spool.replace tempName (snapshotName eventId) },
        some (.insert (capturedFile cfg eventId data)))
    else ({ s with spool := s.spool.pop tempName }, none)
  | .insert file =>
    if outcome.succeeds then
      ({ s with db := (createCaptured s.db file outcome.now).getD s.db }, none)
    else (s, none)
  | .cancel eventId record =>
    if outcome.succeeds then
      ({ s with db := { s.db with snapshots := cancelForQuota s.db.snapshots eventId } },
        if cancelUpdates s.db.snapshots eventId then
          record.map fun record => .unlink record.localPath
        else none)
    else (s, none)
  | .unlink localPath =>
    if outcome.succeeds then
      ({ s with spool := s.spool.unlink cfg.spoolPath localPath }, none)
    else (s, none)
  | .hash record =>
    match s.spool.read? cfg.spoolPath record.localPath with
    | some content =>
      if cfg.computeSha256 content = record.sha256 ∧ content.length = record.sizeBytes then
        (s, some (.upload record))
      else ({ s with db := { s.db with
        snapshots := recordAttemptFailure s.db.snapshots record.eventId outcome.now
          "local_file_modified" } }, none)
    | none => ({ s with db := { s.db with
        snapshots := recordAttemptFailure s.db.snapshots record.eventId outcome.now
          "local_file_missing" } }, none)
  | .upload record =>
    if outcome.succeeds then
      ({ s with db := { s.db with
        snapshots := markUploaded s.db.snapshots record.eventId outcome.now } },
        some (.unlink record.localPath))
    else ({ s with db := { s.db with
        snapshots := recordAttemptFailure s.db.snapshots record.eventId outcome.now
          outcome.errorCategory } }, none)

/-- One step. -/
def snapshotStep (cfg : CaptureConfig) (s : SnapshotState) : SnapshotAction → Option SnapshotState
  | .detect event createdAt =>
    match insert s.db.detectionEvents event createdAt with
    | .ok detectionEvents => some { s with db := { s.db with detectionEvents } }
    | .error _ => none
  | .capture item token =>
    match admits cfg s.spool item with
    | none => none
    | some eventId =>
      let tempName := "." ++ uuidText eventId ++ "." ++ token ++ ".tmp"
      some { s with
        spool := s.spool.set tempName item.data
        tasks := s.tasks ++ [.rename tempName eventId item.data] }
  | .associate eventId alertId =>
    some { s with
      db := { s.db with snapshots := (associateAlertId s.db.snapshots eventId alertId).1 } }
  | .readForCancel eventId =>
    some { s with tasks := s.tasks ++ [.cancel eventId (s.db.snapshots.find? eventId)] }
  | .listUploads limit =>
    some { s with tasks := s.tasks ++ (listUploadReady s.db.snapshots limit).map .hash }
  | .advance task outcome =>
    match s.tasks[task]? with
    | none => none
    | some t =>
      let (s', next) := runTask cfg s outcome t
      some { s' with tasks := s.tasks.eraseIdx task ++ next.toList }
  | .abandon task => some { s with tasks := s.tasks.eraseIdx task }
  | .crash => some { s with tasks := [] }
  | .reconcile faults =>
    let (db, spool) := reconcileSnapshotSpool cfg faults s.db s.spool
    some { s with db, spool }

/-- A freshly installed Agent. -/
def SnapshotState.fresh : SnapshotState :=
  { db := ⟨.empty, .empty⟩, spool := .empty, tasks := [] }

/-- The Agent's snapshot side as a transition system. -/
def snapshotSystem (cfg : CaptureConfig) : TransitionSystem SnapshotState SnapshotAction where
  init := fun s => s = .fresh
  step := snapshotStep cfg

/-! ## Every row names the file of its event -/

/-- The rows' local paths are those of their events. -/
def Placed (cfg : CaptureConfig) (snapshots : SnapshotOutboxTable) : Prop :=
  ∀ row ∈ snapshots, row.localPath = snapshotPath cfg.spoolPath row.eventId

/-- Changing columns other than the path keeps the rows placed. -/
theorem Placed.of_rows {cfg : CaptureConfig} {snapshots snapshots' : SnapshotOutboxTable}
    (h : Placed cfg snapshots) {f : SnapshotOutboxRecord → SnapshotOutboxRecord}
    (hrows : snapshots'.rows = snapshots.rows.map f)
    (hf : ∀ r, (f r).eventId = r.eventId ∧ (f r).localPath = r.localPath) :
    Placed cfg snapshots' := by
  intro row hrow
  rw [← KeyedTable.mem_rows, hrows] at hrow
  obtain ⟨r, hr, rfl⟩ := List.mem_map.mp hrow
  rw [(hf r).1, (hf r).2, h r hr]

theorem Placed.associate {cfg : CaptureConfig} {snapshots : SnapshotOutboxTable}
    (h : Placed cfg snapshots) (eventId : Uuid) (alertId : String) :
    Placed cfg (associateAlertId snapshots eventId alertId).1 := by
  unfold associateAlertId
  split
  · exact h
  · split
    · split <;> exact h
    · exact h.of_rows rfl fun r => by split <;> exact ⟨rfl, rfl⟩

theorem Placed.createCaptured {cfg : CaptureConfig} {db : Database} (h : Placed cfg db.snapshots)
    {file : CapturedFile} (hfile : file.localPath = snapshotPath cfg.spoolPath file.eventId)
    (capturedAt : Instant) :
    Placed cfg ((createCaptured db file capturedAt).getD db).snapshots := by
  unfold Persistence.createCaptured
  split
  · exact h
  · cases hinsert : db.snapshots.insert (file.row capturedAt) with
    | none => exact h
    | some snapshots =>
      intro row hrow
      rcases (KeyedTable.mem_of_insert hinsert).mp hrow with hold | rfl
      · exact h row hold
      · exact hfile

theorem Placed.reconcile {cfg : CaptureConfig} {db : Database} (h : Placed cfg db.snapshots)
    (faults : ReconcileFaults) (spool : Spool) :
    Placed cfg (reconcileSnapshotSpool cfg faults db spool).1.snapshots := by
  cases hlist : faults.list with
  | true => simpa [reconcileSnapshotSpool, hlist] using h
  | false =>
    rw [snapshots_reconcile cfg faults spool db hlist]
    exact h.of_rows rfl fun row => by simp

/-- The rows, and those about to be inserted. -/
structure SnapshotInv (cfg : CaptureConfig) (s : SnapshotState) : Prop where
  placed : Placed cfg s.db.snapshots
  tasks : ∀ file, .insert file ∈ s.tasks → file.localPath = snapshotPath cfg.spoolPath file.eventId

/-- The next call of an operation. -/
theorem placed_runTask {cfg : CaptureConfig} {s : SnapshotState} (h : Placed cfg s.db.snapshots)
    (outcome : TaskOutcome) {task : SnapshotTask}
    (htask : ∀ file, task = .insert file →
      file.localPath = snapshotPath cfg.spoolPath file.eventId) :
    Placed cfg (runTask cfg s outcome task).1.db.snapshots ∧
      ∀ file, (runTask cfg s outcome task).2 = some (.insert file) →
        file.localPath = snapshotPath cfg.spoolPath file.eventId := by
  have hfailure : ∀ eventId category, Placed cfg
      (recordAttemptFailure s.db.snapshots eventId outcome.now category) :=
    fun eventId category => h.of_rows rfl fun r => by split <;> exact ⟨rfl, rfl⟩
  cases task with
  | rename tempName eventId data =>
    simp only [runTask]
    split
    · refine ⟨h, fun file hnext => ?_⟩
      cases hnext
      rfl
    · exact ⟨h, fun file hnext => by cases hnext⟩
  | insert file =>
    simp only [runTask]
    split
    · exact ⟨h.createCaptured (htask file rfl) outcome.now, fun file hnext => by cases hnext⟩
    · exact ⟨h, fun file hnext => by cases hnext⟩
  | cancel eventId record =>
    simp only [runTask]
    split
    · refine ⟨h.of_rows rfl fun r => (by split <;> exact ⟨rfl, rfl⟩), fun file hnext => ?_⟩
      split at hnext
      · obtain ⟨record, -, hunlink⟩ := Option.map_eq_some_iff.mp hnext
        cases hunlink
      · cases hnext
    · exact ⟨h, fun file hnext => by cases hnext⟩
  | unlink localPath =>
    simp only [runTask]
    split <;> exact ⟨h, fun file hnext => by cases hnext⟩
  | hash record =>
    simp only [runTask]
    split
    · split
      · exact ⟨h, fun file hnext => by cases hnext⟩
      · exact ⟨hfailure _ _, fun file hnext => by cases hnext⟩
    · exact ⟨hfailure _ _, fun file hnext => by cases hnext⟩
  | upload record =>
    simp only [runTask]
    split
    · exact ⟨h.of_rows rfl fun r => (by split <;> exact ⟨rfl, rfl⟩),
        fun file hnext => by cases hnext⟩
    · exact ⟨hfailure _ _, fun file hnext => by cases hnext⟩

/-- The step lemma. -/
theorem SnapshotInv.step {cfg : CaptureConfig} {s s' : SnapshotState} {a : SnapshotAction}
    (h : SnapshotInv cfg s) (hs : snapshotStep cfg s a = some s') : SnapshotInv cfg s' := by
  cases a with
  | detect event createdAt =>
    simp only [snapshotStep] at hs
    split at hs <;> cases hs
    exact ⟨h.placed, h.tasks⟩
  | capture item token =>
    simp only [snapshotStep] at hs
    split at hs <;> cases hs
    refine ⟨h.placed, fun file hmem => ?_⟩
    simp only [List.mem_append, List.mem_singleton, reduceCtorEq, or_false] at hmem
    exact h.tasks file hmem
  | associate eventId alertId =>
    cases hs
    exact ⟨h.placed.associate eventId alertId, h.tasks⟩
  | readForCancel eventId =>
    cases hs
    refine ⟨h.placed, fun file hmem => ?_⟩
    simp only [List.mem_append, List.mem_singleton, reduceCtorEq, or_false] at hmem
    exact h.tasks file hmem
  | listUploads limit =>
    cases hs
    refine ⟨h.placed, fun file hmem => ?_⟩
    rcases List.mem_append.mp hmem with hold | hnew
    · exact h.tasks file hold
    · obtain ⟨record, -, hhash⟩ := List.mem_map.mp hnew
      cases hhash
  | advance task outcome =>
    simp only [snapshotStep] at hs
    split at hs
    · cases hs
    · rename_i t ht
      cases hs
      obtain ⟨hplaced, hnext⟩ := placed_runTask h.placed outcome fun file htask =>
        h.tasks file (htask ▸ List.mem_of_getElem? ht)
      refine ⟨hplaced, fun file hmem => ?_⟩
      rcases List.mem_append.mp hmem with hold | hnew
      · exact h.tasks file (List.mem_of_mem_eraseIdx hold)
      · exact hnext file (Option.mem_toList.mp hnew)
  | abandon task =>
    cases hs
    exact ⟨h.placed, fun file hmem => h.tasks file (List.mem_of_mem_eraseIdx hmem)⟩
  | crash =>
    cases hs
    exact ⟨h.placed, fun file hmem => absurd hmem List.not_mem_nil⟩
  | reconcile faults =>
    cases hs
    exact ⟨h.placed.reconcile faults s.spool, h.tasks⟩

theorem placed_of_reachable {cfg : CaptureConfig} {s : SnapshotState}
    (h : (snapshotSystem cfg).Reachable s) : Placed cfg s.db.snapshots := by
  have hinv : SnapshotInv cfg s := by
    apply h.invariant
    · rintro s rfl
      exact ⟨fun row hrow => absurd hrow List.not_mem_nil,
        fun file hmem => absurd hmem List.not_mem_nil⟩
    · intro s a s' hinv hs
      exact hinv.step hs
  exact hinv.placed

/-! ## What a reconciliation keeps and removes -/

/-- A `.jpg` is its stem and the suffix. -/
theorem stem_append {name : String} (h : isJpg name = true) : stem name ++ ".jpg" = name := by
  obtain ⟨pre, hpre⟩ := List.isSuffixOf_iff_suffix.mp h
  apply String.toList_injective
  have hlength : name.toList.length - 4 = pre.length := by
    have hsuffix : ".jpg".toList.length = 4 := by decide
    rw [← hpre, List.length_append, hsuffix, Nat.add_sub_cancel]
  rw [String.toList_append, stem, String.toList_ofList, hlength, ← hpre, List.take_left]

theorem isJpg_snapshotName (eventId : Uuid) : isJpg (snapshotName eventId) = true := by
  rw [isJpg, List.isSuffixOf_iff_suffix, snapshotName, String.toList_append]
  exact List.suffix_append _ _

theorem stem_snapshotName (eventId : Uuid) : stem (snapshotName eventId) = uuidText eventId := by
  have happend := stem_append (isJpg_snapshotName eventId)
  have hlist := congrArg String.toList happend
  simp only [snapshotName, String.toList_append] at hlist
  exact String.toList_injective (List.append_cancel_right hlist)

/-- The second loop removes the snapshots of unknown events. -/
theorem isOrphan_iff {knownIds : List Uuid} {name : String} :
    isOrphan knownIds name = true ↔
      isJpg name = true ∧ ∀ eventId ∈ knownIds, name ≠ snapshotName eventId := by
  unfold isOrphan
  rw [Bool.and_eq_true, Bool.not_eq_true', Bool.eq_false_iff, Ne, List.contains_iff_mem,
    List.mem_map]
  refine and_congr_right fun hjpg => ?_
  constructor
  · intro hstem eventId hknown hname
    exact hstem ⟨eventId, hknown, by rw [hname, stem_snapshotName]⟩
  · intro hnot ⟨eventId, hknown, hstem⟩
    exact hnot eventId hknown (by rw [snapshotName, hstem, stem_append hjpg])

section Reconciled

variable {cfg : CaptureConfig} {db : Database} {spool : Spool}

/-- The file of a row stays. -/
theorem isFile_reconcile (h : Placed cfg db.snapshots) (faults : ReconcileFaults)
    {row : SnapshotOutboxRecord} (hrow : row ∈ db.snapshots) :
    (reconcileSnapshotSpool cfg faults db spool).2.isFile cfg.spoolPath row.localPath =
      spool.isFile cfg.spoolPath row.localPath := by
  rw [Bool.eq_iff_iff, Spool.isFile_iff, Spool.isFile_iff]
  cases hlist : faults.list with
  | true => simp [reconcileSnapshotSpool, hlist]
  | false =>
    simp only [reconcileSnapshotSpool, hlist, Bool.false_eq_true, if_false]
    constructor
    · intro ⟨file, hfile, hpath⟩
      exact ⟨file, (List.mem_filter.mp hfile).1, hpath⟩
    · intro ⟨file, hfile, hpath⟩
      refine ⟨file, List.mem_filter.mpr ⟨hfile, ?_⟩, hpath⟩
      -- it is the file of a known event
      have hname : file.1 = snapshotName row.eventId := by
        rw [h row hrow] at hpath
        exact filePath_inj hpath
      have hknown : isOrphan (db.snapshots.rows.map SnapshotOutboxRecord.eventId) file.1 = false := by
        rw [Bool.eq_false_iff, Ne, isOrphan_iff, not_and]
        intro _ hnot
        exact hnot row.eventId (List.mem_map.mpr ⟨row, hrow, rfl⟩) hname
      rw [hknown]
      rfl

/-- A `.jpg` that is still there is the file of a row. -/
theorem referred_of_mem_reconcile (h : Placed cfg db.snapshots) {file : String × Bytes}
    (hfile : file ∈ (reconcileSnapshotSpool cfg .none db spool).2.entries)
    (hjpg : isJpg file.1 = true) :
    ∃ row ∈ db.snapshots, row.localPath = filePath cfg.spoolPath file.1 := by
  have hkept := (List.mem_filter.mp hfile).2
  have hknown : isOrphan (db.snapshots.rows.map SnapshotOutboxRecord.eventId) file.1 ≠ true := by
    intro horphan
    simp [horphan, ReconcileFaults.none] at hkept
  rw [Ne, isOrphan_iff, not_and] at hknown
  have hex := hknown hjpg
  push Not at hex
  obtain ⟨eventId, hmem, hname⟩ := hex
  obtain ⟨row, hrow, rfl⟩ := List.mem_map.mp hmem
  exact ⟨row, hrow, by rw [h row hrow, hname, snapshotPath]⟩

/-- A second reconciliation changes nothing. -/
theorem reconcile_idempotent (h : Placed cfg db.snapshots) :
    reconcileSnapshotSpool cfg .none (reconcileSnapshotSpool cfg .none db spool).1
        (reconcileSnapshotSpool cfg .none db spool).2 =
      reconcileSnapshotSpool cfg .none db spool := by
  have hfile : ∀ row ∈ db.snapshots,
      (reconcileSnapshotSpool cfg .none db spool).2.isFile cfg.spoolPath row.localPath =
        spool.isFile cfg.spoolPath row.localPath :=
    fun row hrow => isFile_reconcile h .none hrow
  have hfirst := snapshots_reconcile cfg .none spool db rfl
  generalize hspool : (reconcileSnapshotSpool cfg .none db spool).2 = spool' at hfile ⊢
  have hids : (reconcileSnapshotSpool cfg .none db spool).1.snapshots.rows.map
      SnapshotOutboxRecord.eventId = db.snapshots.rows.map SnapshotOutboxRecord.eventId := by
    rw [hfirst]
    simp [Function.comp_def]
  refine Prod.ext ?_ ?_
  · rw [snapshots_reconcile cfg .none spool' _ rfl]
    rw [hfirst]
    congr 1
    apply KeyedTable.ext_rows
    simp only [KeyedTable.rows_update, List.map_map]
    refine List.map_congr_left fun row hrow => ?_
    -- the row's file is there in both spools or in neither
    have hsame : reconciledRow cfg .none spool' (reconciledRow cfg .none spool row) =
        reconciledRow cfg .none spool (reconciledRow cfg .none spool row) := by
      apply reconciledRow_congr
      rw [localPath_reconciledRow]
      exact hfile row hrow
    exact hsame.trans (reconciledRow_idem cfg .none spool row)
  · show spool'.filter _ = _
    rw [hids, ← hspool]
    apply OrderedDict.ext_entries
    simp [reconcileSnapshotSpool, ReconcileFaults.none, OrderedDict.filter, List.filter_filter]

end Reconciled

/-! ## When it is exact -/

/-- What a reconciliation is for: it reports the captures that are still to be uploaded and have lost
their file, and no other row changes; of the `.jpg` files those of rows are left, and no file of a row
still to be uploaded goes; and it is done after one pass. -/
structure ReconcilesExactly (cfg : CaptureConfig) (db : Database) (spool : Spool) : Prop where
  rows : ∀ eventId, (reconcileSnapshotSpool cfg .none db spool).1.snapshots.find? eventId =
    (db.snapshots.find? eventId).map fun row =>
      if row.captureStatus = .captured ∧ row.uploadStatus = .pending ∧
          spool.isFile cfg.spoolPath row.localPath = false then
        { row with captureStatus := .captureFailed }
      else row
  orphans : ∀ file ∈ (reconcileSnapshotSpool cfg .none db spool).2.entries, isJpg file.1 = true →
    ∃ row ∈ db.snapshots, row.localPath = filePath cfg.spoolPath file.1
  kept : ∀ row ∈ db.snapshots, row.captureStatus = .captured → row.uploadStatus = .pending →
    spool.isFile cfg.spoolPath row.localPath = true →
    (reconcileSnapshotSpool cfg .none db spool).2.isFile cfg.spoolPath row.localPath = true
  idempotent : reconcileSnapshotSpool cfg .none (reconcileSnapshotSpool cfg .none db spool).1
      (reconcileSnapshotSpool cfg .none db spool).2 = reconcileSnapshotSpool cfg .none db spool

/-- **In every reachable state a reconciliation in which no call fails is exact if and only if no
captured row whose upload is over, or suppressed, has lost its file.** -/
theorem reconciliation_exact_iff (cfg : CaptureConfig) (s : SnapshotState)
    (h : (snapshotSystem cfg).Reachable s) :
    ReconcilesExactly cfg s.db s.spool ↔
      ∀ row ∈ s.db.snapshots, row.captureStatus = .captured → row.uploadStatus ≠ .pending →
        s.spool.isFile cfg.spoolPath row.localPath = true := by
  have hplaced := placed_of_reachable h
  have hfind : ∀ eventId, (reconcileSnapshotSpool cfg .none s.db s.spool).1.snapshots.find? eventId =
      (s.db.snapshots.find? eventId).map (reconciledRow cfg .none s.spool) := by
    intro eventId
    rw [snapshots_reconcile cfg .none s.spool s.db rfl, KeyedTable.find?_update]
  constructor
  · intro hexact row hrow hcaptured hover
    by_contra hmissing
    rw [Bool.not_eq_true] at hmissing
    -- the row is reported although its upload is over
    have hself : s.db.snapshots.find? row.eventId = some row :=
      KeyedTable.find?_eq_some_iff.mpr ⟨hrow, rfl⟩
    have hsame := (hfind row.eventId).symm.trans (hexact.rows row.eventId)
    rw [hself, Option.map_some, Option.map_some, Option.some.injEq, reconciledRow,
      if_pos ⟨hcaptured, hmissing, rfl, rfl⟩, if_neg fun hall => hover hall.2.1] at hsame
    have hstatus := congrArg SnapshotOutboxRecord.captureStatus hsame
    rw [hcaptured] at hstatus
    cases hstatus
  · intro hfiles
    refine ⟨fun eventId => ?_, fun file hfile hjpg => referred_of_mem_reconcile hplaced hfile hjpg,
      fun row hrow _ _ hfile => (isFile_reconcile hplaced .none hrow).trans hfile,
      reconcile_idempotent hplaced⟩
    rw [hfind]
    cases hrow : s.db.snapshots.find? eventId with
    | none => rfl
    | some row =>
      have hmem := (KeyedTable.find?_eq_some_iff.mp hrow).1
      rw [Option.map_some, Option.map_some, reconciledRow]
      congr 1
      refine if_congr ⟨fun hall => ?_, fun hall => ⟨hall.1, hall.2.2, rfl, rfl⟩⟩ rfl rfl
      obtain ⟨hcaptured, hmissing, -, -⟩ := hall
      refine ⟨hcaptured, ?_, hmissing⟩
      by_contra hover
      rw [hfiles row hmem hcaptured hover] at hmissing
      cases hmissing

/-- A call that succeeds. -/
def succeeds : TaskOutcome := ⟨true, 7, ""⟩

/-- Event 1 is detected and its snapshot captured. -/
def captureFirst : List SnapshotAction :=
  [.detect (Sync.sampleEvent 1) 0, .capture firstSnapshot "a", .advance 0 succeeds,
    .advance 0 succeeds]

/-- The process dies with the file of a second snapshot renamed and its row not yet inserted. -/
theorem reconciliation_exact_afterCrash :
    ∃ s, (snapshotSystem smallSpool).Reachable s ∧ s.spool.entries.length = 2 ∧
      ReconcilesExactly smallSpool s.db s.spool := by
  let actions := captureFirst ++ [.detect (Sync.sampleEvent 2) 0,
    .capture ⟨"00000000-0000-0000-0000-000000000002", onePixel⟩ "b", .advance 0 succeeds, .crash]
  have hend : ((snapshotSystem smallSpool).exec .fresh actions).map
      (fun s => (s.spool.entries.length, decide (∀ row ∈ s.db.snapshots.rows,
        row.captureStatus = .captured → row.uploadStatus ≠ .pending →
          s.spool.isFile smallSpool.spoolPath row.localPath = true))) = some (2, true) := by
    decide +kernel
  obtain ⟨s, hrun, hpair⟩ := Option.map_eq_some_iff.mp hend
  obtain ⟨hlength, hfiles⟩ := Prod.mk.inj hpair
  have hreach : (snapshotSystem smallSpool).Reachable s := .exec (.init rfl) hrun
  exact ⟨s, hreach, hlength,
    (reconciliation_exact_iff smallSpool s hreach).mpr (of_decide_eq_true hfiles)⟩

/-- The snapshot is uploaded and its file removed: the next start reports its capture as failed. -/
theorem uploaded_row_reported_failed :
    ∃ s, (snapshotSystem smallSpool).Reachable s ∧ ¬ ReconcilesExactly smallSpool s.db s.spool := by
  let actions := captureFirst ++ [.associate 1 "alert-1", .listUploads 1, .advance 0 succeeds,
    .advance 0 succeeds, .advance 0 succeeds]
  let status : Database → Option (CaptureStatus × UploadStatus) := fun db =>
    (db.snapshots.find? 1).map fun row => (row.captureStatus, row.uploadStatus)
  have hend : ((snapshotSystem smallSpool).exec .fresh actions).map
      (fun s => (status s.db, status (reconcileSnapshotSpool smallSpool .none s.db s.spool).1)) =
      some (some (.captured, .uploaded), some (.captureFailed, .uploaded)) := by decide +kernel
  obtain ⟨s, hrun, hpair⟩ := Option.map_eq_some_iff.mp hend
  obtain ⟨hbefore, hafter⟩ := Prod.mk.inj hpair
  refine ⟨s, .exec (.init rfl) hrun, fun hexact => ?_⟩
  obtain ⟨row, hrow, hstatus⟩ := Option.map_eq_some_iff.mp hbefore
  obtain ⟨hcaptured, huploaded⟩ := Prod.mk.inj hstatus
  have hsame := hexact.rows 1
  rw [hrow, Option.map_some, if_neg fun hall => by rw [huploaded] at hall; cases hall.2.1] at hsame
  simp only [status, hsame, Option.map_some, hcaptured, Option.some.injEq, Prod.mk.injEq,
    reduceCtorEq, false_and] at hafter

end WeaponDetection.Agent.Snapshots
