import WeaponDetection.Agent.Snapshots.UploadWorker
import WeaponDetection.Foundations.PagedQueue
import WeaponDetection.Foundations.TimeOrder

/-!
# Progress of the snapshot uploads

The upload-ready rows are a queue that `_drain_once` serves page by page.  A row with a missing or
modified file keeps its place in the queue, so `batch_size` of them leave no room on the page for the
rows behind, and a row the Backend refuses ends every iteration: `upload_progress_iff`.
-/

namespace WeaponDetection.Agent.Snapshots

open WeaponDetection.Foundations
open WeaponDetection.Foundations.PagedQueue (Service servePage Reaches KeepsSkipped)
open WeaponDetection.Foundations.Python (Uuid)
open WeaponDetection.Agent.Detection (Instant)
open WeaponDetection.Agent.Persistence
open WeaponDetection.Agent.Sync (DeviceIdentity)

/-! ## The queue -/

/-- A row apart from the record of its failed attempts, which no iteration reads. -/
def withoutAttempts (r : SnapshotOutboxRecord) : SnapshotOutboxRecord :=
  { r with attemptCount := 0, lastAttemptAtUtc := none, lastErrorCategory := none }

theorem eventId_eq_of_withoutAttempts {r a : SnapshotOutboxRecord}
    (h : withoutAttempts r = withoutAttempts a) : r.eventId = a.eventId := by
  have hid : (withoutAttempts r).eventId = (withoutAttempts a).eventId := by rw [h]
  exact hid

/-- The upload-ready rows of a table. -/
def uploadReadyRows (table : SnapshotOutboxTable) : List SnapshotOutboxRecord :=
  table.rows.filter fun r => decide r.UploadReady

/-- The upload-ready rows in the order of `list_upload_ready`. -/
def uploadQueue (table : SnapshotOutboxTable) : List SnapshotOutboxRecord :=
  ((uploadReadyRows table).map withoutAttempts).insertionSort uploadOrder

/-- The row comes before the other in the order of `list_upload_ready`. -/
abbrev UploadsFirst : SnapshotOutboxRecord → SnapshotOutboxRecord → Prop :=
  TimeOrder.Before SnapshotOutboxRecord.capturedAtUtc SnapshotOutboxRecord.eventId

/-- `_upload_one`, as the service of a queue. -/
def serveRow (cfg : UploadConfig) (backend : UploadBackend) (record : SnapshotOutboxRecord)
    (spool : Spool) : Service Spool :=
  match localProblem cfg spool record with
  | some _ => .skipped
  | none =>
    match backend (uploadRequest record) with
    | some _ => .refused
    | none => .served (spool.unlink cfg.spoolPath record.localPath)

section Queue

variable {table : SnapshotOutboxTable}

theorem mem_uploadReadyRows {r : SnapshotOutboxRecord} :
    r ∈ uploadReadyRows table ↔ r ∈ table ∧ r.UploadReady := by
  simp [uploadReadyRows]

theorem mem_uploadQueue {x : SnapshotOutboxRecord} :
    x ∈ uploadQueue table ↔ x ∈ (uploadReadyRows table).map withoutAttempts :=
  List.mem_insertionSort uploadOrder

theorem nodup_ids_uploadReadyRows (table : SnapshotOutboxTable) :
    (((uploadReadyRows table).map withoutAttempts).map SnapshotOutboxRecord.eventId).Nodup := by
  rw [List.map_map]
  exact table.nodup.sublist (List.filter_sublist.map _)

/-- Two rows of the queue under one identifier are the same. -/
theorem eq_of_eventId_eq {x y : SnapshotOutboxRecord}
    (hx : x ∈ (uploadReadyRows table).map withoutAttempts)
    (hy : y ∈ (uploadReadyRows table).map withoutAttempts) (h : x.eventId = y.eventId) : x = y :=
  List.inj_on_of_nodup_map (nodup_ids_uploadReadyRows table) hx hy h

theorem pairwise_uploadQueue : (uploadQueue table).Pairwise UploadsFirst :=
  TimeOrder.pairwise_before_insertionSort (fun _ _ => Iff.rfl) (nodup_ids_uploadReadyRows table)

theorem nodup_uploadQueue : (uploadQueue table).Nodup :=
  (List.perm_insertionSort uploadOrder _).nodup_iff.mpr (.of_map _ (nodup_ids_uploadReadyRows table))

/-- A batch is a page of the queue. -/
theorem map_listUploadReady (table : SnapshotOutboxTable) (limit : ℕ) :
    (listUploadReady table limit).map withoutAttempts = (uploadQueue table).take limit := by
  rw [listUploadReady, List.map_take]
  congr 1
  exact List.map_insertionSort uploadOrder uploadOrder withoutAttempts _ fun _ _ _ _ => Iff.rfl

/-- A failed attempt leaves the queue as it is. -/
theorem uploadReadyRows_recordAttemptFailure (table : SnapshotOutboxTable) (eventId : Uuid)
    (attemptAtUtc : Instant) (errorCategory : String) :
    (uploadReadyRows (recordAttemptFailure table eventId attemptAtUtc errorCategory)).map
      withoutAttempts = (uploadReadyRows table).map withoutAttempts := by
  simp only [uploadReadyRows, recordAttemptFailure, KeyedTable.rows_update, List.filter_map, List.map_map]
  have hready : ((fun r : SnapshotOutboxRecord => decide r.UploadReady) ∘ fun r =>
      if r.eventId = eventId then
        { r with attemptCount := r.attemptCount + 1, lastAttemptAtUtc := some attemptAtUtc
                 lastErrorCategory := some errorCategory }
      else r) = fun r => decide r.UploadReady := by
    funext r
    simp only [Function.comp_apply]
    split <;> rfl
  rw [hready]
  refine List.map_congr_left fun r _ => ?_
  simp only [Function.comp_apply]
  split <;> rfl

/-- An upload takes its row out of the queue. -/
theorem uploadReadyRows_markUploaded (table : SnapshotOutboxTable) (eventId : Uuid) (uploadedAtUtc : Instant) :
    uploadReadyRows (markUploaded table eventId uploadedAtUtc) =
      (uploadReadyRows table).filter fun r => decide (r.eventId ≠ eventId) := by
  simp only [uploadReadyRows, markUploaded, KeyedTable.rows_update]
  induction table.rows with
  | nil => rfl
  | cons r rest ih =>
    rw [List.map_cons, List.filter_cons, List.filter_cons, ih]
    by_cases hid : r.eventId = eventId
    · by_cases hpending : r.uploadStatus = .pending
      · simp [hid, hpending, SnapshotOutboxRecord.UploadReady]
        split <;> simp_all
      · simp [hpending, SnapshotOutboxRecord.UploadReady]
    · by_cases hready : r.UploadReady
      · simp [hid, hready]
      · simp [hid, hready]

end Queue

/-! ## An iteration is a round over the queue -/

section Round

variable {cfg : UploadConfig} {backend : UploadBackend} {clock : Uuid → Instant} {s : UploadState}
variable {record : SnapshotOutboxRecord}

theorem uploadOne_skipped (clock : Uuid → Instant) (h : serveRow cfg backend record s.spool = .skipped) :
    ∃ category, uploadOne cfg backend clock s record =
      ({ s with snapshots := recordAttemptFailure s.snapshots record.eventId (clock record.eventId) category },
        true) := by
  unfold serveRow at h
  cases hproblem : localProblem cfg s.spool record with
  | some category => exact ⟨category, by simp only [uploadOne, hproblem]⟩
  | none =>
    cases hbackend : backend (uploadRequest record) <;> simp [hproblem, hbackend] at h

theorem uploadOne_refused (clock : Uuid → Instant) (h : serveRow cfg backend record s.spool = .refused) :
    ∃ reason, uploadOne cfg backend clock s record =
      ({ s with snapshots := recordAttemptFailure s.snapshots record.eventId (clock record.eventId) reason },
        false) := by
  unfold serveRow at h
  cases hproblem : localProblem cfg s.spool record with
  | some category => simp [hproblem] at h
  | none =>
    cases hbackend : backend (uploadRequest record) with
    | some reason => exact ⟨reason, by simp only [uploadOne, hproblem, hbackend]⟩
    | none => simp [hproblem, hbackend] at h

theorem uploadOne_served (clock : Uuid → Instant) {spool : Spool} (h : serveRow cfg backend record s.spool = .served spool) :
    uploadOne cfg backend clock s record =
      (⟨markUploaded s.snapshots record.eventId (clock record.eventId), spool⟩, true) := by
  unfold serveRow at h
  cases hproblem : localProblem cfg s.spool record with
  | some category => simp [hproblem] at h
  | none =>
    cases hbackend : backend (uploadRequest record) with
    | some reason => simp [hproblem, hbackend] at h
    | none =>
      simp only [hproblem, hbackend, Service.served.injEq] at h
      simp only [uploadOne, hproblem, hbackend, h]

/-- The loop over a batch serves the page: what stays of it stays in the queue. -/
theorem uploadRows_eq_servePage (cfg : UploadConfig) (backend : UploadBackend) (clock : Uuid → Instant)
    {page : List SnapshotOutboxRecord}
    (hids : (page.map SnapshotOutboxRecord.eventId).Nodup)
    (hpage : ∀ r ∈ page, withoutAttempts r ∈ (uploadReadyRows s.snapshots).map withoutAttempts) :
    (uploadRows cfg backend clock page s).1.spool =
        (servePage (serveRow cfg backend) (page.map withoutAttempts) s.spool).2 ∧
      ∀ x, x ∈ (uploadReadyRows (uploadRows cfg backend clock page s).1.snapshots).map withoutAttempts ↔
        x ∈ (uploadReadyRows s.snapshots).map withoutAttempts ∧
          (x ∈ page.map withoutAttempts →
            x ∈ (servePage (serveRow cfg backend) (page.map withoutAttempts) s.spool).1) := by
  induction page generalizing s with
  | nil => exact ⟨rfl, fun x => by simp [uploadRows]⟩
  | cons record rest ih =>
    obtain ⟨hfresh, hrestIds⟩ := List.nodup_cons.mp hids
    have hne : ∀ r ∈ rest, r.eventId ≠ record.eventId := fun r hr hid =>
      hfresh (hid ▸ List.mem_map_of_mem hr)
    have hnotRest : withoutAttempts record ∉ rest.map withoutAttempts := by
      intro hmem
      obtain ⟨r, hr, heq⟩ := List.mem_map.mp hmem
      exact hne r hr (eventId_eq_of_withoutAttempts heq)
    have hrest : ∀ r ∈ rest, withoutAttempts r ∈ (uploadReadyRows s.snapshots).map withoutAttempts :=
      fun r hr => hpage r (List.mem_cons_of_mem _ hr)
    rw [List.map_cons]
    cases hserve : serveRow cfg backend record s.spool with
    | skipped =>
      obtain ⟨category, hone⟩ := uploadOne_skipped clock hserve
      have hqueue := uploadReadyRows_recordAttemptFailure s.snapshots record.eventId
        (clock record.eventId) category
      obtain ⟨hspool, hrows⟩ := ih
        (s := ⟨recordAttemptFailure s.snapshots record.eventId (clock record.eventId) category, s.spool⟩)
        hrestIds (by rwa [hqueue])
      rw [PagedQueue.servePage_skipped (a := withoutAttempts record) hserve]
      simp only [uploadRows, hone]
      refine ⟨hspool, fun x => ?_⟩
      rw [hrows, hqueue, List.mem_cons, List.mem_cons]
      refine and_congr_right fun _ => ?_
      by_cases hx : x = withoutAttempts record
      · -- the skipped row itself is not looked at again
        simp [hx, hnotRest]
      · simp [hx]
    | served spool =>
      have hone := uploadOne_served clock hserve
      have hqueue := congrArg (List.map withoutAttempts)
        (uploadReadyRows_markUploaded s.snapshots record.eventId (clock record.eventId))
      have hleft : ∀ x, x ∈ ((uploadReadyRows s.snapshots).filter
          fun r => decide (r.eventId ≠ record.eventId)).map withoutAttempts ↔
          x ∈ (uploadReadyRows s.snapshots).map withoutAttempts ∧ x.eventId ≠ record.eventId := by
        intro x
        simp only [List.mem_map, List.mem_filter, decide_eq_true_eq]
        constructor
        · rintro ⟨r, ⟨hr, hne⟩, rfl⟩
          exact ⟨⟨r, hr, rfl⟩, hne⟩
        · rintro ⟨⟨r, hr, rfl⟩, hne⟩
          exact ⟨r, ⟨hr, hne⟩, rfl⟩
      obtain ⟨hspool, hrows⟩ := ih
        (s := ⟨markUploaded s.snapshots record.eventId (clock record.eventId), spool⟩) hrestIds (by
          intro r hr
          rw [hqueue, hleft]
          exact ⟨hrest r hr, hne r hr⟩)
      rw [PagedQueue.servePage_served (a := withoutAttempts record) hserve]
      simp only [uploadRows, hone]
      refine ⟨hspool, fun x => ?_⟩
      rw [hrows, hqueue, hleft, List.mem_cons, and_assoc]
      refine and_congr_right fun hx => ?_
      by_cases heq : x = withoutAttempts record
      · -- the served row has left the queue
        subst heq
        constructor
        · exact fun h => absurd rfl h.1
        · intro h
          exact absurd ((PagedQueue.servePage_sublist _ _ _).subset (h (.inl rfl))) hnotRest
      · have hne : x.eventId ≠ record.eventId := fun hid =>
          heq (eq_of_eventId_eq hx (hpage record List.mem_cons_self) hid)
        simp [hne, heq]
    | refused =>
      obtain ⟨reason, hone⟩ := uploadOne_refused clock hserve
      rw [PagedQueue.servePage_refused (a := withoutAttempts record) hserve]
      simp only [uploadRows, hone, true_and]
      intro x
      rw [uploadReadyRows_recordAttemptFailure]
      exact ⟨fun hx => ⟨hx, id⟩, And.left⟩

/-- What an iteration leaves is what the loop over the batch leaves. -/
theorem uploadDrainOnce_state {identity : Option DeviceIdentity}
    (hoperational : identity.any (·.operational) = true) :
    (uploadDrainOnce cfg identity backend clock s).1 =
      (uploadRows cfg backend clock (listUploadReady s.snapshots cfg.batchSize) s).1 := by
  simp only [uploadDrainOnce, hoperational, if_true]
  by_cases hnil : listUploadReady s.snapshots cfg.batchSize = []
  · simp only [hnil, if_true, uploadRows]
  · rw [if_neg hnil]
    cases hrows : uploadRows cfg backend clock (listUploadReady s.snapshots cfg.batchSize) s with
    | mk s' goesOn => cases goesOn <;> rfl

/-- **An iteration is a round over the queue.** -/
theorem queue_uploadDrainOnce {identity : Option DeviceIdentity}
    (hoperational : identity.any (·.operational) = true) :
    (uploadQueue (uploadDrainOnce cfg identity backend clock s).1.snapshots,
        (uploadDrainOnce cfg identity backend clock s).1.spool) =
      PagedQueue.round (serveRow cfg backend) cfg.batchSize (uploadQueue s.snapshots, s.spool) := by
  have htake := map_listUploadReady s.snapshots cfg.batchSize
  have hids : ((listUploadReady s.snapshots cfg.batchSize).map SnapshotOutboxRecord.eventId).Nodup := by
    have hqueue := (nodup_ids_uploadReadyRows s.snapshots).perm
      ((List.perm_insertionSort uploadOrder _).map SnapshotOutboxRecord.eventId).symm
    have hpage := hqueue.sublist ((List.take_sublist cfg.batchSize _).map SnapshotOutboxRecord.eventId)
    rw [← uploadQueue, ← htake, List.map_map] at hpage
    exact hpage
  have hmem : ∀ r ∈ listUploadReady s.snapshots cfg.batchSize,
      withoutAttempts r ∈ (uploadReadyRows s.snapshots).map withoutAttempts := by
    intro r hr
    have hr := htake ▸ List.mem_map_of_mem hr
    exact mem_uploadQueue.mp (List.mem_of_mem_take hr)
  obtain ⟨hspool, hrows⟩ := uploadRows_eq_servePage cfg backend clock hids hmem
  rw [htake] at hspool hrows
  rw [uploadDrainOnce_state hoperational]
  refine Prod.ext ?_ hspool
  have hround : (PagedQueue.round (serveRow cfg backend) cfg.batchSize
      (uploadQueue s.snapshots, s.spool)).1.Sublist (uploadQueue s.snapshots) := PagedQueue.round_sublist _
  refine TimeOrder.eq_of_pairwise_before pairwise_uploadQueue (pairwise_uploadQueue.sublist hround)
    fun x => ?_
  have hnodup : (uploadQueue s.snapshots).Nodup := nodup_uploadQueue
  rw [← List.take_append_drop cfg.batchSize (uploadQueue s.snapshots)] at hnodup
  -- a row of the queue is on the page or behind it
  have hsplit : x ∈ uploadQueue s.snapshots ↔
      x ∈ (uploadQueue s.snapshots).take cfg.batchSize ∨ x ∈ (uploadQueue s.snapshots).drop cfg.batchSize := by
    rw [← List.mem_append, List.take_append_drop]
  rw [mem_uploadQueue, hrows, ← mem_uploadQueue, hsplit, PagedQueue.round, List.mem_append]
  constructor
  · rintro ⟨hx, himp⟩
    exact hx.imp_left himp
  · rintro (hx | hx)
    · exact ⟨.inl ((PagedQueue.servePage_sublist _ _ _).subset hx), fun _ => hx⟩
    · exact ⟨.inr hx, fun hpage => absurd hx (List.disjoint_of_nodup_append hnodup hpage)⟩

end Round

/-! ## Any number of iterations -/

/-- `_drain_once`, again and again. -/
def drains (cfg : UploadConfig) (identity : Option DeviceIdentity) (backend : UploadBackend)
    (clock : ℕ → Uuid → Instant) : ℕ → UploadState → UploadState
  | 0, s => s
  | k + 1, s => (uploadDrainOnce cfg identity backend (clock k) (drains cfg identity backend clock k s)).1

/-- The row of an event is `uploaded`. -/
def IsUploaded (table : SnapshotOutboxTable) (eventId : Uuid) : Prop :=
  ∃ row ∈ table, row.eventId = eventId ∧ row.uploadStatus = .uploaded

/-- A row that is as it was, failed attempts apart, or uploaded. -/
def KeptOrUploaded (table : SnapshotOutboxTable) (r : SnapshotOutboxRecord) : Prop :=
  (∃ row ∈ table, withoutAttempts row = withoutAttempts r) ∨ IsUploaded table r.eventId

section Drains

variable {cfg : UploadConfig} {backend : UploadBackend} {r : SnapshotOutboxRecord}

theorem keptOrUploaded_recordAttemptFailure {table : SnapshotOutboxTable} (eventId : Uuid)
    (attemptAtUtc : Instant) (errorCategory : String) (h : KeptOrUploaded table r) :
    KeptOrUploaded (recordAttemptFailure table eventId attemptAtUtc errorCategory) r := by
  rcases h with ⟨row, hrow, hsame⟩ | ⟨row, hrow, hid, huploaded⟩
  · refine .inl ⟨_, KeyedTable.mem_update.mpr ⟨row, hrow, rfl⟩, ?_⟩
    split <;> exact hsame
  · refine .inr ⟨_, KeyedTable.mem_update.mpr ⟨row, hrow, rfl⟩, ?_⟩
    split <;> exact ⟨hid, huploaded⟩

theorem keptOrUploaded_markUploaded {table : SnapshotOutboxTable} (eventId : Uuid)
    (uploadedAtUtc : Instant) (h : KeptOrUploaded table r) :
    KeptOrUploaded (markUploaded table eventId uploadedAtUtc) r := by
  rcases h with ⟨row, hrow, hsame⟩ | ⟨row, hrow, hid, huploaded⟩
  · by_cases hmarked : row.eventId = eventId ∧ row.uploadStatus = .pending
    · refine .inr ⟨_, KeyedTable.mem_update.mpr ⟨row, hrow, rfl⟩, ?_⟩
      have hid : row.eventId = r.eventId := eventId_eq_of_withoutAttempts hsame
      rw [if_pos hmarked]
      exact ⟨hid, rfl⟩
    · refine .inl ⟨_, KeyedTable.mem_update.mpr ⟨row, hrow, rfl⟩, ?_⟩
      rwa [if_neg hmarked]
  · refine .inr ⟨_, KeyedTable.mem_update.mpr ⟨row, hrow, rfl⟩, ?_⟩
    split <;> simp_all

theorem keptOrUploaded_uploadRows (clock : Uuid → Instant) (page : List SnapshotOutboxRecord)
    {s : UploadState} (h : KeptOrUploaded s.snapshots r) :
    KeptOrUploaded (uploadRows cfg backend clock page s).1.snapshots r := by
  induction page generalizing s with
  | nil => exact h
  | cons record rest ih =>
    cases hserve : serveRow cfg backend record s.spool with
    | skipped =>
      obtain ⟨category, hone⟩ := uploadOne_skipped clock hserve
      simp only [uploadRows, hone]
      exact ih (keptOrUploaded_recordAttemptFailure _ _ _ h)
    | served spool =>
      simp only [uploadRows, uploadOne_served clock hserve]
      exact ih (keptOrUploaded_markUploaded _ _ h)
    | refused =>
      obtain ⟨reason, hone⟩ := uploadOne_refused clock hserve
      simp only [uploadRows, hone]
      exact keptOrUploaded_recordAttemptFailure _ _ _ h

/-- An uploaded row stays uploaded. -/
theorem isUploaded_uploadRows (clock : Uuid → Instant) (page : List SnapshotOutboxRecord) {s : UploadState}
    {eventId : Uuid} (h : IsUploaded s.snapshots eventId) :
    IsUploaded (uploadRows cfg backend clock page s).1.snapshots eventId := by
  obtain ⟨row, hrow, rfl, huploaded⟩ := h
  rcases keptOrUploaded_uploadRows clock page (.inl ⟨row, hrow, rfl⟩) with ⟨row', hrow', hsame⟩ | h
  · have hstatus : (withoutAttempts row').uploadStatus = (withoutAttempts row).uploadStatus := by rw [hsame]
    exact ⟨row', hrow', eventId_eq_of_withoutAttempts hsame, hstatus.trans huploaded⟩
  · exact h

variable {identity : Option DeviceIdentity} {clock : ℕ → Uuid → Instant} {s : UploadState}

theorem keptOrUploaded_drains (hoperational : identity.any (·.operational) = true) (hr : r ∈ s.snapshots)
    (k : ℕ) : KeptOrUploaded (drains cfg identity backend clock k s).snapshots r := by
  induction k with
  | zero => exact .inl ⟨r, hr, rfl⟩
  | succ k ih =>
    rw [drains, uploadDrainOnce_state hoperational]
    exact keptOrUploaded_uploadRows _ _ ih

theorem queue_drains (clock : ℕ → Uuid → Instant) (hoperational : identity.any (·.operational) = true) (k : ℕ) :
    (uploadQueue (drains cfg identity backend clock k s).snapshots,
        (drains cfg identity backend clock k s).spool) =
      (PagedQueue.round (serveRow cfg backend) cfg.batchSize)^[k] (uploadQueue s.snapshots, s.spool) := by
  induction k with
  | zero => rfl
  | succ k ih => rw [drains, queue_uploadDrainOnce hoperational, ih, Function.iterate_succ_apply']

/-- A row leaves the queue by being uploaded. -/
theorem isUploaded_drains_iff (hoperational : identity.any (·.operational) = true) (hr : r ∈ s.snapshots)
    (hready : r.UploadReady) (k : ℕ) :
    IsUploaded (drains cfg identity backend clock k s).snapshots r.eventId ↔
      withoutAttempts r ∉
        ((PagedQueue.round (serveRow cfg backend) cfg.batchSize)^[k] (uploadQueue s.snapshots, s.spool)).1 := by
  rw [← queue_drains clock hoperational, mem_uploadQueue, List.mem_map]
  constructor
  · rintro ⟨row, hrow, hid, huploaded⟩ ⟨row', hrow', hsame⟩
    obtain ⟨hmem, hready'⟩ := mem_uploadReadyRows.mp hrow'
    have hids : row.eventId = row'.eventId := hid.trans (eventId_eq_of_withoutAttempts hsame).symm
    have hsame := KeyedTable.eq_of_key_eq hrow hmem hids
    rw [← hsame, SnapshotOutboxRecord.UploadReady, huploaded] at hready'
    cases hready'.2.1
  · intro hgone
    refine (keptOrUploaded_drains hoperational hr k).resolve_left ?_
    rintro ⟨row, hrow, hsame⟩
    refine hgone ⟨row, mem_uploadReadyRows.mpr ⟨hrow, ?_⟩, hsame⟩
    have hready' : (withoutAttempts row).UploadReady := hsame ▸ hready
    exact hready'

end Drains

/-! ## Which rows are reached -/

/-- The file of a row is not the captured one when the row's turn comes: it is missing or modified, or
the upload of an earlier row with the same file has removed it. -/
def Stuck (cfg : UploadConfig) (rows : List SnapshotOutboxRecord) (spool : Spool)
    (r : SnapshotOutboxRecord) : Prop :=
  localProblem cfg spool r ≠ none ∨
    ∃ a ∈ rows, UploadsFirst a r ∧ a.localPath = r.localPath ∧ localProblem cfg spool a = none

instance (cfg : UploadConfig) (rows : List SnapshotOutboxRecord) (spool : Spool) :
    DecidablePred (Stuck cfg rows spool) := fun _ => inferInstanceAs (Decidable (_ ∨ _))

/-- Nothing keeps an upload-ready row from its upload: its file is its own, no row before it is refused
by the Backend, and the rows before it whose file is not the captured one leave room on the page. -/
structure InReach (cfg : UploadConfig) (backend : UploadBackend) (rows : List SnapshotOutboxRecord)
    (spool : Spool) (n : ℕ) (r : SnapshotOutboxRecord) : Prop where
  file : ¬ Stuck cfg rows spool r
  accepted : ∀ a ∈ rows, UploadsFirst a r → ¬ Stuck cfg rows spool a → backend (uploadRequest a) = none
  few : rows.countP (fun a => UploadsFirst a r ∧ Stuck cfg rows spool a) < n

section Reach

variable {cfg : UploadConfig} {backend : UploadBackend} {a b r : SnapshotOutboxRecord}
variable {rest : List SnapshotOutboxRecord} {spool : Spool} {n : ℕ}

/-- What an upload does to the file of another row. -/
theorem localProblem_unlink (cfg : UploadConfig) (spool : Spool) (localPath : String)
    (r : SnapshotOutboxRecord) :
    localProblem cfg (spool.unlink cfg.spoolPath localPath) r =
      if r.localPath = localPath then some "local_file_missing" else localProblem cfg spool r := by
  have hread : (spool.unlink cfg.spoolPath localPath).read? cfg.spoolPath r.localPath =
      if r.localPath = localPath then none else spool.read? cfg.spoolPath r.localPath := by
    simp only [Spool.read?, Spool.unlink, OrderedDict.filter, List.find?_filter]
    by_cases hpath : r.localPath = localPath
    · simp [hpath]
    · rw [if_neg hpath]
      congr 2
      funext file
      by_cases hfile : filePath cfg.spoolPath file.1 = r.localPath
      · simp [hfile, hpath]
      · simp [hfile]
  rw [localProblem, hread]
  by_cases hpath : r.localPath = localPath
  · simp only [hpath, if_true]
  · simp only [hpath, if_false, localProblem]

/-- Nothing of the queue comes before its head. -/
theorem not_uploadsFirst_head (hhead : ∀ b ∈ rest, UploadsFirst a b) (hb : b ∈ a :: rest) :
    ¬ UploadsFirst b a := by
  rcases List.mem_cons.mp hb with rfl | hb
  · exact TimeOrder.before_irrefl b
  · exact TimeOrder.before_asymm a b (hhead b hb)

theorem stuck_head_iff (hhead : ∀ b ∈ rest, UploadsFirst a b) :
    Stuck cfg (a :: rest) spool a ↔ localProblem cfg spool a ≠ none := by
  refine or_iff_left ?_
  rintro ⟨b, hb, hbefore, -⟩
  exact not_uploadsFirst_head hhead hb hbefore

/-- Behind a row whose own file is no longer there, nothing changes. -/
theorem stuck_behind_skipped (hproblem : localProblem cfg spool a ≠ none) :
    Stuck cfg (a :: rest) spool b ↔ Stuck cfg rest spool b := by
  simp [Stuck, hproblem]

/-- Behind a row that is uploaded, the rows with its file are stuck. -/
theorem stuck_behind_served (hintact : localProblem cfg spool a = none) (hbefore : UploadsFirst a b) :
    Stuck cfg (a :: rest) spool b ↔
      Stuck cfg rest (spool.unlink cfg.spoolPath a.localPath) b := by
  simp only [Stuck, localProblem_unlink, List.mem_cons, exists_eq_or_imp, hintact, hbefore, true_and]
  by_cases hpath : b.localPath = a.localPath
  · simp [hpath]
  · rw [if_neg hpath]
    refine or_congr_right ?_
    rw [or_iff_right fun h => hpath h.1.symm]
    refine exists_congr fun c => and_congr_right fun _ => and_congr_right fun _ =>
      and_congr_right fun hsame => ?_
    rw [if_neg fun hc => hpath (hsame.symm.trans hc)]

/-- The head of the queue is in reach when its file is intact. -/
theorem inReach_head (hhead : ∀ b ∈ rest, UploadsFirst r b) :
    InReach cfg backend (r :: rest) spool (n + 1) r ↔ localProblem cfg spool r = none := by
  have hnone : (r :: rest).countP (fun b => UploadsFirst b r ∧ Stuck cfg (r :: rest) spool b) = 0 :=
    List.countP_eq_zero.mpr fun b hb => by simp [not_uploadsFirst_head hhead hb]
  constructor
  · intro h
    by_contra hproblem
    exact h.file ((stuck_head_iff hhead).mpr hproblem)
  · intro hproblem
    refine ⟨?_, fun b hb hbefore => ?_, hnone ▸ Nat.succ_pos n⟩
    · rw [stuck_head_iff hhead, hproblem]
      exact fun h => h rfl
    · exact absurd hbefore (not_uploadsFirst_head hhead hb)

/-- A row whose file is not intact takes one place of the page. -/
theorem inReach_skipped (hhead : ∀ b ∈ rest, UploadsFirst a b) (hproblem : localProblem cfg spool a ≠ none)
    (hmem : r ∈ rest) :
    InReach cfg backend (a :: rest) spool (n + 1) r ↔ InReach cfg backend rest spool n r := by
  have hstuck : Stuck cfg (a :: rest) spool a := (stuck_head_iff hhead).mpr hproblem
  have hcount : (a :: rest).countP (fun b => UploadsFirst b r ∧ Stuck cfg (a :: rest) spool b) =
      rest.countP (fun b => UploadsFirst b r ∧ Stuck cfg rest spool b) + 1 := by
    rw [List.countP_cons, if_pos (decide_eq_true ⟨hhead r hmem, hstuck⟩)]
    simp only [stuck_behind_skipped hproblem]
  constructor
  · intro h
    refine ⟨(stuck_behind_skipped hproblem).not.mp h.file, fun b hb hbefore hnot => ?_,
      Nat.lt_of_succ_lt_succ (lt_of_eq_of_lt hcount.symm h.few)⟩
    exact h.accepted b (List.mem_cons_of_mem _ hb) hbefore ((stuck_behind_skipped hproblem).not.mpr hnot)
  · intro h
    refine ⟨(stuck_behind_skipped hproblem).not.mpr h.file, fun b hb hbefore => ?_,
      lt_of_eq_of_lt hcount (Nat.succ_lt_succ h.few)⟩
    rcases List.mem_cons.mp hb with rfl | hb
    · exact fun hnot => absurd hstuck hnot
    · rw [stuck_behind_skipped hproblem]
      exact h.accepted b hb hbefore

/-- A row that is uploaded takes no place, and its file with it. -/
theorem inReach_served (hhead : ∀ b ∈ rest, UploadsFirst a b) (hintact : localProblem cfg spool a = none)
    (haccepted : backend (uploadRequest a) = none) (hmem : r ∈ rest) :
    InReach cfg backend (a :: rest) spool n r ↔
      InReach cfg backend rest (spool.unlink cfg.spoolPath a.localPath) n r := by
  have hnot : ¬ Stuck cfg (a :: rest) spool a := by
    rw [stuck_head_iff hhead, hintact]
    exact fun h => h rfl
  have hbehind : ∀ b ∈ rest, (Stuck cfg (a :: rest) spool b ↔
      Stuck cfg rest (spool.unlink cfg.spoolPath a.localPath) b) :=
    fun b hb => stuck_behind_served hintact (hhead b hb)
  have hcount : (a :: rest).countP (fun b => UploadsFirst b r ∧ Stuck cfg (a :: rest) spool b) =
      rest.countP (fun b => UploadsFirst b r ∧
        Stuck cfg rest (spool.unlink cfg.spoolPath a.localPath) b) := by
    rw [List.countP_cons, if_neg (by simp [hnot]), Nat.add_zero]
    exact List.countP_congr fun b hb => by simp [hbehind b hb]
  constructor
  · intro h
    refine ⟨(hbehind r hmem).not.mp h.file, fun b hb hbefore hfree => ?_, hcount ▸ h.few⟩
    exact h.accepted b (List.mem_cons_of_mem _ hb) hbefore ((hbehind b hb).not.mpr hfree)
  · intro h
    refine ⟨(hbehind r hmem).not.mpr h.file, fun b hb hbefore => ?_, hcount ▸ h.few⟩
    rcases List.mem_cons.mp hb with rfl | hb
    · exact fun _ => haccepted
    · rw [hbehind b hb]
      exact h.accepted b hb hbefore

/-- No row behind one that is refused is in reach. -/
theorem not_inReach_refused (hhead : ∀ b ∈ rest, UploadsFirst a b)
    (hintact : localProblem cfg spool a = none) (hrefused : backend (uploadRequest a) ≠ none)
    (hmem : r ∈ rest) : ¬ InReach cfg backend (a :: rest) spool n r := by
  intro h
  refine hrefused (h.accepted a List.mem_cons_self (hhead r hmem) ?_)
  rw [stuck_head_iff hhead, hintact]
  exact fun h => h rfl

/-- **The rows that are reached, in terms of the queue as it is.** -/
theorem reaches_iff_inReach {q : List SnapshotOutboxRecord} (hq : q.Pairwise UploadsFirst) (hr : r ∈ q)
    (haccepted : backend (uploadRequest r) = none) :
    Reaches (serveRow cfg backend) r n q spool ↔ InReach cfg backend q spool n r := by
  -- induction on the queue, by what happens to its head
  induction q generalizing n spool with
  | nil => cases hr
  | cons a rest ih =>
    obtain ⟨hhead, hrest⟩ := List.pairwise_cons.mp hq
    cases n with
    | zero => exact iff_of_false (PagedQueue.not_reaches_zero _) fun h => Nat.not_lt_zero _ h.few
    | succ n =>
      rcases List.mem_cons.mp hr with rfl | hmem
      · rw [inReach_head hhead]
        cases hproblem : localProblem cfg spool r with
        | some category =>
          have hserve : serveRow cfg backend r spool = .skipped := by simp only [serveRow, hproblem]
          rw [PagedQueue.reaches_skipped hserve]
          exact iff_of_false (fun h => h.1 rfl) nofun
        | none =>
          have hserve : serveRow cfg backend r spool = .served (spool.unlink cfg.spoolPath r.localPath) := by
            simp only [serveRow, hproblem, haccepted]
          rw [PagedQueue.reaches_served hserve]
          exact iff_of_true (.inl rfl) rfl
      · have hne : a ≠ r := by
          rintro rfl
          exact TimeOrder.before_irrefl a (hhead a hmem)
        cases hproblem : localProblem cfg spool a with
        | some category =>
          have hserve : serveRow cfg backend a spool = .skipped := by simp only [serveRow, hproblem]
          rw [PagedQueue.reaches_skipped hserve, and_iff_right hne, ih hrest hmem,
            inReach_skipped hhead (by simp [hproblem]) hmem]
        | none =>
          cases hbackend : backend (uploadRequest a) with
          | some reason =>
            have hserve : serveRow cfg backend a spool = .refused := by
              simp only [serveRow, hproblem, hbackend]
            refine iff_of_false (PagedQueue.reaches_refused hserve) ?_
            exact not_inReach_refused hhead hproblem (by simp [hbackend]) hmem
          | none =>
            have hserve : serveRow cfg backend a spool =
                .served (spool.unlink cfg.spoolPath a.localPath) := by
              simp only [serveRow, hproblem, hbackend]
            rw [PagedQueue.reaches_served hserve, or_iff_right hne, ih hrest hmem,
              inReach_served hhead hproblem hbackend hmem]

end Reach

/-! ## Progress -/

/-- The upload-ready rows of the state whose file is intact and which the Backend accepts. -/
def Uploadable (cfg : UploadConfig) (backend : UploadBackend) (s : UploadState)
    (r : SnapshotOutboxRecord) : Prop :=
  r ∈ s.snapshots ∧ r.UploadReady ∧ localProblem cfg s.spool r = none ∧ backend (uploadRequest r) = none

/-- Some finite number of iterations uploads every uploadable row. -/
def UploadsAll (cfg : UploadConfig) (identity : Option DeviceIdentity) (backend : UploadBackend)
    (clock : ℕ → Uuid → Instant) (s : UploadState) : Prop :=
  ∃ k, ∀ r, Uploadable cfg backend s r →
    IsUploaded (drains cfg identity backend clock k s).snapshots r.eventId

/-- A row of the table is in reach when it is in the queue. -/
theorem inReach_uploadQueue (cfg : UploadConfig) (backend : UploadBackend) (table : SnapshotOutboxTable)
    (spool : Spool) (n : ℕ) (r : SnapshotOutboxRecord) :
    InReach cfg backend (uploadQueue table) spool n (withoutAttempts r) ↔
      InReach cfg backend (uploadReadyRows table) spool n r := by
  have hstuck : ∀ a, Stuck cfg (uploadQueue table) spool (withoutAttempts a) ↔
      Stuck cfg (uploadReadyRows table) spool a := by
    intro a
    refine or_congr_right ?_
    simp only [mem_uploadQueue, List.mem_map, exists_exists_and_eq_and]
    rfl
  have hcount : (uploadQueue table).countP
      (fun a => UploadsFirst a (withoutAttempts r) ∧ Stuck cfg (uploadQueue table) spool a) =
      (uploadReadyRows table).countP
        (fun a => UploadsFirst a r ∧ Stuck cfg (uploadReadyRows table) spool a) := by
    rw [uploadQueue, (List.perm_insertionSort uploadOrder _).countP_eq, List.countP_map, ← uploadQueue]
    refine List.countP_congr fun a _ => ?_
    simp only [Function.comp_apply, decide_eq_true_eq, hstuck]
    rfl
  constructor
  · intro h
    refine ⟨(hstuck r).not.mp h.file, fun a ha hbefore hnot => ?_, hcount ▸ h.few⟩
    exact h.accepted (withoutAttempts a) (mem_uploadQueue.mpr (List.mem_map_of_mem ha)) hbefore
      ((hstuck a).not.mpr hnot)
  · intro h
    refine ⟨(hstuck r).not.mpr h.file, fun a ha hbefore hnot => ?_, hcount ▸ h.few⟩
    obtain ⟨row, hrow, rfl⟩ := List.mem_map.mp (mem_uploadQueue.mp ha)
    exact h.accepted row hrow hbefore ((hstuck row).not.mp hnot)

theorem keepsSkipped_serveRow (cfg : UploadConfig) (backend : UploadBackend) :
    KeepsSkipped (serveRow cfg backend) := by
  intro a b spool spool' hskipped hserved
  have hproblem : ∃ category, localProblem cfg spool a = some category := by
    cases hproblem : localProblem cfg spool a with
    | some category => exact ⟨category, rfl⟩
    | none => cases hbackend : backend (uploadRequest a) <;> simp [serveRow, hproblem, hbackend] at hskipped
  obtain ⟨category, hproblem⟩ := hproblem
  have hspool : spool' = spool.unlink cfg.spoolPath b.localPath := by
    cases hother : localProblem cfg spool b with
    | some category => simp [serveRow, hother] at hserved
    | none =>
      cases hbackend : backend (uploadRequest b) with
      | some reason => simp [serveRow, hother, hbackend] at hserved
      | none =>
        simp only [serveRow, hother, hbackend, Service.served.injEq] at hserved
        exact hserved.symm
  rw [hspool, serveRow, localProblem_unlink, hproblem]
  by_cases hpath : a.localPath = b.localPath
  · simp only [hpath, if_true]
  · simp only [hpath, if_false]

/-- **Repeated iterations upload every uploadable row if and only if each of them is in reach.** -/
theorem upload_progress_iff (cfg : UploadConfig) (identity : Option DeviceIdentity) (backend : UploadBackend)
    (clock : ℕ → Uuid → Instant) (s : UploadState) (hoperational : identity.any (·.operational) = true) :
    UploadsAll cfg identity backend clock s ↔ ∀ r, Uploadable cfg backend s r →
      InReach cfg backend (uploadReadyRows s.snapshots) s.spool cfg.batchSize r := by
  have hqueue : ∀ x, (∃ r, Uploadable cfg backend s r ∧ withoutAttempts r = x) → x ∈ uploadQueue s.snapshots := by
    rintro x ⟨r, ⟨hmem, hready, -⟩, rfl⟩
    exact mem_uploadQueue.mpr (List.mem_map_of_mem (mem_uploadReadyRows.mpr ⟨hmem, hready⟩))
  have hall := PagedQueue.removed_all_iff_reaches (n := cfg.batchSize) (keepsSkipped_serveRow cfg backend)
    (q := (uploadQueue s.snapshots, s.spool)) nodup_uploadQueue hqueue
  calc UploadsAll cfg identity backend clock s
      ↔ ∃ k, ∀ x, (∃ r, Uploadable cfg backend s r ∧ withoutAttempts r = x) →
          x ∉ ((PagedQueue.round (serveRow cfg backend) cfg.batchSize)^[k]
            (uploadQueue s.snapshots, s.spool)).1 := by
        refine exists_congr fun k => ?_
        constructor
        · rintro h x ⟨r, hr, rfl⟩
          exact (isUploaded_drains_iff hoperational hr.1 hr.2.1 k).mp (h r hr)
        · intro h r hr
          exact (isUploaded_drains_iff hoperational hr.1 hr.2.1 k).mpr (h _ ⟨r, hr, rfl⟩)
    _ ↔ ∀ x, (∃ r, Uploadable cfg backend s r ∧ withoutAttempts r = x) →
          Reaches (serveRow cfg backend) x cfg.batchSize (uploadQueue s.snapshots) s.spool := hall
    _ ↔ ∀ r, Uploadable cfg backend s r →
          InReach cfg backend (uploadReadyRows s.snapshots) s.spool cfg.batchSize r := by
        have hreach : ∀ r, Uploadable cfg backend s r →
            (Reaches (serveRow cfg backend) (withoutAttempts r) cfg.batchSize (uploadQueue s.snapshots) s.spool ↔
              InReach cfg backend (uploadReadyRows s.snapshots) s.spool cfg.batchSize r) := by
          intro r hr
          rw [reaches_iff_inReach pairwise_uploadQueue (hqueue _ ⟨r, hr, rfl⟩) hr.2.2.2, inReach_uploadQueue]
        constructor
        · exact fun h r hr => (hreach r hr).mp (h _ ⟨r, hr, rfl⟩)
        · rintro h x ⟨r, hr, rfl⟩
          exact (hreach r hr).mpr (h r hr)

/-- One upload at a time. -/
def oneUpload : UploadConfig :=
  { batchSize := 1, batchSize_pos := Nat.one_pos, spoolPath := smallSpool.spoolPath
    computeSha256 := smallSpool.computeSha256 }

/-- A captured snapshot of one pixel whose alert is known. -/
def readyRow (eventId : Uuid) : SnapshotOutboxRecord :=
  { (capturedFile smallSpool eventId onePixel).row 0 with backendAlertId := some "alert-1" }

/-- The file of event 2 is there, that of event 1 is not. -/
def firstFileMissing : UploadState :=
  { snapshots := ⟨[readyRow 1, readyRow 2], by decide⟩, spool := ⟨[(snapshotName 2, onePixel)], by decide⟩ }

/-- Without the row of event 1. -/
def secondAlone : UploadState :=
  { snapshots := ⟨[readyRow 2], by decide⟩, spool := ⟨[(snapshotName 2, onePixel)], by decide⟩ }

/-- A Backend that accepts everything uploads the row of event 2. -/
theorem upload_progress_secondAlone :
    UploadsAll oneUpload (some Sync.sampleIdentity) (fun _ => none) (fun _ _ => 0) secondAlone := by
  refine (upload_progress_iff oneUpload (some Sync.sampleIdentity) (fun _ => none) (fun _ _ => 0)
    secondAlone rfl).mpr fun r hr => ?_
  have hrow : r = readyRow 2 := List.mem_singleton.mp hr.1
  subst hrow
  exact ⟨by decide +kernel, fun _ _ _ _ => rfl, by decide +kernel⟩

/-- The row whose file is missing stays on the only place of the page. -/
theorem missing_file_blocks :
    Uploadable oneUpload (fun _ => none) firstFileMissing (readyRow 2) ∧
      ¬ UploadsAll oneUpload (some Sync.sampleIdentity) (fun _ => none) (fun _ _ => 0) firstFileMissing := by
  have hrow : Uploadable oneUpload (fun _ => none) firstFileMissing (readyRow 2) :=
    ⟨List.mem_cons_of_mem _ List.mem_cons_self, by decide +kernel, by decide +kernel, rfl⟩
  refine ⟨hrow, fun ⟨k, hk⟩ => ?_⟩
  have hqueue : withoutAttempts (readyRow 2) ∈ uploadQueue firstFileMissing.snapshots :=
    mem_uploadQueue.mpr (List.mem_map_of_mem (mem_uploadReadyRows.mpr ⟨hrow.1, hrow.2.1⟩))
  have hgone := (isUploaded_drains_iff rfl hrow.1 hrow.2.1 k).mp (hk _ hrow)
  have hreaches := (PagedQueue.removed_iff_reaches (keepsSkipped_serveRow oneUpload fun _ => none)
    nodup_uploadQueue hqueue).mp ⟨k, hgone⟩
  rw [reaches_iff_inReach pairwise_uploadQueue hqueue rfl, inReach_uploadQueue] at hreaches
  exact absurd hreaches.few (by decide +kernel)

end WeaponDetection.Agent.Snapshots
