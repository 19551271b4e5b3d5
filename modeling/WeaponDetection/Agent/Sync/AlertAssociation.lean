import WeaponDetection.Agent.Sync.Worker

/-!
# Snapshot capture and metadata sync in either order

Two components write about one event: `DetectionIngestHandler._process_snapshot` creates its
`SnapshotOutbox` row, and the sync worker associates the Backend's alert identifier with that row as
a side effect of marking the event delivered.  A run interleaves captures and drain iterations in
any order.

The association is a one-shot: `associate_alert_id` answers `False` when the row does not exist yet,
and nothing derives the identifier again once the event is delivered.  So the row carries the
identifier exactly when some answer that names the event is processed after the row was created
(`alert_associated_iff`), and a snapshot captured after the delivery is never uploaded.
-/

namespace WeaponDetection.Agent.Sync

open WeaponDetection.Foundations (KeyedTable)
open WeaponDetection.Foundations.Python
open WeaponDetection.Agent.Detection (Instant)
open WeaponDetection.Agent.Persistence

/-! ## Runs -/

/-- One step of either component. -/
inductive SnapshotStep where
  /-- `_process_snapshot` reaches `create_captured`. -/
  | capture (file : CapturedFile) (capturedAt : Instant)
  /-- One iteration of the sync worker. -/
  | drain (identity : Option DeviceIdentity) (answer : HttpAnswer)
      (deliveredAt finalizedAt : Instant)

/-- The database after a step; the handler drops snapshots while capture is disabled. -/
def step (cfg : SyncConfig) (db : Database) : SnapshotStep → Database
  | .capture file capturedAt =>
    if cfg.snapshotCaptureEnabled then (createCaptured db file capturedAt).getD db else db
  | .drain identity answer deliveredAt finalizedAt =>
    (drainOnce cfg identity answer deliveredAt finalizedAt db).db

/-- The database after a list of steps. -/
def run (cfg : SyncConfig) (db : Database) (xs : List SnapshotStep) : Database :=
  xs.foldl (step cfg) db

theorem run_snoc (cfg : SyncConfig) (db : Database) (xs : List SnapshotStep) (x : SnapshotStep) :
    run cfg db (xs ++ [x]) = step cfg (run cfg db xs) x := by
  simp [run, List.foldl_append]

/-! ## Naming an event -/

/-- An answer names an event exactly once, accepted or duplicate, with an alert identifier. -/
def NamedWith (eventId : Uuid) (alertId : String) (results : List PyValue) : Prop :=
  ∃ item, uniqueItem eventId results = some item ∧ alertIdOf item = some alertId

/-- Every answer of a step that says anything about the event names it with the identifier. -/
def AnswersWith (eventId : Uuid) (alertId : String) : SnapshotStep → Prop
  | .capture _ _ => True
  | .drain _ answer _ _ => ∀ results, answerResults answer = some results →
      mentions eventId results = [] ∨ NamedWith eventId alertId results

/-- The step is a drain iteration that sends a batch and is answered about the event. -/
def DeliversAlert (cfg : SyncConfig) (eventId : Uuid) (alertId : String) (db : Database) :
    SnapshotStep → Prop
  | .capture _ _ => False
  | .drain identity answer _ _ => batchToSend cfg db.detectionEvents identity ≠ [] ∧
      ∃ results, answerResults answer = some results ∧ NamedWith eventId alertId results

/-- The event's snapshot row exists. -/
def Captured (eventId : Uuid) (db : Database) : Prop := (db.snapshots.find? eventId).isSome = true

/-- The event's snapshot row carries the identifier and is ready for upload. -/
def ReadyWith (eventId : Uuid) (alertId : String) (db : Database) : Prop :=
  ∃ row, db.snapshots.find? eventId = some row ∧ row.backendAlertId = some alertId ∧ row.UploadReady

/-! ## What the sinks do to one row -/

/-- Associating a list of identifiers gives a row the first one that names it, unless it has one. -/
theorem find?_associateAlertIds (snapshots : SnapshotOutboxTable)
    (alertIds : List (Uuid × String)) (eventId : Uuid) :
    (associateAlertIds snapshots alertIds).find? eventId = (snapshots.find? eventId).map fun row =>
      { row with
        backendAlertId :=
          row.backendAlertId.or ((alertIds.find? fun named => named.1 = eventId).map Prod.snd) } := by
  unfold associateAlertIds
  induction alertIds generalizing snapshots with
  | nil => simp
  | cons named alertIds ih =>
    obtain ⟨id, alertId⟩ := named
    rw [List.foldl_cons, ih, find?_associateAlertId]
    cases hrow : snapshots.find? eventId with
    | none => rfl
    | some row =>
      have hrowId : row.eventId = eventId := (KeyedTable.find?_eq_some_iff.mp hrow).2
      by_cases hid : id = eventId
      · subst hid
        simp only [Option.map_some, hrowId, ↓reduceIte, List.find?_cons, decide_true]
        cases row.backendAlertId <;> rfl
      · have hne : row.eventId ≠ id := fun h => hid (h.symm.trans hrowId)
        simp only [Option.map_some, hne, ↓reduceIte, List.find?_cons, hid, decide_false]

/-- Cancelling snapshots of other events leaves a row alone. -/
theorem find?_foldl_cancelForQuota {eventIds : List Uuid} {eventId : Uuid}
    (h : eventId ∉ eventIds) (snapshots : SnapshotOutboxTable) :
    (eventIds.foldl cancelForQuota snapshots).find? eventId = snapshots.find? eventId := by
  induction eventIds generalizing snapshots with
  | nil => rfl
  | cons id eventIds ih =>
    rw [List.mem_cons, not_or] at h
    rw [List.foldl_cons, ih h.2, cancelForQuota, KeyedTable.find?_update]
    cases hrow : snapshots.find? eventId with
    | none => rfl
    | some row =>
      have hne : row.eventId ≠ id := fun heq =>
        h.1 ((KeyedTable.find?_eq_some_iff.mp hrow).2.symm.trans heq)
      simp [hne]

/-! ## What one step does to the event's row -/

/-- The first identifier an answer associates with the event. -/
def associated (eventId : Uuid) (results : List PyValue) : Option String :=
  ((parseResults results).alertIds.find? fun named => named.1 = eventId).map Prod.snd

theorem associated_of_namedWith {eventId : Uuid} {alertId : String} {results : List PyValue}
    (h : NamedWith eventId alertId results) : associated eventId results = some alertId := by
  have hmem := (mem_alertIds results eventId alertId).mpr h
  obtain ⟨item, hitem, halert⟩ := h
  have hsome : ((parseResults results).alertIds.find? fun named => named.1 = eventId).isSome := by
    simpa using ⟨alertId, hmem⟩
  obtain ⟨⟨id, other⟩, hother⟩ := Option.isSome_iff_exists.mp hsome
  have hid : id = eventId := by simpa using List.find?_some hother
  subst hid
  obtain ⟨item', hitem', hother'⟩ :=
    (mem_alertIds results id other).mp (List.mem_of_find?_eq_some hother)
  have hsame : other = alertId := by
    rw [hitem, Option.some.injEq] at hitem'
    rw [← hitem', halert, Option.some.injEq] at hother'
    exact hother'.symm
  rw [associated, hother, Option.map_some, hsame]

theorem uniqueItem_of_mentions_nil {eventId : Uuid} {results : List PyValue}
    (h : mentions eventId results = []) : uniqueItem eventId results = none := by
  rw [uniqueItem, h]

theorem associated_of_mentions_nil {eventId : Uuid} {results : List PyValue}
    (h : mentions eventId results = []) : associated eventId results = none := by
  rw [associated, Option.map_eq_none_iff, List.find?_eq_none]
  rintro ⟨id, alertId⟩ hmem
  rw [decide_eq_true_eq]
  rintro rfl
  obtain ⟨item, hitem, -⟩ := (mem_alertIds results id alertId).mp hmem
  rw [uniqueItem_of_mentions_nil h] at hitem
  simp at hitem

/-- An item with an alert identifier is accepted or duplicate. -/
theorem outcomeOf_of_alertIdOf {item : PyDict} {alertId : String}
    (h : alertIdOf item = some alertId) :
    outcomeOf item = some "accepted" ∨ outcomeOf item = some "duplicate" := by
  unfold alertIdOf at h
  split at h
  · assumption
  · simp at h

/-- The identifiers of an answer belong to events it delivers. -/
theorem associated_eq_none_of_not_delivered {eventId : Uuid} {results : List PyValue}
    (h : eventId ∉ (parseResults results).accepted ++ (parseResults results).duplicate) :
    associated eventId results = none := by
  rw [associated, Option.map_eq_none_iff, List.find?_eq_none]
  rintro ⟨id, alertId⟩ hmem
  rw [decide_eq_true_eq]
  rintro rfl
  obtain ⟨item, hitem, halert⟩ := (mem_alertIds results id alertId).mp hmem
  rw [List.mem_append, mem_accepted, mem_duplicate] at h
  rcases outcomeOf_of_alertIdOf halert with hout | hout
  · exact h (.inl ⟨item, hitem, hout⟩)
  · exact h (.inr ⟨item, hitem, hout⟩)

/-- An event the answers only deliver is not among the quota-suppressed ones. -/
theorem not_mem_quotaExceeded {eventId : Uuid} {alertId : String} {results : List PyValue}
    (h : mentions eventId results = [] ∨ NamedWith eventId alertId results) :
    eventId ∉ (parseResults results).quotaExceeded.map Prod.fst := by
  rw [mem_quotaExceeded]
  rintro ⟨item, hitem, hout⟩
  rcases h with hnil | ⟨item', hitem', halert⟩
  · rw [uniqueItem_of_mentions_nil hnil] at hitem
    simp at hitem
  · rw [hitem, Option.some.injEq] at hitem'
    subst hitem'
    rcases outcomeOf_of_alertIdOf halert with h | h <;> simp [hout] at h

/-- The event's row after an answered iteration: it takes the identifier of the answer, unless it
has one. -/
theorem find?_snapshots_drainOnce {cfg : SyncConfig} (henabled : cfg.snapshotCaptureEnabled = true)
    {identity : Option DeviceIdentity} {answer : HttpAnswer} {db : Database}
    (hbatch : batchToSend cfg db.detectionEvents identity ≠ []) {results : List PyValue}
    (hresults : answerResults answer = some results) {eventId : Uuid}
    (hquota : eventId ∉ (parseResults results).quotaExceeded.map Prod.fst)
    (deliveredAt finalizedAt : Instant) :
    (drainOnce cfg identity answer deliveredAt finalizedAt db).db.snapshots.find? eventId =
      (db.snapshots.find? eventId).map fun row =>
        { row with backendAlertId := row.backendAlertId.or (associated eventId results) } := by
  have hdelivered : (markDelivered cfg (parseResults results) deliveredAt db).snapshots.find?
      eventId = (db.snapshots.find? eventId).map fun row =>
        { row with backendAlertId := row.backendAlertId.or (associated eventId results) } := by
    unfold markDelivered
    by_cases hnil : (parseResults results).accepted ++ (parseResults results).duplicate = []
    · have hnone : associated eventId results = none :=
        associated_eq_none_of_not_delivered (by simp [hnil])
      simp [hnil, hnone]
    · simp only [hnil, ↓reduceIte, henabled]
      exact find?_associateAlertIds _ _ _
  simp only [drainOnce, hbatch, ↓reduceIte, classify_of_answerResults hresults]
  rw [← hdelivered]
  unfold markSuppressedByQuota
  by_cases hnil : (parseResults results).quotaExceeded.map Prod.fst = []
  · simp [hnil]
  · simp only [hnil, ↓reduceIte, henabled]
    exact find?_foldl_cancelForQuota hquota _

/-- A drain iteration that sends nothing, or gets no results, leaves the database alone. -/
theorem drainOnce_db_of_no_results {cfg : SyncConfig} {identity : Option DeviceIdentity}
    {answer : HttpAnswer} {db : Database} {deliveredAt finalizedAt : Instant}
    (h : batchToSend cfg db.detectionEvents identity = [] ∨ answerResults answer = none) :
    (drainOnce cfg identity answer deliveredAt finalizedAt db).db = db := by
  unfold drainOnce
  by_cases hbatch : batchToSend cfg db.detectionEvents identity = []
  · simp [hbatch]
  · obtain ⟨failure, hfailure⟩ := classify_of_answerResults_none (h.resolve_left hbatch)
    simp [hbatch, hfailure]

/-- A capture leaves the event's row alone or creates it, fresh. -/
theorem capture_cases (cfg : SyncConfig) (db : Database) (file : CapturedFile)
    (capturedAt : Instant) (eventId : Uuid) :
    (step cfg db (.capture file capturedAt)).snapshots.find? eventId =
        db.snapshots.find? eventId ∨
      (db.snapshots.find? eventId = none ∧
        (step cfg db (.capture file capturedAt)).snapshots.find? eventId =
          some (file.row capturedAt)) := by
  simp only [step]
  split
  · unfold createCaptured
    cases db.detectionEvents.find? file.eventId with
    | none => exact .inl rfl
    | some _ =>
      cases hins : db.snapshots.insert (file.row capturedAt) with
      | none => exact .inl (by simp)
      | some snapshots =>
        have hfind := KeyedTable.find?_of_insert hins eventId
        by_cases hid : (file.row capturedAt).eventId = eventId
        · refine .inr ⟨?_, by simpa [hins, hid] using hfind⟩
          rw [KeyedTable.find?_eq_none_iff]
          exact fun r hr => hid ▸ (KeyedTable.insert_eq_some_iff.mp hins).1 r hr
        · exact .inl (by simpa [hins, hid] using hfind)
  · exact .inl rfl

/-- A drain iteration whose answer names the event as it should either says nothing about it and
leaves its row alone, or delivers it and gives its row the identifier. -/
theorem drain_cases {cfg : SyncConfig} (henabled : cfg.snapshotCaptureEnabled = true)
    (db : Database) {identity : Option DeviceIdentity} {answer : HttpAnswer}
    {deliveredAt finalizedAt : Instant} {eventId : Uuid} {alertId : String}
    (hanswer : AnswersWith eventId alertId (.drain identity answer deliveredAt finalizedAt)) :
    (¬ DeliversAlert cfg eventId alertId db (.drain identity answer deliveredAt finalizedAt) ∧
        (step cfg db (.drain identity answer deliveredAt finalizedAt)).snapshots.find? eventId =
          db.snapshots.find? eventId) ∨
      (DeliversAlert cfg eventId alertId db (.drain identity answer deliveredAt finalizedAt) ∧
        (step cfg db (.drain identity answer deliveredAt finalizedAt)).snapshots.find? eventId =
          (db.snapshots.find? eventId).map fun row =>
            { row with backendAlertId := row.backendAlertId.or (some alertId) }) := by
  by_cases hbatch : batchToSend cfg db.detectionEvents identity = []
  · exact .inl ⟨fun h => h.1 hbatch, by rw [step, drainOnce_db_of_no_results (.inl hbatch)]⟩
  cases hresults : answerResults answer with
  | none =>
    refine .inl ⟨fun ⟨_, results, hsome, _⟩ => ?_, by
      rw [step, drainOnce_db_of_no_results (.inr hresults)]⟩
    rw [hresults] at hsome
    simp at hsome
  | some results =>
    have hrow := find?_snapshots_drainOnce henabled hbatch hresults
      (not_mem_quotaExceeded (hanswer results hresults)) deliveredAt finalizedAt
    rcases hanswer results hresults with hnil | hnamed
    · refine .inl ⟨?_, ?_⟩
      · rintro ⟨-, results', hresults', item, hitem, -⟩
        rw [hresults, Option.some.injEq] at hresults'
        subst hresults'
        rw [uniqueItem_of_mentions_nil hnil] at hitem
        simp at hitem
      · rw [step, hrow, associated_of_mentions_nil hnil]
        simp
    · refine .inr ⟨⟨hbatch, results, hresults, hnamed⟩, ?_⟩
      rw [step, hrow, associated_of_namedWith hnamed]

/-! ## The association over a run -/

/-- Some answer that delivers the event is processed after its snapshot row was created. -/
def DeliveredAfterCapture (cfg : SyncConfig) (eventId : Uuid) (alertId : String) (db : Database)
    (xs : List SnapshotStep) : Prop :=
  ∃ pre x post, xs = pre ++ x :: post ∧ Captured eventId (run cfg db pre) ∧
    DeliversAlert cfg eventId alertId (run cfg db pre) x

theorem deliveredAfterCapture_snoc (cfg : SyncConfig) (eventId : Uuid) (alertId : String)
    (db : Database) (xs : List SnapshotStep) (x : SnapshotStep) :
    DeliveredAfterCapture cfg eventId alertId db (xs ++ [x]) ↔
      DeliveredAfterCapture cfg eventId alertId db xs ∨
        (Captured eventId (run cfg db xs) ∧ DeliversAlert cfg eventId alertId (run cfg db xs) x) := by
  constructor
  · rintro ⟨pre, y, post, hsplit, hy⟩
    rcases List.eq_nil_or_concat' post with rfl | ⟨post, z, rfl⟩
    · obtain ⟨rfl, hlast⟩ := List.append_inj' hsplit rfl
      cases hlast
      exact .inr hy
    · rw [← List.cons_append, ← List.append_assoc] at hsplit
      obtain ⟨hpre, -⟩ := List.append_inj' hsplit rfl
      exact .inl ⟨pre, y, post, hpre, hy⟩
  · rintro (⟨pre, y, post, rfl, hy⟩ | hx)
    · exact ⟨pre, y, post ++ [x], by simp, hy⟩
    · exact ⟨xs, x, [], rfl, hx⟩

/-- The run invariant: the event's row, once created, is pending, and carries the identifier exactly
when the event was delivered after the creation; before that it was not delivered so. -/
theorem row_run {cfg : SyncConfig} (henabled : cfg.snapshotCaptureEnabled = true) {db : Database}
    {eventId : Uuid} {alertId : String} (hfresh : db.snapshots.find? eventId = none)
    {xs : List SnapshotStep} (hanswers : ∀ x ∈ xs, AnswersWith eventId alertId x) :
    match (run cfg db xs).snapshots.find? eventId with
    | none => ¬ DeliveredAfterCapture cfg eventId alertId db xs
    | some row => row.captureStatus = .captured ∧ row.uploadStatus = .pending ∧
        ((DeliveredAfterCapture cfg eventId alertId db xs ∧ row.backendAlertId = some alertId) ∨
          (¬ DeliveredAfterCapture cfg eventId alertId db xs ∧ row.backendAlertId = none)) := by
  induction xs using List.reverseRecOn with
  | nil =>
    have hnone : (run cfg db []).snapshots.find? eventId = none := hfresh
    rw [hnone]
    rintro ⟨pre, x, post, hsplit, -⟩
    simp at hsplit
  | append_singleton xs x ih =>
    have ih := ih fun y hy => hanswers y (List.mem_append_left _ hy)
    have hx : AnswersWith eventId alertId x := hanswers x (by simp)
    rw [run_snoc, deliveredAfterCapture_snoc]
    cases x with
    | capture file capturedAt =>
      have hno : ¬ DeliversAlert cfg eventId alertId (run cfg db xs) (.capture file capturedAt) :=
        not_false
      rcases capture_cases cfg (run cfg db xs) file capturedAt eventId with hsame | ⟨hnone, hnew⟩
      · rw [hsame]
        simpa only [hno, and_false, or_false] using ih
      · rw [hnone] at ih
        rw [hnew]
        simp only [hno, and_false, or_false]
        exact ⟨rfl, rfl, .inr ⟨ih, rfl⟩⟩
    | drain identity answer deliveredAt finalizedAt =>
      rcases drain_cases henabled (run cfg db xs) hx with ⟨hno, hsame⟩ | ⟨hyes, hrow⟩
      · rw [hsame]
        simpa only [hno, and_false, or_false] using ih
      · rw [hrow]
        cases hfind : (run cfg db xs).snapshots.find? eventId with
        | none =>
          rw [hfind] at ih
          simpa [Captured, hfind] using ih
        | some row =>
          rw [hfind] at ih
          obtain ⟨hcaptured, hpending, halert⟩ := ih
          refine ⟨hcaptured, hpending, .inl ⟨.inr ⟨by simp [Captured, hfind], hyes⟩, ?_⟩⟩
          rcases halert with ⟨-, halert⟩ | ⟨-, halert⟩ <;> simp [halert]

/-- With capture disabled no component touches the snapshot table. -/
theorem snapshots_run_of_disabled {cfg : SyncConfig} (h : cfg.snapshotCaptureEnabled = false)
    (db : Database) (xs : List SnapshotStep) : (run cfg db xs).snapshots = db.snapshots := by
  induction xs using List.reverseRecOn with
  | nil => rfl
  | append_singleton xs x ih =>
    rw [run_snoc, ← ih]
    cases x with
    | capture file capturedAt => simp [step, h]
    | drain identity answer deliveredAt finalizedAt =>
      simp only [step, drainOnce]
      split
      · rfl
      · split
        · rfl
        · simp only [markSuppressedByQuota, markDelivered, h, Bool.false_eq_true, ↓reduceIte]
          split_ifs <;> rfl

/-- Snapshot and metadata in either order.  Over every interleaving of captures and drain iterations
whose answers name the event, if at all, accepted or duplicate with one alert identifier: a captured
snapshot carries that identifier and is ready for upload if and only if some such answer is processed
after its row was created. -/
theorem alert_associated_iff (cfg : SyncConfig) (db : Database) (eventId : Uuid)
    (alertId : String) (hfresh : db.snapshots.find? eventId = none) (xs : List SnapshotStep)
    (hanswers : ∀ x ∈ xs, AnswersWith eventId alertId x)
    (hcaptured : Captured eventId (run cfg db xs)) :
    ReadyWith eventId alertId (run cfg db xs) ↔
      DeliveredAfterCapture cfg eventId alertId db xs := by
  have henabled : cfg.snapshotCaptureEnabled = true := by
    by_contra hdisabled
    rw [Captured, snapshots_run_of_disabled (by simpa using hdisabled), hfresh] at hcaptured
    simp at hcaptured
  have hrow := row_run henabled hfresh hanswers
  obtain ⟨row, hfind⟩ := Option.isSome_iff_exists.mp hcaptured
  rw [hfind] at hrow
  obtain ⟨hcap, hpending, halert⟩ := hrow
  constructor
  · rintro ⟨row', hfind', halert', -⟩
    rw [hfind, Option.some.injEq] at hfind'
    subst hfind'
    rcases halert with ⟨hyes, -⟩ | ⟨-, hnone⟩
    · exact hyes
    · rw [hnone] at halert'
      simp at halert'
  · intro hyes
    have hsome : row.backendAlertId = some alertId := by
      rcases halert with ⟨-, halert⟩ | ⟨hno, -⟩
      · exact halert
      · exact absurd hyes hno
    exact ⟨row, hfind, hsome, hcap, hpending, by simp [hsome]⟩

/-! ## The two orders -/

/-- One pending detection without a snapshot. -/
def onePending : Database :=
  { detectionEvents := ⟨[newRow (sampleEvent 1) 0], nodup_samplePending⟩, snapshots := .empty }

/-- A worker with snapshot capture. -/
def withSnapshots : SyncConfig :=
  { batchSize := 10, batchSize_pos := by decide, snapshotCaptureEnabled := true }

/-- The item that delivers the detection. -/
def acceptedItem : PyDict :=
  [("eventId", .str "00000000-0000-0000-0000-000000000001"), ("outcome", .str "accepted"),
    ("alertId", .str "alert-1")]

/-- A drain iteration answered with that item. -/
def deliver : SnapshotStep :=
  .drain (some sampleIdentity)
    (.response 200 (some (.dict [("success", .bool true),
      ("data", .dict [("results", .list [.dict acceptedItem])])]))) 0 0

/-- The capture of the detection's snapshot. -/
def captureOne : SnapshotStep :=
  .capture { eventId := 1, localPath := "spool/1.jpg", contentType := "image/jpeg"
             sizeBytes := 5, sha256 := "" } 0

theorem deliver_namedWith : NamedWith 1 "alert-1" [.dict acceptedItem] :=
  ⟨acceptedItem, rfl, by decide⟩

theorem deliver_answersWith : AnswersWith 1 "alert-1" deliver := fun results h => by
  have hresults : answerResults (.response 200 (some (.dict [("success", .bool true),
      ("data", .dict [("results", .list [.dict acceptedItem])])]))) =
        some [.dict acceptedItem] := rfl
  rw [hresults, Option.some.injEq] at h
  exact h ▸ .inr deliver_namedWith

/-- Capture first: the delivery finds the row. -/
theorem alert_associated_captureFirst :
    ReadyWith 1 "alert-1" (run withSnapshots onePending [captureOne, deliver]) :=
  (alert_associated_iff withSnapshots onePending 1 "alert-1" rfl [captureOne, deliver]
    (by
      intro x hx
      rw [List.mem_cons, List.mem_singleton] at hx
      rcases hx with rfl | rfl
      · trivial
      · exact deliver_answersWith) (by unfold Captured; decide +kernel)).mpr
    ⟨[captureOne], deliver, [], rfl, by unfold Captured; decide +kernel, by
      exact ⟨by decide +kernel, _, rfl, deliver_namedWith⟩⟩

/-- Delivery first: the identifier is dropped, the row created later stays without one, and no
further iteration of the worker repairs it. -/
theorem late_capture_not_associated :
    ¬ ∀ (cfg : SyncConfig) (db : Database) (eventId : Uuid) (alertId : String)
        (xs : List SnapshotStep),
      (db.detectionEvents.find? eventId).map OutboxRow.deliveryStatus = some .pending →
      db.snapshots.find? eventId = none → (∀ x ∈ xs, AnswersWith eventId alertId x) →
      Captured eventId (run cfg db xs) →
      ((run cfg db xs).detectionEvents.find? eventId).map OutboxRow.deliveryStatus =
        some .delivered →
      ReadyWith eventId alertId (run cfg db xs) := by
  intro h
  obtain ⟨row, hrow, halert, -⟩ := h withSnapshots onePending 1 "alert-1"
    [deliver, captureOne, deliver] (by decide +kernel) rfl
    (by
      intro x hx
      simp only [List.mem_cons, List.not_mem_nil, or_false] at hx
      rcases hx with rfl | rfl | rfl
      · exact deliver_answersWith
      · trivial
      · exact deliver_answersWith) (by unfold Captured; decide +kernel) (by decide +kernel)
  have hnone : ((run withSnapshots onePending [deliver, captureOne, deliver]).snapshots.find?
      1).map SnapshotOutboxRecord.backendAlertId = some none := by decide +kernel
  rw [hrow, Option.map_some, halert] at hnone
  simp at hnone

end WeaponDetection.Agent.Sync
