import WeaponDetection.Agent.Persistence.IsoTime
import WeaponDetection.Agent.Persistence.Outbox

/-!
# The outbox is drained oldest first

The `DetectionEvent` table holds texts: `list_pending` has SQLite order them, character by character,
and reads each row back into an event.  `oldest_first` says that this is the order of the instants, so
that the outbox of instants (`Persistence.listPending`) is what the repository computes.
-/

namespace WeaponDetection.Agent.Persistence

open WeaponDetection.Foundations.Python
open WeaponDetection.Agent.Detection
open WeaponDetection.Contract

/-! ## The stored rows -/

/-- A row of the table as SQLite holds it; `_SELECT_PENDING` reads these columns. -/
structure StoredRow where
  eventId : List Char
  deviceId : String
  cameraId : String
  sourceId : ℤ
  classId : ℤ
  className : String
  confidence : ℚ
  frameNumber : ℤ
  detectedAtUtc : List Char
  frameWidth : ℤ
  frameHeight : ℤ
  bboxLeft : ℚ
  bboxTop : ℚ
  bboxWidth : ℚ
  bboxHeight : ℚ
  deliveryStatus : DeliveryStatus
  createdAtUtc : List Char

/-- The parameters of `_INSERT`, as the columns keep them. -/
def OutboxRow.stored (row : OutboxRow) : StoredRow where
  eventId := (uuidText row.event.eventId).toList
  deviceId := row.event.deviceId
  cameraId := row.event.cameraId
  sourceId := row.event.sourceId
  classId := row.event.classId
  className := row.event.className
  confidence := row.event.confidence
  frameNumber := row.event.frameNumber
  detectedAtUtc := Contract.toIsoUtc row.event.detectedAtUtc
  frameWidth := row.event.frameWidth
  frameHeight := row.event.frameHeight
  bboxLeft := row.event.bboxLeft
  bboxTop := row.event.bboxTop
  bboxWidth := row.event.bboxWidth
  bboxHeight := row.event.bboxHeight
  deliveryStatus := row.deliveryStatus
  createdAtUtc := Contract.toIsoUtc row.createdAtUtc

/-- An event as `list_pending` returns it, with its `created_at_utc`. -/
abbrev ReadEvent := DetectionEvent × Instant

/-- What `list_pending` raises. -/
inductive ListError where
  | valueError
  /-- A Python `int` that `sqlite3` cannot bind. -/
  | overflowError
  /-- `InvalidDetectionEventStateError`. -/
  | invalidState
  deriving DecidableEq

/-- What `_row_to_event` makes of a failed step: only a `ValueError` is turned into its own error. -/
def rowError : PyError → ListError
  | .valueError => .invalidState
  | .overflowError => .overflowError

/-- `_row_to_event`. -/
def rowToEvent (row : StoredRow) : Except ListError ReadEvent := do
  let eventId ← (uuidOfText (String.ofList row.eventId)).elim (.error .invalidState) .ok
  let detectedAtUtc ← (parseIsoUtc row.detectedAtUtc).mapError rowError
  let createdAtUtc ← (parseIsoUtc row.createdAtUtc).mapError rowError
  let event ← (DetectionEvent.new {
    eventId, detectedAtUtc
    deviceId := row.deviceId, cameraId := row.cameraId, sourceId := row.sourceId
    classId := row.classId, className := row.className, confidence := row.confidence
    frameNumber := row.frameNumber, frameWidth := row.frameWidth, frameHeight := row.frameHeight
    bboxLeft := row.bboxLeft, bboxTop := row.bboxTop, bboxWidth := row.bboxWidth
    bboxHeight := row.bboxHeight }).mapError rowError
  return (event, createdAtUtc)

/-- `ORDER BY DetectedAtUtc ASC, EventId ASC`, both as texts. -/
def textOrder (a b : StoredRow) : Prop :=
  a.detectedAtUtc < b.detectedAtUtc ∨ (a.detectedAtUtc = b.detectedAtUtc ∧ a.eventId ≤ b.eventId)

instance : DecidableRel textOrder := fun _ _ => inferInstanceAs (Decidable (_ ∨ _))

/-- `_SELECT_PENDING`. -/
def selectPending (rows : List StoredRow) (limit : ℕ) : List StoredRow :=
  ((rows.filter fun row => decide (row.deliveryStatus = .pending)).insertionSort textOrder).take limit

/-- `list_pending` on the stored rows. -/
def listPendingRows (rows : List StoredRow) (limit : ℤ) : Except ListError (List ReadEvent) :=
  if limit ≤ 0 then .error .valueError
  else if ¬ FitsInteger limit then .error .overflowError
  else (selectPending rows limit.toNat).mapM rowToEvent

/-! ## What a stored row is read back as -/

/-- The timestamps of a row are instants of `datetime`. -/
structure OutboxRow.Dated (row : OutboxRow) : Prop where
  detectedAtUtc : IsDatetime row.event.detectedAtUtc
  createdAtUtc : IsDatetime row.createdAtUtc

theorem rowToEvent_stored {row : OutboxRow} (h : row.Dated) :
    rowToEvent row.stored = .ok (row.event, row.createdAtUtc) := by
  have hid : uuidOfText (String.ofList row.stored.eventId) = some row.event.eventId := by
    rw [OutboxRow.stored, String.ofList_toList, uuidOfText_uuidText]
  have hdetected : parseIsoUtc row.stored.detectedAtUtc = .ok row.event.detectedAtUtc :=
    parseIsoUtc_toIsoUtc h.detectedAtUtc
  have hcreated : parseIsoUtc row.stored.createdAtUtc = .ok row.createdAtUtc :=
    parseIsoUtc_toIsoUtc h.createdAtUtc
  have hnew : DetectionEvent.new row.event.toDetectionFields = .ok row.event := dif_pos row.event.wellFormed
  unfold rowToEvent
  rw [hid, hdetected, hcreated]
  exact congrArg (fun r => (r.mapError rowError).bind fun event => .ok (event, row.createdAtUtc)) hnew

theorem mapM_rowToEvent_stored {rows : List OutboxRow} (h : ∀ row ∈ rows, row.Dated) :
    (rows.map OutboxRow.stored).mapM rowToEvent =
      .ok (rows.map fun row => (row.event, row.createdAtUtc)) := by
  induction rows with
  | nil => rfl
  | cons row rows ih =>
    rw [List.forall_mem_cons] at h
    rw [List.map_cons, List.mapM_cons, rowToEvent_stored h.1, ih h.2]
    rfl

/-! ## The order -/

theorem textOrder_stored_iff {a b : OutboxRow} (ha : a.Dated) (hb : b.Dated) :
    textOrder a.stored b.stored ↔ pendingOrder a b := by
  have hid : (uuidText a.event.eventId).toList ≤ (uuidText b.event.eventId).toList ↔
      a.event.eventId ≤ b.event.eventId := by
    rw [← not_lt, uuidText_lt_iff, BitVec.not_lt]
  simp only [textOrder, pendingOrder, OutboxRow.stored, toIsoUtc_lt_iff ha.detectedAtUtc hb.detectedAtUtc,
    toIsoUtc_inj ha.detectedAtUtc hb.detectedAtUtc, hid]

/-- SQLite picks the rows the outbox of instants does. -/
theorem selectPending_stored {table : DetectionEventTable} (h : ∀ row ∈ table, row.Dated) (limit : ℕ) :
    selectPending (table.rows.map OutboxRow.stored) limit = (listPending table limit).map OutboxRow.stored := by
  have hfilter : (table.rows.map OutboxRow.stored).filter (fun row => decide (row.deliveryStatus = .pending)) =
      (table.rows.filter fun row => decide (row.deliveryStatus = .pending)).map OutboxRow.stored := by
    rw [List.filter_map]
    rfl
  rw [selectPending, listPending, hfilter, ← List.map_insertionSort pendingOrder textOrder, List.map_take]
  intro a ha b hb
  exact (textOrder_stored_iff (h a (List.mem_of_mem_filter ha)) (h b (List.mem_of_mem_filter hb))).symm

/-- **Oldest first.**  Aware values UTC can show are written as texts that order as their instants and
are read back as these; and `list_pending` returns the first pending events by instant of detection,
then by identifier. -/
theorem oldest_first :
    (∀ a b : Datetime, a.IsAware → b.IsAware → IsDatetime a.instant → IsDatetime b.instant →
      ∃ s t, a.toIsoUtc = .ok s ∧ b.toIsoUtc = .ok t ∧ (s < t ↔ a.instant < b.instant) ∧
        parseIsoUtc s = .ok a.instant) ∧
    ∀ (table : DetectionEventTable) (limit : ℤ), (∀ row ∈ table, row.Dated) → 1 ≤ limit → limit < 2 ^ 63 →
      listPendingRows (table.rows.map OutboxRow.stored) limit =
        .ok ((listPending table limit.toNat).map fun row => (row.event, row.createdAtUtc)) := by
  constructor
  · intro a b haware haware' ha hb
    exact ⟨_, _, a.toIsoUtc_eq_ok haware ha, b.toIsoUtc_eq_ok haware' hb, toIsoUtc_lt_iff ha hb,
      parseIsoUtc_toIsoUtc ha⟩
  · intro table limit hdated hpos hlt
    have hfits : FitsInteger limit := ⟨by omega, hlt⟩
    have hlisted : ∀ row ∈ listPending table limit.toNat, row.Dated := by
      intro row hrow
      exact hdated row (mem_listPending hrow).1
    rw [listPendingRows, if_neg (by omega), if_neg (not_not.2 hfits), selectPending_stored hdated,
      mapM_rowToEvent_stored hlisted]

/-- A gun seen at an instant. -/
def drainedEvent (eventId : Uuid) (detectedAtUtc : Instant) : DetectionEvent where
  eventId := eventId
  deviceId := "device-1"
  cameraId := "camera-1"
  sourceId := 0
  classId := 2
  className := "Gun"
  confidence := 1 / 2
  frameNumber := 7
  detectedAtUtc := detectedAtUtc
  frameWidth := 10
  frameHeight := 10
  bboxLeft := 1
  bboxTop := 1
  bboxWidth := 2
  bboxHeight := 2
  wellFormed := by constructor <;> norm_num

/-- 23:30:00 UTC and half a second later; the later one is stored first. -/
def drainedRows : List OutboxRow :=
  [newRow (drainedEvent 1 63844846200500000) 63844846201000000,
    newRow (drainedEvent 2 63844846200000000) 63844846201000000]

theorem nodup_drainedRows : (drainedRows.map OutboxRow.eventId).Nodup := by decide

theorem dated_drainedRows : ∀ row ∈ drainedRows, row.Dated := by
  rintro row hrow
  rcases List.mem_pair.1 hrow with rfl | rfl <;> exact ⟨by decide, by decide⟩

/-- A clock two hours ahead of UTC shows 01:30:00, a clock on UTC half a second more than 23:30; and a
batch of one is the event without a fraction. -/
theorem oldest_first_two :
    (∃ a b : Datetime, a.utcOffset = some 7200000000 ∧ b.utcOffset = some 0 ∧ b.reading < a.reading ∧
      ∃ s t, a.toIsoUtc = .ok s ∧ b.toIsoUtc = .ok t ∧ s < t) ∧
    listPendingRows (drainedRows.map OutboxRow.stored) 1 =
      .ok [(drainedEvent 2 63844846200000000, 63844846201000000)] := by
  constructor
  · let a : Datetime := ⟨63844853400000000, some 7200000000, by decide, by simp [IsUtcOffset]⟩
    let b : Datetime := ⟨63844846200500000, some 0, by decide, by simp [IsUtcOffset]⟩
    obtain ⟨s, t, hs, ht, hlt, -⟩ := oldest_first.1 a b (by simp [Datetime.IsAware, a])
      (by simp [Datetime.IsAware, b]) (by decide) (by decide)
    exact ⟨a, b, rfl, rfl, by decide, s, t, hs, ht, hlt.2 (by decide)⟩
  · have hlisted := oldest_first.2 ⟨drainedRows, nodup_drainedRows⟩ 1 dated_drainedRows (by decide) (by decide)
    rw [hlisted]
    decide +kernel

/-- One hour into year 1 on a clock one hour ahead of UTC: the value is aware, and has no text. -/
theorem first_hour_has_no_text :
    ¬ ∀ a b : Datetime, a.IsAware → b.IsAware →
      ∃ s t, a.toIsoUtc = .ok s ∧ b.toIsoUtc = .ok t ∧ (s < t ↔ a.instant < b.instant) := by
  intro h
  let a : Datetime := ⟨0, some 3600000000, by decide, by simp [IsUtcOffset]⟩
  obtain ⟨s, -, hs, -, -⟩ := h a a (by simp [Datetime.IsAware, a]) (by simp [Datetime.IsAware, a])
  have hraises : a.toIsoUtc = .error .overflowError := by decide
  rw [hraises] at hs
  cases hs

end WeaponDetection.Agent.Persistence
