import WeaponDetection.Agent.Persistence.Outbox
import WeaponDetection.Backend.Contracts

/-!
# The sync item on both sides of the wire

The Agent renders a stored detection with `_serialize_event`; the Backend binds the JSON item to
`DetectionEventDto` and runs `IsConfidenceValid` and `IsFrameAndBoundingBoxValid` on it.  An item
that does not bind fails the model binding of the whole request, so one such row turns every batch
that carries it into a `400`.

Python integers are unbounded and SQLite keeps 64 bits of them, while `ClassId`, `SourceId`,
`FrameWidth` and `FrameHeight` are 32-bit on the Backend.  `sync_contract` says exactly which stored
detections cross the wire.
-/

namespace WeaponDetection.Contract

open WeaponDetection.Foundations (Double)
open WeaponDetection.Foundations.Python
open WeaponDetection.Agent.Detection
open WeaponDetection.Agent.Persistence
open WeaponDetection.Backend

/-! ## The JSON item -/

/-- The `boundingBox` object of an item. -/
structure BoundingBoxJson where
  left : Double
  top : Double
  width : Double
  height : Double

/-- One item of the `events` array, as the Agent writes it: integers of any size, doubles, and
instants as ISO-8601 text with an explicit offset. -/
structure DetectionEventJson where
  eventId : Uuid
  cameraId : String
  detectedAtUtc : Instant
  createdAtUtc : Instant
  classId : ℤ
  className : String
  confidence : Double
  sourceId : ℤ
  frameNumber : ℤ
  frameWidth : ℤ
  frameHeight : ℤ
  boundingBox : BoundingBoxJson

/-- `_serialize_event`. -/
def serializeEvent (row : OutboxRow) : DetectionEventJson :=
  { eventId := row.event.eventId
    cameraId := row.event.cameraId
    detectedAtUtc := row.event.detectedAtUtc
    createdAtUtc := row.createdAtUtc
    classId := row.event.classId
    className := row.event.className
    confidence := .finite row.event.confidence
    sourceId := row.event.sourceId
    frameNumber := row.event.frameNumber
    frameWidth := row.event.frameWidth
    frameHeight := row.event.frameHeight
    boundingBox :=
      { left := .finite row.event.bboxLeft
        top := .finite row.event.bboxTop
        width := .finite row.event.bboxWidth
        height := .finite row.event.bboxHeight } }

/-! ## Model binding -/

/-- A JSON integer bound to `int`. -/
def bindInt (i : ℤ) : Option CsInt :=
  if h : -2 ^ 31 ≤ i ∧ i ≤ 2 ^ 31 - 1 then some ⟨i, h⟩ else none

/-- A JSON integer bound to `long`. -/
def bindLong (i : ℤ) : Option CsLong :=
  if h : -2 ^ 63 ≤ i ∧ i ≤ 2 ^ 63 - 1 then some ⟨i, h⟩ else none

/-- A JSON number bound to `double`; the infinities and NaN are not JSON. -/
def bindDouble : Double → Option Double
  | .finite q => some (.finite q)
  | _ => none

/-- Text with an explicit offset binds to a `DateTime` on the host's clock. -/
def bindDateTime (host : TimeZone) (instant : Instant) : DateTime :=
  ⟨10 * instant + host.offset (10 * instant), .local⟩

/-- An item bound to `DetectionEventDto`, `none` when a member does not fit its type. -/
def bindDetectionEventDto (host : TimeZone) (j : DetectionEventJson) :
    Option DetectionEventDto := do
  let classId ← bindInt j.classId
  let confidence ← bindDouble j.confidence
  let sourceId ← bindInt j.sourceId
  let frameNumber ← bindLong j.frameNumber
  let frameWidth ← bindInt j.frameWidth
  let frameHeight ← bindInt j.frameHeight
  let left ← bindDouble j.boundingBox.left
  let top ← bindDouble j.boundingBox.top
  let width ← bindDouble j.boundingBox.width
  let height ← bindDouble j.boundingBox.height
  return { eventId := j.eventId, cameraId := j.cameraId
           detectedAtUtc := bindDateTime host j.detectedAtUtc
           createdAtUtc := bindDateTime host j.createdAtUtc
           classId, className := j.className, confidence, sourceId, frameNumber, frameWidth
           frameHeight, boundingBox := { left, top, width, height } }

/-- The `events` array of a request: it binds only as a whole. -/
def bindSyncEventsRequest (host : TimeZone) :
    List DetectionEventJson → Option (List DetectionEventDto)
  | [] => some []
  | j :: js => do
    let dto ← bindDetectionEventDto host j
    let dtos ← bindSyncEventsRequest host js
    return dto :: dtos

/-- An item binds and passes both input checks of the service. -/
def accepts (host : TimeZone) (j : DetectionEventJson) : Bool :=
  match bindDetectionEventDto host j with
  | some dto => isConfidenceValid dto.confidence && isFrameAndBoundingBoxValid dto
  | none => false

theorem bindInt_of_mem {i : ℤ} (h : -2 ^ 31 ≤ i ∧ i ≤ 2 ^ 31 - 1) : bindInt i = some ⟨i, h⟩ :=
  dif_pos h

theorem bindLong_of_mem {i : ℤ} (h : -2 ^ 63 ≤ i ∧ i ≤ 2 ^ 63 - 1) : bindLong i = some ⟨i, h⟩ :=
  dif_pos h

theorem bindInt_isSome_iff (i : ℤ) :
    (bindInt i).isSome = true ↔ -2 ^ 31 ≤ i ∧ i ≤ 2 ^ 31 - 1 := by
  unfold bindInt
  split
  · exact iff_of_true rfl ‹_›
  · exact iff_of_false Bool.false_ne_true ‹_›

theorem bindSyncEventsRequest_cons (host : TimeZone) (j : DetectionEventJson)
    (js : List DetectionEventJson) :
    bindSyncEventsRequest host (j :: js) = (bindDetectionEventDto host j).bind fun dto =>
      (bindSyncEventsRequest host js).bind fun dtos => some (dto :: dtos) := rfl

/-- A request binds exactly when each of its items does. -/
theorem bindSyncEventsRequest_isSome_iff (host : TimeZone) (js : List DetectionEventJson) :
    (bindSyncEventsRequest host js).isSome = true ↔
      ∀ j ∈ js, (bindDetectionEventDto host j).isSome = true := by
  induction js with
  | nil => simp [bindSyncEventsRequest]
  | cons j js ih =>
    rw [List.forall_mem_cons, ← ih, bindSyncEventsRequest_cons]
    cases bindDetectionEventDto host j <;> cases bindSyncEventsRequest host js <;> simp

/-! ## When a stored row crosses the wire -/

/-- The four integers of a row that the Backend reads into 32 bits fit there. -/
structure RowFits (d : DetectionFields) : Prop where
  classId : -2 ^ 31 ≤ d.classId ∧ d.classId ≤ 2 ^ 31 - 1
  sourceId : d.sourceId ≤ 2 ^ 31 - 1
  frameWidth : d.frameWidth ≤ 2 ^ 31 - 1
  frameHeight : d.frameHeight ≤ 2 ^ 31 - 1

/-- An item that binds has its four integers in 32 bits. -/
theorem rowFits_of_bind {host : TimeZone} {row : OutboxRow}
    (h : (bindDetectionEventDto host (serializeEvent row)).isSome = true) :
    RowFits row.event.toDetectionFields := by
  obtain ⟨dto, hdto⟩ := Option.isSome_iff_exists.mp h
  unfold bindDetectionEventDto at hdto
  obtain ⟨classId, hclass, hdto⟩ := Option.bind_eq_some_iff.mp hdto
  obtain ⟨confidence, -, hdto⟩ := Option.bind_eq_some_iff.mp hdto
  obtain ⟨sourceId, hsource, hdto⟩ := Option.bind_eq_some_iff.mp hdto
  obtain ⟨frameNumber, -, hdto⟩ := Option.bind_eq_some_iff.mp hdto
  obtain ⟨frameWidth, hwidth, hdto⟩ := Option.bind_eq_some_iff.mp hdto
  obtain ⟨frameHeight, hheight, -⟩ := Option.bind_eq_some_iff.mp hdto
  have hrange : ∀ {i : ℤ} {n : CsInt}, bindInt i = some n → -2 ^ 31 ≤ i ∧ i ≤ 2 ^ 31 - 1 :=
    fun hn => (bindInt_isSome_iff _).mp (Option.isSome_of_eq_some hn)
  exact ⟨hrange hclass, (hrange hsource).2, (hrange hwidth).2, (hrange hheight).2⟩

/-- A storable row whose integers fit is bound, and accepted by both checks: the constructor of
`DetectionEvent` asserted what they ask for. -/
theorem accepts_of_rowFits {host : TimeZone} {row : OutboxRow}
    (hs : Storable row.event.toDetectionFields) (hfits : RowFits row.event.toDetectionFields) :
    accepts host (serializeEvent row) = true := by
  have hwf := row.event.wellFormed
  have hsource : -2 ^ 31 ≤ row.event.sourceId ∧ row.event.sourceId ≤ 2 ^ 31 - 1 :=
    ⟨by linarith [hwf.sourceId_nonneg], hfits.sourceId⟩
  have hwidth : -2 ^ 31 ≤ row.event.frameWidth ∧ row.event.frameWidth ≤ 2 ^ 31 - 1 :=
    ⟨by linarith [hwf.frameWidth_pos], hfits.frameWidth⟩
  have hheight : -2 ^ 31 ≤ row.event.frameHeight ∧ row.event.frameHeight ≤ 2 ^ 31 - 1 :=
    ⟨by linarith [hwf.frameHeight_pos], hfits.frameHeight⟩
  have hnumber : -2 ^ 63 ≤ row.event.frameNumber ∧ row.event.frameNumber ≤ 2 ^ 63 - 1 :=
    ⟨hs.frameNumber.1, by linarith [hs.frameNumber.2]⟩
  have hbind : bindDetectionEventDto host (serializeEvent row) = some
      { eventId := row.event.eventId, cameraId := row.event.cameraId
        detectedAtUtc := bindDateTime host row.event.detectedAtUtc
        createdAtUtc := bindDateTime host row.createdAtUtc
        classId := ⟨row.event.classId, hfits.classId⟩, className := row.event.className
        confidence := .finite row.event.confidence, sourceId := ⟨row.event.sourceId, hsource⟩
        frameNumber := ⟨row.event.frameNumber, hnumber⟩
        frameWidth := ⟨row.event.frameWidth, hwidth⟩
        frameHeight := ⟨row.event.frameHeight, hheight⟩
        boundingBox := ⟨.finite row.event.bboxLeft, .finite row.event.bboxTop,
          .finite row.event.bboxWidth, .finite row.event.bboxHeight⟩ } := by
    simp only [bindDetectionEventDto, serializeEvent, bindDouble, bindInt_of_mem hfits.classId,
      bindInt_of_mem hsource, bindLong_of_mem hnumber, bindInt_of_mem hwidth,
      bindInt_of_mem hheight]
    rfl
  unfold accepts
  rw [hbind]
  rw [Bool.and_eq_true, isConfidenceValid_finite, isFrameAndBoundingBoxValid_finite rfl]
  exact ⟨⟨hwf.confidence_nonneg, hwf.confidence_le_one⟩,
    ⟨hwf.frameNumber_nonneg, hwf.frameWidth_pos.le, hwf.frameHeight_pos.le⟩,
    ⟨hwf.bboxLeft_nonneg, hwf.bboxTop_nonneg, hwf.bboxWidth_nonneg, hwf.bboxHeight_nonneg⟩,
    hwf.within_width, hwf.within_height⟩

theorem bind_isSome_of_accepts {host : TimeZone} {j : DetectionEventJson}
    (h : accepts host j = true) : (bindDetectionEventDto host j).isSome = true := by
  unfold accepts at h
  cases hb : bindDetectionEventDto host j with
  | none => simp [hb] at h
  | some dto => rfl

/-! ## Stored detections -/

/-- A detection the Agent accepted from a payload (in the flat v1 shape, read as such or translated
from v2) and stored in its outbox. -/
structure StoredEvent where
  payload : PyDict
  deviceId : String
  cameraId : String
  classNames : ℤ → Option String
  minConfidence : ℚ
  now : Instant
  eventId : Uuid
  event : DetectionEvent
  validated : validateDetection payload deviceId cameraId classNames minConfidence now eventId =
    .ok event
  before : DetectionEventTable
  createdAtUtc : Instant
  after : DetectionEventTable
  stored : insert before event createdAtUtc = .ok after

/-- The item of a stored detection. -/
def StoredEvent.item (s : StoredEvent) : DetectionEventJson :=
  serializeEvent (newRow s.event s.createdAtUtc)

/-- The reported frame extent, or where none is reported the far edge of the box, is an `int`. -/
def ExtentFits (payload : PyDict) (frame offset extent : String) : Prop :=
  match payload.get? frame with
  | some reported => ∀ n, reported = .int n → n ≤ 2 ^ 31 - 1
  | none => ∀ a b, readFloat payload offset = .ok a → readFloat payload extent = .ok b →
      a + b ≤ 2 ^ 31 - 1

/-- The payload values the Backend reads into 32 bits are that small. -/
structure PayloadFits (payload : PyDict) : Prop where
  classId : ∀ i, readInt payload "class_id" = .ok i → -2 ^ 31 ≤ i ∧ i ≤ 2 ^ 31 - 1
  sourceId : ∀ i, readInt payload "source_id" = .ok i → i ≤ 2 ^ 31 - 1
  frameWidth : ExtentFits payload "frame_width" "bbox_left" "bbox_width"
  frameHeight : ExtentFits payload "frame_height" "bbox_top" "bbox_height"

/-- The extent of a validated event fits exactly when the payload says so. -/
theorem extentFits_iff {payload : PyDict} {frame offset extent : String} {reported : Option ℤ}
    {a b : ℚ} {n : ℤ} (hreported : readOptionalInt payload frame = .ok reported)
    (ha : readFloat payload offset = .ok a) (hb : readFloat payload extent = .ok b)
    (hn : frameExtent reported a b = .ok n) :
    n ≤ 2 ^ 31 - 1 ↔ ExtentFits payload frame offset extent := by
  unfold ExtentFits
  unfold readOptionalInt PyDict.contains readInt at hreported
  cases hget : payload.get? frame with
  | none =>
    -- Nothing reported: the extent is the far edge of the box, rounded up.
    simp only [hget, Option.isSome_none, Bool.false_eq_true, ↓reduceIte, Except.ok.injEq]
      at hreported
    subst hreported
    unfold frameExtent at hn
    cases hc : orRaise (ceil (Double.ofRat (a + b))) with
    | error e => simp [hc, Except.map] at hn
    | ok c =>
      simp only [hc, Except.map, Except.ok.injEq] at hn
      obtain ⟨q, hq, hceil⟩ := ceil_eq_ok_iff.mp (orRaise_eq_ok_iff.mp hc)
      have hsum : q = a + b := by
        unfold Double.ofRat at hq
        split at hq
        · exact (Double.finite.inj hq).symm
        · simp at hq
      rw [← hn, ← hceil, hsum, max_le_iff, Int.ceil_le]
      simp only [ha, hb, Except.ok.injEq]
      norm_num
  | some v =>
    simp only [hget, Option.isSome_some, ↓reduceIte] at hreported
    cases v with
    | int i =>
      simp only [Except.map, Except.ok.injEq] at hreported
      subst hreported
      simp only [frameExtent, Except.ok.injEq] at hn
      simp [hn]
    | _ => simp [reject, Except.map] at hreported

/-- The integers of a stored detection fit exactly when those of its payload do. -/
theorem StoredEvent.rowFits_iff (s : StoredEvent) :
    RowFits s.event.toDetectionFields ↔ PayloadFits s.payload := by
  have hv := validateDetection_eq_ok s.validated
  obtain ⟨rw, left, width, hrw, hleft, hwidth, hfw⟩ := hv.frameWidth
  obtain ⟨rh, top, height, hrh, htop, hheight, hfh⟩ := hv.frameHeight
  constructor
  · intro h
    refine ⟨fun i hi => ?_, fun i hi => ?_, (extentFits_iff hrw hleft hwidth hfw).mp h.frameWidth,
      (extentFits_iff hrh htop hheight hfh).mp h.frameHeight⟩
    · rw [hv.classId, Except.ok.injEq] at hi
      exact hi ▸ h.classId
    · rw [hv.sourceId, Except.ok.injEq] at hi
      exact hi ▸ h.sourceId
  · intro h
    exact ⟨h.classId _ hv.classId, h.sourceId _ hv.sourceId,
      (extentFits_iff hrw hleft hwidth hfw).mpr h.frameWidth,
      (extentFits_iff hrh htop hheight hfh).mpr h.frameHeight⟩

theorem StoredEvent.storable (s : StoredEvent) : Storable s.event.toDetectionFields :=
  (insert_eq_ok_iff.mp s.stored).2.1

/-- Which stored detections the Backend accepts: exactly those whose class, source and frame sizes
are 32-bit; and a batch binds exactly when all its rows are such. -/
theorem sync_contract (host : TimeZone) :
    (∀ s : StoredEvent, accepts host s.item = true ↔ PayloadFits s.payload) ∧
    (∀ batch : List StoredEvent,
      (bindSyncEventsRequest host (batch.map StoredEvent.item)).isSome = true ↔
        ∀ s ∈ batch, PayloadFits s.payload) := by
  have hbind : ∀ s : StoredEvent,
      (bindDetectionEventDto host s.item).isSome = true ↔ PayloadFits s.payload := by
    intro s
    rw [← s.rowFits_iff]
    exact ⟨rowFits_of_bind, fun h => bind_isSome_of_accepts (accepts_of_rowFits s.storable h)⟩
  refine ⟨fun s => ⟨fun h => (hbind s).mp (bind_isSome_of_accepts h), fun h => ?_⟩,
    fun batch => ?_⟩
  · exact accepts_of_rowFits s.storable (s.rowFits_iff.mpr h)
  · rw [bindSyncEventsRequest_isSome_iff, List.forall_mem_map]
    exact forall₂_congr fun s _ => hbind s

/-! ## A poison row -/

/-- A v1 payload that reports a frame `2 ^ 31` pixels wide. -/
def wideFramePayload : PyDict :=
  [("schema_version", .int 1), ("class_id", .int 0), ("source_id", .int 0),
    ("frame_number", .int 7), ("frame_width", .int (2 ^ 31)), ("frame_height", .int 1080),
    ("confidence", .float (.finite (9 / 10))), ("bbox_left", .int 10), ("bbox_top", .int 10),
    ("bbox_width", .int 20), ("bbox_height", .int 20)]

/-- The event validation makes of it. -/
def wideFrameEvent : DetectionEvent :=
  { eventId := 1, deviceId := "device-1", cameraId := "camera-1", sourceId := 0, classId := 0
    className := "gun", confidence := 9 / 10, frameNumber := 7, detectedAtUtc := 0
    frameWidth := 2 ^ 31, frameHeight := 1080, bboxLeft := 10, bboxTop := 10, bboxWidth := 20
    bboxHeight := 20, wellFormed := by decide +kernel }

/-- The event, stored in an empty outbox. -/
def wideFrame : StoredEvent :=
  { payload := wideFramePayload, deviceId := "device-1", cameraId := "camera-1"
    classNames := fun classId => if classId = 0 then some "gun" else none
    minConfidence := 1 / 2, now := 0, eventId := 1, event := wideFrameEvent
    validated := by decide +kernel
    before := .empty, createdAtUtc := 0, after := ⟨[newRow wideFrameEvent 0], by simp⟩
    stored := by rw [insert_eq_ok_iff]; exact ⟨by simp, by decide +kernel, rfl⟩ }

/-- A stored detection that no Backend binds: every batch carrying it is a `400`. -/
theorem wideFrame_not_accepted :
    ¬ ∀ (host : TimeZone) (s : StoredEvent), accepts host s.item = true := fun h =>
  absurd (h ⟨fun _ => 0⟩ wideFrame) (by decide +kernel)

end WeaponDetection.Contract
