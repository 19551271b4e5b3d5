import WeaponDetection.Foundations.Python

/-!
# Validation of a raw Bridge detection payload

Models `detection/models.py` and `detection/validation.py` of the Agent: the `DetectionEvent`
record with the invariants its constructor asserts, the translation of a v2 wire message into the
flat v1 shape, and `validate_detection` with every one of its rejections in source order.

Identity fields (`event_id`, `device_id`, `camera_id`, `detected_at_utc`) are arguments; nothing of
them is read from the payload.  All numbers are the finite doubles and unbounded integers Python
computes with, so the two places where Python raises instead of rejecting (`float` of an integer
from `2 ^ 1024` on and `math.ceil` of an infinite sum) stop the model the same way.
-/

namespace WeaponDetection.Agent.Detection

open WeaponDetection.Foundations (Double)
open WeaponDetection.Foundations.Python

/-- A timezone-aware `datetime`, by the microsecond it denotes. -/
abbrev Instant := ℤ

/-! ## The detection event -/

/-- The fields of `DetectionEvent`, `created_at_utc` apart (a column of the stored row). -/
structure DetectionFields where
  eventId : Uuid
  deviceId : String
  cameraId : String
  sourceId : ℤ
  classId : ℤ
  className : String
  confidence : ℚ
  frameNumber : ℤ
  detectedAtUtc : Instant
  frameWidth : ℤ
  frameHeight : ℤ
  bboxLeft : ℚ
  bboxTop : ℚ
  bboxWidth : ℚ
  bboxHeight : ℚ
  deriving DecidableEq

/-- What `DetectionEvent.__post_init__` asserts. -/
structure DetectionFields.WellFormed (d : DetectionFields) : Prop where
  confidence_nonneg : 0 ≤ d.confidence
  confidence_le_one : d.confidence ≤ 1
  sourceId_nonneg : 0 ≤ d.sourceId
  frameNumber_nonneg : 0 ≤ d.frameNumber
  frameWidth_pos : 0 < d.frameWidth
  frameHeight_pos : 0 < d.frameHeight
  bboxLeft_nonneg : 0 ≤ d.bboxLeft
  bboxTop_nonneg : 0 ≤ d.bboxTop
  bboxWidth_nonneg : 0 ≤ d.bboxWidth
  bboxHeight_nonneg : 0 ≤ d.bboxHeight
  within_width : d.bboxLeft + d.bboxWidth ≤ d.frameWidth
  within_height : d.bboxTop + d.bboxHeight ≤ d.frameHeight

instance (d : DetectionFields) : Decidable d.WellFormed :=
  decidable_of_iff
    ((0 ≤ d.confidence ∧ d.confidence ≤ 1) ∧ (0 ≤ d.sourceId ∧ 0 ≤ d.frameNumber) ∧
      (0 < d.frameWidth ∧ 0 < d.frameHeight) ∧
      ((0 ≤ d.bboxLeft ∧ 0 ≤ d.bboxTop) ∧ 0 ≤ d.bboxWidth ∧ 0 ≤ d.bboxHeight) ∧
      d.bboxLeft + d.bboxWidth ≤ d.frameWidth ∧ d.bboxTop + d.bboxHeight ≤ d.frameHeight)
    ⟨fun ⟨⟨a, b⟩, ⟨c, e⟩, ⟨f, g⟩, ⟨⟨h, i⟩, j, k⟩, l, m⟩ => ⟨a, b, c, e, f, g, h, i, j, k, l, m⟩,
      fun h => ⟨⟨h.1, h.2⟩, ⟨h.3, h.4⟩, ⟨h.5, h.6⟩, ⟨⟨h.7, h.8⟩, h.9, h.10⟩, h.11, h.12⟩⟩

/-- `DetectionEvent`: fields that passed the constructor's assertions. -/
structure DetectionEvent extends DetectionFields where
  wellFormed : toDetectionFields.WellFormed
  deriving DecidableEq

/-- The `DetectionEvent` constructor. -/
def DetectionEvent.new (fields : DetectionFields) : Except PyError DetectionEvent :=
  if h : fields.WellFormed then .ok ⟨fields, h⟩ else .error .valueError

/-! ## Rejections -/

/-- `DetectionRejectionReason`. -/
inductive DetectionRejectionReason where
  | malformedField
  | nonFiniteValue
  | negativeValue
  | unknownClass
  | confidenceOutOfRange
  | confidenceBelowThreshold
  | unresolvedCameraSource
  deriving DecidableEq

/-- The diagnostic text of a reason (`reason.value`). -/
def DetectionRejectionReason.value : DetectionRejectionReason → String
  | malformedField => "malformed_field"
  | nonFiniteValue => "non_finite_value"
  | negativeValue => "negative_value"
  | unknownClass => "unknown_class"
  | confidenceOutOfRange => "confidence_out_of_range"
  | confidenceBelowThreshold => "confidence_below_threshold"
  | unresolvedCameraSource => "unresolved_camera_source"

/-- `DetectionRejection`: the rule that was broken and the field it names. -/
structure DetectionRejection where
  reason : DetectionRejectionReason
  field : String
  deriving DecidableEq

/-- Why `validate_detection` returned no event: a rejection, or an exception it raised. -/
inductive ValidationStop where
  | rejected (rejection : DetectionRejection)
  | raised (error : PyError)
  deriving DecidableEq

/-- Stop with a rejection. -/
def reject {α : Type} (reason : DetectionRejectionReason) (field : String) :
    Except ValidationStop α :=
  .error (.rejected ⟨reason, field⟩)

/-- Let an exception of a called function out. -/
def orRaise {α : Type} : Except PyError α → Except ValidationStop α
  | .ok a => .ok a
  | .error e => .error (.raised e)

/-- Stop with a rejection unless a condition holds. -/
def require (ok : Prop) [Decidable ok] (reason : DetectionRejectionReason) (field : String) :
    Except ValidationStop Unit :=
  if ok then .ok () else reject reason field

/-! ## Schema v2 -/

/-- `payload.get("schema_version", payload.get("schemaVersion"))`. -/
def schemaVersion (payload : PyDict) : PyValue :=
  match payload.get? "schema_version" with
  | some v => v
  | none => (payload.get? "schemaVersion").getD .none

/-- `normalized[snake] = payload[camel]` if the camel-case key is present. -/
def renameKey (payload : PyDict) (camel snake : String) (normalized : PyDict) : PyDict :=
  match payload.get? camel with
  | some v => normalized.set snake v
  | none => normalized

/-- `normalized[snake] = bbox.get(key)` unless that is `None`. -/
def copyBoxKey (bbox : PyDict) (key snake : String) (normalized : PyDict) : PyDict :=
  match bbox.get? key with
  | none => normalized
  | some .none => normalized
  | some v => normalized.set snake v

/-- `normalize_v2_payload`. -/
def normalizeV2Payload (payload : PyDict) : PyDict :=
  let bbox : PyDict :=
    match payload.get? "boundingBox" with
    | some (.dict items) => items
    | _ => []
  let normalized := renameKey payload "classId" "class_id" payload
  let normalized := renameKey payload "sourceId" "source_id" normalized
  let normalized := renameKey payload "frameNumber" "frame_number" normalized
  let normalized := copyBoxKey bbox "left" "bbox_left" normalized
  let normalized := copyBoxKey bbox "top" "bbox_top" normalized
  let normalized := copyBoxKey bbox "width" "bbox_width" normalized
  copyBoxKey bbox "height" "bbox_height" normalized

/-! ## Reading fields -/

/-- A required `int` field; `bool` is not an `int` here. -/
def readInt (payload : PyDict) (field : String) : Except ValidationStop ℤ :=
  match payload.get? field with
  | some (.int i) => .ok i
  | _ => reject .malformedField field

/-- An `int` field that may be absent, but not present with another type. -/
def readOptionalInt (payload : PyDict) (field : String) : Except ValidationStop (Option ℤ) :=
  if payload.contains field then (readInt payload field).map some else .ok none

/-- A required `int` or `float` field, converted to a finite `float`. -/
def readFloat (payload : PyDict) (field : String) : Except ValidationStop ℚ :=
  match payload.get? field with
  | some (.int i) => orRaise (floatOfInt i)
  | some (.float (.finite q)) => .ok q
  | some (.float _) => reject .nonFiniteValue field
  | _ => reject .malformedField field

/-- The reported frame extent, or the smallest one that contains the box:
`max(1, math.ceil(offset + extent))`. -/
def frameExtent (reported : Option ℤ) (offset extent : ℚ) : Except ValidationStop ℤ :=
  match reported with
  | some n => .ok n
  | none => (orRaise (ceil (Double.ofRat (offset + extent)))).map (max 1)

/-! ## `validate_detection` -/

/-- `validate_detection`. -/
def validateDetection (payload : PyDict) (deviceId cameraId : String)
    (classNames : ℤ → Option String) (minConfidence : ℚ) (now : Instant) (eventId : Uuid) :
    Except ValidationStop DetectionEvent := do
  let classId ← readInt payload "class_id"
  let sourceId ← readInt payload "source_id"
  let frameNumber ← readInt payload "frame_number"
  let frameWidth ← readOptionalInt payload "frame_width"
  let frameHeight ← readOptionalInt payload "frame_height"
  let confidence ← readFloat payload "confidence"
  let bboxLeft ← readFloat payload "bbox_left"
  let bboxTop ← readFloat payload "bbox_top"
  let bboxWidth ← readFloat payload "bbox_width"
  let bboxHeight ← readFloat payload "bbox_height"
  require (0 ≤ sourceId) .negativeValue "source_id"
  require (0 ≤ frameNumber) .negativeValue "frame_number"
  require (∀ w ∈ frameWidth, 0 < w) .negativeValue "frame_width"
  require (∀ h ∈ frameHeight, 0 < h) .negativeValue "frame_height"
  require (0 ≤ confidence ∧ confidence ≤ 1) .confidenceOutOfRange "confidence"
  require (minConfidence ≤ confidence) .confidenceBelowThreshold "confidence"
  require (0 ≤ bboxLeft) .negativeValue "bbox_left"
  require (0 ≤ bboxTop) .negativeValue "bbox_top"
  require (0 ≤ bboxWidth) .negativeValue "bbox_width"
  require (0 ≤ bboxHeight) .negativeValue "bbox_height"
  match classNames classId with
  | none => reject .unknownClass "class_id"
  | some className =>
    let frameWidth ← frameExtent frameWidth bboxLeft bboxWidth
    let frameHeight ← frameExtent frameHeight bboxTop bboxHeight
    -- An overflowing box is clamped to the frame, not rejected.
    let frameWidthFloat ← orRaise (floatOfInt frameWidth)
    let frameHeightFloat ← orRaise (floatOfInt frameHeight)
    let left := min bboxLeft frameWidthFloat
    let top := min bboxTop frameHeightFloat
    orRaise (DetectionEvent.new
      { eventId, deviceId, cameraId, sourceId, classId, className, confidence, frameNumber
        detectedAtUtc := now, frameWidth, frameHeight
        bboxLeft := left, bboxTop := top
        bboxWidth := min bboxWidth (frameWidthFloat - left)
        bboxHeight := min bboxHeight (frameHeightFloat - top) })

/-- Where the fields of a validated event come from. -/
structure ValidatedFrom (payload : PyDict) (deviceId cameraId : String)
    (classNames : ℤ → Option String) (now : Instant) (eventId : Uuid) (event : DetectionEvent) :
    Prop where
  eventId : event.eventId = eventId
  deviceId : event.deviceId = deviceId
  cameraId : event.cameraId = cameraId
  detectedAtUtc : event.detectedAtUtc = now
  classId : readInt payload "class_id" = .ok event.classId
  className : classNames event.classId = some event.className
  sourceId : readInt payload "source_id" = .ok event.sourceId
  frameNumber : readInt payload "frame_number" = .ok event.frameNumber
  frameWidth : ∃ reported left width, readOptionalInt payload "frame_width" = .ok reported ∧
    readFloat payload "bbox_left" = .ok left ∧ readFloat payload "bbox_width" = .ok width ∧
    frameExtent reported left width = .ok event.frameWidth
  frameHeight : ∃ reported top height, readOptionalInt payload "frame_height" = .ok reported ∧
    readFloat payload "bbox_top" = .ok top ∧ readFloat payload "bbox_height" = .ok height ∧
    frameExtent reported top height = .ok event.frameHeight

theorem orRaise_eq_ok_iff {α : Type} {x : Except PyError α} {a : α} :
    orRaise x = .ok a ↔ x = .ok a := by
  cases x <;> simp [orRaise]

theorem DetectionEvent.new_eq_ok_iff {fields : DetectionFields} {event : DetectionEvent} :
    DetectionEvent.new fields = .ok event ↔ event.toDetectionFields = fields := by
  unfold DetectionEvent.new
  split
  · constructor
    · intro h
      cases h
      rfl
    · rintro rfl
      rfl
  · rename_i h
    simp only [reduceCtorEq, false_iff]
    rintro rfl
    exact h event.wellFormed

/-- An accepted payload is the source of every field of its event. -/
theorem validateDetection_eq_ok {payload : PyDict} {deviceId cameraId : String}
    {classNames : ℤ → Option String} {minConfidence : ℚ} {now : Instant} {eventId : Uuid}
    {event : DetectionEvent}
    (h : validateDetection payload deviceId cameraId classNames minConfidence now eventId =
      .ok event) :
    ValidatedFrom payload deviceId cameraId classNames now eventId event := by
  unfold validateDetection at h
  obtain ⟨classId, hclass, h⟩ := bind_eq_ok_iff.mp h
  obtain ⟨sourceId, hsource, h⟩ := bind_eq_ok_iff.mp h
  obtain ⟨frameNumber, hnumber, h⟩ := bind_eq_ok_iff.mp h
  obtain ⟨reportedWidth, hrw, h⟩ := bind_eq_ok_iff.mp h
  obtain ⟨reportedHeight, hrh, h⟩ := bind_eq_ok_iff.mp h
  obtain ⟨confidence, -, h⟩ := bind_eq_ok_iff.mp h
  obtain ⟨left, hleft, h⟩ := bind_eq_ok_iff.mp h
  obtain ⟨top, htop, h⟩ := bind_eq_ok_iff.mp h
  obtain ⟨width, hwidth, h⟩ := bind_eq_ok_iff.mp h
  obtain ⟨height, hheight, h⟩ := bind_eq_ok_iff.mp h
  -- The ten range checks.
  obtain ⟨-, -, h⟩ := bind_eq_ok_iff.mp h
  obtain ⟨-, -, h⟩ := bind_eq_ok_iff.mp h
  obtain ⟨-, -, h⟩ := bind_eq_ok_iff.mp h
  obtain ⟨-, -, h⟩ := bind_eq_ok_iff.mp h
  obtain ⟨-, -, h⟩ := bind_eq_ok_iff.mp h
  obtain ⟨-, -, h⟩ := bind_eq_ok_iff.mp h
  obtain ⟨-, -, h⟩ := bind_eq_ok_iff.mp h
  obtain ⟨-, -, h⟩ := bind_eq_ok_iff.mp h
  obtain ⟨-, -, h⟩ := bind_eq_ok_iff.mp h
  obtain ⟨-, -, h⟩ := bind_eq_ok_iff.mp h
  split at h
  · simp [reject] at h
  · rename_i className hname
    obtain ⟨frameWidth, hfw, h⟩ := bind_eq_ok_iff.mp h
    obtain ⟨frameHeight, hfh, h⟩ := bind_eq_ok_iff.mp h
    obtain ⟨frameWidthFloat, -, h⟩ := bind_eq_ok_iff.mp h
    obtain ⟨frameHeightFloat, -, h⟩ := bind_eq_ok_iff.mp h
    have hevent := DetectionEvent.new_eq_ok_iff.mp (orRaise_eq_ok_iff.mp h)
    constructor <;> simp only [hevent]
    · exact hclass
    · exact hname
    · exact hsource
    · exact hnumber
    · exact ⟨reportedWidth, left, width, hrw, hleft, hwidth, hfw⟩
    · exact ⟨reportedHeight, top, height, hrh, htop, hheight, hfh⟩

end WeaponDetection.Agent.Detection
