import WeaponDetection.Agent.Detection.Validation

/-!
# When validation raises

`validate_detection` is documented never to raise.  It does raise on numbers beyond the range of
`float`; on every other payload it returns a rejection or an event that keeps the invariants
(`validation_total_iff`).
-/

namespace WeaponDetection.Agent.Detection

open WeaponDetection.Foundations (Double)
open WeaponDetection.Foundations.Python

/-! ## Exceptions along a chain of calls -/

/-- An exception comes out. -/
def Raises {α : Type} (x : Except ValidationStop α) : Prop := ∃ e, x = .error (.raised e)

theorem raises_bind {α β : Type} {x : Except ValidationStop α} {f : α → Except ValidationStop β} :
    Raises (x >>= f) ↔ Raises x ∨ ∃ a, x = .ok a ∧ Raises (f a) := by
  cases x <;> simp [Raises, bind, Except.bind]

@[simp] theorem not_raises_ok {α : Type} (a : α) : ¬ Raises (.ok a : Except ValidationStop α) := by
  simp [Raises]

@[simp] theorem not_raises_pure {α : Type} (a : α) : ¬ Raises (pure a : Except ValidationStop α) :=
  not_raises_ok a

@[simp] theorem not_raises_reject {α : Type} (reason : DetectionRejectionReason) (field : String) :
    ¬ Raises (reject reason field : Except ValidationStop α) := by
  simp [Raises, reject]

@[simp] theorem not_raises_require (ok : Prop) [Decidable ok] (reason : DetectionRejectionReason)
    (field : String) : ¬ Raises (require ok reason field) := by
  unfold require
  split <;> simp

@[simp] theorem require_eq_ok_iff {ok : Prop} [Decidable ok] {reason : DetectionRejectionReason}
    {field : String} {u : Unit} : require ok reason field = .ok u ↔ ok := by
  unfold require
  split <;> simp_all [reject]

/-- A rejection comes out. -/
def Rejects {α : Type} (x : Except ValidationStop α) : Prop := ∃ rejection, x = .error (.rejected rejection)

theorem rejects_bind {α β : Type} {x : Except ValidationStop α} {f : α → Except ValidationStop β} :
    Rejects (x >>= f) ↔ Rejects x ∨ ∃ a, x = .ok a ∧ Rejects (f a) := by
  cases x <;> simp [Rejects, bind, Except.bind]

@[simp] theorem not_rejects_orRaise {α : Type} (x : Except PyError α) : ¬ Rejects (orRaise x) := by
  cases x <;> simp [Rejects, orRaise]

/-- There is no other way to end. -/
theorem ok_or_rejects_or_raises {α : Type} (x : Except ValidationStop α) :
    (∃ a, x = .ok a) ∨ Rejects x ∨ Raises x := by
  cases x with
  | ok a => exact .inl ⟨a, rfl⟩
  | error stop =>
    cases stop with
    | rejected rejection => exact .inr (.inl ⟨rejection, rfl⟩)
    | raised e => exact .inr (.inr ⟨e, rfl⟩)

theorem raises_orRaise {α : Type} {x : Except PyError α} : Raises (orRaise x) ↔ ∀ a, x ≠ .ok a := by
  cases x <;> simp [Raises, orRaise]

/-! ## Fields of a payload -/

/-- The field is this integer. -/
def IsInt (payload : PyDict) (field : String) (i : ℤ) : Prop := payload.get? field = some (.int i)

/-- The field is absent, or an integer. -/
def IsOptionalInt (payload : PyDict) (field : String) (reported : Option ℤ) : Prop :=
  payload.get? field = none ∧ reported = none ∨ ∃ i, IsInt payload field i ∧ reported = some i

/-- The field is an integer that no `float` holds. -/
def IsHuge (payload : PyDict) (field : String) : Prop := ∃ i, IsInt payload field i ∧ floatLimit ≤ i.natAbs

/-- The field is this finite number. -/
def IsNumber (payload : PyDict) (field : String) (q : ℚ) : Prop :=
  payload.get? field = some (.float (.finite q)) ∨
    ∃ i, IsInt payload field i ∧ i.natAbs < floatLimit ∧ q = i

theorem readInt_eq_ok_iff {payload : PyDict} {field : String} {i : ℤ} :
    readInt payload field = .ok i ↔ IsInt payload field i := by
  unfold readInt IsInt
  split
  · rename_i hget
    simp [hget]
  · rename_i hget
    simp only [reject, reduceCtorEq, false_iff]
    exact hget i

@[simp] theorem not_raises_readInt (payload : PyDict) (field : String) : ¬ Raises (readInt payload field) := by
  unfold readInt
  split <;> simp

theorem readOptionalInt_eq_ok_iff {payload : PyDict} {field : String} {reported : Option ℤ} :
    readOptionalInt payload field = .ok reported ↔ IsOptionalInt payload field reported := by
  unfold readOptionalInt IsOptionalInt PyDict.contains
  cases hget : payload.get? field with
  | none =>
    have hnot : ∀ i, ¬ IsInt payload field i := fun i hi => by
      rw [IsInt, hget] at hi
      cases hi
    simp [hnot, eq_comm]
  | some v =>
    simp only [Option.isSome_some, if_true, reduceCtorEq, false_and, false_or]
    constructor
    · intro h
      cases hread : readInt payload field with
      | error stop =>
        rw [hread] at h
        cases h
      | ok i =>
        rw [hread] at h
        cases h
        exact ⟨i, readInt_eq_ok_iff.mp hread, rfl⟩
    · rintro ⟨i, hi, rfl⟩
      rw [readInt_eq_ok_iff.mpr hi]
      rfl

@[simp] theorem not_raises_readOptionalInt (payload : PyDict) (field : String) :
    ¬ Raises (readOptionalInt payload field) := by
  unfold readOptionalInt
  split
  · cases hread : readInt payload field with
    | error stop =>
      have hnot := not_raises_readInt payload field
      rw [hread] at hnot
      exact fun ⟨e, he⟩ => hnot ⟨e, by cases he; rfl⟩
    | ok i => exact not_raises_ok _
  · exact not_raises_ok _

theorem readFloat_eq_ok_iff {payload : PyDict} {field : String} {q : ℚ} :
    readFloat payload field = .ok q ↔ IsNumber payload field q := by
  unfold readFloat IsNumber IsInt
  split
  · rename_i i hget
    simp [hget, orRaise_eq_ok_iff, floatOfInt_eq_ok_iff]
  · rename_i q' hget
    simp [hget]
  · rename_i d hfinite hget
    simp only [hget, reject, reduceCtorEq, false_iff, Option.some.injEq, PyValue.float.injEq,
      false_and, exists_false, or_false]
    exact hfinite q
  · rename_i hint hfinite hfloat
    simp only [reject, reduceCtorEq, false_iff, not_or]
    refine ⟨hfinite q, ?_⟩
    rintro ⟨i, hi, -⟩
    exact hint i hi

theorem raises_readFloat {payload : PyDict} {field : String} :
    Raises (readFloat payload field) ↔ IsHuge payload field := by
  unfold readFloat IsHuge IsInt
  split
  · rename_i i hget
    simp [hget, raises_orRaise, floatOfInt_eq_ok_iff]
  · rename_i hget
    simp [hget]
  · rename_i hget
    simp [hget]
  · rename_i hint hfinite hfloat
    simp only [not_raises_reject, false_iff]
    exact fun ⟨i, hi, _⟩ => hint i hi

/-! ## The fields as a whole -/

/-- The numbers of a payload. -/
structure RawDetection where
  classId : ℤ
  sourceId : ℤ
  frameNumber : ℤ
  frameWidth : Option ℤ
  frameHeight : Option ℤ
  confidence : ℚ
  bboxLeft : ℚ
  bboxTop : ℚ
  bboxWidth : ℚ
  bboxHeight : ℚ

/-- The payload has these integers. -/
structure HasInts (payload : PyDict) (raw : RawDetection) : Prop where
  classId : IsInt payload "class_id" raw.classId
  sourceId : IsInt payload "source_id" raw.sourceId
  frameNumber : IsInt payload "frame_number" raw.frameNumber
  frameWidth : IsOptionalInt payload "frame_width" raw.frameWidth
  frameHeight : IsOptionalInt payload "frame_height" raw.frameHeight

/-- The payload has these numbers. -/
structure HasFields (payload : PyDict) (raw : RawDetection) : Prop extends HasInts payload raw where
  confidence : IsNumber payload "confidence" raw.confidence
  bboxLeft : IsNumber payload "bbox_left" raw.bboxLeft
  bboxTop : IsNumber payload "bbox_top" raw.bboxTop
  bboxWidth : IsNumber payload "bbox_width" raw.bboxWidth
  bboxHeight : IsNumber payload "bbox_height" raw.bboxHeight

/-- `_REQUIRED_FLOAT_FIELDS`. -/
def requiredFloatFields : List String := ["confidence", "bbox_left", "bbox_top", "bbox_width", "bbox_height"]

/-- A huge integer comes up before a field that is no finite number. -/
def HugeFirst (payload : PyDict) : List String → Prop
  | [] => False
  | field :: rest => IsHuge payload field ∨ (∃ q, IsNumber payload field q) ∧ HugeFirst payload rest

/-- The first part of `validate_detection`: the fields. -/
def readFields (payload : PyDict) : Except ValidationStop RawDetection := do
  let classId ← readInt payload "class_id"
  let sourceId ← readInt payload "source_id"
  let frameNumber ← readInt payload "frame_number"
  let frameWidth ← readOptionalInt payload "frame_width"
  let frameHeight ← readOptionalInt payload "frame_height"
  let confidence ← readFloat payload "confidence"
  let bboxLeft ← readFloat payload "bbox_left"
  let bboxTop ← readFloat payload "bbox_top"
  let bboxWidth ← readFloat payload "bbox_width"
  let bboxHeight ← readFloat payload "bbox_height"
  return ⟨classId, sourceId, frameNumber, frameWidth, frameHeight, confidence, bboxLeft, bboxTop, bboxWidth,
    bboxHeight⟩

theorem readFields_eq_ok_iff {payload : PyDict} {raw : RawDetection} :
    readFields payload = .ok raw ↔ HasFields payload raw := by
  simp only [readFields, bind_eq_ok_iff, readInt_eq_ok_iff, readOptionalInt_eq_ok_iff, readFloat_eq_ok_iff,
    pure, Except.pure, Except.ok.injEq]
  constructor
  · rintro ⟨_, hclass, _, hsource, _, hnumber, _, hwidth, _, hheight, _, hconfidence, _, hleft, _, htop, _,
      hboxWidth, _, hboxHeight, rfl⟩
    exact ⟨⟨hclass, hsource, hnumber, hwidth, hheight⟩, hconfidence, hleft, htop, hboxWidth, hboxHeight⟩
  · rintro ⟨⟨hclass, hsource, hnumber, hwidth, hheight⟩, hconfidence, hleft, htop, hboxWidth, hboxHeight⟩
    exact ⟨_, hclass, _, hsource, _, hnumber, _, hwidth, _, hheight, _, hconfidence, _, hleft, _, htop, _,
      hboxWidth, _, hboxHeight, rfl⟩

theorem raises_readFields {payload : PyDict} :
    Raises (readFields payload) ↔ (∃ raw, HasInts payload raw) ∧ HugeFirst payload requiredFloatFields := by
  simp only [readFields, raises_bind, not_raises_readInt, not_raises_readOptionalInt, raises_readFloat,
    not_raises_pure, readInt_eq_ok_iff, readOptionalInt_eq_ok_iff, readFloat_eq_ok_iff, false_or,
    and_false, exists_false, or_false, exists_and_right, requiredFloatFields, HugeFirst]
  constructor
  · rintro ⟨⟨classId, hclass⟩, ⟨sourceId, hsource⟩, ⟨frameNumber, hnumber⟩, ⟨width, hwidth⟩, ⟨height, hheight⟩,
      hhuge⟩
    exact ⟨⟨⟨classId, sourceId, frameNumber, width, height, 0, 0, 0, 0, 0⟩, hclass, hsource, hnumber, hwidth,
      hheight⟩, hhuge⟩
  · rintro ⟨⟨raw, hclass, hsource, hnumber, hwidth, hheight⟩, hhuge⟩
    exact ⟨⟨_, hclass⟩, ⟨_, hsource⟩, ⟨_, hnumber⟩, ⟨_, hwidth⟩, ⟨_, hheight⟩, hhuge⟩

/-! ## The rest of the rules -/

/-- The rules that say which numbers are in range. -/
structure InRange (minConfidence : ℚ) (raw : RawDetection) : Prop where
  sourceId : 0 ≤ raw.sourceId
  frameNumber : 0 ≤ raw.frameNumber
  frameWidth : ∀ w ∈ raw.frameWidth, 0 < w
  frameHeight : ∀ h ∈ raw.frameHeight, 0 < h
  confidence : 0 ≤ raw.confidence ∧ raw.confidence ≤ 1
  threshold : minConfidence ≤ raw.confidence
  bboxLeft : 0 ≤ raw.bboxLeft
  bboxTop : 0 ≤ raw.bboxTop
  bboxWidth : 0 ≤ raw.bboxWidth
  bboxHeight : 0 ≤ raw.bboxHeight

/-- The frame: as reported, or the smallest that contains the box. -/
def frameSize (reported : Option ℤ) (offset extent : ℚ) : ℤ := reported.getD (max 1 ⌈offset + extent⌉)

/-- A `float` holds the frame. -/
def FrameFits (raw : RawDetection) : Prop :=
  (frameSize raw.frameWidth raw.bboxLeft raw.bboxWidth).natAbs < floatLimit ∧
    (frameSize raw.frameHeight raw.bboxTop raw.bboxHeight).natAbs < floatLimit

/-- The event, with the box clamped to the frame. -/
def clampedFields (raw : RawDetection) (deviceId cameraId className : String) (now : Instant) (eventId : Uuid)
    (frameWidth frameHeight : ℤ) (frameWidthFloat frameHeightFloat : ℚ) : DetectionFields :=
  { eventId, deviceId, cameraId, sourceId := raw.sourceId, classId := raw.classId, className
    confidence := raw.confidence, frameNumber := raw.frameNumber, detectedAtUtc := now, frameWidth, frameHeight
    bboxLeft := min raw.bboxLeft frameWidthFloat
    bboxTop := min raw.bboxTop frameHeightFloat
    bboxWidth := min raw.bboxWidth (frameWidthFloat - min raw.bboxLeft frameWidthFloat)
    bboxHeight := min raw.bboxHeight (frameHeightFloat - min raw.bboxTop frameHeightFloat) }

/-- The last part of `validate_detection`: the frame and the clamping. -/
def clamp (raw : RawDetection) (deviceId cameraId className : String) (now : Instant) (eventId : Uuid) :
    Except ValidationStop DetectionEvent := do
  let frameWidth ← frameExtent raw.frameWidth raw.bboxLeft raw.bboxWidth
  let frameHeight ← frameExtent raw.frameHeight raw.bboxTop raw.bboxHeight
  let frameWidthFloat ← orRaise (floatOfInt frameWidth)
  let frameHeightFloat ← orRaise (floatOfInt frameHeight)
  orRaise (DetectionEvent.new (clampedFields raw deviceId cameraId className now eventId frameWidth frameHeight
    frameWidthFloat frameHeightFloat))

/-- The second part of `validate_detection`: ranges and class name. -/
def settle (raw : RawDetection) (deviceId cameraId : String) (classNames : ℤ → Option String)
    (minConfidence : ℚ) (now : Instant) (eventId : Uuid) : Except ValidationStop DetectionEvent := do
  require (0 ≤ raw.sourceId) .negativeValue "source_id"
  require (0 ≤ raw.frameNumber) .negativeValue "frame_number"
  require (∀ w ∈ raw.frameWidth, 0 < w) .negativeValue "frame_width"
  require (∀ h ∈ raw.frameHeight, 0 < h) .negativeValue "frame_height"
  require (0 ≤ raw.confidence ∧ raw.confidence ≤ 1) .confidenceOutOfRange "confidence"
  require (minConfidence ≤ raw.confidence) .confidenceBelowThreshold "confidence"
  require (0 ≤ raw.bboxLeft) .negativeValue "bbox_left"
  require (0 ≤ raw.bboxTop) .negativeValue "bbox_top"
  require (0 ≤ raw.bboxWidth) .negativeValue "bbox_width"
  require (0 ≤ raw.bboxHeight) .negativeValue "bbox_height"
  match classNames raw.classId with
  | none => reject .unknownClass "class_id"
  | some className => clamp raw deviceId cameraId className now eventId

theorem validateDetection_eq (payload : PyDict) (deviceId cameraId : String)
    (classNames : ℤ → Option String) (minConfidence : ℚ) (now : Instant) (eventId : Uuid) :
    validateDetection payload deviceId cameraId classNames minConfidence now eventId =
      readFields payload >>= fun raw => settle raw deviceId cameraId classNames minConfidence now eventId := by
  simp only [validateDetection, readFields, bind_assoc, pure_bind, settle]
  rfl

/-- The frame is computed and converted exactly when a `float` holds it. -/
theorem frame_float_iff {offset extent : ℚ} (hoffset : 0 ≤ offset) (hextent : 0 ≤ extent)
    (reported : Option ℤ) {n : ℤ} {q : ℚ} :
    (frameExtent reported offset extent = .ok n ∧ orRaise (floatOfInt n) = .ok q) ↔
      n = frameSize reported offset extent ∧ q = n ∧
        (frameSize reported offset extent).natAbs < floatLimit := by
  rw [orRaise_eq_ok_iff, floatOfInt_eq_ok_iff]
  cases reported with
  | some w =>
    simp only [frameExtent, Except.ok.injEq, frameSize, Option.getD_some]
    constructor
    · rintro ⟨rfl, hlt, hq⟩
      exact ⟨rfl, hq, hlt⟩
    · rintro ⟨rfl, hq, hlt⟩
      exact ⟨rfl, hlt, hq⟩
  | none =>
    have hsum : 0 ≤ offset + extent := add_nonneg hoffset hextent
    have hextent' : frameExtent none offset extent = .ok n ↔
        |offset + extent| < Double.overflowBound ∧ n = max 1 ⌈offset + extent⌉ := by
      by_cases hfits : |offset + extent| < Double.overflowBound
      · have hfinite : Double.ofRat (offset + extent) = .finite (offset + extent) := if_pos hfits
        simp only [frameExtent, hfinite, ceil, orRaise, Except.map, Except.ok.injEq, hfits, true_and]
        exact eq_comm
      · have hinfinite : Double.ofRat (offset + extent) = .inf (decide (offset + extent < 0)) := if_neg hfits
        simp only [frameExtent, hinfinite, ceil, orRaise, Except.map, reduceCtorEq, hfits, false_and]
    rw [hextent', frameSize, Option.getD_none]
    constructor
    · rintro ⟨⟨-, rfl⟩, hlt, hq⟩
      exact ⟨rfl, hq, hlt⟩
    · rintro ⟨rfl, hq, hlt⟩
      refine ⟨⟨?_, rfl⟩, hlt, hq⟩
      -- the sum is below its ceiling, which is the frame or below it
      have hceil : (⌈offset + extent⌉ : ℤ) < (floatLimit : ℕ) := by
        have hle : ⌈offset + extent⌉ ≤ max 1 ⌈offset + extent⌉ := le_max_right _ _
        omega
      have hcast : ((floatLimit : ℕ) : ℚ) = Double.overflowBound := by
        unfold floatLimit Double.overflowBound
        exact Nat.cast_pow 2 1024
      rw [abs_of_nonneg hsum, ← hcast]
      calc offset + extent ≤ (⌈offset + extent⌉ : ℚ) := Int.le_ceil _
        _ < ((floatLimit : ℕ) : ℚ) := by exact_mod_cast hceil

section Clamp

variable {payload : PyDict} {raw : RawDetection} {deviceId cameraId className : String}
  {classNames : ℤ → Option String} {minConfidence : ℚ} {now : Instant} {eventId : Uuid} {event : DetectionEvent}

/-- A clamped interval lies in the frame. -/
theorem clamp_le (offset extent frame : ℚ) : min offset frame + min extent (frame - min offset frame) ≤ frame := by
  have hle : min extent (frame - min offset frame) ≤ frame - min offset frame := min_le_right _ _
  linarith

/-- An interval inside the frame is not clamped. -/
theorem clamp_of_le {offset extent frame : ℚ} (hextent : 0 ≤ extent) (h : offset + extent ≤ frame) :
    min offset frame = offset ∧ min extent (frame - min offset frame) = extent := by
  have hoffset : min offset frame = offset := min_eq_left (by linarith)
  rw [hoffset]
  exact ⟨rfl, min_eq_left (by linarith)⟩

theorem frameSize_pos {reported : Option ℤ} (h : ∀ w ∈ reported, 0 < w) (offset extent : ℚ) :
    0 < frameSize reported offset extent := by
  cases reported with
  | none => exact lt_of_lt_of_le one_pos (le_max_left _ _)
  | some w => exact h w rfl

/-- The constructor accepts what was clamped. -/
theorem clampedFields_wellFormed (h : InRange minConfidence raw) (frameWidth frameHeight : ℤ)
    (hwidth : 0 < frameWidth) (hheight : 0 < frameHeight) :
    (clampedFields raw deviceId cameraId className now eventId frameWidth frameHeight frameWidth
      frameHeight).WellFormed := by
  have hwidth' : (0 : ℚ) ≤ frameWidth := by exact_mod_cast hwidth.le
  have hheight' : (0 : ℚ) ≤ frameHeight := by exact_mod_cast hheight.le
  constructor
  case confidence_nonneg => exact h.confidence.1
  case confidence_le_one => exact h.confidence.2
  case sourceId_nonneg => exact h.sourceId
  case frameNumber_nonneg => exact h.frameNumber
  case frameWidth_pos => exact hwidth
  case frameHeight_pos => exact hheight
  case bboxLeft_nonneg => exact le_min h.bboxLeft hwidth'
  case bboxTop_nonneg => exact le_min h.bboxTop hheight'
  case bboxWidth_nonneg => exact le_min h.bboxWidth (sub_nonneg.mpr (min_le_right _ _))
  case bboxHeight_nonneg => exact le_min h.bboxHeight (sub_nonneg.mpr (min_le_right _ _))
  case within_width => exact clamp_le _ _ _
  case within_height => exact clamp_le _ _ _

/-- The event of numbers in range. -/
def clampedEvent (raw : RawDetection) (deviceId cameraId className : String) (now : Instant) (eventId : Uuid) :
    DetectionFields :=
  clampedFields raw deviceId cameraId className now eventId (frameSize raw.frameWidth raw.bboxLeft raw.bboxWidth)
    (frameSize raw.frameHeight raw.bboxTop raw.bboxHeight) (frameSize raw.frameWidth raw.bboxLeft raw.bboxWidth)
    (frameSize raw.frameHeight raw.bboxTop raw.bboxHeight)

theorem clamp_eq_ok_iff (h : InRange minConfidence raw) :
    clamp raw deviceId cameraId className now eventId = .ok event ↔
      FrameFits raw ∧ event.toDetectionFields = clampedEvent raw deviceId cameraId className now eventId := by
  simp only [clamp, bind_eq_ok_iff, orRaise_eq_ok_iff, DetectionEvent.new_eq_ok_iff]
  have hwidth := fun n q => frame_float_iff (n := n) (q := q) h.bboxLeft h.bboxWidth raw.frameWidth
  have hheight := fun n q => frame_float_iff (n := n) (q := q) h.bboxTop h.bboxHeight raw.frameHeight
  simp only [orRaise_eq_ok_iff] at hwidth hheight
  constructor
  · rintro ⟨W, hW, H, hH, w, hw, h', hh, hevent⟩
    obtain ⟨rfl, rfl, hfitsW⟩ := (hwidth W w).mp ⟨hW, hw⟩
    obtain ⟨rfl, rfl, hfitsH⟩ := (hheight H h').mp ⟨hH, hh⟩
    exact ⟨⟨hfitsW, hfitsH⟩, hevent⟩
  · rintro ⟨⟨hfitsW, hfitsH⟩, hevent⟩
    obtain ⟨hW, hw⟩ := (hwidth _ _).mpr ⟨rfl, rfl, hfitsW⟩
    obtain ⟨hH, hh⟩ := (hheight _ _).mpr ⟨rfl, rfl, hfitsH⟩
    exact ⟨_, hW, _, hH, _, hw, _, hh, hevent⟩

theorem not_rejects_frameExtent (reported : Option ℤ) (offset extent : ℚ) :
    ¬ Rejects (frameExtent reported offset extent) := by
  cases reported with
  | some w => simp [Rejects, frameExtent]
  | none =>
    rintro ⟨rejection, h⟩
    simp only [frameExtent] at h
    cases hceil : ceil (Double.ofRat (offset + extent)) with
    | ok n =>
      rw [hceil] at h
      cases h
    | error e =>
      rw [hceil] at h
      cases h

/-- On numbers in range the only way out without an event is an exception. -/
theorem raises_clamp_iff (h : InRange minConfidence raw) :
    Raises (clamp raw deviceId cameraId className now eventId) ↔ ¬ FrameFits raw := by
  constructor
  · rintro ⟨e, hraised⟩ hfits
    have hwell : (clampedEvent raw deviceId cameraId className now eventId).WellFormed :=
      clampedFields_wellFormed h _ _ (frameSize_pos h.frameWidth _ _) (frameSize_pos h.frameHeight _ _)
    have hok : clamp raw deviceId cameraId className now eventId = .ok ⟨_, hwell⟩ :=
      (clamp_eq_ok_iff h).mpr ⟨hfits, rfl⟩
    rw [hok] at hraised
    cases hraised
  · intro hnot
    rcases ok_or_rejects_or_raises (clamp raw deviceId cameraId className now eventId) with
      ⟨event, hok⟩ | hrejects | hraises
    · exact absurd ((clamp_eq_ok_iff h).mp hok).1 hnot
    · simp [clamp, rejects_bind, not_rejects_frameExtent] at hrejects
    · exact hraises

theorem raises_settle_iff :
    Raises (settle raw deviceId cameraId classNames minConfidence now eventId) ↔
      InRange minConfidence raw ∧ classNames raw.classId ≠ none ∧ ¬ FrameFits raw := by
  have hlast : ∀ h : InRange minConfidence raw, Raises (match classNames raw.classId with
      | none => reject .unknownClass "class_id"
      | some className => clamp raw deviceId cameraId className now eventId) ↔
      classNames raw.classId ≠ none ∧ ¬ FrameFits raw := by
    intro h
    split
    · rename_i hnone
      simp [hnone]
    · rename_i className hsome
      simp [hsome, raises_clamp_iff h]
  simp only [settle, raises_bind, not_raises_require, require_eq_ok_iff, false_or, exists_const]
  constructor
  · rintro ⟨h1, h2, h3, h4, h5, h6, h7, h8, h9, h10, h⟩
    have hrange : InRange minConfidence raw := ⟨h1, h2, h3, h4, h5, h6, h7, h8, h9, h10⟩
    exact ⟨hrange, (hlast hrange).mp h⟩
  · rintro ⟨hrange, h⟩
    exact ⟨hrange.1, hrange.2, hrange.3, hrange.4, hrange.5, hrange.6, hrange.7, hrange.8, hrange.9, hrange.10,
      (hlast hrange).mpr h⟩

theorem settle_eq_ok_iff :
    settle raw deviceId cameraId classNames minConfidence now eventId = .ok event ↔
      InRange minConfidence raw ∧ FrameFits raw ∧ ∃ className, classNames raw.classId = some className ∧
        event.toDetectionFields = clampedEvent raw deviceId cameraId className now eventId := by
  have hlast : ∀ h : InRange minConfidence raw, (match classNames raw.classId with
      | none => reject .unknownClass "class_id"
      | some className => clamp raw deviceId cameraId className now eventId) = .ok event ↔
      FrameFits raw ∧ ∃ className, classNames raw.classId = some className ∧
        event.toDetectionFields = clampedEvent raw deviceId cameraId className now eventId := by
    intro h
    split
    · rename_i hnone
      simp [hnone, reject]
    · rename_i className hsome
      simp [hsome, clamp_eq_ok_iff h]
  simp only [settle, bind_eq_ok_iff, require_eq_ok_iff, exists_const]
  constructor
  · rintro ⟨h1, h2, h3, h4, h5, h6, h7, h8, h9, h10, h⟩
    have hrange : InRange minConfidence raw := ⟨h1, h2, h3, h4, h5, h6, h7, h8, h9, h10⟩
    exact ⟨hrange, (hlast hrange).mp h⟩
  · rintro ⟨hrange, h⟩
    exact ⟨hrange.1, hrange.2, hrange.3, hrange.4, hrange.5, hrange.6, hrange.7, hrange.8, hrange.9, hrange.10,
      (hlast hrange).mpr h⟩

end Clamp

/-! ## When validation is total -/

/-- A number of the payload that the code converts is beyond the range of `float`: a field that comes up
before any rule has failed, or the frame of a detection that passes every rule. -/
def Overflows (payload : PyDict) (classNames : ℤ → Option String) (minConfidence : ℚ) : Prop :=
  ((∃ raw, HasInts payload raw) ∧ HugeFirst payload requiredFloatFields) ∨
    ∃ raw, HasFields payload raw ∧ InRange minConfidence raw ∧ classNames raw.classId ≠ none ∧
      ¬ FrameFits raw

/-- An event as the rules ask for it. -/
structure ValidEvent (payload : PyDict) (classNames : ℤ → Option String) (minConfidence : ℚ)
    (event : DetectionEvent) : Prop where
  wellFormed : event.toDetectionFields.WellFormed
  threshold : minConfidence ≤ event.confidence
  className : classNames event.classId = some event.className
  /-- A box inside a reported frame is kept, across and down. -/
  keepsWidth : ∀ frameWidth left width, IsInt payload "frame_width" frameWidth →
    IsNumber payload "bbox_left" left → IsNumber payload "bbox_width" width → left + width ≤ frameWidth →
    event.frameWidth = frameWidth ∧ event.bboxLeft = left ∧ event.bboxWidth = width
  keepsHeight : ∀ frameHeight top height, IsInt payload "frame_height" frameHeight →
    IsNumber payload "bbox_top" top → IsNumber payload "bbox_height" height → top + height ≤ frameHeight →
    event.frameHeight = frameHeight ∧ event.bboxTop = top ∧ event.bboxHeight = height

/-- `validate_detection` returns: a rejection, or a valid event. -/
def Settles (payload : PyDict) (classNames : ℤ → Option String) (minConfidence : ℚ)
    (outcome : Except ValidationStop DetectionEvent) : Prop :=
  (∃ rejection, outcome = .error (.rejected rejection)) ∨
    ∃ event, outcome = .ok event ∧ ValidEvent payload classNames minConfidence event

theorem IsNumber.unique {payload : PyDict} {field : String} {q q' : ℚ} (h : IsNumber payload field q)
    (h' : IsNumber payload field q') : q = q' :=
  Except.ok.inj ((readFloat_eq_ok_iff.mpr h).symm.trans (readFloat_eq_ok_iff.mpr h'))

/-- A reported frame is the one that was read. -/
theorem IsOptionalInt.eq_some {payload : PyDict} {field : String} {reported : Option ℤ} {i : ℤ}
    (h : IsOptionalInt payload field reported) (hi : IsInt payload field i) : reported = some i := by
  rcases h with ⟨hnone, -⟩ | ⟨j, hj, rfl⟩
  · rw [IsInt, hnone] at hi
    cases hi
  · rw [IsInt, hj] at hi
    cases hi
    rfl

section Total

variable {payload : PyDict} {deviceId cameraId : String} {classNames : ℤ → Option String} {minConfidence : ℚ}
  {now : Instant} {eventId : Uuid} {event : DetectionEvent}

theorem raises_validateDetection_iff :
    Raises (validateDetection payload deviceId cameraId classNames minConfidence now eventId) ↔
      Overflows payload classNames minConfidence := by
  simp only [validateDetection_eq, raises_bind, raises_readFields, readFields_eq_ok_iff, raises_settle_iff,
    Overflows]

/-- What comes out as an event is valid. -/
theorem validEvent_of_validateDetection
    (h : validateDetection payload deviceId cameraId classNames minConfidence now eventId = .ok event) :
    ValidEvent payload classNames minConfidence event := by
  rw [validateDetection_eq, bind_eq_ok_iff] at h
  obtain ⟨raw, hread, hsettle⟩ := h
  have hfields := readFields_eq_ok_iff.mp hread
  obtain ⟨hrange, -, className, hclass, hevent⟩ := settle_eq_ok_iff.mp hsettle
  constructor
  case wellFormed => exact event.wellFormed
  case threshold =>
    rw [hevent]
    exact hrange.threshold
  case className =>
    rw [hevent]
    exact hclass
  case keepsWidth =>
    intro frameWidth left width hframe hleft hwidth hinside
    obtain rfl := hleft.unique hfields.bboxLeft
    obtain rfl := hwidth.unique hfields.bboxWidth
    have hsize : frameSize raw.frameWidth raw.bboxLeft raw.bboxWidth = frameWidth := by
      rw [hfields.frameWidth.eq_some hframe, frameSize, Option.getD_some]
    have hkept := clamp_of_le hrange.bboxWidth hinside
    rw [hevent, clampedEvent, hsize]
    exact ⟨rfl, hkept⟩
  case keepsHeight =>
    intro frameHeight top height hframe htop hheight hinside
    obtain rfl := htop.unique hfields.bboxTop
    obtain rfl := hheight.unique hfields.bboxHeight
    have hsize : frameSize raw.frameHeight raw.bboxTop raw.bboxHeight = frameHeight := by
      rw [hfields.frameHeight.eq_some hframe, frameSize, Option.getD_some]
    have hkept := clamp_of_le hrange.bboxHeight hinside
    rw [hevent, clampedEvent, hsize]
    exact ⟨rfl, hkept⟩

end Total

/-- **Validation returns a rejection or a valid event if and only if no number of the payload overflows.** -/
theorem validation_total_iff (payload : PyDict) (deviceId cameraId : String) (classNames : ℤ → Option String)
    (minConfidence : ℚ) (now : Instant) (eventId : Uuid) :
    Settles payload classNames minConfidence
        (validateDetection payload deviceId cameraId classNames minConfidence now eventId) ↔
      ¬ Overflows payload classNames minConfidence := by
  have hraises : Raises (validateDetection payload deviceId cameraId classNames minConfidence now eventId) ↔
      Overflows payload classNames minConfidence := raises_validateDetection_iff
  rw [← hraises]
  constructor
  · rintro (⟨rejection, h⟩ | ⟨event, h, -⟩) ⟨e, hraised⟩
    · rw [h] at hraised
      cases hraised
    · rw [h] at hraised
      cases hraised
  · intro hnot
    rcases ok_or_rejects_or_raises
      (validateDetection payload deviceId cameraId classNames minConfidence now eventId) with
      ⟨event, hok⟩ | hrejects | hraises
    · exact .inr ⟨event, hok, validEvent_of_validateDetection hok⟩
    · exact .inl hrejects
    · exact absurd hraises hnot

/-- A v1 detection whose confidence is an integer of 309 digits. -/
def hugeConfidence : PyDict :=
  [("schema_version", .int 1), ("class_id", .int 0), ("source_id", .int 0), ("frame_number", .int 7),
    ("frame_width", .int 1920), ("frame_height", .int 1080), ("confidence", .int (2 ^ 1024))]

/-- It makes validation raise `OverflowError`. -/
theorem hugeConfidence_raises :
    validateDetection hugeConfidence "device" "camera" (fun _ => some "gun") (1 / 2) 0 0 =
        .error (.raised .overflowError) ∧
      ¬ Settles hugeConfidence (fun _ => some "gun") (1 / 2)
        (validateDetection hugeConfidence "device" "camera" (fun _ => some "gun") (1 / 2) 0 0) := by
  have hraised : validateDetection hugeConfidence "device" "camera" (fun _ => some "gun") (1 / 2) 0 0 =
      .error (.raised .overflowError) := by decide +kernel
  refine ⟨hraised, ?_⟩
  rw [hraised]
  rintro (⟨rejection, h⟩ | ⟨event, h, -⟩)
  · cases h
  · cases h

end WeaponDetection.Agent.Detection
