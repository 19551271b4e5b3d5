import WeaponDetection.Foundations.Double

/-!
# Sync contracts of the Backend

Models `Contracts/DetectionEventDto.cs`, `Contracts/BoundingBoxDto.cs` and the two pure checks of
`AlertSyncService` that decide whether a bound item is accepted as input: `IsConfidenceValid` and
`IsFrameAndBoundingBoxValid`.  Machine integers are ranges of `ℤ`, so a value outside them cannot be
written down; doubles keep their infinities and NaN.
-/

namespace WeaponDetection.Backend

open WeaponDetection.Foundations (Double)

/-! ## Machine types -/

/-- `int`. -/
abbrev CsInt := {i : ℤ // -2 ^ 31 ≤ i ∧ i ≤ 2 ^ 31 - 1}

/-- `long`. -/
abbrev CsLong := {i : ℤ // -2 ^ 63 ≤ i ∧ i ≤ 2 ^ 63 - 1}

/-- `Guid`. -/
abbrev Guid := BitVec 128

/-- `DateTimeKind`. -/
inductive DateTimeKind where
  | unspecified
  | utc
  | local
  deriving DecidableEq

/-- `DateTime`: ticks of 100 ns on the clock its kind names.  Equality and order of the source
compare the ticks only. -/
structure DateTime where
  ticks : ℤ
  kind : DateTimeKind
  deriving DecidableEq

/-- `TimeZoneInfo`, by its offset from UTC in ticks at each UTC tick. -/
structure TimeZone where
  offset : ℤ → ℤ

/-! ## Data transfer objects -/

/-- `BoundingBoxDto`. -/
structure BoundingBoxDto where
  left : Double
  top : Double
  width : Double
  height : Double
  deriving DecidableEq

/-- `DetectionEventDto`, which `ToApplicationItem` copies field by field to the
`DetectionEventSyncItem` the service reads. -/
structure DetectionEventDto where
  eventId : Guid
  cameraId : String
  detectedAtUtc : DateTime
  createdAtUtc : DateTime
  classId : CsInt
  className : String
  confidence : Double
  sourceId : CsInt
  frameNumber : CsLong
  frameWidth : CsInt
  frameHeight : CsInt
  boundingBox : BoundingBoxDto
  deriving DecidableEq

/-! ## Input checks of `AlertSyncService` -/

/-- An `int` widened to `double`. -/
def doubleOfInt (i : CsInt) : Double := .finite i.val

/-- `IsConfidenceValid`. -/
def isConfidenceValid (confidence : Double) : Bool :=
  !confidence.isNaN && (Double.finite 0).le confidence && confidence.le (.finite 1)

/-- `IsFrameAndBoundingBoxValid`. -/
def isFrameAndBoundingBoxValid (evt : DetectionEventDto) : Bool :=
  let box := evt.boundingBox
  if evt.frameNumber.val < 0 ∨ evt.frameWidth.val < 0 ∨ evt.frameHeight.val < 0 then false
  else if !box.left.isFinite || !box.top.isFinite || !box.width.isFinite || !box.height.isFinite then
    false
  else if box.left.lt (.finite 0) || box.top.lt (.finite 0) || box.width.lt (.finite 0) ||
      box.height.lt (.finite 0) then
    false
  else
    (box.left.add box.width).le (doubleOfInt evt.frameWidth) &&
      (box.top.add box.height).le (doubleOfInt evt.frameHeight)

/-- An `int` is far below the magnitude at which a double overflows. -/
theorem abs_csInt_lt_overflowBound (i : CsInt) : |(i.val : ℚ)| < Double.overflowBound := by
  have habs : |i.val| ≤ 2 ^ 31 := abs_le.mpr ⟨i.property.1, by linarith [i.property.2]⟩
  have hpow : (2 : ℚ) ^ 31 < Double.overflowBound := by
    unfold Double.overflowBound
    exact pow_lt_pow_right₀ (by norm_num) (by norm_num)
  calc |(i.val : ℚ)| = ((|i.val| : ℤ) : ℚ) := (Int.cast_abs).symm
    _ ≤ ((2 ^ 31 : ℤ) : ℚ) := Int.cast_le.mpr habs
    _ = 2 ^ 31 := by norm_num
    _ < Double.overflowBound := hpow

/-- A finite confidence is valid exactly between zero and one. -/
theorem isConfidenceValid_finite (q : ℚ) :
    isConfidenceValid (.finite q) = true ↔ 0 ≤ q ∧ q ≤ 1 := by
  simp [isConfidenceValid]

/-- Over a finite box the check is the inequalities its comment states. -/
theorem isFrameAndBoundingBoxValid_finite {evt : DetectionEventDto} {left top width height : ℚ}
    (hbox : evt.boundingBox = ⟨.finite left, .finite top, .finite width, .finite height⟩) :
    isFrameAndBoundingBoxValid evt = true ↔
      (0 ≤ evt.frameNumber.val ∧ 0 ≤ evt.frameWidth.val ∧ 0 ≤ evt.frameHeight.val) ∧
        (0 ≤ left ∧ 0 ≤ top ∧ 0 ≤ width ∧ 0 ≤ height) ∧
        left + width ≤ evt.frameWidth.val ∧ top + height ≤ evt.frameHeight.val := by
  have hle : ∀ (a b : ℚ) (n : CsInt), ((Double.finite a).add (.finite b)).le (doubleOfInt n) =
      decide (a + b ≤ n.val) := fun a b n => by
    rw [Double.add_finite, doubleOfInt]
    exact Double.ofRat_le_finite _ _ (abs_csInt_lt_overflowBound n)
  unfold isFrameAndBoundingBoxValid
  simp only [hbox, hle, Double.isFinite_finite, Double.lt_finite]
  by_cases hframe : evt.frameNumber.val < 0 ∨ evt.frameWidth.val < 0 ∨ evt.frameHeight.val < 0
  · simp only [hframe, ↓reduceIte, Bool.false_eq_true, false_iff]
    rintro ⟨⟨hn, hw, hh⟩, -⟩
    omega
  · have hnonneg :
        0 ≤ evt.frameNumber.val ∧ 0 ≤ evt.frameWidth.val ∧ 0 ≤ evt.frameHeight.val := by omega
    by_cases hneg : left < 0 ∨ top < 0 ∨ width < 0 ∨ height < 0
    · have : ¬ (0 ≤ left ∧ 0 ≤ top ∧ 0 ≤ width ∧ 0 ≤ height) := by
        rintro ⟨hl, ht, hw, hh⟩
        rcases hneg with h | h | h | h <;> linarith
      simp [hframe, this]
      tauto
    · simp only [not_or, not_lt] at hneg
      simp [hnonneg, hneg, not_lt.mpr]

end WeaponDetection.Backend
