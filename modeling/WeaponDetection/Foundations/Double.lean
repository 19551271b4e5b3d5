import Mathlib.Data.Rat.Floor
import Mathlib.Tactic.Linarith
import Mathlib.Tactic.NormNum

/-!
# IEEE-754 doubles with exact finite arithmetic

Both languages of a client/server pair use the same 64-bit floating-point type.  A finite double
is represented by the rational it denotes and arithmetic on finite doubles is exact; what is kept
of the format is what programs branch on: the two infinities, NaN, the fact that every ordered
comparison with NaN is false, and overflow of a result of magnitude `2 ^ 1024` or more to an
infinity.
-/

namespace WeaponDetection.Foundations

/-- A 64-bit floating-point value. -/
inductive Double where
  /-- A finite value, by the rational it denotes. -/
  | finite (q : ℚ)
  /-- An infinity, with its sign. -/
  | inf (negative : Bool)
  /-- Not a number. -/
  | nan
  deriving DecidableEq

namespace Double

/-- The magnitude from which a value no longer fits a finite double. -/
def overflowBound : ℚ := 2 ^ 1024

/-- A rational as a double: an infinity once its magnitude reaches the overflow bound. -/
def ofRat (q : ℚ) : Double :=
  if |q| < overflowBound then .finite q else .inf (decide (q < 0))

/-! ## Classification -/

/-- `isnan`. -/
def isNaN : Double → Bool
  | .nan => true
  | _ => false

/-- `isfinite`. -/
def isFinite : Double → Bool
  | .finite _ => true
  | _ => false

/-! ## Comparison and arithmetic -/

/-- `a <= b`, false as soon as one side is NaN. -/
def le : Double → Double → Bool
  | .finite a, .finite b => decide (a ≤ b)
  | .nan, _ => false
  | _, .nan => false
  | .inf true, _ => true
  | _, .inf false => true
  | _, _ => false

/-- `a < b`, false as soon as one side is NaN. -/
def lt : Double → Double → Bool
  | .finite a, .finite b => decide (a < b)
  | .nan, _ => false
  | _, .nan => false
  | .inf true, .inf true => false
  | .inf true, _ => true
  | .inf false, _ => false
  | _, .inf negative => !negative

/-- `a + b`. -/
def add : Double → Double → Double
  | .finite a, .finite b => ofRat (a + b)
  | .nan, _ => .nan
  | _, .nan => .nan
  | .inf a, .inf b => if a = b then .inf a else .nan
  | .inf a, .finite _ => .inf a
  | .finite _, .inf b => .inf b

/-- `a * b`. -/
def mul : Double → Double → Double
  | .finite a, .finite b => ofRat (a * b)
  | .nan, _ => .nan
  | _, .nan => .nan
  | .inf a, .inf b => .inf (a != b)
  | .inf a, .finite b => if b = 0 then .nan else .inf (a != decide (b < 0))
  | .finite a, .inf b => if a = 0 then .nan else .inf (decide (a < 0) != b)

/-- `min(a, b)` as Python computes it: `b` only when it is smaller than `a`. -/
def min (a b : Double) : Double := if b.lt a then b else a

/-- `-a`. -/
def neg : Double → Double
  | .finite a => .finite (-a)
  | .inf negative => .inf !negative
  | .nan => .nan

/-- `abs`. -/
def abs : Double → Double
  | .finite a => .finite |a|
  | .inf _ => .inf false
  | .nan => .nan

@[simp] theorem isNaN_finite (q : ℚ) : (finite q).isNaN = false := rfl

@[simp] theorem isFinite_finite (q : ℚ) : (finite q).isFinite = true := rfl

@[simp] theorem le_finite (a b : ℚ) : (finite a).le (finite b) = decide (a ≤ b) := rfl

@[simp] theorem lt_finite (a b : ℚ) : (finite a).lt (finite b) = decide (a < b) := rfl

theorem add_finite (a b : ℚ) : (finite a).add (finite b) = ofRat (a + b) := rfl

theorem mul_finite (a b : ℚ) : (finite a).mul (finite b) = ofRat (a * b) := rfl

theorem isFinite_iff (d : Double) : d.isFinite = true ↔ ∃ q, d = .finite q := by
  cases d <;> simp [isFinite]

/-! ## Rounding to a double -/

theorem ofRat_of_lt {q : ℚ} (h : |q| < overflowBound) : ofRat q = .finite q := if_pos h

/-- A rational no larger than a finite bound compares with it as a double the way it compares as a
rational: an overflowing sum is an infinity of its own sign. -/
theorem ofRat_le_finite (a b : ℚ) (hb : |b| < overflowBound) :
    (ofRat a).le (finite b) = decide (a ≤ b) := by
  unfold ofRat
  split
  · rfl
  · rename_i ha
    rw [not_lt] at ha
    rw [abs_lt] at hb
    by_cases hneg : a < 0
    · have hab : a ≤ b := by rw [abs_of_neg hneg] at ha; linarith
      simp [hneg, hab, le]
    · have hba : ¬ a ≤ b := by rw [abs_of_nonneg (not_lt.mp hneg)] at ha; linarith
      simp [hneg, hba, le]

/-- A product that overflowed upwards is capped like the product itself. -/
theorem min_ofRat_finite {a b : ℚ} (ha : 0 ≤ a) (hb : b < overflowBound) :
    (ofRat a).min (finite b) = finite (Min.min a b) := by
  unfold ofRat Double.min
  split
  · simp only [lt_finite, decide_eq_true_eq]
    split
    · rw [min_eq_right (le_of_lt ‹_›)]
    · rw [min_eq_left (not_lt.mp ‹_›)]
  · rename_i hover
    rw [not_lt, abs_of_nonneg ha] at hover
    have hneg : decide (a < 0) = false := by simpa using ha
    rw [hneg, min_eq_right (by linarith)]
    rfl

end Double

end WeaponDetection.Foundations
