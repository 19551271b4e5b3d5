import Mathlib.Data.List.Lex
import Mathlib.Order.Interval.Set.Basic
import Mathlib.Order.Monotone.Defs
import Mathlib.Data.Set.Monotone
import Mathlib.Algebra.Order.Ring.Nat

/-!
# Texts that order as the numbers they stand for

A text made of fields of fixed length is compared field by field.  So it orders as the number whose
parts the fields are, as long as every field does: `FixedField.split` puts two fields together,
`fixedField_numeral` is the field of a number in a fixed count of digits, and only the last field of
a text may vary in length (`strictMonoOn_split`).
-/

namespace WeaponDetection.Foundations.TextOrder

/-! ## Numerals -/

section Numerals

variable {α : Type} {digit : ℕ → α} {base : ℕ}

/-- A number in a fixed count of digits, the most significant one first. -/
def numeral (digit : ℕ → α) (base : ℕ) : ℕ → ℕ → List α
  | 0, _ => []
  | width + 1, n => numeral digit base width (n / base) ++ [digit (n % base)]

@[simp] theorem length_numeral (width n : ℕ) : (numeral digit base width n).length = width := by
  induction width generalizing n with
  | zero => rfl
  | succ width ih => simp [numeral, ih]

/-- Only the digits that are written matter. -/
theorem numeral_mod (width n : ℕ) :
    numeral digit base width (n % base ^ width) = numeral digit base width n := by
  induction width generalizing n with
  | zero => rfl
  | succ width ih =>
    have hhigh : n % base ^ (width + 1) / base = n / base % base ^ width := by
      rw [pow_succ, Nat.mod_mul_left_div_self]
    have hlow : n % base ^ (width + 1) % base = n % base :=
      Nat.mod_mod_of_dvd n (dvd_pow_self base (Nat.succ_ne_zero width))
    rw [numeral, numeral, hhigh, hlow, ih]

end Numerals

/-! ## The order of fields -/

variable {α : Type} [LinearOrder α] {text high low : ℕ → List α} {bound count : ℕ}

/-- A difference in a first part of one length decides. -/
theorem append_lt_append_of_lt {a b : List α} (hlength : a.length = b.length) (h : a < b) (c d : List α) :
    a ++ c < b ++ d := by
  induction a generalizing b with
  | nil =>
    cases b with
    | nil => exact absurd h (lt_irrefl _)
    | cons y b => simp at hlength
  | cons x a ih =>
    cases b with
    | nil => simp at hlength
    | cons y b =>
      rw [List.cons_append, List.cons_append, List.cons_lt_cons_iff]
      rcases List.cons_lt_cons_iff.1 h with hlt | ⟨heq, hlt⟩
      · exact .inl hlt
      · exact .inr ⟨heq, ih (by simpa using hlength) hlt⟩

/-- A text of fixed length that orders as the number below `bound` it stands for. -/
structure FixedField (text : ℕ → List α) (bound : ℕ) : Prop where
  length_eq : ∀ m n, (text m).length = (text n).length
  strictMonoOn : StrictMonoOn text (Set.Iio bound)

/-- A field of fewer numbers. -/
theorem FixedField.mono (h : FixedField text bound) (hle : count ≤ bound) : FixedField text count :=
  ⟨h.length_eq, StrictMonoOn.mono h.strictMonoOn (Set.Iio_subset_Iio hle)⟩

/-- A separator after a field. -/
theorem FixedField.suffix (h : FixedField text bound) (separator : List α) :
    FixedField (fun n => text n ++ separator) bound where
  length_eq m n := by simp [h.length_eq m n]
  strictMonoOn m hm n hn hlt :=
    append_lt_append_of_lt (h.length_eq m n) (h.strictMonoOn hm hn hlt) separator separator

/-- A separator before a field. -/
theorem FixedField.cons (h : FixedField text bound) (separator : α) :
    FixedField (fun n => separator :: text n) bound where
  length_eq m n := by simp [h.length_eq m n]
  strictMonoOn m hm n hn hlt := List.cons_lt_cons_self.2 (h.strictMonoOn hm hn hlt)

/-- A field of fixed length and the rest of the text behind it, which orders as the remainder. -/
theorem strictMonoOn_split (hhigh : FixedField high bound) (hlow : StrictMonoOn low (Set.Iio count)) :
    StrictMonoOn (fun n => high (n / count) ++ low (n % count)) (Set.Iio (bound * count)) := by
  intro m hm n hn hlt
  rw [Set.mem_Iio] at hm hn
  have hcount : 0 < count := Nat.pos_of_mul_pos_left (Nat.zero_lt_of_lt hm)
  have hm' : m / count < bound := (Nat.div_lt_iff_lt_mul hcount).2 hm
  have hn' : n / count < bound := (Nat.div_lt_iff_lt_mul hcount).2 hn
  rcases (Nat.div_le_div_right (c := count) hlt.le).lt_or_eq with hdiv | hdiv
  · exact append_lt_append_of_lt (hhigh.length_eq _ _) (hhigh.strictMonoOn hm' hn' hdiv) _ _
  · -- the fields agree, so the remainders decide
    have hmod : m % count < n % count := by
      have hmdiv := Nat.div_add_mod m count
      have hndiv := Nat.div_add_mod n count
      rw [hdiv] at hmdiv
      omega
    simp only [hdiv]
    exact List.append_left_lt (hlow (Nat.mod_lt m hcount) (Nat.mod_lt n hcount) hmod)

/-- Two fields of fixed length. -/
theorem FixedField.split (hhigh : FixedField high bound) (hlow : FixedField low count) :
    FixedField (fun n => high (n / count) ++ low (n % count)) (bound * count) where
  length_eq m n := by
    rw [List.length_append, List.length_append, hhigh.length_eq (m / count) (n / count),
      hlow.length_eq (m % count) (n % count)]
  strictMonoOn := strictMonoOn_split hhigh hlow.strictMonoOn

/-- **A numeral of fixed width orders as its number**, as soon as the digits do. -/
theorem fixedField_numeral {digit : ℕ → α} {base : ℕ} (hdigit : StrictMonoOn digit (Set.Iio base)) (width : ℕ) :
    FixedField (numeral digit base width) (base ^ width) := by
  induction width with
  | zero =>
    refine ⟨by simp, ?_⟩
    intro m hm n hn hlt
    simp only [pow_zero, Set.mem_Iio] at hm hn
    omega
  | succ width ih =>
    have hlast : FixedField (fun d => [digit d]) base := by
      refine ⟨by simp, ?_⟩
      intro m hm n hn hlt
      exact List.cons_lt_cons_iff.2 (.inl (hdigit hm hn hlt))
    exact ih.split hlast

end WeaponDetection.Foundations.TextOrder
