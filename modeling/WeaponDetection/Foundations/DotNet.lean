import Mathlib.Algebra.GroupWithZero.Nat
import Mathlib.Algebra.Ring.Nat
import Mathlib.Data.List.Basic

/-!
# Strings of .NET

The string operations the Backend's entities use, on `String`: `char.IsWhiteSpace` and what is built on
it, and `string.Length`, which counts UTF-16 code units.
-/

namespace WeaponDetection.Foundations.DotNet

/-- `char.IsWhiteSpace`. -/
def isWhiteSpace (c : Char) : Bool :=
  (0x9 ≤ c.toNat && c.toNat ≤ 0xd) || (0x2000 ≤ c.toNat && c.toNat ≤ 0x200a) ||
    [0x20, 0x85, 0xa0, 0x1680, 0x2028, 0x2029, 0x202f, 0x205f, 0x3000].contains c.toNat

/-- `string.IsNullOrWhiteSpace` of a string that is not null. -/
def isNullOrWhiteSpace (text : String) : Bool := text.toList.all isWhiteSpace

/-- `Trim()`. -/
def trim (text : String) : String :=
  String.ofList ((text.toList.dropWhile isWhiteSpace).reverse.dropWhile isWhiteSpace).reverse

/-- `string.Length`: a character outside the basic plane is two code units. -/
def length (text : String) : ℕ :=
  (text.toList.map fun c => if c.toNat < 0x10000 then 1 else 2).sum

/-- `ToLowerInvariant()`, exact for the letters that become ASCII: the capitals and the Kelvin sign. -/
def toLowerInvariant (text : String) : String :=
  String.ofList (text.toList.map fun c => if c.toNat = 0x212a then 'k' else c.toLower)

example : toLowerInvariant (trim "\t GuN \n") = "gun" := by decide +kernel

/-! ## `ToString()` of a number -/

theorem isDigit_of_mem_toString {n : ℕ} {c : Char} (h : c ∈ (toString n).toList) : c.isDigit = true := by
  rw [Nat.toString_eq_repr, Nat.repr, String.toList_ofList] at h
  exact Nat.isDigit_of_mem_toDigits (by decide) (by decide) h

/-- The digits write the number. -/
theorem ofDigitChars_toString (n : ℕ) : Nat.ofDigitChars 10 (toString n).toList 0 = n := by
  rw [Nat.toString_eq_repr, Nat.repr, String.toList_ofList, Nat.ofDigitChars_ten_toDigits]

theorem toString_toList_inj {m n : ℕ} (h : (toString m).toList = (toString n).toList) : m = n := by
  rw [← ofDigitChars_toString m, h, ofDigitChars_toString]

theorem toString_toList_ne_nil (n : ℕ) : (toString n).toList ≠ [] := by
  simp only [Nat.toString_eq_repr, Nat.repr, String.toList_ofList]
  exact Nat.toDigits_ne_nil

end WeaponDetection.Foundations.DotNet
