import Mathlib.Data.List.Infix
import Mathlib.Algebra.Order.Group.Nat

/-!
# First occurrences

`indexOf pattern text` is the position of the first occurrence of a pattern.  The text around it is
described without positions: `text = p ++ pattern ++ rest`, with no occurrence that begins in `p`.
-/

namespace WeaponDetection.Foundations

variable {α : Type*} [DecidableEq α]

/-- The position of the first occurrence of a pattern. -/
def indexOf (pattern : List α) : List α → Option ℕ
  | [] => if pattern = [] then some 0 else none
  | c :: rest =>
    if pattern <+: c :: rest then some 0 else (indexOf pattern rest).map (· + 1)

/-- No occurrence of the pattern begins in `p`, even with the pattern right behind it. -/
def NoneBefore (pattern p : List α) : Prop := ∀ n < p.length, ¬ pattern <+: (p ++ pattern).drop n

section Lemmas

variable {pattern p q x y : List α}

omit [DecidableEq α] in
/-- Whether an occurrence begins in `p` does not depend on what comes after the pattern. -/
theorem prefix_drop_iff {n : ℕ} (h : n < p.length) :
    pattern <+: (p ++ pattern ++ x).drop n ↔ pattern <+: (p ++ pattern).drop n := by
  have hle : n ≤ (p ++ pattern).length := by
    rw [List.length_append]
    omega
  rw [List.drop_append_of_le_length hle]
  constructor
  · intro hstart
    refine List.prefix_of_prefix_length_le hstart (List.prefix_append _ x) ?_
    rw [List.length_drop, List.length_append]
    omega
  · exact fun hstart => hstart.trans (List.prefix_append _ x)

omit [DecidableEq α] in
theorem NoneBefore.of_append (h : NoneBefore pattern (q ++ p)) : NoneBefore pattern p := by
  intro n hn hstart
  refine h (q.length + n) (by rw [List.length_append]; omega) ?_
  have hdrop : (q ++ (p ++ pattern)).drop (q.length + n) = (p ++ pattern).drop n := by
    rw [List.drop_append]
    simp
  rwa [List.append_assoc, hdrop]

omit [DecidableEq α] in
/-- The text before the first occurrence is determined. -/
theorem NoneBefore.unique (hp : NoneBefore pattern p) (hq : NoneBefore pattern q)
    (h : p ++ pattern ++ x = q ++ pattern ++ y) : p = q ∧ x = y := by
  have hle : ∀ {p q x y : List α}, NoneBefore pattern q →
      p ++ pattern ++ x = q ++ pattern ++ y → q.length ≤ p.length := by
    intro p q x y hq h
    by_contra hlt
    rw [Nat.not_le] at hlt
    refine hq p.length hlt ((prefix_drop_iff (x := y) hlt).mp ?_)
    rw [← h, List.append_assoc, List.drop_left]
    exact List.prefix_append _ _
  have hlength := Nat.le_antisymm (hle hp h.symm) (hle hq h)
  obtain ⟨hleft, hright⟩ := List.append_inj h (by simp [hlength])
  exact ⟨(List.append_inj hleft hlength).1, hright⟩

theorem indexOf_eq_none_iff {text : List α} :
    indexOf pattern text = none ↔ ¬ pattern <:+: text := by
  induction text with
  | nil =>
    unfold indexOf
    rw [List.infix_nil]
    split <;> simp_all
  | cons c rest ih =>
    unfold indexOf
    rw [List.infix_cons_iff]
    split
    · rename_i hstart
      simp [hstart]
    · rename_i hstart
      rw [Option.map_eq_none_iff, ih]
      simp [hstart]

/-- The first occurrence. -/
theorem indexOf_append (h : NoneBefore pattern p) :
    indexOf pattern (p ++ pattern ++ x) = some p.length := by
  induction p with
  | nil =>
    rw [List.nil_append]
    cases hpattern : pattern ++ x with
    | nil =>
      rw [List.append_eq_nil_iff] at hpattern
      simp [indexOf, hpattern.1]
    | cons c rest =>
      unfold indexOf
      rw [if_pos]
      · rfl
      · exact hpattern ▸ List.prefix_append pattern x
  | cons c p ih =>
    have hfirst : ¬ pattern <+: c :: (p ++ pattern ++ x) := by
      intro hstart
      exact h 0 (Nat.zero_lt_succ _) ((prefix_drop_iff (Nat.zero_lt_succ _)).mp hstart)
    rw [List.cons_append, List.cons_append, indexOf, if_neg hfirst,
      ih (NoneBefore.of_append (q := [c]) h)]
    rfl

/-- The text around the first occurrence. -/
theorem exists_of_infix {text : List α} (h : pattern <:+: text) :
    ∃ p x, text = p ++ pattern ++ x ∧ NoneBefore pattern p := by
  induction text with
  | nil =>
    rw [List.infix_nil] at h
    exact ⟨[], [], by simp [h], fun n hn => absurd hn (Nat.not_lt_zero n)⟩
  | cons c rest ih =>
    by_cases hstart : pattern <+: c :: rest
    · obtain ⟨x, hx⟩ := hstart
      exact ⟨[], x, hx.symm, fun n hn => absurd hn (Nat.not_lt_zero n)⟩
    · obtain ⟨p, x, hrest, hp⟩ := ih ((List.infix_cons_iff.mp h).resolve_left hstart)
      refine ⟨c :: p, x, by rw [hrest]; rfl, fun n hn hat => ?_⟩
      cases n with
      | zero =>
        refine hstart ?_
        rw [hrest]
        exact (prefix_drop_iff (p := c :: p) hn).mpr hat
      | succ n => exact hp n (Nat.lt_of_succ_lt_succ hn) hat

omit [DecidableEq α] in
theorem noneBefore_singleton {c : α} : NoneBefore [c] p ↔ c ∉ p := by
  constructor
  · intro h hmem
    obtain ⟨s, t, rfl⟩ := List.append_of_mem hmem
    refine h s.length (by simp) ?_
    rw [List.append_assoc, List.drop_left]
    exact ⟨t ++ [c], rfl⟩
  · intro hmem n hn hstart
    rw [List.drop_append_of_le_length hn.le] at hstart
    obtain ⟨d, rest, hdrop⟩ : ∃ d rest, p.drop n = d :: rest :=
      List.exists_cons_of_length_pos (by rw [List.length_drop]; omega)
    rw [hdrop, List.cons_append, List.cons_prefix_cons] at hstart
    refine hmem (List.mem_of_mem_drop (i := n) ?_)
    rw [hdrop, hstart.1]
    exact List.mem_cons_self

/-- The first occurrence of an element. -/
theorem indexOf_singleton {c : α} (h : c ∉ p) : indexOf [c] (p ++ c :: x) = some p.length := by
  have hfirst := indexOf_append (x := x) (noneBefore_singleton.mpr h)
  rwa [List.append_assoc, List.singleton_append] at hfirst

theorem indexOf_singleton_eq_none_iff {c : α} : indexOf [c] p = none ↔ c ∉ p := by
  rw [indexOf_eq_none_iff, List.singleton_infix_iff]

/-- An element occurs within a first part or its first occurrence lies behind it. -/
theorem getD_indexOf_lt_iff {c : α} :
    (indexOf [c] (p ++ x)).getD (p ++ x).length < p.length ↔ c ∈ p := by
  by_cases hp : c ∈ p
  · obtain ⟨before, after, rfl, hbefore⟩ := List.eq_append_cons_of_mem hp
    rw [List.append_assoc, List.cons_append, indexOf_singleton hbefore, Option.getD_some]
    simp
  · refine iff_of_false ?_ hp
    rw [Nat.not_lt]
    by_cases hx : c ∈ x
    · obtain ⟨before, after, rfl, hbefore⟩ := List.eq_append_cons_of_mem hx
      have hnot : c ∉ p ++ before := by
        rw [List.mem_append]
        exact not_or.mpr ⟨hp, hbefore⟩
      rw [← List.append_assoc, indexOf_singleton hnot, Option.getD_some, List.length_append]
      exact Nat.le_add_right _ _
    · have hnot : c ∉ p ++ x := by
        rw [List.mem_append]
        exact not_or.mpr ⟨hp, hx⟩
      rw [indexOf_singleton_eq_none_iff.mpr hnot, Option.getD_none, List.length_append]
      exact Nat.le_add_right _ _

end Lemmas

end WeaponDetection.Foundations
