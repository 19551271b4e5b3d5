import Mathlib.Data.List.DropRight

/-!
# Trimming

`trimList p` takes the elements that satisfy `p` off both ends of a list: the trimming of a string, for
whatever a language counts as white space.
-/

namespace WeaponDetection.Foundations

variable {α : Type*} {p : α → Bool}

/-- The list without the elements at its ends that satisfy the predicate. -/
def trimList (p : α → Bool) (l : List α) : List α := (l.dropWhile p).rdropWhile p

/-- No element at an end of the list satisfies the predicate. -/
def Trimmed (p : α → Bool) (l : List α) : Prop :=
  (∀ x ∈ l.head?, p x = false) ∧ ∀ x ∈ l.getLast?, p x = false

theorem dropWhile_eq_self {l : List α} (h : ∀ x ∈ l.head?, p x = false) : l.dropWhile p = l := by
  cases l with
  | nil => rfl
  | cons x l =>
    rw [List.dropWhile_cons_of_neg]
    simp [h x rfl]

theorem rdropWhile_eq_self {l : List α} (h : ∀ x ∈ l.getLast?, p x = false) :
    l.rdropWhile p = l := by
  rw [List.rdropWhile_eq_self_iff]
  intro hne
  simp [h _ (List.getLast?_eq_getLast_of_ne_nil hne)]

/-- What begins with an element to be kept is kept. -/
theorem dropWhile_append_of_head {a m : List α} (hm : ∀ x ∈ m.head?, p x = false) :
    (a ++ m).dropWhile p = a.dropWhile p ++ m := by
  induction a with
  | nil => exact dropWhile_eq_self hm
  | cons x a ih =>
    rw [List.cons_append]
    cases hx : p x with
    | true => rw [List.dropWhile_cons_of_pos hx, List.dropWhile_cons_of_pos hx, ih]
    | false =>
      rw [List.dropWhile_cons_of_neg (by simp [hx]), List.dropWhile_cons_of_neg (by simp [hx])]
      rfl

/-- So is what ends with one. -/
theorem rdropWhile_append_of_last {m b : List α} (hm : ∀ x ∈ m.getLast?, p x = false) :
    (m ++ b).rdropWhile p = m ++ b.rdropWhile p := by
  rw [List.rdropWhile, List.reverse_append, dropWhile_append_of_head, List.reverse_append,
    List.reverse_reverse, List.rdropWhile]
  rwa [List.head?_reverse]

theorem trimList_eq_self {l : List α} (h : Trimmed p l) : trimList p l = l := by
  rw [trimList, dropWhile_eq_self h.1, rdropWhile_eq_self h.2]

/-- Trimming takes nothing out of the middle. -/
theorem trimList_append {a m b : List α} (hne : m ≠ []) (hm : Trimmed p m) :
    trimList p (a ++ m ++ b) = a.dropWhile p ++ m ++ b.rdropWhile p := by
  have hhead : ∀ x ∈ (m ++ b).head?, p x = false := by
    cases m with
    | nil => exact absurd rfl hne
    | cons x m => exact hm.1
  have hlast : ∀ x ∈ (a.dropWhile p ++ m).getLast?, p x = false := by
    intro x hx
    rw [List.getLast?_append_of_ne_nil _ hne] at hx
    exact hm.2 x hx
  rw [trimList, List.append_assoc, dropWhile_append_of_head hhead, ← List.append_assoc,
    rdropWhile_append_of_last hlast]

theorem trimList_sublist (p : α → Bool) (l : List α) : (trimList p l).Sublist l :=
  (List.rdropWhile_prefix p _).sublist.trans (List.dropWhile_suffix p).sublist

theorem head_dropWhile (p : α → Bool) (l : List α) : ∀ x ∈ (l.dropWhile p).head?, p x = false := by
  intro x hx
  have hnot := List.head?_dropWhile_not p l
  rw [hx] at hnot
  exact hnot

/-- What is left is trimmed. -/
theorem trimmed_trimList (p : α → Bool) (l : List α) : Trimmed p (trimList p l) := by
  constructor
  · intro x hx
    obtain ⟨rest, hrest⟩ := List.rdropWhile_prefix p (l.dropWhile p)
    refine head_dropWhile p l x ?_
    rw [← hrest]
    cases hl : (l.dropWhile p).rdropWhile p with
    | nil =>
      rw [trimList, hl] at hx
      cases hx
    | cons y kept =>
      rw [trimList, hl] at hx
      exact hx
  · intro x hx
    refine head_dropWhile p (l.dropWhile p).reverse x ?_
    rwa [trimList, List.rdropWhile, List.getLast?_reverse] at hx

/-- A list that trimming does not shorten is trimmed. -/
theorem trimmed_of_eq {l : List α} (h : trimList p l = l) : Trimmed p l :=
  h ▸ trimmed_trimList p l

/-- A second trimming does not put back what a first one has taken off. -/
theorem trimList_trimList_eq_self_iff {q : α → Bool} {l : List α} (hq : Trimmed q l) :
    trimList q (trimList p l) = l ↔ Trimmed p l := by
  constructor
  · intro h
    have hle := (trimList_sublist q (trimList p l)).length_le
    rw [h] at hle
    exact trimmed_of_eq ((trimList_sublist p l).eq_of_length_le hle)
  · intro hp
    rw [trimList_eq_self hp, trimList_eq_self hq]

theorem trimList_eq_self_iff {l : List α} : trimList p l = l ↔ Trimmed p l :=
  ⟨trimmed_of_eq, trimList_eq_self⟩

end WeaponDetection.Foundations
