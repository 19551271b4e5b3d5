import Mathlib.Data.List.Sort
import Mathlib.Data.List.Nodup

/-!
# Rows sorted by a time and an identifier

The order of a query `ORDER BY time ASC, id ASC` on rows with unique identifiers, and which rows of it
a `LIMIT` lets through.
-/

namespace WeaponDetection.Foundations.TimeOrder

variable {α T : Type} [LinearOrder T] {w : ℕ}

/-- The row comes before the other: it is earlier, or of the same time with a smaller identifier. -/
def Before (time : α → T) (id : α → BitVec w) (a b : α) : Prop :=
  time a < time b ∨ (time a = time b ∧ id a < id b)

variable {time : α → T} {id : α → BitVec w}

instance : DecidableRel (Before time id) := fun _ _ => inferInstanceAs (Decidable (_ ∨ _))

theorem before_irrefl (a : α) : ¬ Before time id a a := by
  simp [Before]

theorem before_trans {a b c : α} (hab : Before time id a b) (hbc : Before time id b c) :
    Before time id a c := by
  rcases hab with hab | ⟨hab, hab'⟩
  · rcases hbc with hbc | ⟨hbc, -⟩
    · exact .inl (hab.trans hbc)
    · exact .inl (hbc ▸ hab)
  · rcases hbc with hbc | ⟨hbc, hbc'⟩
    · exact .inl (hab ▸ hbc)
    · exact .inr ⟨hab.trans hbc, BitVec.lt_trans hab' hbc'⟩

theorem before_asymm (a b : α) (hab : Before time id a b) : ¬ Before time id b a :=
  fun hba => before_irrefl a (before_trans hab hba)

/-- A sorted list of rows with unique identifiers is strictly sorted. -/
theorem pairwise_before_insertionSort {le : α → α → Prop} [DecidableRel le]
    (hle : ∀ a b, le a b ↔ time a < time b ∨ (time a = time b ∧ id a ≤ id b)) {rows : List α}
    (hnodup : (rows.map id).Nodup) : (rows.insertionSort le).Pairwise (Before time id) := by
  have hsorted : (rows.insertionSort le).Pairwise le := by
    have : Std.Total le := ⟨fun a b => by
      rw [hle, hle]
      rcases lt_trichotomy (time a) (time b) with h | h | h
      · exact .inl (.inl h)
      · rcases BitVec.le_total (id a) (id b) with hid | hid
        · exact .inl (.inr ⟨h, hid⟩)
        · exact .inr (.inr ⟨h.symm, hid⟩)
      · exact .inr (.inl h)⟩
    have : IsTrans α le := ⟨fun a b c hab hbc => by
      rw [hle] at *
      rcases hab with hab | ⟨hab, hab'⟩ <;> rcases hbc with hbc | ⟨hbc, hbc'⟩
      · exact .inl (hab.trans hbc)
      · exact .inl (hbc ▸ hab)
      · exact .inl (hab ▸ hbc)
      · exact .inr ⟨hab.trans hbc, BitVec.le_trans hab' hbc'⟩⟩
    exact List.pairwise_insertionSort le _
  have hids : ((rows.insertionSort le).map id).Nodup :=
    ((List.perm_insertionSort le rows).map id).nodup_iff.mpr hnodup
  refine (hsorted.and (List.pairwise_map.mp hids)).imp fun {a b} h => ?_
  obtain ⟨horder, hne⟩ := h
  rcases (hle a b).mp horder with horder | ⟨heq, hid⟩
  · exact .inl horder
  · refine .inr ⟨heq, ?_⟩
    rw [BitVec.lt_def]
    exact lt_of_le_of_ne (BitVec.le_def.mp hid) fun h => hne (BitVec.eq_of_toNat_eq h)

/-- Two strictly sorted lists of the same rows are the same list. -/
theorem eq_of_pairwise_before {l l' : List α} (hl : l.Pairwise (Before time id))
    (hl' : l'.Pairwise (Before time id)) (h : ∀ a, a ∈ l ↔ a ∈ l') : l = l' := by
  have hnodup : ∀ {l : List α}, l.Pairwise (Before time id) → l.Nodup := fun hl =>
    List.Pairwise.imp (fun {a b} hlt (heq : a = b) => before_irrefl b (heq ▸ hlt)) hl
  refine List.Perm.eq_of_pairwise (fun a b _ _ hab hba => absurd hba (before_asymm a b hab)) hl hl' ?_
  exact (List.perm_ext_iff_of_nodup (hnodup hl) (hnodup hl')).mpr h

/-- A row is on the first page when fewer rows than a page come before it. -/
theorem mem_take_iff_countP_lt {l : List α} (hl : l.Pairwise (Before time id)) {r : α} (hr : r ∈ l)
    (n : ℕ) : r ∈ l.take n ↔ l.countP (fun a => Before time id a r) < n := by
  induction l generalizing n with
  | nil => cases hr
  | cons a rest ih =>
    obtain ⟨hhead, htail⟩ := List.pairwise_cons.mp hl
    cases n with
    | zero => simp
    | succ n =>
      rcases List.mem_cons.mp hr with rfl | hmem
      · have hnone : rest.countP (fun b => Before time id b r) = 0 :=
          List.countP_eq_zero.mpr fun b hb => by simpa using before_asymm r b (hhead b hb)
        simp [hnone, before_irrefl]
      · have hlt : Before time id a r := hhead r hmem
        have hne : r ≠ a := fun heq => before_irrefl a (heq ▸ hlt)
        rw [List.take_succ_cons, List.mem_cons, List.countP_cons, if_pos (decide_eq_true hlt),
          Nat.succ_lt_succ_iff, ← ih htail hmem n]
        exact or_iff_right hne

end WeaponDetection.Foundations.TimeOrder
