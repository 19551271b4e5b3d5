import Mathlib.Algebra.BigOperators.Group.List.Basic
import Mathlib.Algebra.Group.Prod
import Mathlib.Algebra.Order.Group.Int
import Mathlib.Data.List.Dedup

/-!
# Histograms

Rows added up by a key, as `GROUP BY` does, rolled up to coarser keys and summed over any list of keys
that has every row's key once; and tilings, the lists of equally long cells that cover an interval.
-/

namespace WeaponDetection.Foundations.Histogram

/-! ## Groups -/

section Groups

variable {α κ κ' M : Type*} [DecidableEq κ] [DecidableEq κ'] [AddCommMonoid M]

/-- The sum over the rows with a key. -/
def sumAt (key : α → κ) (value : α → M) (rows : List α) (k : κ) : M :=
  ((rows.filter fun a => key a = k).map value).sum

/-- The sums over the groups of rows with one key. -/
def groupSums (key : α → κ) (value : α → M) (rows : List α) : List (κ × M) :=
  (rows.map key).dedup.map fun k => (k, sumAt key value rows k)

/-- The group with a key. -/
def groupAt (groups : List (κ × M)) (k : κ) : Option M :=
  (groups.find? fun group => group.1 = k).map Prod.snd

variable {key : α → κ} {value : α → M} {rows : List α}

theorem sumAt_cons (a : α) (k : κ) : sumAt key value (a :: rows) k =
    (if key a = k then value a else 0) + sumAt key value rows k := by
  unfold sumAt
  by_cases h : key a = k
  · simp [h]
  · simp [h]

theorem sumAt_eq_zero {k : κ} (h : ∀ a ∈ rows, key a ≠ k) : sumAt key value rows k = 0 := by
  have hnone : rows.filter (fun a => key a = k) = [] := by
    rw [List.filter_eq_nil_iff]
    simpa using h
  rw [sumAt, hnone, List.map_nil, List.sum_nil]

theorem groupAt_groupSums (k : κ) : groupAt (groupSums key value rows) k =
    if k ∈ rows.map key then some (sumAt key value rows k) else none := by
  have hfind : ∀ keys : List κ,
      groupAt (keys.map fun k => (k, sumAt key value rows k)) k =
        if k ∈ keys then some (sumAt key value rows k) else none := by
    intro keys
    induction keys with
    | nil => rfl
    | cons k' keys ih =>
      rw [groupAt] at ih ⊢
      by_cases h : k' = k
      · simp [h]
      · have hne : k ≠ k' := Ne.symm h
        simp only [List.map_cons, List.find?_cons, h, decide_false, List.mem_cons, hne, false_or]
        exact ih
  rw [groupSums, hfind]
  simp only [List.mem_dedup]

/-- A key without a group has the sum over no rows. -/
theorem getD_groupAt (k : κ) : (groupAt (groupSums key value rows) k).getD 0 = sumAt key value rows k := by
  rw [groupAt_groupSums]
  split
  · rfl
  · rename_i h
    refine (sumAt_eq_zero fun a ha heq => h ?_).symm
    exact List.mem_map.2 ⟨a, ha, heq⟩

/-- One value among keys without duplicates is found once. -/
theorem sum_map_ite {keys : List κ} (hkeys : keys.Nodup) {k : κ} (h : k ∈ keys) (m : M) :
    (keys.map fun k' => if k = k' then m else 0).sum = m := by
  induction keys with
  | nil => cases h
  | cons k' keys ih =>
    rw [List.map_cons, List.sum_cons]
    obtain ⟨hnot, hnodup⟩ := List.nodup_cons.1 hkeys
    by_cases heq : k = k'
    · subst heq
      have hrest : (keys.map fun k' => if k = k' then m else 0).sum = 0 := by
        refine List.sum_eq_zero fun x hx => ?_
        obtain ⟨k', hmem, rfl⟩ := List.mem_map.1 hx
        refine if_neg ?_
        rintro rfl
        exact hnot hmem
      rw [hrest, if_pos rfl, add_zero]
    · rw [if_neg heq, zero_add, ih hnodup ((List.mem_cons.1 h).resolve_left heq)]

/-- **The groups add up to all rows.** -/
theorem sum_sumAt (key : α → κ) (value : α → M) {rows : List α} {keys : List κ} (hkeys : keys.Nodup)
    (h : ∀ a ∈ rows, key a ∈ keys) : (keys.map (sumAt key value rows)).sum = (rows.map value).sum := by
  induction rows with
  | nil =>
    refine List.sum_eq_zero fun x hx => ?_
    obtain ⟨k, -, rfl⟩ := List.mem_map.1 hx
    exact sumAt_eq_zero (by simp)
  | cons a rows ih =>
    have hfirst := sum_map_ite hkeys (h a List.mem_cons_self) (value a)
    rw [List.map_congr_left fun k _ => sumAt_cons a k, List.sum_map_add, hfirst,
      ih fun b hb => h b (List.mem_cons_of_mem a hb), List.map_cons, List.sum_cons]

/-- **Rolled up**, the groups are those of the coarser key. -/
theorem sumAt_groupSums (coarse : κ → κ') (c : κ') :
    sumAt (fun group : κ × M => coarse group.1) Prod.snd (groupSums key value rows) c =
      sumAt (fun a => coarse (key a)) value rows c := by
  have hpart : ∀ k, coarse k = c →
      sumAt key value rows k = sumAt key value (rows.filter fun a => coarse (key a) = c) k := by
    intro k hk
    rw [sumAt, sumAt, List.filter_filter]
    congr 2
    refine List.filter_congr fun a _ => ?_
    by_cases h : key a = k
    · simp [h, hk]
    · simp [h]
  have hkeys : ((rows.map key).dedup.filter fun k => coarse k = c).Nodup := (List.nodup_dedup _).filter _
  have hcover : ∀ a ∈ rows.filter (fun a => coarse (key a) = c),
      key a ∈ (rows.map key).dedup.filter fun k => coarse k = c := by
    intro a ha
    obtain ⟨hmem, hc⟩ := List.mem_filter.1 ha
    exact List.mem_filter.2 ⟨List.mem_dedup.2 (List.mem_map_of_mem hmem), hc⟩
  have hsum := sum_sumAt key value hkeys hcover
  rw [sumAt, groupSums, List.filter_map, List.map_map, sumAt, ← hsum]
  congr 1
  refine List.map_congr_left fun k hk => ?_
  exact hpart k (by simpa using (List.mem_filter.1 hk).2)

end Groups

/-! ## Tilings -/

/-- Cells of length `p` from `lo` on, until `hi` is reached. -/
inductive Tiling (p hi : ℤ) : ℤ → List ℤ → Prop where
  | nil {lo : ℤ} (h : hi ≤ lo) : Tiling p hi lo []
  | cons {lo : ℤ} {cells : List ℤ} (h : lo < hi) (rest : Tiling p hi (lo + p) cells) :
      Tiling p hi lo (lo :: cells)

namespace Tiling

variable {p hi lo : ℤ} {cells : List ℤ}

/-- Each cell begins where the one before it ends. -/
theorem isChain (h : Tiling p hi lo cells) : cells.IsChain fun a b => b = a + p := by
  induction h with
  | nil => exact .nil
  | cons hlt rest ih =>
    cases rest with
    | nil => exact .singleton _
    | cons => exact .cons_cons rfl ih

theorem le_of_mem (hp : 0 < p) (h : Tiling p hi lo cells) {s : ℤ} (hs : s ∈ cells) : lo ≤ s := by
  induction h with
  | nil => cases hs
  | cons hlt rest ih =>
    rcases List.mem_cons.1 hs with rfl | hmem
    · exact le_rfl
    · have hle := ih hmem
      omega

theorem lt_of_mem (h : Tiling p hi lo cells) {s : ℤ} (hs : s ∈ cells) : s < hi := by
  induction h with
  | nil => cases hs
  | cons hlt rest ih =>
    rcases List.mem_cons.1 hs with rfl | hmem
    · exact hlt
    · exact ih hmem

theorem dvd_of_mem (h : Tiling p hi lo cells) (hlo : p ∣ lo) {s : ℤ} (hs : s ∈ cells) : p ∣ s := by
  induction h with
  | nil => cases hs
  | cons hlt rest ih =>
    rcases List.mem_cons.1 hs with rfl | hmem
    · exact hlo
    · exact ih (Int.dvd_add hlo (Int.dvd_refl p)) hmem

theorem pairwise_lt (hp : 0 < p) (h : Tiling p hi lo cells) : cells.Pairwise (· < ·) := by
  induction h with
  | nil => exact .nil
  | cons hlt rest ih =>
    refine .cons (fun s hs => ?_) ih
    have hle := le_of_mem hp rest hs
    omega

theorem nodup_cells (hp : 0 < p) (h : Tiling p hi lo cells) : cells.Nodup :=
  (pairwise_lt hp h).imp fun hlt => hlt.ne

/-- The interval is covered. -/
theorem exists_cell (h : Tiling p hi lo cells) {t : ℤ} (hlo : lo ≤ t) (hhi : t < hi) :
    ∃ s ∈ cells, s ≤ t ∧ t < s + p := by
  induction h with
  | nil hle => omega
  | @cons lo cells hlt rest ih =>
    by_cases hin : t < lo + p
    · exact ⟨lo, List.mem_cons_self, hlo, hin⟩
    · obtain ⟨s, hs, hcell⟩ := ih (by omega)
      exact ⟨s, List.mem_cons_of_mem lo hs, hcell⟩

end Tiling

/-- The start of the cell of length `p` that contains an instant. -/
theorem cellStart_eq_iff {p t s : ℤ} (hp : 0 < p) (hs : p ∣ s) : t / p * p = s ↔ s ≤ t ∧ t < s + p := by
  obtain ⟨k, rfl⟩ := hs
  constructor
  · intro h
    rw [← h]
    have hlt := Int.lt_ediv_mul t hp
    exact ⟨Int.ediv_mul_le t hp.ne', by omega⟩
  · rintro ⟨hle, hlt⟩
    have hquotient : t / p = k := by
      rw [Int.ediv_eq_iff_of_pos hp, Int.mul_comm]
      exact ⟨hle, hlt⟩
    rw [hquotient, Int.mul_comm]

end WeaponDetection.Foundations.Histogram
