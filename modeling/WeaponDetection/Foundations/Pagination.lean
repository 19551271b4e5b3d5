import Mathlib.Data.List.Sort

/-!
# Pages of a sorted query

Each page of a result is a query of its own: the rows are sorted by a key, a number of them is skipped and
the next ones are taken.  Among rows with equal keys every query may choose another order.

`pages_perm_iff`: the pages together hold every row once, whatever order is chosen, exactly when no two equal
keys stand on the two sides of a page boundary.
-/

namespace WeaponDetection.Foundations.Pagination

variable {α κ : Type*} [LinearOrder κ] {key : α → κ} {rows l l' : List α} {size : ℕ}

/-- The rows in an order a query sorted by the key can return them in. -/
def Arranged (key : α → κ) (rows l : List α) : Prop := l.Perm rows ∧ (l.map key).Pairwise (· ≤ ·)

/-- A page, counted from zero. -/
def page (size i : ℕ) (l : List α) : List α := (l.drop (i * size)).take size

/-- The keys in order. -/
def sortedKeys (key : α → κ) (rows : List α) : List κ := (rows.map key).insertionSort (· ≤ ·)

/-- The keys on the two sides of a position are equal. -/
def TieAt (keys : List κ) (position : ℕ) : Prop :=
  ∃ before v after, keys = before ++ v :: v :: after ∧ position = before.length + 1

/-! ## Orders of the rows -/

theorem Arranged.keys_eq (h : Arranged key rows l) : l.map key = sortedKeys key rows := by
  refine List.Perm.eq_of_pairwise (fun a b _ _ hab hba => le_antisymm hab hba) h.2 ?_ ?_
  · exact List.pairwise_insertionSort _ _
  · exact (h.1.map key).trans (List.perm_insertionSort _ _).symm

theorem Arranged.length_eq (h : Arranged key rows l) : l.length = rows.length := h.1.length_eq

theorem exists_arranged (key : α → κ) (rows : List α) : ∃ l, Arranged key rows l := by
  refine ⟨rows.insertionSort fun a b => key a ≤ key b, List.perm_insertionSort _ _, ?_⟩
  rw [List.pairwise_map]
  exact List.pairwise_insertionSort (fun a b => key a ≤ key b) rows

/-- Two neighbours with equal keys can change places. -/
theorem Arranged.swap {p q : List α} {x y : α} (h : Arranged key rows (p ++ x :: y :: q)) (heq : key x = key y) :
    Arranged key rows (p ++ y :: x :: q) := by
  refine ⟨((List.Perm.swap x y q).append_left p).trans h.1, ?_⟩
  have hkeys := h.2
  simp only [List.map_append, List.map_cons, heq] at hkeys ⊢
  exact hkeys

/-- In front of a position that cuts no tie stand the rows with a smaller key than behind it. -/
theorem take_eq_filter (h : Arranged key rows l) {before after : List κ} {v w : κ}
    (hkeys : sortedKeys key rows = before ++ v :: w :: after) (hne : v ≠ w) :
    l.take (before.length + 1) = l.filter fun x => decide (key x < w) := by
  have hsorted := h.2
  have hmap : l.map key = (before ++ [v]) ++ (w :: after) := by
    rw [h.keys_eq, hkeys]
    simp
  rw [hmap, List.pairwise_append] at hsorted
  obtain ⟨hfront, hback, hcross⟩ := hsorted
  have hlt : v < w := lt_of_le_of_ne (hcross v (by simp) w (by simp)) hne
  have hlength : (before ++ [v]).length = before.length + 1 := by simp
  have htake : (l.take (before.length + 1)).map key = before ++ [v] := by
    rw [List.map_take, hmap, ← hlength, List.take_left]
  have hdrop : (l.drop (before.length + 1)).map key = w :: after := by
    rw [List.map_drop, hmap, ← hlength, List.drop_left]
  have hsmall : ∀ x ∈ l.take (before.length + 1), key x < w := by
    intro x hx
    have hmem : key x ∈ before ++ [v] := htake ▸ List.mem_map_of_mem hx
    rcases List.mem_append.1 hmem with hb | hb
    · exact lt_of_le_of_lt ((List.pairwise_append.1 hfront).2.2 _ hb v (by simp)) hlt
    · exact List.mem_singleton.1 hb ▸ hlt
  have hlarge : ∀ x ∈ l.drop (before.length + 1), ¬ key x < w := by
    intro x hx
    have hmem : key x ∈ w :: after := hdrop ▸ List.mem_map_of_mem hx
    rw [not_lt]
    rcases List.mem_cons.1 hmem with hb | hb
    · exact le_of_eq hb.symm
    · exact (List.pairwise_cons.1 hback).1 _ hb
  have hnone : ((l.drop (before.length + 1)).filter fun x => decide (key x < w)) = [] :=
    List.filter_eq_nil_iff.2 fun x hx => by simpa using hlarge x hx
  calc l.take (before.length + 1)
      = (l.take (before.length + 1)).filter (fun x => decide (key x < w)) := by
        rw [List.filter_eq_self.2 fun x hx => decide_eq_true (hsmall x hx)]
    _ = (l.take (before.length + 1) ++ l.drop (before.length + 1)).filter fun x => decide (key x < w) := by
        rw [List.filter_append, hnone, List.append_nil]
    _ = l.filter fun x => decide (key x < w) := by rw [List.take_append_drop]

/-- Where no tie is cut, every order has the same rows in front. -/
theorem take_perm (h : Arranged key rows l) (h' : Arranged key rows l') {b : ℕ}
    (hb : ¬ TieAt (sortedKeys key rows) b) : (l.take b).Perm (l'.take b) := by
  by_cases hend : rows.length ≤ b
  · rw [List.take_of_length_le (h.length_eq ▸ hend), List.take_of_length_le (h'.length_eq ▸ hend)]
    exact h.1.trans h'.1.symm
  cases b with
  | zero => simp
  | succ b =>
    have hlength : (sortedKeys key rows).length = rows.length := by
      rw [← h.keys_eq, List.length_map, h.length_eq]
    obtain ⟨v, w, after, hdrop⟩ : ∃ v w after, (sortedKeys key rows).drop b = v :: w :: after := by
      have hlong : 2 ≤ ((sortedKeys key rows).drop b).length := by
        rw [List.length_drop]
        omega
      match hdrop : (sortedKeys key rows).drop b, hlong with
      | v :: w :: after, _ => exact ⟨v, w, after, rfl⟩
    have hbefore : ((sortedKeys key rows).take b).length = b := by
      rw [List.length_take]
      omega
    have hkeys : sortedKeys key rows = (sortedKeys key rows).take b ++ v :: w :: after := by
      rw [← hdrop, List.take_append_drop]
    have hne : v ≠ w := by
      rintro rfl
      exact hb ⟨_, v, after, hkeys, by rw [hbefore]⟩
    have htake := take_eq_filter h hkeys hne
    have htake' := take_eq_filter h' hkeys hne
    rw [hbefore] at htake htake'
    rw [htake, htake']
    exact (h.1.trans h'.1.symm).filter _

theorem nodup_of_sorted {keys : List κ} (hsorted : keys.Pairwise (· ≤ ·)) (h : ∀ position, ¬ TieAt keys position) :
    keys.Nodup := by
  induction keys with
  | nil => exact List.nodup_nil
  | cons v keys ih =>
    obtain ⟨hfirst, hrest⟩ := List.pairwise_cons.1 hsorted
    refine List.nodup_cons.2 ⟨fun hv => ?_, ih hrest ?_⟩
    · cases keys with
      | nil => cases hv
      | cons w keys =>
        -- the neighbour lies between two equal keys
        have hle : w ≤ v := by
          rcases List.mem_cons.1 hv with rfl | hv
          · exact le_rfl
          · exact (List.pairwise_cons.1 hrest).1 v hv
        have heq : v = w := le_antisymm (hfirst w List.mem_cons_self) hle
        exact h 1 ⟨[], v, keys, by rw [← heq]; rfl, rfl⟩
    · rintro position ⟨before, w, after, rfl, rfl⟩
      exact h _ ⟨v :: before, w, after, rfl, rfl⟩

/-- Pages of one row cut no tie exactly when the keys are distinct. -/
theorem nodup_keys_iff : (rows.map key).Nodup ↔ ∀ i, ¬ TieAt (sortedKeys key rows) (i + 1) := by
  have hperm : (sortedKeys key rows).Perm (rows.map key) := List.perm_insertionSort _ _
  rw [← hperm.nodup_iff]
  constructor
  · rintro hnodup i ⟨before, v, after, hkeys, -⟩
    rw [hkeys, List.nodup_append] at hnodup
    exact (List.nodup_cons.1 hnodup.2.1).1 List.mem_cons_self
  · intro h
    refine nodup_of_sorted (List.pairwise_insertionSort _ _) ?_
    rintro position ⟨before, v, after, hkeys, rfl⟩
    exact h _ ⟨before, v, after, hkeys, rfl⟩

/-! ## Pages -/

/-- Consecutive pages of one list are a piece of it. -/
theorem flatMap_page (size : ℕ) (l : List α) (start count : ℕ) :
    (List.range' start count).flatMap (fun i => page size i l) = (l.drop (start * size)).take (count * size) := by
  induction count generalizing start with
  | zero => simp
  | succ count ih =>
    rw [List.range'_succ, List.flatMap_cons, ih, page, Nat.add_mul, Nat.one_mul, Nat.add_mul, Nat.one_mul,
      ← List.drop_drop, Nat.add_comm (count * size), List.take_add]

/-- So are consecutive pages whose queries choose the same order. -/
theorem flatMap_page_of_eq {order : ℕ → List α} {start count : ℕ}
    (h : ∀ i, start ≤ i → i < start + count → order i = l) :
    (List.range' start count).flatMap (fun i => page size i (order i)) =
      (l.drop (start * size)).take (count * size) := by
  rw [← flatMap_page]
  refine List.flatMap_congr fun i hi => ?_
  rw [List.mem_range'_1] at hi
  rw [h i hi.1 hi.2]

/-- The page behind the rows in front of it. -/
theorem take_append_page (size i : ℕ) (l : List α) : l.take (i * size) ++ page size i l = l.take ((i + 1) * size) := by
  rw [page, Nat.add_mul, Nat.one_mul, List.take_add]

/-- Pages of different orders make up the front of each order, where none of their boundaries cuts a tie. -/
theorem pages_perm (hl : Arranged key rows l) {order : ℕ → List α} (horder : ∀ i, Arranged key rows (order i))
    (hties : ∀ i, ¬ TieAt (sortedKeys key rows) ((i + 1) * size)) (count : ℕ) :
    ((List.range count).flatMap fun i => page size i (order i)).Perm (l.take (count * size)) := by
  induction count with
  | zero => simp
  | succ count ih =>
    have hboundary : ¬ TieAt (sortedKeys key rows) (count * size) := by
      cases count with
      | zero =>
        rintro ⟨before, v, after, -, hposition⟩
        omega
      | succ count => exact hties count
    rw [List.range_succ, List.flatMap_append, List.flatMap_singleton]
    have hfront := ih.trans (take_perm hl (horder count) hboundary)
    have hpage := hfront.append_right (page size count (order count))
    rw [take_append_page] at hpage
    exact hpage.trans (take_perm (horder count) hl (hties count))

/-- **The pages hold every row once, whatever order each of them chooses, exactly when no boundary cuts a
tie.** -/
theorem pages_perm_iff (hnodup : rows.Nodup) {count : ℕ} (hcount : rows.length ≤ count * size) :
    (∀ order : ℕ → List α, (∀ i, Arranged key rows (order i)) →
        ((List.range count).flatMap fun i => page size i (order i)).Perm rows) ↔
      ∀ i, ¬ TieAt (sortedKeys key rows) ((i + 1) * size) := by
  obtain ⟨l, hl⟩ := exists_arranged key rows
  constructor
  · rintro hpages i ⟨before, v, after, hkeys, hposition⟩
    -- the pages up to the boundary see `x` before `y`, the pages behind it `y` before `x`
    obtain ⟨p, x, y, q, rfl, hp, hxy⟩ : ∃ p x y q, l = p ++ x :: y :: q ∧ p.length = before.length ∧ key x = key y := by
      have hmap := hl.keys_eq.trans hkeys
      obtain ⟨p, rest, rfl, hp, hrest⟩ := List.map_eq_append_iff.1 hmap
      obtain ⟨x, rest, rfl, hx, hrest⟩ := List.map_eq_cons_iff.1 hrest
      obtain ⟨y, q, rfl, hy, -⟩ := List.map_eq_cons_iff.1 hrest
      exact ⟨p, x, y, q, rfl, by rw [← hp, List.length_map], hx.trans hy.symm⟩
    have hboundary : (i + 1) * size = (p ++ [x]).length := by
      rw [hposition, ← hp]
      simp
    have hlength : rows.length = p.length + q.length + 2 := by
      rw [← hl.length_eq]
      simp
      omega
    have hwithin : i + 1 ≤ count := by
      by_contra hlt
      have hle := Nat.mul_le_mul_right size (Nat.le_of_lt_succ (Nat.lt_of_not_le hlt))
      have hcut : (i + 1) * size = p.length + 1 := by simp [hboundary]
      have hge : count * size ≤ i * size := hle
      have hsucc : (i + 1) * size = i * size + size := by rw [Nat.add_mul, Nat.one_mul]
      omega
    obtain ⟨order, hearly, hlate⟩ : ∃ order : ℕ → List α, (∀ j ≤ i, order j = p ++ x :: y :: q) ∧
        ∀ j, i < j → order j = p ++ y :: x :: q :=
      ⟨fun j => if j ≤ i then p ++ x :: y :: q else p ++ y :: x :: q, fun j hj => if_pos hj,
        fun j hj => if_neg (Nat.not_le.2 hj)⟩
    have horder : ∀ j, Arranged key rows (order j) := by
      intro j
      rcases Nat.lt_or_ge i j with hj | hj
      · exact hlate j hj ▸ hl.swap hxy
      · exact hearly j hj ▸ hl
    have hfront : (List.range' 0 (i + 1)).flatMap (fun j => page size j (order j)) = p ++ [x] := by
      have hcut : p ++ x :: y :: q = (p ++ [x]) ++ y :: q := by simp
      rw [flatMap_page_of_eq (l := p ++ x :: y :: q) fun j _ hj => hearly j (by omega), Nat.zero_mul,
        List.drop_zero, hboundary, hcut, List.take_left]
    have hback : (List.range' (i + 1) (count - (i + 1))).flatMap (fun j => page size j (order j)) = x :: q := by
      have hcut : p ++ y :: x :: q = (p ++ [y]) ++ x :: q := by simp
      have hsame : (i + 1) * size = (p ++ [y]).length := by
        rw [hboundary]
        simp
      rw [flatMap_page_of_eq (l := p ++ y :: x :: q) fun j hj _ => hlate j hj, hsame, hcut, List.drop_left,
        List.take_of_length_le]
      rw [Nat.sub_mul, hsame]
      simp only [List.length_cons, List.length_append, List.length_nil]
      omega
    have hrange : List.range count = List.range' 0 (i + 1) ++ List.range' (i + 1) (count - (i + 1)) := by
      rw [List.range_eq_range', ← Nat.add_sub_of_le hwithin, ← List.range'_append_1, Nat.zero_add,
        Nat.add_sub_cancel_left]
    have hperm := hpages order horder
    rw [hrange, List.flatMap_append, hfront, hback] at hperm
    have htwice := hperm.nodup_iff.2 hnodup
    simp [List.nodup_append] at htwice
  · intro hties order horder
    have hperm := pages_perm hl horder hties count
    rw [List.take_of_length_le (hl.length_eq ▸ hcount)] at hperm
    exact hperm.trans hl.1

end WeaponDetection.Foundations.Pagination
