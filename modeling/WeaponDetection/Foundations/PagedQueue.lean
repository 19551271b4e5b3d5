import Mathlib.Data.List.Nodup
import Mathlib.Data.List.Basic
import Mathlib.Algebra.Order.Group.Nat
import Mathlib.Data.Finset.Dedup
import Mathlib.Data.Finset.Order
import Mathlib.Logic.Function.Iterate

/-!
# A queue that is served page by page

A worker reads the first `n` entries of a queue and serves them in order.  An entry that cannot be
served keeps its place; an entry that is refused ends the round.  `Reaches` follows the queue once and
says which entries are served in the end (`removed_iff_reaches`).
-/

namespace WeaponDetection.Foundations.PagedQueue

variable {α σ : Type}

/-- How the attempt to serve an entry ends. -/
inductive Service (σ : Type) where
  /-- Not served; the round goes on. -/
  | skipped
  /-- Served, which changes the state the others are served in. -/
  | served (s : σ)
  /-- Not served, and the round ends. -/
  | refused

/-- One round over a page: the entries that stay, and the state after it. -/
def servePage (serve : α → σ → Service σ) : List α → σ → List α × σ
  | [], s => ([], s)
  | a :: rest, s =>
    match serve a s with
    | .skipped => (a :: (servePage serve rest s).1, (servePage serve rest s).2)
    | .served s' => servePage serve rest s'
    | .refused => (a :: rest, s)

/-- One round over the first `n` entries of a queue. -/
def round (serve : α → σ → Service σ) (n : ℕ) (q : List α × σ) : List α × σ :=
  ((servePage serve (q.1.take n) q.2).1 ++ q.1.drop n, (servePage serve (q.1.take n) q.2).2)

/-- With `n` places on a page the entry `r` is served in the end: no entry before it is refused, and
those that are skipped leave a place free. -/
def Reaches (serve : α → σ → Service σ) (r : α) : ℕ → List α → σ → Prop
  | 0, _, _ => False
  | _ + 1, [], _ => False
  | n + 1, a :: rest, s =>
    match serve a s with
    | .skipped => a ≠ r ∧ Reaches serve r n rest s
    | .served s' => a = r ∨ Reaches serve r (n + 1) rest s'
    | .refused => False

section Steps

variable {serve : α → σ → Service σ} {a r : α} {rest : List α} {s s' : σ} {n : ℕ}

theorem servePage_skipped (h : serve a s = .skipped) :
    servePage serve (a :: rest) s = (a :: (servePage serve rest s).1, (servePage serve rest s).2) := by
  simp only [servePage, h]

theorem servePage_served (h : serve a s = .served s') :
    servePage serve (a :: rest) s = servePage serve rest s' := by
  simp only [servePage, h]

theorem servePage_refused (h : serve a s = .refused) : servePage serve (a :: rest) s = (a :: rest, s) := by
  simp only [servePage, h]

theorem reaches_skipped (h : serve a s = .skipped) :
    Reaches serve r (n + 1) (a :: rest) s ↔ a ≠ r ∧ Reaches serve r n rest s := by
  simp only [Reaches, h]

theorem reaches_served (h : serve a s = .served s') :
    Reaches serve r (n + 1) (a :: rest) s ↔ a = r ∨ Reaches serve r (n + 1) rest s' := by
  simp only [Reaches, h]

theorem reaches_refused (h : serve a s = .refused) : ¬ Reaches serve r n (a :: rest) s := by
  cases n with
  | zero => exact id
  | succ n => simp only [Reaches, h, not_false_eq_true]

theorem not_reaches_zero (q : List α) : ¬ Reaches serve r 0 q s := by
  simp [Reaches]

theorem not_reaches_nil : ¬ Reaches serve r n [] s := by
  cases n <;> simp [Reaches]

end Steps

/-- Only entries of the queue are reached. -/
theorem Reaches.mem {serve : α → σ → Service σ} {r : α} {n : ℕ} {q : List α} {s : σ}
    (h : Reaches serve r n q s) : r ∈ q := by
  induction q generalizing n s with
  | nil => exact absurd h not_reaches_nil
  | cons a rest ih =>
    cases n with
    | zero => exact absurd h (not_reaches_zero _)
    | succ n =>
      cases hserve : serve a s with
      | skipped => exact List.mem_cons_of_mem _ (ih ((reaches_skipped hserve).mp h).2)
      | served s' =>
        rcases (reaches_served hserve).mp h with rfl | h
        · exact List.mem_cons_self
        · exact List.mem_cons_of_mem _ (ih h)
      | refused => exact absurd h (reaches_refused hserve)

/-- The entries that stay are entries of the page, in its order. -/
theorem servePage_sublist (serve : α → σ → Service σ) (page : List α) (s : σ) :
    (servePage serve page s).1.Sublist page := by
  induction page generalizing s with
  | nil => exact List.Sublist.refl _
  | cons a rest ih =>
    cases hserve : serve a s with
    | skipped =>
      rw [servePage_skipped hserve]
      exact (ih s).cons_cons a
    | served s' =>
      rw [servePage_served hserve]
      exact (ih s').cons a
    | refused =>
      rw [servePage_refused hserve]

/-- Serving others does not turn a skipped entry into one that is served. -/
def KeepsSkipped (serve : α → σ → Service σ) : Prop :=
  ∀ a b s s', serve a s = .skipped → serve b s = .served s' → serve a s' = .skipped

theorem KeepsSkipped.servePage {serve : α → σ → Service σ} (hkeeps : KeepsSkipped serve) {a : α} {s : σ}
    (h : serve a s = .skipped) (page : List α) : serve a (servePage serve page s).2 = .skipped := by
  induction page generalizing s with
  | nil => exact h
  | cons b rest ih =>
    cases hserve : serve b s with
    | skipped =>
      rw [servePage_skipped hserve]
      exact ih h
    | served s' =>
      rw [servePage_served hserve]
      exact ih (hkeeps a b s s' h hserve)
    | refused => rwa [servePage_refused hserve]

/-! ## One round -/

/-- For an entry that stays, a round changes nothing about whether it is reached. -/
theorem reaches_servePage {serve : α → σ → Service σ} (hkeeps : KeepsSkipped serve) {r : α} {page others : List α}
    (hnodup : (page ++ others).Nodup) {s : σ} (hr : r ∈ (servePage serve page s).1 ++ others) (n : ℕ) :
    Reaches serve r n ((servePage serve page s).1 ++ others) (servePage serve page s).2 ↔
      Reaches serve r n (page ++ others) s := by
  induction page generalizing n s with
  | nil => exact Iff.rfl
  | cons a rest ih =>
    have hrest : (rest ++ others).Nodup := (List.nodup_cons.mp hnodup).2
    have hfresh : a ∉ rest ++ others := (List.nodup_cons.mp hnodup).1
    cases n with
    | zero => exact iff_of_false (not_reaches_zero _) (not_reaches_zero _)
    | succ n =>
      cases hserve : serve a s with
      | skipped =>
        rw [servePage_skipped hserve] at hr ⊢
        simp only [List.cons_append]
        rw [reaches_skipped (hkeeps.servePage hserve rest), reaches_skipped hserve]
        refine and_congr_right fun hne => ih hrest ?_ n
        exact (List.mem_cons.mp hr).resolve_left (Ne.symm hne)
      | served s' =>
        rw [servePage_served hserve] at hr ⊢
        simp only [List.cons_append]
        rw [reaches_served hserve, ih hrest hr (n + 1)]
        refine (or_iff_right ?_).symm
        -- the entry that was served is gone
        rintro rfl
        exact hfresh ((List.Sublist.append_right (servePage_sublist serve rest s') others).subset hr)
      | refused => rw [servePage_refused hserve]

/-- An entry that leaves the queue was reached. -/
theorem reaches_of_removed {serve : α → σ → Service σ} {r : α} {page others : List α} {s : σ} {n : ℕ}
    (hpage : page.length ≤ n) (hr : r ∈ page) (hgone : r ∉ (servePage serve page s).1) :
    Reaches serve r n (page ++ others) s := by
  induction page generalizing n s with
  | nil => cases hr
  | cons a rest ih =>
    cases n with
    | zero => cases hpage
    | succ n =>
      simp only [List.cons_append]
      cases hserve : serve a s with
      | skipped =>
        rw [servePage_skipped hserve] at hgone
        have hne : a ≠ r := fun heq => hgone (heq ▸ List.mem_cons_self)
        have hmem : r ∈ rest := (List.mem_cons.mp hr).resolve_left (Ne.symm hne)
        rw [reaches_skipped hserve]
        exact ⟨hne, ih (Nat.le_of_succ_le_succ hpage) hmem fun hin => hgone (List.mem_cons_of_mem _ hin)⟩
      | served s' =>
        rw [servePage_served hserve] at hgone
        rw [reaches_served hserve]
        rcases List.mem_cons.mp hr with rfl | hmem
        · exact .inl rfl
        · exact .inr (ih (Nat.le_of_succ_le hpage) hmem hgone)
      | refused =>
        rw [servePage_refused hserve] at hgone
        exact absurd hr hgone

/-- A reached entry leaves the queue, or the page was full and another entry does. -/
theorem shorter_of_reaches {serve : α → σ → Service σ} {r : α} {page others : List α} {s : σ} {n : ℕ}
    (hnodup : (page ++ others).Nodup) (hpage : n ≤ page.length ∨ others = [])
    (h : Reaches serve r n (page ++ others) s) : (servePage serve page s).1.length < page.length := by
  induction page generalizing n s with
  | nil =>
    rcases hpage with hzero | rfl
    · rw [Nat.le_zero.mp hzero] at h
      exact absurd h (not_reaches_zero _)
    · exact absurd h not_reaches_nil
  | cons a rest ih =>
    have hrest : (rest ++ others).Nodup := (List.nodup_cons.mp hnodup).2
    cases n with
    | zero => exact absurd h (not_reaches_zero _)
    | succ n =>
      simp only [List.cons_append] at h
      cases hserve : serve a s with
      | skipped =>
        rw [servePage_skipped hserve]
        exact Nat.succ_lt_succ
          (ih hrest (hpage.imp_left Nat.le_of_succ_le_succ) ((reaches_skipped hserve).mp h).2)
      | served s' =>
        rw [servePage_served hserve]
        exact Nat.lt_succ_of_le (servePage_sublist serve rest s').length_le
      | refused => exact absurd h (reaches_refused hserve)

/-! ## Any number of rounds -/

section Rounds

variable {serve : α → σ → Service σ} {n : ℕ}

theorem round_sublist (q : List α × σ) : (round serve n q).1.Sublist q.1 := by
  conv_rhs => rw [← List.take_append_drop n q.1]
  exact List.Sublist.append_right (servePage_sublist serve _ _) _

theorem nodup_take_drop {q : List α} (h : q.Nodup) : (q.take n ++ q.drop n).Nodup := by
  rwa [List.take_append_drop]

theorem reaches_round (hkeeps : KeepsSkipped serve) {q : List α × σ} (hnodup : q.1.Nodup) {r : α}
    (hr : r ∈ (round serve n q).1) (m : ℕ) :
    Reaches serve r m (round serve n q).1 (round serve n q).2 ↔ Reaches serve r m q.1 q.2 := by
  have hpage := reaches_servePage hkeeps (nodup_take_drop (n := n) hnodup) hr m
  rwa [List.take_append_drop] at hpage

/-- **An entry is served after some number of rounds if and only if it is reached.** -/
theorem removed_iff_reaches (hkeeps : KeepsSkipped serve) {q : List α × σ} (hnodup : q.1.Nodup) {r : α}
    (hr : r ∈ q.1) : (∃ k, r ∉ ((round serve n)^[k] q).1) ↔ Reaches serve r n q.1 q.2 := by
  constructor
  · rintro ⟨k, hgone⟩
    induction k generalizing q with
    | zero => exact absurd hr hgone
    | succ k ih =>
      by_cases hstay : r ∈ (round serve n q).1
      · rw [Function.iterate_succ_apply] at hgone
        exact (reaches_round hkeeps hnodup hstay n).mp (ih ((hnodup).sublist (round_sublist q)) hstay hgone)
      · -- it leaves in this round, so it was on the page
        have hsplit : r ∉ (servePage serve (q.1.take n) q.2).1 ∧ r ∉ q.1.drop n := by
          simpa [round] using hstay
        have hpage : r ∈ q.1.take n := by
          rw [← List.take_append_drop n q.1] at hr
          exact (List.mem_append.mp hr).resolve_right hsplit.2
        have hreaches : Reaches serve r n (q.1.take n ++ q.1.drop n) q.2 :=
          reaches_of_removed (List.length_take_le n q.1) hpage hsplit.1
        rwa [List.take_append_drop] at hreaches
  · intro h
    -- induction on the length of the queue
    induction hlength : q.1.length using Nat.strong_induction_on generalizing q with
    | _ length ih =>
      by_cases hstay : r ∈ (round serve n q).1
      · have hshort : (round serve n q).1.length < q.1.length := by
          have hpage : n ≤ (q.1.take n).length ∨ q.1.drop n = [] := by
            rcases le_total n q.1.length with hle | hle
            · exact .inl (le_of_eq (List.length_take_of_le hle).symm)
            · exact .inr (List.drop_eq_nil_of_le hle)
          have hfirst := shorter_of_reaches (nodup_take_drop (n := n) hnodup) hpage
            (by rwa [List.take_append_drop])
          have htotal : (q.1.take n).length + (q.1.drop n).length = q.1.length := by
            rw [← List.length_append, List.take_append_drop]
          rw [round, List.length_append]
          omega
        obtain ⟨k, hk⟩ := ih _ (hlength ▸ hshort) (hnodup.sublist (round_sublist q)) hstay
          ((reaches_round hkeeps hnodup hstay n).mpr h) rfl
        exact ⟨k + 1, by rwa [Function.iterate_succ_apply]⟩
      · exact ⟨1, hstay⟩

/-- What has left the queue stays away. -/
theorem iterate_round_sublist (q : List α × σ) (k m : ℕ) :
    ((round serve n)^[m + k] q).1.Sublist ((round serve n)^[k] q).1 := by
  induction m with
  | zero => rw [Nat.zero_add]
  | succ m ih =>
    rw [Nat.succ_add, Function.iterate_succ_apply']
    exact (round_sublist _).trans ih

/-- Some number of rounds serves all entries of a kind if and only if each of them is reached. -/
theorem removed_all_iff_reaches (hkeeps : KeepsSkipped serve) {q : List α × σ} (hnodup : q.1.Nodup)
    {p : α → Prop} (hp : ∀ r, p r → r ∈ q.1) :
    (∃ k, ∀ r, p r → r ∉ ((round serve n)^[k] q).1) ↔ ∀ r, p r → Reaches serve r n q.1 q.2 := by
  constructor
  · intro ⟨k, hk⟩ r hr
    exact (removed_iff_reaches hkeeps hnodup (hp r hr)).mp ⟨k, hk r hr⟩
  · intro h
    have hrounds : ∀ r, ∃ k, p r → r ∉ ((round serve n)^[k] q).1 := by
      intro r
      by_cases hr : p r
      · obtain ⟨k, hk⟩ := (removed_iff_reaches hkeeps hnodup (hp r hr)).mpr (h r hr)
        exact ⟨k, fun _ => hk⟩
      · exact ⟨0, fun hpr => absurd hpr hr⟩
    choose rounds hrounds using hrounds
    -- enough rounds for all entries of the queue together
    obtain ⟨k, hk⟩ := (q.1.map rounds).toFinset.exists_le
    refine ⟨k, fun r hr hmem => hrounds r hr ?_⟩
    have hle : rounds r ≤ k := hk _ (List.mem_toFinset.mpr (List.mem_map_of_mem (hp r hr)))
    rw [← Nat.sub_add_cancel hle] at hmem
    exact (iterate_round_sublist q _ _).subset hmem

end Rounds

end WeaponDetection.Foundations.PagedQueue
