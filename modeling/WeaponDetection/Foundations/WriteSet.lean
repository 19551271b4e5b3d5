import Mathlib.Data.List.Basic
import Mathlib.Logic.Function.Basic

/-!
# Uncommitted writes of concurrent sessions

A store under read committed: every session keeps its writes to itself until it commits, and reads
the store as these writes would leave it (`view`).  Every write concerns one resource of the store
(a row, an entry of a unique index) and is locked for others as long as it is not committed, so the
write sets of different sessions are about different resources (`Exclusive`).

The lemmas are about what a commit of one session does to the view of another: a resource that the
committed writes do not concern reads as before.
-/

namespace WeaponDetection.Foundations

/-- A store with writes that concern one resource each. -/
structure WriteModel (Store Write Resource : Type*) where
  apply : Store → Write → Store
  resource : Write → Resource
  /-- What a resource reads as. -/
  Cell : Resource → Type*
  read : (r : Resource) → Store → Cell r
  /-- A write leaves every other resource alone. -/
  read_apply_of_ne : ∀ st w r, resource w ≠ r → read r (apply st w) = read r st
  /-- What a write does to its resource depends on nothing else. -/
  read_apply_congr : ∀ st st' w, read (resource w) st = read (resource w) st' →
    read (resource w) (apply st w) = read (resource w) (apply st' w)

namespace WriteModel

variable {Store Write Resource : Type*} (m : WriteModel Store Write Resource)

/-- The store as a list of writes leaves it. -/
def view (st : Store) (ws : List Write) : Store := ws.foldl m.apply st

/-- Some of the writes concern a resource. -/
def Touches (ws : List Write) (r : Resource) : Prop := ∃ w ∈ ws, m.resource w = r

instance [DecidableEq Resource] (ws : List Write) (r : Resource) : Decidable (m.Touches ws r) :=
  inferInstanceAs (Decidable (∃ w ∈ ws, m.resource w = r))

@[simp] theorem view_nil (st : Store) : m.view st [] = st := rfl

@[simp] theorem view_cons (st : Store) (w : Write) (ws : List Write) :
    m.view st (w :: ws) = m.view (m.apply st w) ws := rfl

theorem view_concat (st : Store) (ws : List Write) (w : Write) :
    m.view st (ws ++ [w]) = m.apply (m.view st ws) w := by
  rw [view, List.foldl_append]
  rfl

@[simp] theorem not_touches_nil (r : Resource) : ¬ m.Touches [] r := by
  simp [Touches]

theorem touches_concat {ws : List Write} {w : Write} {r : Resource} :
    m.Touches (ws ++ [w]) r ↔ m.Touches ws r ∨ m.resource w = r := by
  simp [Touches, or_and_right, exists_or]

variable {m} in
theorem Touches.mono {ws us : List Write} {r : Resource} (h : m.Touches ws r) (hsub : ws ⊆ us) :
    m.Touches us r := by
  obtain ⟨w, hw, hr⟩ := h
  exact ⟨w, hsub hw, hr⟩

/-! ## Reads -/

variable {m}

/-- A resource that no write concerns reads as before. -/
theorem read_view_of_not_touches {st : Store} {ws : List Write} {r : Resource}
    (h : ¬ m.Touches ws r) : m.read r (m.view st ws) = m.read r st := by
  induction ws generalizing st with
  | nil => rfl
  | cons w ws ih =>
    rw [Touches, List.exists_mem_cons_iff, not_or] at h
    rw [view_cons, ih h.2, m.read_apply_of_ne st w r h.1]

/-- What the writes make of a resource depends on that resource only. -/
theorem read_view_congr {st st' : Store} (ws : List Write) {r : Resource}
    (h : m.read r st = m.read r st') : m.read r (m.view st ws) = m.read r (m.view st' ws) := by
  induction ws generalizing st st' with
  | nil => exact h
  | cons w ws ih =>
    rw [view_cons, view_cons]
    apply ih
    by_cases hw : m.resource w = r
    · subst hw
      exact m.read_apply_congr st st' w h
    · rw [m.read_apply_of_ne st w r hw, m.read_apply_of_ne st' w r hw]
      exact h

/-- Committed writes of others that do not concern a resource do not show in a view of it. -/
theorem read_view_view {st : Store} {us ws : List Write} {r : Resource} (h : ¬ m.Touches us r) :
    m.read r (m.view (m.view st us) ws) = m.read r (m.view st ws) :=
  read_view_congr ws (read_view_of_not_touches h)

/-! ## Exclusive write sets -/

/-- No resource is concerned by the writes of two sessions. -/
def Exclusive (m : WriteModel Store Write Resource) (pending : ℕ → List Write) : Prop :=
  ∀ i j r, i ≠ j → m.Touches (pending i) r → ¬ m.Touches (pending j) r

/-- A session may write what it has written before and what nobody else has. -/
theorem Exclusive.update {pending : ℕ → List Write} (h : m.Exclusive pending) {i : ℕ}
    {ws : List Write}
    (hws : ∀ r, m.Touches ws r → m.Touches (pending i) r ∨ ∀ j, j ≠ i → ¬ m.Touches (pending j) r) :
    m.Exclusive (Function.update pending i ws) := by
  have hfree : ∀ r j, j ≠ i → m.Touches ws r → ¬ m.Touches (pending j) r := by
    intro r j hne hr
    rcases hws r hr with hown | hnobody
    · exact h i j r hne.symm hown
    · exact hnobody j hne
  intro j k r hne hj hk
  by_cases hji : j = i
  · subst hji
    rw [Function.update_self] at hj
    rw [Function.update_of_ne hne.symm] at hk
    exact hfree r k hne.symm hj hk
  · rw [Function.update_of_ne hji] at hj
    by_cases hki : k = i
    · subst hki
      rw [Function.update_self] at hk
      exact hfree r j hji hk hj
    · rw [Function.update_of_ne hki] at hk
      exact h j k r hne hj hk

end WriteModel

end WeaponDetection.Foundations
