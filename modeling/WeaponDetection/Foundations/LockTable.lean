import Mathlib.Data.List.Basic

/-!
# Exclusive locks held until the end of a session

A database's locks as the sessions of a transition system see them: every resource has at most one
owner, a session takes a resource only when it is free or its own, and gives everything back at once
when it ends.  The lemmas are the frame conditions of a session's step: what it does to the locks
leaves every lock of every other session in place (`Keeps`).
-/

namespace WeaponDetection.Foundations

/-- The session that holds each resource, if any. -/
abbrev LockTable (Resource : Type*) := Resource → Option ℕ

namespace LockTable

variable {Resource : Type*}

/-- No resource is held. -/
def free : LockTable Resource := fun _ => none

/-- The session may take the resource: nobody else holds it. -/
def Available (locks : LockTable Resource) (i : ℕ) (r : Resource) : Prop :=
  locks r = none ∨ locks r = some i

instance (locks : LockTable Resource) (i : ℕ) (r : Resource) : Decidable (locks.Available i r) :=
  inferInstanceAs (Decidable (_ ∨ _))

/-- Give back everything a session holds. -/
def release (locks : LockTable Resource) (i : ℕ) : LockTable Resource :=
  fun r => if locks r = some i then none else locks r

/-- What a session does leaves the locks of the others in place. -/
def Keeps (i : ℕ) (locks locks' : LockTable Resource) : Prop :=
  ∀ r j, j ≠ i → locks r = some j → locks' r = some j

theorem Keeps.refl (i : ℕ) (locks : LockTable Resource) : Keeps i locks locks :=
  fun _ _ _ => id

theorem keeps_release (locks : LockTable Resource) (i : ℕ) : Keeps i locks (locks.release i) := by
  intro r j hne hheld
  have hother : locks r ≠ some i := by
    intro h
    rw [hheld, Option.some.injEq] at h
    exact hne h
  rw [release, if_neg hother]
  exact hheld

section Acquire

variable [DecidableEq Resource]

/-- Take some resources. -/
def acquire (locks : LockTable Resource) (i : ℕ) (rs : List Resource) : LockTable Resource :=
  fun r => if r ∈ rs then some i else locks r

theorem acquire_of_mem (locks : LockTable Resource) (i : ℕ) {rs : List Resource} {r : Resource}
    (h : r ∈ rs) : locks.acquire i rs r = some i := if_pos h

/-- A session keeps what it holds when it takes more. -/
theorem acquire_of_held {locks : LockTable Resource} {i : ℕ} (rs : List Resource) {r : Resource}
    (h : locks r = some i) : locks.acquire i rs r = some i := by
  unfold acquire
  split
  · rfl
  · exact h

theorem keeps_acquire {locks : LockTable Resource} {i : ℕ} {rs : List Resource}
    (h : ∀ r ∈ rs, locks.Available i r) : Keeps i locks (locks.acquire i rs) := by
  intro r j hne hheld
  have hfree : r ∉ rs := by
    intro hr
    rcases h r hr with hnone | hown
    · rw [hnone] at hheld
      contradiction
    · rw [hown, Option.some.injEq] at hheld
      exact hne hheld.symm
  rw [acquire, if_neg hfree]
  exact hheld

end Acquire

end LockTable

end WeaponDetection.Foundations
