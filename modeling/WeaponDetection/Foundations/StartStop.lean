import Mathlib.Data.List.Nodup
import Mathlib.Data.List.Perm.Basic

/-!
# Starts and stops

The record of the calls that start and stop a collection of components, with what each of them came to.
What is live, and that nothing is started while it is live, are read off the record alone, so that a
component that keeps books of its own can be held to it.
-/

namespace WeaponDetection.Foundations

/-- A call and whether it succeeded. -/
inductive StartStop (α : Type) where
  | start (a : α) (succeeded : Bool)
  | stop (a : α) (succeeded : Bool)

namespace StartStop

variable {α : Type} [DecidableEq α] {a b : α} {log : List (StartStop α)}

/-- What was started and not stopped since, of a record whose last entry comes first. -/
def live : List (StartStop α) → List α
  | [] => []
  | start a true :: log => a :: live log
  | stop a true :: log => (live log).erase a
  | _ :: log => live log

/-- Nothing was started while it was live. -/
def NoDoubleStart : List (StartStop α) → Prop
  | [] => True
  | start a _ :: log => a ∉ live log ∧ NoDoubleStart log
  | stop _ _ :: log => NoDoubleStart log

instance decidableNoDoubleStart : (log : List (StartStop α)) → Decidable (NoDoubleStart log)
  | [] => isTrue trivial
  | start a _ :: log =>
    have : Decidable (NoDoubleStart log) := decidableNoDoubleStart log
    inferInstanceAs (Decidable (a ∉ live log ∧ NoDoubleStart log))
  | stop _ _ :: log => decidableNoDoubleStart log

@[simp] theorem live_nil : live ([] : List (StartStop α)) = [] := rfl

@[simp] theorem live_started : live (start a true :: log) = a :: live log := rfl

@[simp] theorem live_notStarted : live (start a false :: log) = live log := rfl

@[simp] theorem live_stopped : live (stop a true :: log) = (live log).erase a := rfl

@[simp] theorem live_notStopped : live (stop a false :: log) = live log := rfl

@[simp] theorem noDoubleStart_start {succeeded : Bool} :
    NoDoubleStart (start a succeeded :: log) ↔ a ∉ live log ∧ NoDoubleStart log := Iff.rfl

@[simp] theorem noDoubleStart_stop {succeeded : Bool} :
    NoDoubleStart (stop a succeeded :: log) ↔ NoDoubleStart log := Iff.rfl

/-- Books that agree with a record: they hold what is live, once, and nothing was started twice. -/
structure Booked (running : List α) (log : List (StartStop α)) : Prop where
  tracked : (live log).Perm running
  nodup : running.Nodup
  orderly : NoDoubleStart log

theorem Booked.empty : Booked ([] : List α) [] := ⟨.refl _, .nil, trivial⟩

variable {running : List α}

theorem Booked.not_live (h : Booked running log) (ha : a ∉ running) : a ∉ live log :=
  fun hlive => ha (h.tracked.subset hlive)

/-- A new component is started and booked. -/
theorem Booked.started (h : Booked running log) (ha : a ∉ running) :
    Booked (running ++ [a]) (start a true :: log) where
  tracked := by
    rw [live_started]
    exact (h.tracked.cons a).trans (List.perm_append_singleton a running).symm
  nodup := by
    rw [List.nodup_append]
    refine ⟨h.nodup, List.nodup_singleton a, ?_⟩
    intro b hb c hc
    rw [List.mem_singleton.1 hc]
    rintro rfl
    exact ha hb
  orderly := ⟨h.not_live ha, h.orderly⟩

/-- A failed start is not booked. -/
theorem Booked.notStarted (h : Booked running log) (ha : a ∉ running) :
    Booked running (start a false :: log) :=
  ⟨h.tracked, h.nodup, h.not_live ha, h.orderly⟩

/-- A stopped component leaves the books. -/
theorem Booked.stopped (h : Booked running log) (a : α) : Booked (running.erase a) (stop a true :: log) where
  tracked := h.tracked.erase a
  nodup := h.nodup.erase a
  orderly := h.orderly

/-- A failed stop leaves the books as they are. -/
theorem Booked.notStopped (h : Booked running log) (a : α) : Booked running (stop a false :: log) :=
  ⟨h.tracked, h.nodup, h.orderly⟩

end StartStop

end WeaponDetection.Foundations
