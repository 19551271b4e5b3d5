import Mathlib.Logic.Basic
import Mathlib.Data.List.Basic

/-!
# Labelled transition systems with a partial step

A component whose parties interleave is described by a state type, a type of actions and a
partial step: `step s a = none` says that action `a` is not enabled in `s` (a party waits for a
lock, a queue is empty).  The module gives the two ways the developments above it speak about
whole runs:

- `Reachable`: the states reached by any sequence of enabled actions;
- `ReachableUnder guard`: the states reached by runs every step of which meets `guard`, a
  condition on the action and on the state *before* the step.

Each comes with its induction rule in the form "holds initially, kept by every step", so that an
invariant proof is one lemma about a single step.  `exec` runs an explicit list of actions and
connects a concrete schedule to the two reachability predicates.
-/

namespace WeaponDetection.Foundations

/-- A labelled transition system: the initial states and a partial deterministic step. -/
structure TransitionSystem (State Action : Type*) where
  /-- The states a run may start in. -/
  init : State → Prop
  /-- The successor of a state under an action, `none` when the action is not enabled. -/
  step : State → Action → Option State

namespace TransitionSystem

variable {State Action : Type*} (sys : TransitionSystem State Action)

/-! ## Runs -/

/-- Run a list of actions, `none` as soon as one of them is not enabled. -/
def exec (s : State) : List Action → Option State
  | [] => some s
  | a :: as => (sys.step s a).bind fun s' => exec s' as

/-- The states reached by enabled actions from an initial state. -/
inductive Reachable : State → Prop where
  | init {s : State} : sys.init s → Reachable s
  | step {s s' : State} {a : Action} : Reachable s → sys.step s a = some s' → Reachable s'

/-- The states reached by runs each step of which meets `guard` in the state before it. -/
inductive ReachableUnder (guard : State → Action → Prop) : State → Prop where
  | init {s : State} : sys.init s → ReachableUnder guard s
  | step {s s' : State} {a : Action} :
      ReachableUnder guard s → guard s a → sys.step s a = some s' → ReachableUnder guard s'

/-! ## Induction rules -/

variable {sys}

/-- An invariant of the initial states and of every step holds in every reachable state. -/
theorem Reachable.invariant {Inv : State → Prop} (hinit : ∀ s, sys.init s → Inv s)
    (hstep : ∀ s a s', Inv s → sys.step s a = some s' → Inv s') {s : State}
    (h : sys.Reachable s) : Inv s := by
  induction h with
  | init h0 => exact hinit _ h0
  | step _ hs ih => exact hstep _ _ _ ih hs

/-- A guarded run is a run. -/
theorem ReachableUnder.reachable {guard : State → Action → Prop} {s : State}
    (h : sys.ReachableUnder guard s) : sys.Reachable s := by
  induction h with
  | init h0 => exact .init h0
  | step _ _ hs ih => exact .step ih hs

/-- An invariant of the initial states that every step meeting the guard keeps, given a second
invariant already known of every reachable state, holds along every guarded run. -/
theorem ReachableUnder.invariant {guard : State → Action → Prop} {Known Inv : State → Prop}
    (hknown : ∀ s, sys.Reachable s → Known s) (hinit : ∀ s, sys.init s → Inv s)
    (hstep : ∀ s a s', Known s → Inv s → guard s a → sys.step s a = some s' → Inv s')
    {s : State} (h : sys.ReachableUnder guard s) : Inv s := by
  induction h with
  | init h0 => exact hinit _ h0
  | step hr hg hs ih => exact hstep _ _ _ (hknown _ hr.reachable) ih hg hs

/-- The rule without a second invariant. -/
theorem ReachableUnder.invariant_of_guard {guard : State → Action → Prop} {Inv : State → Prop}
    {s : State} (h : sys.ReachableUnder guard s) (hinit : ∀ s, sys.init s → Inv s)
    (hstep : ∀ s a s', Inv s → guard s a → sys.step s a = some s' → Inv s') : Inv s :=
  h.invariant (fun _ _ => trivial) hinit fun s a s' _ => hstep s a s'

/-! ## Restriction

A scheduler that allows only some of the actions in each state. -/

/-- The same system under a scheduler. -/
def restrict (sys : TransitionSystem State Action) (allows : State → Action → Bool) :
    TransitionSystem State Action where
  init := sys.init
  step := fun s a => if allows s a then sys.step s a else none

theorem step_restrict {allows : State → Action → Bool} {s s' : State} {a : Action} :
    (sys.restrict allows).step s a = some s' ↔ allows s a = true ∧ sys.step s a = some s' := by
  show (if allows s a = true then sys.step s a else none) = some s' ↔ _
  split
  · rename_i h
    exact ⟨fun hs => ⟨h, hs⟩, fun hs => hs.2⟩
  · rename_i h
    exact ⟨fun hs => absurd hs (by simp), fun hs => absurd hs.1 h⟩

/-- A run under a scheduler is a run. -/
theorem Reachable.of_restrict {allows : State → Action → Bool} {s : State}
    (h : (sys.restrict allows).Reachable s) : sys.Reachable s := by
  induction h with
  | init h0 => exact .init h0
  | step _ hs ih => exact .step ih (step_restrict.mp hs).2

/-! ## Explicit schedules -/

@[simp] theorem exec_nil (s : State) : sys.exec s [] = some s := rfl

theorem exec_cons (s : State) (a : Action) (as : List Action) :
    sys.exec s (a :: as) = (sys.step s a).bind fun s' => sys.exec s' as := rfl

/-- One schedule after another. -/
theorem exec_append (s : State) (as bs : List Action) :
    sys.exec s (as ++ bs) = (sys.exec s as).bind fun s' => sys.exec s' bs := by
  induction as generalizing s with
  | nil => rfl
  | cons a as ih =>
    rw [List.cons_append, exec_cons, exec_cons, Option.bind_assoc]
    exact Option.bind_congr fun s' _ => ih s'

/-- A schedule that runs to the end from a reachable state ends in a reachable state. -/
theorem Reachable.exec {s s' : State} {as : List Action} (h : sys.Reachable s)
    (hrun : sys.exec s as = some s') : sys.Reachable s' := by
  induction as generalizing s with
  | nil =>
    rw [exec_nil, Option.some.injEq] at hrun
    exact hrun ▸ h
  | cons a as ih =>
    rw [exec_cons, Option.bind_eq_some_iff] at hrun
    obtain ⟨t, ht, hrest⟩ := hrun
    exact ih (.step h ht) hrest

/-- Every step of a schedule meets a guard in the state before it. -/
def Meets (sys : TransitionSystem State Action) (guard : State → Action → Prop) (s : State) :
    List Action → Prop
  | [] => True
  | a :: as => guard s a ∧ ∀ s' ∈ sys.step s a, sys.Meets guard s' as

instance decidableMeets (sys : TransitionSystem State Action) (guard : State → Action → Prop)
    [∀ s a, Decidable (guard s a)] (s : State) : (as : List Action) → Decidable (sys.Meets guard s as)
  | [] => isTrue trivial
  | a :: as =>
    match h : sys.step s a with
    | none => decidable_of_iff (guard s a) (by simp [Meets, h])
    | some s' =>
      have : Decidable (sys.Meets guard s' as) := decidableMeets sys guard s' as
      decidable_of_iff (guard s a ∧ sys.Meets guard s' as) (by simp [Meets, h])

/-- A schedule that meets the guard and runs to the end stays within the guarded runs. -/
theorem ReachableUnder.exec {guard : State → Action → Prop} {s s' : State} {as : List Action}
    (h : sys.ReachableUnder guard s) (hmeets : sys.Meets guard s as)
    (hrun : sys.exec s as = some s') : sys.ReachableUnder guard s' := by
  induction as generalizing s with
  | nil =>
    rw [exec_nil, Option.some.injEq] at hrun
    exact hrun ▸ h
  | cons a as ih =>
    rw [exec_cons, Option.bind_eq_some_iff] at hrun
    obtain ⟨t, ht, hrest⟩ := hrun
    exact ih (.step h hmeets.1 ht) (hmeets.2 t ht) hrest

end TransitionSystem

end WeaponDetection.Foundations
