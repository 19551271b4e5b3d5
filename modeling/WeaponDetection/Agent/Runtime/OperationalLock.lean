import WeaponDetection.Agent.Identity.Repository
import WeaponDetection.Foundations.StartStop
import WeaponDetection.Foundations.TransitionSystem

/-!
# The operational lock

Models `runtime/operational_state_coordinator.py`: the coordinator starts its components while the Agent is
operational, stops them when it is locked, and unlocks on a reactivation that is persisted.  An
`asyncio.Lock` keeps the calls apart, so a run is a sequence of calls; how each awaited `start()` and
`stop()` ends is the environment's.

The coordinator books a component as running until its stop is confirmed, except in the rollback of a failed
start, where the component leaves the books although its stop raised.  Where no rollback meets such a stop,
the books are what is live, and a lock that returns leaves nothing live (`operational_lock`).
-/

namespace WeaponDetection.Agent.Runtime

open WeaponDetection.Foundations
open WeaponDetection.Foundations.StartStop
open WeaponDetection.Agent.Identity (OperationalState DeviceIdentity)

/-! ## The coordinator -/

/-- How an awaited call ends: it returns, raises an `Exception`, or is cancelled. -/
inductive Outcome where
  | succeeds
  | raises
  | cancelled
  deriving DecidableEq

section Coordinator

variable {Component : Type} [DecidableEq Component]

/-- `OperationalStateCoordinator`, and every `start()` and `stop()` it called, the last one first. -/
structure Coordinator (Component : Type) where
  state : OperationalState
  running : List Component
  log : List (StartStop Component)

/-- What the calls raise. -/
inductive CoordinatorError (Component : Type) where
  | componentsLocked
  | componentStart (failing : Component)
  | componentShutdown (failures : List Component)
  | reactivationNotPersisted
  | cancelled

/-- How the loop over the pending components ends. -/
inductive StartEnd (Component : Type) where
  | completed
  | failed (failing : Component)
  | cancelled

/-- `await component.start()`. -/
def Coordinator.callStart (s : Coordinator Component) (component : Component) (outcome : Outcome) :
    Coordinator Component :=
  { s with log := .start component (outcome = .succeeds) :: s.log }

/-- `await component.stop()`. -/
def Coordinator.callStop (s : Coordinator Component) (component : Component) (outcome : Outcome) :
    Coordinator Component :=
  { s with log := .stop component (outcome = .succeeds) :: s.log }

/-- The loop of `start_operational_components`; `k` counts the calls made. -/
def startEach (outcome : ℕ → Outcome) :
    List Component → ℕ → Coordinator Component → List Component →
      Coordinator Component × List Component × StartEnd Component
  | [], _, s, startedNow => (s, startedNow, .completed)
  | component :: rest, k, s, startedNow =>
    let called := s.callStart component (outcome k)
    match outcome k with
    | .succeeds =>
      startEach outcome rest (k + 1) { called with running := called.running ++ [component] }
        (startedNow ++ [component])
    | .raises => (called, startedNow, .failed component)
    | .cancelled => (called, startedNow, .cancelled)

/-- `_rollback_started` on the components in reverse order, with whether it ran to its end: a component is
removed once its stop has been attempted. -/
def rollbackStarted (outcome : ℕ → Outcome) :
    List Component → ℕ → Coordinator Component → Coordinator Component × Bool
  | [], _, s => (s, true)
  | component :: rest, k, s =>
    let called := s.callStop component (outcome k)
    if outcome k = .cancelled then (called, false)
    else rollbackStarted outcome rest (k + 1) { called with running := called.running.erase component }

/-- `_stop_running_locked` on the components in reverse order, with the failures, `none` when it is
cancelled: a component that fails to stop is kept. -/
def stopRunningLocked (outcome : ℕ → Outcome) :
    List Component → ℕ → Coordinator Component → List Component →
      Coordinator Component × Option (List Component)
  | [], _, s, failures => (s, some failures)
  | component :: rest, k, s, failures =>
    let called := s.callStop component (outcome k)
    match outcome k with
    | .succeeds =>
      stopRunningLocked outcome rest (k + 1) { called with running := called.running.erase component } failures
    | .raises => stopRunningLocked outcome rest (k + 1) called (failures ++ [component])
    | .cancelled => (called, none)

/-- The registered components that are not booked as running. -/
def pending (components : List Component) (s : Coordinator Component) : List Component :=
  components.filter (· ∉ s.running)

/-- `start_operational_components`. -/
def startOperationalComponents (components : List Component) (starts rollbacks : ℕ → Outcome)
    (s : Coordinator Component) : Coordinator Component × Except (CoordinatorError Component) Unit :=
  if s.state ≠ .operational then (s, .error .componentsLocked)
  else if pending components s = [] then (s, .ok ())
  else
    match startEach starts (pending components s) 0 s [] with
    | (s, _, .completed) => (s, .ok ())
    | (s, startedNow, .failed failing) =>
      match rollbackStarted rollbacks startedNow.reverse 0 s with
      | (s, true) => (s, .error (.componentStart failing))
      | (s, false) => (s, .error .cancelled)
    | (s, _, .cancelled) => (s, .error .cancelled)

/-- `enter_reactivation_required`. -/
def enterReactivationRequired (stops : ℕ → Outcome) (s : Coordinator Component) :
    Coordinator Component × Except (CoordinatorError Component) Unit :=
  let s := { s with state := .reactivationRequired }
  if s.running = [] then (s, .ok ())
  else
    match stopRunningLocked stops s.running.reverse 0 s [] with
    | (s, some []) => (s, .ok ())
    | (s, some failures) => (s, .error (.componentShutdown failures))
    | (s, none) => (s, .error .cancelled)

/-- `mark_operational_after_reactivation`, with what the repository loads: `none` where it raises. -/
def markOperationalAfterReactivation (loaded : Option (Option DeviceIdentity)) (s : Coordinator Component) :
    Coordinator Component × Except (CoordinatorError Component) Unit :=
  match loaded with
  | some (some identity) =>
    if identity.operationalState ≠ .operational then (s, .error .reactivationNotPersisted)
    else if !identity.canAuthenticate then (s, .error .reactivationNotPersisted)
    else ({ s with state := .operational }, .ok ())
  | _ => (s, .error .reactivationNotPersisted)

/-! ## Runs -/

/-- A call of the coordinator, with the ends of what it awaits in the order in which it awaits them. -/
inductive Call where
  | start (starts rollbacks : ℕ → Outcome)
  | lock (stops : ℕ → Outcome)
  | unlock (loaded : Option (Option DeviceIdentity))

/-- The coordinator behind a call. -/
def Coordinator.after (components : List Component) (s : Coordinator Component) : Call → Coordinator Component
  | .start starts rollbacks => (startOperationalComponents components starts rollbacks s).1
  | .lock stops => (enterReactivationRequired stops s).1
  | .unlock loaded => (markOperationalAfterReactivation loaded s).1

/-- The calls on a coordinator in any order. -/
def lockSystem (components : List Component) : TransitionSystem (Coordinator Component) Call where
  init := fun s => s.running = [] ∧ s.log = []
  step := fun s call => some (s.after components call)

/-- Of a rollback of `n` components, no stop that is reached raises. -/
def StopsAll (rollbacks : ℕ → Outcome) (n : ℕ) : Prop :=
  ∀ k < n, (∀ j < k, rollbacks j ≠ .cancelled) → rollbacks k ≠ .raises

instance (rollbacks : ℕ → Outcome) (n : ℕ) : Decidable (StopsAll rollbacks n) :=
  inferInstanceAs (Decidable (∀ k < n, _))

/-- The first `n` starts succeed and the next one raises. -/
def RaisesBehind (starts : ℕ → Outcome) (n : ℕ) : Prop := (∀ k < n, starts k = .succeeds) ∧ starts n = .raises

instance (starts : ℕ → Outcome) (n : ℕ) : Decidable (RaisesBehind starts n) := inferInstanceAs (Decidable (_ ∧ _))

/-- The condition on a start: no component is listed twice among those to be started, and when a start
raises, no rollback that is reached raises. -/
def RollbackStops (components : List Component) (s : Coordinator Component) : Call → Prop
  | .start starts rollbacks =>
    s.state = .operational → (pending components s).Nodup ∧
      ∀ n < (pending components s).length, RaisesBehind starts n → StopsAll rollbacks n
  | _ => True

instance (components : List Component) (s : Coordinator Component) (call : Call) :
    Decidable (RollbackStops components s call) :=
  match call with
  | .start _ _ => inferInstanceAs (Decidable (_ → _ ∧ _))
  | .lock _ => isTrue trivial
  | .unlock _ => isTrue trivial

/-! ## What the calls leave -/

/-- The books are what is live. -/
def Coordinator.Booked (s : Coordinator Component) : Prop := StartStop.Booked s.running s.log

variable {components : List Component} {s : Coordinator Component}

theorem startEach_spec (outcome : ℕ → Outcome) {rest : List Component} (k : ℕ) (startedNow : List Component)
    (hbooked : s.Booked) (hnodup : rest.Nodup) (hfresh : ∀ c ∈ rest, c ∉ s.running) :
    ∃ s' new e, startEach outcome rest k s startedNow = (s', startedNow ++ new, e) ∧ s'.Booked ∧
      ∀ failing, e = .failed failing →
        new.length < rest.length ∧ RaisesBehind (fun j => outcome (k + j)) new.length := by
  -- on the components still to be started; each is new to the books
  induction rest generalizing s k startedNow with
  | nil => exact ⟨s, [], .completed, by simp [startEach], hbooked, by simp⟩
  | cons component rest ih =>
    have hnew : component ∉ s.running := hfresh component List.mem_cons_self
    cases houtcome : outcome k with
    | raises =>
      refine ⟨s.callStart component .raises, [], .failed component, by simp [startEach, houtcome],
        hbooked.notStarted hnew, ?_⟩
      simp [RaisesBehind, houtcome]
    | cancelled =>
      refine ⟨s.callStart component .cancelled, [], .cancelled, by simp [startEach, houtcome],
        hbooked.notStarted hnew, ?_⟩
      simp
    | succeeds =>
      have hrest : ∀ c ∈ rest, c ∉ s.running ++ [component] := by
        intro c hc hmem
        rcases List.mem_append.1 hmem with hmem | hmem
        · exact hfresh c (List.mem_cons_of_mem _ hc) hmem
        · rw [List.mem_singleton.1 hmem] at hc
          exact (List.nodup_cons.1 hnodup).1 hc
      obtain ⟨s', new, e, hrun, hbooked', hfailed⟩ := ih (k + 1) (startedNow ++ [component])
        (s := { s.callStart component .succeeds with running := s.running ++ [component] })
        (hbooked.started hnew) (List.nodup_cons.1 hnodup).2 hrest
      refine ⟨s', component :: new, e, ?_, hbooked', ?_⟩
      · rw [startEach, houtcome]
        rw [List.append_assoc] at hrun
        exact hrun
      · intro failing he
        obtain ⟨hlength, hbefore, hraises⟩ := hfailed failing he
        refine ⟨by simpa using hlength, ?_, ?_⟩
        · intro j hj
          cases j with
          | zero => exact houtcome
          | succ j =>
            have hsucc : outcome (k + 1 + j) = .succeeds := hbefore j (by simpa using hj)
            rwa [Nat.add_right_comm] at hsucc
        · have hnext : outcome (k + 1 + new.length) = .raises := hraises
          rwa [Nat.add_right_comm] at hnext

theorem rollbackStarted_booked (outcome : ℕ → Outcome) (todo : List Component) (k : ℕ) (hbooked : s.Booked)
    (hstops : StopsAll (fun i => outcome (k + i)) todo.length) :
    (rollbackStarted outcome todo k s).1.Booked := by
  induction todo generalizing s k with
  | nil => exact hbooked
  | cons component todo ih =>
    rw [rollbackStarted]
    cases houtcome : outcome k with
    | cancelled => exact hbooked.notStopped component
    | raises => exact absurd houtcome (hstops 0 (by simp) (by simp))
    | succeeds =>
      simp only [reduceCtorEq, if_false]
      apply ih (k + 1) (s := { s.callStop component .succeeds with running := s.running.erase component })
        (hbooked.stopped component)
      intro i hi hreached
      show outcome (k + 1 + i) ≠ .raises
      rw [Nat.add_right_comm]
      apply hstops (i + 1) (by simpa using hi)
      intro j hj
      cases j with
      | zero => simp [houtcome]
      | succ j =>
        have hbefore : outcome (k + 1 + j) ≠ .cancelled := hreached j (by omega)
        rwa [Nat.add_right_comm] at hbefore

/-- A lock keeps the books, and without a failure nothing it went over is left in them. -/
theorem stopRunningLocked_spec (outcome : ℕ → Outcome) (todo : List Component) (k : ℕ)
    (failures : List Component) (hbooked : s.Booked) :
    (stopRunningLocked outcome todo k s failures).1.Booked ∧
      (stopRunningLocked outcome todo k s failures).1.state = s.state ∧
      ((stopRunningLocked outcome todo k s failures).2 = some [] → failures = [] ∧
        ∀ c ∈ (stopRunningLocked outcome todo k s failures).1.running, c ∈ s.running ∧ c ∉ todo) := by
  induction todo generalizing s k failures with
  | nil => simp [stopRunningLocked, hbooked]
  | cons component todo ih =>
    rw [stopRunningLocked]
    cases houtcome : outcome k with
    | cancelled => exact ⟨hbooked.notStopped component, rfl, by simp⟩
    | raises =>
      obtain ⟨hbooked', hstate, hnone⟩ := ih (k + 1) (failures ++ [component])
        (s := s.callStop component .raises) (hbooked.notStopped component)
      refine ⟨hbooked', hstate, ?_⟩
      intro hend
      have hfailures := (hnone hend).1
      simp at hfailures
    | succeeds =>
      obtain ⟨hbooked', hstate, hnone⟩ := ih (k + 1) failures
        (s := { s.callStop component .succeeds with running := s.running.erase component })
        (hbooked.stopped component)
      refine ⟨hbooked', hstate, ?_⟩
      intro hend
      obtain ⟨hfailures, hleft⟩ := hnone hend
      refine ⟨hfailures, ?_⟩
      intro c hc
      obtain ⟨hrunning, htodo⟩ := hleft c hc
      have hother := (hbooked.nodup.mem_erase_iff).1 hrunning
      exact ⟨hother.2, by simp [hother.1, htodo]⟩

/-- **The lock is complete for what is booked**: it keeps the books, and when it returns they are empty. -/
theorem enterReactivationRequired_spec (stops : ℕ → Outcome) (hbooked : s.Booked) :
    (enterReactivationRequired stops s).1.Booked ∧
      (enterReactivationRequired stops s).1.state = .reactivationRequired ∧
      ((enterReactivationRequired stops s).2 = .ok () → (enterReactivationRequired stops s).1.running = []) := by
  unfold enterReactivationRequired
  simp only
  split_ifs with hempty
  · exact ⟨hbooked, rfl, fun _ => hempty⟩
  · obtain ⟨hbooked', hstate, hnone⟩ := stopRunningLocked_spec stops s.running.reverse 0 []
      (s := { s with state := .reactivationRequired }) hbooked
    generalize stopRunningLocked stops s.running.reverse 0 { s with state := .reactivationRequired } [] = result at *
    obtain ⟨s', failures⟩ := result
    match failures with
    | none => exact ⟨hbooked', hstate, by simp⟩
    | some [] =>
      refine ⟨hbooked', hstate, fun _ => List.eq_nil_iff_forall_not_mem.2 ?_⟩
      intro c hc
      obtain ⟨hrunning, htodo⟩ := (hnone rfl).2 c hc
      exact htodo (List.mem_reverse.2 hrunning)
    | some (_ :: _) => exact ⟨hbooked', hstate, by simp⟩

theorem startOperationalComponents_booked {starts rollbacks : ℕ → Outcome} (hbooked : s.Booked)
    (hguard : RollbackStops components s (.start starts rollbacks)) :
    (startOperationalComponents components starts rollbacks s).1.Booked := by
  unfold startOperationalComponents
  split_ifs with hlocked hnone
  · exact hbooked
  · exact hbooked
  · obtain ⟨hnodup, hstops⟩ := hguard (not_not.1 hlocked)
    have hfresh : ∀ c ∈ pending components s, c ∉ s.running := by
      intro c hc
      simpa [pending] using (List.mem_filter.1 hc).2
    obtain ⟨s', new, e, hrun, hbooked', hfailed⟩ :=
      startEach_spec starts 0 [] hbooked hnodup hfresh
    rw [hrun]
    cases e with
    | completed => exact hbooked'
    | cancelled => exact hbooked'
    | failed failing =>
      obtain ⟨hlength, hraises⟩ := hfailed failing rfl
      simp only [Nat.zero_add] at hraises
      -- the rollback goes over what this attempt started
      have hclean := hstops new.length hlength hraises
      have hrollback := rollbackStarted_booked rollbacks new.reverse 0 hbooked'
        (by simpa using hclean)
      simp only [List.nil_append]
      generalize rollbackStarted rollbacks new.reverse 0 s' = result at *
      obtain ⟨s'', completed⟩ := result
      cases completed <;> exact hrollback

theorem after_booked {call : Call} (hbooked : s.Booked) (hguard : RollbackStops components s call) :
    (s.after components call).Booked := by
  cases call with
  | start starts rollbacks => exact startOperationalComponents_booked hbooked hguard
  | lock stops => exact (enterReactivationRequired_spec stops hbooked).1
  | unlock loaded =>
    simp only [Coordinator.after, markOperationalAfterReactivation]
    split
    · split_ifs <;> exact hbooked
    · exact hbooked

/-- The run lemma. -/
theorem booked_of_reachable (h : (lockSystem components).ReachableUnder (RollbackStops components) s) :
    s.Booked := by
  refine h.invariant_of_guard ?_ ?_
  · rintro s ⟨hrunning, hlog⟩
    unfold Coordinator.Booked
    rw [hrunning, hlog]
    exact .empty
  · intro s call s' hbooked hguard hstep
    cases hstep
    exact after_booked hbooked hguard

/-- **The operational lock.**  As long as no start lists a component twice and no rollback that is reached
raises, no component is started while it is live, and a lock that returns leaves nothing live behind and the
Agent locked. -/
theorem operational_lock (h : (lockSystem components).ReachableUnder (RollbackStops components) s) :
    NoDoubleStart s.log ∧ ∀ stops s', enterReactivationRequired stops s = (s', .ok ()) →
      live s'.log = [] ∧ s'.state = .reactivationRequired := by
  have hbooked := booked_of_reachable h
  refine ⟨hbooked.orderly, ?_⟩
  intro stops s' hreturns
  obtain ⟨hbooked', hstate, hempty⟩ := enterReactivationRequired_spec stops hbooked
  rw [hreturns] at hbooked' hstate hempty
  have hlive := hbooked'.tracked
  rw [hempty rfl] at hlive
  exact ⟨List.perm_nil.1 hlive, hstate⟩

/-- Two components; both starts succeed, the lock stops both. -/
theorem operational_lock_two : ∃ s, (lockSystem [1, 2]).ReachableUnder (RollbackStops [1, 2]) s ∧
    live s.log = [2, 1] ∧ NoDoubleStart s.log := by
  let start : Call := .start (fun _ => .succeeds) (fun _ => .succeeds)
  let fresh : Coordinator ℕ := ⟨.operational, [], []⟩
  have hreach : (lockSystem [1, 2]).ReachableUnder (RollbackStops [1, 2]) (fresh.after [1, 2] start) :=
    .step (.init ⟨rfl, rfl⟩) (by decide) rfl
  exact ⟨_, hreach, by decide, (operational_lock hreach).1⟩

/-- The second start raises and the rollback of the first component does too: the component goes on running,
the lock returns without asking it to stop, and the next start starts it again. -/
theorem failed_rollback_escapes_lock :
    let start : Call := .start (fun k => if k = 1 then .raises else .succeeds) (fun _ => .raises)
    let s := (⟨.operational, [], []⟩ : Coordinator ℕ).after [1, 2] start
    (enterReactivationRequired (fun _ => .succeeds) s).2.isOk = true ∧
      live (enterReactivationRequired (fun _ => .succeeds) s).1.log = [1] ∧
      ¬ NoDoubleStart (s.after [1, 2] start).log := by
  decide

end Coordinator

end WeaponDetection.Agent.Runtime
