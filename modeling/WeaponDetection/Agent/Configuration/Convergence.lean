import WeaponDetection.Agent.Configuration.Coordinator
import WeaponDetection.Foundations.TransitionSystem

/-!
# Convergence of the device configuration

The poll loop of the coordinator with everything in it that can fail: the fetch, the validation, the
cache, the stop of the old Bridge, the generation of the runtime configuration and the start of the
new one.  `_applied` is set before the Bridge is started and kept when the Bridge is stopped, and a
later poll compares versions only: an application that broke off after the old Bridge was stopped, or
before the new one was started, is never resumed as long as the Backend answers with the version in
`_applied`.

A poll reports success only where the fetched configuration runs, provided every configuration of the
applied version is fetched after its application went through (`reports_converge`).
-/

namespace WeaponDetection.Agent.Configuration

open WeaponDetection.Foundations (TransitionSystem)

/-! ## The parts around the coordinator -/

/-- The `ConfigCache` row: `ConfigJson` deserializes to a configuration, or does not. -/
inductive CachedConfiguration where
  | malformed
  | configuration (configuration : DeviceConfiguration)

/-- `DeepStreamProcessManager`: whether `_process` is set, and `_stopping`. -/
structure ProcessManager where
  process : Bool
  stopping : Bool

/-- The end of `DeepStreamProcessManager.start`, and whether it returned: a tracked process raises
`DeepStreamAlreadyRunningError`, and the subprocess factory may raise. -/
def ProcessManager.start (manager : ProcessManager) (spawned : Bool) : ProcessManager × Bool :=
  if manager.process then (manager, false)
  else if spawned then (⟨true, false⟩, true)
  else (manager, false)

/-- `DeepStreamProcessManager.stop` up to the signal. -/
def ProcessManager.signal (manager : ProcessManager) : ProcessManager :=
  { manager with stopping := manager.stopping || manager.process }

/-- The end of `DeepStreamProcessManager.stop`: without a process there is nothing to fail. -/
def ProcessManager.finishStop (manager : ProcessManager) (fails : Bool) : ProcessManager × Bool :=
  if manager.process && fails then (manager, false) else (⟨false, false⟩, true)

/-- `_watch`: the exit of a process that `stop` has not signalled is cleaned up. -/
def ProcessManager.watch (manager : ProcessManager) : ProcessManager :=
  if manager.stopping then manager else ⟨false, false⟩

/-! ## State -/

/-- A poll iteration that returned `True` while Operational: the last valid configuration fetched,
and what it left behind. -/
structure PollReport where
  fetched : Option DeviceConfiguration
  applied : Option DeviceConfiguration
  startedWith : Option (List DeviceCameraConfig)
  /-- An application had begun, or the Bridge been stopped, and none had gone through since. -/
  interrupted : Bool

/-- The coordinator with its cache and its process manager, and a record of what happened. -/
structure PollState where
  coordinator : Coordinator
  cache : Option CachedConfiguration
  manager : ProcessManager
  /-- The last valid configuration a poll fetched. -/
  fetched : Option DeviceConfiguration
  /-- The cameras of the runtime configuration the Bridge was started with, if there is a Bridge the
  coordinator has started and not stopped. -/
  startedWith : Option (List DeviceCameraConfig)
  /-- An application began, or the Bridge was stopped, and no application has gone through since. -/
  interrupted : Bool
  reports : List PollReport

/-- A coordinator over an existing cache row. -/
def PollState.fresh (cache : Option CachedConfiguration) : PollState :=
  { coordinator := .fresh, cache, manager := ⟨false, false⟩, fetched := none, startedWith := none
    interrupted := false, reports := [] }

/-- The iteration returns `True`. -/
def PollState.report (r : PollState) : PollState :=
  { r with
    reports := r.reports ++ [⟨r.fetched, r.coordinator.applied, r.startedWith, r.interrupted⟩] }

/-- The cached configuration `_load_and_apply_cache` applies. -/
def PollState.cached (r : PollState) (accepted : Bool) : Option DeviceConfiguration :=
  match r.cache with
  | some (.configuration configuration) => if accepted then some configuration else none
  | _ => none

/-- `_apply` and what follows it up to the next wait. -/
def PollState.apply (r : PollState) (configuration : DeviceConfiguration)
    (polling generateFails : Bool) : PollState :=
  let r' := { r with coordinator := r.coordinator.apply configuration polling generateFails }
  if generateFails then r'
  else if configuration.cameras ≠ [] then { r' with interrupted := true }
  else
    let r' := { r' with interrupted := r.coordinator.bridgeRunning }
    if polling then r'.report else r'

/-! ## Steps -/

/-- What a poll iteration gets. -/
inductive PollOutcome where
  | notOperational
  /-- `ConfigurationFetchFailure`. -/
  | fetchFailure
  /-- `ConfigurationValidationError`. -/
  | invalid
  | valid (configuration : DeviceConfiguration) (saveFails generateFails : Bool)

/-- What happens between two waits. -/
inductive PollAction where
  /-- `start`, with the operational state and the validity of the cached configuration. -/
  | start (operational accepted generateFails : Bool)
  | poll (outcome : PollOutcome)
  | bridgeExits
  /-- `process_manager.stop` returns or raises. -/
  | finishStop (stopFails generateFails : Bool)
  /-- `process_manager.start` returns or raises. -/
  | finishStart (spawned : Bool)
  /-- `stop`, in which `process_manager.stop` may raise. -/
  | stop (stopFails : Bool)

/-- A valid configuration in `_poll_once`. -/
def PollState.valid (r : PollState) (configuration : DeviceConfiguration)
    (saveFails generateFails : Bool) : PollState :=
  let r := { r with fetched := some configuration }
  if r.coordinator.Unchanged configuration then r.report
  else if saveFails then r
  else
    let r := { r with cache := some (.configuration configuration) }
    if r.coordinator.bridgeRunning then
      { r with
        coordinator := { r.coordinator with phase := .stoppingBridge configuration }
        manager := r.manager.signal }
    else r.apply configuration true generateFails

/-- One step. -/
def pollStep (r : PollState) : PollAction → Option PollState
  | .start operational accepted generateFails =>
    if r.coordinator.phase = .stopped then
      match if operational then r.cached accepted else none with
      | none => some { r with coordinator := { r.coordinator with phase := .idle } }
      | some configuration => some (r.apply configuration false generateFails)
    else none
  | .poll outcome =>
    if r.coordinator.phase = .idle then
      match outcome with
      | .valid configuration saveFails generateFails =>
        some (r.valid configuration saveFails generateFails)
      | _ => some r
    else none
  | .bridgeExits =>
    if r.coordinator.bridge.isSome then
      some { r with
        coordinator := { r.coordinator with bridge := none }
        manager := r.manager.watch }
    else none
  | .finishStop stopFails generateFails =>
    match r.coordinator.phase with
    | .stoppingBridge configuration =>
      let (manager, returned) := r.manager.finishStop stopFails
      if returned then
        -- The process has been reaped.
        if r.coordinator.bridge = none then
          some (PollState.apply { r with
            coordinator := { r.coordinator with bridgeRunning := false }
            manager, startedWith := none, interrupted := true } configuration true generateFails)
        else none
      else some { r with coordinator := { r.coordinator with phase := .idle }, manager }
    | _ => none
  | .finishStart spawned =>
    match r.coordinator.phase with
    | .startingBridge polling =>
      let (manager, returned) := r.manager.start spawned
      if returned then
        let r := { r with
          coordinator := { r.coordinator with
            bridge := r.coordinator.tracker.current.map fun generation =>
              ⟨generation.generation, r.coordinator.runtimeConfig⟩
            bridgeRunning := true
            phase := .idle }
          manager
          startedWith := some r.coordinator.runtimeConfig
          interrupted := false }
        some (if polling then r.report else r)
      else some { r with coordinator := { r.coordinator with phase := restingPhase polling } }
    | _ => none
  | .stop stopFails =>
    -- `start` and `stop` of a component exclude each other.
    if r.coordinator.phase = .stopped ∨ r.coordinator.phase = .startingBridge false then none
    else if r.coordinator.bridgeRunning then
      let (manager, returned) := r.manager.signal.finishStop stopFails
      if returned then
        some { r with
          coordinator := { r.coordinator with
            bridge := none, bridgeRunning := false, phase := .stopped }
          manager, startedWith := none, interrupted := true }
      else some { r with coordinator := { r.coordinator with phase := .stopped }, manager }
    else some { r with coordinator := { r.coordinator with phase := .stopped } }

/-- The poll loop as a transition system, over any cache row. -/
def pollSystem : TransitionSystem PollState PollAction where
  init := fun r => ∃ cache, r = .fresh cache
  step := pollStep

/-! ## The coordinator's own steps -/

@[simp] theorem apply_coordinator (r : PollState) (configuration : DeviceConfiguration)
    (polling generateFails : Bool) :
    (r.apply configuration polling generateFails).coordinator =
      r.coordinator.apply configuration polling generateFails := by
  simp only [PollState.apply]
  split
  · rfl
  · split
    · rfl
    · split <;> rfl

/-- The coordinator of the poll loop takes the steps of the coordinator model, or only goes to another
wait. -/
theorem pollStep_coordinator {r r' : PollState} {a : PollAction} (hs : pollStep r a = some r') :
    (∃ b, r.coordinator.step b = some r'.coordinator) ∨
      ∃ phase, r'.coordinator = { r.coordinator with phase := phase } := by
  cases a with
  | start operational accepted generateFails =>
    simp only [pollStep] at hs
    split at hs
    · rename_i hphase
      split at hs
      · cases hs
        exact .inr ⟨.idle, rfl⟩
      · rename_i configuration _
        cases hs
        exact .inl ⟨.start (some configuration) generateFails, by simp [Coordinator.step, hphase]⟩
    · cases hs
  | poll outcome =>
    simp only [pollStep] at hs
    split at hs
    · rename_i hphase
      split at hs
      · rename_i configuration saveFails generateFails
        cases hs
        simp only [PollState.valid]
        split
        · exact .inr ⟨r.coordinator.phase, rfl⟩
        · rename_i hchanged
          split
          · exact .inr ⟨r.coordinator.phase, rfl⟩
          · split
            · exact .inr ⟨_, rfl⟩
            · rename_i hstopped
              refine .inl ⟨.poll configuration generateFails, ?_⟩
              simp only [Bool.not_eq_true] at hstopped
              simp [Coordinator.step, hphase, hstopped, show ¬ r.coordinator.Unchanged configuration
                from hchanged]
      · cases hs
        exact .inr ⟨r.coordinator.phase, rfl⟩
    · cases hs
  | bridgeExits =>
    simp only [pollStep] at hs
    split at hs
    · rename_i hlive
      cases hs
      exact .inl ⟨.bridgeExits, by simp [Coordinator.step, hlive]⟩
    · cases hs
  | finishStop stopFails generateFails =>
    simp only [pollStep] at hs
    split at hs
    · rename_i configuration hphase
      split at hs
      · split at hs
        · rename_i hreaped
          cases hs
          exact .inl ⟨.finishStop generateFails, by simp [Coordinator.step, hphase, hreaped]⟩
        · cases hs
      · cases hs
        exact .inr ⟨.idle, rfl⟩
    · cases hs
  | finishStart spawned =>
    simp only [pollStep] at hs
    split at hs
    · rename_i polling hphase
      split at hs
      · cases hs
        refine .inl ⟨.finishStart true, ?_⟩
        cases polling <;> simp [Coordinator.step, hphase, PollState.report]
      · cases hs
        exact .inr ⟨_, rfl⟩
    · cases hs
  | stop stopFails =>
    simp only [pollStep] at hs
    split at hs
    · cases hs
    · rename_i hphase
      split at hs
      · split at hs
        · cases hs
          exact .inl ⟨.stop, by simp [Coordinator.step, (not_or.mp hphase).1]⟩
        · cases hs
          exact .inr ⟨.stopped, rfl⟩
      · cases hs
        exact .inr ⟨.stopped, rfl⟩

/-! ## What a report claims -/

/-- The cameras a Bridge runs with for a configuration: none without cameras. -/
def bridgeCameras (configuration : Option DeviceConfiguration) : Option (List DeviceCameraConfig) :=
  configuration.bind fun configuration =>
    if configuration.cameras = [] then none else some configuration.cameras

/-- The configuration that was fetched is the applied one, the Bridge was started for it if and only
if it has cameras, and no application is left unfinished. -/
def PollReport.Converged (x : PollReport) : Prop :=
  x.fetched.isSome = true ∧ x.applied = x.fetched ∧ x.startedWith = bridgeCameras x.fetched ∧
    x.interrupted = false

instance (x : PollReport) : Decidable x.Converged := inferInstanceAs (Decidable (_ ∧ _))

/-- A configuration of the applied version is fetched only after the application of the last one went
through, and is that configuration. -/
def FetchesApplied (r : PollState) : PollAction → Prop
  | .poll (.valid configuration _ _) =>
    r.coordinator.Unchanged configuration →
      r.interrupted = false ∧ r.coordinator.applied = some configuration
  | _ => True

instance (r : PollState) (a : PollAction) : Decidable (FetchesApplied r a) := by
  unfold FetchesApplied
  split <;> infer_instance

/-! ## The invariant -/

/-- What holds between two steps.  While no application is broken off, the Bridge that was started is
the one of the applied configuration. -/
structure PollInv (r : PollState) : Prop where
  stopped : r.coordinator.bridgeRunning = false → r.startedWith = none
  settled : r.interrupted = false → r.startedWith = bridgeCameras r.coordinator.applied
  starting : ∀ polling, r.coordinator.phase = .startingBridge polling →
    r.interrupted = true ∧
      bridgeCameras r.coordinator.applied = some r.coordinator.runtimeConfig ∧
      (polling = true → r.fetched = r.coordinator.applied)
  stopping : ∀ configuration, r.coordinator.phase = .stoppingBridge configuration →
    r.fetched = some configuration
  converged : ∀ x ∈ r.reports, x.Converged

theorem pollInv_fresh (cache : Option CachedConfiguration) : PollInv (.fresh cache) where
  stopped := fun _ => rfl
  settled := fun _ => rfl
  starting := fun _ h => by cases h
  stopping := fun _ h => by cases h
  converged := fun _ h => absurd h List.not_mem_nil

section Steps

variable {r : PollState}

/-- The task goes to rest, or the process manager moves on. -/
theorem PollInv.rest (h : PollInv r) (phase : Phase) (hphase : phase = .idle ∨ phase = .stopped)
    (manager : ProcessManager) :
    PollInv { r with coordinator := { r.coordinator with phase := phase }, manager } where
  stopped := h.stopped
  settled := h.settled
  starting := fun _ hstarting => by
    rcases hphase with rfl | rfl <;> cases hstarting
  stopping := fun _ hstopping => by
    rcases hphase with rfl | rfl <;> cases hstopping
  converged := h.converged

/-- A report made while nothing is broken off. -/
theorem PollInv.report (h : PollInv r) (hfetched : r.fetched.isSome = true)
    (happlied : r.coordinator.applied = r.fetched) (hsettled : r.interrupted = false) :
    PollInv r.report where
  stopped := h.stopped
  settled := h.settled
  starting := h.starting
  stopping := h.stopping
  converged := by
    intro x hx
    rcases List.mem_append.mp hx with hold | hnew
    · exact h.converged x hold
    · rw [List.mem_singleton.mp hnew]
      exact ⟨hfetched, happlied, happlied ▸ h.settled hsettled, hsettled⟩

/-- An application, with the Bridge stopped where a poll makes it. -/
theorem PollInv.apply (h : PollInv r) (configuration : DeviceConfiguration)
    (polling generateFails : Bool)
    (hpolling : polling = true →
      r.fetched = some configuration ∧ r.coordinator.bridgeRunning = false) :
    PollInv (r.apply configuration polling generateFails) := by
  cases generateFails with
  | true =>
    -- Nothing was installed.
    have hrest : restingPhase polling = .idle ∨ restingPhase polling = .stopped := by
      cases polling
      · exact .inr rfl
      · exact .inl rfl
    exact h.rest (restingPhase polling) hrest r.manager
  | false =>
    by_cases hcameras : configuration.cameras = []
    · -- Without cameras the application ends here.
      have hended : PollInv { r with
          coordinator := r.coordinator.apply configuration polling false
          interrupted := r.coordinator.bridgeRunning } := by
        simp only [Coordinator.apply, hcameras]
        refine ⟨h.stopped, fun hstopped => ?_, fun _ hp => (by cases hp),
          fun _ hp => (by cases hp), h.converged⟩
        rw [h.stopped hstopped]
        simp [bridgeCameras, hcameras]
      cases polling with
      | false => simpa [PollState.apply, hcameras] using hended
      | true =>
        obtain ⟨hfetched, hstopped⟩ := hpolling rfl
        have hreport := hended.report (by simp [hfetched])
          (by simp [Coordinator.apply, hfetched]) hstopped
        simpa [PollState.apply, hcameras] using hreport
    · simp only [PollState.apply, Coordinator.apply, hcameras, ne_eq, not_false_eq_true, if_true,
        Bool.false_eq_true, if_false]
      refine ⟨h.stopped, fun hf => (by cases hf), fun p hp => ?_, fun _ hp => (by cases hp),
        h.converged⟩
      cases hp
      exact ⟨rfl, by simp [bridgeCameras, hcameras], fun hp => (hpolling hp).1⟩

/-- A valid configuration in a poll. -/
theorem PollInv.valid (h : PollInv r) (configuration : DeviceConfiguration)
    (saveFails generateFails : Bool) (hphase : r.coordinator.phase = .idle)
    (hguard : r.coordinator.Unchanged configuration →
      r.interrupted = false ∧ r.coordinator.applied = some configuration) :
    PollInv (r.valid configuration saveFails generateFails) := by
  have hidle : PollInv { r with fetched := some configuration } :=
    ⟨h.stopped, h.settled, fun _ hp => (by rw [hphase] at hp; cases hp),
      fun _ hp => (by rw [hphase] at hp; cases hp), h.converged⟩
  simp only [PollState.valid]
  split
  · rename_i hunchanged
    obtain ⟨hsettled, happlied⟩ := hguard hunchanged
    exact hidle.report rfl happlied hsettled
  · split
    · exact hidle
    · have hsaved : PollInv { r with
          fetched := some configuration, cache := some (.configuration configuration) } :=
        ⟨hidle.stopped, hidle.settled, hidle.starting, hidle.stopping, hidle.converged⟩
      split
      · refine ⟨h.stopped, h.settled, fun _ hp => (by cases hp), fun c hp => ?_, h.converged⟩
        cases hp
        rfl
      · rename_i hstopped
        exact hsaved.apply configuration true generateFails fun _ => ⟨rfl, by simpa using hstopped⟩

/-- The step lemma. -/
theorem PollInv.step {r' : PollState} {a : PollAction} (h : PollInv r) (hguard : FetchesApplied r a)
    (hs : pollStep r a = some r') : PollInv r' := by
  cases a with
  | start operational accepted generateFails =>
    simp only [pollStep] at hs
    split at hs
    · split at hs
      · cases hs
        exact h.rest .idle (.inl rfl) r.manager
      · cases hs
        exact h.apply _ false generateFails fun hp => by cases hp
    · cases hs
  | poll outcome =>
    simp only [pollStep] at hs
    split at hs
    · rename_i hphase
      split at hs
      · cases hs
        exact h.valid _ _ _ hphase hguard
      · cases hs
        exact h
    · cases hs
  | bridgeExits =>
    simp only [pollStep] at hs
    split at hs
    · cases hs
      exact ⟨h.stopped, h.settled, h.starting, h.stopping, h.converged⟩
    · cases hs
  | finishStop stopFails generateFails =>
    simp only [pollStep] at hs
    split at hs
    · rename_i configuration hphase
      have hfetched := h.stopping configuration hphase
      split at hs
      · split at hs
        · cases hs
          have hstopped : PollInv { r with
              coordinator := { r.coordinator with bridgeRunning := false }
              manager := (r.manager.finishStop stopFails).1
              startedWith := none, interrupted := true } :=
            ⟨fun _ => rfl, fun hf => (by cases hf), fun p hp => ?_, h.stopping, h.converged⟩
          · exact hstopped.apply configuration true generateFails fun _ => ⟨hfetched, rfl⟩
          · exact absurd (hphase.symm.trans hp) (by simp)
        · cases hs
      · cases hs
        exact h.rest .idle (.inl rfl) _
    · cases hs
  | finishStart spawned =>
    simp only [pollStep] at hs
    split at hs
    · rename_i polling hphase
      obtain ⟨-, hcameras, hfetched⟩ := h.starting polling hphase
      split at hs
      · -- The Bridge runs with the configuration that was applied last.
        have hstarted : PollInv { r with
            coordinator := { r.coordinator with
              bridge := r.coordinator.tracker.current.map fun generation =>
                ⟨generation.generation, r.coordinator.runtimeConfig⟩
              bridgeRunning := true
              phase := .idle }
            manager := (r.manager.start spawned).1
            startedWith := some r.coordinator.runtimeConfig
            interrupted := false } :=
          ⟨fun hf => (by cases hf), fun _ => hcameras.symm, fun _ hp => (by cases hp),
            fun _ hp => (by cases hp), h.converged⟩
        cases hs
        cases polling with
        | false => exact hstarted
        | true =>
          have happlied := hfetched rfl
          refine hstarted.report ?_ happlied.symm rfl
          show r.fetched.isSome = true
          rw [happlied]
          cases hnone : r.coordinator.applied with
          | none => simp [hnone, bridgeCameras] at hcameras
          | some c => rfl
      · cases hs
        refine h.rest _ ?_ r.manager
        cases polling
        · exact .inr rfl
        · exact .inl rfl
    · cases hs
  | stop stopFails =>
    simp only [pollStep] at hs
    split at hs
    · cases hs
    · split at hs
      · split at hs
        · cases hs
          exact ⟨fun _ => rfl, fun hf => (by cases hf), fun _ hp => (by cases hp),
            fun _ hp => (by cases hp), h.converged⟩
        · cases hs
          exact h.rest .stopped (.inr rfl) _
      · cases hs
        exact h.rest .stopped (.inr rfl) r.manager

end Steps

/-- **In every run in which a configuration of the applied version is fetched only after the last
application went through, a poll reports success only with the fetched configuration applied, its
Bridge started if and only if it has cameras, and nothing left to be resumed.** -/
theorem reports_converge (r : PollState) (h : pollSystem.ReachableUnder FetchesApplied r) :
    ∀ x ∈ r.reports, x.Converged := by
  have hinv : PollInv r := by
    apply h.invariant_of_guard
    · rintro r ⟨cache, rfl⟩
      exact pollInv_fresh cache
    · intro r a r' hinv hguard hs
      exact hinv.step hguard hs
  exact hinv.converged

/-! ## Runs with failures -/

/-- Camera 1 on source 0. -/
def entranceConfiguration : DeviceConfiguration := ⟨"v1", [⟨1, 0, true⟩]⟩

/-- Camera 2 on source 0. -/
def yardConfiguration : DeviceConfiguration := ⟨"v2", [⟨2, 0, true⟩]⟩

/-- Started on a malformed cache row, the first fetch fails and the second brings a configuration whose
Bridge starts. -/
def firstConfiguration : List PollAction :=
  [.start true true false, .poll .fetchFailure, .poll (.valid entranceConfiguration false false),
    .finishStart true]

/-- A changed configuration, applied up to the point where the old Bridge is gone. -/
def changedConfiguration (generateFails : Bool) : List PollAction :=
  [.poll (.valid yardConfiguration false false), .bridgeExits, .finishStop false generateFails]

/-- The changed configuration cannot be generated, and is applied at the next poll. -/
theorem reports_converge_generatedAgain :
    ∃ r, pollSystem.ReachableUnder FetchesApplied r ∧ r.reports.length = 3 ∧
      r.startedWith = some yardConfiguration.cameras ∧ ∀ x ∈ r.reports, x.Converged := by
  let actions := firstConfiguration ++ [.poll (.valid entranceConfiguration false false)] ++
    changedConfiguration true ++ [.poll (.valid yardConfiguration false false), .finishStart true]
  have hend : (pollSystem.exec (.fresh (some .malformed)) actions).map
      (fun r => (r.reports.length, r.startedWith)) = some (3, some yardConfiguration.cameras) := by
    decide +kernel
  obtain ⟨r, hrun, hpair⟩ := Option.map_eq_some_iff.mp hend
  obtain ⟨hlength, hstarted⟩ := Prod.mk.inj hpair
  have hreach : pollSystem.ReachableUnder FetchesApplied r :=
    .exec (.init ⟨_, rfl⟩) (by decide +kernel) hrun
  exact ⟨r, hreach, hlength, hstarted, reports_converge r hreach⟩

/-- The new Bridge fails to start, and the next poll reports success without one. -/
theorem failed_start_reported_unchanged :
    ∃ r, pollSystem.Reachable r ∧ ∃ x ∈ r.reports, ¬ x.Converged := by
  let actions : List PollAction :=
    [.start true true false, .poll (.valid entranceConfiguration false false), .finishStart false,
      .poll (.valid entranceConfiguration false false)]
  have hend : (pollSystem.exec (.fresh none) actions).map
      (fun r => r.reports.any fun x => !decide x.Converged) = some true := by decide +kernel
  obtain ⟨r, hrun, hany⟩ := Option.map_eq_some_iff.mp hend
  obtain ⟨x, hx, hfalse⟩ := List.any_eq_true.mp hany
  exact ⟨r, .exec (.init ⟨_, rfl⟩) hrun, x, hx, by simpa using hfalse⟩

/-- The generation fails after the old Bridge was stopped, and the Backend returns to the old
configuration: the poll reports success, and the Bridge stays stopped. -/
theorem failed_generation_reported_unchanged :
    ∃ r, pollSystem.Reachable r ∧ ∃ x ∈ r.reports, ¬ x.Converged := by
  let actions := firstConfiguration ++ changedConfiguration true ++
    [.poll (.valid entranceConfiguration false false)]
  have hend : (pollSystem.exec (.fresh none) actions).map
      (fun r => r.reports.any fun x => !decide x.Converged) = some true := by decide +kernel
  obtain ⟨r, hrun, hany⟩ := Option.map_eq_some_iff.mp hend
  obtain ⟨x, hx, hfalse⟩ := List.any_eq_true.mp hany
  exact ⟨r, .exec (.init ⟨_, rfl⟩) hrun, x, hx, by simpa using hfalse⟩

end WeaponDetection.Agent.Configuration
