import WeaponDetection.Agent.Configuration.Coordinator
import WeaponDetection.Foundations.TransitionSystem

/-!
# The Bridge process and its cancellation

`DeepStreamProcessManager` and the poll task of `DeviceConfigurationCoordinator`, cut at every `await`, with
the watcher of the process and the caller of `stop` as tasks of their own.  `stop` cancels the poll task:
`CancelledError` is raised at the await where the task waits, and the task then unwinds without waiting
again, with one exception.  `DeepStreamProcessManager.stop` suppresses `CancelledError` around the await of
the watcher it has cancelled itself, and cannot tell the two apart.

`single_bridge` is what holds where `stop` does not fall on that await.
-/

namespace WeaponDetection.Agent.DeepStream

open WeaponDetection.Foundations
open WeaponDetection.Agent.Configuration (DeviceCameraConfig DeviceConfiguration)

/-! ## The process manager -/

/-- The state of the task `_watch(process)`. -/
inductive WatcherState where
  | waiting
  /-- `watcher.cancel()` was called. -/
  | cancelling
  | done
  deriving DecidableEq

/-- The watcher of a process. -/
structure Watcher where
  pid : ℕ
  state : WatcherState
  deriving DecidableEq

/-- The fields of `DeepStreamProcessManager`. -/
structure ProcessManager where
  process : Option ℕ
  watcherTask : Option Watcher
  stopping : Bool
  deriving DecidableEq

/-- `_cleanup`. -/
def ProcessManager.cleanup (_ : ProcessManager) : ProcessManager := ⟨none, none, false⟩

/-- The awaits of `DeepStreamProcessManager.stop`. -/
inductive StopPoint where
  /-- `wait_for(process.wait(), timeout)` behind SIGTERM. -/
  | exit (pid : ℕ)
  /-- `process.wait()` behind SIGKILL. -/
  | killed (pid : ℕ)
  /-- `await watcher`. -/
  | watcher (pid : ℕ)
  deriving DecidableEq

/-- The process that is being stopped. -/
def StopPoint.pid : StopPoint → ℕ
  | .exit pid | .killed pid | .watcher pid => pid

/-- The await whose `CancelledError` is suppressed. -/
def StopPoint.isWatcher : StopPoint → Bool
  | .watcher _ => true
  | _ => false

/-- `stop` from the exit of the process on: cancel the watcher and await it, where it is not done. -/
def ProcessManager.stopWatcher (m : ProcessManager) (pid : ℕ) : ProcessManager × Option StopPoint :=
  match m.watcherTask with
  | some watcher =>
    if watcher.state = .done then (m.cleanup, none)
    else ({ m with watcherTask := some { watcher with state := .cancelling } }, some (.watcher pid))
  | none => (m.cleanup, none)

/-- `stop` up to its first await, `none` where it returns. -/
def ProcessManager.beginStop (m : ProcessManager) (alive : List ℕ) : ProcessManager × Option StopPoint :=
  match m.process with
  | none => (m, none)
  | some pid =>
    let m := { m with stopping := true }
    if pid ∈ alive then (m, some (.exit pid)) else m.stopWatcher pid

/-- `stop` from an await that has completed to the next one. -/
def ProcessManager.resumeStop (m : ProcessManager) (alive : List ℕ) :
    StopPoint → Option (ProcessManager × Option StopPoint)
  | .exit pid | .killed pid => if pid ∈ alive then none else some (m.stopWatcher pid)
  | .watcher _ =>
    if m.watcherTask.all (·.state = .done) then some (m.cleanup, none) else none

/-! ## The tasks -/

/-- Where the poll task waits. -/
inductive PollPhase where
  /-- Created and not yet run. -/
  | created
  | fetching
  | sleeping
  /-- `_apply_async` awaits `process_manager.stop()`. -/
  | stoppingBridge (configuration : DeviceConfiguration) (point : StopPoint)
  /-- `create_subprocess_exec`, before and after it has forked. -/
  | spawning (child : Option ℕ)
  | ended
  deriving DecidableEq

/-- Where the caller of `DeviceConfigurationCoordinator.stop` waits. -/
inductive StopPhase where
  | notCalled
  /-- `await task`. -/
  | awaitingTask
  | stoppingBridge (point : StopPoint)
  /-- `await self._client.aclose()`. -/
  | closingClient
  | returned
  deriving DecidableEq

/-- The coordinator, its process manager and the children that have not been reaped. -/
structure SupervisionState where
  manager : ProcessManager
  applied : Option DeviceConfiguration
  bridgeRunning : Bool
  poll : PollPhase
  /-- `task.cancel()` was called and the `CancelledError` has not been raised yet. -/
  cancelPending : Bool
  stopPhase : StopPhase
  alive : List ℕ
  deriving DecidableEq

/-- What can fail while a configuration is applied. -/
structure ApplyFaults where
  /-- `generate_runtime_config` raises. -/
  generate : Bool
  /-- The log file cannot be opened. -/
  openLog : Bool

/-- What can happen next. -/
inductive SupervisionAction where
  /-- The poll task starts a round; without an operational identity it goes back to sleep. -/
  | pollWakes (operational : Bool)
  /-- `fetch` and the validation give a configuration, or nothing to apply. -/
  | fetched (result : Option DeviceConfiguration) (saveFails : Bool) (faults : ApplyFaults)
  /-- The await of `process_manager.stop()` the poll task stands at completes. -/
  | pollResumes (faults : ApplyFaults)
  | pollTimesOut
  /-- `create_subprocess_exec` forks a child. -/
  | forks (pid : ℕ)
  | spawnReturns
  | spawnFails
  /-- A child exits, of itself or by a signal, and is reaped. -/
  | childExits (pid : ℕ)
  | watcherReturns
  | watcherCancelled
  /-- `stop` is called. -/
  | stop
  /-- `CancelledError` is raised in the poll task. -/
  | pollCancelled (faults : ApplyFaults)
  | stopResumes
  | stopTimesOut

/-! ## Steps -/

/-- `_apply` and what follows it in `_apply_async`; `_run` catches what is raised and sleeps. -/
def SupervisionState.applyConfiguration (s : SupervisionState) (configuration : DeviceConfiguration)
    (faults : ApplyFaults) : SupervisionState :=
  if faults.generate then { s with poll := .sleeping }
  else
    let s := { s with applied := some configuration }
    if configuration.cameras = [] then { s with poll := .sleeping }
    -- `DeepStreamAlreadyRunningError`
    else if s.manager.process.isSome then { s with poll := .sleeping }
    else if faults.openLog then { s with poll := .sleeping }
    else { s with poll := .spawning none }

/-- `_apply_async` from the outcome of `process_manager.stop()` on. -/
def SupervisionState.continueApply (s : SupervisionState) (configuration : DeviceConfiguration)
    (faults : ApplyFaults) : ProcessManager × Option StopPoint → SupervisionState
  | (manager, some point) => { s with manager, poll := .stoppingBridge configuration point }
  | (manager, none) => { s with manager, bridgeRunning := false }.applyConfiguration configuration faults

/-- `_apply_async`. -/
def SupervisionState.applyAsync (s : SupervisionState) (configuration : DeviceConfiguration)
    (faults : ApplyFaults) : SupervisionState :=
  if s.bridgeRunning then s.continueApply configuration faults (s.manager.beginStop s.alive)
  else s.applyConfiguration configuration faults

/-- The configuration in force has this version. -/
def SupervisionState.Unchanged (s : SupervisionState) (configuration : DeviceConfiguration) : Prop :=
  s.applied.map DeviceConfiguration.configurationVersion = some configuration.configurationVersion

instance (s : SupervisionState) (configuration : DeviceConfiguration) : Decidable (s.Unchanged configuration) :=
  inferInstanceAs (Decidable (_ = _))

/-- `DeviceConfigurationCoordinator.stop` from the outcome of `process_manager.stop()` on. -/
def SupervisionState.continueStop (s : SupervisionState) : ProcessManager × Option StopPoint → SupervisionState
  | (manager, some point) => { s with manager, stopPhase := .stoppingBridge point }
  | (manager, none) => { s with manager, bridgeRunning := false, stopPhase := .closingClient }

/-- A step of the poll task that is not cancelled. -/
def SupervisionState.pollStep (s : SupervisionState) : SupervisionAction → Option SupervisionState
  | .pollWakes operational =>
    if s.poll = .created ∨ s.poll = .sleeping then
      some { s with poll := if operational then .fetching else .sleeping }
    else none
  | .fetched result saveFails faults =>
    if s.poll = .fetching then
      match result with
      | none => some { s with poll := .sleeping }
      | some configuration =>
        if s.Unchanged configuration ∨ saveFails then some { s with poll := .sleeping }
        else some (s.applyAsync configuration faults)
    else none
  | .pollResumes faults =>
    match s.poll with
    | .stoppingBridge configuration point =>
      (s.manager.resumeStop s.alive point).map (s.continueApply configuration faults)
    | _ => none
  | .pollTimesOut =>
    match s.poll with
    | .stoppingBridge configuration (.exit pid) =>
      some { s with poll := .stoppingBridge configuration (.killed pid) }
    | _ => none
  | .forks pid =>
    if s.poll = .spawning none ∧ pid ∉ s.alive then
      some { s with poll := .spawning (some pid), alive := pid :: s.alive }
    else none
  | .spawnReturns =>
    match s.poll with
    | .spawning (some pid) =>
      some { s with manager := ⟨some pid, some ⟨pid, .waiting⟩, false⟩, bridgeRunning := true, poll := .sleeping }
    | _ => none
  | .spawnFails =>
    match s.poll with
    | .spawning child => some { s with poll := .sleeping, alive := s.alive.filter fun pid => some pid ≠ child }
    | _ => none
  | _ => none

/-- `CancelledError` at the await of the poll task. -/
def SupervisionState.cancelStep (s : SupervisionState) (faults : ApplyFaults) : Option SupervisionState :=
  let s' := { s with cancelPending := false }
  match s.poll with
  | .created | .fetching | .sleeping => some { s' with poll := .ended }
  | .stoppingBridge configuration point =>
    -- suppressed around `await watcher`, and `stop` goes on as if the watcher had ended
    if point.isWatcher then some (s'.continueApply configuration faults (s.manager.cleanup, none))
    else some { s' with poll := .ended }
  | .spawning child => some { s' with poll := .ended, alive := s.alive.filter fun pid => some pid ≠ child }
  | .ended => none

/-- A step of the watcher. -/
def SupervisionState.watcherStep (s : SupervisionState) (cancelled : Bool) : Option SupervisionState :=
  match s.manager.watcherTask with
  | some watcher =>
    if cancelled then
      if watcher.state = .cancelling then
        some { s with manager := { s.manager with watcherTask := some { watcher with state := .done } } }
      else none
    else if watcher.state = .waiting ∧ watcher.pid ∉ s.alive then
      if s.manager.stopping then
        some { s with manager := { s.manager with watcherTask := some { watcher with state := .done } } }
      else some { s with manager := s.manager.cleanup }
    else none
  | none => none

/-- A step of the caller of `stop`. -/
def SupervisionState.stopStep (s : SupervisionState) : Option SupervisionState :=
  match s.stopPhase with
  | .awaitingTask =>
    if s.poll = .ended then
      if s.bridgeRunning then some (s.continueStop (s.manager.beginStop s.alive))
      else some { s with stopPhase := .closingClient }
    else none
  | .stoppingBridge point => (s.manager.resumeStop s.alive point).map s.continueStop
  | .closingClient => some { s with stopPhase := .returned }
  | .notCalled | .returned => none

/-- One step. -/
def supervisionStep (s : SupervisionState) : SupervisionAction → Option SupervisionState
  | .childExits pid => if pid ∈ s.alive then some { s with alive := s.alive.erase pid } else none
  | .watcherReturns => s.watcherStep false
  | .watcherCancelled => s.watcherStep true
  | .stop =>
    if s.stopPhase = .notCalled then some { s with cancelPending := true, stopPhase := .awaitingTask } else none
  | .pollCancelled faults => if s.cancelPending then s.cancelStep faults else none
  | .stopResumes => s.stopStep
  | .stopTimesOut =>
    match s.stopPhase with
    | .stoppingBridge (.exit pid) => some { s with stopPhase := .stoppingBridge (.killed pid) }
    | _ => none
  | a => if s.cancelPending then none else s.pollStep a

/-- The coordinator behind its `start`, without a Bridge. -/
def SupervisionState.waiting (applied : Option DeviceConfiguration) : SupervisionState :=
  ⟨⟨none, none, false⟩, applied, false, .created, false, .notCalled, []⟩

/-- The coordinator behind its `start`, with the Bridge of the cached configuration. -/
def SupervisionState.fromCache (configuration : DeviceConfiguration) (pid : ℕ) : SupervisionState :=
  ⟨⟨some pid, some ⟨pid, .waiting⟩, false⟩, some configuration, true, .created, false, .notCalled, [pid]⟩

/-- The coordinator and its Bridge. -/
def supervision : TransitionSystem SupervisionState SupervisionAction where
  init := fun s => (∃ applied, s = .waiting applied) ∨ ∃ configuration pid, s = .fromCache configuration pid
  step := supervisionStep

/-! ## The property and its condition -/

/-- The poll task awaits the watcher it has cancelled. -/
def PollPhase.awaitsWatcher : PollPhase → Bool
  | .stoppingBridge _ point => point.isWatcher
  | _ => false

/-- `stop` is not called while the poll task awaits the watcher. -/
def OffTheWatcher (s : SupervisionState) : SupervisionAction → Prop
  | .stop => s.poll.awaitsWatcher = false
  | _ => True

instance (s : SupervisionState) : DecidablePred (OffTheWatcher s)
  | .stop => inferInstanceAs (Decidable (_ = _))
  | .pollWakes _ | .fetched _ _ _ | .pollResumes _ | .pollTimesOut | .forks _ | .spawnReturns | .spawnFails
  | .childExits _ | .watcherReturns | .watcherCancelled | .pollCancelled _ | .stopResumes
  | .stopTimesOut => isTrue trivial

/-- The poll task has ended, or its next step ends it and no other step moves it. -/
def PollEnds (s : SupervisionState) : Prop :=
  s.poll = .ended ∨
    (∀ faults, ∃ s', supervisionStep s (.pollCancelled faults) = some s' ∧ s'.poll = .ended) ∧
      ∀ a s', supervisionStep s a = some s' → s'.poll = s.poll ∨ s'.poll = .ended

/-- One Bridge at a time, an end of the poll task behind `stop`, and no Bridge behind its return. -/
structure SingleBridge (s : SupervisionState) : Prop where
  atMostOne : s.alive.length ≤ 1
  pollEnds : s.stopPhase ≠ .notCalled → PollEnds s
  noneLeft : s.stopPhase = .returned → s.alive = []

/-! ## The invariant -/

/-- The process manager is stopping the process of this await, and behind its exit no child is left. -/
structure Stopping (m : ProcessManager) (alive : List ℕ) (point : StopPoint) : Prop where
  process : m.process = some point.pid
  stopping : m.stopping = true
  exited : point.isWatcher = true → alive = []

/-- The invariant of the guarded runs. -/
structure BridgeInv (s : SupervisionState) : Prop where
  watcher : ∀ w, s.manager.watcherTask = some w → s.manager.process = some w.pid
  running : ∀ pid, s.manager.process = some pid → s.bridgeRunning = true
  alive : s.alive = [] ∨ ∃ pid, s.alive = [pid] ∧
    (s.manager.process = some pid ∨ s.poll = .spawning (some pid))
  spawning : ∀ child, s.poll = .spawning child → s.manager.process = none
  pollStops : ∀ configuration point, s.poll = .stoppingBridge configuration point →
    Stopping s.manager s.alive point
  stopStops : ∀ point, s.stopPhase = .stoppingBridge point → Stopping s.manager s.alive point
  ended : s.stopPhase = .notCalled ∨ s.stopPhase = .awaitingTask ∨ s.poll = .ended
  closed : s.stopPhase = .closingClient ∨ s.stopPhase = .returned → s.manager.process = none ∧ s.alive = []
  cancel : (s.stopPhase = .notCalled ∧ s.cancelPending = false) ∨ s.poll = .ended ∨
    (s.cancelPending = true ∧ s.poll.awaitsWatcher = false)

section ManagerStop

variable {m : ProcessManager} {alive : List ℕ}

/-- Every child is the tracked process. -/
def Tracked (m : ProcessManager) (alive : List ℕ) : Prop :=
  alive = [] ∨ ∃ pid, alive = [pid] ∧ m.process = some pid

/-- What a run of `process_manager.stop` to its next await leaves behind. -/
def StopsWell (alive : List ℕ) : ProcessManager × Option StopPoint → Prop
  | (m, none) => m.process = none ∧ m.watcherTask = none ∧ alive = []
  | (m, some point) =>
    (∀ w, m.watcherTask = some w → m.process = some w.pid) ∧ Tracked m alive ∧ Stopping m alive point

/-- The `alive` clause of the invariant, of a process that is already tracked. -/
theorem Tracked.or_spawning (h : Tracked m alive) (spawning : ℕ → Prop) :
    alive = [] ∨ ∃ pid, alive = [pid] ∧ (m.process = some pid ∨ spawning pid) := by
  rcases h with hnil | ⟨pid, halive, hprocess⟩
  · exact .inl hnil
  · exact .inr ⟨pid, halive, .inl hprocess⟩

/-- Behind the exit of the tracked process no child is left. -/
theorem Tracked.eq_nil {pid : ℕ} (h : Tracked m alive) (hprocess : m.process = some pid) (hexit : pid ∉ alive) :
    alive = [] := by
  rcases h with hnil | ⟨other, rfl, hother⟩
  · exact hnil
  · rw [hprocess, Option.some.injEq] at hother
    rw [hother] at hexit
    exact absurd (List.mem_singleton.mpr rfl) hexit

theorem stopWatcher_stopsWell {pid : ℕ} (hwatcher : ∀ w, m.watcherTask = some w → m.process = some w.pid)
    (hprocess : m.process = some pid) (hflag : m.stopping = true) (halive : alive = []) :
    StopsWell alive (m.stopWatcher pid) := by
  unfold ProcessManager.stopWatcher
  cases hw : m.watcherTask with
  | none => exact ⟨rfl, rfl, halive⟩
  | some w =>
    simp only
    split_ifs
    · exact ⟨rfl, rfl, halive⟩
    · refine ⟨?_, .inl halive, hprocess, hflag, fun _ => halive⟩
      rintro _ ⟨⟩
      exact hwatcher w hw

theorem beginStop_stopsWell (hwatcher : ∀ w, m.watcherTask = some w → m.process = some w.pid)
    (htracked : Tracked m alive) : StopsWell alive (m.beginStop alive) := by
  obtain ⟨process, watcherTask, stopping⟩ := m
  cases process with
  | none =>
    refine ⟨rfl, ?_, ?_⟩
    · cases watcherTask with
      | none => rfl
      | some w => exact nomatch hwatcher w rfl
    · rcases htracked with hnil | ⟨pid, -, hpid⟩
      · exact hnil
      · cases hpid
  | some pid =>
    simp only [ProcessManager.beginStop]
    split_ifs with hexit
    · exact ⟨hwatcher, htracked, rfl, rfl, nofun⟩
    · exact stopWatcher_stopsWell hwatcher rfl rfl (htracked.eq_nil rfl hexit)

theorem resumeStop_stopsWell {point : StopPoint} {result : ProcessManager × Option StopPoint}
    (hwatcher : ∀ w, m.watcherTask = some w → m.process = some w.pid) (htracked : Tracked m alive)
    (hstopping : Stopping m alive point) (h : m.resumeStop alive point = some result) :
    StopsWell alive result := by
  obtain ⟨hprocess, hflag, hexited⟩ := hstopping
  cases point with
  | exit pid =>
    simp only [ProcessManager.resumeStop] at h
    split_ifs at h with hexit
    cases h
    exact stopWatcher_stopsWell hwatcher hprocess hflag (htracked.eq_nil hprocess hexit)
  | killed pid =>
    simp only [ProcessManager.resumeStop] at h
    split_ifs at h with hexit
    cases h
    exact stopWatcher_stopsWell hwatcher hprocess hflag (htracked.eq_nil hprocess hexit)
  | watcher pid =>
    simp only [ProcessManager.resumeStop] at h
    split_ifs at h with hdone
    cases h
    exact ⟨rfl, rfl, hexited rfl⟩

end ManagerStop

section Steps

variable {s s' : SupervisionState}

/-- Applying a configuration puts the task to sleep or has it spawn a process. -/
theorem applyConfiguration_cases (s : SupervisionState) (configuration : DeviceConfiguration)
    (faults : ApplyFaults) :
    ∃ applied poll, s.applyConfiguration configuration faults = { s with applied, poll } ∧
      (poll = .sleeping ∨ poll = .spawning none) := by
  unfold SupervisionState.applyConfiguration
  simp only
  split_ifs
  · exact ⟨s.applied, _, rfl, .inl rfl⟩
  · exact ⟨some configuration, _, rfl, .inl rfl⟩
  · exact ⟨some configuration, _, rfl, .inl rfl⟩
  · exact ⟨some configuration, _, rfl, .inl rfl⟩
  · exact ⟨some configuration, _, rfl, .inr rfl⟩

/-- A configuration is applied where no process is left. -/
theorem applyConfiguration_inv (hprocess : s.manager.process = none) (hwatcher : s.manager.watcherTask = none)
    (halive : s.alive = []) (hstop : s.stopPhase = .notCalled) (hcancel : s.cancelPending = false)
    (configuration : DeviceConfiguration) (faults : ApplyFaults) :
    BridgeInv (s.applyConfiguration configuration faults) := by
  obtain ⟨applied, poll, heq, hpoll⟩ := applyConfiguration_cases s configuration faults
  rw [heq]
  refine ⟨fun w hw => ?_, fun pid hpid => ?_, .inl halive, fun _ _ => hprocess, fun c point hp => ?_,
    fun point hp => ?_, .inl hstop, fun hclosed => ?_, .inl ⟨hstop, hcancel⟩⟩
  · exact absurd (hwatcher.symm.trans hw) nofun
  · exact absurd (hprocess.symm.trans hpid) nofun
  · rcases hpoll with rfl | rfl <;> cases hp
  · exact absurd (hstop.symm.trans hp) nofun
  · rcases hclosed with hclosed | hclosed <;> exact absurd (hstop.symm.trans hclosed) nofun

/-- `_apply_async` goes on behind `process_manager.stop()`. -/
theorem continueApply_inv (hstop : s.stopPhase = .notCalled) (hcancel : s.cancelPending = false)
    {result : ProcessManager × Option StopPoint} (hresult : StopsWell s.alive result)
    (hrunning : s.bridgeRunning = true) (configuration : DeviceConfiguration) (faults : ApplyFaults) :
    BridgeInv (s.continueApply configuration faults result) := by
  obtain ⟨m, point⟩ := result
  cases point with
  | none =>
    obtain ⟨hprocess, hwatcher, halive⟩ := hresult
    exact applyConfiguration_inv (s := { s with manager := m, bridgeRunning := false }) hprocess hwatcher halive
      hstop hcancel configuration faults
  | some point =>
    obtain ⟨hwatcher, htracked, hstopping⟩ := hresult
    refine ⟨hwatcher, fun _ _ => hrunning, ?_, nofun, ?_, fun p hp => ?_, .inl hstop, fun hclosed => ?_,
      .inl ⟨hstop, hcancel⟩⟩
    · exact htracked.or_spawning _
    · rintro _ _ ⟨⟩
      exact hstopping
    · exact absurd (hstop.symm.trans hp) nofun
    · rcases hclosed with hclosed | hclosed <;> exact absurd (hstop.symm.trans hclosed) nofun

/-- A poll task that is not cancelled runs before `stop` is called. -/
theorem BridgeInv.notCalled (h : BridgeInv s) (hcancel : s.cancelPending = false) (hpoll : s.poll ≠ .ended) :
    s.stopPhase = .notCalled := by
  rcases h.cancel with ⟨hstop, -⟩ | hended | ⟨hpending, -⟩
  · exact hstop
  · exact absurd hended hpoll
  · exact absurd (hcancel.symm.trans hpending) nofun

/-- Where the task spawns nothing every child is the tracked process. -/
theorem BridgeInv.tracked (h : BridgeInv s) (hpoll : ∀ child, s.poll ≠ .spawning child) :
    Tracked s.manager s.alive := by
  refine h.alive.imp_right ?_
  rintro ⟨pid, halive, hprocess | hspawning⟩
  · exact ⟨pid, halive, hprocess⟩
  · exact absurd hspawning (hpoll _)

/-- Where the task spawns, the only child can be the one it has forked. -/
theorem BridgeInv.alive_spawning (h : BridgeInv s) {child : Option ℕ} (hpoll : s.poll = .spawning child) :
    s.alive = [] ∨ ∃ pid, s.alive = [pid] ∧ child = some pid := by
  refine h.alive.imp_right ?_
  rintro ⟨pid, halive, hprocess | hspawning⟩
  · exact absurd ((h.spawning child hpoll).symm.trans hprocess) nofun
  · rw [hpoll, PollPhase.spawning.injEq] at hspawning
    exact ⟨pid, halive, hspawning⟩

/-- The forked child is reaped. -/
theorem BridgeInv.filter_spawning (h : BridgeInv s) {child : Option ℕ} (hpoll : s.poll = .spawning child) :
    (s.alive.filter fun pid => some pid ≠ child) = [] := by
  rcases h.alive_spawning hpoll with halive | ⟨pid, halive, hchild⟩
  · rw [halive]
    rfl
  · rw [halive, hchild]
    simp

/-- The task goes to sleep or starts to fetch. -/
theorem BridgeInv.rests (h : BridgeInv s) (hstop : s.stopPhase = .notCalled) (hcancel : s.cancelPending = false)
    (htracked : Tracked s.manager s.alive) {poll : PollPhase} (hpoll : poll = .sleeping ∨ poll = .fetching) :
    BridgeInv { s with poll } := by
  have hphase : (∀ child, poll ≠ .spawning child) ∧ ∀ c point, poll ≠ .stoppingBridge c point := by
    rcases hpoll with rfl | rfl <;> exact ⟨nofun, nofun⟩
  exact ⟨h.watcher, h.running, htracked.or_spawning _,
    fun child hp => absurd hp (hphase.1 child), fun c point hp => absurd hp (hphase.2 c point), h.stopStops,
    .inl hstop, h.closed, .inl ⟨hstop, hcancel⟩⟩

theorem applyAsync_inv (h : BridgeInv s) (hstop : s.stopPhase = .notCalled) (hcancel : s.cancelPending = false)
    (htracked : Tracked s.manager s.alive) (configuration : DeviceConfiguration) (faults : ApplyFaults) :
    BridgeInv (s.applyAsync configuration faults) := by
  unfold SupervisionState.applyAsync
  split_ifs with hrunning
  · exact continueApply_inv hstop hcancel (beginStop_stopsWell h.watcher htracked) hrunning configuration faults
  · have hprocess : s.manager.process = none :=
      Option.eq_none_iff_forall_ne_some.mpr fun pid hpid => hrunning (h.running pid hpid)
    have hwatcher : s.manager.watcherTask = none :=
      Option.eq_none_iff_forall_ne_some.mpr fun w hw => nomatch hprocess.symm.trans (h.watcher w hw)
    have halive : s.alive = [] := by
      rcases htracked with hnil | ⟨pid, -, hpid⟩
      · exact hnil
      · exact absurd (hprocess.symm.trans hpid) nofun
    exact applyConfiguration_inv hprocess hwatcher halive hstop hcancel configuration faults

theorem pollStep_inv {a : SupervisionAction} (h : BridgeInv s) (hcancel : s.cancelPending = false)
    (hs : s.pollStep a = some s') : BridgeInv s' := by
  cases a with
  | pollWakes operational =>
    simp only [SupervisionState.pollStep] at hs
    split at hs
    · rename_i hphase
      cases hs
      have hnot : s.poll ≠ .ended ∧ ∀ child, s.poll ≠ .spawning child := by
        rcases hphase with hphase | hphase <;> simp [hphase]
      refine h.rests (h.notCalled hcancel hnot.1) hcancel (h.tracked hnot.2) ?_
      cases operational
      · exact .inl rfl
      · exact .inr rfl
    · cases hs
  | fetched result saveFails faults =>
    simp only [SupervisionState.pollStep] at hs
    split_ifs at hs with hphase
    have hstop : s.stopPhase = .notCalled := h.notCalled hcancel (by simp [hphase])
    have htracked : Tracked s.manager s.alive := h.tracked (by simp [hphase])
    split at hs
    · cases hs
      exact h.rests hstop hcancel htracked (.inl rfl)
    · split_ifs at hs
      · cases hs
        exact h.rests hstop hcancel htracked (.inl rfl)
      · cases hs
        exact applyAsync_inv h hstop hcancel htracked _ faults
  | pollResumes faults =>
    simp only [SupervisionState.pollStep] at hs
    split at hs
    · rename_i configuration point hphase
      have hstop : s.stopPhase = .notCalled := h.notCalled hcancel (by simp [hphase])
      have hstopping := h.pollStops _ _ hphase
      obtain ⟨result, hresult, rfl⟩ := Option.map_eq_some_iff.mp hs
      exact continueApply_inv hstop hcancel
        (resumeStop_stopsWell h.watcher (h.tracked (by simp [hphase])) hstopping hresult)
        (h.running _ hstopping.process) configuration faults
    · cases hs
  | pollTimesOut =>
    simp only [SupervisionState.pollStep] at hs
    split at hs
    · rename_i configuration pid hphase
      cases hs
      have hstop : s.stopPhase = .notCalled := h.notCalled hcancel (by simp [hphase])
      obtain ⟨hprocess, hflag, -⟩ := h.pollStops _ _ hphase
      have htracked : Tracked s.manager s.alive := h.tracked (by simp [hphase])
      refine ⟨h.watcher, h.running, htracked.or_spawning _, by simp, ?_,
        h.stopStops, .inl hstop, h.closed, .inl ⟨hstop, hcancel⟩⟩
      rintro _ _ ⟨⟩
      exact ⟨hprocess, hflag, by simp [StopPoint.isWatcher]⟩
    · cases hs
  | forks pid =>
    simp only [SupervisionState.pollStep] at hs
    split_ifs at hs with hphase
    cases hs
    have hstop : s.stopPhase = .notCalled := h.notCalled hcancel (by simp [hphase.1])
    have halive : s.alive = [] := by
      rcases h.alive_spawning hphase.1 with hnil | ⟨_, -, hchild⟩
      · exact hnil
      · cases hchild
    refine ⟨h.watcher, h.running, .inr ⟨pid, by rw [halive], .inr rfl⟩, fun _ _ => h.spawning _ hphase.1, by simp,
      fun point hp => ?_, .inl hstop, fun hclosed => ?_, .inl ⟨hstop, hcancel⟩⟩
    · simp [hstop] at hp
    · simp [hstop] at hclosed
  | spawnReturns =>
    simp only [SupervisionState.pollStep] at hs
    split at hs
    · rename_i pid hphase
      cases hs
      have hstop : s.stopPhase = .notCalled := h.notCalled hcancel (by simp [hphase])
      refine ⟨?_, fun _ _ => rfl, ?_, by simp, by simp, fun point hp => ?_, .inl hstop, fun hclosed => ?_,
        .inl ⟨hstop, hcancel⟩⟩
      · rintro _ ⟨⟩
        rfl
      · refine (h.alive_spawning hphase).imp_right ?_
        rintro ⟨child, halive, ⟨⟩⟩
        exact ⟨pid, halive, .inl rfl⟩
      · simp [hstop] at hp
      · simp [hstop] at hclosed
    · cases hs
  | spawnFails =>
    simp only [SupervisionState.pollStep] at hs
    split at hs
    · rename_i child hphase
      cases hs
      have hstop : s.stopPhase = .notCalled := h.notCalled hcancel (by simp [hphase])
      exact ⟨h.watcher, h.running, .inl (h.filter_spawning hphase), by simp, by simp,
        fun point hp => by simp [hstop] at hp, .inl hstop,
        fun hclosed => ⟨(h.closed hclosed).1, h.filter_spawning hphase⟩, .inl ⟨hstop, hcancel⟩⟩
    · cases hs
  | _ => cases hs

/-- A cancelled poll task that does not await the watcher ends. -/
theorem cancelStep_eq_some (faults : ApplyFaults) (hpoll : s.poll ≠ .ended)
    (hwatcher : s.poll.awaitsWatcher = false) :
    ∃ alive, s.cancelStep faults = some { s with cancelPending := false, poll := .ended, alive } ∧
      (alive = s.alive ∧ (∀ child, s.poll ≠ .spawning child) ∨
        ∃ child, s.poll = .spawning child ∧ alive = s.alive.filter fun pid => some pid ≠ child) := by
  unfold SupervisionState.cancelStep
  cases hphase : s.poll with
  | ended => exact absurd hphase hpoll
  | stoppingBridge configuration point =>
    rw [hphase] at hwatcher
    have hpoint : point.isWatcher = false := hwatcher
    simp only [hpoint, Bool.false_eq_true, if_false]
    exact ⟨s.alive, rfl, .inl ⟨rfl, nofun⟩⟩
  | spawning child => exact ⟨_, rfl, .inr ⟨child, rfl, rfl⟩⟩
  | created => exact ⟨s.alive, rfl, .inl ⟨rfl, nofun⟩⟩
  | fetching => exact ⟨s.alive, rfl, .inl ⟨rfl, nofun⟩⟩
  | sleeping => exact ⟨s.alive, rfl, .inl ⟨rfl, nofun⟩⟩

theorem cancelStep_inv {faults : ApplyFaults} (h : BridgeInv s) (hpending : s.cancelPending = true)
    (hs : s.cancelStep faults = some s') : BridgeInv s' := by
  have hpoll : s.poll ≠ .ended := by
    intro hended
    simp [SupervisionState.cancelStep, hended] at hs
  have hwatcher : s.poll.awaitsWatcher = false := by
    rcases h.cancel with ⟨-, hcancel⟩ | hended | ⟨-, hwatcher⟩
    · exact absurd (hpending.symm.trans hcancel) nofun
    · exact absurd hended hpoll
    · exact hwatcher
  obtain ⟨alive, heq, halive⟩ := cancelStep_eq_some faults hpoll hwatcher
  rw [hs, Option.some.injEq] at heq
  subst heq
  have hstop : s.stopPhase = .notCalled ∨ s.stopPhase = .awaitingTask := by
    rcases h.ended with hstop | hstop | hended
    · exact .inl hstop
    · exact .inr hstop
    · exact absurd hended hpoll
  refine ⟨h.watcher, h.running, ?_, nofun, nofun, fun point hp => ?_, .inr (.inr rfl), fun hclosed => ?_,
    .inr (.inl rfl)⟩
  · rcases halive with ⟨rfl, hspawning⟩ | ⟨child, hphase, rfl⟩
    · exact (h.tracked hspawning).or_spawning _
    · exact .inl (h.filter_spawning hphase)
  · rcases hstop with hstop | hstop <;> exact absurd (hstop.symm.trans hp) nofun
  · rcases hstop with hstop | hstop <;> rcases hclosed with hclosed | hclosed <;>
      exact absurd (hstop.symm.trans hclosed) nofun

theorem watcherStep_inv {cancelled : Bool} (h : BridgeInv s) (hs : s.watcherStep cancelled = some s') :
    BridgeInv s' := by
  cases hw : s.manager.watcherTask with
  | none => simp [SupervisionState.watcherStep, hw] at hs
  | some w =>
    have hprocess := h.watcher w hw
    -- the watcher is done: the process and the flag stay
    have hdone : BridgeInv
        { s with manager := { s.manager with watcherTask := some { w with state := .done } } } := by
      refine ⟨?_, h.running, h.alive, h.spawning, fun c point hp => ?_, fun point hp => ?_, h.ended, h.closed,
        h.cancel⟩
      · rintro _ ⟨⟩
        exact hprocess
      · obtain ⟨hp', hflag, hexited⟩ := h.pollStops c point hp
        exact ⟨hp', hflag, hexited⟩
      · obtain ⟨hp', hflag, hexited⟩ := h.stopStops point hp
        exact ⟨hp', hflag, hexited⟩
    simp only [SupervisionState.watcherStep, hw] at hs
    split_ifs at hs with hcancelled hstate hexit hflag
    · cases hs
      exact hdone
    · cases hs
      exact hdone
    · -- nobody is stopping the process, so the watcher clears the fields
      cases hs
      have halive : s.alive = [] := by
        rcases h.alive with hnil | ⟨pid, halive, hpid | hspawning⟩
        · exact hnil
        · exact Tracked.eq_nil (.inr ⟨pid, halive, hpid⟩) hprocess hexit.2
        · exact absurd ((h.spawning _ hspawning).symm.trans hprocess) nofun
      have hnone : s.manager.cleanup.process = none := rfl
      refine ⟨nofun, nofun, .inl halive, fun _ _ => hnone, fun c point hp => ?_, fun point hp => ?_, h.ended,
        fun _ => ⟨hnone, halive⟩, h.cancel⟩
      · exact absurd (h.pollStops c point hp).stopping hflag
      · exact absurd (h.stopStops point hp).stopping hflag

/-- The caller of `stop` goes on behind `process_manager.stop()`. -/
theorem continueStop_inv (hended : s.poll = .ended) (hrunning : s.bridgeRunning = true)
    {result : ProcessManager × Option StopPoint} (hresult : StopsWell s.alive result) :
    BridgeInv (s.continueStop result) := by
  obtain ⟨m, point⟩ := result
  have hpoll : ∀ c point, s.poll ≠ .stoppingBridge c point := hended ▸ nofun
  have hspawning : ∀ child, s.poll ≠ .spawning child := hended ▸ nofun
  cases point with
  | none =>
    obtain ⟨hprocess, hwatcher, halive⟩ := hresult
    exact ⟨fun w hw => absurd (hwatcher.symm.trans hw) nofun, fun pid hp => absurd (hprocess.symm.trans hp) nofun,
      .inl halive, fun _ _ => hprocess, fun c point hp => absurd hp (hpoll c point), nofun, .inr (.inr hended),
      fun _ => ⟨hprocess, halive⟩, .inr (.inl hended)⟩
  | some point =>
    obtain ⟨hwatcher, htracked, hstopping⟩ := hresult
    refine ⟨hwatcher, fun _ _ => hrunning, ?_, fun child hp => absurd hp (hspawning child),
      fun c point hp => absurd hp (hpoll c point), ?_, .inr (.inr hended), nofun, .inr (.inl hended)⟩
    · exact htracked.or_spawning _
    · rintro _ ⟨⟩
      exact hstopping

theorem stopStep_inv (h : BridgeInv s) (hs : s.stopStep = some s') : BridgeInv s' := by
  unfold SupervisionState.stopStep at hs
  cases hphase : s.stopPhase with
  | notCalled => simp [hphase] at hs
  | returned => simp [hphase] at hs
  | awaitingTask =>
    simp only [hphase] at hs
    split_ifs at hs with hended hrunning
    · cases hs
      exact continueStop_inv hended hrunning (beginStop_stopsWell h.watcher (h.tracked (hended ▸ nofun)))
    · cases hs
      have hprocess : s.manager.process = none :=
        Option.eq_none_iff_forall_ne_some.mpr fun pid hpid => hrunning (h.running pid hpid)
      have halive : s.alive = [] := by
        rcases h.tracked (hended ▸ nofun) with hnil | ⟨pid, -, hpid⟩
        · exact hnil
        · exact absurd (hprocess.symm.trans hpid) nofun
      exact ⟨h.watcher, h.running, .inl halive, h.spawning, h.pollStops, nofun, .inr (.inr hended),
        fun _ => ⟨hprocess, halive⟩, .inr (.inl hended)⟩
  | stoppingBridge point =>
    simp only [hphase] at hs
    obtain ⟨result, hresult, rfl⟩ := Option.map_eq_some_iff.mp hs
    have hended : s.poll = .ended := by
      rcases h.ended with hstop | hstop | hended
      · exact absurd (hphase.symm.trans hstop) nofun
      · exact absurd (hphase.symm.trans hstop) nofun
      · exact hended
    have hstopping := h.stopStops _ hphase
    exact continueStop_inv hended (h.running _ hstopping.process)
      (resumeStop_stopsWell h.watcher (h.tracked (hended ▸ nofun)) hstopping hresult)
  | closingClient =>
    simp only [hphase, Option.some.injEq] at hs
    subst hs
    have hended : s.poll = .ended := by
      rcases h.ended with hstop | hstop | hended
      · exact absurd (hphase.symm.trans hstop) nofun
      · exact absurd (hphase.symm.trans hstop) nofun
      · exact hended
    exact ⟨h.watcher, h.running, h.alive, h.spawning, h.pollStops, nofun, .inr (.inr hended),
      fun _ => h.closed (.inl hphase), .inr (.inl hended)⟩

/-- A child that exits is gone, and nothing else changes. -/
theorem childExits_inv {pid : ℕ} (h : BridgeInv s) (hpid : pid ∈ s.alive) :
    BridgeInv { s with alive := s.alive.erase pid } := by
  have halive : s.alive.erase pid = [] := by
    rcases h.alive with hnil | ⟨other, halive, -⟩
    · exact absurd (hnil ▸ hpid) List.not_mem_nil
    · rw [halive, List.mem_singleton] at hpid
      rw [halive, hpid]
      simp
  exact ⟨h.watcher, h.running, .inl halive, h.spawning,
    fun c point hp => ⟨(h.pollStops c point hp).process, (h.pollStops c point hp).stopping, fun _ => halive⟩,
    fun point hp => ⟨(h.stopStops point hp).process, (h.stopStops point hp).stopping, fun _ => halive⟩,
    h.ended, fun hclosed => ⟨(h.closed hclosed).1, halive⟩, h.cancel⟩

/-- The step lemma. -/
theorem BridgeInv.step {a : SupervisionAction} (h : BridgeInv s) (hguard : OffTheWatcher s a)
    (hs : supervisionStep s a = some s') : BridgeInv s' := by
  have hpoll : (if s.cancelPending then none else s.pollStep a) = some s' → BridgeInv s' := by
    intro hs
    split_ifs at hs with hcancel
    exact pollStep_inv h (Bool.eq_false_iff.mpr hcancel) hs
  cases a with
  | childExits pid =>
    simp only [supervisionStep] at hs
    split_ifs at hs with hpid
    cases hs
    exact childExits_inv h hpid
  | watcherReturns => exact watcherStep_inv h hs
  | watcherCancelled => exact watcherStep_inv h hs
  | stop =>
    simp only [supervisionStep] at hs
    split_ifs at hs with hstop
    cases hs
    refine ⟨h.watcher, h.running, h.alive, h.spawning, h.pollStops, nofun, .inr (.inl rfl), ?_,
      .inr (.inr ⟨rfl, hguard⟩)⟩
    rintro (⟨⟨⟩⟩ | ⟨⟨⟩⟩)
  | pollCancelled faults =>
    simp only [supervisionStep] at hs
    split_ifs at hs with hpending
    exact cancelStep_inv h hpending hs
  | stopResumes => exact stopStep_inv h hs
  | stopTimesOut =>
    simp only [supervisionStep] at hs
    split at hs
    · rename_i pid hphase
      cases hs
      obtain ⟨hprocess, hflag, -⟩ := h.stopStops _ hphase
      have hended : s.poll = .ended := by
        rcases h.ended with hstop | hstop | hended
        · exact absurd (hphase.symm.trans hstop) nofun
        · exact absurd (hphase.symm.trans hstop) nofun
        · exact hended
      refine ⟨h.watcher, h.running, h.alive, h.spawning, h.pollStops, ?_, .inr (.inr hended), ?_,
        .inr (.inl hended)⟩
      · rintro _ ⟨⟩
        exact ⟨hprocess, hflag, nofun⟩
      · rintro (⟨⟨⟩⟩ | ⟨⟨⟩⟩)
    · cases hs
  | pollWakes operational => exact hpoll hs
  | fetched result saveFails faults => exact hpoll hs
  | pollResumes faults => exact hpoll hs
  | pollTimesOut => exact hpoll hs
  | forks pid => exact hpoll hs
  | spawnReturns => exact hpoll hs
  | spawnFails => exact hpoll hs

/-- The run lemma. -/
theorem bridgeInv_of_reachable (h : supervision.ReachableUnder OffTheWatcher s) : BridgeInv s := by
  refine h.invariant_of_guard ?_ fun s a s' hinv hguard hs => hinv.step hguard hs
  rintro s (⟨applied, rfl⟩ | ⟨configuration, pid, rfl⟩)
  · exact ⟨nofun, nofun, .inl rfl, nofun, nofun, nofun, .inl rfl, fun _ => ⟨rfl, rfl⟩, .inl ⟨rfl, rfl⟩⟩
  · refine ⟨?_, fun _ _ => rfl, .inr ⟨pid, rfl, .inl rfl⟩, nofun, nofun, nofun, .inl rfl, ?_, .inl ⟨rfl, rfl⟩⟩
    · rintro _ ⟨⟩
      rfl
    · rintro (⟨⟨⟩⟩ | ⟨⟨⟩⟩)

/-- The watcher does not move the poll task. -/
theorem watcherStep_poll {cancelled : Bool} (hs : s.watcherStep cancelled = some s') : s'.poll = s.poll := by
  unfold SupervisionState.watcherStep at hs
  split at hs
  · split_ifs at hs <;>
    · cases hs
      rfl
  · cases hs

/-- The caller of `stop` does not move the poll task. -/
theorem stopStep_poll (hs : s.stopStep = some s') : s'.poll = s.poll := by
  have hcontinue : ∀ result, (s.continueStop result).poll = s.poll := by
    rintro ⟨m, point⟩
    cases point <;> rfl
  unfold SupervisionState.stopStep at hs
  split at hs
  · split_ifs at hs
    · cases hs
      exact hcontinue _
    · cases hs
      rfl
  · obtain ⟨result, -, rfl⟩ := Option.map_eq_some_iff.mp hs
    exact hcontinue result
  · cases hs
    rfl
  · cases hs
  · cases hs

/-- Behind `stop` the poll task ends. -/
theorem BridgeInv.pollEnds (h : BridgeInv s) (hstop : s.stopPhase ≠ .notCalled) : PollEnds s := by
  by_cases hended : s.poll = .ended
  · exact .inl hended
  have hpending : s.cancelPending = true ∧ s.poll.awaitsWatcher = false := by
    rcases h.cancel with ⟨hnot, -⟩ | hpoll | hpending
    · exact absurd hnot hstop
    · exact absurd hpoll hended
    · exact hpending
  have hcancelled : ∀ faults, ∃ s', supervisionStep s (.pollCancelled faults) = some s' ∧ s'.poll = .ended := by
    intro faults
    obtain ⟨alive, heq, -⟩ := cancelStep_eq_some faults hended hpending.2
    refine ⟨{ s with cancelPending := false, poll := .ended, alive }, ?_, rfl⟩
    simp only [supervisionStep, hpending.1, if_true]
    exact heq
  refine .inr ⟨hcancelled, fun a s' hs => ?_⟩
  cases a with
  | pollCancelled faults =>
    obtain ⟨t, ht, hpoll⟩ := hcancelled faults
    rw [ht, Option.some.injEq] at hs
    exact .inr (hs ▸ hpoll)
  | childExits pid =>
    simp only [supervisionStep] at hs
    split_ifs at hs
    cases hs
    exact .inl rfl
  | watcherReturns => exact .inl (watcherStep_poll hs)
  | watcherCancelled => exact .inl (watcherStep_poll hs)
  | stop =>
    simp only [supervisionStep] at hs
    split_ifs at hs
    cases hs
    exact .inl rfl
  | stopResumes => exact .inl (stopStep_poll hs)
  | stopTimesOut =>
    simp only [supervisionStep] at hs
    split at hs
    · cases hs
      exact .inl rfl
    · cases hs
  | _ => simp [supervisionStep, hpending.1] at hs

end Steps

/-- **In every run in which `stop` does not fall on the await of the watcher, at most one Bridge is alive,
the poll task ends behind `stop`, and no Bridge is alive where `stop` has returned.** -/
theorem single_bridge (s : SupervisionState) (h : supervision.ReachableUnder OffTheWatcher s) :
    SingleBridge s := by
  have hinv := bridgeInv_of_reachable h
  refine ⟨?_, hinv.pollEnds, fun hreturned => (hinv.closed (.inr hreturned)).2⟩
  rcases hinv.alive with halive | ⟨pid, halive, -⟩
  · rw [halive]
    exact Nat.zero_le 1
  · rw [halive]
    rfl

/-- A camera. -/
def oneCamera : DeviceCameraConfig := ⟨1, 0, true⟩

/-- A configuration with one camera. -/
def versionOf (configurationVersion : String) : DeviceConfiguration := ⟨configurationVersion, [oneCamera]⟩

/-- Nothing fails. -/
def noFaults : ApplyFaults := ⟨false, false⟩

/-- A restart of the Bridge, and `stop` while the new one runs: the poll task ends and the Bridge with it. -/
theorem single_bridge_restarted :
    ∃ s, supervision.Reachable s ∧ s.stopPhase = .returned ∧ s.poll = .ended ∧ SingleBridge s := by
  let actions : List SupervisionAction := [.pollWakes true, .fetched (some (versionOf "2")) false noFaults,
    .pollTimesOut, .childExits 7, .pollResumes noFaults, .watcherCancelled, .pollResumes noFaults, .forks 8,
    .spawnReturns, .stop, .pollCancelled noFaults, .stopResumes, .childExits 8, .watcherReturns, .stopResumes,
    .stopResumes]
  have hend : (supervision.exec (.fromCache (versionOf "1") 7) actions).map (fun s => (s.stopPhase, s.poll)) =
      some (.returned, .ended) := by decide +kernel
  obtain ⟨s, hrun, hpair⟩ := Option.map_eq_some_iff.mp hend
  obtain ⟨hreturned, hended⟩ := Prod.mk.inj hpair
  have hmeets : supervision.Meets OffTheWatcher (.fromCache (versionOf "1") 7) actions := by decide +kernel
  have hinit : supervision.init (.fromCache (versionOf "1") 7) := .inr ⟨versionOf "1", 7, rfl⟩
  have hreach := (TransitionSystem.ReachableUnder.init hinit).exec hmeets hrun
  exact ⟨s, hreach.reachable, hreturned, hended, single_bridge s hreach⟩

/-- The Bridge exits while a new configuration arrives, and `stop` falls on the await of its watcher: the
cancellation is gone, the poll task has started another Bridge and sleeps. -/
theorem cancelled_at_watcher_goes_on :
    ∃ s, supervision.Reachable s ∧ s.stopPhase = .awaitingTask ∧ s.alive = [8] ∧ ¬ PollEnds s := by
  let actions : List SupervisionAction := [.pollWakes true, .childExits 7,
    .fetched (some (versionOf "2")) false noFaults, .stop, .pollCancelled noFaults, .forks 8, .spawnReturns]
  have hend : (supervision.exec (.fromCache (versionOf "1") 7) actions).map
      (fun s => (s.stopPhase, s.alive, s.poll, s.cancelPending)) =
      some (.awaitingTask, [8], .sleeping, false) := by decide +kernel
  obtain ⟨s, hrun, hpair⟩ := Option.map_eq_some_iff.mp hend
  simp only [Prod.mk.injEq] at hpair
  obtain ⟨hphase, halive, hpoll, hcancel⟩ := hpair
  refine ⟨s, .exec (.init (.inr ⟨versionOf "1", 7, rfl⟩)) hrun, hphase, halive, ?_⟩
  rintro (hended | ⟨hcancelled, -⟩)
  · exact absurd (hpoll.symm.trans hended) nofun
  · obtain ⟨s', hs', -⟩ := hcancelled noFaults
    simp [supervisionStep, hcancel] at hs'

end WeaponDetection.Agent.DeepStream
