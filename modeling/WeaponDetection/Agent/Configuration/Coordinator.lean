import WeaponDetection.Agent.Detection.Validation

/-!
# The device configuration coordinator

Models `configuration/source_mapping.py` and the apply path of `configuration/coordinator.py`.  One
generation of the source mapping is installed for each applied configuration, always while no Bridge
runs: a restart stops and reaps the old Bridge, writes the runtime configuration, installs the mapping
and only then starts the new Bridge.  Every `await` of this path is a place where the other tasks of
the event loop run, so it is one phase of the coordinator; what lies between two of them is one step.
-/

namespace WeaponDetection.Agent.Configuration

open WeaponDetection.Foundations.Python

/-! ## Configurations and generations -/

/-- `DeviceCameraConfig`, the fields the source mapping is made from. -/
structure DeviceCameraConfig where
  cameraId : Uuid
  sourceOrder : ℤ
  enabled : Bool
  deriving DecidableEq

/-- `DeviceConfiguration`, a fetched configuration that passed validation. -/
structure DeviceConfiguration where
  configurationVersion : String
  cameras : List DeviceCameraConfig
  deriving DecidableEq

/-- The dictionary `install` builds: later cameras overwrite earlier ones of the same order. -/
def sourceMapping (cameras : List DeviceCameraConfig) : ℤ → Option Uuid :=
  cameras.foldl (fun mapping camera =>
    if camera.enabled then Function.update mapping camera.sourceOrder (some camera.cameraId)
    else mapping) fun _ => none

/-- `SourceGeneration`. -/
structure SourceGeneration where
  generation : ℕ
  sourceToCameraId : ℤ → Option Uuid

/-- `SourceGeneration.resolve`. -/
def SourceGeneration.resolve (generation : SourceGeneration) (sourceId : ℤ) : Option Uuid :=
  generation.sourceToCameraId sourceId

/-- `SourceGenerationTracker`. -/
structure SourceGenerationTracker where
  nextGeneration : ℕ
  current : Option SourceGeneration

/-- A fresh tracker. -/
def SourceGenerationTracker.fresh : SourceGenerationTracker := ⟨1, none⟩

/-- `SourceGenerationTracker.install`. -/
def SourceGenerationTracker.install (tracker : SourceGenerationTracker)
    (configuration : DeviceConfiguration) : SourceGenerationTracker :=
  { nextGeneration := tracker.nextGeneration + 1
    current := some ⟨tracker.nextGeneration, sourceMapping configuration.cameras⟩ }

/-- `DeviceConfigurationCoordinator.resolve_camera_id`. -/
def SourceGenerationTracker.resolveCameraId (tracker : SourceGenerationTracker) (sourceId : ℤ) :
    Option Uuid :=
  tracker.current.bind fun generation => generation.resolve sourceId

@[simp] theorem resolveCameraId_install (tracker : SourceGenerationTracker)
    (configuration : DeviceConfiguration) (sourceId : ℤ) :
    (tracker.install configuration).resolveCameraId sourceId =
      sourceMapping configuration.cameras sourceId := rfl

/-! ## The coordinator and its Bridge -/

/-- A running Bridge process with the cameras of the runtime configuration it was started with. -/
structure Bridge where
  generation : ℕ
  cameras : List DeviceCameraConfig
  deriving DecidableEq

/-- Where the coordinator's task waits. -/
inductive Phase where
  /-- Not started, or stopped. -/
  | stopped
  /-- Between two polls. -/
  | idle
  /-- `_apply_async` awaits the exit of the old Bridge. -/
  | stoppingBridge (configuration : DeviceConfiguration)
  /-- `process_manager.start` awaits the new process, in `start` or in the poll loop. -/
  | startingBridge (polling : Bool)
  deriving DecidableEq

/-- The coordinator, the runtime configuration on disk and the Bridge process. -/
structure Coordinator where
  tracker : SourceGenerationTracker
  applied : Option DeviceConfiguration
  bridgeRunning : Bool
  phase : Phase
  /-- The cameras in `deepstream.generated.conf`. -/
  runtimeConfig : List DeviceCameraConfig
  bridge : Option Bridge

/-- A constructed coordinator. -/
def Coordinator.fresh : Coordinator :=
  { tracker := .fresh, applied := none, bridgeRunning := false, phase := .stopped
    runtimeConfig := [], bridge := none }

/-- Where the task is left when an apply raises: the poll loop catches, `start` does not. -/
def restingPhase (polling : Bool) : Phase := if polling then .idle else .stopped

/-- `_apply` and the decision to start a Bridge.  When `generate_runtime_config` raises, nothing is
written or installed. -/
def Coordinator.apply (c : Coordinator) (configuration : DeviceConfiguration)
    (polling generateFails : Bool) : Coordinator :=
  if generateFails then { c with phase := restingPhase polling }
  else
    { c with
      runtimeConfig := configuration.cameras
      tracker := c.tracker.install configuration
      applied := some configuration
      -- A configuration without cameras leaves the Bridge stopped.
      phase := if configuration.cameras ≠ [] then .startingBridge polling else .idle }

/-- The configuration in force has this version. -/
def Coordinator.Unchanged (c : Coordinator) (configuration : DeviceConfiguration) : Prop :=
  c.applied.map DeviceConfiguration.configurationVersion = some configuration.configurationVersion

instance (c : Coordinator) (configuration : DeviceConfiguration) :
    Decidable (c.Unchanged configuration) := inferInstanceAs (Decidable (_ = _))

/-- What happens to the coordinator between two waits. -/
inductive CoordinatorAction where
  /-- `start`, with the valid cached configuration if there is one. -/
  | start (cached : Option DeviceConfiguration) (generateFails : Bool)
  /-- `_poll_once` has fetched and validated a configuration. -/
  | poll (configuration : DeviceConfiguration) (generateFails : Bool)
  /-- The Bridge process ends, of itself or because it was told to. -/
  | bridgeExits
  /-- `process_manager.stop` returns: the old process has been reaped. -/
  | finishStop (generateFails : Bool)
  /-- `process_manager.start` returns or raises. -/
  | finishStart (spawned : Bool)
  /-- `stop`, which cancels the task and stops the Bridge. -/
  | stop

/-- One step of the coordinator. -/
def Coordinator.step (c : Coordinator) : CoordinatorAction → Option Coordinator
  | .start cached generateFails =>
    if c.phase = .stopped then
      match cached with
      | none => some { c with phase := .idle }
      | some configuration => some (c.apply configuration false generateFails)
    else none
  | .poll configuration generateFails =>
    if c.phase = .idle then
      if c.Unchanged configuration then some c
      else if c.bridgeRunning then some { c with phase := .stoppingBridge configuration }
      else some (c.apply configuration true generateFails)
    else none
  | .bridgeExits => if c.bridge.isSome then some { c with bridge := none } else none
  | .finishStop generateFails =>
    match c.phase, c.bridge with
    | .stoppingBridge configuration, none =>
      some ({ c with bridgeRunning := false }.apply configuration true generateFails)
    | _, _ => none
  | .finishStart spawned =>
    match c.phase with
    | .startingBridge polling =>
      if spawned then
        some { c with
          bridge := c.tracker.current.map fun generation =>
            ⟨generation.generation, c.runtimeConfig⟩
          bridgeRunning := true
          phase := .idle }
      else some { c with phase := restingPhase polling }
    | _ => none
  | .stop =>
    if c.phase = .stopped then none
    else some { c with bridge := none, bridgeRunning := false, phase := .stopped }

/-- The configuration a step installs the mapping of, if any. -/
def Coordinator.installed (c : Coordinator) : CoordinatorAction → Option DeviceConfiguration
  | .start cached false => if c.phase = .stopped then cached else none
  | .poll configuration false =>
    if c.phase = .idle ∧ ¬ c.Unchanged configuration ∧ c.bridgeRunning = false then
      some configuration
    else none
  | .finishStop false =>
    match c.phase with
    | .stoppingBridge configuration => some configuration
    | _ => none
  | _ => none

/-! ## One Bridge, one mapping -/

/-- The race safety the coordinator is built for: the mapping in force is the one of the runtime
configuration on disk, and a live Bridge was started with it. -/
structure Coordinator.Consistent (c : Coordinator) : Prop where
  mapping : c.bridge.isSome = true ∨ (∃ polling, c.phase = .startingBridge polling) →
    c.tracker.resolveCameraId = sourceMapping c.runtimeConfig
  live : ∀ b, c.bridge = some b → b.cameras = c.runtimeConfig ∧ c.bridgeRunning = true ∧
    (c.phase = .idle ∨ ∃ configuration, c.phase = .stoppingBridge configuration)

theorem consistent_fresh : Coordinator.fresh.Consistent where
  mapping := by simp [Coordinator.fresh]
  live := by simp [Coordinator.fresh]

/-- No Bridge runs where the coordinator believes none does, or where it waits for none. -/
theorem Coordinator.Consistent.bridge_eq_none {c : Coordinator} (h : c.Consistent)
    (hc : c.bridgeRunning = false ∨ c.phase = .stopped ∨ ∃ p, c.phase = .startingBridge p) :
    c.bridge = none := by
  cases hb : c.bridge with
  | none => rfl
  | some b =>
    obtain ⟨-, hrunning, hphase⟩ := h.live b hb
    rcases hc with hc | hc | ⟨p, hc⟩
    · rw [hc] at hrunning
      contradiction
    · simp [hc] at hphase
    · simp [hc] at hphase

/-- Everything a step can do. -/
inductive Coordinator.StepCase (c : Coordinator) (a : CoordinatorAction) : Coordinator → Prop where
  | keep : StepCase c a c
  | wait (phase : Phase) :
      (c.phase = .stopped ∧ phase = .idle) ∨
        (c.phase = .idle ∧ ∃ configuration, phase = .stoppingBridge configuration) ∨
        (∃ polling, c.phase = .startingBridge polling ∧ phase = restingPhase polling) →
      StepCase c a { c with phase := phase }
  | apply (running : Bool) (configuration : DeviceConfiguration) (polling generateFails : Bool) :
      c.bridgeRunning = false ∨ c.phase = .stopped ∨ c.bridge = none →
      (generateFails = false → c.installed a = some configuration) →
      StepCase c a ({ c with bridgeRunning := running }.apply configuration polling generateFails)
  | spawn (polling : Bool) : c.phase = .startingBridge polling →
      StepCase c a { c with
        bridge := c.tracker.current.map fun generation => ⟨generation.generation, c.runtimeConfig⟩
        bridgeRunning := true
        phase := .idle }
  | exit : StepCase c a { c with bridge := none }
  | halt : StepCase c a { c with bridge := none, bridgeRunning := false, phase := .stopped }

theorem Coordinator.step_case {c c' : Coordinator} {a : CoordinatorAction}
    (hs : c.step a = some c') : c.StepCase a c' := by
  cases a with
  | start cached generateFails =>
    simp only [Coordinator.step] at hs
    split at hs
    · rename_i hphase
      cases cached with
      | none =>
        cases hs
        exact .wait _ (.inl ⟨hphase, rfl⟩)
      | some configuration =>
        cases hs
        apply StepCase.apply c.bridgeRunning configuration false generateFails (.inr (.inl hphase))
        intro h
        simp [Coordinator.installed, h, hphase]
    · contradiction
  | poll configuration generateFails =>
    simp only [Coordinator.step] at hs
    split at hs
    · rename_i hphase
      split at hs
      · cases hs
        exact .keep
      · rename_i hchanged
        split at hs
        · cases hs
          exact .wait _ (.inr (.inl ⟨hphase, _, rfl⟩))
        · rename_i hrunning
          cases hs
          rw [Bool.not_eq_true] at hrunning
          apply StepCase.apply c.bridgeRunning configuration true generateFails (.inl hrunning)
          intro h
          simp [Coordinator.installed, h, hphase, hchanged, hrunning]
    · contradiction
  | bridgeExits =>
    simp only [Coordinator.step] at hs
    split at hs
    · cases hs
      exact .exit
    · contradiction
  | finishStop generateFails =>
    simp only [Coordinator.step] at hs
    split at hs
    · rename_i configuration hphase hb
      cases hs
      apply StepCase.apply false configuration true generateFails (.inr (.inr hb))
      intro h
      simp [Coordinator.installed, h, hphase]
    · contradiction
  | finishStart spawned =>
    simp only [Coordinator.step] at hs
    split at hs
    · rename_i polling hphase
      split at hs
      · cases hs
        exact .spawn polling hphase
      · cases hs
        exact .wait _ (.inr (.inr ⟨polling, hphase, rfl⟩))
    · contradiction
  | stop =>
    simp only [Coordinator.step] at hs
    split at hs
    · contradiction
    · cases hs
      exact .halt

/-- Applying a configuration while no Bridge runs. -/
theorem Coordinator.Consistent.apply {c : Coordinator} (hb : c.bridge = none)
    (configuration : DeviceConfiguration) (polling generateFails : Bool) :
    (c.apply configuration polling generateFails).Consistent := by
  unfold Coordinator.apply
  split
  · -- Nothing was installed, and nothing is about to start either.
    refine ⟨?_, by simp [hb]⟩
    intro h
    cases polling <;> simp [hb, restingPhase] at h
  · exact ⟨fun _ => rfl, by simp [hb]⟩

/-- The step lemma: the mapping is only ever replaced while no Bridge runs. -/
theorem Coordinator.Consistent.step {c c' : Coordinator} (h : c.Consistent)
    {a : CoordinatorAction} (hs : c.step a = some c') : c'.Consistent := by
  cases Coordinator.step_case hs with
  | keep => exact h
  | wait phase hphase =>
    rcases hphase with ⟨hphase, rfl⟩ | ⟨hphase, configuration, rfl⟩ | ⟨polling, hphase, rfl⟩
    · have hb := h.bridge_eq_none (.inr (.inl hphase))
      exact ⟨by simp [hb], by simp [hb]⟩
    · refine ⟨?_, fun b hb => ⟨(h.live b hb).1, (h.live b hb).2.1, .inr ⟨_, rfl⟩⟩⟩
      intro hlive
      apply h.mapping
      exact .inl (by simpa using hlive)
    · have hb := h.bridge_eq_none (.inr (.inr ⟨polling, hphase⟩))
      exact ⟨fun _ => h.mapping (.inr ⟨polling, hphase⟩), by simp [hb]⟩
  | apply running configuration polling generateFails hwhy _ =>
    apply Coordinator.Consistent.apply
    show c.bridge = none
    rcases hwhy with hrunning | hstopped | hb
    · exact h.bridge_eq_none (.inl hrunning)
    · exact h.bridge_eq_none (.inr (.inl hstopped))
    · exact hb
  | spawn polling hphase =>
    refine ⟨fun _ => h.mapping (.inr ⟨polling, hphase⟩), ?_⟩
    intro b hb
    obtain ⟨generation, -, rfl⟩ := Option.map_eq_some_iff.mp hb
    exact ⟨rfl, rfl, .inl rfl⟩
  | exit =>
    refine ⟨?_, by simp⟩
    intro hlive
    exact h.mapping (.inr (by simpa using hlive))
  | halt => exact ⟨by simp, by simp⟩

/-- The mapping in force changes only where a configuration is installed. -/
theorem Coordinator.tracker_step {c c' : Coordinator} {a : CoordinatorAction}
    (hs : c.step a = some c') :
    c'.tracker = c.tracker ∨ ∃ configuration, c.installed a = some configuration ∧
      c'.tracker.resolveCameraId = sourceMapping configuration.cameras := by
  cases Coordinator.step_case hs with
  | apply running configuration polling generateFails _ hinstalled =>
    cases generateFails with
    | true => exact .inl rfl
    | false => exact .inr ⟨configuration, hinstalled rfl, rfl⟩
  | _ => exact .inl rfl

end WeaponDetection.Agent.Configuration
