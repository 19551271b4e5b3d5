import WeaponDetection.Agent.Configuration.Coordinator
import WeaponDetection.Agent.Detection.CooldownLaw
import WeaponDetection.Foundations.TransitionSystem

/-!
# Which camera a detection is attributed to

The coordinator together with the path a message takes: the Bridge writes it to a connection, the
connection's task reads it and puts it into the bounded queue, the consumer task processes it.  The
`source_id` is resolved only there, under the mapping in force at that moment, so a message that is
still buffered or queued when the next configuration is installed is resolved under a mapping of
another Bridge.  The coordinator's own race safety (`Coordinator.Consistent`) speaks about the live
process only.

Attribution is right as long as no configuration is installed over a message in flight whose source
it maps to another camera (`InstallsCleanly`).
-/

namespace WeaponDetection.Agent.Configuration

open WeaponDetection.Foundations
open WeaponDetection.Foundations.Python
open WeaponDetection.Agent.Persistence
open WeaponDetection.Agent.Detection

/-! ## Messages in flight -/

/-- A wire frame: a parsed detection message, or a snapshot, which shares the queue. -/
inductive Frame where
  | detection (payload : PyDict)
  | snapshot

/-- The source `_process` resolves the camera of a frame from. -/
def Frame.sourceId? : Frame → Option ℤ
  | .detection payload =>
    match (normalizedPayload payload).get? "source_id" with
    | some (.int sourceId) => some sourceId
    | _ => none
  | .snapshot => none

/-- A frame with the Bridge that sent it. -/
structure InFlight where
  bridge : Bridge
  frame : Frame

/-- A connection of a Bridge with what the Agent has not read from it: the kernel's socket buffer and
the stream reader's, in order.  It outlives the process that wrote it. -/
structure Connection where
  bridge : Bridge
  buffered : List Frame

/-- A persisted detection with the Bridge whose message it came from. -/
structure Attribution where
  bridge : Bridge
  event : DetectionEvent
  createdAtUtc : Instant

/-- The row an attribution left in the database. -/
def Attribution.row (a : Attribution) : OutboxRow := newRow a.event a.createdAtUtc

/-- The coordinator, the ingest handler and what is between the Bridge and the database. -/
structure AgentState where
  coordinator : Coordinator
  connections : List Connection
  queue : List InFlight
  droppedCount : ℕ
  handler : HandlerState
  persisted : List Attribution

/-- The messages that have been sent and not been processed. -/
def AgentState.inFlight (s : AgentState) : List InFlight :=
  s.connections.flatMap (fun c => c.buffered.map fun frame => ⟨c.bridge, frame⟩) ++ s.queue

theorem AgentState.mem_inFlight {s : AgentState} {m : InFlight} :
    m ∈ s.inFlight ↔
      (∃ c ∈ s.connections, c.bridge = m.bridge ∧ m.frame ∈ c.buffered) ∨ m ∈ s.queue := by
  unfold AgentState.inFlight
  rw [List.mem_append, List.mem_flatMap]
  apply or_congr_left
  apply exists_congr
  intro c
  apply and_congr_right
  intro _
  rw [List.mem_map]
  constructor
  · rintro ⟨frame, hframe, rfl⟩
    exact ⟨rfl, hframe⟩
  · intro ⟨hbridge, hframe⟩
    exact ⟨m.frame, hframe, by rw [hbridge]⟩

/-! ## The system -/

/-- What can happen next, in any order. -/
inductive AgentAction where
  | coordinator (a : CoordinatorAction)
  /-- The live Bridge opens a connection. -/
  | connect
  /-- The live Bridge writes a frame to one of its connections. -/
  | send (connection : ℕ) (frame : Frame)
  /-- `_handle_connection` reads the next frame of a connection and queues it. -/
  | read (connection : ℕ)
  /-- A connection's task ends: at the end of the stream or at a frame it rejects. -/
  | closeConnection (connection : ℕ)
  /-- `_consume` takes the next item; `x` holds what the processing reads from outside. -/
  | consume (x : Delivery)
  /-- `DetectionIngestHandler.stop`, which discards queue and connections, and `start`. -/
  | restartHandler

/-- `_enqueue`: a full queue drops the newest. -/
def AgentState.enqueue (capacity : ℕ) (s : AgentState) (item : InFlight) : AgentState :=
  if s.queue.length < capacity then { s with queue := s.queue ++ [item] }
  else { s with droppedCount := s.droppedCount + 1 }

/-- The body of `_consume` for one item. -/
def AgentState.processItem (cfg : IngestConfig) (s : AgentState) (item : InFlight) (x : Delivery) :
    AgentState :=
  match item.frame with
  | .snapshot => s
  | .detection payload =>
    -- The mapping is looked up here, not when the message was sent or queued.
    let x := { x with payload, cameraIdResolver := some s.coordinator.tracker.resolveCameraId }
    let result := process cfg s.handler x
    { s with
      handler := result.1
      persisted := match result.2 with
        | .persisted event => s.persisted ++ [⟨item.bridge, event, x.createdAtUtc⟩]
        | _ => s.persisted }

/-- One step of the system. -/
def agentStep (cfg : IngestConfig) (capacity : ℕ) (s : AgentState) : AgentAction → Option AgentState
  | .coordinator a => (s.coordinator.step a).map fun coordinator => { s with coordinator }
  | .connect => s.coordinator.bridge.map fun bridge =>
      { s with connections := s.connections ++ [⟨bridge, []⟩] }
  | .send i frame =>
    match s.connections[i]? with
    | none => none
    | some c =>
      if s.coordinator.bridge = some c.bridge then
        some { s with connections := s.connections.set i { c with buffered := c.buffered ++ [frame] } }
      else none
  | .read i =>
    match s.connections[i]? with
    | some ⟨bridge, frame :: rest⟩ =>
      some (AgentState.enqueue capacity { s with connections := s.connections.set i ⟨bridge, rest⟩ }
        ⟨bridge, frame⟩)
    | _ => none
  | .closeConnection i => some { s with connections := s.connections.eraseIdx i }
  | .consume x =>
    match s.queue with
    | [] => none
    | item :: rest => some (AgentState.processItem cfg { s with queue := rest } item x)
  | .restartHandler => some { s with connections := [], queue := [], droppedCount := 0 }

/-- A freshly started Agent over an existing table. -/
def AgentState.fresh (table : DetectionEventTable) : AgentState :=
  { coordinator := .fresh, connections := [], queue := [], droppedCount := 0
    handler := freshHandler table, persisted := [] }

/-- The Agent as a transition system. -/
def agentSystem (cfg : IngestConfig) (capacity : ℕ) (table : DetectionEventTable) :
    TransitionSystem AgentState AgentAction where
  init := fun s => s = .fresh table
  step := agentStep cfg capacity

/-! ## Attribution -/

/-- A detection carries the camera its source has in the configuration of the Bridge it came from. -/
def Attribution.Right (a : Attribution) : Prop :=
  ∃ cameraId, sourceMapping a.bridge.cameras a.event.sourceId = some cameraId ∧
    a.event.cameraId = uuidText cameraId

/-- Under a mapping a message is attributed to no camera, or to the one its own Bridge means. -/
def InFlight.SafeUnder (m : InFlight) (mapping : ℤ → Option Uuid) : Prop :=
  match m.frame.sourceId? with
  | none => True
  | some sourceId =>
    mapping sourceId = none ∨ mapping sourceId = sourceMapping m.bridge.cameras sourceId

instance (m : InFlight) (mapping : ℤ → Option Uuid) : Decidable (m.SafeUnder mapping) := by
  unfold InFlight.SafeUnder
  split <;> infer_instance

/-- A step that installs a configuration finds no message in flight whose source the configuration
maps to another camera than its own Bridge. -/
def InstallsCleanly (s : AgentState) : AgentAction → Prop
  | .coordinator a =>
    match s.coordinator.installed a with
    | none => True
    | some configuration => ∀ m ∈ s.inFlight, m.SafeUnder (sourceMapping configuration.cameras)
  | _ => True

instance (s : AgentState) (a : AgentAction) : Decidable (InstallsCleanly s a) := by
  unfold InstallsCleanly
  split
  · split <;> infer_instance
  · infer_instance

/-- A persisted detection was resolved under the mapping in force. -/
theorem persisted_camera {cfg : IngestConfig} {st : HandlerState} {x : Delivery}
    {mapping : ℤ → Option Uuid} {payload : PyDict} {event : DetectionEvent}
    (h : (process cfg st { x with payload, cameraIdResolver := some mapping }).2 =
      .persisted event) :
    (Frame.detection payload).sourceId? = some event.sourceId ∧
      ∃ cameraId, mapping event.sourceId = some cameraId ∧ event.cameraId = uuidText cameraId := by
  obtain ⟨-, hnot⟩ | ⟨event', hvalidate, -, hout, -, -⟩ :=
    process_cases cfg st { x with payload, cameraIdResolver := some mapping }
  · exact absurd h (hnot event)
  · rw [h, ProcessOutcome.persisted.injEq] at hout
    subst hout
    simp only [validate] at hvalidate
    cases hcamera : resolveCameraId cfg (some mapping) (normalizedPayload payload) with
    | error e =>
      rw [hcamera] at hvalidate
      contradiction
    | ok cameraText =>
      rw [hcamera] at hvalidate
      have hvalid := validateDetection_eq_ok hvalidate
      have hsource := hvalid.sourceId
      have hid := hvalid.cameraId
      -- Resolution and validation read the same field of the normalized payload.
      unfold readInt at hsource
      unfold resolveCameraId at hcamera
      split at hsource
      · rename_i sourceId hget
        rw [Except.ok.injEq] at hsource
        subst hsource
        simp only [hget] at hcamera
        cases hmapping : mapping event.sourceId with
        | none => simp [hmapping, reject] at hcamera
        | some cameraId =>
          simp only [hmapping, Except.ok.injEq] at hcamera
          refine ⟨by simp [Frame.sourceId?, hget], cameraId, rfl, ?_⟩
          rw [hid, hcamera]
      · simp [reject] at hsource

/-- What holds of every run that installs cleanly. -/
structure AttributionInv (table : DetectionEventTable) (s : AgentState) : Prop where
  consistent : s.coordinator.Consistent
  safe : ∀ m ∈ s.inFlight, m.SafeUnder s.coordinator.tracker.resolveCameraId
  rows : s.handler.table.rows = table.rows ++ s.persisted.map Attribution.row
  right : ∀ a ∈ s.persisted, a.Right

theorem attributionInv_fresh (table : DetectionEventTable) :
    AttributionInv table (.fresh table) where
  consistent := consistent_fresh
  safe := by simp [AgentState.fresh, AgentState.inFlight]
  rows := by simp [AgentState.fresh, freshHandler]
  right := by simp [AgentState.fresh]

/-- Steps that only move messages, or lose them. -/
theorem AttributionInv.of_inFlight {table : DetectionEventTable} {s s' : AgentState}
    (h : AttributionInv table s) (hcoordinator : s'.coordinator = s.coordinator)
    (hhandler : s'.handler = s.handler) (hpersisted : s'.persisted = s.persisted)
    (hmem : ∀ m ∈ s'.inFlight, m ∈ s.inFlight ∨
      m.SafeUnder s.coordinator.tracker.resolveCameraId) : AttributionInv table s' where
  consistent := hcoordinator ▸ h.consistent
  safe := fun m hm => hcoordinator ▸ (hmem m hm).elim (h.safe m) id
  rows := by rw [hhandler, hpersisted, h.rows]
  right := hpersisted ▸ h.right

/-- The live Bridge's own messages are safe: the mapping in force is the one it was started with. -/
theorem AttributionInv.safe_of_live {table : DetectionEventTable} {s : AgentState}
    (h : AttributionInv table s) {b : Bridge} (hb : s.coordinator.bridge = some b) (frame : Frame) :
    InFlight.SafeUnder ⟨b, frame⟩ s.coordinator.tracker.resolveCameraId := by
  unfold InFlight.SafeUnder
  split
  · trivial
  · right
    rw [h.consistent.mapping (.inl (by simp [hb])), (h.consistent.live b hb).1]

/-- Processing a safe message attributes it rightly. -/
theorem AttributionInv.processItem {table : DetectionEventTable} {s : AgentState}
    (cfg : IngestConfig) (h : AttributionInv table s) {item : InFlight}
    (hsafe : item.SafeUnder s.coordinator.tracker.resolveCameraId) (x : Delivery) :
    AttributionInv table (s.processItem cfg item x) := by
  obtain ⟨bridge, frame⟩ := item
  cases frame with
  | snapshot => exact h
  | detection payload =>
    unfold AgentState.processItem
    simp only
    obtain ⟨hstate, hnot⟩ | ⟨event, -, -, hout, hrows, -⟩ := process_cases cfg s.handler
      { x with payload, cameraIdResolver := some s.coordinator.tracker.resolveCameraId }
    · have hpersisted : ∀ event, (process cfg s.handler
          { x with payload, cameraIdResolver := some s.coordinator.tracker.resolveCameraId }).2 ≠
            .persisted event := hnot
      split
      · rename_i event heq
        exact absurd heq (hpersisted event)
      · exact ⟨h.consistent, h.safe, by rw [hstate]; exact h.rows, h.right⟩
    · obtain ⟨hsource, cameraId, hmapping, hcamera⟩ := persisted_camera hout
      rw [hout]
      refine ⟨h.consistent, h.safe, ?_, ?_⟩
      · rw [hrows, h.rows, List.map_append, List.append_assoc]
        rfl
      · intro a ha
        rcases List.mem_append.mp ha with hold | hnew
        · exact h.right a hold
        · rw [List.mem_singleton] at hnew
          subst hnew
          refine ⟨cameraId, ?_, hcamera⟩
          -- The message resolved, so its own Bridge means the same camera.
          simp only [InFlight.SafeUnder, hsource, hmapping] at hsafe
          rcases hsafe with hnone | hsame
          · contradiction
          · exact hsame.symm

/-- The step lemma. -/
theorem AttributionInv.step {cfg : IngestConfig} {capacity : ℕ} {table : DetectionEventTable}
    {s s' : AgentState} (h : AttributionInv table s) {a : AgentAction} (hclean : InstallsCleanly s a)
    (hs : agentStep cfg capacity s a = some s') : AttributionInv table s' := by
  cases a with
  | coordinator a =>
    obtain ⟨c, hc, rfl⟩ := Option.map_eq_some_iff.mp hs
    refine ⟨h.consistent.step hc, ?_, h.rows, h.right⟩
    rcases Coordinator.tracker_step hc with htracker | ⟨configuration, hinstalled, hmapping⟩
    · rw [htracker]
      exact h.safe
    · -- The mapping changes, under the eyes of the guard.
      rw [hmapping]
      simp only [InstallsCleanly, hinstalled] at hclean
      exact hclean
  | connect =>
    obtain ⟨b, hb, rfl⟩ := Option.map_eq_some_iff.mp hs
    refine h.of_inFlight rfl rfl rfl ?_
    intro m hm
    left
    rw [AgentState.mem_inFlight] at hm ⊢
    simpa using hm
  | send i frame =>
    simp only [agentStep] at hs
    split at hs
    · contradiction
    · rename_i c hget
      split at hs
      · rename_i hlive
        cases hs
        refine h.of_inFlight rfl rfl rfl ?_
        intro m hm
        rw [AgentState.mem_inFlight] at hm ⊢
        rcases hm with ⟨d, hd, hbridge, hframe⟩ | hqueue
        · rcases List.mem_or_eq_of_mem_set hd with hold | rfl
          · exact .inl (.inl ⟨d, hold, hbridge, hframe⟩)
          · rcases List.mem_append.mp hframe with hbuffered | hnew
            · exact .inl (.inl ⟨c, List.mem_of_getElem? hget, hbridge, hbuffered⟩)
            · right
              obtain ⟨bridge, frame'⟩ := m
              obtain rfl : c.bridge = bridge := hbridge
              exact h.safe_of_live hlive frame'
        · exact .inl (.inr hqueue)
      · contradiction
  | read i =>
    simp only [agentStep] at hs
    split at hs
    · rename_i bridge frame rest hget
      cases hs
      have hhead : (⟨bridge, frame⟩ : InFlight) ∈ s.inFlight := AgentState.mem_inFlight.mpr
        (.inl ⟨_, List.mem_of_getElem? hget, rfl, List.mem_cons_self⟩)
      have hrest : ∀ m : InFlight, (∃ d ∈ s.connections.set i ⟨bridge, rest⟩,
          d.bridge = m.bridge ∧ m.frame ∈ d.buffered) → m ∈ s.inFlight := by
        intro m ⟨d, hd, hbridge, hframe⟩
        rw [AgentState.mem_inFlight]
        rcases List.mem_or_eq_of_mem_set hd with hold | rfl
        · exact .inl ⟨d, hold, hbridge, hframe⟩
        · exact .inl ⟨_, List.mem_of_getElem? hget, hbridge, List.mem_cons_of_mem _ hframe⟩
      unfold AgentState.enqueue
      split
      · refine h.of_inFlight rfl rfl rfl ?_
        intro m hm
        left
        rcases AgentState.mem_inFlight.mp hm with hconn | hqueue
        · exact hrest m hconn
        · rcases List.mem_append.mp hqueue with hold | hnew
          · exact AgentState.mem_inFlight.mpr (.inr hold)
          · rw [List.mem_singleton.mp hnew]
            exact hhead
      · refine h.of_inFlight rfl rfl rfl ?_
        intro m hm
        left
        rcases AgentState.mem_inFlight.mp hm with hconn | hqueue
        · exact hrest m hconn
        · exact AgentState.mem_inFlight.mpr (.inr hqueue)
    · contradiction
  | closeConnection i =>
    cases hs
    refine h.of_inFlight rfl rfl rfl ?_
    intro m hm
    left
    rw [AgentState.mem_inFlight] at hm ⊢
    exact hm.imp_left fun ⟨d, hd, hrest⟩ => ⟨d, List.mem_of_mem_eraseIdx hd, hrest⟩
  | consume x =>
    simp only [agentStep] at hs
    split at hs
    · contradiction
    · rename_i item rest hqueue
      cases hs
      have hdequeued : AttributionInv table { s with queue := rest } := by
        refine h.of_inFlight rfl rfl rfl ?_
        intro m hm
        left
        rw [AgentState.mem_inFlight] at hm ⊢
        exact hm.imp_right fun hm => hqueue ▸ List.mem_cons_of_mem _ hm
      apply hdequeued.processItem cfg
      apply h.safe
      exact AgentState.mem_inFlight.mpr (.inr (hqueue ▸ List.mem_cons_self))
  | restartHandler =>
    cases hs
    refine h.of_inFlight rfl rfl rfl ?_
    intro m hm
    simp [AgentState.inFlight] at hm

/-- In every run whose installs find no message in flight that the new configuration maps to another
camera than its own Bridge, every detection the Agent persists carries the camera its source has in
the configuration of the Bridge that sent it. -/
theorem camera_attribution (cfg : IngestConfig) (capacity : ℕ) (table : DetectionEventTable)
    {s : AgentState} (h : (agentSystem cfg capacity table).ReachableUnder InstallsCleanly s) :
    s.handler.table.rows = table.rows ++ s.persisted.map Attribution.row ∧
      ∀ a ∈ s.persisted, a.Right := by
  have hinv : AttributionInv table s := by
    apply h.invariant_of_guard
    · intro s hs
      rw [show s = .fresh table from hs]
      exact attributionInv_fresh table
    · intro s a s' hinv hclean hs
      exact hinv.step hclean hs
  exact ⟨hinv.rows, hinv.right⟩

/-! ## A reconfiguration, in time and too early -/

/-- Camera 1 on source 0. -/
def northConfiguration : DeviceConfiguration := ⟨"v1", [⟨1, 0, true⟩]⟩

/-- Camera 2 on source 0. -/
def southConfiguration : DeviceConfiguration := ⟨"v2", [⟨2, 0, true⟩]⟩

/-- The first Bridge starts and sends one detection of source 0. -/
def firstBridge : List AgentAction :=
  [.coordinator (.start (some northConfiguration) false), .coordinator (.finishStart true),
    .connect, .send 0 (.detection (sampleDelivery 1 0).payload)]

/-- The first Bridge is replaced. -/
def replacement : List AgentAction :=
  [.coordinator (.poll southConfiguration false), .coordinator .bridgeExits,
    .coordinator (.finishStop false), .coordinator (.finishStart true)]

/-- Connection 0 is read and its detection processed. -/
def readAndConsume : List AgentAction := [.read 0, .consume (sampleDelivery 1 0)]

/-- The cameras the persisted detections carry and the ones their Bridges mean. -/
def attributedCameras (s : AgentState) : List (String × Option Uuid) :=
  s.persisted.map fun a => (a.event.cameraId, sourceMapping a.bridge.cameras a.event.sourceId)

theorem camera_attribution_drainedFirst : ∃ s, s.persisted.length = 1 ∧ (∀ a ∈ s.persisted, a.Right) ∧
    (agentSystem sampleConfig 8 .empty).exec (.fresh .empty)
      (firstBridge ++ readAndConsume ++ replacement) = some s := by
  have hrun : (((agentSystem sampleConfig 8 .empty).exec (.fresh .empty)
      (firstBridge ++ readAndConsume ++ replacement)).map fun s => s.persisted.length) = some 1 := by
    decide +kernel
  obtain ⟨s, hs, hlength⟩ := Option.map_eq_some_iff.mp hrun
  have hreach : (agentSystem sampleConfig 8 .empty).ReachableUnder InstallsCleanly s :=
    TransitionSystem.ReachableUnder.exec (.init rfl) (by decide +kernel) hs
  exact ⟨s, hlength, (camera_attribution sampleConfig 8 .empty hreach).2, hs⟩

/-- A detection still in its socket when the mapping changes is stored under the new camera. -/
theorem buffered_detection_misattributed :
    ¬ ∀ (cfg : IngestConfig) (capacity : ℕ) (table : DetectionEventTable) (s : AgentState),
      (agentSystem cfg capacity table).Reachable s → ∀ a ∈ s.persisted, a.Right := by
  intro h
  have hrun : (((agentSystem sampleConfig 8 .empty).exec (.fresh .empty)
      (firstBridge ++ replacement ++ readAndConsume)).map attributedCameras) =
        some [(uuidText 2, some 1)] := by
    decide +kernel
  obtain ⟨s, hs, hcameras⟩ := Option.map_eq_some_iff.mp hrun
  obtain ⟨a, ha, hpair⟩ := List.mem_map.mp
    (show (uuidText 2, some 1) ∈ attributedCameras s by rw [hcameras]; exact List.mem_singleton_self _)
  obtain ⟨htext, hmeans⟩ := Prod.mk.inj hpair
  obtain ⟨cameraId, hcamera, hstored⟩ := h sampleConfig 8 .empty s
    (TransitionSystem.Reachable.exec (.init rfl) hs) a ha
  rw [hmeans, Option.some.injEq] at hcamera
  rw [htext, ← hcamera] at hstored
  exact absurd hstored (by decide +kernel)

end WeaponDetection.Agent.Configuration
