import WeaponDetection.Foundations.TransitionSystem
import WeaponDetection.Bridge.SnapshotRendezvous
import Mathlib.Logic.Function.Basic

/-!
# The snapshot branches of the pipeline

Models the topology `BridgePipeline.build` chooses, the metadata probe of `probe.py`, and the two
callbacks of a snapshot branch (`_on_snapshot_valve_probe`, `_on_snapshot_new_sample`) together with
the elements between them.

A branch is `queue -> valve -> nvvideoconvert -> nvjpegenc -> appsink`.  The probe on the queue's
source pad decides whether the valve lets the buffer through, and pushes the frame number of a buffer
it lets through on a queue of its own; the callback of the appsink takes the number of the JPEG it
pulled from the front of that queue.  Between the two the encoder and the appsink
(`max-buffers=1 drop=True`) may lose buffers, but never reorder them: a sample is made of some buffer
let through earlier, and those before it never arrive.
-/

namespace WeaponDetection.Bridge

open WeaponDetection.Foundations (TransitionSystem)

/-! ## Topology -/

/-- The fields of a `[sourceN]` section the topology depends on. -/
structure SourceConfig where
  sourceIndex : ℕ
  outputPath : Option String

/-- The fields of `BridgeConfig` the topology and the rendezvous depend on. -/
structure BridgeConfig where
  sources : List SourceConfig
  rtspOutEnabled : Bool
  snapshotEnabled : Bool
  rendezvous : RendezvousConfig

/-- `_SHARED_OUTPUT_SOURCE_INDEX`. -/
def sharedOutputSourceIndex : ℤ := -1

/-- `[src for src in cfg.sources if src.output_path]`. -/
def BridgeConfig.perCameraSources (cfg : BridgeConfig) : List SourceConfig :=
  cfg.sources.filter fun src => src.outputPath ≠ none ∧ src.outputPath ≠ some ""

/-- `dynamic_outputs`. -/
def BridgeConfig.dynamicOutputs (cfg : BridgeConfig) : Bool :=
  cfg.rtspOutEnabled && !cfg.perCameraSources.isEmpty

/-- The source indexes `_attach_snapshot_branch` is called with. -/
def BridgeConfig.snapshotBranches (cfg : BridgeConfig) : List ℤ :=
  if !cfg.snapshotEnabled then []
  else if cfg.dynamicOutputs then cfg.perCameraSources.map fun src => (src.sourceIndex : ℤ)
  else [sharedOutputSourceIndex]

/-! ## Buffers -/

/-- `NvDsFrameMeta`: the source and number of a frame, and a fresh message identifier for each of
its objects. -/
structure FrameMeta where
  sourceId : ℕ
  frameNum : ℤ
  messageIds : List String
  deriving DecidableEq

/-- The key a candidate on this frame is recorded under. -/
def FrameMeta.key (frame : FrameMeta) : FrameKey := (frame.sourceId, frame.frameNum)

/-- The frames of a buffer's batch meta; a buffer without one has none. -/
abbrev Buffer := List FrameMeta

/-- The fields of `RawDetection` the rendezvous is told of. -/
structure RawDetection where
  sourceId : ℤ
  messageId : String
  frameNumber : ℤ
  deriving DecidableEq

/-- `extract_detections`. -/
def extractDetections (buffer : Buffer) : List RawDetection :=
  buffer.flatMap fun frame =>
    frame.messageIds.map fun messageId => ⟨frame.sourceId, messageId, frame.frameNum⟩

/-- `frame_number_from_buffer`: the first frame only. -/
def frameNumberFromBuffer (buffer : Buffer) : Option ℤ := buffer.head?.map FrameMeta.frameNum

/-- The buffers one batch brings to a branch: the demultiplexer makes one for each frame of its
source, the shared output sees the batch itself. -/
def BridgeConfig.buffersAt (cfg : BridgeConfig) (branch : ℤ) (batch : Buffer) : List Buffer :=
  if cfg.dynamicOutputs then
    (batch.filter fun frame => (frame.sourceId : ℤ) = branch).map fun frame => [frame]
  else [batch]

/-! ## State -/

/-- A call of `submit_jpeg`, with the buffer its bytes were encoded from. -/
structure Submission where
  sourceIndex : ℤ
  frameNumber : ℤ
  jpegBytes : Bytes
  encodedFrom : Buffer

/-- The state of the pipeline's snapshot side, the buffers behind each valve in the order they were
let through, and a record of what happened. -/
structure PipelineState where
  rendezvous : Rendezvous
  /-- `_pending_snapshot_frames`. -/
  pendingSnapshotFrames : ℤ → List ℤ
  /-- The `drop` property of each valve. -/
  valveDrop : ℤ → Bool
  downstream : ℤ → List Buffer
  /-- The calls of `send_snapshot`. -/
  sent : List Completion
  /-- The message identifiers given out. -/
  recorded : List String
  submissions : List Submission
  /-- The messages whose buffer was let through under the key they were recorded under. -/
  admitted : List String
  /-- The candidates whose buffer came to the probe and was not let through under their key. -/
  missed : List Candidate

/-- A pipeline that was just built: every valve is closed. -/
def PipelineState.fresh : PipelineState :=
  { rendezvous := .fresh, pendingSnapshotFrames := fun _ => [], valveDrop := fun _ => true
    downstream := fun _ => [], sent := [], recorded := [], submissions := [], admitted := []
    missed := [] }

/-! ## The callbacks -/

/-- `_on_snapshot_valve_probe`. -/
def PipelineState.onSnapshotValveProbe (st : PipelineState) (now : ℚ) (sourceIndex : ℤ)
    (buffer : Buffer) : PipelineState :=
  match frameNumberFromBuffer buffer with
  | none => { st with valveDrop := Function.update st.valveDrop sourceIndex true }
  | some frameNumber =>
    let (rendezvous, isCandidate) := st.rendezvous.consumeCandidate now sourceIndex frameNumber
    { st with
      rendezvous
      pendingSnapshotFrames :=
        if isCandidate then
          Function.update st.pendingSnapshotFrames sourceIndex
            (st.pendingSnapshotFrames sourceIndex ++ [frameNumber])
        else st.pendingSnapshotFrames
      valveDrop := Function.update st.valveDrop sourceIndex !isCandidate }

/-- The valve: a buffer goes on unless `drop` is set. -/
def PipelineState.passValve (st : PipelineState) (sourceIndex : ℤ) (buffer : Buffer) :
    PipelineState :=
  if st.valveDrop sourceIndex then st
  else
    { st with
      downstream := Function.update st.downstream sourceIndex
        (st.downstream sourceIndex ++ [buffer]) }

/-- `_on_snapshot_new_sample` with a sample encoded from `buffer`; `none` for bytes that cannot be
mapped. -/
def PipelineState.onSnapshotNewSample (st : PipelineState) (now : ℚ) (sourceIndex : ℤ)
    (buffer : Buffer) (mapped : Option Bytes) : PipelineState :=
  match st.pendingSnapshotFrames sourceIndex with
  | [] => st
  | frameNumber :: pending =>
    let st := { st with
      pendingSnapshotFrames := Function.update st.pendingSnapshotFrames sourceIndex pending }
    match mapped with
    | none => st
    | some jpegBytes =>
      let (rendezvous, completed) :=
        st.rendezvous.submitJpeg now sourceIndex frameNumber jpegBytes
      { st with
        rendezvous
        sent := st.sent ++ completed.toList
        submissions := st.submissions ++ [⟨sourceIndex, frameNumber, jpegBytes, buffer⟩] }

/-! ## A buffer at the probe and the valve -/

section Probe

variable (st : PipelineState) (now : ℚ) (sourceIndex : ℤ) {buffer : Buffer}

/-- A buffer without a frame finds the valve closed. -/
theorem probe_noFrame (h : frameNumberFromBuffer buffer = none) :
    (st.onSnapshotValveProbe now sourceIndex buffer).passValve sourceIndex buffer =
      { st with valveDrop := Function.update st.valveDrop sourceIndex true } := by
  simp [PipelineState.onSnapshotValveProbe, h, PipelineState.passValve]

/-- A buffer whose frame is no candidate finds the valve closed. -/
theorem probe_turnedAway {f : ℤ} (h : frameNumberFromBuffer buffer = some f)
    (hfound : (st.rendezvous.consumeCandidate now sourceIndex f).2 = false) :
    (st.onSnapshotValveProbe now sourceIndex buffer).passValve sourceIndex buffer =
      { st with
        rendezvous := (st.rendezvous.consumeCandidate now sourceIndex f).1
        valveDrop := Function.update st.valveDrop sourceIndex true } := by
  simp [PipelineState.onSnapshotValveProbe, h, hfound, PipelineState.passValve]

/-- A buffer whose frame is a candidate goes through, and its number is queued. -/
theorem probe_found {f : ℤ} (h : frameNumberFromBuffer buffer = some f)
    (hfound : (st.rendezvous.consumeCandidate now sourceIndex f).2 = true) :
    (st.onSnapshotValveProbe now sourceIndex buffer).passValve sourceIndex buffer =
      { st with
        rendezvous := (st.rendezvous.consumeCandidate now sourceIndex f).1
        pendingSnapshotFrames := Function.update st.pendingSnapshotFrames sourceIndex
          (st.pendingSnapshotFrames sourceIndex ++ [f])
        valveDrop := Function.update st.valveDrop sourceIndex false
        downstream := Function.update st.downstream sourceIndex
          (st.downstream sourceIndex ++ [buffer]) } := by
  simp [PipelineState.onSnapshotValveProbe, h, hfound, PipelineState.passValve]

end Probe

/-! ## Steps -/

/-- A candidate whose buffer has not come to the probe yet. -/
def PipelineState.Awaits (st : PipelineState) (now : ℚ) (buffer : Buffer) (c : Candidate) : Prop :=
  now < c.expiresAt ∧ c.messageId ∉ st.admitted ∧ c.frame ∈ buffer.map FrameMeta.key

instance (st : PipelineState) (now : ℚ) (buffer : Buffer) (c : Candidate) :
    Decidable (st.Awaits now buffer c) := inferInstanceAs (Decidable (_ ∧ _))

/-- The live candidates recorded on a frame the buffer carries. -/
def PipelineState.awaiting (st : PipelineState) (now : ℚ) (buffer : Buffer) : List Candidate :=
  (st.rendezvous.byMessage.entries.map Prod.snd).filter fun c => st.Awaits now buffer c

/-- The key the JPEG of a buffer at the probe will be submitted under, if it is let through. -/
def PipelineState.probeKey (st : PipelineState) (now : ℚ) (sourceIndex : ℤ) (buffer : Buffer) :
    Option FrameKey :=
  (frameNumberFromBuffer buffer).bind fun frameNumber =>
    if (st.rendezvous.consumeCandidate now sourceIndex frameNumber).2 then
      some (sourceIndex, frameNumber)
    else none

/-- The record of a buffer at the probe. -/
def PipelineState.logProbe (st : PipelineState) (now : ℚ) (sourceIndex : ℤ) (buffer : Buffer) :
    PipelineState :=
  let key := st.probeKey now sourceIndex buffer
  { st with
    admitted := st.admitted ++
      ((st.awaiting now buffer).filter fun c => some c.frame = key).map Candidate.messageId
    missed := st.missed ++ (st.awaiting now buffer).filter fun c => some c.frame ≠ key }

/-- What happens next. -/
inductive PipelineAction where
  /-- `on_candidate` for one detection of a batch at the metadata probe. -/
  | recordDetection (now : ℚ) (batch : Buffer) (detection : RawDetection)
  /-- A buffer of a batch comes to the valve probe of a branch. -/
  | valveProbe (now : ℚ) (sourceIndex : ℤ) (batch buffer : Buffer)
  /-- The appsink delivers a sample; the `skipped` buffers let through before it never arrive. -/
  | newSample (now : ℚ) (sourceIndex : ℤ) (skipped : ℕ) (mapped : Option Bytes)
  /-- `pull-sample` returns `None`. -/
  | emptyPull (sourceIndex : ℤ)
  /-- The acknowledgement of a message. -/
  | submitAck (now : ℚ) (messageId : String) (outcome eventId : Option String)
      (snapshotRequired : Bool)

/-- One step.  Message identifiers are random UUIDs: none is given out twice. -/
def pipelineStep (cfg : BridgeConfig) (st : PipelineState) :
    PipelineAction → Option PipelineState
  | .recordDetection now batch d =>
    if d ∈ extractDetections batch ∧ d.messageId ∉ st.recorded then
      some { st with
        rendezvous := st.rendezvous.recordDetection cfg.rendezvous now d.sourceId d.messageId
          d.frameNumber
        recorded := st.recorded ++ [d.messageId] }
    else none
  | .valveProbe now sourceIndex batch buffer =>
    if sourceIndex ∈ cfg.snapshotBranches ∧ buffer ∈ cfg.buffersAt sourceIndex batch then
      some (((st.logProbe now sourceIndex buffer).onSnapshotValveProbe now sourceIndex
        buffer).passValve sourceIndex buffer)
    else none
  | .newSample now sourceIndex skipped mapped =>
    match (st.downstream sourceIndex).drop skipped with
    | [] => none
    | buffer :: rest =>
      some (({ st with downstream := Function.update st.downstream sourceIndex rest }
        : PipelineState).onSnapshotNewSample now sourceIndex buffer mapped)
  | .emptyPull _ => some st
  | .submitAck now messageId outcome eventId snapshotRequired =>
    let (rendezvous, completed) :=
      st.rendezvous.submitAck now messageId outcome eventId snapshotRequired
    some { st with rendezvous, sent := st.sent ++ completed.toList }

/-- The snapshot side of a pipeline as a transition system. -/
def pipelineSystem (cfg : BridgeConfig) : TransitionSystem PipelineState PipelineAction where
  init := fun st => st = .fresh
  step := pipelineStep cfg

/-- The elements behind the valve deliver the oldest buffer they hold: none was lost before it. -/
def Lossless : PipelineState → PipelineAction → Prop
  | _, .newSample _ _ skipped _ => skipped = 0
  | _, _ => True

instance (st : PipelineState) (action : PipelineAction) : Decidable (Lossless st action) :=
  match action with
  | .newSample _ _ skipped _ => inferInstanceAs (Decidable (skipped = 0))
  | .recordDetection _ _ _ => isTrue trivial
  | .valveProbe _ _ _ _ => isTrue trivial
  | .emptyPull _ => isTrue trivial
  | .submitAck _ _ _ _ _ => isTrue trivial

end WeaponDetection.Bridge
