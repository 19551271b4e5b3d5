import WeaponDetection.Contract.SnapshotFrame
import WeaponDetection.Foundations.TransitionSystem

/-!
# The threads of the transport worker

`_sender_run` and `_reader_run` of `deepstream_bridge/transport.py`, cut wherever the other thread, a
producer or `stop` can come in between.  They share `_sock`: the sender looks at it, asserts that it is set
and then takes `sendall` from it, and the reader clears it when an acknowledgement frame is too long.

An exception that neither loop catches ends its thread, and nothing starts it again.  `threads_survive`
says when none is raised before `stop` was called.
-/

namespace WeaponDetection.Bridge

open WeaponDetection.Foundations
open WeaponDetection.Foundations.Bytes
open WeaponDetection.Foundations.Json (charOf)
open WeaponDetection.Foundations.JsonDecoder
open WeaponDetection.Contract

/-! ## State -/

/-- What the worker is built with, and the interpreter it runs on. -/
structure TransportRuntime where
  queueCapacity : ℕ
  snapshotQueueCapacity : ℕ
  /-- `json.dumps(payload, separators=(",", ":"))`. -/
  dumps : JsonDict → List Char
  py : Interpreter

/-- An item of one of the two queues. -/
inductive Outgoing where
  | detection (payload : JsonDict)
  | snapshot (eventId : PyStr) (jpegBytes : List UInt8)

/-- The exceptions that end a thread. -/
inductive ThreadException where
  | assertionError
  /-- `None` has no `sendall`. -/
  | attributeError
  /-- `socket_factory` found no descriptor. -/
  | osError
  | encodeError (e : EncodeError)
  | recursionError
  deriving DecidableEq

/-- Where the sender stands. -/
inductive SenderPhase where
  | checkingStop
  | pollingSnapshots
  | pollingDetections
  /-- Before `self._sock is None`. -/
  | sending (item : Outgoing)
  /-- `_connect`, up to the outcome of `connect`. -/
  | connecting (item : Outgoing)
  /-- Connected, before `self._sock = sock`. -/
  | storing (item : Outgoing)
  /-- Before `assert self._sock is not None`. -/
  | asserting (item : Outgoing)
  /-- Before `self._sock.sendall` is looked up. -/
  | loading (item : Outgoing)
  | encoding (item : Outgoing)
  | writing (frame : List UInt8)
  /-- `sendall` failed: before `_close_socket`. -/
  | closing
  | finished
  | died (e : ThreadException)

/-- Where the reader stands. -/
inductive ReaderPhase where
  | checkingStop
  /-- Before `_current_sock`. -/
  | gettingSock
  | readingHeader (chunks : List UInt8)
  | readingBody (kind length : ℕ) (chunks : List UInt8)
  /-- The frame is too long: before `_close_socket`. -/
  | oversized
  | dispatching (kind : ℕ) (body : List UInt8)
  | finished
  | died (e : ThreadException)

/-- The worker and its two threads. -/
structure TransportState where
  stopRequested : Bool
  /-- `self._sock is not None`. -/
  sockSet : Bool
  queue : List JsonDict
  snapshotQueue : List (PyStr × List UInt8)
  sender : SenderPhase
  reader : ReaderPhase

/-- What an attempt to connect comes to. -/
inductive ConnectOutcome where
  /-- `socket_factory` raises. -/
  | noSocket
  | refused
  | connected

/-- What can happen next. -/
inductive TransportAction where
  | sender
  | connect (outcome : ConnectOutcome)
  /-- `sendall` returns or raises an `OSError`. -/
  | sendall (succeeds : Bool)
  | reader
  /-- `recv` answers with bytes, none of them when the peer closed, or raises. -/
  | recv (chunk : Option (List UInt8))
  | enqueue (payload : JsonDict)
  /-- From the callback of an acknowledgement or from the appsink. -/
  | enqueueSnapshot (eventId : PyStr) (jpegBytes : List UInt8)
  | stop
  /-- `stop` closes the socket behind the joins. -/
  | stopCloses

/-! ## Steps -/

/-- `encode_message`. -/
def encodeMessage (runtime : TransportRuntime) (payload : JsonDict) : Except EncodeError (List UInt8) :=
  frameOf (encodeUtf8 (runtime.dumps payload)) frameKindDetection

/-- The frame of an item. -/
def encodeItem (runtime : TransportRuntime) : Outgoing → Except EncodeError (List UInt8)
  | .detection payload => encodeMessage runtime payload
  | .snapshot eventId jpegBytes => encodeSnapshotMessage eventId jpegBytes

/-- `_sender_run`, `_send` and `_send_snapshot`, as far as they wait for nothing. -/
def senderStep (runtime : TransportRuntime) (s : TransportState) : Option TransportState :=
  match s.sender with
  | .checkingStop => some { s with sender := if s.stopRequested then .finished else .pollingSnapshots }
  | .pollingSnapshots =>
    match s.snapshotQueue with
    | [] => some { s with sender := .pollingDetections }
    | (eventId, jpegBytes) :: rest =>
      some { s with snapshotQueue := rest, sender := .sending (.snapshot eventId jpegBytes) }
  | .pollingDetections =>
    match s.queue with
    | [] => some { s with sender := .checkingStop }
    | payload :: rest => some { s with queue := rest, sender := .sending (.detection payload) }
  | .sending item => some { s with sender := if s.sockSet then .asserting item else .connecting item }
  | .storing item => some { s with sockSet := true, sender := .asserting item }
  | .asserting item => some { s with sender := if s.sockSet then .loading item else .died .assertionError }
  | .loading item => some { s with sender := if s.sockSet then .encoding item else .died .attributeError }
  | .encoding item =>
    match encodeItem runtime item with
    | .ok frame => some { s with sender := .writing frame }
    | .error e => some { s with sender := .died (.encodeError e) }
  | .closing => some { s with sockSet := false, sender := .checkingStop }
  | .connecting _ | .writing _ | .finished | .died _ => none

/-- The outcome of `_connect`. -/
def connectStep (s : TransportState) (outcome : ConnectOutcome) : Option TransportState :=
  match s.sender with
  | .connecting item =>
    match outcome with
    | .noSocket => some { s with sender := .died .osError }
    | .refused => some { s with sender := .checkingStop }
    | .connected => some { s with sender := .storing item }
  | _ => none

/-- The outcome of `sendall`. -/
def sendallStep (s : TransportState) (succeeds : Bool) : Option TransportState :=
  match s.sender with
  | .writing _ => some { s with sender := if succeeds then .checkingStop else .closing }
  | _ => none

/-- `_read_one_frame` from a complete frame on: whatever the callback does, its exceptions are caught. -/
def dispatchFrame (runtime : TransportRuntime) (kind : ℕ) (body : List UInt8) : ReaderPhase :=
  if kind = frameKindAcknowledgement then
    match decodeUtf8 body with
    | none => .checkingStop
    | some text =>
      match loads runtime.py text with
      | .ok _ | .error .jsonDecodeError | .error .valueError => .checkingStop
      | .error .recursionError => .died .recursionError
  else .checkingStop

/-- `_reader_run`, as far as it does not receive. -/
def readerStep (runtime : TransportRuntime) (s : TransportState) : Option TransportState :=
  match s.reader with
  | .checkingStop => some { s with reader := if s.stopRequested then .finished else .gettingSock }
  | .gettingSock => some { s with reader := if s.sockSet then .readingHeader [] else .checkingStop }
  | .oversized => some { s with sockSet := false, reader := .checkingStop }
  | .dispatching kind body => some { s with reader := dispatchFrame runtime kind body }
  | .readingHeader _ | .readingBody _ _ _ | .finished | .died _ => none

/-- What follows a complete header. -/
def readerAfterHeader (header : List UInt8) : ReaderPhase :=
  let (kind, length) := decodeFrameHeader header
  if maxFrameBytes < length then .oversized
  else if length = 0 then .dispatching kind []
  else .readingBody kind length []

/-- The reader with the bytes `recv` answered, at most as many as it asked for. -/
def readerAfterRecv (chunk : List UInt8) : ReaderPhase → Option ReaderPhase
  | .readingHeader chunks =>
    let chunks := chunks ++ chunk.take (frameHeaderBytes - chunks.length)
    some (if chunks.length < frameHeaderBytes then .readingHeader chunks else readerAfterHeader chunks)
  | .readingBody kind length chunks =>
    let chunks := chunks ++ chunk.take (length - chunks.length)
    some (if chunks.length < length then .readingBody kind length chunks else .dispatching kind chunks)
  | _ => none

/-- An answer of `recv`; without bytes `_recv_exact` raises `_ConnectionUnavailable`, which the loop
catches. -/
def recvStep (s : TransportState) (chunk : Option (List UInt8)) : Option TransportState :=
  (readerAfterRecv (chunk.getD []) s.reader).map fun phase =>
    { s with reader := if chunk.getD [] = [] then .checkingStop else phase }

/-- One step. -/
def transportStep (runtime : TransportRuntime) (s : TransportState) : TransportAction → Option TransportState
  | .sender => senderStep runtime s
  | .connect outcome => connectStep s outcome
  | .sendall succeeds => sendallStep s succeeds
  | .reader => readerStep runtime s
  | .recv chunk => recvStep s chunk
  | .enqueue payload =>
    some (if s.queue.length < runtime.queueCapacity then { s with queue := s.queue ++ [payload] } else s)
  | .enqueueSnapshot eventId jpegBytes =>
    some (if s.snapshotQueue.length < runtime.snapshotQueueCapacity then
      { s with snapshotQueue := s.snapshotQueue ++ [(eventId, jpegBytes)] } else s)
  | .stop => some { s with stopRequested := true }
  | .stopCloses => if s.stopRequested then some { s with sockSet := false } else none

/-- A worker behind `start`. -/
def TransportState.started : TransportState := ⟨false, false, [], [], .checkingStop, .checkingStop⟩

/-- The transport worker. -/
def transportSystem (runtime : TransportRuntime) : TransitionSystem TransportState TransportAction where
  init := fun s => s = .started
  step := transportStep runtime

/-! ## The property and its condition -/

/-- The sender thread has not ended. -/
def SenderPhase.isRunning : SenderPhase → Bool
  | .finished | .died _ => false
  | _ => true

/-- The reader thread has not ended. -/
def ReaderPhase.isRunning : ReaderPhase → Bool
  | .finished | .died _ => false
  | _ => true

/-- The sender found the socket set and has not taken `sendall` from it yet. -/
def SenderPhase.usesSocket : SenderPhase → Bool
  | .asserting _ | .loading _ => true
  | _ => false

/-- The item has a frame. -/
def Encodable (runtime : TransportRuntime) : Outgoing → Prop
  | .detection payload => (encodeUtf8 (runtime.dumps payload)).length < 256 ^ 4
  | .snapshot eventId jpegBytes => SnapshotEncodable eventId jpegBytes

/-- The sender is not about to encode an item that has no frame. -/
def EncodesItem (runtime : TransportRuntime) : SenderPhase → Prop
  | .encoding item => Encodable runtime item
  | _ => True

/-- The text of an acknowledgement nests deeper than the interpreter follows. -/
def nestsTooDeep (py : Interpreter) (body : List UInt8) : Bool :=
  match decodeUtf8 body with
  | none => false
  | some text =>
    match loads py text with
    | .error e => e = .recursionError
    | .ok _ => false

/-- The reader does not clear the socket under the sender, and its acknowledgement does not nest too deep. -/
def ReadsQuietly (runtime : TransportRuntime) (sender : SenderPhase) : ReaderPhase → Prop
  | .oversized => sender.usesSocket = false
  | .dispatching kind body => kind = frameKindAcknowledgement → nestsTooDeep runtime.py body = false
  | _ => True

/-- The steps that raise nothing. -/
def RaisesNothing (runtime : TransportRuntime) (s : TransportState) : TransportAction → Prop
  | .sender => EncodesItem runtime s.sender
  | .connect .noSocket => False
  | .reader => ReadsQuietly runtime s.sender s.reader
  | _ => True

instance (runtime : TransportRuntime) : DecidablePred (Encodable runtime)
  | .detection _ => inferInstanceAs (Decidable (_ < _))
  | .snapshot eventId jpegBytes => inferInstanceAs (Decidable (SnapshotEncodable eventId jpegBytes))

instance (runtime : TransportRuntime) : DecidablePred (EncodesItem runtime)
  | .encoding item => inferInstanceAs (Decidable (Encodable runtime item))
  | .checkingStop | .pollingSnapshots | .pollingDetections | .sending _ | .connecting _ | .storing _
  | .asserting _ | .loading _ | .writing _ | .closing | .finished | .died _ => isTrue trivial

instance (runtime : TransportRuntime) (sender : SenderPhase) : DecidablePred (ReadsQuietly runtime sender)
  | .oversized => inferInstanceAs (Decidable (_ = _))
  | .dispatching _ _ => inferInstanceAs (Decidable (_ → _))
  | .checkingStop | .gettingSock | .readingHeader _ | .readingBody _ _ _ | .finished | .died _ => isTrue trivial

instance (runtime : TransportRuntime) (s : TransportState) : DecidablePred (RaisesNothing runtime s)
  | .sender => inferInstanceAs (Decidable (EncodesItem _ _))
  | .connect .noSocket => isFalse id
  | .reader => inferInstanceAs (Decidable (ReadsQuietly _ _ _))
  | .connect .refused | .connect .connected | .sendall _ | .recv _ | .enqueue _ | .enqueueSnapshot _ _ | .stop
  | .stopCloses => isTrue trivial

/-! ## The invariant -/

/-- Until `stop` is called both threads run, and the sender holds on to a socket that is set. -/
def TransportInv (s : TransportState) : Prop :=
  s.stopRequested = false →
    s.sender.isRunning = true ∧ (s.sender.usesSocket = true → s.sockSet = true) ∧ s.reader.isRunning = true

section Steps

variable {runtime : TransportRuntime} {s s' : TransportState}

theorem encodeItem_ok {item : Outgoing} (h : Encodable runtime item) :
    ∃ frame, encodeItem runtime item = .ok frame := by
  cases item with
  | detection payload => exact frameOf_ok (by decide) h
  | snapshot eventId jpegBytes => exact encodeSnapshotMessage_ok_iff.mpr h

theorem senderStep_inv (hinv : TransportInv s) (hguard : EncodesItem runtime s.sender)
    (h : senderStep runtime s = some s') : TransportInv s' := by
  unfold senderStep at h
  cases hsender : s.sender with
  | checkingStop =>
    simp only [hsender, Option.some.injEq] at h
    subst h
    intro hstop
    obtain ⟨-, -, hreader⟩ := hinv hstop
    simp only at hstop
    rw [hstop]
    exact ⟨rfl, nofun, hreader⟩
  | pollingSnapshots =>
    simp only [hsender] at h
    split at h <;>
    · cases h
      exact fun hstop => ⟨rfl, nofun, (hinv hstop).2.2⟩
  | pollingDetections =>
    simp only [hsender] at h
    split at h <;>
    · cases h
      exact fun hstop => ⟨rfl, nofun, (hinv hstop).2.2⟩
  | sending item =>
    simp only [hsender, Option.some.injEq] at h
    subst h
    intro hstop
    refine ⟨?_, fun huses => ?_, (hinv hstop).2.2⟩
    · simp only
      split <;> rfl
    · simp only at huses ⊢
      split at huses
      · assumption
      · cases huses
  | storing item =>
    simp only [hsender, Option.some.injEq] at h
    subst h
    exact fun hstop => ⟨rfl, fun _ => rfl, (hinv hstop).2.2⟩
  | asserting item =>
    simp only [hsender, Option.some.injEq] at h
    subst h
    intro hstop
    obtain ⟨-, huses, hreader⟩ := hinv hstop
    have hsock : s.sockSet = true := huses (by rw [hsender]; rfl)
    simp only [hsock, if_true]
    exact ⟨rfl, fun _ => trivial, hreader⟩
  | loading item =>
    simp only [hsender, Option.some.injEq] at h
    subst h
    intro hstop
    obtain ⟨-, huses, hreader⟩ := hinv hstop
    have hsock : s.sockSet = true := huses (by rw [hsender]; rfl)
    simp only [hsock, if_true]
    exact ⟨rfl, nofun, hreader⟩
  | encoding item =>
    rw [hsender] at hguard
    obtain ⟨frame, hframe⟩ := encodeItem_ok hguard
    simp only [hsender, hframe, Option.some.injEq] at h
    subst h
    exact fun hstop => ⟨rfl, nofun, (hinv hstop).2.2⟩
  | closing =>
    simp only [hsender, Option.some.injEq] at h
    subst h
    exact fun hstop => ⟨rfl, nofun, (hinv hstop).2.2⟩
  | _ =>
    simp only [hsender] at h
    cases h

theorem connectStep_inv {outcome : ConnectOutcome} (hinv : TransportInv s)
    (hguard : RaisesNothing runtime s (.connect outcome)) (h : connectStep s outcome = some s') :
    TransportInv s' := by
  unfold connectStep at h
  split at h
  · cases outcome with
    | noSocket => exact hguard.elim
    | refused =>
      cases h
      exact fun hstop => ⟨rfl, nofun, (hinv hstop).2.2⟩
    | connected =>
      cases h
      exact fun hstop => ⟨rfl, nofun, (hinv hstop).2.2⟩
  · cases h

theorem sendallStep_inv {succeeds : Bool} (hinv : TransportInv s) (h : sendallStep s succeeds = some s') :
    TransportInv s' := by
  unfold sendallStep at h
  split at h
  · cases h
    intro hstop
    refine ⟨?_, ?_, (hinv hstop).2.2⟩
    · cases succeeds <;> rfl
    · cases succeeds <;> exact nofun
  · cases h

theorem dispatchFrame_isRunning {kind : ℕ} {body : List UInt8}
    (h : kind = frameKindAcknowledgement → nestsTooDeep runtime.py body = false) :
    (dispatchFrame runtime kind body).isRunning = true := by
  unfold dispatchFrame
  split_ifs with hkind
  · have hdeep := h hkind
    unfold nestsTooDeep at hdeep
    cases hutf8 : decodeUtf8 body with
    | none => rfl
    | some text =>
      simp only [hutf8] at hdeep ⊢
      cases hjson : loads runtime.py text with
      | ok v => rfl
      | error e =>
        simp only [hjson, decide_eq_false_iff_not] at hdeep ⊢
        cases e with
        | recursionError => exact absurd rfl hdeep
        | jsonDecodeError => rfl
        | valueError => rfl
  · rfl

theorem readerStep_inv (hinv : TransportInv s) (hguard : ReadsQuietly runtime s.sender s.reader)
    (h : readerStep runtime s = some s') : TransportInv s' := by
  unfold readerStep at h
  cases hreader : s.reader with
  | checkingStop =>
    simp only [hreader, Option.some.injEq] at h
    subst h
    intro hstop
    obtain ⟨hsender, huses, -⟩ := hinv hstop
    simp only at hstop
    rw [hstop]
    exact ⟨hsender, huses, rfl⟩
  | gettingSock =>
    simp only [hreader, Option.some.injEq] at h
    subst h
    intro hstop
    obtain ⟨hsender, huses, -⟩ := hinv hstop
    refine ⟨hsender, huses, ?_⟩
    simp only
    split <;> rfl
  | oversized =>
    rw [hreader] at hguard
    simp only [hreader, Option.some.injEq] at h
    subst h
    intro hstop
    obtain ⟨hsender, -, -⟩ := hinv hstop
    -- the sender is not between its check and its use
    exact ⟨hsender, fun huses => absurd (hguard.symm.trans huses) nofun, rfl⟩
  | dispatching kind body =>
    rw [hreader] at hguard
    simp only [hreader, Option.some.injEq] at h
    subst h
    intro hstop
    obtain ⟨hsender, huses, -⟩ := hinv hstop
    exact ⟨hsender, huses, dispatchFrame_isRunning hguard⟩
  | _ =>
    simp only [hreader] at h
    cases h

theorem readerAfterHeader_isRunning (header : List UInt8) : (readerAfterHeader header).isRunning = true := by
  unfold readerAfterHeader
  split
  split_ifs <;> rfl

theorem recvStep_inv {chunk : Option (List UInt8)} (hinv : TransportInv s) (h : recvStep s chunk = some s') :
    TransportInv s' := by
  obtain ⟨phase, hphase, rfl⟩ := Option.map_eq_some_iff.mp h
  intro hstop
  obtain ⟨hsender, huses, -⟩ := hinv hstop
  refine ⟨hsender, huses, ?_⟩
  simp only
  split_ifs
  · rfl
  · unfold readerAfterRecv at hphase
    split at hphase
    · cases hphase
      split_ifs
      · rfl
      · exact readerAfterHeader_isRunning _
    · cases hphase
      split_ifs <;> rfl
    · cases hphase

/-- The step lemma. -/
theorem TransportInv.step {a : TransportAction} (hinv : TransportInv s) (hguard : RaisesNothing runtime s a)
    (h : transportStep runtime s a = some s') : TransportInv s' := by
  cases a with
  | sender => exact senderStep_inv hinv hguard h
  | connect outcome => exact connectStep_inv hinv hguard h
  | sendall succeeds => exact sendallStep_inv hinv h
  | reader => exact readerStep_inv hinv hguard h
  | recv chunk => exact recvStep_inv hinv h
  | enqueue payload =>
    cases h
    split_ifs <;> exact hinv
  | enqueueSnapshot eventId jpegBytes =>
    cases h
    split_ifs <;> exact hinv
  | stop =>
    cases h
    exact nofun
  | stopCloses =>
    simp only [transportStep] at h
    split_ifs at h with hstop
    cases h
    exact fun hrunning => absurd (hrunning.symm.trans hstop) nofun

end Steps

/-- **In every run whose steps raise nothing, both threads run until `stop` is called.** -/
theorem threads_survive (runtime : TransportRuntime) (s : TransportState)
    (h : (transportSystem runtime).ReachableUnder (RaisesNothing runtime) s) (hstop : s.stopRequested = false) :
    s.sender.isRunning = true ∧ s.reader.isRunning = true := by
  have hinv : TransportInv s := by
    refine h.invariant_of_guard ?_ fun s a s' hinv hguard hs => hinv.step hguard hs
    rintro s rfl
    exact fun _ => ⟨rfl, nofun, rfl⟩
  obtain ⟨hsender, -, hreader⟩ := hinv hstop
  exact ⟨hsender, hreader⟩

/-- A worker on CPython's limits whose detections are all the empty object. -/
def emptyDetections : TransportRuntime := ⟨1, 1, fun _ => "\x7b\x7d".toList, ⟨1000, 4300⟩⟩

/-- A detection goes out on a new connection. -/
def firstDetection : List TransportAction :=
  [.enqueue [], .sender, .sender, .sender, .sender, .connect .connected, .sender, .sender, .sender, .sender,
    .sendall true]

/-- Its acknowledgement is an empty object, which comes in two pieces. -/
theorem threads_survive_acknowledged :
    ∃ s, (transportSystem emptyDetections).Reachable s ∧ s.sockSet = true ∧
      s.sender.isRunning = true ∧ s.reader.isRunning = true := by
  let actions := firstDetection ++
    [.reader, .reader, .recv (some [3, 0, 0]), .recv (some [0, 2]), .recv (some [0x7b, 0x7d]), .reader]
  have hend : ((transportSystem emptyDetections).exec .started actions).map (fun s => (s.stopRequested, s.sockSet)) =
      some (false, true) := by decide +kernel
  obtain ⟨s, hrun, hpair⟩ := Option.map_eq_some_iff.mp hend
  obtain ⟨hstop, hsock⟩ := Prod.mk.inj hpair
  have hmeets : (transportSystem emptyDetections).Meets (RaisesNothing emptyDetections) .started actions := by
    decide +kernel
  have hreach := (TransitionSystem.ReachableUnder.init rfl).exec hmeets hrun
  exact ⟨s, hreach.reachable, hsock, threads_survive emptyDetections s hreach hstop⟩

/-- The reader clears the socket behind the sender's check: the assertion ends the sender, and `stop` was
never called. -/
theorem cleared_socket_ends_sender :
    ∃ s, (transportSystem emptyDetections).Reachable s ∧ s.stopRequested = false ∧ s.sender.isRunning = false := by
  let actions := firstDetection ++
    [.reader, .reader, .recv (some [3, 0xff, 0xff, 0xff, 0xff]), .enqueue [], .sender, .sender, .sender, .sender,
      .reader, .sender]
  have hend : ((transportSystem emptyDetections).exec .started actions).map
      (fun s => (s.stopRequested, s.sender.isRunning)) = some (false, false) := by decide +kernel
  obtain ⟨s, hrun, hpair⟩ := Option.map_eq_some_iff.mp hend
  obtain ⟨hstop, hsender⟩ := Prod.mk.inj hpair
  exact ⟨s, .exec (.init rfl) hrun, hstop, hsender⟩

end WeaponDetection.Bridge
