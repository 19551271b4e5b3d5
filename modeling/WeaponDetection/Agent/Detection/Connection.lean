import WeaponDetection.Contract.SnapshotFrame

/-!
# The connections of the detection socket

Models `_handle_connection`, `_read_frame` and `_parse_detection_body` of `detection/ingest_handler.py` over
`asyncio.StreamReader`.  What a client sends is a list of chunks; a read that asks for more than has arrived
waits for the next one, and behind the last one the client has closed or the task is cancelled where it
waits.  What `_enqueue` is called with is what a connection leaves behind.

`Splits` says which frames a stream is made of up to a point, without the reader.  A connection is read as
it should be exactly when the frame at which the well-formed ones stop is one the reader rejects
(`connection_read_iff`).
-/

namespace WeaponDetection.Agent.Detection

open WeaponDetection.Foundations.Bytes
open WeaponDetection.Foundations.JsonDecoder
open WeaponDetection.Contract

/-! ## The stream -/

/-- A `StreamReader`: what it holds, and the chunks that are still to arrive. -/
structure StreamReader where
  buffer : List UInt8
  arriving : List (List UInt8)

/-- What comes behind the last chunk. -/
inductive StreamEnd where
  /-- The client closed the connection. -/
  | eof
  /-- `stop()` cancels the task of the connection. -/
  | cancelled
  deriving DecidableEq

/-- What a read comes to. -/
inductive ReadOutcome where
  | bytes (read : List UInt8) (reader : StreamReader)
  /-- `IncompleteReadError` with the bytes there were. -/
  | incomplete (received : List UInt8)
  | cancelled

/-- The loop of `readexactly`. -/
def readLoop (ends : StreamEnd) (n : ℕ) (buffer : List UInt8) : List (List UInt8) → ReadOutcome
  | [] =>
    if n ≤ buffer.length then .bytes (buffer.take n) ⟨buffer.drop n, []⟩
    else
      match ends with
      | .eof => .incomplete buffer
      | .cancelled => .cancelled
  | chunk :: arriving =>
    if n ≤ buffer.length then .bytes (buffer.take n) ⟨buffer.drop n, chunk :: arriving⟩
    else readLoop ends n (buffer ++ chunk) arriving

/-- `reader.readexactly(n)`. -/
def StreamReader.readExactly (reader : StreamReader) (ends : StreamEnd) (n : ℕ) : ReadOutcome :=
  readLoop ends n reader.buffer reader.arriving

/-- The bytes a reader has still to give out. -/
def StreamReader.content (reader : StreamReader) : List UInt8 := reader.buffer ++ reader.arriving.flatten

/-! ## Frames -/

/-- The exceptions a connection can end with. -/
inductive PyException where
  | typeError
  | valueError
  | recursionError
  deriving DecidableEq

/-- Why a body gives no message. -/
inductive BodyFault where
  /-- `_FrameRejected(reason)`. -/
  | rejected (reason : String)
  | raised (exception : PyException)
  deriving DecidableEq

/-- `SUPPORTED_SCHEMA_VERSIONS`. -/
def supportedSchemaVersions : List ℤ := [1, 2]

/-- `parsed.get("schema_version", parsed.get("schemaVersion"))`. -/
def bodySchemaVersion (parsed : JsonDict) : JsonValue :=
  (parsed.get? (.ofString "schema_version")).getD ((parsed.get? (.ofString "schemaVersion")).getD .null)

/-- `version in SUPPORTED_SCHEMA_VERSIONS`. -/
def isSupported (version : JsonValue) : Except PyException Bool :=
  if version.isHashable then .ok (supportedSchemaVersions.any version.eqInt) else .error .typeError

/-- `_parse_detection_body`. -/
def parseDetectionBody (py : Interpreter) (body : List UInt8) : Except BodyFault JsonDict :=
  match decodeUtf8 body with
  | none => .error (.rejected "invalid_utf8")
  | some text =>
    match loads py text with
    | .error .jsonDecodeError => .error (.rejected "invalid_json")
    | .error .valueError => .error (.raised .valueError)
    | .error .recursionError => .error (.raised .recursionError)
    | .ok (.dict parsed) =>
      match isSupported (bodySchemaVersion parsed) with
      | .error e => .error (.raised e)
      | .ok true => .ok parsed
      | .ok false => .error (.rejected "unsupported_schema_version")
    | .ok _ => .error (.rejected "invalid_json_shape")

/-- What `_read_frame` comes to. -/
inductive FrameRead where
  | frame (kind : ℕ) (body : List UInt8) (reader : StreamReader)
  /-- `None`: the stream ended between two frames. -/
  | eof
  | rejected (reason : String)
  | incompleteRead
  | cancelled

/-- `_read_frame` with `allow_clean_eof`. -/
def readFrame (ends : StreamEnd) (maxBytes : ℕ) (reader : StreamReader) : FrameRead :=
  match reader.readExactly ends frameHeaderBytes with
  | .cancelled => .cancelled
  | .incomplete received => if received = [] then .eof else .incompleteRead
  | .bytes header reader =>
    let (kind, length) := decodeFrameHeader header
    if length = 0 then .rejected "zero_length_frame"
    else if maxBytes < length then .rejected "oversized_frame"
    else
      match reader.readExactly ends length with
      | .cancelled => .cancelled
      | .incomplete _ => .rejected "incomplete_payload"
      | .bytes body reader => .frame kind body reader

/-! ## The connection -/

/-- What `_enqueue` is called with. -/
inductive QueueItem where
  | detection (payload : JsonDict)
  | snapshot (eventId : List Char) (data : List UInt8)

/-- How `_handle_connection` ends. -/
inductive Ending where
  | returned
  | cancelled
  | raised (exception : PyException)
  deriving DecidableEq

/-- What one round of the loop comes to. -/
inductive Round where
  | closes (ending : Ending)
  | enqueues (item : QueueItem) (reader : StreamReader)

/-- How the connection ends, where it does. -/
def Round.ending? : Round → Option Ending
  | .closes ending => some ending
  | .enqueues _ _ => none

theorem closes_of_ending? {round : Round} {ending : Ending} (h : round.ending? = some ending) :
    round = .closes ending := by
  cases round with
  | closes _ => exact congrArg _ (Option.some.inj h)
  | enqueues _ _ => cases h

/-- What `_handle_connection` does with a frame: the item it enqueues, or how it ends. -/
def handleFrame (py : Interpreter) (kind : ℕ) (body : List UInt8) : Except Ending QueueItem :=
  if kind = frameKindSnapshot then
    match decodeSnapshotMessage body with
    | some (eventId, data) => .ok (.snapshot eventId data)
    | none => .error .returned
  else if kind ≠ frameKindDetection then .error .returned
  else if maxFrameBytes < body.length then .error .returned
  else
    match parseDetectionBody py body with
    | .error (.rejected _) => .error .returned
    | .error (.raised e) => .error (.raised e)
    | .ok payload => .ok (.detection payload)

/-- One round of the loop of `_handle_connection`. -/
def handleOne (py : Interpreter) (ends : StreamEnd) (reader : StreamReader) : Round :=
  match readFrame ends maxSnapshotFrameBytes reader with
  | .rejected _ | .incompleteRead | .eof => .closes .returned
  | .cancelled => .closes .cancelled
  | .frame kind body reader =>
    match handleFrame py kind body with
    | .ok item => .enqueues item reader
    | .error ending => .closes ending

/-! ## Reads -/

section Reads

variable {n : ℕ}

/-- A read the stream can serve does not depend on the chunks. -/
theorem readExactly_of_le (ends : StreamEnd) {reader : StreamReader} (h : n ≤ reader.content.length) :
    ∃ rest, reader.readExactly ends n = .bytes (reader.content.take n) rest ∧
      rest.content = reader.content.drop n := by
  obtain ⟨buffer, arriving⟩ := reader
  unfold StreamReader.readExactly StreamReader.content at *
  simp only at h ⊢
  induction arriving generalizing buffer with
  | nil =>
    rw [List.flatten_nil, List.append_nil] at h ⊢
    exact ⟨⟨buffer.drop n, []⟩, if_pos h, List.append_nil _⟩
  | cons chunk arriving ih =>
    rw [List.flatten_cons, ← List.append_assoc] at h ⊢
    by_cases hbuffer : n ≤ buffer.length
    · refine ⟨⟨buffer.drop n, chunk :: arriving⟩, ?_, ?_⟩
      · rw [List.append_assoc, List.take_append_of_le_length hbuffer]
        exact if_pos hbuffer
      · rw [List.append_assoc, List.drop_append_of_le_length hbuffer]
        rfl
    · obtain ⟨rest, hread, hrest⟩ := ih (buffer ++ chunk) h
      exact ⟨rest, (if_neg hbuffer).trans hread, hrest⟩

/-- A read the stream cannot serve waits for its end. -/
theorem readExactly_of_lt {ends : StreamEnd} {reader : StreamReader} (h : reader.content.length < n) :
    reader.readExactly ends n =
      match ends with
      | .eof => .incomplete reader.content
      | .cancelled => .cancelled := by
  obtain ⟨buffer, arriving⟩ := reader
  unfold StreamReader.readExactly StreamReader.content at *
  simp only at h ⊢
  induction arriving generalizing buffer with
  | nil =>
    rw [List.flatten_nil, List.append_nil] at h ⊢
    exact if_neg (not_le.mpr h)
  | cons chunk arriving ih =>
    rw [List.flatten_cons, ← List.append_assoc] at h ⊢
    have hbuffer : ¬ n ≤ buffer.length := by
      rw [List.length_append, List.length_append] at h
      omega
    exact (if_neg hbuffer).trans (ih (buffer ++ chunk) h)

end Reads

/-! ## Frames of a stream -/

/-- The stream begins with a frame of this kind and body. -/
def FrameAt (stream : List UInt8) (kind : ℕ) (body rest : List UInt8) : Prop :=
  ∃ header, header.length = frameHeaderBytes ∧ decodeFrameHeader header = (kind, body.length) ∧
    stream = header ++ body ++ rest

/-- A stream begins with one frame at most. -/
theorem FrameAt.unique {stream body body' rest rest' : List UInt8} {kind kind' : ℕ}
    (h : FrameAt stream kind body rest) (h' : FrameAt stream kind' body' rest') :
    kind = kind' ∧ body = body' ∧ rest = rest' := by
  obtain ⟨header, hlength, hdecode, rfl⟩ := h
  obtain ⟨header', hlength', hdecode', hstream⟩ := h'
  rw [List.append_assoc, List.append_assoc] at hstream
  obtain ⟨rfl, hrest⟩ := List.append_inj hstream (hlength.trans hlength'.symm)
  obtain ⟨hkind, hbody⟩ := Prod.mk.inj (hdecode.symm.trans hdecode')
  obtain ⟨rfl, rfl⟩ := List.append_inj hrest hbody
  exact ⟨hkind, rfl, rfl⟩

/-- Behind a frame the stream is shorter. -/
theorem FrameAt.length_lt {stream body rest : List UInt8} {kind : ℕ} (h : FrameAt stream kind body rest) :
    rest.length < stream.length := by
  obtain ⟨header, hlength, -, rfl⟩ := h
  simp only [List.length_append, hlength, frameHeaderBytes]
  omega

/-- A frame of a length the reader takes is read; anything else ends the connection without one. -/
theorem readFrame_cases (ends : StreamEnd) (maxBytes : ℕ) (reader : StreamReader) :
    (∃ kind body rest, FrameAt reader.content kind body rest.content ∧ 0 < body.length ∧
        body.length ≤ maxBytes ∧ readFrame ends maxBytes reader = .frame kind body rest) ∨
      ((∀ kind body rest, FrameAt reader.content kind body rest → body.length = 0 ∨ maxBytes < body.length) ∧
        ∀ kind body rest, readFrame ends maxBytes reader ≠ .frame kind body rest) := by
  rcases lt_or_ge reader.content.length frameHeaderBytes with hshort | hheader
  · refine .inr ⟨?_, ?_⟩
    · rintro kind body rest ⟨header, hlength, -, hstream⟩
      rw [hstream, List.length_append, List.length_append, hlength] at hshort
      omega
    · intro kind body rest
      rw [readFrame, readExactly_of_lt hshort]
      cases ends with
      | eof =>
        simp only
        split <;> exact nofun
      | cancelled => exact nofun
  obtain ⟨afterHeader, hread, hafter⟩ := readExactly_of_le ends hheader
  rw [readFrame, hread]
  have hlength : (reader.content.take frameHeaderBytes).length = frameHeaderBytes :=
    List.length_take_of_le hheader
  cases hdecode : decodeFrameHeader (reader.content.take frameHeaderBytes) with
  | mk kind length =>
  simp only [hdecode]
  -- every frame at the front has the header that was read
  have hframe : ∀ kind' body rest, FrameAt reader.content kind' body rest →
      body.length = length ∧ body.length ≤ afterHeader.content.length := by
    rintro kind' body rest ⟨header, hlength', hdecode', hstream⟩
    rw [List.append_assoc] at hstream
    have htake : reader.content.take frameHeaderBytes = header := by
      rw [hstream, ← hlength', List.take_left]
    have hdrop : afterHeader.content = body ++ rest := by
      rw [hafter, hstream, ← hlength', List.drop_left]
    rw [htake] at hdecode
    obtain ⟨-, hbody⟩ := Prod.mk.inj (hdecode'.symm.trans hdecode)
    refine ⟨hbody, ?_⟩
    rw [hdrop, List.length_append]
    exact Nat.le_add_right _ _
  split_ifs with hzero hlong
  · refine .inr ⟨fun kind' body rest h => .inl ((hframe _ _ _ h).1.trans hzero), ?_⟩
    exact nofun
  · refine .inr ⟨fun kind' body rest h => .inr ?_, ?_⟩
    · rwa [(hframe _ _ _ h).1]
    · exact nofun
  · rcases lt_or_ge afterHeader.content.length length with hcut | hbody
    · refine .inr ⟨fun kind' body rest h => ?_, ?_⟩
      · obtain ⟨heq, hle⟩ := hframe _ _ _ h
        omega
      · rw [readExactly_of_lt hcut]
        cases ends <;> exact nofun
    · obtain ⟨afterBody, hread', hafter'⟩ := readExactly_of_le ends hbody
      rw [hread']
      have hbodyLength : (afterHeader.content.take length).length = length := List.length_take_of_le hbody
      refine .inl ⟨kind, afterHeader.content.take length, afterBody, ?_, ?_, ?_, rfl⟩
      · refine ⟨reader.content.take frameHeaderBytes, hlength, ?_, ?_⟩
        · rw [hbodyLength, hdecode]
        · rw [hafter', List.append_assoc, List.take_append_drop, hafter, List.take_append_drop]
      · omega
      · omega

/-- A round that enqueues has taken a frame off the stream. -/
theorem handleOne_enqueues {py : Interpreter} {ends : StreamEnd} {reader rest : StreamReader} {item : QueueItem}
    (h : handleOne py ends reader = .enqueues item rest) :
    ∃ kind body, FrameAt reader.content kind body rest.content ∧ handleFrame py kind body = .ok item := by
  unfold handleOne at h
  rcases readFrame_cases ends maxSnapshotFrameBytes reader with ⟨kind, body, next, hframe, -, -, hread⟩ | ⟨-, hread⟩
  · rw [hread] at h
    simp only at h
    split at h
    · rename_i item' hitem
      cases h
      exact ⟨kind, body, hframe, hitem⟩
    · cases h
  · split at h
    case h_5 => exact absurd ‹_› (hread _ _ _)
    all_goals cases h

/-- `_handle_connection`: the items it enqueues, and how it ends. -/
def handleConnection (py : Interpreter) (ends : StreamEnd) (reader : StreamReader) : List QueueItem × Ending :=
  match _h : handleOne py ends reader with
  | .closes ending => ([], ending)
  | .enqueues item rest =>
    let (items, ending) := handleConnection py ends rest
    (item :: items, ending)
termination_by reader.content.length
decreasing_by
  obtain ⟨_, _, hframe, -⟩ := handleOne_enqueues _h
  exact hframe.length_lt

section Rounds

variable {py : Interpreter} {ends : StreamEnd} {reader : StreamReader}

theorem handleConnection_of_closes {ending : Ending} (h : handleOne py ends reader = .closes ending) :
    handleConnection py ends reader = ([], ending) := by
  rw [handleConnection]
  split
  · rename_i hround
    cases h.symm.trans hround
    rfl
  · rename_i hround
    cases h.symm.trans hround

theorem handleConnection_of_enqueues {item : QueueItem} {rest : StreamReader}
    (h : handleOne py ends reader = .enqueues item rest) :
    handleConnection py ends reader =
      (item :: (handleConnection py ends rest).1, (handleConnection py ends rest).2) := by
  rw [handleConnection]
  split
  · rename_i hround
    cases h.symm.trans hround
  · rename_i hround
    cases h.symm.trans hround
    rfl

end Rounds

/-! ## Well-formed frames -/

/-- A frame of the protocol and the message it carries. -/
inductive WellFormedFrame (py : Interpreter) : ℕ → List UInt8 → QueueItem → Prop where
  | detection {body : List UInt8} {text : List Char} {parsed : JsonDict} :
      0 < body.length → body.length ≤ maxFrameBytes → decodeUtf8 body = some text →
      loads py text = .ok (.dict parsed) →
      supportedSchemaVersions.any (bodySchemaVersion parsed).eqInt = true →
      WellFormedFrame py frameKindDetection body (.detection parsed)
  | snapshot {lengthPrefix eventIdBytes data : List UInt8} {eventId : List Char} :
      lengthPrefix.length = snapshotEventIdLengthPrefixBytes →
      fromBytes lengthPrefix = eventIdBytes.length → decodeUtf8 eventIdBytes = some eventId →
      (lengthPrefix ++ eventIdBytes ++ data).length ≤ maxSnapshotFrameBytes →
      WellFormedFrame py frameKindSnapshot (lengthPrefix ++ eventIdBytes ++ data) (.snapshot eventId data)

/-- A malformed frame the reader does not reject: a body the JSON decoder gives up on with an exception of
its own, one whose schema version cannot be looked up, and a snapshot that ends inside its event id. -/
inductive Overlooked (py : Interpreter) : ℕ → List UInt8 → Prop where
  | undecodable {body : List UInt8} {text : List Char} {e : JsonError} :
      0 < body.length → body.length ≤ maxFrameBytes → decodeUtf8 body = some text →
      loads py text = .error e → e ≠ .jsonDecodeError → Overlooked py frameKindDetection body
  | unhashable {body : List UInt8} {text : List Char} {parsed : JsonDict} :
      0 < body.length → body.length ≤ maxFrameBytes → decodeUtf8 body = some text →
      loads py text = .ok (.dict parsed) → (bodySchemaVersion parsed).isHashable = false →
      Overlooked py frameKindDetection body
  | cutEventId {body : List UInt8} {eventId : List Char} :
      0 < body.length → body.length ≤ maxSnapshotFrameBytes → ¬ HoldsItsEventId body →
      decodeUtf8 (body.drop snapshotEventIdLengthPrefixBytes) = some eventId →
      Overlooked py frameKindSnapshot body

section Frames

variable {py : Interpreter} {kind : ℕ} {body : List UInt8}

theorem WellFormedFrame.length {item : QueueItem} (h : WellFormedFrame py kind body item) :
    0 < body.length ∧ body.length ≤ maxSnapshotFrameBytes := by
  cases h with
  | detection hpos hfits _ _ _ => exact ⟨hpos, hfits.trans (by decide)⟩
  | snapshot hstart _ _ hfits =>
    refine ⟨?_, hfits⟩
    rw [List.append_assoc, List.length_append, hstart]
    exact Nat.add_pos_left (by decide) _

theorem Overlooked.length (h : Overlooked py kind body) :
    0 < body.length ∧ body.length ≤ maxSnapshotFrameBytes := by
  cases h with
  | undecodable hpos hfits _ _ _ => exact ⟨hpos, hfits.trans (by decide)⟩
  | unhashable hpos hfits _ _ _ => exact ⟨hpos, hfits.trans (by decide)⟩
  | cutEventId hpos hfits _ _ => exact ⟨hpos, hfits⟩

/-- A value that equals an integer can be hashed. -/
theorem isHashable_of_eqInt {v : JsonValue} {n : ℤ} (h : v.eqInt n = true) : v.isHashable = true := by
  cases v with
  | list items => cases h
  | dict items => cases h
  | _ => rfl

theorem parseDetectionBody_of_decoded {text : List Char} (hutf8 : decodeUtf8 body = some text) :
    parseDetectionBody py body =
      match loads py text with
      | .error .jsonDecodeError => .error (.rejected "invalid_json")
      | .error .valueError => .error (.raised .valueError)
      | .error .recursionError => .error (.raised .recursionError)
      | .ok (.dict parsed) =>
        match isSupported (bodySchemaVersion parsed) with
        | .error e => .error (.raised e)
        | .ok true => .ok parsed
        | .ok false => .error (.rejected "unsupported_schema_version")
      | .ok _ => .error (.rejected "invalid_json_shape") := by
  simp only [parseDetectionBody, hutf8]

theorem handleFrame_detection (h : body.length ≤ maxFrameBytes) :
    handleFrame py frameKindDetection body =
      match parseDetectionBody py body with
      | .error (.rejected _) => .error .returned
      | .error (.raised e) => .error (.raised e)
      | .ok payload => .ok (.detection payload) := by
  have hkind : ¬ frameKindDetection = frameKindSnapshot := by decide
  rw [handleFrame, if_neg hkind, if_neg (not_not.mpr rfl), if_neg (not_lt.mpr h)]

/-- A well-formed frame is enqueued. -/
theorem handleFrame_of_wellFormed {item : QueueItem} (h : WellFormedFrame py kind body item) :
    handleFrame py kind body = .ok item := by
  cases h with
  | detection _ hlength hutf8 hjson hversion =>
    obtain ⟨version, -, heq⟩ := List.any_eq_true.mp hversion
    have hhash := isHashable_of_eqInt heq
    rw [handleFrame_detection hlength, parseDetectionBody_of_decoded hutf8]
    simp only [hjson, isSupported, hhash, hversion, if_true]
  | @snapshot lengthPrefix eventIdBytes data eventId hstart hid hutf8 _ =>
    have htake : (lengthPrefix ++ eventIdBytes ++ data).take snapshotEventIdLengthPrefixBytes = lengthPrefix := by
      rw [List.append_assoc, ← hstart, List.take_left]
    have hdrop : (lengthPrefix ++ eventIdBytes ++ data).drop snapshotEventIdLengthPrefixBytes =
        eventIdBytes ++ data := by
      rw [List.append_assoc, ← hstart, List.drop_left]
    have hclaimed : claimedLength (lengthPrefix ++ eventIdBytes ++ data) = eventIdBytes.length := by
      rw [claimedLength, htake, hid]
    have hdata : (lengthPrefix ++ eventIdBytes ++ data).drop
        (snapshotEventIdLengthPrefixBytes + eventIdBytes.length) = data := by
      rw [← List.drop_drop, hdrop, List.drop_left]
    simp only [handleFrame, if_true, decodeSnapshotMessage, hclaimed, hdrop, List.take_left, hutf8, hdata,
      Option.map_some]

/-- A body that holds its event id is a length prefix, the event id and the rest. -/
theorem wellFormed_of_holdsItsEventId {eventId : List Char} (hlength : body.length ≤ maxSnapshotFrameBytes)
    (hholds : HoldsItsEventId body)
    (hutf8 : decodeUtf8 ((body.drop snapshotEventIdLengthPrefixBytes).take (claimedLength body)) = some eventId) :
    WellFormedFrame py frameKindSnapshot body
      (.snapshot eventId (body.drop (snapshotEventIdLengthPrefixBytes + claimedLength body))) := by
  unfold HoldsItsEventId at hholds
  have hbody : body.take snapshotEventIdLengthPrefixBytes ++
      (body.drop snapshotEventIdLengthPrefixBytes).take (claimedLength body) ++
      body.drop (snapshotEventIdLengthPrefixBytes + claimedLength body) = body := by
    rw [List.append_assoc, ← List.drop_drop, List.take_append_drop, List.take_append_drop]
  have hframe := @WellFormedFrame.snapshot py (body.take snapshotEventIdLengthPrefixBytes)
    ((body.drop snapshotEventIdLengthPrefixBytes).take (claimedLength body))
    (body.drop (snapshotEventIdLengthPrefixBytes + claimedLength body)) eventId
    (List.length_take_of_le (by omega))
    (by rw [List.length_take_of_le (by rw [List.length_drop]; omega)]; rfl) hutf8 (by rw [hbody]; exact hlength)
  rwa [hbody] at hframe

/-- A frame of the protocol holds its event id. -/
theorem holdsItsEventId_of_wellFormed {item : QueueItem} (h : WellFormedFrame py frameKindSnapshot body item) :
    HoldsItsEventId body := by
  obtain ⟨kind', hkind⟩ : ∃ kind', frameKindSnapshot = kind' := ⟨_, rfl⟩
  rw [hkind] at h
  cases h with
  | detection => cases hkind
  | @snapshot lengthPrefix eventIdBytes data _ hstart hid _ _ =>
    unfold HoldsItsEventId claimedLength
    rw [List.append_assoc, ← hstart, List.take_left, hid, List.length_append, List.length_append]
    omega

/-- An overlooked frame is no frame of the protocol, and raises or is enqueued. -/
theorem handleFrame_of_overlooked (h : Overlooked py kind body) :
    (∀ item, ¬ WellFormedFrame py kind body item) ∧
      ((∃ e, handleFrame py kind body = .error (.raised e)) ∨ ∃ item, handleFrame py kind body = .ok item) := by
  have hraised : ∀ e, handleFrame py kind body = .error (.raised e) →
      ∀ item, ¬ WellFormedFrame py kind body item := by
    intro e he item hframe
    rw [handleFrame_of_wellFormed hframe] at he
    cases he
  cases h with
  | @undecodable _ text e _ hlength hutf8 hjson hne =>
    have hraises : ∃ e, handleFrame py frameKindDetection body = .error (.raised e) := by
      rw [handleFrame_detection hlength, parseDetectionBody_of_decoded hutf8, hjson]
      cases e with
      | jsonDecodeError => exact absurd rfl hne
      | recursionError => exact ⟨.recursionError, rfl⟩
      | valueError => exact ⟨.valueError, rfl⟩
    obtain ⟨e, he⟩ := hraises
    exact ⟨hraised e he, .inl ⟨e, he⟩⟩
  | unhashable _ hlength hutf8 hjson hhash =>
    have hraises : handleFrame py frameKindDetection body = .error (.raised .typeError) := by
      rw [handleFrame_detection hlength, parseDetectionBody_of_decoded hutf8]
      simp only [hjson, isSupported, hhash, Bool.false_eq_true, if_false]
    exact ⟨hraised _ hraises, .inl ⟨_, hraises⟩⟩
  | @cutEventId _ eventId _ _ hcut hutf8 =>
    refine ⟨fun item hframe => hcut (holdsItsEventId_of_wellFormed hframe), .inr ?_⟩
    have htake : (body.drop snapshotEventIdLengthPrefixBytes).take (claimedLength body) =
        body.drop snapshotEventIdLengthPrefixBytes := by
      refine List.take_of_length_le ?_
      unfold HoldsItsEventId at hcut
      rw [List.length_drop]
      omega
    simp only [handleFrame, if_true, decodeSnapshotMessage, htake, hutf8, Option.map_some]
    exact ⟨_, rfl⟩

/-- Every other frame is well formed and enqueued, or ends the connection without an exception. -/
theorem handleFrame_cases (hpos : 0 < body.length) (hlength : body.length ≤ maxSnapshotFrameBytes)
    (h : ¬ Overlooked py kind body) :
    (∃ item, WellFormedFrame py kind body item) ∨ handleFrame py kind body = .error .returned := by
  by_cases hsnapshot : kind = frameKindSnapshot
  · subst hsnapshot
    cases hutf8 : decodeUtf8 ((body.drop snapshotEventIdLengthPrefixBytes).take (claimedLength body)) with
    | none =>
      right
      simp only [handleFrame, if_true, decodeSnapshotMessage, hutf8, Option.map_none]
    | some eventId =>
      by_cases hholds : HoldsItsEventId body
      · exact .inl ⟨_, wellFormed_of_holdsItsEventId hlength hholds hutf8⟩
      · refine absurd (Overlooked.cutEventId hpos hlength hholds (?_ : _ = some eventId)) h
        rwa [List.take_of_length_le] at hutf8
        unfold HoldsItsEventId at hholds
        rw [List.length_drop]
        omega
  by_cases hdetection : kind = frameKindDetection
  · subst hdetection
    rcases lt_or_ge maxFrameBytes body.length with hlong | hfits
    · right
      rw [handleFrame, if_neg hsnapshot, if_neg (not_not.mpr rfl), if_pos hlong]
    rw [handleFrame_detection hfits]
    cases hutf8 : decodeUtf8 body with
    | none =>
      right
      simp only [parseDetectionBody, hutf8]
    | some text =>
      rw [parseDetectionBody_of_decoded hutf8]
      cases hjson : loads py text with
      | error e =>
        cases e with
        | jsonDecodeError => exact .inr rfl
        | recursionError => exact absurd (.undecodable hpos hfits hutf8 hjson nofun) h
        | valueError => exact absurd (.undecodable hpos hfits hutf8 hjson nofun) h
      | ok v =>
        cases v with
        | dict parsed =>
          cases hhash : (bodySchemaVersion parsed).isHashable with
          | false => exact absurd (.unhashable hpos hfits hutf8 hjson hhash) h
          | true =>
            cases hversion : supportedSchemaVersions.any (bodySchemaVersion parsed).eqInt with
            | false =>
              right
              simp only [isSupported, hhash, if_true, hversion]
            | true => exact .inl ⟨_, .detection hpos hfits hutf8 hjson hversion⟩
        | _ => exact .inr rfl
  · right
    rw [handleFrame, if_neg hsnapshot, if_pos hdetection]

end Frames

/-! ## Connections -/

/-- The stream is a number of well-formed frames, which carry these items, and a tail. -/
inductive Splits (py : Interpreter) : List UInt8 → List QueueItem → List UInt8 → Prop where
  | nil (stream : List UInt8) : Splits py stream [] stream
  | frame {stream body rest tail : List UInt8} {kind : ℕ} {item : QueueItem} {items : List QueueItem} :
      FrameAt stream kind body rest → WellFormedFrame py kind body item → Splits py rest items tail →
      Splits py stream (item :: items) tail

/-- The stream does not begin with a well-formed frame. -/
def Unframed (py : Interpreter) (stream : List UInt8) : Prop :=
  ∀ kind body rest item, FrameAt stream kind body rest → ¬ WellFormedFrame py kind body item

/-- The connection ended without an exception, and these are the items of the well-formed frames in front of
the first malformed one. -/
def ReadAsSent (py : Interpreter) (stream : List UInt8) (result : List QueueItem × Ending) : Prop :=
  (∀ e, result.2 ≠ .raised e) ∧ ∃ tail, Splits py stream result.1 tail ∧ Unframed py tail

section Connections

variable {py : Interpreter} {ends : StreamEnd}

/-- In front of a well-formed frame a stream splits into that frame and the rest. -/
theorem splits_frame_iff {stream body rest tail : List UInt8} {kind : ℕ} {item first : QueueItem}
    {items : List QueueItem} (hframe : FrameAt stream kind body rest)
    (hitem : WellFormedFrame py kind body item) :
    Splits py stream (first :: items) tail ↔ first = item ∧ Splits py rest items tail := by
  constructor
  · intro h
    cases h with
    | frame hframe' hitem' hrest =>
      obtain ⟨rfl, rfl, rfl⟩ := hframe.unique hframe'
      have heq := (handleFrame_of_wellFormed hitem').symm.trans (handleFrame_of_wellFormed hitem)
      exact ⟨Except.ok.inj heq, hrest⟩
  · rintro ⟨rfl, hrest⟩
    exact .frame hframe hitem hrest

/-- A stream that does not begin with a well-formed frame is its own tail. -/
theorem Unframed.splits {stream tail : List UInt8} {items : List QueueItem} (h : Unframed py stream)
    (hsplits : Splits py stream items tail) : items = [] ∧ tail = stream := by
  cases hsplits with
  | nil => exact ⟨rfl, rfl⟩
  | frame hframe hitem _ => exact absurd hitem (h _ _ _ _ hframe)

/-- A round that reads no well-formed frame and raises nothing ends the connection as it should. -/
theorem readAsSent_of_closes {reader : StreamReader} {ending : Ending}
    (hround : handleOne py ends reader = .closes ending) (hraises : ∀ e, ending ≠ .raised e)
    (hunframed : Unframed py reader.content) :
    ReadAsSent py reader.content (handleConnection py ends reader) := by
  rw [handleConnection_of_closes hround]
  exact ⟨hraises, reader.content, .nil _, hunframed⟩

/-- Behind a well-formed frame the connection is that of the rest of the stream. -/
theorem readAsSent_of_enqueues {reader rest : StreamReader} {kind : ℕ} {body : List UInt8} {item : QueueItem}
    (hround : handleOne py ends reader = .enqueues item rest)
    (hframe : FrameAt reader.content kind body rest.content) (hitem : WellFormedFrame py kind body item) :
    ReadAsSent py reader.content (handleConnection py ends reader) ↔
      ReadAsSent py rest.content (handleConnection py ends rest) := by
  rw [handleConnection_of_enqueues hround]
  refine and_congr_right fun _ => exists_congr fun tail => and_congr_left fun _ => ?_
  exact (splits_frame_iff hframe hitem).trans (and_iff_right rfl)

/-- An overlooked frame is enqueued or ends the connection with an exception. -/
theorem not_readAsSent_of_overlooked {reader rest : StreamReader} {kind : ℕ} {body : List UInt8}
    (hread : readFrame ends maxSnapshotFrameBytes reader = .frame kind body rest)
    (hframe : FrameAt reader.content kind body rest.content) (h : Overlooked py kind body) :
    ¬ ReadAsSent py reader.content (handleConnection py ends reader) := by
  obtain ⟨hmalformed, hround⟩ := handleFrame_of_overlooked h
  have hunframed : Unframed py reader.content := by
    intro kind' body' rest' item hframe'
    obtain ⟨rfl, rfl, -⟩ := hframe.unique hframe'
    exact hmalformed item
  rintro ⟨hraises, tail, hsplits, -⟩
  rcases hround with ⟨e, he⟩ | ⟨item, hitem⟩
  · have hone : handleOne py ends reader = .closes (.raised e) := by
      simp only [handleOne, hread, he]
    rw [handleConnection_of_closes hone] at hraises
    exact hraises e rfl
  · have hone : handleOne py ends reader = .enqueues item rest := by
      simp only [handleOne, hread, hitem]
    rw [handleConnection_of_enqueues hone] at hsplits
    exact nomatch (hunframed.splits hsplits).1

/-- **A connection ends without an exception, with exactly the messages of the well-formed frames in front
of the first malformed one, if and only if that one is not overlooked.** -/
theorem connection_read_iff (py : Interpreter) (ends : StreamEnd) (reader : StreamReader) :
    ReadAsSent py reader.content (handleConnection py ends reader) ↔
      ∀ items tail kind body rest, Splits py reader.content items tail → FrameAt tail kind body rest →
        ¬ Overlooked py kind body := by
  induction hlength : reader.content.length using Nat.strong_induction_on generalizing reader with
  | _ length ih =>
  subst hlength
  -- where the stream begins with no well-formed frame, its first frame is the one that counts
  have hstops : Unframed py reader.content →
      (∀ kind body rest, FrameAt reader.content kind body rest → ¬ Overlooked py kind body) →
      ∀ items tail kind body rest, Splits py reader.content items tail → FrameAt tail kind body rest →
        ¬ Overlooked py kind body := by
    intro hunframed hfirst items tail kind body rest hsplits hframe
    obtain ⟨-, rfl⟩ := hunframed.splits hsplits
    exact hfirst _ _ _ hframe
  rcases readFrame_cases ends maxSnapshotFrameBytes reader with
    ⟨kind, body, rest, hframe, hpos, hfits, hread⟩ | ⟨hnone, hread⟩
  · by_cases hoverlooked : Overlooked py kind body
    · exact iff_of_false (not_readAsSent_of_overlooked hread hframe hoverlooked) fun h =>
        h [] _ _ _ _ (.nil _) hframe hoverlooked
    rcases handleFrame_cases hpos hfits hoverlooked with ⟨item, hitem⟩ | hreturned
    · have hround : handleOne py ends reader = .enqueues item rest := by
        simp only [handleOne, hread, handleFrame_of_wellFormed hitem]
      rw [readAsSent_of_enqueues hround hframe hitem, ih _ hframe.length_lt rest rfl]
      constructor
      · intro h items tail kind' body' rest' hsplits hframe'
        cases hsplits with
        | nil =>
          obtain ⟨rfl, rfl, -⟩ := hframe.unique hframe'
          exact hoverlooked
        | frame hfirst _ hrest =>
          obtain ⟨rfl, rfl, rfl⟩ := hframe.unique hfirst
          exact h _ _ _ _ _ hrest hframe'
      · intro h items tail kind' body' rest' hsplits hframe'
        exact h _ _ _ _ _ (.frame hframe hitem hsplits) hframe'
    · have hunframed : Unframed py reader.content := by
        intro kind' body' rest' item hframe' hitem
        obtain ⟨rfl, rfl, -⟩ := hframe.unique hframe'
        cases (handleFrame_of_wellFormed hitem).symm.trans hreturned
      have hround : handleOne py ends reader = .closes .returned := by
        simp only [handleOne, hread, hreturned]
      refine iff_of_true (readAsSent_of_closes hround nofun hunframed) (hstops hunframed ?_)
      intro kind' body' rest' hframe'
      obtain ⟨rfl, rfl, -⟩ := hframe.unique hframe'
      exact hoverlooked
  · have hunframed : Unframed py reader.content := by
      intro kind body rest item hframe hitem
      have hlength := hitem.length
      have hbad := hnone _ _ _ hframe
      omega
    have hround : ∃ ending, handleOne py ends reader = .closes ending ∧ ∀ e, ending ≠ .raised e := by
      unfold handleOne
      split
      case h_5 => exact absurd ‹_› (hread _ _ _)
      all_goals exact ⟨_, rfl, nofun⟩
    obtain ⟨ending, hround, hraises⟩ := hround
    refine iff_of_true (readAsSent_of_closes hround hraises hunframed) (hstops hunframed ?_)
    intro kind body rest hframe hoverlooked
    have hlength := hoverlooked.length
    have hbad := hnone _ _ _ hframe
    omega

end Connections

/-- The limits CPython starts with. -/
def defaultLimits : Interpreter := ⟨1000, 4300⟩

/-- A detection frame whose schema version is an empty array. -/
def arrayVersionFrame : List UInt8 :=
  [1, 0, 0, 0, 21] ++ encodeUtf8 "\x7b\"schema_version\":[]\x7d".toList

/-- An array cannot be looked up in `SUPPORTED_SCHEMA_VERSIONS`: the connection ends with `TypeError`. -/
theorem array_version_raises :
    ¬ ReadAsSent defaultLimits (StreamReader.content ⟨[], [arrayVersionFrame]⟩)
      (handleConnection defaultLimits .eof ⟨[], [arrayVersionFrame]⟩) := by
  have hround : (handleOne defaultLimits .eof ⟨[], [arrayVersionFrame]⟩).ending? = some (.raised .typeError) := by
    decide +kernel
  rintro ⟨hraises, -⟩
  rw [handleConnection_of_closes (closes_of_ending? hround)] at hraises
  exact hraises .typeError rfl

end WeaponDetection.Agent.Detection
