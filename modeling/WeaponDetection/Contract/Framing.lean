import WeaponDetection.Foundations.Json
import WeaponDetection.Agent.Detection.Ingest

/-!
# Frames on the detection socket

The framing both sides of the Unix domain socket duplicate (`detection/protocol.py` of the Agent,
`deepstream_bridge/protocol.py` of the Bridge), and the acknowledgement frame `_send_ack` writes.

The body of an acknowledgement is printable ASCII, which is what tells its bytes from a frame kind.
-/

namespace WeaponDetection.Contract

open WeaponDetection.Foundations.Python
open WeaponDetection.Foundations.Bytes
open WeaponDetection.Foundations.Json
open WeaponDetection.Agent.Detection (Ack)

/-! ## Frames -/

/-- `FRAME_KIND_ACKNOWLEDGEMENT`. -/
def frameKindAcknowledgement : ℕ := 3

/-- `FRAME_HEADER_BYTES`: one byte of kind and four of length. -/
def frameHeaderBytes : ℕ := 5

/-- `MAX_FRAME_BYTES`. -/
def maxFrameBytes : ℕ := 65536

/-- `encode_frame`. -/
def encodeFrame (payload : List UInt8) (kind : ℕ) : Except PyError (List UInt8) := do
  let kindBytes ← toBytes kind 1
  let lengthBytes ← toBytes payload.length 4
  return kindBytes ++ lengthBytes ++ payload

/-- `decode_frame_header`. -/
def decodeFrameHeader (header : List UInt8) : ℕ × ℕ :=
  (fromBytes (header.take 1), fromBytes (header.drop 1))

@[simp] theorem decodeFrameHeader_five (k a b c d : UInt8) :
    decodeFrameHeader [k, a, b, c, d] =
      (k.toNat, ((a.toNat * 256 + b.toNat) * 256 + c.toNat) * 256 + d.toNat) := by
  simp [decodeFrameHeader, fromBytes]

/-- The kind of a header is its first byte. -/
theorem decodeFrameHeader_cons (k : UInt8) (rest : List UInt8) :
    decodeFrameHeader (k :: rest) = (k.toNat, fromBytes rest) := by
  simp [decodeFrameHeader, fromBytes]

/-! ## Acknowledgements -/

/-- The dictionary `_send_ack` builds. -/
def ackBody (a : Ack) : List (String × Scalar) :=
  [("messageId", .str a.messageId), ("outcome", .str a.outcome),
    ("snapshotRequired", .bool a.snapshotRequired)] ++
  (a.eventId.map fun e => ("eventId", Scalar.str (uuidText e))).toList ++
  (a.errorCode.map fun e => ("errorCode", Scalar.str e)).toList

/-- The acknowledgement as a decoded message. -/
def ackMessage (a : Ack) : PyValue := flatDict (ackBody a)

/-- `json.dumps(body).encode("utf-8")`. -/
def ackPayload (a : Ack) : List UInt8 := encodeUtf8 (dumps (ackBody a))

/-- What `_send_ack` puts on the wire: a body too long for its length prefix raises, and the
exception is swallowed before anything is written. -/
def sendAck (a : Ack) : List UInt8 :=
  match encodeFrame (ackPayload a) frameKindAcknowledgement with
  | .ok frame => frame
  | .error _ => []

/-- `decode_acknowledgement`, `none` for `ValueError` and `UnicodeDecodeError`. -/
def decodeAcknowledgement (body : List UInt8) : Option PyValue := (decodeUtf8 body).bind loads

/-- The length of the body fits the length prefix. -/
def Writable (a : Ack) : Prop := (ackPayload a).length < 256 ^ 4

instance (a : Ack) : Decidable (Writable a) := inferInstanceAs (Decidable (_ < _))

/-- The five bytes in front of a body. -/
def ackHeader (a : Ack) : List UInt8 :=
  let n := (ackPayload a).length
  [3, UInt8.ofNat (n / 256 ^ 3), UInt8.ofNat (n / 256 ^ 2), UInt8.ofNat (n / 256), UInt8.ofNat n]

theorem sendAck_of_writable {a : Ack} (h : Writable a) :
    sendAck a = ackHeader a ++ ackPayload a := by
  unfold sendAck encodeFrame
  rw [toBytes_four h]
  rfl

theorem sendAck_of_not_writable {a : Ack} (h : ¬ Writable a) : sendAck a = [] := by
  have hlength : toBytes (ackPayload a).length 4 = .error .overflowError := if_neg h
  unfold sendAck encodeFrame
  rw [hlength]
  rfl

/-- The header of a frame says what follows it. -/
theorem decodeFrameHeader_ackHeader {a : Ack} (h : Writable a) :
    decodeFrameHeader (ackHeader a) = (frameKindAcknowledgement, (ackPayload a).length) := by
  unfold ackHeader
  rw [decodeFrameHeader_cons, fromBytes_toBytes_four h]
  rfl

/-! ## The text of an acknowledgement -/

theorem dumps_ackBody_ascii {a : Ack} {c : Char} (h : c ∈ dumps (ackBody a)) : IsAscii c :=
  (dumps_printable h).isAscii

/-- **An acknowledgement decodes to the dictionary it was written from.** -/
theorem decodeAcknowledgement_ackPayload (a : Ack) :
    decodeAcknowledgement (ackPayload a) = some (ackMessage a) := by
  rw [decodeAcknowledgement, ackPayload, decodeUtf8_encodeUtf8_ascii fun _ => dumps_ackBody_ascii]
  exact loads_dumps _

/-- No byte of a body is the kind of an acknowledgement frame. -/
theorem ackPayload_ne_kind {a : Ack} {b : UInt8} (h : b ∈ ackPayload a) : b ≠ 3 := by
  rw [ackPayload, encodeUtf8_ascii fun _ => dumps_ackBody_ascii] at h
  obtain ⟨c, hc, rfl⟩ := List.mem_map.mp h
  have hrange := dumps_printable hc
  intro hb
  have hnat := congrArg UInt8.toNat hb
  rw [UInt8.toNat_ofNat', Nat.mod_eq_of_lt (lt_of_le_of_lt hrange.2 (by decide))] at hnat
  have : (3 : UInt8).toNat = 3 := rfl
  have := hrange.1
  omega

/-- The characters every body begins with. -/
def ackOpening : List Char := "\x7b\"messageId\": ".toList

/-- Every body begins with its opening brace and the first key. -/
theorem ackPayload_eq (a : Ack) :
    ∃ rest, ackPayload a = encodeUtf8 ackOpening ++ rest := by
  obtain ⟨next, members, hbody⟩ : ∃ next members,
      ackBody a = ("messageId", .str a.messageId) :: next :: members := ⟨_, _, rfl⟩
  obtain ⟨rest, hrest⟩ : ∃ rest, dumps (ackBody a) = ackOpening ++ rest := by
    have hkey : dumpString "messageId" = ackOpening.tail.take 11 := by decide
    refine ⟨dumpScalar (.str a.messageId) ++ ',' :: ' ' :: dumpMembers (next :: members), ?_⟩
    rw [hbody, dumps, dumpMembers, dumpMember, hkey, List.append_assoc]
    · rfl
    · intro h
      cases h
  refine ⟨encodeUtf8 rest, ?_⟩
  rw [ackPayload, hrest]
  exact List.flatMap_append

end WeaponDetection.Contract
