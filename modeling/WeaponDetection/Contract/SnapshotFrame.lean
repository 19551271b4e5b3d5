import WeaponDetection.Contract.Framing
import WeaponDetection.Foundations.JsonDecoder

/-!
# Snapshot frames

`encode_snapshot_message` and `decode_snapshot_message`, which both sides of the socket duplicate: a body is
two bytes of length, the event id and the JPEG.  The encoder raises for an event id that has no UTF-8 form
and for lengths that do not fit their prefixes; the decoder slices, and takes a body that ends early for a
shorter event id.
-/

namespace WeaponDetection.Contract

open WeaponDetection.Foundations.Bytes
open WeaponDetection.Foundations.Json (charOf)
open WeaponDetection.Foundations.JsonDecoder (PyStr)

/-- `FRAME_KIND_DETECTION`. -/
def frameKindDetection : ℕ := 1

/-- `FRAME_KIND_SNAPSHOT`. -/
def frameKindSnapshot : ℕ := 2

/-- `MAX_SNAPSHOT_FRAME_BYTES`. -/
def maxSnapshotFrameBytes : ℕ := 5 * 1024 * 1024 + 4096

/-- `SNAPSHOT_EVENT_ID_LENGTH_PREFIX_BYTES`. -/
def snapshotEventIdLengthPrefixBytes : ℕ := 2

/-- What the encoders raise. -/
inductive EncodeError where
  | unicodeEncodeError
  | overflowError
  deriving DecidableEq

/-- `text.encode("utf-8")`: raises for a lone surrogate. -/
def encodeStr (text : PyStr) : Except EncodeError (List UInt8) :=
  match text.mapM charOf with
  | some chars => .ok (encodeUtf8 chars)
  | none => .error .unicodeEncodeError

/-- `encode_frame`, with the exception an encoder ends with. -/
def frameOf (payload : List UInt8) (kind : ℕ) : Except EncodeError (List UInt8) :=
  match encodeFrame payload kind with
  | .ok frame => .ok frame
  | .error _ => .error .overflowError

/-- `encode_snapshot_message`. -/
def encodeSnapshotMessage (eventId : PyStr) (jpegBytes : List UInt8) : Except EncodeError (List UInt8) := do
  let eventIdBytes ← encodeStr eventId
  match toBytes eventIdBytes.length snapshotEventIdLengthPrefixBytes with
  | .ok eventIdLength => frameOf (eventIdLength ++ eventIdBytes ++ jpegBytes) frameKindSnapshot
  | .error _ => .error .overflowError

/-- The length a body claims for its event id. -/
def claimedLength (body : List UInt8) : ℕ := fromBytes (body.take snapshotEventIdLengthPrefixBytes)

/-- `decode_snapshot_message`, `none` for `UnicodeDecodeError`. -/
def decodeSnapshotMessage (body : List UInt8) : Option (List Char × List UInt8) :=
  let length := claimedLength body
  let offset := snapshotEventIdLengthPrefixBytes
  (decodeUtf8 ((body.drop offset).take length)).map fun eventId => (eventId, body.drop (offset + length))

/-- The event id a body claims is all there. -/
def HoldsItsEventId (body : List UInt8) : Prop :=
  snapshotEventIdLengthPrefixBytes + claimedLength body ≤ body.length

instance (body : List UInt8) : Decidable (HoldsItsEventId body) := inferInstanceAs (Decidable (_ ≤ _))

/-! ## What can be encoded -/

/-- `encode_snapshot_message` writes the snapshot: the event id has a UTF-8 form of at most 65535 bytes, and
the body fits the length prefix of a frame. -/
def SnapshotEncodable (eventId : PyStr) (jpegBytes : List UInt8) : Prop :=
  ∃ chars, eventId.mapM charOf = some chars ∧ (encodeUtf8 chars).length < 256 ^ 2 ∧
    snapshotEventIdLengthPrefixBytes + (encodeUtf8 chars).length + jpegBytes.length < 256 ^ 4

instance (eventId : PyStr) (jpegBytes : List UInt8) : Decidable (SnapshotEncodable eventId jpegBytes) :=
  match h : eventId.mapM charOf with
  | none => isFalse (by simp [SnapshotEncodable, h])
  | some chars =>
    decidable_of_iff ((encodeUtf8 chars).length < 256 ^ 2 ∧
      snapshotEventIdLengthPrefixBytes + (encodeUtf8 chars).length + jpegBytes.length < 256 ^ 4)
      (by simp [SnapshotEncodable, h])

theorem toBytes_two {n : ℕ} (h : n < 256 ^ 2) :
    toBytes n 2 = .ok [UInt8.ofNat (n / 256), UInt8.ofNat n] := by
  rw [toBytes, if_pos h]
  simp [List.range_succ]

theorem frameOf_ok {payload : List UInt8} {kind : ℕ} (hkind : kind < 256) (hlength : payload.length < 256 ^ 4) :
    ∃ frame, frameOf payload kind = .ok frame := by
  simp only [frameOf, encodeFrame, toBytes_one hkind, toBytes_four hlength]
  exact ⟨_, rfl⟩

theorem frameOf_too_long {payload : List UInt8} {kind : ℕ} (hkind : kind < 256)
    (hlength : ¬ payload.length < 256 ^ 4) : frameOf payload kind = .error .overflowError := by
  have hraises : toBytes payload.length 4 = .error .overflowError := if_neg hlength
  simp only [frameOf, encodeFrame, toBytes_one hkind, hraises]
  rfl

theorem encodeSnapshotMessage_ok_iff {eventId : PyStr} {jpegBytes : List UInt8} :
    (∃ frame, encodeSnapshotMessage eventId jpegBytes = .ok frame) ↔ SnapshotEncodable eventId jpegBytes := by
  unfold encodeSnapshotMessage SnapshotEncodable encodeStr snapshotEventIdLengthPrefixBytes
  cases eventId.mapM charOf with
  | none => exact ⟨fun ⟨_, h⟩ => (nomatch h), fun ⟨_, h, _⟩ => (nomatch h)⟩
  | some chars =>
    simp only [bind, Except.bind]
    by_cases hid : (encodeUtf8 chars).length < 256 ^ 2
    · rw [toBytes_two hid]
      simp only
      have hbody : ([UInt8.ofNat ((encodeUtf8 chars).length / 256), UInt8.ofNat (encodeUtf8 chars).length] ++
          encodeUtf8 chars ++ jpegBytes).length = 2 + (encodeUtf8 chars).length + jpegBytes.length := by
        simp only [List.length_append, List.length_cons, List.length_nil]
      by_cases hlength : 2 + (encodeUtf8 chars).length + jpegBytes.length < 256 ^ 4
      · exact ⟨fun _ => ⟨chars, rfl, hid, hlength⟩, fun _ => frameOf_ok (by decide) (hbody ▸ hlength)⟩
      · rw [frameOf_too_long (by decide) (hbody ▸ hlength)]
        exact ⟨fun ⟨_, h⟩ => (nomatch h), fun ⟨_, hchars, _, h⟩ => absurd (Option.some.inj hchars ▸ h) hlength⟩
    · have hraises : toBytes (encodeUtf8 chars).length 2 = .error .overflowError := if_neg hid
      rw [hraises]
      exact ⟨fun ⟨_, h⟩ => (nomatch h), fun ⟨_, hchars, h, _⟩ => absurd (Option.some.inj hchars ▸ h) hid⟩

end WeaponDetection.Contract
