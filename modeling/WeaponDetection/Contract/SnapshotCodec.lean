import WeaponDetection.Contract.SnapshotFrame
import WeaponDetection.Foundations.Utf8

/-!
# Snapshot frames in both directions

What the Bridge's encoder writes is read back by the Agent's decoder.  The converse needs the body to hold
the event id it claims: the slices of the decoder stop at the end of the body, and a body that ends early is
accepted with a shorter event id and an empty JPEG.
-/

namespace WeaponDetection.Contract

open WeaponDetection.Foundations.Bytes
open WeaponDetection.Foundations.Json (charOf)
open WeaponDetection.Foundations.JsonDecoder (PyStr)

/-- What a reader has of a frame behind its header. -/
def frameBody (frame : List UInt8) : List UInt8 := frame.drop frameHeaderBytes

/-- The code points of a decoded text. -/
def pyStrOf (text : List Char) : PyStr := text.map Char.toNat

/-- The Agent reads back what the Bridge wrote. -/
def SnapshotRoundTrips (eventId : PyStr) (jpegBytes : List UInt8) : Prop :=
  ∃ frame text, encodeSnapshotMessage eventId jpegBytes = .ok frame ∧ eventId = pyStrOf text ∧
    decodeSnapshotMessage (frameBody frame) = some (text, jpegBytes)

/-- A body the decoder accepts is the one the encoder writes for the result. -/
def AcceptedAsWritten (body : List UInt8) : Prop :=
  ∀ text jpegBytes, decodeSnapshotMessage body = some (text, jpegBytes) →
    ∃ frame, encodeSnapshotMessage (pyStrOf text) jpegBytes = .ok frame ∧ frameBody frame = body

/-- The bytes the decoder takes for the event id: the claimed length, or what the body has of it. -/
def eventIdSlice (body : List UInt8) : List UInt8 :=
  (body.drop snapshotEventIdLengthPrefixBytes).take (claimedLength body)

/-! ## The encoder -/

theorem mapM_charOf_pyStrOf (text : List Char) : (pyStrOf text).mapM charOf = some text := by
  induction text with
  | nil => rfl
  | cons c text ih =>
    have hc : charOf c.toNat = some c := by
      rw [charOf, if_pos (show c.toNat.isValidChar from c.valid), Char.ofNat_toNat]
    simp only [pyStrOf] at ih
    simp [pyStrOf, hc, ih]

theorem pyStrOf_of_mapM {eventId : PyStr} {text : List Char} (h : eventId.mapM charOf = some text) :
    eventId = pyStrOf text := by
  induction eventId generalizing text with
  | nil =>
    cases h
    rfl
  | cons u eventId ih =>
    rw [List.mapM_cons] at h
    obtain ⟨c, hc, hrest⟩ := Option.bind_eq_some_iff.1 h
    obtain ⟨cs, hcs, htext⟩ := Option.bind_eq_some_iff.1 hrest
    cases htext
    -- a code point is the number of the character it stands for
    obtain ⟨hvalid, rfl⟩ : u.isValidChar ∧ Char.ofNat u = c := by
      simpa [charOf] using hc
    simp [pyStrOf, ih hcs, toNat_ofNat hvalid]

/-- The body the encoder writes. -/
def snapshotBody (eventIdBytes jpegBytes : List UInt8) : List UInt8 :=
  [UInt8.ofNat (eventIdBytes.length / 256), UInt8.ofNat eventIdBytes.length] ++ eventIdBytes ++ jpegBytes

theorem length_snapshotBody (eventIdBytes jpegBytes : List UInt8) :
    (snapshotBody eventIdBytes jpegBytes).length =
      snapshotEventIdLengthPrefixBytes + eventIdBytes.length + jpegBytes.length := by
  simp [snapshotBody, snapshotEventIdLengthPrefixBytes]
  omega

theorem frameBody_of_frameOf {payload frame : List UInt8} {kind : ℕ} (hkind : kind < 256)
    (h : frameOf payload kind = .ok frame) : frameBody frame = payload := by
  by_cases hlength : payload.length < 256 ^ 4
  · simp only [frameOf, encodeFrame, toBytes_one hkind, toBytes_four hlength] at h
    cases h
    rfl
  · rw [frameOf_too_long hkind hlength] at h
    cases h

/-- What the encoder writes, where it writes something. -/
theorem encodeSnapshotMessage_body {text : List Char} {jpegBytes frame : List UInt8}
    (h : encodeSnapshotMessage (pyStrOf text) jpegBytes = .ok frame) :
    frameBody frame = snapshotBody (encodeUtf8 text) jpegBytes := by
  obtain ⟨chars, hchars, hid, -⟩ := encodeSnapshotMessage_ok_iff.1 ⟨frame, h⟩
  rw [mapM_charOf_pyStrOf] at hchars
  cases hchars
  simp only [encodeSnapshotMessage, encodeStr, mapM_charOf_pyStrOf, snapshotEventIdLengthPrefixBytes, bind,
    Except.bind, toBytes_two hid] at h
  exact frameBody_of_frameOf (by decide) h

/-! ## The decoder -/

theorem decodeSnapshotMessage_eq_some_iff {body jpegBytes : List UInt8} {text : List Char} :
    decodeSnapshotMessage body = some (text, jpegBytes) ↔ eventIdSlice body = encodeUtf8 text ∧
      jpegBytes = body.drop (snapshotEventIdLengthPrefixBytes + claimedLength body) := by
  simp only [decodeSnapshotMessage, Option.map_eq_some_iff, Prod.mk.injEq]
  constructor
  · rintro ⟨text', htext, rfl, rfl⟩
    exact ⟨(encodeUtf8_of_decodeUtf8 htext).symm, rfl⟩
  · rintro ⟨hslice, rfl⟩
    exact ⟨text, decodeUtf8_eq_some_iff.2 hslice.symm, rfl, rfl⟩

/-- Two bytes claim no more than the encoder writes. -/
theorem claimedLength_lt (body : List UInt8) : claimedLength body < 256 ^ 2 := by
  match body with
  | [] => decide
  | [a] =>
    have ha := a.toNat_lt
    simp [claimedLength, snapshotEventIdLengthPrefixBytes, fromBytes]
    omega
  | a :: b :: _ =>
    have ha := a.toNat_lt
    have hb := b.toNat_lt
    simp [claimedLength, snapshotEventIdLengthPrefixBytes, fromBytes]
    omega

/-- The prefix of a written body is the length of its event id. -/
theorem claimedLength_snapshotBody {eventIdBytes jpegBytes : List UInt8} (h : eventIdBytes.length < 256 ^ 2) :
    claimedLength (snapshotBody eventIdBytes jpegBytes) = eventIdBytes.length := by
  simp [claimedLength, snapshotBody, snapshotEventIdLengthPrefixBytes, fromBytes]
  omega

/-- The decoder takes a written body apart where the encoder joined it. -/
theorem decodeSnapshotMessage_snapshotBody {text : List Char} {jpegBytes : List UInt8}
    (h : (encodeUtf8 text).length < 256 ^ 2) :
    decodeSnapshotMessage (snapshotBody (encodeUtf8 text) jpegBytes) = some (text, jpegBytes) := by
  rw [decodeSnapshotMessage_eq_some_iff, eventIdSlice, claimedLength_snapshotBody h]
  simp [snapshotBody, snapshotEventIdLengthPrefixBytes, Nat.add_comm 2]

/-- A body that holds its event id is made of its prefix, the event id and the rest. -/
theorem snapshotBody_of_holds {body : List UInt8} (h : HoldsItsEventId body) :
    snapshotBody (eventIdSlice body) (body.drop (snapshotEventIdLengthPrefixBytes + claimedLength body)) =
      body := by
  unfold HoldsItsEventId snapshotEventIdLengthPrefixBytes at h
  match body, h with
  | [], h => simp at h
  | [a], h =>
    simp at h
    omega
  | a :: b :: rest, h =>
    have hclaimed : claimedLength (a :: b :: rest) = a.toNat * 256 + b.toNat := by
      simp [claimedLength, snapshotEventIdLengthPrefixBytes, fromBytes]
    rw [hclaimed] at h
    have hslice : (eventIdSlice (a :: b :: rest)).length = a.toNat * 256 + b.toNat := by
      simp only [eventIdSlice, hclaimed, snapshotEventIdLengthPrefixBytes, List.drop_succ_cons, List.drop_zero,
        List.length_take, List.length_cons] at h ⊢
      omega
    have hb := b.toNat_lt
    rw [snapshotBody, hslice, ofNat_eq_of_toNat_eq (a := a) (by omega)]
    have hlow : UInt8.ofNat (a.toNat * 256 + b.toNat) = b := by
      apply UInt8.toNat_inj.1
      rw [UInt8.toNat_ofNat']
      omega
    rw [hlow, hclaimed, eventIdSlice, hclaimed]
    simp [snapshotEventIdLengthPrefixBytes, Nat.add_comm 2]

/-! ## The codec -/

theorem snapshotRoundTrips_iff {eventId : PyStr} {jpegBytes : List UInt8} :
    SnapshotRoundTrips eventId jpegBytes ↔ SnapshotEncodable eventId jpegBytes := by
  rw [← encodeSnapshotMessage_ok_iff]
  constructor
  · rintro ⟨frame, _, hframe, -⟩
    exact ⟨frame, hframe⟩
  · rintro ⟨frame, hframe⟩
    obtain ⟨text, htext, hid, -⟩ := encodeSnapshotMessage_ok_iff.1 ⟨frame, hframe⟩
    obtain rfl := pyStrOf_of_mapM htext
    refine ⟨frame, text, hframe, rfl, ?_⟩
    rw [encodeSnapshotMessage_body hframe]
    exact decodeSnapshotMessage_snapshotBody hid

theorem acceptedAsWritten_iff {body : List UInt8} :
    AcceptedAsWritten body ↔
      decodeUtf8 (eventIdSlice body) = none ∨ HoldsItsEventId body ∧ body.length < 256 ^ 4 := by
  constructor
  · intro hwritten
    cases hslice : decodeUtf8 (eventIdSlice body) with
    | none => exact .inl rfl
    | some text =>
      have hdecode := decodeSnapshotMessage_eq_some_iff.2 ⟨(encodeUtf8_of_decodeUtf8 hslice).symm, rfl⟩
      obtain ⟨frame, hframe, hbody⟩ := hwritten _ _ hdecode
      obtain ⟨chars, hchars, hid, htotal⟩ := encodeSnapshotMessage_ok_iff.1 ⟨frame, hframe⟩
      rw [mapM_charOf_pyStrOf] at hchars
      cases hchars
      -- the written body holds its event id, and it is the body that was read
      rw [encodeSnapshotMessage_body hframe] at hbody
      have hlength := congrArg List.length hbody
      have hclaimed : claimedLength (snapshotBody (encodeUtf8 text)
          (body.drop (snapshotEventIdLengthPrefixBytes + claimedLength body))) = (encodeUtf8 text).length :=
        claimedLength_snapshotBody hid
      rw [hbody] at hclaimed
      rw [length_snapshotBody] at hlength
      unfold HoldsItsEventId
      exact .inr ⟨by omega, by omega⟩
  · rintro (hnone | ⟨hholds, hlength⟩) text jpegBytes hdecode
    · have hslice := (decodeSnapshotMessage_eq_some_iff.1 hdecode).1
      rw [hslice, decodeUtf8_encodeUtf8] at hnone
      cases hnone
    · obtain ⟨hslice, rfl⟩ := decodeSnapshotMessage_eq_some_iff.1 hdecode
      have hbody := snapshotBody_of_holds hholds
      rw [hslice] at hbody
      have hid : (encodeUtf8 text).length < 256 ^ 2 := by
        rw [← hslice]
        exact Nat.lt_of_le_of_lt (List.length_take_le _ _) (claimedLength_lt body)
      have htotal := length_snapshotBody (encodeUtf8 text)
        (body.drop (snapshotEventIdLengthPrefixBytes + claimedLength body))
      rw [hbody] at htotal
      obtain ⟨frame, hframe⟩ := encodeSnapshotMessage_ok_iff.2
        ⟨text, mapM_charOf_pyStrOf text, hid, htotal ▸ hlength⟩
      exact ⟨frame, hframe, (encodeSnapshotMessage_body hframe).trans hbody⟩

/-- **The codec, in both directions.**  The Agent reads back exactly what the Bridge can write, and a body the
Agent accepts is the one the Bridge writes exactly when the body holds all of its event id and has a length a
frame can announce. -/
theorem snapshot_codec (eventId : PyStr) (jpegBytes body : List UInt8) :
    (SnapshotRoundTrips eventId jpegBytes ↔ SnapshotEncodable eventId jpegBytes) ∧
      (AcceptedAsWritten body ↔
        decodeUtf8 (eventIdSlice body) = none ∨ HoldsItsEventId body ∧ body.length < 256 ^ 4) :=
  ⟨snapshotRoundTrips_iff, acceptedAsWritten_iff⟩

/-- A body that ends inside its event id is accepted: four bytes that claim 36. -/
theorem truncated_body_accepted :
    decodeSnapshotMessage [0, 36, 0x61, 0x62] = some (['a', 'b'], []) ∧
      ¬ AcceptedAsWritten [0, 36, 0x61, 0x62] := by
  refine ⟨by decide, ?_⟩
  rw [acceptedAsWritten_iff]
  decide

end WeaponDetection.Contract
