import WeaponDetection.Bridge.FrameReader

/-!
# The acknowledgement stream

What the Bridge's reader delivers of the acknowledgements the Agent writes on one connection.

Where a timeout falls between two frames nothing is lost.  Where it falls inside one, the bytes read
so far are dropped and the reader takes the next byte for a frame kind.  From there on it is out of
step until a frame it makes up ends with a real one: no byte of a body is the kind of an
acknowledgement, so the frames it makes up are ignored, or too long, or a piece of a body that is no
JSON text.  So nothing is ever invented (`deliveries_sublist`), and exactly the streams without such
a timeout and without an oversized body are delivered whole (`acknowledgements_reassembled_iff`).
-/

namespace WeaponDetection.Contract

open WeaponDetection.Foundations.Python (PyValue)
open WeaponDetection.Foundations.Bytes
open WeaponDetection.Foundations.Json
open WeaponDetection.Agent.Detection (Ack)
open WeaponDetection.Bridge

/-! ## Pieces of a body -/

/-- A complete string with anything but whitespace after it is no JSON text. -/
theorem decode_second_byte (rest : List UInt8) :
    decodeAcknowledgement (encodeUtf8 ackOpening.tail ++ rest) = none := by
  have hascii : ackOpening.tail.all (fun c => decide (IsAscii c)) = true := by decide
  rw [decodeAcknowledgement, decodeUtf8_encodeUtf8_append
    fun c hc => of_decide_eq_true (List.all_eq_true.1 hascii c hc)]
  cases decodeUtf8 rest with
  | none => rfl
  | some text =>
    have htext : ackOpening.tail ++ text =
        '"' :: ("messageId".toList.flatMap escapeChar ++ '"' :: ':' :: ' ' :: text) := rfl
    rw [Option.map_some, Option.bind_some, htext, loads, skipWhitespace_cons rfl, readValue]
    simp only [readString_dump, Option.map_some]
    rfl

/-- No JSON text begins with `m`. -/
theorem decode_third_byte (rest : List UInt8) :
    decodeAcknowledgement (0x6d :: rest) = none := by
  rw [decodeAcknowledgement, decodeUtf8_cons_ascii (by decide)]
  cases decodeUtf8 rest with
  | none => rfl
  | some text =>
    have hletter : Char.ofNat (0x6d : UInt8).toNat = 'm' := rfl
    rw [Option.map_some, Option.bind_some, hletter, loads, skipWhitespace_cons rfl]
    simp [readValue, readAtom, constants, readNumber, readIntDigits, isDigit]

/-! ## One frame -/

/-- The frame of an acknowledgement whose length fits the prefix. -/
def ackFrame (a : Ack) : List UInt8 := ackHeader a ++ ackPayload a

theorem length_ackHeader (a : Ack) : (ackHeader a).length = frameHeaderBytes := rfl

theorem ackFrame_eq (a : Ack) : ∃ rest, ackFrame a =
    3 :: UInt8.ofNat ((ackPayload a).length / 256 ^ 3) ::
      UInt8.ofNat ((ackPayload a).length / 256 ^ 2) :: UInt8.ofNat ((ackPayload a).length / 256) ::
      UInt8.ofNat (ackPayload a).length :: (encodeUtf8 ackOpening ++ rest) := by
  obtain ⟨rest, hrest⟩ := ackPayload_eq a
  refine ⟨rest, ?_⟩
  rw [ackFrame, ackHeader, ← hrest]
  rfl

theorem length_ackPayload (a : Ack) : 14 ≤ (ackPayload a).length := by
  obtain ⟨rest, hrest⟩ := ackPayload_eq a
  have hopening : (encodeUtf8 ackOpening).length = 14 := by decide
  rw [hrest, List.length_append, hopening]
  exact Nat.le_add_right _ _

theorem length_ackFrame (a : Ack) :
    (ackFrame a).length = frameHeaderBytes + (ackPayload a).length := by
  rw [ackFrame, List.length_append, length_ackHeader]

/-- No byte of a frame past its header is the kind of an acknowledgement. -/
theorem ackFrame_ne_kind {a : Ack} {pre post : List UInt8} {b : UInt8}
    (h : ackFrame a = pre ++ b :: post) (hpre : frameHeaderBytes ≤ pre.length) : b ≠ 3 := by
  rcases List.append_eq_append_iff.mp h with ⟨c, -, hpayload⟩ | ⟨c, hheader, hpayload⟩
  · exact ackPayload_ne_kind (by rw [hpayload]; simp)
  · -- the header is no longer than what precedes the byte
    have hlength := congrArg List.length hheader
    rw [length_ackHeader, List.length_append] at hlength
    have hnil : c = [] := List.length_eq_zero_iff.mp (by omega)
    rw [hnil, List.nil_append] at hpayload
    exact ackPayload_ne_kind (by rw [← hpayload]; simp)

/-! ## Out of step -/

/-- The reader is out of step inside a frame of which it has seen some bytes: it gave up, it
gathers a header that does not begin where the frame does, it skips a made-up frame of another
kind, or it gathers a piece of the body as if it were a body. -/
inductive Astray (frame seen : List UInt8) : Phase → Prop where
  | closed : Astray frame seen .closed
  | header {pre got : List UInt8} : pre ≠ [] → seen = pre ++ got →
      got.length < frameHeaderBytes → Astray frame seen (.header got)
  | foreign {b : UInt8} {got : List UInt8} : b ≠ 3 → (b :: got).length < frameHeaderBytes →
      Astray frame seen (.header (b :: got))
  | skipping {kind length : ℕ} {got : List UInt8} : kind ≠ frameKindAcknowledgement →
      got.length < length → Astray frame seen (.body kind length got)
  | piece {pre got : List UInt8} {length : ℕ} : pre.length = 6 ∨ pre.length = 7 →
      seen = pre ++ got → got.length < length → 13 ≤ length →
      pre.length + length ≤ frame.length →
      Astray frame seen (.body frameKindAcknowledgement length got)

/-- A header of another kind is followed by a frame to skip, unless the reader gives up. -/
theorem afterHeader_foreign {frame seen got : List UInt8} {b : UInt8} (hb : b ≠ 3)
    (hseen : seen ≠ []) :
    (afterHeader (b :: got)).2 = [] ∧ Astray frame seen (afterHeader (b :: got)).1 := by
  have hkind : b.toNat ≠ frameKindAcknowledgement := fun h => hb (UInt8.toNat_inj.mp h)
  simp only [afterHeader, decodeFrameHeader_cons]
  split_ifs with hlong hempty
  · exact ⟨rfl, .closed⟩
  · exact ⟨if_neg hkind, .header hseen (List.append_nil _).symm (by decide)⟩
  · exact ⟨rfl, .skipping hkind (Nat.pos_of_ne_zero hempty)⟩

/-- A header of the acknowledgement kind that claims too much, or a piece of the body. -/
theorem afterHeader_piece {frame pre : List UInt8} {b₁ b₂ b₃ b₄ : UInt8} {length : ℕ}
    (hlength : ((b₁.toNat * 256 + b₂.toNat) * 256 + b₃.toNat) * 256 + b₄.toNat = length)
    (h : maxFrameBytes < length ∨ (pre.length = 1 ∨ pre.length = 2) ∧ 13 ≤ length ∧
      pre.length + frameHeaderBytes + length ≤ frame.length) :
    (afterHeader [3, b₁, b₂, b₃, b₄]).2 = [] ∧
      Astray frame (pre ++ [3, b₁, b₂, b₃, b₄]) (afterHeader [3, b₁, b₂, b₃, b₄]).1 := by
  simp only [afterHeader, decodeFrameHeader_five, hlength]
  split_ifs with hlong hempty
  · exact ⟨rfl, .closed⟩
  · omega
  · obtain ⟨hpre, hmin, hfits⟩ := h.resolve_left hlong
    refine ⟨rfl, .piece ?_ (List.append_nil _).symm (by simp; omega) hmin ?_⟩
    · simp; omega
    · rw [List.length_append]; exact hfits

/-- **A header that begins inside a frame never starts an acknowledgement**: it is of another kind,
or too long, or what follows it is the body without its first one or two bytes. -/
theorem afterHeader_inside {a : Ack} {pre header todo : List UInt8} (hpre : pre ≠ [])
    (hlength : header.length = frameHeaderBytes) (hframe : ackFrame a = pre ++ header ++ todo)
    (ha : Writable a) :
    (afterHeader header).2 = [] ∧ Astray (ackFrame a) (pre ++ header) (afterHeader header).1 := by
  obtain ⟨k, b₁, b₂, b₃, b₄, rfl⟩ : ∃ k b₁ b₂ b₃ b₄, header = [k, b₁, b₂, b₃, b₄] := by
    match header, hlength with
    | [k, b₁, b₂, b₃, b₄], _ => exact ⟨k, b₁, b₂, b₃, b₄, rfl⟩
  have hseen : pre ++ [k, b₁, b₂, b₃, b₄] ≠ [] := by simp
  by_cases hk : k = 3
  · subst hk
    have hsize := length_ackFrame a
    obtain ⟨rest, hbytes⟩ := ackFrame_eq a
    have hshort : pre.length < frameHeaderBytes := by
      by_contra hlong
      have hsplit : ackFrame a = pre ++ 3 :: ([b₁, b₂, b₃, b₄] ++ todo) := by simpa using hframe
      exact ackFrame_ne_kind hsplit (not_lt.mp hlong) rfl
    unfold Writable at ha
    generalize (ackPayload a).length = n at hbytes hsize ha
    have hopening : encodeUtf8 ackOpening ++ rest =
        0x7b :: 0x22 :: 0x6d :: 0x65 :: (encodeUtf8 ("ssageId\": ".toList) ++ rest) := rfl
    rw [hframe, hopening] at hbytes
    have hthree : (3 : UInt8).toNat = 3 := rfl
    have hbrace : (0x7b : UInt8).toNat = 123 := rfl
    have hquote : (0x22 : UInt8).toNat = 34 := rfl
    have hm : (0x6d : UInt8).toNat = 109 := rfl
    have he : (0x65 : UInt8).toNat = 101 := rfl
    match pre, hpre, hshort, hbytes with
    | [_], _, _, hbytes =>
      simp only [List.cons_append, List.nil_append, List.cons.injEq] at hbytes
      obtain ⟨-, hkind, rfl, rfl, rfl, rfl, -⟩ := hbytes
      have hk := congrArg UInt8.toNat hkind
      rw [hthree, UInt8.toNat_ofNat'] at hk
      have hlong : 3 * 256 ^ 3 ≤ n := by omega
      refine afterHeader_piece rfl ?_
      simp only [hsize, hbrace, UInt8.toNat_ofNat', maxFrameBytes, frameHeaderBytes,
        List.length_cons, List.length_nil, true_or, true_and]
      generalize n / 256 ^ 2 % 2 ^ 8 = b₁
      generalize n / 256 % 2 ^ 8 = b₂
      generalize n % 2 ^ 8 = b₃
      omega
    | [_, _], _, _, hbytes =>
      simp only [List.cons_append, List.nil_append, List.cons.injEq] at hbytes
      obtain ⟨-, -, hkind, rfl, rfl, rfl, rfl, -⟩ := hbytes
      have hk := congrArg UInt8.toNat hkind
      rw [hthree, UInt8.toNat_ofNat'] at hk
      have hlong : 3 * 256 ^ 2 ≤ n := by omega
      refine afterHeader_piece rfl ?_
      simp only [hsize, hbrace, hquote, UInt8.toNat_ofNat', maxFrameBytes, frameHeaderBytes,
        List.length_cons, List.length_nil, or_true, true_and]
      generalize n / 256 % 2 ^ 8 = b₂
      generalize n % 2 ^ 8 = b₃
      omega
    | [_, _, _], _, _, hbytes =>
      simp only [List.cons_append, List.nil_append, List.cons.injEq] at hbytes
      obtain ⟨-, -, -, hkind, rfl, rfl, rfl, rfl, -⟩ := hbytes
      have hk := congrArg UInt8.toNat hkind
      rw [hthree, UInt8.toNat_ofNat'] at hk
      refine afterHeader_piece rfl ?_
      simp only [hsize, hbrace, hquote, hm, UInt8.toNat_ofNat', maxFrameBytes, frameHeaderBytes,
        List.length_cons, List.length_nil]
      generalize n % 2 ^ 8 = b₃
      omega
    | [_, _, _, _], _, _, hbytes =>
      simp only [List.cons_append, List.nil_append, List.cons.injEq] at hbytes
      obtain ⟨-, -, -, -, hkind, rfl, rfl, rfl, rfl, -⟩ := hbytes
      have hk := congrArg UInt8.toNat hkind
      rw [hthree, UInt8.toNat_ofNat'] at hk
      refine afterHeader_piece rfl ?_
      simp only [hsize, hbrace, hquote, hm, he, maxFrameBytes, frameHeaderBytes,
        List.length_cons, List.length_nil]
      omega
    | _ :: _ :: _ :: _ :: _ :: _, _, hshort, _ =>
      exact absurd hshort (by simp [frameHeaderBytes])
  · exact afterHeader_foreign hk hseen

/-- A piece of the body that begins at its second or third byte is no JSON text. -/
theorem decode_piece {a : Ack} {pre body todo : List UInt8} (hpre : pre.length = 6 ∨ pre.length = 7)
    (hmin : 13 ≤ body.length) (hframe : ackFrame a = pre ++ (body ++ todo)) :
    decodeAcknowledgement body = none := by
  obtain ⟨rest, hbytes⟩ := ackFrame_eq a
  rcases hpre with hpre | hpre
  · have hsplit : ackFrame a = (ackHeader a ++ [0x7b]) ++ (encodeUtf8 ackOpening.tail ++ rest) := by
      rw [hbytes]
      rfl
    have htail := (List.append_inj (hframe.symm.trans hsplit) hpre).2
    obtain ⟨c, hc⟩ : ∃ c, body = encodeUtf8 ackOpening.tail ++ c := by
      have hopening := List.prefix_append (encodeUtf8 ackOpening.tail) rest
      have hbody : body <+: encodeUtf8 ackOpening.tail ++ rest :=
        htail ▸ List.prefix_append body todo
      obtain ⟨c, hc⟩ := List.prefix_of_prefix_length_le hopening hbody hmin
      exact ⟨c, hc.symm⟩
    rw [hc]
    exact decode_second_byte c
  · have hsplit : ackFrame a = (ackHeader a ++ [0x7b, 0x22]) ++
        (0x6d :: ((encodeUtf8 ackOpening).drop 3 ++ rest)) := by
      rw [hbytes]
      rfl
    have htail := (List.append_inj (hframe.symm.trans hsplit) hpre).2
    cases body with
    | nil => simp at hmin
    | cons x body =>
      rw [List.cons_append, List.cons.injEq] at htail
      rw [htail.1]
      exact decode_third_byte body

/-- **Out of step, a byte delivers nothing and leaves the reader out of step.** -/
theorem Astray.feedByte {a : Ack} {seen todo : List UInt8} {b : UInt8} {ph : Phase}
    (h : Astray (ackFrame a) seen ph) (hframe : ackFrame a = seen ++ b :: todo) (ha : Writable a) :
    (feedByte ph b).2 = [] ∧ Astray (ackFrame a) (seen ++ [b]) (feedByte ph b).1 := by
  have hseen : seen ++ [b] ≠ [] := by simp
  cases h with
  | closed => exact ⟨rfl, .closed⟩
  | @header pre got hpre hgot hshort =>
    rw [Bridge.feedByte]
    split_ifs with hmore
    · exact ⟨rfl, .header hpre (by rw [hgot, List.append_assoc]) hmore⟩
    · have hlength : (got ++ [b]).length = frameHeaderBytes := by
        rw [List.length_append, List.length_singleton] at hmore ⊢
        omega
      have hpiece : ackFrame a = pre ++ (got ++ [b]) ++ todo := by simp [hframe, hgot]
      have hinside := afterHeader_inside hpre hlength hpiece ha
      rw [hgot, List.append_assoc]
      exact hinside
  | @foreign k got hk hshort =>
    rw [Bridge.feedByte]
    split_ifs with hmore
    · exact ⟨rfl, .foreign hk hmore⟩
    · exact afterHeader_foreign hk hseen
  | @skipping kind length got hkind hshort =>
    rw [Bridge.feedByte]
    split_ifs with hmore
    · exact ⟨rfl, .skipping hkind hmore⟩
    · exact ⟨if_neg hkind, .header hseen (List.append_nil _).symm (by decide)⟩
  | @piece pre got length hpre hgot hshort hmin hfits =>
    rw [Bridge.feedByte]
    split_ifs with hmore
    · exact ⟨rfl, .piece hpre (by rw [hgot, List.append_assoc]) hmore hmin hfits⟩
    · refine ⟨?_, .header hseen (List.append_nil _).symm (by decide)⟩
      have hpiece : ackFrame a = pre ++ (got ++ [b] ++ todo) := by simp [hframe, hgot]
      have hnone := decode_piece hpre (by omega) hpiece
      show dispatch frameKindAcknowledgement (got ++ [b]) = []
      rw [dispatch, if_pos rfl, hnone]
      rfl

/-- At the end of a frame the reader is in step again, or out of step with any frame to come. -/
theorem Astray.finish {a : Ack} {ph : Phase} (h : Astray (ackFrame a) (ackFrame a) ph) :
    ph = .header [] ∨ ∀ frame, Astray frame [] ph := by
  cases h with
  | closed => exact .inr fun _ => .closed
  | @header pre got _ hgot hshort =>
    cases got with
    | nil => exact .inl rfl
    | cons b got =>
      have hlong : frameHeaderBytes ≤ pre.length := by
        have hlength := congrArg List.length hgot
        rw [length_ackFrame, List.length_append] at hlength
        have hmin := length_ackPayload a
        unfold frameHeaderBytes at hshort hlength ⊢
        omega
      exact .inr fun _ => .foreign (ackFrame_ne_kind hgot hlong) hshort
  | foreign hk hshort => exact .inr fun _ => .foreign hk hshort
  | skipping hkind hshort => exact .inr fun _ => .skipping hkind hshort
  | @piece pre got length _ hgot hshort _ hfits =>
    -- the piece ends inside the frame
    have hlength := congrArg List.length hgot
    rw [List.length_append] at hlength
    omega

/-- A timeout inside a frame leaves the reader out of step with the rest of it. -/
theorem Astray.of_timeout {frame seen : List UInt8} (hseen : seen ≠ []) (ph : Phase) :
    Astray frame seen (timedOut ph) := by
  cases ph with
  | closed => exact .closed
  | header _ => exact .header hseen (List.append_nil _).symm (by decide)
  | body _ _ _ => exact .header hseen (List.append_nil _).symm (by decide)

/-! ## In step -/

/-- The phase of a reader that has seen some bytes of a frame and was in step before it. -/
def inStep (a : Ack) (seen : List UInt8) : Phase :=
  if seen.length < frameHeaderBytes then .header seen
  else if maxFrameBytes < (ackPayload a).length then .closed
  else .body frameKindAcknowledgement (ackPayload a).length (seen.drop frameHeaderBytes)

@[simp] theorem inStep_nil (a : Ack) : inStep a [] = .header [] := rfl

/-- In step, a byte in the middle of a frame delivers nothing. -/
theorem feedByte_inStep {a : Ack} {seen todo : List UInt8} {b : UInt8}
    (hframe : ackFrame a = seen ++ b :: todo) (htodo : todo ≠ []) (ha : Writable a) :
    feedByte (inStep a seen) b = (inStep a (seen ++ [b]), []) := by
  have htodo := List.length_pos_iff.mpr htodo
  have hlength := congrArg List.length hframe
  rw [length_ackFrame, List.length_append, List.length_cons] at hlength
  have hnext : (seen ++ [b]).length = seen.length + 1 := by simp
  have hmin := length_ackPayload a
  by_cases hheader : seen.length < frameHeaderBytes
  · rw [inStep, if_pos hheader, feedByte]
    split_ifs with hmore
    · rw [inStep, if_pos hmore]
    · -- the header is complete
      have hcomplete : (seen ++ [b]).length = frameHeaderBytes := by omega
      have hsplit : ackHeader a ++ ackPayload a = seen ++ [b] ++ todo := by
        rw [List.append_assoc]
        exact hframe
      have hbytes : seen ++ [b] = ackHeader a :=
        (List.append_inj hsplit (by rw [length_ackHeader, hcomplete])).1.symm
      have hempty : (ackPayload a).length ≠ 0 := by omega
      rw [inStep, if_neg hmore, afterHeader, hbytes, decodeFrameHeader_ackHeader ha]
      simp only [hempty, if_false]
      split_ifs <;> rfl
  · have hnot : ¬ (seen ++ [b]).length < frameHeaderBytes := by omega
    rw [inStep, if_neg hheader, inStep, if_neg hnot]
    split_ifs with hlong
    · rfl
    · have hdrop : seen.drop frameHeaderBytes ++ [b] = (seen ++ [b]).drop frameHeaderBytes :=
        (List.drop_append_of_le_length (by omega)).symm
      have hmore : ((seen ++ [b]).drop frameHeaderBytes).length < (ackPayload a).length := by
        rw [List.length_drop]
        omega
      rw [feedByte, hdrop, if_pos hmore]

/-- In step, the last byte of a frame delivers the acknowledgement, unless it was too long. -/
theorem feedByte_inStep_last {a : Ack} {seen : List UInt8} {b : UInt8}
    (hframe : ackFrame a = seen ++ [b]) :
    feedByte (inStep a seen) b =
      if maxFrameBytes < (ackPayload a).length then (.closed, [])
      else (.header [], [ackMessage a]) := by
  have hlength := congrArg List.length hframe
  rw [length_ackFrame, List.length_append, List.length_singleton] at hlength
  have hmin := length_ackPayload a
  rw [inStep, if_neg (by omega)]
  split_ifs with hlong
  · rfl
  · have hdrop : seen.drop frameHeaderBytes ++ [b] = ackPayload a := by
      rw [← List.drop_append_of_le_length (by omega), ← hframe]
      rfl
    rw [feedByte, hdrop, if_neg (lt_irrefl _), dispatch, if_pos rfl,
      decodeAcknowledgement_ackPayload]
    rfl

/-! ## The whole stream -/

/-- The bytes to come: the rest of a frame of which some bytes were seen, and the frames after it. -/
def Coming : List Ack → List UInt8 → List UInt8 → Prop
  | [], seen, bytes => seen = [] ∧ bytes = []
  | a :: acks, seen, bytes =>
    ∃ todo, todo ≠ [] ∧ ackFrame a = seen ++ todo ∧ bytes = todo ++ acks.flatMap ackFrame

theorem coming_frames (acks : List Ack) : Coming acks [] (acks.flatMap ackFrame) := by
  cases acks with
  | nil => exact ⟨rfl, rfl⟩
  | cons a acks =>
    refine ⟨ackFrame a, ?_, rfl, List.flatMap_cons⟩
    exact List.length_pos_iff.mp (by rw [length_ackFrame]; exact Nat.lt_add_right _ (by decide))

/-- How the reader stands to the stream, and the acknowledgements it can still deliver: out of step
inside a frame, the one of that frame is lost. -/
inductive Standing : List Ack → List UInt8 → Phase → List Ack → Prop where
  | between (acks : List Ack) : Standing acks [] (.header []) acks
  | inside (a : Ack) (acks : List Ack) (seen : List UInt8) :
      Standing (a :: acks) seen (inStep a seen) (a :: acks)
  | strayBetween {ph : Phase} (acks : List Ack) : (∀ frame, Astray frame [] ph) →
      Standing acks [] ph acks
  | strayInside {a : Ack} {seen : List UInt8} {ph : Phase} (acks : List Ack) : seen ≠ [] →
      Astray (ackFrame a) seen ph → Standing (a :: acks) seen ph acks

/-- Inside a frame the reader is in step, or out of step and owes at least the frames after it. -/
theorem Standing.cases_cons {a : Ack} {acks owed : List Ack} {seen : List UInt8} {ph : Phase}
    (h : Standing (a :: acks) seen ph owed) :
    ph = inStep a seen ∧ owed = a :: acks ∨ Astray (ackFrame a) seen ph ∧ acks.Sublist owed := by
  cases h with
  | between => exact .inl ⟨rfl, rfl⟩
  | inside => exact .inl ⟨rfl, rfl⟩
  | strayBetween _ hastray => exact .inr ⟨hastray _, List.sublist_cons_self a acks⟩
  | strayInside _ _ hastray => exact .inr ⟨hastray, .refl acks⟩

/-- What is left to deliver after a byte, and what the byte delivered, was owed before it. -/
theorem Standing.feedByte {acks owed : List Ack} {seen bytes : List UInt8} {b : UInt8} {ph : Phase}
    (h : Standing acks seen ph owed) (hcoming : Coming acks seen (b :: bytes))
    (hwritable : ∀ a ∈ acks, Writable a) :
    ∃ acks' seen' owed', Coming acks' seen' bytes ∧
      Standing acks' seen' (feedByte ph b).1 owed' ∧ (∀ a ∈ acks', Writable a) ∧
      ((Bridge.feedByte ph b).2 ++ owed'.map ackMessage).Sublist (owed.map ackMessage) := by
  cases acks with
  | nil => cases hcoming.2
  | cons a acks =>
    obtain ⟨todo, htodo, hframe, hbytes⟩ := hcoming
    obtain ⟨c, todo, rfl⟩ := List.exists_cons_of_ne_nil htodo
    obtain ⟨rfl, rfl⟩ := List.cons.inj hbytes
    have ha : Writable a := hwritable a (by simp)
    have hrest : ∀ x ∈ acks, Writable x := fun x hx => hwritable x (by simp [hx])
    by_cases hlast : todo = []
    · -- the byte ends the frame
      subst hlast
      refine ⟨acks, [], ?_⟩
      rcases h.cases_cons with ⟨rfl, rfl⟩ | ⟨hastray, howed⟩
      · rw [feedByte_inStep_last hframe]
        refine ⟨acks, coming_frames acks, ?_⟩
        split_ifs
        · exact ⟨.strayBetween acks fun _ => .closed, hrest, (List.sublist_cons_self a acks).map _⟩
        · exact ⟨.between acks, hrest, .refl _⟩
      · obtain ⟨hnone, hnext⟩ := hastray.feedByte hframe ha
        rw [hnone]
        rw [← hframe] at hnext
        refine ⟨acks, coming_frames acks, ?_, hrest, howed.map _⟩
        rcases hnext.finish with hstart | hstray
        · rw [hstart]
          exact .between acks
        · exact .strayBetween acks hstray
    · have hframe' : ackFrame a = (seen ++ [b]) ++ todo := by simp [hframe]
      refine ⟨a :: acks, seen ++ [b], ?_⟩
      rcases h.cases_cons with ⟨rfl, rfl⟩ | ⟨hastray, howed⟩
      · rw [feedByte_inStep hframe hlast ha]
        exact ⟨a :: acks, ⟨todo, hlast, hframe', rfl⟩, .inside a acks _, hwritable, .refl _⟩
      · obtain ⟨hnone, hnext⟩ := hastray.feedByte hframe ha
        rw [hnone]
        exact ⟨acks, ⟨todo, hlast, hframe', rfl⟩, .strayInside acks (by simp) hnext, hwritable,
          howed.map _⟩

/-- A timeout delivers nothing and adds nothing to what is owed. -/
theorem Standing.timedOut {acks owed : List Ack} {seen : List UInt8} {ph : Phase}
    (h : Standing acks seen ph owed) :
    ∃ owed', Standing acks seen (timedOut ph) owed' ∧ owed'.Sublist owed := by
  by_cases hseen : seen = []
  · subst hseen
    have hbetween : ∃ owed', Standing acks [] (Bridge.timedOut ph) owed' ∧ owed'.Sublist acks := by
      cases ph with
      | closed => exact ⟨acks, .strayBetween acks fun _ => .closed, .refl _⟩
      | header _ => exact ⟨acks, .between acks, .refl _⟩
      | body _ _ _ => exact ⟨acks, .between acks, .refl _⟩
    cases h with
    | between => exact hbetween
    | inside => exact hbetween
    | strayBetween => exact hbetween
    | strayInside _ hne => exact absurd rfl hne
  · cases h with
    | between => exact absurd rfl hseen
    | strayBetween => exact absurd rfl hseen
    | inside a acks =>
      exact ⟨acks, .strayInside acks hseen (Astray.of_timeout hseen _), List.sublist_cons_self a acks⟩
    | strayInside =>
      exact ⟨owed, .strayInside owed hseen (Astray.of_timeout hseen _), .refl _⟩

/-- The bytes of a stream. -/
def streamBytes : List StreamEvent → List UInt8
  | [] => []
  | .byte b :: es => b :: streamBytes es
  | .timeout :: es => streamBytes es

/-- Whatever the timeouts, a stream delivers some of the acknowledgements owed, in order. -/
theorem Standing.deliveries_sublist {acks owed : List Ack} {seen : List UInt8} {ph : Phase}
    {es : List StreamEvent} (h : Standing acks seen ph owed)
    (hcoming : Coming acks seen (streamBytes es)) (hwritable : ∀ a ∈ acks, Writable a) :
    (deliveries ph es).Sublist (owed.map ackMessage) := by
  induction es generalizing acks owed seen ph with
  | nil => exact List.nil_sublist _
  | cons e es ih =>
    cases e with
    | byte b =>
      obtain ⟨acks', seen', owed', hcoming', hstanding, hwritable', hsub⟩ :=
        h.feedByte hcoming hwritable
      exact (((List.Sublist.refl _).append (ih hstanding hcoming' hwritable')).trans hsub)
    | timeout =>
      obtain ⟨owed', hstanding, hsub⟩ := h.timedOut
      exact (ih hstanding hcoming hwritable).trans (hsub.map _)

/-! ## The streams delivered whole -/

/-- Every timeout of the stream falls between two frames, where some bytes were seen before it. -/
def TimeoutsBetween (acks : List Ack) (seen : List UInt8) (es : List StreamEvent) : Prop :=
  ∀ pre post, es = pre ++ .timeout :: post →
    ∃ k, seen ++ streamBytes pre = (acks.take k).flatMap ackFrame

theorem timeoutsBetween_byte (acks : List Ack) (seen : List UInt8) (b : UInt8)
    (es : List StreamEvent) :
    TimeoutsBetween acks seen (.byte b :: es) ↔ TimeoutsBetween acks (seen ++ [b]) es := by
  constructor
  · intro h pre post hes
    obtain ⟨k, hk⟩ := h (.byte b :: pre) post (by rw [hes]; rfl)
    exact ⟨k, by rw [← hk, List.append_assoc]; rfl⟩
  · intro h pre post hes
    cases pre with
    | nil => cases hes
    | cons e pre =>
      obtain ⟨rfl, htail⟩ := List.cons.inj hes
      obtain ⟨k, hk⟩ := h pre post htail
      exact ⟨k, by rw [← hk, List.append_assoc]; rfl⟩

theorem timeoutsBetween_timeout (acks : List Ack) (seen : List UInt8) (es : List StreamEvent) :
    TimeoutsBetween acks seen (.timeout :: es) ↔
      (∃ k, seen = (acks.take k).flatMap ackFrame) ∧ TimeoutsBetween acks seen es := by
  constructor
  · intro h
    refine ⟨?_, fun pre post hes => h (.timeout :: pre) post (by rw [hes]; rfl)⟩
    obtain ⟨k, hk⟩ := h [] es rfl
    exact ⟨k, by rw [← hk]; exact (List.append_nil _).symm⟩
  · rintro ⟨⟨k, hk⟩, h⟩ pre post hes
    cases pre with
    | nil => exact ⟨k, by rw [← hk]; exact List.append_nil _⟩
    | cons e pre =>
      obtain ⟨rfl, htail⟩ := List.cons.inj hes
      exact h pre post htail

/-- A frame seen whole can be left out. -/
theorem timeoutsBetween_frame (a : Ack) (acks : List Ack) (es : List StreamEvent) :
    TimeoutsBetween (a :: acks) (ackFrame a) es ↔ TimeoutsBetween acks [] es := by
  refine forall_congr' fun pre => forall_congr' fun post => imp_congr_right fun _ => ?_
  constructor
  · rintro ⟨k, hk⟩
    cases k with
    | zero =>
      have hlength := congrArg List.length hk
      rw [List.length_append, length_ackFrame] at hlength
      simp [frameHeaderBytes] at hlength
    | succ k => exact ⟨k, List.append_cancel_left hk⟩
  · rintro ⟨k, hk⟩
    exact ⟨k + 1, congrArg (ackFrame a ++ ·) hk⟩

/-- A reader in step: at the start of the next frame, or inside it. -/
def stepPhase : List Ack → List UInt8 → Phase
  | [], _ => .header []
  | a :: _, seen => inStep a seen

theorem stepPhase_nil (acks : List Ack) : stepPhase acks [] = .header [] := by
  cases acks <;> rfl

theorem standing_stepPhase {acks : List Ack} {seen bytes : List UInt8}
    (h : Coming acks seen bytes) : Standing acks seen (stepPhase acks seen) acks := by
  cases acks with
  | nil =>
    rw [h.1]
    exact .between []
  | cons a acks => exact .inside a acks seen

/-- **A stream is delivered whole exactly when no body is too long and no timeout cuts a frame.** -/
theorem deliveries_eq_iff {acks : List Ack} {seen : List UInt8} {es : List StreamEvent}
    (hcoming : Coming acks seen (streamBytes es)) (hwritable : ∀ a ∈ acks, Writable a) :
    deliveries (stepPhase acks seen) es = acks.map ackMessage ↔
      (∀ a ∈ acks, (ackPayload a).length ≤ maxFrameBytes) ∧ TimeoutsBetween acks seen es := by
  induction es generalizing acks seen with
  | nil =>
    cases acks with
    | nil => simp [deliveries, TimeoutsBetween]
    | cons a acks =>
      obtain ⟨todo, htodo, -, hbytes⟩ := hcoming
      exact absurd (List.append_eq_nil_iff.mp hbytes.symm).1 htodo
  | cons e es ih =>
    cases e with
    | timeout =>
      rw [timeoutsBetween_timeout]
      by_cases hseen : seen = []
      · subst hseen
        have hbetween : ∃ k, [] = (acks.take k).flatMap ackFrame := ⟨0, rfl⟩
        have hsame : Coming acks [] (streamBytes es) := hcoming
        have htail := ih hsame hwritable
        rw [stepPhase_nil] at htail ⊢
        show deliveries (.header []) es = _ ↔ _
        rw [htail]
        exact and_congr_right fun _ => (and_iff_right hbetween).symm
      · -- a timeout inside a frame loses its acknowledgement
        cases acks with
        | nil => exact absurd hcoming.1 hseen
        | cons a acks =>
          have hstray : Standing (a :: acks) seen (timedOut (inStep a seen)) acks :=
            .strayInside acks hseen (Astray.of_timeout hseen _)
          have hrest : Coming (a :: acks) seen (streamBytes es) := hcoming
          have hsub := (hstray.deliveries_sublist hrest hwritable).length_le
          constructor
          · intro hall
            rw [stepPhase, deliveries] at hall
            rw [hall, List.length_map, List.length_map, List.length_cons] at hsub
            omega
          · rintro ⟨-, ⟨k, hk⟩, -⟩
            obtain ⟨todo, htodo, hframe, -⟩ := hcoming
            cases k with
            | zero => exact absurd hk hseen
            | succ k =>
              rw [List.take_succ_cons, List.flatMap_cons, hframe] at hk
              have hlength := congrArg List.length hk
              have hpos := List.length_pos_iff.mpr htodo
              simp only [List.length_append] at hlength
              omega
    | byte b =>
      cases acks with
      | nil => cases hcoming.2
      | cons a acks =>
        obtain ⟨todo, htodo, hframe, hbytes⟩ := hcoming
        obtain ⟨c, todo, rfl⟩ := List.exists_cons_of_ne_nil htodo
        obtain ⟨rfl, hrestbytes⟩ := List.cons.inj hbytes
        have ha : Writable a := hwritable a (by simp)
        have hrest : ∀ x ∈ acks, Writable x := fun x hx => hwritable x (by simp [hx])
        rw [timeoutsBetween_byte]
        by_cases hlast : todo = []
        · subst hlast
          rw [← hframe, timeoutsBetween_frame, stepPhase, deliveries, feedByte_inStep_last hframe]
          split_ifs with hlong
          · -- an oversized body ends the connection
            constructor
            · intro hall
              rw [deliveries_closed] at hall
              cases hall
            · rintro ⟨hfits, -⟩
              exact absurd (hfits a (by simp)) (not_le.mpr hlong)
          · have hframes : streamBytes es = acks.flatMap ackFrame := hrestbytes
            have hnext : Coming acks [] (streamBytes es) := hframes ▸ coming_frames acks
            have htail := ih hnext hrest
            rw [stepPhase_nil] at htail
            rw [List.forall_mem_cons, and_assoc, ← htail]
            simp [not_lt.mp hlong]
        · have hframe' : ackFrame a = (seen ++ [b]) ++ todo := by simp [hframe]
          have hnext : Coming (a :: acks) (seen ++ [b]) (streamBytes es) :=
            ⟨todo, hlast, hframe', hrestbytes⟩
          rw [← ih hnext hwritable]
          simp only [stepPhase, deliveries, feedByte_inStep hframe hlast ha, List.nil_append]

/-! ## The acknowledgements of one connection -/

theorem flatMap_sendAck {acks : List Ack} (h : ∀ a ∈ acks, Writable a) :
    acks.flatMap sendAck = acks.flatMap ackFrame :=
  List.flatMap_congr fun a ha => sendAck_of_writable (h a ha)

/-- A body that does not fit its length prefix puts nothing on the wire. -/
theorem flatMap_sendAck_filter (acks : List Ack) :
    acks.flatMap sendAck = (acks.filter fun a => Writable a).flatMap ackFrame := by
  induction acks with
  | nil => rw [List.flatMap_nil, List.filter_nil, List.flatMap_nil]
  | cons a acks ih =>
    rw [List.flatMap_cons, ih, List.filter_cons]
    by_cases ha : Writable a
    · simp [ha, sendAck_of_writable ha, ackFrame]
    · simp [ha, sendAck_of_not_writable ha]

/-- What the reader delivers is, in order, among the acknowledgements that were written. -/
theorem delivered_filter_sublist (acks : List Ack) (tape : List Arrival) (rounds : ℕ)
    (hbytes : streamBytes (events tape) = acks.flatMap sendAck)
    (hrounds : (events tape).length ≤ rounds) :
    (readerRun rounds (.fresh tape)).delivered.Sublist
      ((acks.filter fun a => Writable a).map ackMessage) := by
  rw [readerRun_delivered rounds _ (.inr hrounds)]
  have hwritable : ∀ a ∈ acks.filter (fun a => Writable a), Writable a := by
    intro a ha
    simpa using (List.mem_filter.mp ha).2
  have hcoming := coming_frames (acks.filter fun a => Writable a)
  rw [← flatMap_sendAck_filter, ← hbytes] at hcoming
  exact (Standing.between _).deliveries_sublist hcoming hwritable

/-- **The reader never makes an acknowledgement up**: whatever the chunks and the timeouts, what it
delivers are acknowledgements the Agent sent, each at most once and in the order they were sent. -/
theorem delivered_sublist (acks : List Ack) (tape : List Arrival) (rounds : ℕ)
    (hbytes : streamBytes (events tape) = acks.flatMap sendAck)
    (hrounds : (events tape).length ≤ rounds) :
    (readerRun rounds (.fresh tape)).delivered.Sublist (acks.map ackMessage) :=
  (delivered_filter_sublist acks tape rounds hbytes hrounds).trans (List.filter_sublist.map _)

/-- **The reader delivers exactly the acknowledgements sent if and only if none is longer than a
frame may be and every timeout falls between two frames.** -/
theorem acknowledgements_reassembled_iff (acks : List Ack) (tape : List Arrival) (rounds : ℕ)
    (hbytes : streamBytes (events tape) = acks.flatMap sendAck)
    (hrounds : (events tape).length ≤ rounds) :
    (readerRun rounds (.fresh tape)).delivered = acks.map ackMessage ↔
      (∀ a ∈ acks, (ackPayload a).length ≤ maxFrameBytes) ∧
        ∀ pre post, events tape = pre ++ .timeout :: post →
          ∃ k, streamBytes pre = (acks.take k).flatMap sendAck := by
  by_cases hall : ∀ a ∈ acks, Writable a
  · rw [readerRun_delivered rounds _ (.inr hrounds)]
    have hcoming : Coming acks [] (streamBytes (events tape)) := by
      rw [hbytes, flatMap_sendAck hall]
      exact coming_frames acks
    have hiff := deliveries_eq_iff hcoming hall
    rw [stepPhase_nil] at hiff
    refine hiff.trans (and_congr_right fun _ => ?_)
    refine forall_congr' fun pre => forall_congr' fun post => imp_congr_right fun _ => ?_
    refine exists_congr fun k => ?_
    rw [flatMap_sendAck fun a ha => hall a (List.mem_of_mem_take ha)]
    rfl
  · -- an acknowledgement that was never written is not delivered either
    obtain ⟨a, ha, hlong⟩ : ∃ a ∈ acks, ¬ Writable a := by simpa using hall
    constructor
    · intro heq
      have hsub := delivered_filter_sublist acks tape rounds hbytes hrounds
      rw [heq] at hsub
      have hlength := hsub.length_le
      rw [List.length_map, List.length_map] at hlength
      have hfilter : (acks.filter fun a => Writable a).length < acks.length :=
        List.length_filter_lt_length_iff_exists.mpr ⟨a, ha, by simpa using hlong⟩
      omega
    · rintro ⟨hfits, -⟩
      exact absurd (lt_of_le_of_lt (hfits a ha) (by decide)) hlong

/-- An acknowledgement of a suppressed detection. -/
def suppressedAck : Ack := ⟨"m", "suppressed", false, none, none⟩

/-- Two of them in one chunk, after a timeout. -/
def quietTape : List Arrival :=
  .timeout :: putBack ([suppressedAck, suppressedAck].flatMap sendAck) []

theorem acknowledgements_reassembled_iff_quiet :
    (readerRun 200 (.fresh quietTape)).delivered = [suppressedAck, suppressedAck].map ackMessage ↔
      (∀ a ∈ [suppressedAck, suppressedAck], (ackPayload a).length ≤ maxFrameBytes) ∧
        ∀ pre post, events quietTape = pre ++ .timeout :: post →
          ∃ k, streamBytes pre = ([suppressedAck, suppressedAck].take k).flatMap sendAck :=
  acknowledgements_reassembled_iff [suppressedAck, suppressedAck] quietTape 200
    (by decide +kernel) (by decide +kernel)

/-- A timeout after the sixth byte of an acknowledgement that is followed by another one. -/
def cutTape : List Arrival :=
  let bytes := [suppressedAck, suppressedAck].flatMap sendAck
  putBack (bytes.take 6) (.timeout :: putBack (bytes.drop 6) [])

/-- A timeout inside a frame: the acknowledgement is not delivered, nor is the one after it. -/
theorem cut_acknowledgement_lost :
    ¬ ∀ (acks : List Ack) (tape : List Arrival) (rounds : ℕ),
      streamBytes (events tape) = acks.flatMap sendAck → (events tape).length ≤ rounds →
        (readerRun rounds (.fresh tape)).delivered = acks.map ackMessage := by
  intro h
  have hall := congrArg List.length
    (h [suppressedAck, suppressedAck] cutTape 200 (by decide +kernel) (by decide +kernel))
  have hlost : (readerRun 200 (.fresh cutTape)).delivered.length = 0 := by decide +kernel
  rw [hlost] at hall
  cases hall

end WeaponDetection.Contract
