import WeaponDetection.Contract.Framing

/-!
# The acknowledgement reader of the Bridge

Models `_reader_run`, `_read_one_frame` and `_recv_exact` of `deepstream_bridge/transport.py` over one
connection.  What the socket gives the reader is a tape: non-empty chunks in the order they arrive,
with a receive timeout anywhere between them.  `recv(n)` takes at most `n` bytes off the first chunk.

A timeout inside `_recv_exact` raises `_ConnectionUnavailable` and the bytes gathered so far go with
the local buffer, so the next round reads its header wherever the stream then stands.  `deliveries`
says the same one byte at a time, which frees the argument about a run from the split into chunks
(`readerRun_delivered`).
-/

namespace WeaponDetection.Bridge

open WeaponDetection.Foundations.Python (PyValue)
open WeaponDetection.Contract

/-! ## The socket -/

/-- One thing the socket answers a `recv` with. -/
inductive Arrival where
  | chunk (first : UInt8) (rest : List UInt8)
  | timeout
  deriving DecidableEq

/-- The tape after the first bytes of its first chunk were taken. -/
def putBack : List UInt8 → List Arrival → List Arrival
  | [], tape => tape
  | b :: bs, tape => .chunk b bs :: tape

/-- `sock.recv(n)`, `none` for a timeout.  A tape that has run out times out for good. -/
def recv (n : ℕ) : List Arrival → Option (List UInt8) × List Arrival
  | [] => (none, [])
  | .timeout :: tape => (none, tape)
  | .chunk b bs :: tape => (some ((b :: bs).take n), putBack ((b :: bs).drop n) tape)

/-- The loop of `_recv_exact`, `none` for `_ConnectionUnavailable`.  Every `recv` brings a byte, so
as many rounds as bytes are missing are enough. -/
def recvLoop (size : ℕ) : ℕ → List UInt8 → List Arrival → Option (List UInt8) × List Arrival
  | 0, chunks, tape => (some chunks, tape)
  | fuel + 1, chunks, tape =>
    if chunks.length < size then
      match recv (size - chunks.length) tape with
      | (none, tape) => (none, tape)
      | (some chunk, tape) => recvLoop size fuel (chunks ++ chunk) tape
    else (some chunks, tape)

/-- `_recv_exact`. -/
def recvExact (size : ℕ) (tape : List Arrival) : Option (List UInt8) × List Arrival :=
  recvLoop size size [] tape

/-! ## The reader -/

/-- The reader's side of one connection: whether it is still the current one, what the socket has
left, and the messages `on_acknowledgement` was called with. -/
structure Reader where
  connected : Bool
  tape : List Arrival
  delivered : List PyValue

/-- What `_read_one_frame` does with a complete frame: other kinds and bodies that do not decode are
ignored. -/
def dispatch (kind : ℕ) (body : List UInt8) : List PyValue :=
  if kind = frameKindAcknowledgement then (decodeAcknowledgement body).toList else []

/-- `_read_one_frame`. -/
def readOneFrame (r : Reader) : Reader :=
  if r.connected then
    match recvExact frameHeaderBytes r.tape with
    | (none, tape) => { r with tape }
    | (some header, tape) =>
      let (kind, length) := decodeFrameHeader header
      if maxFrameBytes < length then { r with connected := false, tape }
      else
        match recvExact length tape with
        | (none, tape) => { r with tape }
        | (some body, tape) =>
          { r with tape, delivered := r.delivered ++ dispatch kind body }
  else r

/-- `_reader_run`, for a number of rounds of its loop. -/
def readerRun : ℕ → Reader → Reader
  | 0, r => r
  | rounds + 1, r => readerRun rounds (readOneFrame r)

/-- The reader of a fresh connection. -/
def Reader.fresh (tape : List Arrival) : Reader := ⟨true, tape, []⟩

/-! ## One byte at a time -/

/-- What one byte or one timeout brings. -/
inductive StreamEvent where
  | byte (b : UInt8)
  | timeout
  deriving DecidableEq

/-- The bytes and timeouts of a tape. -/
def events : List Arrival → List StreamEvent
  | [] => []
  | .timeout :: tape => .timeout :: events tape
  | .chunk b bs :: tape => (b :: bs).map .byte ++ events tape

/-- Where the reader stands: inside a header, inside a body, or on a connection it gave up. -/
inductive Phase where
  | header (got : List UInt8)
  | body (kind length : ℕ) (got : List UInt8)
  | closed
  deriving DecidableEq

/-- The phase after a complete header, and what it delivers. -/
def afterHeader (header : List UInt8) : Phase × List PyValue :=
  let (kind, length) := decodeFrameHeader header
  if maxFrameBytes < length then (.closed, [])
  else if length = 0 then (.header [], dispatch kind [])
  else (.body kind length [], [])

/-- One byte. -/
def feedByte : Phase → UInt8 → Phase × List PyValue
  | .header got, b =>
    if (got ++ [b]).length < frameHeaderBytes then (.header (got ++ [b]), [])
    else afterHeader (got ++ [b])
  | .body kind length got, b =>
    if (got ++ [b]).length < length then (.body kind length (got ++ [b]), [])
    else (.header [], dispatch kind (got ++ [b]))
  | .closed, _ => (.closed, [])

/-- A timeout: whatever was gathered is gone. -/
def timedOut : Phase → Phase
  | .closed => .closed
  | _ => .header []

/-- The messages a stream brings from a phase on. -/
def deliveries : Phase → List StreamEvent → List PyValue
  | _, [] => []
  | ph, .timeout :: es => deliveries (timedOut ph) es
  | ph, .byte b :: es => (feedByte ph b).2 ++ deliveries (feedByte ph b).1 es

@[simp] theorem deliveries_closed (es : List StreamEvent) : deliveries .closed es = [] := by
  induction es with
  | nil => rfl
  | cons e es ih => cases e <;> simp [deliveries, feedByte, timedOut, ih]

/-- Bytes that do not complete the header only extend it. -/
theorem deliveries_header_short {got bs : List UInt8} (es : List StreamEvent)
    (h : (got ++ bs).length < frameHeaderBytes) :
    deliveries (.header got) (bs.map .byte ++ es) = deliveries (.header (got ++ bs)) es := by
  induction bs generalizing got with
  | nil => rw [List.append_nil]; rfl
  | cons b bs ih =>
    have hshort : (got ++ [b]).length < frameHeaderBytes := by
      simp only [List.length_append, List.length_cons, List.length_nil] at h ⊢
      omega
    rw [List.append_cons got b bs] at h ⊢
    rw [List.map_cons, List.cons_append, deliveries, feedByte, if_pos hshort, ih h]
    rfl

/-- Bytes that do not complete the body only extend it. -/
theorem deliveries_body_short {kind length : ℕ} {got bs : List UInt8} (es : List StreamEvent)
    (h : (got ++ bs).length < length) :
    deliveries (.body kind length got) (bs.map .byte ++ es) =
      deliveries (.body kind length (got ++ bs)) es := by
  induction bs generalizing got with
  | nil => rw [List.append_nil]; rfl
  | cons b bs ih =>
    have hshort : (got ++ [b]).length < length := by
      simp only [List.length_append, List.length_cons, List.length_nil] at h ⊢
      omega
    rw [List.append_cons got b bs] at h ⊢
    rw [List.map_cons, List.cons_append, deliveries, feedByte, if_pos hshort, ih h]
    rfl

/-- A non-empty list is its front and its last element. -/
theorem exists_concat_of_length {bs : List UInt8} {n : ℕ} (h : bs.length = n + 1) :
    ∃ front b, bs = front ++ [b] ∧ front.length = n := by
  have hne : bs ≠ [] := by
    intro hnil
    rw [hnil] at h
    cases h
  refine ⟨bs.dropLast, bs.getLast hne, (List.dropLast_concat_getLast hne).symm, ?_⟩
  rw [List.length_dropLast, h]
  rfl

/-- A complete header decides how the stream goes on. -/
theorem deliveries_header {header : List UInt8} (es : List StreamEvent)
    (h : header.length = frameHeaderBytes) :
    deliveries (.header []) (header.map .byte ++ es) =
      (afterHeader header).2 ++ deliveries (afterHeader header).1 es := by
  obtain ⟨front, b, rfl, hfront⟩ := exists_concat_of_length h
  rw [List.map_append, List.append_assoc, deliveries_header_short]
  · have hfull : ¬ (front ++ [b]).length < frameHeaderBytes := by omega
    rw [List.nil_append, List.map_cons, List.map_nil, List.singleton_append, deliveries, feedByte,
      if_neg hfull]
  · rw [List.nil_append, hfront]
    decide

/-- A complete body is dispatched. -/
theorem deliveries_body (kind : ℕ) {length : ℕ} {body : List UInt8} (es : List StreamEvent)
    (hpos : 0 < length) (h : body.length = length) :
    deliveries (.body kind length []) (body.map .byte ++ es) =
      dispatch kind body ++ deliveries (.header []) es := by
  obtain ⟨n, rfl⟩ : ∃ n, length = n + 1 := ⟨length - 1, by omega⟩
  obtain ⟨front, b, rfl, hfront⟩ := exists_concat_of_length h
  rw [List.map_append, List.append_assoc, deliveries_body_short]
  · have hfull : ¬ (front ++ [b]).length < n + 1 := by omega
    rw [List.nil_append, List.map_cons, List.map_nil, List.singleton_append, deliveries, feedByte,
      if_neg hfull]
  · rw [List.nil_append, hfront]
    omega

/-! ## The reader follows the stream -/

/-- What a receive may answer: the bytes asked for, or nothing after fewer bytes and then a timeout
or the end of the tape. -/
inductive Received (size : ℕ) (got : List UInt8) (tape : List Arrival) :
    Option (List UInt8) × List Arrival → Prop where
  | full {new : List UInt8} {tape' : List Arrival} : (got ++ new).length = size →
      events tape = new.map .byte ++ events tape' → Received size got tape (some (got ++ new), tape')
  | cut {new : List UInt8} {tape' : List Arrival} : (got ++ new).length < size →
      events tape = new.map .byte ++ .timeout :: events tape' → Received size got tape (none, tape')
  | drained {new : List UInt8} : (got ++ new).length < size →
      events tape = new.map .byte → Received size got tape (none, [])

theorem events_putBack (bs : List UInt8) (tape : List Arrival) :
    events (putBack bs tape) = bs.map .byte ++ events tape := by
  cases bs <;> rfl

/-- A chunk in front of a receive is part of what it gathered. -/
theorem Received.prepend {size : ℕ} {got chunk : List UInt8} {tape tape' : List Arrival}
    {r : Option (List UInt8) × List Arrival}
    (hevents : events tape = chunk.map .byte ++ events tape')
    (h : Received size (got ++ chunk) tape' r) : Received size got tape r := by
  cases h with
  | full hlength hes =>
    rw [List.append_assoc] at hlength ⊢
    exact .full hlength (by rw [hevents, hes, List.map_append, List.append_assoc])
  | cut hlength hes =>
    rw [List.append_assoc] at hlength
    exact .cut hlength (by rw [hevents, hes, List.map_append, List.append_assoc])
  | drained hlength hes =>
    rw [List.append_assoc] at hlength
    exact .drained hlength (by rw [hevents, hes, List.map_append])

theorem recvLoop_received {size fuel : ℕ} {got : List UInt8} (tape : List Arrival)
    (hle : got.length ≤ size) (hfuel : size ≤ got.length + fuel) :
    Received size got tape (recvLoop size fuel got tape) := by
  induction fuel generalizing got tape with
  | zero =>
    have hfull : (got ++ []).length = size := by rw [List.append_nil]; omega
    have hreceived : Received size got tape (some (got ++ []), tape) := .full hfull rfl
    rw [List.append_nil] at hreceived
    exact hreceived
  | succ fuel ih =>
    rw [recvLoop]
    split_ifs with hmissing
    · have hshort : (got ++ []).length < size := by rw [List.append_nil]; exact hmissing
      cases tape with
      | nil => exact .drained hshort rfl
      | cons arrival tape =>
        cases arrival with
        | timeout => exact .cut hshort rfl
        | chunk b bs =>
          -- the chunk brings at least one byte and no more than were missing
          have htake : 0 < ((b :: bs).take (size - got.length)).length := by
            rw [List.length_take, List.length_cons]
            omega
          have htakele : ((b :: bs).take (size - got.length)).length ≤ size - got.length :=
            List.length_take_le _ _
          have hevents : events (.chunk b bs :: tape) =
              ((b :: bs).take (size - got.length)).map .byte ++
                events (putBack ((b :: bs).drop (size - got.length)) tape) := by
            rw [events_putBack, ← List.append_assoc, ← List.map_append, List.take_append_drop]
            rfl
          refine Received.prepend hevents (ih _ ?_ ?_)
          · rw [List.length_append]; omega
          · rw [List.length_append]; omega
    · have hfull : (got ++ []).length = size := by rw [List.append_nil]; omega
      have hreceived : Received size got tape (some (got ++ []), tape) := .full hfull rfl
      rw [List.append_nil] at hreceived
      exact hreceived

theorem recvExact_received (size : ℕ) (tape : List Arrival) :
    Received size [] tape (recvExact size tape) :=
  recvLoop_received tape (Nat.zero_le _) (by rw [List.length_nil, Nat.zero_add])

/-- Between two rounds the reader is at the start of a header, or has given the connection up. -/
def Reader.phase (r : Reader) : Phase := if r.connected then .header [] else .closed

/-- What one round does to the stream: the messages it brings are the first the stream owes, and it
uses some of the stream up unless there is none left. -/
structure Follows (r r' : Reader) : Prop where
  delivered : ∃ new, r'.delivered = r.delivered ++ new ∧
    deliveries r.phase (events r.tape) = new ++ deliveries r'.phase (events r'.tape)
  shrinks : r'.phase = .closed ∨ events r'.tape = [] ∨
    (events r'.tape).length < (events r.tape).length

/-- A receive that failed: the stream goes on at the start of a header, and there is less of it. -/
theorem Received.of_none {size : ℕ} {tape tape' : List Arrival}
    (h : Received size [] tape (none, tape')) (inside : List UInt8 → Phase)
    (hshort : ∀ bs es, bs.length < size →
      deliveries (inside []) (bs.map .byte ++ es) = deliveries (inside bs) es)
    (htimeout : ∀ bs, timedOut (inside bs) = .header []) :
    deliveries (inside []) (events tape) = deliveries (.header []) (events tape') ∧
      (events tape' = [] ∨ (events tape').length < (events tape).length) := by
  cases h with
  | @cut new _ hlength hes =>
    rw [hes, hshort new _ hlength, deliveries, htimeout]
    refine ⟨rfl, .inr ?_⟩
    rw [List.length_append, List.length_cons]
    omega
  | @drained new hlength hes =>
    have hstream := hshort new [] hlength
    rw [List.append_nil] at hstream
    rw [hes, hstream]
    exact ⟨rfl, .inl rfl⟩

/-- A receive that succeeded. -/
theorem Received.of_some {size : ℕ} {tape tape' : List Arrival} {bs : List UInt8}
    (h : Received size [] tape (some bs, tape')) :
    bs.length = size ∧ events tape = bs.map .byte ++ events tape' := by
  cases h with
  | full hlength hes => exact ⟨hlength, hes⟩

/-- **One round of the reader consumes what the byte machine consumes.** -/
theorem readOneFrame_follows (r : Reader) : Follows r (readOneFrame r) := by
  obtain ⟨connected, tape, delivered⟩ := r
  cases connected with
  | false => exact ⟨⟨[], (List.append_nil _).symm, rfl⟩, .inl rfl⟩
  | true =>
    simp only [readOneFrame, if_true]
    have hheader := recvExact_received frameHeaderBytes tape
    cases hrecv : recvExact frameHeaderBytes tape with
    | mk got tape₁ =>
    rw [hrecv] at hheader
    cases got with
    | none =>
      obtain ⟨hstream, hshrink⟩ := hheader.of_none .header
        (fun bs es h => deliveries_header_short es h) fun _ => rfl
      exact ⟨⟨[], (List.append_nil _).symm, hstream⟩, .inr hshrink⟩
    | some header =>
      obtain ⟨hlength, hes⟩ := hheader.of_some
      have hshrink : (events tape₁).length < (events tape).length := by
        rw [hes, List.length_append, List.length_map, hlength]
        exact Nat.lt_add_of_pos_left (by decide)
      have hstream := deliveries_header (events tape₁) hlength
      rw [← hes, afterHeader] at hstream
      cases hdecode : decodeFrameHeader header with
      | mk kind length =>
      simp only [hdecode] at hstream ⊢
      split_ifs at hstream ⊢ with hoversized hempty
      · exact ⟨⟨[], (List.append_nil _).symm, hstream⟩, .inl rfl⟩
      · subst hempty
        exact ⟨⟨dispatch kind [], rfl, hstream⟩, .inr (.inr hshrink)⟩
      · have hbody := recvExact_received length tape₁
        cases hrecv₂ : recvExact length tape₁ with
        | mk got tape₂ =>
        rw [hrecv₂] at hbody
        cases got with
        | none =>
          obtain ⟨hrest, hshrink₂⟩ := hbody.of_none (.body kind length)
            (fun bs es h => deliveries_body_short es h) fun _ => rfl
          refine ⟨⟨[], (List.append_nil _).symm, hstream.trans hrest⟩, .inr ?_⟩
          exact hshrink₂.imp id fun h => h.trans hshrink
        | some body =>
          obtain ⟨hlength₂, hes₂⟩ := hbody.of_some
          have hrest := deliveries_body kind (events tape₂) (by omega) hlength₂
          rw [← hes₂] at hrest
          refine ⟨⟨dispatch kind body, rfl, hstream.trans hrest⟩, .inr (.inr ?_)⟩
          refine lt_of_le_of_lt ?_ hshrink
          rw [hes₂, List.length_append]
          exact Nat.le_add_left _ _

theorem readOneFrame_closed {r : Reader} (h : r.phase = .closed) :
    (readOneFrame r).phase = .closed := by
  obtain ⟨connected, tape, delivered⟩ := r
  cases connected with
  | false => rfl
  | true => cases h

/-- **A reader that goes round often enough delivers what the stream brings.** -/
theorem readerRun_delivered (rounds : ℕ) (r : Reader)
    (h : r.phase = .closed ∨ (events r.tape).length ≤ rounds) :
    (readerRun rounds r).delivered = r.delivered ++ deliveries r.phase (events r.tape) := by
  induction rounds generalizing r with
  | zero =>
    rcases h with h | h
    · rw [h, deliveries_closed, List.append_nil]
      rfl
    · have hnil : events r.tape = [] := List.length_eq_zero_iff.mp (Nat.le_zero.mp h)
      rw [hnil]
      cases r.phase <;> exact (List.append_nil _).symm
  | succ rounds ih =>
    obtain ⟨⟨new, hdelivered, hstream⟩, hshrinks⟩ := readOneFrame_follows r
    have hnext : (readOneFrame r).phase = .closed ∨
        (events (readOneFrame r).tape).length ≤ rounds := by
      rcases h with h | h
      · exact .inl (readOneFrame_closed h)
      · rcases hshrinks with hclosed | hnil | hlt
        · exact .inl hclosed
        · right
          rw [hnil]
          exact Nat.zero_le _
        · right
          omega
    rw [readerRun, ih _ hnext, hdelivered, hstream, List.append_assoc]

end WeaponDetection.Bridge
