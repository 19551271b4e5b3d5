import WeaponDetection.Foundations.OrderedDict
import Mathlib.Data.List.Induction
import Mathlib.Data.Rat.Defs
import Mathlib.Algebra.Order.Ring.Rat

/-!
# The snapshot rendezvous of the Bridge

Models `deepstream_bridge/snapshot.py`: candidates indexed by message, a second index from a source's
frame to the message, and the calls that record a detection, open the valve, bring the JPEG and bring
the acknowledgement.  Every public method holds one lock for its whole body, so the calls of the
three threads form one sequence and a call is one step.

The first half of a run's theory needs no assumption: no message gets a second result and no result
carries bytes of another frame (`SafeInv`).  That no snapshot is lost needs the second index to be the
image of the first (`Indexed`), which the code keeps only as long as no detection is recorded on a
frame that has a live candidate: `_by_frame` holds one message per frame, so a second object on the
frame overwrites the first, and removing either disconnects the other.
-/

namespace WeaponDetection.Bridge

open WeaponDetection.Foundations (OrderedDict)

/-! ## State -/

/-- JPEG bytes. -/
abbrev Bytes := List UInt8

/-- A source and a frame number, the key of the second index. -/
abbrev FrameKey := ℤ × ℤ

/-- `_Candidate`. -/
structure Candidate where
  sourceId : ℤ
  frameNumber : ℤ
  messageId : String
  expiresAt : ℚ
  valveMatched : Bool
  jpegBytes : Option Bytes
  ackOutcome : Option String
  /-- The acknowledged event, where it is a string. -/
  eventId : Option String
  snapshotRequired : Bool
  completed : Bool
  deriving DecidableEq

/-- The frame a candidate was recorded on. -/
def Candidate.frame (c : Candidate) : FrameKey := (c.sourceId, c.frameNumber)

/-- The constructor arguments of `SnapshotRendezvous`. -/
structure RendezvousConfig where
  maxRetained : ℕ
  maxRetained_pos : 0 < maxRetained
  ttlSeconds : ℚ
  ttlSeconds_pos : 0 < ttlSeconds

/-- A rendezvous for 64 candidates of at most 30 seconds. -/
def RendezvousConfig.sixtyFour : RendezvousConfig := ⟨64, by decide, 30, by decide⟩

/-- The two indexes. -/
structure Rendezvous where
  byMessage : OrderedDict String Candidate
  byFrame : OrderedDict FrameKey String

/-- A fresh rendezvous. -/
def Rendezvous.fresh : Rendezvous := ⟨.empty, .empty⟩

/-- What a completing call returns, with the message it completes. -/
structure Completion where
  messageId : String
  eventId : String
  jpegBytes : Bytes
  deriving DecidableEq

/-! ## The locked helpers -/

/-- `_remove_locked`. -/
def Rendezvous.remove (st : Rendezvous) (c : Candidate) : Rendezvous :=
  { byMessage := st.byMessage.pop c.messageId, byFrame := st.byFrame.pop c.frame }

/-- The candidates `_expire_locked` collects. -/
def Rendezvous.expired (st : Rendezvous) (now : ℚ) : List Candidate :=
  (st.byMessage.entries.map Prod.snd).filter fun c => c.expiresAt ≤ now ∧ c.completed = false

/-- `_expire_locked`. -/
def Rendezvous.expire (st : Rendezvous) (now : ℚ) : Rendezvous :=
  (st.expired now).foldl Rendezvous.remove st

/-- A change of a candidate's fields, seen through the first index. -/
def Rendezvous.store (st : Rendezvous) (c : Candidate) : Rendezvous :=
  { st with byMessage := st.byMessage.set c.messageId c }

/-- `_try_complete_locked` on a candidate with its new fields. -/
def Rendezvous.tryComplete (st : Rendezvous) (c : Candidate) : Rendezvous × Option Completion :=
  if c.completed then (st.store c, none)
  else if c.ackOutcome ≠ some "accepted" ∨ c.snapshotRequired = false then (st.store c, none)
  else
    match c.eventId, c.jpegBytes with
    | some eventId, some jpegBytes =>
      (st.remove c, some { messageId := c.messageId, eventId, jpegBytes })
    | _, _ => (st.store c, none)

/-- One pass of the eviction loop over the messages. -/
def Rendezvous.evictOldest (st : Rendezvous) : Rendezvous :=
  match st.byMessage.entries.head? with
  | some (_, oldest) =>
    { byMessage := st.byMessage.popFirst, byFrame := st.byFrame.pop oldest.frame }
  | none => st

/-- One pass of the eviction loop over the frames. -/
def Rendezvous.evictFrame (st : Rendezvous) : Rendezvous :=
  { st with byFrame := st.byFrame.popFirst }

/-- Both eviction loops: each pass drops one entry, so their lengths are known beforehand. -/
def Rendezvous.evict (cfg : RendezvousConfig) (st : Rendezvous) : Rendezvous :=
  let st := Rendezvous.evictOldest^[st.byMessage.entries.length - cfg.maxRetained] st
  Rendezvous.evictFrame^[st.byFrame.entries.length - cfg.maxRetained] st

/-! ## The calls -/

/-- The candidate `record_detection` creates. -/
def newCandidate (cfg : RendezvousConfig) (now : ℚ) (sourceId : ℤ) (messageId : String)
    (frameNumber : ℤ) : Candidate :=
  { sourceId, frameNumber, messageId, expiresAt := now + cfg.ttlSeconds, valveMatched := false
    jpegBytes := none, ackOutcome := none, eventId := none, snapshotRequired := false
    completed := false }

/-- The indexes with a new candidate, before eviction. -/
def Rendezvous.insert (cfg : RendezvousConfig) (st : Rendezvous) (now : ℚ) (sourceId : ℤ)
    (messageId : String) (frameNumber : ℤ) : Rendezvous :=
  { byMessage := (st.byMessage.set messageId
      (newCandidate cfg now sourceId messageId frameNumber)).moveToEnd messageId
    byFrame := (st.byFrame.set (sourceId, frameNumber) messageId).moveToEnd
      (sourceId, frameNumber) }

/-- `record_detection`. -/
def Rendezvous.recordDetection (cfg : RendezvousConfig) (st : Rendezvous) (now : ℚ) (sourceId : ℤ)
    (messageId : String) (frameNumber : ℤ) : Rendezvous :=
  ((st.expire now).insert cfg now sourceId messageId frameNumber).evict cfg

/-- `consume_candidate`. -/
def Rendezvous.consumeCandidate (st : Rendezvous) (now : ℚ) (sourceId frameNumber : ℤ) :
    Rendezvous × Bool :=
  let st := st.expire now
  match (st.byFrame.get? (sourceId, frameNumber)).bind st.byMessage.get? with
  | none => (st, false)
  | some c => if c.valveMatched then (st, false) else (st.store { c with valveMatched := true }, true)

/-- `submit_jpeg`. -/
def Rendezvous.submitJpeg (st : Rendezvous) (now : ℚ) (sourceId frameNumber : ℤ)
    (jpegBytes : Bytes) : Rendezvous × Option Completion :=
  let st := st.expire now
  match (st.byFrame.get? (sourceId, frameNumber)).bind st.byMessage.get? with
  | none => (st, none)
  | some c =>
    if c.completed then (st, none) else st.tryComplete { c with jpegBytes := some jpegBytes }

/-- `submit_ack`. -/
def Rendezvous.submitAck (st : Rendezvous) (now : ℚ) (messageId : String)
    (outcome eventId : Option String) (snapshotRequired : Bool) :
    Rendezvous × Option Completion :=
  let st := st.expire now
  match st.byMessage.get? messageId with
  | none => (st, none)
  | some c =>
    if c.completed then (st, none)
    else if outcome ≠ some "accepted" ∨ snapshotRequired = false then (st.remove c, none)
    else st.tryComplete { c with ackOutcome := outcome, eventId, snapshotRequired }

/-- A call of one of the three threads. -/
inductive Call where
  | recordDetection (sourceId : ℤ) (messageId : String) (frameNumber : ℤ)
  | consumeCandidate (sourceId frameNumber : ℤ)
  | submitJpeg (sourceId frameNumber : ℤ) (jpegBytes : Bytes)
  | submitAck (messageId : String) (outcome eventId : Option String) (snapshotRequired : Bool)
  deriving DecidableEq

/-- A call with the clock reading it takes. -/
structure TimedCall where
  now : ℚ
  call : Call

/-- The effect of a call and the pair it returns, if any. -/
def step (cfg : RendezvousConfig) (st : Rendezvous) (x : TimedCall) :
    Rendezvous × Option Completion :=
  match x.call with
  | .recordDetection sourceId messageId frameNumber =>
    (st.recordDetection cfg x.now sourceId messageId frameNumber, none)
  | .consumeCandidate sourceId frameNumber =>
    ((st.consumeCandidate x.now sourceId frameNumber).1, none)
  | .submitJpeg sourceId frameNumber jpegBytes => st.submitJpeg x.now sourceId frameNumber jpegBytes
  | .submitAck messageId outcome eventId snapshotRequired =>
    st.submitAck x.now messageId outcome eventId snapshotRequired

/-- The state after a list of calls. -/
def run (cfg : RendezvousConfig) (st : Rendezvous) : List TimedCall → Rendezvous
  | [] => st
  | x :: xs => run cfg (step cfg st x).1 xs

/-- The pairs a list of calls returns, in order. -/
def completions (cfg : RendezvousConfig) (st : Rendezvous) : List TimedCall → List Completion
  | [] => []
  | x :: xs => (step cfg st x).2.toList ++ completions cfg (step cfg st x).1 xs

theorem run_append (cfg : RendezvousConfig) (st : Rendezvous) (xs ys : List TimedCall) :
    run cfg st (xs ++ ys) = run cfg (run cfg st xs) ys := by
  induction xs generalizing st with
  | nil => rfl
  | cons x xs ih => exact ih _

theorem completions_append (cfg : RendezvousConfig) (st : Rendezvous) (xs ys : List TimedCall) :
    completions cfg st (xs ++ ys) =
      completions cfg st xs ++ completions cfg (run cfg st xs) ys := by
  induction xs generalizing st with
  | nil => rfl
  | cons x xs ih => simp only [List.cons_append, completions, ih, run, List.append_assoc]

end WeaponDetection.Bridge
