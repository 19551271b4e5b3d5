import WeaponDetection.Backend.Activation.Devices
import WeaponDetection.Foundations.LockTable
import WeaponDetection.Foundations.TransitionSystem

/-!
# Regeneration and activation as interleaved transactions

Models `RegenerateActivationKeyAsync` and `ActivateAsync` of `DeviceService.cs` statement by statement
under read committed.  A plain read sees the committed rows and takes no lock that outlives it; the
Activation Key row of an activation is read under an update lock; every written row and the entry of
the filtered unique index are locked until the session ends.  Waiting for a lock is a step that is not
enabled yet.  A plain read never waits here: waiting for a writer is reading later.
-/

namespace WeaponDetection.Backend.Activation

open WeaponDetection.Foundations

/-! ## Decisions and writes -/

/-- The replacement key a regeneration has generated. -/
structure Regeneration where
  keyId : String
  secretHash : String
  deriving DecidableEq

/-- The row it inserts. -/
def Regeneration.replacement (r : Regeneration) : ActivationKey :=
  { activationKeyId := r.keyId, secretHash := r.secretHash, status := .unconsumed }

/-- A parsed activation request, with the secret and the identifier issued for it. -/
structure ActivationRequest where
  keyId : String
  secret : String
  protectedSharedSecret : String
  newGuid : Guid
  deriving DecidableEq

/-- `DeviceActivationFailureReason`, of a well-formed key. -/
inductive DeviceActivationFailureReason where
  | unknownKeyId
  | incorrectSecret
  | consumed
  | invalidated
  deriving DecidableEq

/-- The credential reset a regeneration decides on from the Device it has read. -/
def resetDevice (device : Device) : Option Device :=
  if device.activationStatus ≠ .unactivated then device.requireReactivation else some device

/-- What a regeneration writes, from the Device and the unconsumed keys it has read, to the rows. -/
def writeRegeneration (r : Regeneration) (device : Device) (unconsumed : List String)
    (db : DeviceDb) : Option DeviceDb :=
  (resetDevice device).bind fun reset =>
    let invalidated := db.keys.update
      (fun k => if k.activationKeyId ∈ unconsumed then k.invalidate else k) fun k => by
        split <;> rfl
    (invalidated.insert r.replacement).map fun keys =>
      { device := (device.changes reset).apply db.device, keys }

/-- The checks of `ActivateAsync` on the key row. -/
def checkKey (verifySecret : String → String → Bool) (q : ActivationRequest) (db : DeviceDb) :
    Except DeviceActivationFailureReason ActivationKey :=
  match db.keys.find? q.keyId with
  | none => .error .unknownKeyId
  | some key =>
    if verifySecret q.secret key.secretHash = false then .error .incorrectSecret
    else
      match key.status with
      | .consumed => .error .consumed
      | .invalidated => .error .invalidated
      | .unconsumed => .ok key

/-- What an activation writes, from the key and the Device it has read, to the rows. -/
def writeActivation (q : ActivationRequest) (key : ActivationKey) (device : Device)
    (db : DeviceDb) : Option DeviceDb :=
  key.consume.bind fun consumed =>
    (device.activate q.protectedSharedSecret q.newGuid).map fun activated =>
      { device := (device.changes activated).apply db.device
        keys := db.keys.update
          (fun k => if k.activationKeyId = key.activationKeyId then
            { k with status := consumed.status } else k) fun k => by split <;> rfl }

/-- A transaction of one of the two kinds. -/
inductive Transaction where
  | regenerate (r : Regeneration)
  | activate (q : ActivationRequest)
  deriving DecidableEq

/-- A transaction that runs alone reads and writes the same rows.  `none`: it does not commit. -/
def Transaction.runAlone (verifySecret : String → String → Bool) (db : DeviceDb) :
    Transaction → Option DeviceDb
  | .regenerate r => writeRegeneration r db.device db.unconsumedKeys db
  | .activate q =>
    match checkKey verifySecret q db with
    | .error _ => none
    | .ok key => writeActivation q key db.device db

/-- A serial execution. -/
def replay (verifySecret : String → String → Bool) (db : DeviceDb) : List Transaction → Option DeviceDb
  | [] => some db
  | t :: ts => (t.runAlone verifySecret db).bind fun db' => replay verifySecret db' ts

theorem replay_append (verifySecret : String → String → Bool) (db : DeviceDb)
    (ts us : List Transaction) :
    replay verifySecret db (ts ++ us) =
      (replay verifySecret db ts).bind fun db' => replay verifySecret db' us := by
  induction ts generalizing db with
  | nil => rfl
  | cons t ts ih =>
    simp only [List.cons_append, replay, ih, Option.bind_assoc]

/-! ## Sessions -/

/-- What a session locks. -/
inductive Resource where
  | key (activationKeyId : String)
  | device
  /-- The Device's entry in the filtered unique index of unconsumed keys. -/
  | unconsumedEntry
  deriving DecidableEq

/-- How far `RegenerateActivationKeyAsync` has come, with what it has read. -/
inductive RegenerationStage where
  | begun
  | deviceRead (device : Device)
  | keysRead (device : Device) (unconsumed : List String)
  /-- Invalidations and reset are written, not committed. -/
  | flushed (device : Device) (unconsumed : List String)
  | inserted (device : Device) (unconsumed : List String)
  deriving DecidableEq

/-- How far `ActivateAsync` has come, with what it has read. -/
inductive ActivationStage where
  | begun
  /-- The key has passed its checks and is held under the update lock. -/
  | keyRead (key : ActivationKey)
  | deviceRead (key : ActivationKey) (device : Device)
  | flushed (key : ActivationKey) (device : Device)
  deriving DecidableEq

/-- How a transaction ended. -/
inductive SessionOutcome where
  | committed
  | rejected (reason : DeviceActivationFailureReason)
  /-- `ActivationKeyRegenerationConflictException`. -/
  | conflict
  /-- Any other exception, a cancelled request or a deadlock victim. -/
  | failed
  deriving DecidableEq

/-- A database session with its transaction. -/
inductive Session where
  | regeneration (r : Regeneration) (stage : RegenerationStage)
  | activation (q : ActivationRequest) (stage : ActivationStage)
  | ended (outcome : SessionOutcome)
  deriving DecidableEq

/-- A session that has just opened its transaction. -/
def Transaction.session : Transaction → Session
  | .regenerate r => .regeneration r .begun
  | .activate q => .activation q .begun

/-- The committed rows, the sessions and their locks, and the committed transactions in order. -/
structure ActivationState where
  db : DeviceDb
  sessions : List Session
  locks : LockTable Resource
  committed : List Transaction

/-- A session goes on to its next stage. -/
def ActivationState.proceed (s : ActivationState) (i : ℕ) (session : Session) : ActivationState :=
  { s with sessions := s.sessions.set i session }

/-- A session takes locks and goes on. -/
def ActivationState.proceedWith (s : ActivationState) (i : ℕ) (rs : List Resource) (session : Session) :
    Option ActivationState :=
  if ∀ r ∈ rs, s.locks.Available i r then
    some { s with sessions := s.sessions.set i session, locks := s.locks.acquire i rs }
  else none

/-- A session ends without having changed anything. -/
def ActivationState.finish (s : ActivationState) (i : ℕ) (outcome : SessionOutcome) : ActivationState :=
  { s with sessions := s.sessions.set i (.ended outcome), locks := s.locks.release i }

/-- A session commits. -/
def ActivationState.commit (s : ActivationState) (i : ℕ) (t : Transaction) (db : DeviceDb) : ActivationState :=
  { db, sessions := s.sessions.set i (.ended .committed), locks := s.locks.release i
    committed := s.committed ++ [t] }

/-- The rows and the index entry the first `SaveChangesAsync` of a regeneration writes. -/
def flushResources (device reset : Device) (unconsumed : List String) : List Resource :=
  unconsumed.map Resource.key ++ (if unconsumed = [] then [] else [.unconsumedEntry]) ++
    if reset = device then [] else [.device]

/-- The next statement of `RegenerateActivationKeyAsync`. -/
def advanceRegeneration (s : ActivationState) (i : ℕ) (r : Regeneration) :
    RegenerationStage → Option ActivationState
  | .begun => some (s.proceed i (.regeneration r (.deviceRead s.db.device)))
  | .deviceRead device =>
    some (s.proceed i (.regeneration r (.keysRead device s.db.unconsumedKeys)))
  | .keysRead device unconsumed =>
    match resetDevice device with
    | none => some (s.finish i .failed)
    | some reset =>
      s.proceedWith i (flushResources device reset unconsumed)
        (.regeneration r (.flushed device unconsumed))
  | .flushed device unconsumed =>
    if s.locks.Available i .unconsumedEntry then
      if (s.db.keys.find? r.keyId).isSome then some (s.finish i .failed)
      -- The index sees the committed keys, less those this session has invalidated itself.
      else if ∃ keyId ∈ s.db.unconsumedKeys, keyId ∉ unconsumed then some (s.finish i .conflict)
      else
        s.proceedWith i [.key r.keyId, .unconsumedEntry]
          (.regeneration r (.inserted device unconsumed))
    else none
  | .inserted device unconsumed =>
    some (match writeRegeneration r device unconsumed s.db with
      | none => s.finish i .failed
      | some db => s.commit i (.regenerate r) db)

/-- The next statement of `ActivateAsync`. -/
def advanceActivation (verifySecret : String → String → Bool) (s : ActivationState) (i : ℕ)
    (q : ActivationRequest) : ActivationStage → Option ActivationState
  | .begun =>
    if s.locks.Available i (.key q.keyId) then
      match checkKey verifySecret q s.db with
      | .error reason => some (s.finish i (.rejected reason))
      | .ok key => s.proceedWith i [.key q.keyId] (.activation q (.keyRead key))
    else none
  | .keyRead key => some (s.proceed i (.activation q (.deviceRead key s.db.device)))
  | .deviceRead key device =>
    if (device.activate q.protectedSharedSecret q.newGuid).isNone then some (s.finish i .failed)
    else
      s.proceedWith i [.key key.activationKeyId, .unconsumedEntry, .device]
        (.activation q (.flushed key device))
  | .flushed key device =>
    some (match writeActivation q key device s.db with
      | none => s.finish i .failed
      | some db => s.commit i (.activate q) db)

/-- What can happen next. -/
inductive ActivationAction where
  | begin (t : Transaction)
  | advance (i : ℕ)
  /-- The session dies, for whatever reason. -/
  | abort (i : ℕ)
  deriving DecidableEq

/-- One step of one session. -/
def activationStep (verifySecret : String → String → Bool) (s : ActivationState) :
    ActivationAction → Option ActivationState
  | .begin t => some { s with sessions := s.sessions ++ [t.session] }
  | .advance i =>
    match s.sessions[i]? with
    | some (.regeneration r stage) => advanceRegeneration s i r stage
    | some (.activation q stage) => advanceActivation verifySecret s i q stage
    | _ => none
  | .abort i =>
    match s.sessions[i]? with
    | none | some (.ended _) => none
    | some _ => some (s.finish i .failed)

/-- No session, no lock, nothing committed yet. -/
def ActivationState.start (db : DeviceDb) : ActivationState := ⟨db, [], .free, []⟩

/-- The transactions on one Device as a transition system. -/
def activationSystem (verifySecret : String → String → Bool) (db : DeviceDb) :
    TransitionSystem ActivationState ActivationAction where
  init := fun s => s = .start db
  step := activationStep verifySecret

end WeaponDetection.Backend.Activation
