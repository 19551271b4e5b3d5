import WeaponDetection.Backend.Activation.Transactions
import WeaponDetection.Foundations.CredentialLedger
import WeaponDetection.Foundations.Python

/-!
# The Devices of all Branches and their credentials

Models the operations that decide over credentials, one after another over the rows of all Branches:
`CreateBranchAsync`, `UpdateBranchAsync` and `DeleteBranchAsync` of `BranchService.cs` as far as Devices
and Activation Keys go, `RegenerateActivationKeyAsync` and `ActivateAsync` of `DeviceService.cs` from
the presented text on, and `DeviceCredentialValidator.cs`.  An operation that throws is rolled back.
-/

namespace WeaponDetection.Backend.Credentials

open WeaponDetection.Foundations
open WeaponDetection.Backend.Activation (DeviceActivationFailureReason resetDevice)

/-! ## What is drawn and what the platform decides -/

/-- The password hasher, the data protection and the collation of the database. -/
structure Platform where
  /-- `VerifySecret(secret, secretHash)`. -/
  verifySecret : String → String → Bool
  /-- `Unprotect`, `none` for a `CryptographicException`. -/
  unprotect : String → Option String
  /-- What the collation of `ActivationKeyId` compares. -/
  collate : String → String

/-- `Guid.NewGuid()` is never the empty one. -/
abbrev NewGuid := {g : Guid // g ≠ 0}

/-- `GeneratedActivationKey`: the hash verifies the secret and no other. -/
structure GeneratedKey (p : Platform) where
  keyId : String
  secret : String
  secretHash : String
  verifies : ∀ presented, p.verifySecret presented secretHash = true ↔ presented = secret

/-- `GenerateSharedSecret`, a text of 43 characters, and its protected form. -/
structure IssuedSecret (p : Platform) where
  sharedSecret : String
  protectedSharedSecret : String
  length : DotNet.length sharedSecret = 43
  unprotects : p.unprotect protectedSharedSecret = some sharedSecret

variable {p : Platform}

theorem IssuedSecret.ne_empty (issued : IssuedSecret p) : issued.sharedSecret ≠ "" := by
  intro hempty
  have hlength := issued.length
  rw [hempty] at hlength
  exact absurd hlength (by decide)

/-! ## Rows -/

/-- A row of `Devices`. -/
structure DeviceRow where
  deviceRecordId : Guid
  branchId : Guid
  device : Device

/-- A row of `ActivationKeys`. -/
structure KeyRow where
  deviceRecordId : Guid
  key : ActivationKey

/-- The primary key of `ActivationKeys`, as the database compares it. -/
def KeyRow.entry (p : Platform) (k : KeyRow) : String := p.collate k.key.activationKeyId

/-- The rows of `Branches`, by their ids, of `Devices` and of `ActivationKeys`. -/
structure Registry (p : Platform) where
  branches : KeyedTable (id : Guid → Guid)
  devices : KeyedTable DeviceRow.deviceRecordId
  keys : KeyedTable (KeyRow.entry p)

/-- An empty database. -/
def Registry.empty : Registry p := ⟨.empty, .empty, .empty⟩

/-- `Devices.SingleOrDefault(d => d.BranchId == branchId)`. -/
def Registry.deviceOf (r : Registry p) (branchId : Guid) : Option DeviceRow :=
  r.devices.rows.find? fun row => row.branchId = branchId

/-- The row with other values in the columns of the Device. -/
def DeviceRow.write (deviceRecordId : Guid) (device : Device) (row : DeviceRow) : DeviceRow :=
  if row.deviceRecordId = deviceRecordId then { row with device } else row

theorem DeviceRow.write_deviceRecordId (deviceRecordId : Guid) (device : Device) (row : DeviceRow) :
    (row.write deviceRecordId device).deviceRecordId = row.deviceRecordId := by
  unfold DeviceRow.write
  split <;> rfl

/-- `UPDATE Devices` on the row of one Device. -/
def Registry.writeDevice (r : Registry p) (deviceRecordId : Guid) (device : Device) : Registry p :=
  { r with
    devices := r.devices.update (DeviceRow.write deviceRecordId device)
      (DeviceRow.write_deviceRecordId deviceRecordId device) }

/-- The row with another status, if it is one of the given. -/
def KeyRow.setStatus (which : KeyRow → Bool) (status : ActivationKeyStatus) (k : KeyRow) : KeyRow :=
  if which k then { k with key := { k.key with status } } else k

theorem KeyRow.setStatus_entry (which : KeyRow → Bool) (status : ActivationKeyStatus) (k : KeyRow) :
    (k.setStatus which status).entry p = k.entry p := by
  unfold KeyRow.setStatus KeyRow.entry
  split <;> rfl

/-- `UPDATE ActivationKeys SET Status` on some rows. -/
def Registry.writeStatus (r : Registry p) (which : KeyRow → Bool) (status : ActivationKeyStatus) :
    Registry p :=
  { r with
    keys := r.keys.update (KeyRow.setStatus which status) (KeyRow.setStatus_entry which status) }

/-- `INSERT INTO ActivationKeys` of an unconsumed key, against the primary key and the filtered
unique index. -/
def Registry.insertKey (r : Registry p) (deviceRecordId : Guid) (generated : GeneratedKey p) :
    Option (Registry p) :=
  if ∃ k ∈ r.keys.rows, k.deviceRecordId = deviceRecordId ∧ k.key.status = .unconsumed then none
  else
    (r.keys.insert ⟨deviceRecordId, ⟨generated.keyId, generated.secretHash, .unconsumed⟩⟩).map
      fun keys => { r with keys }

/-! ## Operations -/

/-- `CreateBranchAsync` of a request that passes its checks: Branch, Device and Activation Key. -/
def createBranch (r : Registry p) (branchId deviceRecordId : NewGuid) (generated : GeneratedKey p) :
    Option (Registry p) := do
  let branches ← r.branches.insert branchId.1
  -- the unique index on `Devices.BranchId`
  if (r.deviceOf branchId.1).isSome then none
  else
    let devices ← r.devices.insert ⟨deviceRecordId.1, branchId.1, ⟨none, .unactivated, none⟩⟩
    Registry.insertKey { r with branches, devices } deviceRecordId.1 generated

/-- `DeleteBranchAsync`: the keys of the Device, the Device and the Branch. -/
def deleteBranch (r : Registry p) (branchId : Guid) : Option (Registry p) :=
  if branchId ∉ r.branches.rows then none
  else
    some
      { branches := ⟨r.branches.rows.filter (· ≠ branchId), r.branches.nodup.sublist
          ((List.filter_sublist).map _)⟩
        devices := ⟨r.devices.rows.filter (·.branchId ≠ branchId), r.devices.nodup.sublist
          ((List.filter_sublist).map _)⟩
        keys := ⟨r.keys.rows.filter fun k =>
            (r.deviceOf branchId).map DeviceRow.deviceRecordId ≠ some k.deviceRecordId,
          r.keys.nodup.sublist ((List.filter_sublist).map _)⟩ }

/-- `RegenerateActivationKeyAsync`. -/
def regenerate (r : Registry p) (branchId : Guid) (generated : GeneratedKey p) :
    Option (Registry p) := do
  if branchId = 0 then none
  else
    let row ← r.deviceOf branchId
    let reset ← resetDevice row.device
    let invalidated := r.writeStatus
      (fun k => k.deviceRecordId = row.deviceRecordId ∧ k.key.status = .unconsumed) .invalidated
    (invalidated.writeDevice row.deviceRecordId reset).insertKey row.deviceRecordId generated

/-- `TryParseActivationKey`. -/
def tryParseActivationKey (activationKey : Option String) : Option (String × String) :=
  match activationKey with
  | none => none
  | some text =>
    if DotNet.isNullOrWhiteSpace text then none
    else
      match (DotNet.trim text).toList.splitOn '.' with
      | [keyId, secret] =>
        if keyId.all DotNet.isWhiteSpace || secret.all DotNet.isWhiteSpace then none
        else some (String.ofList keyId, String.ofList secret)
      | _ => none

/-- `DeviceActivationSuccess`. -/
structure ActivationSuccess where
  deviceId : Guid
  sharedSecret : String
  branchId : Guid

/-- `ActivateAsync` on the parsed key. -/
def activate (r : Registry p) (keyId secret : String) (issued : IssuedSecret p) (newGuid : NewGuid) :
    Except (Option DeviceActivationFailureReason) (ActivationSuccess × Registry p) :=
  match r.keys.find? (p.collate keyId) with
  | none => .error (some .unknownKeyId)
  | some k =>
    if p.verifySecret secret k.key.secretHash = false then .error (some .incorrectSecret)
    else
      match k.key.status with
      | .consumed => .error (some .consumed)
      | .invalidated => .error (some .invalidated)
      | .unconsumed =>
        match r.devices.find? k.deviceRecordId with
        | none => .error none
        | some row =>
          match row.device.activate issued.protectedSharedSecret newGuid.1 with
          | none => .error none
          | some device =>
            -- the filtered unique index on `Devices.DeviceId`
            if ∃ other ∈ r.devices.rows, other.deviceRecordId ≠ row.deviceRecordId ∧
                other.device.deviceId = device.deviceId then .error none
            else
              .ok (⟨device.deviceId.getD newGuid.1, issued.sharedSecret, row.branchId⟩,
                (r.writeStatus (fun other => other.entry p = k.entry p) .consumed).writeDevice
                  row.deviceRecordId device)

/-- `DeviceCredentialValidationOutcome`, with what comes along when it is valid. -/
inductive ValidationOutcome where
  | valid (branchId deviceRecordId : Guid)
  | missingDeviceId
  | missingSecret
  | unknownDevice
  | reactivationRequired
  | deviceNotActivated
  | missingStoredSecret
  | credentialStorageUnavailable
  | secretMismatch
  deriving DecidableEq

/-- `ClassifyUnauthenticatableState`. -/
def classifyUnauthenticatableState (device : Device) : ValidationOutcome :=
  match device.activationStatus with
  | .reactivationRequired => .reactivationRequired
  | .unactivated => .deviceNotActivated
  | .activated => .missingStoredSecret

/-- `ValidateAsync`. -/
def validate (r : Registry p) (deviceId : Guid) (presentedSecret : Option String) : ValidationOutcome :=
  if deviceId = 0 then .missingDeviceId
  else
    match presentedSecret.filter (· ≠ "") with
    | none => .missingSecret
    | some presented =>
      match r.devices.rows.find? fun row => row.device.deviceId = some deviceId with
      | none => .unknownDevice
      | some row =>
        if row.device.canAuthenticate then
          match p.unprotect (row.device.protectedSharedSecret.getD "") with
          | none => .credentialStorageUnavailable
          | some stored =>
            if stored = presented then .valid row.branchId row.deviceRecordId else .secretMismatch
        else classifyUnauthenticatableState row.device

/-! ## Runs -/

/-- An event of the history: the slots are the Branches, and a key is what identifies it to the
database together with its secret. -/
abbrev Event := LedgerEvent Guid Guid (String × String) String

/-- The rows and the history that led to them, the last event first. -/
structure State (p : Platform) where
  registry : Registry p
  history : List Event

/-- One operation; `fails` is a persistence failure. -/
inductive Operation (p : Platform) where
  /-- `CreateBranchAsync` of a valid request. -/
  | createBranch (branchId deviceRecordId : NewGuid) (generated : GeneratedKey p) (fails : Bool)
  /-- `UpdateBranchAsync`, which writes rows of `Branches` and `Cameras` only. -/
  | updateBranch (branchId : Guid)
  | deleteBranch (branchId : Guid) (fails : Bool)
  | regenerate (branchId : Guid) (generated : GeneratedKey p) (fails : Bool)
  | activate (activationKey : Option String) (issued : IssuedSecret p) (newGuid : NewGuid) (fails : Bool)
  | validate (deviceId : Guid) (presentedSecret : Option String)

/-- The key as it goes into the history. -/
def GeneratedKey.text (generated : GeneratedKey p) : String × String :=
  (p.collate generated.keyId, generated.secret)

/-- A transaction commits and is recorded, or leaves everything as it was. -/
def State.commit (s : State p) (fails : Bool) (outcome : Option (Registry p × Event)) : State p :=
  match outcome with
  | some (registry, event) => if fails then s else ⟨registry, event :: s.history⟩
  | none => s

/-- What an activation that succeeds has done. -/
def activation (r : Registry p) (activationKey : Option String) (issued : IssuedSecret p)
    (newGuid : NewGuid) : Option (Registry p × Event) :=
  (tryParseActivationKey activationKey).bind fun (keyId, secret) =>
    match activate r keyId secret issued newGuid with
    | .error _ => none
    | .ok (success, registry) =>
      some (registry, .redeemed success.branchId success.deviceId (p.collate keyId, secret)
        success.sharedSecret)

/-- One operation after another. -/
def State.apply (s : State p) : Operation p → State p
  | .createBranch branchId deviceRecordId generated fails =>
    s.commit fails ((createBranch s.registry branchId deviceRecordId generated).map
      (·, .opened branchId.1 generated.text))
  | .updateBranch _ => s
  | .deleteBranch branchId fails =>
    s.commit fails ((deleteBranch s.registry branchId).map (·, .closed branchId))
  | .regenerate branchId generated fails =>
    s.commit fails ((regenerate s.registry branchId generated).map
      (·, .rekeyed branchId generated.text))
  | .activate activationKey issued newGuid fails =>
    s.commit fails (activation s.registry activationKey issued newGuid)
  | .validate _ _ => s

/-- A run from an empty database. -/
def run (operations : List (Operation p)) : State p := operations.foldl State.apply ⟨.empty, []⟩

end WeaponDetection.Backend.Credentials
