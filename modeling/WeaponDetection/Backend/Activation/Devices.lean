import WeaponDetection.Backend.Contracts
import WeaponDetection.Foundations.DotNet
import WeaponDetection.Foundations.KeyedTable

/-!
# Devices and their activation keys

Models `Device.cs` and `ActivationKey.cs` as far as activation goes, the rows of one Device, and the
two transactions of `DeviceService` on them.  What a transaction decides from the rows it has read
and what it writes to the rows that are there then are separate functions: the writes go to the
columns that differ from what was read, so they can land on a row that has changed since.
-/

namespace WeaponDetection.Backend

open WeaponDetection.Foundations

/-! ## Entities -/

/-- `ActivationKeyStatus`. -/
inductive ActivationKeyStatus where
  | unconsumed
  | consumed
  | invalidated
  deriving DecidableEq

/-- `ActivationKey`, of the one Device considered. -/
structure ActivationKey where
  activationKeyId : String
  secretHash : String
  status : ActivationKeyStatus
  deriving DecidableEq

/-- `Consume`: throws on a spent key. -/
def ActivationKey.consume (k : ActivationKey) : Option ActivationKey :=
  if k.status = .unconsumed then some { k with status := .consumed } else none

/-- `Invalidate`. -/
def ActivationKey.invalidate (k : ActivationKey) : ActivationKey := { k with status := .invalidated }

/-- `DeviceActivationStatus`. -/
inductive DeviceActivationStatus where
  | unactivated
  | activated
  | reactivationRequired
  deriving DecidableEq

/-- `Device`, the columns activation reads and writes. -/
structure Device where
  deviceId : Option Guid
  activationStatus : DeviceActivationStatus
  protectedSharedSecret : Option String
  deriving DecidableEq

/-- `ProtectedSharedSecretMaxLength`. -/
def protectedSharedSecretMaxLength : ℕ := 1024

/-- `Activate`: the DeviceId is assigned once, the secret every time. -/
def Device.activate (d : Device) (protectedSharedSecret : String) (newGuid : Guid) : Option Device :=
  if DotNet.isNullOrWhiteSpace protectedSharedSecret then none
  else if protectedSharedSecretMaxLength < DotNet.length protectedSharedSecret then none
  else
    some { deviceId := some (d.deviceId.getD newGuid), activationStatus := .activated
           protectedSharedSecret := some protectedSharedSecret }

/-- `RequireReactivation`: throws on a device that has never activated. -/
def Device.requireReactivation (d : Device) : Option Device :=
  if d.deviceId = none then none
  else some { d with activationStatus := .reactivationRequired, protectedSharedSecret := none }

/-- `CanAuthenticate`. -/
def Device.canAuthenticate (d : Device) : Bool :=
  d.activationStatus = .activated && d.protectedSharedSecret.getD "" ≠ ""

/-- The credential validator accepts the secret that was protected to this value. -/
def Device.Authenticates (d : Device) (protectedSharedSecret : String) : Prop :=
  d.canAuthenticate = true ∧ d.protectedSharedSecret = some protectedSharedSecret

/-! ## Change tracking -/

/-- The columns an `UPDATE` sets. -/
structure DeviceUpdate where
  deviceId : Option (Option Guid)
  activationStatus : Option DeviceActivationStatus
  protectedSharedSecret : Option (Option String)

/-- The columns the change tracker finds modified. -/
def Device.changes (before after : Device) : DeviceUpdate :=
  { deviceId := if after.deviceId = before.deviceId then none else some after.deviceId
    activationStatus :=
      if after.activationStatus = before.activationStatus then none else some after.activationStatus
    protectedSharedSecret :=
      if after.protectedSharedSecret = before.protectedSharedSecret then none
      else some after.protectedSharedSecret }

/-- The `UPDATE` on the row as it is now. -/
def DeviceUpdate.apply (u : DeviceUpdate) (d : Device) : Device :=
  { deviceId := u.deviceId.getD d.deviceId
    activationStatus := u.activationStatus.getD d.activationStatus
    protectedSharedSecret := u.protectedSharedSecret.getD d.protectedSharedSecret }

/-- On an unchanged row the update writes what was decided. -/
@[simp] theorem apply_changes_self (before after : Device) :
    (before.changes after).apply before = after := by
  unfold Device.changes DeviceUpdate.apply
  obtain ⟨deviceId, status, secret⟩ := after
  congr 1
  · show (ite _ _ _ : Option (Option Guid)).getD _ = _
    split
    · rename_i h
      exact h.symm
    · rfl
  · show (ite _ _ _ : Option DeviceActivationStatus).getD _ = _
    split
    · rename_i h
      exact h.symm
    · rfl
  · show (ite _ _ _ : Option (Option String)).getD _ = _
    split
    · rename_i h
      exact h.symm
    · rfl

/-! ## The rows of one Device -/

/-- The Device row and its activation keys. -/
structure DeviceDb where
  device : Device
  keys : KeyedTable ActivationKey.activationKeyId

/-- The rows the `Status == Unconsumed` query returns, by their identifiers. -/
def DeviceDb.unconsumedKeys (db : DeviceDb) : List String :=
  (db.keys.rows.filter fun k => k.status = .unconsumed).map ActivationKey.activationKeyId

theorem DeviceDb.mem_unconsumedKeys {db : DeviceDb} {keyId : String} :
    keyId ∈ db.unconsumedKeys ↔
      ∃ k ∈ db.keys, k.status = .unconsumed ∧ k.activationKeyId = keyId := by
  unfold DeviceDb.unconsumedKeys
  rw [List.mem_map]
  apply exists_congr
  intro k
  rw [List.mem_filter, decide_eq_true_eq, and_assoc]
  rfl

/-! ## Well-formed rows -/

/-- What `Activate` and `RequireReactivation` keep of a Device. -/
structure Device.WellFormed (d : Device) : Prop where
  deviceId : d.activationStatus ≠ .unactivated → d.deviceId ≠ none
  activated : d.activationStatus = .activated → d.protectedSharedSecret ≠ none
  revoked : d.activationStatus = .reactivationRequired → d.protectedSharedSecret = none

/-- What the entity and the filtered unique index keep of a Device's rows. -/
structure DeviceDb.WellFormed (db : DeviceDb) : Prop where
  device : db.device.WellFormed
  oneUnconsumed : ∀ k ∈ db.keys, ∀ k' ∈ db.keys,
    k.status = .unconsumed → k'.status = .unconsumed → k = k'

theorem DeviceDb.WellFormed.unconsumed_unique {db : DeviceDb} (h : db.WellFormed)
    {keyId keyId' : String} (hk : keyId ∈ db.unconsumedKeys) (hk' : keyId' ∈ db.unconsumedKeys) :
    keyId = keyId' := by
  obtain ⟨k, hmem, hstatus, rfl⟩ := DeviceDb.mem_unconsumedKeys.mp hk
  obtain ⟨k', hmem', hstatus', rfl⟩ := DeviceDb.mem_unconsumedKeys.mp hk'
  rw [h.oneUnconsumed k hmem k' hmem' hstatus hstatus']

theorem activate_eq_some_iff {d d' : Device} {protectedSharedSecret : String} {newGuid : Guid} :
    d.activate protectedSharedSecret newGuid = some d' ↔
      DotNet.isNullOrWhiteSpace protectedSharedSecret = false ∧
        DotNet.length protectedSharedSecret ≤ protectedSharedSecretMaxLength ∧
        d' = { deviceId := some (d.deviceId.getD newGuid), activationStatus := .activated
               protectedSharedSecret := some protectedSharedSecret } := by
  unfold Device.activate
  split
  · rename_i hblank
    simp [hblank]
  · split
    · rename_i hlong
      simp [not_le.mpr hlong]
    · rename_i hblank hlong
      rw [Bool.not_eq_true] at hblank
      rw [Option.some.injEq, eq_comm]
      simp [hblank, not_lt.mp hlong]

end WeaponDetection.Backend
