import WeaponDetection.Backend.Activation.Registry

/-!
# The life of a Device credential

The rows of the Devices and of the Activation Keys represent what the ledger of the history holds
(`Refines`), operation by operation.  From there the claims about credentials are claims about
ledgers: the validator accepts exactly the secret of the last activation that was not revoked, a key
buys at most one activation and only as the latest of its Device (`credential_lifecycle`).
-/

namespace WeaponDetection.Backend.Credentials

open WeaponDetection.Foundations
open WeaponDetection.Backend.Activation (DeviceActivationFailureReason resetDevice)

variable {p : Platform} {r r' : Registry p} {h : List Event}

/-! ## Refinement -/

/-- The row of a Device and its keys hold what the ledger says of its Branch. -/
structure Represents (r : Registry p) (row : DeviceRow)
    (entry : LedgerEntry Guid (String × String) String) : Prop where
  identity : row.device.deviceId = entry.identity
  unactivated : row.device.activationStatus = .unactivated ↔ entry.identity = none
  secret : ∀ secret, entry.secret = some secret → secret ≠ "" ∧ row.device.canAuthenticate = true ∧
    p.unprotect (row.device.protectedSharedSecret.getD "") = some secret
  revoked : entry.secret = none → row.device.canAuthenticate = false
  key : ∀ k ∈ r.keys, k.deviceRecordId = row.deviceRecordId → k.key.status = .unconsumed →
    ∃ secret, entry.key = some (k.entry p, secret) ∧
      ∀ presented, p.verifySecret presented k.key.secretHash = true ↔ presented = secret

/-- The rows represent the ledger of the history. -/
structure Refines (r : Registry p) (h : List Event) : Prop where
  lawful : Lawful h
  branches : ∀ b, b ∈ r.branches ↔ ∃ row ∈ r.devices, row.branchId = b
  slots : ∀ b, ledger h b ≠ none → ∃ row ∈ r.devices, row.branchId = b
  represents : ∀ row ∈ r.devices, ∃ entry, ledger h row.branchId = some entry ∧ Represents r row entry
  oneDevice : ∀ row ∈ r.devices, ∀ row' ∈ r.devices, row.branchId = row'.branchId → row = row'
  oneDeviceId : ∀ row ∈ r.devices, ∀ row' ∈ r.devices, ∀ d, row.device.deviceId = some d →
    row'.device.deviceId = some d → row = row'
  deviceId : ∀ row ∈ r.devices, row.device.deviceId ≠ some 0
  oneUnconsumed : ∀ k ∈ r.keys, ∀ k' ∈ r.keys, k.deviceRecordId = k'.deviceRecordId →
    k.key.status = .unconsumed → k'.key.status = .unconsumed → k = k'
  owned : ∀ k ∈ r.keys, ∃ row ∈ r.devices, row.deviceRecordId = k.deviceRecordId

theorem refines_empty : Refines (.empty : Registry p) [] where
  lawful := .nil
  branches := by simp [Registry.empty]
  slots := by simp [ledger]
  represents := by simp [Registry.empty]
  oneDevice := by simp [Registry.empty]
  oneDeviceId := by simp [Registry.empty]
  deviceId := by simp [Registry.empty]
  oneUnconsumed := by simp [Registry.empty]
  owned := by simp [Registry.empty]

/-! ## Rows after a write -/

theorem deviceOf_eq_some {b : Guid} {row : DeviceRow} (hrow : r.deviceOf b = some row) :
    row ∈ r.devices ∧ row.branchId = b :=
  ⟨List.mem_of_find?_eq_some hrow, by simpa using List.find?_some hrow⟩

theorem deviceOf_eq_none {b : Guid} (hrow : r.deviceOf b = none) :
    ∀ row ∈ r.devices, row.branchId ≠ b := by
  intro row hmem
  simpa using List.find?_eq_none.1 hrow row hmem

theorem Refines.deviceOf (hr : Refines r h) {row : DeviceRow} (hrow : row ∈ r.devices) :
    r.deviceOf row.branchId = some row := by
  cases hfound : r.deviceOf row.branchId with
  | none => exact absurd rfl (deviceOf_eq_none hfound row hrow)
  | some other =>
    obtain ⟨hmem, hbranch⟩ := deviceOf_eq_some hfound
    rw [hr.oneDevice other hmem row hrow hbranch]

theorem mem_writeDevice {id : Guid} {device : Device} {row : DeviceRow} :
    row ∈ (r.writeDevice id device).devices ↔ ∃ row₀ ∈ r.devices, row₀.write id device = row := by
  show row ∈ r.devices.update _ (DeviceRow.write_deviceRecordId id device) ↔ _
  rw [KeyedTable.mem_update]

theorem mem_writeStatus {which : KeyRow → Bool} {status : ActivationKeyStatus} {k : KeyRow} :
    k ∈ (r.writeStatus which status).keys ↔ ∃ k₀ ∈ r.keys, k₀.setStatus which status = k := by
  show k ∈ r.keys.update _ (KeyRow.setStatus_entry which status) ↔ _
  rw [KeyedTable.mem_update]

@[simp] theorem write_branchId (id : Guid) (device : Device) (row : DeviceRow) :
    (row.write id device).branchId = row.branchId := by
  unfold DeviceRow.write
  split <;> rfl

theorem write_self {row : DeviceRow} (device : Device) :
    (row.write row.deviceRecordId device).device = device := by
  simp [DeviceRow.write]

theorem write_of_ne {id : Guid} {row : DeviceRow} (device : Device) (hne : row.deviceRecordId ≠ id) :
    row.write id device = row := if_neg hne

/-- A write to one Device changes its row and leaves those of all other Branches. -/
theorem Refines.write_cases (hr : Refines r h) {row row₀ : DeviceRow} (hrow : row ∈ r.devices)
    (hrow₀ : row₀ ∈ r.devices) (device : Device) :
    row₀ = row ∧ (row₀.write row.deviceRecordId device).device = device ∨
      row₀.deviceRecordId ≠ row.deviceRecordId ∧ row₀.branchId ≠ row.branchId ∧
        row₀.write row.deviceRecordId device = row₀ := by
  by_cases hid : row₀.deviceRecordId = row.deviceRecordId
  · cases KeyedTable.eq_of_key_eq hrow₀ hrow hid
    exact .inl ⟨rfl, write_self device⟩
  · refine .inr ⟨hid, fun hb => hid ?_, write_of_ne device hid⟩
    rw [hr.oneDevice row₀ hrow₀ row hrow hb]

@[simp] theorem setStatus_deviceRecordId (which : KeyRow → Bool) (status : ActivationKeyStatus)
    (k : KeyRow) : (k.setStatus which status).deviceRecordId = k.deviceRecordId := by
  unfold KeyRow.setStatus
  split <;> rfl

@[simp] theorem setStatus_secretHash (which : KeyRow → Bool) (status : ActivationKeyStatus)
    (k : KeyRow) : (k.setStatus which status).key.secretHash = k.key.secretHash := by
  unfold KeyRow.setStatus
  split <;> rfl

/-- A key that is unconsumed after its status was set to another was left alone. -/
theorem setStatus_unconsumed {which : KeyRow → Bool} {status : ActivationKeyStatus} {k : KeyRow}
    (hstatus : status ≠ .unconsumed) (hk : (k.setStatus which status).key.status = .unconsumed) :
    which k = false ∧ k.setStatus which status = k := by
  unfold KeyRow.setStatus at hk ⊢
  split
  · rename_i hwhich
    rw [if_pos hwhich] at hk
    exact absurd hk hstatus
  · rename_i hwhich
    exact ⟨Bool.not_eq_true _ ▸ hwhich, rfl⟩

theorem insertKey_eq_some {id : Guid} {generated : GeneratedKey p}
    (hi : r.insertKey id generated = some r') :
    r'.branches = r.branches ∧ r'.devices = r.devices ∧
    (∀ k ∈ r.keys, k.deviceRecordId = id → k.key.status ≠ .unconsumed) ∧
    ∀ k, k ∈ r'.keys ↔ k ∈ r.keys ∨
      k = ⟨id, ⟨generated.keyId, generated.secretHash, .unconsumed⟩⟩ := by
  unfold Registry.insertKey at hi
  split at hi
  · cases hi
  · rename_i hnone
    obtain ⟨keys, hkeys, rfl⟩ := Option.map_eq_some_iff.1 hi
    refine ⟨rfl, rfl, ?_, fun k => KeyedTable.mem_of_insert hkeys⟩
    intro k hk hid hstatus
    exact hnone ⟨k, hk, hid, hstatus⟩

/-- A Branch that nothing happens to is represented as before. -/
theorem Represents.frame {row : DeviceRow} {entry : LedgerEntry Guid (String × String) String}
    (hrep : Represents r row entry)
    (hkeys : ∀ k ∈ r'.keys, k.deviceRecordId = row.deviceRecordId → k.key.status = .unconsumed →
      k ∈ r.keys) : Represents r' row entry :=
  { hrep with key := fun k hk hid hstatus => hrep.key k (hkeys k hk hid hstatus) hid hstatus }

/-! ## Operations keep the refinement -/

theorem refines_createBranch (hr : Refines r h) {branchId deviceRecordId : NewGuid}
    {generated : GeneratedKey p} (hc : createBranch r branchId deviceRecordId generated = some r') :
    Refines r' (.opened branchId.1 generated.text :: h) := by
  simp only [createBranch, bind, Option.bind_eq_some_iff] at hc
  obtain ⟨branches, hbranches, hc⟩ := hc
  split at hc
  · cases hc
  rename_i hfree
  rw [Option.not_isSome_iff_eq_none] at hfree
  obtain ⟨devices, hdevices, hinsert⟩ := Option.bind_eq_some_iff.1 hc
  obtain ⟨hbranches', hdevices', -, hkeys⟩ := insertKey_eq_some hinsert
  have hmem : ∀ row, row ∈ r'.devices ↔ row ∈ r.devices ∨
      row = ⟨deviceRecordId.1, branchId.1, ⟨none, .unactivated, none⟩⟩ := by
    intro row
    rw [hdevices']
    exact KeyedTable.mem_of_insert hdevices
  have hfreshId : ∀ row ∈ r.devices, row.deviceRecordId ≠ deviceRecordId.1 :=
    (KeyedTable.insert_eq_some_iff.1 hdevices).1
  have hother : ∀ row ∈ r.devices, row.branchId ≠ branchId.1 := deviceOf_eq_none hfree
  have hclosed : ledger h branchId.1 = none := by
    by_contra hopen
    obtain ⟨row, hrow, hbranch⟩ := hr.slots _ hopen
    exact hother row hrow hbranch
  have hold : ∀ row ∈ r.devices, ledger (.opened branchId.1 generated.text :: h) row.branchId =
      ledger h row.branchId := fun row hrow => ledger_cons_of_ne (Ne.symm (hother row hrow))
  constructor
  case lawful => exact .cons hr.lawful hclosed
  case branches =>
    intro b
    rw [hbranches']
    show b ∈ branches ↔ _
    rw [KeyedTable.mem_of_insert hbranches, hr.branches]
    simp only [hmem]
    constructor
    · rintro (⟨row, hrow, rfl⟩ | rfl)
      · exact ⟨row, .inl hrow, rfl⟩
      · exact ⟨_, .inr rfl, rfl⟩
    · rintro ⟨row, hrow | rfl, rfl⟩
      · exact .inl ⟨row, hrow, rfl⟩
      · exact .inr rfl
  case slots =>
    intro b hb
    by_cases heq : branchId.1 = b
    · exact ⟨_, (hmem _).2 (.inr rfl), heq⟩
    · rw [ledger_cons_of_ne (e := .opened branchId.1 generated.text) heq] at hb
      obtain ⟨row, hrow, hbranch⟩ := hr.slots b hb
      exact ⟨row, (hmem row).2 (.inl hrow), hbranch⟩
  case represents =>
    intro row hrow
    rcases (hmem row).1 hrow with hrow | rfl
    · obtain ⟨entry, hentry, hrep⟩ := hr.represents row hrow
      refine ⟨entry, (hold row hrow).trans hentry, hrep.frame ?_⟩
      intro k hk hid _
      refine ((hkeys k).1 hk).resolve_right ?_
      rintro rfl
      exact hfreshId row hrow hid.symm
    · refine ⟨⟨none, none, some generated.text⟩, ledger_cons_self _ _, rfl, ?_, nofun, fun _ => rfl, ?_⟩
      · exact iff_of_true rfl rfl
      · intro k hk hid _
        rcases (hkeys k).1 hk with hk | rfl
        · -- no key can belong to a record that did not exist
          obtain ⟨owner, howner, hownerId⟩ := hr.owned k hk
          exact absurd (hownerId.trans hid) (hfreshId owner howner)
        · exact ⟨generated.secret, rfl, generated.verifies⟩
  case oneDevice =>
    intro row hrow row' hrow' hbranch
    rcases (hmem row).1 hrow with hrow | rfl <;> rcases (hmem row').1 hrow' with hrow' | rfl
    · exact hr.oneDevice row hrow row' hrow' hbranch
    · exact absurd hbranch (hother row hrow)
    · exact absurd hbranch.symm (hother row' hrow')
    · rfl
  case oneDeviceId =>
    intro row hrow row' hrow' d hd hd'
    rcases (hmem row).1 hrow with hrow | rfl
    · rcases (hmem row').1 hrow' with hrow' | rfl
      · exact hr.oneDeviceId row hrow row' hrow' d hd hd'
      · cases hd'
    · cases hd
  case deviceId =>
    intro row hrow
    rcases (hmem row).1 hrow with hrow | rfl
    · exact hr.deviceId row hrow
    · exact nofun
  case oneUnconsumed =>
    intro k hk k' hk' hid hstatus hstatus'
    have hown : ∀ k ∈ r.keys, k.deviceRecordId ≠ deviceRecordId.1 := by
      intro k hk hid
      obtain ⟨owner, howner, hownerId⟩ := hr.owned k hk
      exact hfreshId owner howner (hownerId.trans hid)
    rcases (hkeys k).1 hk with hk | rfl <;> rcases (hkeys k').1 hk' with hk' | rfl
    · exact hr.oneUnconsumed k hk k' hk' hid hstatus hstatus'
    · exact absurd hid (hown k hk)
    · exact absurd hid.symm (hown k' hk')
    · rfl
  case owned =>
    intro k hk
    rcases (hkeys k).1 hk with hk | rfl
    · obtain ⟨row, hrow, hid⟩ := hr.owned k hk
      exact ⟨row, (hmem row).2 (.inl hrow), hid⟩
    · exact ⟨_, (hmem _).2 (.inr rfl), rfl⟩

theorem refines_deleteBranch (hr : Refines r h) {branchId : Guid}
    (hd : deleteBranch r branchId = some r') : Refines r' (.closed branchId :: h) := by
  unfold deleteBranch at hd
  split at hd
  · cases hd
  rename_i hexists
  rw [not_not] at hexists
  cases hd
  obtain ⟨gone, hgone, hgoneBranch⟩ := (hr.branches branchId).1 hexists
  have hopen : ledger h branchId ≠ none := by
    obtain ⟨entry, hentry, -⟩ := hr.represents gone hgone
    rw [← hgoneBranch, hentry]
    exact Option.some_ne_none _
  constructor
  case lawful => exact .cons hr.lawful hopen
  case branches =>
    intro b
    show b ∈ r.branches.rows.filter (· ≠ branchId) ↔
      ∃ row ∈ r.devices.rows.filter (·.branchId ≠ branchId), row.branchId = b
    simp only [List.mem_filter, decide_eq_true_eq, and_assoc]
    constructor
    · rintro ⟨hb, hne⟩
      obtain ⟨row, hrow, rfl⟩ := (hr.branches b).1 hb
      exact ⟨row, hrow, hne, rfl⟩
    · rintro ⟨row, hrow, hne, rfl⟩
      exact ⟨(hr.branches _).2 ⟨row, hrow, rfl⟩, hne⟩
  case slots =>
    intro b hb
    by_cases heq : branchId = b
    · subst heq
      exact absurd (ledger_cons_self _ _) hb
    · rw [ledger_cons_of_ne (e := .closed branchId) heq] at hb
      obtain ⟨row, hrow, rfl⟩ := hr.slots b hb
      exact ⟨row, List.mem_filter.2 ⟨hrow, by simpa using Ne.symm heq⟩, rfl⟩
  case represents =>
    intro row hrow
    obtain ⟨hrow, hne⟩ := List.mem_filter.1 hrow
    have hne : row.branchId ≠ branchId := by simpa using hne
    obtain ⟨entry, hentry, hrep⟩ := hr.represents row hrow
    refine ⟨entry, (ledger_cons_of_ne (Ne.symm hne)).trans hentry, hrep.frame ?_⟩
    exact fun k hk _ _ => (List.mem_filter.1 hk).1
  case oneDevice =>
    exact fun row hrow row' hrow' => hr.oneDevice row (List.mem_filter.1 hrow).1 row' (List.mem_filter.1 hrow').1
  case oneDeviceId =>
    exact fun row hrow row' hrow' => hr.oneDeviceId row (List.mem_filter.1 hrow).1 row' (List.mem_filter.1 hrow').1
  case deviceId => exact fun row hrow => hr.deviceId row (List.mem_filter.1 hrow).1
  case oneUnconsumed =>
    exact fun k hk k' hk' => hr.oneUnconsumed k (List.mem_filter.1 hk).1 k' (List.mem_filter.1 hk').1
  case owned =>
    intro k hk
    obtain ⟨hk, hnot⟩ := List.mem_filter.1 hk
    obtain ⟨row, hrow, hid⟩ := hr.owned k hk
    refine ⟨row, List.mem_filter.2 ⟨hrow, ?_⟩, hid⟩
    -- the keys of the deleted Device went with it
    rw [decide_eq_true_eq]
    intro hbranch
    rw [← hbranch, hr.deviceOf hrow, Option.map_some, hid] at hnot
    simp at hnot

/-- The reset keeps the DeviceId and revokes the secret. -/
theorem resetDevice_spec {device reset : Device} (hd : resetDevice device = some reset) :
    reset.deviceId = device.deviceId ∧ reset.canAuthenticate = false ∧
      (reset.activationStatus = .unactivated ↔ device.activationStatus = .unactivated) := by
  unfold resetDevice at hd
  split at hd
  · rename_i hstatus
    unfold Device.requireReactivation at hd
    split at hd
    · cases hd
    · cases hd
      exact ⟨rfl, rfl, iff_of_false nofun hstatus⟩
  · rename_i hstatus
    cases hd
    rw [not_not] at hstatus
    exact ⟨rfl, by simp [Device.canAuthenticate, hstatus], Iff.rfl⟩

theorem refines_regenerate (hr : Refines r h) {branchId : Guid} {generated : GeneratedKey p}
    (hg : regenerate r branchId generated = some r') :
    Refines r' (.rekeyed branchId generated.text :: h) := by
  unfold regenerate at hg
  split at hg
  · cases hg
  simp only [bind, Option.bind_eq_some_iff] at hg
  obtain ⟨row, hrow, reset, hreset, hinsert⟩ := hg
  obtain ⟨hrow, hbranch⟩ := deviceOf_eq_some hrow
  obtain ⟨hresetId, hresetAuth, hresetStatus⟩ := resetDevice_spec hreset
  obtain ⟨hbranches', hdevices', -, hkeys'⟩ := insertKey_eq_some hinsert
  obtain ⟨entry, hentry, hrep⟩ := hr.represents row hrow
  -- an unconsumed key is the new one, or was one of another Device
  have hkey : ∀ k ∈ r'.keys, k.key.status = .unconsumed →
      k = ⟨row.deviceRecordId, ⟨generated.keyId, generated.secretHash, .unconsumed⟩⟩ ∨
        k ∈ r.keys ∧ k.deviceRecordId ≠ row.deviceRecordId := by
    intro k hk hstatus
    rcases (hkeys' k).1 hk with hk | rfl
    · obtain ⟨k₀, hk₀, rfl⟩ := mem_writeStatus.1 hk
      obtain ⟨hwhich, hsame⟩ := setStatus_unconsumed (by decide) hstatus
      rw [hsame] at hstatus ⊢
      refine .inr ⟨hk₀, fun hid => ?_⟩
      simp [hid, hstatus] at hwhich
    · exact .inl rfl
  have hdevice : ∀ row', row' ∈ r'.devices ↔ ∃ row₀ ∈ r.devices,
      row₀.write row.deviceRecordId reset = row' := by
    intro row'
    rw [hdevices']
    exact mem_writeDevice
  have hwritten : ∀ row₀ ∈ r.devices, _ := fun row₀ hrow₀ => hr.write_cases hrow hrow₀ reset
  have hsameId : ∀ row₀ ∈ r.devices, (row₀.write row.deviceRecordId reset).device.deviceId =
      row₀.device.deviceId := by
    intro row₀ hrow₀
    rcases hwritten row₀ hrow₀ with ⟨rfl, hdev⟩ | ⟨-, -, hsame⟩
    · rw [hdev, hresetId]
    · rw [hsame]
  constructor
  case lawful =>
    refine .cons hr.lawful ?_
    show ledger h branchId ≠ none
    rw [← hbranch, hentry]
    exact Option.some_ne_none _
  case branches =>
    intro b
    rw [hbranches']
    refine (hr.branches b).trans ?_
    simp only [hdevice]
    constructor
    · rintro ⟨row₀, hrow₀, rfl⟩
      exact ⟨_, ⟨row₀, hrow₀, rfl⟩, write_branchId _ _ _⟩
    · rintro ⟨_, ⟨row₀, hrow₀, rfl⟩, rfl⟩
      exact ⟨row₀, hrow₀, (write_branchId _ _ _).symm⟩
  case slots =>
    intro b hb
    have hbefore : ledger h b ≠ none := by
      by_cases heq : branchId = b
      · rw [← heq, ← hbranch, hentry]
        exact Option.some_ne_none _
      · rwa [ledger_cons_of_ne (e := .rekeyed branchId generated.text) heq] at hb
    obtain ⟨row₀, hrow₀, rfl⟩ := hr.slots b hbefore
    exact ⟨_, (hdevice _).2 ⟨row₀, hrow₀, rfl⟩, write_branchId _ _ _⟩
  case represents =>
    intro row' hrow'
    obtain ⟨row₀, hrow₀, rfl⟩ := (hdevice row').1 hrow'
    rw [write_branchId]
    rcases hwritten row₀ hrow₀ with ⟨rfl, hdev⟩ | ⟨hid, hne, hsame⟩
    · refine ⟨{ entry with secret := none, key := some generated.text }, ?_, ?_⟩
      · rw [hbranch]
        refine (ledger_cons_self (.rekeyed branchId generated.text) h).trans ?_
        show Option.map _ (ledger h branchId) = _
        rw [← hbranch, hentry]
        rfl
      · constructor
        case identity => rw [hdev, hresetId, hrep.identity]
        case unactivated => rw [hdev, hresetStatus, hrep.unactivated]
        case secret => exact nofun
        case revoked =>
          intro _
          rw [hdev, hresetAuth]
        case key =>
          intro k hk hid hstatus
          rw [DeviceRow.write_deviceRecordId] at hid
          rcases hkey k hk hstatus with rfl | ⟨-, hne⟩
          · exact ⟨generated.secret, rfl, generated.verifies⟩
          · exact absurd hid hne
    · obtain ⟨entry₀, hentry₀, hrep₀⟩ := hr.represents row₀ hrow₀
      rw [hsame]
      rw [hbranch] at hne
      refine ⟨entry₀, (ledger_cons_of_ne (Ne.symm hne)).trans hentry₀, hrep₀.frame ?_⟩
      intro k hk hkid hstatus
      rcases hkey k hk hstatus with rfl | ⟨hk, -⟩
      · exact absurd hkid.symm hid
      · exact hk
  case oneDevice =>
    intro row₁ hrow₁ row₂ hrow₂ hb
    obtain ⟨row₁, h₁, rfl⟩ := (hdevice _).1 hrow₁
    obtain ⟨row₂, h₂, rfl⟩ := (hdevice _).1 hrow₂
    rw [write_branchId, write_branchId] at hb
    rw [hr.oneDevice row₁ h₁ row₂ h₂ hb]
  case oneDeviceId =>
    intro row₁ hrow₁ row₂ hrow₂ d hd₁ hd₂
    obtain ⟨row₁, h₁, rfl⟩ := (hdevice _).1 hrow₁
    obtain ⟨row₂, h₂, rfl⟩ := (hdevice _).1 hrow₂
    rw [hsameId row₁ h₁] at hd₁
    rw [hsameId row₂ h₂] at hd₂
    rw [hr.oneDeviceId row₁ h₁ row₂ h₂ d hd₁ hd₂]
  case deviceId =>
    intro row₁ hrow₁
    obtain ⟨row₁, h₁, rfl⟩ := (hdevice _).1 hrow₁
    rw [hsameId row₁ h₁]
    exact hr.deviceId row₁ h₁
  case oneUnconsumed =>
    intro k hk k' hk' hid hstatus hstatus'
    rcases hkey k hk hstatus with rfl | ⟨hk, hne⟩ <;> rcases hkey k' hk' hstatus' with rfl | ⟨hk', hne'⟩
    · rfl
    · exact absurd hid.symm hne'
    · exact absurd hid hne
    · exact hr.oneUnconsumed k hk k' hk' hid hstatus hstatus'
  case owned =>
    intro k hk
    rcases (hkeys' k).1 hk with hk | rfl
    · obtain ⟨k₀, hk₀, rfl⟩ := mem_writeStatus.1 hk
      obtain ⟨owner, howner, hid⟩ := hr.owned k₀ hk₀
      refine ⟨_, (hdevice _).2 ⟨owner, howner, rfl⟩, ?_⟩
      rw [DeviceRow.write_deviceRecordId, hid, setStatus_deviceRecordId]
    · exact ⟨_, (hdevice _).2 ⟨row, hrow, rfl⟩, DeviceRow.write_deviceRecordId _ _ _⟩

/-- What a successful activation has found and written. -/
theorem activate_eq_ok {keyId secret : String} {issued : IssuedSecret p} {newGuid : NewGuid}
    {success : ActivationSuccess} (ha : activate r keyId secret issued newGuid = .ok (success, r')) :
    ∃ k ∈ r.keys, ∃ row ∈ r.devices, ∃ device,
      k.entry p = p.collate keyId ∧ p.verifySecret secret k.key.secretHash = true ∧
      k.key.status = .unconsumed ∧ row.deviceRecordId = k.deviceRecordId ∧
      row.device.activate issued.protectedSharedSecret newGuid.1 = some device ∧
      (∀ other ∈ r.devices, other.deviceRecordId ≠ row.deviceRecordId →
        other.device.deviceId ≠ device.deviceId) ∧
      success = ⟨device.deviceId.getD newGuid.1, issued.sharedSecret, row.branchId⟩ ∧
      r' = (r.writeStatus (fun other => other.entry p = k.entry p) .consumed).writeDevice
        row.deviceRecordId device := by
  unfold activate at ha
  split at ha
  · cases ha
  rename_i k hfind
  obtain ⟨hk, hentry⟩ := KeyedTable.find?_eq_some_iff.1 hfind
  split at ha
  · cases ha
  rename_i hverify
  rw [Bool.not_eq_false] at hverify
  split at ha
  · cases ha
  · cases ha
  rename_i hstatus
  split at ha
  · cases ha
  rename_i row hrowFind
  obtain ⟨hrow, hid⟩ := KeyedTable.find?_eq_some_iff.1 hrowFind
  split at ha
  · cases ha
  rename_i device hdevice
  split at ha
  · cases ha
  rename_i hunique
  cases ha
  refine ⟨k, hk, row, hrow, device, hentry, hverify, hstatus, hid, hdevice, ?_, rfl, rfl⟩
  exact fun other hother hne heq => hunique ⟨other, hother, hne, heq⟩

theorem refines_activate (hr : Refines r h) {keyId secret : String} {issued : IssuedSecret p}
    {newGuid : NewGuid} {success : ActivationSuccess}
    (ha : activate r keyId secret issued newGuid = .ok (success, r')) :
    Refines r' (.redeemed success.branchId success.deviceId (p.collate keyId, secret)
      success.sharedSecret :: h) := by
  obtain ⟨k, hk, row, hrow, device, hcollate, hverify, hstatus, hid, hactivate, hunique, rfl, rfl⟩ :=
    activate_eq_ok ha
  obtain ⟨hblank, -, hdeviceEq⟩ := activate_eq_some_iff.1 hactivate
  obtain ⟨entry, hentry, hrep⟩ := hr.represents row hrow
  obtain ⟨d, hd⟩ : ∃ d, row.device.deviceId.getD newGuid.1 = d := ⟨_, rfl⟩
  have hdeviceId : device.deviceId = some d := by rw [hdeviceEq, hd]
  simp only [hdeviceId, Option.getD_some]
  -- the key and its status afterwards
  have hkey : ∀ k' ∈ (r.writeStatus (fun other => other.entry p = k.entry p) .consumed).keys,
      k'.key.status = .unconsumed → k' ∈ r.keys ∧ k'.deviceRecordId ≠ row.deviceRecordId := by
    intro k' hk' hstatus'
    obtain ⟨k₀, hk₀, rfl⟩ := mem_writeStatus.1 hk'
    obtain ⟨hwhich, hsame⟩ := setStatus_unconsumed (by decide) hstatus'
    rw [hsame] at hstatus' ⊢
    refine ⟨hk₀, fun hid' => ?_⟩
    cases hr.oneUnconsumed k₀ hk₀ k hk (hid'.trans hid) hstatus' hstatus
    simp at hwhich
  have hwritten : ∀ row₀ ∈ r.devices, _ := fun row₀ hrow₀ => hr.write_cases hrow hrow₀ device
  have hidentity : entry.identity = none ∨ entry.identity = some d := by
    rw [← hrep.identity, ← hd]
    cases row.device.deviceId with
    | none => exact .inl rfl
    | some d' => exact .inr rfl
  have hothers : ∀ row₀ ∈ r.devices, row₀.branchId ≠ row.branchId → row₀.device.deviceId ≠ some d := by
    intro row₀ hrow₀ hne
    rw [← hdeviceId]
    refine hunique row₀ hrow₀ fun hsame => hne ?_
    rw [KeyedTable.eq_of_key_eq hrow₀ hrow hsame]
  constructor
  case lawful =>
    refine .cons hr.lawful ⟨⟨entry, hentry, ?_, hidentity⟩, ?_⟩
    · obtain ⟨keySecret, hkeyEntry, hverifies⟩ := hrep.key k hk hid.symm hstatus
      rw [hkeyEntry, hcollate, (hverifies secret).1 hverify]
    · intro b entry' hb hentry'
      obtain ⟨row', hrow', rfl⟩ := hr.slots b (by rw [hentry']; exact Option.some_ne_none _)
      obtain ⟨entry₀, hentry₀, hrep₀⟩ := hr.represents row' hrow'
      cases hentry₀.symm.trans hentry'
      rw [← hrep₀.identity]
      exact hothers row' hrow' hb
  case branches =>
    intro b
    refine (hr.branches b).trans ?_
    simp only [mem_writeDevice]
    constructor
    · rintro ⟨row₀, hrow₀, rfl⟩
      exact ⟨_, ⟨row₀, hrow₀, rfl⟩, write_branchId _ _ _⟩
    · rintro ⟨_, ⟨row₀, hrow₀, rfl⟩, rfl⟩
      exact ⟨row₀, hrow₀, (write_branchId _ _ _).symm⟩
  case slots =>
    intro b hb
    have hbefore : ledger h b ≠ none := by
      by_cases heq : row.branchId = b
      · rw [← heq, hentry]
        exact Option.some_ne_none _
      · rwa [ledger, LedgerEvent.slot, if_neg heq] at hb
    obtain ⟨row₀, hrow₀, rfl⟩ := hr.slots b hbefore
    exact ⟨_, mem_writeDevice.2 ⟨row₀, hrow₀, rfl⟩, write_branchId _ _ _⟩
  case represents =>
    intro row' hrow'
    obtain ⟨row₀, hrow₀, rfl⟩ := mem_writeDevice.1 hrow'
    rw [write_branchId]
    rcases hwritten row₀ hrow₀ with ⟨rfl, hdev⟩ | ⟨hne, hbne, hsame⟩
    · refine ⟨⟨some d, some issued.sharedSecret, none⟩, ?_, ?_⟩
      · rw [ledger, LedgerEvent.slot, if_pos rfl, LedgerEvent.entry, hentry]
        rfl
      · have hprotected : device.protectedSharedSecret = some issued.protectedSharedSecret := by
          rw [hdeviceEq]
        have hactivated : device.activationStatus = .activated := by rw [hdeviceEq]
        constructor
        case identity => rw [hdev, hdeviceId]
        case unactivated =>
          rw [hdev, hactivated]
          simp
        case secret =>
          intro shared hshared
          cases hshared
          rw [hdev, hprotected]
          refine ⟨issued.ne_empty, ?_, issued.unprotects⟩
          simp only [Device.canAuthenticate, hactivated, hprotected, Option.getD_some, decide_true,
            Bool.true_and, decide_eq_true_eq]
          rintro hempty
          rw [hempty] at hblank
          exact absurd hblank (by decide)
        case revoked => simp
        case key =>
          intro k' hk' hid' hstatus'
          rw [DeviceRow.write_deviceRecordId] at hid'
          exact absurd hid' (hkey k' hk' hstatus').2
    · obtain ⟨entry₀, hentry₀, hrep₀⟩ := hr.represents row₀ hrow₀
      rw [hsame]
      refine ⟨entry₀, (ledger_cons_of_ne (Ne.symm hbne)).trans hentry₀, hrep₀.frame ?_⟩
      exact fun k' hk' _ hstatus' => (hkey k' hk' hstatus').1
  case oneDevice =>
    intro row₁ hrow₁ row₂ hrow₂ hb
    obtain ⟨row₁, h₁, rfl⟩ := mem_writeDevice.1 hrow₁
    obtain ⟨row₂, h₂, rfl⟩ := mem_writeDevice.1 hrow₂
    rw [write_branchId, write_branchId] at hb
    rw [hr.oneDevice row₁ h₁ row₂ h₂ hb]
  case oneDeviceId =>
    intro row₁ hrow₁ row₂ hrow₂ d' hd₁ hd₂
    obtain ⟨row₁, h₁, rfl⟩ := mem_writeDevice.1 hrow₁
    obtain ⟨row₂, h₂, rfl⟩ := mem_writeDevice.1 hrow₂
    rcases hwritten row₁ h₁ with ⟨rfl, hdev₁⟩ | ⟨-, hb₁, hsame₁⟩
    · rcases hwritten row₂ h₂ with ⟨rfl, -⟩ | ⟨-, hb₂, hsame₂⟩
      · rfl
      · rw [hdev₁, hdeviceId] at hd₁
        rw [hsame₂, ← hd₁] at hd₂
        exact absurd hd₂ (hothers row₂ h₂ hb₂)
    · rw [hsame₁] at hd₁
      rcases hwritten row₂ h₂ with ⟨rfl, hdev₂⟩ | ⟨-, hb₂, hsame₂⟩
      · rw [hdev₂, hdeviceId] at hd₂
        rw [← hd₂] at hd₁
        exact absurd hd₁ (hothers row₁ h₁ hb₁)
      · rw [hsame₂] at hd₂
        rw [hr.oneDeviceId row₁ h₁ row₂ h₂ d' hd₁ hd₂]
  case deviceId =>
    intro row₁ hrow₁
    obtain ⟨row₁, h₁, rfl⟩ := mem_writeDevice.1 hrow₁
    rcases hwritten row₁ h₁ with ⟨rfl, hdev⟩ | ⟨-, -, hsame⟩
    · rw [hdev, hdeviceId, ← hd]
      cases hbefore : row₁.device.deviceId with
      | none => exact fun hzero => newGuid.2 (Option.some.inj hzero)
      | some d' =>
        rw [Option.getD_some, ← hbefore]
        exact hr.deviceId row₁ h₁
    · rw [hsame]
      exact hr.deviceId row₁ h₁
  case oneUnconsumed =>
    intro k₁ hk₁ k₂ hk₂ hid' hstatus₁ hstatus₂
    exact hr.oneUnconsumed k₁ (hkey k₁ hk₁ hstatus₁).1 k₂ (hkey k₂ hk₂ hstatus₂).1 hid' hstatus₁ hstatus₂
  case owned =>
    intro k' hk'
    obtain ⟨k₀, hk₀, rfl⟩ := mem_writeStatus.1 hk'
    obtain ⟨owner, howner, hownerId⟩ := hr.owned k₀ hk₀
    refine ⟨_, mem_writeDevice.2 ⟨owner, howner, rfl⟩, ?_⟩
    rw [DeviceRow.write_deviceRecordId, hownerId, setStatus_deviceRecordId]

/-! ## Runs -/

theorem refines_activation (hr : Refines r h) {activationKey : Option String} {issued : IssuedSecret p}
    {newGuid : NewGuid} {event : Event}
    (ha : activation r activationKey issued newGuid = some (r', event)) : Refines r' (event :: h) := by
  unfold activation at ha
  obtain ⟨⟨keyId, secret⟩, -, hactivate⟩ := Option.bind_eq_some_iff.1 ha
  simp only at hactivate
  split at hactivate
  · cases hactivate
  · rename_i success registry hok
    cases hactivate
    exact refines_activate hr hok

/-- A transaction that commits leaves rows that represent the history with its event. -/
theorem refines_commit {s : State p} (hs : Refines s.registry s.history) {fails : Bool}
    {outcome : Option (Registry p × Event)}
    (hcommit : ∀ registry event, outcome = some (registry, event) → Refines registry (event :: s.history)) :
    Refines (s.commit fails outcome).registry (s.commit fails outcome).history := by
  unfold State.commit
  split
  · rename_i registry event
    split
    · exact hs
    · exact hcommit registry event rfl
  · exact hs

theorem refines_apply {s : State p} (hs : Refines s.registry s.history) (operation : Operation p) :
    Refines (s.apply operation).registry (s.apply operation).history := by
  cases operation with
  | createBranch branchId deviceRecordId generated fails =>
    refine refines_commit hs fun registry event heq => ?_
    obtain ⟨_, hcreate, hpair⟩ := Option.map_eq_some_iff.1 heq
    cases hpair
    exact refines_createBranch hs hcreate
  | updateBranch branchId => exact hs
  | deleteBranch branchId fails =>
    refine refines_commit hs fun registry event heq => ?_
    obtain ⟨_, hdelete, hpair⟩ := Option.map_eq_some_iff.1 heq
    cases hpair
    exact refines_deleteBranch hs hdelete
  | regenerate branchId generated fails =>
    refine refines_commit hs fun registry event heq => ?_
    obtain ⟨_, hregenerate, hpair⟩ := Option.map_eq_some_iff.1 heq
    cases hpair
    exact refines_regenerate hs hregenerate
  | activate activationKey issued newGuid fails =>
    exact refines_commit hs fun registry event heq => refines_activation hs heq
  | validate deviceId presentedSecret => exact hs

theorem refines_run (operations : List (Operation p)) :
    Refines (run operations).registry (run operations).history := by
  unfold run
  suffices ∀ s : State p, Refines s.registry s.history →
      Refines (operations.foldl State.apply s).registry (operations.foldl State.apply s).history from
    this _ refines_empty
  induction operations with
  | nil => exact fun s hs => hs
  | cons operation operations ih => exact fun s hs => ih _ (refines_apply hs operation)

/-! ## The validator -/

/-- The validator accepts what the ledger holds. -/
theorem validate_iff_current (hr : Refines r h) (d : Guid) (presented : Option String) :
    (∃ branchId deviceRecordId, validate r d presented = .valid branchId deviceRecordId) ↔
      ∃ secret, presented = some secret ∧ Current h d secret := by
  constructor
  · rintro ⟨branchId, deviceRecordId, hvalid⟩
    unfold validate at hvalid
    split at hvalid
    · cases hvalid
    split at hvalid
    · cases hvalid
    rename_i secret hpresented
    split at hvalid
    · cases hvalid
    rename_i row hfind
    have hrow : row ∈ r.devices := List.mem_of_find?_eq_some hfind
    have hd : row.device.deviceId = some d := by simpa using List.find?_some hfind
    obtain ⟨entry, hentry, hrep⟩ := hr.represents row hrow
    split at hvalid
    · rename_i hauth
      split at hvalid
      · cases hvalid
      rename_i stored hstored
      split at hvalid
      · rename_i hmatch
        refine ⟨secret, (Option.filter_eq_some_iff.1 hpresented).1, row.branchId, entry, hentry, ?_, ?_⟩
        · rw [← hrep.identity, hd]
        · cases hsecret : entry.secret with
          | none => exact absurd ((hrep.revoked hsecret).symm.trans hauth) Bool.false_ne_true
          | some current =>
            have hcurrent := (hrep.secret current hsecret).2.2
            rw [hstored, Option.some.injEq] at hcurrent
            rw [← hcurrent, hmatch]
      · cases hvalid
    · unfold classifyUnauthenticatableState at hvalid
      split at hvalid <;> cases hvalid
  · rintro ⟨secret, rfl, branchId, entry, hentry, hidentity, hsecret⟩
    obtain ⟨row, hrow, rfl⟩ := hr.slots branchId (by rw [hentry]; exact Option.some_ne_none _)
    obtain ⟨entry', hentry', hrep⟩ := hr.represents row hrow
    cases hentry'.symm.trans hentry
    obtain ⟨hne, hauth, hunprotect⟩ := hrep.secret secret hsecret
    have hd : row.device.deviceId = some d := hrep.identity.trans hidentity
    have hzero : d ≠ 0 := fun hz => hr.deviceId row hrow (hd.trans (congrArg some hz))
    refine ⟨row.branchId, row.deviceRecordId, ?_⟩
    -- the row found under the DeviceId is this one
    have hfind : r.devices.rows.find? (fun row => row.device.deviceId = some d) = some row := by
      cases hfound : r.devices.rows.find? fun row => row.device.deviceId = some d with
      | none => exact absurd hd (by simpa using List.find?_eq_none.1 hfound row hrow)
      | some other =>
        have hother : other.device.deviceId = some d := by simpa using List.find?_some hfound
        rw [hr.oneDeviceId other (List.mem_of_find?_eq_some hfound) row hrow d hother hd]
    have hpresented : (some secret).filter (fun text => decide (text ≠ "")) = some secret :=
      Option.filter_eq_some_iff.2 ⟨rfl, decide_eq_true hne⟩
    unfold validate
    rw [if_neg hzero]
    simp only [hpresented, hfind, hauth, hunprotect, if_true]

/-! ## The DeviceId -/

/-- An operation that keeps a Device keeps it at its Branch. -/
theorem branch_kept {s : State p} (operation : Operation p) {row row' : DeviceRow}
    (hrow : row ∈ s.registry.devices) (hrow' : row' ∈ (s.apply operation).registry.devices)
    (hid : row.deviceRecordId = row'.deviceRecordId) : row.branchId = row'.branchId := by
  have hkeep : ∀ {devices : KeyedTable DeviceRow.deviceRecordId},
      (∀ x ∈ devices, x.deviceRecordId = row.deviceRecordId → ∃ x₀ ∈ s.registry.devices,
        x₀.deviceRecordId = x.deviceRecordId ∧ x₀.branchId = x.branchId) →
      row' ∈ devices → row.branchId = row'.branchId := by
    intro devices hold hmem
    obtain ⟨x₀, hx₀, hx₀Id, hbranch⟩ := hold row' hmem hid.symm
    rw [← hbranch, KeyedTable.eq_of_key_eq hrow hx₀ (hid.trans hx₀Id.symm)]
  have hsame : row' ∈ s.registry.devices → row.branchId = row'.branchId :=
    hkeep fun x hx _ => ⟨x, hx, rfl, rfl⟩
  have hcommit : ∀ {fails : Bool} {outcome : Option (Registry p × Event)},
      (∀ registry event, outcome = some (registry, event) → row' ∈ registry.devices →
        row.branchId = row'.branchId) →
      row' ∈ (s.commit fails outcome).registry.devices → row.branchId = row'.branchId := by
    intro fails outcome hout hmem
    unfold State.commit at hmem
    split at hmem
    · split at hmem
      · exact hsame hmem
      · exact hout _ _ rfl hmem
    · exact hsame hmem
  cases operation with
  | createBranch branchId deviceRecordId generated fails =>
    refine hcommit ?_ hrow'
    intro registry event heq hmem
    obtain ⟨_, hcreate, hpair⟩ := Option.map_eq_some_iff.1 heq
    cases hpair
    simp only [createBranch, bind, Option.bind_eq_some_iff] at hcreate
    obtain ⟨branches, -, hcreate⟩ := hcreate
    split at hcreate
    · cases hcreate
    obtain ⟨devices, hdevices, hinsert⟩ := Option.bind_eq_some_iff.1 hcreate
    rw [(insertKey_eq_some hinsert).2.1] at hmem
    refine hkeep (fun x hx hxid => ?_) hmem
    rcases (KeyedTable.mem_of_insert hdevices).1 hx with hx | rfl
    · exact ⟨x, hx, rfl, rfl⟩
    · exact absurd hxid.symm ((KeyedTable.insert_eq_some_iff.1 hdevices).1 row hrow)
  | updateBranch branchId => exact hsame hrow'
  | deleteBranch branchId fails =>
    refine hcommit ?_ hrow'
    intro registry event heq hmem
    obtain ⟨_, hdelete, hpair⟩ := Option.map_eq_some_iff.1 heq
    cases hpair
    unfold deleteBranch at hdelete
    split at hdelete
    · cases hdelete
    · cases hdelete
      exact hsame (List.mem_filter.1 hmem).1
  | regenerate branchId generated fails =>
    refine hcommit ?_ hrow'
    intro registry event heq hmem
    obtain ⟨_, hregenerate, hpair⟩ := Option.map_eq_some_iff.1 heq
    cases hpair
    unfold regenerate at hregenerate
    split at hregenerate
    · cases hregenerate
    simp only [bind, Option.bind_eq_some_iff] at hregenerate
    obtain ⟨device, -, reset, -, hinsert⟩ := hregenerate
    rw [(insertKey_eq_some hinsert).2.1] at hmem
    refine hkeep (fun x hx _ => ?_) hmem
    obtain ⟨x₀, hx₀, rfl⟩ := mem_writeDevice.1 hx
    exact ⟨x₀, hx₀, (DeviceRow.write_deviceRecordId _ _ _).symm, (write_branchId _ _ _).symm⟩
  | activate activationKey issued newGuid fails =>
    refine hcommit ?_ hrow'
    intro registry event heq hmem
    unfold activation at heq
    obtain ⟨⟨keyId, secret⟩, -, hactivate⟩ := Option.bind_eq_some_iff.1 heq
    simp only at hactivate
    split at hactivate
    · cases hactivate
    rename_i success registry' hok
    cases hactivate
    obtain ⟨_, -, _, -, _, -, -, -, -, -, -, -, rfl⟩ := activate_eq_ok hok
    refine hkeep (fun x hx _ => ?_) hmem
    obtain ⟨x₀, hx₀, rfl⟩ := mem_writeDevice.1 hx
    exact ⟨x₀, hx₀, (DeviceRow.write_deviceRecordId _ _ _).symm, (write_branchId _ _ _).symm⟩
  | validate deviceId presentedSecret => exact hsame hrow'

/-- An operation changes nothing, or adds one event. -/
theorem apply_history (s : State p) (operation : Operation p) :
    s.apply operation = s ∨ ∃ event, (s.apply operation).history = event :: s.history := by
  have hcommit : ∀ (fails : Bool) (outcome : Option (Registry p × Event)),
      s.commit fails outcome = s ∨ ∃ event, (s.commit fails outcome).history = event :: s.history := by
    intro fails outcome
    unfold State.commit
    split
    · split
      · exact .inl rfl
      · exact .inr ⟨_, rfl⟩
    · exact .inl rfl
  cases operation with
  | createBranch branchId deviceRecordId generated fails => exact hcommit _ _
  | updateBranch branchId => exact .inl rfl
  | deleteBranch branchId fails => exact hcommit _ _
  | regenerate branchId generated fails => exact hcommit _ _
  | activate activationKey issued newGuid fails => exact hcommit _ _
  | validate deviceId presentedSecret => exact .inl rfl

/-- A DeviceId, once assigned, stays with its Device. -/
theorem deviceId_kept {s : State p} (hs : Refines s.registry s.history) (operation : Operation p)
    {row row' : DeviceRow} (hrow : row ∈ s.registry.devices)
    (hrow' : row' ∈ (s.apply operation).registry.devices)
    (hid : row.deviceRecordId = row'.deviceRecordId) {d : Guid} (hd : row.device.deviceId = some d) :
    row'.device.deviceId = some d := by
  have hbranch := branch_kept operation hrow hrow' hid
  have hs' := refines_apply hs operation
  rcases apply_history s operation with hsame | ⟨event, hevent⟩
  · rw [hsame] at hrow'
    rwa [← KeyedTable.eq_of_key_eq hrow hrow' hid]
  · obtain ⟨entry, hentry, hrep⟩ := hs.represents row hrow
    obtain ⟨entry', hentry', hrep'⟩ := hs'.represents row' hrow'
    have hlawful := hs'.lawful
    rw [hevent] at hlawful hentry'
    rw [← hbranch] at hentry'
    rw [hrep'.identity]
    exact identity_kept hlawful.admissible hentry (hrep.identity.symm.trans hd) hentry'

/-! ## The claim -/

/-- What holds of the rows and their history after every run. -/
structure CredentialLifecycle (s : State p) : Prop where
  /-- The validator accepts a secret for a DeviceId exactly if it was issued by the last activation of
  that DeviceId, and the Branch has neither been deleted nor had its key regenerated since. -/
  valid : ∀ d presented,
    (∃ branchId deviceRecordId, validate s.registry d presented = .valid branchId deviceRecordId) ↔
      ∃ secret, presented = some secret ∧ Credited s.history d secret
  /-- A key activates only as the last one generated for its Device, with nothing in between. -/
  latest : ∀ newer branchId d key secret older,
    s.history = newer ++ .redeemed branchId d key secret :: older →
      ∃ between e rest, older = between ++ e :: rest ∧ e.Issues branchId key ∧
        ∀ e' ∈ between, e'.slot ≠ branchId
  /-- A key activates at most as often as it was generated. -/
  once : ∀ branchId key,
    s.history.countP (redeemed · branchId key) ≤ s.history.countP (issued · branchId key)
  /-- No operation changes an assigned DeviceId. -/
  deviceId : ∀ operation, ∀ row ∈ s.registry.devices, ∀ row' ∈ (s.apply operation).registry.devices,
    row.deviceRecordId = row'.deviceRecordId → ∀ d, row.device.deviceId = some d →
      row'.device.deviceId = some d
  /-- A Device has at most one unconsumed key. -/
  unconsumed : ∀ k ∈ s.registry.keys, ∀ k' ∈ s.registry.keys, k.deviceRecordId = k'.deviceRecordId →
    k.key.status = .unconsumed → k'.key.status = .unconsumed → k = k'

/-- **The life of the credentials in every run of operations from an empty database.** -/
theorem credential_lifecycle (p : Platform) (operations : List (Operation p)) :
    CredentialLifecycle (run operations) := by
  have hr := refines_run operations
  constructor
  case valid =>
    intro d presented
    rw [validate_iff_current hr]
    simp only [credited_iff_current hr.lawful]
  case latest =>
    intro newer branchId d key secret older hhistory
    have hlawful := hr.lawful
    rw [hhistory] at hlawful
    exact redeemed_latest hlawful
  case once => exact fun branchId key => redeemed_le_issued hr.lawful branchId key
  case deviceId =>
    exact fun operation row hrow row' hrow' hid d hd => deviceId_kept hr operation hrow hrow' hid hd
  case unconsumed => exact hr.oneUnconsumed

/-- A platform that neither hashes nor encrypts. -/
def plainPlatform : Platform := ⟨fun presented hash => presented = hash, some, id⟩

/-- A secret of 43 characters. -/
def plainSecret : IssuedSecret plainPlatform :=
  ⟨"0123456789012345678901234567890123456789012", "0123456789012345678901234567890123456789012",
    by decide, rfl⟩

/-- A key of that platform. -/
def plainKey : GeneratedKey plainPlatform :=
  ⟨"id", "secret", "secret", fun _ => decide_eq_true_iff⟩

-- The key is presented with blanks around it, and once more after it was consumed.
example :
    validate (run (p := plainPlatform)
      [.createBranch ⟨1, by decide⟩ ⟨2, by decide⟩ plainKey false,
        .activate (some " id.secret ") plainSecret ⟨3, by decide⟩ false,
        .activate (some "id.secret") plainSecret ⟨4, by decide⟩ false]).registry
      3 (some plainSecret.sharedSecret) = .valid 1 2 := by
  decide +kernel

end WeaponDetection.Backend.Credentials
