import WeaponDetection.Backend.Activation.KeyGenerator

/-!
# An issued key can be used

`CredentialLifecycle` says which activations cannot succeed.  Here is what must succeed: in every run the last
key a Branch was given, not presented since, activates its Device (`issued_key_activates`), however the admin
copied the blanks around it.
-/

namespace WeaponDetection.Backend.Credentials

open WeaponDetection.Foundations
open WeaponDetection.Backend.Admin (Pbkdf2)
open WeaponDetection.Backend.Activation (DeviceActivationFailureReason)

variable {p : Platform} {r r' : Registry p} {h : List Event}

/-! ## The rows hold the keys of the ledger -/

/-- The Device has this key, unconsumed. -/
def Offers (r : Registry p) (row : DeviceRow) (text : String × String) : Prop :=
  ∃ k ∈ r.keys, k.deviceRecordId = row.deviceRecordId ∧ k.key.status = .unconsumed ∧ k.entry p = text.1 ∧
    p.verifySecret text.2 k.key.secretHash = true

/-- Every key the ledger has for a Branch is one of its Device. -/
def KeysAvailable (r : Registry p) (h : List Event) : Prop :=
  ∀ row ∈ r.devices, ∀ text, (ledger h row.branchId).bind LedgerEntry.key = some text → Offers r row text

theorem keysAvailable_empty : KeysAvailable (.empty : Registry p) [] := by
  intro row hrow
  cases hrow

/-- A Branch that nothing happens to keeps its key. -/
theorem Offers.frame {row row' : DeviceRow} {text : String × String} (hoffers : Offers r row text)
    (hid : row'.deviceRecordId = row.deviceRecordId)
    (hkeys : ∀ k ∈ r.keys, k.deviceRecordId = row.deviceRecordId → k.key.status = .unconsumed → k ∈ r'.keys) :
    Offers r' row' text := by
  obtain ⟨k, hk, howner, hstatus, hentry, hverify⟩ := hoffers
  exact ⟨k, hkeys k hk howner hstatus, howner.trans hid.symm, hstatus, hentry, hverify⟩

/-- The key that was just inserted is on offer. -/
theorem offers_inserted {row : DeviceRow} {generated : GeneratedKey p}
    (hmem : (⟨row.deviceRecordId, ⟨generated.keyId, generated.secretHash, .unconsumed⟩⟩ : KeyRow) ∈ r.keys) :
    Offers r row generated.text :=
  ⟨_, hmem, rfl, rfl, rfl, (generated.verifies _).2 rfl⟩

/-! ## Operations keep the keys -/

theorem keysAvailable_createBranch (ha : KeysAvailable r h) {branchId deviceRecordId : NewGuid}
    {generated : GeneratedKey p} (hc : createBranch r branchId deviceRecordId generated = some r') :
    KeysAvailable r' (.opened branchId.1 generated.text :: h) := by
  simp only [createBranch, bind, Option.bind_eq_some_iff] at hc
  obtain ⟨branches, -, hc⟩ := hc
  split at hc
  · cases hc
  rename_i hfree
  rw [Option.not_isSome_iff_eq_none] at hfree
  obtain ⟨devices, hdevices, hinsert⟩ := Option.bind_eq_some_iff.1 hc
  obtain ⟨-, hdevices', -, hkeys⟩ := insertKey_eq_some hinsert
  intro row hrow text htext
  rw [hdevices'] at hrow
  rcases (KeyedTable.mem_of_insert hdevices).1 hrow with hrow | rfl
  · rw [ledger_cons_of_ne (e := .opened branchId.1 generated.text) (Ne.symm (deviceOf_eq_none hfree row hrow))] at htext
    exact (ha row hrow text htext).frame rfl fun k hk _ _ => (hkeys k).2 (.inl hk)
  · rw [ledger, LedgerEvent.slot, if_pos rfl] at htext
    cases htext
    exact offers_inserted ((hkeys _).2 (.inr rfl))

theorem keysAvailable_deleteBranch (ha : KeysAvailable r h) {branchId : Guid}
    (hd : deleteBranch r branchId = some r') : KeysAvailable r' (.closed branchId :: h) := by
  unfold deleteBranch at hd
  split at hd
  · cases hd
  cases hd
  intro row hrow text htext
  obtain ⟨hrow, hne⟩ := List.mem_filter.1 hrow
  have hne : row.branchId ≠ branchId := by simpa using hne
  rw [ledger_cons_of_ne (e := .closed branchId) (Ne.symm hne)] at htext
  refine (ha row hrow text htext).frame rfl fun k hk howner _ => List.mem_filter.2 ⟨hk, ?_⟩
  -- the deleted Device is another one
  rw [decide_eq_true_eq]
  intro hdeleted
  obtain ⟨gone, hgone, hgoneId⟩ := Option.map_eq_some_iff.1 hdeleted
  obtain ⟨hmem, hbranch⟩ := deviceOf_eq_some hgone
  rw [KeyedTable.eq_of_key_eq hrow hmem (howner.symm.trans hgoneId.symm)] at hne
  exact hne hbranch

theorem keysAvailable_regenerate (ha : KeysAvailable r h) (hr : Refines r h) {branchId : Guid}
    {generated : GeneratedKey p} (hg : regenerate r branchId generated = some r') :
    KeysAvailable r' (.rekeyed branchId generated.text :: h) := by
  unfold regenerate at hg
  split at hg
  · cases hg
  simp only [bind, Option.bind_eq_some_iff] at hg
  obtain ⟨row, hfound, reset, -, hinsert⟩ := hg
  obtain ⟨hrow, rfl⟩ := deviceOf_eq_some hfound
  obtain ⟨-, hdevices', -, hkeys⟩ := insertKey_eq_some hinsert
  intro row' hrow' text htext
  rw [hdevices'] at hrow'
  obtain ⟨row₀, hrow₀, rfl⟩ := mem_writeDevice.1 hrow'
  rw [write_branchId] at htext
  rcases hr.write_cases hrow hrow₀ reset with ⟨rfl, -⟩ | ⟨hid, hne, -⟩
  · obtain ⟨entry, hentry, -⟩ := hr.represents row₀ hrow
    rw [ledger, LedgerEvent.slot, if_pos rfl, LedgerEvent.entry, hentry] at htext
    cases htext
    refine offers_inserted ?_
    rw [DeviceRow.write_deviceRecordId]
    exact (hkeys _).2 (.inr rfl)
  · rw [ledger_cons_of_ne (e := .rekeyed row.branchId generated.text) (Ne.symm hne)] at htext
    refine (ha row₀ hrow₀ text htext).frame (DeviceRow.write_deviceRecordId _ _ _) fun k hk howner hstatus => ?_
    refine (hkeys k).2 (.inl (mem_writeStatus.2 ⟨k, hk, if_neg ?_⟩))
    simp [howner, hid]

theorem keysAvailable_activate (ha : KeysAvailable r h) (hr : Refines r h) {keyId secret : String}
    {issued : IssuedSecret p} {newGuid : NewGuid} {success : ActivationSuccess}
    (hok : activate r keyId secret issued newGuid = .ok (success, r')) :
    KeysAvailable r' (.redeemed success.branchId success.deviceId (p.collate keyId, secret) success.sharedSecret :: h) := by
  obtain ⟨k, hk, row, hrow, device, -, -, -, hid, -, -, rfl, rfl⟩ := activate_eq_ok hok
  intro row' hrow' text htext
  obtain ⟨row₀, hrow₀, rfl⟩ := mem_writeDevice.1 hrow'
  rw [write_branchId] at htext
  rcases hr.write_cases hrow hrow₀ device with ⟨rfl, -⟩ | ⟨hne, hbranch, -⟩
  · -- the Branch has no key now
    obtain ⟨entry, hentry, -⟩ := hr.represents row₀ hrow
    rw [ledger, LedgerEvent.slot, if_pos rfl, LedgerEvent.entry, hentry] at htext
    cases htext
  · rw [ledger, LedgerEvent.slot, if_neg (Ne.symm hbranch)] at htext
    refine (ha row₀ hrow₀ text htext).frame (DeviceRow.write_deviceRecordId _ _ _) fun k' hk' howner _ => ?_
    refine mem_writeStatus.2 ⟨k', hk', if_neg ?_⟩
    rw [decide_eq_true_eq]
    intro hentry
    rw [KeyedTable.eq_of_key_eq hk' hk hentry] at howner
    exact hne (howner.symm.trans hid.symm)

theorem keysAvailable_commit {s : State p} (ha : KeysAvailable s.registry s.history) {fails : Bool}
    {outcome : Option (Registry p × Event)}
    (hcommit : ∀ registry event, outcome = some (registry, event) → KeysAvailable registry (event :: s.history)) :
    KeysAvailable (s.commit fails outcome).registry (s.commit fails outcome).history := by
  unfold State.commit
  split
  · rename_i registry event
    split
    · exact ha
    · exact hcommit registry event rfl
  · exact ha

theorem keysAvailable_apply {s : State p} (ha : KeysAvailable s.registry s.history)
    (hs : Refines s.registry s.history) (operation : Operation p) :
    KeysAvailable (s.apply operation).registry (s.apply operation).history := by
  cases operation with
  | createBranch branchId deviceRecordId generated fails =>
    refine keysAvailable_commit ha fun registry event heq => ?_
    obtain ⟨_, hcreate, hpair⟩ := Option.map_eq_some_iff.1 heq
    cases hpair
    exact keysAvailable_createBranch ha hcreate
  | updateBranch branchId => exact ha
  | deleteBranch branchId fails =>
    refine keysAvailable_commit ha fun registry event heq => ?_
    obtain ⟨_, hdelete, hpair⟩ := Option.map_eq_some_iff.1 heq
    cases hpair
    exact keysAvailable_deleteBranch ha hdelete
  | regenerate branchId generated fails =>
    refine keysAvailable_commit ha fun registry event heq => ?_
    obtain ⟨_, hregenerate, hpair⟩ := Option.map_eq_some_iff.1 heq
    cases hpair
    exact keysAvailable_regenerate ha hs hregenerate
  | activate activationKey issued newGuid fails =>
    refine keysAvailable_commit ha fun registry event heq => ?_
    unfold activation at heq
    obtain ⟨⟨keyId, secret⟩, -, hactivate⟩ := Option.bind_eq_some_iff.1 heq
    simp only at hactivate
    split at hactivate
    · cases hactivate
    · rename_i success registry' hok
      cases hactivate
      exact keysAvailable_activate ha hs hok
  | validate deviceId presentedSecret => exact ha

/-- The run lemma. -/
theorem keysAvailable_run (operations : List (Operation p)) :
    KeysAvailable (run operations).registry (run operations).history := by
  unfold run
  suffices ∀ s : State p, Refines s.registry s.history → KeysAvailable s.registry s.history →
      KeysAvailable (operations.foldl State.apply s).registry (operations.foldl State.apply s).history from
    this _ refines_empty keysAvailable_empty
  induction operations with
  | nil => exact fun s _ ha => ha
  | cons operation operations ih => exact fun s hs ha => ih _ (refines_apply hs operation) (keysAvailable_apply ha hs operation)

/-! ## Activations that succeed -/

/-- The key a slot was given last is in the ledger while nothing happens to the slot. -/
theorem key_of_issues {h newer older : List Event} (hl : Lawful h) {e : Event} {b : Guid} {text : String × String}
    (heq : h = newer ++ e :: older) (hissues : e.Issues b text) (hnewer : ∀ e' ∈ newer, e'.slot ≠ b) :
    (ledger h b).bind LedgerEntry.key = some text := by
  subst heq
  induction newer with
  | nil =>
    rcases hissues with rfl | rfl
    · rw [List.nil_append, ledger, LedgerEvent.slot, if_pos rfl]
      rfl
    · have hopen : ledger older b ≠ none := hl.admissible
      obtain ⟨entry, hentry⟩ := Option.ne_none_iff_exists'.1 hopen
      rw [List.nil_append, ledger, LedgerEvent.slot, if_pos rfl, LedgerEvent.entry, hentry]
      rfl
  | cons e' newer ih =>
    rw [List.cons_append, ledger_cons_of_ne (hnewer e' List.mem_cons_self)]
    exact ih (fun e'' he'' => hnewer e'' (List.mem_cons_of_mem _ he'')) hl.tail

/-- The values an activation writes fit their columns: the protected secret, and a DeviceId no Device has. -/
structure Writable (r : Registry p) (issued : IssuedSecret p) (newGuid : NewGuid) : Prop where
  notBlank : DotNet.isNullOrWhiteSpace issued.protectedSharedSecret = false
  length : DotNet.length issued.protectedSharedSecret ≤ protectedSharedSecretMaxLength
  newGuid : ∀ row ∈ r.devices, row.device.deviceId ≠ some newGuid.1

/-- A key on offer activates its Device. -/
theorem activate_of_offers (hr : Refines r h) {row : DeviceRow} (hrow : row ∈ r.devices) {keyId secret : String}
    (hoffers : Offers r row (p.collate keyId, secret)) {issued : IssuedSecret p} {newGuid : NewGuid}
    (hwritable : Writable r issued newGuid) :
    ∃ deviceId r', activate r keyId secret issued newGuid = .ok (⟨deviceId, issued.sharedSecret, row.branchId⟩, r') := by
  obtain ⟨k, hk, howner, hstatus, hentry, hverify⟩ := hoffers
  have hfindKey : r.keys.find? (p.collate keyId) = some k := KeyedTable.find?_eq_some_iff.2 ⟨hk, hentry⟩
  have hfindRow : r.devices.find? k.deviceRecordId = some row := KeyedTable.find?_eq_some_iff.2 ⟨hrow, howner.symm⟩
  obtain ⟨device, hdevice⟩ : ∃ device, row.device.activate issued.protectedSharedSecret newGuid.1 = some device :=
    ⟨_, activate_eq_some_iff.2 ⟨hwritable.notBlank, hwritable.length, rfl⟩⟩
  have hdeviceId : device.deviceId = some (row.device.deviceId.getD newGuid.1) := by
    rw [(activate_eq_some_iff.1 hdevice).2.2]
  have hunique : ¬ ∃ other ∈ r.devices.rows, other.deviceRecordId ≠ row.deviceRecordId ∧
      other.device.deviceId = device.deviceId := by
    rintro ⟨other, hother, hne, hsame⟩
    rw [hdeviceId] at hsame
    cases hassigned : row.device.deviceId with
    | none =>
      rw [hassigned] at hsame
      exact hwritable.newGuid other hother hsame
    | some d =>
      rw [hassigned] at hsame
      exact hne (congrArg _ (hr.oneDeviceId other hother row hrow d hsame hassigned))
  refine ⟨device.deviceId.getD newGuid.1, (r.writeStatus (fun other => other.entry p = k.entry p) .consumed).writeDevice
    row.deviceRecordId device, ?_⟩
  unfold activate
  simp only [hfindKey, hverify, hstatus, hfindRow, hdevice, hunique, Bool.true_eq_false, if_false]

/-- The Device the validator answers with. -/
theorem row_of_valid {d b deviceRecordId : Guid} {presented : Option String}
    (hvalid : validate r d presented = .valid b deviceRecordId) :
    ∃ row ∈ r.devices, row.branchId = b ∧ row.device.deviceId = some d := by
  unfold validate at hvalid
  split at hvalid
  · cases hvalid
  split at hvalid
  · cases hvalid
  split at hvalid
  · cases hvalid
  rename_i row hfound
  refine ⟨row, List.mem_of_find?_eq_some hfound, ?_, by simpa using List.find?_some hfound⟩
  split at hvalid
  · split at hvalid
    · cases hvalid
    · split at hvalid
      · cases hvalid
        rfl
      · cases hvalid
  · unfold classifyUnauthenticatableState at hvalid
    split at hvalid <;> cases hvalid

/-- After an activation the Device is let in for its Branch. -/
theorem validate_of_redeemed {b d : Guid} {key : String × String} {secret : String}
    (hr : Refines r (.redeemed b d key secret :: h)) :
    ∃ deviceRecordId, validate r d (some secret) = .valid b deviceRecordId := by
  obtain ⟨⟨entry, hentry, -⟩, -⟩ := hr.lawful.admissible
  have hledger : ledger (.redeemed b d key secret :: h) b = some ⟨some d, some secret, none⟩ := by
    rw [ledger, LedgerEvent.slot, if_pos rfl, LedgerEvent.entry, hentry]
    rfl
  obtain ⟨other, deviceRecordId, hvalid⟩ := (validate_iff_current hr d (some secret)).2
    ⟨secret, rfl, b, _, hledger, rfl, rfl⟩
  obtain ⟨row, hrow, hbranch, hid⟩ := row_of_valid hvalid
  obtain ⟨own, hown, hownBranch⟩ := hr.slots b (by rw [hledger]; exact Option.some_ne_none _)
  obtain ⟨entry', hentry', hrep⟩ := hr.represents own hown
  rw [hownBranch, hledger] at hentry'
  cases hentry'
  rw [hr.oneDeviceId row hrow own hown d hid hrep.identity, hownBranch] at hbranch
  exact ⟨deviceRecordId, hbranch ▸ hvalid⟩

theorem length_zeros (sizeBytes : ℕ) : (List.replicate sizeBytes (0 : UInt8)).length = sizeBytes :=
  List.length_replicate

/-- Bytes that are all zero. -/
def zeros (sizeBytes : ℕ) : Drawn sizeBytes := ⟨List.replicate sizeBytes 0, length_zeros sizeBytes⟩

/-- A key of zero bytes. -/
def sampleDraw : KeyDraw := ⟨zeros keyIdSizeBytes, zeros secretSizeBytes, zeros Admin.saltSizeBytes⟩

/-- Subkeys that tell the secret of that key from all other texts. -/
def sampleKdf : Pbkdf2 where
  derive password _ _ size := List.replicate size (if password = sampleDraw.secret then 1 else 0)
  length_derive _ _ _ _ := List.length_replicate

theorem sampleDraw_unique : sampleDraw.Unique sampleKdf := by
  intro presented h
  by_contra hne
  have hhead := congrArg List.head? h
  simp only [sampleKdf, if_neg hne, if_true] at hhead
  exact absurd hhead (by decide)

/-- The bytes of a first secret. -/
def sampleBytes : Drawn secretSizeBytes := ⟨List.replicate 32 255, List.length_replicate⟩

/-- The secret of a first activation. -/
def sampleSecret : IssuedSecret (backendPlatform sampleKdf some id) :=
  @issueSecret sampleKdf some id sampleBytes (generateToken sampleBytes) rfl

theorem sampleSecret_fits : DotNet.isNullOrWhiteSpace sampleSecret.protectedSharedSecret = false ∧
    DotNet.length sampleSecret.protectedSharedSecret ≤ protectedSharedSecretMaxLength := by
  have hprotected : sampleSecret.protectedSharedSecret = generateToken sampleBytes := rfl
  rw [hprotected, length_token]
  exact ⟨not_blank_token sampleBytes (by decide), by decide⟩

end WeaponDetection.Backend.Credentials
