import WeaponDetection.Backend.Activation.Transactions
import Mathlib.Data.List.Induction

/-!
# Regeneration and activation serialize

An activation is safe by itself: from its locked read on the key stays unconsumed, and as long as it
does no other transaction can commit, since a regeneration would have to lock the key and a second
activation would need a second unconsumed key.  A regeneration is not: what it decides from the Device
and the keys it has read is out of date once an activation has committed in between.  The guard
`CommitsCleanly` excludes just the commits that make it so, and under it the commit order is a serial
order.
-/

namespace WeaponDetection.Backend.Activation

open WeaponDetection.Foundations

variable {verifySecret : String → String → Bool}

/-! ## Transactions alone -/

/-- A regeneration alone resets the Device, invalidates what was unconsumed and adds its key. -/
theorem runAlone_regenerate {r : Regeneration} {db db' : DeviceDb}
    (h : (Transaction.regenerate r).runAlone verifySecret db = some db') :
    resetDevice db.device = some db'.device ∧
      (∀ k ∈ db.keys, k.activationKeyId ≠ r.keyId) ∧
      ∀ k', k' ∈ db'.keys ↔
        (∃ k ∈ db.keys, k' = if k.status = .unconsumed then k.invalidate else k) ∨
          k' = r.replacement := by
  simp only [Transaction.runAlone, writeRegeneration, Option.bind_eq_some_iff,
    Option.map_eq_some_iff] at h
  obtain ⟨reset, hreset, keys, hkeys, rfl⟩ := h
  refine ⟨by simpa using hreset, ?_, ?_⟩
  · intro k hk hid
    apply (KeyedTable.insert_eq_some_iff.mp hkeys).1 _ (KeyedTable.mem_update.mpr ⟨k, hk, rfl⟩)
    show (ite _ _ _ : ActivationKey).activationKeyId = r.keyId
    split <;> exact hid
  · intro k'
    show k' ∈ keys ↔ _
    rw [KeyedTable.mem_of_insert hkeys, KeyedTable.mem_update]
    apply or_congr_left
    -- The keys read as unconsumed are the rows that are unconsumed.
    have hread : ∀ k ∈ db.keys, k.activationKeyId ∈ db.unconsumedKeys ↔ k.status = .unconsumed := by
      intro k hk
      rw [DeviceDb.mem_unconsumedKeys]
      constructor
      · intro ⟨k₀, hk₀, hstatus, hid⟩
        rw [← KeyedTable.eq_of_key_eq hk₀ hk hid]
        exact hstatus
      · intro hstatus
        exact ⟨k, hk, hstatus, rfl⟩
    constructor
    · intro ⟨k, hk, heq⟩
      refine ⟨k, hk, ?_⟩
      rw [← heq]
      simp only [hread k hk]
    · intro ⟨k, hk, heq⟩
      refine ⟨k, hk, ?_⟩
      rw [heq]
      simp only [hread k hk]

theorem checkKey_eq_ok_iff {q : ActivationRequest} {db : DeviceDb} {key : ActivationKey} :
    checkKey verifySecret q db = .ok key ↔
      db.keys.find? q.keyId = some key ∧ verifySecret q.secret key.secretHash = true ∧
        key.status = .unconsumed := by
  unfold checkKey
  cases hfind : db.keys.find? q.keyId with
  | none => simp
  | some k =>
    simp only [Option.some.injEq]
    cases hverify : verifySecret q.secret k.secretHash with
    | false =>
      simp only [↓reduceIte, reduceCtorEq, false_iff, not_and]
      intro heq hv
      rw [heq, hv] at hverify
      contradiction
    | true =>
      simp only [Bool.true_eq_false, ↓reduceIte]
      cases hstatus : k.status with
      | unconsumed =>
        simp only [Except.ok.injEq]
        constructor
        · rintro rfl
          exact ⟨rfl, hverify, hstatus⟩
        · exact And.left
      | _ =>
        simp only [reduceCtorEq, false_iff, not_and]
        intro heq _ hunconsumed
        rw [heq, hunconsumed] at hstatus
        contradiction

/-- An activation alone consumes its key and activates the Device with its secret. -/
theorem runAlone_activate {q : ActivationRequest} {db db' : DeviceDb}
    (h : (Transaction.activate q).runAlone verifySecret db = some db') :
    q.keyId ∈ db.unconsumedKeys ∧
      db'.device.deviceId ≠ none ∧ db'.device.activationStatus = .activated ∧
      db'.device.protectedSharedSecret = some q.protectedSharedSecret ∧
      ∀ k', k' ∈ db'.keys ↔
        ∃ k ∈ db.keys, k' = if k.activationKeyId = q.keyId then { k with status := .consumed } else k := by
  simp only [Transaction.runAlone] at h
  split at h
  · contradiction
  · rename_i key hcheck
    obtain ⟨hfind, -, hstatus⟩ := checkKey_eq_ok_iff.mp hcheck
    obtain ⟨hmem, hid⟩ := KeyedTable.find?_eq_some_iff.mp hfind
    simp only [writeActivation, Option.bind_eq_some_iff, Option.map_eq_some_iff,
      ActivationKey.consume, hstatus, ↓reduceIte, Option.some.injEq] at h
    obtain ⟨consumed, rfl, activated, hactivated, rfl⟩ := h
    obtain ⟨-, -, rfl⟩ := activate_eq_some_iff.mp hactivated
    refine ⟨DeviceDb.mem_unconsumedKeys.mpr ⟨key, hmem, hstatus, hid⟩, ?_, ?_, ?_, ?_⟩
    · simp
    · simp
    · simp
    · intro k'
      rw [KeyedTable.mem_update, hid]
      apply exists_congr
      intro k
      rw [eq_comm]

/-- A Device whose credentials are reset stays well-formed. -/
theorem wellFormed_reset {d d' : Device} (h : d.WellFormed) (hreset : resetDevice d = some d') :
    d'.WellFormed := by
  unfold resetDevice Device.requireReactivation at hreset
  split at hreset
  · split at hreset
    · contradiction
    · rename_i hid
      cases hreset
      exact ⟨fun _ => hid, by simp, fun _ => rfl⟩
  · cases hreset
    exact h

/-- Both transactions keep the rows well-formed. -/
theorem wellFormed_runAlone {t : Transaction} {db db' : DeviceDb} (hwf : db.WellFormed)
    (h : t.runAlone verifySecret db = some db') : db'.WellFormed := by
  cases t with
  | regenerate r =>
    obtain ⟨hdevice, -, hkeys⟩ := runAlone_regenerate h
    refine ⟨wellFormed_reset hwf.device hdevice, ?_⟩
    -- Nothing that was there before is unconsumed any more.
    have honly : ∀ k' ∈ db'.keys, k'.status = .unconsumed → k' = r.replacement := by
      intro k' hk' hstatus
      rcases (hkeys k').mp hk' with ⟨k, -, rfl⟩ | rfl
      · split at hstatus
        · simp [ActivationKey.invalidate] at hstatus
        · contradiction
      · rfl
    intro k hk k' hk' hstatus hstatus'
    rw [honly k hk hstatus, honly k' hk' hstatus']
  | activate q =>
    obtain ⟨-, hid, hstatus, hsecret, hkeys⟩ := runAlone_activate h
    refine ⟨⟨fun _ => hid, by simp [hsecret], by simp [hstatus]⟩, ?_⟩
    have hold : ∀ k' ∈ db'.keys, k'.status = .unconsumed → k' ∈ db.keys := by
      intro k' hk' hstatus'
      obtain ⟨k, hk, heq⟩ := (hkeys k').mp hk'
      split at heq
      · rw [heq] at hstatus'
        contradiction
      · exact heq ▸ hk
    intro k hk k' hk' hstatus hstatus'
    exact hwf.oneUnconsumed k (hold k hk hstatus) k' (hold k' hk' hstatus') hstatus hstatus'

/-! ## What a session has read, against the rows as they are -/

/-- A Device read earlier still leads to the same reset. -/
structure Fresh (device current : Device) : Prop where
  wellFormed : device.WellFormed
  activated : device.activationStatus = .activated → current.activationStatus ≠ .unactivated
  other : device.activationStatus ≠ .activated →
    current.activationStatus = device.activationStatus

theorem Fresh.refl {device : Device} (h : device.WellFormed) : Fresh device device where
  wellFormed := h
  activated := fun hstatus => by rw [hstatus]; simp
  other := fun _ => rfl

/-- The reset decided on a fresh read, written to the row, is the reset of the row. -/
theorem Fresh.resetDevice {device current : Device} (h : Fresh device current)
    (hcurrent : current.WellFormed) :
    ∃ reset, Activation.resetDevice device = some reset ∧
      Activation.resetDevice current = some ((device.changes reset).apply current) := by
  have hother := h.other
  have hactivated := h.activated
  have hid := h.wellFormed.deviceId
  have hid' := hcurrent.deviceId
  obtain ⟨deviceId, status, secret⟩ := device
  obtain ⟨deviceId', status', secret'⟩ := current
  cases status with
  | unactivated =>
    obtain rfl : status' = .unactivated := hother (by simp)
    exact ⟨_, rfl, by simp [Activation.resetDevice, Device.changes, DeviceUpdate.apply]⟩
  | reactivationRequired =>
    -- Nothing changes, so nothing is written: the row has to be reset already.
    obtain rfl : status' = .reactivationRequired := hother (by simp)
    obtain rfl : secret = none := h.wellFormed.revoked rfl
    obtain rfl : secret' = none := hcurrent.revoked rfl
    simp_all [Activation.resetDevice, Device.requireReactivation, Device.changes,
      DeviceUpdate.apply]
  | activated =>
    have hsecret : secret ≠ none := h.wellFormed.activated rfl
    have hstatus : status' ≠ .unactivated := hactivated rfl
    have hnull : ¬ none = secret := fun heq => hsecret heq.symm
    simp_all [Activation.resetDevice, Device.requireReactivation, Device.changes,
      DeviceUpdate.apply]

/-- No key that was read as unconsumed has been consumed since. -/
def NotConsumed (unconsumed : List String) (db : DeviceDb) : Prop :=
  ∀ k ∈ db.keys, k.activationKeyId ∈ unconsumed → k.status ≠ .consumed

theorem notConsumed_unconsumedKeys (db : DeviceDb) : NotConsumed db.unconsumedKeys db := by
  intro k hk hmem
  obtain ⟨k₀, hk₀, hstatus, hid⟩ := DeviceDb.mem_unconsumedKeys.mp hmem
  rw [← KeyedTable.eq_of_key_eq hk₀ hk hid, hstatus]
  simp

/-- What a regeneration knows at each stage. -/
def RegenerationStage.Inv (db : DeviceDb) (locks : LockTable Resource) (i : ℕ) :
    RegenerationStage → Prop
  | .begun => True
  | .deviceRead device => Fresh device db.device
  | .keysRead device unconsumed => Fresh device db.device ∧ NotConsumed unconsumed db
  | .flushed device unconsumed => Fresh device db.device ∧ NotConsumed unconsumed db ∧
      ∀ keyId ∈ unconsumed, locks (.key keyId) = some i
  | .inserted device unconsumed => Fresh device db.device ∧ NotConsumed unconsumed db ∧
      (∀ keyId ∈ unconsumed, locks (.key keyId) = some i) ∧
      locks .unconsumedEntry = some i ∧ ∀ keyId ∈ db.unconsumedKeys, keyId ∈ unconsumed

/-- An activation's key is locked and still passes its checks. -/
structure HoldsKey (verifySecret : String → String → Bool) (db : DeviceDb)
    (locks : LockTable Resource) (i : ℕ) (q : ActivationRequest) (key : ActivationKey) : Prop where
  locked : locks (.key q.keyId) = some i
  checked : checkKey verifySecret q db = .ok key

/-- What an activation knows at each stage. -/
def ActivationStage.Inv (verifySecret : String → String → Bool) (db : DeviceDb)
    (locks : LockTable Resource) (i : ℕ) (q : ActivationRequest) : ActivationStage → Prop
  | .begun => True
  | .keyRead key => HoldsKey verifySecret db locks i q key
  | .deviceRead key device | .flushed key device =>
    HoldsKey verifySecret db locks i q key ∧ device = db.device

/-- What a session knows. -/
def Session.Inv (verifySecret : String → String → Bool) (db : DeviceDb) (locks : LockTable Resource)
    (i : ℕ) : Session → Prop
  | .regeneration _ stage => stage.Inv db locks i
  | .activation q stage => stage.Inv verifySecret db locks i q
  | .ended _ => True

/-- What another session does to the locks changes nothing about it. -/
theorem Session.Inv.frame {db : DeviceDb} {locks locks' : LockTable Resource} {i j : ℕ}
    {session : Session} (h : session.Inv verifySecret db locks j) (hne : j ≠ i)
    (hkeeps : LockTable.Keeps i locks locks') : session.Inv verifySecret db locks' j := by
  cases session with
  | regeneration r stage =>
    cases stage with
    | flushed device unconsumed =>
      exact ⟨h.1, h.2.1, fun keyId hmem => hkeeps _ _ hne (h.2.2 keyId hmem)⟩
    | inserted device unconsumed =>
      exact ⟨h.1, h.2.1, fun keyId hmem => hkeeps _ _ hne (h.2.2.1 keyId hmem),
        hkeeps _ _ hne h.2.2.2.1, h.2.2.2.2⟩
    | _ => exact h
  | activation q stage =>
    cases stage with
    | begun => exact h
    | keyRead key => exact ⟨hkeeps _ _ hne h.locked, h.checked⟩
    | deviceRead key device => exact ⟨⟨hkeeps _ _ hne h.1.locked, h.1.checked⟩, h.2⟩
    | flushed key device => exact ⟨⟨hkeeps _ _ hne h.1.locked, h.1.checked⟩, h.2⟩
  | ended outcome => trivial

/-! ## Commits -/

/-- A regeneration that commits does what it would do alone. -/
theorem writeRegeneration_eq_runAlone (verifySecret : String → String → Bool) {db : DeviceDb}
    (hwf : db.WellFormed) {r : Regeneration} {device : Device} {unconsumed : List String}
    (hfresh : Fresh device db.device) (hnot : NotConsumed unconsumed db)
    (hall : ∀ keyId ∈ db.unconsumedKeys, keyId ∈ unconsumed) :
    writeRegeneration r device unconsumed db =
      (Transaction.regenerate r).runAlone verifySecret db := by
  obtain ⟨reset, hreset, hcurrent⟩ := hfresh.resetDevice hwf.device
  simp only [Transaction.runAlone, writeRegeneration, hreset, hcurrent, Option.bind_some,
    apply_changes_self]
  congr 2
  apply KeyedTable.ext_rows
  rw [KeyedTable.rows_update, KeyedTable.rows_update]
  apply List.map_congr_left
  intro k hk
  by_cases hmem : k.activationKeyId ∈ db.unconsumedKeys
  · rw [if_pos hmem, if_pos (hall _ hmem)]
  · rw [if_neg hmem]
    split
    · rename_i hread
      -- Read as unconsumed, no longer so and not consumed: somebody has invalidated it already.
      have hstatus : k.status = .invalidated := by
        cases hcase : k.status with
        | unconsumed => exact absurd (DeviceDb.mem_unconsumedKeys.mpr ⟨k, hk, hcase, rfl⟩) hmem
        | consumed => exact absurd hcase (hnot k hk hread)
        | invalidated => rfl
      rw [ActivationKey.invalidate, ← hstatus]
    · rfl

/-- An activation that commits does what it would do alone. -/
theorem writeActivation_eq_runAlone {db : DeviceDb} {q : ActivationRequest} {key : ActivationKey}
    (hcheck : checkKey verifySecret q db = .ok key) :
    writeActivation q key db.device db = (Transaction.activate q).runAlone verifySecret db := by
  simp only [Transaction.runAlone, hcheck]

/-- A reset only moves activated Devices. -/
theorem activationStatus_resetDevice {d d' : Device} (h : resetDevice d = some d') :
    (d.activationStatus = .unactivated → d'.activationStatus = .unactivated) ∧
      (d.activationStatus ≠ .unactivated → d'.activationStatus = .reactivationRequired) := by
  unfold resetDevice Device.requireReactivation at h
  split at h
  · rename_i hstatus
    split at h
    · contradiction
    · cases h
      exact ⟨fun heq => absurd heq hstatus, fun _ => rfl⟩
  · rename_i hstatus
    cases h
    exact ⟨id, fun hne => absurd hne hstatus⟩

/-- What another session has read stays fresh when a regeneration commits. -/
theorem Fresh.regenerate {device : Device} {db db' : DeviceDb} (h : Fresh device db.device)
    {r : Regeneration} (hrun : (Transaction.regenerate r).runAlone verifySecret db = some db') :
    Fresh device db'.device := by
  obtain ⟨hunactivated, hother⟩ := activationStatus_resetDevice (runAlone_regenerate hrun).1
  refine ⟨h.wellFormed, ?_, ?_⟩
  · intro hstatus
    rw [hother (h.activated hstatus)]
    simp
  · intro hstatus
    have hsame := h.other hstatus
    cases hcase : device.activationStatus with
    | unactivated => exact hunactivated (hsame.trans hcase)
    | reactivationRequired => exact hother (by rw [hsame, hcase]; simp)
    | activated => exact absurd hcase hstatus

theorem NotConsumed.regenerate {unconsumed : List String} {db db' : DeviceDb}
    (h : NotConsumed unconsumed db) {r : Regeneration}
    (hrun : (Transaction.regenerate r).runAlone verifySecret db = some db') :
    NotConsumed unconsumed db' := by
  intro k' hk' hmem
  rcases ((runAlone_regenerate hrun).2.2 k').mp hk' with ⟨k, hk, heq⟩ | rfl
  · split at heq <;> subst heq
    · simp [ActivationKey.invalidate]
    · exact h _ hk hmem
  · simp [Regeneration.replacement]

/-- The other sessions when a regeneration commits. -/
theorem Session.Inv.regenerate {db db' : DeviceDb} {locks : LockTable Resource} {i j : ℕ}
    {session : Session} (h : session.Inv verifySecret db locks j) (hne : j ≠ i)
    {r : Regeneration} {unconsumed : List String}
    (hheld : ∀ keyId ∈ unconsumed, locks (.key keyId) = some i)
    (hentry : locks .unconsumedEntry = some i)
    (hall : ∀ keyId ∈ db.unconsumedKeys, keyId ∈ unconsumed)
    (hrun : (Transaction.regenerate r).runAlone verifySecret db = some db') :
    session.Inv verifySecret db' (locks.release i) j := by
  have hkeeps := LockTable.keeps_release locks i
  -- An activation that is under way holds the unconsumed key, which the regeneration has locked.
  have hnoActivation : ∀ q key, ¬ HoldsKey verifySecret db locks j q key := by
    intro q key hholds
    obtain ⟨hfind, -, hstatus⟩ := checkKey_eq_ok_iff.mp hholds.checked
    obtain ⟨hmem, hid⟩ := KeyedTable.find?_eq_some_iff.mp hfind
    have hlocked := hheld _ (hall _ (DeviceDb.mem_unconsumedKeys.mpr ⟨key, hmem, hstatus, hid⟩))
    rw [hholds.locked, Option.some.injEq] at hlocked
    exact hne hlocked
  cases session with
  | regeneration r' stage =>
    cases stage with
    | begun => trivial
    | deviceRead device => exact Fresh.regenerate h hrun
    | keysRead device unconsumed' => exact ⟨h.1.regenerate hrun, h.2.regenerate hrun⟩
    | flushed device unconsumed' =>
      exact ⟨h.1.regenerate hrun, h.2.1.regenerate hrun,
        fun keyId hmem => hkeeps _ _ hne (h.2.2 keyId hmem)⟩
    | inserted device unconsumed' =>
      -- Two sessions cannot both own the index entry.
      have howner := h.2.2.2.1
      rw [hentry, Option.some.injEq] at howner
      exact absurd howner.symm hne
  | activation q stage =>
    cases stage with
    | begun => trivial
    | keyRead key => exact absurd h (hnoActivation q key)
    | deviceRead key device => exact absurd h.1 (hnoActivation q key)
    | flushed key device => exact absurd h.1 (hnoActivation q key)
  | ended outcome => trivial

/-- A regeneration under way that an activation of the key may overtake. -/
def RegenerationStage.Tolerates (keyId : String) : RegenerationStage → Prop
  | .begun => True
  | .deviceRead device => device.activationStatus = .activated
  | .keysRead device unconsumed | .flushed device unconsumed | .inserted device unconsumed =>
    device.activationStatus = .activated ∧ keyId ∉ unconsumed

/-- A session that an activation of the key may overtake. -/
def Session.Tolerates (keyId : String) : Session → Prop
  | .regeneration _ stage => stage.Tolerates keyId
  | _ => True

instance (keyId : String) (session : Session) : Decidable (session.Tolerates keyId) := by
  unfold Session.Tolerates
  split
  · unfold RegenerationStage.Tolerates
    split <;> infer_instance
  · infer_instance

/-- No activation commits while a regeneration is under way that has read the Device as not activated
or the activation's key as unconsumed. -/
def CommitsCleanly (s : ActivationState) : ActivationAction → Prop
  | .advance i =>
    match s.sessions[i]? with
    | some (.activation q (.flushed _ _)) => ∀ session ∈ s.sessions, session.Tolerates q.keyId
    | _ => True
  | _ => True

instance (s : ActivationState) (a : ActivationAction) : Decidable (CommitsCleanly s a) := by
  unfold CommitsCleanly
  split
  · split <;> infer_instance
  · infer_instance

/-- After an activation a read of an activated Device is fresh. -/
theorem Fresh.activate {device : Device} {db db' : DeviceDb} (h : Fresh device db.device)
    (hstatus : device.activationStatus = .activated) {q : ActivationRequest}
    (hrun : (Transaction.activate q).runAlone verifySecret db = some db') :
    Fresh device db'.device := by
  obtain ⟨-, -, hactivated, -, -⟩ := runAlone_activate hrun
  refine ⟨h.wellFormed, ?_, fun hne => absurd hstatus hne⟩
  intro _
  rw [hactivated]
  simp

theorem NotConsumed.activate {unconsumed : List String} {db db' : DeviceDb}
    (h : NotConsumed unconsumed db) {q : ActivationRequest} (hother : q.keyId ∉ unconsumed)
    (hrun : (Transaction.activate q).runAlone verifySecret db = some db') :
    NotConsumed unconsumed db' := by
  intro k' hk' hmem
  obtain ⟨-, -, -, -, hkeys⟩ := runAlone_activate hrun
  obtain ⟨k, hk, heq⟩ := (hkeys k').mp hk'
  split at heq <;> subst heq
  · rename_i hid
    exact absurd (hid ▸ hmem) hother
  · exact h _ hk hmem

/-- The other sessions when an activation commits. -/
theorem Session.Inv.activate {db db' : DeviceDb} {locks : LockTable Resource} {i j : ℕ}
    {session : Session} (h : session.Inv verifySecret db locks j) (hne : j ≠ i)
    (hwf : db.WellFormed) {q : ActivationRequest} (hlocked : locks (.key q.keyId) = some i)
    (htolerates : session.Tolerates q.keyId)
    (hrun : (Transaction.activate q).runAlone verifySecret db = some db') :
    session.Inv verifySecret db' (locks.release i) j := by
  have hkeeps := LockTable.keeps_release locks i
  obtain ⟨hunconsumed, -, -, -, hkeys⟩ := runAlone_activate hrun
  -- There is one unconsumed key, and this session has locked it.
  have hnoActivation : ∀ q' key, ¬ HoldsKey verifySecret db locks j q' key := by
    intro q' key hholds
    obtain ⟨hfind, -, hstatus⟩ := checkKey_eq_ok_iff.mp hholds.checked
    obtain ⟨hmem, hid⟩ := KeyedTable.find?_eq_some_iff.mp hfind
    have hsame : q'.keyId = q.keyId := hwf.unconsumed_unique
      (DeviceDb.mem_unconsumedKeys.mpr ⟨key, hmem, hstatus, hid⟩) hunconsumed
    have hlocked' := hholds.locked
    rw [hsame, hlocked, Option.some.injEq] at hlocked'
    exact hne hlocked'.symm
  cases session with
  | regeneration r stage =>
    cases stage with
    | begun => trivial
    | deviceRead device => exact Fresh.activate h htolerates hrun
    | keysRead device unconsumed =>
      exact ⟨h.1.activate htolerates.1 hrun, h.2.activate htolerates.2 hrun⟩
    | flushed device unconsumed =>
      exact ⟨h.1.activate htolerates.1 hrun, h.2.1.activate htolerates.2 hrun,
        fun keyId hmem => hkeeps _ _ hne (h.2.2 keyId hmem)⟩
    | inserted device unconsumed =>
      -- Its index check has left no unconsumed key but its own.
      exact absurd (h.2.2.2.2 _ hunconsumed) htolerates.2
  | activation q' stage =>
    cases stage with
    | begun => trivial
    | keyRead key => exact absurd h (hnoActivation q' key)
    | deviceRead key device => exact absurd h.1 (hnoActivation q' key)
    | flushed key device => exact absurd h.1 (hnoActivation q' key)
  | ended outcome => trivial

/-! ## The invariant -/

/-- The committed rows are the serial execution of the committed transactions, and every session knows
what its stage says. -/
structure SerialInv (verifySecret : String → String → Bool) (db₀ : DeviceDb) (s : ActivationState) :
    Prop where
  serial : replay verifySecret db₀ s.committed = some s.db
  wellFormed : s.db.WellFormed
  sessions : ∀ i (session : Session), s.sessions[i]? = some session → session.Inv verifySecret s.db s.locks i

theorem serialInv_start {db : DeviceDb} (hwf : db.WellFormed) : SerialInv verifySecret db (.start db) where
  serial := rfl
  wellFormed := hwf
  sessions := by simp [ActivationState.start]

/-- A step of one session that commits nothing. -/
theorem SerialInv.proceed {db₀ : DeviceDb} {s : ActivationState} (h : SerialInv verifySecret db₀ s) {i : ℕ}
    {locks : LockTable Resource} (hkeeps : LockTable.Keeps i s.locks locks) {session : Session}
    (hsession : session.Inv verifySecret s.db locks i) :
    SerialInv verifySecret db₀ { s with sessions := s.sessions.set i session, locks } where
  serial := h.serial
  wellFormed := h.wellFormed
  sessions := by
    intro j session' hget
    simp only [List.getElem?_set] at hget
    split at hget
    · rename_i hij
      split at hget
      · rw [Option.some.injEq] at hget
        rw [← hget, ← hij]
        exact hsession
      · contradiction
    · rename_i hij
      exact (h.sessions j session' hget).frame (fun heq => hij heq.symm) hkeeps

/-- A session that ends without a commit. -/
theorem SerialInv.finish {db₀ : DeviceDb} {s : ActivationState} (h : SerialInv verifySecret db₀ s) (i : ℕ)
    (outcome : SessionOutcome) : SerialInv verifySecret db₀ (s.finish i outcome) :=
  h.proceed (LockTable.keeps_release s.locks i) trivial

/-- A session that takes locks first. -/
theorem SerialInv.proceedWith {db₀ : DeviceDb} {s s' : ActivationState} (h : SerialInv verifySecret db₀ s)
    {i : ℕ} {rs : List Resource} {session : Session}
    (hs : s.proceedWith i rs session = some s')
    (hsession : session.Inv verifySecret s.db (s.locks.acquire i rs) i) : SerialInv verifySecret db₀ s' := by
  unfold ActivationState.proceedWith at hs
  split at hs
  · rename_i havailable
    cases hs
    exact h.proceed (LockTable.keeps_acquire havailable) hsession
  · contradiction

/-- A session that commits what it would have done alone. -/
theorem SerialInv.commit {db₀ db : DeviceDb} {s : ActivationState} (h : SerialInv verifySecret db₀ s) {i : ℕ}
    {t : Transaction} (hrun : t.runAlone verifySecret s.db = some db)
    (hothers : ∀ j (session : Session), j ≠ i → s.sessions[j]? = some session →
      session.Inv verifySecret db (s.locks.release i) j) :
    SerialInv verifySecret db₀ (s.commit i t db) where
  serial := by
    show replay verifySecret db₀ (s.committed ++ [t]) = some db
    rw [replay_append, h.serial, Option.bind_some, replay, hrun]
    rfl
  wellFormed := wellFormed_runAlone h.wellFormed hrun
  sessions := by
    intro j session hget
    simp only [ActivationState.commit, List.getElem?_set] at hget
    split at hget
    · split at hget
      · rw [Option.some.injEq] at hget
        rw [← hget]
        trivial
      · contradiction
    · rename_i hij
      exact hothers j session (fun heq => hij heq.symm) hget

theorem SerialInv.advanceRegeneration {db₀ : DeviceDb} {s s' : ActivationState}
    (h : SerialInv verifySecret db₀ s) {i : ℕ} {r : Regeneration} {stage : RegenerationStage}
    (hget : s.sessions[i]? = some (.regeneration r stage))
    (hs : advanceRegeneration s i r stage = some s') : SerialInv verifySecret db₀ s' := by
  have hstage : stage.Inv s.db s.locks i := h.sessions i _ hget
  cases stage with
  | begun =>
    cases hs
    exact h.proceed (.refl i s.locks) (Fresh.refl h.wellFormed.device)
  | deviceRead device =>
    cases hs
    exact h.proceed (.refl i s.locks) ⟨hstage, notConsumed_unconsumedKeys s.db⟩
  | keysRead device unconsumed =>
    simp only [Activation.advanceRegeneration] at hs
    split at hs
    · cases hs
      exact h.finish i _
    · refine h.proceedWith hs ⟨hstage.1, hstage.2, ?_⟩
      intro keyId hmem
      apply LockTable.acquire_of_mem
      exact List.mem_append_left _ (List.mem_append_left _ (List.mem_map_of_mem hmem))
  | flushed device unconsumed =>
    simp only [Activation.advanceRegeneration] at hs
    split at hs
    · split at hs
      · cases hs
        exact h.finish i _
      · split at hs
        · cases hs
          exact h.finish i _
        · rename_i hindex
          refine h.proceedWith hs ⟨hstage.1, hstage.2.1, ?_, ?_, ?_⟩
          · intro keyId hmem
            exact LockTable.acquire_of_held _ (hstage.2.2 keyId hmem)
          · exact LockTable.acquire_of_mem _ _ (by simp)
          · intro keyId hmem
            by_contra hnot
            exact hindex ⟨keyId, hmem, hnot⟩
    · contradiction
  | inserted device unconsumed =>
    obtain ⟨hfresh, hnot, hheld, hentry, hall⟩ := hstage
    simp only [Activation.advanceRegeneration, Option.some.injEq] at hs
    split at hs
    · subst hs
      exact h.finish i _
    · rename_i db hwrite
      subst hs
      rw [writeRegeneration_eq_runAlone verifySecret h.wellFormed hfresh hnot hall] at hwrite
      apply h.commit hwrite
      intro j session hne hget'
      exact (h.sessions j session hget').regenerate hne hheld hentry hall hwrite

theorem SerialInv.advanceActivation {db₀ : DeviceDb} {s s' : ActivationState}
    (h : SerialInv verifySecret db₀ s) {i : ℕ} {q : ActivationRequest} {stage : ActivationStage}
    (hget : s.sessions[i]? = some (.activation q stage))
    (hclean : ∀ key device, stage = .flushed key device →
      ∀ session ∈ s.sessions, session.Tolerates q.keyId)
    (hs : advanceActivation verifySecret s i q stage = some s') : SerialInv verifySecret db₀ s' := by
  have hstage : stage.Inv verifySecret s.db s.locks i q := h.sessions i _ hget
  cases stage with
  | begun =>
    simp only [Activation.advanceActivation] at hs
    split at hs
    · split at hs
      · cases hs
        exact h.finish i _
      · rename_i key hcheck
        exact h.proceedWith hs ⟨LockTable.acquire_of_mem _ _ (by simp), hcheck⟩
    · contradiction
  | keyRead key =>
    cases hs
    exact h.proceed (.refl i s.locks) ⟨hstage, rfl⟩
  | deviceRead key device =>
    simp only [Activation.advanceActivation] at hs
    split at hs
    · cases hs
      exact h.finish i _
    · obtain ⟨hholds, hdevice⟩ := hstage
      exact h.proceedWith hs
        ⟨⟨LockTable.acquire_of_held _ hholds.locked, hholds.checked⟩, hdevice⟩
  | flushed key device =>
    obtain ⟨hholds, rfl⟩ := hstage
    simp only [Activation.advanceActivation, Option.some.injEq] at hs
    split at hs
    · subst hs
      exact h.finish i _
    · rename_i db hwrite
      subst hs
      rw [writeActivation_eq_runAlone hholds.checked] at hwrite
      apply h.commit hwrite
      intro j session hne hget'
      exact (h.sessions j session hget').activate hne h.wellFormed hholds.locked
        (hclean key _ rfl session (List.mem_of_getElem? hget')) hwrite

/-- The step lemma. -/
theorem SerialInv.step {db₀ : DeviceDb} {s s' : ActivationState} (h : SerialInv verifySecret db₀ s)
    {a : ActivationAction} (hclean : CommitsCleanly s a)
    (hs : activationStep verifySecret s a = some s') : SerialInv verifySecret db₀ s' := by
  cases a with
  | begin t =>
    cases hs
    refine ⟨h.serial, h.wellFormed, ?_⟩
    intro i session hget
    rcases List.mem_append.mp (List.mem_of_getElem? hget) with hold | hnew
    · by_cases hlt : i < s.sessions.length
      · rw [List.getElem?_append_left hlt] at hget
        exact h.sessions i session hget
      · rw [List.getElem?_append_right (not_lt.mp hlt)] at hget
        rw [List.mem_singleton.mp (List.mem_of_getElem? hget)]
        cases t <;> trivial
    · rw [List.mem_singleton.mp hnew]
      cases t <;> trivial
  | advance i =>
    simp only [activationStep] at hs
    split at hs
    · rename_i r stage hget
      exact h.advanceRegeneration hget hs
    · rename_i q stage hget
      apply h.advanceActivation hget ?_ hs
      intro key device hstage
      simp only [CommitsCleanly, hget, hstage] at hclean
      exact hclean
    · contradiction
  | abort i =>
    simp only [activationStep] at hs
    split at hs
    · contradiction
    · contradiction
    · cases hs
      exact h.finish i _

/-! ## Revocation -/

/-- The keys a list of transactions issues. -/
def issuedKeys (ts : List Transaction) : List String :=
  ts.filterMap fun t =>
    match t with
    | .regenerate r => some r.keyId
    | .activate _ => none

/-- Whatever can authenticate after a regeneration was issued by an activation that committed after it,
of a key that is not older. -/
def OnlyLaterSecrets (committed : List Transaction) (device : Device) : Prop :=
  ∀ before r after, committed = before ++ .regenerate r :: after →
    ∀ protectedSharedSecret, device.Authenticates protectedSharedSecret →
      ∃ q, .activate q ∈ after ∧ q.protectedSharedSecret = protectedSharedSecret ∧
        q.keyId ∈ issuedKeys (.regenerate r :: after)

/-- Right after a regeneration only its key is unconsumed and nothing authenticates. -/
theorem revoked_of_regenerate {r : Regeneration} {db db' : DeviceDb}
    (h : (Transaction.regenerate r).runAlone verifySecret db = some db') :
    (∀ keyId ∈ db'.unconsumedKeys, keyId = r.keyId) ∧
      ∀ protectedSharedSecret, ¬ db'.device.Authenticates protectedSharedSecret := by
  obtain ⟨hreset, -, hkeys⟩ := runAlone_regenerate h
  constructor
  · intro keyId hmem
    obtain ⟨k', hk', hstatus, rfl⟩ := DeviceDb.mem_unconsumedKeys.mp hmem
    rcases (hkeys k').mp hk' with ⟨k, -, rfl⟩ | rfl
    · split at hstatus
      · simp [ActivationKey.invalidate] at hstatus
      · contradiction
    · rfl
  · intro protectedSharedSecret ⟨hauth, _⟩
    have hactivated : db'.device.activationStatus = .activated := by
      simp only [Device.canAuthenticate, Bool.and_eq_true, decide_eq_true_eq] at hauth
      exact hauth.1
    obtain ⟨hunactivated, hother⟩ := activationStatus_resetDevice hreset
    by_cases hcase : db.device.activationStatus = .unactivated
    · rw [hunactivated hcase] at hactivated
      contradiction
    · rw [hother hcase] at hactivated
      contradiction

/-- A serial execution after a regeneration. -/
theorem onlyLater_of_replay {r : Regeneration} {db db₁ : DeviceDb}
    (hrun : (Transaction.regenerate r).runAlone verifySecret db = some db₁) {after : List Transaction}
    {db₂ : DeviceDb} (hreplay : replay verifySecret db₁ after = some db₂) :
    (∀ keyId ∈ db₂.unconsumedKeys, keyId ∈ issuedKeys (.regenerate r :: after)) ∧
      ∀ protectedSharedSecret, db₂.device.Authenticates protectedSharedSecret →
        ∃ q, .activate q ∈ after ∧ q.protectedSharedSecret = protectedSharedSecret ∧
          q.keyId ∈ issuedKeys (.regenerate r :: after) := by
  induction after using List.reverseRecOn generalizing db₂ with
  | nil =>
    rw [replay, Option.some.injEq] at hreplay
    subst hreplay
    obtain ⟨hkeys, hnone⟩ := revoked_of_regenerate hrun
    refine ⟨?_, fun secret hauth => absurd hauth (hnone secret)⟩
    intro keyId hmem
    simp [issuedKeys, hkeys keyId hmem]
  | append_singleton after t ih =>
    rw [replay_append, Option.bind_eq_some_iff] at hreplay
    obtain ⟨db, hbefore, hlast⟩ := hreplay
    simp only [replay, Option.bind_eq_some_iff, Option.some.injEq] at hlast
    obtain ⟨db', hlast, rfl⟩ := hlast
    obtain ⟨hkeys, -⟩ := ih hbefore
    have hissued : issuedKeys (.regenerate r :: (after ++ [t])) =
        issuedKeys (.regenerate r :: after) ++ issuedKeys [t] := by
      rw [← List.cons_append]
      exact List.filterMap_append
    rw [hissued]
    cases t with
    | regenerate r' =>
      obtain ⟨hkeys', hnone⟩ := revoked_of_regenerate hlast
      refine ⟨?_, fun secret hauth => absurd hauth (hnone secret)⟩
      intro keyId hmem
      simp [issuedKeys, hkeys' keyId hmem]
    | activate q =>
      obtain ⟨hunconsumed, -, -, hsecret, hrows⟩ := runAlone_activate hlast
      constructor
      · intro keyId hmem
        obtain ⟨k', hk', hstatus, rfl⟩ := DeviceDb.mem_unconsumedKeys.mp hmem
        obtain ⟨k, hk, heq⟩ := (hrows k').mp hk'
        split at heq <;> subst heq
        · contradiction
        · exact List.mem_append_left _
            (hkeys _ (DeviceDb.mem_unconsumedKeys.mpr ⟨_, hk, hstatus, rfl⟩))
      · intro secret hauth
        refine ⟨q, by simp, ?_, List.mem_append_left _ (hkeys _ hunconsumed)⟩
        have hstored := hauth.2
        rw [hsecret, Option.some.injEq] at hstored
        exact hstored

theorem onlyLaterSecrets_of_replay {db₀ db : DeviceDb} {committed : List Transaction}
    (h : replay verifySecret db₀ committed = some db) : OnlyLaterSecrets committed db.device := by
  intro before r after hsplit
  rw [hsplit, replay_append, Option.bind_eq_some_iff] at h
  obtain ⟨db', -, hrest⟩ := h
  rw [replay, Option.bind_eq_some_iff] at hrest
  obtain ⟨db₁, hrun, hafter⟩ := hrest
  exact (onlyLater_of_replay hrun hafter).2

/-! ## Serializability -/

/-- The same key statuses, the same activation status, and a secret in both or in neither. -/
structure Agrees (db db' : DeviceDb) : Prop where
  keys : ∀ keyId, (db.keys.find? keyId).map ActivationKey.status =
    (db'.keys.find? keyId).map ActivationKey.status
  activationStatus : db.device.activationStatus = db'.device.activationStatus
  protectedSharedSecret :
    db.device.protectedSharedSecret.isSome = db'.device.protectedSharedSecret.isSome

/-- The committed rows agree with those of some serial order of the committed transactions. -/
def Serializable (verifySecret : String → String → Bool) (db₀ : DeviceDb) (s : ActivationState) :
    Prop :=
  ∃ order, order.Perm s.committed ∧
    ∃ db, replay verifySecret db₀ order = some db ∧ Agrees db s.db

/-- In every run in which no activation commits while a regeneration is under way that has read the
Device as not activated or the key as unconsumed, the committed transactions are serializable and no
secret of an earlier key outlives a regeneration. -/
theorem regeneration_activation_serializable (verifySecret : String → String → Bool)
    (db₀ : DeviceDb) (hwf : db₀.WellFormed) {s : ActivationState}
    (h : (activationSystem verifySecret db₀).ReachableUnder CommitsCleanly s) :
    Serializable verifySecret db₀ s ∧ OnlyLaterSecrets s.committed s.db.device := by
  have hinv : SerialInv verifySecret db₀ s := by
    apply h.invariant_of_guard
    · intro s hs
      rw [show s = .start db₀ from hs]
      exact serialInv_start hwf
    · intro s a s' hinv hclean hs
      exact hinv.step hclean hs
  -- The serial order is the order of the commits.
  exact ⟨⟨s.committed, .refl _, s.db, hinv.serial, fun _ => rfl, rfl, rfl⟩,
    onlyLaterSecrets_of_replay hinv.serial⟩

/-! ## An activation inside a regeneration -/

/-- A secret's hash is the secret. -/
def plainVerify (secret secretHash : String) : Bool := secret = secretHash

/-- A provisioned Device with its first key. -/
def provisionedDb : DeviceDb :=
  { device := ⟨none, .unactivated, none⟩, keys := ⟨[⟨"key-1", "secret-1", .unconsumed⟩], by simp⟩ }

theorem provisionedDb_wellFormed : provisionedDb.WellFormed where
  device := ⟨by simp [provisionedDb], by simp [provisionedDb], by simp [provisionedDb]⟩
  oneUnconsumed := by
    intro k hk k' hk' _ _
    rw [← KeyedTable.mem_rows] at hk hk'
    simp only [provisionedDb, List.mem_singleton] at hk hk'
    rw [hk, hk']

/-- The Admin's regeneration. -/
def sampleRegeneration : Regeneration := ⟨"key-2", "secret-2"⟩

/-- The Agent's activation with the first key. -/
def sampleActivation : ActivationRequest := ⟨"key-1", "secret-1", "protected-1", 7⟩

/-- The activation runs to its end, then the regeneration. -/
def activateFirst : List ActivationAction :=
  [.begin (.regenerate sampleRegeneration), .begin (.activate sampleActivation)] ++
    List.replicate 4 (.advance 1) ++ List.replicate 5 (.advance 0)

/-- The regeneration has read the Device when the activation runs. -/
def activateInside : List ActivationAction :=
  [.begin (.regenerate sampleRegeneration), .begin (.activate sampleActivation), .advance 0] ++
    List.replicate 4 (.advance 1) ++ List.replicate 4 (.advance 0)

theorem serializable_activateFirst : ∃ s, s.committed.length = 2 ∧
    Serializable plainVerify provisionedDb s ∧ OnlyLaterSecrets s.committed s.db.device := by
  have hrun : (((activationSystem plainVerify provisionedDb).exec (.start provisionedDb)
      activateFirst).map fun s => s.committed.length) = some 2 := by
    decide +kernel
  obtain ⟨s, hs, hlength⟩ := Option.map_eq_some_iff.mp hrun
  have hreach : (activationSystem plainVerify provisionedDb).ReachableUnder CommitsCleanly s :=
    TransitionSystem.ReachableUnder.exec (.init rfl) (by decide +kernel) hs
  exact ⟨s, hlength, regeneration_activation_serializable plainVerify provisionedDb
    provisionedDb_wellFormed hreach⟩

/-- Both commit, and the Device stays activated with the secret of the replaced key: no serial order
ends so. -/
theorem activation_inside_regeneration :
    ¬ ∀ (verifySecret : String → String → Bool) (db₀ : DeviceDb) (s : ActivationState),
      db₀.WellFormed → (activationSystem verifySecret db₀).Reachable s →
        Serializable verifySecret db₀ s := by
  intro h
  have hrun : (((activationSystem plainVerify provisionedDb).exec (.start provisionedDb)
      activateInside).map fun s => (s.committed, s.db.device.activationStatus)) =
        some ([.activate sampleActivation, .regenerate sampleRegeneration], .activated) := by
    decide +kernel
  obtain ⟨s, hs, hend⟩ := Option.map_eq_some_iff.mp hrun
  obtain ⟨hcommitted, hstatus⟩ := Prod.mk.inj hend
  obtain ⟨order, hperm, db, hreplay, hagrees⟩ := h plainVerify provisionedDb s
    provisionedDb_wellFormed (TransitionSystem.Reachable.exec (.init rfl) hs)
  rw [hcommitted] at hperm
  have hne : db.device.activationStatus ≠ .activated := by
    have hends : ∀ ts ∈ [[.activate sampleActivation, .regenerate sampleRegeneration],
        [.regenerate sampleRegeneration, .activate sampleActivation]],
        (replay plainVerify provisionedDb ts).all
          (fun db => db.device.activationStatus ≠ .activated) = true := by decide +kernel
    have horder : order ∈ [[.activate sampleActivation, .regenerate sampleRegeneration],
        [.regenerate sampleRegeneration, .activate sampleActivation]] := by
      obtain ⟨t, u, rfl⟩ := List.length_eq_two.mp hperm.length_eq
      have ht := hperm.mem_iff (a := t)
      have hu := hperm.mem_iff (a := u)
      have hnodup := hperm.nodup_iff.mpr (by decide)
      simp only [List.mem_cons, List.not_mem_nil, or_false, true_or, or_true, true_iff,
        List.nodup_cons, List.nodup_nil, not_false_eq_true, and_true] at ht hu hnodup
      rcases ht with rfl | rfl <;> rcases hu with rfl | rfl <;> simp_all
    have hall := hends order horder
    rw [hreplay] at hall
    simpa using hall
  rw [hagrees.activationStatus] at hne
  exact hne hstatus

end WeaponDetection.Backend.Activation
