import WeaponDetection.Agent.Persistence.Schema

/-!
# The migrations keep every row

`Content` is what a valid database of a shipped version holds, `Content.form` what its rows are in a
later version, by the names of the columns alone: old columns keep their values, new ones are NULL and
a migrated identity is Operational.  Each migration turns one form into the next
(`migration_executes`), each in one transaction, so that a run of `initialize_schema` that is cut
anywhere leaves one of the forms (`initializeSchema_safe`).
-/

namespace WeaponDetection.Agent.Persistence

open WeaponDetection.Foundations
open WeaponDetection.Foundations.Sqlite

/-! ## The contents of a version -/

/-- `DeviceIdentity` in a version. -/
def identityDdl (version : ℕ) : AgentTableDef :=
  if version = 1 then deviceIdentityV1Ddl else deviceIdentityV2Ddl

/-- `DetectionEvent` in a version from 3 on. -/
def eventDdl (version : ℕ) : AgentTableDef :=
  if version ≤ 3 then detectionEventV3Ddl
  else if version ≤ 5 then detectionEventV4Ddl
  else detectionEventV6Ddl

/-- `SnapshotOutbox` in a version from 5 on. -/
def snapshotDdl (version : ℕ) : AgentTableDef :=
  if version ≤ 5 then snapshotOutboxV5Ddl else snapshotOutboxV6Ddl

/-- The rows of a database of a shipped version. -/
structure Content where
  version : ℕ
  identity : List Row
  cache : List Row
  events : List Row
  snapshots : List Row

/-- The database with these rows. -/
def Content.database (c : Content) : AgentDatabase where
  tables
    | .schemaVersion => some ⟨schemaVersionDdl, [[.integer c.version]]⟩
    | .deviceIdentity => some ⟨identityDdl c.version, c.identity⟩
    | .configCache => some ⟨configCacheDdl, c.cache⟩
    | .detectionEvent => if 3 ≤ c.version then some ⟨eventDdl c.version, c.events⟩ else none
    | .snapshotOutbox => if 5 ≤ c.version then some ⟨snapshotDdl c.version, c.snapshots⟩ else none
    | _ => none
  indexes
    | .detectionEventDeliveryStatusCreatedAtUtc =>
      if 3 ≤ c.version then some (.detectionEvent, [.deliveryStatus, .createdAtUtc]) else none
    | .snapshotOutboxUploadStatusCapturedAtUtc =>
      if 5 ≤ c.version then some (.snapshotOutbox, [.uploadStatus, .capturedAtUtc]) else none

/-- The rows satisfy the constraints of a shipped version, and tables it does not have are empty. -/
structure Content.Valid (conv : Conversions) (c : Content) : Prop where
  shipped : 1 ≤ c.version ∧ c.version ≤ 6
  noEvents : c.version < 3 → c.events = []
  noSnapshots : c.version < 5 → c.snapshots = []
  valid : c.database.Valid conv

/-- The values of the columns a migration adds. -/
def fresh : ColumnName → Value
  | .operationalState => quoted "Operational"
  | _ => .null

/-- The rows in a later version. -/
def Content.form (c : Content) (version : ℕ) : Content where
  version := version
  identity := c.identity.map ((identityDdl c.version).reshape (identityDdl version) fresh)
  cache := c.cache
  events := c.events.map ((eventDdl c.version).reshape (eventDdl version) fresh)
  snapshots := c.snapshots.map ((snapshotDdl c.version).reshape (snapshotDdl version) fresh)

/-! ## The rebuilt tables -/

/-- The check of a column that keeps its values, for a list of admitted values that only grew. -/
theorem isIn_reshape {conv : Conversions} {source target : AgentTableDef} {row : Row}
    {name : ColumnName} {values values' : List Value} (hrow : source.Admits conv row)
    (hcheck : .isIn name values ∈ source.checks) (hgrew : values ⊆ values')
    (hget : target.get (source.reshape target fresh row) name = source.get row name) :
    (Condition.isIn name values').eval (target.get (source.reshape target fresh row)) ≠
      some false := by
  have hold := hrow.2.2 _ hcheck
  simp only [Condition.eval] at hold ⊢
  rw [hget]
  split
  · simp
  · next hne =>
    simp only [hne, if_false, ne_eq, Option.some.injEq, decide_eq_false_iff_not, not_not] at hold ⊢
    exact hgrew hold

theorem deviceIdentity_rebuilds :
    Rebuilds deviceIdentityV1Ddl deviceIdentityV2Ddl fresh where
  covers := by decide
  compatible := by decide
  checks := by
    intro conv row hrow
    have hguard : deviceIdentityV2Ddl.get
        (deviceIdentityV1Ddl.reshape deviceIdentityV2Ddl fresh row) .singletonGuard =
          deviceIdentityV1Ddl.get row .singletonGuard := get_reshape rfl fresh row
    have hsecret : deviceIdentityV2Ddl.get
        (deviceIdentityV1Ddl.reshape deviceIdentityV2Ddl fresh row) .protectedSharedSecret =
          deviceIdentityV1Ddl.get row .protectedSharedSecret := get_reshape rfl fresh row
    have hstate : deviceIdentityV2Ddl.get
        (deviceIdentityV1Ddl.reshape deviceIdentityV2Ddl fresh row) .operationalState =
          quoted "Operational" := get_reshape rfl fresh row
    have hstored : deviceIdentityV1Ddl.get row .protectedSharedSecret ≠ .null :=
      (get_admitted hrow rfl).2 rfl
    intro check hcheck
    simp only [deviceIdentityV2Ddl, List.mem_cons, List.not_mem_nil, or_false] at hcheck
    rcases hcheck with rfl | rfl | rfl
    · exact isIn_reshape hrow (by simp [deviceIdentityV1Ddl, singletonGuardCheck])
        (List.Subset.refl _) hguard
    · simp [Condition.eval, hstate]
    · simp [Condition.eval, hstate, hsecret, hstored]
  key := rfl
  keyColumn := by decide

theorem detectionEventV4_rebuilds : Rebuilds detectionEventV3Ddl detectionEventV4Ddl fresh where
  covers := by decide
  compatible := by decide
  checks := by
    intro conv row hrow check hcheck
    rw [detectionEventV4Ddl, List.mem_singleton] at hcheck
    subst hcheck
    exact isIn_reshape hrow List.mem_cons_self (List.Subset.refl _) (get_reshape rfl fresh row)
  key := rfl
  keyColumn := by decide

theorem detectionEventV6_rebuilds : Rebuilds detectionEventV4Ddl detectionEventV6Ddl fresh where
  covers := by decide
  compatible := by decide
  checks := by
    intro conv row hrow check hcheck
    rw [detectionEventV6Ddl, List.mem_singleton] at hcheck
    subst hcheck
    exact isIn_reshape hrow List.mem_cons_self (by decide) (get_reshape rfl fresh row)
  key := rfl
  keyColumn := by decide

theorem snapshotOutboxV6_rebuilds : Rebuilds snapshotOutboxV5Ddl snapshotOutboxV6Ddl fresh where
  covers := by decide
  compatible := by decide
  checks := by
    intro conv row hrow check hcheck
    simp only [snapshotOutboxV6Ddl, snapshotOutboxDdl, List.mem_cons, List.not_mem_nil,
      or_false] at hcheck
    rcases hcheck with rfl | rfl
    · exact isIn_reshape hrow List.mem_cons_self (List.Subset.refl _) (get_reshape rfl fresh row)
    · exact isIn_reshape hrow (List.mem_cons_of_mem _ List.mem_cons_self) (by decide)
        (get_reshape rfl fresh row)
  key := rfl
  keyColumn := by decide

theorem detectionEventV3ToV6_rebuilds :
    Rebuilds detectionEventV3Ddl detectionEventV6Ddl fresh where
  covers := by decide
  compatible := by decide
  checks := by
    intro conv row hrow check hcheck
    rw [detectionEventV6Ddl, List.mem_singleton] at hcheck
    subst hcheck
    exact isIn_reshape hrow List.mem_cons_self (by decide) (get_reshape rfl fresh row)
  key := rfl
  keyColumn := by decide

/-- Every version of a table is a rebuilt form of every earlier one. -/
theorem identityDdl_rebuilds {k j : ℕ} (h : k ≤ j) (hk : 1 ≤ k) :
    Rebuilds (identityDdl k) (identityDdl j) fresh := by
  unfold identityDdl
  split
  · split
    · exact Rebuilds.refl (by decide) (by decide)
    · exact deviceIdentity_rebuilds
  · rw [if_neg (by omega)]
    exact Rebuilds.refl (by decide) (by decide)

theorem eventDdl_rebuilds {k j : ℕ} (h : k ≤ j) : Rebuilds (eventDdl k) (eventDdl j) fresh := by
  unfold eventDdl
  split
  · split
    · exact Rebuilds.refl (by decide) (by decide)
    · split
      · exact detectionEventV4_rebuilds
      · exact detectionEventV3ToV6_rebuilds
  · rw [if_neg (show ¬ j ≤ 3 by omega)]
    split
    · split
      · exact Rebuilds.refl (by decide) (by decide)
      · exact detectionEventV6_rebuilds
    · rw [if_neg (by omega)]
      exact Rebuilds.refl (by decide) (by decide)

theorem snapshotDdl_rebuilds {k j : ℕ} (h : k ≤ j) :
    Rebuilds (snapshotDdl k) (snapshotDdl j) fresh := by
  unfold snapshotDdl
  split
  · split
    · exact Rebuilds.refl (by decide) (by decide)
    · exact snapshotOutboxV6_rebuilds
  · rw [if_neg (by omega)]
    exact Rebuilds.refl (by decide) (by decide)

/-! ## The forms -/

section Forms

variable {conv : Conversions} {c : Content}

/-- The form of a form. -/
theorem form_form (h : c.Valid conv) {i j : ℕ} (hi : c.version ≤ i) :
    (c.form i).form j = c.form j := by
  have hidentity := identityDdl_rebuilds hi h.shipped.1
  have hevents := eventDdl_rebuilds hi
  have hsnapshots := snapshotDdl_rebuilds hi
  simp only [Content.form, List.map_map, Content.mk.injEq, true_and]
  exact ⟨List.map_congr_left fun row _ => reshape_reshape hidentity.covers row,
    List.map_congr_left fun row _ => reshape_reshape hevents.covers row,
    List.map_congr_left fun row _ => reshape_reshape hsnapshots.covers row⟩

theorem events_admits (h : c.Valid conv) :
    ∀ row ∈ c.events, (eventDdl c.version).Admits conv row := by
  by_cases hversion : 3 ≤ c.version
  · exact h.valid.admits .detectionEvent _ (if_pos hversion)
  · rw [h.noEvents (by omega)]
    exact List.forall_mem_nil _

theorem snapshots_admits (h : c.Valid conv) :
    ∀ row ∈ c.snapshots, (snapshotDdl c.version).Admits conv row := by
  by_cases hversion : 5 ≤ c.version
  · exact h.valid.admits .snapshotOutbox _ (if_pos hversion)
  · rw [h.noSnapshots (by omega)]
    exact List.forall_mem_nil _

theorem identityDdl_names (version : ℕ) :
    ((identityDdl version).columns.map ColumnDef.name).Nodup := by
  unfold identityDdl
  split <;> decide

theorem eventDdl_names (version : ℕ) :
    ((eventDdl version).columns.map ColumnDef.name).Nodup := by
  unfold eventDdl
  split
  · decide
  · split <;> decide

theorem snapshotDdl_names (version : ℕ) :
    ((snapshotDdl version).columns.map ColumnDef.name).Nodup := by
  unfold snapshotDdl
  split <;> decide

/-- The rows in their own version. -/
theorem form_self (h : c.Valid conv) : c.form c.version = c := by
  have hidentity := map_reshape_self fresh rfl (identityDdl_names c.version)
    (h.valid.admits .deviceIdentity _ rfl)
  have hevents := map_reshape_self fresh rfl (eventDdl_names c.version) (events_admits h)
  have hsnapshots := map_reshape_self fresh rfl (snapshotDdl_names c.version) (snapshots_admits h)
  rw [Content.form, hidentity, hevents, hsnapshots]

theorem schemaVersionDdl_admits (conv : Conversions) (version : ℤ) :
    schemaVersionDdl.Admits conv [.integer version] := by
  refine ⟨rfl, ?_, by simp [schemaVersionDdl]⟩
  intro p hp
  simp only [schemaVersionDdl, integerNotNull, List.zip_cons_cons, List.zip_nil_right,
    List.mem_singleton] at hp
  subst hp
  exact ⟨rfl, by simp⟩

theorem form_admits (h : c.Valid conv) {j : ℕ} (hj : c.version ≤ j) (name : TableName)
    (table : Table TableName ColumnName) (htable : (c.form j).database.tables name = some table) :
    ∀ row ∈ table.rows, table.definition.Admits conv row := by
  cases name with
  | schemaVersion =>
    cases htable
    intro row hrow
    rw [List.mem_singleton] at hrow
    subst hrow
    exact schemaVersionDdl_admits conv _
  | deviceIdentity =>
    cases htable
    exact (identityDdl_rebuilds hj h.shipped.1).admits (h.valid.admits .deviceIdentity _ rfl)
  | configCache =>
    cases htable
    exact h.valid.admits .configCache _ rfl
  | detectionEvent =>
    change (if 3 ≤ j then _ else none) = some table at htable
    split at htable
    · cases htable
      exact (eventDdl_rebuilds hj).admits (events_admits h)
    · cases htable
  | snapshotOutbox =>
    change (if 5 ≤ j then _ else none) = some table at htable
    split at htable
    · cases htable
      exact (snapshotDdl_rebuilds hj).admits (snapshots_admits h)
    · cases htable
  | deviceIdentityV2 => cases htable
  | detectionEventV4 => cases htable
  | detectionEventV6 => cases htable
  | snapshotOutboxV6 => cases htable

theorem form_keys (h : c.Valid conv) {j : ℕ} (hj : c.version ≤ j) (name : TableName)
    (table : Table TableName ColumnName) (htable : (c.form j).database.tables name = some table) :
    (table.definition.keys table.rows).Nodup := by
  cases name with
  | schemaVersion =>
    cases htable
    exact List.nodup_nil
  | deviceIdentity =>
    cases htable
    have hkeys := (identityDdl_rebuilds hj h.shipped.1).keys c.identity
    exact hkeys ▸ h.valid.keys .deviceIdentity _ rfl
  | configCache =>
    cases htable
    exact h.valid.keys .configCache _ rfl
  | detectionEvent =>
    change (if 3 ≤ j then _ else none) = some table at htable
    split at htable
    · cases htable
      have hkeys := (eventDdl_rebuilds hj).keys c.events
      refine hkeys ▸ ?_
      by_cases hversion : 3 ≤ c.version
      · exact h.valid.keys .detectionEvent _ (if_pos hversion)
      · rw [h.noEvents (by omega)]
        unfold TableDef.keys
        split <;> exact List.nodup_nil
    · cases htable
  | snapshotOutbox =>
    change (if 5 ≤ j then _ else none) = some table at htable
    split at htable
    · cases htable
      have hkeys := (snapshotDdl_rebuilds hj).keys c.snapshots
      refine hkeys ▸ ?_
      by_cases hversion : 5 ≤ c.version
      · exact h.valid.keys .snapshotOutbox _ (if_pos hversion)
      · rw [h.noSnapshots (by omega)]
        unfold TableDef.keys
        split <;> exact List.nodup_nil
    · cases htable
  | deviceIdentityV2 => cases htable
  | detectionEventV4 => cases htable
  | detectionEventV6 => cases htable
  | snapshotOutboxV6 => cases htable

/-- The one foreign key of the schema. -/
def snapshotEventKey : ForeignKey TableName ColumnName := ⟨.eventId, .detectionEvent, .eventId⟩

theorem snapshotDdl_foreignKeys (version : ℕ) :
    (snapshotDdl version).foreignKeys = [snapshotEventKey] := by
  unfold snapshotDdl
  split <;> rfl

theorem identityDdl_foreignKeys (version : ℕ) : (identityDdl version).foreignKeys = [] := by
  unfold identityDdl
  split <;> rfl

theorem eventDdl_foreignKeys (version : ℕ) : (eventDdl version).foreignKeys = [] := by
  unfold eventDdl
  split
  · rfl
  · split <;> rfl

theorem eventDdl_eventId (version : ℕ) :
    ((eventDdl version).column? .eventId).isSome = true := by
  unfold eventDdl
  split
  · rfl
  · split <;> rfl

theorem snapshotDdl_eventId (version : ℕ) :
    ((snapshotDdl version).column? .eventId).isSome = true := by
  unfold snapshotDdl
  split <;> rfl

/-- A snapshot row keeps its event, and the event its id. -/
theorem snapshot_satisfied (h : c.Valid conv) {j : ℕ} (hj : c.version ≤ j)
    (hversion : 5 ≤ c.version) {row : Row} (hrow : row ∈ c.snapshots) :
    snapshotEventKey.Satisfied (c.form j).database (snapshotDdl j)
      ((snapshotDdl c.version).reshape (snapshotDdl j) fresh row) := by
  have hget := (snapshotDdl_rebuilds hj).get (snapshotDdl_eventId c.version) row
  have hmem : snapshotEventKey ∈ (snapshotDdl c.version).foreignKeys := by
    rw [snapshotDdl_foreignKeys]
    exact List.mem_singleton_self _
  have hold := h.valid.foreignKeys .snapshotOutbox _ (if_pos hversion) row hrow _ hmem
  rcases hold with hnull | ⟨parent, hparent, parentRow, hparentRow, heq⟩
  · exact .inl (hget.trans hnull)
  · change (if 3 ≤ c.version then _ else none) = some parent at hparent
    rw [if_pos (by omega)] at hparent
    cases hparent
    refine .inr ⟨⟨eventDdl j, _⟩, if_pos (show 3 ≤ j by omega), _,
      List.mem_map_of_mem hparentRow, ?_⟩
    exact ((eventDdl_rebuilds hj).get (eventDdl_eventId c.version) parentRow).trans
      (heq.trans hget.symm)

theorem form_foreignKeys (h : c.Valid conv) {j : ℕ} (hj : c.version ≤ j) (name : TableName)
    (table : Table TableName ColumnName) (htable : (c.form j).database.tables name = some table) :
    ∀ row ∈ table.rows, ∀ key ∈ table.definition.foreignKeys,
      key.Satisfied (c.form j).database table.definition row := by
  intro row hrow key hkey
  cases name with
  | schemaVersion =>
    cases htable
    cases hkey
  | deviceIdentity =>
    cases htable
    change key ∈ (identityDdl j).foreignKeys at hkey
    rw [identityDdl_foreignKeys] at hkey
    cases hkey
  | configCache =>
    cases htable
    cases hkey
  | detectionEvent =>
    change (if 3 ≤ j then _ else none) = some table at htable
    split at htable
    · cases htable
      change key ∈ (eventDdl j).foreignKeys at hkey
      rw [eventDdl_foreignKeys] at hkey
      cases hkey
    · cases htable
  | snapshotOutbox =>
    change (if 5 ≤ j then _ else none) = some table at htable
    split at htable
    · cases htable
      change key ∈ (snapshotDdl j).foreignKeys at hkey
      rw [snapshotDdl_foreignKeys, List.mem_singleton] at hkey
      subst hkey
      obtain ⟨old, hold, rfl⟩ := List.mem_map.mp hrow
      by_cases hversion : 5 ≤ c.version
      · exact snapshot_satisfied h hj hversion hold
      · rw [h.noSnapshots (by omega)] at hold
        cases hold
    · cases htable
  | deviceIdentityV2 => cases htable
  | detectionEventV4 => cases htable
  | detectionEventV6 => cases htable
  | snapshotOutboxV6 => cases htable

/-- Every later form satisfies every constraint of its version. -/
theorem form_valid (h : c.Valid conv) {j : ℕ} (hj : c.version ≤ j) (hj6 : j ≤ 6) :
    (c.form j).Valid conv where
  shipped := ⟨h.shipped.1.trans hj, hj6⟩
  noEvents := by
    intro hlt
    have hlt' : j < 3 := hlt
    rw [Content.form, h.noEvents (by omega)]
    rfl
  noSnapshots := by
    intro hlt
    have hlt' : j < 5 := hlt
    rw [Content.form, h.noSnapshots (by omega)]
    rfl
  valid := ⟨form_admits h hj, form_keys h hj, form_foreignKeys h hj⟩

end Forms

/-! ## One migration -/

section Executes

variable {conv : Conversions} {c : Content}

/-- The version recorded in `SchemaVersion` is replaced. -/
theorem execute_updateVersion {enforce : Bool} {db : AgentDatabase} {a : ℤ}
    (h : db.tables .schemaVersion = some ⟨schemaVersionDdl, [[.integer a]]⟩) (b : ℤ) :
    execute conv enforce db (.updateAll .schemaVersion .version (.integer b)) =
      some (db.setTable .schemaVersion (some ⟨schemaVersionDdl, [[.integer b]]⟩)) := by
  have hadmits := schemaVersionDdl_admits conv b
  have hrows : ([[.integer a]] : List Row).map (fun row => (schemaVersionDdl.columns.zip row).map
      fun p => if p.1.name = .version then p.1.affinity.coerce conv (.integer b) else p.2) =
        [[.integer b]] := rfl
  simp only [execute, h, hrows]
  exact if_pos ⟨by simpa using hadmits, List.nodup_nil⟩

theorem migrationV1ToV2_executes (h : c.Valid conv) (hversion : c.version = 1) :
    executeAll conv true c.database migrationV1ToV2Statements = some (c.form 2).database := by
  obtain ⟨version, identity, cache, events, snapshots⟩ := c
  cases hversion
  refine executeAll_cons rfl ?_
  refine executeAll_cons (execute_insertSelect rfl rfl rfl deviceIdentity_rebuilds rfl
    (h.valid.admits .deviceIdentity _ rfl) (h.valid.keys .deviceIdentity _ rfl) (.inr rfl)) ?_
  refine executeAll_cons (execute_dropTable rfl (.inr ?_)) ?_
  · intro other child hchild key hkey
    cases other <;> cases hchild <;> cases hkey
  refine executeAll_cons rfl ?_
  refine executeAll_cons (execute_updateVersion rfl 2) ?_
  refine congrArg some (congrArg₂ Sqlite.Database.mk (funext fun name => ?_) (funext fun index => ?_))
  · cases name <;> rfl
  · cases index <;> rfl

theorem migrationV2ToV3_executes (h : c.Valid conv) (hversion : c.version = 2) :
    executeAll conv true c.database migrationV2ToV3Statements = some (c.form 3).database := by
  have hevents := h.noEvents (by omega)
  obtain ⟨version, identity, cache, events, snapshots⟩ := c
  cases hversion
  cases hevents
  have hidentity : identity.map (deviceIdentityV2Ddl.reshape deviceIdentityV2Ddl fresh) = identity :=
    map_reshape_self fresh rfl (by decide) (h.valid.admits .deviceIdentity _ rfl)
  refine executeAll_cons rfl ?_
  refine executeAll_cons rfl ?_
  refine executeAll_cons (execute_updateVersion rfl 3) ?_
  refine congrArg some (congrArg₂ Sqlite.Database.mk (funext fun name => ?_) (funext fun index => ?_))
  · cases name with
    | deviceIdentity => exact congrArg (fun rows => some (Table.mk deviceIdentityV2Ddl rows)) hidentity.symm
    | _ => rfl
  · cases index <;> rfl

theorem migrationV3ToV4_executes (h : c.Valid conv) (hversion : c.version = 3) :
    executeAll conv true c.database migrationV3ToV4Statements = some (c.form 4).database := by
  obtain ⟨version, identity, cache, events, snapshots⟩ := c
  cases hversion
  have hidentity : identity.map (deviceIdentityV2Ddl.reshape deviceIdentityV2Ddl fresh) = identity :=
    map_reshape_self fresh rfl (by decide) (h.valid.admits .deviceIdentity _ rfl)
  refine executeAll_cons rfl ?_
  refine executeAll_cons (execute_insertSelect rfl rfl rfl detectionEventV4_rebuilds rfl
    (h.valid.admits .detectionEvent _ rfl) (h.valid.keys .detectionEvent _ rfl) (.inr rfl)) ?_
  refine executeAll_cons (execute_dropTable rfl (.inr ?_)) ?_
  · intro other child hchild key hkey
    cases other <;> cases hchild <;> cases hkey
  refine executeAll_cons rfl ?_
  refine executeAll_cons rfl ?_
  refine executeAll_cons (execute_updateVersion rfl 4) ?_
  refine congrArg some (congrArg₂ Sqlite.Database.mk (funext fun name => ?_) (funext fun index => ?_))
  · cases name with
    | deviceIdentity => exact congrArg (fun rows => some (Table.mk deviceIdentityV2Ddl rows)) hidentity.symm
    | _ => rfl
  · cases index <;> rfl

theorem migrationV4ToV5_executes (h : c.Valid conv) (hversion : c.version = 4) :
    executeAll conv true c.database migrationV4ToV5Statements = some (c.form 5).database := by
  have hsnapshots := h.noSnapshots (by omega)
  obtain ⟨version, identity, cache, events, snapshots⟩ := c
  cases hversion
  cases hsnapshots
  have hidentity : identity.map (deviceIdentityV2Ddl.reshape deviceIdentityV2Ddl fresh) = identity :=
    map_reshape_self fresh rfl (by decide) (h.valid.admits .deviceIdentity _ rfl)
  have hevents : events.map (detectionEventV4Ddl.reshape detectionEventV4Ddl fresh) = events :=
    map_reshape_self fresh rfl (by decide) (h.valid.admits .detectionEvent _ rfl)
  refine executeAll_cons rfl ?_
  refine executeAll_cons rfl ?_
  refine executeAll_cons (execute_updateVersion rfl 5) ?_
  refine congrArg some (congrArg₂ Sqlite.Database.mk (funext fun name => ?_) (funext fun index => ?_))
  · cases name with
    | deviceIdentity => exact congrArg (fun rows => some (Table.mk deviceIdentityV2Ddl rows)) hidentity.symm
    | detectionEvent => exact congrArg (fun rows => some (Table.mk detectionEventV4Ddl rows)) hevents.symm
    | _ => rfl
  · cases index <;> rfl

/-- The last migration runs with foreign keys switched off: `SnapshotOutbox` refers to the table that
is dropped. -/
theorem migrationV5ToV6_executes (h : c.Valid conv) (hversion : c.version = 5) :
    executeAll conv false c.database migrationV5ToV6Statements = some (c.form 6).database := by
  obtain ⟨version, identity, cache, events, snapshots⟩ := c
  cases hversion
  have hidentity : identity.map (deviceIdentityV2Ddl.reshape deviceIdentityV2Ddl fresh) = identity :=
    map_reshape_self fresh rfl (by decide) (h.valid.admits .deviceIdentity _ rfl)
  refine executeAll_cons rfl ?_
  refine executeAll_cons (execute_insertSelect rfl rfl rfl detectionEventV6_rebuilds rfl
    (h.valid.admits .detectionEvent _ rfl) (h.valid.keys .detectionEvent _ rfl) (.inl rfl)) ?_
  refine executeAll_cons (execute_dropTable rfl (.inl rfl)) ?_
  refine executeAll_cons rfl ?_
  refine executeAll_cons rfl ?_
  refine executeAll_cons rfl ?_
  refine executeAll_cons (execute_insertSelect rfl rfl rfl snapshotOutboxV6_rebuilds rfl
    (h.valid.admits .snapshotOutbox _ rfl) (h.valid.keys .snapshotOutbox _ rfl) (.inl rfl)) ?_
  refine executeAll_cons (execute_dropTable rfl (.inl rfl)) ?_
  refine executeAll_cons rfl ?_
  refine executeAll_cons rfl ?_
  refine executeAll_cons (execute_updateVersion rfl 6) ?_
  refine congrArg some (congrArg₂ Sqlite.Database.mk (funext fun name => ?_) (funext fun index => ?_))
  · cases name with
    | deviceIdentity => exact congrArg (fun rows => some (Table.mk deviceIdentityV2Ddl rows)) hidentity.symm
    | _ => rfl
  · cases index <;> rfl

end Executes

/-! ## Runs of `initialize_schema` -/

section Runs

variable {conv : Conversions} {c : Content} {faults : Bool}

/-- A fresh connection to a database. -/
def opened (db : AgentDatabase) : Connection TableName ColumnName IndexName := ⟨db, none, true⟩

/-- What is committed is one of the forms of the original rows. -/
def HoldsForm (c : Content) (w : Connection TableName ColumnName IndexName) : Prop :=
  ∃ j, c.version ≤ j ∧ j ≤ 6 ∧ w.committed = (c.form j).database

/-- Safety of a part of the initializer: it always leaves a form, and raises only after a fault. -/
abbrev SchemaSafe (conv : Conversions) (faults : Bool) (c : Content) {α : Type}
    (post : α → Connection TableName ColumnName IndexName → Prop) (p : SchemaProgram α)
    (w : Connection TableName ColumnName IndexName) : Prop :=
  Safe (responds conv faults) (HoldsForm c) (fun _ _ => True) post (fun _ _ => faults = true) p w

theorem readSchemaVersion_safe {j : ℕ} (hj : c.version ≤ j) (hj6 : j ≤ 6) (hpos : 1 ≤ j) :
    SchemaSafe conv faults c
      (fun version w => version = some (j : ℤ) ∧ w = opened (c.form j).database)
      readSchemaVersion (opened (c.form j).database) := by
  have hholds : HoldsForm c (opened (c.form j).database) := ⟨j, hj, hj6, rfl⟩
  refine ⟨hholds, trivial, ?_⟩
  rintro answer w (hreply | ⟨hfaults, rfl, hw⟩)
  · cases hreply
    refine ⟨hholds, trivial, ?_⟩
    rintro answer w (hreply | ⟨hfaults, rfl, hw⟩)
    · cases hreply
      have hnot : ¬ ((j : ℤ) < 1) := by omega
      show SchemaSafe conv faults c _ (if (j : ℤ) < 1 then _ else _) _
      rw [if_neg hnot]
      exact ⟨hholds, rfl, rfl⟩
    · rcases hw with rfl | rfl <;> exact ⟨hholds, hfaults⟩
  · rcases hw with rfl | rfl <;> exact ⟨hholds, hfaults⟩

/-- A migration within one transaction. -/
theorem transaction_migrates {j : ℕ} (hj : c.version ≤ j) (hj6 : j < 6) {enforce : Bool}
    {statements : List AgentStatement}
    (hrun : executeAll conv enforce (c.form j).database statements =
      some (c.form (j + 1)).database) :
    Safe (responds conv faults) (HoldsForm c) (fun _ _ => True)
      (fun _ w => w = ⟨(c.form (j + 1)).database, none, enforce⟩)
      (fun _ w => faults = true ∧ w.committed = (c.form j).database)
      (transaction .sqlite statements : SchemaProgram Unit) ⟨(c.form j).database, none, enforce⟩ :=
  transaction_safe hrun (fun _ hw => ⟨j, hj, hj6.le, hw⟩) ⟨j + 1, hj.trans (Nat.le_succ j), hj6, rfl⟩

/-- The last migration, between the two pragmas. -/
theorem migrateV5ToV6_safe (h : c.Valid conv) (hversion : c.version ≤ 5) :
    SchemaSafe conv faults c (fun _ w => w = opened (c.form 6).database) migrateV5ToV6
      (opened (c.form 5).database) := by
  have hholds : ∀ w : Connection TableName ColumnName IndexName,
      w.committed = (c.form 5).database → HoldsForm c w := fun _ hw => ⟨5, hversion, by omega, hw⟩
  have hholds' : ∀ w : Connection TableName ColumnName IndexName,
      w.committed = (c.form 6).database → HoldsForm c w :=
    fun _ hw => ⟨6, by omega, le_rfl, hw⟩
  have hrun : executeAll conv false (c.form 5).database migrationV5ToV6Statements =
      some (c.form 6).database := by
    rw [migrationV5ToV6_executes (form_valid h hversion (by omega)) rfl, form_form h hversion]
  have hoff : Operation.run conv (opened (c.form 5).database) (.setForeignKeys false) =
      some ⟨(c.form 5).database, none, false⟩ := rfl
  have hon : Operation.run conv ⟨(c.form 6).database, none, false⟩ (.setForeignKeys true) =
      some (opened (c.form 6).database) := rfl
  -- the failures of the parts say more than that a fault occurred
  have hfault : ∀ (e : SchemaError) (w : Connection TableName ColumnName IndexName),
      HoldsForm c w → faults = true ∧ w.committed = (c.form 5).database → faults = true :=
    fun _ _ _ hw => hw.1
  apply Safe.bind ((perform_safe hoff hholds (hholds _ rfl)).mono (fun _ _ _ hw => hw) hfault)
  rintro _ _ _ rfl
  have hbody : Safe (responds conv faults) (HoldsForm c) (fun _ _ => True)
      (fun _ w => w = ⟨(c.form 6).database, none, false⟩)
      (fun _ w => faults = true ∧ w.committed = (c.form 5).database)
      (transaction .sqlite migrationV5ToV6Statements : SchemaProgram Unit)
      ⟨(c.form 5).database, none, false⟩ := transaction_migrates hversion (by omega) hrun
  have hhandled : SchemaSafe conv faults c
      (fun _ w => w = ⟨(c.form 6).database, none, false⟩)
      ((transaction .sqlite migrationV5ToV6Statements : SchemaProgram Unit).handle fun e =>
        (perform .sqlite (.setForeignKeys true)).bind fun _ => .raise e)
      ⟨(c.form 5).database, none, false⟩ := by
    apply Safe.handle hbody
    rintro e w hw ⟨hfaults, hcommitted⟩
    apply Safe.bind ((perform_keeps (fun _ => setForeignKeys_keeps)
      (fun after hafter => hholds after (hafter.trans hcommitted)) hfaults).mono
        (fun _ _ _ hafter => hafter) fun _ _ _ hafter => hafter.1)
    intro _ after hafter _
    exact ⟨hafter, hfaults⟩
  apply Safe.bind hhandled
  rintro _ _ _ rfl
  apply Safe.bind ((perform_safe hon hholds' (hholds' _ rfl)).mono (fun _ _ _ hw => hw)
    fun _ _ _ hw => hw.1)
  rintro _ w hw rfl
  exact ⟨hw, rfl⟩

/-- A migration of the first four steps, from the version it is for. -/
theorem migrate_safe (h : c.Valid conv) {j : ℕ} (hj : c.version ≤ j) (hj6 : j < 6)
    {statements : List AgentStatement}
    (hrun : ∀ d : Content, d.Valid conv → d.version = j →
      executeAll conv true d.database statements = some (d.form (j + 1)).database) :
    SchemaSafe conv faults c (fun _ w => w = opened (c.form (j + 1)).database)
      (transaction .sqlite statements) (opened (c.form j).database) := by
  have hform := hrun _ (form_valid h hj hj6.le) rfl
  rw [form_form h hj] at hform
  exact (transaction_migrates hj hj6 hform).mono (fun _ _ _ hw => hw) fun _ _ _ hw => hw.1

/-- What the version variable says between two steps: the form the file is in. -/
def AtLeast (c : Content) (n : ℕ) (version : ℤ)
    (w : Connection TableName ColumnName IndexName) : Prop :=
  ∃ j : ℕ, version = j ∧ c.version ≤ j ∧ n ≤ j ∧ j ≤ 6 ∧ w = opened (c.form j).database

/-- One `if version == n` of the initializer. -/
theorem migrateFrom_safe {n : ℕ} (hn : n < 6) {migrate : SchemaProgram Unit}
    (hmigrate : c.version ≤ n → SchemaSafe conv faults c
      (fun _ w => w = opened (c.form (n + 1)).database) migrate (opened (c.form n).database))
    {version : ℤ} {w : Connection TableName ColumnName IndexName} (hw : AtLeast c n version w) :
    SchemaSafe conv faults c (AtLeast c (n + 1)) (migrateFrom n migrate version) w := by
  obtain ⟨j, rfl, hj, hnj, hj6, rfl⟩ := hw
  unfold migrateFrom
  split
  · next heq =>
    have hjn : j = n := by omega
    subst hjn
    apply Safe.bind (hmigrate hj)
    rintro _ w hw rfl
    exact ⟨hw, j + 1, by push_cast; rfl, by omega, le_rfl, hn, rfl⟩
  · next hne =>
    exact ⟨⟨j, hj, hj6, rfl⟩, j, rfl, hj, by omega, hj6, rfl⟩

/-- `initialize_schema` over any form: at every moment the file holds a form, it raises only after a
fault, and it ends with the form of version 6. -/
theorem initializeSchema_safe (h : c.Valid conv) {j : ℕ} (hj : c.version ≤ j) (hj6 : j ≤ 6) :
    SchemaSafe conv faults c (fun version w => version = 6 ∧ w = opened (c.form 6).database)
      initializeSchema (opened (c.form j).database) := by
  have hpos : 1 ≤ j := h.shipped.1.trans hj
  apply Safe.bind (readSchemaVersion_safe hj hj6 hpos)
  rintro _ w hw ⟨rfl, rfl⟩
  have hstart : AtLeast c 1 j (opened (c.form j).database) := ⟨j, rfl, hj, hpos, hj6, rfl⟩
  apply Safe.bind (migrateFrom_safe (by omega)
    (fun hc => migrate_safe h hc (by omega) fun d hd => migrationV1ToV2_executes hd) hstart)
  intro version w _ hversion
  apply Safe.bind (migrateFrom_safe (by omega)
    (fun hc => migrate_safe h hc (by omega) fun d hd => migrationV2ToV3_executes hd) hversion)
  intro version w _ hversion
  apply Safe.bind (migrateFrom_safe (by omega)
    (fun hc => migrate_safe h hc (by omega) fun d hd => migrationV3ToV4_executes hd) hversion)
  intro version w _ hversion
  apply Safe.bind (migrateFrom_safe (by omega)
    (fun hc => migrate_safe h hc (by omega) fun d hd => migrationV4ToV5_executes hd) hversion)
  intro version w _ hversion
  apply Safe.bind (migrateFrom_safe (by omega) (fun hc => migrateV5ToV6_safe h hc) hversion)
  rintro version w hw ⟨i, rfl, hi, hi6, hi6', rfl⟩
  have heq : i = 6 := le_antisymm hi6' hi6
  subst heq
  exact ⟨hw, rfl, rfl⟩

/-- The Agent's starts over a database file with these rows: every start opens a connection and runs
the initializer, any call may fail, and it may stop anywhere. -/
def starts (conv : Conversions) (c : Content) :
    Host (connection TableName ColumnName IndexName) SchemaError ℤ
      (Connection TableName ColumnName IndexName) where
  init w := w = opened c.database
  boot w p w' := p = initializeSchema ∧ w' = opened w.committed
  resume _ _ := False
  responds := responds conv true
  -- closing the connection rolls an open transaction back
  abandon w := opened w.committed

/-- The rows of one table in another: every old column keeps its value, every new one is fresh. -/
def KeepsRows (source target : AgentTableDef) (rows rows' : List Row) : Prop :=
  List.Forall₂ (fun row row' =>
    (∀ name, (source.column? name).isSome = true → target.get row' name = source.get row name) ∧
    ∀ name, source.column? name = none → (target.column? name).isSome = true →
      target.get row' name = fresh name) rows rows'

theorem keepsRows {source target : AgentTableDef} (h : Rebuilds source target fresh)
    (rows : List Row) : KeepsRows source target rows (rows.map (source.reshape target fresh)) := by
  refine List.forall₂_map_right_iff.mpr (List.forall₂_same.mpr ?_)
  intro row _
  exact ⟨fun name hname => h.get hname row, fun name hsource htarget =>
    get_reshape_fresh hsource htarget row⟩

/-- In every run of starts over a valid database of a shipped version, whatever fails and wherever it
is cut, the file holds the form of the original rows in a version from their own on, with that
version recorded; and a start in which nothing fails brings it to version 6, where every constraint
holds and every row has kept its values. -/
theorem migration_preserves_rows (h : c.Valid conv)
    {s : Host.State (connection TableName ColumnName IndexName) SchemaError ℤ
      (Connection TableName ColumnName IndexName)} (hs : (starts conv c).Reachable s) :
    (∃ j, c.version ≤ j ∧ j ≤ 6 ∧ s.world.committed = (c.form j).database) ∧
      ∃ w, initializeSchema.run (reply conv) (opened s.world.committed) = (.ok 6, w) ∧
        w.committed = (c.form 6).database ∧ (c.form 6).database.Valid conv ∧
        KeepsRows (identityDdl c.version) (identityDdl 6) c.identity (c.form 6).identity ∧
        KeepsRows (eventDdl c.version) (eventDdl 6) c.events (c.form 6).events ∧
        KeepsRows (snapshotDdl c.version) (snapshotDdl 6) c.snapshots (c.form 6).snapshots ∧
        (c.form 6).cache = c.cache := by
  have hrun : HoldsForm c s.world ∧ ∀ p ∈ s.process, Safe (starts conv c).responds (HoldsForm c)
      (fun _ _ => True) (fun _ _ => True) (fun _ _ => True) p s.world := by
    apply hs.safe
    · rintro w rfl
      refine ⟨c.version, le_rfl, h.shipped.2, ?_⟩
      rw [form_self h]
      rfl
    · rintro w p w' ⟨j, hj, hj6, hcommitted⟩ ⟨rfl, rfl⟩
      rw [hcommitted]
      exact (initializeSchema_safe h hj hj6).mono (fun _ _ _ _ => trivial) fun _ _ _ _ => trivial
    · intro w r p _ _ hresume
      exact hresume.elim
    · exact fun w hw => hw
  refine ⟨hrun.1, ?_⟩
  obtain ⟨j, hj, hj6, hcommitted⟩ := hrun.1
  have hsafe : SchemaSafe conv false c (fun version w => version = 6 ∧ w = opened (c.form 6).database)
      initializeSchema (opened (c.form j).database) := initializeSchema_safe h hj hj6
  rw [← hcommitted] at hsafe
  obtain ⟨version, w, hrun, _, rfl, rfl⟩ := Safe.run (responds_reply conv false)
    (hsafe.mono (fun _ _ _ hw => hw) fun _ _ _ hfaults => Bool.noConfusion hfaults)
  have hversion := h.shipped.2
  exact ⟨_, hrun, rfl, (form_valid h hversion le_rfl).valid,
    keepsRows (identityDdl_rebuilds hversion h.shipped.1) c.identity,
    keepsRows (eventDdl_rebuilds hversion) c.events,
    keepsRows (snapshotDdl_rebuilds hversion) c.snapshots, rfl⟩

/-- Conversions of numbers and texts that are written in the other's place. -/
def plainConversions : Conversions where
  integerText i := toString i
  realText _ := ""
  number _ := none
  integral r := match r with
    | .finite q => if q.den = 1 then some q.num else none
    | _ => none
  toReal i := .finite i

/-- A database of version 5: an identity, a delivered event and its snapshot. -/
def versionFive : Content where
  version := 5
  identity := [[.integer 1, .text "d1", .text "s1", .text "t0", .text "t0", .text "Operational"]]
  cache := [[.integer 1, .text "\x7b\x7d", .text "t0"]]
  events :=
    [[.text "e1", .text "d1", .text "c1", .integer 0, .integer 1, .text "knife", .real (.finite 1),
      .integer 7, .text "t1", .integer 640, .integer 480, .real (.finite 1), .real (.finite 2),
      .real (.finite 3), .real (.finite 4), .text "delivered", .text "t2", .text "t1"]]
  snapshots :=
    [[.text "e1", .text "e1.jpg", .text "captured", .text "pending", .null, .text "image/jpeg",
      .integer 1024, .text "ab", .text "t1", .null, .integer 0, .null, .null]]

theorem versionFive_valid : versionFive.Valid plainConversions where
  shipped := by decide
  noEvents := by decide
  noSnapshots := by decide
  valid :=
    { admits := by
        intro name table htable
        cases name <;> cases htable <;> decide
      keys := by
        intro name table htable
        cases name <;> cases htable <;> decide
      foreignKeys := by
        intro name table htable
        cases name <;> cases htable <;> decide }

theorem migration_preserves_rows_versionFive :
    ∃ w, initializeSchema.run (reply plainConversions) (opened versionFive.database) = (.ok 6, w) ∧
      w.committed = (versionFive.form 6).database ∧
      KeepsRows detectionEventV4Ddl detectionEventV6Ddl versionFive.events
        (versionFive.form 6).events := by
  obtain ⟨_, w, hrun, hcommitted, _, _, hevents, _⟩ :=
    migration_preserves_rows versionFive_valid (.init rfl)
  exact ⟨w, hrun, hcommitted, hevents⟩

end Runs

end WeaponDetection.Agent.Persistence
