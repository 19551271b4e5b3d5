import WeaponDetection.Foundations.SqliteTables
import WeaponDetection.Foundations.EffectProgram

/-!
# The statements of a schema migration

`execute` runs one statement over a database; a statement that meets a violated constraint or a
missing table fails and changes nothing.  `execute_insertSelect` is the rule for the copy at the heart
of a table rebuild: rows that the new table admits, with keys that do not meet, all arrive in it.
-/

namespace WeaponDetection.Foundations.Sqlite

section Statements

variable {Name Column Index : Type} [DecidableEq Column]

/-- The statements. -/
inductive Statement (Name Column Index : Type) where
  | createTable (ifNotExists : Bool) (name : Name) (definition : TableDef Name Column)
  /-- `INSERT INTO target (columns) SELECT expressions FROM source`. -/
  | insertSelect (target : Name) (columns : List Column) (expressions : List (Expression Column))
      (source : Name)
  | insertValues (target : Name) (columns : List Column) (values : List Value)
  | dropTable (name : Name)
  | renameTable (name newName : Name)
  /-- `CREATE INDEX IF NOT EXISTS index ON table (columns)`. -/
  | createIndex (index : Index) (table : Name) (columns : List Column)
  /-- `UPDATE table SET column = value`. -/
  | updateAll (table : Name) (column : Column) (value : Value)

/-- Append one row to a table of the database, if the constraints allow it. -/
def insertRow (conv : Conversions) (enforce : Bool) (db : Database Name Column Index)
    (table : Table Name Column) (row : Row) : Option (Table Name Column) :=
  if table.definition.Admits conv row ∧ (table.definition.keys (table.rows ++ [row])).Nodup ∧
      (enforce = true → ∀ key ∈ table.definition.foreignKeys,
        key.Satisfied db table.definition row) then
    some { table with rows := table.rows ++ [row] }
  else none

/-- Append rows one after the other. -/
def insertRows (conv : Conversions) (enforce : Bool) (db : Database Name Column Index)
    (table : Table Name Column) : List Row → Option (Table Name Column)
  | [] => some table
  | row :: rest => (insertRow conv enforce db table row).bind fun table =>
    insertRows conv enforce db table rest

/-- Rows that the table admits, with keys that do not meet, are all appended where foreign keys are
not enforced or the table has none. -/
theorem insertRows_eq_ok {conv : Conversions} {enforce : Bool} {db : Database Name Column Index}
    {table : Table Name Column} {rows : List Row}
    (hadmits : ∀ row ∈ rows, table.definition.Admits conv row)
    (hkeys : (table.definition.keys (table.rows ++ rows)).Nodup)
    (hforeign : enforce = false ∨ table.definition.foreignKeys = []) :
    insertRows conv enforce db table rows =
      some { table with rows := table.rows ++ rows } := by
  induction rows generalizing table with
  | nil => simp [insertRows]
  | cons row rest ih =>
    have hsplit : table.rows ++ row :: rest = (table.rows ++ [row]) ++ rest := by simp
    rw [hsplit] at hkeys ⊢
    have hrow : insertRow conv enforce db table row =
        some { table with rows := table.rows ++ [row] } := by
      refine if_pos ⟨hadmits row List.mem_cons_self, ?_, ?_⟩
      · refine hkeys.sublist ?_
        unfold TableDef.keys
        split
        · exact List.Sublist.refl _
        · exact ((List.sublist_append_left _ rest).map _).filter _
      · intro henforce key hkey
        rcases hforeign with hoff | hnone
        · rw [henforce] at hoff
          cases hoff
        · rw [hnone] at hkey
          cases hkey
    rw [insertRows, hrow, Option.bind_some]
    exact ih (fun r hr => hadmits r (List.mem_cons_of_mem _ hr)) hkeys hforeign

variable [DecidableEq Name]

/-- `db` with one table replaced. -/
def Database.setTable (db : Database Name Column Index) (name : Name)
    (table : Option (Table Name Column)) : Database Name Column Index :=
  { db with tables := Function.update db.tables name table }

/-- The foreign keys that name a table follow it to its new name. -/
def TableDef.retarget (name newName : Name) (definition : TableDef Name Column) :
    TableDef Name Column :=
  { definition with
    foreignKeys := definition.foreignKeys.map fun key =>
      if key.parent = name then { key with parent := newName } else key }

/-- No row of another table refers to a row of this one. -/
def Database.Unreferenced [Fintype Name] (db : Database Name Column Index) (name : Name)
    (table : Table Name Column) : Prop :=
  ∀ other, other ≠ name → ∀ child ∈ db.tables other, ∀ key ∈ child.definition.foreignKeys,
    key.parent = name → ∀ row ∈ child.rows, child.definition.get row key.column = .null ∨
      ∀ parentRow ∈ table.rows, table.definition.get parentRow key.parentColumn ≠
        child.definition.get row key.column

instance [Fintype Name] (db : Database Name Column Index) (name : Name)
    (table : Table Name Column) : Decidable (db.Unreferenced name table) := by
  unfold Database.Unreferenced
  infer_instance

variable [DecidableEq Index] [Fintype Name]

/-- Run one statement; `none` is an error that changes nothing.  `enforce` is
`PRAGMA foreign_keys`. -/
def execute (conv : Conversions) (enforce : Bool) (db : Database Name Column Index) :
    Statement Name Column Index → Option (Database Name Column Index)
  | .createTable ifNotExists name definition =>
    match db.tables name with
    | some _ => if ifNotExists then some db else none
    | none => some (db.setTable name (some ⟨definition, []⟩))
  | .insertSelect target columns expressions source =>
    match db.tables target, db.tables source with
    | some table, some origin =>
      let rows := origin.rows.map fun row => table.definition.newRow conv columns
        (expressions.map fun expression => expression.eval origin.definition row)
      (insertRows conv enforce db table rows).map fun table => db.setTable target (some table)
    | _, _ => none
  | .insertValues target columns values =>
    match db.tables target with
    | some table => (insertRow conv enforce db table
        (table.definition.newRow conv columns values)).map fun table =>
          db.setTable target (some table)
    | none => none
  | .dropTable name =>
    match db.tables name with
    | some table =>
      -- with foreign keys enforced, dropping deletes every row first
      if enforce = true ∧ ¬ db.Unreferenced name table then none
      else some
        { tables := Function.update db.tables name none
          indexes := fun index => (db.indexes index).filter fun p => p.1 ≠ name }
    | none => none
  | .renameTable name newName =>
    match db.tables name, db.tables newName with
    | some table, none => some
        { tables := fun other =>
            (Function.update (Function.update db.tables name none) newName (some table) other).map
              fun t => { t with definition := t.definition.retarget name newName }
          indexes := fun index => (db.indexes index).map fun p =>
            (if p.1 = name then newName else p.1, p.2) }
    | _, _ => none
  | .createIndex index table columns =>
    match db.indexes index, db.tables table with
    | some _, _ => some db
    | none, some _ => some { db with
        indexes := Function.update db.indexes index (some (table, columns)) }
    | none, none => none
  | .updateAll name column value =>
    match db.tables name with
    | some table =>
      let rows := table.rows.map fun row => (table.definition.columns.zip row).map fun p =>
        if p.1.name = column then p.1.affinity.coerce conv value else p.2
      if (∀ row ∈ rows, table.definition.Admits conv row) ∧
          (table.definition.keys rows).Nodup then
        some (db.setTable name (some { table with rows := rows }))
      else none
    | none => none

/-- Run statements one after the other. -/
def executeAll (conv : Conversions) (enforce : Bool) (db : Database Name Column Index) :
    List (Statement Name Column Index) → Option (Database Name Column Index)
  | [] => some db
  | statement :: rest => (execute conv enforce db statement).bind fun db =>
    executeAll conv enforce db rest

/-! ## Rules -/

variable {conv : Conversions} {enforce : Bool} {db mid db' : Database Name Column Index}

theorem executeAll_cons {statement : Statement Name Column Index}
    {rest : List (Statement Name Column Index)} (h : execute conv enforce db statement = some mid)
    (hrest : executeAll conv enforce mid rest = some db') :
    executeAll conv enforce db (statement :: rest) = some db' := by
  rw [executeAll, h, Option.bind_some, hrest]

/-- Copying all rows by name into the empty replacement of their table. -/
theorem execute_insertSelect {target source : Name} {table origin : Table Name Column}
    {fresh : Column → Value} {columns : List Column} {expressions : List (Expression Column)}
    (htarget : db.tables target = some table) (hsource : db.tables source = some origin)
    (hempty : table.rows = [])
    (hrebuilds : Rebuilds origin.definition table.definition fresh)
    (hcopies : CopiesByName origin.definition table.definition fresh columns expressions = true)
    (hadmits : ∀ row ∈ origin.rows, origin.definition.Admits conv row)
    (hkeys : (origin.definition.keys origin.rows).Nodup)
    (hforeign : enforce = false ∨ table.definition.foreignKeys = []) :
    execute conv enforce db (.insertSelect target columns expressions source) =
      some (db.setTable target (some { table with
        rows := origin.rows.map (origin.definition.reshape table.definition fresh) })) := by
  have hrows : (origin.rows.map fun row => table.definition.newRow conv columns
      (expressions.map fun expression => expression.eval origin.definition row)) =
        origin.rows.map (origin.definition.reshape table.definition fresh) :=
    List.map_congr_left fun row hrow =>
      newRow_eq_reshape hcopies hrebuilds.compatible (hadmits row hrow)
  have hinsert : insertRows conv enforce db table
      (origin.rows.map (origin.definition.reshape table.definition fresh)) = some { table with
        rows := table.rows ++ origin.rows.map (origin.definition.reshape table.definition fresh) } := by
    apply insertRows_eq_ok (hrebuilds.admits hadmits) _ hforeign
    rwa [hempty, List.nil_append, hrebuilds.keys]
  simp only [execute, htarget, hsource, hrows, hinsert, Option.map_some, hempty, List.nil_append]

/-- Dropping a table no row of another table refers to, or with foreign keys not enforced. -/
theorem execute_dropTable {name : Name} {table : Table Name Column}
    (htable : db.tables name = some table)
    (hforeign : enforce = false ∨ ∀ other child, db.tables other = some child →
      ∀ key ∈ child.definition.foreignKeys, key.parent ≠ name) :
    execute conv enforce db (.dropTable name) =
      some { tables := Function.update db.tables name none
             indexes := fun index => (db.indexes index).filter fun p => p.1 ≠ name } := by
  have hallowed : ¬ (enforce = true ∧ ¬ db.Unreferenced name table) := by
    rintro ⟨henforce, hreferenced⟩
    rcases hforeign with hoff | hnone
    · rw [henforce] at hoff
      cases hoff
    · apply hreferenced
      intro other _ child hchild key hkey hparent
      exact absurd hparent (hnone other child hchild key hkey)
  simp only [execute, htable, if_neg hallowed]

end Statements

end WeaponDetection.Foundations.Sqlite
