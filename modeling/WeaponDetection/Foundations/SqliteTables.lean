import Mathlib.Data.Fintype.Basic
import WeaponDetection.Foundations.Double

/-!
# Tables and their constraints

The part of SQLite's data model that schema migrations rest on: typed values and the conversion a
column applies to what is stored in it, `NOT NULL`, `CHECK`, `PRIMARY KEY` and `REFERENCES`.  The
names of tables, columns and indexes are type parameters.

A migration that rebuilds a table copies its rows by lists of column names.  `reshape` says what a row
becomes by the names alone, and `newRow_eq_reshape` that an INSERT whose two lists agree
(`CopiesByName`, a closed condition on the definitions) writes exactly that.
-/

namespace WeaponDetection.Foundations.Sqlite

/-! ## Values -/

/-- A stored value. -/
inductive Value where
  | null
  | integer (i : ℤ)
  | real (r : Double)
  | text (s : String)
  | blob (bytes : List ℕ)
  deriving DecidableEq

/-- The declared type of a column, as far as it converts values. -/
inductive Affinity where
  | text
  | integer
  | real
  deriving DecidableEq

/-- The conversions between numbers and texts. -/
structure Conversions where
  integerText : ℤ → String
  realText : Double → String
  /-- The number a text looks like, if any. -/
  number : String → Option (ℤ ⊕ Double)
  /-- The integer a real is equal to, if any. -/
  integral : Double → Option ℤ
  toReal : ℤ → Double

/-- What a column stores when a value is written to it. -/
def Affinity.coerce (conv : Conversions) : Affinity → Value → Value
  | .text, .integer i => .text (conv.integerText i)
  | .text, .real r => .text (conv.realText r)
  | .integer, .real r => (conv.integral r).elim (.real r) .integer
  | .integer, .text s =>
    match conv.number s with
    | some (.inl i) => .integer i
    | some (.inr r) => (conv.integral r).elim (.real r) .integer
    | none => .text s
  | .real, .integer i => .real (conv.toReal i)
  | .real, .text s =>
    match conv.number s with
    | some (.inl i) => .real (conv.toReal i)
    | some (.inr r) => .real r
    | none => .text s
  | _, value => value

@[simp] theorem coerce_null (conv : Conversions) (affinity : Affinity) :
    affinity.coerce conv .null = .null := by cases affinity <;> rfl

@[simp] theorem coerce_text (conv : Conversions) (s : String) :
    Affinity.text.coerce conv (.text s) = .text s := rfl

/-! ## Tables -/

section Tables

variable {Name Column Index : Type} [DecidableEq Column]

/-- A row: the values in the order of the columns. -/
abbrev Row := List Value

/-- A column definition. -/
structure ColumnDef (Column : Type) where
  name : Column
  affinity : Affinity
  notNull : Bool
  default : Value

/-- The conditions of CHECK constraints. -/
inductive Condition (Column : Type) where
  | isIn (column : Column) (values : List Value)
  | isNull (column : Column)
  | isNotNull (column : Column)
  | and (a b : Condition Column)
  | or (a b : Condition Column)

/-- Three-valued evaluation: comparing NULL with anything is unknown. -/
def Condition.eval (get : Column → Value) : Condition Column → Option Bool
  | .isIn column values => if get column = .null then none else some (get column ∈ values)
  | .isNull column => some (get column = .null)
  | .isNotNull column => some (get column ≠ .null)
  | .and a b =>
    match a.eval get, b.eval get with
    | some false, _ => some false
    | _, some false => some false
    | some true, some true => some true
    | _, _ => none
  | .or a b =>
    match a.eval get, b.eval get with
    | some true, _ => some true
    | _, some true => some true
    | some false, some false => some false
    | _, _ => none

/-- `column REFERENCES parent(parentColumn)`. -/
structure ForeignKey (Name Column : Type) where
  column : Column
  parent : Name
  parentColumn : Column

/-- What `CREATE TABLE` declares. -/
structure TableDef (Name Column : Type) where
  columns : List (ColumnDef Column)
  primaryKey : Option Column
  checks : List (Condition Column)
  foreignKeys : List (ForeignKey Name Column)

/-- A table. -/
structure Table (Name Column : Type) where
  definition : TableDef Name Column
  rows : List Row

/-- A database: its tables, and the table and columns of each index. -/
structure Database (Name Column Index : Type) where
  tables : Name → Option (Table Name Column)
  indexes : Index → Option (Name × List Column)

/-- The value of a column in a row over some columns. -/
def valueOf : List (ColumnDef Column) → Row → Column → Value
  | first :: columns, value :: row, name =>
    if first.name = name then value else valueOf columns row name
  | _, _, _ => .null

/-- The value of a column in a row. -/
def TableDef.get (definition : TableDef Name Column) (row : Row) (column : Column) : Value :=
  valueOf definition.columns row column

/-- The row can be stored: its values are what its columns convert them to, none is NULL that must
not be, and no CHECK is false. -/
def TableDef.Admits (conv : Conversions) (definition : TableDef Name Column) (row : Row) : Prop :=
  row.length = definition.columns.length ∧
    (∀ p ∈ definition.columns.zip row,
      p.1.affinity.coerce conv p.2 = p.2 ∧ (p.1.notNull = true → p.2 ≠ .null)) ∧
    ∀ check ∈ definition.checks, check.eval (definition.get row) ≠ some false

instance (conv : Conversions) (definition : TableDef Name Column) (row : Row) :
    Decidable (definition.Admits conv row) :=
  inferInstanceAs (Decidable (_ ∧ _ ∧ _))

/-- The primary keys of some rows; NULL is not equal to NULL. -/
def TableDef.keys (definition : TableDef Name Column) (rows : List Row) : List Value :=
  match definition.primaryKey with
  | none => []
  | some column => (rows.map fun row => definition.get row column).filter (· ≠ .null)

/-- A parent row exists for the foreign key of a row. -/
def ForeignKey.Satisfied (db : Database Name Column Index) (definition : TableDef Name Column)
    (row : Row) (key : ForeignKey Name Column) : Prop :=
  definition.get row key.column = .null ∨
    ∃ parent ∈ db.tables key.parent, ∃ parentRow ∈ parent.rows,
      parent.definition.get parentRow key.parentColumn = definition.get row key.column

instance (db : Database Name Column Index) (definition : TableDef Name Column) (row : Row)
    (key : ForeignKey Name Column) : Decidable (key.Satisfied db definition row) :=
  inferInstanceAs (Decidable (_ ∨ _))

/-- Every row satisfies the constraints of its table, foreign keys included. -/
structure Database.Valid (conv : Conversions) (db : Database Name Column Index) : Prop where
  admits : ∀ name table, db.tables name = some table → ∀ row ∈ table.rows,
    table.definition.Admits conv row
  keys : ∀ name table, db.tables name = some table →
    (table.definition.keys table.rows).Nodup
  foreignKeys : ∀ name table, db.tables name = some table → ∀ row ∈ table.rows,
    ∀ key ∈ table.definition.foreignKeys, key.Satisfied db table.definition row

theorem keys_map {definition definition' : TableDef Name Column} {f : Row → Row} {rows : List Row}
    (hkey : definition'.primaryKey = definition.primaryKey)
    (hget : ∀ row ∈ rows, ∀ column ∈ definition.primaryKey,
      definition'.get (f row) column = definition.get row column) :
    definition'.keys (rows.map f) = definition.keys rows := by
  unfold TableDef.keys
  rw [hkey]
  cases hpk : definition.primaryKey with
  | none => rfl
  | some column =>
    show List.filter _ (List.map _ (List.map f rows)) = _
    rw [List.map_map]
    refine congrArg (List.filter _) (List.map_congr_left ?_)
    intro row hrow
    exact hget row hrow column hpk

/-! ### Rows by the names of their columns -/

/-- The column of a name. -/
def TableDef.column? (definition : TableDef Name Column) (name : Column) :
    Option (ColumnDef Column) :=
  definition.columns.find? fun column => column.name = name

/-- The row with a given value for each column. -/
def TableDef.build (definition : TableDef Name Column) (value : Column → Value) : Row :=
  definition.columns.map fun column => value column.name

/-- What a row has under a name of another table: its own value, or a fresh one. -/
def reshaped (source : TableDef Name Column) (fresh : Column → Value) (row : Row) (name : Column) :
    Value :=
  match source.column? name with
  | some _ => source.get row name
  | none => fresh name

/-- What a row of one table becomes in another: columns of the same name keep their values, the others
get fresh ones. -/
def TableDef.reshape (source target : TableDef Name Column) (fresh : Column → Value) (row : Row) :
    Row :=
  target.build (reshaped source fresh row)

theorem column?_name {definition : TableDef Name Column} {name : Column} {column : ColumnDef Column}
    (h : definition.column? name = some column) : column.name = name := by
  simpa using List.find?_some h

/-- A row that was built has the value of each of its columns. -/
theorem get_build (definition : TableDef Name Column) (value : Column → Value) (name : Column) :
    definition.get (definition.build value) name =
      match definition.column? name with
      | some _ => value name
      | none => .null := by
  unfold TableDef.get TableDef.build TableDef.column?
  induction definition.columns with
  | nil => rfl
  | cons column rest ih =>
    by_cases h : column.name = name
    · simp [valueOf, h]
    · simpa [valueOf, h] using ih

theorem get_reshape {source target : TableDef Name Column} {name : Column}
    {column : ColumnDef Column} (h : target.column? name = some column) (fresh : Column → Value)
    (row : Row) :
    target.get (source.reshape target fresh row) name = reshaped source fresh row name := by
  rw [TableDef.reshape, get_build, h]

theorem map_valueOf {columns : List (ColumnDef Column)} {row : Row}
    (hnames : (columns.map ColumnDef.name).Nodup) (hlength : row.length = columns.length) :
    columns.map (fun column => valueOf columns row column.name) = row := by
  induction columns generalizing row with
  | nil => exact (List.length_eq_zero_iff.mp hlength).symm
  | cons first rest ih =>
    cases row with
    | nil => cases hlength
    | cons value values =>
      rw [List.map_cons, List.nodup_cons] at hnames
      have hrest : rest.map (fun column => valueOf (first :: rest) (value :: values) column.name) =
          rest.map fun column => valueOf rest values column.name := by
        refine List.map_congr_left ?_
        intro column hcolumn
        refine if_neg ?_
        intro heq
        exact hnames.1 (heq ▸ List.mem_map_of_mem hcolumn)
      rw [List.map_cons, hrest, ih hnames.2 (by simpa using hlength)]
      simp [valueOf]

/-- A row that a table admits is built from the values of its columns. -/
theorem build_get {definition : TableDef Name Column} {row : Row}
    (hnames : (definition.columns.map ColumnDef.name).Nodup)
    (hlength : row.length = definition.columns.length) :
    definition.build (definition.get row) = row := map_valueOf hnames hlength

/-- A stored value is one its column converts to itself, and not NULL where it must not be. -/
theorem get_admitted {conv : Conversions} {definition : TableDef Name Column} {row : Row}
    {name : Column} {column : ColumnDef Column} (hrow : definition.Admits conv row)
    (hcolumn : definition.column? name = some column) :
    column.affinity.coerce conv (definition.get row name) = definition.get row name ∧
      (column.notNull = true → definition.get row name ≠ .null) := by
  obtain ⟨hlength, hvalues, -⟩ := hrow
  unfold TableDef.column? at hcolumn
  unfold TableDef.get
  generalize definition.columns = columns at hlength hvalues hcolumn
  induction columns generalizing row with
  | nil => cases hcolumn
  | cons first rest ih =>
    cases row with
    | nil => cases hlength
    | cons value values =>
      by_cases h : first.name = name
      · simp only [List.find?_cons, h, decide_true, Option.some.injEq] at hcolumn
        subst hcolumn
        simpa [valueOf, h] using hvalues (first, value) List.mem_cons_self
      · have hlength' : values.length = rest.length := by simpa using hlength
        have hrest := ih hlength' (fun p hp => hvalues p (List.mem_cons_of_mem _ hp))
          (by simpa [h] using hcolumn)
        simpa [valueOf, h] using hrest

omit [DecidableEq Column] in
/-- Every column of a built row is as it must be if it is so under its name. -/
theorem forall_zip_build {definition : TableDef Name Column} {value : Column → Value}
    {p : ColumnDef Column → Value → Prop}
    (h : ∀ column ∈ definition.columns, p column (value column.name)) :
    ∀ q ∈ definition.columns.zip (definition.build value), p q.1 q.2 := by
  have hzip : definition.columns.zip (definition.build value) =
      definition.columns.map fun column => (column, value column.name) := by
    have h := List.zip_map' (f := id) (g := fun column : ColumnDef Column => value column.name)
      (l := definition.columns)
    rwa [List.map_id] at h
  intro q hq
  rw [hzip, List.mem_map] at hq
  obtain ⟨column, hcolumn, rfl⟩ := hq
  exact h column hcolumn

/-! ## Compatible tables -/

/-- A literal that a column stores as it is. -/
def ColumnDef.Stores (column : ColumnDef Column) : Value → Bool
  | .null => !column.notNull
  | .text _ => column.affinity = .text
  | _ => false

omit [DecidableEq Column] in
theorem stores_spec {column : ColumnDef Column} {value : Value} (h : column.Stores value = true)
    (conv : Conversions) :
    column.affinity.coerce conv value = value ∧ (column.notNull = true → value ≠ .null) := by
  cases value with
  | null =>
    simp only [ColumnDef.Stores, Bool.not_eq_true'] at h
    simp [h]
  | text s =>
    simp only [ColumnDef.Stores, decide_eq_true_eq] at h
    simp [h]
  | integer i => cases h
  | real r => cases h
  | blob bytes => cases h

/-- Every column of `target` either has a column of its name and type in `source`, which is NULL only
where it may be, or stores its fresh value as it is. -/
def Compatible (source target : TableDef Name Column) (fresh : Column → Value) : Bool :=
  target.columns.all fun column =>
    match source.column? column.name with
    | some origin => origin.affinity = column.affinity && (!column.notNull || origin.notNull)
    | none => column.Stores (fresh column.name)

theorem compatible_value {source target : TableDef Name Column} {fresh : Column → Value}
    (h : Compatible source target fresh = true) {conv : Conversions} {row : Row}
    (hrow : source.Admits conv row) {column : ColumnDef Column} (hcolumn : column ∈ target.columns) :
    column.affinity.coerce conv (reshaped source fresh row column.name) =
        reshaped source fresh row column.name ∧
      (column.notNull = true → reshaped source fresh row column.name ≠ .null) := by
  have hc := List.all_eq_true.mp h column hcolumn
  cases horigin : source.column? column.name with
  | none =>
    simp only [horigin] at hc
    simp only [reshaped, horigin]
    exact stores_spec hc conv
  | some origin =>
    simp only [horigin, Bool.and_eq_true, decide_eq_true_eq, Bool.or_eq_true,
      Bool.not_eq_true'] at hc
    simp only [reshaped, horigin]
    obtain ⟨hcoerce, hnull⟩ := get_admitted hrow horigin
    rw [hc.1] at hcoerce
    refine ⟨hcoerce, ?_⟩
    intro hnotNull
    rcases hc.2 with hfree | horiginNotNull
    · rw [hnotNull] at hfree
      cases hfree
    · exact hnull horiginNotNull

/-- A row fits a compatible table if the checks there are not false on it. -/
theorem admits_reshape {source target : TableDef Name Column} {fresh : Column → Value}
    (h : Compatible source target fresh = true) {conv : Conversions} {row : Row}
    (hrow : source.Admits conv row)
    (hchecks : ∀ check ∈ target.checks,
      check.eval (target.get (source.reshape target fresh row)) ≠ some false) :
    target.Admits conv (source.reshape target fresh row) :=
  ⟨List.length_map _,
    forall_zip_build (p := fun column value => column.affinity.coerce conv value = value ∧
      (column.notNull = true → value ≠ .null)) fun _ hcolumn => compatible_value h hrow hcolumn,
    hchecks⟩

/-- Reshaping in two steps, when the middle table has every column of the first. -/
theorem reshape_reshape {first second third : TableDef Name Column} {fresh : Column → Value}
    (h : first.columns.all (fun column => (second.column? column.name).isSome) = true) (row : Row) :
    second.reshape third fresh (first.reshape second fresh row) = first.reshape third fresh row := by
  refine List.map_congr_left ?_
  intro column _
  unfold reshaped
  cases hsecond : second.column? column.name with
  | some middle => exact get_reshape hsecond fresh row
  | none =>
    cases hfirst : first.column? column.name with
    | none => rfl
    | some origin =>
      have hmem := List.mem_of_find?_eq_some hfirst
      have hsome := List.all_eq_true.mp h origin hmem
      rw [column?_name hfirst, hsecond] at hsome
      cases hsome

/-- A row is its own form in a table with the same columns. -/
theorem reshape_self {source target : TableDef Name Column} (fresh : Column → Value) {row : Row}
    (hcolumns : target.columns = source.columns)
    (hnames : (source.columns.map ColumnDef.name).Nodup)
    (hlength : row.length = source.columns.length) : source.reshape target fresh row = row := by
  have hbuild : source.reshape target fresh row = source.build (source.get row) := by
    unfold TableDef.reshape TableDef.build
    rw [hcolumns]
    refine List.map_congr_left ?_
    intro column hcolumn
    unfold reshaped
    cases hfind : source.column? column.name with
    | some _ => rfl
    | none =>
      have hno := List.find?_eq_none.mp hfind column hcolumn
      simp at hno
  rw [hbuild, build_get hnames hlength]

theorem map_reshape_self {source target : TableDef Name Column} (fresh : Column → Value)
    {conv : Conversions} {rows : List Row} (hcolumns : target.columns = source.columns)
    (hnames : (source.columns.map ColumnDef.name).Nodup)
    (hrows : ∀ row ∈ rows, source.Admits conv row) :
    rows.map (source.reshape target fresh) = rows := by
  refine (List.map_congr_left fun row hrow => ?_).trans (List.map_id rows)
  exact reshape_self fresh hcolumns hnames (hrows row hrow).1

/-- A rebuilt table: every column of the old one, compatible columns, the same key, and checks that
hold of every row that held in the old one. -/
structure Rebuilds (source target : TableDef Name Column) (fresh : Column → Value) : Prop where
  covers : source.columns.all (fun column => (target.column? column.name).isSome) = true
  compatible : Compatible source target fresh = true
  checks : ∀ conv row, source.Admits conv row → ∀ check ∈ target.checks,
    check.eval (target.get (source.reshape target fresh row)) ≠ some false
  key : target.primaryKey = source.primaryKey
  keyColumn : ∀ name ∈ source.primaryKey, (source.column? name).isSome = true

section Rebuilding

variable {source target : TableDef Name Column} {fresh : Column → Value}

/-- A table with distinct column names is a rebuilt form of itself. -/
theorem Rebuilds.refl (hnames : (source.columns.map ColumnDef.name).Nodup)
    (hkey : ∀ name ∈ source.primaryKey, (source.column? name).isSome = true) :
    Rebuilds source source fresh where
  covers := by
    rw [List.all_eq_true]
    intro column hcolumn
    exact List.find?_isSome.mpr ⟨column, hcolumn, by simp⟩
  compatible := by
    refine List.all_eq_true.mpr ?_
    intro column hcolumn
    cases hfind : source.column? column.name with
    | none =>
      have hno := List.find?_eq_none.mp hfind column hcolumn
      simp at hno
    | some origin =>
      have heq : origin = column := List.inj_on_of_nodup_map hnames
        (List.mem_of_find?_eq_some hfind) hcolumn (column?_name hfind)
      simp [heq]
  checks := by
    intro conv row hrow check hcheck
    rw [reshape_self fresh rfl hnames hrow.1]
    exact hrow.2.2 check hcheck
  key := rfl
  keyColumn := hkey

/-- The columns of the old table keep their values. -/
theorem Rebuilds.get (h : Rebuilds source target fresh) {name : Column}
    (hname : (source.column? name).isSome = true) (row : Row) :
    target.get (source.reshape target fresh row) name = source.get row name := by
  obtain ⟨origin, horigin⟩ := Option.isSome_iff_exists.mp hname
  have hcovered := List.all_eq_true.mp h.covers origin (List.mem_of_find?_eq_some horigin)
  rw [column?_name horigin] at hcovered
  obtain ⟨column, hcolumn⟩ := Option.isSome_iff_exists.mp hcovered
  rw [get_reshape hcolumn, reshaped, horigin]

/-- The columns the old table does not have get their fresh values. -/
theorem get_reshape_fresh {name : Column} (hsource : source.column? name = none)
    (htarget : (target.column? name).isSome = true) (row : Row) :
    target.get (source.reshape target fresh row) name = fresh name := by
  obtain ⟨column, hcolumn⟩ := Option.isSome_iff_exists.mp htarget
  rw [get_reshape hcolumn, reshaped, hsource]

theorem Rebuilds.admits (h : Rebuilds source target fresh) {conv : Conversions} {rows : List Row}
    (hrows : ∀ row ∈ rows, source.Admits conv row) :
    ∀ row ∈ rows.map (source.reshape target fresh), target.Admits conv row := by
  intro row hrow
  rw [List.mem_map] at hrow
  obtain ⟨old, hold, rfl⟩ := hrow
  exact admits_reshape h.compatible (hrows old hold) (h.checks conv old (hrows old hold))

theorem Rebuilds.keys (h : Rebuilds source target fresh) (rows : List Row) :
    target.keys (rows.map (source.reshape target fresh)) = source.keys rows :=
  keys_map h.key fun row _ name hname => h.get (h.keyColumn name hname) row

end Rebuilding

/-! ## Copying rows -/

/-- An expression of a SELECT list. -/
inductive Expression (Column : Type) where
  | column (name : Column)
  | literal (value : Value)
  deriving DecidableEq

/-- `expression` over a row. -/
def Expression.eval (definition : TableDef Name Column) (row : Row) : Expression Column → Value
  | .column name => definition.get row name
  | .literal value => value

/-- The row an INSERT writes: what is given for a column, else its default, converted. -/
def TableDef.newRow (conv : Conversions) (definition : TableDef Name Column)
    (columns : List Column) (values : List Value) : Row :=
  definition.columns.map fun column =>
    let given := (columns.zip values).find? fun p => p.1 = column.name
    column.affinity.coerce conv (given.elim column.default Prod.snd)

/-- The column list of an INSERT and the SELECT list beside it give each column of `target` the
column of its own name in `source`, or its fresh value. -/
def CopiesByName (source target : TableDef Name Column) (fresh : Column → Value)
    (columns : List Column) (expressions : List (Expression Column)) : Bool :=
  target.columns.all fun column =>
    ((columns.zip expressions).find? fun p => p.1 = column.name).map Prod.snd =
      some (match source.column? column.name with
        | some _ => .column column.name
        | none => .literal (fresh column.name))

theorem find?_zip_map {α β γ : Type} (f : β → γ) (p : α → Bool) (as : List α) (bs : List β) :
    ((as.zip (bs.map f)).find? fun q => p q.1).map Prod.snd =
      (((as.zip bs).find? fun q => p q.1).map Prod.snd).map f := by
  induction as generalizing bs with
  | nil => rfl
  | cons a as ih =>
    cases bs with
    | nil => rfl
    | cons b bs =>
      by_cases h : p a = true
      · simp [h]
      · simpa [h] using ih bs

/-- Such an INSERT writes the reshaped row. -/
theorem newRow_eq_reshape {source target : TableDef Name Column} {fresh : Column → Value}
    {columns : List Column} {expressions : List (Expression Column)}
    (hcopies : CopiesByName source target fresh columns expressions = true)
    (hcompatible : Compatible source target fresh = true) {conv : Conversions} {row : Row}
    (hrow : source.Admits conv row) :
    target.newRow conv columns (expressions.map fun expression => expression.eval source row) =
      source.reshape target fresh row := by
  refine List.map_congr_left ?_
  intro column hcolumn
  have hfind := List.all_eq_true.mp hcopies column hcolumn
  have hvalue := (compatible_value hcompatible hrow hcolumn).1
  rw [decide_eq_true_eq] at hfind
  have hgiven := find?_zip_map (fun expression => expression.eval source row)
    (fun name => decide (name = column.name)) columns expressions
  have hexpression : (match source.column? column.name with
      | some _ => Expression.column column.name
      | none => .literal (fresh column.name)).eval source row =
        reshaped source fresh row column.name := by
    unfold reshaped
    split <;> rfl
  rw [hfind, Option.map_some, hexpression] at hgiven
  rw [Option.map_eq_some_iff] at hgiven
  obtain ⟨p, hp, hvalue'⟩ := hgiven
  simp only [hp, Option.elim_some, hvalue', hvalue]

end Tables

end WeaponDetection.Foundations.Sqlite
