import WeaponDetection.Foundations.Sqlite

/-!
# A connection and its transactions

A database file as one connection sees it: what is committed, what an open transaction has made of it,
and `PRAGMA foreign_keys`.  Any call may fail without effect, and a failing statement or commit may
take the open transaction with it; closing the connection drops the transaction.

`transaction_safe` says what a transaction over a list of statements guarantees: at every moment of
it, cut anywhere, the file holds the database from before or the one after the last statement.
-/

namespace WeaponDetection.Foundations.Sqlite

section Connections

variable {Name Column Index : Type}

/-- The file and the state of its connection. -/
structure Connection (Name Column Index : Type) where
  committed : Database Name Column Index
  working : Option (Database Name Column Index)
  foreignKeys : Bool

/-- What the statements of the connection see. -/
def Connection.current (w : Connection Name Column Index) : Database Name Column Index :=
  w.working.getD w.committed

/-- The effect of a statement: within the transaction, or committed at once. -/
def Connection.put (w : Connection Name Column Index) (db : Database Name Column Index) :
    Connection Name Column Index :=
  if w.working.isSome then { w with working := some db } else { w with committed := db }

/-- The transaction is gone. -/
def Connection.rolledBack (w : Connection Name Column Index) : Connection Name Column Index :=
  { w with working := none }

/-- The operations that change the file or the connection. -/
inductive Operation (Name Column Index : Type) where
  | begin
  | commit
  | rollback
  | execute (statement : Statement Name Column Index)
  /-- `PRAGMA foreign_keys = on`. -/
  | setForeignKeys (on : Bool)

/-- The calls of a connection. -/
inductive ConnectionCall (Name Column Index : Type) where
  | perform (operation : Operation Name Column Index)
  | tableExists (name : Name)
  | selectColumn (table : Name) (column : Column)

/-- Their answers; `none` is an exception. -/
def ConnectionCall.Answer : ConnectionCall Name Column Index → Type
  | .perform _ => Option Unit
  | .tableExists _ => Option Bool
  | .selectColumn _ _ => Option (List Value)

/-- The interface of a connection. -/
abbrev connection (Name Column Index : Type) : Interface :=
  ⟨ConnectionCall Name Column Index, ConnectionCall.Answer⟩

/-- The exception among the answers. -/
def ConnectionCall.failure : (c : ConnectionCall Name Column Index) → c.Answer
  | .perform _ => (none : Option Unit)
  | .tableExists _ => (none : Option Bool)
  | .selectColumn _ _ => (none : Option (List Value))

variable [DecidableEq Name] [DecidableEq Column] [DecidableEq Index] [Fintype Name]

/-- What an operation makes of the connection, `none` where it must fail. -/
def Operation.run (conv : Conversions) (w : Connection Name Column Index) :
    Operation Name Column Index → Option (Connection Name Column Index)
  | .begin => if w.working.isSome then none else some { w with working := some w.committed }
  | .commit => w.working.map fun db => { w with committed := db, working := none }
  | .rollback => if w.working.isSome then some w.rolledBack else none
  | .execute statement => (Sqlite.execute conv w.foreignKeys w.current statement).map w.put
  -- the pragma does nothing within a transaction
  | .setForeignKeys on => some (if w.working.isSome then w else { w with foreignKeys := on })

/-- What a connection answers where nothing fails but what must. -/
def reply (conv : Conversions) : (c : ConnectionCall Name Column Index) →
    Connection Name Column Index → c.Answer × Connection Name Column Index
  | .perform operation, w =>
    match operation.run conv w with
    | some w' => (some (), w')
    | none => (none, w)
  | .tableExists name, w => (some (w.current.tables name).isSome, w)
  | .selectColumn table column, w =>
    ((w.current.tables table).map fun t => t.rows.map fun row => t.definition.get row column, w)

/-- What may happen at a call: its reply, or, where faults occur, a failure that may roll the open
transaction back. -/
def responds (conv : Conversions) (faults : Bool) :
    Response (connection Name Column Index) (Connection Name Column Index) :=
  fun c w answer w' => (answer, w') = reply conv c w ∨
    faults = true ∧ answer = c.failure ∧ (w' = w ∨ w' = w.rolledBack)

theorem responds_reply (conv : Conversions) (faults : Bool) (c : ConnectionCall Name Column Index)
    (w : Connection Name Column Index) :
    responds conv faults c w (reply conv c w).1 (reply conv c w).2 := .inl rfl

/-! ## Transactions -/

variable {Err : Type}

/-- An operation that raises `e` where it fails. -/
def perform (e : Err) (operation : Operation Name Column Index) :
    Program (connection Name Column Index) Err Unit :=
  .call (.perform operation) fun answer =>
    match answer with
    | some () => .done ()
    | none => .raise e

/-- Execute statements one after the other. -/
def executeEach (e : Err) : List (Statement Name Column Index) →
    Program (connection Name Column Index) Err Unit
  | [] => .done ()
  | statement :: rest => (perform e (.execute statement)).bind fun _ => executeEach e rest

/-- `with transaction(connection)` around some statements. -/
def transaction (e : Err) (statements : List (Statement Name Column Index)) :
    Program (connection Name Column Index) Err Unit :=
  (perform e .begin).bind fun _ =>
    ((executeEach e statements).handle fun e' =>
      (perform e .rollback).bind fun _ => .raise e').bind fun _ =>
        perform e .commit

section Safety

variable {conv : Conversions} {faults : Bool} {inv : Connection Name Column Index → Prop}
  {w w' : Connection Name Column Index} {e : Err}

/-- Safety of a program of the connection that fails only where faults occur. -/
abbrev ConnectionSafe (conv : Conversions) (faults : Bool)
    (inv : Connection Name Column Index → Prop) {α : Type}
    (post : α → Connection Name Column Index → Prop)
    (p : Program (connection Name Column Index) Err α) (w : Connection Name Column Index) : Prop :=
  Safe (responds conv faults) inv (fun _ _ => True) post (fun _ _ => faults = true) p w

/-- An operation that can be run is run, or a fault leaves what is committed as it is. -/
theorem perform_safe {operation : Operation Name Column Index} (hrun : operation.run conv w = some w')
    (hinv : ∀ after : Connection Name Column Index, after.committed = w.committed → inv after)
    (hinv' : inv w') :
    Safe (responds conv faults) inv (fun _ _ => True) (fun _ after => after = w')
      (fun _ after => faults = true ∧ after.committed = w.committed) (perform e operation) w := by
  refine ⟨hinv w rfl, trivial, ?_⟩
  rintro answer after (hreply | ⟨hfaults, rfl, hafter⟩)
  · simp only [reply, hrun] at hreply
    obtain ⟨rfl, rfl⟩ := hreply
    exact ⟨hinv', rfl⟩
  · rcases hafter with rfl | rfl
    · exact ⟨hinv _ rfl, hfaults, rfl⟩
    · exact ⟨hinv _ rfl, hfaults, rfl⟩

/-- An operation that commits nothing, in whatever state a fault has left the connection. -/
theorem perform_keeps {operation : Operation Name Column Index}
    (hkeep : ∀ after, operation.run conv w = some after → after.committed = w.committed)
    (hinv : ∀ after : Connection Name Column Index, after.committed = w.committed → inv after)
    (hfaults : faults = true) :
    Safe (responds conv faults) inv (fun _ _ => True)
      (fun _ after => after.committed = w.committed)
      (fun _ after => faults = true ∧ after.committed = w.committed) (perform e operation) w := by
  refine ⟨hinv w rfl, trivial, ?_⟩
  intro answer after hr
  have hcommitted : after.committed = w.committed := by
    rcases hr with hreply | ⟨_, _, hafter⟩
    · simp only [reply] at hreply
      split at hreply
      · next hrun =>
        cases hreply
        exact hkeep _ hrun
      · cases hreply
        rfl
    · rcases hafter with rfl | rfl
      · rfl
      · rfl
  match answer with
  | some () => exact ⟨hinv after hcommitted, hcommitted⟩
  | none => exact ⟨hinv after hcommitted, hfaults, hcommitted⟩

theorem rollback_keeps {after : Connection Name Column Index}
    (h : Operation.run conv w .rollback = some after) : after.committed = w.committed := by
  rw [Operation.run] at h
  split at h
  · cases h
    rfl
  · cases h

theorem setForeignKeys_keeps {on : Bool} {after : Connection Name Column Index}
    (h : Operation.run conv w (.setForeignKeys on) = some after) :
    after.committed = w.committed := by
  cases h
  split <;> rfl

/-- Within a transaction statements change only what is not committed yet. -/
theorem executeEach_safe {db db' start : Database Name Column Index} {foreignKeys : Bool}
    (statements : List (Statement Name Column Index))
    (hrun : executeAll conv foreignKeys db statements = some db')
    (hinv : ∀ after : Connection Name Column Index, after.committed = start → inv after) :
    Safe (responds conv faults) inv (fun _ _ => True)
      (fun _ after => after = ⟨start, some db', foreignKeys⟩)
      (fun _ after => faults = true ∧ after.committed = start) (executeEach e statements)
      ⟨start, some db, foreignKeys⟩ := by
  induction statements generalizing db with
  | nil =>
    cases hrun
    exact ⟨hinv _ rfl, rfl⟩
  | cons statement rest ih =>
    rw [executeAll, Option.bind_eq_some_iff] at hrun
    obtain ⟨mid, hmid, hrest⟩ := hrun
    have hop : Operation.run conv ⟨start, some db, foreignKeys⟩ (.execute statement) =
        some ⟨start, some mid, foreignKeys⟩ := by
      show Option.map _ (Sqlite.execute conv foreignKeys db statement) = _
      rw [hmid]
      rfl
    refine ⟨hinv _ rfl, trivial, ?_⟩
    rintro answer after (hreply | ⟨hfaults, rfl, hafter⟩)
    · simp only [reply, hop] at hreply
      obtain ⟨rfl, rfl⟩ := hreply
      exact ih hrest
    · rcases hafter with rfl | rfl
      · exact ⟨hinv _ rfl, hfaults, rfl⟩
      · exact ⟨hinv _ rfl, hfaults, rfl⟩

/-- A transaction over statements that can all be run: at every moment the file holds the database
before it or the one after it, and it ends with the latter unless a fault occurred. -/
theorem transaction_safe {db db' : Database Name Column Index} {foreignKeys : Bool}
    {statements : List (Statement Name Column Index)}
    (hrun : executeAll conv foreignKeys db statements = some db')
    (hinv : ∀ after : Connection Name Column Index, after.committed = db → inv after)
    (hinv' : inv ⟨db', none, foreignKeys⟩) :
    Safe (responds conv faults) inv (fun _ _ => True)
      (fun _ after => after = ⟨db', none, foreignKeys⟩)
      (fun _ after => faults = true ∧ after.committed = db)
      (transaction e statements) ⟨db, none, foreignKeys⟩ := by
  have hbegin : Operation.run conv ⟨db, none, foreignKeys⟩ .begin =
      some (⟨db, some db, foreignKeys⟩ : Connection Name Column Index) := rfl
  have hcommit : Operation.run conv ⟨db, some db', foreignKeys⟩ .commit =
      some (⟨db', none, foreignKeys⟩ : Connection Name Column Index) := rfl
  apply Safe.bind (perform_safe hbegin hinv (hinv _ rfl))
  rintro _ _ _ rfl
  have hbody : Safe (responds conv faults) inv (fun _ _ => True)
      (fun _ after => after = ⟨db, some db', foreignKeys⟩)
      (fun _ after => faults = true ∧ after.committed = db) (executeEach e statements)
      ⟨db, some db, foreignKeys⟩ := executeEach_safe statements hrun hinv
  have hhandled : Safe (responds conv faults) inv (fun _ _ => True)
      (fun _ after => after = ⟨db, some db', foreignKeys⟩)
      (fun _ after => faults = true ∧ after.committed = db)
      ((executeEach e statements).handle fun e' =>
        (perform e .rollback).bind fun _ => .raise e') ⟨db, some db, foreignKeys⟩ := by
    apply Safe.handle hbody
    rintro e' after _ ⟨hfaults, rfl⟩
    apply Safe.bind (perform_keeps (fun _ => rollback_keeps) hinv hfaults)
    intro _ after' hafter' hcommitted
    exact ⟨hafter', hfaults, hcommitted⟩
  apply Safe.bind hhandled
  rintro _ _ _ rfl
  exact perform_safe hcommit hinv hinv'

end Safety

end Connections

end WeaponDetection.Foundations.Sqlite
