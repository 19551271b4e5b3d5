import WeaponDetection.Backend.AlertSync.Statements
import Mathlib.Data.List.Flatten

/-!
# One record for each event

An event is recorded as an Alert or as a suppressed detection.  Each table has its own unique key, and
both look-ups of `SyncEventsAsync` come before the quota row is locked, so two batches that carry the
same event can take different branches and record it twice.  As long as no batch inserts into one
table while the other has a row of the event, there is one record, and no batch answers
`quota_exceeded` for an event that has an Alert.
-/

namespace WeaponDetection.Backend.AlertSync

open WeaponDetection.Foundations

/-! ## Rows, committed or not -/

section Rows

variable {Row : Type*} (table : AlertDb → List Row) (inserts : Write → List Row)

/-- The rows of a table, the uncommitted ones of every session included. -/
def SyncState.rows (s : SyncState) : List Row :=
  table s.db ++ s.sessions.flatMap fun session => session.pending.flatMap inserts

variable {table inserts}

theorem mem_rows {s : SyncState} {row : Row} :
    row ∈ s.rows table inserts ↔ row ∈ table s.db ∨ ∃ i, row ∈ (s.pending i).flatMap inserts := by
  rw [SyncState.rows, List.mem_append, List.mem_flatMap]
  apply or_congr_right
  constructor
  · intro ⟨session, hsession, hrow⟩
    obtain ⟨i, hi⟩ := List.mem_iff_getElem?.mp hsession
    rw [← pending_of_getElem? hi] at hrow
    exact ⟨i, hrow⟩
  · intro ⟨i, hrow⟩
    by_cases hi : i < s.sessions.length
    · rw [pending_of_getElem? (List.getElem?_eq_getElem hi)] at hrow
      exact ⟨_, List.getElem_mem hi, hrow⟩
    · rw [pending_of_length_le (not_lt.mp hi)] at hrow
      cases hrow

/-- The rows after a move: the ones that were there, and what it has inserted. -/
theorem mem_rows_perform
    (hview : ∀ db ws, table (AlertDb.view db ws) = table db ++ ws.flatMap inserts)
    {s : SyncState} (horderly : s.Orderly) {i : ℕ} {session : Session}
    (hi : s.sessions[i]? = some session) {move : Move} {row : Row}
    (h : row ∈ (s.perform i session move).rows table inserts) :
    row ∈ s.rows table inserts ∨
      ∃ w result stage, move = .goOn (.write w) result stage ∧ row ∈ inserts w := by
  have hown : row ∈ session.pending.flatMap inserts → row ∈ s.rows table inserts := by
    intro hrow
    rw [← pending_of_getElem? hi] at hrow
    exact mem_rows.mpr (.inr ⟨i, hrow⟩)
  have hpending : row ∈ (session.after move).pending.flatMap inserts →
      row ∈ session.pending.flatMap inserts ∨
        ∃ w result stage, move = .goOn (.write w) result stage ∧ row ∈ inserts w := by
    intro hrow
    cases move with
    | goOn effect result stage =>
      cases effect with
      | keep | createSavepoint => exact .inl hrow
      | rollback =>
        obtain ⟨w, hw, hrow⟩ := List.mem_flatMap.mp hrow
        exact .inl (List.mem_flatMap.mpr ⟨w, (horderly.prefixed i session hi).subset hw, hrow⟩)
      | write w =>
        change row ∈ (session.pending ++ [w]).flatMap inserts at hrow
        rw [List.flatMap_append, List.mem_append, List.flatMap_singleton] at hrow
        exact hrow.imp_right fun hw => ⟨w, result, stage, rfl, hw⟩
    | commit => cases hrow
    | fail failure => cases hrow
  rcases mem_rows.mp h with htable | ⟨j, hj⟩
  · left
    cases move with
    | commit =>
      change row ∈ table (s.db.view session.pending) at htable
      rw [hview, List.mem_append] at htable
      exact htable.elim (fun hold => mem_rows.mpr (.inl hold)) hown
    | goOn => exact mem_rows.mpr (.inl htable)
    | fail => exact mem_rows.mpr (.inl htable)
  · rw [pending_perform hi] at hj
    by_cases hji : j = i
    · rw [hji, Function.update_self] at hj
      exact (hpending hj).imp_left hown
    · rw [Function.update_of_ne hji] at hj
      exact .inl (mem_rows.mpr (.inr ⟨j, hj⟩))

theorem rows_begin (s : SyncState) (batch : SyncBatch) :
    ({ s with sessions := s.sessions ++ [batch.session] } : SyncState).rows table inserts =
      s.rows table inserts := by
  simp [SyncState.rows, SyncBatch.session]

end Rows

/-- The Alerts, committed or not. -/
abbrev SyncState.alertRows (s : SyncState) : List StoredAlert := s.rows AlertDb.alerts Write.alerts

/-- The suppressed detections, committed or not. -/
abbrev SyncState.suppressedRows (s : SyncState) : List SuppressedDetectionEvent :=
  s.rows AlertDb.suppressed Write.suppressed

/-! ## Inserting for an event nobody else records -/

/-- The event a session is about to insert an Alert for. -/
def Session.insertsAlert (session : Session) : Option EventKey :=
  match session.stage with
  | .event c (.insertAlert _) => some (session.batch.key c.evt)
  | _ => none

/-- The event a session is about to insert a suppressed detection for. -/
def Session.insertsSuppressed (session : Session) : Option EventKey :=
  match session.stage with
  | .event c .insertSuppressed => some (session.batch.key c.evt)
  | _ => none

/-- A session comes to insert for an event only while the other table has no row of it, committed or
not. -/
def InsertsAlone (s : SyncState) : SyncAction → Prop
  | .advance i _ => ∀ session ∈ s.sessions[i]?,
      (∀ key ∈ session.insertsAlert, ∀ row ∈ s.suppressedRows, row.key ≠ key) ∧
        ∀ key ∈ session.insertsSuppressed, ∀ row ∈ s.alertRows, row.alert.key ≠ key
  | _ => True

instance (s : SyncState) : (a : SyncAction) → Decidable (InsertsAlone s a)
  | .advance i _ => inferInstanceAs (Decidable (∀ session ∈ s.sessions[i]?,
      (∀ key ∈ session.insertsAlert, ∀ row ∈ s.suppressedRows, row.key ≠ key) ∧
        ∀ key ∈ session.insertsSuppressed, ∀ row ∈ s.alertRows, row.alert.key ≠ key))
  | .begin _ => isTrue trivial
  | .interrupt _ => isTrue trivial

section Moves

variable {options : AlertQuotaOptions} {session : Session} {view : AlertDb} {w : Write}
  {result : Option SyncEventOutcome} {stage : Stage}

/-- An Alert is inserted for the event the session has come to. -/
theorem Moves.insertsAlert_of_mem
    (h : Moves options session.batch view session.stage (.goOn (.write w) result stage))
    {row : StoredAlert} (hrow : row ∈ w.alerts) : session.insertsAlert = some row.alert.key := by
  unfold Session.insertsAlert
  generalize session.stage = before at h
  cases h with
  | quotaRowInserted | consumed | suppressed | counted => cases hrow
  | accepted hkey =>
    rw [Write.alerts, List.mem_singleton] at hrow
    rw [hrow]
    exact congrArg some hkey.symm

/-- A suppressed detection is inserted for the event the session has come to. -/
theorem Moves.insertsSuppressed_of_mem
    (h : Moves options session.batch view session.stage (.goOn (.write w) result stage))
    {row : SuppressedDetectionEvent} (hrow : row ∈ w.suppressed) :
    session.insertsSuppressed = some row.key := by
  unfold Session.insertsSuppressed
  generalize session.stage = before at h
  cases h with
  | quotaRowInserted | consumed | accepted | counted => cases hrow
  | suppressed hkey =>
    rw [Write.suppressed, List.mem_singleton] at hrow
    rw [hrow]
    exact congrArg some hkey.symm

end Moves

/-- One statement does not insert into both tables. -/
theorem Write.suppressed_of_mem_alerts {w : Write} {row : StoredAlert} (h : row ∈ w.alerts) :
    w.suppressed = [] := by
  cases w with
  | insertSuppressed => cases h
  | insertQuota | consumeQuota | insertAlert | countSuppression => rfl

/-- No event has a row in both tables, committed or not. -/
def SyncState.Apart (s : SyncState) : Prop :=
  ∀ row ∈ s.alertRows, ∀ suppressed ∈ s.suppressedRows, row.alert.key ≠ suppressed.key

/-- A guarded step records nothing twice. -/
theorem apart_step {options : AlertQuotaOptions} {s s' : SyncState} {a : SyncAction}
    (horderly : s.Orderly) (h : s.Apart) (hguard : InsertsAlone s a)
    (hstep : syncStep options s a = some s') : s'.Apart := by
  rcases syncStep_cases hstep with
    ⟨batch, rfl, rfl⟩ | ⟨i, env, session, move, rfl, hi, -, hmove, rfl⟩ | ⟨i, session, rfl, hi, rfl⟩
  · rw [SyncState.Apart, SyncState.alertRows, SyncState.suppressedRows, rows_begin, rows_begin]
    exact h
  · intro row hrow suppressed hsuppressed
    obtain ⟨halert, hsupp⟩ := hguard session hi
    have hmoves := statement_moves hmove
    rcases mem_rows_perform view_alerts horderly hi hrow with hold | ⟨w, result, stage, rfl, hnew⟩
    · rcases mem_rows_perform view_suppressed horderly hi hsuppressed with
        hold' | ⟨w, result, stage, rfl, hnew'⟩
      · exact h row hold suppressed hold'
      · exact hsupp _ (hmoves.insertsSuppressed_of_mem hnew') row hold
    · have hkey := hmoves.insertsAlert_of_mem hnew
      rcases mem_rows_perform view_suppressed horderly hi hsuppressed with
        hold' | ⟨w', result', stage', heq, hnew'⟩
      · exact (halert _ hkey suppressed hold').symm
      · cases heq
        rw [Write.suppressed_of_mem_alerts hnew] at hnew'
        cases hnew'
  · intro row hrow suppressed hsuppressed
    rcases mem_rows_perform view_alerts horderly hi hrow with hold | ⟨_, _, _, heq, -⟩
    · rcases mem_rows_perform view_suppressed horderly hi hsuppressed with hold' | ⟨_, _, _, heq, -⟩
      · exact h row hold suppressed hold'
      · cases heq
    · cases heq

/-! ## What a session has answered -/

/-- An event is recorded as suppressed in the tables as some pending writes leave them. -/
def AlertDb.Suppressed (db : AlertDb) (pending : List Write) (key : EventKey) : Prop :=
  ∃ row ∈ (db.view pending).suppressed, row.key = key

/-- The writes no rollback can undo any more, short of the whole transaction. -/
def Session.settled (session : Session) : List Write :=
  match session.stage with
  | .event _ _ => session.savepoint
  | _ => session.pending

/-- Within an event, before its suppressed detection is inserted. -/
def Stage.Unrecorded : Stage → Prop
  | .event _ .countSuppression => False
  | .event _ _ => True
  | _ => False

/-- The event whose suppressed detection has been inserted but not counted. -/
def Stage.counting (batch : SyncBatch) : Stage → Option EventKey
  | .event c .countSuppression => some (batch.key c.evt)
  | _ => none

/-- Every `quota_exceeded` a session has answered is recorded, and will stay so unless the whole
transaction is undone. -/
structure Session.Answered (db : AlertDb) (session : Session) : Prop where
  recorded : ∀ result ∈ session.results, ∀ eventId, result.suppressedEvent = some eventId →
    db.Suppressed session.settled ⟨session.batch.deviceId, eventId⟩
  /-- A suppressed detection is the last row an event inserts. -/
  unrecorded : session.stage.Unrecorded →
    session.pending.flatMap Write.suppressed = session.savepoint.flatMap Write.suppressed
  counting : ∀ key ∈ session.stage.counting session.batch, db.Suppressed session.pending key

theorem suppressed_iff {db : AlertDb} {pending : List Write} {key : EventKey} :
    db.Suppressed pending key ↔
      ∃ row, (row ∈ db.suppressed ∨ row ∈ pending.flatMap Write.suppressed) ∧ row.key = key := by
  simp only [AlertDb.Suppressed, view_suppressed, List.mem_append]

theorem AlertDb.Suppressed.mono {db : AlertDb} {ws us : List Write} {key : EventKey}
    (h : db.Suppressed ws key) (hsub : ws.flatMap Write.suppressed ⊆ us.flatMap Write.suppressed) :
    db.Suppressed us key := by
  obtain ⟨row, hrow, hkey⟩ := suppressed_iff.mp h
  exact suppressed_iff.mpr ⟨row, hrow.imp_right fun hw => hsub hw, hkey⟩

/-- What is recorded stays recorded when another session commits. -/
theorem AlertDb.Suppressed.commit {db : AlertDb} {ws : List Write} {key : EventKey}
    (h : db.Suppressed ws key) (us : List Write) : (db.view us).Suppressed ws key := by
  obtain ⟨row, hrow, hkey⟩ := suppressed_iff.mp h
  refine suppressed_iff.mpr ⟨row, hrow.imp_left fun hdb => ?_, hkey⟩
  rw [view_suppressed]
  exact List.mem_append_left _ hdb

/-- A statement answers `quota_exceeded` only for what is recorded. -/
theorem Session.Answered.perform {db : AlertDb} {session : Session} (h : session.Answered db)
    (hprefixed : session.savepoint <+: session.pending) {options : AlertQuotaOptions} {effect : Effect}
    {result : Option SyncEventOutcome} {stage : Stage}
    (hmove : Moves options session.batch (db.view session.pending) session.stage
      (.goOn effect result stage)) : (session.perform effect result stage).Answered db := by
  -- Earlier answers stay recorded, so only the answer of this statement is in question.
  have hrecorded : ∀ ws, session.settled.flatMap Write.suppressed ⊆ ws.flatMap Write.suppressed →
      (∀ eventId, result.bind (·.suppressedEvent) = some eventId →
        db.Suppressed ws ⟨session.batch.deviceId, eventId⟩) →
      ∀ r ∈ session.results ++ result.toList, ∀ eventId, r.suppressedEvent = some eventId →
        db.Suppressed ws ⟨session.batch.deviceId, eventId⟩ := by
    intro ws hsub hnew r hr eventId hevent
    rcases List.mem_append.mp hr with hold | hlast
    · exact (h.recorded r hold eventId hevent).mono hsub
    · apply hnew eventId
      rw [Option.mem_toList.mp hlast]
      exact hevent
  have hsaved : session.savepoint.flatMap Write.suppressed ⊆ session.pending.flatMap Write.suppressed :=
    (hprefixed.sublist.flatMap _).subset
  have happend : ∀ w : Write, session.pending.flatMap Write.suppressed ⊆
      (session.pending ++ [w]).flatMap Write.suppressed :=
    fun w => ((List.sublist_append_left _ _).flatMap _).subset
  have hwrite : ∀ w : Write, w.suppressed = [] →
      (session.pending ++ [w]).flatMap Write.suppressed = session.pending.flatMap Write.suppressed := by
    intro w hw
    rw [List.flatMap_append, List.flatMap_singleton, hw, List.append_nil]
  obtain ⟨-, hunrecorded, hcounting⟩ := h
  unfold Session.settled at hrecorded
  generalize session.stage = before at hmove hrecorded hunrecorded hcounting
  cases hmove with
  | reject => exact ⟨hrecorded _ (List.Subset.refl _) nofun, nofun, nofun⟩
  | start => exact ⟨hrecorded _ (List.Subset.refl _) nofun, fun _ => rfl, nofun⟩
  | known existing _ =>
    refine ⟨hrecorded _ hsaved ?_, nofun, nofun⟩
    intro eventId hevent
    rw [Option.bind_some, duplicateOrConflict_suppressedEvent] at hevent
    cases hevent
  | unknown hpoint =>
    rcases hpoint with rfl | rfl
    · exact ⟨hrecorded _ (List.Subset.refl _) nofun, fun _ => hunrecorded trivial, nofun⟩
    · exact ⟨hrecorded _ (List.Subset.refl _) nofun, fun _ => hunrecorded trivial, nofun⟩
  | alreadySuppressed hrow =>
    refine ⟨hrecorded _ hsaved ?_, nofun, nofun⟩
    intro eventId hevent
    cases hevent
    exact hrow
  | notSuppressed | quotaRowExists | quotaRowMissing | exhausted =>
    exact ⟨hrecorded _ (List.Subset.refl _) nofun, fun _ => hunrecorded trivial, nofun⟩
  | quotaRowRaced | alertRaced =>
    exact ⟨hrecorded _ (List.Subset.refl _) nofun, fun _ => rfl, nofun⟩
  | quotaRowInserted | consumed =>
    refine ⟨hrecorded _ (List.Subset.refl _) nofun, fun _ => ?_, nofun⟩
    exact (hwrite _ rfl).trans (hunrecorded trivial)
  | accepted =>
    exact ⟨hrecorded _ (List.Subset.trans hsaved (happend _)) nofun, nofun, nofun⟩
  | @suppressed c row hkey =>
    refine ⟨hrecorded _ (List.Subset.refl _) nofun, nofun, ?_⟩
    intro key hcount
    cases hcount
    refine ⟨row, ?_, hkey⟩
    show row ∈ (db.view (session.pending ++ [_])).suppressed
    rw [view_concat]
    exact List.mem_append_right _ (List.mem_singleton_self row)
  | suppressionRaced hrow =>
    -- The rollback takes back no suppressed detection, so the row it has met stays in view.
    refine ⟨hrecorded _ (List.Subset.refl _) ?_, nofun, nofun⟩
    intro eventId hevent
    cases hevent
    exact AlertDb.Suppressed.mono hrow fun _ hmem => hunrecorded trivial ▸ hmem
  | counted =>
    refine ⟨hrecorded _ (List.Subset.trans hsaved (happend _)) ?_, nofun, nofun⟩
    intro eventId hevent
    cases hevent
    exact (hcounting _ rfl).mono (happend _)
  | uncounted =>
    refine ⟨hrecorded _ hsaved ?_, nofun, nofun⟩
    intro eventId hevent
    cases hevent
    exact hcounting _ rfl

/-- The commit of another session takes no record away. -/
theorem Session.Answered.commit {db : AlertDb} {session : Session} (h : session.Answered db)
    (us : List Write) : session.Answered (db.view us) where
  recorded result hresult eventId hevent := (h.recorded result hresult eventId hevent).commit us
  unrecorded := h.unrecorded
  counting key hkey := (h.counting key hkey).commit us

/-! ## Whole runs -/

/-- Every answer of a session that has not been rolled back is recorded. -/
def SyncState.Answered (s : SyncState) : Prop :=
  ∀ (i : ℕ) (session : Session), s.sessions[i]? = some session →
    (∃ failure, session.stage = .aborted failure) ∨ session.Answered s.db

theorem answered_perform {options : AlertQuotaOptions} {s : SyncState} (horderly : s.Orderly)
    (h : s.Answered) {i : ℕ} {session : Session} (hi : s.sessions[i]? = some session) {move : Move}
    (hmove : (∃ failure, move = .fail failure) ∨
      Moves options session.batch (s.db.view session.pending) session.stage move) :
    (s.perform i session move).Answered := by
  intro j other hj
  rcases sessions_perform hj with ⟨-, rfl⟩ | ⟨-, hold⟩
  · cases move with
    | goOn effect result stage =>
      have hmoves := hmove.resolve_left nofun
      right
      apply ((h i session hi).resolve_left ?_).perform (horderly.prefixed i session hi) hmoves
      -- A session that has been rolled back makes no further move.
      intro ⟨failure, hstage⟩
      rw [hstage] at hmoves
      cases hmoves
    | commit =>
      have hmoves := hmove.resolve_left nofun
      rcases h i session hi with ⟨failure, hstage⟩ | hanswered
      · rw [hstage] at hmoves
        cases hmoves
      · refine .inr ⟨?_, nofun, nofun⟩
        intro result hresult eventId hevent
        have hrecorded := hanswered.recorded result hresult eventId hevent
        unfold Session.settled at hrecorded
        generalize session.stage = before at hmoves hrecorded
        cases hmoves
        exact hrecorded
    | fail failure => exact .inl ⟨failure, rfl⟩
  · cases move with
    | commit => exact (h j other hold).imp_right fun hanswered => hanswered.commit session.pending
    | goOn => exact h j other hold
    | fail => exact h j other hold

theorem answered_step {options : AlertQuotaOptions} {s s' : SyncState} {a : SyncAction}
    (horderly : s.Orderly) (h : s.Answered) (hstep : syncStep options s a = some s') : s'.Answered := by
  rcases syncStep_cases hstep with
    ⟨batch, rfl, rfl⟩ | ⟨i, env, session, move, rfl, hi, -, hmove, rfl⟩ | ⟨i, session, rfl, hi, rfl⟩
  · intro j other hj
    rcases sessions_begin hj with rfl | hold
    · exact .inr ⟨nofun, nofun, nofun⟩
    · exact h j other hold
  · exact answered_perform horderly h hi (.inr (statement_moves hmove))
  · exact answered_perform horderly h hi
      (.inl ⟨_, rfl⟩ : _ ∨ Moves options session.batch _ _ _)

/-- No event has a committed Alert and a committed suppressed detection, and no committed batch has
answered `quota_exceeded` for an event with a committed Alert. -/
def SingleRecord (s : SyncState) : Prop :=
  (∀ row ∈ s.db.alerts, ∀ suppressed ∈ s.db.suppressed, row.alert.key ≠ suppressed.key) ∧
    ∀ session ∈ s.sessions, session.stage = .committed →
      ∀ result ∈ session.results, ∀ eventId, result.suppressedEvent = some eventId →
        ∀ row ∈ s.db.alerts, row.alert.key ≠ ⟨session.batch.deviceId, eventId⟩

/-- What is apart, uncommitted rows included, and answered from records is a single record. -/
theorem singleRecord_of_apart {s : SyncState} (hapart : s.Apart) (hanswered : s.Answered) :
    SingleRecord s := by
  have halert : ∀ row ∈ s.db.alerts, row ∈ s.alertRows := fun row hrow => mem_rows.mpr (.inl hrow)
  refine ⟨?_, ?_⟩
  · intro row hrow suppressed hsuppressed
    exact hapart row (halert row hrow) suppressed (mem_rows.mpr (.inl hsuppressed))
  · intro session hsession hstage result hresult eventId hevent row hrow
    obtain ⟨i, hi⟩ := List.mem_iff_getElem?.mp hsession
    rcases hanswered i session hi with ⟨failure, haborted⟩ | hanswered
    · rw [hstage] at haborted
      cases haborted
    · obtain ⟨suppressed, hsuppressed, hkey⟩ :=
        suppressed_iff.mp (hanswered.recorded result hresult eventId hevent)
      rw [Session.settled, hstage] at hsuppressed
      rw [← hkey]
      apply hapart row (halert row hrow) suppressed
      rw [mem_rows]
      apply hsuppressed.imp_right
      intro hpending
      rw [← pending_of_getElem? hi] at hpending
      exact ⟨i, hpending⟩

end WeaponDetection.Backend.AlertSync
