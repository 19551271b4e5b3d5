import WeaponDetection.Backend.AlertSync.BatchIsolation
import WeaponDetection.Backend.AlertSync.SingleRecord

/-!
# Submitting an accepted event again

Batches and Branch edits in any order and any interleaving of the batches' statements.  The Alert of
an event stays what it was, and an event submitted again finds it, but only after its Camera has been
looked up anew: what the Branch has become decides between a duplicate and a rejection
(`resubmission_answered`).
-/

namespace WeaponDetection.Backend.AlertSync

open WeaponDetection.Foundations

/-! ## Batches and edits -/

/-- The batches of the service, and the Branches and Cameras they look up. -/
structure ServiceState where
  sync : SyncState
  branchDb : BranchDb

/-- What can happen next: a step of a batch, or a whole Branch edit. -/
inductive ServiceAction where
  | begin (batch : SyncBatch)
  | advance (i : ℕ) (nowUtc : DateTime) (newGuid : Guid)
  | interrupt (i : ℕ)
  | edit (request : UpdateBranchRequest) (newGuids : List Guid)

/-- What `ResolveCameraIdAsync` answers to the next statement of a session. -/
def ServiceState.lookup (runtime : Runtime) (s : ServiceState) (i : ℕ) : Option Guid :=
  match s.sync.sessions[i]? with
  | none => none
  | some session =>
    match session.stage with
    | .next (evt :: _) => resolveCameraId runtime s.branchDb session.batch.branchId evt.cameraId
    | _ => none

/-- A step of the service.  An edit that fails changes nothing. -/
def serviceStep (options : AlertQuotaOptions) (runtime : Runtime) (s : ServiceState) :
    ServiceAction → Option ServiceState
  | .begin batch => (syncStep options s.sync (.begin batch)).map ({ s with sync := · })
  | .advance i nowUtc newGuid =>
    (syncStep options s.sync (.advance i ⟨nowUtc, newGuid, s.lookup runtime i⟩)).map ({ s with sync := · })
  | .interrupt i => (syncStep options s.sync (.interrupt i)).map ({ s with sync := · })
  | .edit request newGuids =>
    match updateBranch runtime newGuids s.branchDb request with
    | .error _ => some s
    | .ok branchDb => some { s with branchDb }

/-- The service from tables without Alerts on. -/
def serviceSystem (options : AlertQuotaOptions) (runtime : Runtime) :
    TransitionSystem ServiceState ServiceAction where
  init s := s.sync.db.Initial ∧ s.sync.db.alerts = [] ∧ s.sync.sessions = []
  step := serviceStep options runtime

/-! ## Where an Alert comes from -/

/-- An event the Alert was built from. -/
def Alert.Of (alert : Alert) (evt : DetectionEventDto) : Prop :=
  isConfidenceValid evt.confidence = true ∧ isFrameAndBoundingBoxValid evt = true ∧
    ∃ newGuid nowUtc, buildAlert newGuid alert.deviceId alert.cameraId nowUtc evt = .ok alert

/-- An event of a batch an Alert of its Device was built from. -/
def SyncBatch.Submitted (batch : SyncBatch) (alert : Alert) : Prop :=
  batch.deviceId = alert.deviceId ∧ ∃ evt ∈ batch.events, alert.Of evt

/-- The events a stage still works on are events of the batch, and the one under way has passed the
checks. -/
def Stage.Within (batch : SyncBatch) : Stage → Prop
  | .next rest => rest ⊆ batch.events
  | .event c _ => c.evt ∈ batch.events ∧ c.rest ⊆ batch.events ∧
      isConfidenceValid c.evt.confidence = true ∧ isFrameAndBoundingBoxValid c.evt = true
  | .committed | .aborted _ => True

/-- What is known of the Alerts, committed or not. -/
structure SyncState.Documented (s : SyncState) : Prop where
  within : ∀ session ∈ s.sessions, session.stage.Within session.batch
  unique : ∀ row ∈ s.alertRows, ∀ other ∈ s.alertRows, row.alert.key = other.alert.key → row = other
  submitted : ∀ row ∈ s.alertRows, ∃ session ∈ s.sessions, session.batch.Submitted row.alert

/-! ## What a statement keeps -/

/-- The insert of an Alert writes what its constructor has built. -/
theorem eventStatement_insertAlert {options : AlertQuotaOptions} {env : Surroundings} {batch : SyncBatch}
    {view : AlertDb} {c : Current} {point : Point} {row : StoredAlert} {result : Option SyncEventOutcome}
    {stage : Stage}
    (h : eventStatement options env batch view c point = .goOn (.write (.insertAlert row)) result stage) :
    buildAlert env.newGuid batch.deviceId c.resolvedCameraId env.nowUtc c.evt = .ok row.alert := by
  have hmoves := eventStatement_moves options env batch view c point
  rw [h] at hmoves
  cases hmoves with
  | accepted =>
    simp only [eventStatement] at h
    split at h
    · cases h
    · rename_i alert hbuild
      split at h
      · cases h
      · split at h
        · cases h
        · cases h
          exact hbuild

/-- The next event comes under way when it has passed the checks. -/
theorem loopHead_within {env : Surroundings} {batch : SyncBatch} {rest : List DetectionEventDto}
    (h : rest ⊆ batch.events) {effect : Effect} {result : Option SyncEventOutcome} {stage : Stage}
    (hmove : loopHead env rest = .goOn effect result stage) : stage.Within batch := by
  cases rest with
  | nil => cases hmove
  | cons evt rest =>
    have hrest : rest ⊆ batch.events := fun _ hmem => h (List.mem_cons_of_mem _ hmem)
    simp only [loopHead] at hmove
    split at hmove
    · cases hmove
      exact hrest
    · rename_i hconfidence
      split at hmove
      · cases hmove
        exact hrest
      · rename_i hbox
        split at hmove
        · cases hmove
          exact hrest
        · cases hmove
          exact ⟨h List.mem_cons_self, hrest, by simpa using hconfidence, by simpa using hbox⟩

/-- A statement stays within the events of its batch. -/
theorem after_within {options : AlertQuotaOptions} {env : Surroundings} {db : AlertDb} {session : Session}
    {move : Move} (h : session.stage.Within session.batch)
    (hmove : session.statement options env db = some move) :
    (session.after move).stage.Within session.batch := by
  cases move with
  | commit => trivial
  | fail failure => trivial
  | goOn effect result stage =>
    show stage.Within session.batch
    unfold Session.statement at hmove
    split at hmove
    · rename_i rest hstage
      rw [hstage] at h
      exact loopHead_within h (Option.some.inj hmove)
    · rename_i c point hstage
      rw [hstage] at h
      have hmoves := eventStatement_moves options env session.batch (db.view session.pending) c point
      rw [Option.some.inj hmove] at hmoves
      -- An event goes on to another of its statements, or to the events after it.
      cases hmoves with
      | known | alreadySuppressed | accepted | suppressionRaced | counted | uncounted => exact h.2.1
      | unknown | notSuppressed | quotaRowExists | quotaRowMissing | quotaRowRaced | quotaRowInserted
        | consumed | exhausted | alertRaced | suppressed => exact h
    · cases hmove
    · cases hmove

/-- The Alert a statement inserts comes from an event of its batch. -/
theorem submitted_of_statement {options : AlertQuotaOptions} {env : Surroundings} {db : AlertDb}
    {session : Session} {w : Write} {result : Option SyncEventOutcome} {stage : Stage} {row : StoredAlert}
    (h : session.stage.Within session.batch)
    (hmove : session.statement options env db = some (.goOn (.write w) result stage)) (hrow : row ∈ w.alerts) :
    session.batch.Submitted row.alert := by
  unfold Session.statement at hmove
  split at hmove
  · rename_i rest hstage
    have hmoves := loopHead_moves options session.batch db env rest
    rw [Option.some.inj hmove] at hmoves
    cases hmoves
  · rename_i c point hstage
    rw [hstage] at h
    cases w with
    | insertQuota | consumeQuota | insertSuppressed | countSuppression => cases hrow
    | insertAlert stored =>
      rw [Write.alerts, List.mem_singleton] at hrow
      subst hrow
      have hbuild := eventStatement_insertAlert (Option.some.inj hmove)
      obtain ⟨-, -, hdevice, hcamera⟩ := buildAlert_ok hbuild
      refine ⟨hdevice.symm, c.evt, h.1, h.2.2.1, h.2.2.2, env.newGuid, env.nowUtc, ?_⟩
      rw [hdevice, hcamera]
      exact hbuild
  · cases hmove
  · cases hmove

/-! ## What a step keeps -/

/-- An Alert written is the only one its statement writes. -/
theorem eq_of_mem_alerts {w : Write} {row other : StoredAlert} (hrow : row ∈ w.alerts)
    (hother : other ∈ w.alerts) : row = other := by
  cases w with
  | insertQuota | consumeQuota | insertSuppressed | countSuppression => cases hrow
  | insertAlert stored =>
    rw [Write.alerts, List.mem_singleton] at hrow hother
    rw [hrow, hother]

theorem resource_of_mem_alerts {w : Write} {row : StoredAlert} (hrow : row ∈ w.alerts) :
    w.resource = .alert row.alert.key := by
  cases w with
  | insertQuota | consumeQuota | insertSuppressed | countSuppression => cases hrow
  | insertAlert stored =>
    rw [Write.alerts, List.mem_singleton] at hrow
    rw [hrow]
    rfl

/-- No Alert, committed or not, has the key of one that is being inserted. -/
theorem key_ne_of_inserted {options : AlertQuotaOptions} {s : SyncState} {i : ℕ} {session : Session}
    (hi : s.sessions[i]? = some session) (hgranted : s.Granted i session) {w : Write}
    {result : Option SyncEventOutcome} {stage : Stage}
    (hmoves : Moves options session.batch (s.db.view session.pending) session.stage
      (.goOn (.write w) result stage)) {row : StoredAlert} (hrow : row ∈ w.alerts) :
    ∀ other ∈ s.alertRows, other.alert.key ≠ row.alert.key := by
  have hfresh : ∀ other ∈ (s.db.view session.pending).alerts, other.alert.key ≠ row.alert.key := by
    have hmoves' := hmoves
    generalize session.stage = before at hmoves'
    cases hmoves' with
    | quotaRowInserted | consumed | suppressed | counted => cases hrow
    | accepted hkey hfresh =>
      rw [Write.alerts, List.mem_singleton] at hrow
      rw [hrow, show _ = session.batch.key _ from hkey]
      exact hfresh
  rw [view_alerts] at hfresh
  intro other hother heq
  rcases mem_rows.mp hother with hcommitted | ⟨j, hpending⟩
  · exact hfresh other (List.mem_append_left _ hcommitted) heq
  · by_cases hji : j = i
    · subst hji
      rw [pending_of_getElem? hi] at hpending
      exact hfresh other (List.mem_append_right _ hpending) heq
    · -- Another session would hold the key the statement waits for.
      obtain ⟨w', hw', hother'⟩ := List.mem_flatMap.mp hpending
      have hlt : j < s.sessions.length := by
        by_contra hge
        rw [pending_of_length_le (not_lt.mp hge)] at hw'
        cases hw'
      have hwaits : w.resource ∈ session.waitsFor := hmoves.waitsFor_of_write
      apply hgranted w.resource hwaits j hlt hji
      refine ⟨w', hw', ?_⟩
      show w'.resource = w.resource
      rw [resource_of_mem_alerts hother', resource_of_mem_alerts hrow, heq]

/-- A session keeps its batch. -/
theorem batch_after (session : Session) (move : Move) : (session.after move).batch = session.batch := by
  cases move <;> rfl

/-- The batches begun stay begun. -/
theorem exists_batch_perform {s : SyncState} {i : ℕ} {session : Session} (hi : s.sessions[i]? = some session)
    (move : Move) {other : Session} (hother : other ∈ s.sessions) :
    ∃ session' ∈ (s.perform i session move).sessions, session'.batch = other.batch := by
  obtain ⟨j, hj⟩ := List.mem_iff_getElem?.mp hother
  by_cases hji : j = i
  · subst hji
    rw [hi] at hj
    cases hj
    have hlt : j < s.sessions.length := (List.getElem?_eq_some_iff.mp hi).1
    exact ⟨_, List.mem_set hlt _, batch_after session move⟩
  · refine ⟨other, List.mem_iff_getElem?.mpr ⟨j, ?_⟩, rfl⟩
    exact (List.getElem?_set_ne (Ne.symm hji)).trans hj

/-- A move keeps what is known, if what it inserts is new and comes from the batch. -/
theorem SyncState.Documented.perform {s : SyncState} (h : s.Documented) (horderly : s.Orderly) {i : ℕ}
    {session : Session} (hi : s.sessions[i]? = some session) {move : Move}
    (hwithin : (session.after move).stage.Within session.batch)
    (hinsert : ∀ w result stage, move = .goOn (.write w) result stage → ∀ row ∈ w.alerts,
      session.batch.Submitted row.alert ∧ ∀ other ∈ s.alertRows, other.alert.key ≠ row.alert.key) :
    (s.perform i session move).Documented where
  within other hother := by
    rcases List.mem_or_eq_of_mem_set hother with hold | rfl
    · exact h.within other hold
    · rw [batch_after]
      exact hwithin
  unique row hrow other hother hkey := by
    rcases mem_rows_perform view_alerts horderly hi hrow with hold | ⟨w, result, stage, hmove, hnew⟩
    · rcases mem_rows_perform view_alerts horderly hi hother with hold' | ⟨w', result', stage', hmove', hnew'⟩
      · exact h.unique row hold other hold' hkey
      · exact absurd hkey ((hinsert w' result' stage' hmove' other hnew').2 row hold)
    · rcases mem_rows_perform view_alerts horderly hi hother with hold' | ⟨w', result', stage', hmove', hnew'⟩
      · exact absurd hkey.symm ((hinsert w result stage hmove row hnew).2 other hold')
      · rw [hmove] at hmove'
        cases hmove'
        exact eq_of_mem_alerts hnew hnew'
  submitted row hrow := by
    rcases mem_rows_perform view_alerts horderly hi hrow with hold | ⟨w, result, stage, hmove, hnew⟩
    · obtain ⟨other, hother, hsubmitted⟩ := h.submitted row hold
      obtain ⟨session', hsession', hbatch⟩ := exists_batch_perform hi move hother
      exact ⟨session', hsession', hbatch ▸ hsubmitted⟩
    · obtain ⟨session', hsession', hbatch⟩ := exists_batch_perform hi move (List.mem_of_getElem? hi)
      exact ⟨session', hsession', hbatch ▸ (hinsert w result stage hmove row hnew).1⟩

theorem documented_step {options : AlertQuotaOptions} {s s' : SyncState} {a : SyncAction} (horderly : s.Orderly)
    (h : s.Documented) (hstep : syncStep options s a = some s') : s'.Documented := by
  rcases syncStep_cases hstep with
    ⟨batch, rfl, rfl⟩ | ⟨i, env, session, move, rfl, hi, hgranted, hmove, rfl⟩ | ⟨i, session, rfl, hi, rfl⟩
  · refine ⟨?_, ?_, ?_⟩
    · intro session hsession
      rcases List.mem_append.mp hsession with hold | hnew
      · exact h.within session hold
      · rw [List.mem_singleton.mp hnew]
        exact List.Subset.refl batch.events
    · rw [SyncState.alertRows, rows_begin]
      exact h.unique
    · intro row hrow
      rw [SyncState.alertRows, rows_begin] at hrow
      obtain ⟨session, hsession, hsubmitted⟩ := h.submitted row hrow
      exact ⟨session, List.mem_append_left _ hsession, hsubmitted⟩
  · have hwithin := h.within session (List.mem_of_getElem? hi)
    apply h.perform horderly hi (after_within hwithin hmove)
    intro w result stage heq row hrow
    subst heq
    exact ⟨submitted_of_statement hwithin hmove hrow,
      key_ne_of_inserted hi hgranted (statement_moves hmove) hrow⟩
  · have hwithin : (session.after (.fail .interrupted)).stage.Within session.batch := trivial
    apply h.perform horderly hi hwithin
    intro w result stage heq
    cases heq

/-! ## Runs of the service -/

/-- Every step of the service is a step of its batches or leaves them alone. -/
theorem serviceStep_sync {options : AlertQuotaOptions} {runtime : Runtime} {s s' : ServiceState}
    {a : ServiceAction} (h : serviceStep options runtime s a = some s') :
    s'.sync = s.sync ∨ ∃ action, syncStep options s.sync action = some s'.sync := by
  cases a with
  | begin | advance | interrupt =>
    simp only [serviceStep] at h
    obtain ⟨sync, hsync, rfl⟩ := Option.map_eq_some_iff.mp h
    exact .inr ⟨_, hsync⟩
  | edit request newGuids =>
    simp only [serviceStep] at h
    split at h
    · cases h
      exact .inl rfl
    · cases h
      exact .inl rfl

/-- The batches of a reachable service are reachable, and their Alerts documented. -/
theorem service_reachable {options : AlertQuotaOptions} {runtime : Runtime} {s : ServiceState}
    (h : (serviceSystem options runtime).Reachable s) :
    (syncSystem options).Reachable s.sync ∧ s.sync.Documented := by
  apply h.invariant
  · rintro s ⟨hinitial, hempty, hnone⟩
    have hrows : s.sync.alertRows = [] := by
      simp [SyncState.alertRows, SyncState.rows, hempty, hnone]
    refine ⟨.init ⟨hinitial, hnone⟩, ?_, ?_, ?_⟩
    · intro session hsession
      rw [hnone] at hsession
      cases hsession
    · intro row hrow
      rw [hrows] at hrow
      cases hrow
    · intro row hrow
      rw [hrows] at hrow
      cases hrow
  · rintro s a s' ⟨hreach, hdocumented⟩ hstep
    rcases serviceStep_sync hstep with heq | ⟨action, haction⟩
    · rw [heq]
      exact ⟨hreach, hdocumented⟩
    · exact ⟨.step hreach haction, documented_step (orderly_reachable hreach) hdocumented haction⟩

/-! ## The answer to a resubmission -/

/-- What an event is answered whose Alert exists: the Camera is looked up first. -/
def SyncSetting.resubmitted (setting : SyncSetting) (batch : SyncBatch) (evt : DetectionEventDto)
    (alert : Alert) : SyncEventOutcome :=
  match setting.resolve batch evt with
  | none => .rejected evt.eventId .unknownCamera
  | some cameraId =>
    if cameraId = alert.cameraId then .duplicate evt.eventId alert.alertId
    else .rejected evt.eventId .eventDataConflict

section Answer

variable {setting : SyncSetting} {batch : SyncBatch} {db db' : AlertDb} {evt : DetectionEventDto} {row : StoredAlert}

/-- An event matches the Alert built from it as long as its Camera is the same. -/
theorem duplicateOrConflict_of (h : row.alert.Of evt) (cameraId : Guid) (rest : List DetectionEventDto) :
    duplicateOrConflict row.alert ⟨evt, cameraId, rest⟩ =
      if cameraId = row.alert.cameraId then .duplicate evt.eventId row.alert.alertId
      else .rejected evt.eventId .eventDataConflict := by
  obtain ⟨hconfidence, hbox, newGuid, nowUtc, hbuild⟩ := h
  unfold duplicateOrConflict
  by_cases hcamera : cameraId = row.alert.cameraId
  · rw [if_pos hcamera, hcamera, immutableFieldsMatch_buildAlert hconfidence hbox hbuild]
    rfl
  · have hmismatch : immutableFieldsMatch row.alert evt cameraId = false := by
      simp [immutableFieldsMatch, Ne.symm hcamera]
    rw [if_neg hcamera, hmismatch]
    rfl

/-- In a batch that goes through, every submission of the event gets its answer. -/
theorem processEvents_resubmitted {draws : ℕ → Draws} {evts : List DetectionEventDto}
    {results : List SyncEventOutcome} (hof : row.alert.Of evt)
    (hfound : db.findAlert (batch.key evt) = some row)
    (h : processEvents setting batch draws db evts = .ok (db', results)) {i : ℕ} (hi : evts[i]? = some evt) :
    results[i]? = some (setting.resubmitted batch evt row.alert) := by
  induction evts generalizing draws db results i with
  | nil => cases hi
  | cons first rest ih =>
    rcases processEvents_cons_ok h with
      ⟨code, more, hinput, hrest, rfl⟩ | ⟨resolvedCameraId, mid, outcome, more, hinput, hevent, hrest, rfl⟩
    · cases i with
      | succ i => exact ih hfound hrest hi
      | zero =>
        cases hi
        -- Only the Camera can have failed the event.
        have hcode : setting.resolve batch evt = none ∧ code = .unknownCamera := by
          have hinput' := hinput
          simp only [SyncSetting.checkInput, hof.1, hof.2.1, Bool.not_true, Bool.false_eq_true, if_false] at hinput'
          split at hinput'
          · rename_i hresolve
            cases hinput'
            exact ⟨hresolve, rfl⟩
          · cases hinput'
        rw [SyncSetting.resubmitted, hcode.1, hcode.2]
        rfl
    · cases i with
      | succ i => exact ih ((processEvent_ok hevent).follows.findAlert hfound) hrest hi
      | zero =>
        cases hi
        obtain ⟨-, -, hresolve⟩ := checkInput_ok hinput
        unfold processEvent at hevent
        rw [hfound] at hevent
        cases hevent
        rw [SyncSetting.resubmitted, hresolve, duplicateOrConflict_of hof]
        rfl

/-- On its own the event always gets its answer, and changes nothing. -/
theorem syncEvents_resubmitted (draws : ℕ → Draws) (hof : row.alert.Of evt)
    (hfound : db.findAlert (batch.key evt) = some row) (hevents : batch.events = [evt]) :
    syncEvents setting batch draws db = (db, .ok [setting.resubmitted batch evt row.alert]) := by
  unfold syncEvents
  rw [hevents]
  cases hinput : setting.checkInput batch evt with
  | error code =>
    have hrun : processEvents setting batch draws db [evt] = .ok (db, [.rejected evt.eventId code]) :=
      processEvents_reject hinput
    have hanswer := processEvents_resubmitted hof hfound hrun (i := 0) rfl
    rw [hrun, ← Option.some.inj hanswer]
  | ok resolvedCameraId =>
    have hevent : processEvent setting.options batch (draws 0) db evt resolvedCameraId =
        .ok (db, duplicateOrConflict row.alert ⟨evt, resolvedCameraId, []⟩) := by
      simp only [processEvent, hfound]
    have hrun : processEvents setting batch draws db [evt] =
        .ok (db, [duplicateOrConflict row.alert ⟨evt, resolvedCameraId, []⟩]) :=
      processEvents_goOn hinput hevent
    have hanswer := processEvents_resubmitted hof hfound hrun (i := 0) rfl
    rw [hrun, ← Option.some.inj hanswer]

end Answer

/-- Whatever batches and Branch edits there have been: an Alert comes from an event its Device has
submitted, and a submission of such an event is answered as a duplicate with its Alert exactly as
long as its Camera id resolves to the Camera of the Alert.  Otherwise it is rejected: as a conflict
when it resolves to another Camera, and as one of an unknown Camera when it resolves to none. -/
theorem resubmission_answered (options : AlertQuotaOptions) (runtime : Runtime) (s : ServiceState)
    (hreach : (serviceSystem options runtime).Reachable s) (row : StoredAlert) (hrow : row ∈ s.sync.db.alerts) :
    (∃ session ∈ s.sync.sessions, session.batch.Submitted row.alert) ∧
    ∀ (batch : SyncBatch) (evt : DetectionEventDto) (draws : ℕ → Draws),
      batch.deviceId = row.alert.deviceId → row.alert.Of evt →
      (batch.events = [evt] → syncEvents ⟨options, runtime, s.branchDb⟩ batch draws s.sync.db =
        (s.sync.db, .ok [SyncSetting.resubmitted ⟨options, runtime, s.branchDb⟩ batch evt row.alert])) ∧
      ∀ (results : List SyncEventOutcome) (i : ℕ), (syncEvents ⟨options, runtime, s.branchDb⟩ batch draws s.sync.db).2 = .ok results →
        batch.events[i]? = some evt →
        results[i]? = some (SyncSetting.resubmitted ⟨options, runtime, s.branchDb⟩ batch evt row.alert) := by
  obtain ⟨-, hdocumented⟩ := service_reachable hreach
  have hmem : row ∈ s.sync.alertRows := mem_rows.mpr (.inl hrow)
  refine ⟨hdocumented.submitted row hmem, ?_⟩
  intro batch evt draws hdevice hof
  -- The Alert is the only one under its key, so it is the one that is found.
  have hkey : row.alert.key = batch.key evt := by
    obtain ⟨-, -, newGuid, nowUtc, hbuild⟩ := hof
    rw [buildAlert_key hbuild, ← hdevice]
    rfl
  have hfound : s.sync.db.findAlert (batch.key evt) = some row := by
    cases hfind : s.sync.db.findAlert (batch.key evt) with
    | none => exact absurd hkey (findAlert_eq_none_iff.mp hfind row hrow)
    | some other =>
      have hother : other ∈ s.sync.alertRows := mem_rows.mpr (.inl (List.mem_of_find?_eq_some hfind))
      have hkey' : other.alert.key = batch.key evt := by simpa using List.find?_some hfind
      rw [hdocumented.unique row hmem other hother (hkey.trans hkey'.symm)]
  refine ⟨syncEvents_resubmitted draws hof hfound, ?_⟩
  intro results i hresults hi
  unfold syncEvents at hresults
  cases hrun : processEvents ⟨options, runtime, s.branchDb⟩ batch draws s.sync.db batch.events with
  | error failure =>
    rw [hrun] at hresults
    cases hresults
  | ok after =>
    rw [hrun] at hresults
    cases hresults
    exact processEvents_resubmitted hof hfound hrun hi

/-- An edit that leaves the Camera in the Branch leaves the answer alone, for an event that gives its
Camera by id. -/
theorem duplicate_after_edit {options : AlertQuotaOptions} {runtime : Runtime} {db db' : BranchDb}
    {newGuids : List Guid} {request : UpdateBranchRequest} {batch : SyncBatch} {evt : DetectionEventDto}
    {alert : Alert} (hedit : updateBranch runtime newGuids db request = .ok db')
    (hguid : DotNet.guidTryParse (DotNet.trim evt.cameraId) = some alert.cameraId)
    (hresolve : SyncSetting.resolve ⟨options, runtime, db⟩ batch evt = some alert.cameraId)
    (hkept : request.branchId = batch.branchId →
      ∃ m, some m ∈ request.cameras ∧ m.cameraId = some alert.cameraId) :
    SyncSetting.resubmitted ⟨options, runtime, db'⟩ batch evt alert = .duplicate evt.eventId alert.alertId := by
  have hresolve' : SyncSetting.resolve ⟨options, runtime, db'⟩ batch evt = some alert.cameraId :=
    resolveCameraId_updateBranch hedit hguid hresolve hkept
  rw [SyncSetting.resubmitted, hresolve']
  exact if_pos rfl

/-- The sample event, with its Camera given by id. -/
def evtOfCamera7 : DetectionEventDto :=
  { sampleEvent 11 with cameraId := "00000000-0000-0000-0000-000000000007" }

/-- A batch of it. -/
def batchOfCamera7 : SyncBatch := ⟨1, 2, ⟨fun _ => 0⟩, [evtOfCamera7]⟩

/-- The event is accepted; then its Camera is kept under a new name, or replaced by another one. -/
def acceptThenEdit (keep : Bool) : List ServiceAction :=
  .begin batchOfCamera7 :: List.replicate 8 (.advance 0 ⟨638448462100000000, .utc⟩ 100) ++
    [.edit ⟨2, "Depot", "1 Quay", "desk",
      [some ⟨if keep then some 7 else none, "Gate", "rtsp://cam/2", if keep then none else some "gate"⟩]⟩ [8]]

/-- The start of these runs. -/
def sampleService : ServiceState := ⟨⟨emptyTables, []⟩, sampleBranchDb⟩

theorem sampleService_reachable : (serviceSystem onePerDay asciiRuntime).Reachable sampleService :=
  .init ⟨emptyTables_initial, rfl, rfl⟩

/-- A renamed Camera is the same one to an event that gives its id. -/
theorem resubmission_answered_renamedCamera : ∃ (s : ServiceState) (row : StoredAlert),
    row ∈ s.sync.db.alerts ∧ s.branchDb.cameras.map (·.name) = ["Gate"] ∧
    ∀ draws, syncEvents ⟨onePerDay, asciiRuntime, s.branchDb⟩ batchOfCamera7 draws s.sync.db =
      (s.sync.db, .ok [.duplicate 11 100]) := by
  have hrun : (((serviceSystem onePerDay asciiRuntime).exec sampleService (acceptThenEdit true)).map fun s =>
      decide (s.branchDb.cameras.map (·.name) = ["Gate"] ∧
        SyncSetting.resolve ⟨onePerDay, asciiRuntime, s.branchDb⟩ batchOfCamera7 evtOfCamera7 = some 7 ∧
        ∃ row ∈ s.sync.db.alerts, (row.alert.deviceId, row.alert.cameraId, row.alert.alertId) = (1, 7, 100) ∧
          buildAlert 100 1 7 ⟨638448462100000000, .utc⟩ evtOfCamera7 = .ok row.alert)) = some true := by
    decide +kernel
  obtain ⟨s, hs, hend⟩ := Option.map_eq_some_iff.mp hrun
  obtain ⟨hname, hresolve, row, hrow, hids, hbuild⟩ := of_decide_eq_true hend
  obtain ⟨hdevice, hcamera, hid⟩ : row.alert.deviceId = 1 ∧ row.alert.cameraId = 7 ∧ row.alert.alertId = 100 := by
    simpa using hids
  have hof : row.alert.Of evtOfCamera7 := by
    refine ⟨by decide +kernel, by decide +kernel, 100, ⟨638448462100000000, .utc⟩, ?_⟩
    rw [hdevice, hcamera]
    exact hbuild
  refine ⟨s, row, hrow, hname, fun draws => ?_⟩
  have hanswer := ((resubmission_answered onePerDay asciiRuntime s
    (TransitionSystem.Reachable.exec sampleService_reachable hs) row hrow).2 batchOfCamera7 evtOfCamera7 draws
    hdevice.symm hof).1 rfl
  rw [SyncSetting.resubmitted, hresolve] at hanswer
  simp only [hcamera, hid, if_true] at hanswer
  exact hanswer

/-- A replaced Camera is gone: the event is refused although its Alert exists. -/
theorem replaced_camera_rejected : ∃ s : ServiceState,
    (serviceSystem onePerDay asciiRuntime).Reachable s ∧
    (∃ session ∈ s.sync.sessions, session.batch.events = batchOfCamera7.events ∧
      session.results = [.accepted 11 100]) ∧
    (∃ row ∈ s.sync.db.alerts, row.alert.key = batchOfCamera7.key evtOfCamera7 ∧ row.alert.alertId = 100) ∧
    (syncEvents ⟨onePerDay, asciiRuntime, s.branchDb⟩ batchOfCamera7 sampleDraws s.sync.db).2 =
      .ok [.rejected 11 .unknownCamera] := by
  have hrun : (((serviceSystem onePerDay asciiRuntime).exec sampleService (acceptThenEdit false)).map fun s =>
      decide ((∃ session ∈ s.sync.sessions, session.batch.events = batchOfCamera7.events ∧
          session.results = [.accepted 11 100]) ∧
        (∃ row ∈ s.sync.db.alerts, row.alert.key = batchOfCamera7.key evtOfCamera7 ∧ row.alert.alertId = 100) ∧
        (syncEvents ⟨onePerDay, asciiRuntime, s.branchDb⟩ batchOfCamera7 sampleDraws s.sync.db).2 =
          .ok [.rejected 11 .unknownCamera])) = some true := by
    decide +kernel
  obtain ⟨s, hs, hend⟩ := Option.map_eq_some_iff.mp hrun
  exact ⟨s, TransitionSystem.Reachable.exec sampleService_reachable hs, of_decide_eq_true hend⟩

end WeaponDetection.Backend.AlertSync
