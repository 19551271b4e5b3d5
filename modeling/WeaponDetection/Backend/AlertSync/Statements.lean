import WeaponDetection.Backend.AlertSync.Service

/-!
# What a statement of a batch can do

`Moves` lists the moves of a session with what it has seen when it makes them, one constructor for
each way through `SyncEventsAsync`; `statement_moves` says that the list is complete.  The invariants
of the service are case splits over it.  The second half is about the pending writes of all sessions:
the savepoint is a prefix of them, and no two sessions write the same resource.
-/

namespace WeaponDetection.Backend.AlertSync

open WeaponDetection.Foundations

/-! ## Constructors -/

/-- A built Alert is entered under the key of its event. -/
theorem buildAlert_key {newGuid deviceId cameraId : Guid} {nowUtc : DateTime}
    {evt : DetectionEventDto} {alert : Alert}
    (h : buildAlert newGuid deviceId cameraId nowUtc evt = .ok alert) :
    alert.key = ⟨deviceId, evt.eventId⟩ := by
  unfold buildAlert at h
  cases hcheck : Alert.check deviceId cameraId evt with
  | error e =>
    rw [hcheck] at h
    cases h
  | ok =>
    rw [hcheck] at h
    cases h
    rfl

/-- A suppressed detection is recorded under the key of its event, for the slot it is given. -/
theorem create_key_slot {deviceId eventId : Guid} {slot : Slot} {className reason : String}
    {detectedAtUtc createdAtUtc : DateTime} {row : SuppressedDetectionEvent}
    (h : SuppressedDetectionEvent.create deviceId eventId slot className detectedAtUtc reason
      createdAtUtc = .ok row) :
    row.key = ⟨deviceId, eventId⟩ ∧ row.slot = slot := by
  unfold SuppressedDetectionEvent.create at h
  cases hcheck : SuppressedDetectionEvent.check deviceId eventId slot className reason with
  | error e =>
    rw [hcheck] at h
    cases h
  | ok =>
    rw [hcheck] at h
    cases h
    exact ⟨rfl, rfl⟩

/-! ## Look-ups -/

theorem findAlert_eq_none_iff {db : AlertDb} {key : EventKey} :
    db.findAlert key = none ↔ ∀ row ∈ db.alerts, row.alert.key ≠ key := by
  simp [AlertDb.findAlert]

theorem isSuppressed_eq_true_iff {db : AlertDb} {key : EventKey} :
    db.isSuppressed key = true ↔ ∃ row ∈ db.suppressed, row.key = key := by
  simp [AlertDb.isSuppressed]

theorem isSuppressed_eq_false_iff {db : AlertDb} {key : EventKey} :
    db.isSuppressed key = false ↔ ∀ row ∈ db.suppressed, row.key ≠ key := by
  simp [AlertDb.isSuppressed]

theorem duplicateOrConflict_suppressedEvent (existing : Alert) (c : Current) :
    (duplicateOrConflict existing c).suppressedEvent = none := by
  unfold duplicateOrConflict
  split
  · rfl
  · rfl

/-- No event counts as both a gun and a knife. -/
theorem not_gun_and_knife (evt : DetectionEventDto) :
    ¬ (isClass "gun" evt = true ∧ isClass "knife" evt = true) := by
  intro ⟨hgun, hknife⟩
  rw [isClass, beq_iff_eq] at hgun hknife
  rw [hgun] at hknife
  exact absurd hknife (by decide)

/-! ## Moves -/

/-- The moves of a session of a batch at each stage, on the tables as it sees them. -/
inductive Moves (options : AlertQuotaOptions) (batch : SyncBatch) (view : AlertDb) :
    Stage → Move → Prop where
  | finish : Moves options batch view (.next []) .commit
  | fail {c : Current} {point : Point} {failure : Failure} :
      Moves options batch view (.event c point) (.fail failure)
  | reject {evt : DetectionEventDto} {rest : List DetectionEventDto} {code : SyncEventErrorCode} :
      Moves options batch view (.next (evt :: rest))
        (.goOn .keep (some (.rejected evt.eventId code)) (.next rest))
  | start {evt : DetectionEventDto} {rest : List DetectionEventDto} {cameraId : Guid} :
      Moves options batch view (.next (evt :: rest))
        (.goOn .createSavepoint none (.event ⟨evt, cameraId, rest⟩ .lookupAlert))
  /-- The Alert of the event exists. -/
  | known {c : Current} {point : Point} (existing : Alert)
      (hpoint : point = .lookupAlert ∨ point = .resolveDuplicate) :
      Moves options batch view (.event c point)
        (.goOn .keep (some (duplicateOrConflict existing c)) (.next c.rest))
  /-- It does not. -/
  | unknown {c : Current} {point : Point} (hpoint : point = .lookupSuppressed ∨ point = .insertAlert none) :
      Moves options batch view (.event c .lookupAlert) (.goOn .keep none (.event c point))
  | alreadySuppressed {c : Current} {maximum : ℕ} {localDate : String}
      (hrow : ∃ row ∈ view.suppressed, row.key = batch.key c.evt) :
      Moves options batch view (.event c .lookupSuppressed)
        (.goOn .keep (some (.quotaExceeded c.evt.eventId maximum localDate)) (.next c.rest))
  | notSuppressed {c : Current} :
      Moves options batch view (.event c .lookupSuppressed) (.goOn .keep none (.event c .lookupQuotaRow))
  | quotaRowExists {c : Current} (hrow : (view.quotas (batch.slot c.evt)).isSome) :
      Moves options batch view (.event c .lookupQuotaRow) (.goOn .keep none (.event c .consumeQuota))
  | quotaRowMissing {c : Current} :
      Moves options batch view (.event c .lookupQuotaRow) (.goOn .keep none (.event c .insertQuotaRow))
  /-- Another batch has inserted the row since. -/
  | quotaRowRaced {c : Current} (hrow : (view.quotas (batch.slot c.evt)).isSome) :
      Moves options batch view (.event c .insertQuotaRow) (.goOn .rollback none (.event c .consumeQuota))
  | quotaRowInserted {c : Current} (hrow : view.quotas (batch.slot c.evt) = none) :
      Moves options batch view (.event c .insertQuotaRow)
        (.goOn (.write (.insertQuota (batch.slot c.evt))) none (.event c .consumeQuota))
  | consumed {c : Current} {q : BranchDailyAlertQuota} (hrow : view.quotas (batch.slot c.evt) = some q)
      (hfree : q.acceptedAlertCount < options.maximumPerBranchPerDay) :
      Moves options batch view (.event c .consumeQuota)
        (.goOn (.write (.consumeQuota (batch.slot c.evt))) none
          (.event c (.insertAlert (some (batch.slot c.evt)))))
  | exhausted {c : Current} :
      Moves options batch view (.event c .consumeQuota) (.goOn .keep none (.event c .insertSuppressed))
  | accepted {c : Current} {charge : Option Slot} {alert : Alert} (hkey : alert.key = batch.key c.evt)
      (hfresh : ∀ row ∈ view.alerts, row.alert.key ≠ batch.key c.evt) :
      Moves options batch view (.event c (.insertAlert charge))
        (.goOn (.write (.insertAlert ⟨alert, charge⟩)) (some (.accepted c.evt.eventId alert.alertId))
          (.next c.rest))
  /-- Another batch has inserted the Alert since. -/
  | alertRaced {c : Current} {charge : Option Slot} :
      Moves options batch view (.event c (.insertAlert charge))
        (.goOn .rollback none (.event c .resolveDuplicate))
  | suppressed {c : Current} {row : SuppressedDetectionEvent} (hkey : row.key = batch.key c.evt)
      (hslot : row.slot = batch.slot c.evt)
      (hfresh : ∀ other ∈ view.suppressed, other.key ≠ batch.key c.evt) :
      Moves options batch view (.event c .insertSuppressed)
        (.goOn (.write (.insertSuppressed row)) none (.event c .countSuppression))
  /-- Another batch has recorded the suppression since. -/
  | suppressionRaced {c : Current} {maximum : ℕ} {localDate : String}
      (hrow : ∃ row ∈ view.suppressed, row.key = batch.key c.evt) :
      Moves options batch view (.event c .insertSuppressed)
        (.goOn .rollback (some (.quotaExceeded c.evt.eventId maximum localDate)) (.next c.rest))
  | counted {c : Current} {q : BranchDailyAlertQuota} {isGun isKnife : Bool} {nowUtc : DateTime}
      {maximum : ℕ} {localDate : String} (hrow : view.quotas (batch.slot c.evt) = some q)
      (hclass : ¬ (isGun = true ∧ isKnife = true)) :
      Moves options batch view (.event c .countSuppression)
        (.goOn (.write (.countSuppression (batch.slot c.evt) isGun isKnife nowUtc))
          (some (.quotaExceeded c.evt.eventId maximum localDate)) (.next c.rest))
  /-- There is no row to count on. -/
  | uncounted {c : Current} {maximum : ℕ} {localDate : String}
      (hrow : view.quotas (batch.slot c.evt) = none) :
      Moves options batch view (.event c .countSuppression)
        (.goOn .keep (some (.quotaExceeded c.evt.eventId maximum localDate)) (.next c.rest))

theorem loopHead_moves (options : AlertQuotaOptions) (batch : SyncBatch) (view : AlertDb)
    (env : Surroundings) (rest : List DetectionEventDto) :
    Moves options batch view (.next rest) (loopHead env rest) := by
  unfold loopHead
  split
  · exact .finish
  · split
    · exact .reject
    · split
      · exact .reject
      · split
        · exact .reject
        · exact .start

theorem eventStatement_moves (options : AlertQuotaOptions) (env : Surroundings) (batch : SyncBatch)
    (view : AlertDb) (c : Current) (point : Point) :
    Moves options batch view (.event c point) (eventStatement options env batch view c point) := by
  cases point with
  | lookupAlert =>
    simp only [eventStatement]
    split
    · exact .known _ (.inl rfl)
    · split
      · exact .unknown (.inr rfl)
      · exact .unknown (.inl rfl)
  | lookupSuppressed =>
    simp only [eventStatement]
    split
    · exact .alreadySuppressed (isSuppressed_eq_true_iff.mp ‹_›)
    · exact .notSuppressed
  | lookupQuotaRow =>
    simp only [eventStatement]
    split
    · exact .quotaRowExists ‹_›
    · exact .quotaRowMissing
  | insertQuotaRow =>
    simp only [eventStatement]
    split
    · exact .fail
    · split
      · exact .quotaRowRaced ‹_›
      · rename_i hrow
        rw [Bool.not_eq_true, Option.isSome_eq_false_iff, Option.isNone_iff_eq_none] at hrow
        exact .quotaRowInserted hrow
  | consumeQuota =>
    simp only [eventStatement]
    split
    · exact .exhausted
    · split
      · exact .consumed ‹_› ‹_›
      · exact .exhausted
  | insertAlert charge =>
    simp only [eventStatement]
    split
    · exact .fail
    · rename_i alert hbuild
      have hkey : alert.key = batch.key c.evt := buildAlert_key hbuild
      split
      · exact .fail
      · split
        · exact .alertRaced
        · rename_i hfresh
          rw [hkey, Bool.not_eq_true, Option.isSome_eq_false_iff, Option.isNone_iff_eq_none] at hfresh
          exact .accepted hkey (findAlert_eq_none_iff.mp hfresh)
  | resolveDuplicate =>
    simp only [eventStatement]
    split
    · exact .fail
    · exact .known _ (.inr rfl)
  | insertSuppressed =>
    simp only [eventStatement]
    split
    · exact .fail
    · rename_i row hcreate
      obtain ⟨hkey, hslot⟩ := create_key_slot hcreate
      change row.key = batch.key c.evt at hkey
      split
      · rename_i hrow
        rw [hkey] at hrow
        exact .suppressionRaced (isSuppressed_eq_true_iff.mp hrow)
      · rename_i hfresh
        rw [hkey, Bool.not_eq_true] at hfresh
        exact .suppressed hkey hslot (isSuppressed_eq_false_iff.mp hfresh)
  | countSuppression =>
    simp only [eventStatement]
    split
    · exact .uncounted ‹_›
    · split
      · exact .counted ‹_› (not_gun_and_knife c.evt)
      · exact .fail

/-- Every statement is one of the moves. -/
theorem statement_moves {options : AlertQuotaOptions} {env : Surroundings} {db : AlertDb}
    {session : Session} {move : Move} (h : session.statement options env db = some move) :
    Moves options session.batch (db.view session.pending) session.stage move := by
  unfold Session.statement at h
  split at h
  · rename_i rest hstage
    cases h
    rw [hstage]
    exact loopHead_moves options session.batch _ env rest
  · rename_i c point hstage
    cases h
    rw [hstage]
    exact eventStatement_moves options env session.batch _ c point
  · cases h
  · cases h

/-- The steps of the service. -/
theorem syncStep_cases {options : AlertQuotaOptions} {s s' : SyncState} {a : SyncAction}
    (h : syncStep options s a = some s') :
    (∃ batch, a = .begin batch ∧ s' = { s with sessions := s.sessions ++ [batch.session] }) ∨
    (∃ i env session move, a = .advance i env ∧ s.sessions[i]? = some session ∧ s.Granted i session ∧
      session.statement options env s.db = some move ∧ s' = s.perform i session move) ∨
    (∃ i session, a = .interrupt i ∧ s.sessions[i]? = some session ∧
      s' = s.perform i session (.fail .interrupted)) := by
  cases a with
  | begin batch =>
    cases h
    exact .inl ⟨batch, rfl, rfl⟩
  | advance i env =>
    simp only [syncStep, Option.bind_eq_some_iff] at h
    obtain ⟨session, hi, h⟩ := h
    split at h
    · rw [Option.map_eq_some_iff] at h
      obtain ⟨move, hmove, rfl⟩ := h
      exact .inr (.inl ⟨i, env, session, move, rfl, hi, ‹_›, hmove, rfl⟩)
    · cases h
  | interrupt i =>
    simp only [syncStep, Option.bind_eq_some_iff] at h
    obtain ⟨session, hi, h⟩ := h
    split at h
    · cases h
    · cases h
    · cases h
      exact .inr (.inr ⟨i, session, rfl, hi, rfl⟩)

/-! ## Pending writes -/

theorem pending_of_getElem? {s : SyncState} {i : ℕ} {session : Session}
    (h : s.sessions[i]? = some session) : s.pending i = session.pending := by
  rw [SyncState.pending, h]

/-- A session that does not exist has written nothing. -/
theorem pending_of_length_le {s : SyncState} {i : ℕ} (h : s.sessions.length ≤ i) :
    s.pending i = [] := by
  rw [SyncState.pending, List.getElem?_eq_none h]

theorem pending_begin (s : SyncState) (batch : SyncBatch) :
    ({ s with sessions := s.sessions ++ [batch.session] } : SyncState).pending = s.pending := by
  funext j
  rcases Nat.lt_trichotomy j s.sessions.length with hlt | heq | hgt
  · simp [SyncState.pending, List.getElem?_append_left hlt]
  · subst heq
    simp [SyncState.pending, SyncBatch.session]
  · rw [pending_of_length_le (Nat.le_of_lt hgt), pending_of_length_le (by simp; omega)]

theorem pending_perform {s : SyncState} {i : ℕ} {session : Session}
    (h : s.sessions[i]? = some session) (move : Move) :
    (s.perform i session move).pending = Function.update s.pending i (session.after move).pending := by
  have hlt : i < s.sessions.length := (List.getElem?_eq_some_iff.mp h).1
  funext j
  by_cases hji : j = i
  · subst hji
    rw [Function.update_self]
    exact pending_of_getElem? (List.getElem?_set_self hlt)
  · rw [Function.update_of_ne hji]
    unfold SyncState.pending SyncState.perform
    rw [List.getElem?_set_ne (Ne.symm hji)]

/-- The sessions after a move: the one that moved, and the others as they were. -/
theorem sessions_perform {s : SyncState} {i j : ℕ} {session other : Session} {move : Move}
    (h : (s.perform i session move).sessions[j]? = some other) :
    (j = i ∧ other = session.after move) ∨ (j ≠ i ∧ s.sessions[j]? = some other) := by
  change (s.sessions.set i (session.after move))[j]? = some other at h
  by_cases hji : j = i
  · subst hji
    rw [List.getElem?_set] at h
    split at h
    · split at h
      · cases h
        exact .inl ⟨rfl, rfl⟩
      · cases h
    · contradiction
  · rw [List.getElem?_set_ne (Ne.symm hji)] at h
    exact .inr ⟨hji, h⟩

/-- The sessions after a batch has begun. -/
theorem sessions_begin {s : SyncState} {batch : SyncBatch} {j : ℕ} {other : Session}
    (h : (s.sessions ++ [batch.session])[j]? = some other) :
    other = batch.session ∨ s.sessions[j]? = some other := by
  rw [List.getElem?_append] at h
  split at h
  · exact .inr h
  · rw [List.getElem?_singleton] at h
    split at h
    · cases h
      exact .inl rfl
    · cases h

/-- A writing statement waits for what it writes. -/
theorem Moves.waitsFor_of_write {options : AlertQuotaOptions} {session : Session} {view : AlertDb}
    {w : Write} {result : Option SyncEventOutcome} {stage : Stage}
    (h : Moves options session.batch view session.stage (.goOn (.write w) result stage)) :
    session.waitsFor = some w.resource := by
  unfold Session.waitsFor
  generalize session.stage = before at h
  cases h with
  | quotaRowInserted | consumed | counted => rfl
  | accepted hkey => exact congrArg (fun k => some (Resource.alert k)) hkey.symm
  | suppressed hkey => exact congrArg (fun k => some (Resource.suppressed k)) hkey.symm

/-- The pending writes are in order: what a rollback would leave is part of them, and no two
sessions write the same row or unique key. -/
structure SyncState.Orderly (s : SyncState) : Prop where
  exclusive : alertStore.Exclusive s.pending
  prefixed : ∀ (i : ℕ) (session : Session), s.sessions[i]? = some session →
    session.savepoint <+: session.pending

theorem Session.after_prefixed {session : Session} (h : session.savepoint <+: session.pending)
    (move : Move) : (session.after move).savepoint <+: (session.after move).pending := by
  cases move with
  | goOn effect result stage =>
    cases effect with
    | keep => exact h
    | createSavepoint => exact List.prefix_refl _
    | write w => exact h.trans (List.prefix_append _ _)
    | rollback => exact List.prefix_refl _
  | commit => exact List.prefix_refl _
  | fail failure => exact List.prefix_refl _

/-- A granted move writes nothing new that another session has written. -/
theorem after_touches {options : AlertQuotaOptions} {s : SyncState} (h : s.Orderly) {i : ℕ}
    {session : Session} (hi : s.sessions[i]? = some session) {view : AlertDb} {move : Move}
    (hgranted : s.Granted i session) (hmove : Moves options session.batch view session.stage move)
    (r : Resource) (hr : alertStore.Touches (session.after move).pending r) :
    alertStore.Touches (s.pending i) r ∨ ∀ j, j ≠ i → ¬ alertStore.Touches (s.pending j) r := by
  rw [pending_of_getElem? hi]
  cases move with
  | goOn effect result stage =>
    cases effect with
    | keep => exact .inl hr
    | createSavepoint => exact .inl hr
    | rollback => exact .inl (hr.mono (h.prefixed i session hi).subset)
    | write w =>
      rcases alertStore.touches_concat.mp hr with hold | hnew
      · exact .inl hold
      · right
        intro j hne
        by_cases hj : j < s.sessions.length
        · exact hgranted r (by rw [hmove.waitsFor_of_write]; exact congrArg some hnew) j hj hne
        · rw [pending_of_length_le (not_lt.mp hj)]
          exact alertStore.not_touches_nil r
  | commit => exact absurd hr (alertStore.not_touches_nil r)
  | fail failure => exact absurd hr (alertStore.not_touches_nil r)

/-- Every step keeps the pending writes in order. -/
theorem orderly_step {options : AlertQuotaOptions} {s s' : SyncState} {a : SyncAction}
    (h : s.Orderly) (hstep : syncStep options s a = some s') : s'.Orderly := by
  have hperform : ∀ (i : ℕ) (session : Session) (move : Move), s.sessions[i]? = some session →
      (∀ r, alertStore.Touches (session.after move).pending r →
        alertStore.Touches (s.pending i) r ∨ ∀ j, j ≠ i → ¬ alertStore.Touches (s.pending j) r) →
      (s.perform i session move).Orderly := by
    intro i session move hi htouches
    refine ⟨?_, ?_⟩
    · rw [pending_perform hi]
      exact h.exclusive.update htouches
    · intro j other hj
      rcases sessions_perform hj with ⟨rfl, rfl⟩ | ⟨-, hold⟩
      · exact Session.after_prefixed (h.prefixed j session hi) move
      · exact h.prefixed j other hold
  rcases syncStep_cases hstep with
    ⟨batch, rfl, rfl⟩ | ⟨i, env, session, move, rfl, hi, hgranted, hmove, rfl⟩ | ⟨i, session, rfl, hi, rfl⟩
  · refine ⟨?_, ?_⟩
    · rw [pending_begin]
      exact h.exclusive
    · intro j other hj
      rcases sessions_begin hj with rfl | hold
      · exact List.prefix_refl _
      · exact h.prefixed j other hold
  · exact hperform i session move hi (after_touches h hi hgranted (statement_moves hmove))
  · apply hperform i session _ hi
    intro r hr
    exact absurd hr (alertStore.not_touches_nil r)

theorem orderly_reachable {options : AlertQuotaOptions} {s : SyncState}
    (h : (syncSystem options).Reachable s) : s.Orderly := by
  apply h.invariant
  · intro s ⟨_, hnone⟩
    have hpending : ∀ i, s.pending i = [] := by
      intro i
      apply pending_of_length_le
      rw [hnone]
      exact Nat.zero_le i
    refine ⟨?_, ?_⟩
    · intro i j r _ hi _
      rw [hpending] at hi
      exact alertStore.not_touches_nil r hi
    · intro i session hi
      rw [hnone] at hi
      contradiction
  · intro s a s' hs hstep
    exact orderly_step hs hstep

end WeaponDetection.Backend.AlertSync
