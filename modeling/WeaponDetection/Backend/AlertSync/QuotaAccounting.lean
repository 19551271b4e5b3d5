import WeaponDetection.Backend.AlertSync.Statements

/-!
# The quota rows agree with what they count

Every `BranchDailyAlertQuota` row counts the Alerts that were charged to it and the suppressed
detections of its Branch and day, and never more Alerts than the maximum.  A session's view of the
tables satisfies the same equations up to one statement it still owes: the Alert between the
conditional increment and its insert, the count between a suppressed detection and its counters.
Since a commit publishes a view that owes nothing, what is left to see is that the commit of one
session does not disturb the views of the others, and that is the row lock of the increment.
-/

namespace WeaponDetection.Backend.AlertSync

open WeaponDetection.Foundations

/-! ## Accounts -/

/-- The Alerts that were inserted against a slot. -/
def AlertDb.charged (db : AlertDb) (slot : Slot) : ℕ :=
  db.alerts.countP fun row => row.chargedTo = some slot

/-- The suppressed detections of a slot. -/
def AlertDb.suppressedFor (db : AlertDb) (slot : Slot) : ℕ :=
  db.suppressed.countP fun row => row.slot = slot

/-- The counters of a slot, all zero before there is a row. -/
def AlertDb.counters (db : AlertDb) (slot : Slot) : BranchDailyAlertQuota := (db.quotas slot).getD .fresh

/-- One for the slot a session owes a statement to. -/
def owed (debt : Option Slot) (slot : Slot) : ℕ := if debt = some slot then 1 else 0

/-- The counters of a slot agree with the rows, but for an Alert or a count that is owed. -/
structure AlertDb.Balanced (db : AlertDb) (options : AlertQuotaOptions)
    (alertDebt countDebt : Option Slot) (slot : Slot) : Prop where
  accepted : (db.counters slot).acceptedAlertCount = db.charged slot + owed alertDebt slot
  atMost : (db.counters slot).acceptedAlertCount ≤ options.maximumPerBranchPerDay
  suppressed : (db.counters slot).suppressedDetectionCount + owed countDebt slot = db.suppressedFor slot
  classes : (db.counters slot).gunSuppressedCount + (db.counters slot).knifeSuppressedCount ≤
    (db.counters slot).suppressedDetectionCount

/-- Every slot agrees. -/
def AlertDb.Accounts (db : AlertDb) (options : AlertQuotaOptions) (alertDebt countDebt : Option Slot) :
    Prop := ∀ slot, db.Balanced options alertDebt countDebt slot

@[simp] theorem owed_none (slot : Slot) : owed none slot = 0 := rfl

@[simp] theorem owed_self (slot : Slot) : owed (some slot) slot = 1 := if_pos rfl

theorem owed_of_ne {slot other : Slot} (h : slot ≠ other) : owed (some slot) other = 0 :=
  if_neg fun heq => h (Option.some.inj heq)

theorem charged_apply (db : AlertDb) (w : Write) (slot : Slot) :
    (w.apply db).charged slot = db.charged slot + w.alerts.countP fun row => row.chargedTo = some slot :=
  List.countP_append

theorem suppressedFor_apply (db : AlertDb) (w : Write) (slot : Slot) :
    (w.apply db).suppressedFor slot =
      db.suppressedFor slot + w.suppressed.countP fun row => row.slot = slot :=
  List.countP_append

theorem charged_view (db : AlertDb) (ws : List Write) (slot : Slot) :
    (db.view ws).charged slot =
      db.charged slot + (ws.flatMap Write.alerts).countP fun row => row.chargedTo = some slot := by
  rw [AlertDb.charged, view_alerts, List.countP_append]
  rfl

theorem suppressedFor_view (db : AlertDb) (ws : List Write) (slot : Slot) :
    (db.view ws).suppressedFor slot =
      db.suppressedFor slot + (ws.flatMap Write.suppressed).countP fun row => row.slot = slot := by
  rw [AlertDb.suppressedFor, view_suppressed, List.countP_append]
  rfl

/-! ## What a write does to the accounts -/

section Writes

variable {options : AlertQuotaOptions} {db : AlertDb} {alertDebt countDebt : Option Slot}

/-- A write about something else than the quota row of a slot leaves its counters alone. -/
theorem counters_apply_of_ne {w : Write} {slot : Slot} (h : w.resource ≠ .quota slot) :
    (w.apply db).counters slot = db.counters slot := by
  rw [AlertDb.counters, quotas_apply_of_ne h]
  rfl

theorem counters_apply_of_eq {w : Write} {slot : Slot} (h : w.resource = .quota slot) :
    (w.apply db).counters slot = (w.onQuota (db.quotas slot)).getD .fresh := by
  rw [AlertDb.counters, quotas_apply_of_eq h]

/-- An inserted quota row counts nothing yet. -/
theorem Accounts.insertQuota (h : db.Accounts options alertDebt countDebt) (slot : Slot) :
    ((Write.insertQuota slot).apply db).Accounts options alertDebt countDebt := by
  intro other
  have hcounters : ((Write.insertQuota slot).apply db).counters other = db.counters other := by
    by_cases hslot : other = slot
    · subst hslot
      rw [counters_apply_of_eq rfl]
      show ((db.quotas other).or (some .fresh)).getD .fresh = (db.quotas other).getD .fresh
      cases db.quotas other <;> rfl
    · exact counters_apply_of_ne fun hr => hslot (by cases hr; rfl)
  obtain ⟨haccepted, hatMost, hsuppressed, hclasses⟩ := h other
  refine ⟨?_, ?_, ?_, ?_⟩ <;> rw [hcounters]
  · rw [charged_apply]
    exact haccepted
  · exact hatMost
  · rw [suppressedFor_apply]
    exact hsuppressed
  · exact hclasses

/-- A conditional increment leaves an Alert owed to its slot. -/
theorem Accounts.consume (h : db.Accounts options none none) {slot : Slot} {q : BranchDailyAlertQuota}
    (hrow : db.quotas slot = some q) (hfree : q.acceptedAlertCount < options.maximumPerBranchPerDay) :
    ((Write.consumeQuota slot).apply db).Accounts options (some slot) none := by
  intro other
  obtain ⟨haccepted, hatMost, hsuppressed, hclasses⟩ := h other
  have hcharged : ((Write.consumeQuota slot).apply db).charged other = db.charged other := charged_apply ..
  have hrows : ((Write.consumeQuota slot).apply db).suppressedFor other = db.suppressedFor other :=
    suppressedFor_apply ..
  by_cases hslot : slot = other
  · subst hslot
    have hold : db.counters slot = q := by rw [AlertDb.counters, hrow]; rfl
    have hnew : ((Write.consumeQuota slot).apply db).counters slot = q.consume := by
      rw [counters_apply_of_eq rfl, hrow]
      rfl
    rw [hold] at haccepted hsuppressed hclasses
    refine ⟨?_, ?_, ?_, ?_⟩ <;> rw [hnew]
    · show q.acceptedAlertCount + 1 = _
      rw [hcharged, haccepted, owed_none, owed_self]
    · exact hfree
    · rw [hrows]
      exact hsuppressed
    · exact hclasses
  · have hnew : ((Write.consumeQuota slot).apply db).counters other = db.counters other :=
      counters_apply_of_ne fun hr => hslot (by cases hr; rfl)
    refine ⟨?_, ?_, ?_, ?_⟩ <;> rw [hnew]
    · rw [hcharged, haccepted, owed_none, owed_of_ne hslot]
    · exact hatMost
    · rw [hrows]
      exact hsuppressed
    · exact hclasses

/-- The Alert that was owed is inserted. -/
theorem Accounts.insertAlert {charge : Option Slot} (h : db.Accounts options charge none) (alert : Alert) :
    ((Write.insertAlert ⟨alert, charge⟩).apply db).Accounts options none none := by
  intro slot
  obtain ⟨haccepted, hatMost, hsuppressed, hclasses⟩ := h slot
  have hcounters : ((Write.insertAlert ⟨alert, charge⟩).apply db).counters slot = db.counters slot :=
    counters_apply_of_ne nofun
  refine ⟨?_, ?_, ?_, ?_⟩ <;> rw [hcounters]
  · rw [charged_apply, haccepted, owed_none]
    show _ = _ + List.countP _ [_] + 0
    rw [List.countP_singleton, owed]
    simp only [decide_eq_true_eq, Nat.add_zero]
  · exact hatMost
  · rw [suppressedFor_apply]
    exact hsuppressed
  · exact hclasses

/-- A recorded suppression leaves its count owed. -/
theorem Accounts.insertSuppressed (h : db.Accounts options none none) (row : SuppressedDetectionEvent) :
    ((Write.insertSuppressed row).apply db).Accounts options none (some row.slot) := by
  intro slot
  obtain ⟨haccepted, hatMost, hsuppressed, hclasses⟩ := h slot
  have hcounters : ((Write.insertSuppressed row).apply db).counters slot = db.counters slot :=
    counters_apply_of_ne nofun
  refine ⟨?_, ?_, ?_, ?_⟩ <;> rw [hcounters]
  · rw [charged_apply]
    exact haccepted
  · exact hatMost
  · rw [suppressedFor_apply, ← hsuppressed, owed_none]
    show _ = _ + List.countP _ [_]
    rw [List.countP_singleton, owed]
    simp only [decide_eq_true_eq, Nat.add_zero, Option.some.injEq]
  · exact hclasses

/-- The count that was owed is taken. -/
theorem Accounts.countSuppression {slot : Slot} (h : db.Accounts options none (some slot))
    {q : BranchDailyAlertQuota} (hrow : db.quotas slot = some q) {isGun isKnife : Bool}
    (hclass : ¬ (isGun = true ∧ isKnife = true)) (nowUtc : DateTime) :
    ((Write.countSuppression slot isGun isKnife nowUtc).apply db).Accounts options none none := by
  intro other
  obtain ⟨haccepted, hatMost, hsuppressed, hclasses⟩ := h other
  have hcharged : ((Write.countSuppression slot isGun isKnife nowUtc).apply db).charged other =
      db.charged other := charged_apply ..
  have hrows : ((Write.countSuppression slot isGun isKnife nowUtc).apply db).suppressedFor other =
      db.suppressedFor other := suppressedFor_apply ..
  by_cases hslot : slot = other
  · subst hslot
    have hold : db.counters slot = q := by rw [AlertDb.counters, hrow]; rfl
    have hnew : ((Write.countSuppression slot isGun isKnife nowUtc).apply db).counters slot =
        q.countSuppression isGun isKnife nowUtc := by
      rw [counters_apply_of_eq rfl, hrow]
      rfl
    rw [hold] at haccepted hatMost hsuppressed hclasses
    refine ⟨?_, ?_, ?_, ?_⟩ <;> rw [hnew]
    · rw [hcharged]
      exact haccepted
    · exact hatMost
    · rw [hrows, ← hsuppressed, owed_none, owed_self]
      rfl
    · -- At most one of the two class counters moves, and the total does.
      show (if isGun then _ else _) + (if isKnife then _ else _) ≤ q.suppressedDetectionCount + 1
      cases isGun with
      | false => cases isKnife <;> simp only [Bool.false_eq_true, ↓reduceIte] <;> omega
      | true =>
        have hknife : isKnife = false := by simpa using hclass
        simp only [hknife, Bool.false_eq_true, ↓reduceIte]
        omega
  · have hnew : ((Write.countSuppression slot isGun isKnife nowUtc).apply db).counters other =
        db.counters other := counters_apply_of_ne fun hr => hslot (by cases hr; rfl)
    refine ⟨?_, ?_, ?_, ?_⟩ <;> rw [hnew]
    · rw [hcharged]
      exact haccepted
    · exact hatMost
    · rw [hrows, ← hsuppressed, owed_none, owed_of_ne hslot]
    · exact hclasses

end Writes

/-! ## Commits of other sessions -/

section Commits

variable {db : AlertDb} {us ws : List Write} {slot : Slot}

theorem quotas_view_of_not_touches (h : ¬ alertStore.Touches us (.quota slot)) :
    (db.view us).quotas slot = db.quotas slot :=
  WriteModel.read_view_of_not_touches (m := alertStore) h

theorem quotas_view_view (h : ¬ alertStore.Touches us (.quota slot)) :
    ((db.view us).view ws).quotas slot = (db.view ws).quotas slot :=
  WriteModel.read_view_view (m := alertStore) h

theorem quotas_insertQuota_isSome (db : AlertDb) (slot : Slot) :
    (((Write.insertQuota slot).apply db).quotas slot).isSome := by
  rw [quotas_apply_of_eq rfl]
  cases db.quotas slot <;> rfl

/-- A quota row is never deleted. -/
theorem quotas_view_isSome (h : (db.quotas slot).isSome) (ws : List Write) :
    ((db.view ws).quotas slot).isSome := by
  induction ws generalizing db with
  | nil => exact h
  | cons w ws ih =>
    show (((w.apply db).view ws).quotas slot).isSome
    apply ih
    by_cases hw : w.resource = .quota slot
    · obtain ⟨q, hq⟩ := Option.isSome_iff_exists.mp h
      rw [quotas_apply_of_eq hw, hq]
      cases w <;> rfl
    · rw [quotas_apply_of_ne hw]
      exact h

/-- The row a session has seen is still there after another session has committed. -/
theorem quotas_commit_isSome
    (hlock : alertStore.Touches ws (.quota slot) → ¬ alertStore.Touches us (.quota slot))
    (h : ((db.view ws).quotas slot).isSome) : (((db.view us).view ws).quotas slot).isSome := by
  by_cases hws : alertStore.Touches ws (.quota slot)
  · rw [quotas_view_view (hlock hws)]
    exact h
  · rw [quotas_view_of_not_touches hws] at h
    exact quotas_view_isSome (quotas_view_isSome h us) ws

/-- The accounts of a view survive the commit of another session: the two have not both written the
quota row of a slot, and whoever has not written it has no row charged to it either. -/
theorem Accounts.commit {options : AlertQuotaOptions} {alertDebt countDebt : Option Slot}
    (hdb : db.Accounts options none none) (hus : (db.view us).Accounts options none none)
    (hws : (db.view ws).Accounts options alertDebt countDebt)
    (hlock : ∀ slot, alertStore.Touches ws (.quota slot) → ¬ alertStore.Touches us (.quota slot)) :
    ((db.view us).view ws).Accounts options alertDebt countDebt := by
  intro slot
  obtain ⟨haccepted, -, hsuppressed, -⟩ := hdb slot
  obtain ⟨haccepted₁, hatMost₁, hsuppressed₁, hclasses₁⟩ := hus slot
  obtain ⟨haccepted₂, hatMost₂, hsuppressed₂, hclasses₂⟩ := hws slot
  rw [charged_view] at haccepted₁ haccepted₂
  rw [suppressedFor_view] at hsuppressed₁ hsuppressed₂
  simp only [owed_none, Nat.add_zero] at haccepted haccepted₁ hsuppressed hsuppressed₁
  by_cases htouch : alertStore.Touches ws (.quota slot)
  · have hfree := hlock slot htouch
    have hsame : (db.view us).counters slot = db.counters slot := by
      rw [AlertDb.counters, quotas_view_of_not_touches hfree]
      rfl
    have hview : ((db.view us).view ws).counters slot = (db.view ws).counters slot := by
      rw [AlertDb.counters, quotas_view_view hfree]
      rfl
    rw [hsame] at haccepted₁ hsuppressed₁
    refine ⟨?_, ?_, ?_, ?_⟩ <;> rw [hview]
    · rw [charged_view, charged_view]
      omega
    · exact hatMost₂
    · rw [suppressedFor_view, suppressedFor_view]
      omega
    · exact hclasses₂
  · have hsame : (db.view ws).counters slot = db.counters slot := by
      rw [AlertDb.counters, quotas_view_of_not_touches htouch]
      rfl
    have hview : ((db.view us).view ws).counters slot = (db.view us).counters slot := by
      rw [AlertDb.counters, quotas_view_of_not_touches htouch]
      rfl
    rw [hsame] at haccepted₂ hsuppressed₂
    refine ⟨?_, ?_, ?_, ?_⟩ <;> rw [hview]
    · rw [charged_view, charged_view]
      omega
    · exact hatMost₁
    · rw [suppressedFor_view, suppressedFor_view]
      omega
    · exact hclasses₁

end Commits

/-! ## The books of a session -/

/-- The Alert a session owes: it has consumed a slot and not inserted yet. -/
def Stage.alertDebt : Stage → Option Slot
  | .event _ (.insertAlert charge) => charge
  | _ => none

/-- The count a session owes: it has recorded a suppression and not counted it yet. -/
def Stage.countDebt (batch : SyncBatch) : Stage → Option Slot
  | .event c .countSuppression => some (batch.slot c.evt)
  | _ => none

/-- Nothing has been written since the savepoint. -/
def Stage.Unwritten : Stage → Prop
  | .event _ .lookupAlert | .event _ .lookupSuppressed | .event _ .lookupQuotaRow
  | .event _ .insertQuotaRow => True
  | _ => False

/-- The quota row that exists by now. -/
def Stage.quotaRow (batch : SyncBatch) : Stage → Option Slot
  | .event c .consumeQuota | .event c .insertSuppressed | .event c .countSuppression =>
    some (batch.slot c.evt)
  | _ => none

/-- The view of a session agrees with the quota rows up to what it owes, and so does what a rollback
to the savepoint would leave, which owes nothing. -/
structure Session.Booked (options : AlertQuotaOptions) (db : AlertDb) (session : Session) : Prop where
  accounts : (db.view session.pending).Accounts options session.stage.alertDebt
    (session.stage.countDebt session.batch)
  saved : (db.view session.savepoint).Accounts options none none
  unwritten : session.stage.Unwritten → session.pending = session.savepoint
  row : ∀ slot ∈ session.stage.quotaRow session.batch,
    ((db.view session.pending).quotas slot).isSome

/-- A statement keeps the books of its session. -/
theorem Session.Booked.perform {options : AlertQuotaOptions} {db : AlertDb} {session : Session}
    (h : session.Booked options db) {effect : Effect} {result : Option SyncEventOutcome} {stage : Stage}
    (hmove : Moves options session.batch (db.view session.pending) session.stage
      (.goOn effect result stage)) :
    (session.perform effect result stage).Booked options db := by
  obtain ⟨haccounts, hsaved, hunwritten, hrow⟩ := h
  generalize session.stage = before at hmove haccounts hunwritten hrow
  cases hmove with
  | reject => exact ⟨haccounts, hsaved, nofun, nofun⟩
  | start => exact ⟨haccounts, haccounts, fun _ => rfl, nofun⟩
  | known _ hpoint =>
    rcases hpoint with rfl | rfl
    · exact ⟨haccounts, hsaved, nofun, nofun⟩
    · exact ⟨haccounts, hsaved, nofun, nofun⟩
  | unknown hpoint =>
    rcases hpoint with rfl | rfl
    · exact ⟨haccounts, hsaved, fun _ => hunwritten trivial, nofun⟩
    · exact ⟨haccounts, hsaved, nofun, nofun⟩
  | alreadySuppressed => exact ⟨haccounts, hsaved, nofun, nofun⟩
  | notSuppressed | quotaRowMissing =>
    exact ⟨haccounts, hsaved, fun _ => hunwritten trivial, nofun⟩
  | quotaRowExists hexists =>
    refine ⟨haccounts, hsaved, nofun, ?_⟩
    intro slot hslot
    cases hslot
    exact hexists
  | quotaRowRaced hexists =>
    -- The rollback undoes nothing: this insert would have been the first write of the event.
    refine ⟨hsaved, hsaved, nofun, ?_⟩
    intro slot hslot
    cases hslot
    rw [hunwritten trivial] at hexists
    exact hexists
  | quotaRowInserted =>
    refine ⟨?_, hsaved, nofun, ?_⟩
    · show (db.view (session.pending ++ [_])).Accounts _ _ _
      rw [view_concat]
      exact Accounts.insertQuota haccounts _
    · intro slot hslot
      cases hslot
      show ((db.view (session.pending ++ [_])).quotas _).isSome
      rw [view_concat]
      exact quotas_insertQuota_isSome _ _
  | consumed hq hfree =>
    refine ⟨?_, hsaved, nofun, nofun⟩
    show (db.view (session.pending ++ [_])).Accounts _ _ _
    rw [view_concat]
    exact Accounts.consume haccounts hq hfree
  | exhausted => exact ⟨haccounts, hsaved, nofun, hrow⟩
  | accepted =>
    refine ⟨?_, hsaved, nofun, nofun⟩
    show (db.view (session.pending ++ [_])).Accounts _ _ _
    rw [view_concat]
    exact Accounts.insertAlert haccounts _
  | alertRaced => exact ⟨hsaved, hsaved, nofun, nofun⟩
  | @suppressed c row _ hslot =>
    have hview : db.view (session.pending ++ [.insertSuppressed row]) =
        (Write.insertSuppressed row).apply (db.view session.pending) := view_concat ..
    refine ⟨?_, hsaved, nofun, ?_⟩
    · show (db.view (session.pending ++ [_])).Accounts _ _ (some (session.batch.slot c.evt))
      rw [hview, ← hslot]
      exact Accounts.insertSuppressed haccounts row
    · intro slot hneeded
      show ((db.view (session.pending ++ [_])).quotas slot).isSome
      rw [hview]
      exact hrow slot hneeded
  | suppressionRaced => exact ⟨hsaved, hsaved, nofun, nofun⟩
  | counted hq hclass =>
    refine ⟨?_, hsaved, nofun, nofun⟩
    show (db.view (session.pending ++ [_])).Accounts _ _ _
    rw [view_concat]
    exact Accounts.countSuppression haccounts hq hclass _
  | uncounted hmissing =>
    -- The row the session has seen or inserted cannot be gone.
    have hexists := hrow _ rfl
    rw [hmissing] at hexists
    cases hexists

/-- The commit of another session leaves the books of a session right. -/
theorem Session.Booked.commit {options : AlertQuotaOptions} {db : AlertDb} {session : Session}
    (h : session.Booked options db) (hdb : db.Accounts options none none) {us : List Write}
    (hus : (db.view us).Accounts options none none) (hprefixed : session.savepoint <+: session.pending)
    (hlock : ∀ r, alertStore.Touches session.pending r → ¬ alertStore.Touches us r) :
    session.Booked options (db.view us) where
  accounts := Accounts.commit hdb hus h.accounts fun slot => hlock (.quota slot)
  saved := Accounts.commit hdb hus h.saved fun slot hslot =>
    hlock (.quota slot) (hslot.mono hprefixed.subset)
  unwritten := h.unwritten
  row slot hslot := quotas_commit_isSome (hlock (.quota slot)) (h.row slot hslot)

/-- A session that has written nothing and owes nothing, over accounts that agree. -/
theorem Session.Booked.of_idle {options : AlertQuotaOptions} {db : AlertDb} {session : Session}
    (hdb : db.Accounts options none none) (hpending : session.pending = [])
    (hsavepoint : session.savepoint = []) (halert : session.stage.alertDebt = none)
    (hcount : session.stage.countDebt session.batch = none)
    (hrow : session.stage.quotaRow session.batch = none) : session.Booked options db where
  accounts := by
    rw [hpending, halert, hcount]
    exact hdb
  saved := by
    rw [hsavepoint]
    exact hdb
  unwritten _ := by rw [hpending, hsavepoint]
  row slot hslot := by
    rw [hrow] at hslot
    cases hslot

/-! ## Whole runs -/

/-- The books of the tables and of every session. -/
structure SyncState.Booked (options : AlertQuotaOptions) (s : SyncState) : Prop where
  tables : s.db.Accounts options none none
  sessions : ∀ (i : ℕ) (session : Session), s.sessions[i]? = some session → session.Booked options s.db

/-- A move keeps the books. -/
theorem SyncState.Booked.perform {options : AlertQuotaOptions} {s : SyncState} (h : s.Booked options)
    (horderly : s.Orderly) {i : ℕ} {session : Session} (hi : s.sessions[i]? = some session)
    {move : Move} (hmove : (∃ failure, move = .fail failure) ∨
      Moves options session.batch (s.db.view session.pending) session.stage move) :
    (s.perform i session move).Booked options := by
  have hbooked := h.sessions i session hi
  cases move with
  | goOn effect result stage =>
    refine ⟨h.tables, ?_⟩
    intro j other hj
    rcases sessions_perform hj with ⟨-, rfl⟩ | ⟨-, hold⟩
    · exact hbooked.perform (hmove.resolve_left nofun)
    · exact h.sessions j other hold
  | commit =>
    -- A session at the end of its loop owes nothing, so its view is in balance.
    have hview : (s.db.view session.pending).Accounts options none none := by
      have haccounts := hbooked.accounts
      have hmove := hmove.resolve_left nofun
      generalize session.stage = stage at hmove haccounts
      cases hmove
      exact haccounts
    refine ⟨hview, ?_⟩
    intro j other hj
    rcases sessions_perform hj with ⟨-, rfl⟩ | ⟨hne, hold⟩
    · exact .of_idle hview rfl rfl rfl rfl rfl
    · apply (h.sessions j other hold).commit h.tables hview (horderly.prefixed j other hold)
      intro r hr
      rw [← pending_of_getElem? hi]
      rw [← pending_of_getElem? hold] at hr
      exact horderly.exclusive j i r hne hr
  | fail failure =>
    refine ⟨h.tables, ?_⟩
    intro j other hj
    rcases sessions_perform hj with ⟨-, rfl⟩ | ⟨-, hold⟩
    · exact .of_idle h.tables rfl rfl rfl rfl rfl
    · exact h.sessions j other hold

/-- The tables a run starts from have nothing to account for. -/
theorem AlertDb.Initial.accounts {db : AlertDb} (h : db.Initial) (options : AlertQuotaOptions) :
    db.Accounts options none none := by
  intro slot
  have hcounters : db.counters slot = .fresh := by rw [AlertDb.counters, h.quotas]; rfl
  have hcharged : db.charged slot = 0 := by
    apply List.countP_eq_zero.mpr
    intro row hrow
    simp [h.uncharged row hrow]
  have hsuppressed : db.suppressedFor slot = 0 := by rw [AlertDb.suppressedFor, h.suppressed]; rfl
  refine ⟨?_, ?_, ?_, ?_⟩ <;> rw [hcounters]
  · rw [hcharged]
    rfl
  · exact Nat.zero_le _
  · rw [hsuppressed]
    rfl
  · exact Nat.le_refl 0

theorem booked_step {options : AlertQuotaOptions} {s s' : SyncState} {a : SyncAction}
    (horderly : s.Orderly) (h : s.Booked options) (hstep : syncStep options s a = some s') :
    s'.Booked options := by
  rcases syncStep_cases hstep with
    ⟨batch, rfl, rfl⟩ | ⟨i, env, session, move, rfl, hi, -, hmove, rfl⟩ | ⟨i, session, rfl, hi, rfl⟩
  · refine ⟨h.tables, ?_⟩
    intro j other hj
    rcases sessions_begin hj with rfl | hold
    · exact .of_idle h.tables rfl rfl rfl rfl rfl
    · exact h.sessions j other hold
  · exact h.perform horderly hi (.inr (statement_moves hmove))
  · exact h.perform horderly hi (.inl ⟨_, rfl⟩)

theorem booked_reachable {options : AlertQuotaOptions} {s : SyncState}
    (h : (syncSystem options).Reachable s) : s.Booked options := by
  have hboth : s.Orderly ∧ s.Booked options := by
    apply h.invariant
    · intro s hinit
      refine ⟨orderly_reachable (.init hinit), hinit.1.accounts options, ?_⟩
      intro i session hi
      rw [hinit.2] at hi
      contradiction
    · intro s a s' ⟨horderly, hbooked⟩ hstep
      exact ⟨orderly_step horderly hstep, booked_step horderly hbooked hstep⟩
  exact hboth.2

/-- Quota accounting: whatever batches run and however they interleave, every quota row counts exactly
the Alerts inserted against it, at most the maximum, and exactly the suppressed detections of its
Branch and day, among which the guns and the knives. -/
theorem quota_accounting (options : AlertQuotaOptions) (s : SyncState)
    (hreach : (syncSystem options).Reachable s) (slot : Slot) (q : BranchDailyAlertQuota)
    (hrow : s.db.quotas slot = some q) :
    q.acceptedAlertCount = s.db.alerts.countP (fun row => row.chargedTo = some slot) ∧
      q.acceptedAlertCount ≤ options.maximumPerBranchPerDay ∧
      q.suppressedDetectionCount = s.db.suppressed.countP (fun row => row.slot = slot) ∧
      q.gunSuppressedCount + q.knifeSuppressedCount ≤ q.suppressedDetectionCount := by
  obtain ⟨haccepted, hatMost, hsuppressed, hclasses⟩ := (booked_reachable hreach).tables slot
  have hcounters : s.db.counters slot = q := by rw [AlertDb.counters, hrow]; rfl
  rw [hcounters] at haccepted hatMost hsuppressed hclasses
  exact ⟨haccepted, hatMost, hsuppressed, hclasses⟩

/-- Two batches race for the quota row and for the one Alert of the day: the second finds the row
inserted, rolls back to its savepoint and is suppressed. -/
theorem quota_accounting_lateSchedule : ∃ (s : SyncState) (q : BranchDailyAlertQuota),
    s.db.quotas sampleSlot = some q ∧
    (q.acceptedAlertCount, q.suppressedDetectionCount, q.gunSuppressedCount) = (1, 1, 1) ∧
    q.acceptedAlertCount = s.db.alerts.countP (fun row => row.chargedTo = some sampleSlot) ∧
      q.acceptedAlertCount ≤ onePerDay.maximumPerBranchPerDay ∧
      q.suppressedDetectionCount = s.db.suppressed.countP (fun row => row.slot = sampleSlot) ∧
      q.gunSuppressedCount + q.knifeSuppressedCount ≤ q.suppressedDetectionCount := by
  have hrun : (((syncSystem onePerDay).exec ⟨emptyTables, []⟩ (lateSchedule 5 6)).map fun s =>
      (s.db.quotas sampleSlot).map fun q =>
        (q.acceptedAlertCount, q.suppressedDetectionCount, q.gunSuppressedCount)) =
        some (some (1, 1, 1)) := by
    decide +kernel
  obtain ⟨s, hs, hend⟩ := Option.map_eq_some_iff.mp hrun
  obtain ⟨q, hq, hcounts⟩ := Option.map_eq_some_iff.mp hend
  have hreach : (syncSystem onePerDay).Reachable s :=
    TransitionSystem.Reachable.exec (.init ⟨emptyTables_initial, rfl⟩) hs
  exact ⟨s, q, hq, hcounts, quota_accounting onePerDay s hreach sampleSlot q hq⟩

end WeaponDetection.Backend.AlertSync
