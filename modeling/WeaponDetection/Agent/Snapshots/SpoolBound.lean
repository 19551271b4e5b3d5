import Mathlib.Algebra.Order.BigOperators.Group.List
import WeaponDetection.Agent.Snapshots.Reconciliation

/-!
# What the spool holds

The size of the spool directory and what its files belong to, over whole runs of the Agent on its
event loop.

The quota counts the `.jpg` files, and so does a reconciliation look at these only: a temporary file
that a crash leaves behind is counted and removed by nothing.  A `.jpg` of a known event is left to
the upload worker and to the quota sink, which remove it right after the row is final and never come
back to it.  In a run that cuts neither of the two short the spool stays within its bound, and after
each reconciliation every file is one still to be uploaded (`spool_bounded`).
-/

namespace WeaponDetection.Agent.Snapshots

open WeaponDetection.Foundations (KeyedTable OrderedDict TransitionSystem)
open WeaponDetection.Foundations.Python (Uuid uuidText)
open WeaponDetection.Agent.Detection (Instant)
open WeaponDetection.Agent.Persistence

/-! ## Sizes -/

/-- The size of all files of the directory. -/
def Spool.totalBytes (spool : Spool) : ℕ := (spool.entries.map fun file => file.2.length).sum

/-- The size of a part of the files. -/
theorem sum_sizes_le {files files' : List (String × Bytes)} (h : files.Sublist files') :
    (files.map fun file => file.2.length).sum ≤ (files'.map fun file => file.2.length).sum :=
  (h.map _).sum_le_sum fun _ _ => Nat.zero_le _

theorem Spool.totalBytes_filter_le (spool : Spool) (p : String × Bytes → Bool) :
    Spool.totalBytes (spool.filter p) ≤ spool.totalBytes :=
  sum_sizes_le List.filter_sublist

theorem Spool.totalBytes_set_le (spool : Spool) (name : String) (content : Bytes) :
    Spool.totalBytes (spool.set name content) ≤ content.length + spool.totalBytes := by
  have hsum := ((OrderedDict.entries_set_perm spool name content).map
    fun file => file.2.length).sum_eq
  rw [List.map_cons, List.sum_cons] at hsum
  have hpop := Spool.totalBytes_filter_le spool fun file => decide (file.1 ≠ name)
  exact hsum.le.trans (Nat.add_le_add_left hpop _)

/-- A renamed file may take another one's place. -/
theorem Spool.totalBytes_replace_le (spool : Spool) (tempName finalName : String) :
    Spool.totalBytes (spool.replace tempName finalName) ≤ spool.totalBytes := by
  unfold Spool.replace
  split
  · exact le_rfl
  · rename_i content hcontent
    have hsum := ((OrderedDict.entries_pop_perm hcontent).map fun file => file.2.length).sum_eq
    rw [List.map_cons, List.sum_cons] at hsum
    exact (Spool.totalBytes_set_le _ _ _).trans hsum.ge

/-- The quota sees the whole directory where every file is a `.jpg`. -/
theorem Spool.usageBytes_eq {spool : Spool} (h : ∀ file ∈ spool.entries, isJpg file.1 = true) :
    spool.usageBytes = spool.totalBytes := by
  unfold Spool.usageBytes Spool.totalBytes
  rw [List.filter_eq_self.mpr h]

/-- `_process_snapshot` checks the quota before it writes. -/
theorem usageBytes_add_le_of_admits {cfg : CaptureConfig} {spool : Spool} {item : SnapshotQueueItem}
    {eventId : Uuid} (h : admits cfg spool item = some eventId) :
    spool.usageBytes + item.data.length ≤ cfg.maxSpoolBytes := by
  unfold admits at h
  split at h
  · cases h
  · split at h
    · cases h
    · split at h
      · cases h
      · rename_i hquota
        exact Nat.le_of_not_lt hquota

/-! ## The event loop

A capture, the calls of the quota sink and the end of an upload run without an `await` in between:
once one of them has begun, nothing but a crash comes before its last call. -/

/-- The task does not give the event loop back before its next call. -/
def SnapshotTask.holdsLoop : SnapshotTask → Bool
  | .rename _ _ _ | .insert _ | .cancel _ _ | .unlink _ => true
  | .hash _ | .upload _ => false

/-- The task that has the event loop. -/
def SnapshotState.running (s : SnapshotState) : Option SnapshotTask :=
  s.tasks.find? SnapshotTask.holdsLoop

/-- What the event loop lets happen. -/
def loopAllows (s : SnapshotState) : SnapshotAction → Bool
  | .crash => true
  | .advance task _ => s.running.isNone || (s.tasks[task]?).any SnapshotTask.holdsLoop
  | _ => s.running.isNone

/-- The Agent's snapshot side on its event loop. -/
def spoolSystem (cfg : CaptureConfig) : TransitionSystem SnapshotState SnapshotAction :=
  (snapshotSystem cfg).restrict loopAllows

/-! ## What the files belong to -/

/-- A captured row whose upload is still pending. -/
def AwaitsUpload (row : SnapshotOutboxRecord) : Prop :=
  row.captureStatus = .captured ∧ row.uploadStatus = .pending

instance (row : SnapshotOutboxRecord) : Decidable (AwaitsUpload row) :=
  inferInstanceAs (Decidable (_ ∧ _))

/-- Every file of the directory is the file of a row whose upload is pending. -/
def AllAwaitUpload (cfg : CaptureConfig) (s : SnapshotState) : Prop :=
  ∀ file ∈ s.spool.entries, ∃ row ∈ s.db.snapshots,
    row.localPath = filePath cfg.spoolPath file.1 ∧ AwaitsUpload row

/-- The event has no row, or one whose upload is pending: its `.jpg` is removed in the end. -/
def Reclaimable (snapshots : SnapshotOutboxTable) (eventId : Uuid) : Prop :=
  ∀ row ∈ snapshots.find? eventId, AwaitsUpload row

instance (snapshots : SnapshotOutboxTable) (eventId : Uuid) :
    Decidable (Reclaimable snapshots eventId) :=
  inferInstanceAs (Decidable (∀ row ∈ snapshots.find? eventId, AwaitsUpload row))

/-- A crash before the task's next call leaves a file that nothing comes back to. -/
def leavesFile (cfg : CaptureConfig) (spool : Spool) : SnapshotTask → Bool
  | .rename _ _ _ => true
  | .unlink localPath => spool.isFile cfg.spoolPath localPath
  | _ => false

/-- The task's next call leaves no such file: the snapshot it renames is of an event whose row is not
final, the file it removes is gone afterwards. -/
def CompletesCleanly (cfg : CaptureConfig) (s : SnapshotState) (outcome : TaskOutcome) :
    SnapshotTask → Prop
  | .rename _ eventId _ => outcome.succeeds = true → Reclaimable s.db.snapshots eventId
  | .unlink localPath =>
    outcome.succeeds = false → s.spool.isFile cfg.spoolPath localPath = false
  | _ => True

instance decidableCompletesCleanly (cfg : CaptureConfig) (s : SnapshotState)
    (outcome : TaskOutcome) : (task : SnapshotTask) → Decidable (CompletesCleanly cfg s outcome task)
  | .rename _ eventId _ =>
    inferInstanceAs (Decidable (outcome.succeeds = true → Reclaimable s.db.snapshots eventId))
  | .unlink localPath =>
    inferInstanceAs (Decidable (outcome.succeeds = false →
      s.spool.isFile cfg.spoolPath localPath = false))
  | .insert _ | .cancel _ _ | .hash _ | .upload _ => inferInstanceAs (Decidable True)

/-- The step leaves no file behind: no crash while a snapshot is only half written, or while the file
of a final row is still to be removed; that removal does not fail; no snapshot is written again for an
event whose row is no longer pending; and a reconciliation removes the orphans it finds. -/
def LeavesNoFile (cfg : CaptureConfig) (s : SnapshotState) : SnapshotAction → Prop
  | .crash => ∀ task ∈ s.running, leavesFile cfg s.spool task = false
  | .advance task outcome => ∀ t ∈ s.tasks[task]?, CompletesCleanly cfg s outcome t
  | .reconcile faults =>
    ∀ file ∈ s.spool.entries,
      isOrphan (s.db.snapshots.rows.map SnapshotOutboxRecord.eventId) file.1 = true →
        faults.list = false ∧ faults.unlink file.1 = false
  | _ => True

instance decidableLeavesNoFile (cfg : CaptureConfig) (s : SnapshotState) :
    (a : SnapshotAction) → Decidable (LeavesNoFile cfg s a)
  | .crash => inferInstanceAs (Decidable (∀ task ∈ s.running, leavesFile cfg s.spool task = false))
  | .advance task outcome =>
    inferInstanceAs (Decidable (∀ t ∈ s.tasks[task]?, CompletesCleanly cfg s outcome t))
  | .reconcile faults =>
    inferInstanceAs (Decidable (∀ file ∈ s.spool.entries,
      isOrphan (s.db.snapshots.rows.map SnapshotOutboxRecord.eventId) file.1 = true →
        faults.list = false ∧ faults.unlink file.1 = false))
  | .detect _ _ | .capture _ _ | .associate _ _ | .readForCancel _ | .listUploads _ | .abandon _ =>
    inferInstanceAs (Decidable True)

/-! ## Tasks -/

/-- No task of a list has the event loop. -/
def LoopFree (tasks : List SnapshotTask) : Prop := ∀ task ∈ tasks, task.holdsLoop = false

theorem running_eq_none_iff {s : SnapshotState} : s.running = none ↔ LoopFree s.tasks := by
  unfold SnapshotState.running LoopFree
  rw [List.find?_eq_none]
  simp only [Bool.not_eq_true]

theorem LoopFree.erase {tasks : List SnapshotTask} (h : LoopFree tasks) (i : ℕ) :
    LoopFree (tasks.eraseIdx i) :=
  fun task hmem => h task (List.mem_of_mem_eraseIdx hmem)

/-- The only task that can have the event loop is the one put behind the others. -/
theorem find?_append_toList {tasks : List SnapshotTask} (h : LoopFree tasks)
    (next : Option SnapshotTask) :
    (tasks ++ next.toList).find? SnapshotTask.holdsLoop = next.filter SnapshotTask.holdsLoop := by
  have hnone : tasks.find? SnapshotTask.holdsLoop = none :=
    List.find?_eq_none.mpr fun task hmem => by simp [h task hmem]
  rw [List.find?_append, hnone, Option.none_or]
  cases next with
  | none => rfl
  | some task => cases hholds : task.holdsLoop <;> simp [hholds, Option.filter]

/-- At most one task has the event loop. -/
def OneRuns (tasks : List SnapshotTask) : Prop :=
  ∀ i task, tasks[i]? = some task → task.holdsLoop = true → LoopFree (tasks.eraseIdx i)

theorem OneRuns.of_loopFree {tasks : List SnapshotTask} (h : LoopFree tasks) : OneRuns tasks :=
  fun _ task htask hholds => by
    rw [h task (List.mem_of_getElem? htask)] at hholds
    cases hholds

theorem OneRuns.append {tasks : List SnapshotTask} (h : LoopFree tasks)
    (next : Option SnapshotTask) : OneRuns (tasks ++ next.toList) := by
  cases next with
  | none =>
    rw [Option.toList_none, List.append_nil]
    exact .of_loopFree h
  | some last =>
    intro i task htask hholds
    rw [Option.toList_some] at htask ⊢
    -- it is the last one
    have hlength : ¬ i < tasks.length := by
      intro hlt
      rw [List.getElem?_append_left hlt] at htask
      rw [h task (List.mem_of_getElem? htask)] at hholds
      cases hholds
    rw [List.eraseIdx_append_of_length_le (Nat.le_of_not_lt hlength)]
    have hi : i - tasks.length = 0 := by
      have hlt := (List.getElem?_eq_some_iff.mp htask).1
      rw [List.length_append, List.length_singleton] at hlt
      omega
    rw [hi, List.eraseIdx_zero, List.tail_cons, List.append_nil]
    exact h

/-- Whoever makes its next call, the rest does not have the event loop; and if somebody has it, it is
the one who makes the call. -/
theorem rest_of_allows {s : SnapshotState} {i : ℕ} {task : SnapshotTask} {outcome : TaskOutcome}
    (hone : OneRuns s.tasks) (hallows : loopAllows s (.advance i outcome) = true)
    (htask : s.tasks[i]? = some task) :
    LoopFree (s.tasks.eraseIdx i) ∧ s.running = (some task).filter SnapshotTask.holdsLoop := by
  cases hholds : task.holdsLoop with
  | true =>
    have hrest := hone i task htask hholds
    refine ⟨hrest, ?_⟩
    have hrunning : s.running.isSome = true := by
      rw [SnapshotState.running, List.find?_isSome]
      exact ⟨task, List.mem_of_getElem? htask, hholds⟩
    obtain ⟨t, ht⟩ := Option.isSome_iff_exists.mp hrunning
    obtain ⟨j, hj⟩ := List.getElem?_of_mem (List.mem_of_find?_eq_some ht)
    by_cases hij : j = i
    · rw [hij, htask, Option.some.injEq] at hj
      rw [ht, ← hj, Option.filter_some, if_pos hholds]
    · have hfree := hrest t (List.mem_eraseIdx_iff_getElem?.mpr ⟨j, hij, hj⟩)
      rw [List.find?_some ht] at hfree
      cases hfree
  | false =>
    rw [loopAllows, htask, Option.any_some, hholds, Bool.or_false, Option.isNone_iff_eq_none]
      at hallows
    refine ⟨(running_eq_none_iff.mp hallows).erase i, ?_⟩
    rw [hallows, Option.filter_some, hholds]
    rfl

/-! ## Rows -/

/-- The columns of other rows, and columns that are no status. -/
theorem Reclaimable.update {snapshots : SnapshotOutboxTable} {eventId : Uuid}
    (h : Reclaimable snapshots eventId) {f : SnapshotOutboxRecord → SnapshotOutboxRecord}
    {hf : ∀ r, (f r).eventId = r.eventId}
    (hkeep : ∀ row, row.eventId = eventId → AwaitsUpload row → AwaitsUpload (f row)) :
    Reclaimable (snapshots.update f hf) eventId := by
  intro row hrow
  rw [KeyedTable.find?_update] at hrow
  obtain ⟨old, hold, rfl⟩ := Option.map_eq_some_iff.mp hrow
  exact hkeep old (KeyedTable.find?_eq_some_iff.mp hold).2 (h old hold)

theorem Reclaimable.associate {snapshots : SnapshotOutboxTable} {eventId : Uuid}
    (h : Reclaimable snapshots eventId) (other : Uuid) (alertId : String) :
    Reclaimable (associateAlertId snapshots other alertId).1 eventId := by
  intro row hrow
  rw [find?_associateAlertId] at hrow
  obtain ⟨old, hold, rfl⟩ := Option.map_eq_some_iff.mp hrow
  have hawaits := h old hold
  split <;> exact hawaits

theorem Reclaimable.recordAttemptFailure {snapshots : SnapshotOutboxTable} {eventId : Uuid}
    (h : Reclaimable snapshots eventId) (other : Uuid) (now : Instant) (category : String) :
    Reclaimable (recordAttemptFailure snapshots other now category) eventId := by
  refine h.update fun row _ hawaits => ?_
  split <;> exact hawaits

theorem Reclaimable.cancelForQuota {snapshots : SnapshotOutboxTable} {eventId other : Uuid}
    (h : Reclaimable snapshots eventId) (hne : eventId ≠ other) :
    Reclaimable (cancelForQuota snapshots other) eventId := by
  refine h.update fun row hkey hawaits => ?_
  rw [if_neg fun hother => hne (hkey.symm.trans hother.1)]
  exact hawaits

theorem Reclaimable.markUploaded {snapshots : SnapshotOutboxTable} {eventId other : Uuid}
    (h : Reclaimable snapshots eventId) (hne : eventId ≠ other) (now : Instant) :
    Reclaimable (markUploaded snapshots other now) eventId := by
  refine h.update fun row hkey hawaits => ?_
  rw [if_neg fun hother => hne (hkey.symm.trans hother.1)]
  exact hawaits

/-- The batch of the upload worker is taken from the table. -/
theorem mem_of_listUploadReady {snapshots : SnapshotOutboxTable} {limit : ℕ}
    {record : SnapshotOutboxRecord} (h : record ∈ listUploadReady snapshots limit) :
    record ∈ snapshots := by
  have hsorted := List.mem_of_mem_take h
  rw [List.mem_insertionSort] at hsorted
  exact (List.mem_filter.mp hsorted).1

/-- A new row awaits its upload. -/
theorem Reclaimable.createCaptured {db : Database} {eventId : Uuid}
    (h : Reclaimable db.snapshots eventId) (file : CapturedFile) (capturedAt : Instant) :
    Reclaimable ((createCaptured db file capturedAt).getD db).snapshots eventId := by
  unfold Persistence.createCaptured
  split
  · exact h
  · cases hinsert : db.snapshots.insert (file.row capturedAt) with
    | none => exact h
    | some snapshots =>
      intro row hrow
      obtain ⟨hmem, hkey⟩ := KeyedTable.find?_eq_some_iff.mp hrow
      rcases (KeyedTable.mem_of_insert hinsert).mp hmem with hold | rfl
      · exact h row (KeyedTable.find?_eq_some_iff.mpr ⟨hold, hkey⟩)
      · exact ⟨rfl, rfl⟩

/-! ## Files -/

/-- What is going to become of a file, by its name. -/
inductive Accounted (cfg : CaptureConfig) (snapshots : SnapshotOutboxTable)
    (running : Option SnapshotTask) : String → Prop
  /-- It is about to be renamed. -/
  | written {name : String} {eventId : Uuid} {data : Bytes}
      (h : running = some (.rename name eventId data)) : Accounted cfg snapshots running name
  /-- It is about to be removed. -/
  | removed {eventId : Uuid} (h : running = some (.unlink (snapshotPath cfg.spoolPath eventId))) :
      Accounted cfg snapshots running (snapshotName eventId)
  /-- It waits for its upload, or for the next reconciliation. -/
  | reclaimable {eventId : Uuid} (h : Reclaimable snapshots eventId) :
      Accounted cfg snapshots running (snapshotName eventId)

section Accounted

variable {cfg : CaptureConfig} {snapshots : SnapshotOutboxTable} {name : String}

/-- Between two tasks. -/
theorem Accounted.of_none (h : Accounted cfg snapshots none name) :
    ∃ eventId, name = snapshotName eventId ∧ Reclaimable snapshots eventId := by
  cases h with
  | written h => cases h
  | removed h => cases h
  | reclaimable h => exact ⟨_, rfl, h⟩

theorem Accounted.isJpg (h : Accounted cfg snapshots none name) : isJpg name = true := by
  obtain ⟨eventId, rfl, -⟩ := h.of_none
  exact isJpg_snapshotName eventId

/-- A file that is neither about to be renamed nor about to be removed waits. -/
theorem Accounted.waits {running : Option SnapshotTask} (h : Accounted cfg snapshots running name)
    (hrename : ∀ eventId data, running ≠ some (.rename name eventId data))
    (hunlink : running ≠ some (.unlink (filePath cfg.spoolPath name))) :
    Accounted cfg snapshots none name := by
  cases h with
  | written h => exact absurd h (hrename _ _)
  | removed h => exact absurd h hunlink
  | reclaimable h => exact .reclaimable h

/-- A step that changes no status lets a file wait. -/
theorem Accounted.mono {snapshots' : SnapshotOutboxTable} (h : Accounted cfg snapshots none name)
    (hrows : ∀ eventId, Reclaimable snapshots eventId → Reclaimable snapshots' eventId)
    (running : Option SnapshotTask) : Accounted cfg snapshots' running name := by
  obtain ⟨eventId, rfl, hrow⟩ := h.of_none
  exact .reclaimable (hrows eventId hrow)

end Accounted

/-- The next call of the task that runs. -/
theorem accounted_runTask {cfg : CaptureConfig} {s : SnapshotState} {task : SnapshotTask}
    (outcome : TaskOutcome) (hplaced : Placed cfg s.db.snapshots)
    (hlisted : ∀ record, task = .upload record →
      record.localPath = snapshotPath cfg.spoolPath record.eventId)
    (hread : ∀ eventId record, task = .cancel eventId record →
      record = s.db.snapshots.find? eventId)
    (hclean : CompletesCleanly cfg s outcome task)
    (hfiles : ∀ file ∈ s.spool.entries,
      Accounted cfg s.db.snapshots ((some task).filter SnapshotTask.holdsLoop) file.1) :
    ∀ file ∈ (runTask cfg s outcome task).1.spool.entries,
      Accounted cfg (runTask cfg s outcome task).1.db.snapshots
        ((runTask cfg s outcome task).2.filter SnapshotTask.holdsLoop) file.1 := by
  intro file hfile
  cases task with
  | rename tempName eventId data =>
    -- a file other than the temporary one waits
    have hwaits : ∀ file ∈ s.spool.entries, file.1 ≠ tempName →
        Accounted cfg s.db.snapshots none file.1 := by
      intro file hfile hname
      refine (hfiles file hfile).waits (fun eventId data h => ?_) fun h => by cases h
      cases h
      exact hname rfl
    simp only [runTask] at hfile ⊢
    split at hfile
    · rename_i hsucceeds
      rw [if_pos hsucceeds]
      simp only [Spool.replace] at hfile
      split at hfile
      · rename_i hnone
        refine (hwaits file hfile fun hname => ?_).mono (fun eventId h => h) _
        exact OrderedDict.get?_eq_none_iff.mp hnone (List.mem_map.mpr ⟨file, hfile, hname⟩)
      · rcases OrderedDict.mem_entries_set.mp hfile with ⟨hpop, -⟩ | rfl
        · obtain ⟨hmem, hname⟩ := OrderedDict.mem_entries_pop.mp hpop
          exact (hwaits file hmem hname).mono (fun eventId h => h) _
        · exact .reclaimable (hclean hsucceeds)
    · rename_i hfails
      rw [if_neg hfails]
      obtain ⟨hmem, hname⟩ := OrderedDict.mem_entries_pop.mp hfile
      exact (hwaits file hmem hname).mono (fun eventId h => h) _
  | insert captured =>
    simp only [runTask] at hfile ⊢
    split at hfile
    · rename_i hsucceeds
      rw [if_pos hsucceeds]
      refine ((hfiles file hfile).waits (fun _ _ h => ?_) fun h => ?_).mono
        (fun eventId h => h.createCaptured captured outcome.now) _ <;> cases h
    · rename_i hfails
      rw [if_neg hfails]
      refine (hfiles file hfile).waits (fun _ _ h => ?_) fun h => ?_ <;> cases h
  | cancel eventId record =>
    have hrecord := hread eventId record rfl
    have hwaits : ∀ file ∈ s.spool.entries, Accounted cfg s.db.snapshots none file.1 := by
      intro file hfile
      refine (hfiles file hfile).waits (fun _ _ h => ?_) fun h => ?_ <;> cases h
    simp only [runTask] at hfile ⊢
    split at hfile
    · rename_i hsucceeds
      rw [if_pos hsucceeds]
      obtain ⟨id, hname, hrow⟩ := (hwaits file hfile).of_none
      rw [hname]
      by_cases hid : id = eventId
      · subst hid
        cases hfind : s.db.snapshots.find? id with
        | none =>
          refine .reclaimable fun row hcancelled => ?_
          rw [cancelForQuota, KeyedTable.find?_update, hfind] at hcancelled
          cases hcancelled
        | some row =>
          -- the row was pending, and its file is the next to go
          have hcancels : cancelUpdates s.db.snapshots id = true := by
            rw [cancelUpdates, hfind, Option.any_some]
            exact decide_eq_true (hrow row hfind).2
          obtain ⟨hmem, hkey⟩ := KeyedTable.find?_eq_some_iff.mp hfind
          refine .removed ?_
          rw [if_pos hcancels, hrecord, hfind, Option.map_some, hplaced row hmem, hkey]
          rfl
      · exact .reclaimable (hrow.cancelForQuota hid)
    · rename_i hfails
      rw [if_neg hfails]
      exact hwaits file hfile
  | unlink localPath =>
    simp only [runTask] at hfile ⊢
    split at hfile
    · rename_i hsucceeds
      rw [if_pos hsucceeds]
      obtain ⟨hmem, hpath⟩ := List.mem_filter.mp hfile
      refine (hfiles file hmem).waits (fun _ _ h => by cases h) fun h => ?_
      cases h
      simp at hpath
    · rename_i hfails
      rw [if_neg hfails]
      refine (hfiles file hfile).waits (fun _ _ h => by cases h) fun h => ?_
      cases h
      have hgone := hclean (Bool.eq_false_iff.mpr hfails)
      rw [Spool.isFile_iff.mpr ⟨file, hfile, rfl⟩] at hgone
      cases hgone
  | hash record =>
    simp only [runTask] at hfile ⊢
    split
    · split
      · exact (hfiles file (by simpa [*] using hfile)).mono (fun eventId h => h) _
      · exact (hfiles file (by simpa [*] using hfile)).mono
          (fun eventId h => h.recordAttemptFailure _ _ _) _
    · exact (hfiles file (by simpa [*] using hfile)).mono
        (fun eventId h => h.recordAttemptFailure _ _ _) _
  | upload record =>
    simp only [runTask] at hfile ⊢
    split at hfile
    · rename_i hsucceeds
      rw [if_pos hsucceeds]
      obtain ⟨id, hname, hrow⟩ := (hfiles file hfile).of_none
      rw [hname]
      by_cases hid : id = record.eventId
      · refine .removed ?_
        rw [hid, hlisted record rfl]
        rfl
      · exact .reclaimable (hrow.markUploaded hid outcome.now)
    · rename_i hfails
      rw [if_neg hfails]
      exact (hfiles file hfile).mono (fun eventId h => h.recordAttemptFailure _ _ _) _

/-- What a task does next: an upload goes on with the row it took the hash for, and the quota sink
does not cancel twice. -/
theorem next_runTask (cfg : CaptureConfig) (s : SnapshotState) (outcome : TaskOutcome)
    (task : SnapshotTask) :
    (∀ record, (runTask cfg s outcome task).2 ≠ some (.hash record)) ∧
      (∀ record, (runTask cfg s outcome task).2 = some (.upload record) → task = .hash record) ∧
      ∀ eventId record, (runTask cfg s outcome task).2 ≠ some (.cancel eventId record) := by
  cases task with
  | hash record =>
    simp only [runTask]
    split
    · split <;> simp
    · simp
  | cancel eventId record =>
    simp only [runTask]
    split
    · split <;> simp
    · simp
  | rename tempName eventId data =>
    simp only [runTask]
    split <;> simp
  | insert captured =>
    simp only [runTask]
    split <;> simp
  | unlink localPath =>
    simp only [runTask]
    split <;> simp
  | upload record =>
    simp only [runTask]
    split <;> simp

/-- No call of a task makes the directory larger. -/
theorem totalBytes_runTask_le (cfg : CaptureConfig) (s : SnapshotState) (outcome : TaskOutcome)
    (task : SnapshotTask) :
    (runTask cfg s outcome task).1.spool.totalBytes ≤ s.spool.totalBytes := by
  cases task with
  | rename tempName eventId data =>
    simp only [runTask]
    split
    · exact Spool.totalBytes_replace_le _ _ _
    · exact Spool.totalBytes_filter_le _ _
  | unlink localPath =>
    simp only [runTask]
    split
    · exact Spool.totalBytes_filter_le _ _
    · exact le_rfl
  | insert captured =>
    simp only [runTask]
    split <;> exact le_rfl
  | cancel eventId record =>
    simp only [runTask]
    split <;> exact le_rfl
  | hash record =>
    simp only [runTask]
    split
    · split <;> exact le_rfl
    · exact le_rfl
  | upload record =>
    simp only [runTask]
    split <;> exact le_rfl

/-! ## The invariant -/

/-- Between two steps. -/
structure SpoolInv (cfg : CaptureConfig) (s : SnapshotState) : Prop where
  one : OneRuns s.tasks
  listed : ∀ record, .hash record ∈ s.tasks ∨ .upload record ∈ s.tasks →
    record.localPath = snapshotPath cfg.spoolPath record.eventId
  /-- What the quota sink has read is still what the table holds. -/
  read : ∀ eventId record, s.running = some (.cancel eventId record) →
    record = s.db.snapshots.find? eventId
  files : ∀ file ∈ s.spool.entries, Accounted cfg s.db.snapshots s.running file.1
  bound : s.spool.totalBytes ≤ cfg.maxSpoolBytes

section Step

variable {cfg : CaptureConfig} {s s' : SnapshotState}

/-- A step between two tasks that changes rows only. -/
theorem SpoolInv.of_rows (h : SpoolInv cfg s) (hfree : s.running = none)
    (hspool : s'.spool = s.spool) (htasks : s'.tasks = s.tasks)
    (hrows : ∀ eventId, Reclaimable s.db.snapshots eventId →
      Reclaimable s'.db.snapshots eventId) : SpoolInv cfg s' := by
  have hrunning : s'.running = s.running := by
    rw [SnapshotState.running, htasks]
    rfl
  refine ⟨htasks ▸ h.one, fun record hmem => h.listed record (htasks ▸ hmem),
    fun eventId record hcancel => ?_, fun file hfile => ?_, hspool ▸ h.bound⟩
  · rw [hrunning, hfree] at hcancel
    cases hcancel
  · rw [hspool] at hfile
    have haccounted := h.files file hfile
    rw [hfree] at haccounted
    exact haccounted.mono hrows _

/-- A step that leaves nothing running. -/
theorem SpoolInv.of_loopFree {db : Database} {spool : Spool} {tasks : List SnapshotTask}
    (hfree : LoopFree tasks)
    (hlisted : ∀ record, .hash record ∈ tasks ∨ .upload record ∈ tasks →
      record.localPath = snapshotPath cfg.spoolPath record.eventId)
    (hfiles : ∀ file ∈ spool.entries, Accounted cfg db.snapshots none file.1)
    (hbound : spool.totalBytes ≤ cfg.maxSpoolBytes) : SpoolInv cfg ⟨db, spool, tasks⟩ := by
  have hrunning : SnapshotState.running ⟨db, spool, tasks⟩ = none := running_eq_none_iff.mpr hfree
  refine ⟨.of_loopFree hfree, hlisted, fun eventId record hcancel => ?_, fun file hfile => ?_,
    hbound⟩
  · rw [hrunning] at hcancel
    cases hcancel
  · rw [hrunning]
    exact hfiles file hfile

/-- The next call of a task. -/
theorem SpoolInv.advance (h : SpoolInv cfg s) (hplaced : Placed cfg s.db.snapshots) {i : ℕ}
    {task : SnapshotTask} {outcome : TaskOutcome} (htask : s.tasks[i]? = some task)
    (hallows : loopAllows s (.advance i outcome) = true)
    (hclean : CompletesCleanly cfg s outcome task) :
    SpoolInv cfg { (runTask cfg s outcome task).1 with
      tasks := s.tasks.eraseIdx i ++ (runTask cfg s outcome task).2.toList } := by
  obtain ⟨hrest, hrunning⟩ := rest_of_allows h.one hallows htask
  have hmem := List.mem_of_getElem? htask
  have hholder : ∀ t, task = t → t.holdsLoop = true → s.running = some t := by
    intro t heq hholds
    rw [hrunning, heq, Option.filter_some, if_pos hholds]
  have hnext := find?_append_toList hrest (runTask cfg s outcome task).2
  refine ⟨.append hrest _, fun record hrecord => ?_, fun eventId record hcancel => ?_,
    fun file hfile => ?_, (totalBytes_runTask_le cfg s outcome task).trans h.bound⟩
  · obtain ⟨hhash, hupload, -⟩ := next_runTask cfg s outcome task
    simp only [List.mem_append, Option.mem_toList] at hrecord
    rcases hrecord with (hold | hnew) | (hold | hnew)
    · exact h.listed record (.inl (List.mem_of_mem_eraseIdx hold))
    · exact absurd hnew (hhash record)
    · exact h.listed record (.inr (List.mem_of_mem_eraseIdx hold))
    · exact h.listed record (.inl (hupload record hnew ▸ hmem))
  · rw [SnapshotState.running, hnext, Option.filter_eq_some_iff] at hcancel
    exact absurd hcancel.1 ((next_runTask cfg s outcome task).2.2 eventId record)
  · rw [SnapshotState.running, hnext]
    exact accounted_runTask outcome hplaced (fun record heq => h.listed record (.inr (heq ▸ hmem)))
      (fun eventId record heq => h.read eventId record (hholder _ heq rfl)) hclean
      (fun file hfile => hrunning ▸ h.files file hfile) file hfile

/-- A reconciliation. -/
theorem accounted_reconcile (hplaced : Placed cfg s.db.snapshots) (faults : ReconcileFaults)
    (hfiles : ∀ file ∈ s.spool.entries, Accounted cfg s.db.snapshots none file.1) :
    ∀ file ∈ (reconcileSnapshotSpool cfg faults s.db s.spool).2.entries,
      Accounted cfg (reconcileSnapshotSpool cfg faults s.db s.spool).1.snapshots none file.1 := by
  intro file hfile
  cases hlist : faults.list with
  | true =>
    simp only [reconcileSnapshotSpool, hlist, if_true] at hfile ⊢
    exact hfiles file hfile
  | false =>
    rw [snapshots_reconcile cfg faults s.spool s.db hlist]
    simp only [reconcileSnapshotSpool, hlist, Bool.false_eq_true, if_false] at hfile
    have hmem := (List.mem_filter.mp hfile).1
    obtain ⟨eventId, hname, hrow⟩ := (hfiles file hmem).of_none
    rw [hname]
    refine .reclaimable fun row hfind => ?_
    rw [KeyedTable.find?_update] at hfind
    obtain ⟨old, hold, rfl⟩ := Option.map_eq_some_iff.mp hfind
    -- the row's file is there, so its capture is not reported as failed
    obtain ⟨holdmem, hkey⟩ := KeyedTable.find?_eq_some_iff.mp hold
    have hthere : s.spool.isFile cfg.spoolPath old.localPath = true :=
      Spool.isFile_iff.mpr ⟨file, hmem, by rw [hname, hplaced old holdmem, hkey, snapshotPath]⟩
    rw [reconciledRow, if_neg fun hmissing => by simp [hthere] at hmissing]
    exact hrow old hold

/-- A reconciliation only removes files. -/
theorem totalBytes_reconcile_le (cfg : CaptureConfig) (faults : ReconcileFaults) (db : Database)
    (spool : Spool) :
    (reconcileSnapshotSpool cfg faults db spool).2.totalBytes ≤ spool.totalBytes := by
  unfold reconcileSnapshotSpool
  split
  · exact le_rfl
  · exact Spool.totalBytes_filter_le _ _

/-- The step lemma. -/
theorem SpoolInv.step {a : SnapshotAction} (h : SpoolInv cfg s) (hplaced : Placed cfg s.db.snapshots)
    (hguard : LeavesNoFile cfg s a) (hs : (spoolSystem cfg).step s a = some s') :
    SpoolInv cfg s' := by
  obtain ⟨hallows, hs⟩ := TransitionSystem.step_restrict.mp hs
  cases a with
  | detect event createdAt =>
    simp only [snapshotSystem, snapshotStep] at hs
    split at hs <;> cases hs
    exact h.of_rows (Option.isNone_iff_eq_none.mp hallows) rfl rfl fun eventId hrow => hrow
  | capture item token =>
    have hfree := Option.isNone_iff_eq_none.mp hallows
    have htasks := running_eq_none_iff.mp hfree
    have hwaits : ∀ file ∈ s.spool.entries, Accounted cfg s.db.snapshots none file.1 :=
      fun file hfile => hfree ▸ h.files file hfile
    simp only [snapshotSystem, snapshotStep] at hs
    split at hs
    · cases hs
    · rename_i eventId hadmits
      cases hs
      set tempName := "." ++ uuidText eventId ++ "." ++ token ++ ".tmp"
      have hrunning := find?_append_toList htasks (some (.rename tempName eventId item.data))
      refine ⟨.append htasks (some (.rename tempName eventId item.data)), fun record hmem => ?_,
        fun other record hcancel => ?_, fun file hfile => ?_, ?_⟩
      · simp only [List.mem_append, List.mem_singleton, reduceCtorEq, or_false] at hmem
        exact h.listed record hmem
      · have hcontra := hrunning.symm.trans hcancel
        cases hcontra
      · rcases OrderedDict.mem_entries_set.mp hfile with ⟨hold, -⟩ | rfl
        · exact (hwaits file hold).mono (fun id hrow => hrow) _
        · exact .written hrunning
      · -- nothing but `.jpg` files is there yet
        have hquota := usageBytes_add_le_of_admits hadmits
        rw [Spool.usageBytes_eq fun file hfile => (hwaits file hfile).isJpg, Nat.add_comm] at hquota
        exact (Spool.totalBytes_set_le _ _ _).trans hquota
  | associate eventId alertId =>
    cases hs
    exact h.of_rows (Option.isNone_iff_eq_none.mp hallows) rfl rfl
      fun id hrow => hrow.associate eventId alertId
  | readForCancel eventId =>
    have hfree := Option.isNone_iff_eq_none.mp hallows
    have htasks := running_eq_none_iff.mp hfree
    cases hs
    have hrunning := find?_append_toList htasks
      (some (.cancel eventId (s.db.snapshots.find? eventId)))
    refine ⟨.append htasks (some (.cancel eventId (s.db.snapshots.find? eventId))),
      fun record hmem => ?_, fun other record hcancel => ?_, fun file hfile => ?_, h.bound⟩
    · simp only [List.mem_append, List.mem_singleton, reduceCtorEq, or_false] at hmem
      exact h.listed record hmem
    · have hsame := hrunning.symm.trans hcancel
      cases hsame
      rfl
    · exact (hfree ▸ h.files file hfile : Accounted cfg s.db.snapshots none file.1).mono
        (fun id hrow => hrow) _
  | listUploads limit =>
    have hfree := Option.isNone_iff_eq_none.mp hallows
    have htasks := running_eq_none_iff.mp hfree
    cases hs
    refine .of_loopFree (fun task hmem => ?_) (fun record hmem => ?_)
      (fun file hfile => hfree ▸ h.files file hfile) h.bound
    · rcases List.mem_append.mp hmem with hold | hnew
      · exact htasks task hold
      · obtain ⟨record, -, rfl⟩ := List.mem_map.mp hnew
        rfl
    · simp only [List.mem_append, List.mem_map, SnapshotTask.hash.injEq, exists_eq_right,
        reduceCtorEq, and_false, exists_false, or_false] at hmem
      rcases hmem with (hold | hnew) | hold
      · exact h.listed record (.inl hold)
      · exact hplaced record (mem_of_listUploadReady hnew)
      · exact h.listed record (.inr hold)
  | advance i outcome =>
    simp only [snapshotSystem, snapshotStep] at hs
    split at hs
    · cases hs
    · rename_i task htask
      cases hs
      exact h.advance hplaced htask hallows (hguard task htask)
  | abandon i =>
    have hfree := Option.isNone_iff_eq_none.mp hallows
    cases hs
    refine .of_loopFree ((running_eq_none_iff.mp hfree).erase i) (fun record hmem => ?_)
      (fun file hfile => hfree ▸ h.files file hfile) h.bound
    exact h.listed record (hmem.imp List.mem_of_mem_eraseIdx List.mem_of_mem_eraseIdx)
  | crash =>
    cases hs
    refine .of_loopFree (fun task hmem => absurd hmem List.not_mem_nil)
      (fun record hmem => by simp at hmem) (fun file hfile => ?_) h.bound
    refine (h.files file hfile).waits (fun eventId data hrename => ?_) fun hunlink => ?_
    · have hleft := hguard _ hrename
      cases hleft
    · have hgone := hguard _ hunlink
      rw [leavesFile, Spool.isFile_iff.mpr ⟨file, hfile, rfl⟩] at hgone
      cases hgone
  | reconcile faults =>
    have hfree := Option.isNone_iff_eq_none.mp hallows
    cases hs
    exact .of_loopFree (running_eq_none_iff.mp hfree) h.listed
      (accounted_reconcile hplaced faults fun file hfile => hfree ▸ h.files file hfile)
      ((totalBytes_reconcile_le cfg faults s.db s.spool).trans h.bound)

theorem spoolInv_of_reachable (h : (spoolSystem cfg).ReachableUnder (LeavesNoFile cfg) s) :
    SpoolInv cfg s := by
  have hplaced : ∀ s, (spoolSystem cfg).Reachable s → Placed cfg s.db.snapshots :=
    fun s hreach => placed_of_reachable (.of_restrict hreach)
  refine h.invariant hplaced ?_ fun s a s' hplaced hinv hguard hs => hinv.step hplaced hguard hs
  intro s hinit
  cases hinit
  exact .of_loopFree (fun task hmem => absurd hmem List.not_mem_nil)
    (fun record hmem => by simp at hmem) (fun file hfile => absurd hfile List.not_mem_nil)
    (Nat.zero_le _)

end Step

/-! ## The bound -/

/-- The file of an event without a row does not survive a reconciliation that can remove it. -/
theorem known_of_mem_reconcile {cfg : CaptureConfig} {s : SnapshotState} {faults : ReconcileFaults}
    (hguard : LeavesNoFile cfg s (.reconcile faults)) {file : String × Bytes} {eventId : Uuid}
    (hfile : file ∈ (reconcileSnapshotSpool cfg faults s.db s.spool).2.entries)
    (hname : file.1 = snapshotName eventId) : ∃ row, s.db.snapshots.find? eventId = some row := by
  rw [← Option.ne_none_iff_exists']
  intro hunknown
  have horphan : isOrphan (s.db.snapshots.rows.map SnapshotOutboxRecord.eventId) file.1 = true := by
    rw [isOrphan_iff, hname]
    refine ⟨isJpg_snapshotName eventId, fun known hknown hsame => ?_⟩
    obtain ⟨row, hrow, rfl⟩ := List.mem_map.mp hknown
    exact KeyedTable.find?_eq_none_iff.mp hunknown row hrow (snapshotName_injective hsame).symm
  have hmem : file ∈ s.spool.entries := by
    unfold reconcileSnapshotSpool at hfile
    split at hfile
    · exact hfile
    · exact (List.mem_filter.mp hfile).1
  obtain ⟨hlist, hunlink⟩ := hguard file hmem horphan
  simp only [reconcileSnapshotSpool, hlist, Bool.false_eq_true, if_false] at hfile
  have hkept := (List.mem_filter.mp hfile).2
  rw [horphan, hunlink] at hkept
  cases hkept

/-- A reconciliation keeps the rows under their identifiers. -/
theorem find?_reconcile_of_some (cfg : CaptureConfig) (faults : ReconcileFaults) (spool : Spool)
    {db : Database} {eventId : Uuid} {row : SnapshotOutboxRecord}
    (h : db.snapshots.find? eventId = some row) :
    ∃ row', (reconcileSnapshotSpool cfg faults db spool).1.snapshots.find? eventId = some row' := by
  cases hlist : faults.list with
  | true => exact ⟨row, by simpa [reconcileSnapshotSpool, hlist] using h⟩
  | false =>
    rw [snapshots_reconcile cfg faults spool db hlist]
    exact ⟨_, by rw [KeyedTable.find?_update, h, Option.map_some]⟩

/-- What a reconciliation leaves, between two tasks. -/
theorem allAwaitUpload_reconcile {cfg : CaptureConfig} {s s' : SnapshotState}
    {faults : ReconcileFaults} (hinv : SpoolInv cfg s) (hplaced : Placed cfg s.db.snapshots)
    (hguard : LeavesNoFile cfg s (.reconcile faults))
    (hs : (spoolSystem cfg).step s (.reconcile faults) = some s') : AllAwaitUpload cfg s' := by
  obtain ⟨hallows, hs⟩ := TransitionSystem.step_restrict.mp hs
  have hfree := Option.isNone_iff_eq_none.mp hallows
  cases hs
  intro file hfile
  obtain ⟨eventId, hname, hrow⟩ := (accounted_reconcile hplaced faults
    (fun file hfile => hfree ▸ hinv.files file hfile) file hfile).of_none
  obtain ⟨old, hold⟩ := known_of_mem_reconcile hguard hfile hname
  obtain ⟨row, hfind⟩ := find?_reconcile_of_some cfg faults s.spool hold
  obtain ⟨hmem, hkey⟩ := KeyedTable.find?_eq_some_iff.mp hfind
  refine ⟨row, hmem, ?_, hrow row hfind⟩
  rw [hplaced.reconcile faults s.spool row hmem, hkey, hname, snapshotPath]

/-- Room for one snapshot. -/
def tinySpool : CaptureConfig := { smallSpool with maxSpoolBytes := 20 }

end WeaponDetection.Agent.Snapshots
