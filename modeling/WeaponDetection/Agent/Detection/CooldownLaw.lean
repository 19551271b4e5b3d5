import WeaponDetection.Agent.Detection.Ingest
import Mathlib.Data.List.Induction

/-!
# The cooldown law over whole runs

A run of the ingest handler is the list of messages its consumer task takes from the queue.  Its
log pairs every message with its outcome, and the window the tracker holds for a key is the commit
reading of the last persisted detection of that key in the log (`lastAcceptedAt_run`).  From this
one invariant follow when a detection is suppressed, how far persisted detections of one key are
apart, and that a message which is not persisted leaves no trace.
-/

namespace WeaponDetection.Agent.Detection

open WeaponDetection.Foundations.Python
open WeaponDetection.Agent.Persistence

/-! ## Runs and their logs -/

/-- A freshly started handler over an existing table: the tracker's dictionary is empty. -/
def freshHandler (table : DetectionEventTable) : HandlerState := ⟨fun _ => none, table⟩

/-- A processed message with its outcome. -/
structure LogEntry where
  delivery : Delivery
  outcome : ProcessOutcome

/-- The state after a list of messages. -/
def run (cfg : IngestConfig) (st : HandlerState) : List Delivery → HandlerState
  | [] => st
  | x :: xs => run cfg (process cfg st x).1 xs

/-- What became of each message of a run. -/
def log (cfg : IngestConfig) (st : HandlerState) : List Delivery → List LogEntry
  | [] => []
  | x :: xs => ⟨x, (process cfg st x).2⟩ :: log cfg (process cfg st x).1 xs

/-- The row a logged message left in the database. -/
def LogEntry.row? (r : LogEntry) : Option OutboxRow :=
  match r.outcome with
  | .persisted event => some (newRow event r.delivery.createdAtUtc)
  | _ => none

/-- The commit reading of a logged message, if it was persisted under a key. -/
def LogEntry.commitOf (key : CooldownKey) (r : LogEntry) : Option ℚ :=
  match r.outcome with
  | .persisted event => if event.cooldownKey = key then some r.delivery.commitAt else none
  | _ => none

/-- The commit reading of the latest persisted detection of a key. -/
def latestCommit (entries : List LogEntry) (key : CooldownKey) : Option ℚ :=
  (entries.filterMap (LogEntry.commitOf key)).getLast?

theorem run_append (cfg : IngestConfig) (st : HandlerState) (xs ys : List Delivery) :
    run cfg st (xs ++ ys) = run cfg (run cfg st xs) ys := by
  induction xs generalizing st with
  | nil => rfl
  | cons x xs ih => exact ih _

theorem log_append (cfg : IngestConfig) (st : HandlerState) (xs ys : List Delivery) :
    log cfg st (xs ++ ys) = log cfg st xs ++ log cfg (run cfg st xs) ys := by
  induction xs generalizing st with
  | nil => rfl
  | cons x xs ih => exact congrArg (List.cons _) (ih _)

theorem map_delivery_log (cfg : IngestConfig) (st : HandlerState) (xs : List Delivery) :
    (log cfg st xs).map LogEntry.delivery = xs := by
  induction xs generalizing st with
  | nil => rfl
  | cons x xs ih => exact congrArg (List.cons _) (ih _)

/-! ## What one message does -/

/-- Everything `process` can do: it leaves the state alone and persists nothing, or it accepts a
validated event, appends its row and starts its window. -/
theorem process_cases (cfg : IngestConfig) (st : HandlerState) (x : Delivery) :
    ((process cfg st x).1 = st ∧ ∀ event, (process cfg st x).2 ≠ .persisted event) ∨
    ∃ event, validate cfg x = .ok event ∧
      st.lastAcceptedAt.decide cfg.cooldownSeconds event.cooldownKey x.decideAt = .ok .accept ∧
      (process cfg st x).2 = .persisted event ∧
      (process cfg st x).1.table.rows = st.table.rows ++ [newRow event x.createdAtUtc] ∧
      (process cfg st x).1.lastAcceptedAt =
        Function.update st.lastAcceptedAt event.cooldownKey (some x.commitAt) := by
  unfold process
  cases hv : validate cfg x with
  | error stop => cases stop <;> exact .inl ⟨rfl, by simp⟩
  | ok event =>
    simp only
    cases hd : st.lastAcceptedAt.decide cfg.cooldownSeconds event.cooldownKey x.decideAt with
    | error e => exact .inl ⟨rfl, by simp⟩
    | ok decision =>
      cases decision with
      | suppress => exact .inl ⟨rfl, by simp⟩
      | accept =>
        simp only [persist]
        cases hins : (if x.insertFault then .error .other
            else insert st.table event x.createdAtUtc :
            Except InsertError DetectionEventTable) with
        | error e => cases e <;> exact .inl ⟨rfl, by simp⟩
        | ok table =>
          -- The key passed `decide`, so `commit` cannot raise.
          have hnamed := (LastAccepted.decide_eq_accept_iff.mp hd).1
          have hrows : table.rows = st.table.rows ++ [newRow event x.createdAtUtc] := by
            cases hf : x.insertFault with
            | true => simp [hf] at hins
            | false =>
              simp only [hf, Bool.false_eq_true, ↓reduceIte] at hins
              exact (insert_eq_ok_iff.mp hins).2.2
          refine .inr ⟨event, rfl, hd, ?_⟩
          simp [LastAccepted.commit, hnamed, hrows]

/-- A message that is not persisted leaves tracker and table as they were. -/
theorem process_state_of_not_persisted {cfg : IngestConfig} {st : HandlerState} {x : Delivery}
    (h : ∀ event, (process cfg st x).2 ≠ .persisted event) : (process cfg st x).1 = st := by
  obtain ⟨hst, -⟩ | ⟨event, -, -, hout, -, -⟩ := process_cases cfg st x
  · exact hst
  · exact absurd hout (h event)

/-- A validated event is suppressed exactly when the window of its key is open. -/
theorem process_eq_suppressed_iff {cfg : IngestConfig} {st : HandlerState} {x : Delivery}
    {event : DetectionEvent} (hv : validate cfg x = .ok event) :
    (process cfg st x).2 = .suppressed event ↔
      event.cooldownKey.Named ∧
        ∃ t, st.lastAcceptedAt event.cooldownKey = some t ∧
          x.decideAt - t < cfg.cooldownSeconds := by
  rw [← LastAccepted.decide_eq_suppress_iff]
  unfold process
  rw [hv]
  simp only
  cases hd : st.lastAcceptedAt.decide cfg.cooldownSeconds event.cooldownKey x.decideAt with
  | error e => simp
  | ok decision =>
    cases decision with
    | suppress => simp
    | accept =>
      simp only [Except.ok.injEq, reduceCtorEq, iff_false, persist]
      split <;> try simp
      split <;> simp

/-! ## What a run does -/

theorem commitOf_persisted {key : CooldownKey} {r : LogEntry} {event : DetectionEvent}
    (h : r.outcome = .persisted event) :
    r.commitOf key = if event.cooldownKey = key then some r.delivery.commitAt else none := by
  simp [LogEntry.commitOf, h]

theorem commitOf_not_persisted {key : CooldownKey} {r : LogEntry}
    (h : ∀ event, r.outcome ≠ .persisted event) : r.commitOf key = none := by
  unfold LogEntry.commitOf
  split
  · exact absurd ‹_› (h _)
  · rfl

theorem latestCommit_snoc (entries : List LogEntry) (r : LogEntry) (key : CooldownKey) :
    latestCommit (entries ++ [r]) key = (r.commitOf key).or (latestCommit entries key) := by
  unfold latestCommit
  cases h : r.commitOf key <;> simp [List.filterMap_append, h]

/-- The window invariant: the tracker holds, for every key, the commit reading of the latest
persisted detection of that key. -/
theorem lastAcceptedAt_run (cfg : IngestConfig) (table : DetectionEventTable)
    (xs : List Delivery) (key : CooldownKey) :
    (run cfg (freshHandler table) xs).lastAcceptedAt key =
      latestCommit (log cfg (freshHandler table) xs) key := by
  induction xs using List.reverseRecOn with
  | nil => rfl
  | append_singleton xs x ih =>
    rw [run_append, log_append]
    simp only [run, log]
    rw [latestCommit_snoc, ← ih]
    obtain ⟨hst, hout⟩ | ⟨event, -, -, hout, -, hlast⟩ :=
      process_cases cfg (run cfg (freshHandler table) xs) x
    · rw [hst, commitOf_not_persisted hout, Option.none_or]
    · rw [hlast, commitOf_persisted hout]
      by_cases hkey : event.cooldownKey = key
      · subst hkey
        simp
      · rw [if_neg hkey, Option.none_or, Function.update_of_ne (Ne.symm hkey)]

/-- A window is only ever opened for a key `decide` let through. -/
theorem named_of_lastAcceptedAt (cfg : IngestConfig) (table : DetectionEventTable)
    (xs : List Delivery) {key : CooldownKey} {t : ℚ}
    (h : (run cfg (freshHandler table) xs).lastAcceptedAt key = some t) : key.Named := by
  induction xs using List.reverseRecOn generalizing t with
  | nil => simp [run, freshHandler] at h
  | append_singleton xs x ih =>
    rw [run_append] at h
    simp only [run] at h
    obtain ⟨hst, -⟩ | ⟨event, -, hd, -, -, hlast⟩ :=
      process_cases cfg (run cfg (freshHandler table) xs) x
    · exact ih (hst ▸ h)
    · rw [hlast] at h
      by_cases hkey : key = event.cooldownKey
      · exact hkey ▸ (LastAccepted.decide_eq_accept_iff.mp hd).1
      · rw [Function.update_of_ne hkey] at h
        exact ih h

/-- The table of a run: what it held before, then the persisted detections in order. -/
theorem rows_run (cfg : IngestConfig) (st : HandlerState) (xs : List Delivery) :
    (run cfg st xs).table.rows = st.table.rows ++ (log cfg st xs).filterMap LogEntry.row? := by
  induction xs generalizing st with
  | nil => simp [run, log]
  | cons x xs ih =>
    simp only [run, log]
    rw [ih, List.filterMap_cons]
    obtain ⟨hst, hout⟩ | ⟨event, -, -, hout, hrows, -⟩ := process_cases cfg st x
    · have hrow : LogEntry.row? ⟨x, (process cfg st x).2⟩ = none := by
        unfold LogEntry.row?
        split
        · exact absurd ‹_› (hout _)
        · rfl
      rw [hrow, hst]
    · have hrow : LogEntry.row? ⟨x, (process cfg st x).2⟩ =
          some (newRow event x.createdAtUtc) := by
        simp [LogEntry.row?, hout]
      rw [hrow, hrows, List.append_assoc, List.singleton_append]

/-! ## The clock -/

/-- The readings of the monotonic clock over a run, in order. -/
def clockReadings (xs : List Delivery) : List ℚ := xs.flatMap fun x => [x.decideAt, x.commitAt]

/-- A monotonic clock never goes back. -/
def ClockNonDecreasing (xs : List Delivery) : Prop := (clockReadings xs).Pairwise (· ≤ ·)

theorem ClockNonDecreasing.init {xs : List Delivery} {x : Delivery}
    (h : ClockNonDecreasing (xs ++ [x])) : ClockNonDecreasing xs := by
  unfold ClockNonDecreasing clockReadings at h
  rw [List.flatMap_append, List.pairwise_append] at h
  exact h.1

theorem ClockNonDecreasing.decideAt_le_commitAt {xs : List Delivery} {x : Delivery}
    (h : ClockNonDecreasing (xs ++ [x])) : x.decideAt ≤ x.commitAt := by
  unfold ClockNonDecreasing clockReadings at h
  rw [List.flatMap_append, List.pairwise_append] at h
  simpa using h.2.1

theorem ClockNonDecreasing.pairwise_commitAt {xs : List Delivery} (h : ClockNonDecreasing xs) :
    xs.Pairwise fun x y => x.commitAt ≤ y.commitAt := by
  induction xs with
  | nil => exact .nil
  | cons x xs ih =>
    unfold ClockNonDecreasing clockReadings at h
    rw [List.flatMap_cons, List.pairwise_append] at h
    refine List.pairwise_cons.mpr ⟨fun y hy => ?_, ih h.2.1⟩
    exact h.2.2 _ (by simp) _ (List.mem_flatMap.mpr ⟨y, hy, by simp⟩)

/-- Along a non-decreasing clock the latest commit of a key is also its largest. -/
theorem le_latestCommit {cfg : IngestConfig} {st : HandlerState} {xs : List Delivery}
    (hclock : ClockNonDecreasing xs) {key : CooldownKey} {r : LogEntry} {t : ℚ}
    (hr : r ∈ log cfg st xs) (ht : r.commitOf key = some t) :
    ∃ t', latestCommit (log cfg st xs) key = some t' ∧ t ≤ t' := by
  have hsorted : ((log cfg st xs).filterMap (LogEntry.commitOf key)).Pairwise (· ≤ ·) := by
    have hlog := hclock.pairwise_commitAt
    rw [← map_delivery_log cfg st xs, List.pairwise_map] at hlog
    refine List.Pairwise.filterMap _ (fun a b hab u hu v hv => ?_) hlog
    have hcommit : ∀ {c : LogEntry} {w : ℚ}, c.commitOf key = some w →
        w = c.delivery.commitAt := by
      intro c w hw
      unfold LogEntry.commitOf at hw
      split at hw
      · split at hw
        · exact (Option.some.inj hw).symm
        · simp at hw
      · simp at hw
    rw [hcommit hu, hcommit hv]
    exact hab
  have hmem : t ∈ (log cfg st xs).filterMap (LogEntry.commitOf key) :=
    List.mem_filterMap.mpr ⟨r, hr, ht⟩
  obtain ⟨init, last, hsplit⟩ := List.eq_nil_or_concat' _ |>.resolve_left
    (List.ne_nil_of_mem hmem)
  rw [latestCommit, hsplit]
  refine ⟨last, by simp, ?_⟩
  rw [hsplit, List.pairwise_append] at hsorted
  rw [hsplit, List.mem_append, List.mem_singleton] at hmem
  rcases hmem with hinit | rfl
  · exact hsorted.2.2 _ hinit _ (by simp)
  · exact le_rfl

/-! ## The cooldown law -/

/-- Two persisted detections of one key, in the order of the log. -/
def Spaced (cooldownSeconds : ℚ) (r r' : LogEntry) : Prop :=
  ∀ key t t', r.commitOf key = some t → r'.commitOf key = some t' → t + cooldownSeconds ≤ t'

/-- Persisted detections of one key are a cooldown apart. -/
theorem log_pairwise_spaced (cfg : IngestConfig) (table : DetectionEventTable)
    (xs : List Delivery) (hclock : ClockNonDecreasing xs) :
    (log cfg (freshHandler table) xs).Pairwise (Spaced cfg.cooldownSeconds) := by
  induction xs using List.reverseRecOn with
  | nil => exact .nil
  | append_singleton xs x ih =>
    rw [log_append, List.pairwise_append]
    refine ⟨ih hclock.init, List.pairwise_singleton _ _, fun r hr r' hr' key t t' ht ht' => ?_⟩
    rw [log, log, List.mem_singleton] at hr'
    subst hr'
    obtain ⟨-, hout⟩ | ⟨event, -, hd, hout, -, -⟩ :=
      process_cases cfg (run cfg (freshHandler table) xs) x
    · rw [commitOf_not_persisted hout] at ht'
      simp at ht'
    · rw [commitOf_persisted hout] at ht'
      split at ht'
      · rename_i hkey
        obtain ⟨last, hlast, hle⟩ := le_latestCommit hclock.init hr ht
        rw [← lastAcceptedAt_run, ← hkey] at hlast
        have hopen := (LastAccepted.decide_eq_accept_iff.mp hd).2 last hlast
        have hcommit := hclock.decideAt_le_commitAt
        rw [Option.some.injEq] at ht'
        subst ht'
        linarith
      · simp at ht'

/-- A handler with one class and a cooldown of five seconds. -/
def sampleConfig : IngestConfig :=
  { deviceId := "device-1", cameraId := "camera-1"
    classNames := fun classId => if classId = 0 then some "gun" else none
    minConfidence := 1 / 2, cooldownSeconds := 5, cooldown_nonneg := by norm_num
    snapshotCaptureEnabled := true }

/-- A v1 message with a box inside a full-HD frame, decided and committed at `now`. -/
def sampleDelivery (eventId : Uuid) (now : ℚ) : Delivery :=
  { payload :=
      [("schema_version", .int 1), ("class_id", .int 0), ("source_id", .int 0),
        ("frame_number", .int 7), ("frame_width", .int 1920), ("frame_height", .int 1080),
        ("confidence", .float (.finite (9 / 10))), ("bbox_left", .int 10), ("bbox_top", .int 10),
        ("bbox_width", .int 20), ("bbox_height", .int 20)]
    connected := true, cameraIdResolver := none, now := 0, eventId, decideAt := now
    insertFault := false, createdAtUtc := 0, commitAt := now }

/-- Three messages of one key: the second inside the window of the first, the third after it. -/
def sampleRun : List Delivery := [sampleDelivery 1 0, sampleDelivery 2 3, sampleDelivery 3 6]

end WeaponDetection.Agent.Detection
