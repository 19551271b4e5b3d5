import WeaponDetection.Backend.Snapshots.Upload
import WeaponDetection.Foundations.TransitionSystem

/-!
# Concurrent uploads for one Alert

`AlertSnapshotUploadService.UploadAsync` cut at its awaits, for any number of calls at a time: the load
of the Alert, the decision in memory, the rename of `SaveAsync` and the `UPDATE` of `SaveChangesAsync`.
The row has no concurrency token, so two calls that both read an Alert without a snapshot both attach
theirs.  `snapshot_immutable` is what holds where no rename takes another call's file away.
-/

namespace WeaponDetection.Backend.Snapshots

open WeaponDetection.Foundations

/-! ## The calls -/

/-- What a call has of the Alert: its identity and the snapshot columns. -/
structure AlertRow where
  alertId : Guid
  eventId : Guid
  snapshot : SnapshotColumns
  deriving DecidableEq

/-- A call between two of its awaits. -/
inductive UploadPhase where
  /-- Before it loads the Alert. -/
  | started
  /-- The Alert is loaded; its Camera and the request body are still to be read. -/
  | loaded (alert : AlertRow)
  /-- `AttachSnapshot` attached the snapshot to the Alert in memory. -/
  | attached (columns : SnapshotColumns) (bytes : Bytes)
  /-- `SaveAsync` renamed the file into place. -/
  | moved (columns : SnapshotColumns) (bytes : Bytes)
  /-- `SaveChangesAsync` committed the columns. -/
  | saved
  | answered (outcome : SnapshotUploadOutcome)
  /-- The call ended with an exception, or with the process. -/
  | raised
  deriving DecidableEq

/-- A call of `UploadAsync`. -/
structure UploadCall where
  request : SnapshotUploadRequest
  phase : UploadPhase
  deriving DecidableEq

/-- The row of the Alert, the file under its reference and the calls made so far. -/
structure SnapshotState where
  alert : AlertRow
  file : Option Bytes
  calls : List UploadCall
  deriving DecidableEq

/-- What can happen next. -/
inductive UploadAction where
  | begin (request : SnapshotUploadRequest)
  | load (call : ℕ)
  /-- The call reads the Branch of the Camera and the body, checks them and decides. -/
  | decide (call : ℕ) (cameraBranchId : Option Guid) (receivedAtUtc : DateTime)
  | move (call : ℕ)
  | save (call : ℕ)
  | answer (call : ℕ)
  /-- The call raises, is cancelled, or dies with the process. -/
  | raise (call : ℕ)

/-- The decision of a call about the Alert it loaded. -/
def decideUpload (runtime : SnapshotRuntime) (alert : AlertRow) (cameraBranchId : Option Guid)
    (receivedAtUtc : DateTime) (request : SnapshotUploadRequest) : UploadPhase :=
  match checkUpload runtime alert.eventId cameraBranchId request with
  | .error outcome => .answered outcome
  | .ok bytes =>
    match attachSnapshot runtime.toRuntime alert.snapshot (buildReference alert.alertId)
      (runtime.computeSha256 bytes) requiredContentType bytes.length receivedAtUtc with
    | .error _ => .raised
    | .ok (_, .conflict) => .answered snapshotConflict
    | .ok (_, .duplicate) => .answered ⟨.duplicate, some (buildReference alert.alertId), none, none⟩
    | .ok (columns, .attached) => .attached columns bytes

/-- The call is over. -/
def UploadPhase.isOver : UploadPhase → Bool
  | .answered _ | .raised => true
  | _ => false

/-- The state with a call in another phase. -/
def SnapshotState.enter (s : SnapshotState) (i : ℕ) (call : UploadCall) (phase : UploadPhase) : SnapshotState :=
  { s with calls := s.calls.set i { call with phase } }

/-- One step. -/
def uploadStep (runtime : SnapshotRuntime) (s : SnapshotState) : UploadAction → Option SnapshotState
  | .begin request => some { s with calls := s.calls ++ [⟨request, .started⟩] }
  | .load i =>
    match s.calls[i]? with
    | some call =>
      if call.phase = .started then
        if call.request.alertId = s.alert.alertId then some (s.enter i call (.loaded s.alert))
        else some (s.enter i call (.answered notFound))
      else none
    | none => none
  | .decide i cameraBranchId receivedAtUtc =>
    match s.calls[i]? with
    | some call =>
      match call.phase with
      | .loaded alert =>
        some (s.enter i call (decideUpload runtime alert cameraBranchId receivedAtUtc call.request))
      | _ => none
    | none => none
  | .move i =>
    match s.calls[i]? with
    | some call =>
      match call.phase with
      | .attached columns bytes => some { s.enter i call (.moved columns bytes) with file := some bytes }
      | _ => none
    | none => none
  | .save i =>
    match s.calls[i]? with
    | some call =>
      match call.phase with
      | .moved columns _ => some { s.enter i call .saved with alert := { s.alert with snapshot := columns } }
      | _ => none
    | none => none
  | .answer i =>
    match s.calls[i]? with
    | some call =>
      if call.phase = .saved then
        some (s.enter i call (.answered ⟨.accepted, some (buildReference s.alert.alertId), none, none⟩))
      else none
    | none => none
  | .raise i =>
    match s.calls[i]? with
    | some call => if call.phase.isOver then none else some (s.enter i call .raised)
    | none => none

/-- Uploads for one Alert, which starts without a snapshot. -/
def uploadSystem (runtime : SnapshotRuntime) : TransitionSystem SnapshotState UploadAction where
  init := fun s => s.alert.snapshot = .empty ∧ s.file = none ∧ s.calls = []
  step := uploadStep runtime

/-! ## The property -/

/-- The recorded digest is that of the stored file. -/
def RecordsItsFile (runtime : SnapshotRuntime) (s : SnapshotState) : Prop :=
  ∀ sha256, s.alert.snapshot.snapshotSha256 = some sha256 →
    ∃ bytes, s.file = some bytes ∧ runtime.computeSha256 bytes = sha256

/-- An upload was answered `accepted`. -/
def HasAccepted (s : SnapshotState) : Prop :=
  ∃ call ∈ s.calls, ∃ outcome, call.phase = .answered outcome ∧ outcome.kind = .accepted

/-- The answer of the checks a request does not pass. -/
def Refused (runtime : SnapshotRuntime) (alert : AlertRow) (request : SnapshotUploadRequest)
    (outcome : SnapshotUploadOutcome) : Prop :=
  (request.alertId ≠ alert.alertId ∧ outcome = notFound) ∨
    ∃ cameraBranchId, checkUpload runtime alert.eventId cameraBranchId request = .error outcome

/-- From the first state to the second the recorded digest and the file stay, and an upload of other
bytes that began in between is answered with a conflict, where it passes the checks at all. -/
structure StaysAsRecorded (runtime : SnapshotRuntime) (s s' : SnapshotState) : Prop where
  sha256 : s'.alert.snapshot.snapshotSha256 = s.alert.snapshot.snapshotSha256
  file : s'.file = s.file
  later : ∀ i call, s.calls.length ≤ i → s'.calls[i]? = some call → call.request.content ≠ s.file →
    ∀ outcome, call.phase = .answered outcome →
      outcome = snapshotConflict ∨ Refused runtime s.alert call.request outcome

/-- The call is between its rename and its commit. -/
def UploadPhase.isMoved : UploadPhase → Bool
  | .moved _ _ => true
  | _ => false

/-- The rename of a call in this phase takes no other file away: the file in place already has the same
bytes, or the Alert has no recorded snapshot and no other call is between its rename and its commit. -/
def MoveReplacesNothing (s : SnapshotState) : Option UploadPhase → Prop
  | some (.attached _ bytes) => s.file = some bytes ∨
      (s.alert.snapshot.snapshotSha256 = none ∧ ∀ other ∈ s.calls, other.phase.isMoved = false)
  | _ => True

/-- Bytes with the recorded digest are those of the file. -/
def DigestNamesFile (runtime : SnapshotRuntime) (s : SnapshotState) : Option Bytes → Option String → Prop
  | some bytes, some stored =>
    runtime.equalsOrdinalIgnoreCase stored (runtime.computeSha256 bytes) = true → s.file = some bytes
  | _, _ => True

/-- No rename takes another file away, and no decision compares the digests of different bytes as equal. -/
def ReplacesNothing (runtime : SnapshotRuntime) (s : SnapshotState) : UploadAction → Prop
  | .move i => MoveReplacesNothing s ((s.calls[i]?).map UploadCall.phase)
  | .decide i _ _ =>
    DigestNamesFile runtime s ((s.calls[i]?).bind (·.request.content)) s.alert.snapshot.snapshotSha256
  | _ => True

instance (s : SnapshotState) : DecidablePred (MoveReplacesNothing s)
  | some (.attached _ _) => inferInstanceAs (Decidable (_ ∨ _))
  | none | some .started | some (.loaded _) | some (.moved _ _) | some .saved | some (.answered _)
  | some .raised => isTrue trivial

instance (runtime : SnapshotRuntime) (s : SnapshotState) :
    (content : Option Bytes) → (stored : Option String) → Decidable (DigestNamesFile runtime s content stored)
  | some _, some _ => inferInstanceAs (Decidable (_ → _))
  | none, _ => isTrue trivial
  | some _, none => isTrue trivial

instance (runtime : SnapshotRuntime) (s : SnapshotState) : DecidablePred (ReplacesNothing runtime s)
  | .move _ => inferInstanceAs (Decidable (MoveReplacesNothing _ _))
  | .decide _ _ _ => inferInstanceAs (Decidable (DigestNamesFile _ _ _ _))
  | .begin _ | .load _ | .save _ | .answer _ | .raise _ => isTrue trivial

/-! ## What a step does -/

/-- A step of a call: the phase it enters, and the columns and the file after it. -/
inductive Advances (runtime : SnapshotRuntime) (s : SnapshotState) (i : ℕ) (call : UploadCall) :
    UploadAction → UploadPhase → SnapshotColumns → Option Bytes → Prop where
  | load : call.phase = .started → call.request.alertId = s.alert.alertId →
      Advances runtime s i call (.load i) (.loaded s.alert) s.alert.snapshot s.file
  | loadOther : call.phase = .started → call.request.alertId ≠ s.alert.alertId →
      Advances runtime s i call (.load i) (.answered notFound) s.alert.snapshot s.file
  | decide (alert : AlertRow) (cameraBranchId : Option Guid) (receivedAtUtc : DateTime) :
      call.phase = .loaded alert →
      Advances runtime s i call (.decide i cameraBranchId receivedAtUtc)
        (decideUpload runtime alert cameraBranchId receivedAtUtc call.request) s.alert.snapshot s.file
  | move (columns : SnapshotColumns) (bytes : Bytes) : call.phase = .attached columns bytes →
      Advances runtime s i call (.move i) (.moved columns bytes) s.alert.snapshot (some bytes)
  | save (columns : SnapshotColumns) (bytes : Bytes) : call.phase = .moved columns bytes →
      Advances runtime s i call (.save i) .saved columns s.file
  | answer : call.phase = .saved →
      Advances runtime s i call (.answer i)
        (.answered ⟨.accepted, some (buildReference s.alert.alertId), none, none⟩) s.alert.snapshot s.file
  | raise : Advances runtime s i call (.raise i) .raised s.alert.snapshot s.file

/-- A step begins a call or advances one. -/
theorem uploadStep_cases {runtime : SnapshotRuntime} {s s' : SnapshotState} {a : UploadAction}
    (h : uploadStep runtime s a = some s') :
    (∃ request, s' = { s with calls := s.calls ++ [⟨request, .started⟩] }) ∨
      ∃ i call phase columns file, s.calls[i]? = some call ∧ Advances runtime s i call a phase columns file ∧
        s' = ⟨{ s.alert with snapshot := columns }, file, s.calls.set i { call with phase }⟩ := by
  cases a with
  | begin request => exact .inl ⟨request, (Option.some.inj h).symm⟩
  | load i =>
    cases hcall : s.calls[i]? with
    | none => simp [uploadStep, hcall] at h
    | some call =>
      by_cases hphase : call.phase = .started
      · by_cases hid : call.request.alertId = s.alert.alertId
        · simp only [uploadStep, hcall, hphase, hid, if_true, Option.some.injEq] at h
          exact .inr ⟨i, call, _, _, _, hcall, .load hphase hid, h.symm⟩
        · simp only [uploadStep, hcall, hphase, hid, if_true, if_false, Option.some.injEq] at h
          exact .inr ⟨i, call, _, _, _, hcall, .loadOther hphase hid, h.symm⟩
      · simp [uploadStep, hcall, hphase] at h
  | decide i cameraBranchId receivedAtUtc =>
    cases hcall : s.calls[i]? with
    | none => simp [uploadStep, hcall] at h
    | some call =>
      cases hphase : call.phase with
      | loaded alert =>
        simp only [uploadStep, hcall, hphase, Option.some.injEq] at h
        exact .inr ⟨i, call, _, _, _, hcall, .decide alert cameraBranchId receivedAtUtc hphase, h.symm⟩
      | _ => simp [uploadStep, hcall, hphase] at h
  | move i =>
    cases hcall : s.calls[i]? with
    | none => simp [uploadStep, hcall] at h
    | some call =>
      cases hphase : call.phase with
      | attached columns bytes =>
        simp only [uploadStep, hcall, hphase, Option.some.injEq] at h
        exact .inr ⟨i, call, _, _, _, hcall, .move columns bytes hphase, h.symm⟩
      | _ => simp [uploadStep, hcall, hphase] at h
  | save i =>
    cases hcall : s.calls[i]? with
    | none => simp [uploadStep, hcall] at h
    | some call =>
      cases hphase : call.phase with
      | moved columns bytes =>
        simp only [uploadStep, hcall, hphase, Option.some.injEq] at h
        exact .inr ⟨i, call, _, _, _, hcall, .save columns bytes hphase, h.symm⟩
      | _ => simp [uploadStep, hcall, hphase] at h
  | answer i =>
    cases hcall : s.calls[i]? with
    | none => simp [uploadStep, hcall] at h
    | some call =>
      by_cases hphase : call.phase = .saved
      · simp only [uploadStep, hcall, hphase, if_true, Option.some.injEq] at h
        exact .inr ⟨i, call, _, _, _, hcall, .answer hphase, h.symm⟩
      · simp [uploadStep, hcall, hphase] at h
  | raise i =>
    cases hcall : s.calls[i]? with
    | none => simp [uploadStep, hcall] at h
    | some call =>
      cases hover : call.phase.isOver with
      | true => simp [uploadStep, hcall, hover] at h
      | false =>
        simp only [uploadStep, hcall, hover, Bool.false_eq_true, if_false, Option.some.injEq] at h
        exact .inr ⟨i, call, _, _, _, hcall, .raise, h.symm⟩

/-- What a decision comes to. -/
theorem decideUpload_cases (runtime : SnapshotRuntime) (alert : AlertRow) (cameraBranchId : Option Guid)
    (receivedAtUtc : DateTime) (request : SnapshotUploadRequest) :
    (∃ outcome, checkUpload runtime alert.eventId cameraBranchId request = .error outcome ∧
        decideUpload runtime alert cameraBranchId receivedAtUtc request = .answered outcome) ∨
      decideUpload runtime alert cameraBranchId receivedAtUtc request = .raised ∨
      decideUpload runtime alert cameraBranchId receivedAtUtc request = .answered snapshotConflict ∨
      (∃ bytes stored, request.content = some bytes ∧ alert.snapshot.snapshotSha256 = some stored ∧
        runtime.equalsOrdinalIgnoreCase stored (runtime.computeSha256 bytes) = true ∧
        decideUpload runtime alert cameraBranchId receivedAtUtc request =
          .answered ⟨.duplicate, some (buildReference alert.alertId), none, none⟩) ∨
      ∃ columns bytes, alert.snapshot.snapshotReference = none ∧ columns.snapshotReference ≠ none ∧
        columns.snapshotSha256 = some (runtime.computeSha256 bytes) ∧
        decideUpload runtime alert cameraBranchId receivedAtUtc request = .attached columns bytes := by
  unfold decideUpload
  cases hcheck : checkUpload runtime alert.eventId cameraBranchId request with
  | error outcome => exact .inl ⟨outcome, rfl, rfl⟩
  | ok bytes =>
    refine .inr ?_
    have hcontent := content_of_checkUpload hcheck
    simp only
    cases hattach : attachSnapshot runtime.toRuntime alert.snapshot (buildReference alert.alertId)
        (runtime.computeSha256 bytes) requiredContentType bytes.length receivedAtUtc with
    | error e => exact .inl rfl
    | ok result =>
      obtain ⟨columns, outcome⟩ := result
      cases outcome with
      | conflict => exact .inr (.inl rfl)
      | duplicate =>
        obtain ⟨stored, hstored, hequal⟩ := attachSnapshot_duplicate hattach
        exact .inr (.inr (.inl ⟨bytes, stored, hcontent, hstored, hequal, rfl⟩))
      | attached =>
        obtain ⟨hnone, hreference, hsha⟩ := attachSnapshot_attached hattach
        refine .inr (.inr (.inr ⟨columns, bytes, hnone, ?_, hsha, rfl⟩))
        rw [hreference]
        exact nofun

/-! ## The invariant -/

/-- What a call relies on, and what it has done. -/
def CallInv (runtime : SnapshotRuntime) (s : SnapshotState) : UploadPhase → Prop
  | .loaded alert => alert.alertId = s.alert.alertId ∧ alert.eventId = s.alert.eventId ∧
      (alert.snapshot.snapshotReference = none → alert.snapshot.snapshotSha256 = none) ∧
      ∀ stored, alert.snapshot.snapshotSha256 = some stored → s.alert.snapshot.snapshotSha256 = some stored
  | .attached columns bytes => columns.snapshotReference ≠ none ∧
      columns.snapshotSha256 = some (runtime.computeSha256 bytes)
  | .moved columns bytes => columns.snapshotReference ≠ none ∧
      columns.snapshotSha256 = some (runtime.computeSha256 bytes) ∧ s.file = some bytes
  | .saved => s.alert.snapshot.snapshotSha256 ≠ none
  | .answered outcome => outcome.kind = .accepted → s.alert.snapshot.snapshotSha256 ≠ none
  | .started | .raised => True

/-- The invariant of the guarded runs. -/
structure UploadInv (runtime : SnapshotRuntime) (s : SnapshotState) : Prop where
  recorded : RecordsItsFile runtime s
  reference : s.alert.snapshot.snapshotReference = none → s.alert.snapshot.snapshotSha256 = none
  calls : ∀ call ∈ s.calls, CallInv runtime s call.phase

section Invariant

variable {runtime : SnapshotRuntime} {s s' : SnapshotState}

/-- The invariant of a call that stays where it is. -/
theorem CallInv.mono {phase : UploadPhase} (h : CallInv runtime s phase) {columns : SnapshotColumns}
    {file : Option Bytes} {calls : List UploadCall}
    (hsha : ∀ stored, s.alert.snapshot.snapshotSha256 = some stored → columns.snapshotSha256 = some stored)
    (hfile : ∀ c b, phase = .moved c b → file = s.file) :
    CallInv runtime ⟨{ s.alert with snapshot := columns }, file, calls⟩ phase := by
  have hsome : s.alert.snapshot.snapshotSha256 ≠ none → columns.snapshotSha256 ≠ none := by
    intro hne
    obtain ⟨stored, hstored⟩ := Option.ne_none_iff_exists'.mp hne
    rw [hsha stored hstored]
    exact nofun
  cases phase with
  | loaded alert => exact ⟨h.1, h.2.1, h.2.2.1, fun stored hstored => hsha stored (h.2.2.2 stored hstored)⟩
  | moved c b => exact ⟨h.1, h.2.1, (hfile c b rfl).trans h.2.2⟩
  | saved => exact hsome h
  | answered outcome => exact fun haccepted => hsome (h haccepted)
  | attached c b => exact h
  | started => trivial
  | raised => trivial

/-- The calls after one of them entered another phase. -/
theorem calls_set {P : UploadPhase → Prop} {i : ℕ} {call : UploadCall} {phase : UploadPhase}
    (hothers : ∀ other ∈ s.calls, P other.phase) (hself : P phase) :
    ∀ other ∈ s.calls.set i { call with phase }, P other.phase := by
  intro other hother
  rcases List.mem_or_eq_of_mem_set hother with hold | rfl
  · exact hothers other hold
  · exact hself

/-- The step lemma. -/
theorem UploadInv.step {a : UploadAction} (h : UploadInv runtime s) (hguard : ReplacesNothing runtime s a)
    (hs : uploadStep runtime s a = some s') : UploadInv runtime s' := by
  rcases uploadStep_cases hs with ⟨request, rfl⟩ | ⟨i, call, phase, columns, file, hcall, hadvance, rfl⟩
  · refine ⟨h.recorded, h.reference, fun call hcall => ?_⟩
    rcases List.mem_append.mp hcall with hold | hnew
    · exact h.calls call hold
    · rw [List.mem_singleton.mp hnew]
      trivial
  · have hself := h.calls call (List.mem_of_getElem? hcall)
    -- a step that changes neither the row nor the file
    have hquiet : columns = s.alert.snapshot → file = s.file → CallInv runtime s phase →
        UploadInv runtime ⟨{ s.alert with snapshot := columns }, file, s.calls.set i { call with phase }⟩ := by
      rintro rfl rfl hphase
      exact ⟨h.recorded, h.reference, calls_set h.calls hphase⟩
    cases hadvance with
    | load hstarted hid => exact hquiet rfl rfl ⟨rfl, rfl, h.reference, fun stored hstored => hstored⟩
    | loadOther hstarted hid => exact hquiet rfl rfl nofun
    | decide alert cameraBranchId receivedAtUtc hloaded =>
      refine hquiet rfl rfl ?_
      rcases decideUpload_cases runtime alert cameraBranchId receivedAtUtc call.request with
        ⟨outcome, hcheck, heq⟩ | heq | heq | ⟨_, _, -, -, -, heq⟩ | ⟨columns, bytes, -, hreference, hsha, heq⟩
      · rw [heq]
        exact fun haccepted => absurd haccepted (kind_of_checkUpload hcheck)
      · rw [heq]
        trivial
      · rw [heq]
        exact nofun
      · rw [heq]
        exact nofun
      · rw [heq]
        exact ⟨hreference, hsha⟩
    | move columns bytes hattached =>
      rw [hattached] at hself
      have hplace : s.file = some bytes ∨ (s.alert.snapshot.snapshotSha256 = none ∧
          ∀ other ∈ s.calls, other.phase.isMoved = false) := by
        simpa only [ReplacesNothing, hcall, Option.map_some, hattached, MoveReplacesNothing] using hguard
      refine ⟨fun stored hstored => ?_, h.reference, calls_set (fun other hother => ?_) ?_⟩
      · rcases hplace with hfile | ⟨hnone, -⟩
        · exact hfile ▸ h.recorded stored hstored
        · exact absurd (hnone.symm.trans hstored) nofun
      · refine (h.calls other hother).mono (fun _ hstored => hstored) fun c b hmoved => ?_
        rcases hplace with hfile | ⟨-, hnone⟩
        · exact hfile.symm
        · have hnot := hnone other hother
          rw [hmoved] at hnot
          cases hnot
      · exact ⟨hself.1, hself.2, rfl⟩
    | save _ bytes hmoved =>
      rw [hmoved] at hself
      obtain ⟨hreference, hsha, hfile⟩ := hself
      have hkeeps : ∀ stored, s.alert.snapshot.snapshotSha256 = some stored →
          columns.snapshotSha256 = some stored := by
        intro stored hstored
        obtain ⟨content, hcontent, hdigest⟩ := h.recorded stored hstored
        rw [hfile, Option.some.injEq] at hcontent
        rw [hsha, hcontent, hdigest]
      refine ⟨fun stored hstored => ⟨bytes, hfile, ?_⟩, fun hnone => absurd hnone hreference,
        calls_set (fun other hother => (h.calls other hother).mono hkeeps fun _ _ _ => rfl) ?_⟩
      · exact Option.some.inj (hsha.symm.trans hstored)
      · show columns.snapshotSha256 ≠ none
        rw [hsha]
        exact nofun
    | answer hsaved =>
      rw [hsaved] at hself
      exact hquiet rfl rfl fun _ => hself
    | raise => exact hquiet rfl rfl trivial

/-- The run lemma. -/
theorem uploadInv_of_reachable (h : (uploadSystem runtime).ReachableUnder (ReplacesNothing runtime) s) :
    UploadInv runtime s := by
  refine h.invariant_of_guard ?_ fun s a s' hinv hguard hs => hinv.step hguard hs
  rintro s ⟨hsnapshot, -, hcalls⟩
  refine ⟨fun stored hstored => ?_, fun _ => ?_, fun call hcall => ?_⟩
  · rw [hsnapshot] at hstored
    exact absurd hstored nofun
  · rw [hsnapshot]
    rfl
  · rw [hcalls] at hcall
    exact absurd hcall List.not_mem_nil

end Invariant

/-! ## From an accepted upload on -/

/-- A call that began after an upload was recorded. -/
def LaterInv (runtime : SnapshotRuntime) (first : SnapshotState) (call : UploadCall) : Prop :=
  match call.phase with
  | .loaded alert => alert.snapshot.snapshotSha256 = first.alert.snapshot.snapshotSha256
  | .answered outcome => call.request.content ≠ first.file →
      outcome = snapshotConflict ∨ Refused runtime first.alert call.request outcome
  | .attached _ _ | .moved _ _ | .saved => False
  | .started | .raised => True

/-- What stays from a state with a recorded snapshot on. -/
structure Kept (runtime : SnapshotRuntime) (first s : SnapshotState) : Prop where
  inv : UploadInv runtime s
  alertId : s.alert.alertId = first.alert.alertId
  eventId : s.alert.eventId = first.alert.eventId
  sha256 : s.alert.snapshot.snapshotSha256 = first.alert.snapshot.snapshotSha256
  file : s.file = first.file
  length : first.calls.length ≤ s.calls.length
  later : ∀ i call, first.calls.length ≤ i → s.calls[i]? = some call → LaterInv runtime first call

section Later

variable {runtime : SnapshotRuntime} {first s s' : SnapshotState}

/-- What a decision of a later call comes to. -/
theorem laterInv_decide {alert : AlertRow} {call : UploadCall} {i : ℕ} (h : Kept runtime first s)
    (hrecorded : first.alert.snapshot.snapshotSha256 ≠ none) (hcall : s.calls[i]? = some call)
    (hloaded : call.phase = .loaded alert)
    (hlater : alert.snapshot.snapshotSha256 = first.alert.snapshot.snapshotSha256)
    (cameraBranchId : Option Guid) (receivedAtUtc : DateTime)
    (hguard : ReplacesNothing runtime s (.decide i cameraBranchId receivedAtUtc)) :
    LaterInv runtime first
      { call with phase := decideUpload runtime alert cameraBranchId receivedAtUtc call.request } := by
  have hself := h.inv.calls call (List.mem_of_getElem? hcall)
  rw [hloaded] at hself
  obtain ⟨-, heventId, hreference, -⟩ := hself
  rcases decideUpload_cases runtime alert cameraBranchId receivedAtUtc call.request with
    ⟨outcome, hcheck, heq⟩ | heq | heq | ⟨bytes, stored, hcontent, hstored, hequal, heq⟩ |
      ⟨columns, bytes, hnone, -, -, heq⟩
  · simp only [LaterInv, heq]
    rw [heventId, h.eventId] at hcheck
    exact fun _ => .inr (.inr ⟨cameraBranchId, hcheck⟩)
  · simp only [LaterInv, heq]
  · simp only [LaterInv, heq]
    simp
  · simp only [LaterInv, heq]
    have hsha : s.alert.snapshot.snapshotSha256 = some stored := by rw [h.sha256, ← hlater, hstored]
    have hfile : s.file = some bytes := by
      simp only [ReplacesNothing, hcall, hsha, Option.bind_some, hcontent, DigestNamesFile] at hguard
      exact hguard hequal
    intro hother
    rw [hcontent, ← h.file, hfile] at hother
    exact absurd rfl hother
  · -- it found a snapshot, so it attaches none
    rw [← hlater] at hrecorded
    exact absurd (hreference hnone) hrecorded

/-- The step lemma of the runs behind an accepted upload. -/
theorem Kept.step {a : UploadAction} (h : Kept runtime first s)
    (hrecorded : first.alert.snapshot.snapshotSha256 ≠ none) (hguard : ReplacesNothing runtime s a)
    (hs : uploadStep runtime s a = some s') : Kept runtime first s' := by
  have hinv := h.inv.step hguard hs
  have hsome : s.alert.snapshot.snapshotSha256 ≠ none := h.sha256 ▸ hrecorded
  rcases uploadStep_cases hs with ⟨request, rfl⟩ | ⟨i, call, phase, columns, file, hcall, hadvance, rfl⟩
  · refine ⟨hinv, h.alertId, h.eventId, h.sha256, h.file, ?_, fun i call hi hcall => ?_⟩
    · rw [List.length_append]
      exact Nat.le_add_right_of_le h.length
    · rcases lt_or_ge i s.calls.length with hlt | hge
      · rw [List.getElem?_append_left hlt] at hcall
        exact h.later i call hi hcall
      · rw [List.getElem?_append_right hge, List.getElem?_singleton] at hcall
        split at hcall
        · rw [← Option.some.inj hcall]
          trivial
        · cases hcall
  · have hself := h.inv.calls call (List.mem_of_getElem? hcall)
    have hlater : first.calls.length ≤ i → LaterInv runtime first call := fun hi => h.later i call hi hcall
    -- the other calls are where they were
    have hkept : columns.snapshotSha256 = s.alert.snapshot.snapshotSha256 → file = s.file →
        (first.calls.length ≤ i → LaterInv runtime first { call with phase }) →
        Kept runtime first ⟨{ s.alert with snapshot := columns }, file, s.calls.set i { call with phase }⟩ := by
      intro hsha hfile hphase
      refine ⟨hinv, h.alertId, h.eventId, hsha.trans h.sha256, hfile.trans h.file, ?_,
        fun j other hj hother => ?_⟩
      · rw [List.length_set]
        exact h.length
      · by_cases hij : i = j
        · subst hij
          rw [List.getElem?_set_self (List.getElem?_eq_some_iff.mp hcall).1, Option.some.injEq] at hother
          exact hother ▸ hphase hj
        · rw [List.getElem?_set_ne hij] at hother
          exact h.later j other hj hother
    cases hadvance with
    | load hstarted hid => exact hkept rfl rfl fun _ => h.sha256
    | loadOther hstarted hid =>
      refine hkept rfl rfl fun _ _ => .inr (.inl ⟨?_, rfl⟩)
      rwa [← h.alertId]
    | decide alert cameraBranchId receivedAtUtc hloaded =>
      refine hkept rfl rfl fun hi => ?_
      have hlater := hlater hi
      simp only [LaterInv, hloaded] at hlater
      exact laterInv_decide h hrecorded hcall hloaded hlater cameraBranchId receivedAtUtc hguard
    | move columns bytes hattached =>
      have hfile : s.file = some bytes := by
        simp only [ReplacesNothing, hcall, Option.map_some, hattached, MoveReplacesNothing] at hguard
        exact hguard.resolve_right fun hnone => hsome hnone.1
      refine hkept rfl hfile.symm fun hi => ?_
      have hlater := hlater hi
      simp only [LaterInv, hattached] at hlater
    | save _ bytes hmoved =>
      rw [hmoved] at hself
      obtain ⟨-, hsha, hfile⟩ := hself
      obtain ⟨stored, hstored⟩ := Option.ne_none_iff_exists'.mp hsome
      obtain ⟨content, hcontent, hdigest⟩ := h.inv.recorded stored hstored
      rw [hfile, Option.some.injEq] at hcontent
      refine hkept ?_ rfl fun hi => ?_
      · rw [hsha, hstored, hcontent, hdigest]
      · have hlater := hlater hi
        simp only [LaterInv, hmoved] at hlater
    | answer hsaved =>
      refine hkept rfl rfl fun hi => ?_
      have hlater := hlater hi
      simp only [LaterInv, hsaved] at hlater
    | raise => exact hkept rfl rfl fun _ => trivial

/-- The run lemma. -/
theorem Kept.exec {actions : List UploadAction} (h : Kept runtime first s)
    (hrecorded : first.alert.snapshot.snapshotSha256 ≠ none)
    (hmeets : (uploadSystem runtime).Meets (ReplacesNothing runtime) s actions)
    (hrun : (uploadSystem runtime).exec s actions = some s') : Kept runtime first s' := by
  induction actions generalizing s with
  | nil =>
    cases hrun
    exact h
  | cons a actions ih =>
    rw [TransitionSystem.exec_cons, Option.bind_eq_some_iff] at hrun
    obtain ⟨t, ht, hrun⟩ := hrun
    exact ih (h.step hrecorded hmeets.1 ht) (hmeets.2 t ht) hrun

theorem Kept.refl (h : UploadInv runtime s) : Kept runtime s s :=
  ⟨h, rfl, rfl, rfl, rfl, le_rfl, fun _ _ hi hcall =>
    absurd (List.getElem?_eq_some_iff.mp hcall).1 hi.not_gt⟩

theorem Kept.staysAsRecorded (h : Kept runtime first s) : StaysAsRecorded runtime first s := by
  refine ⟨h.sha256, h.file, fun i call hi hcall hcontent outcome houtcome => ?_⟩
  have hlater := h.later i call hi hcall
  simp only [LaterInv, houtcome] at hlater
  exact hlater hcontent

end Later

/-- **In every run in which no rename takes another file away, a recorded digest is that of the stored
file; and from an accepted upload on both stay, and later uploads of other bytes are conflicts.** -/
theorem snapshot_immutable (runtime : SnapshotRuntime) (s : SnapshotState)
    (h : (uploadSystem runtime).ReachableUnder (ReplacesNothing runtime) s) :
    RecordsItsFile runtime s ∧ (HasAccepted s → ∀ actions s',
      (uploadSystem runtime).Meets (ReplacesNothing runtime) s actions →
      (uploadSystem runtime).exec s actions = some s' → StaysAsRecorded runtime s s') := by
  have hinv := uploadInv_of_reachable h
  refine ⟨hinv.recorded, fun ⟨call, hcall, outcome, hphase, haccepted⟩ actions s' hmeets hrun => ?_⟩
  have hrecorded : s.alert.snapshot.snapshotSha256 ≠ none := by
    have hself := hinv.calls call hcall
    rw [hphase] at hself
    exact hself haccepted
  exact ((Kept.refl hinv).exec hrecorded hmeets hrun).staysAsRecorded

/-! ## Two uploads at a time -/

/-- A JPEG of one pixel. -/
def onePixel : Bytes :=
  [0xFF, 0xD8, 0xFF, 0xC0, 0x00, 0x0B, 0x08, 0x00, 0x01, 0x00, 0x01, 0x01, 0x01, 0x11, 0x00, 0xFF, 0xD9]

/-- A JPEG of two pixels. -/
def twoPixels : Bytes :=
  [0xFF, 0xD8, 0xFF, 0xC0, 0x00, 0x0B, 0x08, 0x00, 0x01, 0x00, 0x02, 0x01, 0x01, 0x11, 0x00, 0xFF, 0xD9]

/-- The digests of the two images. -/
def twoDigests : SnapshotRuntime where
  toUpperInvariant := Char.toUpper
  isRtspUri := fun uri => "rtsp://".toList.isPrefixOf uri.toList
  computeSha256 := fun bytes =>
    if bytes = onePixel then "bcfc824a2999534b7d105988ac9ff16d86aaec304fe06a0a50b2602235296c98"
    else "634f4711adbfa8c09d51a717a21a852844c4678b854bf1996348c406cf818edc"

/-- The upload of an image for Alert 1 by a device of Branch 1. -/
def uploadOf (bytes : Bytes) : SnapshotUploadRequest :=
  { alertId := 1, branchId := 1, eventId := 1, claimedContentType := some "image/jpeg", claimedSha256 := none
    contentLength := bytes.length, content := some bytes }

/-- Alert 1 without a snapshot. -/
def withoutSnapshot : SnapshotState := ⟨⟨1, 1, .empty⟩, none, []⟩

/-- A call from its load to its answer. -/
def wholeCall (i : ℕ) : List UploadAction :=
  [.load i, .decide i (some 1) ⟨0, .utc⟩, .move i, .save i, .answer i]

/-- One upload after the other: the first is accepted, the second is a conflict. -/
theorem snapshot_immutable_sequential :
    ∃ s s', HasAccepted s ∧ RecordsItsFile twoDigests s ∧ StaysAsRecorded twoDigests s s' ∧
      s'.calls.map (·.phase) = [.answered ⟨.accepted, some (buildReference 1), none, none⟩,
        .answered snapshotConflict] := by
  let first := UploadAction.begin (uploadOf onePixel) :: wholeCall 0
  let second := [UploadAction.begin (uploadOf twoPixels), .load 1, .decide 1 (some 1) ⟨0, .utc⟩]
  have hfirst : ((uploadSystem twoDigests).exec withoutSnapshot first).map (fun s =>
      (s.calls.map (·.phase), decide ((uploadSystem twoDigests).Meets (ReplacesNothing twoDigests) s second),
        ((uploadSystem twoDigests).exec s second).map fun s' => s'.calls.map (·.phase))) =
      some ([.answered ⟨.accepted, some (buildReference 1), none, none⟩], true,
        some [.answered ⟨.accepted, some (buildReference 1), none, none⟩, .answered snapshotConflict]) := by
    decide +kernel
  obtain ⟨s, hrun, hpair⟩ := Option.map_eq_some_iff.mp hfirst
  simp only [Prod.mk.injEq, decide_eq_true_eq] at hpair
  obtain ⟨hphases, hmeets', hend⟩ := hpair
  obtain ⟨s', hrun', hphases'⟩ := Option.map_eq_some_iff.mp hend
  have hmeets : (uploadSystem twoDigests).Meets (ReplacesNothing twoDigests) withoutSnapshot first := by
    decide +kernel
  obtain ⟨hrecords, hstays⟩ := snapshot_immutable twoDigests s (.exec (.init ⟨rfl, rfl, rfl⟩) hmeets hrun)
  have haccepted : HasAccepted s := by
    have hmem : UploadPhase.answered ⟨.accepted, some (buildReference 1), none, none⟩ ∈
        s.calls.map UploadCall.phase := by
      rw [hphases]
      exact List.mem_cons_self
    obtain ⟨call, hcall, hphase⟩ := List.mem_map.mp hmem
    exact ⟨call, hcall, _, hphase, rfl⟩
  exact ⟨s, s', haccepted, hrecords, hstays haccepted second s' hmeets' hrun', hphases'⟩

/-- Both calls load the Alert before either of them is done: the second renames its file over the one
that was accepted, whose digest the row still records. -/
theorem concurrent_upload_replaces_file :
    ∃ s, (uploadSystem twoDigests).Reachable s ∧ HasAccepted s ∧ ¬ RecordsItsFile twoDigests s := by
  let actions := [UploadAction.begin (uploadOf onePixel), .begin (uploadOf twoPixels), .load 0, .load 1,
    .decide 0 (some 1) ⟨0, .utc⟩, .decide 1 (some 1) ⟨0, .utc⟩, .move 0, .save 0, .answer 0, .move 1]
  have hend : ((uploadSystem twoDigests).exec withoutSnapshot actions).map (fun s =>
      (s.calls.map (·.phase), s.alert.snapshot.snapshotSha256, s.file)) =
      some ([.answered ⟨.accepted, some (buildReference 1), none, none⟩,
        .moved ⟨some (buildReference 1), some (twoDigests.computeSha256 twoPixels), some "image/jpeg", some 17,
          some ⟨0, .utc⟩⟩ twoPixels], some (twoDigests.computeSha256 onePixel), some twoPixels) := by
    decide +kernel
  obtain ⟨s, hrun, hpair⟩ := Option.map_eq_some_iff.mp hend
  simp only [Prod.mk.injEq] at hpair
  obtain ⟨hphases, hsha, hfile⟩ := hpair
  refine ⟨s, .exec (.init ⟨rfl, rfl, rfl⟩) hrun, ?_, fun hrecords => ?_⟩
  · have hmem : UploadPhase.answered ⟨.accepted, some (buildReference 1), none, none⟩ ∈
        s.calls.map UploadCall.phase := by
      rw [hphases]
      exact List.mem_cons_self
    obtain ⟨call, hcall, hphase⟩ := List.mem_map.mp hmem
    exact ⟨call, hcall, _, hphase, rfl⟩
  · obtain ⟨bytes, hbytes, hdigest⟩ := hrecords _ hsha
    rw [hfile, Option.some.injEq] at hbytes
    rw [← hbytes] at hdigest
    exact absurd hdigest (by decide +kernel)

end WeaponDetection.Backend.Snapshots
