import WeaponDetection.Backend.AlertSync.Records
import WeaponDetection.Foundations.GuidText
import WeaponDetection.Foundations.Python

/-!
# Cameras and Branch edits

Models the Camera rows a sync reads and a Branch edit changes: `ResolveCameraIdAsync` of
`AlertSyncService.cs`, and `UpdateBranchAsync` of `BranchService.cs` with the checks of `Camera.cs`
and `Branch.cs` it makes.  Two tables of the runtime are parameters: the simple upper case mapping
that `OrdinalIgnoreCase` compares by, and whether `Uri.TryCreate` sees an absolute `rtsp` URI.
-/

namespace WeaponDetection.Backend.AlertSync

open WeaponDetection.Foundations

/-! ## Rows -/

/-- `Camera`. -/
structure Camera where
  cameraId : Guid
  branchId : Guid
  name : String
  rtspUrl : String
  enabled : Bool
  cameraKey : String
  sourceOrder : ℕ
  deriving DecidableEq

/-- `Branch`, without the timezone, which no edit touches. -/
structure Branch where
  branchId : Guid
  name : String
  address : String
  contactDetails : String
  deriving DecidableEq

/-- What the runtime knows of characters and URIs. -/
structure Runtime where
  /-- The simple upper case mapping of the invariant culture. -/
  toUpperInvariant : Char → Char
  /-- `IsRtspUri`: `Uri.TryCreate(…, UriKind.Absolute, …)` with the scheme `rtsp`. -/
  isRtspUri : String → Bool

/-- The `Branches` and `Cameras` tables. -/
structure BranchDb where
  branches : List Branch
  cameras : List Camera
  deriving DecidableEq

/-! ## `ResolveCameraIdAsync` -/

/-- `string.Equals(a, b, StringComparison.OrdinalIgnoreCase)`. -/
def Runtime.equalsOrdinalIgnoreCase (runtime : Runtime) (a b : String) : Bool :=
  a.toList.map runtime.toUpperInvariant == b.toList.map runtime.toUpperInvariant

/-- The enabled Cameras of a Branch. -/
def BranchDb.enabledCameras (db : BranchDb) (branchId : Guid) : List Camera :=
  db.cameras.filter fun c => c.branchId = branchId ∧ c.enabled

/-- `ResolveCameraIdAsync`: by the immutable id, or by the name for a value that is no GUID. -/
def resolveCameraId (runtime : Runtime) (db : BranchDb) (branchId : Guid) (wireCameraId : String) :
    Option Guid :=
  let trimmed := DotNet.trim wireCameraId
  if trimmed = "" then none
  else
    let found : Option Camera :=
      match DotNet.guidTryParse trimmed with
      | some cameraId => (db.enabledCameras branchId).find? (·.cameraId = cameraId)
      | none =>
        (db.enabledCameras branchId).find? fun c =>
          runtime.equalsOrdinalIgnoreCase (DotNet.trim c.name) trimmed
    found.map (·.cameraId)

/-! ## Checks of an edit -/

/-- `ConfigurationErrorCodes`, of a Camera key. -/
inductive ConfigurationErrorCode where
  | cameraKeyRequired
  | cameraKeyReserved
  | cameraKeyInvalid
  | cameraKeyAlreadyExists
  | cameraKeyImmutable
  deriving DecidableEq

/-- How an edit ends when it does not go through. -/
inductive UpdateFailure where
  /-- `BranchUpdateResult.Invalid`. -/
  | invalid
  /-- `BranchUpdateResult.NotFound`. -/
  | notFound
  /-- `ConfigurationValidationException`. -/
  | configuration (code : ConfigurationErrorCode)
  /-- `DbUpdateException`: a generated Camera id is taken. -/
  | database
  deriving DecidableEq

/-- A check of an edit. -/
def refuse (condition : Bool) (failure : UpdateFailure) : Except UpdateFailure Unit :=
  if condition then .error failure else .ok ()

/-- The presence and length check the fields of a Branch and of a Camera share; the result is
trimmed. -/
def requireText (value : String) (maxLength : ℕ) : Except UpdateFailure String :=
  if DotNet.isNullOrWhiteSpace value then .error .invalid
  else if maxLength < DotNet.length (DotNet.trim value) then .error .invalid
  else .ok (DotNet.trim value)

/-- `ReservedCameraKeys`. -/
def reservedCameraKeys : List String := ["ds-test", "api", "admin", "health", "metrics", "cameras"]

/-- A letter or digit of a Camera key. -/
def isCameraKeyAlphanumeric (c : Char) : Bool := ('a' ≤ c && c ≤ 'z') || ('0' ≤ c && c ≤ '9')

/-- `CameraKeyPattern`, and the length bounds it repeats. -/
def matchesCameraKeyPattern (key : String) : Bool :=
  3 ≤ key.length && key.length ≤ 64 &&
    key.toList.all (fun c => isCameraKeyAlphanumeric c || c == '-') &&
    key.toList.head?.any isCameraKeyAlphanumeric && key.toList.getLast?.any isCameraKeyAlphanumeric

/-- `ValidateCameraKey`. -/
def validateCameraKey (cameraKey : Option String) : Except UpdateFailure String :=
  match cameraKey with
  | none => .error (.configuration .cameraKeyRequired)
  | some key =>
    if DotNet.isNullOrWhiteSpace key then .error (.configuration .cameraKeyRequired)
    else if reservedCameraKeys.contains (DotNet.trim key) then .error (.configuration .cameraKeyReserved)
    else if matchesCameraKeyPattern (DotNet.trim key) then .ok (DotNet.trim key)
    else .error (.configuration .cameraKeyInvalid)

/-! ## `UpdateBranchAsync` -/

/-- `CameraMutation`. -/
structure CameraMutation where
  cameraId : Option Guid
  name : String
  rtspUrl : String
  cameraKey : Option String
  deriving DecidableEq

/-- `UpdateBranchRequest`.  An element of the Cameras may be null. -/
structure UpdateBranchRequest where
  branchId : Guid
  name : String
  address : String
  contactDetails : String
  cameras : List (Option CameraMutation)
  deriving DecidableEq

/-- The Camera loop of an edit, in the middle: the Camera rows, the next source order, the keys in
use and the identifiers `Guid.NewGuid()` still has to give. -/
structure CameraLoop where
  cameras : List Camera
  nextSourceOrder : ℕ
  liveCameraKeys : List String
  newGuids : List Guid

/-- A Camera without an id is added. -/
def CameraLoop.add (loop : CameraLoop) (branchId : Guid) (mutation : CameraMutation) :
    Except UpdateFailure CameraLoop := do
  let cameraKey ← validateCameraKey mutation.cameraKey
  refuse (loop.liveCameraKeys.contains cameraKey) (.configuration .cameraKeyAlreadyExists)
  -- The constructor of `Camera`: an `int` past its maximum has become negative.
  refuse (branchId = 0 ∨ 2 ^ 31 ≤ loop.nextSourceOrder) .invalid
  let name ← requireText mutation.name 200
  let rtspUrl ← requireText mutation.rtspUrl 2048
  let cameraId ← loop.newGuids.head?.elim (.error .database) .ok
  refuse (loop.cameras.any (·.cameraId = cameraId)) .database
  let camera : Camera :=
    { cameraId, branchId, name, rtspUrl, enabled := true, cameraKey, sourceOrder := loop.nextSourceOrder }
  return { cameras := loop.cameras ++ [camera], nextSourceOrder := loop.nextSourceOrder + 1
           liveCameraKeys := cameraKey :: loop.liveCameraKeys, newGuids := loop.newGuids.tail }

/-- `UpdateConfiguration`, on the row of the Camera. -/
def Camera.updateConfiguration (c : Camera) (name rtspUrl : String) : Camera := { c with name, rtspUrl }

/-- A stored Camera is updated in place: its key cannot change. -/
def CameraLoop.update (loop : CameraLoop) (stored : Camera) (mutation : CameraMutation) :
    Except UpdateFailure CameraLoop := do
  refuse (mutation.cameraKey.any (DotNet.trim · ≠ stored.cameraKey)) (.configuration .cameraKeyImmutable)
  let name ← requireText mutation.name 200
  let rtspUrl ← requireText mutation.rtspUrl 2048
  return { loop with cameras := loop.cameras.map fun c =>
             if c.cameraId = stored.cameraId then c.updateConfiguration name rtspUrl else c }

/-- One round of the Camera loop. -/
def CameraLoop.round (storedCameras : List Camera) (branchId : Guid) (loop : CameraLoop)
    (mutation : CameraMutation) : Except UpdateFailure CameraLoop :=
  match mutation.cameraId with
  | none => loop.add branchId mutation
  | some cameraId =>
    match storedCameras.find? (·.cameraId = cameraId) with
    | none => .error .invalid
    | some stored => loop.update stored mutation

/-- `UpdateBranchAsync`: the tables after an edit that went through. -/
def updateBranch (runtime : Runtime) (newGuids : List Guid) (db : BranchDb)
    (request : UpdateBranchRequest) : Except UpdateFailure BranchDb := do
  let mutations ← (request.cameras.mapM id).elim (.error .invalid) .ok
  let requestedIds := mutations.filterMap (·.cameraId)
  refuse (mutations = [] ∨ ¬ requestedIds.Nodup) .invalid
  refuse (mutations.any fun m => DotNet.isNullOrWhiteSpace m.rtspUrl ||
    !runtime.isRtspUri (DotNet.trim m.rtspUrl)) .invalid
  refuse (!db.branches.any (·.branchId = request.branchId)) .notFound
  let storedCameras := db.cameras.filter (·.branchId = request.branchId)
  refuse (requestedIds.any fun id => !storedCameras.any (·.cameraId = id)) .invalid
  let name ← requireText request.name 200
  let address ← requireText request.address 500
  let contactDetails ← requireText request.contactDetails 500
  let kept := storedCameras.filter fun c => requestedIds.contains c.cameraId
  let loop ← mutations.foldlM (CameraLoop.round storedCameras request.branchId)
    { cameras := db.cameras
      nextSourceOrder := ((storedCameras.map (·.sourceOrder + 1)).max?).getD 0
      liveCameraKeys := kept.map (·.cameraKey), newGuids }
  let removed := (storedCameras.filter fun c => !requestedIds.contains c.cameraId).map fun c =>
    (c.branchId, c.cameraId)
  return { branches := db.branches.map fun b =>
             if b.branchId = request.branchId then { b with name, address, contactDetails } else b
           cameras := loop.cameras.filter fun c => !removed.contains (c.branchId, c.cameraId) }

/-! ## What an edit keeps -/

/-- An enabled Camera with this id in this Branch. -/
def HasCamera (cameras : List Camera) (branchId cameraId : Guid) : Prop :=
  ∃ c ∈ cameras, c.branchId = branchId ∧ c.enabled = true ∧ c.cameraId = cameraId

section Edit

variable {runtime : Runtime} {db db' : BranchDb} {branchId cameraId : Guid} {wireCameraId : String}

/-- An id resolves to itself as long as there is such a Camera. -/
theorem resolveCameraId_eq_some_iff
    (hguid : DotNet.guidTryParse (DotNet.trim wireCameraId) = some cameraId)
    (htext : DotNet.trim wireCameraId ≠ "") :
    resolveCameraId runtime db branchId wireCameraId = some cameraId ↔
      HasCamera db.cameras branchId cameraId := by
  simp only [resolveCameraId, if_neg htext, hguid, Option.map_eq_some_iff]
  constructor
  · intro ⟨c, hfound, hid⟩
    have hmem := List.mem_filter.mp (List.mem_of_find?_eq_some hfound)
    obtain ⟨hbranch, henabled⟩ := of_decide_eq_true hmem.2
    exact ⟨c, hmem.1, hbranch, henabled, hid⟩
  · intro ⟨c, hc, hbranch, henabled, hid⟩
    have hmem : c ∈ db.enabledCameras branchId := List.mem_filter.mpr ⟨hc, by simp [hbranch, henabled]⟩
    cases hfound : (db.enabledCameras branchId).find? (·.cameraId = cameraId) with
    | none => simpa [hid] using List.find?_eq_none.mp hfound c hmem
    | some found => exact ⟨found, rfl, by simpa using List.find?_some hfound⟩

/-- A round of the loop keeps every Camera. -/
theorem CameraLoop.round_hasCamera {storedCameras : List Camera} {requestBranch : Guid} {loop loop' : CameraLoop}
    {mutation : CameraMutation} (h : CameraLoop.round storedCameras requestBranch loop mutation = .ok loop')
    (hhas : HasCamera loop.cameras branchId cameraId) : HasCamera loop'.cameras branchId cameraId := by
  obtain ⟨c, hc, hbranch, henabled, hid⟩ := hhas
  unfold CameraLoop.round at h
  split at h
  · simp only [CameraLoop.add, Python.bind_eq_ok_iff, pure, Except.pure, Except.ok.injEq] at h
    obtain ⟨_, _, _, _, _, _, _, _, _, _, _, _, _, _, rfl⟩ := h
    exact ⟨c, List.mem_append_left _ hc, hbranch, henabled, hid⟩
  · split at h
    · cases h
    · rename_i stored _
      simp only [CameraLoop.update, Python.bind_eq_ok_iff, pure, Except.pure, Except.ok.injEq] at h
      obtain ⟨_, _, name, _, rtspUrl, _, rfl⟩ := h
      refine ⟨_, List.mem_map_of_mem hc, ?_⟩
      split
      · exact ⟨hbranch, henabled, hid⟩
      · exact ⟨hbranch, henabled, hid⟩

/-- So does the whole loop. -/
theorem foldlM_round_hasCamera {storedCameras : List Camera} {requestBranch : Guid} {mutations : List CameraMutation}
    {loop loop' : CameraLoop}
    (h : mutations.foldlM (CameraLoop.round storedCameras requestBranch) loop = .ok loop')
    (hhas : HasCamera loop.cameras branchId cameraId) : HasCamera loop'.cameras branchId cameraId := by
  induction mutations generalizing loop with
  | nil =>
    cases h
    exact hhas
  | cons mutation rest ih =>
    rw [List.foldlM_cons] at h
    obtain ⟨mid, hround, hrest⟩ := Python.bind_eq_ok_iff.mp h
    exact ih hrest (CameraLoop.round_hasCamera hround hhas)

/-- Without a null element a request has the mutations it lists. -/
theorem mem_of_mapM_id {items : List (Option CameraMutation)} {mutations : List CameraMutation}
    (h : items.mapM id = some mutations) {m : CameraMutation} (hm : some m ∈ items) : m ∈ mutations := by
  induction items generalizing mutations with
  | nil => cases hm
  | cons item items ih =>
    rw [List.mapM_cons] at h
    obtain ⟨first, hfirst, h⟩ := Option.bind_eq_some_iff.mp h
    obtain ⟨rest, hrest, h⟩ := Option.bind_eq_some_iff.mp h
    cases h
    rcases List.mem_cons.mp hm with rfl | hm
    · cases hfirst
      exact List.mem_cons_self
    · exact List.mem_cons_of_mem _ (ih hrest hm)

/-- An edit keeps every Camera of another Branch, and every Camera of its own that it names. -/
theorem updateBranch_hasCamera {newGuids : List Guid} {request : UpdateBranchRequest}
    (hedit : updateBranch runtime newGuids db request = .ok db') (hhas : HasCamera db.cameras branchId cameraId)
    (hkept : request.branchId = branchId → ∃ m, some m ∈ request.cameras ∧ m.cameraId = some cameraId) :
    HasCamera db'.cameras branchId cameraId := by
  simp only [updateBranch, Python.bind_eq_ok_iff, pure, Except.pure, Except.ok.injEq] at hedit
  obtain ⟨mutations, hmutations, _, _, _, _, _, _, _, _, _, _, _, _, _, _, loop, hloop, rfl⟩ := hedit
  obtain ⟨c, hc, hbranch, henabled, hid⟩ := foldlM_round_hasCamera hloop hhas
  refine ⟨c, List.mem_filter.mpr ⟨hc, ?_⟩, hbranch, henabled, hid⟩
  rw [Bool.not_eq_true', List.contains_eq_mem, decide_eq_false_iff_not]
  intro hremoved
  obtain ⟨stored, hstored, heq⟩ := List.mem_map.mp hremoved
  obtain ⟨hmem, hunnamed⟩ := List.mem_filter.mp hstored
  have hbranch' : stored.branchId = request.branchId := of_decide_eq_true (List.mem_filter.mp hmem).2
  have hsame : request.branchId = branchId := by
    rw [← hbranch', ← hbranch]
    exact (Prod.mk.inj heq).1
  obtain ⟨m, hm, hmid⟩ := hkept hsame
  have hlisted : request.cameras.mapM id = some mutations := by
    cases hlist : request.cameras.mapM id with
    | none =>
      rw [hlist] at hmutations
      cases hmutations
    | some listed =>
      rw [hlist] at hmutations
      cases hmutations
      rfl
  have hrequested : stored.cameraId ∈ mutations.filterMap (·.cameraId) := by
    refine List.mem_filterMap.mpr ⟨m, mem_of_mapM_id hlisted hm, ?_⟩
    rw [hmid, ← hid]
    exact congrArg some (Prod.mk.inj heq).2.symm
  simp [List.contains_eq_mem, hrequested] at hunnamed

/-- To an event that gives its Camera by id, nothing changes. -/
theorem resolveCameraId_updateBranch {newGuids : List Guid} {request : UpdateBranchRequest}
    (hedit : updateBranch runtime newGuids db request = .ok db')
    (hguid : DotNet.guidTryParse (DotNet.trim wireCameraId) = some cameraId)
    (hresolve : resolveCameraId runtime db branchId wireCameraId = some cameraId)
    (hkept : request.branchId = branchId → ∃ m, some m ∈ request.cameras ∧ m.cameraId = some cameraId) :
    resolveCameraId runtime db' branchId wireCameraId = some cameraId := by
  have htext : DotNet.trim wireCameraId ≠ "" := by
    intro hempty
    simp only [resolveCameraId, hempty, if_true] at hresolve
    cases hresolve
  rw [resolveCameraId_eq_some_iff hguid htext] at hresolve ⊢
  exact updateBranch_hasCamera hedit hresolve hkept

end Edit

end WeaponDetection.Backend.AlertSync
