import WeaponDetection.Frontend.BranchEdit

/-!
# Reading a Branch and saving it unchanged

An administrator opens the edit form of a Branch and saves it as it is.  What comes back to the
Backend is what it returned, and that is not what it stores: the user info of a URL was replaced by
`***`, and the form takes a byte order mark off the ends of a text, which the Backend keeps.
`read_edit_round_trip_iff` says when the Cameras survive.
-/

namespace WeaponDetection.Contract

open WeaponDetection.Foundations
open WeaponDetection.Backend
open WeaponDetection.Backend.AlertSync
open WeaponDetection.Backend.Branches
open WeaponDetection.Frontend

/-! ## The edit -/

/-- The request of the form that was filled from a Branch and left unchanged. -/
def unchangedRequest (db : BranchDb) (branch : Branch) : UpdateBranchRequest :=
  buildRequest branch.branchId
    (fill (.forRead branch (camerasOf db branch.branchId)))

/-- The tables after such a request. -/
def saveUnchanged (runtime : Runtime) (newGuids : List Guid) (db : BranchDb) (branch : Branch) :
    BranchDb :=
  match updateBranch runtime newGuids db (unchangedRequest db branch) with
  | .ok db' => db'
  | .error _ => db

/-- Every Camera row is as it was, and with it the configuration version of the device. -/
structure RoundTrips (runtime : Runtime) (newGuids : List Guid) (db : BranchDb) (branch : Branch) :
    Prop where
  cameras : (saveUnchanged runtime newGuids db branch).cameras = db.cameras
  configurationVersion : ∀ sha256 deviceId now,
    (getConfiguration sha256 (saveUnchanged runtime newGuids db branch) deviceId branch.branchId
        now).map DeviceConfigurationView.configurationVersion =
      (getConfiguration sha256 db deviceId branch.branchId now).map
        DeviceConfigurationView.configurationVersion

/-! ## What comes back -/

/-- The name a Camera comes back with. -/
def returnedName (c : Camera) : String := Frontend.trim c.name

/-- The URL a Camera comes back with. -/
def returnedUrl (c : Camera) : String := Frontend.trim (redact c.rtspUrl)

/-- The request's part for one Camera. -/
def echo (c : Camera) : CameraMutation :=
  { cameraId := some c.cameraId, name := returnedName c, rtspUrl := returnedUrl c, cameraKey := none }

theorem unchangedRequest_cameras (db : BranchDb) (branch : Branch) :
    (unchangedRequest db branch).cameras =
      (camerasOf db branch.branchId).map fun c => some (echo c) := by
  simp only [unchangedRequest, buildRequest, fill, BranchResponseDto.forRead, List.map_map]
  rfl

/-- The Backend's checks let a text pass. -/
def Passes (maxLength : ℕ) (value : String) : Prop := ∃ text, requireText value maxLength = .ok text

/-- The Backend's checks let a Camera pass as it comes back. -/
structure CameraPasses (runtime : Runtime) (c : Camera) : Prop where
  name : Passes 200 (returnedName c)
  rtspUrl : Passes 2048 (returnedUrl c)
  isRtspUri : runtime.isRtspUri (DotNet.trim (returnedUrl c)) = true

/-- They let the whole request pass. -/
structure RequestPasses (runtime : Runtime) (db : BranchDb) (branch : Branch) : Prop where
  cameras : camerasOf db branch.branchId ≠ []
  each : ∀ c ∈ camerasOf db branch.branchId, CameraPasses runtime c
  name : Passes 200 (Frontend.trim branch.name)
  address : Passes 500 (Frontend.trim branch.address)
  contactDetails : Passes 500 (Frontend.trim branch.contactDetails)

/-- A Camera comes back as it was: its URL has no user info that would be redacted, and neither text
has a byte order mark at an end. -/
structure Survives (c : Camera) : Prop where
  credentials : ¬ CarriesCredentials c.rtspUrl.toList
  rtspUrl : NoByteOrderMark c.rtspUrl
  name : NoByteOrderMark c.name

/-! ## The Camera loop -/

/-- The row of a Camera after a Camera came back. -/
def returnedCamera (c c₀ : Camera) : Camera :=
  c.updateConfiguration (DotNet.trim (returnedName c₀)) (DotNet.trim (returnedUrl c₀))

@[simp] theorem cameraId_returnedCamera (c c₀ : Camera) :
    (returnedCamera c c₀).cameraId = c.cameraId := by
  simp only [returnedCamera, Camera.updateConfiguration]

/-- The row of a Camera after some Cameras came back. -/
def returnedRow (returned : List Camera) (c : Camera) : Camera :=
  match returned.find? (·.cameraId = c.cameraId) with
  | none => c
  | some c₀ => returnedCamera c c₀

theorem returnedRow_cons_of_eq {c₀ c : Camera} {rest : List Camera} (h : c₀.cameraId = c.cameraId) :
    returnedRow (c₀ :: rest) c = returnedCamera c c₀ := by
  rw [returnedRow, List.find?_cons_of_pos (by simpa using h)]

theorem returnedRow_of_not_mem {rest : List Camera} {c : Camera}
    (h : c.cameraId ∉ rest.map Camera.cameraId) : returnedRow rest c = c := by
  have hnone : rest.find? (·.cameraId = c.cameraId) = none := by
    rw [List.find?_eq_none]
    intro d hd hsame
    exact h (List.mem_map.mpr ⟨d, hd, by simpa using hsame⟩)
  rw [returnedRow, hnone]

theorem returnedRow_cons_of_ne {c₀ c : Camera} {rest : List Camera} (h : c₀.cameraId ≠ c.cameraId) :
    returnedRow (c₀ :: rest) c = returnedRow rest c := by
  rw [returnedRow, List.find?_cons_of_neg (by simpa using h), returnedRow]

/-- One round of the loop. -/
theorem round_echo {stored : List Camera} (hids : (stored.map Camera.cameraId).Nodup) {c₀ : Camera}
    (hc₀ : c₀ ∈ stored) (branchId : Guid) (loop loop' : CameraLoop) :
    CameraLoop.round stored branchId loop (echo c₀) = .ok loop' ↔
      (Passes 200 (returnedName c₀) ∧ Passes 2048 (returnedUrl c₀)) ∧
        loop' = { loop with cameras := loop.cameras.map (returnedRow [c₀]) } := by
  have hrows : loop.cameras.map (returnedRow [c₀]) = loop.cameras.map fun c =>
      if c.cameraId = c₀.cameraId then returnedCamera c c₀ else c := by
    refine List.map_congr_left fun c _ => ?_
    split
    · rename_i hid
      exact returnedRow_cons_of_eq hid.symm
    · rename_i hid
      exact returnedRow_cons_of_ne (Ne.symm hid)
  simp only [CameraLoop.round, echo, find?_cameraId hids hc₀, CameraLoop.update, Option.any_none,
    refuse, Bool.false_eq_true, if_false, Python.bind_eq_ok_iff, pure, Except.pure, Except.ok.injEq,
    hrows]
  constructor
  · rintro ⟨_, _, name, hname, rtspUrl, hurl, rfl⟩
    refine ⟨⟨⟨name, hname⟩, rtspUrl, hurl⟩, ?_⟩
    rw [eq_trim_of_requireText hname, eq_trim_of_requireText hurl]
    rfl
  · rintro ⟨⟨⟨name, hname⟩, rtspUrl, hurl⟩, rfl⟩
    refine ⟨(), trivial, name, hname, rtspUrl, hurl, ?_⟩
    rw [eq_trim_of_requireText hname, eq_trim_of_requireText hurl]
    rfl

/-- The whole loop. -/
theorem foldlM_echo {stored : List Camera} (hids : (stored.map Camera.cameraId).Nodup)
    (branchId : Guid) {returned : List Camera} (hsub : returned.Sublist stored)
    (loop loop' : CameraLoop) :
    (returned.map echo).foldlM (CameraLoop.round stored branchId) loop = .ok loop' ↔
      (∀ c ∈ returned, Passes 200 (returnedName c) ∧ Passes 2048 (returnedUrl c)) ∧
        loop' = { loop with cameras := loop.cameras.map (returnedRow returned) } := by
  induction returned generalizing loop with
  | nil =>
    have hrows : loop.cameras.map (returnedRow []) = loop.cameras := List.map_id _
    simp only [List.map_nil, List.foldlM_nil, List.not_mem_nil, false_implies, implies_true, true_and,
      hrows]
    exact ⟨fun h => (Except.ok.inj h).symm, fun h => congrArg Except.ok h.symm⟩
  | cons c₀ rest ih =>
    have hc₀ : c₀ ∈ stored := hsub.subset List.mem_cons_self
    have hrest : rest.Sublist stored := (List.sublist_cons_self c₀ rest).trans hsub
    have hnodup : c₀.cameraId ∉ rest.map Camera.cameraId :=
      (List.nodup_cons.mp (hids.sublist (hsub.map Camera.cameraId))).1
    have hrows : (loop.cameras.map (returnedRow [c₀])).map (returnedRow rest) =
        loop.cameras.map (returnedRow (c₀ :: rest)) := by
      rw [List.map_map]
      refine List.map_congr_left fun c _ => ?_
      by_cases hid : c₀.cameraId = c.cameraId
      · -- the Camera that has just come back does not come back a second time
        rw [Function.comp_apply, returnedRow_cons_of_eq hid, returnedRow_cons_of_eq hid]
        exact returnedRow_of_not_mem (by rwa [cameraId_returnedCamera, ← hid])
      · rw [Function.comp_apply, returnedRow_cons_of_ne hid, returnedRow_cons_of_ne hid]
        rfl
    rw [List.map_cons, List.foldlM_cons, Python.bind_eq_ok_iff, List.forall_mem_cons]
    constructor
    · rintro ⟨mid, hround, hloop⟩
      obtain ⟨hfirst, rfl⟩ := (round_echo hids hc₀ branchId loop mid).mp hround
      obtain ⟨hothers, rfl⟩ := (ih hrest _).mp hloop
      exact ⟨⟨hfirst, hothers⟩, by rw [hrows]⟩
    · rintro ⟨⟨hfirst, hothers⟩, rfl⟩
      refine ⟨_, (round_echo hids hc₀ branchId loop _).mpr ⟨hfirst, rfl⟩, ?_⟩
      exact (ih hrest _).mpr ⟨hothers, by rw [hrows]⟩

/-! ## The whole edit -/

theorem mapM_id_map_some (mutations : List CameraMutation) :
    (mutations.map some).mapM id = some mutations := by
  induction mutations with
  | nil => rfl
  | cons m rest ih => simp [List.mapM_cons, ih]

/-- The rows of other Branches stay. -/
theorem returnedRow_of_ne {runtime : Runtime} {db : BranchDb} (h : WellFormed runtime db)
    {branchId : Guid} {c : Camera} (hc : c ∈ db.cameras) (hbranch : c.branchId ≠ branchId) :
    returnedRow (camerasOf db branchId) c = c := by
  refine returnedRow_of_not_mem fun hmem => ?_
  obtain ⟨d, hd, hid⟩ := List.mem_map.mp hmem
  obtain ⟨hdmem, hdbranch⟩ := List.mem_filter.mp hd
  have hsame : d = c := List.inj_on_of_nodup_map h.cameraIds hdmem hc hid
  exact hbranch (hsame ▸ of_decide_eq_true hdbranch)

theorem returnedRow_of_mem {runtime : Runtime} {db : BranchDb} (h : WellFormed runtime db)
    {branchId : Guid} {c : Camera} (hc : c ∈ camerasOf db branchId) :
    returnedRow (camerasOf db branchId) c = returnedCamera c c := by
  rw [returnedRow, find?_cameraId (h.nodup_camerasOf branchId) hc]

/-- The Branch rows after the edit. -/
def returnedBranches (db : BranchDb) (branch : Branch) : List Branch :=
  db.branches.map fun b =>
    if b.branchId = branch.branchId then
      { b with
        name := DotNet.trim (Frontend.trim branch.name)
        address := DotNet.trim (Frontend.trim branch.address)
        contactDetails := DotNet.trim (Frontend.trim branch.contactDetails) }
    else b

/-- A text that passes is not blank. -/
theorem Passes.not_blank {maxLength : ℕ} {value : String} (h : Passes maxLength value) :
    DotNet.isNullOrWhiteSpace value = false := by
  obtain ⟨text, htext⟩ := h
  unfold requireText at htext
  split at htext
  · cases htext
  · rename_i hblank
    exact Bool.eq_false_iff.mpr hblank

/-- How the edit ends. -/
theorem updateBranch_unchanged {runtime : Runtime} {db db' : BranchDb} (h : WellFormed runtime db)
    {branch : Branch} (hbranch : branch ∈ db.branches) (newGuids : List Guid) :
    updateBranch runtime newGuids db (unchangedRequest db branch) = .ok db' ↔
      RequestPasses runtime db branch ∧
        db' = { branches := returnedBranches db branch
                cameras := db.cameras.map (returnedRow (camerasOf db branch.branchId)) } := by
  set cameras := camerasOf db branch.branchId with hcameras
  have hnodup : (cameras.map Camera.cameraId).Nodup := h.nodup_camerasOf branch.branchId
  have hmutations : (unchangedRequest db branch).cameras.mapM id = some (cameras.map echo) := by
    rw [unchangedRequest_cameras, ← mapM_id_map_some, List.map_map]
    rfl
  have hids : (cameras.map echo).filterMap (·.cameraId) = cameras.map Camera.cameraId := by
    rw [List.filterMap_map, ← List.filterMap_eq_map]
    rfl
  have hexists : db.branches.any (·.branchId = (unchangedRequest db branch).branchId) = true :=
    List.any_eq_true.mpr ⟨branch, hbranch, decide_eq_true rfl⟩
  have hstored : db.cameras.filter (·.branchId = (unchangedRequest db branch).branchId) = cameras :=
    rfl
  have hnonempty : decide (cameras.map echo = [] ∨ ¬ (cameras.map Camera.cameraId).Nodup) = false ↔
      cameras ≠ [] := by
    simp [hnodup]
  have hurls : ((cameras.map echo).any fun m => DotNet.isNullOrWhiteSpace m.rtspUrl ||
      !runtime.isRtspUri (DotNet.trim m.rtspUrl)) = false ↔
      ∀ c ∈ cameras, DotNet.isNullOrWhiteSpace (returnedUrl c) = false ∧
        runtime.isRtspUri (DotNet.trim (returnedUrl c)) = true := by
    simp [echo]
  -- every identifier of the request is one of the Branch, and no Camera is left out
  have hknown : ((cameras.map Camera.cameraId).any fun id =>
      !cameras.any (·.cameraId = id)) = false := by
    rw [List.any_eq_false]
    intro id hid
    obtain ⟨c, hc, rfl⟩ := List.mem_map.mp hid
    have hany : (cameras.any fun x => decide (x.cameraId = c.cameraId)) = true :=
      List.any_eq_true.mpr ⟨c, hc, decide_eq_true rfl⟩
    simp [hany]
  have hremoved : (cameras.filter fun c => !(cameras.map Camera.cameraId).contains c.cameraId) = [] := by
    rw [List.filter_eq_nil_iff]
    intro c hc
    rw [List.contains_iff_mem.mpr (List.mem_map.mpr ⟨c, hc, rfl⟩)]
    simp
  have hkept : ∀ rows : List Camera, (rows.filter fun c => !([] : List (Guid × Guid)).contains
      (c.branchId, c.cameraId)) = rows := fun rows => List.filter_eq_self.mpr fun c _ => rfl
  simp only [updateBranch, hmutations, Option.elim_some, Python.bind_eq_ok_iff, refuse_eq_ok_iff,
    hids, hexists, hstored, hnonempty, hurls, hknown, hremoved, hkept, List.map_nil, Except.ok.injEq,
    exists_eq_left', exists_const, pure, Except.pure, Bool.not_true, true_and]
  constructor
  · rintro ⟨hsome, hvalid, name, hname, address, haddress, contactDetails, hcontact, loop, hloop, rfl⟩
    obtain ⟨heach, rfl⟩ := (foldlM_echo hnodup branch.branchId (List.Sublist.refl _) _ _).mp hloop
    refine ⟨⟨hsome, fun c hc => ⟨(heach c hc).1, (heach c hc).2, (hvalid c hc).2⟩, ⟨name, hname⟩,
      ⟨address, haddress⟩, contactDetails, hcontact⟩, ?_⟩
    rw [eq_trim_of_requireText hname, eq_trim_of_requireText haddress,
      eq_trim_of_requireText hcontact]
    rfl
  · rintro ⟨⟨hsome, heach, ⟨name, hname⟩, ⟨address, haddress⟩, contactDetails, hcontact⟩, rfl⟩
    refine ⟨hsome, fun c hc => ⟨(heach c hc).rtspUrl.not_blank, (heach c hc).isRtspUri⟩,
      name, hname, address, haddress, contactDetails, hcontact, _,
      (foldlM_echo hnodup branch.branchId (List.Sublist.refl _) _ _).mpr
        ⟨fun c hc => ⟨(heach c hc).name, (heach c hc).rtspUrl⟩, rfl⟩, ?_⟩
    rw [eq_trim_of_requireText hname, eq_trim_of_requireText haddress,
      eq_trim_of_requireText hcontact]
    rfl

/-! ## When the Cameras survive -/

/-- A row is as it was exactly if its Camera survives. -/
theorem returnedCamera_eq_self_iff {runtime : Runtime} {c : Camera} (h : CameraWellFormed runtime c) :
    returnedCamera c c = c ↔ Survives c := by
  have hname : DotNet.trim (returnedName c) = c.name ↔ NoByteOrderMark c.name :=
    trim_trim_eq_self_iff h.name.trim_eq
  have hurl : DotNet.trim (returnedUrl c) = c.rtspUrl ↔
      ¬ CarriesCredentials c.rtspUrl.toList ∧ NoByteOrderMark c.rtspUrl :=
    trim_trim_redact_eq_self_iff h.rtspUrl.trim_eq
  constructor
  · intro hsame
    have hcolumns : (returnedCamera c c).name = c.name ∧ (returnedCamera c c).rtspUrl = c.rtspUrl := by
      rw [hsame]
      exact ⟨rfl, rfl⟩
    obtain ⟨hnone, hmark⟩ := hurl.mp hcolumns.2
    exact ⟨hnone, hmark, hname.mp hcolumns.1⟩
  · rintro ⟨hnone, hmark, hnameMark⟩
    rw [returnedCamera, hname.mpr hnameMark, hurl.mpr ⟨hnone, hmark⟩, Camera.updateConfiguration]

/-- All rows are as they were exactly if the Cameras of the Branch survive. -/
theorem map_returnedRow_eq_self_iff {runtime : Runtime} {db : BranchDb} (h : WellFormed runtime db)
    (branchId : Guid) :
    db.cameras.map (returnedRow (camerasOf db branchId)) = db.cameras ↔
      ∀ c ∈ camerasOf db branchId, Survives c := by
  have hpointwise : db.cameras.map (returnedRow (camerasOf db branchId)) = db.cameras ↔
      ∀ c ∈ db.cameras, returnedRow (camerasOf db branchId) c = c := by
    conv_lhs => rw [← List.map_id db.cameras, List.map_map]
    rw [List.map_inj_left]
    rfl
  rw [hpointwise]
  constructor
  · intro hsame c hc
    have hmem := (List.mem_filter.mp hc).1
    rw [← returnedCamera_eq_self_iff (h.cameras c hmem), ← returnedRow_of_mem h hc]
    exact hsame c hmem
  · intro hsurvive c hmem
    by_cases hbranch : c.branchId = branchId
    · have hc : c ∈ camerasOf db branchId := List.mem_filter.mpr ⟨hmem, decide_eq_true hbranch⟩
      rw [returnedRow_of_mem h hc]
      exact (returnedCamera_eq_self_iff (h.cameras c hmem)).mpr (hsurvive c hc)
    · exact returnedRow_of_ne h hmem hbranch

/-- **Saving a Branch as it was read leaves every Camera row, and the configuration version, as it was
if and only if the Backend refuses the request or every Camera of the Branch survives.** -/
theorem read_edit_round_trip_iff (runtime : Runtime) (newGuids : List Guid) (db : BranchDb)
    (h : WellFormed runtime db) (branch : Branch) (hbranch : branch ∈ db.branches) :
    RoundTrips runtime newGuids db branch ↔
      ¬ RequestPasses runtime db branch ∨
        ∀ c ∈ camerasOf db branch.branchId, Survives c := by
  have hversion : ∀ db' : BranchDb, db'.cameras = db.cameras → ∀ sha256 deviceId now,
      getConfiguration sha256 db' deviceId branch.branchId now =
        getConfiguration sha256 db deviceId branch.branchId now := by
    intro db' hcameras sha256 deviceId now
    rw [getConfiguration, getConfiguration, BranchDb.enabledCameras, BranchDb.enabledCameras, hcameras]
  have hrows : RoundTrips runtime newGuids db branch ↔
      (saveUnchanged runtime newGuids db branch).cameras = db.cameras :=
    ⟨RoundTrips.cameras, fun hcameras => ⟨hcameras, fun sha256 deviceId now => by
      rw [hversion _ hcameras]⟩⟩
  rw [hrows, ← map_returnedRow_eq_self_iff h, saveUnchanged]
  by_cases hpasses : RequestPasses runtime db branch
  · rw [(updateBranch_unchanged h hbranch newGuids).mpr ⟨hpasses, rfl⟩]
    simp only [hpasses, not_true_eq_false, false_or]
  · -- a refused request changes nothing
    refine iff_of_true ?_ (.inl hpasses)
    cases hedit : updateBranch runtime newGuids db (unchangedRequest db branch) with
    | ok db' => exact absurd ((updateBranch_unchanged h hbranch newGuids).mp hedit).1 hpasses
    | error failure => rfl

/-! ## One Branch -/

/-- The platform as far as these inputs go: `rtsp://` URIs. -/
def plainRuntime : Runtime where
  toUpperInvariant := Char.toUpper
  isRtspUri := fun url => "rtsp://".toList.isPrefixOf url.toList

/-- A Branch with one Camera. -/
def oneCamera (rtspUrl : String) : BranchDb :=
  { branches := [⟨1, "North", "1 High Street", "desk"⟩]
    cameras := [⟨2, 1, "Entrance", rtspUrl, true, "front-entrance", 0⟩] }

/-- The Branch of `oneCamera`. -/
def north : Branch := ⟨1, "North", "1 High Street", "desk"⟩

theorem wellFormed_oneCamera {rtspUrl : String} (htext : IsStoredText 2048 rtspUrl)
    (hurl : plainRuntime.isRtspUri rtspUrl = true) : WellFormed plainRuntime (oneCamera rtspUrl) := by
  have hname : IsStoredText 200 "Entrance" := by decide
  have hkey : requireCameraKey "front-entrance" = some "front-entrance" := by decide
  have hbranch : BranchWellFormed north := ⟨by decide, by decide, by decide⟩
  constructor
  case cameras =>
    intro c hc
    cases List.mem_singleton.mp hc
    exact ⟨hname, htext, hurl, hkey, by simp, Nat.two_pow_pos 31⟩
  case branches =>
    intro b hb
    cases List.mem_singleton.mp hb
    exact hbranch
  case cameraIds => exact List.nodup_singleton _
  case cameraKeys =>
    intro branchId
    exact (List.nodup_singleton _).sublist (List.filter_sublist.map _)
  case sourceOrders =>
    intro branchId
    exact (List.nodup_singleton _).sublist (List.filter_sublist.map _)

/-- A camera URL without user info comes back as it was. -/
theorem read_edit_plain_url :
    RoundTrips plainRuntime [] (oneCamera "rtsp://10.0.0.5/main") north := by
  refine (read_edit_round_trip_iff plainRuntime [] _
    (wellFormed_oneCamera (by rfl) (by decide +kernel)) north (List.mem_singleton.mpr rfl)).mpr
    (.inr fun c hc => ?_)
  have hmem := (List.mem_filter.mp hc).1
  cases List.mem_singleton.mp hmem
  exact ⟨by decide +kernel, by decide +kernel, by decide +kernel⟩

/-- The stored credentials are overwritten by the marker. -/
theorem credentials_overwritten :
    ∃ db branch, WellFormed plainRuntime db ∧ branch ∈ db.branches ∧
      ¬ RoundTrips plainRuntime [] db branch ∧
      ((saveUnchanged plainRuntime [] db branch).cameras.map Camera.rtspUrl) =
        ["rtsp://***@10.0.0.5/main"] := by
  have hurl : ((saveUnchanged plainRuntime [] (oneCamera "rtsp://admin:pw@10.0.0.5/main")
      north).cameras.map Camera.rtspUrl) = ["rtsp://***@10.0.0.5/main"] := by decide +kernel
  refine ⟨oneCamera "rtsp://admin:pw@10.0.0.5/main", north,
    wellFormed_oneCamera (by rfl) (by decide +kernel), List.mem_singleton.mpr rfl, fun h => ?_, hurl⟩
  rw [h.cameras] at hurl
  exact absurd hurl (by decide +kernel)

end WeaponDetection.Contract
