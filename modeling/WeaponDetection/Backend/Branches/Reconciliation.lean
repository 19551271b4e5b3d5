import WeaponDetection.Backend.Activation.Registry
import WeaponDetection.Backend.Branches.WellFormed

/-!
# Reconciliation of the Cameras of a Branch

An edit that goes through leaves exactly the kept Cameras, with their new names and URLs, and the new
ones behind them (`update_reconciles`); one that does not go through changes nothing.
-/

namespace WeaponDetection.Backend.Branches

open WeaponDetection.Foundations
open WeaponDetection.Backend.AlertSync

/-! ## Unique columns -/

/-- The primary key and the unique indexes of the `Cameras` table. -/
structure UniqueRows (cameras : List Camera) : Prop where
  cameraIds : (cameras.map Camera.cameraId).Nodup
  cameraKeys : ∀ b, ((cameras.filter (·.branchId = b)).map Camera.cameraKey).Nodup
  sourceOrders : ∀ b, ((cameras.filter (·.branchId = b)).map Camera.sourceOrder).Nodup

/-- The Cameras of one Branch differ in a column when the pairs with it do. -/
theorem UniqueRows.of_wellFormed {runtime : Runtime} {db : BranchDb} (h : WellFormed runtime db) :
    UniqueRows db.cameras :=
  ⟨h.cameraIds, h.cameraKeys, h.sourceOrders⟩

/-! ## Keys -/

/-- The characters of a key are single code units. -/
theorem length_of_matchesCameraKeyPattern {key : String} (h : matchesCameraKeyPattern key = true) :
    DotNet.length key = key.length := by
  have hone : ∀ c ∈ key.toList, (if c.toNat < 0x10000 then 1 else 2) = 1 := by
    intro c hc
    simp only [matchesCameraKeyPattern, Bool.and_eq_true, List.all_eq_true] at h
    have hchar := h.1.1.2 c hc
    refine if_pos ?_
    simp only [isCameraKeyAlphanumeric, Bool.or_eq_true, Bool.and_eq_true, decide_eq_true_eq,
      beq_iff_eq] at hchar
    rcases hchar with (⟨-, hz⟩ | ⟨-, h9⟩) | rfl
    · exact lt_of_le_of_lt (UInt32.le_iff_toNat_le.mp hz) (by decide)
    · exact lt_of_le_of_lt (UInt32.le_iff_toNat_le.mp h9) (by decide)
    · decide
  rw [DotNet.length, List.map_congr_left hone, List.map_const', List.sum_replicate_nat, mul_one,
    String.length_toList]

/-- The key check of the service agrees with the one of the entity. -/
theorem requireCameraKey_of_validateCameraKey {key : Option String} {cameraKey : String}
    (h : validateCameraKey key = .ok cameraKey) : requireCameraKey cameraKey = some cameraKey := by
  unfold validateCameraKey at h
  split at h
  · cases h
  · split at h
    · cases h
    · rename_i key hblank
      split at h
      · cases h
      · rename_i hreserved
        split at h
        · rename_i hmatch
          cases h
          have hlength := length_of_matchesCameraKeyPattern hmatch
          have hbounds : 3 ≤ (DotNet.trim key).length ∧ (DotNet.trim key).length ≤ 64 := by
            simp only [matchesCameraKeyPattern, Bool.and_eq_true, decide_eq_true_eq] at hmatch
            exact hmatch.1.1.1
          rw [isNullOrWhiteSpace_iff] at hblank
          rw [requireCameraKey, if_neg (by rwa [isNullOrWhiteSpace_iff, trim_trim])]
          simp only [trim_trim]
          rw [if_neg (by omega), if_neg (by simp [hmatch]), if_neg hreserved]
        · cases h

/-! ## The Camera loop -/

/-- The row of a new Camera. -/
structure AddedRow (branchId : Guid) (m : CameraMutation) (c : Camera) : Prop where
  branchId_eq : c.branchId = branchId
  branchId_ne : branchId ≠ 0
  name : c.name = DotNet.trim m.name
  rtspUrl : c.rtspUrl = DotNet.trim m.rtspUrl
  enabled : c.enabled = true
  key : m.cameraKey.map DotNet.trim = some c.cameraKey
  cameraKey : requireCameraKey c.cameraKey = some c.cameraKey
  sourceOrder : c.sourceOrder < 2 ^ 31

/-- The texts of a mutation pass. -/
def TextsPass (m : CameraMutation) : Prop :=
  IsStoredText 200 (DotNet.trim m.name) ∧ IsStoredText 2048 (DotNet.trim m.rtspUrl)

/-- The row as an edit rewrites it. -/
def rewritten (m : CameraMutation) (c : Camera) : Camera :=
  c.updateConfiguration (DotNet.trim m.name) (DotNet.trim m.rtspUrl)

theorem eq_trim_of_validateCameraKey {key : Option String} {cameraKey : String}
    (h : validateCameraKey key = .ok cameraKey) : key.map DotNet.trim = some cameraKey := by
  unfold validateCameraKey at h
  split at h
  · cases h
  · split at h
    · cases h
    · split at h
      · cases h
      · split at h
        · cases h
          rfl
        · cases h

theorem isStoredText_trim {value text : String} {maxLength : ℕ}
    (h : requireText value maxLength = .ok text) : IsStoredText maxLength (DotNet.trim value) :=
  eq_trim_of_requireText h ▸ isStoredText_of_requireText h

/-- What one round does. -/
theorem CameraLoop.round_cases {storedCameras : List Camera} {branchId : Guid} {loop loop' : CameraLoop}
    {m : CameraMutation} (h : CameraLoop.round storedCameras branchId loop m = .ok loop') :
    TextsPass m ∧
      ((∃ camera, m.cameraId = none ∧ AddedRow branchId m camera ∧
          camera.cameraKey ∉ loop.liveCameraKeys ∧ (∀ c ∈ loop.cameras, c.cameraId ≠ camera.cameraId) ∧
          camera.sourceOrder = loop.nextSourceOrder ∧
          loop' = { cameras := loop.cameras ++ [camera], nextSourceOrder := loop.nextSourceOrder + 1
                    liveCameraKeys := camera.cameraKey :: loop.liveCameraKeys
                    newGuids := loop.newGuids.tail }) ∨
        ∃ id, m.cameraId = some id ∧
          loop' = { loop with cameras := loop.cameras.map fun c =>
                      if c.cameraId = id then rewritten m c else c }) := by
  unfold CameraLoop.round at h
  split at h
  · rename_i hnone
    simp only [CameraLoop.add, Python.bind_eq_ok_iff, refuse_eq_ok_iff, pure, Except.pure,
      Except.ok.injEq, exists_const] at h
    obtain ⟨cameraKey, hkey, hlive, hrange, name, hname, url, hurl, cameraId, -, hfresh, rfl⟩ := h
    simp only [decide_eq_false_iff_not, not_or, not_le] at hrange
    refine ⟨⟨isStoredText_trim hname, isStoredText_trim hurl⟩, .inl ⟨_, hnone, ?_, ?_, ?_, rfl, rfl⟩⟩
    · exact ⟨rfl, hrange.1, eq_trim_of_requireText hname, eq_trim_of_requireText hurl, rfl,
        eq_trim_of_validateCameraKey hkey, requireCameraKey_of_validateCameraKey hkey, hrange.2⟩
    · intro hmem
      rw [List.contains_iff_mem.mpr hmem] at hlive
      cases hlive
    · intro c hc heq
      exact absurd (decide_eq_true heq) (List.any_eq_false.mp hfresh c hc)
  · rename_i id hsome
    split at h
    · cases h
    · rename_i stored hfind
      simp only [CameraLoop.update, Python.bind_eq_ok_iff, pure, Except.pure, Except.ok.injEq] at h
      obtain ⟨_, -, name, hname, url, hurl, rfl⟩ := h
      have hid : stored.cameraId = id := by simpa using List.find?_some hfind
      refine ⟨⟨isStoredText_trim hname, isStoredText_trim hurl⟩, .inr ⟨id, hsome, ?_⟩⟩
      rw [hid, eq_trim_of_requireText hname, eq_trim_of_requireText hurl]
      rfl

/-- The identifiers a request names. -/
def requestedIds (mutations : List CameraMutation) : List Guid := mutations.filterMap (·.cameraId)

/-- The row after all the mutations. -/
def written (mutations : List CameraMutation) (c : Camera) : Camera :=
  match mutations.find? (·.cameraId = some c.cameraId) with
  | some m => rewritten m c
  | none => c

@[simp] theorem written_nil (c : Camera) : written [] c = c := rfl

theorem written_cons_of_eq {m : CameraMutation} {rest : List CameraMutation} {c : Camera}
    (h : m.cameraId = some c.cameraId) : written (m :: rest) c = rewritten m c := by
  have hfound : (m :: rest).find? (·.cameraId = some c.cameraId) = some m :=
    List.find?_cons_of_pos (by simpa using h)
  rw [written, hfound]

theorem written_cons_of_ne {m : CameraMutation} {rest : List CameraMutation} {c : Camera}
    (h : m.cameraId ≠ some c.cameraId) : written (m :: rest) c = written rest c := by
  rw [written, List.find?_cons_of_neg (by simpa using h)]
  rfl

theorem written_of_not_mem {mutations : List CameraMutation} {c : Camera}
    (h : c.cameraId ∉ requestedIds mutations) : written mutations c = c := by
  have hnone : mutations.find? (·.cameraId = some c.cameraId) = none := by
    refine List.find?_eq_none.mpr fun m hm heq => h ?_
    exact List.mem_filterMap.mpr ⟨m, hm, of_decide_eq_true heq⟩
  rw [written, hnone]

/-- No mutation touches another column. -/
theorem written_columns (mutations : List CameraMutation) (c : Camera) :
    (written mutations c).cameraId = c.cameraId ∧ (written mutations c).branchId = c.branchId ∧
      (written mutations c).cameraKey = c.cameraKey ∧
      (written mutations c).sourceOrder = c.sourceOrder ∧
      (written mutations c).enabled = c.enabled := by
  unfold written
  split
  · exact ⟨rfl, rfl, rfl, rfl, rfl⟩
  · exact ⟨rfl, rfl, rfl, rfl, rfl⟩

/-- The rows the loop has added, seen from where it began. -/
structure Added (branchId : Guid) (loop : CameraLoop) (mutations : List CameraMutation)
    (added : List Camera) : Prop where
  rows : List.Forall₂ (AddedRow branchId) (mutations.filter (·.cameraId = none)) added
  cameraIds : (added.map Camera.cameraId).Nodup
  freshIds : ∀ c ∈ added, ∀ d ∈ loop.cameras, d.cameraId ≠ c.cameraId
  cameraKeys : (added.map Camera.cameraKey).Nodup
  freshKeys : ∀ c ∈ added, c.cameraKey ∉ loop.liveCameraKeys
  sourceOrders : (added.map Camera.sourceOrder).Nodup
  nextOrders : ∀ c ∈ added, loop.nextSourceOrder ≤ c.sourceOrder

/-- A round that adds a Camera, before the rounds that follow it. -/
theorem Added.cons {branchId : Guid} {loop loop' : CameraLoop} {m : CameraMutation}
    {rest : List CameraMutation} {camera : Camera} {added : List Camera}
    (h : Added branchId loop' rest added) (hm : m.cameraId = none) (hrow : AddedRow branchId m camera)
    (hkey : camera.cameraKey ∉ loop.liveCameraKeys) (hid : ∀ c ∈ loop.cameras, c.cameraId ≠ camera.cameraId)
    (horder : camera.sourceOrder = loop.nextSourceOrder)
    (hcameras : loop'.cameras = loop.cameras ++ [camera])
    (hlive : loop'.liveCameraKeys = camera.cameraKey :: loop.liveCameraKeys)
    (hnext : loop'.nextSourceOrder = loop.nextSourceOrder + 1) :
    Added branchId loop (m :: rest) (camera :: added) := by
  constructor
  case rows =>
    rw [List.filter_cons_of_pos (by simp [hm])]
    exact .cons hrow h.rows
  case cameraIds =>
    refine List.nodup_cons.mpr ⟨fun hmem => ?_, h.cameraIds⟩
    obtain ⟨c, hc, heq⟩ := List.mem_map.mp hmem
    have hnew : camera ∈ loop'.cameras := by simp [hcameras]
    exact h.freshIds c hc camera hnew heq.symm
  case freshIds =>
    intro c hc d hd
    rcases List.mem_cons.mp hc with rfl | hc
    · exact hid d hd
    · exact h.freshIds c hc d (by simp [hcameras, hd])
  case cameraKeys =>
    refine List.nodup_cons.mpr ⟨fun hmem => ?_, h.cameraKeys⟩
    obtain ⟨c, hc, heq⟩ := List.mem_map.mp hmem
    exact h.freshKeys c hc (by simp [hlive, heq])
  case freshKeys =>
    intro c hc hmem
    rcases List.mem_cons.mp hc with rfl | hc
    · exact hkey hmem
    · exact h.freshKeys c hc (by simp [hlive, hmem])
  case sourceOrders =>
    refine List.nodup_cons.mpr ⟨fun hmem => ?_, h.sourceOrders⟩
    obtain ⟨c, hc, heq⟩ := List.mem_map.mp hmem
    have hle := h.nextOrders c hc
    omega
  case nextOrders =>
    intro c hc
    rcases List.mem_cons.mp hc with rfl | hc
    · exact horder.ge
    · have hle := h.nextOrders c hc
      omega

/-- A round that rewrites a Camera adds none. -/
theorem Added.cons_of_isSome {branchId : Guid} {loop loop' : CameraLoop} {m : CameraMutation}
    {rest : List CameraMutation} {added : List Camera} (h : Added branchId loop' rest added)
    (hm : m.cameraId ≠ none)
    (hids : ∀ d ∈ loop.cameras, ∃ d' ∈ loop'.cameras, d'.cameraId = d.cameraId)
    (hlive : loop'.liveCameraKeys = loop.liveCameraKeys)
    (hnext : loop'.nextSourceOrder = loop.nextSourceOrder) : Added branchId loop (m :: rest) added := by
  refine ⟨?_, h.cameraIds, fun c hc d hd => ?_, h.cameraKeys, fun c hc => hlive ▸ h.freshKeys c hc,
    h.sourceOrders, fun c hc => hnext ▸ h.nextOrders c hc⟩
  · rw [List.filter_cons_of_neg (by simp [hm])]
    exact h.rows
  · obtain ⟨d', hd', hid⟩ := hids d hd
    exact hid ▸ h.freshIds c hc d' hd'

/-- What the whole loop does. -/
theorem foldlM_round_spec {storedCameras : List Camera} {branchId : Guid} {mutations : List CameraMutation}
    {loop loop' : CameraLoop} (hids : (requestedIds mutations).Nodup)
    (hknown : ∀ id ∈ requestedIds mutations, ∃ c ∈ loop.cameras, c.cameraId = id)
    (h : mutations.foldlM (CameraLoop.round storedCameras branchId) loop = .ok loop') :
    (∀ m ∈ mutations, TextsPass m) ∧
      ∃ added, Added branchId loop mutations added ∧
        loop'.cameras = loop.cameras.map (written mutations) ++ added := by
  induction mutations generalizing loop with
  | nil =>
    cases h
    refine ⟨by simp, [], ⟨.nil, .nil, by simp, .nil, by simp, .nil, by simp⟩, ?_⟩
    rw [List.append_nil, List.map_congr_left fun c _ => written_nil c, List.map_id']
  | cons m rest ih =>
    rw [List.foldlM_cons, Python.bind_eq_ok_iff] at h
    obtain ⟨mid, hround, hrest⟩ := h
    obtain ⟨htexts, ⟨camera, hm, hrow, hkey, hid, horder, rfl⟩ | ⟨id, hm, rfl⟩⟩ :=
      CameraLoop.round_cases hround
    · have hrestIds : requestedIds (m :: rest) = requestedIds rest := List.filterMap_cons_none hm
      rw [hrestIds] at hids hknown
      obtain ⟨htextsRest, added, hadded, hcameras⟩ := ih hids (fun id' hid' => by
        obtain ⟨c, hc, heq⟩ := hknown id' hid'
        exact ⟨c, List.mem_append_left _ hc, heq⟩) hrest
      refine ⟨List.forall_mem_cons.mpr ⟨htexts, htextsRest⟩, camera :: added,
        hadded.cons hm hrow hkey hid horder rfl rfl rfl, ?_⟩
      -- the new Camera is none of those the rest of the request names
      have hcamera : written rest camera = camera := by
        refine written_of_not_mem fun hmem => ?_
        obtain ⟨c, hc, heq⟩ := hknown _ hmem
        exact hid c hc heq
      have hrows : loop.cameras.map (written (m :: rest)) = loop.cameras.map (written rest) :=
        List.map_congr_left fun c _ => written_cons_of_ne (by simp [hm])
      rw [hcameras, hrows, List.map_append, List.map_singleton, hcamera, List.append_assoc,
        List.singleton_append]
    · have hrestIds : requestedIds (m :: rest) = id :: requestedIds rest := List.filterMap_cons_some hm
      rw [hrestIds] at hids hknown
      obtain ⟨hnot, hids⟩ := List.nodup_cons.mp hids
      have hsame : ∀ c : Camera, (if c.cameraId = id then rewritten m c else c).cameraId = c.cameraId := by
        intro c
        split <;> rfl
      obtain ⟨htextsRest, added, hadded, hcameras⟩ := ih hids (fun id' hid' => by
        obtain ⟨c, hc, heq⟩ := hknown id' (List.mem_cons_of_mem _ hid')
        exact ⟨_, List.mem_map_of_mem hc, (hsame c).trans heq⟩) hrest
      refine ⟨List.forall_mem_cons.mpr ⟨htexts, htextsRest⟩, added, ?_, ?_⟩
      · refine hadded.cons_of_isSome (by simp [hm]) (fun d hd => ?_) rfl rfl
        exact ⟨_, List.mem_map_of_mem hd, hsame d⟩
      · rw [hcameras, List.map_map]
        congr 1
        refine List.map_congr_left fun c _ => ?_
        rw [Function.comp_apply]
        by_cases heq : c.cameraId = id
        · rw [if_pos heq, written_cons_of_eq (by rw [hm, heq])]
          exact written_of_not_mem (by rwa [rewritten, Camera.updateConfiguration, heq])
        · rw [if_neg heq, written_cons_of_ne (by simpa [hm] using Ne.symm heq)]

/-! ## The whole edit -/

/-- Without a null element, the request is its mutations. -/
theorem eq_map_some_of_mapM_id {items : List (Option CameraMutation)} {mutations : List CameraMutation}
    (h : items.mapM id = some mutations) : items = mutations.map some := by
  induction items generalizing mutations with
  | nil =>
    cases h
    rfl
  | cons item items ih =>
    rw [List.mapM_cons] at h
    obtain ⟨first, hfirst, h⟩ := Option.bind_eq_some_iff.mp h
    obtain ⟨rest, hrest, h⟩ := Option.bind_eq_some_iff.mp h
    cases h
    cases hfirst
    rw [List.map_cons, ← ih hrest]

/-- The row of the Branch after the edit. -/
def editedBranch (request : UpdateBranchRequest) (b : Branch) : Branch :=
  if b.branchId = request.branchId then
    { b with name := DotNet.trim request.name, address := DotNet.trim request.address
             contactDetails := DotNet.trim request.contactDetails }
  else b

theorem editedBranch_branchId (request : UpdateBranchRequest) (b : Branch) :
    (editedBranch request b).branchId = b.branchId := by
  unfold editedBranch
  split <;> rfl

/-- A Camera that is not removed: of another Branch, or named by the request. -/
def survives (branchId : Guid) (mutations : List CameraMutation) (c : Camera) : Bool :=
  c.branchId ≠ branchId || (requestedIds mutations).contains c.cameraId

/-- The loop of an edit before its first round. -/
def editLoop (db : BranchDb) (branchId : Guid) (mutations : List CameraMutation) (newGuids : List Guid) :
    CameraLoop :=
  { cameras := db.cameras
    nextSourceOrder := (((camerasOf db branchId).map (·.sourceOrder + 1)).max?).getD 0
    liveCameraKeys := ((camerasOf db branchId).filter fun c =>
      (requestedIds mutations).contains c.cameraId).map (·.cameraKey)
    newGuids }

/-- An edit that went through. -/
structure Edited (runtime : Runtime) (newGuids : List Guid) (db : BranchDb) (request : UpdateBranchRequest)
    (mutations : List CameraMutation) (added : List Camera) (db' : BranchDb) : Prop where
  mutations_eq : request.cameras = mutations.map some
  nonempty : mutations ≠ []
  ids : (requestedIds mutations).Nodup
  passes : ∀ m ∈ mutations, TextsPass m ∧ runtime.isRtspUri (DotNet.trim m.rtspUrl) = true
  known : ∀ id ∈ requestedIds mutations, ∃ c ∈ camerasOf db request.branchId, c.cameraId = id
  exists_branch : ∃ b ∈ db.branches, b.branchId = request.branchId
  name : IsStoredText 200 (DotNet.trim request.name)
  address : IsStoredText 500 (DotNet.trim request.address)
  contactDetails : IsStoredText 500 (DotNet.trim request.contactDetails)
  addedRows : Added request.branchId (editLoop db request.branchId mutations newGuids) mutations added
  branches : db'.branches = db.branches.map (editedBranch request)
  cameras : db'.cameras =
    (db.cameras.filter (survives request.branchId mutations)).map (written mutations) ++ added

/-- The rows that `RemoveRange` leaves. -/
theorem filter_removed {db : BranchDb} {branchId : Guid} {mutations : List CameraMutation}
    {added : List Camera} (hfresh : ∀ c ∈ added, ∀ d ∈ db.cameras, d.cameraId ≠ c.cameraId) :
    ((db.cameras.map (written mutations) ++ added).filter fun c =>
        !(((camerasOf db branchId).filter fun c => !(requestedIds mutations).contains c.cameraId).map
          fun c => (c.branchId, c.cameraId)).contains (c.branchId, c.cameraId)) =
      (db.cameras.filter (survives branchId mutations)).map (written mutations) ++ added := by
  set removed := ((camerasOf db branchId).filter fun c =>
    !(requestedIds mutations).contains c.cameraId).map fun c => (c.branchId, c.cameraId) with hremoved
  have hmem : ∀ pair, pair ∈ removed ↔ ∃ c ∈ db.cameras, c.branchId = branchId ∧
      c.cameraId ∉ requestedIds mutations ∧ (c.branchId, c.cameraId) = pair := by
    intro pair
    simp [hremoved, camerasOf, and_assoc, and_left_comm]
  have hstored : ∀ c ∈ db.cameras, (!removed.contains (c.branchId, c.cameraId)) =
      survives branchId mutations c := by
    intro c hc
    rw [Bool.eq_iff_iff]
    simp only [survives, Bool.not_eq_true', List.contains_eq_mem, decide_eq_false_iff_not, hmem,
      Bool.or_eq_true, decide_eq_true_eq, ne_eq]
    constructor
    · intro hnot
      by_contra hboth
      rw [not_or, not_not] at hboth
      exact hnot ⟨c, hc, hboth.1, hboth.2, rfl⟩
    · rintro hor ⟨d, -, hd, hunnamed, heq⟩
      obtain ⟨hbranch, hid⟩ := Prod.mk.inj heq
      rcases hor with hne | hnamed
      · exact hne (hbranch ▸ hd)
      · exact hunnamed (hid ▸ hnamed)
  have hnew : ∀ c ∈ added, (!removed.contains (c.branchId, c.cameraId)) = true := by
    intro c hc
    simp only [Bool.not_eq_true', List.contains_eq_mem, decide_eq_false_iff_not, hmem]
    rintro ⟨d, hd, -, -, heq⟩
    exact hfresh c hc d hd (Prod.mk.inj heq).2
  rw [List.filter_append, List.filter_map, List.filter_eq_self.mpr hnew]
  congr 2
  refine List.filter_congr fun c hc => ?_
  rw [Function.comp_apply, (written_columns mutations c).1, (written_columns mutations c).2.1]
  exact hstored c hc

/-- What an edit that goes through has checked and written. -/
theorem edited_of_updateBranch {runtime : Runtime} {newGuids : List Guid} {db db' : BranchDb}
    {request : UpdateBranchRequest} (hedit : updateBranch runtime newGuids db request = .ok db') :
    ∃ mutations added, Edited runtime newGuids db request mutations added db' := by
  simp only [updateBranch, Python.bind_eq_ok_iff, refuse_eq_ok_iff, pure, Except.pure, Except.ok.injEq,
    exists_const] at hedit
  obtain ⟨mutations, hmutations, hvalid, hurls, hbranch, hknown, name, hname, address, haddress,
    contactDetails, hcontact, loop, hloop, rfl⟩ := hedit
  have heq : request.cameras = mutations.map some := by
    cases hlist : request.cameras.mapM id with
    | none =>
      rw [hlist] at hmutations
      cases hmutations
    | some listed =>
      rw [hlist] at hmutations
      cases hmutations
      exact eq_map_some_of_mapM_id hlist
  simp only [decide_eq_false_iff_not, not_or, not_not] at hvalid
  have hstored : ∀ id ∈ requestedIds mutations, ∃ c ∈ camerasOf db request.branchId,
      c.cameraId = id := by
    intro id hid
    have hfound := List.any_eq_false.mp hknown id hid
    simpa [camerasOf, and_assoc] using hfound
  have hrun : mutations.foldlM (CameraLoop.round (camerasOf db request.branchId) request.branchId)
      (editLoop db request.branchId mutations newGuids) = .ok loop := hloop
  obtain ⟨htexts, added, hadded, hcameras⟩ := foldlM_round_spec hvalid.2 (fun id hid => by
    obtain ⟨c, hc, hcid⟩ := hstored id hid
    exact ⟨c, (List.mem_filter.mp hc).1, hcid⟩) hrun
  refine ⟨mutations, added, heq, hvalid.1, hvalid.2, fun m hm => ⟨htexts m hm, ?_⟩, hstored, ?_,
    isStoredText_trim hname, isStoredText_trim haddress, isStoredText_trim hcontact, hadded, ?_, ?_⟩
  · have hurl := List.any_eq_false.mp hurls m hm
    rw [Bool.not_eq_true, Bool.or_eq_false_iff, Bool.not_eq_false'] at hurl
    exact hurl.2
  · simpa using hbranch
  · rw [eq_trim_of_requireText hname, eq_trim_of_requireText haddress, eq_trim_of_requireText hcontact]
    rfl
  · exact hcameras ▸ filter_removed hadded.freshIds

/-! ## The Cameras of each Branch -/

section Rows

variable {runtime : Runtime} {newGuids : List Guid} {db db' : BranchDb} {request : UpdateBranchRequest}
  {mutations : List CameraMutation} {added : List Camera}

theorem AddedRow.of_mem {branchId : Guid} {ms : List CameraMutation} {cs : List Camera}
    (h : List.Forall₂ (AddedRow branchId) ms cs) : ∀ c ∈ cs, ∃ m ∈ ms, AddedRow branchId m c := by
  induction h with
  | nil => simp
  | cons hrow _ ih =>
    intro c hc
    rcases List.mem_cons.mp hc with rfl | hc
    · exact ⟨_, List.mem_cons_self, hrow⟩
    · obtain ⟨m, hm, hrow⟩ := ih c hc
      exact ⟨m, List.mem_cons_of_mem _ hm, hrow⟩

theorem Edited.added_branchId (h : Edited runtime newGuids db request mutations added db') :
    ∀ c ∈ added, c.branchId = request.branchId := fun c hc => by
  obtain ⟨m, -, hrow⟩ := AddedRow.of_mem h.addedRows.rows c hc
  exact hrow.branchId_eq

/-- The edited Branch: the kept Cameras, then the new ones. -/
theorem Edited.camerasOf_self (h : Edited runtime newGuids db request mutations added db') :
    camerasOf db' request.branchId =
      ((camerasOf db request.branchId).filter fun c => (requestedIds mutations).contains c.cameraId).map
        (written mutations) ++ added := by
  have hadded : added.filter (·.branchId = request.branchId) = added :=
    List.filter_eq_self.mpr fun c hc => decide_eq_true (h.added_branchId c hc)
  rw [camerasOf, h.cameras, List.filter_append, hadded, List.filter_map, List.filter_filter, camerasOf,
    List.filter_filter]
  congr 2
  refine List.filter_congr fun c _ => ?_
  rw [Function.comp_apply, (written_columns mutations c).2.1, survives]
  by_cases hbranch : c.branchId = request.branchId
  · simp [hbranch]
  · simp [hbranch]

/-- Another Branch has the Cameras it had. -/
theorem Edited.camerasOf_of_ne (h : Edited runtime newGuids db request mutations added db')
    (hunique : UniqueRows db.cameras) {branchId : Guid} (hne : branchId ≠ request.branchId) :
    camerasOf db' branchId = camerasOf db branchId := by
  have hadded : added.filter (·.branchId = branchId) = [] := by
    refine List.filter_eq_nil_iff.mpr fun c hc heq => hne ?_
    rw [← h.added_branchId c hc]
    exact (of_decide_eq_true heq).symm
  have hrows : (db.cameras.filter (survives request.branchId mutations)).filter
      (fun c => decide ((written mutations c).branchId = branchId)) = camerasOf db branchId := by
    rw [List.filter_filter, camerasOf]
    refine List.filter_congr fun c _ => ?_
    rw [(written_columns mutations c).2.1, survives]
    by_cases hbranch : c.branchId = branchId
    · simp [hbranch, hne]
    · simp [hbranch]
  rw [camerasOf, h.cameras, List.filter_append, hadded, List.append_nil, List.filter_map]
  have hsame : ∀ c ∈ camerasOf db branchId, written mutations c = c := by
    intro c hc
    obtain ⟨hmem, hbranch⟩ := List.mem_filter.mp hc
    -- the identifiers of the request are those of its own Branch
    refine written_of_not_mem fun hid => hne ?_
    obtain ⟨d, hd, heq⟩ := h.known _ hid
    obtain ⟨hdmem, hdbranch⟩ := List.mem_filter.mp hd
    have hdc : d = c := List.inj_on_of_nodup_map hunique.cameraIds hdmem hmem heq
    rw [← of_decide_eq_true hbranch, ← hdc]
    exact of_decide_eq_true hdbranch
  have hcomp : (fun c => decide (c.branchId = branchId)) ∘ written mutations =
      fun c => decide ((written mutations c).branchId = branchId) := rfl
  rw [hcomp, hrows, List.map_congr_left hsame, List.map_id']

/-- A stored source order is below the first new one. -/
theorem sourceOrder_lt_next {branchId : Guid} {c : Camera} (hc : c ∈ camerasOf db branchId) :
    c.sourceOrder < (editLoop db branchId mutations newGuids).nextSourceOrder := by
  have hmem : c.sourceOrder + 1 ∈ (camerasOf db branchId).map (·.sourceOrder + 1) :=
    List.mem_map_of_mem hc
  show c.sourceOrder < (((camerasOf db branchId).map (·.sourceOrder + 1)).max?).getD 0
  cases hmax : ((camerasOf db branchId).map (·.sourceOrder + 1)).max? with
  | none =>
    rw [List.max?_eq_none_iff.mp hmax] at hmem
    cases hmem
  | some top => exact (List.max?_eq_some_iff.mp hmax).2 _ hmem

/-- So no new Camera has the source order of a stored one. -/
theorem Edited.sourceOrder_ne (h : Edited runtime newGuids db request mutations added db') {c d : Camera}
    (hc : c ∈ added) (hd : d ∈ camerasOf db request.branchId) : d.sourceOrder ≠ c.sourceOrder :=
  (lt_of_lt_of_le (sourceOrder_lt_next hd) (h.addedRows.nextOrders c hc)).ne

theorem column_written {α : Type} {column : Camera → α} (hcolumn : ∀ c, column (written mutations c) = column c)
    (rows : List Camera) : (rows.map (written mutations)).map column = rows.map column := by
  rw [List.map_map]
  exact List.map_congr_left fun c _ => hcolumn c

/-- **An edit keeps the identifiers, the keys and the source orders unique.** -/
theorem Edited.uniqueRows (h : Edited runtime newGuids db request mutations added db')
    (hunique : UniqueRows db.cameras) : UniqueRows db'.cameras := by
  set kept := (camerasOf db request.branchId).filter fun c =>
    (requestedIds mutations).contains c.cameraId with hkept
  have hself := h.camerasOf_self
  rw [← hkept] at hself
  constructor
  case cameraIds =>
    rw [h.cameras, List.map_append, column_written fun c => (written_columns mutations c).1,
      List.nodup_append]
    refine ⟨hunique.cameraIds.sublist (List.filter_sublist.map _), h.addedRows.cameraIds, ?_⟩
    intro id hid id' hid' heq
    obtain ⟨d, hd, rfl⟩ := List.mem_map.mp hid
    obtain ⟨c, hc, rfl⟩ := List.mem_map.mp hid'
    exact h.addedRows.freshIds c hc d (List.mem_filter.mp hd).1 heq
  case cameraKeys =>
    intro b
    by_cases hb : b = request.branchId
    · subst hb
      show ((camerasOf db' request.branchId).map Camera.cameraKey).Nodup
      rw [hself, List.map_append, column_written fun c => (written_columns mutations c).2.2.1,
        List.nodup_append]
      refine ⟨(hunique.cameraKeys request.branchId).sublist (List.filter_sublist.map _),
        h.addedRows.cameraKeys, ?_⟩
      intro key hkey key' hkey' heq
      obtain ⟨c, hc, rfl⟩ := List.mem_map.mp hkey'
      exact h.addedRows.freshKeys c hc (heq ▸ hkey)
    · show ((camerasOf db' b).map Camera.cameraKey).Nodup
      rw [h.camerasOf_of_ne hunique hb]
      exact hunique.cameraKeys b
  case sourceOrders =>
    intro b
    by_cases hb : b = request.branchId
    · subst hb
      show ((camerasOf db' request.branchId).map Camera.sourceOrder).Nodup
      rw [hself, List.map_append, column_written fun c => (written_columns mutations c).2.2.2.1,
        List.nodup_append]
      refine ⟨(hunique.sourceOrders request.branchId).sublist (List.filter_sublist.map _),
        h.addedRows.sourceOrders, ?_⟩
      intro order horder order' horder'
      obtain ⟨d, hd, rfl⟩ := List.mem_map.mp horder
      obtain ⟨c, hc, rfl⟩ := List.mem_map.mp horder'
      exact h.sourceOrder_ne hc (List.mem_filter.mp hd).1
    · show ((camerasOf db' b).map Camera.sourceOrder).Nodup
      rw [h.camerasOf_of_ne hunique hb]
      exact hunique.sourceOrders b

end Rows

/-! ## The whole database -/

/-- The tables that hold a Branch, with its Device and its Activation Keys. -/
structure BackendDb where
  branchDb : BranchDb
  devices : List Credentials.DeviceRow
  keys : List Credentials.KeyRow

/-- `UpdateBranchAsync` in its transaction, with the state after it; `commits` says whether the
database takes the writes. -/
def updateBranchAsync (runtime : Runtime) (newGuids : List Guid) (commits : Bool) (db : BackendDb)
    (request : UpdateBranchRequest) : Except UpdateFailure Unit × BackendDb :=
  match updateBranch runtime newGuids db.branchDb request with
  | .error failure => (.error failure, db)
  | .ok branchDb => if commits then (.ok (), { db with branchDb }) else (.error .database, db)

/-- A kept row before and after: only the name and the URL are new. -/
def Keeps (mutations : List CameraMutation) (c c' : Camera) : Prop :=
  ∃ m ∈ mutations, m.cameraId = some c.cameraId ∧
    c' = { c with name := DotNet.trim m.name, rtspUrl := DotNet.trim m.rtspUrl }

/-- What an edit that goes through commits. -/
structure Reconciled (db : BackendDb) (request : UpdateBranchRequest) (db' : BackendDb) : Prop where
  cameras : ∃ mutations kept added, request.cameras = mutations.map some ∧
    camerasOf db'.branchDb request.branchId = kept ++ added ∧
    List.Forall₂ (Keeps mutations)
      ((camerasOf db.branchDb request.branchId).filter fun c =>
        (requestedIds mutations).contains c.cameraId) kept ∧
    List.Forall₂ (AddedRow request.branchId) (mutations.filter (·.cameraId = none)) added ∧
    ∀ c ∈ added, (∀ d ∈ db.branchDb.cameras, d.cameraId ≠ c.cameraId) ∧
      ∀ d ∈ camerasOf db.branchDb request.branchId, d.sourceOrder ≠ c.sourceOrder
  nonempty : camerasOf db'.branchDb request.branchId ≠ []
  unique : UniqueRows db'.branchDb.cameras
  otherCameras : ∀ b, b ≠ request.branchId → camerasOf db'.branchDb b = camerasOf db.branchDb b
  branches : db'.branchDb.branches = db.branchDb.branches.map (editedBranch request)
  devices : db'.devices = db.devices
  keys : db'.keys = db.keys

/-- Every kept row is rewritten by the mutation that names it. -/
theorem keeps_written {mutations : List CameraMutation} (rows : List Camera)
    (hnamed : ∀ c ∈ rows, c.cameraId ∈ requestedIds mutations) :
    List.Forall₂ (Keeps mutations) rows (rows.map (written mutations)) := by
  rw [List.forall₂_map_right_iff, List.forall₂_same]
  intro c hc
  cases hfind : mutations.find? (·.cameraId = some c.cameraId) with
  | none =>
    obtain ⟨m, hm, hid⟩ := List.mem_filterMap.mp (hnamed c hc)
    exact absurd (decide_eq_true hid) (List.find?_eq_none.mp hfind m hm)
  | some m =>
    refine ⟨m, List.mem_of_find?_eq_some hfind, by simpa using List.find?_some hfind, ?_⟩
    rw [written, hfind]
    rfl

theorem Edited.reconciled {runtime : Runtime} {newGuids : List Guid} {db : BackendDb} {branchDb' : BranchDb}
    {request : UpdateBranchRequest} {mutations : List CameraMutation} {added : List Camera}
    (h : Edited runtime newGuids db.branchDb request mutations added branchDb')
    (hunique : UniqueRows db.branchDb.cameras) : Reconciled db request { db with branchDb := branchDb' } := by
  constructor
  case cameras =>
    refine ⟨mutations, _, added, h.mutations_eq, h.camerasOf_self, keeps_written _ fun c hc => ?_,
      h.addedRows.rows, fun c hc => ⟨h.addedRows.freshIds c hc, fun d hd => h.sourceOrder_ne hc hd⟩⟩
    exact List.contains_iff_mem.mp (List.mem_filter.mp hc).2
  case nonempty =>
    -- the first mutation keeps a Camera or adds one
    obtain ⟨m, hm⟩ := List.exists_mem_of_ne_nil _ h.nonempty
    show camerasOf branchDb' request.branchId ≠ []
    rw [h.camerasOf_self]
    cases hid : m.cameraId with
    | none =>
      have hadds : mutations.filter (·.cameraId = none) ≠ [] :=
        List.ne_nil_of_mem (List.mem_filter.mpr ⟨hm, decide_eq_true hid⟩)
      have hlength := h.addedRows.rows.length_eq
      intro hnil
      rw [(List.append_eq_nil_iff.mp hnil).2, List.length_nil] at hlength
      exact hadds (List.length_eq_zero_iff.mp hlength)
    | some id =>
      have hrequested : id ∈ requestedIds mutations := List.mem_filterMap.mpr ⟨m, hm, hid⟩
      obtain ⟨c, hc, rfl⟩ := h.known id hrequested
      have hkept : written mutations c ∈ ((camerasOf db.branchDb request.branchId).filter fun c =>
          (requestedIds mutations).contains c.cameraId).map (written mutations) :=
        List.mem_map_of_mem (List.mem_filter.mpr ⟨hc, List.contains_iff_mem.mpr hrequested⟩)
      exact List.ne_nil_of_mem (List.mem_append_left _ hkept)
  case unique => exact h.uniqueRows hunique
  case otherCameras => exact fun b hb => h.camerasOf_of_ne hunique hb
  case branches => exact h.branches
  case devices => rfl
  case keys => rfl

/-- **An edit either changes nothing, or reconciles the Cameras of its Branch with the request.** -/
theorem update_reconciles (runtime : Runtime) (newGuids : List Guid) (commits : Bool) (db : BackendDb)
    (request : UpdateBranchRequest) (hunique : UniqueRows db.branchDb.cameras) :
    (∃ failure, updateBranchAsync runtime newGuids commits db request = (.error failure, db)) ∨
      ∃ db', updateBranchAsync runtime newGuids commits db request = (.ok (), db') ∧
        Reconciled db request db' := by
  unfold updateBranchAsync
  split
  · rename_i failure _
    exact .inl ⟨failure, rfl⟩
  · rename_i branchDb' hedit
    obtain ⟨mutations, added, hedited⟩ := edited_of_updateBranch hedit
    cases commits with
    | false => exact .inl ⟨.database, rfl⟩
    | true => exact .inr ⟨_, rfl, hedited.reconciled hunique⟩

/-- A Branch with one Camera. -/
def oneCameraDb : BackendDb where
  branchDb :=
    { branches := [⟨1, "North", "1 High Street", "desk"⟩]
      cameras := [⟨2, 1, "Entrance", "rtsp://10.0.0.5/main", true, "front-entrance", 0⟩] }
  devices := []
  keys := []

/-- The Camera is replaced by a new one under the same key. -/
def replaceCamera : UpdateBranchRequest where
  branchId := 1
  name := "North"
  address := "1 High Street"
  contactDetails := "desk"
  cameras := [some ⟨none, "Gate", "rtsp://10.0.0.6/main", some "front-entrance"⟩]

/-- A new Camera may take the key of the one it replaces. -/
theorem update_reconciles_replaced :
    ∃ db', updateBranchAsync ⟨Char.toUpper, fun _ => true⟩ [3] true oneCameraDb replaceCamera = (.ok (), db') ∧
      Reconciled oneCameraDb replaceCamera db' := by
  have hone : UniqueRows oneCameraDb.branchDb.cameras :=
    ⟨List.nodup_singleton _, fun b => (List.nodup_singleton _).sublist (List.filter_sublist.map _),
      fun b => (List.nodup_singleton _).sublist (List.filter_sublist.map _)⟩
  rcases update_reconciles ⟨Char.toUpper, fun _ => true⟩ [3] true oneCameraDb replaceCamera hone with
    ⟨failure, hfailed⟩ | hdone
  · have hok : (updateBranchAsync ⟨Char.toUpper, fun _ => true⟩ [3] true oneCameraDb
        replaceCamera).1.isOk = true := by decide +kernel
    rw [hfailed] at hok
    cases hok
  · exact hdone

end WeaponDetection.Backend.Branches
