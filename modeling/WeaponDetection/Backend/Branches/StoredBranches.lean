import WeaponDetection.Backend.Branches.Creation
import WeaponDetection.Backend.Branches.Reconciliation

/-!
# Every run leaves well-formed tables

The rules of `Camera.cs` and `Branch.cs` hold of every stored row, and keys and source orders are unique
within a Branch, after any sequence of creations and edits (`stored_of_reachable`).
-/

namespace WeaponDetection.Backend.Branches

open WeaponDetection.Foundations
open WeaponDetection.Backend.AlertSync

/-- The tables after a run. -/
structure Stored (runtime : Runtime) (db : BranchDb) : Prop extends WellFormed runtime db where
  branchIds : ∀ b ∈ db.branches, b.branchId ≠ 0
  placed : ∀ c ∈ db.cameras, ∃ b ∈ db.branches, b.branchId = c.branchId

/-! ## Creations -/

/-- One more value in a column without repetition. -/
theorem nodup_map_concat {α β : Type} {column : α → β} {xs : List α} {x : α}
    (h : (xs.map column).Nodup) (hx : ∀ y ∈ xs, column y ≠ column x) :
    ((xs ++ [x]).map column).Nodup := by
  rw [List.map_append, List.map_singleton, ← List.concat_eq_append]
  refine List.Nodup.concat (fun hmem => ?_) h
  obtain ⟨y, hy, heq⟩ := List.mem_map.mp hmem
  exact hx y hy heq


section Creation

variable {runtime : Runtime} {branchId : Guid}

/-- A new Camera follows the rules of the entity, given that its URL was checked. -/
theorem newCamera_spec {cameraId : Guid} {name rtspUrl cameraKey : String} {sourceOrder : ℕ} {camera : Camera}
    (h : newCamera cameraId branchId name rtspUrl cameraKey sourceOrder = .ok camera)
    (hkey : requireCameraKey cameraKey = some cameraKey)
    (hurl : DotNet.isNullOrWhiteSpace rtspUrl = false → runtime.isRtspUri (DotNet.trim rtspUrl) = true) :
    CameraWellFormed runtime camera ∧ camera.branchId = branchId ∧ camera.cameraKey = cameraKey ∧
      camera.sourceOrder = sourceOrder := by
  simp only [newCamera, Python.bind_eq_ok_iff, refuse_eq_ok_iff, hkey, Option.elim_some,
    Except.ok.injEq, exists_eq_left', pure, Except.pure, exists_const] at h
  obtain ⟨hrange, name', hname, url, htext, rfl⟩ := h
  have hrange' : branchId ≠ 0 ∧ sourceOrder < 2 ^ 31 := by
    simpa only [decide_eq_false_iff_not, not_or, not_le] using hrange
  have hpresent : DotNet.isNullOrWhiteSpace rtspUrl = false := by
    unfold requireText at htext
    split at htext
    · cases htext
    · rename_i hblank
      exact Bool.eq_false_iff.mpr hblank
  refine ⟨⟨isStoredText_of_requireText hname, isStoredText_of_requireText htext, ?_, hkey, hrange'.1,
    hrange'.2⟩, rfl, rfl, rfl⟩
  rw [eq_trim_of_requireText htext]
  exact hurl hpresent

/-- The Cameras a creation has built so far. -/
structure CreationInv (runtime : Runtime) (branchId : Guid) (loop : CreationLoop) : Prop where
  cameras : ∀ c ∈ loop.cameras, CameraWellFormed runtime c ∧ c.branchId = branchId
  below : ∀ c ∈ loop.cameras, c.sourceOrder < loop.sourceOrder
  seen : ∀ c ∈ loop.cameras, c.cameraKey ∈ loop.seenCameraKeys
  cameraKeys : (loop.cameras.map Camera.cameraKey).Nodup
  sourceOrders : (loop.cameras.map Camera.sourceOrder).Nodup

/-- A round adds one Camera, with a new key and the next source order. -/
theorem CreationLoop.round_spec {newGuid : ℕ → Guid} {loop loop' : CreationLoop}
    {cameraRequest : Option NewCameraRequest}
    (h : loop.round runtime branchId newGuid cameraRequest = .ok loop') :
    ∃ camera, CameraWellFormed runtime camera ∧ camera.branchId = branchId ∧
      camera.cameraKey ∉ loop.seenCameraKeys ∧ camera.sourceOrder = loop.sourceOrder ∧
      loop' = { cameras := loop.cameras ++ [camera]
                seenCameraKeys := camera.cameraKey :: loop.seenCameraKeys
                sourceOrder := loop.sourceOrder + 1 } := by
  unfold CreationLoop.round at h
  split at h
  · cases h
  · rename_i request
    simp only [Python.bind_eq_ok_iff, refuse_eq_ok_iff, pure, Except.pure, Except.ok.injEq,
      exists_const] at h
    obtain ⟨cameraKey, hkey, hnew, hurl, camera, hcamera, rfl⟩ := h
    have hchecked : DotNet.isNullOrWhiteSpace request.rtspUrl = false →
        runtime.isRtspUri (DotNet.trim request.rtspUrl) = true := by
      intro hpresent
      simpa [hpresent] using hurl
    obtain ⟨hwell, hbranch, rfl, horder⟩ :=
      newCamera_spec hcamera (requireCameraKey_of_validateCameraKey hkey) hchecked
    refine ⟨camera, hwell, hbranch, fun hmem => ?_, horder, rfl⟩
    rw [List.contains_iff_mem.mpr hmem] at hnew
    cases hnew

theorem CreationInv.round {newGuid : ℕ → Guid} {loop loop' : CreationLoop}
    {cameraRequest : Option NewCameraRequest} (hinv : CreationInv runtime branchId loop)
    (h : loop.round runtime branchId newGuid cameraRequest = .ok loop') :
    CreationInv runtime branchId loop' := by
  obtain ⟨camera, hwell, hbranch, hnew, horder, rfl⟩ := CreationLoop.round_spec h
  constructor
  case cameras =>
    intro c hc
    rcases List.mem_append.mp hc with hc | hc
    · exact hinv.cameras c hc
    · cases List.mem_singleton.mp hc
      exact ⟨hwell, hbranch⟩
  case below =>
    intro c hc
    rcases List.mem_append.mp hc with hc | hc
    · exact Nat.lt_succ_of_lt (hinv.below c hc)
    · cases List.mem_singleton.mp hc
      exact horder ▸ Nat.lt_succ_self _
  case seen =>
    intro c hc
    rcases List.mem_append.mp hc with hc | hc
    · exact List.mem_cons_of_mem _ (hinv.seen c hc)
    · cases List.mem_singleton.mp hc
      exact List.mem_cons_self
  case cameraKeys =>
    exact nodup_map_concat hinv.cameraKeys fun c hc heq => hnew (heq ▸ hinv.seen c hc)
  case sourceOrders =>
    refine nodup_map_concat hinv.sourceOrders fun c hc heq => ?_
    exact absurd (hinv.below c hc) (by rw [heq, horder]; exact lt_irrefl _)

/-- The rows of a creation. -/
theorem buildBranch_spec {draws : CreationDraws} {request : NewBranchRequest} {branch : Branch}
    {cameras : List Camera} (h : buildBranch runtime draws request = .ok (branch, cameras)) :
    BranchWellFormed branch ∧ branch.branchId = draws.branchId ∧ draws.branchId ≠ 0 ∧
      ∃ loop, CreationInv runtime draws.branchId loop ∧ loop.cameras = cameras := by
  simp only [buildBranch, Python.bind_eq_ok_iff, refuse_eq_ok_iff, pure, Except.pure, Except.ok.injEq,
    Prod.mk.injEq, exists_const] at h
  obtain ⟨hsome, name, hname, address, haddress, contact, hcontact, loop, hloop, rfl, rfl⟩ := h
  have hinv : CreationInv runtime draws.branchId loop := by
    refine Python.foldlM_ok_invariant hloop ?_ fun s x s' _ hs hround => hs.round hround
    constructor <;> simp
  refine ⟨⟨isStoredText_of_requireText hname, isStoredText_of_requireText haddress,
    isStoredText_of_requireText hcontact⟩, rfl, ?_, loop, hinv, rfl⟩
  -- there is a Camera, and its constructor has looked at the id
  cases hcameras : request.cameras with
  | nil =>
    rw [hcameras] at hsome
    cases hsome
  | cons first rest =>
    rw [hcameras, List.foldlM_cons, Python.bind_eq_ok_iff] at hloop
    obtain ⟨mid, hfirst, -⟩ := hloop
    obtain ⟨camera, hwell, hbranch, -⟩ := CreationLoop.round_spec hfirst
    exact hbranch ▸ hwell.branchId

/-- The rows of a new Branch beside the old ones. -/
theorem UniqueRows.append {cameras added : List Camera} (h : UniqueRows cameras)
    (hfresh : ∀ c ∈ cameras, c.branchId ≠ branchId) (hadded : ∀ c ∈ added, c.branchId = branchId)
    (hids : (added.map Camera.cameraId).Nodup) (htaken : ∀ c ∈ added, ∀ d ∈ cameras, d.cameraId ≠ c.cameraId)
    (hkeys : (added.map Camera.cameraKey).Nodup) (horders : (added.map Camera.sourceOrder).Nodup) :
    UniqueRows (cameras ++ added) := by
  -- the rows of one Branch are all old or all new
  have hrows : ∀ b, (cameras ++ added).filter (·.branchId = b) = cameras.filter (·.branchId = b) ∨
      (cameras ++ added).filter (·.branchId = b) = added := by
    intro b
    rw [List.filter_append]
    by_cases hb : branchId = b
    · right
      have hold : cameras.filter (·.branchId = b) = [] :=
        List.filter_eq_nil_iff.mpr fun c hc heq => hfresh c hc ((of_decide_eq_true heq).trans hb.symm)
      have hnew : added.filter (·.branchId = b) = added :=
        List.filter_eq_self.mpr fun c hc => decide_eq_true ((hadded c hc).trans hb)
      rw [hold, hnew, List.nil_append]
    · left
      have hnew : added.filter (·.branchId = b) = [] := by
        refine List.filter_eq_nil_iff.mpr fun c hc heq => hb ?_
        rw [← hadded c hc]
        exact of_decide_eq_true heq
      rw [hnew, List.append_nil]
  constructor
  case cameraIds =>
    rw [List.map_append, List.nodup_append]
    refine ⟨h.cameraIds, hids, fun id hid id' hid' => ?_⟩
    obtain ⟨d, hd, rfl⟩ := List.mem_map.mp hid
    obtain ⟨c, hc, rfl⟩ := List.mem_map.mp hid'
    exact htaken c hc d hd
  case cameraKeys =>
    intro b
    rcases hrows b with hb | hb
    · rw [hb]
      exact h.cameraKeys b
    · rwa [hb]
  case sourceOrders =>
    intro b
    rcases hrows b with hb | hb
    · rw [hb]
      exact h.sourceOrders b
    · rwa [hb]

theorem mapError_eq_ok_iff {ε ε' α : Type} {f : ε → ε'} {x : Except ε α} {a : α} :
    x.mapError f = .ok a ↔ x = .ok a := by
  cases x <;> simp [Except.mapError]

/-- A creation keeps the tables well formed. -/
theorem Stored.create {hosts : HostLibrary} {draws : CreationDraws} {db db' : BranchDb}
    {request : NewBranchRequest} (h : Stored runtime db)
    (hcreate : createBranch runtime hosts draws db request = .ok db') : Stored runtime db' := by
  simp only [createBranch, Python.bind_eq_ok_iff, mapError_eq_ok_iff] at hcreate
  obtain ⟨⟨branch, cameras⟩, hbuild, _, -, hinsert⟩ := hcreate
  obtain ⟨hbranch, hid, hnonzero, loop, hloop, rfl⟩ := buildBranch_spec hbuild
  simp only [insertBranch, Python.bind_eq_ok_iff, refuse_eq_ok_iff, pure, Except.pure,
    Except.ok.injEq, exists_const, Bool.or_eq_false_iff, Bool.not_eq_false', decide_eq_true_eq] at hinsert
  obtain ⟨⟨-, hfresh⟩, ⟨hids, htaken⟩, rfl⟩ := hinsert
  have hnew : ∀ c ∈ db.cameras, c.branchId ≠ draws.branchId := by
    intro c hc heq
    obtain ⟨b, hb, hplaced⟩ := h.placed c hc
    exact List.any_eq_false.mp hfresh b hb (decide_eq_true ((hplaced.trans heq).trans hid.symm))
  have hunique : UniqueRows (db.cameras ++ loop.cameras) := by
    refine (UniqueRows.of_wellFormed h.toWellFormed).append hnew (fun c hc => (hloop.cameras c hc).2) hids
      (fun c hc d hd heq => ?_) hloop.cameraKeys hloop.sourceOrders
    exact List.any_eq_false.mp htaken c hc (List.any_eq_true.mpr ⟨d, hd, decide_eq_true heq⟩)
  refine ⟨⟨?cameras, ?branches, hunique.cameraIds, hunique.cameraKeys, hunique.sourceOrders⟩, ?branchIds,
    ?placed⟩
  case cameras =>
    intro c hc
    rcases List.mem_append.mp hc with hc | hc
    · exact h.cameras c hc
    · exact (hloop.cameras c hc).1
  case branches =>
    intro b hb
    rcases List.mem_append.mp hb with hb | hb
    · exact h.branches b hb
    · cases List.mem_singleton.mp hb
      exact hbranch
  case branchIds =>
    intro b hb
    rcases List.mem_append.mp hb with hb | hb
    · exact h.branchIds b hb
    · cases List.mem_singleton.mp hb
      exact hid ▸ hnonzero
  case placed =>
    intro c hc
    rcases List.mem_append.mp hc with hc | hc
    · obtain ⟨b, hb, heq⟩ := h.placed c hc
      exact ⟨b, List.mem_append_left _ hb, heq⟩
    · exact ⟨branch, List.mem_append_right _ (List.mem_singleton.mpr rfl),
        hid.trans (hloop.cameras c hc).2.symm⟩

end Creation

/-! ## Edits -/

/-- An edit keeps the tables well formed. -/
theorem Stored.update {runtime : Runtime} {newGuids : List Guid} {db db' : BranchDb}
    {request : UpdateBranchRequest} (h : Stored runtime db)
    (hedit : updateBranch runtime newGuids db request = .ok db') : Stored runtime db' := by
  obtain ⟨mutations, added, hedited⟩ := edited_of_updateBranch hedit
  have hunique := hedited.uniqueRows (UniqueRows.of_wellFormed h.toWellFormed)
  have hbranch : ∀ b' ∈ db'.branches, ∃ b ∈ db.branches, editedBranch request b = b' := by
    rw [hedited.branches]
    exact fun b' hb' => List.mem_map.mp hb'
  refine ⟨⟨?cameras, ?branches, hunique.cameraIds, hunique.cameraKeys, hunique.sourceOrders⟩, ?branchIds,
    ?placed⟩
  case cameras =>
    intro c' hc'
    rw [hedited.cameras] at hc'
    rcases List.mem_append.mp hc' with hkept | hnew
    · obtain ⟨c, hc, rfl⟩ := List.mem_map.mp hkept
      have hwell := h.cameras c (List.mem_filter.mp hc).1
      unfold written
      split
      · rename_i m hfind
        obtain ⟨⟨hname, htext⟩, hurl⟩ := hedited.passes m (List.mem_of_find?_eq_some hfind)
        exact ⟨hname, htext, hurl, hwell.cameraKey, hwell.branchId, hwell.sourceOrder⟩
      · exact hwell
    · obtain ⟨m, hm, hrow⟩ := AddedRow.of_mem hedited.addedRows.rows c' hnew
      obtain ⟨⟨hname, htext⟩, hurl⟩ := hedited.passes m (List.mem_filter.mp hm).1
      rw [← hrow.name] at hname
      rw [← hrow.rtspUrl] at htext hurl
      exact ⟨hname, htext, hurl, hrow.cameraKey, hrow.branchId_eq ▸ hrow.branchId_ne, hrow.sourceOrder⟩
  case branches =>
    intro b' hb'
    obtain ⟨b, hb, rfl⟩ := hbranch b' hb'
    unfold editedBranch
    split
    · exact ⟨hedited.name, hedited.address, hedited.contactDetails⟩
    · exact h.branches b hb
  case branchIds =>
    intro b' hb'
    obtain ⟨b, hb, rfl⟩ := hbranch b' hb'
    rw [editedBranch_branchId]
    exact h.branchIds b hb
  case placed =>
    have hrow : ∀ b ∈ db.branches, ∃ b' ∈ db'.branches, b'.branchId = b.branchId := by
      intro b hb
      rw [hedited.branches]
      exact ⟨_, List.mem_map_of_mem hb, editedBranch_branchId request b⟩
    intro c' hc'
    rw [hedited.cameras] at hc'
    rcases List.mem_append.mp hc' with hkept | hnew
    · obtain ⟨c, hc, rfl⟩ := List.mem_map.mp hkept
      obtain ⟨b, hb, hplaced⟩ := h.placed c (List.mem_filter.mp hc).1
      obtain ⟨b', hb', heq⟩ := hrow b hb
      exact ⟨b', hb', by rw [heq, hplaced, (written_columns mutations c).2.1]⟩
    · obtain ⟨b, hb, heq⟩ := hedited.exists_branch
      obtain ⟨b', hb', heq'⟩ := hrow b hb
      exact ⟨b', hb', by rw [heq', heq, hedited.added_branchId c' hnew]⟩

/-! ## Runs -/

theorem Stored.handle {runtime : Runtime} {hosts : HostLibrary} {db : BranchDb} (h : Stored runtime db)
    (request : BranchRequest) : Stored runtime (handle runtime hosts db request) := by
  cases request with
  | create draws request =>
    show Stored runtime ((createBranch runtime hosts draws db request).toOption.getD db)
    cases hcreate : createBranch runtime hosts draws db request with
    | error failure => exact h
    | ok db' => exact h.create hcreate
  | update newGuids request =>
    show Stored runtime ((updateBranch runtime newGuids db request).toOption.getD db)
    cases hedit : updateBranch runtime newGuids db request with
    | error failure => exact h
    | ok db' => exact h.update hedit

/-- Any sequence of requests leaves well-formed tables. -/
theorem stored_of_reachable {runtime : Runtime} {hosts : HostLibrary} {db : BranchDb}
    (h : (branchSystem runtime hosts).Reachable db) : Stored runtime db := by
  refine h.invariant (fun db hinit => ?_) fun db request db' hdb hstep => ?_
  · cases hinit
    refine ⟨⟨by simp, by simp, .nil, fun b => .nil, fun b => .nil⟩, by simp, by simp⟩
  · cases hstep
    exact hdb.handle request

end WeaponDetection.Backend.Branches
