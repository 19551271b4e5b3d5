import WeaponDetection.Backend.Branches.DeviceConfiguration
import WeaponDetection.Foundations.Trim

/-!
# Stored Branches

What the constructors of `Branch` and `Camera`, the checks of `BranchService` and the unique indexes of
the database promise of the stored rows.
-/

namespace WeaponDetection.Backend.Branches

open WeaponDetection.Foundations
open WeaponDetection.Backend.AlertSync

/-- A check passes. -/
theorem refuse_eq_ok_iff {condition : Bool} {failure : UpdateFailure} {u : Unit} :
    refuse condition failure = .ok u ↔ condition = false := by
  unfold refuse
  split <;> simp_all

/-! ## Texts -/

/-- `Trim()` on the characters. -/
theorem toList_trim (text : String) :
    (DotNet.trim text).toList = trimList DotNet.isWhiteSpace text.toList := by
  rw [DotNet.trim, String.toList_ofList]
  rfl

theorem trim_eq_self_iff {text : String} :
    DotNet.trim text = text ↔ Trimmed DotNet.isWhiteSpace text.toList := by
  rw [← trimList_eq_self_iff, ← toList_trim]
  exact ⟨congrArg String.toList, fun h => String.toList_injective h⟩

@[simp] theorem trim_trim (text : String) : DotNet.trim (DotNet.trim text) = DotNet.trim text := by
  rw [trim_eq_self_iff, toList_trim]
  exact trimmed_trimList _ _

/-- A text that a check of presence and length lets pass as it is. -/
def IsStoredText (maxLength : ℕ) (text : String) : Prop := requireText text maxLength = .ok text

instance (maxLength : ℕ) (text : String) : Decidable (IsStoredText maxLength text) :=
  inferInstanceAs (Decidable (requireText text maxLength = .ok text))

/-- What such a check lets pass is trimmed. -/
theorem eq_trim_of_requireText {value text : String} {maxLength : ℕ}
    (h : requireText value maxLength = .ok text) : text = DotNet.trim value := by
  unfold requireText at h
  split at h
  · cases h
  · split at h
    · cases h
    · cases h
      rfl

theorem IsStoredText.trim_eq {maxLength : ℕ} {text : String} (h : IsStoredText maxLength text) :
    DotNet.trim text = text := (eq_trim_of_requireText h).symm

/-- A text is blank when nothing is left of it. -/
theorem isNullOrWhiteSpace_iff {text : String} :
    DotNet.isNullOrWhiteSpace text = true ↔ DotNet.trim text = "" := by
  have hempty : DotNet.trim text = "" ↔ trimList DotNet.isWhiteSpace text.toList = [] := by
    rw [← toList_trim]
    exact String.toList_eq_nil_iff.symm
  rw [hempty, DotNet.isNullOrWhiteSpace, List.all_eq_true, trimList]
  constructor
  · intro h
    rw [List.dropWhile_eq_nil_iff.mpr h, List.rdropWhile_nil]
  · intro h
    have hnone : text.toList.dropWhile DotNet.isWhiteSpace = [] := by
      cases hdrop : text.toList.dropWhile DotNet.isWhiteSpace with
      | nil => rfl
      | cons c rest =>
        -- the first character that is left stays
        have hall := List.rdropWhile_eq_nil_iff.mp h c (by rw [hdrop]; exact List.mem_cons_self)
        have hhead := head_dropWhile DotNet.isWhiteSpace text.toList c (by rw [hdrop]; rfl)
        rw [hhead] at hall
        cases hall
    exact List.dropWhile_eq_nil_iff.mp hnone

/-- The result of a check passes it again. -/
theorem isStoredText_of_requireText {value text : String} {maxLength : ℕ}
    (h : requireText value maxLength = .ok text) : IsStoredText maxLength text := by
  have htrim := eq_trim_of_requireText h
  subst htrim
  unfold requireText at h
  unfold IsStoredText requireText
  split at h
  · cases h
  · rename_i hblank
    split at h
    · cases h
    · rename_i hlength
      rw [isNullOrWhiteSpace_iff] at hblank
      rw [if_neg (by rwa [isNullOrWhiteSpace_iff, trim_trim]), trim_trim, if_neg hlength]

/-! ## Rows -/

/-- A stored Camera. -/
structure CameraWellFormed (runtime : Runtime) (c : Camera) : Prop where
  name : IsStoredText 200 c.name
  rtspUrl : IsStoredText 2048 c.rtspUrl
  isRtspUri : runtime.isRtspUri c.rtspUrl = true
  cameraKey : requireCameraKey c.cameraKey = some c.cameraKey
  branchId : c.branchId ≠ 0
  sourceOrder : c.sourceOrder < 2 ^ 31

/-- A stored Branch. -/
structure BranchWellFormed (b : Branch) : Prop where
  name : IsStoredText 200 b.name
  address : IsStoredText 500 b.address
  contactDetails : IsStoredText 500 b.contactDetails

/-- The Cameras of a Branch. -/
def camerasOf (db : BranchDb) (branchId : Guid) : List Camera :=
  db.cameras.filter (·.branchId = branchId)

/-- A Camera is found by its identifier. -/
theorem find?_cameraId {cameras : List Camera} (h : (cameras.map Camera.cameraId).Nodup) {c : Camera}
    (hc : c ∈ cameras) : cameras.find? (·.cameraId = c.cameraId) = some c := by
  cases hfind : cameras.find? (·.cameraId = c.cameraId) with
  | none => exact absurd (decide_eq_true rfl) (List.find?_eq_none.mp hfind c hc)
  | some found =>
    have hid : found.cameraId = c.cameraId := by simpa using List.find?_some hfind
    exact congrArg some (List.inj_on_of_nodup_map h (List.mem_of_find?_eq_some hfind) hc hid)

/-- The `Branches` and `Cameras` tables as the Backend leaves them. -/
structure WellFormed (runtime : Runtime) (db : BranchDb) : Prop where
  cameras : ∀ c ∈ db.cameras, CameraWellFormed runtime c
  branches : ∀ b ∈ db.branches, BranchWellFormed b
  cameraIds : (db.cameras.map Camera.cameraId).Nodup
  cameraKeys : ∀ branchId, ((camerasOf db branchId).map Camera.cameraKey).Nodup
  sourceOrders : ∀ branchId, ((camerasOf db branchId).map Camera.sourceOrder).Nodup

theorem WellFormed.nodup_camerasOf {runtime : Runtime} {db : BranchDb} (h : WellFormed runtime db)
    (branchId : Guid) : ((camerasOf db branchId).map Camera.cameraId).Nodup :=
  h.cameraIds.sublist (List.filter_sublist.map _)

end WeaponDetection.Backend.Branches
