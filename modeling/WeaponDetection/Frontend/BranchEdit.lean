import WeaponDetection.Backend.Branches.RtspUrlSanitizer
import WeaponDetection.Backend.Branches.WellFormed

/-!
# The branch-edit form

Models `branch-edit.ts`: the form is filled from the Branch as the Backend returns it, and
`buildRequest` makes the update request of it.
-/

namespace WeaponDetection.Frontend

open WeaponDetection.Foundations
open WeaponDetection.Backend
open WeaponDetection.Backend.AlertSync
open WeaponDetection.Backend.Branches

/-! ## What the Backend returns -/

/-- `CameraResponseDto`, the outputs apart. -/
structure CameraResponseDto where
  cameraId : Guid
  cameraKey : String
  name : String
  rtspUrl : String
  enabled : Bool
  sourceOrder : ℕ
  deriving DecidableEq

/-- `CameraResponseDto.From`. -/
def CameraResponseDto.ofCamera (camera : Camera) : CameraResponseDto :=
  { cameraId := camera.cameraId, cameraKey := camera.cameraKey, name := camera.name
    rtspUrl := redact camera.rtspUrl, enabled := camera.enabled, sourceOrder := camera.sourceOrder }

/-- `BranchResponseDto`, the device apart. -/
structure BranchResponseDto where
  branchId : Guid
  name : String
  address : String
  contactDetails : String
  cameras : List CameraResponseDto
  deriving DecidableEq

/-- `BranchResponseDto.ForRead`. -/
def BranchResponseDto.forRead (branch : Branch) (cameras : List Camera) : BranchResponseDto :=
  { branchId := branch.branchId, name := branch.name, address := branch.address
    contactDetails := branch.contactDetails, cameras := cameras.map CameraResponseDto.ofCamera }

/-! ## The form -/

/-- White space of ECMAScript: `WhiteSpace` and `LineTerminator`. -/
def isWhiteSpace (c : Char) : Bool :=
  (0x9 ≤ c.toNat && c.toNat ≤ 0xd) || (0x2000 ≤ c.toNat && c.toNat ≤ 0x200a) ||
    [0x20, 0xa0, 0x1680, 0x2028, 0x2029, 0x202f, 0x205f, 0x3000, 0xfeff].contains c.toNat

/-- `text.trim()`. -/
def trim (text : String) : String := String.ofList (trimList isWhiteSpace text.toList)

/-- One row of the form. -/
structure CameraForm where
  cameraId : Option Guid
  name : String
  cameraKey : String
  rtspUrl : String
  deriving DecidableEq

/-- `buildCameraForm`. -/
def buildCameraForm (cameraId : Option Guid) (name url key : String) : CameraForm :=
  { cameraId, name, cameraKey := key, rtspUrl := url }

/-- The form. -/
structure BranchForm where
  name : String
  address : String
  contactDetails : String
  cameras : List CameraForm
  deriving DecidableEq

/-- `ngOnInit`: the form filled from the loaded Branch. -/
def fill (branch : BranchResponseDto) : BranchForm :=
  { name := branch.name, address := branch.address, contactDetails := branch.contactDetails
    cameras := branch.cameras.map fun camera =>
      buildCameraForm (some camera.cameraId) camera.name camera.rtspUrl camera.cameraKey }

/-- The request of one row: an existing Camera sends its identifier and no key. -/
def cameraRequest (form : CameraForm) : CameraMutation :=
  match form.cameraId with
  | some cameraId =>
    { cameraId := some cameraId, name := trim form.name, rtspUrl := trim form.rtspUrl
      cameraKey := none }
  | none =>
    { cameraId := none, name := trim form.name, rtspUrl := trim form.rtspUrl
      cameraKey := some (trim form.cameraKey) }

/-- `buildRequest`, sent to the Branch of the route. -/
def buildRequest (branchId : Guid) (form : BranchForm) : UpdateBranchRequest :=
  { branchId, name := trim form.name, address := trim form.address
    contactDetails := trim form.contactDetails
    cameras := form.cameras.map fun camera => some (cameraRequest camera) }

/-! ## The two trimmings -/

/-- ECMAScript trims the byte order mark besides, and leaves the next-line character. -/
theorem isWhiteSpace_eq_true_iff (c : Char) :
    isWhiteSpace c = true ↔
      c = '\ufeff' ∨ (DotNet.isWhiteSpace c = true ∧ c.toNat ≠ 0x85) := by
  have hmark : c = '\ufeff' ↔ c.toNat = 0xfeff := by
    constructor
    · rintro rfl
      rfl
    · intro h
      exact Char.toNat_inj.mp h
  rw [hmark]
  simp only [isWhiteSpace, DotNet.isWhiteSpace, Bool.or_eq_true, Bool.and_eq_true, decide_eq_true_eq,
    List.contains_iff_mem, List.mem_cons, List.not_mem_nil, or_false]
  omega

/-- The text neither begins nor ends with a byte order mark. -/
def NoByteOrderMark (text : String) : Prop :=
  text.toList.head? ≠ some '\ufeff' ∧ text.toList.getLast? ≠ some '\ufeff'

instance (text : String) : Decidable (NoByteOrderMark text) := inferInstanceAs (Decidable (_ ∧ _))

/-- To a stored text the trimming of the form does nothing unless there is such a mark. -/
theorem trimmed_iff {text : String} (h : DotNet.trim text = text) :
    Trimmed isWhiteSpace text.toList ↔ NoByteOrderMark text := by
  obtain ⟨hhead, hlast⟩ := trim_eq_self_iff.mp h
  have hend : ∀ end? : Option Char, (∀ c ∈ end?, DotNet.isWhiteSpace c = false) →
      ((∀ c ∈ end?, isWhiteSpace c = false) ↔ end? ≠ some '\ufeff') := by
    intro end? hplain
    constructor
    · rintro hnone rfl
      have hmark := hnone _ rfl
      exact absurd hmark (by decide)
    · intro hmark c hc
      rw [Bool.eq_false_iff, Ne, isWhiteSpace_eq_true_iff]
      rintro (rfl | ⟨hspace, -⟩)
      · exact hmark hc
      · rw [hplain c hc] at hspace
        cases hspace
  exact and_congr (hend _ hhead) (hend _ hlast)

theorem toList_trim (text : String) : (trim text).toList = trimList isWhiteSpace text.toList :=
  String.toList_ofList

/-- What becomes of a stored text on its way through the form and back. -/
theorem trim_trim_eq_self_iff {text : String} (h : DotNet.trim text = text) :
    DotNet.trim (trim text) = text ↔ NoByteOrderMark text := by
  rw [← trimmed_iff h, ← trimList_trimList_eq_self_iff (trim_eq_self_iff.mp h),
    ← String.toList_inj, Branches.toList_trim, toList_trim]

/-- What becomes of a stored URL. -/
theorem trim_trim_redact_eq_self_iff {url : String} (h : DotNet.trim url = url) :
    DotNet.trim (trim (redact url)) = url ↔
      ¬ CarriesCredentials url.toList ∧ NoByteOrderMark url := by
  rw [← trimmed_iff h, ← trim_redact_eq_self_iff (p := isWhiteSpace) (q := DotNet.isWhiteSpace)
    (by decide) (by decide) (trim_eq_self_iff.mp h)]
  rw [← String.toList_inj, Branches.toList_trim, toList_trim, redact, String.toList_ofList]

end WeaponDetection.Frontend
