import WeaponDetection.Backend.Branches.DeviceConfiguration
import WeaponDetection.Foundations.TransitionSystem

/-!
# Creation of a Branch

Models `CreateBranchAsync` of `BranchService.cs` with the constructor of `Camera.cs` and the host rules
of `Device.cs`, and the `Branches` and `Cameras` tables over a run of creations and edits.
-/

namespace WeaponDetection.Backend.Branches

open WeaponDetection.Foundations
open WeaponDetection.Backend.AlertSync

/-! ## The network configuration of the Device -/

/-- What the runtime knows of hosts. -/
structure HostLibrary where
  /-- `IPAddress.TryParse` finds an IPv6 address. -/
  isIpv6 : String → Bool
  /-- `Uri.TryCreate("rtsp://" + candidate)` finds a URI with no path, user info, query or
  fragment. -/
  isAuthority : String → Bool

/-- `ConfigurationErrorCodes`, of the network configuration. -/
inductive NetworkErrorCode where
  | jetsonHostRequired
  | rtspOutputPortInvalid
  | jetsonHostInvalid
  deriving DecidableEq

/-- `RequireJetsonHost`; `none` where it throws. -/
def requireJetsonHost (hosts : HostLibrary) (jetsonHost : String) : Option String :=
  if DotNet.isNullOrWhiteSpace jetsonHost then none
  else
    let trimmed := DotNet.trim jetsonHost
    let isIpv6 := hosts.isIpv6 trimmed
    let candidate := if isIpv6 then "[" ++ trimmed ++ "]" else trimmed
    if 255 < DotNet.length trimmed then none
    else if trimmed.toList.any fun c => c < ' ' || c = '\x7f' then none
    -- A text with `://` in it has a slash.
    else if trimmed.toList.any fun c => ['/', '\\', '@', '?', '#'].contains c then none
    else if !isIpv6 && trimmed.toList.contains ':' then none
    else if !hosts.isAuthority candidate then none
    else some trimmed

/-- `DefaultRtspOutputPort`. -/
def defaultRtspOutputPort : ℤ := 8554

/-- `ApplyNetworkConfiguration` on a new Device: the host and the port it gets. -/
def applyNetworkConfiguration (hosts : HostLibrary) (jetsonHost : String) (rtspOutputPort : Option ℤ) :
    Except NetworkErrorCode (String × ℤ) :=
  if DotNet.isNullOrWhiteSpace jetsonHost then .error .jetsonHostRequired
  else if rtspOutputPort.any fun port => port < 1 || 65535 < port then .error .rtspOutputPortInvalid
  else
    match requireJetsonHost hosts jetsonHost with
    | none => .error .jetsonHostInvalid
    | some host => .ok (host, rtspOutputPort.getD defaultRtspOutputPort)

/-! ## `CreateBranchAsync` -/

/-- `NewCameraRequest`. -/
structure NewCameraRequest where
  name : String
  rtspUrl : String
  cameraKey : String
  deriving DecidableEq

/-- `NewBranchRequest`.  An element of the Cameras may be null. -/
structure NewBranchRequest where
  name : String
  address : String
  contactDetails : String
  jetsonHost : String
  rtspOutputPort : Option ℤ
  cameras : List (Option NewCameraRequest)
  deriving DecidableEq

/-- How a creation ends when it does not go through. -/
inductive CreateFailure where
  /-- A check that an edit makes as well: `invalid` is an `ArgumentException` here, and `database` an
  `InvalidOperationException`. -/
  | shared (failure : UpdateFailure)
  | network (code : NetworkErrorCode)
  deriving DecidableEq

/-- The constructor of `Camera`. -/
def newCamera (cameraId branchId : Guid) (name rtspUrl cameraKey : String) (sourceOrder : ℕ) :
    Except UpdateFailure Camera := do
  -- An `int` past its maximum has become negative.
  refuse (branchId = 0 ∨ 2 ^ 31 ≤ sourceOrder) .invalid
  let name ← requireText name 200
  let rtspUrl ← requireText rtspUrl 2048
  let cameraKey ← (requireCameraKey cameraKey).elim (.error .invalid) .ok
  return { cameraId, branchId, name, rtspUrl, enabled := true, cameraKey, sourceOrder }

/-- The Camera loop of a creation, in the middle. -/
structure CreationLoop where
  cameras : List Camera
  seenCameraKeys : List String
  sourceOrder : ℕ

/-- One round of the loop.  `newGuid` gives the identifier of the Camera at each position. -/
def CreationLoop.round (runtime : Runtime) (branchId : Guid) (newGuid : ℕ → Guid) (loop : CreationLoop)
    (cameraRequest : Option NewCameraRequest) : Except UpdateFailure CreationLoop :=
  match cameraRequest with
  | none => .error .invalid
  | some request => do
    let cameraKey ← validateCameraKey (some request.cameraKey)
    refuse (loop.seenCameraKeys.contains cameraKey) (.configuration .cameraKeyAlreadyExists)
    -- `EnsureValidRtspUrl` leaves a blank URL to the constructor.
    refuse (!DotNet.isNullOrWhiteSpace request.rtspUrl &&
      !runtime.isRtspUri (DotNet.trim request.rtspUrl)) .invalid
    let camera ← newCamera (newGuid loop.sourceOrder) branchId request.name request.rtspUrl cameraKey
      loop.sourceOrder
    return { cameras := loop.cameras ++ [camera], seenCameraKeys := cameraKey :: loop.seenCameraKeys
             sourceOrder := loop.sourceOrder + 1 }

/-- What `Guid.NewGuid()` gives a creation, and whether the rows of the Device and of its Activation Key
go in. -/
structure CreationDraws where
  branchId : Guid
  newGuid : ℕ → Guid
  deviceStored : Bool

/-- The rows of a creation, checked before any database work. -/
def buildBranch (runtime : Runtime) (draws : CreationDraws) (request : NewBranchRequest) :
    Except UpdateFailure (Branch × List Camera) := do
  refuse (request.cameras = []) .invalid
  let name ← requireText request.name 200
  let address ← requireText request.address 500
  let contactDetails ← requireText request.contactDetails 500
  let loop ← request.cameras.foldlM (CreationLoop.round runtime draws.branchId draws.newGuid) ⟨[], [], 0⟩
  return (⟨draws.branchId, name, address, contactDetails⟩, loop.cameras)

/-- The commit: no identifier may be taken. -/
def insertBranch (draws : CreationDraws) (db : BranchDb) (branch : Branch) (cameras : List Camera) :
    Except UpdateFailure BranchDb := do
  refuse (!draws.deviceStored || db.branches.any (·.branchId = branch.branchId)) .database
  refuse (!decide (cameras.map Camera.cameraId).Nodup ||
    cameras.any fun c => db.cameras.any (·.cameraId = c.cameraId)) .database
  return { branches := db.branches ++ [branch], cameras := db.cameras ++ cameras }

/-- `CreateBranchAsync`: the tables after a creation that went through. -/
def createBranch (runtime : Runtime) (hosts : HostLibrary) (draws : CreationDraws) (db : BranchDb)
    (request : NewBranchRequest) : Except CreateFailure BranchDb := do
  let (branch, cameras) ← (buildBranch runtime draws request).mapError .shared
  let _ ← (applyNetworkConfiguration hosts request.jetsonHost request.rtspOutputPort).mapError .network
  (insertBranch draws db branch cameras).mapError .shared

/-! ## The tables over a run -/

/-- A request of an administrator, with what the runtime generates for it. -/
inductive BranchRequest where
  | create (draws : CreationDraws) (request : NewBranchRequest)
  | update (newGuids : List Guid) (request : UpdateBranchRequest)

/-- The tables after a request: a refused one is rolled back. -/
def handle (runtime : Runtime) (hosts : HostLibrary) (db : BranchDb) : BranchRequest → BranchDb
  | .create draws request => (createBranch runtime hosts draws db request).toOption.getD db
  | .update newGuids request => (updateBranch runtime newGuids db request).toOption.getD db

/-- Any requests in any order, from empty tables. -/
def branchSystem (runtime : Runtime) (hosts : HostLibrary) : TransitionSystem BranchDb BranchRequest where
  init := fun db => db = ⟨[], []⟩
  step := fun db request => some (handle runtime hosts db request)

end WeaponDetection.Backend.Branches
