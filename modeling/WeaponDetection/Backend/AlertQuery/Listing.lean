import WeaponDetection.Backend.AlertSync.Cameras
import WeaponDetection.Foundations.Double
import WeaponDetection.Foundations.Pagination

/-!
# The list of Alerts

Models `AlertController.List` and `AlertQueryService.ListAlertsAsync`: the checks of the query string, the join
of an Alert with its Camera and Branch, the filters, and one page of the sorted rows.  An `int` is 32 bits wide
and its arithmetic is unchecked.  The order the database puts the rows of one query in is an argument.
-/

namespace WeaponDetection.Backend.AlertQuery

open WeaponDetection.Foundations (Double)
open WeaponDetection.Foundations.Pagination
open WeaponDetection.Backend.AlertSync

/-! ## Tables -/

/-- The columns of `Alerts` the list reads. -/
structure AlertRow where
  alertId : Guid
  cameraId : Guid
  deviceId : Guid
  detectedAtUtc : ℤ
  receivedAtUtc : ℤ
  className : String
  confidence : Double
  status : String
  snapshotReference : Option String
  deriving DecidableEq

/-- The tables with their primary and foreign keys. -/
structure AlertDb extends BranchDb where
  alerts : List AlertRow
  alertIds : (alerts.map AlertRow.alertId).Nodup
  cameraIds : (cameras.map Camera.cameraId).Nodup
  branchIds : (branches.map Branch.branchId).Nodup
  cameraOfAlert : ∀ a ∈ alerts, a.cameraId ∈ cameras.map Camera.cameraId
  branchOfCamera : ∀ c ∈ cameras, c.branchId ∈ branches.map Branch.branchId

/-- What the two runtimes decide. -/
structure Platform extends Runtime where
  /-- `=` of two texts under the collation of the database. -/
  equals : String → String → Bool
  /-- `Enum.TryParse<AlertStatus>(…, ignoreCase: true)`, as the text stored for the value. -/
  tryParseStatus : String → Option String

/-! ## Requests -/

/-- `AlertSortField`. -/
inductive AlertSortField where
  | detectedAtUtc
  | receivedAtUtc
  deriving DecidableEq

/-- `AlertListRequestDto`. -/
structure AlertListRequestDto where
  page : Option Int32
  pageSize : Option Int32
  fromUtc : Option ℤ
  toUtc : Option ℤ
  className : Option String
  branchId : Option Guid
  cameraId : Option Guid
  status : Option String
  snapshotAvailable : Option Bool
  sortBy : Option String
  sortDescending : Option Bool

/-- `AlertListQuery`. -/
structure AlertListQuery where
  page : Int32
  pageSize : Int32
  fromUtc : Option ℤ
  toUtc : Option ℤ
  className : Option String
  branchId : Option Guid
  cameraId : Option Guid
  status : Option String
  snapshotAvailable : Option Bool
  sortBy : AlertSortField
  sortDescending : Bool

/-- `AlertListQuery.MaxPageSize`. -/
def maxPageSize : Int32 := 100

/-- `AlertListQuery.DefaultPageSize`. -/
def defaultPageSize : Int32 := 25

/-- What the controller answers with a bad request. -/
inductive BadRequest where
  | page
  | pageSize
  | sortBy
  | className
  | status
  deriving DecidableEq

/-- The field a `sortBy` names. -/
def sortFieldOf (platform : Platform) (sortBy : Option String) : Option AlertSortField :=
  match sortBy with
  | none => some .detectedAtUtc
  | some sortBy =>
    if sortBy = "" ∨ platform.equalsOrdinalIgnoreCase sortBy "detectedAtUtc" then some .detectedAtUtc
    else if platform.equalsOrdinalIgnoreCase sortBy "receivedAtUtc" then some .receivedAtUtc
    else none

/-- `AlertController.List`, up to the call of the service. -/
def toQuery (platform : Platform) (request : AlertListRequestDto) : Except BadRequest AlertListQuery :=
  let page := request.page.getD 1
  let pageSize := request.pageSize.getD defaultPageSize
  if page < 1 then .error .page
  else if pageSize < 1 ∨ maxPageSize < pageSize then .error .pageSize
  else
    match sortFieldOf platform request.sortBy with
    | none => .error .sortBy
    | some sortField =>
      if request.className.any fun className =>
          !(["gun", "knife"].any (platform.equalsOrdinalIgnoreCase className)) then .error .className
      else if request.status.any fun status => (platform.tryParseStatus status).isNone then .error .status
      else .ok
        { page, pageSize, fromUtc := request.fromUtc, toUtc := request.toUtc, className := request.className
          branchId := request.branchId, cameraId := request.cameraId, status := request.status
          snapshotAvailable := request.snapshotAvailable, sortBy := sortField
          sortDescending := request.sortDescending.getD true }

/-! ## `ListAlertsAsync` -/

/-- An Alert with its Camera and Branch. -/
structure JoinedRow where
  alert : AlertRow
  camera : Camera
  branch : Branch
  deriving DecidableEq

/-- The join over the foreign keys. -/
def joined (db : AlertDb) : List JoinedRow :=
  db.alerts.flatMap fun a =>
    (db.cameras.filter fun c => c.cameraId = a.cameraId).flatMap fun c =>
      (db.branches.filter fun b => b.branchId = c.branchId).map fun b => ⟨a, c, b⟩

/-- The `Where` clauses. -/
def isMatch (platform : Platform) (query : AlertListQuery) (x : JoinedRow) : Bool :=
  query.fromUtc.all (fun fromUtc => fromUtc ≤ x.alert.detectedAtUtc) &&
    query.toUtc.all (fun toUtc => x.alert.detectedAtUtc < toUtc) &&
    query.className.all (fun className => platform.equals x.alert.className className) &&
    query.branchId.all (fun branchId => x.branch.branchId = branchId) &&
    query.cameraId.all (fun cameraId => x.camera.cameraId = cameraId) &&
    (query.status.bind platform.tryParseStatus).all (fun status => platform.equals x.alert.status status) &&
    query.snapshotAvailable.all (fun snapshotAvailable => x.alert.snapshotReference.isSome = snapshotAvailable)

/-- The rows of a query before they are sorted. -/
def matchingRows (platform : Platform) (db : AlertDb) (query : AlertListQuery) : List JoinedRow :=
  (joined db).filter (isMatch platform query)

/-- What the rows are sorted by, ascending. -/
def sortKey (query : AlertListQuery) (x : JoinedRow) : ℤ :=
  let instant := match query.sortBy with
    | .receivedAtUtc => x.alert.receivedAtUtc
    | .detectedAtUtc => x.alert.detectedAtUtc
  if query.sortDescending then -instant else instant

/-- `AlertListItemView`. -/
structure AlertListItemView where
  alertId : Guid
  detectedAtUtc : ℤ
  receivedAtUtc : ℤ
  className : String
  confidence : Double
  branchId : Guid
  branchName : String
  cameraId : Guid
  cameraName : String
  deviceExternalId : Guid
  status : String
  snapshotAvailable : Bool
  deriving DecidableEq

/-- The projection of a row. -/
def view (x : JoinedRow) : AlertListItemView where
  alertId := x.alert.alertId
  detectedAtUtc := x.alert.detectedAtUtc
  receivedAtUtc := x.alert.receivedAtUtc
  className := x.alert.className
  confidence := x.alert.confidence
  branchId := x.branch.branchId
  branchName := x.branch.name
  cameraId := x.camera.cameraId
  cameraName := x.camera.name
  deviceExternalId := x.alert.deviceId
  status := x.alert.status
  snapshotAvailable := x.alert.snapshotReference.isSome

/-- `AlertPageResult`. -/
structure AlertPageResult where
  items : List AlertListItemView
  totalCount : ℕ
  page : Int32
  pageSize : Int32
  deriving DecidableEq

/-- The errors of the database. -/
inductive QueryError where
  /-- `COUNT` does not fit an `int`. -/
  | countOverflow
  /-- The offset of an `OFFSET` clause is negative. -/
  | negativeOffset
  deriving DecidableEq

/-- `Math.Clamp(pageSize, 1, AlertListQuery.MaxPageSize)`. -/
def clampPageSize (pageSize : Int32) : Int32 :=
  if pageSize < 1 then 1 else if maxPageSize < pageSize then maxPageSize else pageSize

/-- `ListAlertsAsync`; `arranged` are the rows as the database sorts them for the query of the page. -/
def listAlerts (platform : Platform) (db : AlertDb) (query : AlertListQuery) (arranged : List JoinedRow) :
    Except QueryError AlertPageResult :=
  let totalCount := (matchingRows platform db query).length
  if 2 ^ 31 ≤ totalCount then .error .countOverflow
  else
    let page := if query.page < 1 then 1 else query.page
    let pageSize := clampPageSize query.pageSize
    let skip := (page - 1) * pageSize
    if skip < 0 then .error .negativeOffset
    else .ok
      { items := ((arranged.drop skip.toInt.toNat).take pageSize.toInt.toNat).map view
        totalCount, page, pageSize }

/-! ## Every Alert is one row -/

theorem filter_key_eq_singleton {ρ : Type} {rows : List ρ} {key : ρ → Guid} (h : (rows.map key).Nodup) {k : Guid}
    (hk : k ∈ rows.map key) : ∃ r, (rows.filter fun x => key x = k) = [r] ∧ key r = k := by
  obtain ⟨r, hr, rfl⟩ := List.mem_map.1 hk
  refine ⟨r, ?_, rfl⟩
  have hmem : ∀ x, x ∈ (rows.filter fun x => key x = key r) ↔ x = r := by
    intro x
    rw [List.mem_filter, decide_eq_true_iff]
    constructor
    · rintro ⟨hx, heq⟩
      exact List.inj_on_of_nodup_map h hx hr heq
    · rintro rfl
      exact ⟨hr, rfl⟩
  exact List.perm_singleton.1 <| (List.perm_ext_iff_of_nodup ((List.Nodup.of_map _ h).filter _)
    (List.nodup_singleton r)).2 fun x => by rw [hmem, List.mem_singleton]

/-- The join keeps every Alert and adds no second row for it. -/
theorem joined_alerts (db : AlertDb) : (joined db).map JoinedRow.alert = db.alerts := by
  have hrow : ∀ a ∈ db.alerts, ((db.cameras.filter fun c => c.cameraId = a.cameraId).flatMap fun c =>
      (db.branches.filter fun b => b.branchId = c.branchId).map fun b => (⟨a, c, b⟩ : JoinedRow)).map
        JoinedRow.alert = [a] := by
    intro a ha
    obtain ⟨c, hcamera, -⟩ := filter_key_eq_singleton db.cameraIds (db.cameraOfAlert a ha)
    have hc : c ∈ db.cameras := List.mem_of_mem_filter (hcamera ▸ List.mem_singleton_self c)
    obtain ⟨b, hbranch, -⟩ := filter_key_eq_singleton db.branchIds (db.branchOfCamera c hc)
    rw [hcamera, List.flatMap_singleton, hbranch]
    rfl
  rw [joined, List.map_flatMap, List.flatMap_congr hrow, List.flatMap_singleton']

theorem nodup_matchingRows (platform : Platform) (db : AlertDb) (query : AlertListQuery) :
    (matchingRows platform db query).Nodup := by
  have halerts := List.Nodup.of_map _ db.alertIds
  rw [← joined_alerts db] at halerts
  exact (List.Nodup.of_map _ halerts).filter _

end WeaponDetection.Backend.AlertQuery
