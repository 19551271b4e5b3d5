import WeaponDetection.Backend.AlertQuery.Listing

/-!
# The pages of a request

Each page is a query of its own, and the database may put Alerts with equal sort keys in another order for each
of them.  `pages_iff` says when the pages of a request nevertheless hold every matching Alert once, and which
page numbers are answered at all: the number of rows to skip is a product of two `int`s.
-/

namespace WeaponDetection.Backend.AlertQuery

open WeaponDetection.Foundations.Pagination
open WeaponDetection.Backend.AlertSync

/-- The number of rows to skip in front of a page. -/
def skipCount (query : AlertListQuery) (page : Int32) : ℤ := (page.toInt - 1) * query.pageSize.toInt

/-- How many pages the matching Alerts fill; no Alerts fill an empty first page. -/
def pageCount (platform : Platform) (db : AlertDb) (query : AlertListQuery) : ℕ :=
  max 1 (((matchingRows platform db query).length + query.pageSize.toInt.toNat - 1) / query.pageSize.toInt.toNat)

/-- The database can put the rows of a query in this order. -/
def IsOrder (platform : Platform) (db : AlertDb) (query : AlertListQuery) (arranged : List JoinedRow) : Prop :=
  Arranged (sortKey query) (matchingRows platform db query) arranged

/-- A page of a request, counted from zero. -/
def listPage (platform : Platform) (db : AlertDb) (query : AlertListQuery) (i : ℕ) (arranged : List JoinedRow) :
    Except QueryError AlertPageResult :=
  listAlerts platform db { query with page := Int32.ofNat (i + 1) } arranged

/-- Pages 1, 2, … together hold every matching Alert once and each counts them, whatever order the database
chooses for each page. -/
def PagesPartition (platform : Platform) (db : AlertDb) (query : AlertListQuery) : Prop :=
  ∀ order : ℕ → List JoinedRow, (∀ i, IsOrder platform db query (order i)) →
    ∃ results : ℕ → AlertPageResult,
      (∀ i < pageCount platform db query, listPage platform db query i (order i) = .ok (results i) ∧
        (results i).totalCount = (matchingRows platform db query).length) ∧
      ((List.range (pageCount platform db query)).flatMap fun i => (results i).items).Perm
        ((matchingRows platform db query).map view)

/-- A page number is answered whatever order the database chooses. -/
def Answered (platform : Platform) (db : AlertDb) (query : AlertListQuery) (page : Int32) : Prop :=
  ∀ arranged, IsOrder platform db query arranged →
    ∃ result, listAlerts platform db { query with page } arranged = .ok result

/-- Every page number the controller accepts is answered. -/
def NeverFails (platform : Platform) (db : AlertDb) (query : AlertListQuery) : Prop :=
  ∀ page : Int32, 1 ≤ page → Answered platform db query page

/-- The count of the matching Alerts is an `int`. -/
def Countable (platform : Platform) (db : AlertDb) (query : AlertListQuery) : Prop :=
  (matchingRows platform db query).length < 2 ^ 31

/-- No two matching Alerts with equal sort keys stand on the two sides of a page boundary. -/
def NoTieCut (platform : Platform) (db : AlertDb) (query : AlertListQuery) : Prop :=
  ∀ i, ¬ TieAt (sortedKeys (sortKey query) (matchingRows platform db query)) ((i + 1) * query.pageSize.toInt.toNat)

section Pages

variable {platform : Platform} {db : AlertDb} {query : AlertListQuery}

/-! ## 32 bits -/

/-- A page size between the bounds of the controller. -/
def AdmittedSize (query : AlertListQuery) : Prop := 1 ≤ query.pageSize.toInt ∧ query.pageSize.toInt ≤ 100

instance (query : AlertListQuery) : Decidable (AdmittedSize query) := inferInstanceAs (Decidable (_ ∧ _))

theorem clampPageSize_of_admitted (h : AdmittedSize query) : clampPageSize query.pageSize = query.pageSize := by
  have hlow : ¬ query.pageSize < 1 := by
    rw [Int32.lt_iff_toInt_lt, Int32.toInt_one]
    exact not_lt.2 h.1
  have hhigh : ¬ maxPageSize < query.pageSize := by
    rw [Int32.lt_iff_toInt_lt]
    exact not_lt.2 h.2
  rw [clampPageSize, if_neg hlow, if_neg hhigh]

/-- A remainder in the upper half is a negative number of 32 bits. -/
theorem bmod_nonneg_iff (n : ℤ) : 0 ≤ n.bmod (2 ^ 32) ↔ n % 2 ^ 32 < 2 ^ 31 := by
  rw [Int.bmod_def]
  split <;> omega

theorem toInt_skip {page : Int32} (h : 1 ≤ page.toInt) (size : Int32) :
    ((page - 1) * size).toInt = ((page.toInt - 1) * size.toInt).bmod (2 ^ 32) := by
  have hlt := page.toInt_lt
  have hpage : (page - 1).toInt = page.toInt - 1 := by
    rw [Int32.toInt_sub, Int32.toInt_one]
    exact Int.bmod_eq_of_le (by omega) (by omega)
  rw [Int32.toInt_mul, hpage]

/-- What the service answers for a page the controller accepts. -/
theorem listAlerts_eq (hsize : AdmittedSize query) {page : Int32} (hpage : 1 ≤ page.toInt)
    (arranged : List JoinedRow) :
    listAlerts platform db { query with page } arranged =
      if 2 ^ 31 ≤ (matchingRows platform db query).length then .error .countOverflow
      else if ¬ skipCount query page % 2 ^ 32 < 2 ^ 31 then .error .negativeOffset
      else .ok
        { items := ((arranged.drop ((skipCount query page).bmod (2 ^ 32)).toNat).take
            query.pageSize.toInt.toNat).map view
          totalCount := (matchingRows platform db query).length, page, pageSize := query.pageSize } := by
  have hrows : matchingRows platform db { query with page } = matchingRows platform db query := rfl
  have hfirst : ¬ page < 1 := by
    rw [Int32.lt_iff_toInt_lt, Int32.toInt_one]
    exact not_lt.2 hpage
  have hskip : (page - 1) * query.pageSize < 0 ↔ ¬ skipCount query page % 2 ^ 32 < 2 ^ 31 := by
    rw [Int32.lt_iff_toInt_lt, toInt_skip hpage, Int32.toInt_zero, ← not_le, not_iff_not]
    exact bmod_nonneg_iff _
  simp only [listAlerts, hrows, if_neg hfirst, clampPageSize_of_admitted hsize, hskip, toInt_skip hpage]
  rfl

/-! ## Which pages are answered -/

theorem answered_iff (hsize : AdmittedSize query) {page : Int32} (hpage : 1 ≤ page.toInt) :
    Answered platform db query page ↔
      Countable platform db query ∧ skipCount query page % 2 ^ 32 < 2 ^ 31 := by
  unfold Answered
  simp only [listAlerts_eq hsize hpage]
  constructor
  · intro h
    obtain ⟨arranged, harranged⟩ := exists_arranged (sortKey query) (matchingRows platform db query)
    obtain ⟨result, hresult⟩ := h arranged harranged
    split at hresult
    · cases hresult
    · rename_i hcount
      split at hresult
      · cases hresult
      · rename_i hskip
        exact ⟨Nat.lt_of_not_le hcount, not_not.1 hskip⟩
  · rintro ⟨hcount, hskip⟩ arranged -
    rw [if_neg (Nat.not_le.2 hcount), if_neg (not_not.2 hskip)]
    exact ⟨_, rfl⟩

/-- A page in the upper half of the 32 bits: there is one for every page size above one. -/
theorem exists_negative_skip (hsize : AdmittedSize query) (hne : query.pageSize ≠ 1) :
    ∃ page : Int32, 1 ≤ page.toInt ∧ ¬ skipCount query page % 2 ^ 32 < 2 ^ 31 := by
  obtain ⟨hlow, hhigh⟩ := hsize
  have htwo : 2 ≤ query.pageSize.toInt := by
    have hne' : query.pageSize.toInt ≠ 1 := by
      rw [← Int32.toInt_one, ne_eq, Int32.toInt_inj]
      exact hne
    omega
  -- the first multiple of the page size that does not fit an `int`
  obtain ⟨n, hn, hfirst, hlast⟩ : ∃ n : ℤ, 0 ≤ n ∧ 2 ^ 31 ≤ n * query.pageSize.toInt ∧
      n * query.pageSize.toInt < 2 ^ 31 + 100 := by
    have hdivision := Int.mul_ediv_add_emod (2 ^ 31 + query.pageSize.toInt - 1) query.pageSize.toInt
    have hremainder := Int.emod_nonneg (2 ^ 31 + query.pageSize.toInt - 1) (show query.pageSize.toInt ≠ 0 by omega)
    have hsmall := Int.emod_lt_of_pos (2 ^ 31 + query.pageSize.toInt - 1) (show 0 < query.pageSize.toInt by omega)
    have hnonneg := Int.ediv_nonneg (show 0 ≤ 2 ^ 31 + query.pageSize.toInt - 1 by omega)
      (show 0 ≤ query.pageSize.toInt by omega)
    refine ⟨(2 ^ 31 + query.pageSize.toInt - 1) / query.pageSize.toInt, hnonneg, ?_, ?_⟩
    · rw [mul_comm]
      omega
    · rw [mul_comm]
      omega
  have hdouble : n * 2 ≤ n * query.pageSize.toInt := Int.mul_le_mul_of_nonneg_left htwo hn
  have hpage : (Int32.ofInt (n + 1)).toInt = n + 1 := Int32.toInt_ofInt_of_le (by omega) (by omega)
  refine ⟨Int32.ofInt (n + 1), by omega, ?_⟩
  rw [skipCount, hpage, add_sub_cancel_right, Int.emod_eq_of_lt (by omega) (by omega)]
  omega

theorem skipCount_of_size_one (h : query.pageSize = 1) {page : Int32} (hpage : 1 ≤ page.toInt) :
    skipCount query page % 2 ^ 32 < 2 ^ 31 := by
  have hlt := page.toInt_lt
  rw [skipCount, h, Int32.toInt_one, mul_one, Int.emod_eq_of_lt (by omega) (by omega)]
  omega

theorem neverFails_iff (hsize : AdmittedSize query) :
    NeverFails platform db query ↔ Countable platform db query ∧ query.pageSize = 1 := by
  have hone : ∀ {page : Int32}, 1 ≤ page ↔ 1 ≤ page.toInt := by
    intro page
    rw [Int32.le_iff_toInt_le, Int32.toInt_one]
  constructor
  · intro h
    refine ⟨((answered_iff hsize (by decide)).1 (h 1 (by decide))).1, ?_⟩
    by_contra hne
    obtain ⟨page, hpage, hskip⟩ := exists_negative_skip hsize hne
    exact hskip ((answered_iff hsize hpage).1 (h page (hone.2 hpage))).2
  · rintro ⟨hcount, hpageSize⟩ page hpage
    exact (answered_iff hsize (hone.1 hpage)).2 ⟨hcount, skipCount_of_size_one hpageSize (hone.1 hpage)⟩

/-! ## When the pages partition the result -/

theorem length_le_pageCount (hsize : AdmittedSize query) :
    (matchingRows platform db query).length ≤ pageCount platform db query * query.pageSize.toInt.toNat := by
  obtain ⟨hlow, -⟩ := hsize
  have hpos : 0 < query.pageSize.toInt.toNat := by omega
  calc (matchingRows platform db query).length
      ≤ ((matchingRows platform db query).length + query.pageSize.toInt.toNat - 1) / query.pageSize.toInt.toNat *
          query.pageSize.toInt.toNat := by
        have hdivision := Nat.div_add_mod
          ((matchingRows platform db query).length + query.pageSize.toInt.toNat - 1) query.pageSize.toInt.toNat
        have hremainder := Nat.mod_lt
          ((matchingRows platform db query).length + query.pageSize.toInt.toNat - 1) hpos
        rw [mul_comm]
        omega
    _ ≤ pageCount platform db query * query.pageSize.toInt.toNat := Nat.mul_le_mul_right _ (le_max_right _ _)

/-- In front of a page there is, there are fewer rows than match. -/
theorem skip_lt_length (hsize : AdmittedSize query) {i : ℕ} (hi : i < pageCount platform db query) :
    i * query.pageSize.toInt.toNat < max 1 (matchingRows platform db query).length := by
  obtain ⟨hlow, -⟩ := hsize
  have hpos : 0 < query.pageSize.toInt.toNat := by omega
  rcases Nat.eq_zero_or_pos i with rfl | hpositive
  · rw [Nat.zero_mul]
    exact Nat.lt_of_lt_of_le Nat.zero_lt_one (le_max_left _ _)
  have hlast : i < ((matchingRows platform db query).length + query.pageSize.toInt.toNat - 1) /
      query.pageSize.toInt.toNat := by
    rcases lt_max_iff.1 hi with hone | hlast
    · omega
    · exact hlast
  have hfits := (Nat.le_div_iff_mul_le hpos).1 hlast
  rw [Nat.succ_eq_add_one, Nat.add_mul, Nat.one_mul] at hfits
  exact Nat.lt_of_lt_of_le (by omega) (le_max_right _ _)

/-- A page there is shows its part of the arranged rows. -/
theorem listPage_eq (hsize : AdmittedSize query) (hcount : Countable platform db query) {i : ℕ}
    (hi : i < pageCount platform db query) (arranged : List JoinedRow) :
    listPage platform db query i arranged = .ok
      { items := (page query.pageSize.toInt.toNat i arranged).map view
        totalCount := (matchingRows platform db query).length, page := Int32.ofNat (i + 1)
        pageSize := query.pageSize } := by
  have hskip := skip_lt_length hsize hi
  unfold Countable at hcount
  have hsmall : i * query.pageSize.toInt.toNat < 2 ^ 31 - 1 := by
    rcases lt_max_iff.1 hskip with hone | hrows
    · omega
    · omega
  have hnumber : i ≤ i * query.pageSize.toInt.toNat := Nat.le_mul_of_pos_right i (by
    have := hsize.1
    omega)
  have hpage : (Int32.ofNat (i + 1)).toInt = (i : ℤ) + 1 := by
    rw [Int32.toInt_ofNat_of_lt (by omega)]
    rfl
  have hproduct : skipCount query (Int32.ofNat (i + 1)) = (i * query.pageSize.toInt.toNat : ℕ) := by
    rw [skipCount, hpage, add_sub_cancel_right, Nat.cast_mul, Int.toNat_of_nonneg (le_trans (by decide) hsize.1)]
  have hbmod : (skipCount query (Int32.ofNat (i + 1))).bmod (2 ^ 32) = skipCount query (Int32.ofNat (i + 1)) :=
    Int.bmod_eq_of_le (by omega) (by omega)
  have hnonneg : skipCount query (Int32.ofNat (i + 1)) % 2 ^ 32 < 2 ^ 31 := by
    rw [Int.emod_eq_of_lt (by omega) (by omega)]
    omega
  rw [listPage, listAlerts_eq hsize (by omega), if_neg (Nat.not_le.2 hcount), if_neg (not_not.2 hnonneg), hbmod,
    hproduct, Int.toNat_natCast]
  rfl

theorem nodup_alertIds (platform : Platform) (db : AlertDb) (query : AlertListQuery) :
    ((matchingRows platform db query).map fun x => (view x).alertId).Nodup := by
  have hids := db.alertIds
  rw [← joined_alerts db, List.map_map] at hids
  exact hids.sublist (List.filter_sublist.map _)

/-- Rows are told apart by what is shown of them. -/
theorem perm_of_map_view {rows : List JoinedRow} (hrows : ∀ x ∈ rows, x ∈ matchingRows platform db query)
    (h : (rows.map view).Perm ((matchingRows platform db query).map view)) :
    rows.Perm (matchingRows platform db query) := by
  have hids := nodup_alertIds platform db query
  have hviews : ((matchingRows platform db query).map view).Nodup := by
    refine List.Nodup.of_map AlertListItemView.alertId ?_
    rw [List.map_map]
    exact hids
  refine (List.perm_ext_iff_of_nodup (List.Nodup.of_map _ (h.nodup_iff.2 hviews))
    (nodup_matchingRows platform db query)).2 fun x => ⟨hrows x, fun hx => ?_⟩
  obtain ⟨y, hy, heq⟩ := List.mem_map.1 (h.mem_iff.2 (List.mem_map_of_mem hx))
  have hsame : y = x := List.inj_on_of_nodup_map hviews (hrows y hy) hx heq
  exact hsame ▸ hy

theorem pagesPartition_iff (hsize : AdmittedSize query) :
    PagesPartition platform db query ↔ Countable platform db query ∧ NoTieCut platform db query := by
  have hlength : (matchingRows platform db query).length ≤
      pageCount platform db query * query.pageSize.toInt.toNat := length_le_pageCount hsize
  have hpages := @pages_perm_iff _ _ _ (sortKey query) _ _ (nodup_matchingRows platform db query) _ hlength
  constructor
  · intro h
    have hcount : Countable platform db query := by
      obtain ⟨arranged, harranged⟩ := exists_arranged (sortKey query) (matchingRows platform db query)
      obtain ⟨results, hresults, -⟩ := h (fun _ => arranged) fun _ => harranged
      have hfirst := (hresults 0 (lt_of_lt_of_le Nat.zero_lt_one (le_max_left _ _))).1
      by_contra hlarge
      rw [listPage, listAlerts_eq hsize (by decide), if_pos (Nat.le_of_not_lt hlarge)] at hfirst
      cases hfirst
    refine ⟨hcount, hpages.1 fun order horder => ?_⟩
    obtain ⟨results, hresults, hperm⟩ := h order horder
    have hitems : ((List.range (pageCount platform db query)).flatMap fun i => (results i).items) =
        ((List.range (pageCount platform db query)).flatMap fun i =>
          page query.pageSize.toInt.toNat i (order i)).map view := by
      rw [List.map_flatMap]
      refine List.flatMap_congr fun i hi => ?_
      have hpage := (hresults i (List.mem_range.1 hi)).1
      rw [listPage_eq hsize hcount (List.mem_range.1 hi), Except.ok.injEq] at hpage
      rw [← hpage]
    rw [hitems] at hperm
    refine perm_of_map_view (fun x hx => ?_) hperm
    obtain ⟨i, -, hx⟩ := List.mem_flatMap.1 hx
    exact (horder i).1.mem_iff.1 (List.mem_of_mem_drop (List.mem_of_mem_take hx))
  · rintro ⟨hcount, hties⟩ order horder
    refine ⟨fun i => ⟨(page query.pageSize.toInt.toNat i (order i)).map view,
      (matchingRows platform db query).length, Int32.ofNat (i + 1), query.pageSize⟩,
      fun i hi => ⟨listPage_eq hsize hcount hi _, rfl⟩, ?_⟩
    rw [← List.map_flatMap]
    exact (hpages.2 hties order horder).map view

end Pages

/-! ## Requests -/

theorem admittedSize_of_toQuery {platform : Platform} {request : AlertListRequestDto} {query : AlertListQuery}
    (h : toQuery platform request = .ok query) : AdmittedSize query := by
  simp only [toQuery] at h
  split at h
  · cases h
  split at h
  · cases h
  rename_i hsize
  have hquery : query.pageSize = request.pageSize.getD defaultPageSize := by
    split at h
    · cases h
    split at h
    · cases h
    split at h
    · cases h
    cases h
    rfl
  rw [not_or, Int32.lt_iff_toInt_lt, Int32.lt_iff_toInt_lt, ← hquery, not_lt, not_lt, Int32.toInt_one] at hsize
  exact hsize

theorem noTieCut_of_size_one {platform : Platform} {db : AlertDb} {query : AlertListQuery}
    (h : query.pageSize = 1) :
    NoTieCut platform db query ↔ ((matchingRows platform db query).map (sortKey query)).Nodup := by
  have hone : query.pageSize.toInt.toNat = 1 := by
    rw [h]
    rfl
  simp only [NoTieCut, hone, Nat.mul_one, nodup_keys_iff]

/-- A runtime for ASCII. -/
def plainPlatform : Platform where
  toUpperInvariant := Char.toUpper
  isRtspUri text := "rtsp://".toList.isPrefixOf text.toList
  equals a b := a == b
  tryParseStatus status := if status = "New" then some "New" else none

/-- An Alert of the only Camera. -/
def plainAlert (alertId : Guid) : AlertRow where
  alertId := alertId
  cameraId := 7
  deviceId := 9
  detectedAtUtc := 638000000000000000
  receivedAtUtc := 638000000010000000
  className := "gun"
  confidence := .finite (9 / 10)
  status := "New"
  snapshotReference := none

/-- The only Branch. -/
def plainBranches : List Branch := [⟨5, "Main", "1 Road", "x@y"⟩]

/-- The only Camera. -/
def plainCameras : List Camera := [⟨7, 5, "Door", "rtsp://10.0.0.1/1", true, "front-door", 0⟩]

/-- Two Alerts detected at the same instant. -/
def plainAlerts : List AlertRow := [plainAlert 1, plainAlert 2]

theorem plainAlerts_ids : (plainAlerts.map AlertRow.alertId).Nodup := by decide

theorem plainCameras_ids : (plainCameras.map Camera.cameraId).Nodup := by decide

theorem plainBranches_ids : (plainBranches.map Branch.branchId).Nodup := by decide

theorem plainAlerts_cameras : ∀ a ∈ plainAlerts, a.cameraId ∈ plainCameras.map Camera.cameraId := by decide

theorem plainCameras_branches : ∀ c ∈ plainCameras, c.branchId ∈ plainBranches.map Branch.branchId := by decide

/-- The tables with both Alerts. -/
def plainDb : AlertDb where
  branches := plainBranches
  cameras := plainCameras
  alerts := plainAlerts
  alertIds := plainAlerts_ids
  cameraIds := plainCameras_ids
  branchIds := plainBranches_ids
  cameraOfAlert := plainAlerts_cameras
  branchOfCamera := plainCameras_branches

/-- The query string `?pageSize=…`. -/
def plainRequest (pageSize : Int32) : AlertListRequestDto :=
  ⟨none, some pageSize, none, none, none, none, none, none, none, none, none⟩

/-- What the controller makes of it. -/
def plainQuery (pageSize : Int32) : AlertListQuery :=
  ⟨1, pageSize, none, none, none, none, none, none, none, .detectedAtUtc, true⟩

end WeaponDetection.Backend.AlertQuery
