import Mathlib.Data.List.Count
import WeaponDetection.Backend.Activation.Devices
import WeaponDetection.Backend.Branches.Creation
import WeaponDetection.Backend.Branches.Reconciliation
import WeaponDetection.Foundations.SqlText
import WeaponDetection.Foundations.UuidText

/-!
# The Camera and device migrations

Models `AddCameraSourceOrder` and `AddCameraKeyAndDeviceNetwork` as functions on the rows they find, and
the two rules of `Device.cs` around them: which base URLs `SetAnnotatedOutputBaseUrl` lets into the column
that is split, and the address a device composes from its columns before and after.  `Uri.TryCreate` and
`IPAddress.TryParse` are parameters.
-/

namespace WeaponDetection.Backend.Branches

open WeaponDetection.Foundations
open WeaponDetection.Foundations.Python (uuidText uuidText_injective hexDigitsFrom isHexChar_of_mem IsHexChar
  hexChar length_uuidText length_hexDigitsFrom)
open WeaponDetection.Foundations.SqlText
open WeaponDetection.Backend.AlertSync

/-! ## URIs -/

/-- Where a client connects to. -/
structure Address where
  scheme : String
  host : String
  /-- Without an explicit port, the default of the scheme. -/
  port : Option ℕ
  deriving DecidableEq

/-- `Uri`, as far as the setter looks at it. -/
structure Uri where
  address : Address
  userInfo : String
  query : String
  fragment : String
  absolutePath : String
  deriving DecidableEq

/-- What the runtime knows of URIs and addresses. -/
structure UriLibrary where
  /-- `Uri.TryCreate(…, UriKind.Absolute, …)`. -/
  tryCreate : String → Option Uri
  /-- `IPAddress.TryParse` finds an IPv6 address. -/
  isIpv6 : String → Bool

/-- Where a URL leads. -/
def UriLibrary.addressOf (library : UriLibrary) (url : String) : Option Address :=
  (library.tryCreate url).map Uri.address

/-! ## `SetAnnotatedOutputBaseUrl` -/

/-- What the setter throws. -/
inductive BaseUrlError where
  | tooLong
  | notAbsolute
  | scheme
  | hostMissing
  | userInfo
  | query
  | fragment
  | path
  deriving DecidableEq

/-- `AnnotatedOutputBaseUrlMaxLength`. -/
def annotatedOutputBaseUrlMaxLength : ℕ := 512

/-- `SetAnnotatedOutputBaseUrl`: the value of the column. -/
def setAnnotatedOutputBaseUrl (library : UriLibrary) (baseUrl : Option String) :
    Except BaseUrlError (Option String) :=
  match baseUrl with
  | none => .ok none
  | some text =>
    if DotNet.isNullOrWhiteSpace text then .ok none
    else
      let trimmed := String.ofList ((DotNet.trim text).toList.rdropWhile (· = '/'))
      if annotatedOutputBaseUrlMaxLength < DotNet.length trimmed then .error .tooLong
      else
        match library.tryCreate trimmed with
        | none => .error .notAbsolute
        | some uri =>
          if uri.address.scheme ≠ "rtsp" ∧ uri.address.scheme ≠ "rtsps" then .error .scheme
          else if uri.address.host = "" then .error .hostMissing
          else if uri.userInfo ≠ "" then .error .userInfo
          else if uri.query ≠ "" then .error .query
          else if uri.fragment ≠ "" then .error .fragment
          else if uri.absolutePath ≠ "" ∧ uri.absolutePath ≠ "/" then .error .path
          else .ok (some trimmed)

/-! ## Rows -/

/-- A row of `Cameras` before the migrations. -/
structure CameraRow where
  cameraId : Guid
  branchId : Guid
  name : String
  rtspUrl : String
  enabled : Bool
  deriving DecidableEq

/-- The row between them. -/
structure OrderedCameraRow extends CameraRow where
  sourceOrder : ℕ
  deriving DecidableEq

/-- The columns of a Camera that were there before. -/
def cameraRow (c : Camera) : CameraRow := ⟨c.cameraId, c.branchId, c.name, c.rtspUrl, c.enabled⟩

/-- A row of `Devices` before the migrations.  The column of the base URL is added between them and is
null until the setter writes it. -/
structure DeviceRow where
  deviceRecordId : Guid
  branchId : Guid
  device : Device
  lastKnownAddress : Option String
  annotatedOutputBaseUrl : Option String
  deriving DecidableEq

/-- The row after them. -/
structure NetworkDeviceRow extends DeviceRow where
  jetsonHost : Option String
  rtspOutputPort : Option ℤ
  deriving DecidableEq

/-- `ComposeAnnotatedOutputBase`. -/
def NetworkDeviceRow.composeAnnotatedOutputBase (library : UriLibrary) (d : NetworkDeviceRow) :
    Option String :=
  match d.jetsonHost with
  | none => d.annotatedOutputBaseUrl
  | some jetsonHost =>
    let host := if library.isIpv6 jetsonHost then "[" ++ jetsonHost ++ "]" else jetsonHost
    some ("rtsp://" ++ host ++ ":" ++ toString (d.rtspOutputPort.getD defaultRtspOutputPort))

/-! ## `AddCameraSourceOrder` -/

/-- `CREATE UNIQUE INDEX` over a key; `none` where two rows have the same one. -/
def createUniqueIndex [DecidableEq κ] (key : ρ → κ) (rows : List ρ) : Option Unit :=
  if (rows.map key).Nodup then some () else none

/-- `AddCameraSourceOrder.Up`; `none` where the filtered index cannot be created. -/
def addCameraSourceOrder (cameras : List CameraRow) : Option (List OrderedCameraRow) := do
  let rows := cameras.map fun c => { c with sourceOrder := 0 }
  createUniqueIndex (fun c : OrderedCameraRow => (c.branchId, c.sourceOrder)) (rows.filter (·.enabled))
  return rows

/-! ## `AddCameraKeyAndDeviceNetwork` -/

/-- The parameter of `nvarchar(255)`. -/
def jetsonHostMaxLength : ℕ := 255

/-- The first statement on a device: the base URL is split.  `none` where the host does not fit. -/
def splitBaseUrl (d : NetworkDeviceRow) : Option NetworkDeviceRow :=
  match d.annotatedOutputBaseUrl with
  | none => some d
  | some url =>
    if d.jetsonHost ≠ none ∨ '[' ∈ url.toList then some d
    else
      let remainder := replaceEmpty (replaceEmpty url.toList "rtsps://".toList) "rtsp://".toList
      let colon := charIndex ':' remainder
      let jetsonHost := String.ofList (if 0 < colon then left remainder (colon - 1) else remainder)
      let rtspOutputPort :=
        if 0 < colon then tryCastInt (substring remainder (colon + 1) 10) else some defaultRtspOutputPort
      if jetsonHostMaxLength < DotNet.length jetsonHost then none
      else some { d with jetsonHost := some jetsonHost, rtspOutputPort }

/-- The second statement: the default port where the cast failed. -/
def defaultPort (d : NetworkDeviceRow) : NetworkDeviceRow :=
  if d.jetsonHost ≠ none ∧ d.rtspOutputPort = none then
    { d with rtspOutputPort := some defaultRtspOutputPort }
  else d

/-- A device with its two new columns. -/
def backfillDevice (d : DeviceRow) : Option NetworkDeviceRow :=
  (splitBaseUrl { d with jetsonHost := none, rtspOutputPort := none }).map defaultPort

/-- `FrontCameraId`. -/
def frontCameraId : Guid := 0x2613B33187834D51903A3E41A979A14C

/-- `RearCameraId`. -/
def rearCameraId : Guid := 0xAD8A1F097FBA47948F7363C7E2C57C92

/-- `UPDATE Cameras SET CameraKey = … WHERE CameraId = … AND CameraKey = ''`. -/
def approveCameraKey (cameraId : Guid) (cameraKey : String) (c : Camera) : Camera :=
  if c.cameraId = cameraId ∧ c.cameraKey = "" then { c with cameraKey } else c

/-- `UPDATE Cameras SET CameraKey = LOWER(CONVERT(varchar(36), CameraId)) WHERE CameraKey = ''`. -/
def fallBackToGuid (c : Camera) : Camera :=
  if c.cameraKey = "" then { c with cameraKey := uuidText c.cameraId } else c

/-- A Camera with its key. -/
def backfillCamera (c : OrderedCameraRow) : Camera :=
  fallBackToGuid <| approveCameraKey rearCameraId "rear-entrance" <|
    approveCameraKey frontCameraId "front-camera"
      { cameraId := c.cameraId, branchId := c.branchId, name := c.name, rtspUrl := c.rtspUrl
        enabled := c.enabled, cameraKey := "", sourceOrder := c.sourceOrder }

/-- `AddCameraKeyAndDeviceNetwork.Up`; `none` where a statement fails. -/
def addCameraKeyAndDeviceNetwork (cameras : List OrderedCameraRow) (devices : List DeviceRow) :
    Option (List Camera × List NetworkDeviceRow) := do
  let devices ← devices.mapM backfillDevice
  let cameras := cameras.map backfillCamera
  createUniqueIndex (fun c : Camera => (c.branchId, c.cameraKey)) cameras
  return (cameras, devices)

/-- The two migrations one after the other. -/
def migrate (cameras : List CameraRow) (devices : List DeviceRow) :
    Option (List Camera × List NetworkDeviceRow) := do
  let cameras ← addCameraSourceOrder cameras
  addCameraKeyAndDeviceNetwork cameras devices

/-! ## Base URLs -/

/-- A character of a host name or of an IPv4 address. -/
def isHostChar (c : Char) : Bool :=
  ' ' < c && c != '\x7f' && !DotNet.isWhiteSpace c &&
    !([':', '/', '\\', '?', '#', '@', '[', ']', '%'].contains c) &&
    -- the collation takes these full width characters for a slash, a colon and a bracket
    !([0xff0f, 0xff1a, 0xff3b].contains c.toNat)

/-- The letters of a scheme in lower case. -/
def lowerScheme (scheme : String) : String := String.ofList (scheme.toList.map Char.toLower)

/-- The port digits write; without digits there is none. -/
def portNumber (digits : String) : Option ℕ :=
  if digits = "" then none else some (digitsValue digits.toList)

/-- A base URL of the form `scheme://host` or `scheme://host:port`. -/
structure BaseUrl where
  scheme : String
  host : String
  port : Option String
  scheme_eq : lowerScheme scheme = "rtsp" ∨ lowerScheme scheme = "rtsps"
  host_ne : host ≠ ""
  host_chars : ∀ c ∈ host.toList, isHostChar c = true
  port_digits : ∀ digits ∈ port, ∀ c ∈ digits.toList, c.isDigit = true
  port_le : ∀ digits ∈ port, digitsValue digits.toList ≤ 65535

/-- The colon and the digits behind a host. -/
def BaseUrl.portText (u : BaseUrl) : String := u.port.elim "" (":" ++ ·)

/-- The URL as a text. -/
def BaseUrl.text (u : BaseUrl) : String := u.scheme ++ "://" ++ u.host ++ u.portText

/-- The address of the URL, for the canonical form of its host. -/
def BaseUrl.address (u : BaseUrl) (host : String) : Address :=
  ⟨lowerScheme u.scheme, host, u.port.bind portNumber⟩

/-- The documented behaviour of the two parsers: an IPv6 address is written with colons, and a base URL
leads to its host, whose canonical form depends on the host alone, by its scheme and its port. -/
structure UriLibrary.ReadsBaseUrls (library : UriLibrary) : Prop where
  colon_mem : ∀ text, library.isIpv6 text = true → ':' ∈ text.toList
  addressOf : ∃ canonicalHost : String → Option String,
    ∀ u : BaseUrl, library.addressOf u.text = (canonicalHost u.host).map u.address

/-! ## The split of a base URL -/

/-- The port a device gets. -/
def BaseUrl.migratedPort (u : BaseUrl) : ℕ :=
  u.port.elim 8554 fun digits => digitsValue (digits.toList.take 10)

theorem isHostChar_ne {c d : Char} (h : isHostChar c = true)
    (hd : d ∈ [':', '/', '\\', '?', '#', '@', '[', ']', '%']) : c ≠ d := by
  rintro rfl
  simp only [isHostChar, Bool.and_eq_true, Bool.not_eq_true'] at h
  rw [List.contains_iff_mem.2 hd] at h
  exact absurd h.1.2 Bool.noConfusion

namespace BaseUrl

variable (u : BaseUrl)

theorem mem_portText {c : Char} (h : c ∈ u.portText.toList) : c = ':' ∨ c.isDigit = true := by
  unfold portText at h
  cases hport : u.port with
  | none => simp [hport] at h
  | some digits =>
    rw [hport, Option.elim_some, String.toList_append, List.mem_append] at h
    rcases h with hcolon | hdigit
    · exact .inl (by simpa using hcolon)
    · exact .inr (u.port_digits digits hport c hdigit)

/-- A bracket or a slash is in neither the host nor the port. -/
theorem not_mem_rest {c d : Char} (hd : d ∈ ['/', '[']) (h : c ∈ u.host.toList ++ u.portText.toList) :
    c ≠ d := by
  obtain ⟨hreserved, hcolon, hdigit⟩ : d ∈ [':', '/', '\\', '?', '#', '@', '[', ']', '%'] ∧ d ≠ ':' ∧
      d.isDigit = false := by
    simp only [List.mem_cons, List.not_mem_nil, or_false] at hd
    rcases hd with rfl | rfl
    · decide
    · decide
  rcases List.mem_append.1 h with hhost | hport
  · exact isHostChar_ne (u.host_chars c hhost) hreserved
  · rintro rfl
    rcases u.mem_portText hport with heq | heq
    · exact hcolon heq
    · simp [hdigit] at heq

theorem colon_not_mem_host : ':' ∉ u.host.toList :=
  fun h => isHostChar_ne (u.host_chars ':' h) (by decide) rfl

theorem toList_text : u.text.toList =
    u.scheme.toList ++ "://".toList ++ (u.host.toList ++ u.portText.toList) := by
  simp [text]

theorem map_toLower_scheme : u.scheme.toList.map Char.toLower = (lowerScheme u.scheme).toList := by
  rw [lowerScheme, String.toList_ofList]

theorem bracket_not_mem_text : '[' ∉ u.text.toList := by
  rw [toList_text]
  intro h
  rcases List.mem_append.1 h with hscheme | hrest
  · have hlower : '[' ∈ (u.scheme.toList ++ "://".toList).map Char.toLower :=
      List.mem_map.2 ⟨'[', hscheme, by decide⟩
    rw [List.map_append, map_toLower_scheme] at hlower
    rcases u.scheme_eq with heq | heq <;> rw [heq] at hlower <;> revert hlower <;> decide
  · exact u.not_mem_rest (by decide) hrest rfl

/-- Neither pattern occurs behind the scheme. -/
theorem replaceEmpty_rest {pattern : List Char} (hslash : '/' ∈ pattern) :
    replaceEmpty (u.host.toList ++ u.portText.toList) pattern = u.host.toList ++ u.portText.toList := by
  refine replaceEmpty_of_not_mem hslash fun c hc hlower => ?_
  exact u.not_mem_rest (by decide) hc (eq_of_toLower_eq (by decide) hlower)

/-- The scheme is dropped. -/
theorem remainder_eq : replaceEmpty (replaceEmpty u.text.toList "rtsps://".toList) "rtsp://".toList =
    u.host.toList ++ u.portText.toList := by
  rw [toList_text]
  have hne : u.scheme.toList ++ "://".toList ≠ [] := by simp
  have hdrop : ∀ pattern, (u.scheme.toList ++ "://".toList).map Char.toLower = pattern →
      pattern.map Char.toLower = pattern → '/' ∈ pattern →
      replaceEmpty (u.scheme.toList ++ "://".toList ++ (u.host.toList ++ u.portText.toList)) pattern =
        u.host.toList ++ u.portText.toList := by
    intro pattern hstart hlower hslash
    rw [replaceEmpty_append hne (hstart.trans hlower.symm), u.replaceEmpty_rest hslash]
  have hstart : (u.scheme.toList ++ "://".toList).map Char.toLower =
      (lowerScheme u.scheme).toList ++ "://".toList := by
    rw [List.map_append, map_toLower_scheme]
    congr 1
  rcases u.scheme_eq with heq | heq
  · -- the longer pattern does not match the shorter scheme
    have hkeep : replaceEmpty (u.scheme.toList ++ "://".toList ++ (u.host.toList ++ u.portText.toList))
        "rtsps://".toList = u.scheme.toList ++ "://".toList ++ (u.host.toList ++ u.portText.toList) := by
      have hletters : u.scheme.toList.map Char.toLower = ['r', 't', 's', 'p'] := by
        rw [map_toLower_scheme, heq]
        rfl
      generalize hrest : u.host.toList ++ u.portText.toList = rest
      simp only [List.map_eq_cons_iff, List.map_eq_nil_iff] at hletters
      obtain ⟨a, _, hscheme, ha, b, _, rfl, hb, c, _, rfl, hc, d, _, rfl, hd, rfl⟩ := hletters
      have hsplit : [a, b, c, d] ++ "://".toList ++ rest = a :: b :: c :: d :: ':' :: '/' :: '/' :: rest :=
        rfl
      have hpattern : "rtsps://".toList = ['r', 't', 's', 'p', 's', ':', '/', '/'] := rfl
      rw [hscheme, hsplit, hpattern, replaceEmpty_cons a, replaceEmpty_cons b, replaceEmpty_cons c,
        replaceEmpty_cons d, replaceEmpty_cons ':', replaceEmpty_cons '/', replaceEmpty_cons '/', ← hrest,
        u.replaceEmpty_rest (by decide)]
      · exact startsWith_of_ne (by decide)
      · exact startsWith_of_ne (by decide)
      · exact startsWith_of_ne (by decide)
      · exact startsWith_of_ne (by rw [hd]; decide)
      · exact startsWith_of_ne (by rw [hc]; decide)
      · exact startsWith_of_ne (by rw [hb]; decide)
      · simp [startsWith, sameText, ha, hb, hc, hd]
    rw [hkeep, hdrop _ (by rw [hstart, heq]; rfl) (by decide) (by decide)]
  · rw [hdrop _ (by rw [hstart, heq]; rfl) (by decide) (by decide), u.replaceEmpty_rest (by decide)]

/-! ## The columns a device gets -/

theorem migratedPort_le : u.migratedPort ≤ 65535 := by
  unfold migratedPort
  cases hport : u.port with
  | none => decide
  | some digits => exact (digitsValue_take_le digits.toList 10).trans (u.port_le digits hport)

/-- The port read behind the host. -/
theorem tryCastInt_port {digits : String} (hport : u.port = some digits) :
    tryCastInt (digits.toList.take 10) = some (u.migratedPort : ℤ) := by
  have hvalue : u.migratedPort = digitsValue (digits.toList.take 10) := by
    rw [migratedPort, hport]
    rfl
  have hle := u.migratedPort_le
  rw [hvalue] at hle ⊢
  refine tryCastInt_of_digits (fun c hc => u.port_digits digits hport c (List.mem_of_mem_take hc)) ?_
  exact lt_of_le_of_lt hle (by decide)

/-- The two statements on a device whose base URL has the plain form. -/
theorem backfillDevice_text {d : DeviceRow} (h : d.annotatedOutputBaseUrl = some u.text) :
    backfillDevice d =
      if jetsonHostMaxLength < DotNet.length u.host then none
      else some { d with jetsonHost := some u.host, rtspOutputPort := some (u.migratedPort : ℤ) } := by
  unfold backfillDevice splitBaseUrl
  simp only [h, ne_eq, not_true_eq_false, false_or, if_neg u.bracket_not_mem_text, u.remainder_eq]
  cases hport : u.port with
  | none =>
    have htext : u.portText = "" := by rw [portText, hport, Option.elim_none]
    have hmigrated : u.migratedPort = 8554 := by rw [migratedPort, hport, Option.elim_none]
    rw [htext, hmigrated, String.toList_empty, List.append_nil, charIndex_of_not_mem u.colon_not_mem_host]
    simp only [lt_irrefl, if_false, String.ofList_toList]
    split <;> rfl
  | some digits =>
    have htext : u.portText.toList = ':' :: digits.toList := by
      simp [portText, hport]
    rw [htext, charIndex_append u.colon_not_mem_host]
    simp only [Nat.succ_pos, if_true, left_append, substring_append, u.tryCastInt_port hport,
      String.ofList_toList]
    split <;> rfl

theorem migrated_digits : ∀ digits ∈ some (toString u.migratedPort), ∀ c ∈ digits.toList,
    c.isDigit = true := by
  rintro _ ⟨⟩ c hc
  exact DotNet.isDigit_of_mem_toString hc

theorem migrated_le : ∀ digits ∈ some (toString u.migratedPort), digitsValue digits.toList ≤ 65535 := by
  rintro _ ⟨⟩
  rw [digitsValue, DotNet.ofDigitChars_toString]
  exact u.migratedPort_le

theorem lowerScheme_rtsp : lowerScheme "rtsp" = "rtsp" ∨ lowerScheme "rtsp" = "rtsps" := .inl rfl

/-- The URL composed from the new columns. -/
def migrated : BaseUrl :=
  ⟨"rtsp", u.host, some (toString u.migratedPort), lowerScheme_rtsp, u.host_ne, u.host_chars,
    u.migrated_digits, u.migrated_le⟩

theorem migrated_address (host : String) :
    u.migrated.address host = ⟨"rtsp", host, some u.migratedPort⟩ := by
  have hne : toString u.migratedPort ≠ "" := by
    intro h
    exact DotNet.toString_toList_ne_nil u.migratedPort (by rw [h]; rfl)
  simp only [address, migrated, Option.bind_some, portNumber, if_neg hne, digitsValue,
    DotNet.ofDigitChars_toString]
  rfl

/-! ## The address -/

variable {library : UriLibrary}

/-- What a device composes whose two columns come from the URL. -/
theorem compose_migrated (hlibrary : library.ReadsBaseUrls) {d : NetworkDeviceRow}
    (hhost : d.jetsonHost = some u.host) (hport : d.rtspOutputPort = some (u.migratedPort : ℤ)) :
    d.composeAnnotatedOutputBase library = some u.migrated.text := by
  have hname : library.isIpv6 u.host = false := by
    rw [Bool.eq_false_iff]
    exact fun h => u.colon_not_mem_host (hlibrary.colon_mem _ h)
  have htext : u.migrated.text = "rtsp://" ++ u.host ++ (":" ++ toString u.migratedPort) := rfl
  have hnumber : toString (u.migratedPort : ℤ) = toString u.migratedPort := rfl
  rw [NetworkDeviceRow.composeAnnotatedOutputBase, hhost, hport, htext]
  simp only [hname, Bool.false_eq_true, if_false, Option.getD_some, hnumber, String.append_assoc]

/-- The migration keeps where the URL leads. -/
structure Kept : Prop where
  scheme : lowerScheme u.scheme = "rtsp"
  host : DotNet.length u.host ≤ jetsonHostMaxLength
  port : ∃ digits, u.port = some digits ∧ digits ≠ "" ∧
    (digits.length ≤ 10 ∨ digitsValue digits.toList = 0)

theorem migrated_address_eq_iff (host : String) : u.migrated.address host = u.address host ↔
    lowerScheme u.scheme = "rtsp" ∧ ∃ digits, u.port = some digits ∧ digits ≠ "" ∧
      (digits.length ≤ 10 ∨ digitsValue digits.toList = 0) := by
  rw [migrated_address, address, Address.mk.injEq]
  cases hport : u.port with
  | none => simp
  | some digits =>
    have hmigrated : u.migratedPort = digitsValue (digits.toList.take 10) := by
      rw [migratedPort, hport, Option.elim_some]
    have htake := @digitsValue_take_eq_iff digits.toList 10
    rw [String.length_toList] at htake
    by_cases hempty : digits = ""
    · simp [portNumber, hempty]
    · simp [portNumber, hempty, hmigrated, htake, @eq_comm _ "rtsp"]

end BaseUrl

/-! ## Devices -/

section Devices

variable {library : UriLibrary} {d : DeviceRow} {d' : NetworkDeviceRow}

/-- The address a device composes is the one its base URL leads to. -/
def NetworkDeviceRow.AddressKept (library : UriLibrary) (d : NetworkDeviceRow) : Prop :=
  (d.composeAnnotatedOutputBase library).bind library.addressOf =
    d.annotatedOutputBaseUrl.bind library.addressOf

instance (library : UriLibrary) (d : NetworkDeviceRow) : Decidable (d.AddressKept library) :=
  inferInstanceAs (Decidable ((d.composeAnnotatedOutputBase library).bind library.addressOf =
    d.annotatedOutputBaseUrl.bind library.addressOf))

/-- A base URL with a bracketed host, or of the plain form. -/
def PlainUrl (url : String) : Prop := '[' ∈ url.toList ∨ ∃ u : BaseUrl, u.text = url

/-- A base URL whose address the migration keeps. -/
def KeptUrl (url : String) : Prop := '[' ∈ url.toList ∨ ∃ u : BaseUrl, u.text = url ∧ u.Kept

theorem ok_of_check {condition : Prop} [Decidable condition] {error : BaseUrlError}
    {result : Except BaseUrlError (Option String)} {value : Option String}
    (h : (if condition then .error error else result) = .ok value) : result = .ok value := by
  by_cases hcondition : condition
  · rw [if_pos hcondition] at h
    cases h
  · rwa [if_neg hcondition] at h

/-- What the setter stores is a URI. -/
theorem exists_addressOf {baseUrl : Option String} {url : String}
    (h : setAnnotatedOutputBaseUrl library baseUrl = .ok (some url)) :
    ∃ address, library.addressOf url = some address := by
  unfold setAnnotatedOutputBaseUrl at h
  cases baseUrl with
  | none => cases h
  | some text =>
    simp only at h
    by_cases hblank : DotNet.isNullOrWhiteSpace text = true
    · rw [if_pos hblank] at h
      cases h
    · rw [if_neg hblank] at h
      have h := ok_of_check h
      split at h
      · cases h
      · rename_i uri hcreate
        have h := ok_of_check (ok_of_check (ok_of_check (ok_of_check (ok_of_check (ok_of_check h)))))
        rw [Except.ok.injEq, Option.some.injEq] at h
        rw [h] at hcreate
        exact ⟨uri.address, by rw [UriLibrary.addressOf, hcreate, Option.map_some]⟩

/-- A device without a URL to split keeps its null columns. -/
theorem backfillDevice_of_bracket (h : ∀ url ∈ d.annotatedOutputBaseUrl, '[' ∈ url.toList) :
    backfillDevice d = some { d with jetsonHost := none, rtspOutputPort := none } := by
  unfold backfillDevice splitBaseUrl
  cases hurl : d.annotatedOutputBaseUrl with
  | none => simp [defaultPort]
  | some url => simp [h url hurl, defaultPort]

theorem backfillDevice_of_kept (hlibrary : library.ReadsBaseUrls)
    (h : ∀ url ∈ d.annotatedOutputBaseUrl, KeptUrl url) :
    ∃ d', backfillDevice d = some d' ∧ d'.toDeviceRow = d ∧ d'.AddressKept library := by
  by_cases hbracket : ∀ url ∈ d.annotatedOutputBaseUrl, '[' ∈ url.toList
  · exact ⟨_, backfillDevice_of_bracket hbracket, rfl, rfl⟩
  · push Not at hbracket
    obtain ⟨_, hurl, hnone⟩ := hbracket
    obtain ⟨u, rfl, hkept⟩ := (h _ hurl).resolve_left hnone
    obtain ⟨canonicalHost, haddress⟩ := hlibrary.addressOf
    refine ⟨{ d with jetsonHost := some u.host, rtspOutputPort := some (u.migratedPort : ℤ) }, ?_, rfl, ?_⟩
    · rw [u.backfillDevice_text hurl, if_neg (Nat.not_lt.2 hkept.host)]
    · have hsame : u.migrated.address = u.address :=
        funext fun host => (u.migrated_address_eq_iff host).2 ⟨hkept.scheme, hkept.port⟩
      rw [NetworkDeviceRow.AddressKept, u.compose_migrated hlibrary rfl rfl, Option.bind_some, haddress,
        hsame, hurl, Option.bind_some, haddress]
      rfl

theorem keptUrl_of_backfillDevice (hlibrary : library.ReadsBaseUrls) {baseUrl : Option String}
    (haccepted : setAnnotatedOutputBaseUrl library baseUrl = .ok d.annotatedOutputBaseUrl)
    (hplain : ∀ url ∈ d.annotatedOutputBaseUrl, PlainUrl url) (h : backfillDevice d = some d')
    (hkept : d'.AddressKept library) : ∀ url ∈ d.annotatedOutputBaseUrl, KeptUrl url := by
  intro url hurl
  rcases hplain url hurl with hbracket | ⟨u, rfl⟩
  · exact .inl hbracket
  · refine .inr ⟨u, rfl, ?_⟩
    rw [u.backfillDevice_text hurl] at h
    split_ifs at h with hlong
    cases h
    obtain ⟨canonicalHost, haddress⟩ := hlibrary.addressOf
    obtain ⟨address, hsome⟩ := exists_addressOf (hurl ▸ haccepted)
    -- the host is valid, for the setter has read it
    rw [haddress] at hsome
    obtain ⟨host, hhost, -⟩ := Option.map_eq_some_iff.1 hsome
    rw [NetworkDeviceRow.AddressKept, u.compose_migrated hlibrary rfl rfl, Option.bind_some, haddress,
      hurl, Option.bind_some, haddress, show u.migrated.host = u.host from rfl, hhost, Option.map_some,
      Option.map_some, Option.some.injEq, u.migrated_address_eq_iff] at hkept
    exact ⟨hkept.1, Nat.not_lt.1 hlong, hkept.2⟩

end Devices

/-! ## Cameras -/

/-- The key a Camera gets. -/
def migratedKey (cameraId : Guid) : String :=
  if cameraId = frontCameraId then "front-camera"
  else if cameraId = rearCameraId then "rear-entrance"
  else uuidText cameraId

theorem uuidText_ne_of_length {u : Guid} {key : String} (h : key.length ≠ 36) : uuidText u ≠ key := by
  rintro rfl
  exact h (by rw [← String.length_toList, length_uuidText])

theorem approveCameraKey_of_ne {cameraId : Guid} {key : String} {c : Camera} (h : c.cameraId ≠ cameraId) :
    approveCameraKey cameraId key c = c := if_neg fun heq => h heq.1

theorem backfillCamera_eq (c : OrderedCameraRow) : backfillCamera c =
    ⟨c.cameraId, c.branchId, c.name, c.rtspUrl, c.enabled, migratedKey c.cameraId, c.sourceOrder⟩ := by
  obtain ⟨⟨cameraId, branchId, name, rtspUrl, enabled⟩, sourceOrder⟩ := c
  unfold backfillCamera migratedKey
  by_cases hfront : cameraId = frontCameraId
  · subst hfront
    rfl
  · rw [@approveCameraKey_of_ne frontCameraId, if_neg hfront]
    · by_cases hrear : cameraId = rearCameraId
      · subst hrear
        rfl
      · rw [approveCameraKey_of_ne hrear, if_neg hrear]
        rfl
    · exact hfront

theorem migratedKey_eq_front_iff {u : Guid} : migratedKey u = "front-camera" ↔ u = frontCameraId := by
  unfold migratedKey
  split_ifs with hfront hrear
  · simp [hfront]
  · simp [hfront]
  · simp [hfront, uuidText_ne_of_length (show "front-camera".length ≠ 36 by decide)]

theorem migratedKey_eq_rear_iff {u : Guid} : migratedKey u = "rear-entrance" ↔ u = rearCameraId := by
  unfold migratedKey
  split_ifs with hfront hrear
  · simp [hfront, show frontCameraId ≠ rearCameraId by decide]
  · simp [hrear]
  · simp [hrear, uuidText_ne_of_length (show "rear-entrance".length ≠ 36 by decide)]

/-- Two Cameras never get one key. -/
theorem migratedKey_injective : Function.Injective migratedKey := by
  intro a b h
  by_cases hfront : a = frontCameraId
  · rw [hfront, migratedKey_eq_front_iff.2 rfl] at h
    rw [hfront, migratedKey_eq_front_iff.1 h.symm]
  by_cases hrear : a = rearCameraId
  · rw [hrear, migratedKey_eq_rear_iff.2 rfl] at h
    rw [hrear, migratedKey_eq_rear_iff.1 h.symm]
  have hfront' : b ≠ frontCameraId :=
    fun heq => hfront (migratedKey_eq_front_iff.1 (h.trans (migratedKey_eq_front_iff.2 heq)))
  have hrear' : b ≠ rearCameraId :=
    fun heq => hrear (migratedKey_eq_rear_iff.1 (h.trans (migratedKey_eq_rear_iff.2 heq)))
  rw [migratedKey, migratedKey, if_neg hfront, if_neg hrear, if_neg hfront', if_neg hrear'] at h
  exact uuidText_injective h

/-! ## Valid keys -/

/-- Neither a letter nor a digit of a key is white space. -/
theorem isWhiteSpace_of_alphanumeric {c : Char} (h : isCameraKeyAlphanumeric c = true) :
    DotNet.isWhiteSpace c = false := by
  have hrange : 48 ≤ c.toNat ∧ c.toNat ≤ 122 ∧ c.toNat ≠ 0x85 := by
    simp only [isCameraKeyAlphanumeric, Bool.or_eq_true, Bool.and_eq_true, decide_eq_true_eq] at h
    rcases h with ⟨ha, hz⟩ | ⟨h0, h9⟩
    · have hlow : 97 ≤ c.toNat := UInt32.le_iff_toNat_le.mp ha
      have hhigh : c.toNat ≤ 122 := UInt32.le_iff_toNat_le.mp hz
      omega
    · have hlow : 48 ≤ c.toNat := UInt32.le_iff_toNat_le.mp h0
      have hhigh : c.toNat ≤ 57 := UInt32.le_iff_toNat_le.mp h9
      omega
  have hnotMem : c.toNat ∉ [0x20, 0x85, 0xa0, 0x1680, 0x2028, 0x2029, 0x202f, 0x205f, 0x3000] := by
    simp only [List.mem_cons, List.not_mem_nil, or_false]
    omega
  have hcontains : [0x20, 0x85, 0xa0, 0x1680, 0x2028, 0x2029, 0x202f, 0x205f, 0x3000].contains c.toNat =
      false := by
    rw [Bool.eq_false_iff]
    exact fun h => hnotMem (List.contains_iff_mem.1 h)
  unfold DotNet.isWhiteSpace
  rw [hcontains, decide_eq_false (show ¬ c.toNat ≤ 0xd by omega),
    decide_eq_false (show ¬ 0x2000 ≤ c.toNat by omega)]
  simp

/-- A text of the pattern that is not reserved is a key as it stands. -/
theorem requireCameraKey_of_matches {key : String} (hmatch : matchesCameraKeyPattern key = true)
    (hreserved : key ∉ reservedCameraKeys) : requireCameraKey key = some key := by
  have hlength := length_of_matchesCameraKeyPattern hmatch
  have hparts := hmatch
  simp only [matchesCameraKeyPattern, Bool.and_eq_true, decide_eq_true_eq, Option.any_eq_true] at hparts
  obtain ⟨⟨⟨⟨hmin, hmax⟩, -⟩, first, hfirst, hfirst'⟩, last, hlast, hlast'⟩ := hparts
  have htrim : DotNet.trim key = key := by
    rw [trim_eq_self_iff]
    constructor
    · intro c hc
      rw [hfirst, Option.mem_some_iff] at hc
      exact hc ▸ isWhiteSpace_of_alphanumeric hfirst'
    · intro c hc
      rw [hlast, Option.mem_some_iff] at hc
      exact hc ▸ isWhiteSpace_of_alphanumeric hlast'
  have hne : key ≠ "" := by
    rintro rfl
    cases hfirst
  rw [requireCameraKey, if_neg (by rwa [isNullOrWhiteSpace_iff, htrim])]
  simp only [htrim]
  rw [if_neg (by omega), if_neg (by simp [hmatch]), if_neg (by simp [hreserved])]

theorem alphanumeric_of_isHexChar {c : Char} (h : IsHexChar c) : isCameraKeyAlphanumeric c = true := by
  have hall : ∀ d < 16, isCameraKeyAlphanumeric (hexChar d) = true := by decide
  obtain ⟨d, hd, rfl⟩ := h
  exact hall d hd

/-- The text of a GUID has the pattern of a key. -/
theorem matchesCameraKeyPattern_uuidText (u : Guid) : matchesCameraKeyPattern (uuidText u) = true := by
  have hlength : (uuidText u).length = 36 := by rw [← String.length_toList, length_uuidText]
  have hchars : ∀ c ∈ (uuidText u).toList, isCameraKeyAlphanumeric c = true ∨ c = '-' := by
    intro c hc
    simp only [uuidText, String.toList_ofList, List.mem_append, List.mem_cons,
      or_assoc] at hc
    have hhex : ∀ hi count, c ∈ hexDigitsFrom u.toNat hi count →
        isCameraKeyAlphanumeric c = true ∨ c = '-' :=
      fun _ _ h => .inl (alphanumeric_of_isHexChar (isHexChar_of_mem h))
    rcases hc with h | rfl | h | rfl | h | rfl | h | rfl | h
    all_goals first
      | exact .inr rfl
      | exact hhex _ _ h
  have hfirst : ∃ c, (uuidText u).toList.head? = some c ∧ isCameraKeyAlphanumeric c = true := by
    have hgroup := length_hexDigitsFrom u.toNat 31 8
    cases hdigits : hexDigitsFrom u.toNat 31 8 with
    | nil => simp [hdigits] at hgroup
    | cons c rest =>
      refine ⟨c, ?_, alphanumeric_of_isHexChar (isHexChar_of_mem (hdigits ▸ List.mem_cons_self))⟩
      simp [uuidText, hdigits]
  have hlast : ∃ c, (uuidText u).toList.getLast? = some c ∧ isCameraKeyAlphanumeric c = true := by
    have hgroup := length_hexDigitsFrom u.toNat 11 12
    cases hdigits : (hexDigitsFrom u.toNat 11 12).getLast? with
    | none =>
      rw [List.getLast?_eq_none_iff] at hdigits
      simp [hdigits] at hgroup
    | some c =>
      refine ⟨c, ?_, alphanumeric_of_isHexChar (isHexChar_of_mem (List.mem_of_getLast? hdigits))⟩
      simp [uuidText, List.getLast?_append, List.getLast?_cons, hdigits]
  simp only [matchesCameraKeyPattern, Bool.and_eq_true, decide_eq_true_eq, Option.any_eq_true,
    List.all_eq_true, Bool.or_eq_true, beq_iff_eq, hlength]
  exact ⟨⟨⟨by decide, hchars⟩, hfirst⟩, hlast⟩

theorem requireCameraKey_migratedKey (u : Guid) : requireCameraKey (migratedKey u) = some (migratedKey u) := by
  unfold migratedKey
  split_ifs
  · exact requireCameraKey_of_matches (by decide +kernel) (by decide +kernel)
  · exact requireCameraKey_of_matches (by decide +kernel) (by decide +kernel)
  · refine requireCameraKey_of_matches (matchesCameraKeyPattern_uuidText u) ?_
    have hshort : ∀ key ∈ reservedCameraKeys, key.length ≠ 36 := by decide +kernel
    exact fun h => uuidText_ne_of_length (hshort _ h) rfl

/-! ## A parser of base URLs -/

/-- `Uri.TryCreate` on texts without user info, query, fragment and path. -/
def tryCreateBaseUrl (text : String) : Option Uri :=
  let rest := text.toList.dropWhile (· ≠ ':')
  if "://".toList.isPrefixOf rest then
    let authority := rest.drop 3
    some
      { address :=
          { scheme := lowerScheme (String.ofList (text.toList.takeWhile (· ≠ ':')))
            host := lowerScheme (String.ofList (authority.takeWhile (· ≠ ':')))
            port := portNumber (String.ofList ((authority.dropWhile (· ≠ ':')).drop 1)) }
        userInfo := "", query := "", fragment := "", absolutePath := "/" }
  else none

/-- The parsers on host names and IPv4 addresses. -/
def plainLibrary : UriLibrary := ⟨tryCreateBaseUrl, fun text => text.toList.contains ':'⟩

theorem takeWhile_colon {text rest : List Char} (h : ':' ∉ text) :
    (text ++ ':' :: rest).takeWhile (· ≠ ':') = text := by
  rw [List.takeWhile_append_of_pos, List.takeWhile_cons_of_neg (by simp), List.append_nil]
  intro c hc
  simp only [ne_eq, decide_not, Bool.not_eq_true', decide_eq_false_iff_not]
  exact fun heq => h (heq ▸ hc)

theorem dropWhile_colon {text rest : List Char} (h : ':' ∉ text) :
    (text ++ ':' :: rest).dropWhile (· ≠ ':') = ':' :: rest := by
  rw [List.dropWhile_append_of_pos, List.dropWhile_cons_of_neg (by simp)]
  intro c hc
  simp only [ne_eq, decide_not, Bool.not_eq_true', decide_eq_false_iff_not]
  exact fun heq => h (heq ▸ hc)

theorem BaseUrl.colon_not_mem_scheme (u : BaseUrl) : ':' ∉ u.scheme.toList := by
  intro h
  have hlower : ':' ∈ u.scheme.toList.map Char.toLower := List.mem_map.2 ⟨':', h, by decide⟩
  rw [u.map_toLower_scheme] at hlower
  rcases u.scheme_eq with heq | heq <;> rw [heq] at hlower <;> revert hlower <;> decide

theorem plainLibrary_readsBaseUrls : plainLibrary.ReadsBaseUrls := by
  refine ⟨fun text h => List.contains_iff_mem.1 h, fun host => some (lowerScheme host), fun u => ?_⟩
  have hsplit : u.text.toList = u.scheme.toList ++ ':' :: '/' :: '/' :: (u.host.toList ++ u.portText.toList) := by
    rw [u.toList_text, List.append_assoc]
    rfl
  have hauthority : (u.host.toList ++ u.portText.toList).takeWhile (· ≠ ':') = u.host.toList ∧
      portNumber (String.ofList (((u.host.toList ++ u.portText.toList).dropWhile (· ≠ ':')).drop 1)) =
        u.port.bind portNumber := by
    cases hport : u.port with
    | none =>
      have hplain : ∀ c ∈ u.host.toList, decide (c ≠ ':') = true := by
        intro c hc
        rw [decide_eq_true_iff]
        rintro rfl
        exact u.colon_not_mem_host hc
      rw [BaseUrl.portText, hport, Option.elim_none, String.toList_empty, List.append_nil,
        List.takeWhile_eq_self_iff.2 hplain, List.dropWhile_eq_nil_iff.2 hplain]
      exact ⟨rfl, rfl⟩
    | some digits =>
      have htext : u.portText.toList = ':' :: digits.toList := by
        simp [BaseUrl.portText, hport]
      rw [htext, takeWhile_colon u.colon_not_mem_host, dropWhile_colon u.colon_not_mem_host]
      simp
  simp only [UriLibrary.addressOf, plainLibrary, tryCreateBaseUrl, hsplit, takeWhile_colon u.colon_not_mem_scheme, dropWhile_colon u.colon_not_mem_scheme]
  rw [if_pos (by rfl)]
  simp only [List.drop_succ_cons, List.drop_zero, hauthority.1, hauthority.2, String.ofList_toList,
    Option.map_some]
  rfl

/-! ## The tables -/

section Tables

variable {α β : Type} {f : α → Option β} {l : List α}

theorem mapM_cons_eq_some_iff {a : α} {l' : List β} :
    (a :: l).mapM f = some l' ↔ ∃ b bs, f a = some b ∧ l.mapM f = some bs ∧ l' = b :: bs := by
  simp only [List.mapM_cons, Option.bind_eq_bind, Option.pure_def, Option.bind_eq_some_iff,
    Option.some.injEq]
  constructor
  · rintro ⟨b, hb, bs, hbs, rfl⟩
    exact ⟨b, bs, hb, hbs, rfl⟩
  · rintro ⟨b, bs, hb, hbs, rfl⟩
    exact ⟨b, hb, bs, hbs, rfl⟩

/-- Every row is a row it was made of. -/
theorem exists_of_mapM {l' : List β} (h : l.mapM f = some l') :
    (∀ a ∈ l, ∃ b ∈ l', f a = some b) ∧ ∀ b ∈ l', ∃ a ∈ l, f a = some b := by
  induction l generalizing l' with
  | nil =>
    cases h
    simp
  | cons a l ih =>
    obtain ⟨b, bs, hb, hbs, rfl⟩ := mapM_cons_eq_some_iff.1 h
    obtain ⟨hleft, hright⟩ := ih hbs
    constructor
    · intro a' ha'
      rcases List.mem_cons.1 ha' with rfl | hmem
      · exact ⟨b, List.mem_cons_self, hb⟩
      · obtain ⟨b', hb', heq⟩ := hleft a' hmem
        exact ⟨b', List.mem_cons_of_mem b hb', heq⟩
    · intro b' hb'
      rcases List.mem_cons.1 hb' with rfl | hmem
      · exact ⟨a, List.mem_cons_self, hb⟩
      · obtain ⟨a', ha', heq⟩ := hright b' hmem
        exact ⟨a', List.mem_cons_of_mem a ha', heq⟩

/-- A table whose rows can all be rewritten, each from the row it came from. -/
theorem exists_mapM (g : β → α) (h : ∀ a ∈ l, ∃ b, f a = some b ∧ g b = a) :
    ∃ l', l.mapM f = some l' ∧ l'.map g = l := by
  induction l with
  | nil => exact ⟨[], rfl, rfl⟩
  | cons a l ih =>
    obtain ⟨b, hb, hg⟩ := h a List.mem_cons_self
    obtain ⟨bs, hbs, hgs⟩ := ih fun a ha => h a (List.mem_cons_of_mem _ ha)
    exact ⟨b :: bs, mapM_cons_eq_some_iff.2 ⟨b, bs, hb, hbs, rfl⟩, by rw [List.map_cons, hg, hgs]⟩

end Tables

/-- What the migrations promise of the rows they leave. -/
structure Preserved (library : UriLibrary) (cameras : List CameraRow) (devices : List DeviceRow)
    (cameras' : List Camera) (devices' : List NetworkDeviceRow) : Prop where
  cameraKeys : ∀ c ∈ cameras', requireCameraKey c.cameraKey = some c.cameraKey
  unique : UniqueRows cameras'
  cameraColumns : cameras'.map cameraRow = cameras
  deviceColumns : devices'.map NetworkDeviceRow.toDeviceRow = devices
  addresses : ∀ d ∈ devices', d.AddressKept library

/-- The migrations succeed and keep that promise. -/
def MigrationPreserves (library : UriLibrary) (cameras : List CameraRow) (devices : List DeviceRow) : Prop :=
  ∃ cameras' devices', migrate cameras devices = some (cameras', devices') ∧
    Preserved library cameras devices cameras' devices'

/-- The tables the migrations are right on. -/
structure Upgradable (cameras : List CameraRow) (devices : List DeviceRow) : Prop where
  oneCamera : (cameras.map CameraRow.branchId).Nodup
  urls : ∀ d ∈ devices, ∀ url ∈ d.annotatedOutputBaseUrl, KeptUrl url

/-- The row the two migrations make of a Camera. -/
def migratedCamera (c : CameraRow) : Camera :=
  ⟨c.cameraId, c.branchId, c.name, c.rtspUrl, c.enabled, migratedKey c.cameraId, 0⟩

section Migrate

variable {cameras : List CameraRow} {devices : List DeviceRow} {cameras' : List Camera}
  {devices' : List NetworkDeviceRow}

theorem map_backfillCamera :
    (cameras.map fun c => { c with sourceOrder := 0 }).map backfillCamera = cameras.map migratedCamera := by
  rw [List.map_map]
  exact List.map_congr_left fun c _ => backfillCamera_eq _

/-- Whatever the migrations succeed on, these are the rows. -/
theorem of_migrate (h : migrate cameras devices = some (cameras', devices')) :
    cameras' = cameras.map migratedCamera ∧ devices.mapM backfillDevice = some devices' := by
  unfold migrate addCameraSourceOrder addCameraKeyAndDeviceNetwork at h
  obtain ⟨rows, hrows, h⟩ := Option.bind_eq_some_iff.1 h
  obtain ⟨-, -, hrows⟩ := Option.bind_eq_some_iff.1 hrows
  cases hrows
  obtain ⟨_, hdevices, h⟩ := Option.bind_eq_some_iff.1 h
  obtain ⟨-, -, h⟩ := Option.bind_eq_some_iff.1 h
  cases h
  exact ⟨map_backfillCamera, hdevices⟩

/-- One Camera a Branch: neither index has anything to object to. -/
theorem migrate_of_oneCamera (hcameras : (cameras.map CameraRow.branchId).Nodup)
    (hdevices : devices.mapM backfillDevice = some devices') :
    migrate cameras devices = some (cameras.map migratedCamera, devices') := by
  have hbranches : cameras.Pairwise fun c c' => c.branchId ≠ c'.branchId := by
    rwa [List.Nodup, List.pairwise_map] at hcameras
  have hsource : createUniqueIndex (fun c : OrderedCameraRow => (c.branchId, c.sourceOrder))
      ((cameras.map fun c => { c with sourceOrder := 0 }).filter (·.enabled)) = some () := by
    refine if_pos (List.pairwise_map.2 ((List.pairwise_map.2 ?_).filter _))
    exact hbranches.imp fun hne heq => hne (Prod.mk.inj heq).1
  have hkeys : createUniqueIndex (fun c : Camera => (c.branchId, c.cameraKey))
      (cameras.map migratedCamera) = some () := by
    refine if_pos (List.pairwise_map.2 (List.pairwise_map.2 ?_))
    exact hbranches.imp fun hne heq => hne (Prod.mk.inj heq).1
  unfold migrate addCameraSourceOrder addCameraKeyAndDeviceNetwork
  simp only [hsource, map_backfillCamera, hdevices, hkeys, Option.bind_eq_bind, Option.bind_some,
    Option.pure_def]

/-- All Cameras get the same source order, so unique ones are one a Branch. -/
theorem oneCamera_of_sourceOrders
    (h : ∀ b, (((cameras.map migratedCamera).filter (·.branchId = b)).map Camera.sourceOrder).Nodup) :
    (cameras.map CameraRow.branchId).Nodup := by
  rw [List.nodup_iff_count_le_one]
  intro b
  have hzero : ((cameras.map migratedCamera).filter (·.branchId = b)).map Camera.sourceOrder =
      List.replicate ((cameras.map CameraRow.branchId).count b) 0 := by
    rw [List.eq_replicate_iff]
    constructor
    · rw [List.length_map, List.filter_map, List.length_map, List.count, List.countP_map,
        List.countP_eq_length_filter]
      congr 1
    · intro n hn
      obtain ⟨c, hc, rfl⟩ := List.mem_map.1 hn
      obtain ⟨row, -, rfl⟩ := List.mem_map.1 (List.mem_of_mem_filter hc)
      rfl
  have hb := h b
  rw [hzero, List.nodup_replicate] at hb
  exact hb

theorem uniqueRows_migrated (hids : (cameras.map CameraRow.cameraId).Nodup)
    (hcameras : (cameras.map CameraRow.branchId).Nodup) : UniqueRows (cameras.map migratedCamera) := by
  have hshort : ∀ b, ((cameras.map migratedCamera).filter (·.branchId = b)).length ≤ 1 := by
    intro b
    have hcount := List.nodup_iff_count_le_one.1 hcameras b
    rw [List.count, List.countP_map, List.countP_eq_length_filter] at hcount
    rw [List.filter_map, List.length_map]
    refine le_of_eq_of_le (congrArg List.length (List.filter_congr fun c _ => ?_)) hcount
    exact (beq_eq_decide c.branchId b).symm
  have hnodup : ∀ {κ : Type} (key : Camera → κ) b,
      (((cameras.map migratedCamera).filter (·.branchId = b)).map key).Nodup := by
    intro κ key b
    have h := hshort b
    cases hfilter : (cameras.map migratedCamera).filter (·.branchId = b) with
    | nil => simp
    | cons c rest =>
      rw [hfilter, List.length_cons, Nat.succ_le_succ_iff, Nat.le_zero, List.length_eq_zero_iff] at h
      simp [h]
  refine ⟨?_, hnodup _, hnodup _⟩
  rwa [List.map_map]

end Migrate

/-- A device whose base URL is given. -/
def deviceAt (baseUrl : String) : DeviceRow :=
  ⟨1, 1, ⟨none, .unactivated, none⟩, none, some baseUrl⟩

end WeaponDetection.Backend.Branches
