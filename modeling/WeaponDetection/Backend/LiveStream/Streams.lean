import WeaponDetection.Backend.Branches.CameraMigrations
import WeaponDetection.Backend.Branches.ConfigurationVersion
import WeaponDetection.Foundations.Rfc3986

/-!
# Live streams

Models `SetNetworkConfiguration` and the two composers of `Device.cs`, and `CreateStreamAsync` of
`LiveStreamService.cs`: which source the media gateway is asked to pull for a Camera and a mode.
-/

namespace WeaponDetection.Backend.LiveStream

open WeaponDetection.Foundations
open WeaponDetection.Foundations.Python (hexDigitsFrom)
open WeaponDetection.Backend.AlertSync
open WeaponDetection.Backend.Branches

/-! ## The network configuration of a Device -/

/-- What `RequireJetsonHost` asks of the runtime. -/
def hosts (library : UriLibrary) : HostLibrary where
  isIpv6 := library.isIpv6
  isAuthority candidate :=
    (library.tryCreate ("rtsp://" ++ candidate)).any fun uri =>
      (uri.absolutePath = "" || uri.absolutePath = "/") && uri.userInfo = "" && uri.query = "" &&
        uri.fragment = ""

/-- `RequireRtspOutputPort`; `none` where it throws. -/
def requireRtspOutputPort (rtspOutputPort : ℤ) : Option ℤ :=
  if rtspOutputPort < 1 ∨ 65535 < rtspOutputPort then none else some rtspOutputPort

/-- `SetNetworkConfiguration`; `none` where it throws. -/
def setNetworkConfiguration (library : UriLibrary) (d : NetworkDeviceRow) (jetsonHost : Option String)
    (rtspOutputPort : Option ℤ) : Option NetworkDeviceRow :=
  match jetsonHost with
  | none => some { d with jetsonHost := none, rtspOutputPort := none }
  | some text =>
    -- Clearing the host clears the port too.
    if DotNet.isNullOrWhiteSpace text then some { d with jetsonHost := none, rtspOutputPort := none }
    else do
      let host ← requireJetsonHost (hosts library) text
      let port ← requireRtspOutputPort (rtspOutputPort.getD defaultRtspOutputPort)
      return { d with jetsonHost := some host, rtspOutputPort := some port }

/-- `ComposeAnnotatedOutputUrl`. -/
def composeAnnotatedOutputUrl (library : UriLibrary) (d : NetworkDeviceRow) (cameraOutputPath : String) :
    Option String :=
  (d.composeAnnotatedOutputBase library).map fun baseUrl =>
    baseUrl ++ "/" ++ String.ofList (cameraOutputPath.toList.dropWhile (· = '/'))

/-! ## `CreateStreamAsync` -/

/-- `LiveStreamMode`. -/
inductive LiveStreamMode where
  | monitoring
  | inference
  deriving DecidableEq

/-- `LiveStreamRequest`. -/
structure LiveStreamRequest where
  branchId : Guid
  cameraId : Guid
  mode : LiveStreamMode
  deriving DecidableEq

/-- The outcomes of `LiveStreamOutcome.Failed`, and an exception of the database or of the key rules. -/
inductive LiveStreamFailure where
  | branchOrCameraNotFound
  | deviceUnavailable
  | gatewayUnavailable
  | exception
  deriving DecidableEq

/-- The tables the service reads. -/
structure StreamDb where
  cameras : List Camera
  devices : List NetworkDeviceRow

/-- `SingleOrDefaultAsync` throws on a second row. -/
def singleOrDefault (rows : List ρ) : Except LiveStreamFailure (Option ρ) :=
  match rows with
  | [] => .ok none
  | [row] => .ok (some row)
  | _ => .error .exception

/-- `BuildPathName`. -/
def buildPathName (cameraId : Guid) (mode : LiveStreamMode) : String :=
  "live-" ++ String.ofList (hexDigitsFrom cameraId.toNat 31 32) ++ "-" ++
    if mode = .monitoring then "monitoring" else "inference"

/-- The Camera of a request, of the Branch of the request. -/
def findCamera (db : StreamDb) (request : LiveStreamRequest) : Except LiveStreamFailure Camera := do
  match ← singleOrDefault (db.cameras.filter (·.cameraId = request.cameraId)) with
  | none => throw .branchOrCameraNotFound
  | some camera =>
    if camera.branchId ≠ request.branchId then throw .branchOrCameraNotFound else return camera

/-- The local `sourceUrl`. -/
def sourceUrl (db : StreamDb) (request : LiveStreamRequest) (camera : Camera) :
    Except LiveStreamFailure String :=
  match request.mode with
  | .monitoring => return camera.rtspUrl
  | .inference => do
    match ← singleOrDefault (db.devices.filter (·.branchId = request.branchId)) with
    | none => throw .deviceUnavailable
    | some device =>
      match device.jetsonHost, device.rtspOutputPort with
      | some jetsonHost, some rtspOutputPort =>
        match deriveOutputPath camera.cameraKey with
        | none => throw .exception
        | some outputPath =>
          return "rtsp://" ++ jetsonHost ++ ":" ++ toString rtspOutputPort ++ "/" ++ outputPath
      | _, _ => throw .deviceUnavailable

/-- `LiveStreamOutcome.Created`, with the call of the gateway before it. -/
structure StreamCreated where
  pathName : String
  /-- The source the gateway pulls. -/
  sourceUrl : String
  sessionId : Guid
  playbackUrl : String
  expiresAtUtc : DateTime
  deriving DecidableEq

/-- `AddMinutes(1)`; `none` where it throws. -/
def addMinute (now : DateTime) : Option DateTime :=
  if maxTicks < now.ticks + 600000000 then none else some { now with ticks := now.ticks + 600000000 }

/-- `CreateStreamAsync`; `ensurePath` is false where the gateway throws `MediaGatewayException`. -/
def createStream (ensurePath : String → String → Bool) (now : DateTime) (newGuid : Guid) (db : StreamDb)
    (request : LiveStreamRequest) : Except LiveStreamFailure StreamCreated := do
  let camera ← findCamera db request
  let sourceUrl ← sourceUrl db request camera
  let pathName := buildPathName camera.cameraId request.mode
  if ensurePath pathName sourceUrl then
    let expiresAtUtc ← (addMinute now).elim (.error .exception) .ok
    return { pathName, sourceUrl, sessionId := newGuid, playbackUrl := "/media/" ++ pathName ++ "/whep"
             expiresAtUtc }
  else throw .gatewayUnavailable

/-- The gateway is asked for the source of a Camera of the Branch of the request. -/
theorem sourceUrl_of_createStream {ensurePath : String → String → Bool} {now : DateTime} {newGuid : Guid}
    {db : StreamDb} {request : LiveStreamRequest} {stream : StreamCreated}
    (h : createStream ensurePath now newGuid db request = .ok stream) :
    ∃ camera, findCamera db request = .ok camera ∧ sourceUrl db request camera = .ok stream.sourceUrl ∧
      ensurePath stream.pathName stream.sourceUrl = true := by
  rw [createStream] at h
  obtain ⟨camera, hcamera, h⟩ := Python.bind_eq_ok_iff.1 h
  obtain ⟨url, hurl, h⟩ := Python.bind_eq_ok_iff.1 h
  simp only at h
  split_ifs at h with hgateway
  · obtain ⟨expiresAtUtc, hexpires, h⟩ := Python.bind_eq_ok_iff.1 h
    cases h
    exact ⟨camera, hcamera, hurl, hgateway⟩

/-! ## What the two composers write -/

/-- The characters of an accepted host. -/
theorem requireJetsonHost_spec {hostLibrary : HostLibrary} {text host : String}
    (h : requireJetsonHost hostLibrary text = some host) :
    DotNet.isNullOrWhiteSpace text = false ∧ ∀ c ∈ Rfc3986.hostDelimiters, c ∉ host.toList := by
  simp only [requireJetsonHost] at h
  split_ifs at h with hblank hlength hcontrol hmore hport hauthority
  all_goals
    cases h
    refine ⟨by simpa using hblank, fun c hc hmem => hmore ?_⟩
    have hlisted : (Rfc3986.hostDelimiters.all fun c => ['/', '\\', '@', '?', '#'].contains c) = true := by
      decide
    exact List.any_eq_true.2 ⟨c, hmem, List.all_eq_true.1 hlisted c hc⟩

/-- The row after an accepted configuration. -/
theorem setNetworkConfiguration_spec {library : UriLibrary} {d device : NetworkDeviceRow}
    {text host : String} {rtspOutputPort : Option ℤ}
    (hhost : requireJetsonHost (hosts library) text = some host)
    (hset : setNetworkConfiguration library d (some text) rtspOutputPort = some device) :
    device.jetsonHost = some host ∧
      device.rtspOutputPort = some (rtspOutputPort.getD defaultRtspOutputPort) ∧
      0 ≤ rtspOutputPort.getD defaultRtspOutputPort := by
  have hblank := (requireJetsonHost_spec hhost).1
  rw [setNetworkConfiguration, if_neg (by simp [hblank]), hhost, Option.bind_eq_bind,
    Option.bind_some] at hset
  obtain ⟨port, hport, hdevice⟩ := Option.bind_eq_some_iff.1 hset
  rw [requireRtspOutputPort] at hport
  split_ifs at hport with hrange
  cases hport
  cases hdevice
  exact ⟨rfl, rfl, by omega⟩

/-- The host as the grammar of URIs writes it. -/
def hostText (library : UriLibrary) (host : String) : String :=
  if library.isIpv6 host then "[" ++ host ++ "]" else host

/-- The form of both addresses. -/
def streamUrl (host : String) (port : ℤ) (outputPath : String) : String :=
  "rtsp://" ++ host ++ ":" ++ toString port ++ "/" ++ outputPath

theorem composeAnnotatedOutputUrl_eq (library : UriLibrary) {device : NetworkDeviceRow} {host : String}
    {port : ℤ} {key outputPath : String} (hhost : device.jetsonHost = some host)
    (hport : device.rtspOutputPort = some port) (hpath : deriveOutputPath key = some outputPath) :
    composeAnnotatedOutputUrl library device outputPath =
      some (streamUrl (hostText library host) port outputPath) := by
  obtain ⟨key', -, rfl⟩ := Option.map_eq_some_iff.1 hpath
  have htrim : String.ofList ((outputPathPrefix ++ key').toList.dropWhile (· = '/')) =
      outputPathPrefix ++ key' := by
    have hfirst : (outputPathPrefix ++ key').toList =
        'c' :: ("ameras/".toList ++ key'.toList) := by
      simp [outputPathPrefix]
    rw [hfirst, List.dropWhile_cons_of_neg (by decide), ← hfirst, String.ofList_toList]
  rw [composeAnnotatedOutputUrl, NetworkDeviceRow.composeAnnotatedOutputBase, hhost, hport, Option.map_some,
    htrim]
  rfl

theorem sourceUrl_eq {db : StreamDb} {request : LiveStreamRequest} {camera : Camera}
    {device : NetworkDeviceRow} {host : String} {port : ℤ} {outputPath : String}
    (hmode : request.mode = .inference) (hdevice : db.devices.filter (·.branchId = request.branchId) = [device])
    (hhost : device.jetsonHost = some host) (hport : device.rtspOutputPort = some port)
    (hpath : deriveOutputPath camera.cameraKey = some outputPath) :
    sourceUrl db request camera = .ok (streamUrl host port outputPath) := by
  rw [sourceUrl, hmode]
  simp only [hdevice, singleOrDefault, hhost, hport, hpath, bind, Except.bind]
  rfl

theorem isPort_of_nonneg {port : ℤ} (h : 0 ≤ port) :
    Rfc3986.isPort (toString port).toList = true := by
  obtain ⟨n, rfl⟩ := Int.eq_ofNat_of_zero_le h
  exact List.all_eq_true.2 fun c hc => DotNet.isDigit_of_mem_toString hc

theorem isAlphanum_of_isCameraKeyAlphanumeric {c : Char} (h : isCameraKeyAlphanumeric c = true) :
    c.isAlphanum = true := by
  rw [isCameraKeyAlphanumeric, Bool.or_eq_true, Bool.and_eq_true, Bool.and_eq_true] at h
  change (c.isUpper || (decide ('a' ≤ c) && decide (c ≤ 'z')) || (decide ('0' ≤ c) && decide (c ≤ '9'))) = true
  rcases h with ⟨hlo, hhi⟩ | ⟨hlo, hhi⟩
  · rw [hlo, hhi, Bool.true_and, Bool.or_true, Bool.true_or]
  · rw [hlo, hhi, Bool.true_and, Bool.or_true]

/-- Nothing in an output path needs encoding. -/
theorem isPlainPathChar_of_deriveOutputPath {key outputPath : String}
    (h : deriveOutputPath key = some outputPath) :
    ∀ c ∈ outputPath.toList, Rfc3986.isPlainPathChar c = true := by
  obtain ⟨key', hkey, rfl⟩ := Option.map_eq_some_iff.1 h
  intro c hc
  rw [String.toList_append, List.mem_append] at hc
  rcases hc with hprefix | hkeyChar
  · have hplain : outputPathPrefix.toList.all Rfc3986.isPlainPathChar = true := by decide
    exact List.all_eq_true.1 hplain c hprefix
  · rcases keyChars_of_requireCameraKey hkey c hkeyChar with halphanumeric | rfl
    · simp [Rfc3986.isPlainPathChar, Rfc3986.isUnreserved,
        isAlphanum_of_isCameraKeyAlphanumeric halphanumeric]
    · decide

/-- An address is read as its host, its port and its path just when the host is one. -/
theorem parse_streamUrl_iff {host key outputPath : String} {port : ℤ} (hport : 0 ≤ port)
    (hdelimiters : ∀ c ∈ Rfc3986.hostDelimiters, c ∉ host.toList)
    (hpath : deriveOutputPath key = some outputPath) :
    Rfc3986.parse (streamUrl host port outputPath).toList =
        some { scheme := "rtsp".toList, userInfo := none, host := host.toList
               port := some (toString port).toList, path := '/' :: outputPath.toList, query := none
               fragment := none } ↔
      Rfc3986.isHost host.toList = true := by
  constructor
  · intro hparse
    exact Rfc3986.isHost_of_parse hparse
  · intro hhost
    have hscheme : Rfc3986.isScheme "rtsp".toList = true := by decide
    have hparse := Rfc3986.parse_append hscheme hhost hdelimiters (isPort_of_nonneg hport)
      (isPlainPathChar_of_deriveOutputPath hpath)
    rw [← hparse]
    simp [streamUrl]

/-! ## Agreement -/

/-- A source is the address the Device advertises, and a client that reads it by the grammar of URIs finds
the host, the port and the path of the Camera in it. -/
structure StreamAgrees (library : UriLibrary) (device : NetworkDeviceRow) (host : String) (port : ℤ)
    (outputPath url : String) : Prop where
  composed : composeAnnotatedOutputUrl library device outputPath = some url
  parsed : Rfc3986.parse url.toList =
    some { scheme := "rtsp".toList, userInfo := none, host := (hostText library host).toList
           port := some (toString port).toList, path := '/' :: outputPath.toList, query := none
           fragment := none }

theorem streamUrl_eq_iff {library : UriLibrary} {host outputPath : String} {port : ℤ} :
    streamUrl (hostText library host) port outputPath = streamUrl host port outputPath ↔
      library.isIpv6 host = false := by
  cases hipv6 : library.isIpv6 host with
  | false => simp [hostText, hipv6]
  | true =>
    -- The two brackets make one text longer.
    have hne : streamUrl ("[" ++ host ++ "]") port outputPath ≠ streamUrl host port outputPath := by
      intro heq
      have hlength := congrArg (fun url => url.toList.length) heq
      simp [streamUrl] at hlength
      omega
    simp [hostText, hipv6, hne]

/-- The address the Device composes is read right for literals as for names. -/
theorem composed_parses_iff {library : UriLibrary} {d device : NetworkDeviceRow}
    {text host key outputPath : String} {rtspOutputPort : Option ℤ}
    (hhost : requireJetsonHost (hosts library) text = some host)
    (hset : setNetworkConfiguration library d (some text) rtspOutputPort = some device)
    (hpath : deriveOutputPath key = some outputPath) :
    (∃ url, StreamAgrees library device host (rtspOutputPort.getD defaultRtspOutputPort) outputPath url) ↔
      Rfc3986.isHost (hostText library host).toList = true := by
  obtain ⟨hdeviceHost, hdevicePort, hport⟩ := setNetworkConfiguration_spec hhost hset
  have hcomposed := composeAnnotatedOutputUrl_eq library hdeviceHost hdevicePort hpath
  have hdelimiters : ∀ c ∈ Rfc3986.hostDelimiters, c ∉ (hostText library host).toList := by
    intro c hc
    have hplain := (requireJetsonHost_spec hhost).2 c hc
    have hbrackets : c ≠ '[' ∧ c ≠ ']' := by
      have hall : (Rfc3986.hostDelimiters.all fun c => c != '[' && c != ']') = true := by decide
      simpa using List.all_eq_true.1 hall c hc
    rw [hostText]
    split_ifs
    · simp [hplain, hbrackets]
    · exact hplain
  rw [← parse_streamUrl_iff hport hdelimiters hpath]
  constructor
  · rintro ⟨url, hagrees⟩
    obtain rfl := Option.some.inj (hcomposed.symm.trans hagrees.composed)
    exact hagrees.parsed
  · intro hparsed
    exact ⟨_, hcomposed, hparsed⟩

/-- For every host the rules accept, every port and every Camera key: the source of an inference stream
agrees with the address the Device composes just when the host is no IPv6 literal and one the grammar of
URIs knows. -/
theorem streams_agree_iff {library : UriLibrary} {db : StreamDb} {request : LiveStreamRequest}
    {camera : Camera} {d device : NetworkDeviceRow} {text host outputPath : String}
    {rtspOutputPort : Option ℤ} (hhost : requireJetsonHost (hosts library) text = some host)
    (hset : setNetworkConfiguration library d (some text) rtspOutputPort = some device)
    (hpath : deriveOutputPath camera.cameraKey = some outputPath)
    (hmode : request.mode = .inference)
    (hdevice : db.devices.filter (·.branchId = request.branchId) = [device]) :
    (∃ url, sourceUrl db request camera = .ok url ∧
        StreamAgrees library device host (rtspOutputPort.getD defaultRtspOutputPort) outputPath url) ↔
      library.isIpv6 host = false ∧ Rfc3986.isHost host.toList = true := by
  obtain ⟨hdeviceHost, hdevicePort, hport⟩ := setNetworkConfiguration_spec hhost hset
  have hdelimiters := (requireJetsonHost_spec hhost).2
  have hsource := sourceUrl_eq hmode hdevice hdeviceHost hdevicePort hpath
  have hcomposed := composeAnnotatedOutputUrl_eq library hdeviceHost hdevicePort hpath
  constructor
  · rintro ⟨url, hurl, hagrees⟩
    rw [hsource] at hurl
    obtain rfl := Except.ok.inj hurl
    have hsame := Option.some.inj (hcomposed.symm.trans hagrees.composed)
    have hipv6 := streamUrl_eq_iff.1 hsame
    have hplain : hostText library host = host := by simp [hostText, hipv6]
    have hparsed := hagrees.parsed
    rw [hplain] at hparsed
    exact ⟨hipv6, (parse_streamUrl_iff hport hdelimiters hpath).1 hparsed⟩
  · rintro ⟨hipv6, hgrammar⟩
    have hplain : hostText library host = host := by simp [hostText, hipv6]
    rw [hplain] at hcomposed
    refine ⟨_, hsource, ⟨hcomposed, ?_⟩⟩
    rw [hplain]
    exact (parse_streamUrl_iff hport hdelimiters hpath).2 hgrammar

/-- A runtime that reads URIs and addresses by the grammar. -/
def grammarLibrary : UriLibrary where
  tryCreate url := (Rfc3986.parse url.toList).map fun uri =>
    { address := { scheme := String.ofList uri.scheme, host := String.ofList uri.host
                   port := uri.port.map fun digits => Nat.ofDigitChars 10 digits 0 }
      userInfo := String.ofList (uri.userInfo.getD []), query := String.ofList (uri.query.getD [])
      fragment := String.ofList (uri.fragment.getD [])
      absolutePath := if uri.path = [] then "/" else String.ofList uri.path }
  isIpv6 text := Rfc3986.isIpv6Address text.toList

/-- A Device of Branch 2 without an address. -/
def siteDevice : NetworkDeviceRow :=
  { deviceRecordId := 1, branchId := 2
    device := { deviceId := none, activationStatus := .unactivated, protectedSharedSecret := none }
    lastKnownAddress := none, annotatedOutputBaseUrl := none, jetsonHost := none, rtspOutputPort := none }

/-- Its Camera. -/
def siteCamera : Camera :=
  { cameraId := 3, branchId := 2, name := "Front", rtspUrl := "rtsp://10.0.0.9/1", enabled := true
    cameraKey := "front-entrance", sourceOrder := 0 }

/-- The tables where the Device has an address. -/
def siteDb (jetsonHost : String) : StreamDb :=
  { cameras := [siteCamera]
    devices := [{ siteDevice with jetsonHost := some jetsonHost, rtspOutputPort := some 8554 }] }

theorem streams_agree_ipv4 :
    ∃ url, sourceUrl (siteDb "100.98.226.80") ⟨2, 3, .inference⟩ siteCamera = .ok url ∧
      StreamAgrees grammarLibrary
        { siteDevice with jetsonHost := some "100.98.226.80", rtspOutputPort := some 8554 }
        "100.98.226.80" 8554 "cameras/front-entrance" url := by
  have hhost : requireJetsonHost (hosts grammarLibrary) " 100.98.226.80" = some "100.98.226.80" := by
    decide +kernel
  have hset : setNetworkConfiguration grammarLibrary siteDevice (some " 100.98.226.80") none =
      some { siteDevice with jetsonHost := some "100.98.226.80", rtspOutputPort := some 8554 } := by
    decide +kernel
  exact (streams_agree_iff hhost hset (by decide +kernel) rfl (by decide +kernel)).2 (by decide +kernel)

/-- The host of an IPv6 site is accepted, and its stream is pulled from a text that is no URI. -/
theorem streams_disagree_ipv6 :
    requireJetsonHost (hosts grammarLibrary) "2001:db8::1" = some "2001:db8::1" ∧
      setNetworkConfiguration grammarLibrary siteDevice (some "2001:db8::1") (some 8554) =
        some { siteDevice with jetsonHost := some "2001:db8::1", rtspOutputPort := some 8554 } ∧
      sourceUrl (siteDb "2001:db8::1") ⟨2, 3, .inference⟩ siteCamera =
        .ok "rtsp://2001:db8::1:8554/cameras/front-entrance" ∧
      composeAnnotatedOutputUrl grammarLibrary
          { siteDevice with jetsonHost := some "2001:db8::1", rtspOutputPort := some 8554 }
          "cameras/front-entrance" = some "rtsp://[2001:db8::1]:8554/cameras/front-entrance" ∧
      Rfc3986.parse "rtsp://2001:db8::1:8554/cameras/front-entrance".toList = none := by
  decide +kernel

end WeaponDetection.Backend.LiveStream
