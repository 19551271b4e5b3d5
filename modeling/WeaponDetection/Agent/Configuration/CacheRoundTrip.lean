import WeaponDetection.Agent.Configuration.CacheCodec

/-!
# What the configuration cache gives back

`_parse_configuration` lets a camera through whose key is the empty string.  The decoder of the cache takes
such a camera for one that was written before keys existed: it recovers a key from the path, or refuses the
object.  Every other configuration of the client is read back as it was written (`roundTrip_iff`), and the
strings and integers a text was read from never stand in the way (`fits_of_loads`).
-/

namespace WeaponDetection.Agent.ConfigCache

open WeaponDetection.Foundations
open WeaponDetection.Foundations.Python
open WeaponDetection.Foundations.JsonDecoder
open WeaponDetection.Foundations.JsonEncoder
open WeaponDetection.Backend.AlertSync (paddedDigits formatDate)
open WeaponDetection.Contract (IsDatetime)

/-! ## The values of a configuration -/

/-- The members of a camera that are passed on as they are. -/
def DeviceCameraConfig.values (camera : DeviceCameraConfig) : List JsonValue :=
  [.str camera.cameraKey, camera.name, camera.streamUrl, camera.enabled, camera.sourceOrder, camera.outputPath]

/-- The members of a configuration that are passed on as they are. -/
def DeviceConfiguration.values (configuration : DeviceConfiguration) : List JsonValue :=
  configuration.schemaVersion :: configuration.configurationVersion ::
    configuration.cameras.flatMap DeviceCameraConfig.values

/-- A value the type checks of the client let pass. -/
def IsPlain : JsonValue → Prop
  | .bool _ | .int _ | .str _ => True
  | _ => False

/-- A string without a split surrogate pair, an integer with no more digits than can be read. -/
def Fits (py : Interpreter) : JsonValue → Prop
  | .int i => IntFits py i
  | .str s => Writable s
  | _ => True

theorem Fits.of_readable {py : Interpreter} {depth : ℕ} {v : JsonValue} (h : Readable py depth v) : Fits py v := by
  cases v with
  | int i => cases depth <;> exact h
  | str s => cases depth <;> exact h
  | _ => trivial

theorem Fits.readable {py : Interpreter} {v : JsonValue} (h : Fits py v) (hplain : IsPlain v) (depth : ℕ) :
    Readable py depth v := by
  cases v with
  | bool b => cases depth <;> trivial
  | int i => cases depth <;> exact h
  | str s => cases depth <;> exact h
  | _ => cases hplain

theorem reread_of_isPlain {read : ℚ → Double} {v : JsonValue} (hplain : IsPlain v) : reread read v = v := by
  cases v with
  | bool b => rfl
  | int i => rfl
  | str s => rfl
  | _ => cases hplain

/-- What stands in an object that can be read can be read. -/
theorem readable_of_get? {py : Interpreter} {depth : ℕ} {data : JsonDict} {key : PyStr} {v : JsonValue}
    (h : Readable py (depth + 1) (.dict data)) (hget : data.get? key = some v) : Readable py depth v := by
  simp only [JsonDict.get?, Option.map_eq_some_iff] at hget
  obtain ⟨kv, hfind, rfl⟩ := hget
  exact (h kv (List.mem_reverse.1 (List.mem_of_find?_eq_some hfind))).2

theorem Fits.of_get? {py : Interpreter} {depth : ℕ} {data : JsonDict} {key : PyStr} {v : JsonValue}
    (h : Readable py depth (.dict data)) (hget : data.get? key = some v) : Fits py v := by
  cases depth with
  | zero => cases h
  | succ depth => exact .of_readable (readable_of_get? h hget)

/-! ## What the client lets through -/

namespace Client

theorem orNone_eq_ok_some_iff {α : Type} {x : Except Exn α} {a : α} : orNone x = .ok (some a) ↔ x = .ok a := by
  cases x with
  | ok b => simp [orNone]
  | error e =>
    simp only [orNone]
    split <;> simp

/-- The members of a camera that comes out, in the object it comes from. -/
theorem parseCamera_eq_ok_some {v : JsonValue} {camera : DeviceCameraConfig}
    (h : parseCamera v = .ok (some camera)) :
    ∃ raw, v = .dict raw ∧ ∀ w ∈ camera.values, IsPlain w ∧ ∃ key, JsonDict.get? raw key = some w := by
  cases v with
  | dict raw =>
    obtain ⟨read, hread, heq⟩ := bind_eq_ok_iff.1 h
    simp only [pure, Except.pure, Except.ok.injEq, Option.bind_eq_some_iff] at heq
    obtain ⟨⟨cameraId, members⟩, rfl, htyped⟩ := heq
    simp only [orNone_eq_ok_some_iff, readCamera, bind_eq_ok_iff, getItem_eq_ok_iff, pure, Except.pure,
      Except.ok.injEq, Prod.mk.injEq] at hread
    obtain ⟨w, hw, id, hid, key, hkey, name, hname, url, hurl, enabled, henabled, order, horder, path, hpath, rfl,
      rfl⟩ := hread
    -- the type checks leave one shape of the six members
    unfold typedCamera at htyped
    split at htyped
    · next heq =>
      cases heq
      cases htyped
      refine ⟨raw, rfl, ?_⟩
      simp only [DeviceCameraConfig.values, List.forall_mem_cons]
      exact ⟨⟨trivial, _, hkey⟩, ⟨trivial, _, hname⟩, ⟨trivial, _, hurl⟩, ⟨trivial, _, henabled⟩,
        ⟨trivial, _, horder⟩, ⟨trivial, _, hpath⟩, fun _ hnil => absurd hnil List.not_mem_nil⟩
    · cases htyped
  | _ => cases h

theorem parseCameras_eq_ok_some {items : List JsonValue} {cameras : List DeviceCameraConfig}
    (h : parseCameras items = .ok (some cameras)) :
    ∀ camera ∈ cameras, ∃ v ∈ items, parseCamera v = .ok (some camera) := by
  induction items generalizing cameras with
  | nil =>
    cases h
    simp
  | cons v items ih =>
    obtain ⟨read, hread, hrest⟩ := bind_eq_ok_iff.1 h
    cases read with
    | none => cases hrest
    | some first =>
      obtain ⟨others, hothers, heq⟩ := bind_eq_ok_iff.1 hrest
      simp only [pure, Except.pure, Except.ok.injEq, Option.map_eq_some_iff] at heq
      obtain ⟨others, rfl, rfl⟩ := heq
      refine List.forall_mem_cons.2 ⟨⟨v, List.mem_cons_self, hread⟩, fun camera hcamera => ?_⟩
      obtain ⟨w, hw, hcame⟩ := ih hothers camera hcamera
      exact ⟨w, List.mem_cons_of_mem _ hw, hcame⟩

/-- Every member the client passes on is plain, and can be read where the body could be. -/
theorem parseConfiguration_values {platform : Platform} {maxCameras depth : ℕ} {v : JsonValue}
    {configuration : DeviceConfiguration}
    (h : parseConfiguration platform maxCameras v = .ok (some configuration)) :
    (∀ w ∈ configuration.values, IsPlain w) ∧
      (Readable platform.toInterpreter depth v → ∀ w ∈ configuration.values, Fits platform.toInterpreter w) := by
  cases v with
  | dict data =>
    obtain ⟨read, hread, hfinish⟩ := bind_eq_ok_iff.1 h
    cases read with
    | none => cases hfinish
    | some raw =>
      simp only [orNone_eq_ok_some_iff, readConfiguration, bind_eq_ok_iff, getItem_eq_ok_iff, pure, Except.pure,
        Except.ok.injEq] at hread
      obtain ⟨schema, hschema, version, hversion, w, hw, device, hdevice, x, hx, branch, hbranch, y, hy, instant,
        hinstant, cameras, hcameras, rfl⟩ := hread
      simp only [finishConfiguration] at hfinish
      split at hfinish
      · next version items =>
        split at hfinish
        · next hchecks =>
          obtain ⟨parsed, hparsed, heq⟩ := bind_eq_ok_iff.1 hfinish
          simp only [pure, Except.pure, Except.ok.injEq, Option.map_eq_some_iff] at heq
          obtain ⟨parsed, rfl, rfl⟩ := heq
          have hplain : IsPlain schema := by
            cases schema with
            | int i => trivial
            | bool b => trivial
            | _ => cases hchecks.1
          have hcame := parseCameras_eq_ok_some hparsed
          simp only [DeviceConfiguration.values, List.forall_mem_cons, List.forall_mem_flatMap]
          constructor
          · refine ⟨hplain, trivial, fun camera hcamera value hvalue => ?_⟩
            obtain ⟨item, -, hitem⟩ := hcame camera hcamera
            obtain ⟨raw, -, hvalues⟩ := parseCamera_eq_ok_some hitem
            exact (hvalues value hvalue).1
          · intro hreadable
            refine ⟨.of_get? hreadable hschema, .of_get? hreadable hversion, fun camera hcamera value hvalue => ?_⟩
            obtain ⟨item, hmem, hitem⟩ := hcame camera hcamera
            obtain ⟨raw, rfl, hvalues⟩ := parseCamera_eq_ok_some hitem
            obtain ⟨-, key, hget⟩ := hvalues value hvalue
            -- the camera stands in an array in the object
            cases depth with
            | zero => cases hreadable
            | succ depth =>
              have hitems := readable_of_get? hreadable hcameras
              cases depth with
              | zero => cases hitems
              | succ depth => exact .of_get? (hitems _ hmem) hget
        · cases hfinish
      · cases hfinish
  | _ => cases h

theorem parseSuccess_eq_ok_some {platform : Platform} {maxCameras : ℕ} {payload : JsonValue}
    {configuration : DeviceConfiguration}
    (h : parseSuccess platform maxCameras payload = .ok (some configuration)) :
    ∃ envelope data, payload = .dict envelope ∧ JsonDict.get? envelope (.ofString "data") = some data ∧
      parseConfiguration platform maxCameras data = .ok (some configuration) := by
  cases payload with
  | dict envelope =>
    simp only [parseSuccess] at h
    split at h
    · cases hdata : JsonDict.get? envelope (.ofString "data") with
      | none =>
        rw [hdata] at h
        cases h
      | some data =>
        rw [hdata] at h
        exact ⟨envelope, data, rfl, hdata, h⟩
    · cases h
  | _ => cases h

theorem isPlain_of_parseSuccess {platform : Platform} {maxCameras : ℕ} {payload : JsonValue}
    {configuration : DeviceConfiguration}
    (h : parseSuccess platform maxCameras payload = .ok (some configuration)) :
    ∀ w ∈ configuration.values, IsPlain w := by
  obtain ⟨envelope, data, -, -, hparsed⟩ := parseSuccess_eq_ok_some h
  exact (@parseConfiguration_values platform maxCameras 0 _ _ hparsed).1

/-- Whatever a body of characters holds can be read again. -/
theorem fits_of_loads {platform : Platform} {maxCameras : ℕ} {body : List Char} {payload : JsonValue}
    {configuration : DeviceConfiguration} (hbody : loads platform.toInterpreter body = .ok payload)
    (h : parseSuccess platform maxCameras payload = .ok (some configuration)) :
    ∀ w ∈ configuration.values, Fits platform.toInterpreter w := by
  obtain ⟨envelope, data, rfl, hdata, hparsed⟩ := parseSuccess_eq_ok_some h
  have hreadable := readable_of_loads hbody
  obtain ⟨depth, hdepth⟩ := Nat.exists_eq_add_of_le' (show 1 ≤ platform.nestingLimit from
    (by decide : 1 ≤ 3).trans platform.nesting)
  rw [hdepth] at hreadable
  exact (parseConfiguration_values hparsed).2 (readable_of_get? hreadable hdata)

end Client

/-! ## The round trip -/

theorem mem_values_of_mem {configuration : DeviceConfiguration} {camera : DeviceCameraConfig}
    (hcamera : camera ∈ configuration.cameras) {w : JsonValue} (hw : w ∈ camera.values) :
    w ∈ configuration.values := by
  refine List.mem_cons_of_mem _ (List.mem_cons_of_mem _ ?_)
  exact List.mem_flatMap.2 ⟨camera, hcamera, hw⟩

theorem charsOf_map_toNat (text : List Char) : charsOf (text.map Char.toNat) = text := by
  rw [charsOf, List.map_map]
  refine (List.map_congr_left fun c _ => ?_).trans (List.map_id _)
  change (if c.toNat.isValidChar then Char.ofNat c.toNat else '\ufffd') = c
  rw [if_pos (show c.toNat.isValidChar from c.valid), Char.ofNat_toNat]

theorem namesUuid_uuidText (u : Uuid) : NamesUuid (.str (.ofString (uuidText u))) u := by
  refine ⟨_, rfl, ?_⟩
  have hchars : charsOf (.ofString (uuidText u)) = (uuidText u).toList := charsOf_map_toNat _
  rw [hchars, String.ofList_toList, uuidOfText_uuidText]

/-- The text of an instant is made of digits and of characters that are no `Z`. -/
theorem zoneText_toIsoUtc (instant : UtcDatetime) :
    zoneText (Contract.toIsoUtc instant) = Contract.toIsoUtc instant := by
  have hdigits : ∀ width n, 'Z' ∉ paddedDigits width n := by
    intro width n hmem
    exact absurd (Contract.isDigit_of_mem_paddedDigits hmem) (by decide)
  obtain ⟨micros, hmicros⟩ := Int.eq_ofNat_of_zero_le instant.2.1
  have hnot : ∀ c ∈ Contract.toIsoUtc instant, c ≠ 'Z' := by
    rintro c hc rfl
    rw [hmicros, Contract.toIsoUtc_eq, Contract.dateText, Contract.clockText, Contract.fractionText, formatDate] at hc
    simp only [String.toList_ofList, List.mem_append, List.mem_cons, hdigits, false_or, or_false] at hc
    split at hc
    · exact absurd hc (by decide)
    · simp only [List.mem_cons, hdigits, or_false] at hc
      exact absurd hc (by decide)
  rw [zoneText, List.flatMap_congr fun c hc => if_neg (hnot c hc)]
  exact List.flatMap_singleton' _

theorem namesInstant_toIsoUtc (platform : Platform) (instant : UtcDatetime) :
    platform.NamesInstant (.str (ofChars (Contract.toIsoUtc instant))) instant := by
  obtain ⟨parsed, hparsed, hoffset, hreading⟩ := platform.isoformat_read instant
  refine ⟨_, parsed, rfl, ?_, ?_⟩
  · rw [ofChars, charsOf_map_toNat, zoneText_toIsoUtc, hparsed]
  · have hinstant : parsed.reading - 0 = instant := by rw [hreading, sub_zero]
    have hin : IsDatetime (parsed.reading - 0) := hinstant ▸ instant.2
    simp only [Platform.astimezoneUtc, hoffset]
    rw [dif_pos hin]
    exact congrArg Except.ok (Subtype.ext hinstant)

theorem cameraDenotes_serializeCamera {camera : DeviceCameraConfig} (hkey : camera.cameraKey ≠ []) :
    ∃ raw, serializeCamera camera = .dict raw ∧ CameraDenotes raw camera :=
  ⟨_, rfl, ⟨_, rfl, namesUuid_uuidText camera.cameraId⟩, ⟨hkey, .inl rfl⟩, rfl, rfl, rfl, rfl, rfl⟩

/-- What is written denotes what was to be written. -/
theorem denotes_serializeData (platform : Platform) {configuration : DeviceConfiguration}
    (hkeys : ∀ camera ∈ configuration.cameras, camera.cameraKey ≠ []) :
    Denotes platform (serializeData configuration) configuration := by
  refine ⟨rfl, rfl, ⟨_, rfl, namesUuid_uuidText _⟩, ⟨_, rfl, namesUuid_uuidText _⟩,
    ⟨_, rfl, namesInstant_toIsoUtc platform _⟩, _, rfl, ?_⟩
  change List.Forall₂ _ (configuration.cameras.map serializeCamera) configuration.cameras
  rw [List.forall₂_map_left_iff, List.forall₂_same]
  exact fun camera hcamera => cameraDenotes_serializeCamera (hkeys camera hcamera)

theorem readable_str {py : Interpreter} {s : PyStr} (h : Writable s) (depth : ℕ) : Readable py depth (.str s) := by
  cases depth <;> exact h

theorem readable_serializeCamera {py : Interpreter} {camera : DeviceCameraConfig} (depth : ℕ)
    (hplain : ∀ w ∈ camera.values, IsPlain w) (hfits : ∀ w ∈ camera.values, Fits py w) :
    Readable py (depth + 1) (serializeCamera camera) := by
  simp only [DeviceCameraConfig.values, List.forall_mem_cons] at hplain hfits
  obtain ⟨hkey, hname, hurl, henabled, horder, hpath, -⟩ := hplain
  obtain ⟨hkeyFits, hnameFits, hurlFits, henabledFits, horderFits, hpathFits, -⟩ := hfits
  have hmembers : ∀ kv ∈ [(PyStr.ofString "cameraId", JsonValue.str (.ofString (uuidText camera.cameraId))),
      (.ofString "cameraKey", .str camera.cameraKey), (.ofString "name", camera.name),
      (.ofString "streamUrl", camera.streamUrl), (.ofString "enabled", camera.enabled),
      (.ofString "sourceOrder", camera.sourceOrder), (.ofString "outputPath", camera.outputPath)],
      Writable kv.1 ∧ Readable py depth kv.2 := by
    simp only [List.forall_mem_cons]
    exact ⟨⟨writable_map_toNat _, readable_str (writable_map_toNat _) depth⟩,
      ⟨writable_map_toNat _, hkeyFits.readable hkey depth⟩, ⟨writable_map_toNat _, hnameFits.readable hname depth⟩,
      ⟨writable_map_toNat _, hurlFits.readable hurl depth⟩,
      ⟨writable_map_toNat _, henabledFits.readable henabled depth⟩,
      ⟨writable_map_toNat _, horderFits.readable horder depth⟩,
      ⟨writable_map_toNat _, hpathFits.readable hpath depth⟩, fun _ hnil => absurd hnil List.not_mem_nil⟩
  exact hmembers

theorem readable_serializeData {py : Interpreter} {configuration : DeviceConfiguration} (depth : ℕ)
    (hplain : ∀ w ∈ configuration.values, IsPlain w) (hfits : ∀ w ∈ configuration.values, Fits py w) :
    Readable py (depth + 3) (.dict (serializeData configuration)) := by
  have hcameras : Readable py (depth + 2) (.list (configuration.cameras.map serializeCamera)) := by
    intro v hv
    obtain ⟨camera, hcamera, rfl⟩ := List.mem_map.1 hv
    exact readable_serializeCamera depth (fun w hw => hplain w (mem_values_of_mem hcamera hw))
      fun w hw => hfits w (mem_values_of_mem hcamera hw)
  simp only [DeviceConfiguration.values, List.forall_mem_cons] at hplain hfits
  obtain ⟨hschema, hversion, -⟩ := hplain
  obtain ⟨hschemaFits, hversionFits, -⟩ := hfits
  have hmembers : ∀ kv ∈ serializeData configuration, Writable kv.1 ∧ Readable py (depth + 2) kv.2 := by
    simp only [serializeData, List.forall_mem_cons]
    exact ⟨⟨writable_map_toNat _, hschemaFits.readable hschema _⟩,
      ⟨writable_map_toNat _, hversionFits.readable hversion _⟩,
      ⟨writable_map_toNat _, readable_str (writable_map_toNat _) _⟩,
      ⟨writable_map_toNat _, readable_str (writable_map_toNat _) _⟩,
      ⟨writable_map_toNat _, readable_str (writable_map_toNat _) _⟩, ⟨writable_map_toNat _, hcameras⟩,
      ⟨writable_map_toNat _, hversionFits.readable hversion _⟩, fun _ hnil => absurd hnil List.not_mem_nil⟩
  exact hmembers

theorem rereadItems_serializeCamera (read : ℚ → Double) {cameras : List DeviceCameraConfig}
    (hplain : ∀ camera ∈ cameras, ∀ w ∈ camera.values, IsPlain w) :
    rereadItems read (cameras.map serializeCamera) = cameras.map serializeCamera := by
  induction cameras with
  | nil => rfl
  | cons camera cameras ih =>
    obtain ⟨hcamera, hrest⟩ := List.forall_mem_cons.1 hplain
    simp only [DeviceCameraConfig.values, List.forall_mem_cons] at hcamera
    obtain ⟨-, hname, hurl, henabled, horder, hpath, -⟩ := hcamera
    rw [List.map_cons, rereadItems, ih hrest]
    simp only [serializeCamera, reread, rereadMembers, reread_of_isPlain hname, reread_of_isPlain hurl,
      reread_of_isPlain henabled, reread_of_isPlain horder, reread_of_isPlain hpath]

theorem reread_serializeData (read : ℚ → Double) {configuration : DeviceConfiguration}
    (hplain : ∀ w ∈ configuration.values, IsPlain w) :
    reread read (.dict (serializeData configuration)) = .dict (serializeData configuration) := by
  have hcameras := rereadItems_serializeCamera read fun camera hcamera w hw =>
    hplain w (mem_values_of_mem hcamera hw)
  simp only [DeviceConfiguration.values, List.forall_mem_cons] at hplain
  simp only [serializeData, reread, rereadMembers, reread_of_isPlain hplain.1, reread_of_isPlain hplain.2.1,
    hcameras]

/-- A key that was read from an object that could be read. -/
theorem writable_of_hasCameraKey {py : Interpreter} {depth : ℕ} {raw : JsonDict} {key : PyStr}
    (h : Readable py depth (.dict raw)) (hkey : HasCameraKey raw key) : Writable key := by
  rcases hkey.2 with hget | ⟨-, hpath⟩
  · exact Fits.of_get? h hget
  · have hwritable : Writable (cameraPrefix ++ key) := Fits.of_get? h hpath
    exact ⟨fun u hu => hwritable.1 u (List.mem_append_right _ hu), hwritable.2.right_of_append⟩

/-- What a text denotes can be read again, and has a key for every camera. -/
theorem fits_of_denotes {platform : Platform} {depth : ℕ} {data : JsonDict} {configuration : DeviceConfiguration}
    (h : Denotes platform data configuration) (hreadable : Readable platform.toInterpreter depth (.dict data)) :
    (∀ camera ∈ configuration.cameras, camera.cameraKey ≠ []) ∧
      ∀ w ∈ configuration.values, Fits platform.toInterpreter w := by
  obtain ⟨v, hv, hcameras⟩ := h.cameras
  -- every camera is denoted by an object that can be read
  have hcamera : ∀ camera ∈ configuration.cameras, ∃ raw depth, CameraDenotes raw camera ∧
      Readable platform.toInterpreter depth (.dict raw) := by
    intro camera hmem
    cases v with
    | list items =>
      obtain ⟨item, hitem, raw, rfl, hdenotes⟩ := exists_mem_of_forall₂ hcameras hmem
      cases depth with
      | zero => cases hreadable
      | succ depth =>
        have hitems := readable_of_get? hreadable hv
        cases depth with
        | zero => cases hitems
        | succ depth => exact ⟨raw, depth, hdenotes, hitems _ hitem⟩
    | str s =>
      rw [hcameras.2] at hmem
      cases hmem
    | dict members =>
      rw [hcameras.2] at hmem
      cases hmem
    | _ => cases hcameras
  constructor
  · intro camera hmem
    obtain ⟨raw, -, hdenotes, -⟩ := hcamera camera hmem
    exact hdenotes.cameraKey.1
  · simp only [DeviceConfiguration.values, List.forall_mem_cons, List.forall_mem_flatMap]
    refine ⟨.of_get? hreadable h.schemaVersion, .of_get? hreadable h.configurationVersion, fun camera hmem => ?_⟩
    obtain ⟨raw, depth, hdenotes, hraw⟩ := hcamera camera hmem
    simp only [DeviceCameraConfig.values, List.forall_mem_cons]
    exact ⟨writable_of_hasCameraKey hraw hdenotes.cameraKey, .of_get? hraw hdenotes.name,
      .of_get? hraw hdenotes.streamUrl, .of_get? hraw hdenotes.enabled, .of_get? hraw hdenotes.sourceOrder,
      .of_get? hraw hdenotes.outputPath, fun _ hnil => absurd hnil List.not_mem_nil⟩

/-- **The cache gives a configuration of the client back exactly when each of its cameras has a key.** -/
theorem roundTrip_iff {platform : Platform} {configuration : DeviceConfiguration}
    (hplain : ∀ w ∈ configuration.values, IsPlain w) :
    deserializeConfiguration platform (serializeConfiguration platform configuration) = .ok configuration ↔
      (∀ camera ∈ configuration.cameras, camera.cameraKey ≠ []) ∧
        ∀ w ∈ configuration.values, Fits platform.toInterpreter w := by
  rw [deserializeConfiguration_eq_ok_iff]
  constructor
  · rintro ⟨data, hdata, hdenotes⟩
    exact fits_of_denotes hdenotes (readable_of_loads hdata)
  · rintro ⟨hkeys, hfits⟩
    obtain ⟨depth, hdepth⟩ := Nat.exists_eq_add_of_le' platform.nesting
    have hreadable := readable_serializeData depth hplain hfits
    rw [← hdepth] at hreadable
    refine ⟨_, ?_, denotes_serializeData platform hkeys⟩
    rw [serializeConfiguration, loads_dumps platform.floats_read hreadable, reread_serializeData _ hplain]

/-- A body of characters holds nothing that could not be read again. -/
theorem roundTrip_iff_of_body {platform : Platform} {maxCameras : ℕ} {body : List Char} {payload : JsonValue}
    {configuration : DeviceConfiguration} (hbody : loads platform.toInterpreter body = .ok payload)
    (h : Client.parseSuccess platform maxCameras payload = .ok (some configuration)) :
    deserializeConfiguration platform (serializeConfiguration platform configuration) = .ok configuration ↔
      ∀ camera ∈ configuration.cameras, camera.cameraKey ≠ [] := by
  rw [roundTrip_iff (Client.isPlain_of_parseSuccess h)]
  exact ⟨fun hboth => hboth.1, fun hkeys => ⟨hkeys, Client.fits_of_loads hbody h⟩⟩

end WeaponDetection.Agent.ConfigCache
