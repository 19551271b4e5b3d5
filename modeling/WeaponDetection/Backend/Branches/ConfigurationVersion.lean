import Mathlib.Logic.Relation
import WeaponDetection.Backend.Branches.WellFormed
import WeaponDetection.Foundations.UuidText

/-!
# What the configuration version tells apart

The version is the hash of one text in which the records of the Cameras follow one another, and a URL
may hold a whole end of a record and the start of the next one.  So the text does not say where a record
ends: `versionText_eq_iff` says that two lists have the same text exactly when one comes from the other
by merging records into a URL and by taking them out of it again.
-/

namespace WeaponDetection.Backend.Branches

open WeaponDetection.Foundations
open WeaponDetection.Foundations.Python (Uuid uuidText hexChar hexDigitsFrom uuidText_injective length_uuidText)
open WeaponDetection.Backend.AlertSync

/-! ## Records -/

/-- What the pipeline depends on of a Camera: the fields the version is computed over. -/
structure PipelineCamera where
  cameraId : Guid
  streamUrl : String
  sourceOrder : ℕ
  outputPath : String
  deriving DecidableEq

/-- The name of a Camera is left out. -/
def DeviceCameraConfigurationView.pipeline (c : DeviceCameraConfigurationView) : PipelineCamera :=
  ⟨c.cameraId, c.streamUrl, c.sourceOrder, c.outputPath⟩

/-- The end of a record, behind its URL. -/
def PipelineCamera.ending (c : PipelineCamera) : List Char :=
  '|' :: (toString c.sourceOrder).toList ++ '|' :: c.outputPath.toList ++ [';']

/-- The record of a Camera. -/
def PipelineCamera.record (c : PipelineCamera) : List Char :=
  (uuidText c.cameraId).toList ++ '|' :: c.streamUrl.toList ++ c.ending

/-- The text of the records. -/
def recordsText (cameras : List PipelineCamera) : List Char := cameras.flatMap PipelineCamera.record

theorem toList_versionText (cameras : List DeviceCameraConfigurationView) :
    (versionText cameras).toList = recordsText (cameras.map DeviceCameraConfigurationView.pipeline) := by
  induction cameras with
  | nil => rfl
  | cons c cameras ih =>
    simp only [versionText, recordsText, List.map_cons, String.join_cons, String.toList_append,
      List.flatMap_cons] at ih ⊢
    rw [ih]
    simp [PipelineCamera.record, PipelineCamera.ending, DeviceCameraConfigurationView.pipeline]

/-! ## Merging two records -/

/-- One Camera whose URL holds the end of a record and the start of the next one. -/
def PipelineCamera.absorb (c c' : PipelineCamera) : PipelineCamera where
  cameraId := c.cameraId
  streamUrl := String.ofList (c.streamUrl.toList ++ c.ending ++ (uuidText c'.cameraId).toList ++
    '|' :: c'.streamUrl.toList)
  sourceOrder := c'.sourceOrder
  outputPath := c'.outputPath

/-- Two records that follow one another become one. -/
inductive Merge : List PipelineCamera → List PipelineCamera → Prop
  | here (c c' : PipelineCamera) (rest : List PipelineCamera) :
      Merge (c :: c' :: rest) (c.absorb c' :: rest)
  | later (c : PipelineCamera) {rest rest' : List PipelineCamera} :
      Merge rest rest' → Merge (c :: rest) (c :: rest')

/-- Two lists come from one another by merging records and taking them apart again. -/
def Regrouped : List PipelineCamera → List PipelineCamera → Prop := Relation.EqvGen Merge

theorem Regrouped.cons (c : PipelineCamera) {xs ys : List PipelineCamera} (h : Regrouped xs ys) :
    Regrouped (c :: xs) (c :: ys) := by
  induction h with
  | rel xs ys hmerge => exact .rel _ _ (.later c hmerge)
  | refl xs => exact .refl _
  | symm xs ys _ ih => exact .symm _ _ ih
  | trans xs ys zs _ _ ih ih' => exact .trans _ _ _ ih ih'

theorem recordsText_of_merge {xs ys : List PipelineCamera} (h : Merge xs ys) :
    recordsText xs = recordsText ys := by
  induction h with
  | here c c' rest =>
    simp [recordsText, PipelineCamera.record, PipelineCamera.absorb, PipelineCamera.ending]
  | later c _ ih =>
    simp only [recordsText, List.flatMap_cons] at ih ⊢
    rw [ih]

theorem recordsText_of_regrouped {xs ys : List PipelineCamera} (h : Regrouped xs ys) :
    recordsText xs = recordsText ys := by
  induction h with
  | rel xs ys hmerge => exact recordsText_of_merge hmerge
  | refl xs => rfl
  | symm xs ys _ ih => exact ih.symm
  | trans xs ys zs _ _ ih ih' => exact ih.trans ih'

/-! ## The characters of a record -/

/-- A field ends where its separator stands for the first time. -/
theorem append_cons_inj {a a' s s' : List Char} {c : Char} (ha : c ∉ a) (ha' : c ∉ a')
    (h : a ++ c :: s = a' ++ c :: s') : a = a' ∧ s = s' := by
  rcases List.append_eq_append_iff.1 h with ⟨x, rfl, hx⟩ | ⟨x, rfl, hx⟩
  · cases x with
    | nil => simpa using hx
    | cons d x =>
      obtain ⟨rfl, -⟩ := List.cons.inj hx
      simp at ha'
  · cases x with
    | nil => simpa using hx.symm
    | cons d x =>
      obtain ⟨rfl, -⟩ := List.cons.inj hx
      simp at ha

/-- What the checks of the Backend promise of a record: the URL begins with the scheme `rtsp`, in either
case, and the path is made of a Camera key. -/
structure PipelineCamera.Shaped (c : PipelineCamera) : Prop where
  url : ∃ first rest, c.streamUrl.toList = first :: rest ∧ first ∈ ['r', 'R']
  path : ∃ rest, c.outputPath.toList = 'c' :: rest ∧ '|' ∉ rest ∧ ';' ∉ rest

/-- A character that starts a URL is neither a digit nor a separator. -/
theorem first_ne {first : Char} (h : first ∈ ['r', 'R']) : first.isDigit = false ∧ first ≠ '|' := by
  simp only [List.mem_cons, List.not_mem_nil, or_false] at h
  rcases h with rfl | rfl
  · decide
  · decide

theorem bar_not_mem_uuidText (u : Uuid) : '|' ∉ (uuidText u).toList := by
  have hhex : ∀ d < 16, hexChar d ≠ '|' := by decide
  have hdigits : ∀ v hi count, '|' ∉ hexDigitsFrom v hi count := by
    intro v hi count hmem
    obtain ⟨d, hd, heq⟩ := Foundations.Python.isHexChar_of_mem hmem
    exact hhex d hd heq.symm
  simp [uuidText, hdigits]

/-- A list of records does not begin with a separator. -/
theorem recordsText_head {cameras : List PipelineCamera} {rest : List Char} :
    recordsText cameras ≠ '|' :: rest := by
  cases cameras with
  | nil => simp [recordsText]
  | cons c cameras =>
    intro h
    cases htext : (uuidText c.cameraId).toList with
    | nil =>
      have hlength := length_uuidText c.cameraId
      rw [htext] at hlength
      cases hlength
    | cons d digits =>
      rw [recordsText, List.flatMap_cons, PipelineCamera.record, htext] at h
      have hbar := bar_not_mem_uuidText c.cameraId
      rw [htext, (List.cons.inj h).1] at hbar
      exact hbar List.mem_cons_self

/-- The end of a record says which order and which path it holds. -/
theorem ending_inj {c c' : PipelineCamera} (hc : c.Shaped) (hc' : c'.Shaped) {s s' : List Char}
    (h : c.ending ++ s = c'.ending ++ s') :
    c.sourceOrder = c'.sourceOrder ∧ c.outputPath = c'.outputPath ∧ s = s' := by
  have hbar : ∀ n : ℕ, '|' ∉ (toString n).toList := by
    intro n hmem
    exact absurd (DotNet.isDigit_of_mem_toString hmem) (by decide)
  have hpath : ∀ {d : PipelineCamera}, d.Shaped → ';' ∉ d.outputPath.toList := by
    rintro d hd
    obtain ⟨rest, hrest, -, hno⟩ := hd.path
    simp [hrest, hno]
  simp only [PipelineCamera.ending, List.cons_append, List.append_assoc, List.nil_append, List.cons.injEq,
    true_and] at h
  obtain ⟨horder, hrest⟩ := append_cons_inj (hbar _) (hbar _) h
  obtain ⟨houtput, hs⟩ := append_cons_inj (hpath hc) (hpath hc') hrest
  exact ⟨DotNet.toString_toList_inj horder, String.toList_injective houtput, hs⟩

/-- No end of a record begins inside another one. -/
theorem ending_not_inside {c c' : PipelineCamera} (hc : c.Shaped) {x z s s' : List Char} (hx : x ≠ [])
    (hz : z ≠ []) (hsplit : c.ending = x ++ z) : c'.ending ++ s' ≠ z ++ s := by
  intro h
  obtain ⟨a, x, rfl⟩ := List.exists_cons_of_ne_nil hx
  obtain ⟨b, z, rfl⟩ := List.exists_cons_of_ne_nil hz
  obtain ⟨path, hpath, hbar, -⟩ := hc.path
  have hdigits : '|' ∉ (toString c.sourceOrder).toList := by
    intro hmem
    exact absurd (DotNet.isDigit_of_mem_toString hmem) (by decide)
  -- the only separator behind the first one stands before the path
  obtain rfl : b = '|' := by
    simp only [PipelineCamera.ending, List.cons_append, List.cons.injEq] at h
    exact h.1.symm
  simp only [PipelineCamera.ending, hpath, List.cons_append, List.append_assoc, List.cons.injEq] at hsplit
  have hno : '|' ∉ 'c' :: path ++ [';'] := by simp [hbar]
  obtain ⟨-, -, rfl⟩ := (List.append_cons_inj_of_notMem hdigits hno).1 hsplit.2
  obtain ⟨d, digits, htext⟩ := List.exists_cons_of_ne_nil (DotNet.toString_toList_ne_nil c'.sourceOrder)
  simp only [PipelineCamera.ending, htext, List.cons_append, List.cons.injEq, true_and] at h
  have hdigit : d.isDigit = true := DotNet.isDigit_of_mem_toString (n := c'.sourceOrder) (htext ▸ List.mem_cons_self)
  rw [h.1] at hdigit
  exact absurd hdigit (by decide)

/-- The end of a record begins with a separator and a digit. -/
theorem ending_eq_cons (c : PipelineCamera) :
    ∃ d rest, c.ending = '|' :: d :: rest ∧ d.isDigit = true := by
  obtain ⟨d, digits, htext⟩ := List.exists_cons_of_ne_nil (DotNet.toString_toList_ne_nil c.sourceOrder)
  refine ⟨d, digits ++ '|' :: c.outputPath.toList ++ [';'], ?_, ?_⟩
  · rw [PipelineCamera.ending, htext]
    simp only [List.cons_append, List.append_assoc]
  · exact DotNet.isDigit_of_mem_toString (n := c.sourceOrder) (htext ▸ List.mem_cons_self)

/-- Where a record's URL goes on behind the end of another one, it holds the start of the next record. -/
theorem next_of_longer {c c' : PipelineCamera} (hc : c.Shaped) {xs : List PipelineCamera}
    (hxs : ∀ d ∈ xs, d.Shaped) {x s : List Char} (hx : x ≠ [])
    (h : c.ending ++ recordsText xs = x ++ (c'.ending ++ s)) :
    ∃ d ys first y, xs = d :: ys ∧ first ∈ ['r', 'R'] ∧
      x = c.ending ++ (uuidText d.cameraId).toList ++ '|' :: first :: y := by
  obtain ⟨digit, ending, hending, hdigit⟩ := ending_eq_cons c'
  rcases List.append_eq_append_iff.1 h with ⟨x', rfl, hrest⟩ | ⟨z, hsplit, hrest⟩
  · -- the URL goes on behind the whole end
    cases xs with
    | nil =>
      have hlength := congrArg List.length hrest
      simp [recordsText, hending] at hlength
    | cons d ys =>
      obtain ⟨first, tail, hurl, hfirst⟩ := (hxs d List.mem_cons_self).url
      obtain ⟨hnodigit, hnobar⟩ := first_ne hfirst
      have hrecord : recordsText (d :: ys) = (uuidText d.cameraId).toList ++
          '|' :: first :: (tail ++ d.ending ++ recordsText ys) := by
        simp [recordsText, PipelineCamera.record, hurl]
      rw [hrecord, hending] at hrest
      have hbar := bar_not_mem_uuidText d.cameraId
      rcases List.append_eq_append_iff.1 hrest with ⟨w, rfl, hw⟩ | ⟨w, hw, hw'⟩
      · cases w with
        | nil =>
          simp only [List.nil_append, List.cons_append, List.cons.injEq, true_and] at hw
          rw [← hw.1, hnodigit] at hdigit
          cases hdigit
        | cons b w =>
          simp only [List.cons_append, List.cons.injEq] at hw
          obtain ⟨rfl, hw⟩ := hw
          cases w with
          | nil =>
            simp only [List.nil_append, List.cons.injEq] at hw
            exact absurd hw.1 hnobar
          | cons b y =>
            simp only [List.cons_append, List.cons.injEq] at hw
            obtain ⟨rfl, -⟩ := hw
            refine ⟨d, ys, first, y, rfl, hfirst, ?_⟩
            rw [List.append_assoc]
      · cases w with
        | nil =>
          simp only [List.nil_append, List.cons_append, List.cons.injEq, true_and] at hw'
          rw [hw'.1, hnodigit] at hdigit
          cases hdigit
        | cons b w =>
          simp only [List.cons_append, List.cons.injEq] at hw'
          obtain ⟨rfl, -⟩ := hw'
          exact absurd (hw ▸ List.mem_append_right x' List.mem_cons_self) hbar
  · -- the URL ends inside the end, which is where no end begins
    cases z with
    | nil =>
      rw [hending] at hrest
      exact absurd hrest.symm recordsText_head
    | cons b z =>
      exact absurd hrest (ending_not_inside hc hx (List.cons_ne_nil b z) hsplit)

/-! ## Equal texts -/

/-- Records that follow a shorter URL in one list are inside the longer one in the other. -/
theorem regrouped_of_shorter {c c' : PipelineCamera} {xs ys : List PipelineCamera} {n : ℕ}
    (ih : ∀ xs ys : List PipelineCamera, (∀ d ∈ xs, d.Shaped) → (∀ d ∈ ys, d.Shaped) →
      (recordsText xs).length < n → recordsText xs = recordsText ys → Regrouped xs ys)
    (hxs : ∀ d ∈ c :: xs, d.Shaped) (hys : ∀ d ∈ c' :: ys, d.Shaped)
    (hlength : (recordsText (c :: xs)).length ≤ n) (hid : c.cameraId = c'.cameraId)
    (hurl : c.streamUrl.toList.length < c'.streamUrl.toList.length)
    (h : c.streamUrl.toList ++ (c.ending ++ recordsText xs) =
      c'.streamUrl.toList ++ (c'.ending ++ recordsText ys)) :
    Regrouped (c :: xs) (c' :: ys) := by
  obtain ⟨hc, hxs⟩ := List.forall_mem_cons.1 hxs
  obtain ⟨hc', hys⟩ := List.forall_mem_cons.1 hys
  obtain ⟨x, hx, hrest⟩ : ∃ x, c'.streamUrl.toList = c.streamUrl.toList ++ x ∧
      c.ending ++ recordsText xs = x ++ (c'.ending ++ recordsText ys) := by
    rcases List.append_eq_append_iff.1 h with ⟨x, hx, hrest⟩ | ⟨x, hx, -⟩
    · exact ⟨x, hx, hrest⟩
    · rw [hx, List.length_append] at hurl
      omega
  have hne : x ≠ [] := by
    rintro rfl
    rw [hx, List.append_nil] at hurl
    exact absurd hurl (lt_irrefl _)
  obtain ⟨d, rest, first, y, rfl, hfirst, rfl⟩ := next_of_longer hc hxs hne hrest
  -- what the longer URL holds of the second record
  let m : PipelineCamera := ⟨d.cameraId, String.ofList (first :: y), c'.sourceOrder, c'.outputPath⟩
  have hm : m.Shaped := ⟨⟨first, y, by simp [m], hfirst⟩, hc'.path⟩
  have habsorb : c' = c.absorb m := by
    obtain ⟨cameraId, streamUrl, sourceOrder, outputPath⟩ := c'
    simp only [PipelineCamera.absorb, m, PipelineCamera.mk.injEq, and_true]
    refine ⟨hid.symm, String.toList_injective ?_⟩
    rw [String.toList_ofList, hx, String.toList_ofList]
    simp
  have htext : recordsText (d :: rest) = recordsText (m :: ys) := by
    have hm' : recordsText (m :: ys) = (uuidText d.cameraId).toList ++ '|' :: first :: y ++
        (c'.ending ++ recordsText ys) := by
      simp [recordsText, PipelineCamera.record, PipelineCamera.ending, m]
    rw [hm']
    refine List.append_cancel_left (?_ : c.ending ++ _ = c.ending ++ _)
    rw [hrest]
    simp
  have hshorter : (recordsText (d :: rest)).length < n := by
    simp only [recordsText, List.flatMap_cons, PipelineCamera.record, PipelineCamera.ending,
      List.length_append, List.length_cons] at hlength ⊢
    omega
  have hregrouped := ih (d :: rest) (m :: ys) hxs (List.forall_mem_cons.2 ⟨hm, hys⟩) hshorter htext
  refine .trans _ _ _ (hregrouped.cons c) (.rel _ _ ?_)
  rw [habsorb]
  exact .here c m ys

theorem recordsText_ne_nil (c : PipelineCamera) (cameras : List PipelineCamera) :
    recordsText (c :: cameras) ≠ [] := by
  simp [recordsText, PipelineCamera.record]

/-- The identifier of a first record has a fixed length. -/
theorem head_of_recordsText {c c' : PipelineCamera} {xs ys : List PipelineCamera}
    (h : recordsText (c :: xs) = recordsText (c' :: ys)) :
    c.cameraId = c'.cameraId ∧ c.streamUrl.toList ++ (c.ending ++ recordsText xs) =
      c'.streamUrl.toList ++ (c'.ending ++ recordsText ys) := by
  have hrecords : ∀ (d : PipelineCamera) (zs : List PipelineCamera), recordsText (d :: zs) =
      (uuidText d.cameraId).toList ++ '|' :: (d.streamUrl.toList ++ (d.ending ++ recordsText zs)) := by
    intro d zs
    simp [recordsText, PipelineCamera.record]
  rw [hrecords, hrecords] at h
  obtain ⟨hid, hrest⟩ := List.append_inj h (by rw [length_uuidText, length_uuidText])
  exact ⟨uuidText_injective (String.toList_injective hid), (List.cons.inj hrest).2⟩

/-- Behind the same identifier and the same URL the records agree. -/
theorem head_eq_of_url {c c' : PipelineCamera} {s s' : List Char} (hc : c.Shaped) (hc' : c'.Shaped)
    (hid : c.cameraId = c'.cameraId) (hurl : c.streamUrl.toList = c'.streamUrl.toList)
    (h : c.ending ++ s = c'.ending ++ s') : c = c' ∧ s = s' := by
  obtain ⟨horder, hpath, hs⟩ := ending_inj hc hc' h
  obtain ⟨cameraId, streamUrl, sourceOrder, outputPath⟩ := c
  obtain ⟨cameraId', streamUrl', sourceOrder', outputPath'⟩ := c'
  simp only [PipelineCamera.mk.injEq]
  exact ⟨⟨hid, String.toList_injective hurl, horder, hpath⟩, hs⟩

theorem regrouped_of_recordsText (n : ℕ) : ∀ xs ys : List PipelineCamera, (∀ d ∈ xs, d.Shaped) →
    (∀ d ∈ ys, d.Shaped) → (recordsText xs).length < n → recordsText xs = recordsText ys →
      Regrouped xs ys := by
  -- on the length of the text; a first record that agrees is taken off, a longer URL taken apart
  induction n with
  | zero => exact fun _ _ _ _ hlength => absurd hlength (Nat.not_lt_zero _)
  | succ n ih =>
    intro xs ys hxs hys hlength h
    cases xs with
    | nil =>
      cases ys with
      | nil => exact .refl _
      | cons c' ys => exact absurd h.symm (recordsText_ne_nil c' ys)
    | cons c xs =>
      cases ys with
      | nil => exact absurd h (recordsText_ne_nil c xs)
      | cons c' ys =>
        obtain ⟨hid, hrest⟩ := head_of_recordsText h
        have hle : (recordsText (c :: xs)).length ≤ n := Nat.le_of_lt_succ hlength
        rcases Nat.lt_trichotomy c.streamUrl.toList.length c'.streamUrl.toList.length with hlt | heq | hgt
        · exact regrouped_of_shorter ih hxs hys hle hid hlt hrest
        · obtain ⟨hurl, hends⟩ := List.append_inj hrest heq
          obtain ⟨hc, htail⟩ := List.forall_mem_cons.1 hxs
          obtain ⟨hc', htail'⟩ := List.forall_mem_cons.1 hys
          obtain ⟨rfl, htext⟩ := head_eq_of_url hc hc' hid hurl hends
          have hshorter : (recordsText xs).length < n := by
            simp only [recordsText, List.flatMap_cons, PipelineCamera.record, List.length_append,
              List.length_cons] at hle ⊢
            omega
          exact (ih xs ys htail htail' hshorter htext).cons c
        · rw [h] at hle
          exact .symm _ _ (regrouped_of_shorter ih hys hxs hle hid.symm hgt hrest.symm)

/-- Where no URL holds a separator, a text has one list. -/
theorem eq_of_recordsText {xs ys : List PipelineCamera} (hxs : ∀ d ∈ xs, d.Shaped ∧ '|' ∉ d.streamUrl.toList)
    (hys : ∀ d ∈ ys, d.Shaped ∧ '|' ∉ d.streamUrl.toList) (h : recordsText xs = recordsText ys) : xs = ys := by
  induction xs generalizing ys with
  | nil =>
    cases ys with
    | nil => rfl
    | cons c' ys => exact absurd h.symm (recordsText_ne_nil c' ys)
  | cons c xs ih =>
    cases ys with
    | nil => exact absurd h (recordsText_ne_nil c xs)
    | cons c' ys =>
      obtain ⟨⟨hc, hbar⟩, htail⟩ := List.forall_mem_cons.1 hxs
      obtain ⟨⟨hc', hbar'⟩, htail'⟩ := List.forall_mem_cons.1 hys
      obtain ⟨hid, hrest⟩ := head_of_recordsText h
      have hends := hrest
      simp only [PipelineCamera.ending, List.cons_append] at hends
      obtain ⟨hurl, -⟩ := append_cons_inj hbar hbar' hends
      rw [hurl] at hrest
      obtain ⟨rfl, htext⟩ := head_eq_of_url hc hc' hid hurl (List.append_cancel_left hrest)
      rw [ih htail htail' htext]

/-! ## The version -/

/-- What the parameter stands for: an absolute URI with the scheme `rtsp` begins with it, in either case,
when nothing is to be trimmed. -/
def ReadsScheme (runtime : Runtime) : Prop :=
  ∀ text, DotNet.trim text = text → runtime.isRtspUri text = true →
    ∃ first rest, text.toList = first :: rest ∧ first ∈ ['r', 'R']

/-- Enabled Cameras as the Backend serves them: stored rows, in the order of distinct source orders. -/
structure ServedCameras (runtime : Runtime) (cameras : List DeviceCameraConfigurationView) : Prop where
  stored : ∀ view ∈ cameras, ∃ c, CameraWellFormed runtime c ∧ cameraConfiguration c = some view
  sourceOrders : cameras.Pairwise fun a b => a.sourceOrder < b.sourceOrder

/-- The characters of a Camera key. -/
theorem keyChars_of_requireCameraKey {key key' : String} (h : requireCameraKey key = some key') :
    ∀ c ∈ key'.toList, isCameraKeyAlphanumeric c = true ∨ c = '-' := by
  unfold requireCameraKey at h
  simp only at h
  split_ifs at h with hblank hlength hpattern hreserved
  cases h
  have hmatch : matchesCameraKeyPattern (DotNet.trim key) = true := by simpa using hpattern
  simp only [matchesCameraKeyPattern, Bool.and_eq_true, List.all_eq_true, Bool.or_eq_true, beq_iff_eq] at hmatch
  exact hmatch.1.1.2

theorem shaped_of_served {runtime : Runtime} (hruntime : ReadsScheme runtime)
    {cameras : List DeviceCameraConfigurationView} (h : ServedCameras runtime cameras) :
    ∀ c ∈ cameras.map DeviceCameraConfigurationView.pipeline, c.Shaped := by
  intro c hmem
  obtain ⟨view, hview, rfl⟩ := List.mem_map.1 hmem
  obtain ⟨camera, hcamera, hconfiguration⟩ := h.stored view hview
  unfold cameraConfiguration deriveOutputPath at hconfiguration
  rw [hcamera.cameraKey, Option.map_some, Option.map_some] at hconfiguration
  cases hconfiguration
  refine ⟨hruntime _ hcamera.rtspUrl.trim_eq hcamera.isRtspUri, ?_⟩
  have hchars := keyChars_of_requireCameraKey hcamera.cameraKey
  have hno : ∀ c ∈ ['|', ';'], c ∉ camera.cameraKey.toList := by
    intro c hc hmem
    have hplain : ¬ (isCameraKeyAlphanumeric c = true ∨ c = '-') := by
      simp only [List.mem_cons, List.not_mem_nil, or_false] at hc
      rcases hc with rfl | rfl
      · decide
      · decide
    exact hplain (hchars c hmem)
  refine ⟨"ameras/".toList ++ camera.cameraKey.toList, ?_, ?_, ?_⟩
  · simp [DeviceCameraConfigurationView.pipeline, outputPathPrefix]
  · simp [hno '|' (by simp)]
  · simp [hno ';' (by simp)]

theorem mapM_cameraConfiguration {cameras : List Camera} {views : List DeviceCameraConfigurationView}
    (h : cameras.mapM cameraConfiguration = some views) :
    views.map (·.sourceOrder) = cameras.map (·.sourceOrder) ∧
      ∀ view ∈ views, ∃ c ∈ cameras, cameraConfiguration c = some view := by
  induction cameras generalizing views with
  | nil =>
    cases h
    simp
  | cons c cameras ih =>
    simp only [List.mapM_cons, Option.bind_eq_bind, Option.bind_eq_some_iff, Option.pure_def,
      Option.some.injEq] at h
    obtain ⟨view, hview, rest, hrest, rfl⟩ := h
    obtain ⟨horders, hfrom⟩ := ih hrest
    obtain ⟨outputPath, -, hshape⟩ := Option.map_eq_some_iff.1 hview
    refine ⟨?_, ?_⟩
    · rw [List.map_cons, List.map_cons, horders, ← hshape]
    · rintro v hv
      rcases List.mem_cons.1 hv with rfl | hv
      · exact ⟨c, List.mem_cons_self, hview⟩
      · obtain ⟨c', hc', hv'⟩ := hfrom v hv
        exact ⟨c', List.mem_cons_of_mem _ hc', hv'⟩

/-- What `GetConfigurationAsync` returns on stored tables are such Cameras. -/
theorem served_of_getConfiguration {runtime : Runtime} {sha256 : ByteArray → BitVec 256} {db : BranchDb}
    {deviceId branchId : Guid} {now : DateTime} {view : DeviceConfigurationView} (hdb : WellFormed runtime db)
    (h : getConfiguration sha256 db deviceId branchId now = some view) : ServedCameras runtime view.cameras := by
  unfold getConfiguration at h
  obtain ⟨cameras, hcameras, rfl⟩ := Option.map_eq_some_iff.1 h
  obtain ⟨horders, hfrom⟩ := mapM_cameraConfiguration hcameras
  have hperm := List.perm_insertionSort (fun c c' : Camera => c.sourceOrder ≤ c'.sourceOrder)
    (db.enabledCameras branchId)
  have hnodup : ((orderBySourceOrder (db.enabledCameras branchId)).map Camera.sourceOrder).Nodup := by
    refine (hperm.map Camera.sourceOrder).nodup_iff.2 ((hdb.sourceOrders branchId).sublist ?_)
    apply List.Sublist.map
    refine List.monotone_filter_right _ ?_
    intro c hc
    simp only [decide_eq_true_eq] at hc ⊢
    exact hc.1
  have hsorted : ((orderBySourceOrder (db.enabledCameras branchId)).map Camera.sourceOrder).Pairwise (· ≤ ·) :=
    List.pairwise_map.2 (List.pairwise_insertionSort _ _)
  refine ⟨?_, ?_⟩
  · intro view hview
    obtain ⟨c, hc, hserved⟩ := hfrom view hview
    have henabled := hperm.mem_iff.1 hc
    exact ⟨c, hdb.cameras c (List.mem_of_mem_filter henabled), hserved⟩
  · have hlt : (cameras.map (·.sourceOrder)).Pairwise (· < ·) := by
      rw [horders]
      exact (hsorted.and hnodup).imp fun h => lt_of_le_of_ne h.1 h.2
    exact List.pairwise_map.1 hlt

/-- The version of two lists of Cameras is faithful: the text it is a hash of, and so the hash where it has
no collision, is the same exactly when the pipeline depends on the same. -/
structure Faithful (sha256 : ByteArray → BitVec 256) (a b : List DeviceCameraConfigurationView) : Prop where
  text : versionText a = versionText b ↔ a.map (·.pipeline) = b.map (·.pipeline)
  version : computeConfigurationVersion sha256 a = computeConfigurationVersion sha256 b ↔
    a.map (·.pipeline) = b.map (·.pipeline)

theorem versionText_eq_iff {runtime : Runtime} (hruntime : ReadsScheme runtime)
    {a b : List DeviceCameraConfigurationView} (ha : ServedCameras runtime a) (hb : ServedCameras runtime b) :
    versionText a = versionText b ↔ Regrouped (a.map (·.pipeline)) (b.map (·.pipeline)) := by
  have htext : versionText a = versionText b ↔
      recordsText (a.map (·.pipeline)) = recordsText (b.map (·.pipeline)) := by
    rw [← toList_versionText, ← toList_versionText]
    exact ⟨congrArg String.toList, fun h => String.toList_injective h⟩
  rw [htext]
  constructor
  · exact regrouped_of_recordsText _ _ _ (shaped_of_served hruntime ha) (shaped_of_served hruntime hb)
      (Nat.lt_succ_self _)
  · exact recordsText_of_regrouped

theorem toHexStringLower_injective : Function.Injective toHexStringLower := by
  intro d d' h
  have hdigits := String.ofList_injective h
  apply BitVec.eq_of_toNat_eq
  refine Python.eq_of_hexDigits 64 _ _ (by simpa using d.isLt) (by simpa using d'.isLt) ?_
  intro k hk
  exact Python.digit_eq_of_hexDigitsFrom hdigits (by omega) (by omega)

theorem faithful_of_regrouped {runtime : Runtime} (hruntime : ReadsScheme runtime)
    {sha256 : ByteArray → BitVec 256} {a b : List DeviceCameraConfigurationView}
    (ha : ServedCameras runtime a) (hb : ServedCameras runtime b)
    (hfree : sha256 (versionText a).toUTF8 = sha256 (versionText b).toUTF8 →
      (versionText a).toUTF8 = (versionText b).toUTF8)
    (honly : Regrouped (a.map (·.pipeline)) (b.map (·.pipeline)) → a.map (·.pipeline) = b.map (·.pipeline)) :
    Faithful sha256 a b := by
  have htext := versionText_eq_iff hruntime ha hb
  have hhash : computeConfigurationVersion sha256 a = computeConfigurationVersion sha256 b ↔
      versionText a = versionText b := by
    constructor
    · intro h
      exact String.toByteArray_inj.1 (hfree (toHexStringLower_injective h))
    · intro h
      rw [computeConfigurationVersion, computeConfigurationVersion, h]
  have hiff : versionText a = versionText b ↔ a.map (·.pipeline) = b.map (·.pipeline) := by
    refine ⟨fun h => honly (htext.1 h), fun h => htext.2 ?_⟩
    rw [h]
    exact .refl _
  exact ⟨hiff, hhash.trans hiff⟩

/-- **When the version is faithful**: unless the lists are different and come from one another by merging
records into a URL and taking them apart again. -/
theorem configuration_version_faithful {runtime : Runtime} (hruntime : ReadsScheme runtime)
    {sha256 : ByteArray → BitVec 256} {a b : List DeviceCameraConfigurationView}
    (ha : ServedCameras runtime a) (hb : ServedCameras runtime b)
    (hfree : sha256 (versionText a).toUTF8 = sha256 (versionText b).toUTF8 →
      (versionText a).toUTF8 = (versionText b).toUTF8) :
    Faithful sha256 a b ↔
      (Regrouped (a.map (·.pipeline)) (b.map (·.pipeline)) → a.map (·.pipeline) = b.map (·.pipeline)) := by
  constructor
  · intro hfaithful hregrouped
    exact hfaithful.text.1 ((versionText_eq_iff hruntime ha hb).2 hregrouped)
  · exact faithful_of_regrouped hruntime ha hb hfree

/-- URLs without a separator are enough. -/
theorem faithful_of_plain_urls {runtime : Runtime} (hruntime : ReadsScheme runtime)
    {sha256 : ByteArray → BitVec 256} {a b : List DeviceCameraConfigurationView}
    (ha : ServedCameras runtime a) (hb : ServedCameras runtime b)
    (hfree : sha256 (versionText a).toUTF8 = sha256 (versionText b).toUTF8 →
      (versionText a).toUTF8 = (versionText b).toUTF8)
    (hplain : ∀ view ∈ a ++ b, '|' ∉ view.streamUrl.toList) : Faithful sha256 a b := by
  have hshaped : ∀ cameras, ServedCameras runtime cameras → (∀ view ∈ cameras, view ∈ a ++ b) →
      ∀ d ∈ cameras.map (·.pipeline), d.Shaped ∧ '|' ∉ d.streamUrl.toList := by
    intro cameras hserved hsub d hd
    refine ⟨shaped_of_served hruntime hserved d hd, ?_⟩
    obtain ⟨view, hview, rfl⟩ := List.mem_map.1 hd
    exact hplain view (hsub view hview)
  refine faithful_of_regrouped hruntime ha hb hfree ?_
  intro hregrouped
  exact eq_of_recordsText (hshaped a ha (by simp +contextual)) (hshaped b hb (by simp +contextual))
    (recordsText_of_regrouped hregrouped)

/-! ## An edit the version does not show -/

/-- `Uri` on the URLs below. -/
def rtspRuntime : Runtime := ⟨Char.toUpper, fun uri => "rtsp://".toList.isPrefixOf uri.toList⟩

theorem readsScheme_rtspRuntime : ReadsScheme rtspRuntime := by
  intro text _ huri
  have hstart : "rtsp://".toList.isPrefixOf text.toList = true := huri
  obtain ⟨rest, hrest⟩ := List.isPrefixOf_iff_prefix.1 hstart
  exact ⟨'r', "tsp://".toList ++ rest, hrest.symm, by simp⟩

/-- Two Cameras of a Branch, by the name of the first one and the URLs. -/
def twoCameras (name front back : String) : List DeviceCameraConfigurationView :=
  [⟨1, "front-door", name, front, true, 0, "cameras/front-door"⟩,
    ⟨2, "back-door", "Back", back, true, 1, "cameras/back-door"⟩]

theorem served_twoCameras {name front back : String} (hname : IsStoredText 200 name)
    (hfront : IsStoredText 2048 front) (hback : IsStoredText 2048 back)
    (huri : rtspRuntime.isRtspUri front = true) (huri' : rtspRuntime.isRtspUri back = true) :
    ServedCameras rtspRuntime (twoCameras name front back) := by
  have hback' : IsStoredText 200 "Back" := by decide
  have hkey : requireCameraKey "front-door" = some "front-door" := by decide
  have hkey' : requireCameraKey "back-door" = some "back-door" := by decide
  refine ⟨?_, by simp [twoCameras]⟩
  intro view hview
  rcases List.mem_pair.1 hview with rfl | rfl
  · refine ⟨⟨1, 2, name, front, true, "front-door", 0⟩, ?_, ?_⟩
    · exact ⟨hname, hfront, huri, hkey, by simp, by simp⟩
    · rw [cameraConfiguration, deriveOutputPath, hkey]
      rfl
  · refine ⟨⟨2, 2, "Back", back, true, "back-door", 1⟩, ?_, ?_⟩
    · exact ⟨hback', hback, huri', hkey', by simp, by simp⟩
    · rw [cameraConfiguration, deriveOutputPath, hkey']
      rfl

/-- A rename keeps the version, and what the pipeline depends on. -/
theorem configuration_version_faithful_rename :
    Faithful (fun _ => 0) (twoCameras "Front" "rtsp://a/1" "rtsp://b/2")
      (twoCameras "Entrance" "rtsp://a/1" "rtsp://b/2") := by
  have hserved : ∀ name ∈ ["Front", "Entrance"],
      ServedCameras rtspRuntime (twoCameras name "rtsp://a/1" "rtsp://b/2") := by
    intro name hname
    have hstored : ∀ name ∈ ["Front", "Entrance"], IsStoredText 200 name := by decide
    exact served_twoCameras (hstored name hname) (by decide) (by decide) (by decide) (by decide)
  exact (configuration_version_faithful readsScheme_rtspRuntime (hserved "Front" (by simp))
    (hserved "Entrance" (by simp)) (fun _ => rfl)).2 fun _ => rfl

/-- Both URLs are edited, and the text the version is a hash of stays as it was. -/
theorem edited_urls_keep_version :
    ¬ ∀ (runtime : Runtime) (a b : List DeviceCameraConfigurationView), ReadsScheme runtime →
      ServedCameras runtime a → ServedCameras runtime b →
      (versionText a = versionText b ↔ a.map (·.pipeline) = b.map (·.pipeline)) := by
  intro h
  let before := twoCameras "Front" "rtsp://a/1"
    "rtsp://b/2|0|cameras/front-door;00000000-0000-0000-0000-000000000002|rtsp://c/3"
  let after := twoCameras "Front"
    "rtsp://a/1|0|cameras/front-door;00000000-0000-0000-0000-000000000002|rtsp://b/2" "rtsp://c/3"
  have htext : versionText before = versionText after := by decide +kernel
  have hsame := (h rtspRuntime before after readsScheme_rtspRuntime
    (served_twoCameras (by decide) (by decide) (by decide +kernel) (by decide) (by decide))
    (served_twoCameras (by decide) (by decide +kernel) (by decide) (by decide) (by decide))).1 htext
  exact absurd hsame (by decide +kernel)

end WeaponDetection.Backend.Branches
