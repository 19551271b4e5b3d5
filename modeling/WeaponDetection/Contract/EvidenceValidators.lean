import WeaponDetection.Agent.Snapshots.Spool
import WeaponDetection.Backend.Snapshots.Upload

/-!
# The two validators of evidence

`validate_snapshot_bytes` of the Agent admits a JPEG to the spool, `JpegInspector.TryGetDimensions` of the
Backend admits it to the store.  Each loop accepts a chain of markers up to a frame header, and the two
chains have different rules: the Agent also skips stray bytes, a further SOI, an EOI and a scan header, reads
TEM with a length, and asks neither for a whole frame segment nor for an EOI at the end.
-/

namespace WeaponDetection.Contract

open WeaponDetection.Agent.Snapshots (Bytes bigEndian sofMarkers markersWithoutLength scanSegments
  validateSnapshotBytes parseJpegDimensions)
open WeaponDetection.Backend.Snapshots (isStartOfFrame scanMarkers tryGetDimensions)

/-! ## The chains -/

/-- The bytes the Agent's loop accepts from where a marker is expected, up to a frame header. -/
inductive AgentChain (width height : ℕ) : Bytes → Prop where
  /-- A byte that is no marker is skipped. -/
  | stray {b : UInt8} {rest : Bytes} (hb : b ≠ 0xFF) (hrest : AgentChain width height rest) :
      AgentChain width height (b :: rest)
  /-- A fill byte. -/
  | fill {rest : Bytes} (hrest : AgentChain width height (0xFF :: rest)) :
      AgentChain width height (0xFF :: 0xFF :: rest)
  /-- SOI, EOI or a restart marker. -/
  | standalone {marker : UInt8} {rest : Bytes} (hmarker : marker ∈ markersWithoutLength)
      (hrest : AgentChain width height rest) : AgentChain width height (0xFF :: marker :: rest)
  /-- Any other segment. -/
  | segment {marker hi lo : UInt8} {body : Bytes} (hfill : marker ≠ 0xFF)
      (hmarker : marker ∉ markersWithoutLength) (hframe : marker ∉ sofMarkers) (hlength : 2 ≤ bigEndian hi lo)
      (hrest : AgentChain width height ((hi :: lo :: body).drop (bigEndian hi lo))) :
      AgentChain width height (0xFF :: marker :: hi :: lo :: body)
  /-- The frame header, as far as its sizes. -/
  | frame {marker hi lo precision h₁ h₀ w₁ w₀ : UInt8} {body : Bytes} (hframe : marker ∈ sofMarkers)
      (hlength : 2 ≤ bigEndian hi lo) (hwidth : width = bigEndian w₁ w₀) (hheight : height = bigEndian h₁ h₀) :
      AgentChain width height
        (0xFF :: marker :: hi :: lo :: precision :: h₁ :: h₀ :: w₁ :: w₀ :: body)

/-- The bytes the Backend's loop accepts. -/
inductive BackendChain (width height : ℕ) : Bytes → Prop where
  | fill {rest : Bytes} (hrest : BackendChain width height (0xFF :: rest)) :
      BackendChain width height (0xFF :: 0xFF :: rest)
  /-- TEM or a restart marker. -/
  | standalone {marker : UInt8} {rest : Bytes} (hmarker : (0xD0 ≤ marker ∧ marker ≤ 0xD7) ∨ marker = 0x01)
      (hrest : BackendChain width height rest) : BackendChain width height (0xFF :: marker :: rest)
  /-- A whole segment, neither EOI nor a scan header. -/
  | segment {marker hi lo : UInt8} {body : Bytes} (hfill : marker ≠ 0xFF)
      (hmarker : ¬ ((0xD0 ≤ marker ∧ marker ≤ 0xD7) ∨ marker = 0x01)) (heoi : marker ≠ 0xD9)
      (hscan : marker ≠ 0xDA) (hframe : isStartOfFrame marker = false) (hlength : 2 ≤ bigEndian hi lo)
      (hwhole : bigEndian hi lo ≤ (hi :: lo :: body).length)
      (hrest : BackendChain width height ((hi :: lo :: body).drop (bigEndian hi lo))) :
      BackendChain width height (0xFF :: marker :: hi :: lo :: body)
  /-- A whole frame segment. -/
  | frame {marker hi lo precision h₁ h₀ w₁ w₀ : UInt8} {body : Bytes} (hframe : isStartOfFrame marker = true)
      (hlength : 7 ≤ bigEndian hi lo)
      (hwhole : bigEndian hi lo ≤ (hi :: lo :: precision :: h₁ :: h₀ :: w₁ :: w₀ :: body).length)
      (hwidth : width = bigEndian w₁ w₀) (hheight : height = bigEndian h₁ h₀) (hpos : 0 < width ∧ 0 < height) :
      BackendChain width height
        (0xFF :: marker :: hi :: lo :: precision :: h₁ :: h₀ :: w₁ :: w₀ :: body)

/-! ## Markers -/

theorem mem_markersWithoutLength {marker : UInt8} :
    marker ∈ markersWithoutLength ↔
      (0xD0 ≤ marker ∧ marker ≤ 0xD7) ∨ marker = 0xD8 ∨ marker = 0xD9 := by
  simp only [markersWithoutLength, List.mem_cons, List.not_mem_nil, or_false, ← UInt8.toNat_inj,
    UInt8.le_iff_toNat_le, UInt8.reduceToNat]
  omega

theorem isStartOfFrame_iff {marker : UInt8} : isStartOfFrame marker = true ↔ marker ∈ sofMarkers := by
  simp only [isStartOfFrame, sofMarkers, List.mem_cons, List.not_mem_nil, or_false, ← UInt8.toNat_inj,
    UInt8.le_iff_toNat_le, UInt8.reduceToNat, decide_eq_true_eq]
  omega

/-- A frame header is none of the other markers. -/
theorem sofMarkers_others {marker : UInt8} (h : marker ∈ sofMarkers) :
    marker ≠ 0xFF ∧ marker ∉ markersWithoutLength ∧ marker ≠ 0x01 ∧ marker ≠ 0xDA := by
  rw [mem_markersWithoutLength]
  simp only [sofMarkers, List.mem_cons, List.not_mem_nil, or_false, ← UInt8.toNat_inj,
    UInt8.le_iff_toNat_le, UInt8.reduceToNat, ne_eq] at h ⊢
  omega

/-! ## The loops accept the chains -/

section Loops

variable {width height : ℕ}

/-- Bytes to be skipped are dropped. -/
theorem scanSegments_drop (skip : ℕ) (rest : Bytes) : scanSegments skip rest = scanSegments 0 (rest.drop skip) := by
  induction rest generalizing skip with
  | nil => simp [scanSegments]
  | cons b rest ih =>
    cases skip with
    | zero => rfl
    | succ skip =>
      rw [scanSegments, ih]
      rfl

theorem scanMarkers_drop (skip : ℕ) (rest : Bytes) : scanMarkers skip rest = scanMarkers 0 (rest.drop skip) := by
  induction rest generalizing skip with
  | nil => simp [scanMarkers]
  | cons b rest ih =>
    cases skip with
    | zero => rfl
    | succ skip =>
      rw [scanMarkers, ih]
      rfl

/-- One round of the Agent's loop. -/
theorem scanSegments_round (b marker : UInt8) (segment : Bytes) :
    scanSegments 0 (b :: marker :: segment) =
      if b ≠ 0xFF ∨ marker = 0xFF then scanSegments 0 (marker :: segment)
      else if marker ∈ markersWithoutLength then scanSegments 0 segment
      else
        match segment with
        | hi :: lo :: body =>
          if bigEndian hi lo < 2 then none
          else if marker ∈ sofMarkers then
            match body with
            | _ :: h₁ :: h₀ :: w₁ :: w₀ :: _ => some (bigEndian w₁ w₀, bigEndian h₁ h₀)
            | _ => none
          else scanSegments 0 (segment.drop (bigEndian hi lo))
        | _ => none := by
  match segment with
  | [] => simp [scanSegments]
  | [hi] => simp [scanSegments]
  | hi :: lo :: body =>
    rw [scanSegments.eq_def]
    simp only [scanSegments_drop 1, scanSegments_drop (1 + bigEndian hi lo), List.drop_succ_cons, List.drop_zero]
    rw [Nat.add_comm 1, List.drop_succ_cons]
    all_goals rfl

/-- One round of the Backend's loop. -/
theorem scanMarkers_round (b marker : UInt8) (segment : Bytes) :
    scanMarkers 0 (b :: marker :: segment) =
      if b ≠ 0xFF then none
      else if marker = 0xFF then scanMarkers 0 (marker :: segment)
      else if (0xD0 ≤ marker ∧ marker ≤ 0xD7) ∨ marker = 0x01 then scanMarkers 0 segment
      else if marker = 0xD9 then none
      else
        match segment with
        | hi :: lo :: body =>
          if bigEndian hi lo < 2 ∨ segment.length < bigEndian hi lo then none
          else if isStartOfFrame marker then
            if bigEndian hi lo < 7 then none
            else
              match body with
              | _ :: h₁ :: h₀ :: w₁ :: w₀ :: _ =>
                if bigEndian w₁ w₀ ≤ 0 ∨ bigEndian h₁ h₀ ≤ 0 then none
                else some (bigEndian w₁ w₀, bigEndian h₁ h₀)
              | _ => none
          else if marker = 0xDA then none
          else scanMarkers 0 (segment.drop (bigEndian hi lo))
        | _ => none := by
  match segment with
  | [] => simp [scanMarkers]
  | [hi] => simp [scanMarkers]
  | hi :: lo :: body =>
    rw [scanMarkers.eq_def]
    simp only [scanMarkers_drop 1, scanMarkers_drop (1 + _), List.drop_succ_cons, List.drop_zero]
    rw [Nat.add_comm 1, List.drop_succ_cons]
    rfl

theorem scanSegments_of_chain {rest : Bytes} (h : AgentChain width height rest) :
    scanSegments 0 rest = some (width, height) := by
  induction h with
  | @stray b rest hb hrest ih =>
    cases rest with
    | nil => simp [scanSegments] at ih
    | cons marker segment => rw [scanSegments_round, if_pos (.inl hb), ih]
  | fill _ ih => rw [scanSegments_round, if_pos (.inr rfl), ih]
  | @standalone marker rest hmarker hrest ih =>
    have hfill : marker ≠ 0xFF := by
      rintro rfl
      exact absurd hmarker (by decide)
    simp [scanSegments_round, hfill, hmarker, ih]
  | segment hfill hmarker hframe hlength _ ih =>
    simp [scanSegments_round, hfill, hmarker, hframe, Nat.not_lt.2 hlength, ih]
  | @frame marker hi lo precision h₁ h₀ w₁ w₀ body hframe hlength hwidth hheight =>
    obtain ⟨hfill, hmarker, -⟩ := sofMarkers_others hframe
    simp [scanSegments_round, hfill, hmarker, hframe, Nat.not_lt.2 hlength, hwidth, hheight]

theorem chain_of_scanSegments {n : ℕ} {rest : Bytes} (h : scanSegments n rest = some (width, height)) :
    AgentChain width height (rest.drop n) := by
  induction rest generalizing n with
  | nil => simp [scanSegments] at h
  | cons b rest ih =>
    cases n with
    | succ n => exact ih h
    | zero =>
      cases rest with
      | nil => simp [scanSegments] at h
      | cons marker segment =>
        rw [scanSegments_round] at h
        by_cases hskip : b ≠ 0xFF ∨ marker = 0xFF
        · -- a stray byte, or a fill byte before the marker
          rw [if_pos hskip] at h
          by_cases hb : b = 0xFF
          · obtain rfl : marker = 0xFF := hskip.resolve_left (fun hne => hne hb)
            subst hb
            exact .fill (ih (n := 0) h)
          · exact .stray hb (ih (n := 0) h)
        rw [if_neg hskip] at h
        obtain ⟨rfl, hfill⟩ : b = 0xFF ∧ marker ≠ 0xFF := by simpa using hskip
        by_cases hmarker : marker ∈ markersWithoutLength
        · rw [if_pos hmarker] at h
          exact .standalone hmarker (ih (n := 1) (by rwa [scanSegments_drop]))
        rw [if_neg hmarker] at h
        rcases segment with _ | ⟨hi, _ | ⟨lo, body⟩⟩
        · simp at h
        · simp at h
        · simp only at h
          by_cases hframe : marker ∈ sofMarkers
          · rcases body with _ | ⟨precision, _ | ⟨h₁, _ | ⟨h₀, _ | ⟨w₁, _ | ⟨w₀, body⟩⟩⟩⟩⟩
            iterate 5 · simp [hframe] at h
            rw [if_pos hframe] at h
            split_ifs at h with hlength
            cases h
            exact .frame hframe (Nat.not_lt.1 hlength) rfl rfl
          · rw [if_neg hframe] at h
            split_ifs at h with hlength
            refine .segment hfill hmarker hframe (Nat.not_lt.1 hlength) ?_
            have hrest := ih (n := 1 + bigEndian hi lo) (by
              rw [scanSegments_drop, Nat.add_comm 1, List.drop_succ_cons]
              exact h)
            rwa [Nat.add_comm 1, List.drop_succ_cons] at hrest

/-- **The Agent's loop accepts its chains.** -/
theorem scanSegments_eq_some_iff {rest : Bytes} :
    scanSegments 0 rest = some (width, height) ↔ AgentChain width height rest :=
  ⟨chain_of_scanSegments, scanSegments_of_chain⟩

theorem scanMarkers_of_chain {rest : Bytes} (h : BackendChain width height rest) :
    scanMarkers 0 rest = some (width, height) := by
  induction h with
  | fill _ ih => rw [scanMarkers_round, if_neg (by decide), if_pos rfl, ih]
  | @standalone marker rest hmarker hrest ih =>
    have hfill : marker ≠ 0xFF := by
      rintro rfl
      exact absurd hmarker (by decide)
    simp [scanMarkers_round, hfill, hmarker, ih]
  | segment hfill hmarker heoi hscan hframe hlength hwhole _ ih =>
    rw [scanMarkers_round, if_neg (by decide), if_neg hfill, if_neg hmarker, if_neg heoi]
    simp only
    rw [if_neg (not_or_intro (Nat.not_lt.2 hlength) (Nat.not_lt.2 hwhole)), hframe, if_neg Bool.false_ne_true,
      if_neg hscan, ih]
  | @frame marker hi lo precision h₁ h₀ w₁ w₀ body hframe hlength hwhole hwidth hheight hpos =>
    obtain ⟨hfill, hmarker, htem, hscan⟩ := sofMarkers_others (isStartOfFrame_iff.1 hframe)
    rw [mem_markersWithoutLength, not_or, not_or] at hmarker
    obtain ⟨hrestart, hsoi, heoi⟩ := hmarker
    subst hwidth hheight
    rw [scanMarkers_round, if_neg (by decide), if_neg hfill, if_neg (not_or_intro hrestart htem), if_neg heoi]
    simp only
    rw [if_neg (not_or_intro (by omega) (Nat.not_lt.2 hwhole)), hframe, if_pos rfl, if_neg (Nat.not_lt.2 hlength),
      if_neg (by omega)]

theorem chain_of_scanMarkers {n : ℕ} {rest : Bytes} (h : scanMarkers n rest = some (width, height)) :
    BackendChain width height (rest.drop n) := by
  induction rest generalizing n with
  | nil => simp [scanMarkers] at h
  | cons b rest ih =>
    cases n with
    | succ n => exact ih h
    | zero =>
      cases rest with
      | nil => simp [scanMarkers] at h
      | cons marker segment =>
        rw [scanMarkers_round] at h
        by_cases hb : b ≠ 0xFF
        · simp [hb] at h
        obtain rfl : b = 0xFF := not_not.1 hb
        rw [if_neg hb] at h
        by_cases hfill : marker = 0xFF
        · subst hfill
          exact .fill (ih (n := 0) h)
        rw [if_neg hfill] at h
        by_cases hmarker : (0xD0 ≤ marker ∧ marker ≤ 0xD7) ∨ marker = 0x01
        · rw [if_pos hmarker] at h
          exact .standalone hmarker (ih (n := 1) (by rwa [scanMarkers_drop]))
        rw [if_neg hmarker] at h
        by_cases heoi : marker = 0xD9
        · simp [heoi] at h
        rw [if_neg heoi] at h
        rcases segment with _ | ⟨hi, _ | ⟨lo, body⟩⟩
        · simp at h
        · simp at h
        · simp only at h
          by_cases hshort : bigEndian hi lo < 2 ∨ (hi :: lo :: body).length < bigEndian hi lo
          · rw [if_pos hshort] at h
            cases h
          rw [if_neg hshort] at h
          obtain ⟨hlength, hwhole⟩ := not_or.1 hshort
          by_cases hframe : isStartOfFrame marker = true
          · rw [if_pos hframe] at h
            by_cases hseven : bigEndian hi lo < 7
            · rw [if_pos hseven] at h
              cases h
            rw [if_neg hseven] at h
            rcases body with _ | ⟨precision, _ | ⟨h₁, _ | ⟨h₀, _ | ⟨w₁, _ | ⟨w₀, body⟩⟩⟩⟩⟩
            iterate 5 · simp at h
            simp only at h
            split_ifs at h with hzero
            cases h
            obtain ⟨hw, hh⟩ := not_or.1 hzero
            exact .frame hframe (Nat.not_lt.1 hseven) (Nat.not_lt.1 hwhole) rfl rfl
              ⟨Nat.not_le.1 hw, Nat.not_le.1 hh⟩
          · rw [if_neg hframe] at h
            split_ifs at h with hscan
            refine .segment hfill hmarker heoi hscan (Bool.eq_false_iff.2 hframe) (Nat.not_lt.1 hlength)
              (Nat.not_lt.1 hwhole) ?_
            have hrest := ih (n := 1 + bigEndian hi lo) (by
              rw [scanMarkers_drop, Nat.add_comm 1, List.drop_succ_cons]
              exact h)
            rwa [Nat.add_comm 1, List.drop_succ_cons] at hrest

/-- **The Backend's loop accepts its chains.** -/
theorem scanMarkers_eq_some_iff {rest : Bytes} :
    scanMarkers 0 rest = some (width, height) ↔ BackendChain width height rest :=
  ⟨chain_of_scanMarkers, scanMarkers_of_chain⟩

end Loops

/-! ## What both read alike -/

/-- A marker chain both sides accept with the same size.  The last two constructors are the markers of which
one side takes the next bytes for a segment and the other does not: beyond them the two chains go on at
different places, and it is a coincidence when they come to headers of one size. -/
inductive CommonChain (width height : ℕ) : Bytes → Prop where
  | fill {rest : Bytes} (hrest : CommonChain width height (0xFF :: rest)) :
      CommonChain width height (0xFF :: 0xFF :: rest)
  | restart {marker : UInt8} {rest : Bytes} (hmarker : 0xD0 ≤ marker ∧ marker ≤ 0xD7)
      (hrest : CommonChain width height rest) : CommonChain width height (0xFF :: marker :: rest)
  /-- A segment that is neither a scan header nor the frame header. -/
  | segment {marker hi lo : UInt8} {body : Bytes} (hfill : marker ≠ 0xFF)
      (hmarker : marker ∉ markersWithoutLength) (htem : marker ≠ 0x01) (hscan : marker ≠ 0xDA)
      (hframe : marker ∉ sofMarkers) (hlength : 2 ≤ bigEndian hi lo)
      (hrest : CommonChain width height ((hi :: lo :: body).drop (bigEndian hi lo))) :
      CommonChain width height (0xFF :: marker :: hi :: lo :: body)
  /-- The frame header, of which the whole segment is there. -/
  | frame {marker hi lo precision h₁ h₀ w₁ w₀ : UInt8} {body : Bytes} (hframe : marker ∈ sofMarkers)
      (hlength : 7 ≤ bigEndian hi lo)
      (hwhole : bigEndian hi lo ≤ (hi :: lo :: precision :: h₁ :: h₀ :: w₁ :: w₀ :: body).length)
      (hwidth : width = bigEndian w₁ w₀) (hheight : height = bigEndian h₁ h₀) :
      CommonChain width height
        (0xFF :: marker :: hi :: lo :: precision :: h₁ :: h₀ :: w₁ :: w₀ :: body)
  /-- A further SOI: a marker for the Agent, a segment for the Backend. -/
  | soi {hi lo : UInt8} {body : Bytes} (hlength : 2 ≤ bigEndian hi lo)
      (hagent : AgentChain width height (hi :: lo :: body))
      (hbackend : BackendChain width height ((hi :: lo :: body).drop (bigEndian hi lo))) :
      CommonChain width height (0xFF :: 0xD8 :: hi :: lo :: body)
  /-- TEM: a segment for the Agent, a marker for the Backend. -/
  | tem {hi lo : UInt8} {body : Bytes} (hlength : 2 ≤ bigEndian hi lo)
      (hagent : AgentChain width height ((hi :: lo :: body).drop (bigEndian hi lo)))
      (hbackend : BackendChain width height (hi :: lo :: body)) :
      CommonChain width height (0xFF :: 0x01 :: hi :: lo :: body)

section Agreement

variable {width height : ℕ}

theorem BackendChain.ne_nil {rest : Bytes} (h : BackendChain width height rest) : rest ≠ [] := by
  cases h <;> exact List.cons_ne_nil _ _

theorem length_le_of_drop {n : ℕ} {rest : Bytes} (h : rest.drop n ≠ []) : n ≤ rest.length := by
  by_contra hshort
  exact h (List.drop_eq_nil_of_le (by omega))

theorem CommonChain.backend {rest : Bytes} (hpos : 0 < width ∧ 0 < height) (h : CommonChain width height rest) :
    BackendChain width height rest := by
  induction h with
  | fill _ ih => exact .fill ih
  | restart hmarker _ ih => exact .standalone (.inl hmarker) ih
  | @segment marker hi lo body hfill hmarker htem hscan hframe hlength _ ih =>
    rw [mem_markersWithoutLength, not_or, not_or] at hmarker
    obtain ⟨hrestart, hsoi, heoi⟩ := hmarker
    rw [← isStartOfFrame_iff] at hframe
    exact .segment hfill (not_or_intro hrestart htem) heoi hscan (Bool.eq_false_iff.2 hframe) hlength
      (length_le_of_drop ih.ne_nil) ih
  | frame hframe hlength hwhole hwidth hheight =>
    exact .frame (isStartOfFrame_iff.2 hframe) hlength hwhole hwidth hheight hpos
  | soi hlength _ hbackend =>
    exact .segment (by decide) (by decide) (by decide) (by decide) (by decide) hlength
      (length_le_of_drop hbackend.ne_nil) hbackend
  | tem _ _ hbackend => exact .standalone (.inr rfl) hbackend

/-- Of a chain the Agent accepts, the Backend accepts what both read alike. -/
theorem AgentChain.common {rest : Bytes} (hagent : AgentChain width height rest)
    (h : BackendChain width height rest) : CommonChain width height rest := by
  induction hagent with
  | stray hb _ _ =>
    -- the Backend refuses a byte that is no marker
    cases h <;> exact absurd rfl hb
  | fill _ ih =>
    cases h with
    | fill hrest => exact .fill (ih hrest)
    | standalone hmarker _ => exact absurd hmarker (by decide)
    | segment hfill => exact absurd rfl hfill
    | frame hframe => exact absurd hframe (by decide)
  | standalone hmarker hrest ih =>
    cases h with
    | fill _ => exact absurd hmarker (by decide)
    | standalone hrestart hbackend =>
      rcases hrestart with hrestart | rfl
      · exact .restart hrestart (ih hbackend)
      · exact absurd hmarker (by decide)
    | segment _ hrestart heoi _ _ hlength _ hbackend =>
      -- of the markers without a length the Backend gives one to SOI alone
      rcases mem_markersWithoutLength.1 hmarker with hd | rfl | rfl
      · exact absurd (.inl hd) hrestart
      · exact .soi hlength hrest hbackend
      · exact absurd rfl heoi
    | frame hframe => exact absurd hmarker (sofMarkers_others (isStartOfFrame_iff.1 hframe)).2.1
  | segment hfill hmarker hframe hlength hrest ih =>
    cases h with
    | fill _ => exact absurd rfl hfill
    | standalone hrestart hbackend =>
      rcases hrestart with hrestart | rfl
      · exact absurd (mem_markersWithoutLength.2 (.inl hrestart)) hmarker
      · exact .tem hlength hrest hbackend
    | segment _ hrestart _ hscan _ _ _ hbackend =>
      exact .segment hfill hmarker (fun htem => hrestart (.inr htem)) hscan hframe hlength (ih hbackend)
    | frame hstart => exact absurd (isStartOfFrame_iff.1 hstart) hframe
  | frame hframe hlength hwidth hheight =>
    obtain ⟨hfill, hmarker, htem, hscan⟩ := sofMarkers_others hframe
    cases h with
    | fill _ => exact absurd rfl hfill
    | standalone hrestart _ =>
      rcases hrestart with hrestart | rfl
      · exact absurd (mem_markersWithoutLength.2 (.inl hrestart)) hmarker
      · exact absurd rfl htem
    | segment _ _ _ _ hstart => exact absurd (isStartOfFrame_iff.2 hframe) (Bool.eq_false_iff.1 hstart)
    | frame _ hseven hwhole => exact .frame hframe hseven hwhole hwidth hheight

end Agreement

/-! ## The validators -/

/-- The data ends with EOI. -/
def EndsWithEoi (data : Bytes) : Prop := data.drop (data.length - 2) = [0xFF, 0xD9]

theorem validateSnapshotBytes_eq_ok {data : Bytes} {maxFileBytes width height : ℕ}
    (h : validateSnapshotBytes data maxFileBytes = .ok (width, height)) :
    4 ≤ data.length ∧ data.take 2 = [0xFF, 0xD8] ∧ AgentChain width height (data.drop 2) ∧
      0 < width ∧ 0 < height := by
  unfold validateSnapshotBytes at h
  split_ifs at h
  cases hparse : parseJpegDimensions data with
  | none => simp [hparse] at h
  | some dimensions =>
    obtain ⟨w, h'⟩ := dimensions
    simp only [hparse] at h
    split_ifs at h with hzero
    cases h
    obtain ⟨hw, hh⟩ := not_or.1 hzero
    unfold parseJpegDimensions at hparse
    split_ifs at hparse with hshort
    obtain ⟨hlength, hsoi⟩ := not_or.1 hshort
    exact ⟨Nat.not_lt.1 hlength, not_not.1 hsoi, scanSegments_eq_some_iff.1 hparse, Nat.not_le.1 hw,
      Nat.not_le.1 hh⟩

theorem tryGetDimensions_eq_some_iff {data : Bytes} {width height : ℕ} :
    tryGetDimensions data = some (width, height) ↔
      4 ≤ data.length ∧ data.take 2 = [0xFF, 0xD8] ∧ EndsWithEoi data ∧ BackendChain width height (data.drop 2) := by
  unfold tryGetDimensions EndsWithEoi
  rw [← scanMarkers_eq_some_iff]
  split_ifs with hbad
  · simp only [false_iff]
    rintro ⟨hlength, hsoi, heoi, -⟩
    rcases hbad with hbad | hbad | hbad
    · omega
    · exact hbad hsoi
    · exact hbad heoi
  · obtain ⟨hlength, hrest⟩ := not_or.1 hbad
    obtain ⟨hsoi, heoi⟩ := not_or.1 hrest
    exact ⟨fun h => ⟨Nat.not_lt.1 hlength, not_not.1 hsoi, not_not.1 heoi, h⟩, fun h => h.2.2.2⟩

/-- **The validators agree on exactly the snapshots that end with EOI and whose markers up to the frame
header both read alike.** -/
theorem evidence_validators_agree {data : Bytes} {maxFileBytes width height : ℕ}
    (h : validateSnapshotBytes data maxFileBytes = .ok (width, height)) :
    tryGetDimensions data = some (width, height) ↔
      EndsWithEoi data ∧ CommonChain width height (data.drop 2) := by
  obtain ⟨hlength, hsoi, hagent, hpos⟩ := validateSnapshotBytes_eq_ok h
  rw [tryGetDimensions_eq_some_iff]
  constructor
  · rintro ⟨-, -, heoi, hbackend⟩
    exact ⟨heoi, hagent.common hbackend⟩
  · rintro ⟨heoi, hcommon⟩
    exact ⟨hlength, hsoi, heoi, hcommon.backend hpos⟩

/-- A frame header of 32 by 16 and the end of the image. -/
def wholeJpeg : Bytes := [0xFF, 0xD8, 0xFF, 0xC0, 0, 8, 8, 0, 16, 0, 32, 1, 0xFF, 0xD9]

theorem evidence_validators_agree_whole :
    EndsWithEoi wholeJpeg ∧ CommonChain 32 16 (wholeJpeg.drop 2) :=
  (evidence_validators_agree (by decide : validateSnapshotBytes wholeJpeg 14 = .ok (32, 16))).1 (by decide)

/-- Cut off behind the frame header, the image is captured and can never be uploaded. -/
theorem truncated_jpeg_refused :
    validateSnapshotBytes (wholeJpeg.take 12) 14 = .ok (32, 16) ∧ tryGetDimensions (wholeJpeg.take 12) = none := by
  decide

end WeaponDetection.Contract
