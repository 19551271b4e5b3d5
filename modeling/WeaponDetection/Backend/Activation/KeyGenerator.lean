import WeaponDetection.Backend.Activation.CredentialLifecycle
import WeaponDetection.Backend.Admin.PasswordHasher
import WeaponDetection.Backend.Branches.WellFormed

/-!
# The texts of keys and secrets

Models `ActivationKeyGenerator.cs`, `GenerateSharedSecret` of `DeviceService.cs` and what
`DataProtectionDeviceSecretProtector.cs` makes of a secret: the credentials that are drawn are those the
registry of Devices works with.
-/

namespace WeaponDetection.Backend.Credentials

open WeaponDetection.Foundations
open WeaponDetection.Backend.Admin (Pbkdf2 Salt)

/-! ## Tokens -/

/-- `RandomNumberGenerator.GetBytes(sizeBytes)`. -/
abbrev Drawn (sizeBytes : ℕ) := {bytes : List UInt8 // bytes.length = sizeBytes}

/-- `GenerateToken`, and `GenerateSharedSecret` with its size. -/
def generateToken {sizeBytes : ℕ} (bytes : Drawn sizeBytes) : String := Base64.encodeToString bytes

theorem generateToken_toList {sizeBytes : ℕ} (bytes : Drawn sizeBytes) :
    (generateToken bytes).toList = Base64.encode Base64.url bytes := String.toList_ofList

/-- No character of a token is white or the delimiter, and each is one code unit. -/
theorem urlChars_plain : (Base64.urlChars.all fun c => !DotNet.isWhiteSpace c && c ≠ '.' && c.toNat < 0x10000) = true :=
  rfl

theorem plain_of_mem_token {sizeBytes : ℕ} {bytes : Drawn sizeBytes} {c : Char} (h : c ∈ (generateToken bytes).toList) :
    DotNet.isWhiteSpace c = false ∧ c ≠ '.' ∧ c.toNat < 0x10000 := by
  rw [generateToken_toList] at h
  have hplain := List.all_eq_true.1 urlChars_plain c (Base64.mem_chars_of_mem_encode h)
  simpa [and_assoc] using hplain

theorem toList_token_ne_nil {sizeBytes : ℕ} (bytes : Drawn sizeBytes) (hsize : 0 < sizeBytes) :
    (generateToken bytes).toList ≠ [] := by
  intro hnil
  have hlength := congrArg List.length hnil
  rw [generateToken_toList, Base64.length_encode, bytes.2, List.length_nil] at hlength
  omega

theorem not_blank_token {sizeBytes : ℕ} (bytes : Drawn sizeBytes) (hsize : 0 < sizeBytes) :
    DotNet.isNullOrWhiteSpace (generateToken bytes) = false := by
  cases hchars : (generateToken bytes).toList with
  | nil => exact absurd hchars (toList_token_ne_nil bytes hsize)
  | cons c rest =>
    have hc : c ∈ (generateToken bytes).toList := hchars ▸ List.mem_cons_self
    exact List.all_eq_false.2 ⟨c, hc, by rw [(plain_of_mem_token hc).1]; exact Bool.false_ne_true⟩

theorem length_token {sizeBytes : ℕ} (bytes : Drawn sizeBytes) :
    DotNet.length (generateToken bytes) = (sizeBytes * 4 + 2) / 3 := by
  have hunits : (generateToken bytes).toList.map (fun c => if c.toNat < 0x10000 then 1 else 2) =
      (generateToken bytes).toList.map fun _ => 1 :=
    List.map_congr_left fun c hc => if_pos (plain_of_mem_token hc).2.2
  rw [DotNet.length, hunits, List.map_const', List.sum_replicate_nat, generateToken_toList, Base64.length_encode,
    bytes.2, Nat.mul_one]

/-! ## Activation Keys -/

/-- `KeyIdSizeBytes`. -/
def keyIdSizeBytes : ℕ := 16

/-- `SecretSizeBytes`, and `SharedSecretSizeBytes` of `DeviceService.cs`. -/
def secretSizeBytes : ℕ := 32

/-- What `Generate` draws. -/
structure KeyDraw where
  keyIdBytes : Drawn keyIdSizeBytes
  secretBytes : Drawn secretSizeBytes
  salt : Salt

variable {kdf : Pbkdf2}

/-- `keyId`. -/
def KeyDraw.keyId (draw : KeyDraw) : String := generateToken draw.keyIdBytes

/-- `secret`. -/
def KeyDraw.secret (draw : KeyDraw) : String := generateToken draw.secretBytes

/-- `plaintextKey`. -/
def KeyDraw.plaintextKey (draw : KeyDraw) : String := draw.keyId ++ "." ++ draw.secret

/-- `secretHash`. -/
def KeyDraw.secretHash (kdf : Pbkdf2) (draw : KeyDraw) : Option String := Admin.hash kdf draw.secret draw.salt

/-- `VerifySecret`. -/
def verifySecret (kdf : Pbkdf2) (secret secretHash : String) : Bool :=
  if DotNet.isNullOrWhiteSpace secret || DotNet.isNullOrWhiteSpace secretHash then false
  else Admin.verify kdf secret secretHash = some .success

/-- The password hasher, the data protection and the collation of the Backend. -/
def backendPlatform (kdf : Pbkdf2) (unprotect : String → Option String) (collate : String → String) : Platform :=
  ⟨verifySecret kdf, unprotect, collate⟩

/-- No other text has the subkey of the secret. -/
def KeyDraw.Unique (kdf : Pbkdf2) (draw : KeyDraw) : Prop :=
  ∀ presented, kdf.derive presented draw.salt Admin.iterations Admin.subkeySizeBytes =
    kdf.derive draw.secret draw.salt Admin.iterations Admin.subkeySizeBytes → presented = draw.secret

theorem KeyDraw.secretHash_eq (draw : KeyDraw) : ∃ stored, draw.secretHash kdf = some stored := by
  have hplain : ¬ DotNet.isNullOrWhiteSpace draw.secret = true := by
    rw [KeyDraw.secret, not_blank_token _ (by decide)]
    exact Bool.false_ne_true
  exact ⟨_, if_neg hplain⟩

/-- The hash verifies its secret. -/
theorem KeyDraw.verifies {draw : KeyDraw} {stored : String} (hstored : draw.secretHash kdf = some stored)
    (hunique : draw.Unique kdf) (presented : String) : verifySecret kdf presented stored = true ↔ presented = draw.secret := by
  have hsecret : DotNet.isNullOrWhiteSpace draw.secret = false := not_blank_token _ (by decide)
  unfold verifySecret
  rw [Admin.not_blank_hash hstored, Bool.or_false]
  cases hpresented : DotNet.isNullOrWhiteSpace presented with
  | true =>
    refine iff_of_false Bool.false_ne_true ?_
    rintro rfl
    rw [hsecret] at hpresented
    cases hpresented
  | false =>
    rw [if_neg Bool.false_ne_true, decide_eq_true_eq, Admin.verify_hash_iff hstored hpresented]
    constructor
    · exact hunique presented
    · rintro rfl
      rfl

/-- `Generate`. -/
def KeyDraw.generated (unprotect : String → Option String) (collate : String → String) (draw : KeyDraw) {stored : String}
    (hstored : draw.secretHash kdf = some stored) (hunique : draw.Unique kdf) :
    GeneratedKey (backendPlatform kdf unprotect collate) :=
  ⟨draw.keyId, draw.secret, stored, draw.verifies hstored hunique⟩

/-- `GenerateSharedSecret`, and what the data protection makes of it. -/
def issueSecret {unprotect : String → Option String} {collate : String → String} (bytes : Drawn secretSizeBytes)
    {protectedSharedSecret : String} (hprotected : unprotect protectedSharedSecret = some (generateToken bytes)) :
    IssuedSecret (backendPlatform kdf unprotect collate) :=
  ⟨generateToken bytes, protectedSharedSecret, length_token bytes, hprotected⟩

/-- **The two halves of a key are read back from its text, with any blanks around it.** -/
theorem tryParse_plaintextKey (draw : KeyDraw) {before after : List Char} (hbefore : ∀ c ∈ before, DotNet.isWhiteSpace c = true)
    (hafter : ∀ c ∈ after, DotNet.isWhiteSpace c = true) :
    tryParseActivationKey (some (String.ofList (before ++ draw.plaintextKey.toList ++ after))) =
      some (draw.keyId, draw.secret) := by
  have hchars : draw.plaintextKey.toList = draw.keyId.toList ++ '.' :: draw.secret.toList := by
    simp [KeyDraw.plaintextKey]
  have hkeyId : draw.keyId.toList ≠ [] := toList_token_ne_nil _ (by decide)
  have hsecret : draw.secret.toList ≠ [] := toList_token_ne_nil _ (by decide)
  have htrimmed : Trimmed DotNet.isWhiteSpace draw.plaintextKey.toList := by
    rw [hchars]
    constructor
    · intro c hc
      rw [List.head?_append_of_ne_nil _ hkeyId] at hc
      exact (plain_of_mem_token (List.mem_of_head? hc)).1
    · intro c hc
      rw [List.getLast?_append_of_ne_nil _ (List.cons_ne_nil _ _), List.getLast?_cons_of_ne_nil hsecret] at hc
      exact (plain_of_mem_token (List.mem_of_getLast? hc)).1
  have hne : draw.plaintextKey.toList ≠ [] := by
    rw [hchars]
    exact List.append_ne_nil_of_left_ne_nil hkeyId _
  have htrim : (DotNet.trim (String.ofList (before ++ draw.plaintextKey.toList ++ after))).toList =
      draw.keyId.toList ++ '.' :: draw.secret.toList := by
    rw [Branches.toList_trim, String.toList_ofList, trimList_append hne htrimmed, List.dropWhile_eq_nil_iff.2 hbefore,
      List.rdropWhile_eq_nil_iff.2 hafter, List.nil_append, List.append_nil, hchars]
  have hblank : DotNet.isNullOrWhiteSpace (String.ofList (before ++ draw.plaintextKey.toList ++ after)) = false := by
    obtain ⟨c, hc⟩ := List.exists_mem_of_ne_nil _ hkeyId
    refine List.all_eq_false.2 ⟨c, ?_, ?_⟩
    · rw [String.toList_ofList, hchars]
      exact List.mem_append_left _ (List.mem_append_right _ (List.mem_append_left _ hc))
    · rw [(plain_of_mem_token hc).1]
      exact Bool.false_ne_true
  have hsplit : (draw.keyId.toList ++ '.' :: draw.secret.toList).splitOn '.' =
      [draw.keyId.toList, draw.secret.toList] := by
    have hpieces : ∀ piece ∈ [draw.keyId.toList, draw.secret.toList], '.' ∉ piece := by
      intro piece hpiece hdot
      rcases List.mem_cons.1 hpiece with rfl | hpiece
      · exact (plain_of_mem_token hdot).2.1 rfl
      · rw [List.mem_singleton.1 hpiece] at hdot
        exact (plain_of_mem_token hdot).2.1 rfl
    have hjoined := List.splitOn_intercalate '.' hpieces (List.cons_ne_nil _ _)
    simpa [List.intercalate] using hjoined
  have hkeyIdBlank : draw.keyId.toList.all DotNet.isWhiteSpace = false := not_blank_token _ (by decide)
  have hsecretBlank : draw.secret.toList.all DotNet.isWhiteSpace = false := not_blank_token _ (by decide)
  unfold tryParseActivationKey
  simp only [hblank, htrim, hsplit, hkeyIdBlank, hsecretBlank, Bool.false_eq_true, if_false, Bool.or_false,
    String.ofList_toList]

end WeaponDetection.Backend.Credentials
