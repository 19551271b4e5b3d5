import WeaponDetection.Foundations.Base64
import WeaponDetection.Foundations.DotNet

/-!
# Stored password hashes

Models `Pbkdf2PasswordHasher.cs`.  A stored hash is the base 64 text of a version byte, the iteration count, the
salt and the derived subkey.  `verify_eq_success_iff` says which texts are accepted for a password, and
`verify_hash_iff` which passwords for the text written for one.
-/

namespace WeaponDetection.Backend.Admin

open WeaponDetection.Foundations
open WeaponDetection.Foundations.Base64 (fromBase64String toBase64String)

/-! ## The hasher -/

/-- `Rfc2898DeriveBytes.Pbkdf2` with SHA-256: as many bytes as asked for. -/
structure Pbkdf2 where
  derive : String → List UInt8 → ℕ → ℕ → List UInt8
  length_derive : ∀ password salt iterations size, (derive password salt iterations size).length = size

/-- `PasswordVerificationResult`. -/
inductive PasswordVerificationResult where
  | failed
  | success
  deriving DecidableEq

/-- `FormatVersion`. -/
def formatVersion : UInt8 := 1

/-- `SaltSizeBytes`. -/
def saltSizeBytes : ℕ := 16

/-- `SubkeySizeBytes`. -/
def subkeySizeBytes : ℕ := 32

/-- `Iterations`. -/
def iterations : ℕ := 210000

/-- `PayloadLength`. -/
def payloadLength : ℕ := 1 + 4 + saltSizeBytes + subkeySizeBytes

/-- `BitConverter.GetBytes` of an `int` that is not negative, lowest byte first. -/
def getBytes (n : ℕ) : List UInt8 :=
  [UInt8.ofNat n, UInt8.ofNat (n / 256), UInt8.ofNat (n / 65536), UInt8.ofNat (n / 16777216)]

/-- The number four bytes stand for. -/
def littleEndian (a b c d : UInt8) : ℕ := a.toNat + b.toNat * 256 + c.toNat * 65536 + d.toNat * 16777216

/-- `BitConverter.ToInt32` of the first four bytes. -/
def toInt32 : List UInt8 → ℤ
  | a :: b :: c :: d :: _ =>
    if littleEndian a b c d < 2147483648 then (littleEndian a b c d : ℤ)
    else (littleEndian a b c d : ℤ) - 4294967296
  | _ => 0

/-- `payload`. -/
def payload (iterations : ℕ) (salt subkey : List UInt8) : List UInt8 :=
  formatVersion :: (getBytes iterations ++ salt ++ subkey)

/-- What `RandomNumberGenerator.GetBytes(SaltSizeBytes)` draws. -/
abbrev Salt := {salt : List UInt8 // salt.length = saltSizeBytes}

variable {kdf : Pbkdf2}

/-- `Hash`, `none` for an `ArgumentException`. -/
def hash (kdf : Pbkdf2) (password : String) (salt : Salt) : Option String :=
  if DotNet.isNullOrWhiteSpace password then none
  else some (toBase64String (payload iterations salt (kdf.derive password salt iterations subkeySizeBytes)))

/-- `Verify`, `none` for an `ArgumentException`. -/
def verify (kdf : Pbkdf2) (password hashedPassword : String) : Option PasswordVerificationResult :=
  if DotNet.isNullOrWhiteSpace password then none
  else if DotNet.isNullOrWhiteSpace hashedPassword then some .failed
  else
    match fromBase64String hashedPassword with
    | none => some .failed
    | some payload =>
      if payload.length ≠ payloadLength ∨ payload.head? ≠ some formatVersion then some .failed
      else
        let iterations := toInt32 (payload.drop 1)
        if iterations ≤ 0 then some .failed
        else
          let salt := (payload.drop (1 + 4)).take saltSizeBytes
          let expectedSubkey := (payload.drop (1 + 4 + saltSizeBytes)).take subkeySizeBytes
          let actualSubkey := kdf.derive password salt iterations.toNat subkeySizeBytes
          if actualSubkey = expectedSubkey then some .success else some .failed

/-! ## The payload -/

@[simp] theorem length_getBytes (n : ℕ) : (getBytes n).length = 4 := rfl

theorem getBytes_littleEndian (a b c d : UInt8) : getBytes (littleEndian a b c d) = [a, b, c, d] := by
  have ha := a.toNat_lt
  have hb := b.toNat_lt
  have hc := c.toNat_lt
  have hd := d.toNat_lt
  unfold getBytes littleEndian
  rw [Base64.ofNat_eq (x := a) (by omega), Base64.ofNat_eq (x := b) (by omega), Base64.ofNat_eq (x := c) (by omega),
    Base64.ofNat_eq (x := d) (by omega)]

theorem littleEndian_getBytes {n : ℕ} (h : n < 4294967296) :
    littleEndian (UInt8.ofNat n) (UInt8.ofNat (n / 256)) (UInt8.ofNat (n / 65536)) (UInt8.ofNat (n / 16777216)) = n := by
  unfold littleEndian
  simp only [UInt8.toNat_ofNat']
  omega

theorem toInt32_getBytes {n : ℕ} (h : n < 2147483648) (rest : List UInt8) : toInt32 (getBytes n ++ rest) = n := by
  unfold getBytes
  simp only [List.cons_append, List.nil_append]
  rw [toInt32, littleEndian_getBytes (by omega), if_pos h]

/-- A positive number stands in the bytes that are written for it. -/
theorem getBytes_toInt32 {a b c d : UInt8} {rest : List UInt8} (h : 0 < toInt32 (a :: b :: c :: d :: rest)) :
    toInt32 (a :: b :: c :: d :: rest) < 2147483648 ∧
      getBytes (toInt32 (a :: b :: c :: d :: rest)).toNat = [a, b, c, d] := by
  have hbound : littleEndian a b c d < 4294967296 := by
    have ha := a.toNat_lt
    have hb := b.toNat_lt
    have hc := c.toNat_lt
    have hd := d.toNat_lt
    unfold littleEndian
    omega
  rw [toInt32] at h ⊢
  split at h
  · rename_i hlt
    rw [if_pos hlt, Int.toNat_natCast, getBytes_littleEndian]
    exact ⟨by omega, rfl⟩
  · omega

theorem length_payload {n : ℕ} {salt subkey : List UInt8} (hsalt : salt.length = saltSizeBytes)
    (hsubkey : subkey.length = subkeySizeBytes) : (payload n salt subkey).length = payloadLength := by
  simp only [payload, List.length_cons, List.length_append, length_getBytes, hsalt, hsubkey]
  rfl

/-- Bytes of the length and version that name a positive count are a payload. -/
theorem eq_payload {bytes : List UInt8} (hlength : bytes.length = payloadLength)
    (hversion : bytes.head? = some formatVersion) (hcount : 0 < toInt32 (bytes.drop 1)) :
    toInt32 (bytes.drop 1) < 2147483648 ∧
      bytes = payload (toInt32 (bytes.drop 1)).toNat ((bytes.drop (1 + 4)).take saltSizeBytes)
        ((bytes.drop (1 + 4 + saltSizeBytes)).take subkeySizeBytes) := by
  rcases bytes with _ | ⟨version, _ | ⟨a, _ | ⟨b, _ | ⟨c, _ | ⟨d, rest⟩⟩⟩⟩⟩
  · cases hlength
  · cases hlength
  · cases hlength
  · cases hlength
  · cases hlength
  · have hrest : rest.length = saltSizeBytes + subkeySizeBytes := by
      simp only [List.length_cons, payloadLength] at hlength
      omega
    obtain ⟨hlt, hbytes⟩ : toInt32 (a :: b :: c :: d :: rest) < 2147483648 ∧
        getBytes (toInt32 (a :: b :: c :: d :: rest)).toNat = [a, b, c, d] := getBytes_toInt32 hcount
    refine ⟨hlt, ?_⟩
    have hsubkey : (rest.drop saltSizeBytes).take subkeySizeBytes = rest.drop saltSizeBytes :=
      List.take_of_length_le (by rw [List.length_drop, hrest]; omega)
    have hdrop : (version :: a :: b :: c :: d :: rest).drop (1 + 4 + saltSizeBytes) = rest.drop saltSizeBytes := by
      rw [← List.drop_drop]
      rfl
    rw [hdrop, hsubkey, payload]
    simp only [List.drop_succ_cons, List.drop_zero]
    rw [hbytes, List.append_assoc, List.take_append_drop, Option.some.inj hversion]
    rfl

/-! ## Which passwords are accepted -/

theorem standardChars_not_white : (Base64.standardChars.all fun c => !DotNet.isWhiteSpace c) = true := rfl

/-- A text of some bytes is not blank. -/
theorem not_blank_of_fromBase64String {text : String} {bytes : List UInt8} (h : fromBase64String text = some bytes)
    (hne : bytes ≠ []) : DotNet.isNullOrWhiteSpace text = false := by
  obtain ⟨c, hc, hchar⟩ := Base64.exists_mem_of_fromBase64String h hne
  refine List.all_eq_false.2 ⟨c, hc, ?_⟩
  have hwhite := List.all_eq_true.1 standardChars_not_white c hchar
  simpa using hwhite

/-- **A stored text is accepted for a password when it is the payload of the password's subkey under a salt and
a count of its own.** -/
theorem verify_eq_success_iff {password stored : String} (hpassword : DotNet.isNullOrWhiteSpace password = false) :
    verify kdf password stored = some .success ↔
      ∃ (salt : Salt) (count : ℕ), 0 < count ∧ count < 2147483648 ∧
        fromBase64String stored = some (payload count salt (kdf.derive password salt count subkeySizeBytes)) := by
  constructor
  · intro h
    unfold verify at h
    rw [hpassword, if_neg Bool.false_ne_true] at h
    split at h
    · cases h
    split at h
    · cases h
    rename_i bytes hbytes
    split at h
    · cases h
    rename_i hform
    simp only at h
    split at h
    · cases h
    rename_i hcount
    split at h
    · rename_i hsubkey
      obtain ⟨hlength, hversion⟩ := not_or.1 hform
      obtain ⟨hlt, hpayload⟩ := eq_payload (not_not.1 hlength) (not_not.1 hversion) (Int.not_le.1 hcount)
      have hsalt : ((bytes.drop (1 + 4)).take saltSizeBytes).length = saltSizeBytes := by
        rw [List.length_take, List.length_drop, not_not.1 hlength]
        rfl
      refine ⟨⟨_, hsalt⟩, (toInt32 (bytes.drop 1)).toNat, by omega, by omega, ?_⟩
      rw [hbytes, hsubkey]
      exact congrArg some hpayload
    · cases h
  · rintro ⟨⟨salt, hsalt⟩, count, hpos, hlt, hbytes⟩
    have hsubkey := kdf.length_derive password salt count subkeySizeBytes
    have hcount : toInt32 ((payload count salt (kdf.derive password salt count subkeySizeBytes)).drop 1) = count := by
      change toInt32 (getBytes count ++ salt ++ _) = _
      rw [List.append_assoc, toInt32_getBytes hlt]
    have hdropSalt : ((payload count salt (kdf.derive password salt count subkeySizeBytes)).drop (1 + 4)) =
        salt ++ kdf.derive password salt count subkeySizeBytes := rfl
    have hdropSubkey :
        ((payload count salt (kdf.derive password salt count subkeySizeBytes)).drop (1 + 4 + saltSizeBytes)) =
          kdf.derive password salt count subkeySizeBytes := by
      rw [← List.drop_drop, hdropSalt, ← hsalt, List.drop_left]
    unfold verify
    rw [hpassword, if_neg Bool.false_ne_true, not_blank_of_fromBase64String hbytes (List.cons_ne_nil _ _),
      if_neg Bool.false_ne_true, hbytes]
    simp only
    rw [if_neg, hcount, if_neg (by omega), Int.toNat_natCast, hdropSalt, hdropSubkey, ← hsalt, List.take_left,
      List.take_of_length_le (Nat.le_of_eq hsubkey), if_pos rfl]
    exact not_or.2 ⟨not_not.2 (length_payload hsalt hsubkey), not_not.2 rfl⟩

/-- `Verify` throws for a blank password only, whatever is stored. -/
theorem verify_isSome {password : String} (hpassword : DotNet.isNullOrWhiteSpace password = false) (stored : String) :
    (verify kdf password stored).isSome = true := by
  unfold verify
  rw [hpassword, if_neg Bool.false_ne_true]
  split
  · rfl
  split
  · rfl
  split
  · rfl
  simp only
  split
  · rfl
  split
  · rfl
  · rfl

theorem payload_injective {n m : ℕ} {salt salt' subkey subkey' : List UInt8} (hn : n < 2147483648)
    (hm : m < 2147483648) (hsalt : salt.length = salt'.length)
    (h : payload n salt subkey = payload m salt' subkey') : n = m ∧ salt = salt' ∧ subkey = subkey' := by
  have hbytes : getBytes n ++ (salt ++ subkey) = getBytes m ++ (salt' ++ subkey') := by
    have htail := (List.cons.inj h).2
    rwa [List.append_assoc, List.append_assoc] at htail
  obtain ⟨hcount, hrest⟩ := List.append_inj hbytes rfl
  obtain ⟨hsalts, hsubkeys⟩ := List.append_inj hrest hsalt
  refine ⟨?_, hsalts, hsubkeys⟩
  have hnumbers := congrArg toInt32 hcount
  rw [← List.append_nil (getBytes n), ← List.append_nil (getBytes m), toInt32_getBytes hn, toInt32_getBytes hm]
    at hnumbers
  exact Int.ofNat.inj hnumbers

/-- **The hash of a password is accepted for those passwords that have its subkey under its salt.** -/
theorem verify_hash_iff {password presented stored : String} {salt : Salt} (hhash : hash kdf password salt = some stored)
    (hpresented : DotNet.isNullOrWhiteSpace presented = false) :
    verify kdf presented stored = some .success ↔
      kdf.derive presented salt iterations subkeySizeBytes = kdf.derive password salt iterations subkeySizeBytes := by
  unfold hash at hhash
  split at hhash
  · cases hhash
  have hstored := Option.some.inj hhash
  rw [verify_eq_success_iff hpresented, ← hstored, Base64.fromBase64String_toBase64String]
  constructor
  · rintro ⟨other, count, -, hlt, heq⟩
    obtain ⟨hcount, hsalt, hsubkey⟩ := payload_injective (by decide) hlt (salt.2.trans other.2.symm) (Option.some.inj heq)
    rw [hsubkey, ← hcount, ← hsalt]
  · intro heq
    exact ⟨salt, iterations, by decide, by decide, by rw [heq]⟩

theorem not_blank_hash {password stored : String} {salt : Salt} (hhash : hash kdf password salt = some stored) :
    DotNet.isNullOrWhiteSpace stored = false := by
  unfold hash at hhash
  split at hhash
  · cases hhash
  rw [← Option.some.inj hhash]
  exact not_blank_of_fromBase64String (Base64.fromBase64String_toBase64String _) (List.cons_ne_nil _ _)

/-- A hash is a text of 72 characters. -/
theorem length_hash {password stored : String} {salt : Salt} (hhash : hash kdf password salt = some stored) :
    stored.length = 72 := by
  unfold hash at hhash
  split at hhash
  · cases hhash
  have hlength := length_payload (n := iterations) salt.2 (kdf.length_derive password salt iterations subkeySizeBytes)
  rw [← Option.some.inj hhash, toBase64String, String.length_ofList, List.length_append, Base64.length_encode,
    Base64.padding, List.length_replicate, hlength]
  rfl

/-- **The hash of a password is a text of 72 characters that is accepted for the passwords with its subkey, and
whatever is stored, `Verify` answers, and accepts payloads of the password's subkey only.** -/
theorem password_hashes (kdf : Pbkdf2) :
    (∀ (password : String) (salt : Salt), DotNet.isNullOrWhiteSpace password = false →
      ∃ stored, hash kdf password salt = some stored ∧ stored.length = 72 ∧
        ∀ presented, DotNet.isNullOrWhiteSpace presented = false →
          (verify kdf presented stored = some .success ↔
            kdf.derive presented salt iterations subkeySizeBytes = kdf.derive password salt iterations subkeySizeBytes)) ∧
      ∀ password stored : String, DotNet.isNullOrWhiteSpace password = false →
        (verify kdf password stored).isSome = true ∧
          (verify kdf password stored = some .success ↔
            ∃ (salt : Salt) (count : ℕ), 0 < count ∧ count < 2147483648 ∧
              fromBase64String stored = some (payload count salt (kdf.derive password salt count subkeySizeBytes))) := by
  constructor
  · intro password salt hpassword
    have hhash : hash kdf password salt =
        some (toBase64String (payload iterations salt (kdf.derive password salt iterations subkeySizeBytes))) := by
      unfold hash
      rw [hpassword, if_neg Bool.false_ne_true]
    exact ⟨_, hhash, length_hash hhash, fun presented hpresented => verify_hash_iff hhash hpresented⟩
  · exact fun password stored hpassword => ⟨verify_isSome hpassword stored, verify_eq_success_iff hpassword⟩

end WeaponDetection.Backend.Admin
