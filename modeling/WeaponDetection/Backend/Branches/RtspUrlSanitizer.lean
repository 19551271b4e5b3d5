import WeaponDetection.Foundations.Substring
import WeaponDetection.Foundations.Trim

/-!
# Redaction of camera URLs

Models `RtspUrlSanitizer.cs`: the user info of a URL is replaced by `***`, everything else is kept.
Trimming a redacted URL never gives back a user info that was not `***` (`trim_redact_eq_self_iff`).
-/

namespace WeaponDetection.Backend.Branches

open WeaponDetection.Foundations

/-- `RedactionMarker`. -/
def redactionMarker : List Char := "***".toList

/-- `SchemeSeparator`. -/
def schemeSeparator : List Char := "://".toList

/-- `text.IndexOf(c, startIndex)`. -/
def indexOfChar (c : Char) (text : List Char) (startIndex : ℕ) : Option ℕ :=
  (indexOf [c] (text.drop startIndex)).map (startIndex + ·)

/-- `Redact`, on the characters. -/
def redactText (rtspUrl : List Char) : List Char :=
  match indexOf schemeSeparator rtspUrl with
  | none => rtspUrl
  | some schemeIndex =>
    let authorityStart := schemeIndex + schemeSeparator.length
    let authorityEnd := (indexOfChar '/' rtspUrl authorityStart).getD rtspUrl.length
    match indexOfChar '@' rtspUrl authorityStart with
    | none => rtspUrl
    | some atIndex =>
      if authorityEnd ≤ atIndex then rtspUrl
      else rtspUrl.take authorityStart ++ redactionMarker ++ rtspUrl.drop atIndex

/-- `RtspUrlSanitizer.Redact`. -/
def redact (rtspUrl : String) : String := String.ofList (redactText rtspUrl.toList)

/-- The URL has a user info: what stands between the first `://` and an `@`, with no slash before. -/
structure UserInfo (url scheme user rest : List Char) : Prop where
  eq : url = scheme ++ schemeSeparator ++ (user ++ '@' :: rest)
  first : NoneBefore schemeSeparator scheme
  noSlash : '/' ∉ user
  noAt : '@' ∉ user

section Redact

variable {url scheme user rest : List Char}

/-- A first occurrence behind the start. -/
theorem indexOfChar_append {c : Char} {front part tail : List Char} (h : c ∉ part) :
    indexOfChar c (front ++ (part ++ c :: tail)) front.length = some (front.length + part.length) := by
  rw [indexOfChar, List.drop_left, indexOf_singleton h, Option.map_some]

/-- The authority ends within a part of the URL exactly when there is a slash in it. -/
theorem authorityEnd_lt_iff (front part tail : List Char) :
    (indexOfChar '/' (front ++ (part ++ tail)) front.length).getD (front ++ (part ++ tail)).length <
      front.length + part.length ↔ '/' ∈ part := by
  have hlength : (front ++ (part ++ tail)).length = front.length + (part ++ tail).length :=
    List.length_append
  rw [← getD_indexOf_lt_iff (p := part) (x := tail), indexOfChar, List.drop_left, hlength]
  cases indexOf ['/'] (part ++ tail) with
  | none => exact Nat.add_lt_add_iff_left
  | some position => exact Nat.add_lt_add_iff_left

/-- The user info goes, and nothing else. -/
theorem redactText_of_userInfo (h : UserInfo url scheme user rest) :
    redactText url = scheme ++ schemeSeparator ++ (redactionMarker ++ '@' :: rest) := by
  obtain ⟨rfl, hfirst, hslash, hat⟩ := h
  have hstart : scheme.length + schemeSeparator.length = (scheme ++ schemeSeparator).length :=
    List.length_append.symm
  -- the authority ends after the `@`
  have hinside : ¬ '/' ∈ user ++ ['@'] := by simpa using hslash
  have hend := mt (authorityEnd_lt_iff (scheme ++ schemeSeparator) (user ++ ['@']) rest).mp hinside
  have hlength : (user ++ ['@']).length = user.length + 1 := List.length_append
  rw [List.append_assoc user, List.singleton_append, hlength, Nat.not_lt] at hend
  simp only [redactText, indexOf_append hfirst, hstart, indexOfChar_append hat]
  rw [if_neg (by omega), List.take_left, List.append_assoc, ← List.length_append,
    ← List.append_assoc _ user, List.drop_left]

/-- Without user info the URL stays. -/
theorem redactText_eq_self (h : ∀ scheme user rest, ¬ UserInfo url scheme user rest) :
    redactText url = url := by
  by_cases hscheme : schemeSeparator <:+: url
  · obtain ⟨scheme, authority, rfl, hfirst⟩ := exists_of_infix hscheme
    have hstart : scheme.length + schemeSeparator.length = (scheme ++ schemeSeparator).length :=
      List.length_append.symm
    simp only [redactText, indexOf_append hfirst, hstart]
    by_cases hat : '@' ∈ authority
    · obtain ⟨user, rest, rfl, hbefore⟩ := List.eq_append_cons_of_mem hat
      have hslash : '/' ∈ user := by
        by_contra hslash
        exact h scheme user rest ⟨rfl, hfirst, hslash, hbefore⟩
      have hend := (authorityEnd_lt_iff (scheme ++ schemeSeparator) user ('@' :: rest)).mpr hslash
      simp only [indexOfChar_append hbefore]
      rw [if_pos hend.le]
    · have hnone : indexOfChar '@' (scheme ++ schemeSeparator ++ authority)
          (scheme ++ schemeSeparator).length = none := by
        rw [indexOfChar, List.drop_left, indexOf_singleton_eq_none_iff.mpr hat, Option.map_none]
      simp only [hnone]
  · have hnone := indexOf_eq_none_iff.mpr hscheme
    simp only [redactText, hnone]

/-- The URL has a user info that redaction replaces by another one. -/
def CarriesCredentials (url : List Char) : Prop :=
  ∃ scheme user rest, UserInfo url scheme user rest ∧ user ≠ redactionMarker

/-- Redaction keeps a URL without credentials. -/
theorem redactText_of_not_carriesCredentials (h : ¬ CarriesCredentials url) :
    redactText url = url := by
  by_cases huser : ∃ scheme user rest, UserInfo url scheme user rest
  · obtain ⟨scheme, user, rest, hinfo⟩ := huser
    have hmarker : user = redactionMarker := by
      by_contra hne
      exact h ⟨scheme, user, rest, hinfo, hne⟩
    rw [redactText_of_userInfo hinfo, ← hmarker, ← hinfo.eq]
  · exact redactText_eq_self fun scheme user rest hinfo => huser ⟨scheme, user, rest, hinfo⟩

/-- These are the URLs redaction changes. -/
theorem redactText_ne_self_iff : redactText url ≠ url ↔ CarriesCredentials url := by
  constructor
  · intro hne
    by_contra hnone
    exact hne (redactText_of_not_carriesCredentials hnone)
  · rintro ⟨scheme, user, rest, hinfo, hne⟩ hsame
    have htail := (redactText_of_userInfo hinfo).symm.trans (hsame.trans hinfo.eq)
    exact hne (List.append_cancel_right (List.append_cancel_left htail)).symm

instance (url : List Char) : Decidable (CarriesCredentials url) :=
  decidable_of_iff (redactText url ≠ url) redactText_ne_self_iff

end Redact

/-! ## Trimming what was redacted

On its way back the URL is trimmed twice, each time by another notion of white space. -/

section Trim

variable {p q : Char → Bool} {url : List Char}

/-- The redacted part of a URL survives trimming. -/
theorem trimList_redacted (hcolon : p ':' = false) (hat : p '@' = false) (scheme rest : List Char) :
    trimList p (scheme ++ schemeSeparator ++ (redactionMarker ++ '@' :: rest)) =
      scheme.dropWhile p ++ schemeSeparator ++ (redactionMarker ++ '@' :: rest.rdropWhile p) := by
  have hmiddle := trimList_append (a := scheme) (m := schemeSeparator ++ redactionMarker ++ ['@'])
    (b := rest) (p := p) (by simp) ⟨fun c hc => ?_, fun c hc => ?_⟩
  · simpa [List.append_assoc] using hmiddle
  · cases hc
    exact hcolon
  · rw [List.getLast?_append_of_ne_nil _ (List.cons_ne_nil _ _)] at hc
    cases hc
    exact hat

/-- **A redacted URL comes back as it was exactly if it carries no credentials and the first trimming
finds nothing to remove.** -/
theorem trim_redact_eq_self_iff (hp : p ':' = false ∧ p '@' = false)
    (hq : q ':' = false ∧ q '@' = false) (hurl : Trimmed q url) :
    trimList q (trimList p (redactText url)) = url ↔ ¬ CarriesCredentials url ∧ Trimmed p url := by
  constructor
  · intro h
    have hnone : ¬ CarriesCredentials url := by
      rintro ⟨scheme, user, rest, hinfo, hne⟩
      rw [redactText_of_userInfo hinfo, trimList_redacted hp.1 hp.2, trimList_redacted hq.1 hq.2] at h
      -- what is left of the scheme still ends at the first `://`
      obtain ⟨a, ha⟩ := List.dropWhile_suffix p (l := scheme)
      obtain ⟨b, hb⟩ := List.dropWhile_suffix q (l := scheme.dropWhile p)
      have hfirst := hinfo.first
      rw [← ha, ← hb, ← List.append_assoc] at hfirst
      have hsame := hfirst.of_append.unique hinfo.first (h.trans hinfo.eq)
      have hmarker : NoneBefore ['@'] redactionMarker := noneBefore_singleton.mpr (by decide)
      have huser := hmarker.unique (noneBefore_singleton.mpr hinfo.noAt)
        (by simpa only [List.append_assoc, List.singleton_append] using hsame.2)
      exact hne huser.1.symm
    rw [redactText_of_not_carriesCredentials hnone] at h
    exact ⟨hnone, (trimList_trimList_eq_self_iff hurl).mp h⟩
  · rintro ⟨hnone, htrimmed⟩
    rw [redactText_of_not_carriesCredentials hnone]
    exact (trimList_trimList_eq_self_iff hurl).mpr htrimmed

end Trim

end WeaponDetection.Backend.Branches
