import Mathlib.Data.List.Basic
import Mathlib.Tactic.SplitIfs

/-!
# URIs with an authority

The grammar of RFC 3986 for `scheme "://" authority path-abempty [ "?" query ] [ "#" fragment ]`, as a
parser into components.  Hosts are kept as written, an IP literal with its brackets.
-/

namespace WeaponDetection.Foundations.Rfc3986

/-! ## Characters -/

/-- `unreserved`. -/
def isUnreserved (c : Char) : Bool := c.isAlphanum || c = '-' || c = '.' || c = '_' || c = '~'

/-- `sub-delims`. -/
def isSubDelim (c : Char) : Bool :=
  c = '!' || c = '$' || c = '&' || c = '\'' || c = '(' || c = ')' || c = '*' || c = '+' || c = ',' ||
    c = ';' || c = '='

/-- `HEXDIG`, in either case. -/
def isHexDig (c : Char) : Bool :=
  c.isDigit || ('a' ≤ c && c ≤ 'f') || ('A' ≤ c && c ≤ 'F')

/-- Characters of a class and complete `pct-encoded` triples. -/
def isEncoded (plain : Char → Bool) : List Char → Bool
  | [] => true
  | '%' :: a :: b :: rest => isHexDig a && isHexDig b && isEncoded plain rest
  | c :: rest => c ≠ '%' && plain c && isEncoded plain rest

/-- A character of `reg-name`. -/
def isRegNameChar (c : Char) : Bool := isUnreserved c || isSubDelim c

/-- A character of `userinfo`. -/
def isUserInfoChar (c : Char) : Bool := isRegNameChar c || c = ':'

/-- A character of `pchar`. -/
def isPathChar (c : Char) : Bool := isUserInfoChar c || c = '@'

/-! ## Hosts -/

/-- `dec-octet`. -/
def isDecOctet (text : List Char) : Bool := (List.range 256).any fun n => Nat.toDigits 10 n = text

/-- `IPv4address`. -/
def isIpv4Address (text : List Char) : Bool :=
  let octets := text.splitOn '.'
  octets.length = 4 && octets.all isDecOctet

/-- `h16`. -/
def isH16 (text : List Char) : Bool := 1 ≤ text.length && text.length ≤ 4 && text.all isHexDig

/-- How many groups of 16 bits the pieces between colons are; only the last may be an `IPv4address`. -/
def countGroups : List (List Char) → Option ℕ
  | [] => some 0
  | [piece] => if isH16 piece then some 1 else if isIpv4Address piece then some 2 else none
  | piece :: rest => if isH16 piece then (countGroups rest).map (· + 1) else none

/-- The groups on one side of `::`. -/
def sideGroups (text : List Char) : Option ℕ :=
  if text = [] then some 0 else countGroups (text.splitOn ':')

/-- What stands on the two sides of the first `::`. -/
def cutElision : List Char → Option (List Char × List Char)
  | ':' :: ':' :: rest => some ([], rest)
  | c :: rest => (cutElision rest).map fun sides => (c :: sides.1, sides.2)
  | [] => none

/-- `IPv6address`: eight groups, or at most seven around one `::`. -/
def isIpv6Address (text : List Char) : Bool :=
  match cutElision text with
  | none => countGroups (text.splitOn ':') = some 8
  | some (before, after) =>
    (before = [] || (before.splitOn ':').all isH16) &&
      ((sideGroups before).elim false fun m => (sideGroups after).elim false fun n => m + n ≤ 7)

/-- What stands before the first delimiter, and behind it where there is one. -/
def cut (delimiter : Char) : List Char → List Char × Option (List Char)
  | [] => ([], none)
  | c :: rest =>
    if c = delimiter then ([], some rest)
    else (c :: (cut delimiter rest).1, (cut delimiter rest).2)

/-- `IPvFuture`. -/
def isIpvFuture (text : List Char) : Bool :=
  match text with
  | v :: rest =>
    let (version, address) := cut '.' rest
    (v = 'v' || v = 'V') && version ≠ [] && version.all isHexDig &&
      address.any fun address => address ≠ [] && address.all isUserInfoChar
  | [] => false

/-- What may stand between the brackets of an `IP-literal`. -/
def isIpAddress (text : List Char) : Bool := isIpv6Address text || isIpvFuture text

/-- `reg-name`; an `IPv4address` is one. -/
def isRegName (text : List Char) : Bool := isEncoded isRegNameChar text

/-- `host`. -/
def isHost (text : List Char) : Bool :=
  match text with
  | '[' :: rest =>
    match cut ']' rest with
    | (address, some []) => isIpAddress address
    | _ => false
  | _ => isRegName text

/-! ## The parser -/

/-- The components of a URI with an authority. -/
structure Components where
  scheme : List Char
  userInfo : Option (List Char)
  host : List Char
  port : Option (List Char)
  path : List Char
  query : Option (List Char)
  fragment : Option (List Char)
  deriving DecidableEq

/-- `port`. -/
def isPort (text : List Char) : Bool := text.all Char.isDigit

/-- `host [ ":" port ]`. -/
def parseHostPort (text : List Char) : Option (List Char × Option (List Char)) :=
  match text with
  | '[' :: rest =>
    match cut ']' rest with
    | (address, some []) => if isIpAddress address then some ('[' :: address ++ [']'], none) else none
    | (address, some (':' :: port)) =>
      if isIpAddress address && isPort port then some ('[' :: address ++ [']'], some port) else none
    | _ => none
  | _ =>
    let (host, port) := cut ':' text
    if isRegName host && port.all isPort then some (host, port) else none

/-- `authority`: the user information, the host and the port. -/
def parseAuthority (text : List Char) :
    Option (Option (List Char) × List Char × Option (List Char)) :=
  match cut '@' text with
  | (userInfo, some rest) =>
    if isEncoded isUserInfoChar userInfo then
      (parseHostPort rest).map fun hostPort => (some userInfo, hostPort)
    else none
  | (_, none) => (parseHostPort text).map fun hostPort => (none, hostPort)

/-- `scheme`. -/
def isScheme (text : List Char) : Bool :=
  text.head?.any Char.isAlpha && text.all fun c => c.isAlphanum || c = '+' || c = '-' || c = '.'

/-- A character of `query` and `fragment`. -/
def isQueryChar (c : Char) : Bool := isPathChar c || c = '/' || c = '?'

/-- What stands behind `scheme "://"`. -/
def parseHierarchy (scheme rest : List Char) : Option Components := do
  let (rest, fragment) := cut '#' rest
  let (rest, query) := cut '?' rest
  let authority := rest.takeWhile (· ≠ '/')
  let path := rest.dropWhile (· ≠ '/')
  let (userInfo, host, port) ← parseAuthority authority
  if isEncoded (fun c => isPathChar c || c = '/') path && query.all (isEncoded isQueryChar) &&
      fragment.all (isEncoded isQueryChar) then
    return { scheme, userInfo, host, port, path, query, fragment }
  else none

/-- A URI with an authority. -/
def parse (text : List Char) : Option Components :=
  match cut ':' text with
  | (scheme, some ('/' :: '/' :: rest)) => if isScheme scheme then parseHierarchy scheme rest else none
  | _ => none

/-! ## Reading what is written -/

theorem cut_append {delimiter : Char} {text rest : List Char} (h : delimiter ∉ text) :
    cut delimiter (text ++ delimiter :: rest) = (text, some rest) := by
  induction text with
  | nil => simp [cut]
  | cons c text ih =>
    obtain ⟨hne, htext⟩ : ¬ delimiter = c ∧ delimiter ∉ text := by simpa using h
    simp [cut, Ne.symm hne, ih htext]

theorem cut_of_not_mem {delimiter : Char} {text : List Char} (h : delimiter ∉ text) :
    cut delimiter text = (text, none) := by
  induction text with
  | nil => rfl
  | cons c text ih =>
    obtain ⟨hne, htext⟩ : ¬ delimiter = c ∧ delimiter ∉ text := by simpa using h
    simp [cut, Ne.symm hne, ih htext]

theorem not_mem_of_cut {delimiter : Char} {text before : List Char} {after : Option (List Char)}
    (h : cut delimiter text = (before, after)) : delimiter ∉ before := by
  induction text generalizing before with
  | nil =>
    obtain ⟨rfl, -⟩ := Prod.mk.inj h
    simp
  | cons c text ih =>
    rw [cut] at h
    split_ifs at h with hc
    · obtain ⟨rfl, -⟩ := Prod.mk.inj h
      simp
    · obtain ⟨rfl, hafter⟩ := Prod.mk.inj h
      have hrest : cut delimiter text = ((cut delimiter text).1, after) := by rw [← hafter]
      simp [Ne.symm hc, ih hrest]

theorem eq_of_cut {delimiter : Char} {text before after : List Char}
    (h : cut delimiter text = (before, some after)) : text = before ++ delimiter :: after := by
  induction text generalizing before with
  | nil => simp [cut] at h
  | cons c text ih =>
    rw [cut] at h
    split_ifs at h with hc
    · obtain ⟨rfl, hafter⟩ := Prod.mk.inj h
      rw [hc, Option.some.inj hafter, List.nil_append]
    · obtain ⟨rfl, hafter⟩ := Prod.mk.inj h
      have hrest : cut delimiter text = ((cut delimiter text).1, some after) := by rw [← hafter]
      rw [List.cons_append, ← ih hrest]

theorem isEncoded_cons {plain : Char → Bool} {c : Char} {rest : List Char} (hc : c ≠ '%') :
    isEncoded plain (c :: rest) = (plain c && isEncoded plain rest) := by
  rw [isEncoded]
  · simp [hc]
  · intro a b rest' hpercent
    exact absurd hpercent hc

theorem not_mem_of_isEncoded {plain : Char → Bool} {text : List Char} (h : isEncoded plain text = true)
    {c : Char} (hplain : plain c = false) (hdigit : isHexDig c = false) (hpercent : c ≠ '%') :
    c ∉ text := by
  induction text using isEncoded.induct with
  | case1 => simp
  | case2 a b rest ih =>
    rw [isEncoded, Bool.and_eq_true, Bool.and_eq_true] at h
    obtain ⟨⟨ha, hb⟩, hrest⟩ := h
    have hca : c ≠ a := by rintro rfl; simp [ha] at hdigit
    have hcb : c ≠ b := by rintro rfl; simp [hb] at hdigit
    simp [hpercent, hca, hcb, ih hrest]
  | case3 d rest hshort ih =>
    by_cases hd : d = '%'
    · rw [isEncoded.eq_3 _ _ _ hshort, hd] at h
      simp at h
    · rw [isEncoded_cons hd, Bool.and_eq_true] at h
      have hcd : c ≠ d := by rintro rfl; simp [h.1] at hplain
      simp [hcd, ih h.2]

theorem isEncoded_of_all {plain : Char → Bool} {text : List Char}
    (h : ∀ c ∈ text, plain c = true ∧ c ≠ '%') : isEncoded plain text = true := by
  induction text with
  | nil => rfl
  | cons c text ih =>
    obtain ⟨hc, htext⟩ := List.forall_mem_cons.1 h
    rw [isEncoded_cons hc.2, hc.1, Bool.true_and, ih htext]

/-! ## Hosts -/

/-- The characters that end a host, or what stands before it. -/
def hostDelimiters : List Char := ['@', '/', '?', '#']

theorem isHost_of_isRegName {host : List Char} (h : isRegName host = true) : isHost host = true := by
  have hbracket : '[' ∉ host := not_mem_of_isEncoded h (by decide) (by decide) (by decide)
  cases host with
  | nil => rfl
  | cons c rest =>
    have hc : c ≠ '[' := by rintro rfl; simp at hbracket
    rw [isHost]
    · exact h
    · intro rest' hcons
      exact hc (List.cons.inj hcons).1

/-- An IP literal is what stands between its brackets. -/
theorem isHost_bracket_iff {rest : List Char} :
    isHost ('[' :: rest) = true ↔
      ∃ address, rest = address ++ [']'] ∧ ']' ∉ address ∧ isIpAddress address = true := by
  constructor
  · intro h
    rw [isHost] at h
    split at h
    · rename_i address hcut
      exact ⟨address, eq_of_cut hcut, not_mem_of_cut hcut, h⟩
    · simp at h
  · rintro ⟨address, rfl, hnot, haddress⟩
    rw [isHost, cut_append hnot]
    exact haddress

theorem parseHostPort_append {host port : List Char} (hhost : isHost host = true)
    (hport : isPort port = true) : parseHostPort (host ++ ':' :: port) = some (host, some port) := by
  by_cases hbracket : host.head? = some '['
  · obtain ⟨rest, rfl⟩ := List.head?_eq_some_iff.1 hbracket
    obtain ⟨address, rfl, hnot, haddress⟩ := isHost_bracket_iff.1 hhost
    have hcut : cut ']' (address ++ [']'] ++ ':' :: port) = (address, some (':' :: port)) := by
      rw [List.append_assoc]
      exact cut_append hnot
    rw [List.cons_append, parseHostPort, hcut]
    simp [haddress, hport]
  · have hname : isRegName host = true := by
      cases host with
      | nil => rfl
      | cons c rest =>
        rw [isHost] at hhost
        · exact hhost
        · intro rest' hcons
          simp [(List.cons.inj hcons).1] at hbracket
    have hcolon : ':' ∉ host := not_mem_of_isEncoded hname (by decide) (by decide) (by decide)
    rw [parseHostPort, cut_append hcolon]
    · simp [hname, hport]
    · intro rest hcons
      cases host with
      | nil => simp at hcons
      | cons c host => simp [(List.cons.inj hcons).1] at hbracket

theorem isHost_of_parseHostPort {text host : List Char} {port : Option (List Char)}
    (h : parseHostPort text = some (host, port)) : isHost host = true := by
  unfold parseHostPort at h
  split at h
  · rename_i rest
    split at h
    · rename_i address hcut
      split_ifs at h with haddress
      cases h
      exact isHost_bracket_iff.2 ⟨address, rfl, not_mem_of_cut hcut, haddress⟩
    · rename_i address port hcut
      split_ifs at h with haddress
      cases h
      rw [Bool.and_eq_true] at haddress
      exact isHost_bracket_iff.2 ⟨address, rfl, not_mem_of_cut hcut, haddress.1⟩
    · cases h
  · simp only at h
    split_ifs at h with hname
    cases h
    rw [Bool.and_eq_true] at hname
    exact isHost_of_isRegName hname.1

/-! ## URIs -/

theorem isHost_of_parse {text : List Char} {uri : Components} (h : parse text = some uri) :
    isHost uri.host = true := by
  unfold parse at h
  split at h
  · split_ifs at h
    rw [parseHierarchy] at h
    obtain ⟨⟨userInfo, host, port⟩, hauthority, huri⟩ := Option.bind_eq_some_iff.1 h
    split_ifs at huri
    cases huri
    unfold parseAuthority at hauthority
    split at hauthority
    · split_ifs at hauthority
      obtain ⟨hostPort, hparse, heq⟩ := Option.map_eq_some_iff.1 hauthority
      cases heq
      exact isHost_of_parseHostPort hparse
    · obtain ⟨hostPort, hparse, heq⟩ := Option.map_eq_some_iff.1 hauthority
      cases heq
      exact isHost_of_parseHostPort hparse
  · cases h

/-- A character outside a class is in no text of the class. -/
theorem not_mem_of_all {plain : Char → Bool} {text : List Char} (h : ∀ c ∈ text, plain c = true)
    {c : Char} (hc : plain c = false) : c ∉ text := by
  intro hmem
  have hplain := h c hmem
  rw [hc] at hplain
  cases hplain

theorem parseAuthority_append {host port : List Char} (hhost : isHost host = true)
    (hat : '@' ∉ host) (hport : isPort port = true) :
    parseAuthority (host ++ ':' :: port) = some (none, host, some port) := by
  have hatPort : '@' ∉ port := not_mem_of_all (List.all_eq_true.1 hport) (by decide)
  have hnot : '@' ∉ host ++ ':' :: port := by simp [hat, hatPort]
  rw [parseAuthority, cut_of_not_mem hnot]
  simp [parseHostPort_append hhost hport]

/-- A character of a path that needs no encoding. -/
def isPlainPathChar (c : Char) : Bool := isUnreserved c || c = '/'

theorem isEncoded_path {path : List Char} (h : ∀ c ∈ path, isPlainPathChar c = true) :
    isEncoded (fun c => isPathChar c || c = '/') path = true := by
  refine isEncoded_of_all fun c hc => ⟨?_, ?_⟩
  · have hplain := h c hc
    simp only [isPlainPathChar, Bool.or_eq_true] at hplain
    rcases hplain with hunreserved | hslash
    · simp [isPathChar, isUserInfoChar, isRegNameChar, hunreserved]
    · simp [hslash]
  · rintro rfl
    exact not_mem_of_all h (by decide) hc

/-- What is put together of a scheme, a host, a port and the characters of a path has just these
components. -/
theorem parse_append {scheme host port path : List Char} (hscheme : isScheme scheme = true)
    (hhost : isHost host = true) (hdelimiters : ∀ c ∈ hostDelimiters, c ∉ host)
    (hport : isPort port = true) (hpath : ∀ c ∈ path, isPlainPathChar c = true) :
    parse (scheme ++ ':' :: '/' :: '/' :: (host ++ ':' :: (port ++ '/' :: path))) =
      some { scheme, userInfo := none, host, port := some port, path := '/' :: path, query := none
             fragment := none } := by
  obtain ⟨hat, hslash, hquestion, hhash⟩ :
      '@' ∉ host ∧ '/' ∉ host ∧ '?' ∉ host ∧ '#' ∉ host := by simpa [hostDelimiters] using hdelimiters
  have hcolon : ':' ∉ scheme := by
    rw [isScheme, Bool.and_eq_true, List.all_eq_true] at hscheme
    exact not_mem_of_all hscheme.2 (by decide)
  have hportChars := List.all_eq_true.1 hport
  -- Neither a query nor a fragment begins anywhere.
  have hnoQuery : '?' ∉ host ++ ':' :: (port ++ '/' :: path) := by
    simp [hquestion, not_mem_of_all hportChars (c := '?') (by decide),
      not_mem_of_all hpath (c := '?') (by decide)]
  have hnoFragment : '#' ∉ host ++ ':' :: (port ++ '/' :: path) := by
    simp [hhash, not_mem_of_all hportChars (c := '#') (by decide),
      not_mem_of_all hpath (c := '#') (by decide)]
  -- The first slash is the one before the path.
  have hauthority : ∀ c ∈ host ++ ':' :: port, decide (c ≠ '/') = true := by
    have hslashPort : '/' ∉ port := not_mem_of_all hportChars (by decide)
    intro c hc
    rw [decide_eq_true_eq]
    rintro rfl
    simp [hslash, hslashPort] at hc
  have hsplit : host ++ ':' :: (port ++ '/' :: path) = (host ++ ':' :: port) ++ '/' :: path := by simp
  have htake : (host ++ ':' :: (port ++ '/' :: path)).takeWhile (· ≠ '/') = host ++ ':' :: port := by
    rw [hsplit, List.takeWhile_append_of_pos hauthority]
    simp
  have hdrop : (host ++ ':' :: (port ++ '/' :: path)).dropWhile (· ≠ '/') = '/' :: path := by
    rw [hsplit, List.dropWhile_append_of_pos hauthority]
    simp
  have hpathText : isEncoded (fun c => isPathChar c || c = '/') ('/' :: path) = true :=
    isEncoded_path (List.forall_mem_cons.2 ⟨by decide, hpath⟩)
  rw [parse, cut_append hcolon]
  simp only [hscheme, if_true]
  rw [parseHierarchy, cut_of_not_mem hnoFragment]
  simp only [cut_of_not_mem hnoQuery, htake, hdrop, parseAuthority_append hhost hat hport]
  simp [hpathText]

end WeaponDetection.Foundations.Rfc3986
