import Mathlib.Data.List.Forall2
import WeaponDetection.Foundations.Double

/-!
# The part of Python a verified program relies on

Values as `json.loads` produces them, the conversions between `int` and `float` that can raise,
and the constructor and text form of `uuid.UUID`.

`int` is unbounded, so a conversion to `float` is partial: from magnitude `2 ^ 1024` on it raises
`OverflowError`.  `UUID(text)` is far more lenient than the canonical form: it drops `urn:` and
`uuid:`, strips braces and hyphens, and hands the remaining 32 characters to `int(_, 16)`, which
accepts a sign, a `0x` prefix, single underscores, surrounding whitespace and any Unicode decimal
digit.
-/

namespace WeaponDetection.Foundations.Python

open WeaponDetection.Foundations (Double)

/-! ## Exceptions and values -/

/-- The exception classes the modelled functions raise. -/
inductive PyError where
  | overflowError
  | valueError
  deriving DecidableEq

/-- A sequence of fallible calls succeeds exactly when each of them does. -/
theorem bind_eq_ok_iff {ε α β : Type} {x : Except ε α} {f : α → Except ε β} {b : β} :
    x >>= f = .ok b ↔ ∃ a, x = .ok a ∧ f a = .ok b := by
  cases x <;> simp [bind, Except.bind]

/-- It fails with the first error. -/
theorem bind_eq_error_iff {ε α β : Type} {x : Except ε α} {f : α → Except ε β} {e : ε} :
    x >>= f = .error e ↔ x = .error e ∨ ∃ a, x = .ok a ∧ f a = .error e := by
  cases x <;> simp [bind, Except.bind]

/-- A fallible map succeeds with the results of its rounds. -/
theorem mapM_eq_ok_iff {ε α β : Type} {f : α → Except ε β} {xs : List α} {ys : List β} :
    xs.mapM f = .ok ys ↔ List.Forall₂ (fun x y => f x = .ok y) xs ys := by
  induction xs generalizing ys with
  | nil =>
    rw [List.mapM_nil, List.forall₂_nil_left_iff]
    constructor
    · intro h
      cases h
      rfl
    · rintro rfl
      rfl
  | cons x xs ih =>
    rw [List.mapM_cons, bind_eq_ok_iff, List.forall₂_cons_left_iff]
    constructor
    · rintro ⟨y, hy, h⟩
      obtain ⟨zs, hzs, hys⟩ := bind_eq_ok_iff.1 h
      cases hys
      exact ⟨y, zs, hy, ih.1 hzs, rfl⟩
    · rintro ⟨y, zs, hy, hzs, rfl⟩
      exact ⟨y, hy, bind_eq_ok_iff.2 ⟨zs, ih.2 hzs, rfl⟩⟩

/-- Two fallible maps, one after the other, are one with both steps in a round. -/
theorem mapM_mapM_eq_ok_iff {ε α β γ : Type} {f : α → Except ε β} {g : β → Except ε γ} {xs : List α}
    {zs : List γ} :
    (∃ ys, xs.mapM f = .ok ys ∧ ys.mapM g = .ok zs) ↔
      List.Forall₂ (fun x z => ∃ y, f x = .ok y ∧ g y = .ok z) xs zs := by
  simp only [mapM_eq_ok_iff]
  induction xs generalizing zs with
  | nil =>
    simp only [List.forall₂_nil_left_iff]
    constructor
    · rintro ⟨ys, rfl, h⟩
      exact List.forall₂_nil_left_iff.1 h
    · rintro rfl
      exact ⟨[], rfl, .nil⟩
  | cons x xs ih =>
    simp only [List.forall₂_cons_left_iff]
    constructor
    · rintro ⟨ys, ⟨y, ys', hy, hys, rfl⟩, h⟩
      obtain ⟨z, zs', hz, hzs, rfl⟩ := List.forall₂_cons_left_iff.1 h
      exact ⟨z, zs', ⟨y, hy, hz⟩, ih.1 ⟨ys', hys, hzs⟩, rfl⟩
    · rintro ⟨z, zs', ⟨y, hy, hz⟩, hrest, rfl⟩
      obtain ⟨ys', hys, hzs⟩ := ih.2 hrest
      exact ⟨y :: ys', ⟨y, ys', hy, hys, rfl⟩, .cons hz hzs⟩

/-- Everything has a partner when each element has one. -/
theorem exists_forall₂_iff {α β : Type} {R : α → β → Prop} {xs : List α} :
    (∃ ys, List.Forall₂ R xs ys) ↔ ∀ x ∈ xs, ∃ y, R x y := by
  induction xs with
  | nil => exact ⟨fun _ x hx => by simp at hx, fun _ => ⟨[], .nil⟩⟩
  | cons x xs ih =>
    rw [List.forall_mem_cons, ← ih]
    constructor
    · rintro ⟨ys, h⟩
      obtain ⟨y, ys', hy, hys, rfl⟩ := List.forall₂_cons_left_iff.1 h
      exact ⟨⟨y, hy⟩, ys', hys⟩
    · rintro ⟨⟨y, hy⟩, ys', hys⟩
      exact ⟨y :: ys', .cons hy hys⟩

/-- A property that all partners have on the right can be asked for apart. -/
theorem forall₂_and_right {α β : Type} {R : α → β → Prop} {Q : β → Prop} {xs : List α} {ys : List β} :
    List.Forall₂ (fun x y => R x y ∧ Q y) xs ys ↔ List.Forall₂ R xs ys ∧ ∀ y ∈ ys, Q y := by
  induction xs generalizing ys with
  | nil =>
    rw [List.forall₂_nil_left_iff, List.forall₂_nil_left_iff]
    constructor
    · rintro rfl
      exact ⟨rfl, by simp⟩
    · exact fun h => h.1
  | cons x xs ih =>
    cases ys with
    | nil => simp
    | cons y ys =>
      rw [List.forall₂_cons, List.forall₂_cons, ih, List.forall_mem_cons]
      exact ⟨fun ⟨⟨hR, hQ⟩, hRs, hQs⟩ => ⟨⟨hR, hRs⟩, hQ, hQs⟩, fun ⟨⟨hR, hRs⟩, hQ, hQs⟩ => ⟨⟨hR, hQ⟩, hRs, hQs⟩⟩

/-- Partners that agree on a property agree on it for the whole lists. -/
theorem forall_mem_iff_of_forall₂ {α β : Type} {R : α → β → Prop} {P : α → Prop} {Q : β → Prop} {xs : List α}
    {ys : List β} (h : List.Forall₂ R xs ys) (hPQ : ∀ x y, R x y → (P x ↔ Q y)) :
    (∀ x ∈ xs, P x) ↔ ∀ y ∈ ys, Q y := by
  induction h with
  | nil => simp
  | cons hxy _ ih => rw [List.forall_mem_cons, List.forall_mem_cons, hPQ _ _ hxy, ih]

/-- Every element has its partner in the other list. -/
theorem exists_mem_of_forall₂ {α β : Type} {R : α → β → Prop} {xs : List α} {ys : List β}
    (h : List.Forall₂ R xs ys) {y : β} (hy : y ∈ ys) : ∃ x ∈ xs, R x y := by
  induction h with
  | nil => cases hy
  | @cons x z xs ys hxz _ ih =>
    rcases List.mem_cons.1 hy with rfl | hy
    · exact ⟨x, List.mem_cons_self, hxz⟩
    · obtain ⟨w, hw, hwy⟩ := ih hy
      exact ⟨w, List.mem_cons_of_mem _ hw, hwy⟩

/-- What each round of a fallible loop keeps, the whole loop keeps. -/
theorem foldlM_ok_invariant {ε σ α : Type} {f : σ → α → Except ε σ} {Inv : σ → Prop} {xs : List α} {s s' : σ}
    (h : xs.foldlM f s = .ok s') (hinit : Inv s)
    (hround : ∀ s x s', x ∈ xs → Inv s → f s x = .ok s' → Inv s') : Inv s' := by
  induction xs generalizing s with
  | nil =>
    cases h
    exact hinit
  | cons x xs ih =>
    rw [List.foldlM_cons, bind_eq_ok_iff] at h
    obtain ⟨mid, hfirst, hrest⟩ := h
    exact ih hrest (hround s x mid List.mem_cons_self hinit hfirst) fun s x s' hx =>
      hround s x s' (List.mem_cons_of_mem _ hx)

/-- A value as `json.loads` returns it. -/
inductive PyValue where
  | none
  | bool (b : Bool)
  | int (i : ℤ)
  | float (d : Double)
  | str (s : String)
  | list (items : List PyValue)
  | dict (items : List (String × PyValue))

/-- The contents of a `dict`: bindings in the order they were written. -/
abbrev PyDict := List (String × PyValue)

/-- `d.get(key)`: the last binding written for a key is the one a `dict` holds. -/
def PyDict.get? (d : PyDict) (key : String) : Option PyValue :=
  (d.reverse.find? fun kv => kv.1 = key).map Prod.snd

/-- `key in d`. -/
def PyDict.contains (d : PyDict) (key : String) : Bool := (d.get? key).isSome

/-- `d[key] = value`. -/
def PyDict.set (d : PyDict) (key : String) (value : PyValue) : PyDict := d ++ [(key, value)]

@[simp] theorem PyDict.get?_set_self (d : PyDict) (key : String) (value : PyValue) :
    (d.set key value).get? key = some value := by
  simp [PyDict.get?, PyDict.set]

theorem PyDict.get?_set_of_ne (d : PyDict) {key other : String} (value : PyValue)
    (h : key ≠ other) : (d.set key value).get? other = d.get? other := by
  simp [PyDict.get?, PyDict.set, h]

/-! ## `int` to `float` and back -/

/-- The magnitude from which an `int` has no `float`. -/
def floatLimit : ℕ := 2 ^ 1024

/-- `float(i)`: raises from magnitude `2 ^ 1024` on. -/
def floatOfInt (i : ℤ) : Except PyError ℚ :=
  if i.natAbs < floatLimit then .ok i else .error .overflowError

/-- `value == n` for an `int` literal `n`: Python compares booleans and floats numerically. -/
def PyValue.eqInt : PyValue → ℤ → Bool
  | .bool b, n => decide ((if b then 1 else 0) = n)
  | .int i, n => decide (i = n)
  | .float (.finite q), n => decide (q = n)
  | _, _ => false

/-- `math.ceil(d)`: an infinity raises `OverflowError`, NaN raises `ValueError`. -/
def ceil : Double → Except PyError ℤ
  | .finite q => .ok ⌈q⌉
  | .inf _ => .error .overflowError
  | .nan => .error .valueError

theorem floatOfInt_eq_ok_iff {i : ℤ} {q : ℚ} :
    floatOfInt i = .ok q ↔ i.natAbs < floatLimit ∧ q = i := by
  unfold floatOfInt
  split <;> simp_all [eq_comm]

theorem ceil_eq_ok_iff {d : Double} {n : ℤ} : ceil d = .ok n ↔ ∃ q, d = .finite q ∧ ⌈q⌉ = n := by
  cases d <;> simp [ceil]

/-! ## `uuid.UUID` -/

/-- A UUID: the 128-bit integer `UUID.int`. -/
abbrev Uuid := BitVec 128

instance : LawfulBEq Uuid := inferInstance

/-- Characters `str.isspace` accepts outside ASCII. -/
def unicodeSpaces : List ℕ :=
  [0x85, 0xa0, 0x1680, 0x2000, 0x2001, 0x2002, 0x2003, 0x2004, 0x2005, 0x2006, 0x2007, 0x2008,
    0x2009, 0x200a, 0x2028, 0x2029, 0x202f, 0x205f, 0x3000]

/-- The code points of the digit zero of every decimal digit block outside ASCII (category Nd). -/
def decimalZeros : List ℕ :=
  [0x660, 0x6f0, 0x7c0, 0x966, 0x9e6, 0xa66, 0xae6, 0xb66, 0xbe6, 0xc66, 0xce6, 0xd66, 0xde6,
    0xe50, 0xed0, 0xf20, 0x1040, 0x1090, 0x17e0, 0x1810, 0x1946, 0x19d0, 0x1a80, 0x1a90, 0x1b50,
    0x1bb0, 0x1c40, 0x1c50, 0xa620, 0xa8d0, 0xa900, 0xa9d0, 0xa9f0, 0xaa50, 0xabf0, 0xff10,
    0x104a0, 0x10d30, 0x11066, 0x110f0, 0x11136, 0x111d0, 0x112f0, 0x11450, 0x114d0, 0x11650,
    0x116c0, 0x11730, 0x118e0, 0x11950, 0x11c50, 0x11d50, 0x11da0, 0x16a60, 0x16ac0, 0x16b50,
    0x1d7ce, 0x1d7d8, 0x1d7e2, 0x1d7ec, 0x1d7f6, 0x1e140, 0x1e2f0, 0x1e950, 0x1fbf0]

/-- `str.isspace` on one character. -/
def isSpace (c : Char) : Bool :=
  (9 ≤ c.toNat ∧ c.toNat ≤ 13) ∨ (28 ≤ c.toNat ∧ c.toNat ≤ 32) ∨ c.toNat ∈ unicodeSpaces

/-- `not text.strip()`. -/
def isBlank (text : String) : Bool := text.toList.all isSpace

/-- What `int` makes of one character before it reads digits: a space of any script becomes a
space, a decimal digit of any script its ASCII digit, anything else outside ASCII a `?`. -/
def toAsciiDigit (c : Char) : Char :=
  if c.toNat < 127 then c
  else if c.toNat ∈ unicodeSpaces then ' '
  else
    match decimalZeros.find? fun z => z ≤ c.toNat ∧ c.toNat < z + 10 with
    | some z => Char.ofNat ('0'.toNat + (c.toNat - z))
    | none => '?'

/-- The value of a hexadecimal digit. -/
def hexValue (c : Char) : Option ℕ :=
  if '0' ≤ c ∧ c ≤ '9' then some (c.toNat - '0'.toNat)
  else if 'a' ≤ c ∧ c ≤ 'f' then some (c.toNat - 'a'.toNat + 10)
  else if 'A' ≤ c ∧ c ≤ 'F' then some (c.toNat - 'A'.toNat + 10)
  else none

/-- Whitespace around an `int` literal, in ASCII. -/
def isAsciiSpace (c : Char) : Bool := c = ' ' ∨ (9 ≤ c.toNat ∧ c.toNat ≤ 13)

/-- Read hexadecimal digits with single underscores between them; `afterUnderscore` says that the
character before was one.  Returns the value and the unread rest. -/
def readHexDigits (afterUnderscore : Bool) (acc : ℕ) : List Char → Option (ℕ × List Char)
  | [] => if afterUnderscore then none else some (acc, [])
  | c :: cs =>
    match hexValue c with
    | some d => readHexDigits false (acc * 16 + d) cs
    | none =>
      if afterUnderscore then none
      else if c = '_' then readHexDigits true acc cs
      else some (acc, c :: cs)

/-- Drop an optional `0x` prefix and one underscore after it. -/
def dropHexPrefix : List Char → List Char
  | '0' :: 'x' :: '_' :: cs => cs
  | '0' :: 'X' :: '_' :: cs => cs
  | '0' :: 'x' :: cs => cs
  | '0' :: 'X' :: cs => cs
  | cs => cs

/-- Drop an optional sign; `true` for a minus. -/
def dropSign : List Char → Bool × List Char
  | '+' :: cs => (false, cs)
  | '-' :: cs => (true, cs)
  | cs => (false, cs)

/-- `int(text, 16)`, `none` for `ValueError`. -/
def intOfHex (text : List Char) : Option ℤ :=
  let (negative, cs) := dropSign ((text.map toAsciiDigit).dropWhile isAsciiSpace)
  match dropHexPrefix cs with
  | [] => none
  | c :: cs' =>
    if hexValue c = none then none
    else
      match readHexDigits false 0 (c :: cs') with
      | some (v, rest) =>
        if rest.all isAsciiSpace then some (if negative then -(v : ℤ) else v) else none
      | none => none

/-- `text.replace(pattern, "")`: leftmost, non-overlapping. `skip` counts the characters of a
match still to drop. -/
def removeAll (pattern : List Char) : ℕ → List Char → List Char
  | _, [] => []
  | skip + 1, _ :: cs => removeAll pattern skip cs
  | 0, c :: cs =>
    if pattern.isPrefixOf (c :: cs) then removeAll pattern (pattern.length - 1) cs
    else c :: removeAll pattern 0 cs

/-- `text.strip("{}")`. -/
def stripBraces (cs : List Char) : List Char :=
  let brace : Char → Bool := fun c => c = '\x7b' ∨ c = '\x7d'
  ((cs.dropWhile brace).reverse.dropWhile brace).reverse

/-- `UUID(text)`, `none` for `ValueError`. -/
def uuidOfText (text : String) : Option Uuid :=
  let hex := removeAll "uuid:".toList 0 (removeAll "urn:".toList 0 text.toList)
  let hex := (stripBraces hex).filter (· ≠ '-')
  if hex.length ≠ 32 then none
  else
    match intOfHex hex with
    | some i => if 0 ≤ i ∧ i < 2 ^ 128 then some (BitVec.ofInt 128 i) else none
    | none => none

/-- A hexadecimal digit in lower case. -/
def hexChar (d : ℕ) : Char := if d < 10 then Char.ofNat (48 + d) else Char.ofNat (87 + d)

/-- The `count` hexadecimal digits of `v` from position `hi` down. -/
def hexDigitsFrom (v : ℕ) (hi count : ℕ) : List Char :=
  (List.range count).map fun i => hexChar (v / 16 ^ (hi - i) % 16)

/-- `str(uuid)`: lower-case hexadecimal in groups of 8, 4, 4, 4 and 12 digits. -/
def uuidText (u : Uuid) : String :=
  let v := u.toNat
  String.ofList (hexDigitsFrom v 31 8 ++ '-' :: hexDigitsFrom v 23 4 ++ '-' ::
    hexDigitsFrom v 19 4 ++ '-' :: hexDigitsFrom v 15 4 ++ '-' :: hexDigitsFrom v 11 12)

example : uuidOfText "{00000000-0000-0000-0000-0000000000FF}" = some 255#128 := by decide

example : uuidText 255#128 = "00000000-0000-0000-0000-0000000000ff" := by decide

theorem hexChar_inj : ∀ a < 16, ∀ b < 16, hexChar a = hexChar b → a = b := by decide

@[simp] theorem length_hexDigitsFrom (v hi count : ℕ) : (hexDigitsFrom v hi count).length = count := by
  simp [hexDigitsFrom]

/-- Equal digit strings have equal digits. -/
theorem digit_eq_of_hexDigitsFrom {v w hi count : ℕ}
    (h : hexDigitsFrom v hi count = hexDigitsFrom w hi count) {k : ℕ} (hlo : hi < k + count)
    (hk : k ≤ hi) : v / 16 ^ k % 16 = w / 16 ^ k % 16 := by
  have hget := congrArg (fun digits => digits[hi - k]?) h
  have hlt : hi - k < count := by omega
  have hpos : hi - (hi - k) = k := by omega
  simp only [hexDigitsFrom, List.getElem?_map, List.getElem?_range hlt, Option.map_some, hpos,
    Option.some.injEq] at hget
  exact hexChar_inj _ (Nat.mod_lt _ (by decide)) _ (Nat.mod_lt _ (by decide)) hget

/-- A number is determined by its hexadecimal digits. -/
theorem eq_of_hexDigits (n : ℕ) : ∀ v w : ℕ, v < 16 ^ n → w < 16 ^ n →
    (∀ k < n, v / 16 ^ k % 16 = w / 16 ^ k % 16) → v = w := by
  induction n with
  | zero =>
    intro v w hv hw _
    omega
  | succ n ih =>
    intro v w hv hw hdigits
    have hlow := hdigits 0 (Nat.succ_pos n)
    have hhigh : v / 16 = w / 16 := by
      refine ih _ _ (by omega) (by omega) fun k hk => ?_
      have hdigit := hdigits (k + 1) (Nat.succ_lt_succ hk)
      rwa [pow_succ', ← Nat.div_div_eq_div_mul, ← Nat.div_div_eq_div_mul] at hdigit
    simp only [pow_zero, Nat.div_one] at hlow
    omega

/-- The text of a UUID determines it. -/
theorem uuidText_injective : Function.Injective uuidText := by
  intro u u' h
  have hlist := String.ofList_injective h
  simp only [List.append_assoc, List.cons_append] at hlist
  have hlen : ∀ hi count, (hexDigitsFrom u.toNat hi count).length =
      (hexDigitsFrom u'.toNat hi count).length := fun hi count => by simp
  -- the groups one after another
  obtain ⟨h1, hlist⟩ := List.append_inj hlist (hlen 31 8)
  obtain ⟨h2, hlist⟩ := List.append_inj (List.cons.inj hlist).2 (hlen 23 4)
  obtain ⟨h3, hlist⟩ := List.append_inj (List.cons.inj hlist).2 (hlen 19 4)
  obtain ⟨h4, hlist⟩ := List.append_inj (List.cons.inj hlist).2 (hlen 15 4)
  have h5 := (List.cons.inj hlist).2
  apply BitVec.eq_of_toNat_eq
  refine eq_of_hexDigits 32 _ _ (by simpa using u.isLt) (by simpa using u'.isLt) fun k hk => ?_
  by_cases hk1 : 24 ≤ k
  · exact digit_eq_of_hexDigitsFrom h1 (by omega) (by omega)
  by_cases hk2 : 20 ≤ k
  · exact digit_eq_of_hexDigitsFrom h2 (by omega) (by omega)
  by_cases hk3 : 16 ≤ k
  · exact digit_eq_of_hexDigitsFrom h3 (by omega) (by omega)
  by_cases hk4 : 12 ≤ k
  · exact digit_eq_of_hexDigitsFrom h4 (by omega) (by omega)
  · exact digit_eq_of_hexDigitsFrom h5 (by omega) (by omega)

end WeaponDetection.Foundations.Python
