import WeaponDetection.Foundations.Bytes

/-!
# JSON text

`json.loads` on a text, and `json.dumps` of a flat object of strings and booleans with the default
separators and `ensure_ascii`.  The text `dumps` writes is printable ASCII, and `loads` reads it
back (`loads_dumps`).

A number keeps the value its digits denote.  A Python `str` can hold a lone surrogate and a `String`
cannot, so a text with a lone surrogate escape is refused here.
-/

namespace WeaponDetection.Foundations.Json

open WeaponDetection.Foundations (Double)
open WeaponDetection.Foundations.Python
open WeaponDetection.Foundations.Bytes (IsAscii)

/-! ## Reading strings -/

/-- The whitespace of JSON. -/
def isWhitespace (c : Char) : Bool := c = ' ' ∨ c = '\t' ∨ c = '\n' ∨ c = '\r'

/-- Skip whitespace. -/
def skipWhitespace (text : List Char) : List Char := text.dropWhile isWhitespace

/-- The number four hexadecimal digits denote. -/
def hex4 (a b c d : Char) : Option ℕ := do
  let a ← hexValue a
  let b ← hexValue b
  let c ← hexValue c
  let d ← hexValue d
  some (((a * 16 + b) * 16 + c) * 16 + d)

/-- The character of a two-character escape. -/
def unescape : Char → Option Char
  | '"' => some '"'
  | '\\' => some '\\'
  | '/' => some '/'
  | 'b' => some '\x08'
  | 'f' => some '\x0c'
  | 'n' => some '\n'
  | 'r' => some '\r'
  | 't' => some '\t'
  | _ => none

/-- Read up to the closing quote: the code points and escaped units of the string, and the text
after it. -/
def readUnits : List Char → Option (List ℕ × List Char)
  | [] => none
  | '"' :: rest => some ([], rest)
  | '\\' :: 'u' :: a :: b :: c :: d :: rest => do
    let u ← hex4 a b c d
    let (units, rest) ← readUnits rest
    some (u :: units, rest)
  | '\\' :: e :: rest => do
    let c ← unescape e
    let (units, rest) ← readUnits rest
    some (c.toNat :: units, rest)
  | c :: rest =>
    if c = '\\' ∨ c.toNat < 0x20 then none
    else do
      let (units, rest) ← readUnits rest
      some (c.toNat :: units, rest)

/-- A unit that is the first half of a surrogate pair. -/
def IsHigh (u : ℕ) : Prop := 0xd800 ≤ u ∧ u ≤ 0xdbff

/-- A unit that is the second half of a surrogate pair. -/
def IsLow (u : ℕ) : Prop := 0xdc00 ≤ u ∧ u ≤ 0xdfff

instance (u : ℕ) : Decidable (IsHigh u) := inferInstanceAs (Decidable (_ ∧ _))

instance (u : ℕ) : Decidable (IsLow u) := inferInstanceAs (Decidable (_ ∧ _))

/-- The character with a code point. -/
def charOf (u : ℕ) : Option Char := if u.isValidChar then some (Char.ofNat u) else none

/-- Join every surrogate pair into the character it stands for. -/
def joinUnits : List ℕ → Option (List Char)
  | [] => some []
  | [u] => (charOf u).map ([·])
  | u :: v :: rest =>
    if IsHigh u ∧ IsLow v then
      (charOf (0x10000 + (u - 0xd800) * 0x400 + (v - 0xdc00))).bind fun c =>
        (joinUnits rest).map (c :: ·)
    else (charOf u).bind fun c => (joinUnits (v :: rest)).map (c :: ·)

/-- The string after its opening quote, and the text after its closing one. -/
def readString (text : List Char) : Option (String × List Char) := do
  let (units, rest) ← readUnits text
  let chars ← joinUnits units
  some (String.ofList chars, rest)

/-! ## Reading values -/

/-- An ASCII digit. -/
def isDigit (c : Char) : Bool := '0' ≤ c ∧ c ≤ '9'

/-- The number a list of decimal digits denotes. -/
def decimal (digits : List Char) : ℕ :=
  digits.foldl (fun n c => n * 10 + (c.toNat - '0'.toNat)) 0

/-- The integer digits of a number: `0`, or digits that do not begin with one. -/
def readIntDigits : List Char → Option (List Char × List Char)
  | '0' :: rest => some (['0'], rest)
  | text =>
    match text.takeWhile isDigit with
    | [] => none
    | digits => some (digits, text.dropWhile isDigit)

/-- The digits after a decimal point, when there are any. -/
def readFraction : List Char → List Char × List Char
  | '.' :: rest =>
    match rest.takeWhile isDigit with
    | [] => ([], '.' :: rest)
    | digits => (digits, rest.dropWhile isDigit)
  | text => ([], text)

/-- The exponent after the fraction, when there is one. -/
def readExponent : List Char → Option ℤ × List Char
  | [] => (none, [])
  | e :: rest =>
    let (negative, digits) := dropSign rest
    match if e = 'e' ∨ e = 'E' then digits.takeWhile isDigit else [] with
    | [] => (none, e :: rest)
    | ds =>
      (some (if negative then -(decimal ds : ℤ) else decimal ds), digits.dropWhile isDigit)

/-- A number: an `int` without fraction and exponent, a `float` otherwise. -/
def readNumber (text : List Char) : Option (PyValue × List Char) :=
  let negative := decide (text.head? = some '-')
  match readIntDigits (if negative then text.tail else text) with
  | none => none
  | some (digits, rest) =>
    let (fraction, rest) := readFraction rest
    let (exponent, rest) := readExponent rest
    if fraction = [] ∧ exponent = none then
      some (.int (if negative then -(decimal digits : ℤ) else decimal digits), rest)
    else
      let scale : ℚ := (10 : ℚ) ^ (exponent.getD 0 - fraction.length)
      let q : ℚ := decimal (digits ++ fraction) * scale
      some (.float (Double.ofRat (if negative then -q else q)), rest)

/-- The constants of the decoder. -/
def constants : List (List Char × PyValue) :=
  [("null".toList, .none), ("true".toList, .bool true), ("false".toList, .bool false),
    ("NaN".toList, .float .nan), ("Infinity".toList, .float (.inf false)),
    ("-Infinity".toList, .float (.inf true))]

/-- A constant or a number. -/
def readAtom (text : List Char) : Option (PyValue × List Char) :=
  match constants.find? fun kv => kv.1.isPrefixOf text with
  | some (word, v) => some (v, text.drop word.length)
  | none => readNumber text

mutual

/-- One value; `fuel` bounds the nesting and the number of members together. -/
def readValue : ℕ → List Char → Option (PyValue × List Char)
  | 0, _ => none
  | fuel + 1, text =>
    match text with
    | '"' :: rest => (readString rest).map fun (s, rest) => (.str s, rest)
    | '\x7b' :: rest =>
      match skipWhitespace rest with
      | '\x7d' :: rest => some (.dict [], rest)
      | rest => (readMembers fuel rest).map fun (members, rest) => (.dict members, rest)
    | '[' :: rest =>
      match skipWhitespace rest with
      | ']' :: rest => some (.list [], rest)
      | rest => (readItems fuel rest).map fun (items, rest) => (.list items, rest)
    | text => readAtom text

/-- The members of an object up to its closing brace. -/
def readMembers : ℕ → List Char → Option (List (String × PyValue) × List Char)
  | 0, _ => none
  | fuel + 1, text =>
    match text with
    | '"' :: rest => do
      let (key, rest) ← readString rest
      match skipWhitespace rest with
      | ':' :: rest => do
        let (value, rest) ← readValue fuel (skipWhitespace rest)
        match skipWhitespace rest with
        | ',' :: rest => do
          let (members, rest) ← readMembers fuel (skipWhitespace rest)
          some ((key, value) :: members, rest)
        | '\x7d' :: rest => some ([(key, value)], rest)
        | _ => none
      | _ => none
    | _ => none

/-- The items of an array up to its closing bracket. -/
def readItems : ℕ → List Char → Option (List PyValue × List Char)
  | 0, _ => none
  | fuel + 1, text => do
    let (value, rest) ← readValue fuel text
    match skipWhitespace rest with
    | ',' :: rest => do
      let (items, rest) ← readItems fuel (skipWhitespace rest)
      some (value :: items, rest)
    | ']' :: rest => some ([value], rest)
    | _ => none

end

/-- `json.loads(text)`, `none` for `ValueError`: one value and nothing but whitespace around it. -/
def loads (text : List Char) : Option PyValue :=
  match readValue (text.length + 1) (skipWhitespace text) with
  | some (value, rest) => if skipWhitespace rest = [] then some value else none
  | none => none

/-! ## Writing -/

/-- The escape of a unit. -/
def unitEscape (u : ℕ) : List Char := '\\' :: 'u' :: hexDigitsFrom u 3 4

/-- The letter of a character that has an escape of its own. -/
def shortEscape (c : Char) : Option Char :=
  if c = '"' then some '"'
  else if c = '\\' then some '\\'
  else if c = '\n' then some 'n'
  else if c = '\r' then some 'r'
  else if c = '\t' then some 't'
  else if c = '\x0c' then some 'f'
  else if c = '\x08' then some 'b'
  else none

/-- A character as `ensure_ascii` writes it. -/
def escapeChar (c : Char) : List Char :=
  match shortEscape c with
  | some e => ['\\', e]
  | none =>
    if 0x20 ≤ c.toNat ∧ c.toNat ≤ 0x7e then [c]
    else if c.toNat < 0x10000 then unitEscape c.toNat
    else
      unitEscape (0xd800 + (c.toNat - 0x10000) / 0x400) ++
        unitEscape (0xdc00 + (c.toNat - 0x10000) % 0x400)

/-- A string with its quotes. -/
def dumpString (s : String) : List Char := '"' :: s.toList.flatMap escapeChar ++ ['"']

/-- The values of a flat object. -/
inductive Scalar where
  | str (s : String)
  | bool (b : Bool)

/-- The value a scalar is. -/
def Scalar.value : Scalar → PyValue
  | str s => .str s
  | bool b => .bool b

/-- A scalar as it is written. -/
def dumpScalar : Scalar → List Char
  | .str s => dumpString s
  | .bool true => "true".toList
  | .bool false => "false".toList

/-- One member of an object. -/
def dumpMember (member : String × Scalar) : List Char :=
  dumpString member.1 ++ ':' :: ' ' :: dumpScalar member.2

/-- The members of an object and its closing brace. -/
def dumpMembers : List (String × Scalar) → List Char
  | [] => ['\x7d']
  | [member] => dumpMember member ++ ['\x7d']
  | member :: members => dumpMember member ++ ',' :: ' ' :: dumpMembers members

/-- `json.dumps` of a flat object. -/
def dumps (members : List (String × Scalar)) : List Char := '\x7b' :: dumpMembers members

/-- A flat object as `loads` returns it. -/
def flatDict (members : List (String × Scalar)) : PyValue :=
  .dict (members.map fun member => (member.1, member.2.value))

/-! ## What is written is printable -/

/-- A printable ASCII character. -/
def IsPrintable (c : Char) : Prop := 0x20 ≤ c.toNat ∧ c.toNat ≤ 0x7e

instance (c : Char) : Decidable (IsPrintable c) := inferInstanceAs (Decidable (_ ∧ _))

theorem IsPrintable.isAscii {c : Char} (h : IsPrintable c) : IsAscii c := by
  unfold IsAscii
  have := h.2
  omega

theorem hexChar_printable : ∀ d < 16, IsPrintable (hexChar d) := by decide

theorem unitEscape_printable {u : ℕ} {c : Char} (h : c ∈ unitEscape u) : IsPrintable c := by
  rcases List.mem_cons.mp h with rfl | h
  · decide
  rcases List.mem_cons.mp h with rfl | h
  · decide
  obtain ⟨i, -, rfl⟩ := List.mem_map.mp h
  exact hexChar_printable _ (Nat.mod_lt _ (by decide))

/-- A short escape is a printable letter other than `u` that reads back the character. -/
theorem shortEscape_eq_some {c e : Char} (h : shortEscape c = some e) :
    IsPrintable e ∧ e ≠ 'u' ∧ unescape e = some c ∧ c.toNat < 0x10000 := by
  unfold shortEscape at h
  split_ifs at h with h1 h2 h3 h4 h5 h6 h7 <;> cases h <;> subst c <;> decide

theorem escapeChar_printable {x c : Char} (h : c ∈ escapeChar x) : IsPrintable c := by
  unfold escapeChar at h
  split at h
  · rename_i e he
    simp only [List.mem_cons, List.not_mem_nil, or_false] at h
    rcases h with rfl | rfl
    · decide
    · exact (shortEscape_eq_some he).1
  · split_ifs at h with hplain
    · exact List.mem_singleton.mp h ▸ hplain
    · exact unitEscape_printable h
    · exact (List.mem_append.mp h).elim unitEscape_printable unitEscape_printable

theorem dumpString_printable {s : String} {c : Char} (h : c ∈ dumpString s) : IsPrintable c := by
  simp only [dumpString, List.cons_append, List.mem_cons, List.mem_append, List.mem_flatMap,
    List.not_mem_nil, or_false] at h
  rcases h with rfl | ⟨x, -, hx⟩ | rfl
  · decide
  · exact escapeChar_printable hx
  · decide

theorem dumpScalar_printable {v : Scalar} {c : Char} (h : c ∈ dumpScalar v) : IsPrintable c := by
  cases v with
  | str s => exact dumpString_printable h
  | bool b =>
    -- `List.all` and not `∀ c`, which would be decided over all characters
    have hall : (dumpScalar (.bool b)).all (fun c => decide (IsPrintable c)) = true := by
      cases b <;> decide
    exact of_decide_eq_true (List.all_eq_true.1 hall c h)

theorem dumpMember_printable {member : String × Scalar} {c : Char} (h : c ∈ dumpMember member) :
    IsPrintable c := by
  simp only [dumpMember, List.mem_append, List.mem_cons] at h
  rcases h with h | rfl | rfl | h
  · exact dumpString_printable h
  · decide
  · decide
  · exact dumpScalar_printable h

/-- **What `dumps` writes is printable ASCII.** -/
theorem dumps_printable {members : List (String × Scalar)} {c : Char} (h : c ∈ dumps members) :
    IsPrintable c := by
  rcases List.mem_cons.mp h with rfl | h
  · decide
  induction members with
  | nil =>
    rw [dumpMembers, List.mem_singleton] at h
    exact h ▸ by decide
  | cons member members ih =>
    cases members with
    | nil =>
      rw [dumpMembers, List.mem_append, List.mem_singleton] at h
      exact h.elim dumpMember_printable fun h => h ▸ by decide
    | cons next members =>
      rw [dumpMembers, List.mem_append, List.mem_cons, List.mem_cons] at h
      · rcases h with h | rfl | rfl | h
        · exact dumpMember_printable h
        · decide
        · decide
        · exact ih (List.mem_cons_of_mem _ h) h
      · intro h
        cases h

/-! ## What is written is read back -/

theorem hexValue_hexChar : ∀ d < 16, hexValue (hexChar d) = some d := by decide

/-- The four digits of a unit denote it. -/
theorem hex4_digits {u : ℕ} (h : u < 0x10000) :
    hex4 (hexChar (u / 16 ^ 3 % 16)) (hexChar (u / 16 ^ 2 % 16)) (hexChar (u / 16 % 16))
      (hexChar (u % 16)) = some u := by
  have hdigit : ∀ n, hexValue (hexChar (n % 16)) = some (n % 16) := fun n =>
    hexValue_hexChar _ (Nat.mod_lt _ (by decide))
  simp only [hex4, hdigit, Option.bind_eq_bind, Option.bind_some, Option.some.injEq]
  omega

theorem readUnits_unitEscape {u : ℕ} (h : u < 0x10000) (rest : List Char) :
    readUnits (unitEscape u ++ rest) = (readUnits rest).map fun r => (u :: r.1, r.2) := by
  have hdigits : unitEscape u = ['\\', 'u', hexChar (u / 16 ^ 3 % 16), hexChar (u / 16 ^ 2 % 16),
      hexChar (u / 16 % 16), hexChar (u % 16)] := by
    simp [unitEscape, hexDigitsFrom, List.range_succ]
  rw [hdigits]
  simp only [List.cons_append, List.nil_append, readUnits, hex4_digits h, Option.bind_eq_bind,
    Option.bind_some]
  cases readUnits rest <;> rfl

/-- The units a character is written as. -/
def units (c : Char) : List ℕ :=
  if c.toNat < 0x10000 then [c.toNat]
  else [0xd800 + (c.toNat - 0x10000) / 0x400, 0xdc00 + (c.toNat - 0x10000) % 0x400]

theorem toNat_lt (c : Char) : c.toNat < 0x110000 := by
  rcases c.valid with h | h
  · exact lt_trans h (by decide)
  · exact h.2

theorem readUnits_escapeChar (c : Char) (rest : List Char) :
    readUnits (escapeChar c ++ rest) =
      (readUnits rest).map fun r => (units c ++ r.1, r.2) := by
  have hbound := toNat_lt c
  unfold escapeChar
  split
  · rename_i e he
    obtain ⟨-, hu, hread, hsmall⟩ := shortEscape_eq_some he
    rw [List.cons_append, List.singleton_append, readUnits]
    · simp only [hread, units, hsmall, if_true, Option.bind_eq_bind, Option.bind_some]
      cases readUnits rest <;> rfl
    · exact fun _ _ _ _ _ h _ => hu h
  · rename_i hshort
    have hquote : c ≠ '"' := by
      intro h
      subst h
      cases hshort
    have hslash : c ≠ '\\' := by
      intro h
      subst h
      cases hshort
    split_ifs with hplain hsmall
    · have hlow : ¬ (c = '\\' ∨ c.toNat < 0x20) := by
        intro h
        rcases h with h | h
        · exact hslash h
        · omega
      have hsmall : c.toNat < 0x10000 := by omega
      rw [List.singleton_append, readUnits]
      · simp only [hlow, if_false, units, hsmall, if_true]
        cases readUnits rest <;> rfl
      · exact hquote
      · exact fun a b c d rest h _ => hslash h
      · exact fun a rest h _ => hslash h
    · simp only [readUnits_unitEscape hsmall, units, hsmall, if_true, List.singleton_append]
    · rw [List.append_assoc, readUnits_unitEscape (by omega), readUnits_unitEscape (by omega)]
      simp only [units, hsmall, if_false, Option.map_map]
      rfl

theorem readUnits_escape (text rest : List Char) :
    readUnits (text.flatMap escapeChar ++ '"' :: rest) = some (text.flatMap units, rest) := by
  induction text with
  | nil => simp [readUnits]
  | cons c text ih =>
    rw [List.flatMap_cons, List.append_assoc, readUnits_escapeChar, ih]
    rfl

theorem charOf_toNat (c : Char) : charOf c.toNat = some c := by
  have hvalid : c.toNat.isValidChar := c.valid
  rw [charOf, if_pos hvalid, Char.ofNat_toNat]

theorem not_isHigh_toNat (c : Char) : ¬ IsHigh c.toNat := by
  intro h
  rcases c.valid with hc | hc
  · exact absurd h.1 (not_le.mpr hc)
  · have : 0xdfff < c.toNat := hc.1
    have := h.2
    omega

/-- The units of a text are joined back into its characters. -/
theorem joinUnits_units (text : List Char) : joinUnits (text.flatMap units) = some text := by
  induction text with
  | nil => rfl
  | cons c text ih =>
    rw [List.flatMap_cons]
    by_cases hsmall : c.toNat < 0x10000
    · have hunits : units c = [c.toNat] := by rw [units, if_pos hsmall]
      rw [hunits, List.singleton_append]
      cases htext : text.flatMap units with
      | nil =>
        rw [htext] at ih
        simp [joinUnits, charOf_toNat, ← Option.some.inj ih]
      | cons v rest =>
        rw [htext] at ih
        simp [joinUnits, not_isHigh_toNat, charOf_toNat, ih]
    · have hunits : units c = [0xd800 + (c.toNat - 0x10000) / 0x400,
          0xdc00 + (c.toNat - 0x10000) % 0x400] := by rw [units, if_neg hsmall]
      have hbound := toNat_lt c
      have hhigh : IsHigh (0xd800 + (c.toNat - 0x10000) / 0x400) := ⟨by omega, by omega⟩
      have hlow : IsLow (0xdc00 + (c.toNat - 0x10000) % 0x400) := ⟨by omega, by omega⟩
      have hjoin : 0x10000 + (0xd800 + (c.toNat - 0x10000) / 0x400 - 0xd800) * 0x400 +
          (0xdc00 + (c.toNat - 0x10000) % 0x400 - 0xdc00) = c.toNat := by omega
      rw [hunits, List.cons_append, List.singleton_append, joinUnits, if_pos ⟨hhigh, hlow⟩, hjoin,
        charOf_toNat, ih]
      rfl

/-- A string is read back up to its closing quote. -/
theorem readString_dump (s : String) (rest : List Char) :
    readString (s.toList.flatMap escapeChar ++ '"' :: rest) = some (s, rest) := by
  simp only [readString, readUnits_escape, joinUnits_units, Option.bind_eq_bind, Option.bind_some,
    String.ofList_toList]

theorem readValue_dumpScalar (v : Scalar) (rest : List Char) (fuel : ℕ) :
    readValue (fuel + 1) (dumpScalar v ++ rest) = some (v.value, rest) := by
  cases v with
  | str s => simp [dumpScalar, dumpString, readValue, readString_dump, Scalar.value]
  | bool b => cases b <;> simp [dumpScalar, readValue, readAtom, constants, Scalar.value]

theorem skipWhitespace_cons {c : Char} (h : isWhitespace c = false) (rest : List Char) :
    skipWhitespace (c :: rest) = c :: rest := by
  simp [skipWhitespace, h]

/-- The blank the default separators put in front of a scalar is skipped. -/
theorem skipWhitespace_dumpScalar (v : Scalar) (rest : List Char) :
    skipWhitespace (' ' :: (dumpScalar v ++ rest)) = dumpScalar v ++ rest := by
  cases v with
  | str s => rfl
  | bool b => cases b <;> rfl

theorem dumpMembers_cons (member : String × Scalar) (members : List (String × Scalar)) :
    ∃ rest, dumpMembers (member :: members) = '"' :: rest := by
  cases members with
  | nil => exact ⟨_, rfl⟩
  | cons _ _ => exact ⟨_, rfl⟩

/-- Reading one member leaves the separator or the brace after it to be looked at. -/
theorem readMembers_dumpMember (member : String × Scalar) (rest : List Char) (fuel : ℕ) :
    readMembers (fuel + 2) (dumpMember member ++ rest) =
      match skipWhitespace rest with
      | ',' :: rest =>
        (readMembers (fuel + 1) (skipWhitespace rest)).map fun r =>
          ((member.1, member.2.value) :: r.1, r.2)
      | '\x7d' :: rest => some ([(member.1, member.2.value)], rest)
      | _ => none := by
  have hkey : dumpMember member ++ rest =
      '"' :: (member.1.toList.flatMap escapeChar ++
        '"' :: ':' :: ' ' :: (dumpScalar member.2 ++ rest)) := by
    simp [dumpMember, dumpString]
  rw [hkey, readMembers]
  simp only [readString_dump, Option.bind_eq_bind, Option.bind_some,
    skipWhitespace_cons (c := ':') rfl, skipWhitespace_dumpScalar, readValue_dumpScalar]
  split
  · rw [Option.map_eq_bind]
    rfl
  · rfl
  · rfl

/-- The members of an object are read back up to its closing brace. -/
theorem readMembers_dumpMembers (member : String × Scalar) (members : List (String × Scalar))
    (rest : List Char) {fuel : ℕ} (h : members.length + 2 ≤ fuel) :
    readMembers fuel (dumpMembers (member :: members) ++ rest) =
      some ((member :: members).map fun m => (m.1, m.2.value), rest) := by
  induction members generalizing member fuel with
  | nil =>
    obtain ⟨fuel, rfl⟩ : ∃ n, fuel = n + 2 := ⟨fuel - 2, by simp at h; omega⟩
    rw [dumpMembers, List.append_assoc, readMembers_dumpMember]
    rfl
  | cons next members ih =>
    rw [List.length_cons] at h
    obtain ⟨fuel, rfl⟩ : ∃ n, fuel = n + 2 := ⟨fuel - 2, by omega⟩
    obtain ⟨tail, htail⟩ := dumpMembers_cons next members
    have hblank : skipWhitespace (' ' :: (dumpMembers (next :: members) ++ rest)) =
        dumpMembers (next :: members) ++ rest := by
      rw [htail]
      rfl
    rw [dumpMembers, List.append_assoc, List.cons_append, List.cons_append, readMembers_dumpMember,
      skipWhitespace_cons (c := ',') rfl]
    · simp only [hblank, ih next (by omega : members.length + 2 ≤ fuel + 1), Option.map_some]
      rfl
    · intro h
      cases h

theorem dumpMembers_length (members : List (String × Scalar)) :
    members.length + 1 ≤ (dumpMembers members).length := by
  induction members with
  | nil => simp [dumpMembers]
  | cons member members ih =>
    cases members with
    | nil =>
      simp [dumpMembers, dumpMember, dumpString]
      omega
    | cons next members =>
      rw [dumpMembers]
      · simp only [List.length_append, List.length_cons] at ih ⊢
        omega
      · intro h
        cases h

theorem readValue_object {rest tail : List Char} (h : skipWhitespace rest = '"' :: tail)
    (fuel : ℕ) : readValue (fuel + 1) ('\x7b' :: rest) =
      (readMembers fuel ('"' :: tail)).map fun r => (.dict r.1, r.2) := by
  rw [readValue]
  simp only [h]
  rfl

/-- **`loads` reads back what `dumps` writes.** -/
theorem loads_dumps (members : List (String × Scalar)) :
    loads (dumps members) = some (flatDict members) := by
  cases members with
  | nil => rfl
  | cons member members =>
    obtain ⟨tail, htail⟩ := dumpMembers_cons member members
    have hlength := dumpMembers_length (member :: members)
    rw [List.length_cons] at hlength
    have hread := readMembers_dumpMembers member members [] (by omega :
      members.length + 2 ≤ (dumpMembers (member :: members)).length + 1)
    rw [List.append_nil, htail] at hread
    rw [loads, dumps, skipWhitespace_cons (by decide), List.length_cons, htail,
      readValue_object (skipWhitespace_cons (by decide) tail), hread]
    rfl

example : loads (dumps [("messageId", .str "é\n"), ("ok", .bool true)]) =
    some (.dict [("messageId", .str "é\n"), ("ok", .bool true)]) := by rfl

end WeaponDetection.Foundations.Json
