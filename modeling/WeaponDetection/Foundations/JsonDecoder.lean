import WeaponDetection.Foundations.Json

/-!
# What `json.loads` raises

`Json.loads` says which texts are read.  Here the decoder is followed to the exception it ends with
otherwise: a text that is no JSON raises `JSONDecodeError`, one that opens too many arrays and objects
raises `RecursionError`, and an integer with too many digits raises a plain `ValueError`.  The limits
belong to the interpreter and are parameters.

A `str` is the list of its code points here, so it can hold a lone surrogate, as `json.loads` returns it.
-/

namespace WeaponDetection.Foundations.JsonDecoder

open WeaponDetection.Foundations (Double)
open WeaponDetection.Foundations.Python
open WeaponDetection.Foundations.Json

/-! ## Values and exceptions -/

/-- The code points of a `str`. -/
abbrev PyStr := List ℕ

/-- The `str` a literal denotes. -/
def PyStr.ofString (s : String) : PyStr := s.toList.map Char.toNat

/-- A value as `json.loads` returns it. -/
inductive JsonValue where
  | null
  | bool (b : Bool)
  | int (i : ℤ)
  | float (d : Double)
  | str (s : PyStr)
  | list (items : List JsonValue)
  | dict (items : List (PyStr × JsonValue))

/-- The contents of a `dict`. -/
abbrev JsonDict := List (PyStr × JsonValue)

/-- `d.get(key)`: the last binding written for a key is the one a `dict` holds. -/
def JsonDict.get? (d : JsonDict) (key : PyStr) : Option JsonValue :=
  (d.reverse.find? fun kv => kv.1 = key).map Prod.snd

/-- `value == n` for an `int` literal `n`: Python compares booleans and floats numerically. -/
def JsonValue.eqInt : JsonValue → ℤ → Bool
  | .bool b, n => decide ((if b then 1 else 0) = n)
  | .int i, n => decide (i = n)
  | .float (.finite q), n => decide (q = n)
  | _, _ => false

/-- `hash(value)` raises no `TypeError`. -/
def JsonValue.isHashable : JsonValue → Bool
  | .list _ | .dict _ => false
  | _ => true

/-- The exceptions of the decoder. -/
inductive JsonError where
  | jsonDecodeError
  | recursionError
  /-- The `ValueError` of `int` that is no `JSONDecodeError`. -/
  | valueError
  deriving DecidableEq

/-- The limits of the interpreter. -/
structure Interpreter where
  /-- How many arrays and objects may be open at a time. -/
  nestingLimit : ℕ
  /-- `sys.get_int_max_str_digits()`; `0` is no limit. -/
  intMaxStrDigits : ℕ

/-! ## Strings and atoms -/

/-- Join every surrogate pair into the code point it stands for. -/
def joinSurrogates : List ℕ → PyStr
  | u :: v :: rest =>
    if IsHigh u ∧ IsLow v then
      (0x10000 + (u - 0xd800) * 0x400 + (v - 0xdc00)) :: joinSurrogates rest
    else u :: joinSurrogates (v :: rest)
  | units => units

/-- `scanstring`. -/
def scanString (text : List Char) : Except JsonError (PyStr × List Char) :=
  match readUnits text with
  | some (units, rest) => .ok (joinSurrogates units, rest)
  | none => .error .jsonDecodeError

/-- How many digits an integer was read from. -/
def digitsRead (text rest : List Char) : ℕ :=
  text.length - rest.length - if text.head? = some '-' then 1 else 0

/-- A constant or a number. -/
def scanAtom (py : Interpreter) (text : List Char) : Except JsonError (JsonValue × List Char) :=
  match readAtom text with
  | some (.none, rest) => .ok (.null, rest)
  | some (.bool b, rest) => .ok (.bool b, rest)
  | some (.float d, rest) => .ok (.float d, rest)
  | some (.int i, rest) =>
    if 0 < py.intMaxStrDigits ∧ py.intMaxStrDigits < digitsRead text rest then .error .valueError
    else .ok (.int i, rest)
  | _ => .error .jsonDecodeError

/-! ## Values -/

mutual

/-- `scan_once`; `depth` is how many arrays and objects can still be opened. -/
def scanOnce (py : Interpreter) : ℕ → ℕ → List Char → Except JsonError (JsonValue × List Char)
  | 0, _, _ => .error .jsonDecodeError
  | fuel + 1, depth, text =>
    match text with
    | '"' :: rest => do
      let (s, rest) ← scanString rest
      return (.str s, rest)
    | '\x7b' :: rest =>
      match depth with
      | 0 => .error .recursionError
      | depth + 1 =>
        match skipWhitespace rest with
        | '\x7d' :: rest => .ok (.dict [], rest)
        | rest => do
          let (members, rest) ← parseObject py fuel depth rest
          return (.dict members, rest)
    | '[' :: rest =>
      match depth with
      | 0 => .error .recursionError
      | depth + 1 =>
        match skipWhitespace rest with
        | ']' :: rest => .ok (.list [], rest)
        | rest => do
          let (items, rest) ← parseArray py fuel depth rest
          return (.list items, rest)
    | text => scanAtom py text

/-- `_parse_object`, from the first key on. -/
def parseObject (py : Interpreter) : ℕ → ℕ → List Char → Except JsonError (JsonDict × List Char)
  | 0, _, _ => .error .jsonDecodeError
  | fuel + 1, depth, text =>
    match text with
    | '"' :: rest => do
      let (key, rest) ← scanString rest
      match skipWhitespace rest with
      | ':' :: rest => do
        let (value, rest) ← scanOnce py fuel depth (skipWhitespace rest)
        match skipWhitespace rest with
        | ',' :: rest => do
          let (members, rest) ← parseObject py fuel depth (skipWhitespace rest)
          return ((key, value) :: members, rest)
        | '\x7d' :: rest => return ([(key, value)], rest)
        | _ => .error .jsonDecodeError
      | _ => .error .jsonDecodeError
    | _ => .error .jsonDecodeError

/-- `_parse_array`, from the first item on. -/
def parseArray (py : Interpreter) : ℕ → ℕ → List Char → Except JsonError (List JsonValue × List Char)
  | 0, _, _ => .error .jsonDecodeError
  | fuel + 1, depth, text => do
    let (value, rest) ← scanOnce py fuel depth text
    match skipWhitespace rest with
    | ',' :: rest => do
      let (items, rest) ← parseArray py fuel depth (skipWhitespace rest)
      return (value :: items, rest)
    | ']' :: rest => return ([value], rest)
    | _ => .error .jsonDecodeError

end

/-- As many rounds as a text can take: every array and every object opens with a character. -/
def enoughFuel (text : List Char) : ℕ := 2 * text.length + 1

/-- `json.loads(text)`. -/
def loads (py : Interpreter) (text : List Char) : Except JsonError JsonValue := do
  let (value, rest) ← scanOnce py (enoughFuel text) py.nestingLimit (skipWhitespace text)
  if skipWhitespace rest = [] then return value else .error .jsonDecodeError

example : loads ⟨1, 3⟩ "[1234]".toList = .error .valueError := by rfl

example : loads ⟨1, 3⟩ "[[]]".toList = .error .recursionError := by rfl

/-! ## What is read is the beginning of the text -/

theorem skipWhitespace_suffix (text : List Char) : skipWhitespace text <:+ text :=
  List.dropWhile_suffix _

/-- Text behind a character of a text is shorter. -/
theorem suffix_lt {c : Char} {rest text : List Char} (h : c :: rest <:+ text) : rest.length < text.length :=
  h.length_le

theorem readUnits_suffix {text rest : List Char} {units : List ℕ} (h : readUnits text = some (units, rest)) :
    rest <:+ text := by
  induction text using readUnits.induct generalizing units with
  | case1 => cases h
  | case2 tail =>
    simp only [readUnits, Option.some.injEq, Prod.mk.injEq] at h
    exact h.2 ▸ List.suffix_cons _ _
  | case3 a b c d tail ih =>
    simp only [readUnits, Option.bind_eq_bind, Option.bind_eq_some_iff] at h
    obtain ⟨u, -, ⟨units', rest'⟩, htail, heq⟩ := h
    simp only [Option.some.injEq, Prod.mk.injEq] at heq
    exact (ih (heq.2 ▸ htail)).trans ⟨['\\', 'u', a, b, c, d], rfl⟩
  | case4 e tail hu ih =>
    rw [readUnits] at h
    · simp only [Option.bind_eq_bind, Option.bind_eq_some_iff] at h
      obtain ⟨u, -, ⟨units', rest'⟩, htail, heq⟩ := h
      simp only [Option.some.injEq, Prod.mk.injEq] at heq
      exact (ih (heq.2 ▸ htail)).trans ⟨['\\', e], rfl⟩
    · exact hu
  | case5 c tail hquote hunit hescape hbad =>
    rw [readUnits, if_pos hbad] at h
    · cases h
    · exact hquote
    · exact hunit
    · exact hescape
  | case6 c tail hquote hunit hescape hplain ih =>
    rw [readUnits, if_neg hplain] at h
    · simp only [Option.bind_eq_bind, Option.bind_eq_some_iff] at h
      obtain ⟨⟨units', rest'⟩, htail, heq⟩ := h
      simp only [Option.some.injEq, Prod.mk.injEq] at heq
      exact (ih (heq.2 ▸ htail)).trans (List.suffix_cons _ _)
    · exact hquote
    · exact hunit
    · exact hescape

theorem readIntDigits_suffix {text rest digits : List Char} (h : readIntDigits text = some (digits, rest)) :
    rest <:+ text := by
  unfold readIntDigits at h
  split at h
  · simp only [Option.some.injEq, Prod.mk.injEq] at h
    exact h.2 ▸ List.suffix_cons _ _
  · split at h
    · cases h
    · simp only [Option.some.injEq, Prod.mk.injEq] at h
      exact h.2 ▸ List.dropWhile_suffix _

theorem readFraction_suffix (text : List Char) : (readFraction text).2 <:+ text := by
  unfold readFraction
  split
  · split
    · exact List.suffix_rfl
    · exact (List.dropWhile_suffix _).trans (List.suffix_cons _ _)
  · exact List.suffix_rfl

theorem dropSign_suffix (text : List Char) : (dropSign text).2 <:+ text := by
  unfold dropSign
  split
  · exact List.suffix_cons _ _
  · exact List.suffix_cons _ _
  · exact List.suffix_rfl

theorem readExponent_suffix (text : List Char) : (readExponent text).2 <:+ text := by
  unfold readExponent
  split
  · exact List.suffix_rfl
  · simp only
    split
    · exact List.suffix_rfl
    · exact ((List.dropWhile_suffix _).trans (dropSign_suffix _)).trans (List.suffix_cons _ _)

theorem readNumber_suffix {text rest : List Char} {v : PyValue} (h : readNumber text = some (v, rest)) :
    rest <:+ text := by
  simp only [readNumber] at h
  split at h
  · cases h
  · rename_i digits tail hdigits
    have htail : tail <:+ text := by
      have hsuffix := readIntDigits_suffix hdigits
      split at hsuffix
      · exact hsuffix.trans (List.tail_suffix _)
      · exact hsuffix
    have hrest : (readExponent (readFraction tail).2).2 <:+ text :=
      ((readExponent_suffix _).trans (readFraction_suffix _)).trans htail
    split at h
    all_goals
      simp only [Option.some.injEq, Prod.mk.injEq] at h
      exact h.2 ▸ hrest

theorem readAtom_suffix {text rest : List Char} {v : PyValue} (h : readAtom text = some (v, rest)) :
    rest <:+ text := by
  unfold readAtom at h
  split at h
  · simp only [Option.some.injEq, Prod.mk.injEq] at h
    exact h.2 ▸ List.drop_suffix _ _
  · exact readNumber_suffix h

theorem scanString_suffix {text rest : List Char} {s : PyStr} (h : scanString text = .ok (s, rest)) :
    rest <:+ text := by
  unfold scanString at h
  split at h
  · rename_i units tail hunits
    simp only [Except.ok.injEq, Prod.mk.injEq] at h
    exact h.2 ▸ readUnits_suffix hunits
  · cases h

theorem scanAtom_suffix {py : Interpreter} {text rest : List Char} {v : JsonValue}
    (h : scanAtom py text = .ok (v, rest)) : rest <:+ text := by
  unfold scanAtom at h
  split at h
  case h_4 i tail hatom =>
    split at h
    · cases h
    · simp only [Except.ok.injEq, Prod.mk.injEq] at h
      exact h.2 ▸ readAtom_suffix hatom
  case h_5 => cases h
  all_goals
    rename_i tail hatom
    simp only [Except.ok.injEq, Prod.mk.injEq] at h
    exact h.2 ▸ readAtom_suffix hatom

/-- What is left behind a value is the end of the text, at every level. -/
theorem scan_suffix (py : Interpreter) (fuel : ℕ) :
    (∀ depth text v rest, scanOnce py fuel depth text = .ok (v, rest) → rest <:+ text) ∧
    (∀ depth text members rest, parseObject py fuel depth text = .ok (members, rest) → rest <:+ text) ∧
    (∀ depth text items rest, parseArray py fuel depth text = .ok (items, rest) → rest <:+ text) := by
  induction fuel with
  | zero =>
    refine ⟨?_, ?_, ?_⟩ <;>
    · intro depth text v rest h
      cases h
  | succ fuel ih =>
    obtain ⟨hvalue, hobject, harray⟩ := ih
    refine ⟨?_, ?_, ?_⟩
    · intro depth text v rest h
      unfold scanOnce at h
      split at h
      · rename_i tail
        obtain ⟨⟨s, rest'⟩, hs, heq⟩ := bind_eq_ok_iff.mp h
        cases heq
        exact (scanString_suffix hs).trans (List.suffix_cons _ _)
      · rename_i tail
        split at h
        · cases h
        · have hskip := skipWhitespace_suffix tail
          split at h
          · rename_i tail' htail
            cases h
            rw [htail] at hskip
            exact ((List.suffix_cons _ _).trans hskip).trans (List.suffix_cons _ _)
          · obtain ⟨⟨members, rest'⟩, hmembers, heq⟩ := bind_eq_ok_iff.mp h
            cases heq
            exact ((hobject _ _ _ _ hmembers).trans hskip).trans (List.suffix_cons _ _)
      · rename_i tail
        split at h
        · cases h
        · have hskip := skipWhitespace_suffix tail
          split at h
          · rename_i tail' htail
            cases h
            rw [htail] at hskip
            exact ((List.suffix_cons _ _).trans hskip).trans (List.suffix_cons _ _)
          · obtain ⟨⟨items, rest'⟩, hitems, heq⟩ := bind_eq_ok_iff.mp h
            cases heq
            exact ((harray _ _ _ _ hitems).trans hskip).trans (List.suffix_cons _ _)
      · exact scanAtom_suffix h
    · intro depth text members rest h
      unfold parseObject at h
      split at h
      · rename_i tail
        obtain ⟨⟨key, afterKey⟩, hkey, h⟩ := bind_eq_ok_iff.mp h
        simp only at h
        have hkey := (scanString_suffix hkey).trans (List.suffix_cons '"' tail)
        have hskip := (skipWhitespace_suffix afterKey).trans hkey
        split at h
        · rename_i afterColon hcolon
          rw [hcolon] at hskip
          obtain ⟨⟨value, afterValue⟩, hv, h⟩ := bind_eq_ok_iff.mp h
          simp only at h
          have hv := (((hvalue _ _ _ _ hv).trans (skipWhitespace_suffix _)).trans (List.suffix_cons _ _)).trans hskip
          have hskip := (skipWhitespace_suffix afterValue).trans hv
          split at h
          · rename_i afterComma hcomma
            rw [hcomma] at hskip
            obtain ⟨⟨members', rest'⟩, hmembers, heq⟩ := bind_eq_ok_iff.mp h
            cases heq
            exact (((hobject _ _ _ _ hmembers).trans (skipWhitespace_suffix _)).trans (List.suffix_cons _ _)).trans hskip
          · rename_i rest' hbrace
            cases h
            rw [hbrace] at hskip
            exact (List.suffix_cons _ _).trans hskip
          · cases h
        · cases h
      · cases h
    · intro depth text items rest h
      unfold parseArray at h
      obtain ⟨⟨value, afterValue⟩, hv, h⟩ := bind_eq_ok_iff.mp h
      simp only at h
      have hskip := (skipWhitespace_suffix afterValue).trans (hvalue _ _ _ _ hv)
      split at h
      · rename_i afterComma hcomma
        rw [hcomma] at hskip
        obtain ⟨⟨items', rest'⟩, hitems, heq⟩ := bind_eq_ok_iff.mp h
        cases heq
        exact (((harray _ _ _ _ hitems).trans (skipWhitespace_suffix _)).trans (List.suffix_cons _ _)).trans hskip
      · rename_i rest' hbracket
        cases h
        rw [hbracket] at hskip
        exact (List.suffix_cons _ _).trans hskip
      · cases h

/-! ## The rounds are enough -/

/-- One more round changes nothing where there were enough. -/
theorem scan_fuel (py : Interpreter) (fuel : ℕ) :
    (∀ depth text, 2 * text.length < fuel → scanOnce py (fuel + 1) depth text = scanOnce py fuel depth text) ∧
    (∀ depth text, 2 * text.length + 1 < fuel →
      parseObject py (fuel + 1) depth text = parseObject py fuel depth text) ∧
    (∀ depth text, 2 * text.length + 1 < fuel →
      parseArray py (fuel + 1) depth text = parseArray py fuel depth text) := by
  induction fuel with
  | zero => exact ⟨fun _ _ h => by omega, fun _ _ h => by omega, fun _ _ h => by omega⟩
  | succ fuel ih =>
    obtain ⟨hvalue, hobject, harray⟩ := ih
    refine ⟨?_, ?_, ?_⟩
    · intro depth text hfuel
      rw [scanOnce.eq_def, scanOnce.eq_def]
      simp only
      split
      · rfl
      · rename_i tail
        have hskip := (skipWhitespace_suffix tail).length_le
        rw [List.length_cons] at hfuel
        split
        · rfl
        · split
          · rfl
          · rw [hobject _ _ (by omega)]
      · rename_i tail
        have hskip := (skipWhitespace_suffix tail).length_le
        rw [List.length_cons] at hfuel
        split
        · rfl
        · split
          · rfl
          · rw [harray _ _ (by omega)]
      · rfl
    · intro depth text hfuel
      rw [parseObject.eq_def, parseObject.eq_def]
      simp only
      split
      · rename_i tail
        rw [List.length_cons] at hfuel
        cases hkey : scanString tail with
        | error e => rfl
        | ok read =>
          obtain ⟨key, afterKey⟩ := read
          have hskip := ((skipWhitespace_suffix afterKey).trans (scanString_suffix hkey)).length_le
          simp only [bind, Except.bind]
          split
          · rename_i afterColon hcolon
            rw [hcolon, List.length_cons] at hskip
            have hskip' := (skipWhitespace_suffix afterColon).length_le
            rw [hvalue _ _ (by omega)]
            cases hv : scanOnce py fuel depth (skipWhitespace afterColon) with
            | error e => rfl
            | ok read =>
              obtain ⟨value, afterValue⟩ := read
              have hrest := (skipWhitespace_suffix afterValue).trans ((scan_suffix py fuel).1 _ _ _ _ hv)
              simp only
              split
              · rename_i afterComma hcomma
                rw [hcomma] at hrest
                have hlt := suffix_lt hrest
                have hskip'' := (skipWhitespace_suffix afterComma).length_le
                rw [hobject _ _ (by omega)]
              · rfl
              · rfl
          · rfl
      · rfl
    · intro depth text hfuel
      rw [parseArray.eq_def, parseArray.eq_def]
      simp only
      rw [hvalue _ _ (by omega)]
      cases hv : scanOnce py fuel depth text with
      | error e => rfl
      | ok read =>
        obtain ⟨value, afterValue⟩ := read
        have hrest := (skipWhitespace_suffix afterValue).trans ((scan_suffix py fuel).1 _ _ _ _ hv)
        simp only [bind, Except.bind]
        split
        · rename_i afterComma hcomma
          rw [hcomma] at hrest
          have hlt := suffix_lt hrest
          have hskip := (skipWhitespace_suffix afterComma).length_le
          rw [harray _ _ (by omega)]
        · rfl
        · rfl

/-- **More rounds do not change what `scan_once` comes to.** -/
theorem scanOnce_fuel (py : Interpreter) (depth : ℕ) (text : List Char) {fuel : ℕ} (h : enoughFuel text ≤ fuel) :
    scanOnce py fuel depth text = scanOnce py (enoughFuel text) depth text := by
  induction fuel, h using Nat.le_induction with
  | base => rfl
  | succ fuel hle ih => rw [(scan_fuel py fuel).1 depth text (by unfold enoughFuel at hle; omega), ih]

end WeaponDetection.Foundations.JsonDecoder
