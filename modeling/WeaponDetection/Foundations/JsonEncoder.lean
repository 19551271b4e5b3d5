import Mathlib.Data.List.Chain
import WeaponDetection.Foundations.JsonDecoder

/-!
# `json.dumps` of nested values

The text `json.dumps` writes for a value, with the default separators and `ensure_ascii`, and that
`json.loads` reads it back (`loads_dumps`).  How a finite `float` is written is a parameter: all that is
asked of it is that the decoder reads a float there.
-/

namespace WeaponDetection.Foundations.JsonEncoder

open WeaponDetection.Foundations (Double)
open WeaponDetection.Foundations.Python
open WeaponDetection.Foundations.Json
open WeaponDetection.Foundations.JsonDecoder

/-! ## Writing -/

/-- A code point as `ensure_ascii` writes it; a lone surrogate is a unit of its own. -/
def escapePoint (u : ℕ) : List Char :=
  if u.isValidChar then escapeChar (Char.ofNat u) else unitEscape u

/-- A string with its quotes. -/
def dumpStr (s : PyStr) : List Char := '"' :: (s.flatMap escapePoint ++ ['"'])

/-- `int.__repr__`. -/
def intText (i : ℤ) : List Char :=
  if i < 0 then '-' :: Nat.toDigits 10 i.natAbs else Nat.toDigits 10 i.natAbs

/-- A `float`; `floatRepr` is `float.__repr__` of a finite one. -/
def floatText (floatRepr : ℚ → List Char) : Double → List Char
  | .finite q => floatRepr q
  | .inf false => "Infinity".toList
  | .inf true => "-Infinity".toList
  | .nan => "NaN".toList

mutual

/-- One value. -/
def dumpValue (floatRepr : ℚ → List Char) : JsonValue → List Char
  | .null => "null".toList
  | .bool true => "true".toList
  | .bool false => "false".toList
  | .int i => intText i
  | .float d => floatText floatRepr d
  | .str s => dumpStr s
  | .list [] => "[]".toList
  | .list (v :: items) => '[' :: (dumpValue floatRepr v ++ dumpItems floatRepr items)
  | .dict [] => ['\x7b', '\x7d']
  | .dict ((key, v) :: members) =>
    '\x7b' :: (dumpStr key ++ ':' :: ' ' :: (dumpValue floatRepr v ++ dumpMembers floatRepr members))

/-- The items of an array behind the first one, and its closing bracket. -/
def dumpItems (floatRepr : ℚ → List Char) : List JsonValue → List Char
  | [] => [']']
  | v :: items => ',' :: ' ' :: (dumpValue floatRepr v ++ dumpItems floatRepr items)

/-- The members of an object behind the first one, and its closing brace. -/
def dumpMembers (floatRepr : ℚ → List Char) : JsonDict → List Char
  | [] => ['\x7d']
  | (key, v) :: members =>
    ',' :: ' ' :: (dumpStr key ++ ':' :: ' ' :: (dumpValue floatRepr v ++ dumpMembers floatRepr members))

end

/-- `json.dumps(value)`. -/
def dumps (floatRepr : ℚ → List Char) (v : JsonValue) : List Char := dumpValue floatRepr v

mutual

/-- The value as it is read back: `read` is what becomes of a finite `float`. -/
def reread (read : ℚ → Double) : JsonValue → JsonValue
  | .float (.finite q) => .float (read q)
  | .list items => .list (rereadItems read items)
  | .dict members => .dict (rereadMembers read members)
  | v => v

/-- The items of an array as they are read back. -/
def rereadItems (read : ℚ → Double) : List JsonValue → List JsonValue
  | [] => []
  | v :: items => reread read v :: rereadItems read items

/-- The members of an object as they are read back. -/
def rereadMembers (read : ℚ → Double) : JsonDict → JsonDict
  | [] => []
  | (key, v) :: members => (key, reread read v) :: rereadMembers read members

end

/-! ## What can be read back -/

/-- No high surrogate stands before a low one: the pair would be read as one code point. -/
def Joined (s : PyStr) : Prop := s.IsChain fun u v => ¬ (IsHigh u ∧ IsLow v)

/-- A string of code points that are read back one by one. -/
def Writable (s : PyStr) : Prop := (∀ u ∈ s, u < 0x110000) ∧ Joined s

/-- How many digits an `int` has. -/
def digitCount (i : ℤ) : ℕ := (Nat.toDigits 10 i.natAbs).length

/-- The interpreter converts between the `int` and its digits. -/
def IntFits (py : Interpreter) (i : ℤ) : Prop := py.intMaxStrDigits = 0 ∨ digitCount i ≤ py.intMaxStrDigits

/-- A value that is read back by a decoder that can still open `depth` arrays and objects. -/
def Readable (py : Interpreter) : ℕ → JsonValue → Prop
  | _, .int i => IntFits py i
  | _, .str s => Writable s
  | depth + 1, .list items => ∀ v ∈ items, Readable py depth v
  | depth + 1, .dict members => ∀ kv ∈ members, Writable kv.1 ∧ Readable py depth kv.2
  | 0, .list _ | 0, .dict _ => False
  | _, _ => True

/-- The text behind a number does not continue it. -/
def Stops (rest : List Char) : Prop :=
  ∀ c ∈ rest.head?, isDigit c = false ∧ c ≠ '.' ∧ c ≠ 'e' ∧ c ≠ 'E'

/-- A text that begins like a number. -/
def BeginsNumber (text : List Char) : Prop := ∃ c cs, text = c :: cs ∧ (isDigit c = true ∨ c = '-')

/-- The decoder reads a float where `floatRepr` has written one. -/
structure ReadsBack (floatRepr : ℚ → List Char) (read : ℚ → Double) : Prop where
  begins : ∀ q, BeginsNumber (floatRepr q)
  reads : ∀ py q rest, Stops rest → scanAtom py (floatRepr q ++ rest) = .ok (.float (read q), rest)

/-! ## Strings -/

/-- The units a code point is written as. -/
def pointUnits (u : ℕ) : List ℕ :=
  if u < 0x10000 then [u] else [0xd800 + (u - 0x10000) / 0x400, 0xdc00 + (u - 0x10000) % 0x400]

theorem readUnits_escapePoint {u : ℕ} (h : u < 0x110000) (rest : List Char) :
    readUnits (escapePoint u ++ rest) = (readUnits rest).map fun r => (pointUnits u ++ r.1, r.2) := by
  unfold escapePoint
  split
  · rename_i hvalid
    have hu : (Char.ofNat u).toNat = u := by
      rw [Char.ofNat, dif_pos hvalid]
      rfl
    rw [readUnits_escapeChar]
    simp only [units, hu, pointUnits]
  · rename_i hvalid
    -- what is no character is a surrogate, so one unit writes it
    have hsmall : u < 0x10000 := by
      unfold Nat.isValidChar at hvalid
      omega
    rw [readUnits_unitEscape hsmall, pointUnits, if_pos hsmall]
    rfl

theorem readUnits_points {s : PyStr} (h : ∀ u ∈ s, u < 0x110000) (rest : List Char) :
    readUnits (s.flatMap escapePoint ++ '"' :: rest) = some (s.flatMap pointUnits, rest) := by
  induction s with
  | nil => simp [readUnits]
  | cons u s ih =>
    rw [List.flatMap_cons, List.append_assoc, readUnits_escapePoint (h u List.mem_cons_self),
      ih fun v hv => h v (List.mem_cons_of_mem _ hv)]
    rfl

/-- The first unit of a string of code points is low only where the first code point is. -/
theorem isLow_of_head_pointUnits {u : ℕ} {s : PyStr} (h : u < 0x110000)
    (hlow : ∃ v rest, pointUnits u ++ s = v :: rest ∧ IsLow v) : IsLow u := by
  obtain ⟨v, rest, heq, hv⟩ := hlow
  unfold pointUnits at heq
  split at heq
  · cases heq
    exact hv
  · simp only [List.cons_append, List.cons.injEq] at heq
    obtain ⟨rfl, -⟩ := heq
    unfold IsLow at hv
    omega

/-- The units of a string are joined back into its code points. -/
theorem joinSurrogates_points {s : PyStr} (h : Writable s) : joinSurrogates (s.flatMap pointUnits) = s := by
  induction s with
  | nil => rfl
  | cons u s ih =>
    obtain ⟨hpoints, hjoined⟩ := h
    have hu := hpoints u List.mem_cons_self
    have htail : joinSurrogates (s.flatMap pointUnits) = s :=
      ih ⟨fun v hv => hpoints v (List.mem_cons_of_mem _ hv), hjoined.tail⟩
    rw [List.flatMap_cons]
    by_cases hsmall : u < 0x10000
    · have hunits : pointUnits u = [u] := if_pos hsmall
      rw [hunits, List.singleton_append]
      cases hrest : s.flatMap pointUnits with
      | nil =>
        rw [hrest] at htail
        rw [joinSurrogates, ← htail]
        · rfl
        · intro _ _ _ heq
          cases heq
      | cons v rest =>
        have hpair : ¬ (IsHigh u ∧ IsLow v) := by
          rintro ⟨hhigh, hlow⟩
          cases s with
          | nil => cases hrest
          | cons w s =>
            rw [List.flatMap_cons] at hrest
            have hw := isLow_of_head_pointUnits (hpoints w (by simp)) ⟨v, rest, hrest, hlow⟩
            exact (List.isChain_cons_cons.mp hjoined).1 ⟨hhigh, hw⟩
        rw [joinSurrogates, if_neg hpair, ← hrest, htail]
    · have hunits : pointUnits u =
          [0xd800 + (u - 0x10000) / 0x400, 0xdc00 + (u - 0x10000) % 0x400] := if_neg hsmall
      have hhigh : IsHigh (0xd800 + (u - 0x10000) / 0x400) := ⟨by omega, by omega⟩
      have hlow : IsLow (0xdc00 + (u - 0x10000) % 0x400) := ⟨by omega, by omega⟩
      have hjoin : 0x10000 + (0xd800 + (u - 0x10000) / 0x400 - 0xd800) * 0x400 +
          (0xdc00 + (u - 0x10000) % 0x400 - 0xdc00) = u := by omega
      rw [hunits, List.cons_append, List.singleton_append, joinSurrogates, if_pos ⟨hhigh, hlow⟩, hjoin, htail]

/-- What the decoder joins stays joined. -/
theorem joined_joinSurrogates (us : List ℕ) : Joined (joinSurrogates us) := by
  have hhead : ∀ us : List ℕ, ∀ w ∈ (joinSurrogates us).head?, IsLow w → us.head? = some w := by
    intro us w hw hlow
    induction us using joinSurrogates.induct with
    | case1 u v rest hpair =>
      rw [joinSurrogates, if_pos hpair, List.head?_cons, Option.mem_some_iff] at hw
      unfold IsLow at hlow
      omega
    | case2 u v rest hpair ih =>
      rw [joinSurrogates, if_neg hpair] at hw
      exact hw
    | case3 us hus =>
      rw [joinSurrogates] at hw
      · exact hw
      · exact hus
  induction us using joinSurrogates.induct with
  | case1 u v rest hpair ih =>
    rw [joinSurrogates, if_pos hpair]
    refine List.isChain_cons.mpr ⟨fun w _ hbad => ?_, ih⟩
    have := hbad.1
    unfold IsHigh at this
    omega
  | case2 u v rest hpair ih =>
    rw [joinSurrogates, if_neg hpair]
    refine List.isChain_cons.mpr ⟨fun w hw hbad => hpair ⟨hbad.1, ?_⟩, ih⟩
    have hv := hhead _ w hw hbad.2
    cases hv
    exact hbad.2
  | case3 us hus =>
    rw [joinSurrogates]
    · cases us with
      | nil => exact List.isChain_nil
      | cons u rest =>
        cases rest with
        | nil => exact List.isChain_singleton _
        | cons v rest => exact absurd rfl (hus u v rest)
    · exact hus

/-- No character is a surrogate. -/
theorem writable_map_toNat (text : List Char) : Writable (text.map Char.toNat) := by
  refine ⟨fun u hu => ?_, List.isChain_iff_forall_rel_of_append_cons_cons.2 fun {u v before after} htext hpair => ?_⟩
  · obtain ⟨c, -, rfl⟩ := List.mem_map.1 hu
    exact toNat_lt c
  · have hmem : u ∈ text.map Char.toNat := by simp [htext]
    obtain ⟨c, -, rfl⟩ := List.mem_map.1 hmem
    exact not_isHigh_toNat c hpair.1

/-- A string is read back up to its closing quote. -/
theorem scanString_dumpStr {s : PyStr} (h : Writable s) (rest : List Char) :
    scanString (s.flatMap escapePoint ++ '"' :: rest) = .ok (s, rest) := by
  rw [scanString, readUnits_points h.1]
  simp only [joinSurrogates_points h]

/-! ## Numbers -/

theorem isDigit_eq (c : Char) : isDigit c = c.isDigit := by
  simp only [isDigit, Char.isDigit, Bool.decide_and]
  rfl

/-- Only zero begins with the digit zero. -/
theorem head_toDigits {n : ℕ} (h : 0 < n) : (Nat.toDigits 10 n).head? ≠ some '0' := by
  induction n using Nat.strongRecOn with
  | ind n ih =>
    by_cases hsmall : n < 10
    · have hchar : ∀ m < 10, 0 < m → Nat.digitChar m ≠ '0' := by decide
      rw [Nat.toDigits_of_lt_base hsmall, List.head?_cons]
      exact fun heq => hchar n hsmall h (Option.some.inj heq)
    · rw [Nat.toDigits_of_base_le (by decide) (by omega), List.head?_append_of_ne_nil _ Nat.toDigits_ne_nil]
      exact ih (n / 10) (by omega) (by omega)

/-- The digits of a number, up to what does not continue them. -/
theorem readIntDigits_toDigits (n : ℕ) {rest : List Char} (h : Stops rest) :
    readIntDigits (Nat.toDigits 10 n ++ rest) = some (Nat.toDigits 10 n, rest) := by
  have hall : ∀ c ∈ Nat.toDigits 10 n, isDigit c = true := by
    intro c hc
    rw [isDigit_eq]
    exact Nat.isDigit_of_mem_toDigits (by decide) (by decide) hc
  have hrest : rest.takeWhile isDigit = [] ∧ rest.dropWhile isDigit = rest := by
    cases rest with
    | nil => exact ⟨rfl, rfl⟩
    | cons c rest =>
      have hc := (h c rfl).1
      exact ⟨List.takeWhile_cons_of_neg (by simp [hc]), List.dropWhile_cons_of_neg (by simp [hc])⟩
  rcases Nat.eq_zero_or_pos n with rfl | hpos
  · rfl
  · have hhead := head_toDigits hpos
    cases hdigits : Nat.toDigits 10 n with
    | nil => exact absurd hdigits Nat.toDigits_ne_nil
    | cons d ds =>
      rw [hdigits] at hall hhead
      have htake : (d :: ds ++ rest).takeWhile isDigit = d :: ds := by
        rw [List.takeWhile_append_of_pos hall, hrest.1, List.append_nil]
      have hdrop : (d :: ds ++ rest).dropWhile isDigit = rest := by
        rw [List.dropWhile_append_of_pos hall, hrest.2]
      rw [readIntDigits]
      · simp only [htake, hdrop]
      · intro tail heq
        rw [List.cons_append, List.cons.injEq] at heq
        exact hhead (congrArg some heq.1)

/-- Nothing that stops a number is a fraction or an exponent. -/
theorem readFraction_stops {rest : List Char} (h : Stops rest) : readFraction rest = ([], rest) := by
  cases rest with
  | nil => rfl
  | cons c rest =>
    rw [readFraction]
    intro tail heq
    exact (h c rfl).2.1 (List.cons.inj heq).1

theorem readExponent_stops {rest : List Char} (h : Stops rest) : readExponent rest = (none, rest) := by
  cases rest with
  | nil => rfl
  | cons c rest =>
    have hc := (h c rfl).2.2
    simp only [readExponent]
    rw [if_neg (by tauto)]

theorem decimal_toDigits (n : ℕ) : decimal (Nat.toDigits 10 n) = n := by
  have hfold : decimal (Nat.toDigits 10 n) = Nat.ofDigitChars 10 (Nat.toDigits 10 n) 0 := by
    simp only [decimal, Nat.ofDigitChars, Nat.mul_comm]
  rw [hfold, Nat.ofDigitChars_ten_toDigits]

/-- The digits of a number begin with a digit. -/
theorem toDigits_cons (n : ℕ) : ∃ d ds, Nat.toDigits 10 n = d :: ds ∧ isDigit d = true := by
  cases hdigits : Nat.toDigits 10 n with
  | nil => exact absurd hdigits Nat.toDigits_ne_nil
  | cons d ds =>
    refine ⟨d, ds, rfl, ?_⟩
    rw [isDigit_eq]
    exact Nat.isDigit_of_mem_toDigits (b := 10) (n := n) (by decide) (by decide)
      (hdigits ▸ List.mem_cons_self)

/-- A digit is none of the characters another value begins with. -/
theorem ne_of_isDigit {d c : Char} (hd : isDigit d = true) (hc : isDigit c = false) : d ≠ c := by
  rintro rfl
  rw [hd] at hc
  cases hc

theorem readNumber_intText (i : ℤ) {rest : List Char} (h : Stops rest) :
    readNumber (intText i ++ rest) = some (.int i, rest) := by
  obtain ⟨d, ds, hdigits, hd⟩ := toDigits_cons i.natAbs
  have hread := readIntDigits_toDigits i.natAbs h
  have hsign : d ≠ '-' := ne_of_isDigit hd rfl
  unfold intText
  split
  · rename_i hneg
    have habs : -(i.natAbs : ℤ) = i := by omega
    simp only [List.cons_append, readNumber, List.head?_cons, decide_true, if_true, List.tail_cons, hread,
      readFraction_stops h, readExponent_stops h, and_self, decimal_toDigits, habs]
  · rename_i hneg
    have habs : (i.natAbs : ℤ) = i := by omega
    have hhead : decide ((Nat.toDigits 10 i.natAbs ++ rest).head? = some '-') = false := by
      rw [hdigits]
      simp [hsign]
    simp only [readNumber, hhead, Bool.false_eq_true, if_false, hread, readFraction_stops h, readExponent_stops h,
      and_self, if_true, decimal_toDigits, habs]

/-- No constant begins like a number. -/
theorem readAtom_number {text : List Char} {d : Char} (hd : isDigit d = true)
    (h : (∃ ds, text = d :: ds) ∨ ∃ ds, text = '-' :: d :: ds) : readAtom text = readNumber text := by
  have hne : ∀ c, isDigit c = false → c ≠ d := fun c hc => (ne_of_isDigit hd hc).symm
  have hnone : (constants.find? fun kv => kv.1.isPrefixOf text) = none := by
    rcases h with ⟨ds, rfl⟩ | ⟨ds, rfl⟩
    all_goals
      simp [constants, hne 'n' rfl, hne 't' rfl, hne 'f' rfl, hne 'N' rfl, hne 'I' rfl, hne '-' rfl]
  rw [readAtom, hnone]

theorem scanAtom_intText {py : Interpreter} {i : ℤ} (hfits : IntFits py i) {rest : List Char} (h : Stops rest) :
    scanAtom py (intText i ++ rest) = .ok (.int i, rest) := by
  obtain ⟨d, ds, hdigits, hd⟩ := toDigits_cons i.natAbs
  have hsign : d ≠ '-' := ne_of_isDigit hd rfl
  have hread : readAtom (intText i ++ rest) = some (.int i, rest) := by
    rw [← readNumber_intText i h, readAtom_number hd]
    unfold intText
    split
    · exact .inr ⟨ds ++ rest, by rw [hdigits]; rfl⟩
    · exact .inl ⟨ds ++ rest, by rw [hdigits]; rfl⟩
  have hcount : digitsRead (intText i ++ rest) rest = digitCount i := by
    unfold intText digitsRead digitCount
    split
    · simp
      omega
    · rw [hdigits]
      simp [hsign]
      omega
  have hlimit : ¬ (0 < py.intMaxStrDigits ∧ py.intMaxStrDigits < digitCount i) := by
    unfold IntFits at hfits
    omega
  rw [scanAtom, hread]
  simp only [hcount, if_neg hlimit]

theorem beginsNumber_intText (i : ℤ) : BeginsNumber (intText i) := by
  obtain ⟨d, ds, hdigits, hd⟩ := toDigits_cons i.natAbs
  unfold intText
  split
  · exact ⟨_, _, rfl, .inr rfl⟩
  · exact ⟨d, ds, hdigits, .inl hd⟩

/-! ## Values -/

/-- A number opens neither a string, an object nor an array. -/
theorem scanOnce_number {py : Interpreter} {text : List Char} (h : BeginsNumber text) (fuel depth : ℕ)
    (rest : List Char) : scanOnce py (fuel + 1) depth (text ++ rest) = scanAtom py (text ++ rest) := by
  obtain ⟨c, cs, rfl, hc⟩ := h
  have hne : ∀ d, isDigit d = false → d ≠ '-' → c ≠ d := by
    rintro d hd hminus rfl
    rcases hc with hc | hc
    · rw [hd] at hc
      cases hc
    · exact hminus hc
  rw [List.cons_append, scanOnce.eq_def]
  simp only
  split
  · rename_i heq
    exact absurd (List.cons.inj heq).1 (hne _ rfl (by decide))
  · rename_i heq
    exact absurd (List.cons.inj heq).1 (hne _ rfl (by decide))
  · rename_i heq
    exact absurd (List.cons.inj heq).1 (hne _ rfl (by decide))
  · rfl

theorem stops_cons {c : Char} (h : isDigit c = false ∧ c ≠ '.' ∧ c ≠ 'e' ∧ c ≠ 'E') (rest : List Char) :
    Stops (c :: rest) := by
  intro d hd
  cases hd
  exact h

/-- A text that begins with neither white space nor a closing bracket. -/
def Begins (text : List Char) : Prop := ∃ c cs, text = c :: cs ∧ isWhitespace c = false ∧ c ≠ ']' ∧ c ≠ '\x7d'

theorem Begins.of_cons {c : Char} {text : List Char} (h : isWhitespace c = false ∧ c ≠ ']' ∧ c ≠ '\x7d') :
    Begins (c :: text) := ⟨c, text, rfl, h⟩

theorem Begins.of_isDigit {c : Char} {text : List Char} (h : isDigit c = true) : Begins (c :: text) := by
  refine Begins.of_cons ⟨?_, ne_of_isDigit h rfl, ne_of_isDigit h rfl⟩
  have hblank := ne_of_isDigit (c := ' ') h rfl
  have htab := ne_of_isDigit (c := '\t') h rfl
  have hfeed := ne_of_isDigit (c := '\n') h rfl
  have hreturn := ne_of_isDigit (c := '\r') h rfl
  simp [isWhitespace, hblank, htab, hfeed, hreturn]

theorem Begins.skipWhitespace {text : List Char} (h : Begins text) (rest : List Char) :
    Json.skipWhitespace (text ++ rest) = text ++ rest := by
  obtain ⟨c, cs, rfl, hc, -⟩ := h
  exact skipWhitespace_cons hc (cs ++ rest)

theorem BeginsNumber.begins {text : List Char} (h : BeginsNumber text) : Begins text := by
  obtain ⟨c, cs, rfl, hc | rfl⟩ := h
  · exact Begins.of_isDigit hc
  · exact Begins.of_cons (by decide)

variable {floatRepr : ℚ → List Char} {read : ℚ → Double} {py : Interpreter}

theorem begins_floatText (hfloat : ReadsBack floatRepr read) (d : Double) : Begins (floatText floatRepr d) := by
  cases d with
  | finite q =>
    have htext : floatText floatRepr (.finite q) = floatRepr q := rfl
    exact htext ▸ (hfloat.begins q).begins
  | inf negative => cases negative <;> exact Begins.of_cons (by decide)
  | nan => exact Begins.of_cons (by decide)

theorem begins_dumpValue (hfloat : ReadsBack floatRepr read) (v : JsonValue) : Begins (dumpValue floatRepr v) := by
  cases v with
  | null => exact Begins.of_cons (by decide)
  | bool b => cases b <;> exact Begins.of_cons (by decide)
  | int i => exact (beginsNumber_intText i).begins
  | float d => exact begins_floatText hfloat d
  | str s => exact Begins.of_cons (by decide)
  | list items => cases items <;> exact Begins.of_cons (by decide)
  | dict members => cases members <;> exact Begins.of_cons (by decide)

/-- With enough rounds, the decoder reads `v` off the text whatever stops it. -/
def Reads (floatRepr : ℚ → List Char) (read : ℚ → Double) (py : Interpreter) (depth : ℕ) (v : JsonValue) : Prop :=
  ∀ rest, Stops rest → ∃ n, ∀ fuel, n ≤ fuel →
    scanOnce py fuel depth (dumpValue floatRepr v ++ rest) = .ok (reread read v, rest)

/-- A value that one round reads. -/
theorem Reads.of_scanOnce {depth : ℕ} {v : JsonValue}
    (h : ∀ fuel rest, Stops rest →
      scanOnce py (fuel + 1) depth (dumpValue floatRepr v ++ rest) = .ok (reread read v, rest)) :
    Reads floatRepr read py depth v := by
  intro rest hrest
  refine ⟨1, fun fuel hfuel => ?_⟩
  obtain ⟨fuel, rfl⟩ := Nat.exists_eq_add_of_le' hfuel
  exact h fuel rest hrest

/-- The items of an array are read back up to its closing bracket. -/
theorem parseArray_dumpItems {depth : ℕ} (hfloat : ReadsBack floatRepr read) (items : List JsonValue) :
    ∀ v, Reads floatRepr read py depth v → (∀ w ∈ items, Reads floatRepr read py depth w) →
      ∀ rest, ∃ n, ∀ fuel, n ≤ fuel →
        parseArray py fuel depth (dumpValue floatRepr v ++ (dumpItems floatRepr items ++ rest)) =
          .ok (rereadItems read (v :: items), rest) := by
  induction items with
  | nil =>
    intro v hv _ rest
    obtain ⟨n, hread⟩ := hv (']' :: rest) (stops_cons (by decide) rest)
    refine ⟨n + 1, fun fuel hfuel => ?_⟩
    obtain ⟨fuel, rfl⟩ := Nat.exists_eq_add_of_le' (show 1 ≤ fuel by omega)
    rw [parseArray, dumpItems, List.singleton_append, hread fuel (by omega)]
    rfl
  | cons w items ih =>
    intro v hv hitems rest
    obtain ⟨n, hread⟩ := hv (',' :: ' ' :: (dumpValue floatRepr w ++ (dumpItems floatRepr items ++ rest)))
      (stops_cons (by decide) _)
    obtain ⟨m, hrest⟩ := ih w (hitems w List.mem_cons_self)
      (fun x hx => hitems x (List.mem_cons_of_mem _ hx)) rest
    refine ⟨max n m + 1, fun fuel hfuel => ?_⟩
    obtain ⟨fuel, rfl⟩ := Nat.exists_eq_add_of_le' (show 1 ≤ fuel by omega)
    have hblank : skipWhitespace (' ' :: (dumpValue floatRepr w ++ (dumpItems floatRepr items ++ rest))) =
        dumpValue floatRepr w ++ (dumpItems floatRepr items ++ rest) :=
      (begins_dumpValue hfloat w).skipWhitespace _
    rw [parseArray, dumpItems, List.cons_append, List.cons_append, List.append_assoc, hread fuel (by omega)]
    simp only [bind, Except.bind, skipWhitespace_cons (c := ',') rfl, hblank, hrest fuel (by omega)]
    rfl

/-- One member of an object is read up to what stands behind its value. -/
theorem parseObject_member {depth : ℕ} (hfloat : ReadsBack floatRepr read) {key : PyStr} (hkey : Writable key)
    (v : JsonValue) (fuel : ℕ) (rest : List Char) :
    parseObject py (fuel + 1) depth (dumpStr key ++ ':' :: ' ' :: (dumpValue floatRepr v ++ rest)) =
      (do
        let (value, rest) ← scanOnce py fuel depth (dumpValue floatRepr v ++ rest)
        match skipWhitespace rest with
        | ',' :: rest => do
          let (members, rest) ← parseObject py fuel depth (skipWhitespace rest)
          return ((key, value) :: members, rest)
        | '\x7d' :: rest => return ([(key, value)], rest)
        | _ => .error .jsonDecodeError) := by
  have htext : dumpStr key ++ ':' :: ' ' :: (dumpValue floatRepr v ++ rest) =
      '"' :: (key.flatMap escapePoint ++ '"' :: ':' :: ' ' :: (dumpValue floatRepr v ++ rest)) := by
    simp [dumpStr]
  have hblank : skipWhitespace (' ' :: (dumpValue floatRepr v ++ rest)) = dumpValue floatRepr v ++ rest :=
    (begins_dumpValue hfloat v).skipWhitespace rest
  rw [htext, parseObject]
  simp only [scanString_dumpStr hkey, bind, Except.bind, skipWhitespace_cons (c := ':') rfl, hblank]
  all_goals rfl

/-- The members of an object are read back up to its closing brace. -/
theorem parseObject_dumpMembers {depth : ℕ} (hfloat : ReadsBack floatRepr read) (members : JsonDict) :
    ∀ key v, Writable key → Reads floatRepr read py depth v →
      (∀ kv ∈ members, Writable kv.1 ∧ Reads floatRepr read py depth kv.2) →
      ∀ rest, ∃ n, ∀ fuel, n ≤ fuel →
        parseObject py fuel depth
            (dumpStr key ++ ':' :: ' ' :: (dumpValue floatRepr v ++ (dumpMembers floatRepr members ++ rest))) =
          .ok (rereadMembers read ((key, v) :: members), rest) := by
  induction members with
  | nil =>
    intro key v hkey hv _ rest
    obtain ⟨n, hread⟩ := hv ('\x7d' :: rest) (stops_cons (by decide) rest)
    refine ⟨n + 1, fun fuel hfuel => ?_⟩
    obtain ⟨fuel, rfl⟩ := Nat.exists_eq_add_of_le' (show 1 ≤ fuel by omega)
    rw [parseObject_member hfloat hkey, dumpMembers, List.singleton_append, hread fuel (by omega)]
    rfl
  | cons kv members ih =>
    obtain ⟨next, w⟩ := kv
    intro key v hkey hv hmembers rest
    have hnext := hmembers (next, w) List.mem_cons_self
    obtain ⟨n, hread⟩ := hv (',' :: ' ' :: (dumpStr next ++ ':' :: ' ' ::
      (dumpValue floatRepr w ++ (dumpMembers floatRepr members ++ rest)))) (stops_cons (by decide) _)
    obtain ⟨m, hrest⟩ := ih next w hnext.1 hnext.2 (fun x hx => hmembers x (List.mem_cons_of_mem _ hx)) rest
    refine ⟨max n m + 1, fun fuel hfuel => ?_⟩
    obtain ⟨fuel, rfl⟩ := Nat.exists_eq_add_of_le' (show 1 ≤ fuel by omega)
    have htext : dumpMembers floatRepr ((next, w) :: members) ++ rest =
        ',' :: ' ' :: (dumpStr next ++ ':' :: ' ' ::
          (dumpValue floatRepr w ++ (dumpMembers floatRepr members ++ rest))) := by
      simp [dumpMembers]
    have hblank : ∀ text, skipWhitespace (' ' :: (dumpStr next ++ text)) = dumpStr next ++ text := fun text => rfl
    rw [parseObject_member hfloat hkey, htext, hread fuel (by omega)]
    simp only [bind, Except.bind, skipWhitespace_cons (c := ',') rfl, hblank, hrest fuel (by omega)]
    rfl

/-- What is neither an array nor an object. -/
theorem reads_atom (hfloat : ReadsBack floatRepr read) {depth : ℕ} {v : JsonValue} (h : Readable py depth v)
    (hlist : ∀ items, v ≠ .list items) (hdict : ∀ members, v ≠ .dict members) :
    Reads floatRepr read py depth v := by
  refine Reads.of_scanOnce fun fuel rest hrest => ?_
  cases v with
  | null => rfl
  | bool b => cases b <;> rfl
  | int i =>
    have hfits : IntFits py i := by cases depth <;> exact h
    rw [dumpValue, scanOnce_number (beginsNumber_intText i), scanAtom_intText hfits hrest, reread]
    · intro _ heq
      cases heq
    · intro _ heq
      cases heq
    · intro _ heq
      cases heq
  | float d =>
    cases d with
    | finite q =>
      have htext : dumpValue floatRepr (.float (.finite q)) = floatRepr q := rfl
      rw [htext, scanOnce_number (hfloat.begins q), hfloat.reads py q rest hrest, reread]
    | inf negative => cases negative <;> rfl
    | nan => rfl
  | str s =>
    have hs : Writable s := by cases depth <;> exact h
    have htext : dumpValue floatRepr (.str s) ++ rest = '"' :: (s.flatMap escapePoint ++ '"' :: rest) := by
      simp [dumpValue, dumpStr]
    rw [htext, scanOnce, scanString_dumpStr hs]
    rfl
  | list items => exact absurd rfl (hlist items)
  | dict members => exact absurd rfl (hdict members)

theorem reads_list (hfloat : ReadsBack floatRepr read) {depth : ℕ} {items : List JsonValue}
    (h : ∀ v ∈ items, Reads floatRepr read py depth v) : Reads floatRepr read py (depth + 1) (.list items) := by
  cases items with
  | nil => exact Reads.of_scanOnce fun fuel rest _ => rfl
  | cons v items =>
    intro rest _
    obtain ⟨n, hread⟩ := parseArray_dumpItems hfloat items v (h v List.mem_cons_self)
      (fun w hw => h w (List.mem_cons_of_mem _ hw)) rest
    refine ⟨n + 1, fun fuel hfuel => ?_⟩
    obtain ⟨fuel, rfl⟩ := Nat.exists_eq_add_of_le' (show 1 ≤ fuel by omega)
    have htext : dumpValue floatRepr (.list (v :: items)) ++ rest =
        '[' :: (dumpValue floatRepr v ++ (dumpItems floatRepr items ++ rest)) := by
      simp [dumpValue]
    obtain ⟨c, cs, hbegins, -, hbracket, -⟩ := begins_dumpValue hfloat v
    have hskip := (begins_dumpValue hfloat v).skipWhitespace (dumpItems floatRepr items ++ rest)
    rw [htext, scanOnce, hskip]
    split
    · rename_i heq
      rw [hbegins] at heq
      exact absurd (List.cons.inj heq).1 hbracket
    · rw [hread fuel (by omega)]
      rfl

theorem reads_dict (hfloat : ReadsBack floatRepr read) {depth : ℕ} {members : JsonDict}
    (h : ∀ kv ∈ members, Writable kv.1 ∧ Reads floatRepr read py depth kv.2) :
    Reads floatRepr read py (depth + 1) (.dict members) := by
  cases members with
  | nil => exact Reads.of_scanOnce fun fuel rest _ => rfl
  | cons kv members =>
    obtain ⟨key, v⟩ := kv
    intro rest _
    have hfirst := h (key, v) List.mem_cons_self
    obtain ⟨n, hread⟩ := parseObject_dumpMembers hfloat members key v hfirst.1 hfirst.2
      (fun w hw => h w (List.mem_cons_of_mem _ hw)) rest
    refine ⟨n + 1, fun fuel hfuel => ?_⟩
    obtain ⟨fuel, rfl⟩ := Nat.exists_eq_add_of_le' (show 1 ≤ fuel by omega)
    have htext : dumpValue floatRepr (.dict ((key, v) :: members)) ++ rest =
        '\x7b' :: (dumpStr key ++ ':' :: ' ' ::
          (dumpValue floatRepr v ++ (dumpMembers floatRepr members ++ rest))) := by
      simp [dumpValue]
    have hskip : ∀ text, skipWhitespace (dumpStr key ++ text) = dumpStr key ++ text := fun text => rfl
    rw [htext, scanOnce, hskip]
    split
    · rename_i heq
      cases heq
    · rw [hread fuel (by omega)]
      rfl

/-- **What is written for a readable value is read back.** -/
theorem reads_dumpValue (hfloat : ReadsBack floatRepr read) {depth : ℕ} {v : JsonValue}
    (h : Readable py depth v) : Reads floatRepr read py depth v := by
  induction depth generalizing v with
  | zero =>
    refine reads_atom hfloat h ?_ ?_
    · rintro items rfl
      exact h
    · rintro members rfl
      exact h
  | succ depth ih =>
    by_cases hlist : ∃ items, v = .list items
    · obtain ⟨items, rfl⟩ := hlist
      exact reads_list hfloat fun w hw => ih (h w hw)
    by_cases hdict : ∃ members, v = .dict members
    · obtain ⟨members, rfl⟩ := hdict
      exact reads_dict hfloat fun kv hkv => ⟨(h kv hkv).1, ih (h kv hkv).2⟩
    exact reads_atom hfloat h (fun items heq => hlist ⟨items, heq⟩) fun members heq => hdict ⟨members, heq⟩

/-- **`loads` reads back what `dumps` writes.** -/
theorem loads_dumps (hfloat : ReadsBack floatRepr read) {v : JsonValue} (h : Readable py py.nestingLimit v) :
    JsonDecoder.loads py (dumps floatRepr v) = .ok (reread read v) := by
  obtain ⟨n, hread⟩ := reads_dumpValue hfloat h [] (fun c hc => by cases hc)
  have hskip := (begins_dumpValue hfloat v).skipWhitespace []
  rw [List.append_nil] at hread hskip
  have hscan := hread (max n (enoughFuel (dumpValue floatRepr v))) (le_max_left _ _)
  rw [scanOnce_fuel py py.nestingLimit _ (le_max_right _ _)] at hscan
  rw [JsonDecoder.loads, dumps, hskip, hscan]
  rfl

/-! ## A writer of floats -/

theorem takeWhile_stops {rest : List Char} (h : Stops rest) : rest.takeWhile isDigit = [] := by
  cases rest with
  | nil => rfl
  | cons c rest =>
    rw [List.takeWhile_cons_of_neg]
    simp [(h c rfl).1]

theorem dropWhile_stops {rest : List Char} (h : Stops rest) : rest.dropWhile isDigit = rest := by
  cases rest with
  | nil => rfl
  | cons c rest =>
    rw [List.dropWhile_cons_of_neg]
    simp [(h c rfl).1]

theorem scanAtom_zero (py : Interpreter) {rest : List Char} (h : Stops rest) :
    scanAtom py ("0.0".toList ++ rest) = .ok (.float (Double.ofRat 0), rest) := by
  have hdigit : isDigit '0' = true := rfl
  have hread : readAtom ("0.0".toList ++ rest) = some (.float (Double.ofRat 0), rest) := by
    have hnumber : readAtom ("0.0".toList ++ rest) = readNumber ("0.0".toList ++ rest) :=
      readAtom_number hdigit (.inl ⟨_, rfl⟩)
    rw [hnumber]
    simp [readNumber, readIntDigits, readFraction, takeWhile_stops h, dropWhile_stops h,
      readExponent_stops h, hdigit, decimal]
  rw [scanAtom, hread]

theorem readsBack_zero : ReadsBack (fun _ => "0.0".toList) fun _ => Double.ofRat 0 :=
  ⟨fun _ => ⟨'0', ".0".toList, rfl, .inl rfl⟩, fun py _ _ h => scanAtom_zero py h⟩

/-! ## What was read can be written -/

theorem hexValue_lt {c : Char} {d : ℕ} (h : hexValue c = some d) : d < 16 := by
  unfold hexValue at h
  split at h
  · next hc =>
    cases h
    have h9 : c.toNat ≤ '9'.toNat := hc.2
    have h0 : '0'.toNat ≤ c.toNat := hc.1
    have e9 : '9'.toNat = 57 := rfl
    have e0 : '0'.toNat = 48 := rfl
    omega
  split at h
  · next hc =>
    cases h
    have hf : c.toNat ≤ 'f'.toNat := hc.2
    have ha : 'a'.toNat ≤ c.toNat := hc.1
    have ef : 'f'.toNat = 102 := rfl
    have ea : 'a'.toNat = 97 := rfl
    omega
  split at h
  · next hc =>
    cases h
    have hf : c.toNat ≤ 'F'.toNat := hc.2
    have ha : 'A'.toNat ≤ c.toNat := hc.1
    have ef : 'F'.toNat = 70 := rfl
    have ea : 'A'.toNat = 65 := rfl
    omega
  · cases h

theorem hex4_lt {a b c d : Char} {u : ℕ} (h : hex4 a b c d = some u) : u < 0x110000 := by
  simp only [hex4, Option.bind_eq_bind, Option.bind_eq_some_iff] at h
  obtain ⟨a', ha, b', hb, c', hc, d', hd, heq⟩ := h
  cases heq
  have := hexValue_lt ha
  have := hexValue_lt hb
  have := hexValue_lt hc
  have := hexValue_lt hd
  omega

/-- Every unit of a string is a code point. -/
theorem readUnits_lt {text rest : List Char} {units : List ℕ} (h : readUnits text = some (units, rest)) :
    ∀ u ∈ units, u < 0x110000 := by
  induction text using readUnits.induct generalizing units rest with
  | case1 => cases h
  | case2 tail =>
    cases h
    simp
  | case3 a b c d tail ih =>
    simp only [readUnits, Option.bind_eq_bind, Option.bind_eq_some_iff] at h
    obtain ⟨u, hu, ⟨units', rest'⟩, htail, heq⟩ := h
    cases heq
    exact List.forall_mem_cons.2 ⟨hex4_lt hu, ih htail⟩
  | case4 e tail hnot ih =>
    rw [readUnits] at h
    · simp only [Option.bind_eq_bind, Option.bind_eq_some_iff] at h
      obtain ⟨c, -, ⟨units', rest'⟩, htail, heq⟩ := h
      cases heq
      exact List.forall_mem_cons.2 ⟨toNat_lt c, ih htail⟩
    · exact hnot
  | case5 c tail hquote hu hescape hcontrol =>
    rw [readUnits, if_pos hcontrol] at h
    · cases h
    all_goals assumption
  | case6 c tail hquote hu hescape hcontrol ih =>
    rw [readUnits, if_neg hcontrol] at h
    · simp only [Option.bind_eq_bind, Option.bind_eq_some_iff] at h
      obtain ⟨⟨units', rest'⟩, htail, heq⟩ := h
      cases heq
      exact List.forall_mem_cons.2 ⟨toNat_lt c, ih htail⟩
    all_goals assumption

theorem joinSurrogates_lt {us : List ℕ} (h : ∀ u ∈ us, u < 0x110000) : ∀ u ∈ joinSurrogates us, u < 0x110000 := by
  induction us using joinSurrogates.induct with
  | case1 u v rest hpair ih =>
    rw [joinSurrogates, if_pos hpair]
    refine List.forall_mem_cons.2 ⟨?_, ih fun w hw => h w (List.mem_cons_of_mem _ (List.mem_cons_of_mem _ hw))⟩
    unfold IsHigh IsLow at hpair
    omega
  | case2 u v rest hpair ih =>
    rw [joinSurrogates, if_neg hpair]
    exact List.forall_mem_cons.2 ⟨h u List.mem_cons_self, ih fun w hw => h w (List.mem_cons_of_mem _ hw)⟩
  | case3 us hus =>
    rw [joinSurrogates]
    · exact h
    · exact hus

theorem writable_of_scanString {text rest : List Char} {s : PyStr} (h : scanString text = .ok (s, rest)) :
    Writable s := by
  unfold scanString at h
  split at h
  · next units tail hunits =>
    cases h
    exact ⟨joinSurrogates_lt (readUnits_lt hunits), joined_joinSurrogates units⟩
  · cases h

/-- A number has no more digits than it was read from. -/
theorem digitCount_decimal_le {digits : List Char} (hne : digits ≠ []) (h : ∀ c ∈ digits, isDigit c = true) :
    (Nat.toDigits 10 (decimal digits)).length ≤ digits.length := by
  have hlt : decimal digits < 10 ^ digits.length := by
    clear hne
    induction digits using List.reverseRecOn with
    | nil => decide
    | append_singleton digits c ih =>
      have hc : c.toNat - '0'.toNat < 10 := by
        have hdigit := h c (by simp)
        rw [isDigit, decide_eq_true_eq] at hdigit
        have h9 : c.toNat ≤ '9'.toNat := hdigit.2
        have e9 : '9'.toNat = 57 := rfl
        have e0 : '0'.toNat = 48 := rfl
        omega
      have hdecimal : decimal (digits ++ [c]) = decimal digits * 10 + (c.toNat - '0'.toNat) := by
        simp [decimal]
      have hrest := ih fun d hd => h d (List.mem_append_left _ hd)
      rw [hdecimal, List.length_append, List.length_singleton, pow_succ]
      omega
  have hpos : 0 < digits.length := List.length_pos_of_ne_nil hne
  exact Nat.length_toDigits_le_iff (by decide) hpos |>.2 hlt

theorem readIntDigits_append {text digits rest : List Char} (h : readIntDigits text = some (digits, rest)) :
    text = digits ++ rest ∧ digits ≠ [] ∧ ∀ c ∈ digits, isDigit c = true := by
  unfold readIntDigits at h
  split at h
  · cases h
    refine ⟨rfl, by simp, ?_⟩
    intro c hc
    rw [List.mem_singleton] at hc
    subst hc
    rfl
  · split at h
    · cases h
    · next hne =>
      cases h
      exact ⟨List.takeWhile_append_dropWhile.symm, hne, List.all_eq_true.1 List.all_takeWhile⟩

theorem readFraction_nil {text rest : List Char} (h : readFraction text = ([], rest)) : rest = text := by
  unfold readFraction at h
  split at h
  · split at h
    · cases h
      rfl
    · next hne =>
      exact absurd (congrArg Prod.fst h) hne
  · cases h
    rfl

theorem readExponent_none {text rest : List Char} (h : readExponent text = (none, rest)) : rest = text := by
  cases text with
  | nil =>
    cases h
    rfl
  | cons e tail =>
    simp only [readExponent] at h
    split at h
    · cases h
      rfl
    · cases h

theorem digitCount_of_readNumber {text rest : List Char} {i : ℤ} (h : readNumber text = some (.int i, rest)) :
    digitCount i ≤ digitsRead text rest := by
  unfold readNumber at h
  simp only at h
  split at h
  · cases h
  · next digits tail hdigits =>
    split at h
    · next hplain =>
      -- neither fraction nor exponent: the digits are all that was read behind the sign
      simp only [Option.some.injEq, Prod.mk.injEq, PyValue.int.injEq] at h
      obtain ⟨hi, hrest⟩ := h
      have hfraction : (readFraction tail).2 = tail := readFraction_nil (Prod.ext hplain.1 rfl)
      have hexponent : (readExponent (readFraction tail).2).2 = (readFraction tail).2 :=
        readExponent_none (Prod.ext hplain.2 rfl)
      rw [hexponent, hfraction] at hrest
      obtain ⟨htext, hne, hall⟩ := readIntDigits_append hdigits
      have hcount : digitCount i = (Nat.toDigits 10 (decimal digits)).length := by
        rw [digitCount, ← hi]
        split <;> simp
      rw [hcount]
      refine (digitCount_decimal_le hne hall).trans ?_
      subst hrest
      have hlength := congrArg List.length htext
      rw [List.length_append] at hlength
      unfold digitsRead
      split at hlength
      · next hminus =>
        rw [decide_eq_true_eq] at hminus
        rw [List.length_tail] at hlength
        rw [if_pos hminus]
        omega
      · next hminus =>
        rw [decide_eq_true_eq] at hminus
        rw [if_neg hminus]
        omega
    · cases h

theorem intFits_of_scanAtom {py : Interpreter} {text rest : List Char} {i : ℤ}
    (h : scanAtom py text = .ok (.int i, rest)) : IntFits py i := by
  unfold scanAtom at h
  split at h
  case h_4 j tail hatom =>
    split at h
    · cases h
    · next hlimit =>
      cases h
      have hnumber : readNumber text = some (.int i, rest) := by
        unfold readAtom at hatom
        split at hatom
        · next word v hfind =>
          -- no constant is an integer
          have hmem := List.mem_of_find?_eq_some hfind
          cases hatom
          simp [constants] at hmem
        · exact hatom
      have hcount := digitCount_of_readNumber hnumber
      unfold IntFits
      omega
  all_goals cases h

theorem readable_of_scanAtom {py : Interpreter} {text rest : List Char} {v : JsonValue} (depth : ℕ)
    (h : scanAtom py text = .ok (v, rest)) : Readable py depth v := by
  have hint : ∀ i, v = .int i → IntFits py i := by
    rintro i rfl
    exact intFits_of_scanAtom h
  unfold scanAtom at h
  split at h
  case h_4 i tail hatom =>
    split at h
    · cases h
    · cases h
      cases depth <;> exact hint i rfl
  case h_5 => cases h
  all_goals
    cases h
    cases depth <;> trivial

/-- Whatever is read can be read again, at every level. -/
theorem readable_of_scan (py : Interpreter) (fuel : ℕ) :
    (∀ depth text v rest, scanOnce py fuel depth text = .ok (v, rest) → Readable py depth v) ∧
    (∀ depth text members rest, parseObject py fuel depth text = .ok (members, rest) →
      ∀ kv ∈ members, Writable kv.1 ∧ Readable py depth kv.2) ∧
    (∀ depth text items rest, parseArray py fuel depth text = .ok (items, rest) →
      ∀ v ∈ items, Readable py depth v) := by
  induction fuel with
  | zero =>
    refine ⟨?_, ?_, ?_⟩ <;>
    · intro depth text v rest h
      cases h
  | succ fuel ih =>
    obtain ⟨hvalue, hobject, harray⟩ := ih
    refine ⟨?_, ?_, ?_⟩
    · intro depth text v rest h
      unfold scanOnce at h
      split at h
      · obtain ⟨⟨s, rest'⟩, hs, heq⟩ := bind_eq_ok_iff.mp h
        cases heq
        cases depth <;> exact writable_of_scanString hs
      · split at h
        · cases h
        · split at h
          · cases h
            intro kv hkv
            cases hkv
          · obtain ⟨⟨members, rest'⟩, hmembers, heq⟩ := bind_eq_ok_iff.mp h
            cases heq
            exact hobject _ _ _ _ hmembers
      · split at h
        · cases h
        · split at h
          · cases h
            intro v hv
            cases hv
          · obtain ⟨⟨items, rest'⟩, hitems, heq⟩ := bind_eq_ok_iff.mp h
            cases heq
            exact harray _ _ _ _ hitems
      · exact readable_of_scanAtom depth h
    · intro depth text members rest h
      unfold parseObject at h
      split at h
      · obtain ⟨⟨key, rest'⟩, hkey, h⟩ := bind_eq_ok_iff.mp h
        have hwritable := writable_of_scanString hkey
        simp only at h
        split at h
        · obtain ⟨⟨v, rest''⟩, hv, h⟩ := bind_eq_ok_iff.mp h
          have hreadable := hvalue _ _ _ _ hv
          simp only at h
          split at h
          · obtain ⟨⟨members', tail⟩, hmembers, heq⟩ := bind_eq_ok_iff.mp h
            cases heq
            exact List.forall_mem_cons.2 ⟨⟨hwritable, hreadable⟩, hobject _ _ _ _ hmembers⟩
          · cases h
            exact List.forall_mem_singleton.2 ⟨hwritable, hreadable⟩
          · cases h
        · cases h
      · cases h
    · intro depth text items rest h
      unfold parseArray at h
      obtain ⟨⟨v, rest'⟩, hv, h⟩ := bind_eq_ok_iff.mp h
      have hreadable := hvalue _ _ _ _ hv
      simp only at h
      split at h
      · obtain ⟨⟨items', tail⟩, hitems, heq⟩ := bind_eq_ok_iff.mp h
        cases heq
        exact List.forall_mem_cons.2 ⟨hreadable, harray _ _ _ _ hitems⟩
      · cases h
        exact List.forall_mem_singleton.2 hreadable
      · cases h

/-- **What `loads` returns can be written and read again.** -/
theorem readable_of_loads {py : Interpreter} {text : List Char} {v : JsonValue}
    (h : JsonDecoder.loads py text = .ok v) : Readable py py.nestingLimit v := by
  obtain ⟨⟨w, rest⟩, hscan, hend⟩ := bind_eq_ok_iff.mp h
  simp only at hend
  split at hend
  · cases hend
    exact (readable_of_scan py _).1 _ _ _ _ hscan
  · cases hend

end WeaponDetection.Foundations.JsonEncoder
