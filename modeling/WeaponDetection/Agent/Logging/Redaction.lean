import Mathlib.Data.List.Sort
import WeaponDetection.Foundations.JsonEncoder
import WeaponDetection.Foundations.Masking

/-!
# Redaction of log payloads

`redaction.py`: sensitive keys, the masking of registered literals and of `Bearer` spans in a text, and
the walk over a payload.

A payload is a tree of Python values.  What belongs to the interpreter and not to the program is a
parameter: its limits, the characters of `\w`, how it writes a float, and the text `repr` writes of a
tuple or a set, whose order depends on hashes.
-/

namespace WeaponDetection.Agent.Logging

open WeaponDetection.Foundations (Double Overlaps replaceAll)
open WeaponDetection.Foundations.JsonDecoder (JsonValue)
open WeaponDetection.Foundations.JsonEncoder

/-- The characters of a `str`. -/
abbrev Text := List Char

/-- A value of a log payload. -/
inductive LogValue where
  | none
  | bool (b : Bool)
  | int (i : ℤ)
  | float (d : Double)
  | str (text : Text)
  | secretStr (text : Text)
  | list (items : List LogValue)
  | tuple (items : List LogValue)
  | set (items : List LogValue)
  | frozenset (items : List LogValue)
  | mapping (entries : List (LogValue × LogValue))

/-- The exceptions that can end the formatting of a record. -/
inductive LogError where
  | typeError
  | valueError
  | recursionError
  deriving DecidableEq

/-- An `int` stands somewhere in a value. -/
inductive HasInt (i : ℤ) : LogValue → Prop
  | int : HasInt i (.int i)
  | list {items v} : v ∈ items → HasInt i v → HasInt i (.list items)
  | tuple {items v} : v ∈ items → HasInt i v → HasInt i (.tuple items)
  | set {items v} : v ∈ items → HasInt i v → HasInt i (.set items)
  | frozenset {items v} : v ∈ items → HasInt i v → HasInt i (.frozenset items)
  | key {entries k v} : (k, v) ∈ entries → HasInt i k → HasInt i (.mapping entries)
  | value {entries k v} : (k, v) ∈ entries → HasInt i v → HasInt i (.mapping entries)

/-- What the program takes from the interpreter. -/
structure Interpreter extends Foundations.JsonDecoder.Interpreter where
  /-- The names of the attributes of a fresh `LogRecord`. -/
  logRecordAttrs : List Text
  /-- A character of `\w`. -/
  isWord : Char → Bool
  /-- `float.__repr__` of a finite float. -/
  floatRepr : ℚ → Text
  /-- The float that is read where a float was written. -/
  floatRead : ℚ → Double
  floats_read : ReadsBack floatRepr floatRead
  /-- `repr` of a value that is no atom. -/
  repr : LogValue → Except LogError Text
  /-- `repr` writes every value but an `int` with too many digits. -/
  repr_ok_iff : ∀ v, (∃ text, repr v = .ok text) ↔ ∀ i, HasInt i v → IntFits toInterpreter i

/-- The replacement marker. -/
def REDACTED : Text := "[REDACTED]".toList

/-! ## Sensitive keys -/

/-- `_SENSITIVE_KEY_TERMS`. -/
def sensitiveKeyTerms : List Text :=
  ["activationkey".toList, "sharedsecret".toList, "authorization".toList, "proxyauthorization".toList,
    "password".toList, "passwd".toList, "secret".toList, "token".toList, "accesstoken".toList,
    "refreshtoken".toList, "jwt".toList, "apikey".toList, "credential".toList, "cookie".toList,
    "setcookie".toList]

/-- `_HARMLESS_KEY_ALLOWLIST`. -/
def harmlessKeyAllowlist : List Text := ["secretstatus".toList, "tokencount".toList, "credentialidentifier".toList]

/-- What `lower()` and the substitution of `[^a-z0-9]` leave of a character.  Outside ASCII, only the
Kelvin sign and the dotted capital I have an ASCII letter in lower case. -/
def normalizeChar (c : Char) : Option Char :=
  if c.toNat = 0x212a then some 'k'
  else if c.toNat = 0x130 then some 'i'
  else if c.isAlphanum then some c.toLower
  else none

/-- `_normalize_key`, of the text of the key. -/
def normalizeKey (key : Text) : Text := key.filterMap normalizeChar

/-- `is_sensitive_key`, of the text of the key. -/
def isSensitiveKey (key : Text) : Bool :=
  let normalized := normalizeKey key
  if harmlessKeyAllowlist.contains normalized then false
  else if sensitiveKeyTerms.contains normalized then true
  else sensitiveKeyTerms.any fun term => decide (term <:+: normalized)

example : isSensitiveKey "Activation-Key".toList = true ∧ isSensitiveKey "secret_status".toList = false := by
  decide +kernel

/-! ## Texts -/

/-- `\s`. -/
def isSpace (c : Char) : Bool :=
  (0x9 ≤ c.toNat && c.toNat ≤ 0xd) || (0x1c ≤ c.toNat && c.toNat ≤ 0x20) ||
    (0x2000 ≤ c.toNat && c.toNat ≤ 0x200a) ||
    [0x85, 0xa0, 0x1680, 0x2028, 0x2029, 0x202f, 0x205f, 0x3000].contains c.toNat

/-- `[A-Za-z0-9._~+/=-]` without regard to case, which adds four letters outside ASCII. -/
def isTokenChar (c : Char) : Bool :=
  c.isAlphanum || "._~+/=-".toList.contains c || [0x130, 0x131, 0x17f, 0x212a].contains c.toNat

/-- A match of `_BEARER_RE`: the scheme word, the white space and the token. -/
structure BearerSpan where
  word : Text
  gap : Text
  token : Text

/-- How many characters a match takes. -/
def BearerSpan.length (span : BearerSpan) : ℕ := span.word.length + span.gap.length + span.token.length

/-- `_BEARER_RE` matched at the beginning of a text that stands behind a character. -/
def matchBearer (isWord : Char → Bool) (previous : Option Char) (text : Text) : Option BearerSpan :=
  let word := text.take 6
  let gap := (text.drop 6).takeWhile isSpace
  let token := ((text.drop 6).dropWhile isSpace).takeWhile isTokenChar
  if previous.all (fun c => !isWord c) && word.map Char.toLower == "bearer".toList && gap != [] && token != [] then
    some ⟨word, gap, token⟩
  else none

/-- `_BEARER_RE.sub(r"\1 " + REDACTED, text)`: `skip` counts the characters of a match still to drop. -/
def subBearerFrom (isWord : Char → Bool) (previous : Option Char) : ℕ → Text → Text
  | _, [] => []
  | skip + 1, c :: rest => subBearerFrom isWord (some c) skip rest
  | 0, c :: rest =>
    match matchBearer isWord previous (c :: rest) with
    | some span => span.word ++ ' ' :: (REDACTED ++ subBearerFrom isWord (some c) (span.length - 1) rest)
    | none => c :: subBearerFrom isWord (some c) 0 rest

/-- `_BEARER_RE.sub(r"\1 " + REDACTED, text)`. -/
def subBearer (isWord : Char → Bool) (text : Text) : Text := subBearerFrom isWord none 0 text

example : subBearer Char.isAlphanum "x Bearer\tab.c, y".toList = "x Bearer [REDACTED], y".toList := by decide +kernel

/-- A redactor: the registered literals, longest first, none of them empty. -/
structure Redactor where
  secretLiterals : List Text
  ne_nil : ∀ literal ∈ secretLiterals, literal ≠ []

/-- The literals `Redactor.__init__` keeps. -/
def cleanedLiterals (sensitiveValues : List Text) : List Text :=
  (sensitiveValues.filter (· ≠ [])).insertionSort fun a b => b.length ≤ a.length

theorem ne_nil_of_mem_cleanedLiterals {sensitiveValues : List Text} {literal : Text}
    (h : literal ∈ cleanedLiterals sensitiveValues) : literal ≠ [] := by
  rw [cleanedLiterals, List.mem_insertionSort, List.mem_filter] at h
  exact of_decide_eq_true h.2

/-- `Redactor(sensitive_values)`, of the values behind the wrappers. -/
def Redactor.ofValues (sensitiveValues : List Text) : Redactor :=
  ⟨cleanedLiterals sensitiveValues, fun _ => ne_nil_of_mem_cleanedLiterals⟩

/-- The loop of `_redact_string` over the registered literals. -/
def Redactor.maskLiterals (redactor : Redactor) (text : Text) : Text :=
  redactor.secretLiterals.foldl
    (fun redacted literal => if literal <:+: redacted then replaceAll literal REDACTED redacted else redacted) text

/-- `_redact_string`. -/
def Redactor.redactText (py : Interpreter) (redactor : Redactor) (text : Text) : Text :=
  subBearer py.isWord (redactor.maskLiterals text)

/-! ## The walk -/

instance (py : Foundations.JsonDecoder.Interpreter) (i : ℤ) : Decidable (IntFits py i) :=
  inferInstanceAs (Decidable (_ ∨ _))

/-- `str(i)`. -/
def strOfInt (py : Interpreter) (i : ℤ) : Except LogError Text :=
  if IntFits py.toInterpreter i then .ok (intText i) else .error .valueError

/-- `str(key)`. -/
def strOf (py : Interpreter) : LogValue → Except LogError Text
  | .none => .ok "None".toList
  | .bool b => .ok (if b then "True".toList else "False".toList)
  | .int i => strOfInt py i
  | .float (.finite q) => .ok (py.floatRepr q)
  | .float (.inf negative) => .ok (if negative then "-inf".toList else "inf".toList)
  | .float .nan => .ok "nan".toList
  | .str text => .ok text
  | .secretStr text => .ok (if text = [] then [] else "**********".toList)
  | value => py.repr value

mutual

/-- `hash(value)` raises no `TypeError`. -/
def LogValue.isHashable : LogValue → Bool
  | .list _ | .set _ | .mapping _ => false
  | .tuple items => areHashable items
  | _ => true

/-- The items of a tuple have hashes. -/
def areHashable : List LogValue → Bool
  | [] => true
  | item :: items => item.isHashable && areHashable items

end

/-- One round of the comprehension over a mapping. -/
def redactEntry (py : Interpreter) (redactItem : LogValue → Except LogError LogValue)
    (entry : LogValue × LogValue) : Except LogError (LogValue × LogValue) := do
  if isSensitiveKey (← strOf py entry.1) then return (entry.1, .str REDACTED)
  else return (entry.1, ← redactItem entry.2)

/-- What a set comprehension asks of an item. -/
def hashed (item : LogValue) : Except LogError LogValue :=
  if item.isHashable then .ok item else .error .typeError

/-- `Redactor.redact`; `depth` is how many containers can still be entered. -/
def Redactor.redact (py : Interpreter) (redactor : Redactor) : ℕ → LogValue → Except LogError LogValue
  | _, .secretStr _ => .ok (.str REDACTED)
  | _, .str text => .ok (.str (redactor.redactText py text))
  | depth + 1, .mapping entries => do
    let entries ← entries.mapM (redactEntry py (redactor.redact py depth))
    return .mapping entries
  | depth + 1, .tuple items => return .tuple (← items.mapM (redactor.redact py depth))
  | depth + 1, .list items => return .list (← items.mapM (redactor.redact py depth))
  | depth + 1, .set items | depth + 1, .frozenset items => do
    let items ← items.mapM fun item => redactor.redact py depth item >>= hashed
    return .set items
  | 0, .mapping _ | 0, .tuple _ | 0, .list _ | 0, .set _ | 0, .frozenset _ => throw .recursionError
  | _, value => .ok value

end WeaponDetection.Agent.Logging
