import WeaponDetection.Agent.Logging.Redaction
import WeaponDetection.Contract.DetectionInstant
import WeaponDetection.Foundations.OrderedDict

/-!
# `JsonLogFormatter.format`

A record becomes the payload of its core fields and the caller's own, the payload is redacted in one
pass, and `json.dumps` writes it with `_safe_default` for what it cannot serialize.
-/

namespace WeaponDetection.Agent.Logging

open WeaponDetection.Foundations (OrderedDict)
open WeaponDetection.Foundations.JsonDecoder (JsonValue PyStr)
open WeaponDetection.Foundations.JsonEncoder

/-! ## `json.dumps` of a payload -/

/-- The code points of a text. -/
def codePoints (text : Text) : PyStr := text.map Char.toNat

/-- What the encoder writes for the key of a mapping. -/
def keyText (py : Interpreter) : LogValue → Except LogError Text
  | .str text => .ok text
  | .float d => .ok (floatText py.floatRepr d)
  | .bool b => .ok (if b then "true".toList else "false".toList)
  | .none => .ok "null".toList
  | .int i => strOfInt py i
  | _ => .error .typeError

/-- `_safe_default`. -/
def safeDefault (py : Interpreter) (redactor : Redactor) (value : LogValue) : Except LogError Text := do
  return redactor.redactText py (← py.repr value)

/-- One member of an object. -/
def encodeEntry (py : Interpreter) (encodeItem : LogValue → Except LogError JsonValue)
    (entry : LogValue × LogValue) : Except LogError (PyStr × JsonValue) := do
  let text ← keyText py entry.1
  return (codePoints text, ← encodeItem entry.2)

/-- The document the encoder writes for a value; `depth` is how many containers can still be entered. -/
def encode (py : Interpreter) (redactor : Redactor) : ℕ → LogValue → Except LogError JsonValue
  | _, .none => .ok .null
  | _, .bool b => .ok (.bool b)
  | _, .int i => if IntFits py.toInterpreter i then .ok (.int i) else .error .valueError
  | _, .float d => .ok (.float d)
  | _, .str text => .ok (.str (codePoints text))
  | depth + 1, .list items | depth + 1, .tuple items => return .list (← items.mapM (encode py redactor depth))
  | depth + 1, .mapping entries => do
    let members ← entries.mapM (encodeEntry py (encode py redactor depth))
    return .dict members
  | 0, .list _ | 0, .tuple _ | 0, .mapping _ => throw .recursionError
  | _, value => return .str (codePoints (← safeDefault py redactor value))

/-! ## The formatter -/

/-- A log record without exception; `α` are the values of the caller's fields. -/
structure LogRecord (α : Type) where
  /-- The microsecond `created` falls into. -/
  created : ℤ
  levelname : Text
  name : Text
  /-- `getMessage()`. -/
  message : Text
  /-- `__dict__`, which holds the caller's `extra` fields. -/
  attributes : OrderedDict Text α

/-- `_RESERVED_RECORD_ATTRS`. -/
def reservedRecordAttrs (py : Interpreter) : List Text := py.logRecordAttrs ++ ["message".toList, "asctime".toList]

/-- The names the formatter writes itself. -/
def coreFields : List Text := ["timestamp".toList, "level".toList, "logger".toList, "message".toList]

/-- The core fields of a record; `str` makes a value of a text. -/
def corePayload (str : Text → α) (record : LogRecord α) : OrderedDict Text α :=
  (((OrderedDict.empty.set "timestamp".toList (str (Contract.toIsoUtc record.created))).set
    "level".toList (str record.levelname)).set "logger".toList (str record.name)).set
    "message".toList (str record.message)

/-- One round of the loop over the attributes. -/
def addField (py : Interpreter) (payload : OrderedDict Text α) (field : Text × α) : OrderedDict Text α :=
  if (reservedRecordAttrs py).contains field.1 || "_".toList.isPrefixOf field.1 then payload
  else payload.set field.1 field.2

/-- The payload of a record before redaction. -/
def payload (py : Interpreter) (str : Text → α) (record : LogRecord α) : OrderedDict Text α :=
  record.attributes.entries.foldl (addField py) (corePayload str record)

/-- A dictionary with text keys as the entries of a mapping. -/
def textEntries (payload : OrderedDict Text α) : List (LogValue × α) :=
  payload.entries.map fun (key, value) => (.str key, value)

/-- The payload the formatter redacts. -/
def payloadValue (py : Interpreter) (record : LogRecord LogValue) : LogValue :=
  .mapping (textEntries (payload py .str record))

/-- `JsonLogFormatter.format`. -/
def format (py : Interpreter) (redactor : Redactor) (record : LogRecord LogValue) : Except LogError Text := do
  let redacted ← redactor.redact py py.nestingLimit (payloadValue py record)
  let document ← encode py redactor py.nestingLimit redacted
  return dumps py.floatRepr document

end WeaponDetection.Agent.Logging
