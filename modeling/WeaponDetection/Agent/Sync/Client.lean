import WeaponDetection.Foundations.Python
import Mathlib.Data.List.Induction

/-!
# Reading the Backend's answer to a sync batch

Models `_classify`, `_parse_success`, `_parse_results` and `_parse_quota_info` of
`sync/client.py`.  The answer is an arbitrary JSON value: items may be missing, malformed, repeated
or name an event in any spelling `uuid.UUID` accepts, and an event named more than once is dropped
from every collection.

`mentions` is the specification side: the items of a result list that name an event, in whatever
spelling.  `mem_parseResults` says once, for all five collections, that an entry survives exactly
when its event is mentioned once and that one item carries it.
-/

namespace WeaponDetection.Agent.Sync

open WeaponDetection.Foundations.Python

/-! ## The typed outcome -/

/-- `SyncFailureReason`. -/
inductive SyncFailureReason where
  | timeout
  | transportFailure
  | serverFailure
  | unauthorized
  | invalidResponse
  | unexpectedStatus
  deriving DecidableEq

/-- `SyncEventQuotaInfo`. -/
structure SyncEventQuotaInfo where
  maximum : ℤ
  localDate : String
  deriving DecidableEq

/-- `SyncBatchResult`: the sets and dictionaries of the source, in the order of the answer. -/
structure SyncBatchResult where
  accepted : List Uuid
  duplicate : List Uuid
  rejected : List (Uuid × String)
  quotaExceeded : List (Uuid × SyncEventQuotaInfo)
  alertIds : List (Uuid × String)
  deriving DecidableEq

/-- `SyncBatchFailure`. -/
structure SyncBatchFailure where
  reason : SyncFailureReason
  statusCode : Option ℕ
  deriving DecidableEq

/-! ## One item -/

/-- The event an item names, with the item's members; `none` for an item that is skipped. -/
def itemOf : PyValue → Option (Uuid × PyDict)
  | .dict item =>
    match PyDict.get? item "eventId" with
    | some (.str rawId) => (uuidOfText rawId).map fun eventId => (eventId, item)
    | _ => none
  | _ => none

/-- `item.get("outcome")` where it is a string. -/
def outcomeOf (item : PyDict) : Option String :=
  match item.get? "outcome" with
  | some (.str outcome) => some outcome
  | _ => none

/-- The `errorCode` of a rejected item. -/
def errorCodeOf (item : PyDict) : String :=
  match item.get? "errorCode" with
  | some (.str errorCode) => errorCode
  | _ => "UNKNOWN"

/-- `_parse_quota_info`. -/
def parseQuotaInfo : Option PyValue → SyncEventQuotaInfo
  | some (.dict rawQuota) =>
    { maximum :=
        match PyDict.get? rawQuota "maximum" with
        | some (.int maximum) => maximum
        | some (.bool b) => if b then 1 else 0
        | _ => 0
      localDate :=
        match PyDict.get? rawQuota "localDate" with
        | some (.str localDate) => localDate
        | _ => "" }
  | _ => { maximum := 0, localDate := "" }

/-- The non-empty `alertId` of an accepted or duplicate item. -/
def alertIdOf (item : PyDict) : Option String :=
  if outcomeOf item = some "accepted" ∨ outcomeOf item = some "duplicate" then
    match item.get? "alertId" with
    | some (.str alertId) => if alertId = "" then none else some alertId
    | _ => none
  else none

/-! ## The result list -/

/-- The local variables of `_parse_results`. -/
structure ParseState where
  result : SyncBatchResult
  seen : List Uuid
  ambiguous : List Uuid

/-- The empty collections. -/
def SyncBatchResult.empty : SyncBatchResult :=
  { accepted := [], duplicate := [], rejected := [], quotaExceeded := [], alertIds := [] }

/-- The classification of the first item that names an event. -/
def SyncBatchResult.note (result : SyncBatchResult) (eventId : Uuid) (item : PyDict) :
    SyncBatchResult :=
  let result :=
    if outcomeOf item = some "accepted" then
      { result with accepted := result.accepted ++ [eventId] }
    else if outcomeOf item = some "duplicate" then
      { result with duplicate := result.duplicate ++ [eventId] }
    else if outcomeOf item = some "rejected" then
      { result with rejected := result.rejected ++ [(eventId, errorCodeOf item)] }
    else if outcomeOf item = some "quota_exceeded" then
      { result with
        quotaExceeded := result.quotaExceeded ++ [(eventId, parseQuotaInfo (item.get? "quota"))] }
    else result
  match alertIdOf item with
  | some alertId => { result with alertIds := result.alertIds ++ [(eventId, alertId)] }
  | none => result

/-- One pass of the loop over `results`. -/
def parseStep (st : ParseState) (value : PyValue) : ParseState :=
  match itemOf value with
  | none => st
  | some (eventId, item) =>
    if eventId ∈ st.seen then { st with ambiguous := st.ambiguous ++ [eventId] }
    else { st with seen := st.seen ++ [eventId], result := st.result.note eventId item }

/-- Dropping the ambiguous events from every collection. -/
def SyncBatchResult.discard (result : SyncBatchResult) (ambiguous : List Uuid) :
    SyncBatchResult :=
  { accepted := result.accepted.filter (· ∉ ambiguous)
    duplicate := result.duplicate.filter (· ∉ ambiguous)
    rejected := result.rejected.filter (·.1 ∉ ambiguous)
    quotaExceeded := result.quotaExceeded.filter (·.1 ∉ ambiguous)
    alertIds := result.alertIds.filter (·.1 ∉ ambiguous) }

/-- The state at the end of the loop. -/
def parseLoop (results : List PyValue) : ParseState :=
  results.foldl parseStep { result := .empty, seen := [], ambiguous := [] }

/-- `_parse_results`. -/
def parseResults (results : List PyValue) : SyncBatchResult :=
  (parseLoop results).result.discard (parseLoop results).ambiguous

/-! ## The envelope -/

/-- `payload.get("success") is True`. -/
def successIsTrue (payload : PyDict) : Bool :=
  match payload.get? "success" with
  | some (.bool b) => b
  | _ => false

/-- `data.results` of an answer, where it is a list. -/
def dataResults : PyValue → Option (List PyValue)
  | .dict payload =>
    match PyDict.get? payload "data" with
    | some (.dict data) =>
      match PyDict.get? data "results" with
      | some (.list results) => some results
      | _ => none
    | _ => none
  | _ => none

/-- `_parse_success`; `none` is a body that is not JSON. -/
def parseSuccess (body : Option PyValue) : Option SyncBatchResult :=
  match body with
  | some (.dict payload) =>
    if successIsTrue payload then (dataResults (.dict payload)).map parseResults else none
  | _ => none

/-- What the HTTP client returned. -/
inductive HttpAnswer where
  | timeout
  | transportError
  | response (status : ℕ) (body : Option PyValue)

/-- `send_batch` after the request went out, with `_classify`. -/
def classify : HttpAnswer → SyncBatchResult ⊕ SyncBatchFailure
  | .timeout => .inr ⟨.timeout, none⟩
  | .transportError => .inr ⟨.transportFailure, none⟩
  | .response status body =>
    if status = 200 then
      match parseSuccess body with
      | some result => .inl result
      | none => .inr ⟨.invalidResponse, some status⟩
    else if status = 401 then .inr ⟨.unauthorized, some status⟩
    else if 500 ≤ status ∧ status < 600 then .inr ⟨.serverFailure, some status⟩
    else .inr ⟨.unexpectedStatus, some status⟩

/-- The answer's envelope reports success. -/
def envelopeSucceeds : PyValue → Bool
  | .dict payload => successIsTrue payload
  | _ => false

theorem parseSuccess_of_envelopeSucceeds {body : PyValue} (h : envelopeSucceeds body = true) :
    parseSuccess (some body) = (dataResults body).map parseResults := by
  cases body with
  | dict payload => exact if_pos h
  | _ => simp [envelopeSucceeds] at h

theorem parseSuccess_of_not_envelopeSucceeds {body : PyValue}
    (h : envelopeSucceeds body = false) : parseSuccess (some body) = none := by
  cases body with
  | dict payload => exact if_neg (by simpa [envelopeSucceeds] using h)
  | _ => rfl

/-- The result list of an answer the client accepts. -/
def answerResults : HttpAnswer → Option (List PyValue)
  | .response status (some body) =>
    if status = 200 ∧ envelopeSucceeds body then dataResults body else none
  | _ => none

theorem classify_of_answerResults {answer : HttpAnswer} {results : List PyValue}
    (h : answerResults answer = some results) : classify answer = .inl (parseResults results) := by
  unfold answerResults at h
  split at h
  · split at h
    · rename_i hok
      simp only [classify, hok.1, ↓reduceIte, parseSuccess_of_envelopeSucceeds hok.2, h,
        Option.map_some]
    · simp at h
  · simp at h

theorem classify_of_answerResults_none {answer : HttpAnswer} (h : answerResults answer = none) :
    ∃ failure, classify answer = .inr failure := by
  cases answer with
  | timeout => exact ⟨_, rfl⟩
  | transportError => exact ⟨_, rfl⟩
  | response status body =>
    by_cases hstatus : status = 200
    · have hnone : parseSuccess body = none := by
        cases body with
        | none => rfl
        | some body =>
          cases henv : envelopeSucceeds body with
          | false => exact parseSuccess_of_not_envelopeSucceeds henv
          | true =>
            rw [parseSuccess_of_envelopeSucceeds henv]
            simpa [answerResults, hstatus, henv] using h
      exact ⟨⟨.invalidResponse, some status⟩, by simp [classify, hstatus, hnone]⟩
    · simp only [classify, hstatus, ↓reduceIte]
      split_ifs <;> exact ⟨_, rfl⟩

/-! ## What survives parsing -/

/-- The items of an answer that name an event, in any spelling of its identifier. -/
def mentions (eventId : Uuid) (results : List PyValue) : List PyDict :=
  results.filterMap fun value =>
    (itemOf value).bind fun named => if named.1 = eventId then some named.2 else none

/-- The item of an event that is named exactly once. -/
def uniqueItem (eventId : Uuid) (results : List PyValue) : Option PyDict :=
  match mentions eventId results with
  | [item] => some item
  | _ => none

theorem parseLoop_snoc (results : List PyValue) (value : PyValue) :
    parseLoop (results ++ [value]) = parseStep (parseLoop results) value := by
  simp [parseLoop, List.foldl_append]

theorem mentions_snoc (eventId : Uuid) (results : List PyValue) (value : PyValue) :
    mentions eventId (results ++ [value]) = mentions eventId results ++
      ((itemOf value).bind fun named =>
        if named.1 = eventId then some named.2 else none).toList := by
  unfold mentions
  rw [List.filterMap_append, List.filterMap_cons, List.filterMap_nil]
  cases (itemOf value).bind fun named => if named.1 = eventId then some named.2 else none <;> rfl

/-- `seen` holds the events named so far, `ambiguous` those named at least twice. -/
theorem parseLoop_seen (results : List PyValue) (eventId : Uuid) :
    (eventId ∈ (parseLoop results).seen ↔ 1 ≤ (mentions eventId results).length) ∧
      (eventId ∈ (parseLoop results).ambiguous ↔ 2 ≤ (mentions eventId results).length) := by
  induction results using List.reverseRecOn with
  | nil => simp [parseLoop, mentions]
  | append_singleton results value ih =>
    rw [parseLoop_snoc, mentions_snoc]
    unfold parseStep
    cases hitem : itemOf value with
    | none => simpa using ih
    | some named =>
      obtain ⟨id, item⟩ := named
      by_cases hid : id = eventId
      · subst hid
        by_cases hseen : id ∈ (parseLoop results).seen
        · have hlen := ih.1.mp hseen
          simp [hseen, hlen]
        · have hlen : (mentions id results).length = 0 := by
            have := mt ih.1.mpr hseen
            omega
          have hamb : id ∉ (parseLoop results).ambiguous := fun h => by
            have := ih.2.mp h
            omega
          simp [hseen, hlen, hamb]
      · have hid' : eventId ≠ id := Ne.symm hid
        by_cases hseen : id ∈ (parseLoop results).seen
        · simpa [hseen, hid, hid'] using ih
        · simpa [hseen, hid, hid'] using ih

/-- The loop invariant of one collection, seen as pairs of an event and what is kept about it: an
entry stands for the first item that names its event. -/
theorem mem_parseLoop {α : Type} (get : SyncBatchResult → List (Uuid × α))
    (value : PyDict → Option α) (hempty : get .empty = [])
    (hnote : ∀ result eventId item, get (SyncBatchResult.note result eventId item) =
      get result ++ ((value item).map fun a => (eventId, a)).toList)
    (results : List PyValue) (eventId : Uuid) (a : α) :
    (eventId, a) ∈ get (parseLoop results).result ↔
      ∃ item, (mentions eventId results).head? = some item ∧ value item = some a := by
  induction results using List.reverseRecOn with
  | nil => simp [parseLoop, mentions, hempty]
  | append_singleton results v ih =>
    rw [parseLoop_snoc, mentions_snoc]
    unfold parseStep
    cases hitem : itemOf v with
    | none => simpa using ih
    | some named =>
      obtain ⟨id, item⟩ := named
      have hseen := (parseLoop_seen results id).1
      by_cases hid : id = eventId
      · subst hid
        by_cases h : id ∈ (parseLoop results).seen
        · have hne : mentions id results ≠ [] := List.ne_nil_of_length_pos (hseen.mp h)
          simpa [h, List.head?_append_of_ne_nil _ hne] using ih
        · have hnil : mentions id results = [] := by
            by_contra hne
            exact h (hseen.mpr (List.length_pos_iff.mpr hne))
          simp only [hnil, List.head?_nil, reduceCtorEq, false_and, exists_false, iff_false] at ih
          simp [h, hnil, hnote, ih]
      · have hid' : eventId ≠ id := Ne.symm hid
        by_cases h : id ∈ (parseLoop results).seen
        · simpa [h, hid] using ih
        · simpa [h, hid, hid', hnote] using ih

/-- An entry survives exactly when its event is named once and that item carries it. -/
theorem mem_parseResults {α : Type} (get : SyncBatchResult → List (Uuid × α))
    (value : PyDict → Option α) (hempty : get .empty = [])
    (hnote : ∀ result eventId item, get (SyncBatchResult.note result eventId item) =
      get result ++ ((value item).map fun a => (eventId, a)).toList)
    (hdiscard : ∀ result ambiguous, get (SyncBatchResult.discard result ambiguous) =
      (get result).filter (·.1 ∉ ambiguous))
    (results : List PyValue) (eventId : Uuid) (a : α) :
    (eventId, a) ∈ get (parseResults results) ↔
      ∃ item, uniqueItem eventId results = some item ∧ value item = some a := by
  have hamb := (parseLoop_seen results eventId).2
  rw [parseResults, hdiscard, List.mem_filter, mem_parseLoop get value hempty hnote,
    decide_eq_true_eq, hamb]
  unfold uniqueItem
  match hm : mentions eventId results with
  | [] => simp
  | [item] => simp
  | item :: item' :: rest => simp

/-! ### The collections, one by one -/

theorem note_accepted (r : SyncBatchResult) (eventId : Uuid) (item : PyDict) :
    (r.note eventId item).accepted =
      r.accepted ++ if outcomeOf item = some "accepted" then [eventId] else [] := by
  unfold SyncBatchResult.note
  cases alertIdOf item <;> dsimp only <;> split_ifs <;> simp

theorem note_duplicate (r : SyncBatchResult) (eventId : Uuid) (item : PyDict) :
    (r.note eventId item).duplicate =
      r.duplicate ++ if outcomeOf item = some "duplicate" then [eventId] else [] := by
  unfold SyncBatchResult.note
  cases alertIdOf item <;> dsimp only <;> split_ifs <;> simp_all

theorem note_quotaExceeded (r : SyncBatchResult) (eventId : Uuid) (item : PyDict) :
    (r.note eventId item).quotaExceeded = r.quotaExceeded ++
      if outcomeOf item = some "quota_exceeded" then
        [(eventId, parseQuotaInfo (item.get? "quota"))] else [] := by
  unfold SyncBatchResult.note
  cases alertIdOf item <;> dsimp only <;> split_ifs <;> simp_all

theorem note_alertIds (r : SyncBatchResult) (eventId : Uuid) (item : PyDict) :
    (r.note eventId item).alertIds =
      r.alertIds ++ ((alertIdOf item).map fun alertId => (eventId, alertId)).toList := by
  unfold SyncBatchResult.note
  cases alertIdOf item <;> dsimp only <;> split_ifs <;> simp

/-- The accepted events. -/
theorem mem_accepted (results : List PyValue) (eventId : Uuid) :
    eventId ∈ (parseResults results).accepted ↔
      ∃ item, uniqueItem eventId results = some item ∧ outcomeOf item = some "accepted" := by
  have h := mem_parseResults (fun r => r.accepted.map fun id => (id, ()))
    (fun item => if outcomeOf item = some "accepted" then some () else none) rfl
    (fun r id item => by rw [note_accepted]; split <;> simp)
    (fun r ambiguous => by simp [SyncBatchResult.discard, List.filter_map, Function.comp_def])
    results eventId ()
  simpa using h

/-- The duplicate events. -/
theorem mem_duplicate (results : List PyValue) (eventId : Uuid) :
    eventId ∈ (parseResults results).duplicate ↔
      ∃ item, uniqueItem eventId results = some item ∧ outcomeOf item = some "duplicate" := by
  have h := mem_parseResults (fun r => r.duplicate.map fun id => (id, ()))
    (fun item => if outcomeOf item = some "duplicate" then some () else none) rfl
    (fun r id item => by rw [note_duplicate]; split <;> simp)
    (fun r ambiguous => by simp [SyncBatchResult.discard, List.filter_map, Function.comp_def])
    results eventId ()
  simpa using h

/-- The quota-suppressed events. -/
theorem mem_quotaExceeded (results : List PyValue) (eventId : Uuid) :
    eventId ∈ (parseResults results).quotaExceeded.map Prod.fst ↔
      ∃ item, uniqueItem eventId results = some item ∧
        outcomeOf item = some "quota_exceeded" := by
  have h := mem_parseResults (fun r => r.quotaExceeded)
    (fun item => if outcomeOf item = some "quota_exceeded" then
      some (parseQuotaInfo (item.get? "quota")) else none) rfl
    (fun r id item => by rw [note_quotaExceeded]; split <;> simp)
    (fun r ambiguous => rfl) results eventId
  rw [List.mem_map]
  constructor
  · rintro ⟨⟨id, info⟩, hmem, rfl⟩
    obtain ⟨item, hitem, hvalue⟩ := (h info).mp hmem
    exact ⟨item, hitem, by by_contra hne; simp [hne] at hvalue⟩
  · rintro ⟨item, hitem, hout⟩
    exact ⟨_, (h _).mpr ⟨item, hitem, if_pos hout⟩, rfl⟩

/-- The alert identifiers. -/
theorem mem_alertIds (results : List PyValue) (eventId : Uuid) (alertId : String) :
    (eventId, alertId) ∈ (parseResults results).alertIds ↔
      ∃ item, uniqueItem eventId results = some item ∧ alertIdOf item = some alertId :=
  mem_parseResults (fun r => r.alertIds) alertIdOf rfl note_alertIds (fun _ _ => rfl) results
    eventId alertId

end WeaponDetection.Agent.Sync
