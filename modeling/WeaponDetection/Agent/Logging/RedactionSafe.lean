import WeaponDetection.Agent.Logging.Formatter

/-!
# What a log line shows

When the formatter writes a line at all, when no string of the line holds a registered secret, and that
the line does not depend on what stands under a sensitive key.
-/

namespace WeaponDetection.Agent.Logging

open WeaponDetection.Foundations
open WeaponDetection.Foundations.JsonDecoder (JsonValue JsonDict PyStr)
open WeaponDetection.Foundations.JsonEncoder

/-! ## Texts -/

section Texts

variable {py : Interpreter} {redactor : Redactor}

/-- No registered secret overlaps the marker. -/
def Redactor.ApartFromMarker (redactor : Redactor) : Prop :=
  ∀ secret ∈ redactor.secretLiterals, ¬ Overlaps secret REDACTED

/-- A text without a registered secret. -/
def Redactor.NoSecret (redactor : Redactor) (text : Text) : Prop :=
  ∀ secret ∈ redactor.secretLiterals, ¬ secret <:+: text

/-- What stands before each marker that the substitution of `Bearer` spans writes: the text since the
span before, the scheme word, and the blank written for the white space. -/
def bearerHeads (isWord : Char → Bool) : Text → Option Char → ℕ → Text → List Text
  | _, _, _, [] => []
  | segment, _, skip + 1, c :: rest => bearerHeads isWord segment (some c) skip rest
  | segment, previous, 0, c :: rest =>
    match matchBearer isWord previous (c :: rest) with
    | some span =>
      (segment ++ span.word ++ [' ']) :: bearerHeads isWord [] (some c) (span.length - 1) rest
    | none => bearerHeads isWord (segment ++ [c]) (some c) 0 rest

/-- The blank that the substitution writes for other white space completes no secret. -/
def Redactor.GapFree (py : Interpreter) (redactor : Redactor) (text : Text) : Prop :=
  ∀ head ∈ bearerHeads py.isWord [] none 0 (redactor.maskLiterals text),
    ∀ secret ∈ redactor.secretLiterals, ¬ secret <:+ head

theorem word_prefix_of_matchBearer {isWord : Char → Bool} {previous : Option Char} {text : Text}
    {span : BearerSpan} (h : matchBearer isWord previous text = some span) : span.word <+: text := by
  simp only [matchBearer] at h
  split_ifs at h
  cases h
  exact List.take_prefix 6 text

/-- In a text without a secret, the substitution makes one only right before a marker. -/
theorem infix_subBearerFrom_iff {isWord : Char → Bool} {secret : Text} (hne : secret ≠ [])
    (hapart : ¬ Overlaps secret REDACTED) {segment : Text} {previous : Option Char} {skip : ℕ} {text : Text}
    (hclean : ¬ secret <:+: segment ++ text.drop skip) :
    secret <:+: segment ++ subBearerFrom isWord previous skip text ↔
      ∃ head ∈ bearerHeads isWord segment previous skip text, secret <:+ head := by
  induction text generalizing segment previous skip with
  | nil =>
    rw [List.drop_nil] at hclean
    cases skip <;> simpa [subBearerFrom, bearerHeads] using hclean
  | cons c rest ih =>
    cases skip with
    | succ skip => exact ih hclean
    | zero =>
      rw [List.drop_zero] at hclean
      cases hmatch : matchBearer isWord previous (c :: rest) with
      | none =>
        have hclean' : ¬ secret <:+: (segment ++ [c]) ++ rest.drop 0 := by
          simpa using hclean
        have hrest := @ih (segment ++ [c]) (some c) 0 hclean'
        rw [List.append_assoc, List.singleton_append] at hrest
        simpa only [subBearerFrom, bearerHeads, hmatch] using hrest
      | some span =>
        have hword := word_prefix_of_matchBearer hmatch
        have hsegment : ¬ secret <:+: segment ++ span.word := by
          intro hinside
          exact hclean (hinside.trans ((List.prefix_append_right_inj segment).2 hword).isInfix)
        have hrestClean : ¬ secret <:+: [] ++ rest.drop (span.length - 1) := by
          intro hinside
          have hsuffix : rest.drop (span.length - 1) <:+ segment ++ c :: rest :=
            (List.drop_suffix _ _).trans ((List.suffix_cons c rest).trans (List.suffix_append _ _))
          exact hclean (hinside.trans hsuffix.isInfix)
        have hrest := @ih [] (some c) (span.length - 1) hrestClean
        rw [List.nil_append] at hrest
        have htext : segment ++ subBearerFrom isWord previous 0 (c :: rest) =
            (segment ++ span.word ++ [' ']) ++ REDACTED ++
              subBearerFrom isWord (some c) (span.length - 1) rest := by
          simp [subBearerFrom, hmatch]
        rw [htext, infix_marker_iff hapart hne, hrest, List.infix_concat_iff, or_iff_left hsegment]
        simp [bearerHeads, hmatch]

theorem not_infix_foldl_mask (literals : List Text) (hne : ∀ literal ∈ literals, literal ≠ [])
    (hapart : ∀ literal ∈ literals, ¬ Overlaps literal REDACTED) (text : Text) :
    ∀ literal ∈ literals, ¬ literal <:+: literals.foldl
      (fun redacted literal => if literal <:+: redacted then replaceAll literal REDACTED redacted else redacted)
      text := by
  -- What is gone stays gone while the literals behind it are masked.
  have hkept : ∀ (rest : List Text), (∀ literal ∈ rest, literal ≠ []) → ∀ (other : Text), other ≠ [] →
      ¬ Overlaps other REDACTED → ∀ text : Text, ¬ other <:+: text →
      ¬ other <:+: rest.foldl
        (fun redacted literal => if literal <:+: redacted then replaceAll literal REDACTED redacted else redacted)
        text := by
    intro rest hrest other hother hapartOther
    induction rest with
    | nil => exact fun text htext => htext
    | cons literal rest ih =>
      obtain ⟨hliteral, htail⟩ := List.forall_mem_cons.1 hrest
      intro text htext
      refine ih htail _ ?_
      dsimp only
      split_ifs
      · exact not_infix_replaceAll_of_absent hliteral hother hapartOther htext
      · exact htext
  induction literals generalizing text with
  | nil => simp
  | cons literal rest ih =>
    obtain ⟨hliteral, htail⟩ := List.forall_mem_cons.1 hne
    obtain ⟨hapartLiteral, hapartTail⟩ := List.forall_mem_cons.1 hapart
    refine List.forall_mem_cons.2 ⟨?_, ih htail hapartTail _⟩
    refine hkept rest htail literal hliteral hapartLiteral _ ?_
    dsimp only
    split_ifs with hinside
    · exact not_infix_replaceAll hliteral hapartLiteral text
    · exact hinside

theorem noSecret_maskLiterals (hapart : redactor.ApartFromMarker) (text : Text) :
    redactor.NoSecret (redactor.maskLiterals text) :=
  not_infix_foldl_mask redactor.secretLiterals redactor.ne_nil hapart text

/-- A redacted text holds a secret just where a blank has completed one. -/
theorem noSecret_redactText_iff (hapart : redactor.ApartFromMarker) (text : Text) :
    redactor.NoSecret (redactor.redactText py text) ↔ redactor.GapFree py text := by
  have hmasked := noSecret_maskLiterals hapart text
  have hsecret : ∀ secret ∈ redactor.secretLiterals,
      (secret <:+: redactor.redactText py text ↔
        ∃ head ∈ bearerHeads py.isWord [] none 0 (redactor.maskLiterals text), secret <:+ head) := by
    intro secret hmem
    have hclean : ¬ secret <:+: [] ++ (redactor.maskLiterals text).drop 0 := hmasked secret hmem
    exact infix_subBearerFrom_iff (redactor.ne_nil secret hmem) (hapart secret hmem) hclean
  constructor
  · intro hclean head hhead secret hmem hsuffix
    exact hclean secret hmem ((hsecret secret hmem).2 ⟨head, hhead, hsuffix⟩)
  · intro hgap secret hmem hinside
    obtain ⟨head, hhead, hsuffix⟩ := (hsecret secret hmem).1 hinside
    exact hgap head hhead secret hmem hsuffix

theorem noSecret_REDACTED (hapart : redactor.ApartFromMarker) : redactor.NoSecret REDACTED := by
  intro secret hmem hinside
  obtain ⟨p, x, hmarker⟩ := hinside
  have hpos := List.length_pos_of_ne_nil (redactor.ne_nil secret hmem)
  have hlength := congrArg List.length hmarker
  simp only [List.length_append] at hlength
  exact hapart secret hmem ⟨p, x, [], [], by simpa using hmarker, by simp; omega, by simp; omega⟩

theorem bearerHeads_getLast {isWord : Char → Bool} {segment : Text} {previous : Option Char} {skip : ℕ}
    {text head : Text} (h : head ∈ bearerHeads isWord segment previous skip text) : ∃ before, head = before ++ [' '] := by
  induction text generalizing segment previous skip with
  | nil => cases skip <;> simp [bearerHeads] at h
  | cons c rest ih =>
    cases skip with
    | succ skip => exact ih h
    | zero =>
      rw [bearerHeads] at h
      split at h
      · rcases List.mem_cons.1 h with rfl | hrest
        · exact ⟨_, rfl⟩
        · exact ih hrest
      · exact ih h

/-- A blank can only complete a secret that ends in one. -/
theorem gapFree_of_no_trailing_blank (h : ∀ secret ∈ redactor.secretLiterals, secret.getLast? ≠ some ' ')
    (text : Text) : redactor.GapFree py text := by
  intro head hhead secret hmem hsuffix
  obtain ⟨before, rfl⟩ := bearerHeads_getLast hhead
  obtain ⟨p, hp⟩ := hsuffix
  apply h secret hmem
  have hlast := congrArg List.getLast? hp
  rw [List.getLast?_append_of_ne_nil _ (redactor.ne_nil secret hmem), List.getLast?_concat] at hlast
  exact hlast

end Texts

/-! ## The document of a value -/

section Documents

variable {py : Interpreter} {redactor : Redactor} {depth : ℕ}

/-- The document the line shows for a value. -/
def Emits (py : Interpreter) (redactor : Redactor) (depth : ℕ) (v : LogValue) (doc : JsonValue) : Prop :=
  ∃ v', redactor.redact py depth v = .ok v' ∧ encode py redactor depth v' = .ok doc

/-- The member the line shows for an entry of a mapping. -/
def EmitsEntry (py : Interpreter) (redactor : Redactor) (depth : ℕ) (entry : LogValue × LogValue)
    (member : PyStr × JsonValue) : Prop :=
  ∃ text name, strOf py entry.1 = .ok text ∧ keyText py entry.1 = .ok name ∧ member.1 = codePoints name ∧
    if isSensitiveKey text then member.2 = .str (codePoints REDACTED)
    else Emits py redactor depth entry.2 member.2

theorem emits_sequence {items : List LogValue} {docs : List JsonValue} :
    (∃ items', items.mapM (redactor.redact py depth) = .ok items' ∧
        items'.mapM (encode py redactor depth) = .ok docs) ↔
      List.Forall₂ (Emits py redactor depth) items docs :=
  Python.mapM_mapM_eq_ok_iff

theorem emits_list {items : List LogValue} {doc : JsonValue} :
    Emits py redactor (depth + 1) (.list items) doc ↔
      ∃ docs, List.Forall₂ (Emits py redactor depth) items docs ∧ doc = .list docs := by
  constructor
  · rintro ⟨v', hredact, hencode⟩
    obtain ⟨items', hitems, hv⟩ := Python.bind_eq_ok_iff.1 hredact
    cases hv
    obtain ⟨docs, hdocs, hdoc⟩ := Python.bind_eq_ok_iff.1 hencode
    cases hdoc
    exact ⟨docs, emits_sequence.1 ⟨items', hitems, hdocs⟩, rfl⟩
  · rintro ⟨docs, hdocs, rfl⟩
    obtain ⟨items', hitems, hencode⟩ := emits_sequence.2 hdocs
    exact ⟨.list items', Python.bind_eq_ok_iff.2 ⟨items', hitems, rfl⟩,
      Python.bind_eq_ok_iff.2 ⟨docs, hencode, rfl⟩⟩

theorem emits_tuple {items : List LogValue} {doc : JsonValue} :
    Emits py redactor (depth + 1) (.tuple items) doc ↔
      ∃ docs, List.Forall₂ (Emits py redactor depth) items docs ∧ doc = .list docs := by
  constructor
  · rintro ⟨v', hredact, hencode⟩
    obtain ⟨items', hitems, hv⟩ := Python.bind_eq_ok_iff.1 hredact
    cases hv
    obtain ⟨docs, hdocs, hdoc⟩ := Python.bind_eq_ok_iff.1 hencode
    cases hdoc
    exact ⟨docs, emits_sequence.1 ⟨items', hitems, hdocs⟩, rfl⟩
  · rintro ⟨docs, hdocs, rfl⟩
    obtain ⟨items', hitems, hencode⟩ := emits_sequence.2 hdocs
    exact ⟨.tuple items', Python.bind_eq_ok_iff.2 ⟨items', hitems, rfl⟩,
      Python.bind_eq_ok_iff.2 ⟨docs, hencode, rfl⟩⟩

/-- One round of the comprehension over a mapping, and the encoder on what it gives. -/
theorem emitsEntry_iff {entry : LogValue × LogValue} {member : PyStr × JsonValue} :
    (∃ entry', redactEntry py (redactor.redact py depth) entry = .ok entry' ∧
        encodeEntry py (encode py redactor depth) entry' = .ok member) ↔
      EmitsEntry py redactor depth entry member := by
  constructor
  · rintro ⟨entry', hredact, hencode⟩
    obtain ⟨text, htext, hredact⟩ := Python.bind_eq_ok_iff.1 hredact
    obtain ⟨name, hname, hencode⟩ := Python.bind_eq_ok_iff.1 hencode
    obtain ⟨doc, hdoc, hmember⟩ := Python.bind_eq_ok_iff.1 hencode
    cases hmember
    split_ifs at hredact with hsensitive
    · cases hredact
      rw [encode] at hdoc
      cases hdoc
      exact ⟨text, name, htext, hname, rfl, by rw [if_pos hsensitive]⟩
    · obtain ⟨item, hitem, hentry⟩ := Python.bind_eq_ok_iff.1 hredact
      cases hentry
      exact ⟨text, name, htext, hname, rfl, by rw [if_neg hsensitive]; exact ⟨item, hitem, hdoc⟩⟩
  · rintro ⟨text, name, htext, hname, hkey, hvalue⟩
    obtain ⟨memberKey, doc⟩ := member
    cases hkey
    have hencode : ∀ item, encode py redactor depth item = .ok doc →
        encodeEntry py (encode py redactor depth) (entry.1, item) = .ok (codePoints name, doc) := by
      intro item hitem
      exact Python.bind_eq_ok_iff.2 ⟨name, hname, Python.bind_eq_ok_iff.2 ⟨doc, hitem, rfl⟩⟩
    split_ifs at hvalue with hsensitive
    · cases hvalue
      refine ⟨(entry.1, .str REDACTED), Python.bind_eq_ok_iff.2 ⟨text, htext, ?_⟩, hencode _ (by rw [encode])⟩
      rw [if_pos hsensitive]
      rfl
    · obtain ⟨item, hitem, hdoc⟩ := hvalue
      refine ⟨(entry.1, item), Python.bind_eq_ok_iff.2 ⟨text, htext, ?_⟩, hencode item hdoc⟩
      rw [if_neg hsensitive]
      exact Python.bind_eq_ok_iff.2 ⟨item, hitem, rfl⟩

theorem emits_entries {entries : List (LogValue × LogValue)} {members : JsonDict} :
    (∃ entries', entries.mapM (redactEntry py (redactor.redact py depth)) = .ok entries' ∧
        entries'.mapM (encodeEntry py (encode py redactor depth)) = .ok members) ↔
      List.Forall₂ (EmitsEntry py redactor depth) entries members := by
  rw [Python.mapM_mapM_eq_ok_iff]
  exact ⟨fun h => h.imp fun _ _ => emitsEntry_iff.1, fun h => h.imp fun _ _ => emitsEntry_iff.2⟩

theorem emits_mapping {entries : List (LogValue × LogValue)} {doc : JsonValue} :
    Emits py redactor (depth + 1) (.mapping entries) doc ↔
      ∃ members, List.Forall₂ (EmitsEntry py redactor depth) entries members ∧ doc = .dict members := by
  constructor
  · rintro ⟨v', hredact, hencode⟩
    obtain ⟨entries', hentries, hv⟩ := Python.bind_eq_ok_iff.1 hredact
    cases hv
    obtain ⟨members, hmembers, hdoc⟩ := Python.bind_eq_ok_iff.1 hencode
    cases hdoc
    exact ⟨members, emits_entries.1 ⟨entries', hentries, hmembers⟩, rfl⟩
  · rintro ⟨members, hmembers, rfl⟩
    obtain ⟨entries', hentries, hencode⟩ := emits_entries.2 hmembers
    exact ⟨.mapping entries', Python.bind_eq_ok_iff.2 ⟨entries', hentries, rfl⟩,
      Python.bind_eq_ok_iff.2 ⟨members, hencode, rfl⟩⟩

/-- The set of redacted items that the comprehension over a set gives. -/
def RedactedItems (py : Interpreter) (redactor : Redactor) (depth : ℕ) (items items' : List LogValue) : Prop :=
  List.Forall₂ (fun item item' => redactor.redact py depth item = .ok item' ∧ item'.isHashable = true) items items'

theorem redactedItems_iff {items items' : List LogValue} :
    (items.mapM fun item => redactor.redact py depth item >>= hashed) = .ok items' ↔
      RedactedItems py redactor depth items items' := by
  have hround : ∀ item item', (redactor.redact py depth item >>= hashed) = .ok item' ↔
      redactor.redact py depth item = .ok item' ∧ item'.isHashable = true := by
    intro item item'
    rw [Python.bind_eq_ok_iff]
    constructor
    · rintro ⟨w, hw, hhashed⟩
      rw [hashed] at hhashed
      split_ifs at hhashed with hhash
      cases hhashed
      exact ⟨hw, hhash⟩
    · rintro ⟨hw, hhash⟩
      exact ⟨item', hw, by rw [hashed, if_pos hhash]⟩
  rw [Python.mapM_eq_ok_iff, RedactedItems]
  simp only [hround]

/-- A set is shown as the redacted text `repr` writes for the set of its redacted items. -/
theorem emits_set {items : List LogValue} {doc : JsonValue} :
    Emits py redactor (depth + 1) (.set items) doc ↔
      ∃ items' text, RedactedItems py redactor depth items items' ∧ py.repr (.set items') = .ok text ∧
        doc = .str (codePoints (redactor.redactText py text)) := by
  constructor
  · rintro ⟨v', hredact, hencode⟩
    obtain ⟨items', hitems, hv⟩ := Python.bind_eq_ok_iff.1 hredact
    cases hv
    obtain ⟨text, htext, hdoc⟩ := Python.bind_eq_ok_iff.1 hencode
    obtain ⟨shown, hshown, hredacted⟩ := Python.bind_eq_ok_iff.1 htext
    cases hredacted
    cases hdoc
    exact ⟨items', shown, redactedItems_iff.1 hitems, hshown, rfl⟩
  · rintro ⟨items', text, hitems, htext, rfl⟩
    exact ⟨.set items', Python.bind_eq_ok_iff.2 ⟨items', redactedItems_iff.2 hitems, rfl⟩,
      Python.bind_eq_ok_iff.2 ⟨_, Python.bind_eq_ok_iff.2 ⟨text, htext, rfl⟩, rfl⟩⟩

theorem emits_frozenset {items : List LogValue} {doc : JsonValue} :
    Emits py redactor (depth + 1) (.frozenset items) doc ↔ Emits py redactor (depth + 1) (.set items) doc :=
  Iff.rfl

theorem emits_iff_of_ok {v v' : LogValue} {shown doc : JsonValue} (hredact : redactor.redact py depth v = .ok v')
    (hencode : encode py redactor depth v' = .ok shown) : Emits py redactor depth v doc ↔ doc = shown := by
  constructor
  · rintro ⟨w, hw, hdoc⟩
    rw [hredact] at hw
    cases hw
    rw [hencode] at hdoc
    cases hdoc
    rfl
  · rintro rfl
    exact ⟨v', hredact, hencode⟩

theorem emits_none {doc : JsonValue} :
    Emits py redactor depth .none doc ↔ doc = .null := by
  have hredact : redactor.redact py depth .none = .ok .none := by cases depth <;> rfl
  have hencode : encode py redactor depth .none = .ok .null := by cases depth <;> rfl
  exact emits_iff_of_ok hredact hencode

theorem emits_bool {b : Bool} {doc : JsonValue} :
    Emits py redactor depth (.bool b) doc ↔ doc = .bool b := by
  have hredact : redactor.redact py depth (.bool b) = .ok (.bool b) := by cases depth <;> rfl
  have hencode : encode py redactor depth (.bool b) = .ok (.bool b) := by cases depth <;> rfl
  exact emits_iff_of_ok hredact hencode

theorem emits_float {d : Double} {doc : JsonValue} :
    Emits py redactor depth (.float d) doc ↔ doc = .float d := by
  have hredact : redactor.redact py depth (.float d) = .ok (.float d) := by cases depth <;> rfl
  have hencode : encode py redactor depth (.float d) = .ok (.float d) := by cases depth <;> rfl
  exact emits_iff_of_ok hredact hencode

theorem emits_str {text : Text} {doc : JsonValue} :
    Emits py redactor depth (.str text) doc ↔ doc = .str (codePoints (redactor.redactText py text)) := by
  have hredact : redactor.redact py depth (.str text) = .ok (.str (redactor.redactText py text)) := by cases depth <;> rfl
  have hencode : encode py redactor depth (.str (redactor.redactText py text)) = .ok (.str (codePoints (redactor.redactText py text))) := by cases depth <;> rfl
  exact emits_iff_of_ok hredact hencode

theorem emits_secretStr {text : Text} {doc : JsonValue} :
    Emits py redactor depth (.secretStr text) doc ↔ doc = .str (codePoints REDACTED) := by
  have hredact : redactor.redact py depth (.secretStr text) = .ok (.str REDACTED) := by cases depth <;> rfl
  have hencode : encode py redactor depth (.str REDACTED) = .ok (.str (codePoints REDACTED)) := by cases depth <;> rfl
  exact emits_iff_of_ok hredact hencode

theorem emits_int {i : ℤ} {doc : JsonValue} :
    Emits py redactor depth (.int i) doc ↔ IntFits py.toInterpreter i ∧ doc = .int i := by
  have hredact : redactor.redact py depth (.int i) = .ok (.int i) := by cases depth <;> rfl
  have hencode : encode py redactor depth (.int i) =
      if IntFits py.toInterpreter i then .ok (.int i) else .error .valueError := by cases depth <;> rfl
  by_cases hfits : IntFits py.toInterpreter i
  · rw [emits_iff_of_ok hredact (by rw [hencode, if_pos hfits])]
    simp [hfits]
  · constructor
    · rintro ⟨w, hw, hdoc⟩
      rw [hredact] at hw
      cases hw
      rw [hencode, if_neg hfits] at hdoc
      cases hdoc
    · rintro ⟨hfits', -⟩
      exact absurd hfits' hfits

/-- A value that holds no other value. -/
def LogValue.isAtom : LogValue → Bool
  | .list _ | .tuple _ | .set _ | .frozenset _ | .mapping _ => false
  | _ => true

/-- At its nesting limit the interpreter enters no container. -/
theorem isAtom_of_redact_zero {v v' : LogValue} (h : redactor.redact py 0 v = .ok v') : v.isAtom = true := by
  cases v <;> first | rfl | cases h

end Documents

/-! ## When a value is written -/

section Loggable

variable {py : Interpreter} {redactor : Redactor} {depth : ℕ}

/-- A key the encoder writes. -/
def LoggableKey (py : Interpreter) : LogValue → Prop
  | .none | .bool _ | .float _ | .str _ => True
  | .int i => IntFits py.toInterpreter i
  | _ => False

/-- An item of a set that has a hash after redaction and a text. -/
def LoggableItem (py : Interpreter) : ℕ → LogValue → Prop
  | _, .none | _, .bool _ | _, .float _ | _, .str _ | _, .secretStr _ => True
  | _, .int i => IntFits py.toInterpreter i
  | depth + 1, .tuple items => ∀ item ∈ items, LoggableItem py depth item
  | _, _ => False

/-- The key of an entry names a credential. -/
def IsSensitive (py : Interpreter) (key : LogValue) : Prop :=
  ∃ text, strOf py key = .ok text ∧ isSensitiveKey text = true

/-- A value the formatter writes: no container is nested too deep, no `int` has too many digits, the keys
of mappings are texts, numbers, `bool` or `None`, and the items of sets are no sets.  What stands under a
sensitive key does not matter. -/
def Loggable (py : Interpreter) : ℕ → LogValue → Prop
  | _, .none | _, .bool _ | _, .float _ | _, .str _ | _, .secretStr _ => True
  | _, .int i => IntFits py.toInterpreter i
  | depth + 1, .list items | depth + 1, .tuple items => ∀ item ∈ items, Loggable py depth item
  | depth + 1, .set items | depth + 1, .frozenset items => ∀ item ∈ items, LoggableItem py depth item
  | depth + 1, .mapping entries => ∀ entry ∈ entries,
      LoggableKey py entry.1 ∧ (IsSensitive py entry.1 ∨ Loggable py depth entry.2)
  | 0, _ => False

theorem loggableKey_iff {key : LogValue} :
    LoggableKey py key ↔ ∃ text name, strOf py key = .ok text ∧ keyText py key = .ok name := by
  have hint : ∀ i, (∃ text, strOfInt py i = .ok text) ↔ IntFits py.toInterpreter i := by
    intro i
    rw [strOfInt]
    split_ifs with hfits <;> simp [hfits]
  cases key with
  | int i =>
    simp only [LoggableKey, strOf, keyText, ← hint i]
    exact ⟨fun ⟨text, htext⟩ => ⟨text, text, htext, htext⟩, fun ⟨text, _, htext, _⟩ => ⟨text, htext⟩⟩
  | none => exact ⟨fun _ => ⟨_, _, rfl, rfl⟩, fun _ => trivial⟩
  | bool b => exact ⟨fun _ => ⟨_, _, rfl, rfl⟩, fun _ => trivial⟩
  | str text => exact ⟨fun _ => ⟨_, _, rfl, rfl⟩, fun _ => trivial⟩
  | float d => rcases d with q | negative | _ <;> exact ⟨fun _ => ⟨_, _, rfl, rfl⟩, fun _ => trivial⟩
  | _ =>
    constructor
    · exact False.elim
    · rintro ⟨_, name, _, hname⟩
      cases hname

theorem emitsEntry_iff_exists {entry : LogValue × LogValue} :
    (∃ member, EmitsEntry py redactor depth entry member) ↔
      LoggableKey py entry.1 ∧
        (IsSensitive py entry.1 ∨ ∃ doc, Emits py redactor depth entry.2 doc) := by
  rw [loggableKey_iff]
  constructor
  · rintro ⟨member, text, name, htext, hname, -, hvalue⟩
    refine ⟨⟨text, name, htext, hname⟩, ?_⟩
    split_ifs at hvalue with hsensitive
    · exact Or.inl ⟨text, htext, hsensitive⟩
    · exact Or.inr ⟨member.2, hvalue⟩
  · rintro ⟨⟨text, name, htext, hname⟩, hvalue⟩
    by_cases hsensitive : isSensitiveKey text = true
    · exact ⟨(codePoints name, .str (codePoints REDACTED)), text, name, htext, hname, rfl,
        by rw [if_pos hsensitive]⟩
    · rcases hvalue with ⟨text', htext', hsensitive'⟩ | ⟨doc, hdoc⟩
      · rw [htext] at htext'
        cases htext'
        exact absurd hsensitive' hsensitive
      · exact ⟨(codePoints name, doc), text, name, htext, hname, rfl, by rw [if_neg hsensitive]; exact hdoc⟩

theorem areHashable_iff (items : List LogValue) : areHashable items = true ↔ ∀ item ∈ items, item.isHashable = true := by
  induction items with
  | nil => simp [areHashable]
  | cons item items ih => rw [areHashable, Bool.and_eq_true, ih, List.forall_mem_cons]

/-- A value whose `repr` is written. -/
def Writes (py : Interpreter) (v : LogValue) : Prop := ∀ i, HasInt i v → IntFits py.toInterpreter i

theorem writes_tuple_iff {items : List LogValue} : Writes py (.tuple items) ↔ ∀ item ∈ items, Writes py item := by
  constructor
  · exact fun h item hitem i hint => h i (.tuple hitem hint)
  · rintro h i hint
    cases hint with
    | tuple hitem hint => exact h _ hitem i hint

theorem writes_set_iff {items : List LogValue} : Writes py (.set items) ↔ ∀ item ∈ items, Writes py item := by
  constructor
  · exact fun h item hitem i hint => h i (.set hitem hint)
  · rintro h i hint
    cases hint with
    | set hitem hint => exact h _ hitem i hint

theorem loggableItem_iff_of_isAtom {item : LogValue} (h : item.isAtom = true) :
    LoggableItem py depth item ↔
      ∃ item', redactor.redact py depth item = .ok item' ∧ item'.isHashable = true ∧ Writes py item' := by
  have hnoInt : ∀ v : LogValue, v.isAtom = true → (∀ i, v ≠ .int i) → Writes py v := by
    intro v hv hne i hint
    cases hint with
    | int => exact absurd rfl (hne i)
    | list | tuple | set | frozenset | key | value => cases hv
  cases item with
  | int i =>
    constructor
    · intro hfits
      refine ⟨.int i, by cases depth <;> rfl, rfl, ?_⟩
      rintro j hint
      cases hint
      cases depth <;> exact hfits
    · rintro ⟨item', hredact, -, hwrites⟩
      have hsame : redactor.redact py depth (.int i) = .ok (.int i) := by cases depth <;> rfl
      rw [hsame] at hredact
      cases hredact
      have hfits := hwrites i .int
      cases depth <;> exact hfits
  | none =>
    exact ⟨fun _ => ⟨.none, by cases depth <;> rfl, rfl, hnoInt _ rfl (by simp)⟩,
      fun _ => by cases depth <;> trivial⟩
  | bool b =>
    exact ⟨fun _ => ⟨.bool b, by cases depth <;> rfl, rfl, hnoInt _ rfl (by simp)⟩,
      fun _ => by cases depth <;> trivial⟩
  | float d =>
    exact ⟨fun _ => ⟨.float d, by cases depth <;> rfl, rfl, hnoInt _ rfl (by simp)⟩,
      fun _ => by cases depth <;> trivial⟩
  | str text =>
    exact ⟨fun _ => ⟨.str (redactor.redactText py text), by cases depth <;> rfl, rfl, hnoInt _ rfl (by simp)⟩,
      fun _ => by cases depth <;> trivial⟩
  | secretStr text =>
    exact ⟨fun _ => ⟨.str REDACTED, by cases depth <;> rfl, rfl, hnoInt _ rfl (by simp)⟩,
      fun _ => by cases depth <;> trivial⟩
  | list | tuple | set | frozenset | mapping => cases h

/-- The items of a set that go into the set of redacted items, and into its text. -/
theorem loggableItem_iff {item : LogValue} :
    LoggableItem py depth item ↔
      ∃ item', redactor.redact py depth item = .ok item' ∧ item'.isHashable = true ∧ Writes py item' := by
  by_cases hatom : item.isAtom = true
  · exact loggableItem_iff_of_isAtom hatom
  induction depth generalizing item with
  | zero =>
    constructor
    · intro h
      cases item <;> first | exact absurd rfl hatom | exact False.elim h
    · rintro ⟨item', hredact, -⟩
      exact absurd (isAtom_of_redact_zero hredact) hatom
  | succ depth ih =>
    have hitem : ∀ item, LoggableItem py depth item ↔
        ∃ item', redactor.redact py depth item = .ok item' ∧ item'.isHashable = true ∧ Writes py item' := by
      intro item
      by_cases hitem : item.isAtom = true
      · exact loggableItem_iff_of_isAtom hitem
      · exact ih hitem
    cases item with
    | tuple items =>
      simp only [LoggableItem, hitem]
      rw [← Python.exists_forall₂_iff]
      constructor
      · rintro ⟨items', hitems⟩
        obtain ⟨hredact, hrest⟩ := Python.forall₂_and_right.1 hitems
        refine ⟨.tuple items', Python.bind_eq_ok_iff.2 ⟨items', Python.mapM_eq_ok_iff.2 hredact, rfl⟩, ?_, ?_⟩
        · exact (areHashable_iff items').2 fun item' hmem => (hrest item' hmem).1
        · exact writes_tuple_iff.2 fun item' hmem => (hrest item' hmem).2
      · rintro ⟨item', hredact, hhash, hwrites⟩
        obtain ⟨items', hitems, hitem'⟩ := Python.bind_eq_ok_iff.1 hredact
        cases hitem'
        have hhashes := (areHashable_iff items').1 hhash
        have hwritten := writes_tuple_iff.1 hwrites
        exact ⟨items', Python.forall₂_and_right.2
          ⟨Python.mapM_eq_ok_iff.1 hitems, fun item' hmem => ⟨hhashes item' hmem, hwritten item' hmem⟩⟩⟩
    -- Every other container has no hash after redaction.
    | list | set | frozenset | mapping =>
      refine ⟨False.elim, ?_⟩
      rintro ⟨item', hredact, hhash, -⟩
      obtain ⟨children, -, hitem'⟩ := Python.bind_eq_ok_iff.1 hredact
      cases hitem'
      cases hhash
    | _ => exact absurd rfl hatom

theorem loggable_iff_of_isAtom {v : LogValue} (h : v.isAtom = true) :
    Loggable py depth v ↔ ∃ doc, Emits py redactor depth v doc := by
  cases v with
  | none => exact ⟨fun _ => ⟨_, emits_none.2 rfl⟩, fun _ => by cases depth <;> trivial⟩
  | bool b => exact ⟨fun _ => ⟨_, emits_bool.2 rfl⟩, fun _ => by cases depth <;> trivial⟩
  | float d => exact ⟨fun _ => ⟨_, emits_float.2 rfl⟩, fun _ => by cases depth <;> trivial⟩
  | str text => exact ⟨fun _ => ⟨_, emits_str.2 rfl⟩, fun _ => by cases depth <;> trivial⟩
  | secretStr text => exact ⟨fun _ => ⟨_, emits_secretStr.2 rfl⟩, fun _ => by cases depth <;> trivial⟩
  | int i =>
    have hloggable : Loggable py depth (.int i) ↔ IntFits py.toInterpreter i := by cases depth <;> rfl
    simp [hloggable, emits_int]
  | list | tuple | set | frozenset | mapping => cases h

theorem exists_redactedItems_iff {items : List LogValue} :
    (∀ item ∈ items, LoggableItem py depth item) ↔
      ∃ items', RedactedItems py redactor depth items items' ∧ Writes py (.set items') := by
  simp only [fun item => @loggableItem_iff py redactor depth item]
  rw [← Python.exists_forall₂_iff]
  constructor
  · rintro ⟨items', hitems⟩
    have hassoc := hitems.imp fun _ _ h => (⟨⟨h.1, h.2.1⟩, h.2.2⟩ : (_ ∧ _) ∧ _)
    obtain ⟨hredacted, hwrites⟩ := Python.forall₂_and_right.1 hassoc
    exact ⟨items', hredacted, writes_set_iff.2 hwrites⟩
  · rintro ⟨items', hredacted, hwrites⟩
    have hassoc := Python.forall₂_and_right.2 ⟨hredacted, writes_set_iff.1 hwrites⟩
    exact ⟨items', hassoc.imp fun _ _ h => ⟨h.1.1, h.1.2, h.2⟩⟩

theorem exists_emits_set_iff {items : List LogValue} :
    (∀ item ∈ items, LoggableItem py depth item) ↔ ∃ doc, Emits py redactor (depth + 1) (.set items) doc := by
  rw [@exists_redactedItems_iff py redactor]
  constructor
  · rintro ⟨items', hredacted, hwrites⟩
    obtain ⟨text, htext⟩ := (py.repr_ok_iff _).2 hwrites
    exact ⟨_, emits_set.2 ⟨items', text, hredacted, htext, rfl⟩⟩
  · rintro ⟨doc, hdoc⟩
    obtain ⟨items', text, hredacted, htext, -⟩ := emits_set.1 hdoc
    exact ⟨items', hredacted, (py.repr_ok_iff _).1 ⟨text, htext⟩⟩

/-- A value is written just when it is loggable. -/
theorem loggable_iff {v : LogValue} : Loggable py depth v ↔ ∃ doc, Emits py redactor depth v doc := by
  by_cases hatom : v.isAtom = true
  · exact loggable_iff_of_isAtom hatom
  induction depth generalizing v with
  | zero =>
    constructor
    · intro h
      cases v <;> first | exact absurd rfl hatom | exact False.elim h
    · rintro ⟨doc, v', hredact, -⟩
      exact absurd (isAtom_of_redact_zero hredact) hatom
  | succ depth ih =>
    have hchild : ∀ w, Loggable py depth w ↔ ∃ doc, Emits py redactor depth w doc := by
      intro w
      by_cases hw : w.isAtom = true
      · exact loggable_iff_of_isAtom hw
      · exact ih hw
    cases v with
    | list items =>
      simp only [Loggable, hchild, emits_list]
      rw [← Python.exists_forall₂_iff]
      exact ⟨fun ⟨docs, hdocs⟩ => ⟨_, docs, hdocs, rfl⟩, fun ⟨_, docs, hdocs, _⟩ => ⟨docs, hdocs⟩⟩
    | tuple items =>
      simp only [Loggable, hchild, emits_tuple]
      rw [← Python.exists_forall₂_iff]
      exact ⟨fun ⟨docs, hdocs⟩ => ⟨_, docs, hdocs, rfl⟩, fun ⟨_, docs, hdocs, _⟩ => ⟨docs, hdocs⟩⟩
    | set items => exact exists_emits_set_iff
    | frozenset items => exact exists_emits_set_iff
    | mapping entries =>
      simp only [Loggable, hchild, emits_mapping, ← emitsEntry_iff_exists]
      rw [← Python.exists_forall₂_iff]
      exact ⟨fun ⟨members, h⟩ => ⟨_, members, h, rfl⟩, fun ⟨_, members, h, _⟩ => ⟨members, h⟩⟩
    | _ => exact absurd rfl hatom

end Loggable

/-! ## What the line is read back as -/

section Reading

variable {py : Interpreter} {redactor : Redactor} {depth : ℕ}

theorem readable_entries {entries : List (LogValue × LogValue)} {members : JsonDict}
    (h : List.Forall₂ (EmitsEntry py redactor depth) entries members)
    (hvalue : ∀ v doc, Emits py redactor depth v doc → Readable py.toInterpreter depth doc) :
    ∀ member ∈ members, Writable member.1 ∧ Readable py.toInterpreter depth member.2 := by
  have hmember : ∀ entry member, EmitsEntry py redactor depth entry member →
      Writable member.1 ∧ Readable py.toInterpreter depth member.2 := by
    rintro entry ⟨key, doc⟩ ⟨text, name, -, -, rfl, hdoc⟩
    refine ⟨writable_map_toNat name, ?_⟩
    split_ifs at hdoc
    · cases hdoc
      cases depth <;> exact writable_map_toNat REDACTED
    · exact hvalue _ _ hdoc
  intro member hmem
  obtain ⟨entry, -, hm⟩ := Python.exists_mem_of_forall₂ h hmem
  exact hmember entry member hm

/-- What the formatter writes can be read back. -/
theorem readable_of_emits {v : LogValue} {doc : JsonValue} (h : Emits py redactor depth v doc) :
    Readable py.toInterpreter depth doc := by
  have hstr : ∀ depth text, Readable py.toInterpreter depth (.str (codePoints text)) := by
    intro depth text
    cases depth <;> exact writable_map_toNat text
  induction depth generalizing v doc with
  | zero =>
    have hatom : v.isAtom = true := by
      obtain ⟨v', hredact, -⟩ := h
      exact isAtom_of_redact_zero hredact
    cases v with
    | none => obtain rfl := emits_none.1 h; trivial
    | bool b => obtain rfl := emits_bool.1 h; trivial
    | float d => obtain rfl := emits_float.1 h; trivial
    | str text => obtain rfl := emits_str.1 h; exact hstr _ _
    | secretStr text => obtain rfl := emits_secretStr.1 h; exact hstr _ _
    | int i => obtain ⟨hfits, rfl⟩ := emits_int.1 h; exact hfits
    | list | tuple | set | frozenset | mapping => cases hatom
  | succ depth ih =>
    have hitems : ∀ {items docs}, List.Forall₂ (Emits py redactor depth) items docs →
        ∀ doc ∈ docs, Readable py.toInterpreter depth doc := by
      intro items docs hdocs
      exact (Python.forall_mem_iff_of_forall₂ (P := fun _ => True) hdocs fun _ _ hd =>
        ⟨fun _ => ih hd, fun _ => trivial⟩).1 fun _ _ => trivial
    cases v with
    | none => obtain rfl := emits_none.1 h; trivial
    | bool b => obtain rfl := emits_bool.1 h; trivial
    | float d => obtain rfl := emits_float.1 h; trivial
    | str text => obtain rfl := emits_str.1 h; exact hstr _ _
    | secretStr text => obtain rfl := emits_secretStr.1 h; exact hstr _ _
    | int i => obtain ⟨hfits, rfl⟩ := emits_int.1 h; exact hfits
    | list items =>
      obtain ⟨docs, hdocs, rfl⟩ := emits_list.1 h
      exact hitems hdocs
    | tuple items =>
      obtain ⟨docs, hdocs, rfl⟩ := emits_tuple.1 h
      exact hitems hdocs
    | set items =>
      obtain ⟨items', text, -, -, rfl⟩ := emits_set.1 h
      exact hstr _ _
    | frozenset items =>
      obtain ⟨items', text, -, -, rfl⟩ := emits_set.1 h
      exact hstr _ _
    | mapping entries =>
      obtain ⟨members, hmembers, rfl⟩ := emits_mapping.1 h
      exact readable_entries hmembers fun _ _ => ih

end Reading

/-! ## The strings of a line -/

/-- A key or a string value of a document. -/
inductive HasString (s : PyStr) : JsonValue → Prop
  | str : HasString s (.str s)
  | item {items doc} : doc ∈ items → HasString s doc → HasString s (.list items)
  | key {members doc} : (s, doc) ∈ members → HasString s (.dict members)
  | value {members key doc} : (key, doc) ∈ members → HasString s doc → HasString s (.dict members)

theorem hasString_list_iff {s : PyStr} {items : List JsonValue} :
    HasString s (.list items) ↔ ∃ doc ∈ items, HasString s doc := by
  constructor
  · rintro (_ | ⟨hmem, hdoc⟩)
    exact ⟨_, hmem, hdoc⟩
  · rintro ⟨doc, hmem, hdoc⟩
    exact .item hmem hdoc

theorem hasString_dict_iff {s : PyStr} {members : JsonDict} :
    HasString s (.dict members) ↔ ∃ member ∈ members, s = member.1 ∨ HasString s member.2 := by
  constructor
  · intro h
    cases h with
    | key hmem => exact ⟨_, hmem, Or.inl rfl⟩
    | value hmem hdoc => exact ⟨_, hmem, Or.inr hdoc⟩
  · rintro ⟨⟨key, doc⟩, hmem, rfl | hdoc⟩
    · exact .key hmem
    · exact .value hmem hdoc

theorem rereadItems_eq (read : ℚ → Double) (items : List JsonValue) :
    rereadItems read items = items.map (reread read) := by
  induction items with
  | nil => rfl
  | cons doc items ih => rw [rereadItems, ih, List.map_cons]

theorem rereadMembers_eq (read : ℚ → Double) (members : JsonDict) :
    rereadMembers read members = members.map fun member => (member.1, reread read member.2) := by
  induction members with
  | nil => rfl
  | cons member members ih =>
    obtain ⟨key, doc⟩ := member
    rw [rereadMembers, ih, List.map_cons]

theorem eq_of_reread_str {read : ℚ → Double} {doc : JsonValue} {s : PyStr} (h : reread read doc = .str s) :
    doc = .str s := by
  cases doc with
  | float d => rcases d with q | _ | _ <;> cases h
  | str => exact h
  | _ => cases h

theorem eq_of_reread_list {read : ℚ → Double} {doc : JsonValue} {items : List JsonValue}
    (h : reread read doc = .list items) : ∃ items', doc = .list items' ∧ items = items'.map (reread read) := by
  cases doc with
  | float d => rcases d with q | _ | _ <;> cases h
  | list items' =>
    rw [reread, rereadItems_eq] at h
    exact ⟨items', rfl, (JsonValue.list.inj h).symm⟩
  | _ => cases h

theorem eq_of_reread_dict {read : ℚ → Double} {doc : JsonValue} {members : JsonDict}
    (h : reread read doc = .dict members) :
    ∃ members', doc = .dict members' ∧ members = members'.map fun member => (member.1, reread read member.2) := by
  cases doc with
  | float d => rcases d with q | _ | _ <;> cases h
  | dict members' =>
    rw [reread, rereadMembers_eq] at h
    exact ⟨members', rfl, (JsonValue.dict.inj h).symm⟩
  | _ => cases h

/-- Reading a document back changes no string of it. -/
theorem hasString_reread_iff {read : ℚ → Double} {s : PyStr} {doc : JsonValue} :
    HasString s (reread read doc) ↔ HasString s doc := by
  constructor
  · intro h
    generalize hread : reread read doc = shown at h
    induction h generalizing doc with
    | str =>
      obtain rfl := eq_of_reread_str hread
      exact .str
    | item hmem _ ih =>
      obtain ⟨items', rfl, rfl⟩ := eq_of_reread_list hread
      obtain ⟨doc, hdoc, hshown⟩ := List.mem_map.1 hmem
      exact .item hdoc (ih hshown)
    | key hmem =>
      obtain ⟨members', rfl, rfl⟩ := eq_of_reread_dict hread
      obtain ⟨⟨key, doc⟩, hmember, heq⟩ := List.mem_map.1 hmem
      cases heq
      exact .key hmember
    | value hmem _ ih =>
      obtain ⟨members', rfl, rfl⟩ := eq_of_reread_dict hread
      obtain ⟨⟨key, doc⟩, hmember, heq⟩ := List.mem_map.1 hmem
      cases heq
      exact .value hmember (ih rfl)
  · intro h
    induction h with
    | str => exact .str
    | item hmem _ ih =>
      rw [reread, rereadItems_eq]
      exact .item (List.mem_map_of_mem hmem) ih
    | key hmem =>
      rw [reread, rereadMembers_eq]
      exact .key (List.mem_map_of_mem hmem)
    | value hmem _ ih =>
      rw [reread, rereadMembers_eq]
      exact .value (List.mem_map_of_mem hmem) ih

/-! ## When no string holds a secret -/

section Secrets

variable {py : Interpreter} {redactor : Redactor} {depth : ℕ}

/-- A string of a line without a registered secret. -/
def Redactor.Clear (redactor : Redactor) (s : PyStr) : Prop :=
  ∀ secret ∈ redactor.secretLiterals, ¬ codePoints secret <:+: s

theorem clear_codePoints_iff {text : Text} : redactor.Clear (codePoints text) ↔ redactor.NoSecret text := by
  have hinjective : Function.Injective Char.toNat := fun c c' h => Char.ext (UInt32.toNat_inj.1 h)
  have hsame : ∀ secret : Text, codePoints secret <:+: codePoints text ↔ secret <:+: text := by
    intro secret
    constructor
    · intro h
      obtain ⟨piece, hpiece, heq⟩ := List.infix_map_iff.1 h
      rwa [List.map_injective_iff.2 hinjective heq]
    · intro h
      exact h.map _
  simp only [Redactor.Clear, Redactor.NoSecret, hsame]

/-- A document without a registered secret in a key or a value. -/
def Redactor.ClearDocument (redactor : Redactor) (doc : JsonValue) : Prop := ∀ s, HasString s doc → redactor.Clear s

/-- A value that shows no secret: no key of a mapping holds one, and the blank of a `Bearer` span completes
none in a text or in the text of a set. -/
def ShowsNoSecret (py : Interpreter) (redactor : Redactor) : ℕ → LogValue → Prop
  | _, .str text => redactor.GapFree py text
  | depth + 1, .list items | depth + 1, .tuple items => ∀ item ∈ items, ShowsNoSecret py redactor depth item
  | depth + 1, .set items | depth + 1, .frozenset items => ∀ items' text,
      RedactedItems py redactor depth items items' → py.repr (.set items') = .ok text → redactor.GapFree py text
  | depth + 1, .mapping entries => ∀ entry ∈ entries,
      (∀ name, keyText py entry.1 = .ok name → redactor.NoSecret name) ∧
        (IsSensitive py entry.1 ∨ ShowsNoSecret py redactor depth entry.2)
  | _, _ => True

theorem clearDocument_str_iff {s : PyStr} : redactor.ClearDocument (.str s) ↔ redactor.Clear s := by
  constructor
  · exact fun h => h s .str
  · rintro h t ht
    cases ht
    exact h

theorem clearDocument_list_iff {items : List JsonValue} :
    redactor.ClearDocument (.list items) ↔ ∀ doc ∈ items, redactor.ClearDocument doc := by
  constructor
  · exact fun h doc hmem s hs => h s (.item hmem hs)
  · intro h s hs
    obtain ⟨doc, hmem, hdoc⟩ := hasString_list_iff.1 hs
    exact h doc hmem s hdoc

theorem clearDocument_dict_iff {members : JsonDict} :
    redactor.ClearDocument (.dict members) ↔
      ∀ member ∈ members, redactor.Clear member.1 ∧ redactor.ClearDocument member.2 := by
  constructor
  · exact fun h member hmem => ⟨h member.1 (.key hmem), fun s hs => h s (.value hmem hs)⟩
  · intro h s hs
    obtain ⟨member, hmem, rfl | hvalue⟩ := hasString_dict_iff.1 hs
    · exact (h member hmem).1
    · exact (h member hmem).2 s hvalue

theorem clear_redactText_iff (hapart : redactor.ApartFromMarker) {text : Text} :
    redactor.ClearDocument (.str (codePoints (redactor.redactText py text))) ↔ redactor.GapFree py text := by
  rw [clearDocument_str_iff, clear_codePoints_iff, noSecret_redactText_iff hapart]

theorem clear_REDACTED (hapart : redactor.ApartFromMarker) :
    redactor.ClearDocument (.str (codePoints REDACTED)) :=
  clearDocument_str_iff.2 (clear_codePoints_iff.2 (noSecret_REDACTED hapart))

/-- A document without strings. -/
theorem clearDocument_of_no_string {doc : JsonValue} (h : ∀ s, ¬ HasString s doc) : redactor.ClearDocument doc :=
  fun s hs => absurd hs (h s)

theorem clearEntry_iff (hapart : redactor.ApartFromMarker) {entry : LogValue × LogValue}
    {member : PyStr × JsonValue} (h : EmitsEntry py redactor depth entry member)
    (hvalue : ∀ doc, Emits py redactor depth entry.2 doc →
      (redactor.ClearDocument doc ↔ ShowsNoSecret py redactor depth entry.2)) :
    (redactor.Clear member.1 ∧ redactor.ClearDocument member.2) ↔
      (∀ name, keyText py entry.1 = .ok name → redactor.NoSecret name) ∧
        (IsSensitive py entry.1 ∨ ShowsNoSecret py redactor depth entry.2) := by
  obtain ⟨key, doc⟩ := member
  obtain ⟨text, name, htext, hname, rfl, hdoc⟩ := h
  have hkey : redactor.Clear (codePoints name) ↔
      ∀ name', keyText py entry.1 = .ok name' → redactor.NoSecret name' := by
    rw [clear_codePoints_iff, hname]
    simp
  have hsensitive : IsSensitive py entry.1 ↔ isSensitiveKey text = true := by
    rw [IsSensitive, htext]
    simp
  rw [hkey, hsensitive]
  refine and_congr_right fun _ => ?_
  dsimp only at hdoc ⊢
  split_ifs at hdoc with hcredential
  · cases hdoc
    simp [hcredential, clear_REDACTED hapart]
  · rw [hvalue doc hdoc, or_iff_right hcredential]

theorem clearSet_iff (hapart : redactor.ApartFromMarker) {items : List LogValue} {doc : JsonValue}
    (h : Emits py redactor (depth + 1) (.set items) doc) :
    redactor.ClearDocument doc ↔ ShowsNoSecret py redactor (depth + 1) (.set items) := by
  obtain ⟨items', text, hitems, htext, rfl⟩ := emits_set.1 h
  rw [clear_redactText_iff hapart, ShowsNoSecret]
  constructor
  · intro hgap items'' text' hitems' htext'
    -- There is one set of redacted items, and one text of it.
    have hsame := (redactedItems_iff.2 hitems).symm.trans (redactedItems_iff.2 hitems')
    rw [← Except.ok.inj hsame, htext] at htext'
    rwa [← Except.ok.inj htext']
  · exact fun hshows => hshows items' text hitems htext

/-- The line shows a secret for a value just where the value does. -/
theorem clearDocument_iff (hapart : redactor.ApartFromMarker) {v : LogValue} {doc : JsonValue}
    (h : Emits py redactor depth v doc) : redactor.ClearDocument doc ↔ ShowsNoSecret py redactor depth v := by
  have hatom : ∀ {depth v doc}, v.isAtom = true → Emits py redactor depth v doc →
      (redactor.ClearDocument doc ↔ ShowsNoSecret py redactor depth v) := by
    intro depth v doc hv h
    cases v with
    | str text =>
      obtain rfl := emits_str.1 h
      rw [clear_redactText_iff hapart]
      cases depth <;> rfl
    | secretStr text =>
      obtain rfl := emits_secretStr.1 h
      exact iff_of_true (clear_REDACTED hapart) (by cases depth <;> trivial)
    | none =>
      obtain rfl := emits_none.1 h
      exact iff_of_true (clearDocument_of_no_string fun s hs => by cases hs) (by cases depth <;> trivial)
    | bool b =>
      obtain rfl := emits_bool.1 h
      exact iff_of_true (clearDocument_of_no_string fun s hs => by cases hs) (by cases depth <;> trivial)
    | int i =>
      obtain ⟨-, rfl⟩ := emits_int.1 h
      exact iff_of_true (clearDocument_of_no_string fun s hs => by cases hs) (by cases depth <;> trivial)
    | float d =>
      obtain rfl := emits_float.1 h
      exact iff_of_true (clearDocument_of_no_string fun s hs => by cases hs) (by cases depth <;> trivial)
    | list | tuple | set | frozenset | mapping => cases hv
  induction depth generalizing v doc with
  | zero =>
    refine hatom ?_ h
    obtain ⟨v', hredact, -⟩ := h
    exact isAtom_of_redact_zero hredact
  | succ depth ih =>
    cases v with
    | list items =>
      obtain ⟨docs, hdocs, rfl⟩ := emits_list.1 h
      rw [clearDocument_list_iff, ShowsNoSecret]
      exact (Python.forall_mem_iff_of_forall₂ hdocs fun _ _ hd => (ih hd).symm).symm
    | tuple items =>
      obtain ⟨docs, hdocs, rfl⟩ := emits_tuple.1 h
      rw [clearDocument_list_iff, ShowsNoSecret]
      exact (Python.forall_mem_iff_of_forall₂ hdocs fun _ _ hd => (ih hd).symm).symm
    | set items => exact clearSet_iff hapart h
    | frozenset items => exact clearSet_iff hapart h
    | mapping entries =>
      obtain ⟨members, hmembers, rfl⟩ := emits_mapping.1 h
      rw [clearDocument_dict_iff, ShowsNoSecret]
      exact (Python.forall_mem_iff_of_forall₂ hmembers fun _ _ hm =>
        (clearEntry_iff hapart hm fun _ => ih).symm).symm
    | _ => exact hatom rfl h

end Secrets

/-! ## Sensitive keys -/

section Hidden

variable {py : Interpreter} {redactor : Redactor} {depth : ℕ}

/-- A payload without what stands under sensitive keys and in secret wrappers. -/
def hide (py : Interpreter) : ℕ → LogValue → LogValue
  | _, .secretStr _ => .secretStr []
  | depth + 1, .mapping entries =>
    .mapping (entries.map fun entry =>
      (entry.1, if (strOf py entry.1).toOption.any isSensitiveKey then .none else hide py depth entry.2))
  | depth + 1, .list items => .list (items.map (hide py depth))
  | depth + 1, .tuple items => .tuple (items.map (hide py depth))
  | depth + 1, .set items => .set (items.map (hide py depth))
  | depth + 1, .frozenset items => .frozenset (items.map (hide py depth))
  | _, v => v

/-- The redacted payload is made of what is not hidden. -/
theorem redact_hide (v : LogValue) : redactor.redact py depth (hide py depth v) = redactor.redact py depth v := by
  induction depth generalizing v with
  | zero => cases v <;> rfl
  | succ depth ih =>
    have hitems : ∀ items : List LogValue,
        (items.map (hide py depth)).mapM (redactor.redact py depth) = items.mapM (redactor.redact py depth) := by
      intro items
      rw [List.mapM_map]
      exact congrArg (fun f => items.mapM f) (funext ih)
    have hset : ∀ items : List LogValue,
        ((items.map (hide py depth)).mapM fun item => redactor.redact py depth item >>= hashed) =
          items.mapM fun item => redactor.redact py depth item >>= hashed := by
      intro items
      rw [List.mapM_map]
      exact congrArg (fun f => items.mapM f) (funext fun item => by simp only [Function.comp_apply, ih item])
    cases v with
    | mapping entries =>
      have hentry : ∀ entry : LogValue × LogValue, redactEntry py (redactor.redact py depth)
            (entry.1, if (strOf py entry.1).toOption.any isSensitiveKey then .none else hide py depth entry.2) =
          redactEntry py (redactor.redact py depth) entry := by
        intro entry
        rw [redactEntry, redactEntry]
        cases strOf py entry.1 with
        | error e => rfl
        | ok text =>
          by_cases hsensitive : isSensitiveKey text = true
          · simp [bind, Except.bind, hsensitive]
          · simp [bind, Except.bind, Except.toOption, hsensitive, ih]
      rw [hide, Redactor.redact, Redactor.redact, List.mapM_map]
      exact congrArg (fun f => (entries.mapM f >>= fun entries => pure (LogValue.mapping entries) :
        Except LogError LogValue)) (funext hentry)
    | list items => rw [hide, Redactor.redact, Redactor.redact, hitems]
    | tuple items => rw [hide, Redactor.redact, Redactor.redact, hitems]
    | set items => rw [hide, Redactor.redact, Redactor.redact, hset]
    | frozenset items => rw [hide, Redactor.redact, Redactor.redact, hset]
    | _ => rfl

end Hidden

end WeaponDetection.Agent.Logging
