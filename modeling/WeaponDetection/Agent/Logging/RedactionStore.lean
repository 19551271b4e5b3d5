import WeaponDetection.Agent.Logging.RedactionSafe

/-!
# Redaction and the caller's objects

The redactor on a store of mutable objects.  It reads the caller's containers and makes new ones, so the
store it leaves begins with the store it found, and what it makes is what the walk over the tree of the
payload gives.
-/

namespace WeaponDetection.Agent.Logging

open WeaponDetection.Foundations
open WeaponDetection.Foundations.JsonDecoder (JsonValue)
open WeaponDetection.Foundations.JsonEncoder

/-! ## The store -/

/-- A value of the program: one that nothing can change, or the address of a container. -/
inductive StoredValue where
  | atom (v : {v : LogValue // v.isAtom = true})
  | ref (address : ℕ)

/-- A container.  A key has a hash, so it is kept as the tree it is. -/
inductive StoredObject where
  | list (items : List StoredValue)
  | tuple (items : List StoredValue)
  | set (items : List StoredValue)
  | frozenset (items : List StoredValue)
  | mapping (entries : List (LogValue × StoredValue))

/-- The objects of the program by their addresses. -/
abbrev Heap := List StoredObject

/-- The tree of a container; `child` gives the trees of what it holds. -/
def StoredObject.tree (child : StoredValue → Option LogValue) : StoredObject → Option LogValue
  | .list items => (items.mapM child).map .list
  | .tuple items => (items.mapM child).map .tuple
  | .set items => (items.mapM child).map .set
  | .frozenset items => (items.mapM child).map .frozenset
  | .mapping entries => (entries.mapM fun entry => (child entry.2).map (entry.1, ·)).map .mapping

/-- The tree a value is the root of, as far as it is no deeper than `depth`. -/
def view : ℕ → Heap → StoredValue → Option LogValue
  | _, _, .atom v => some v.1
  | 0, _, .ref _ => none
  | depth + 1, heap, .ref address => heap[address]?.bind (StoredObject.tree (view depth heap))

/-- A new object. -/
def alloc (object : StoredObject) (heap : Heap) : StoredValue × Heap := (.ref heap.length, heap ++ [object])

/-- A comprehension whose rounds read and extend the store. -/
def mapAt (f : α → Heap → Except LogError (β × Heap)) : List α → Heap → Except LogError (List β × Heap)
  | [], heap => .ok ([], heap)
  | x :: xs, heap => do
    let (y, heap) ← f x heap
    let (ys, heap) ← mapAt f xs heap
    return (y :: ys, heap)

/-! ## The redactor on the store -/

/-- What becomes of a value that is no container. -/
def Redactor.redactAtom (py : Interpreter) (redactor : Redactor) : LogValue → LogValue
  | .secretStr _ => .str REDACTED
  | .str text => .str (redactor.redactText py text)
  | v => v

theorem isAtom_redactAtom (py : Interpreter) (redactor : Redactor) {v : LogValue} (h : v.isAtom = true) :
    (redactor.redactAtom py v).isAtom = true := by
  cases v <;> first | rfl | exact h

theorem isAtom_str (text : Text) : (LogValue.str text).isAtom = true := rfl

/-- A `str` of the program. -/
def StoredValue.str (text : Text) : StoredValue := .atom ⟨.str text, isAtom_str text⟩

/-- One round of the comprehension over a mapping. -/
def redactEntryAt (py : Interpreter) (redactItem : StoredValue → Heap → Except LogError (StoredValue × Heap))
    (entry : LogValue × StoredValue) (heap : Heap) : Except LogError ((LogValue × StoredValue) × Heap) := do
  if isSensitiveKey (← strOf py entry.1) then return ((entry.1, .str REDACTED), heap)
  else
    let (item, heap) ← redactItem entry.2 heap
    return ((entry.1, item), heap)

/-- What a set comprehension asks of an item. -/
def hashedAt (depth : ℕ) (item : StoredValue) (heap : Heap) : Except LogError (StoredValue × Heap) :=
  if (view depth heap item).any LogValue.isHashable then .ok (item, heap) else .error .typeError

/-- `Redactor.redact` on the store. -/
def Redactor.redactAt (py : Interpreter) (redactor : Redactor) :
    ℕ → StoredValue → Heap → Except LogError (StoredValue × Heap)
  | _, .atom v, heap => .ok (.atom ⟨redactor.redactAtom py v.1, isAtom_redactAtom py redactor v.2⟩, heap)
  | 0, .ref _, _ => .error .recursionError
  | depth + 1, .ref address, heap =>
    match heap[address]? with
    -- No value of the program has such an address.
    | none => .error .typeError
    | some (.mapping entries) => do
      let (entries, heap) ← mapAt (redactEntryAt py (redactor.redactAt py depth)) entries heap
      return alloc (.mapping entries) heap
    | some (.tuple items) => do
      let (items, heap) ← mapAt (redactor.redactAt py depth) items heap
      return alloc (.tuple items) heap
    | some (.list items) => do
      let (items, heap) ← mapAt (redactor.redactAt py depth) items heap
      return alloc (.list items) heap
    | some (.set items) | some (.frozenset items) => do
      let (items, heap) ← mapAt (fun item heap => do
        let (item, heap) ← redactor.redactAt py depth item heap
        hashedAt depth item heap) items heap
      return alloc (.set items) heap

/-- `JsonLogFormatter.format` on the store: the line and the objects behind it. -/
def formatAt (py : Interpreter) (redactor : Redactor) (record : LogRecord StoredValue) (heap : Heap) :
    Except LogError (Text × Heap) := do
  let entries := textEntries (payload py .str record)
  let (payload, heap) := alloc (.mapping entries) heap
  let (redacted, heap) ← redactor.redactAt py py.nestingLimit payload heap
  match view py.nestingLimit heap redacted with
  | none => throw .recursionError
  | some tree =>
    let document ← encode py redactor py.nestingLimit tree
    return (dumps py.floatRepr document, heap)

/-! ## Trees -/

section Trees

theorem mapM_eq_some_iff {α β : Type} {f : α → Option β} {xs : List α} {ys : List β} :
    xs.mapM f = some ys ↔ List.Forall₂ (fun x y => f x = some y) xs ys := by
  induction xs generalizing ys with
  | nil => simp [eq_comm]
  | cons x xs ih =>
    simp only [List.mapM_cons, Option.bind_eq_bind, Option.pure_def, Option.bind_eq_some_iff, Option.some.injEq,
      List.forall₂_cons_left_iff, ih]
    constructor
    · rintro ⟨y, hy, ys', hys, rfl⟩
      exact ⟨y, ys', hy, hys, rfl⟩
    · rintro ⟨y, ys', hy, hys, rfl⟩
      exact ⟨y, hy, ys', hys, rfl⟩

/-- An entry and its tree. -/
def EntryShows (child : StoredValue → Option LogValue) (entry : LogValue × StoredValue)
    (shown : LogValue × LogValue) : Prop := entry.1 = shown.1 ∧ child entry.2 = some shown.2

variable {child child' : StoredValue → Option LogValue} {depth : ℕ} {heap heap' : Heap}

theorem tree_mapping_iff {entries : List (LogValue × StoredValue)} {tree : LogValue} :
    (StoredObject.mapping entries).tree child = some tree ↔
      ∃ shown, List.Forall₂ (EntryShows child) entries shown ∧ tree = .mapping shown := by
  have hentry : ∀ (entry : LogValue × StoredValue) (shown : LogValue × LogValue),
      (child entry.2).map (entry.1, ·) = some shown ↔ EntryShows child entry shown := by
    rintro ⟨key, v⟩ ⟨key', tree⟩
    simp only [Option.map_eq_some_iff, Prod.mk.injEq, EntryShows]
    constructor
    · rintro ⟨tree', htree, rfl, rfl⟩
      exact ⟨rfl, htree⟩
    · rintro ⟨rfl, htree⟩
      exact ⟨tree, htree, rfl, rfl⟩
  rw [StoredObject.tree, Option.map_eq_some_iff]
  simp only [mapM_eq_some_iff, hentry, @eq_comm _ _ tree]

theorem tree_sequence_iff {items : List StoredValue} {tree : LogValue} {wrap : List LogValue → LogValue} :
    (items.mapM child).map wrap = some tree ↔
      ∃ trees, List.Forall₂ (fun v t => child v = some t) items trees ∧ tree = wrap trees := by
  rw [Option.map_eq_some_iff]
  simp only [mapM_eq_some_iff, @eq_comm _ _ tree]

/-- A container whose children keep their trees keeps its own. -/
theorem tree_mono (hchild : ∀ v t, child v = some t → child' v = some t) {object : StoredObject} {tree : LogValue}
    (h : object.tree child = some tree) : object.tree child' = some tree := by
  cases object with
  | mapping entries =>
    obtain ⟨shown, hshown, rfl⟩ := tree_mapping_iff.1 h
    exact tree_mapping_iff.2 ⟨shown, hshown.imp fun _ _ hs => ⟨hs.1, hchild _ _ hs.2⟩, rfl⟩
  | list items =>
    obtain ⟨trees, htrees, rfl⟩ := tree_sequence_iff.1 h
    exact tree_sequence_iff.2 ⟨trees, htrees.imp fun _ _ ht => hchild _ _ ht, rfl⟩
  | tuple items =>
    obtain ⟨trees, htrees, rfl⟩ := tree_sequence_iff.1 h
    exact tree_sequence_iff.2 ⟨trees, htrees.imp fun _ _ ht => hchild _ _ ht, rfl⟩
  | set items =>
    obtain ⟨trees, htrees, rfl⟩ := tree_sequence_iff.1 h
    exact tree_sequence_iff.2 ⟨trees, htrees.imp fun _ _ ht => hchild _ _ ht, rfl⟩
  | frozenset items =>
    obtain ⟨trees, htrees, rfl⟩ := tree_sequence_iff.1 h
    exact tree_sequence_iff.2 ⟨trees, htrees.imp fun _ _ ht => hchild _ _ ht, rfl⟩

theorem getElem?_of_extends (hheap : heap <+: heap') {address : ℕ} {object : StoredObject}
    (h : heap[address]? = some object) : heap'[address]? = some object := by
  obtain ⟨added, rfl⟩ := hheap
  obtain ⟨hlt, -⟩ := List.getElem?_eq_some_iff.1 h
  rw [List.getElem?_append_left hlt, h]

/-- A value keeps its tree while objects are added. -/
theorem view_of_extends (hheap : heap <+: heap') {v : StoredValue} {tree : LogValue}
    (h : view depth heap v = some tree) : view depth heap' v = some tree := by
  induction depth generalizing v tree with
  | zero =>
    cases v with
    | atom v => exact h
    | ref address => cases h
  | succ depth ih =>
    cases v with
    | atom v => exact h
    | ref address =>
      obtain ⟨object, hobject, htree⟩ := Option.bind_eq_some_iff.1 h
      exact Option.bind_eq_some_iff.2 ⟨object, getElem?_of_extends hheap hobject, tree_mono (fun _ _ => ih) htree⟩

/-- A new object shows the tree of what it holds. -/
theorem view_alloc {object : StoredObject} {tree : LogValue} (h : object.tree (view depth heap) = some tree) :
    view (depth + 1) (alloc object heap).2 (alloc object heap).1 = some tree := by
  have hobject : (heap ++ [object])[heap.length]? = some object := by simp
  exact Option.bind_eq_some_iff.2 ⟨object, hobject,
    tree_mono (fun _ _ => view_of_extends (List.prefix_append heap [object])) h⟩

end Trees

/-! ## The walk on the store follows the walk on trees -/

/-- A value is the root of a tree. -/
def Shows (depth : ℕ) (heap : Heap) (v : StoredValue) (tree : LogValue) : Prop := view depth heap v = some tree

section Walk

variable {py : Interpreter} {redactor : Redactor}

/-- A run on the store ends as a computation on trees does, adds objects only, and gives a value that shows
the result. -/
def Follows (shows : Heap → β → τ → Prop) (heap : Heap) (run : Except LogError (β × Heap))
    (result : Except LogError τ) : Prop :=
  match result with
  | .error e => run = .error e
  | .ok t => ∃ y heap', run = .ok (y, heap') ∧ heap <+: heap' ∧ shows heap' y t

theorem Follows.ok {shows : Heap → β → τ → Prop} {heap heap' : Heap} {y : β} {t : τ} (hheap : heap <+: heap')
    (h : shows heap' y t) : Follows shows heap (.ok (y, heap')) (.ok t) :=
  ⟨y, heap', rfl, hheap, h⟩

/-- A run on a store that begins with another. -/
theorem Follows.of_extends {shows : Heap → β → τ → Prop} {heap heap' : Heap} {run : Except LogError (β × Heap)}
    {result : Except LogError τ} (hheap : heap <+: heap') (h : Follows shows heap' run result) :
    Follows shows heap run result := by
  cases result with
  | error e => exact h
  | ok t =>
    obtain ⟨y, heap'', hrun, hheap', hshows⟩ := h
    exact ⟨y, heap'', hrun, hheap.trans hheap', hshows⟩

/-- One run behind another. -/
theorem Follows.bind {shows : Heap → β → τ → Prop} {shows' : Heap → γ → σ → Prop} {heap : Heap}
    {run : Except LogError (β × Heap)} {result : Except LogError τ} (h : Follows shows heap run result)
    {next : β × Heap → Except LogError (γ × Heap)} {nextResult : τ → Except LogError σ}
    (hnext : ∀ heap' y t, heap <+: heap' → shows heap' y t → Follows shows' heap' (next (y, heap')) (nextResult t)) :
    Follows shows' heap (run >>= next) (result >>= nextResult) := by
  cases result with
  | error e =>
    have hrun : run = .error e := h
    rw [hrun]
    rfl
  | ok t =>
    obtain ⟨y, heap', rfl, hheap, hshows⟩ := h
    have hrest := hnext heap' y t hheap hshows
    show Follows shows' heap (next (y, heap')) (nextResult t)
    cases hresult : nextResult t with
    | error e =>
      rw [hresult] at hrest
      exact hrest
    | ok s =>
      rw [hresult] at hrest
      obtain ⟨z, heap'', hz, hheap', hshows'⟩ := hrest
      exact ⟨z, heap'', hz, hheap.trans hheap', hshows'⟩

/-- A comprehension follows when its rounds do. -/
theorem Follows.mapAt {α β τ σ : Type} {f : α → Heap → Except LogError (β × Heap)} {g : τ → Except LogError σ}
    (before : Heap → α → τ → Prop) (after : Heap → β → σ → Prop)
    (hbefore : ∀ {heap heap' x t}, heap <+: heap' → before heap x t → before heap' x t)
    (hafter : ∀ {heap heap' y s}, heap <+: heap' → after heap y s → after heap' y s)
    (hround : ∀ heap x t, before heap x t → Follows after heap (f x heap) (g t)) {heap : Heap} {xs : List α}
    {ts : List τ} (h : List.Forall₂ (before heap) xs ts) :
    Follows (fun heap => List.Forall₂ (after heap)) heap (mapAt f xs heap) (ts.mapM g) := by
  induction xs generalizing heap ts with
  | nil =>
    obtain rfl := List.forall₂_nil_left_iff.1 h
    exact .ok (List.prefix_refl heap) .nil
  | cons x xs ih =>
    obtain ⟨t, ts, hx, hxs, rfl⟩ := List.forall₂_cons_left_iff.1 h
    rw [List.mapM_cons, Logging.mapAt]
    refine (hround heap x t hx).bind fun heap' y s hheap hy => ?_
    refine (ih (hxs.imp fun _ _ => hbefore hheap)).bind fun heap'' ys ss hheap' hys => ?_
    exact .ok (List.prefix_refl heap'') (.cons (hafter hheap' hy) hys)

theorem redact_of_isAtom {depth : ℕ} {v : LogValue} (h : v.isAtom = true) :
    redactor.redact py depth v = .ok (redactor.redactAtom py v) := by
  cases v with
  | list | tuple | set | frozenset | mapping => cases h
  | _ => cases depth <;> rfl

theorem redactEntryAt_follows {depth D : ℕ}
    (hitem : ∀ heap v tree, Shows D heap v tree →
      Follows (Shows depth) heap (redactor.redactAt py depth v heap) (redactor.redact py depth tree)) (heap : Heap) {entry : LogValue × StoredValue}
    {shown : LogValue × LogValue} (h : EntryShows (view D heap) entry shown) :
    Follows (fun heap => EntryShows (view depth heap)) heap
      (redactEntryAt py (redactor.redactAt py depth) entry heap) (redactEntry py (redactor.redact py depth) shown) := by
  obtain ⟨key, v⟩ := entry
  obtain ⟨key', tree⟩ := shown
  obtain ⟨rfl, hv⟩ := h
  rw [redactEntryAt, redactEntry]
  cases strOf py key with
  | error e => rfl
  | ok text =>
    show Follows _ heap (if isSensitiveKey text = true then _ else _) (if isSensitiveKey text = true then _ else _)
    split_ifs
    · exact .ok (List.prefix_refl heap) ⟨rfl, by cases depth <;> rfl⟩
    · refine (hitem heap v tree hv).bind fun heap' v' t _ ht => ?_
      exact .ok (List.prefix_refl heap') ⟨rfl, ht⟩

theorem hashedItem_follows {depth D : ℕ}
    (hitem : ∀ heap v tree, Shows D heap v tree →
      Follows (Shows depth) heap (redactor.redactAt py depth v heap) (redactor.redact py depth tree)) (heap : Heap) {v : StoredValue} {tree : LogValue}
    (h : Shows D heap v tree) :
    Follows (Shows depth) heap
      (do
        let (item, heap) ← redactor.redactAt py depth v heap
        hashedAt depth item heap)
      (redactor.redact py depth tree >>= hashed) := by
  refine (hitem heap v tree h).bind fun heap' v' t _ ht => ?_
  show Follows _ heap' (hashedAt depth v' heap') (hashed t)
  rw [hashedAt, ht, hashed, Option.any_some]
  split_ifs
  · exact .ok (List.prefix_refl heap') ht
  · rfl

/-- The walk on the store gives what the walk on the tree gives. -/
theorem redactAt_follows (py : Interpreter) (redactor : Redactor) (depth : ℕ) {D : ℕ} {heap : Heap}
    {v : StoredValue} {tree : LogValue} (h : Shows D heap v tree) :
    Follows (Shows depth) heap (redactor.redactAt py depth v heap)
      (redactor.redact py depth tree) := by
  have hatom : ∀ {depth : ℕ} {heap : Heap} {a : {v : LogValue // v.isAtom = true}},
      Follows (Shows depth) heap (redactor.redactAt py depth (.atom a) heap)
        (redactor.redact py depth a.1) := by
    intro depth heap a
    have hrun : redactor.redactAt py depth (.atom a) heap =
        .ok (.atom ⟨redactor.redactAtom py a.1, isAtom_redactAtom py redactor a.2⟩, heap) := by
      cases depth <;> rfl
    rw [redact_of_isAtom a.2, hrun]
    exact .ok (List.prefix_refl heap) (by cases depth <;> rfl)
  have hmono : ∀ {d : ℕ} {heap heap' : Heap} {x : StoredValue} {t : LogValue}, heap <+: heap' →
      Shows d heap x t → Shows d heap' x t := fun hheap => view_of_extends hheap
  have hentryMono : ∀ {d : ℕ} {heap heap' : Heap} {x : LogValue × StoredValue} {t : LogValue × LogValue},
      heap <+: heap' → EntryShows (view d heap) x t → EntryShows (view d heap') x t :=
    fun hheap hx => ⟨hx.1, view_of_extends hheap hx.2⟩
  induction depth generalizing D heap v tree with
  | zero =>
    cases v with
    | atom a =>
      have htree : tree = a.1 := by cases D <;> exact (Option.some.inj h).symm
      rw [htree]
      exact hatom
    | ref address =>
      cases D with
      | zero => cases h
      | succ D =>
        obtain ⟨object, hobject, htree⟩ := Option.bind_eq_some_iff.1 h
        cases object with
        | mapping entries =>
          obtain ⟨shown, -, rfl⟩ := tree_mapping_iff.1 htree
          rfl
        | list | tuple | set | frozenset =>
          obtain ⟨trees, -, rfl⟩ := tree_sequence_iff.1 htree
          rfl
  | succ depth ih =>
    cases v with
    | atom a =>
      have htree : tree = a.1 := by cases D <;> exact (Option.some.inj h).symm
      rw [htree]
      exact hatom
    | ref address =>
      cases D with
      | zero => cases h
      | succ D =>
        obtain ⟨object, hobject, htree⟩ := Option.bind_eq_some_iff.1 h
        have hitem : ∀ heap v tree, Shows D heap v tree →
            Follows (Shows depth) heap (redactor.redactAt py depth v heap) (redactor.redact py depth tree) := fun _ _ _ hv => ih hv
        have hsequence : ∀ {items : List StoredValue} {trees : List LogValue},
            List.Forall₂ (fun v t => view D heap v = some t) items trees →
            Follows (fun heap => List.Forall₂ (Shows depth heap)) heap
              (mapAt (redactor.redactAt py depth) items heap) (trees.mapM (redactor.redact py depth)) :=
          fun htrees => .mapAt (Shows D) (Shows depth) hmono hmono hitem htrees
        have hset : ∀ {items : List StoredValue} {trees : List LogValue},
            List.Forall₂ (fun v t => view D heap v = some t) items trees →
            Follows (fun heap => List.Forall₂ (Shows depth heap)) heap
              (mapAt (fun item heap => do
                let (item, heap) ← redactor.redactAt py depth item heap
                hashedAt depth item heap) items heap)
              (trees.mapM fun item => redactor.redact py depth item >>= hashed) :=
          fun htrees => .mapAt (Shows D) (Shows depth) hmono hmono
            (fun heap _ _ => hashedItem_follows hitem heap) htrees
        cases object with
        | mapping entries =>
          obtain ⟨shown, hshown, rfl⟩ := tree_mapping_iff.1 htree
          rw [Redactor.redactAt, hobject, Redactor.redact]
          refine (Follows.mapAt (fun heap => EntryShows (view D heap)) (fun heap => EntryShows (view depth heap))
            hentryMono hentryMono (fun heap _ _ => redactEntryAt_follows hitem heap)
            hshown).bind fun heap' entries' shown' _ hentries => ?_
          exact .ok (List.prefix_append heap' _) (view_alloc (tree_mapping_iff.2 ⟨shown', hentries, rfl⟩))
        | list items =>
          obtain ⟨trees, htrees, rfl⟩ := tree_sequence_iff.1 htree
          rw [Redactor.redactAt, hobject, Redactor.redact]
          refine (hsequence htrees).bind fun heap' items' trees' _ hitems => ?_
          exact .ok (List.prefix_append heap' _) (view_alloc (tree_sequence_iff.2 ⟨trees', hitems, rfl⟩))
        | tuple items =>
          obtain ⟨trees, htrees, rfl⟩ := tree_sequence_iff.1 htree
          rw [Redactor.redactAt, hobject, Redactor.redact]
          refine (hsequence htrees).bind fun heap' items' trees' _ hitems => ?_
          exact .ok (List.prefix_append heap' _) (view_alloc (tree_sequence_iff.2 ⟨trees', hitems, rfl⟩))
        | set items =>
          obtain ⟨trees, htrees, rfl⟩ := tree_sequence_iff.1 htree
          rw [Redactor.redactAt, hobject, Redactor.redact]
          refine (hset htrees).bind fun heap' items' trees' _ hitems => ?_
          exact .ok (List.prefix_append heap' _) (view_alloc (tree_sequence_iff.2 ⟨trees', hitems, rfl⟩))
        | frozenset items =>
          obtain ⟨trees, htrees, rfl⟩ := tree_sequence_iff.1 htree
          rw [Redactor.redactAt, hobject, Redactor.redact]
          refine (hset htrees).bind fun heap' items' trees' _ hitems => ?_
          exact .ok (List.prefix_append heap' _) (view_alloc (tree_sequence_iff.2 ⟨trees', hitems, rfl⟩))

end Walk

/-! ## The formatter -/

section Format

variable {py : Interpreter} {redactor : Redactor} {D : ℕ} {heap : Heap}

/-- A field and its tree. -/
def FieldShows (D : ℕ) (heap : Heap) (field : Text × StoredValue) (shown : Text × LogValue) : Prop :=
  field.1 = shown.1 ∧ Shows D heap field.2 shown.2

/-- A dictionary and the trees of its values. -/
def FieldsShow (D : ℕ) (heap : Heap) (fields : OrderedDict Text StoredValue) (shown : OrderedDict Text LogValue) :
    Prop := List.Forall₂ (FieldShows D heap) fields.entries shown.entries

/-- A record and the trees of the caller's fields. -/
structure RecordShows (D : ℕ) (heap : Heap) (record : LogRecord StoredValue) (shown : LogRecord LogValue) : Prop where
  created : record.created = shown.created
  levelname : record.levelname = shown.levelname
  name : record.name = shown.name
  message : record.message = shown.message
  attributes : FieldsShow D heap record.attributes shown.attributes

theorem FieldsShow.keys {fields : OrderedDict Text StoredValue} {shown : OrderedDict Text LogValue}
    (h : FieldsShow D heap fields shown) : fields.entries.map Prod.fst = shown.entries.map Prod.fst := by
  rw [← List.forall₂_eq_eq_eq, List.forall₂_map_left_iff, List.forall₂_map_right_iff]
  exact h.imp fun _ _ hfield => hfield.1

theorem FieldsShow.set {fields : OrderedDict Text StoredValue} {shown : OrderedDict Text LogValue}
    (h : FieldsShow D heap fields shown) (key : Text) {v : StoredValue} {tree : LogValue} (hv : Shows D heap v tree) :
    FieldsShow D heap (fields.set key v) (shown.set key tree) := by
  by_cases hmem : key ∈ fields.entries.map Prod.fst
  · have hmem' : key ∈ shown.entries.map Prod.fst := by rwa [← h.keys]
    rw [FieldsShow, OrderedDict.entries_set_of_mem hmem, OrderedDict.entries_set_of_mem hmem',
      List.forall₂_map_left_iff, List.forall₂_map_right_iff]
    refine h.imp fun field shown hfield => ?_
    rw [hfield.1]
    split_ifs
    · exact ⟨rfl, hv⟩
    · exact hfield
  · have hmem' : key ∉ shown.entries.map Prod.fst := by rwa [← h.keys]
    rw [FieldsShow, OrderedDict.entries_set_of_not_mem hmem, OrderedDict.entries_set_of_not_mem hmem']
    exact List.rel_append h (.cons ⟨rfl, hv⟩ .nil)

theorem shows_str (text : Text) : Shows D heap (.str text) (.str text) := by
  cases D <;> rfl

/-- The payload of a record shows the payload of its tree. -/
theorem payload_shows (py : Interpreter) {record : LogRecord StoredValue} {shown : LogRecord LogValue}
    (h : RecordShows D heap record shown) :
    FieldsShow D heap (payload py .str record) (payload py .str shown) := by
  have hcore : FieldsShow D heap (corePayload .str record) (corePayload .str shown) := by
    rw [corePayload, corePayload, h.created, h.levelname, h.name, h.message]
    have hempty : FieldsShow D heap OrderedDict.empty OrderedDict.empty := .nil
    exact (((hempty.set _ (shows_str _)).set _ (shows_str _)).set _ (shows_str _)).set _ (shows_str _)
  have hfield : ∀ {fields : OrderedDict Text StoredValue} {shown : OrderedDict Text LogValue} {field field'},
      FieldsShow D heap fields shown → FieldShows D heap field field' →
      FieldsShow D heap (addField py fields field) (addField py shown field') := by
    intro fields shown field field' hfields hfield
    rw [addField, addField, hfield.1]
    split_ifs
    · exact hfields
    · exact hfields.set _ hfield.2
  -- The loop over the attributes adds field by field on both sides.
  have hloop : ∀ {attributes attributes'}, List.Forall₂ (FieldShows D heap) attributes attributes' →
      ∀ {fields : OrderedDict Text StoredValue} {shown : OrderedDict Text LogValue}, FieldsShow D heap fields shown →
      FieldsShow D heap (attributes.foldl (addField py) fields) (attributes'.foldl (addField py) shown) := by
    intro attributes attributes' hattributes
    induction hattributes with
    | nil => exact fun hfields => hfields
    | cons hfirst _ ih => exact fun hfields => ih (hfield hfields hfirst)
  exact hloop h.attributes hcore

theorem textEntries_show {fields : OrderedDict Text StoredValue} {shown : OrderedDict Text LogValue}
    (h : FieldsShow D heap fields shown) :
    List.Forall₂ (EntryShows (view D heap)) (textEntries fields) (textEntries shown) := by
  rw [textEntries, textEntries, List.forall₂_map_left_iff, List.forall₂_map_right_iff]
  refine h.imp ?_
  rintro ⟨key, v⟩ ⟨key', tree⟩ ⟨rfl, hv⟩
  exact ⟨rfl, hv⟩

/-- The formatter writes for the objects of a record what it writes for their trees, and leaves them as they
are. -/
theorem formatAt_follows (py : Interpreter) (redactor : Redactor) {record : LogRecord StoredValue} {shown : LogRecord LogValue}
    (h : RecordShows D heap record shown) :
    Follows (fun _ line line' => line = line') heap (formatAt py redactor record heap) (format py redactor shown) := by
  have hentries := textEntries_show (payload_shows py h)
  have hpayload : Shows (D + 1) (alloc (.mapping (textEntries (payload py .str record))) heap).2
      (alloc (.mapping (textEntries (payload py .str record))) heap).1 (payloadValue py shown) :=
    view_alloc (tree_mapping_iff.2 ⟨_, hentries, rfl⟩)
  have hextended : heap <+: (alloc (.mapping (textEntries (payload py .str record))) heap).2 :=
    List.prefix_append heap _
  have hredact := redactAt_follows py redactor py.nestingLimit hpayload
  refine .of_extends hextended (hredact.bind fun heap' redacted tree _ htree => ?_)
  have hview : view py.nestingLimit heap' redacted = some tree := htree
  dsimp only
  rw [hview]
  change Follows _ heap' (encode py redactor py.nestingLimit tree >>= fun document =>
    .ok (dumps py.floatRepr document, heap')) (encode py redactor py.nestingLimit tree >>= fun document =>
    .ok (dumps py.floatRepr document))
  cases encode py redactor py.nestingLimit tree with
  | error e => rfl
  | ok document => exact ⟨_, heap', rfl, List.prefix_refl heap', rfl⟩

theorem format_eq_ok_iff {shown : LogRecord LogValue} {line : Text} :
    format py redactor shown = .ok line ↔
      ∃ doc, Emits py redactor py.nestingLimit (payloadValue py shown) doc ∧ line = dumps py.floatRepr doc := by
  constructor
  · intro h
    obtain ⟨redacted, hredact, h⟩ := Python.bind_eq_ok_iff.1 h
    obtain ⟨document, hencode, hline⟩ := Python.bind_eq_ok_iff.1 h
    cases hline
    exact ⟨document, ⟨redacted, hredact, hencode⟩, rfl⟩
  · rintro ⟨document, ⟨redacted, hredact, hencode⟩, rfl⟩
    exact Python.bind_eq_ok_iff.2 ⟨redacted, hredact, Python.bind_eq_ok_iff.2 ⟨document, hencode, rfl⟩⟩

/-- What stands under sensitive keys does not reach the formatter's answer. -/
theorem format_eq_of_hide_eq {shown shown' : LogRecord LogValue}
    (h : hide py py.nestingLimit (payloadValue py shown') = hide py py.nestingLimit (payloadValue py shown)) :
    format py redactor shown' = format py redactor shown := by
  rw [format, ← redact_hide, h, redact_hide]
  rfl

theorem map_fst_formatAt (py : Interpreter) (redactor : Redactor) {record : LogRecord StoredValue} {shown : LogRecord LogValue}
    (h : RecordShows D heap record shown) :
    (formatAt py redactor record heap).map Prod.fst = format py redactor shown := by
  have hfollows := formatAt_follows py redactor h
  cases hformat : format py redactor shown with
  | error e =>
    rw [hformat] at hfollows
    have hrun : formatAt py redactor record heap = .error e := hfollows
    rw [hrun]
    rfl
  | ok line =>
    rw [hformat] at hfollows
    obtain ⟨line', heap', hrun, -, rfl⟩ := hfollows
    rw [hrun]
    rfl

/-- What the log promises of a record: a line is written whose strings hold no registered secret, nothing in
it depends on what stands under a sensitive key, and the caller's objects stay as they are. -/
structure SafeLine (py : Interpreter) (redactor : Redactor) (heap : Heap) (record : LogRecord StoredValue)
    (shown : LogRecord LogValue) : Prop where
  written : ∃ line heap' doc, formatAt py redactor record heap = .ok (line, heap') ∧
    JsonDecoder.loads py.toInterpreter line = .ok doc ∧ redactor.ClearDocument doc
  hidden : ∀ {D heap' record' shown'}, RecordShows D heap' record' shown' →
    hide py py.nestingLimit (payloadValue py shown') = hide py py.nestingLimit (payloadValue py shown) →
    (formatAt py redactor record' heap').map Prod.fst = (formatAt py redactor record heap).map Prod.fst
  unchanged : ∀ line heap', formatAt py redactor record heap = .ok (line, heap') → heap <+: heap'

theorem loads_of_emits {v : LogValue} {doc : JsonValue} (h : Emits py redactor py.nestingLimit v doc) :
    JsonDecoder.loads py.toInterpreter (dumps py.floatRepr doc) = .ok (reread py.floatRead doc) :=
  loads_dumps py.floats_read (readable_of_emits h)

theorem clearDocument_reread_iff {doc : JsonValue} :
    redactor.ClearDocument (reread py.floatRead doc) ↔ redactor.ClearDocument doc := by
  simp only [Redactor.ClearDocument, hasString_reread_iff]

theorem SafeLine.of_payload (hapart : redactor.ApartFromMarker) {record : LogRecord StoredValue}
    {shown : LogRecord LogValue} (h : RecordShows D heap record shown)
    (hloggable : Loggable py py.nestingLimit (payloadValue py shown))
    (hshows : ShowsNoSecret py redactor py.nestingLimit (payloadValue py shown)) :
    SafeLine py redactor heap record shown := by
  obtain ⟨document, hemits⟩ := loggable_iff.1 hloggable
  have hfollows := formatAt_follows py redactor h
  rw [format_eq_ok_iff.2 ⟨document, hemits, rfl⟩] at hfollows
  obtain ⟨line, heap', hrun, hheap, rfl⟩ := hfollows
  refine ⟨⟨_, heap', reread py.floatRead document, hrun, loads_of_emits hemits, ?_⟩, ?_, ?_⟩
  · exact clearDocument_reread_iff.2 ((clearDocument_iff hapart hemits).2 hshows)
  · intro D' heap₂ record' shown' h' hhide
    rw [map_fst_formatAt py redactor h', map_fst_formatAt py redactor h, format_eq_of_hide_eq hhide]
  · intro line' heap'' hrun'
    rw [hrun] at hrun'
    cases hrun'
    exact hheap

theorem SafeLine.loggable_and_shows (hapart : redactor.ApartFromMarker) {record : LogRecord StoredValue}
    {shown : LogRecord LogValue} (h : RecordShows D heap record shown)
    (hsafe : SafeLine py redactor heap record shown) :
    Loggable py py.nestingLimit (payloadValue py shown) ∧
      ShowsNoSecret py redactor py.nestingLimit (payloadValue py shown) := by
  obtain ⟨line, heap', doc, hrun, hloads, hclear⟩ := hsafe.written
  have hline := map_fst_formatAt py redactor h
  rw [hrun] at hline
  obtain ⟨document, hemits, rfl⟩ := format_eq_ok_iff.1 hline.symm
  rw [loads_of_emits hemits] at hloads
  rw [← Except.ok.inj hloads, clearDocument_reread_iff, clearDocument_iff hapart hemits] at hclear
  exact ⟨loggable_iff.2 ⟨document, hemits⟩, hclear⟩

/-- **A record is logged safely just when its payload can be written and shows no secret.** -/
theorem safeLine_iff (hapart : redactor.ApartFromMarker) {record : LogRecord StoredValue}
    {shown : LogRecord LogValue} (h : RecordShows D heap record shown) :
    SafeLine py redactor heap record shown ↔
      Loggable py py.nestingLimit (payloadValue py shown) ∧
        ShowsNoSecret py redactor py.nestingLimit (payloadValue py shown) := by
  constructor
  · intro hsafe
    exact hsafe.loggable_and_shows hapart h
  · rintro ⟨hloggable, hshows⟩
    exact .of_payload hapart h hloggable hshows

end Format

/-! ## Two records -/

section Records

/-- An interpreter without a limit on digits, for records without floats and sets. -/
def plainInterpreter : Interpreter where
  nestingLimit := 4
  intMaxStrDigits := 0
  logRecordAttrs := ["name".toList, "msg".toList, "args".toList, "levelname".toList, "exc_info".toList]
  isWord c := c.isAlphanum || c = '_'
  floatRepr _ := "0.0".toList
  floatRead _ := Double.ofRat 0
  floats_read := readsBack_zero
  repr _ := .ok []
  repr_ok_iff _ := ⟨fun _ _ _ => .inl rfl, fun _ => ⟨[], rfl⟩⟩

/-- A redactor that knows one secret. -/
def plainRedactor : Redactor := .ofValues ["hunter2".toList]

/-- The caller's objects: what the fields of the records refer to. -/
def plainHeap : Heap :=
  [.list [.str "hunter2".toList], .mapping [(.str "hunter2".toList, .atom ⟨.int 1, rfl⟩)], .frozenset [.ref 3],
    .frozenset []]

/-- A record with one field of the caller's. -/
def plainRecord (key : Text) (value : α) : LogRecord α where
  created := 0
  levelname := "INFO".toList
  name := "agent".toList
  message := "login with hunter2".toList
  attributes := OrderedDict.empty.set key value

theorem plainRedactor_apart : plainRedactor.ApartFromMarker := by
  intro secret hsecret
  have hknown : secret = "hunter2".toList := by
    have hliterals : plainRedactor.secretLiterals = ["hunter2".toList] := by decide +kernel
    rw [hliterals] at hsecret
    exact List.mem_singleton.1 hsecret
  have hall : ("hunter2".toList.all fun c => !REDACTED.contains c) = true := by decide
  rw [hknown]
  refine not_overlaps_of_disjoint (b := REDACTED) (by decide) (by decide) fun c hc hmem => ?_
  simpa [hmem] using List.all_eq_true.1 hall c hc

theorem plainRecord_shows {D : ℕ} {heap : Heap} {key : Text} {v : StoredValue} {tree : LogValue}
    (h : Shows D heap v tree) : RecordShows D heap (plainRecord key v) (plainRecord key tree) := by
  have hempty : FieldsShow D heap OrderedDict.empty OrderedDict.empty := .nil
  exact ⟨rfl, rfl, rfl, rfl, hempty.set key h⟩

theorem mem_corePayload {α : Type} {str : Text → α} {record : LogRecord α} {field : Text × α}
    (h : field ∈ (corePayload str record).entries) : field.1 ∈ coreFields ∧ ∃ text, field.2 = str text := by
  rw [corePayload, OrderedDict.mem_entries_set] at h
  simp only [OrderedDict.mem_entries_set] at h
  have hempty : field ∉ (OrderedDict.empty : OrderedDict Text α).entries := List.not_mem_nil
  rcases h with ⟨⟨⟨⟨h, -⟩ | rfl, -⟩ | rfl, -⟩ | rfl, -⟩ | rfl
  · exact absurd h hempty
  · exact ⟨by simp [coreFields], _, rfl⟩
  · exact ⟨by simp [coreFields], _, rfl⟩
  · exact ⟨by simp [coreFields], _, rfl⟩
  · exact ⟨by simp [coreFields], _, rfl⟩

/-- The entries of a record with one field of the caller's: texts under the core names, and the field. -/
theorem mem_payload_plainRecord {key : Text} {tree : LogValue} (hkey : key ∉ reservedRecordAttrs plainInterpreter)
    (hprivate : "_".toList.isPrefixOf key = false) {entry : LogValue × LogValue} :
    entry ∈ textEntries (payload plainInterpreter .str (plainRecord key tree)) ↔
      entry = (.str key, tree) ∨
        ∃ field ∈ (corePayload LogValue.str (plainRecord key tree)).entries, field.1 ≠ key ∧
          entry = (.str field.1, field.2) := by
  have hattributes : (plainRecord key tree).attributes.entries = [(key, tree)] :=
    OrderedDict.entries_set_of_not_mem (by simp [OrderedDict.empty])
  have hfield : addField plainInterpreter (corePayload LogValue.str (plainRecord key tree)) (key, tree) =
      (corePayload LogValue.str (plainRecord key tree)).set key tree := by
    rw [addField, if_neg (by rw [hprivate]; simpa using hkey)]
  rw [textEntries, payload, hattributes, List.foldl_cons, List.foldl_nil, hfield, List.mem_map]
  constructor
  · rintro ⟨field, hmem, rfl⟩
    rcases OrderedDict.mem_entries_set.1 hmem with ⟨hcore, hne⟩ | rfl
    · exact Or.inr ⟨field, hcore, hne, rfl⟩
    · exact Or.inl rfl
  · rintro (rfl | ⟨field, hcore, hne, rfl⟩)
    · exact ⟨(key, tree), OrderedDict.mem_entries_set.2 (Or.inr rfl), rfl⟩
    · exact ⟨field, OrderedDict.mem_entries_set.2 (Or.inl ⟨hcore, hne⟩), rfl⟩

/-- A record is written when its field is. -/
theorem loggable_plainRecord {key : Text} {tree : LogValue} (hkey : key ∉ reservedRecordAttrs plainInterpreter)
    (hprivate : "_".toList.isPrefixOf key = false)
    (h : isSensitiveKey key = true ∨ Loggable plainInterpreter 3 tree) :
    Loggable plainInterpreter plainInterpreter.nestingLimit (payloadValue plainInterpreter (plainRecord key tree)) := by
  have hnesting : plainInterpreter.nestingLimit = 3 + 1 := rfl
  rw [payloadValue, hnesting, Loggable]
  intro entry hentry
  rcases (mem_payload_plainRecord hkey hprivate).1 hentry with rfl | ⟨⟨name, v⟩, hcore, -, rfl⟩
  · exact ⟨trivial, h.imp (fun hsensitive => ⟨key, rfl, hsensitive⟩) id⟩
  · obtain ⟨-, text, htext⟩ := mem_corePayload hcore
    cases htext
    exact ⟨trivial, Or.inr trivial⟩

theorem plainRedactor_no_trailing_blank : ∀ secret ∈ plainRedactor.secretLiterals, secret.getLast? ≠ some ' ' := by
  decide +kernel

theorem noSecret_of_check {name : Text}
    (h : (plainRedactor.secretLiterals.all fun secret => !decide (secret <:+: name)) = true) :
    plainRedactor.NoSecret name := by
  intro secret hsecret hinside
  have hnot := List.all_eq_true.1 h secret hsecret
  simp [hinside] at hnot

theorem noSecret_coreFields {name : Text} (h : name ∈ coreFields) : plainRedactor.NoSecret name := by
  have hclear : (coreFields.all fun name => plainRedactor.secretLiterals.all fun secret =>
      !decide (secret <:+: name)) = true := by decide +kernel
  exact noSecret_of_check (List.all_eq_true.1 hclear name h)

/-- A record shows no secret when its field does not. -/
theorem showsNoSecret_plainRecord {key : Text} {tree : LogValue} (hkey : key ∉ reservedRecordAttrs plainInterpreter)
    (hprivate : "_".toList.isPrefixOf key = false) (hname : plainRedactor.NoSecret key)
    (h : isSensitiveKey key = true ∨ ShowsNoSecret plainInterpreter plainRedactor 3 tree) :
    ShowsNoSecret plainInterpreter plainRedactor plainInterpreter.nestingLimit
      (payloadValue plainInterpreter (plainRecord key tree)) := by
  have hnesting : plainInterpreter.nestingLimit = 3 + 1 := rfl
  rw [payloadValue, hnesting, ShowsNoSecret]
  intro entry hentry
  rcases (mem_payload_plainRecord hkey hprivate).1 hentry with rfl | ⟨⟨name, v⟩, hcore, -, rfl⟩
  · refine ⟨?_, h.imp (fun hsensitive => ⟨key, rfl, hsensitive⟩) id⟩
    rintro name hkeyText
    cases hkeyText
    exact hname
  · obtain ⟨hfield, text, htext⟩ := mem_corePayload hcore
    cases htext
    refine ⟨?_, Or.inr (gapFree_of_no_trailing_blank plainRedactor_no_trailing_blank text)⟩
    rintro name' hkeyText
    cases hkeyText
    exact noSecret_coreFields hfield

/-- A secret in a message and under a sensitive key. -/
theorem safeLine_password :
    SafeLine plainInterpreter plainRedactor plainHeap (plainRecord "password".toList (.ref 0))
      (plainRecord "password".toList (.list [.str "hunter2".toList])) := by
  have hkey : "password".toList ∉ reservedRecordAttrs plainInterpreter := by decide +kernel
  have hprivate : "_".toList.isPrefixOf "password".toList = false := by decide
  have hsensitive : isSensitiveKey "password".toList = true := by decide +kernel
  have hview : Shows 1 plainHeap (.ref 0) (.list [.str "hunter2".toList]) := rfl
  exact (safeLine_iff plainRedactor_apart (plainRecord_shows hview)).2
    ⟨loggable_plainRecord hkey hprivate (Or.inl hsensitive),
      showsNoSecret_plainRecord hkey hprivate (noSecret_of_check (by decide +kernel)) (Or.inl hsensitive)⟩

theorem mem_textEntries_plainRecord {key : Text} (tree : LogValue)
    (hkey : key ∉ reservedRecordAttrs plainInterpreter) (hprivate : "_".toList.isPrefixOf key = false) :
    (LogValue.str key, tree) ∈ textEntries (payload plainInterpreter .str (plainRecord key tree)) :=
  (mem_payload_plainRecord hkey hprivate).2 (Or.inl rfl)

theorem not_isSensitive_str {key : Text} (h : isSensitiveKey key = false) : ¬ IsSensitive plainInterpreter (.str key) := by
  rintro ⟨text, htext, hsensitive⟩
  cases htext
  rw [h] at hsensitive
  cases hsensitive

/-- A secret that is the key of a mapping is shown, and a set of sets is not written. -/
theorem unsafeLine_key :
    ¬ SafeLine plainInterpreter plainRedactor plainHeap (plainRecord "labels".toList (.ref 1))
        (plainRecord "labels".toList (.mapping [(.str "hunter2".toList, .int 1)])) ∧
      ¬ SafeLine plainInterpreter plainRedactor plainHeap (plainRecord "labels".toList (.ref 2))
        (plainRecord "labels".toList (.frozenset [.frozenset []])) := by
  have hkey : "labels".toList ∉ reservedRecordAttrs plainInterpreter := by decide +kernel
  have hprivate : "_".toList.isPrefixOf "labels".toList = false := by decide
  have hplain : ¬ IsSensitive plainInterpreter (.str "labels".toList) := not_isSensitive_str (by decide +kernel)
  have hnesting : plainInterpreter.nestingLimit = 3 + 1 := rfl
  constructor
  · intro hsafe
    have hview : Shows 2 plainHeap (.ref 1) (.mapping [(.str "hunter2".toList, .int 1)]) := rfl
    have hshows := (hsafe.loggable_and_shows plainRedactor_apart (plainRecord_shows hview)).2
    rw [payloadValue, hnesting, ShowsNoSecret] at hshows
    have hfield := (hshows _ (mem_textEntries_plainRecord _ hkey hprivate)).2.resolve_left hplain
    have hname := (hfield _ List.mem_cons_self).1 "hunter2".toList rfl
    exact hname "hunter2".toList (by decide +kernel) (List.infix_refl _)
  · intro hsafe
    have hview : Shows 2 plainHeap (.ref 2) (.frozenset [.frozenset []]) := rfl
    have hloggable := (hsafe.loggable_and_shows plainRedactor_apart (plainRecord_shows hview)).1
    rw [payloadValue, hnesting, Loggable] at hloggable
    have hfield := (hloggable _ (mem_textEntries_plainRecord _ hkey hprivate)).2.resolve_left hplain
    exact hfield _ List.mem_cons_self

end Records

end WeaponDetection.Agent.Logging
