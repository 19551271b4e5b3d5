import Mathlib.Data.List.Nodup
import Mathlib.Data.List.Basic

/-!
# Tables with a primary key

A relational table: its rows in insertion order, no two of them under the same primary key.  The
uniqueness is a field of the structure, so a table that violates its key constraint cannot be
built; `insert` is partial (`none` is the constraint violation) and `update` takes the proof that
the assignment leaves the key column alone.
-/

namespace WeaponDetection.Foundations

/-- The rows of a table, unique under `key`. -/
structure KeyedTable {Row Key : Type*} (key : Row → Key) where
  /-- The rows, oldest insertion first. -/
  rows : List Row
  /-- The primary key constraint. -/
  nodup : (rows.map key).Nodup

namespace KeyedTable

variable {Row Key : Type*} {key : Row → Key}

/-- The empty table. -/
def empty : KeyedTable key := ⟨[], List.nodup_nil⟩

instance : Membership Row (KeyedTable key) := ⟨fun t r => r ∈ t.rows⟩

@[simp] theorem mem_rows {t : KeyedTable key} {r : Row} : r ∈ t.rows ↔ r ∈ t := Iff.rfl

@[simp] theorem not_mem_empty (r : Row) : r ∉ (empty : KeyedTable key) := List.not_mem_nil

instance [DecidableEq Row] (t : KeyedTable key) (r : Row) : Decidable (r ∈ t) :=
  inferInstanceAs (Decidable (r ∈ t.rows))

theorem ext_rows {t t' : KeyedTable key} (h : t.rows = t'.rows) : t = t' := by
  cases t
  cases t'
  simpa using h

/-- Two rows of one table under the same key are the same row. -/
theorem eq_of_key_eq {t : KeyedTable key} {r r' : Row} (hr : r ∈ t) (hr' : r' ∈ t)
    (h : key r = key r') : r = r' :=
  List.inj_on_of_nodup_map t.nodup hr hr' h

/-! ## Look-up by primary key -/

section Lookup

variable [DecidableEq Key]

/-- The row under a key. -/
def find? (t : KeyedTable key) (k : Key) : Option Row := t.rows.find? fun r => decide (key r = k)

theorem find?_eq_some_iff {t : KeyedTable key} {k : Key} {r : Row} :
    t.find? k = some r ↔ r ∈ t ∧ key r = k := by
  constructor
  · intro h
    exact ⟨List.mem_of_find?_eq_some h, by simpa using List.find?_some h⟩
  · rintro ⟨hr, rfl⟩
    have hsome : (t.find? (key r)).isSome := by
      simpa [find?] using ⟨r, hr, rfl⟩
    obtain ⟨r', hr'⟩ := Option.isSome_iff_exists.mp hsome
    have hkey : key r' = key r := by simpa using List.find?_some hr'
    rw [hr', eq_of_key_eq (List.mem_of_find?_eq_some hr') hr hkey]

theorem find?_eq_none_iff {t : KeyedTable key} {k : Key} :
    t.find? k = none ↔ ∀ r ∈ t, key r ≠ k := by
  simp [find?]

/-! ## Insertion -/

/-- `INSERT`: `none` when a row under the same key exists. -/
def insert (t : KeyedTable key) (r : Row) : Option (KeyedTable key) :=
  if h : key r ∈ t.rows.map key then none
  else some ⟨t.rows ++ [r], by
    rw [List.map_append, List.nodup_append]
    exact ⟨t.nodup, List.nodup_singleton _, fun a ha b hb hab =>
      h (by rw [List.map_cons, List.map_nil, List.mem_singleton] at hb; exact hb ▸ hab ▸ ha)⟩⟩

theorem insert_eq_none_iff {t : KeyedTable key} {r : Row} :
    t.insert r = none ↔ ∃ r' ∈ t, key r' = key r := by
  unfold insert
  split
  · rename_i h
    exact iff_of_true rfl (List.mem_map.mp h)
  · rename_i h
    exact iff_of_false (by simp) fun hex => h (List.mem_map.mpr hex)

theorem insert_eq_some_iff {t t' : KeyedTable key} {r : Row} :
    t.insert r = some t' ↔ (∀ r' ∈ t, key r' ≠ key r) ∧ t'.rows = t.rows ++ [r] := by
  unfold insert
  split
  · rename_i h
    obtain ⟨r', hr', hkey⟩ := List.mem_map.mp h
    simp only [reduceCtorEq, false_iff, not_and]
    exact fun hfresh => absurd hkey (hfresh r' hr')
  · rename_i h
    rw [List.mem_map, not_exists] at h
    simp only [Option.some.injEq]
    constructor
    · rintro rfl
      exact ⟨fun r' hr' hkey => h r' ⟨hr', hkey⟩, rfl⟩
    · rintro ⟨-, hrows⟩
      exact ext_rows hrows.symm

theorem mem_of_insert {t t' : KeyedTable key} {r : Row} (h : t.insert r = some t') {x : Row} :
    x ∈ t' ↔ x ∈ t ∨ x = r := by
  rw [← mem_rows, (insert_eq_some_iff.mp h).2, List.mem_append, List.mem_singleton, mem_rows]

/-- Look-ups after an insertion. -/
theorem find?_of_insert {t t' : KeyedTable key} {r : Row} (h : t.insert r = some t') (k : Key) :
    t'.find? k = if key r = k then some r else t.find? k := by
  by_cases hk : key r = k
  · rw [if_pos hk, find?_eq_some_iff, mem_of_insert h]
    exact ⟨.inr rfl, hk⟩
  · rw [if_neg hk, find?, (insert_eq_some_iff.mp h).2, List.find?_append]
    simp [find?, hk]

end Lookup

/-! ## Updates that keep the key -/

/-- `UPDATE … SET …`: an assignment that does not touch the key column, on every row. -/
def update (t : KeyedTable key) (f : Row → Row) (hf : ∀ r, key (f r) = key r) :
    KeyedTable key :=
  ⟨t.rows.map f, by
    rw [List.map_map, show key ∘ f = key from funext hf]
    exact t.nodup⟩

@[simp] theorem rows_update (t : KeyedTable key) (f : Row → Row) (hf : ∀ r, key (f r) = key r) :
    (t.update f hf).rows = t.rows.map f := rfl

@[simp] theorem mem_update {t : KeyedTable key} {f : Row → Row}
    {hf : ∀ r, key (f r) = key r} {x : Row} : x ∈ t.update f hf ↔ ∃ r ∈ t, f r = x := by
  rw [← mem_rows, rows_update, List.mem_map]
  rfl

theorem find?_update [DecidableEq Key] (t : KeyedTable key) (f : Row → Row)
    (hf : ∀ r, key (f r) = key r) (k : Key) :
    (t.update f hf).find? k = (t.find? k).map f := by
  unfold find?
  rw [rows_update, List.find?_map]
  congr 2
  funext r
  simp [hf]

end KeyedTable

end WeaponDetection.Foundations
