import Mathlib.Data.List.Nodup
import Mathlib.Data.List.Basic
import Mathlib.Data.List.Induction

/-!
# Ordered dictionaries

A dictionary that remembers the order of its keys, oldest first: assignment keeps the position of an
existing key, `moveToEnd` makes a key the newest, `popFirst` drops the oldest.  Keys are unique by a
field of the structure.

The lemmas describe every operation by its entries, so that two dictionaries kept in lockstep (an
index and what it indexes) can be compared entry by entry.
-/

namespace WeaponDetection.Foundations

/-- The entries of a dictionary, oldest first, with unique keys. -/
structure OrderedDict (K V : Type*) where
  /-- The entries, oldest first. -/
  entries : List (K × V)
  /-- No key occurs twice. -/
  nodup : (entries.map Prod.fst).Nodup

namespace OrderedDict

variable {K V : Type*}

/-- The empty dictionary. -/
def empty : OrderedDict K V := ⟨[], List.nodup_nil⟩

theorem ext_entries {d d' : OrderedDict K V} (h : d.entries = d'.entries) : d = d' := by
  cases d
  cases d'
  simpa using h

theorem value_unique {d : OrderedDict K V} {k : K} {v v' : V} (h : (k, v) ∈ d.entries)
    (h' : (k, v') ∈ d.entries) : v = v' :=
  (Prod.mk.inj (List.inj_on_of_nodup_map d.nodup h h' rfl)).2

theorem nodup_entries (d : OrderedDict K V) : d.entries.Nodup := .of_map _ d.nodup

/-- Keep the entries that satisfy a test. -/
def filter (d : OrderedDict K V) (p : K × V → Bool) : OrderedDict K V :=
  ⟨d.entries.filter p, d.nodup.sublist (List.filter_sublist.map _)⟩

/-- Drop the oldest entry: `popitem(last=False)`. -/
def popFirst (d : OrderedDict K V) : OrderedDict K V :=
  ⟨d.entries.tail, d.nodup.sublist ((List.tail_sublist _).map _)⟩

section Keys

variable [DecidableEq K]

/-- `d.get(key)`. -/
def get? (d : OrderedDict K V) (k : K) : Option V :=
  (d.entries.find? fun e => decide (e.1 = k)).map Prod.snd

/-- `d.pop(key, None)`. -/
def pop (d : OrderedDict K V) (k : K) : OrderedDict K V := d.filter fun e => decide (e.1 ≠ k)

/-- `d[key] = value`: in place for an existing key, at the end for a new one. -/
def set (d : OrderedDict K V) (k : K) (v : V) : OrderedDict K V :=
  if h : k ∈ d.entries.map Prod.fst then
    ⟨d.entries.map fun e => if e.1 = k then (k, v) else e, by
      have hkeys : (d.entries.map fun e => if e.1 = k then (k, v) else e).map Prod.fst =
          d.entries.map Prod.fst := by
        rw [List.map_map]
        refine List.map_congr_left fun e _ => ?_
        by_cases he : e.1 = k <;> simp [he]
      rw [hkeys]
      exact d.nodup⟩
  else
    ⟨d.entries ++ [(k, v)], by
      rw [List.map_append, List.nodup_append]
      exact ⟨d.nodup, List.nodup_singleton _, fun a ha b hb hab => h (by
        rw [List.map_cons, List.map_nil, List.mem_singleton] at hb
        rw [hab, hb] at ha
        exact ha)⟩⟩

/-- `d.move_to_end(key)`. -/
def moveToEnd (d : OrderedDict K V) (k : K) : OrderedDict K V :=
  match d.get? k with
  | some v => (d.pop k).set k v
  | none => d

theorem get?_eq_some_iff {d : OrderedDict K V} {k : K} {v : V} :
    d.get? k = some v ↔ (k, v) ∈ d.entries := by
  unfold get?
  rw [Option.map_eq_some_iff]
  constructor
  · rintro ⟨⟨k', v'⟩, hfind, rfl⟩
    have hk : k' = k := by simpa using List.find?_some hfind
    exact hk ▸ List.mem_of_find?_eq_some hfind
  · intro hmem
    have hsome : (d.entries.find? fun e => decide (e.1 = k)).isSome := by
      simpa using ⟨v, hmem⟩
    obtain ⟨⟨k', v'⟩, hfind⟩ := Option.isSome_iff_exists.mp hsome
    have hk : k' = k := by simpa using List.find?_some hfind
    subst hk
    exact ⟨_, hfind, value_unique (List.mem_of_find?_eq_some hfind) hmem⟩

theorem get?_eq_none_iff {d : OrderedDict K V} {k : K} :
    d.get? k = none ↔ k ∉ d.entries.map Prod.fst := by
  rw [← not_iff_not, not_not, ← ne_eq, Option.ne_none_iff_exists']
  constructor
  · rintro ⟨v, hv⟩
    exact List.mem_map.mpr ⟨_, get?_eq_some_iff.mp hv, rfl⟩
  · intro h
    obtain ⟨⟨k', v⟩, hmem, rfl⟩ := List.mem_map.mp h
    exact ⟨v, get?_eq_some_iff.mpr hmem⟩

@[simp] theorem mem_entries_pop {d : OrderedDict K V} {k : K} {e : K × V} :
    e ∈ (d.pop k).entries ↔ e ∈ d.entries ∧ e.1 ≠ k := by
  simp [pop, filter]

theorem entries_set_of_not_mem {d : OrderedDict K V} {k : K} {v : V}
    (h : k ∉ d.entries.map Prod.fst) : (d.set k v).entries = d.entries ++ [(k, v)] := by
  rw [set, dif_neg h]

theorem entries_set_of_mem {d : OrderedDict K V} {k : K} {v : V}
    (h : k ∈ d.entries.map Prod.fst) :
    (d.set k v).entries = d.entries.map fun e => if e.1 = k then (k, v) else e := by
  rw [set, dif_pos h]

theorem not_mem_keys_pop (d : OrderedDict K V) (k : K) :
    k ∉ (d.pop k).entries.map Prod.fst := by
  rw [List.mem_map]
  rintro ⟨e, he, rfl⟩
  exact (mem_entries_pop.mp he).2 rfl

theorem mem_entries_set {d : OrderedDict K V} {k : K} {v : V} {e : K × V} :
    e ∈ (d.set k v).entries ↔ (e ∈ d.entries ∧ e.1 ≠ k) ∨ e = (k, v) := by
  by_cases h : k ∈ d.entries.map Prod.fst
  · rw [entries_set_of_mem h, List.mem_map]
    constructor
    · rintro ⟨e', he', rfl⟩
      by_cases hk : e'.1 = k
      · exact .inr (if_pos hk)
      · rw [if_neg hk]
        exact .inl ⟨he', hk⟩
    · rintro (⟨he, hk⟩ | rfl)
      · exact ⟨e, he, if_neg hk⟩
      · obtain ⟨e', he', hk⟩ := List.mem_map.mp h
        exact ⟨e', he', if_pos hk⟩
  · rw [entries_set_of_not_mem h, List.mem_append, List.mem_singleton]
    refine or_congr_left (iff_self_and.mpr fun he hk => h ?_)
    exact List.mem_map.mpr ⟨e, he, hk⟩

/-- Assigning a key, up to the order of the entries. -/
theorem entries_set_perm (d : OrderedDict K V) (k : K) (v : V) :
    (d.set k v).entries.Perm ((k, v) :: (d.pop k).entries) := by
  have hnew : (k, v) ∉ (d.pop k).entries := fun h => (mem_entries_pop.mp h).2 rfl
  rw [List.perm_ext_iff_of_nodup (nodup_entries _) (List.nodup_cons.mpr ⟨hnew, nodup_entries _⟩)]
  intro e
  rw [mem_entries_set, List.mem_cons, mem_entries_pop, or_comm]

/-- Taking an entry out, up to the order of the entries. -/
theorem entries_pop_perm {d : OrderedDict K V} {k : K} {v : V} (h : d.get? k = some v) :
    d.entries.Perm ((k, v) :: (d.pop k).entries) := by
  have hnew : (k, v) ∉ (d.pop k).entries := fun h => (mem_entries_pop.mp h).2 rfl
  rw [List.perm_ext_iff_of_nodup (nodup_entries _) (List.nodup_cons.mpr ⟨hnew, nodup_entries _⟩)]
  intro e
  rw [List.mem_cons, mem_entries_pop]
  constructor
  · intro he
    by_cases hk : e.1 = k
    · have hv : e.2 = v := value_unique (hk ▸ he) (get?_eq_some_iff.mp h)
      exact .inl (Prod.ext hk hv)
    · exact .inr ⟨he, hk⟩
  · rintro (rfl | ⟨he, -⟩)
    · exact get?_eq_some_iff.mp h
    · exact he

/-- Assigning a key and making it the newest puts its entry last, over all others. -/
theorem entries_moveToEnd_set (d : OrderedDict K V) (k : K) (v : V) :
    ((d.set k v).moveToEnd k).entries = (d.pop k).entries ++ [(k, v)] := by
  have hget : (d.set k v).get? k = some v :=
    get?_eq_some_iff.mpr (mem_entries_set.mpr (.inr rfl))
  have hpop : (d.set k v).pop k = d.pop k := by
    refine ext_entries ?_
    by_cases h : k ∈ d.entries.map Prod.fst
    · simp only [pop, filter]
      rw [entries_set_of_mem h, List.filter_map]
      have hself : ∀ l : List (K × V), (∀ e ∈ l, e.1 ≠ k) →
          l.map (fun e => if e.1 = k then (k, v) else e) = l := fun l hl => by
        conv_rhs => rw [← List.map_id l]
        exact List.map_congr_left fun e he => if_neg (hl e he)
      rw [show (fun e : K × V => decide (e.1 ≠ k)) ∘ (fun e => if e.1 = k then (k, v) else e) =
          fun e => decide (e.1 ≠ k) from funext fun e => by
        by_cases he : e.1 = k <;> simp [he]]
      exact hself _ fun e he => by simpa using (List.mem_filter.mp he).2
    · simp only [pop, filter]
      rw [entries_set_of_not_mem h, List.filter_append]
      simp
  rw [moveToEnd, hget]
  simp only [hpop]
  exact entries_set_of_not_mem (not_mem_keys_pop d k)

@[simp] theorem get?_empty (k : K) : (empty : OrderedDict K V).get? k = none := rfl

theorem get?_set_self (d : OrderedDict K V) (k : K) (v : V) : (d.set k v).get? k = some v :=
  get?_eq_some_iff.mpr (mem_entries_set.mpr (.inr rfl))

theorem get?_set_of_ne (d : OrderedDict K V) {k k' : K} (v : V) (h : k' ≠ k) :
    (d.set k v).get? k' = d.get? k' := by
  refine Option.ext fun v' => ?_
  rw [get?_eq_some_iff, get?_eq_some_iff, mem_entries_set]
  constructor
  · rintro (⟨hmem, -⟩ | heq)
    · exact hmem
    · exact absurd (Prod.mk.inj heq).1 h
  · exact fun hmem => .inl ⟨hmem, h⟩

theorem get?_filter_of_key {d : OrderedDict K V} {p : K × V → Bool} {k : K} (h : ∀ v, p (k, v) = true) :
    (d.filter p).get? k = d.get? k := by
  refine Option.ext fun v => ?_
  rw [get?_eq_some_iff, get?_eq_some_iff, filter, List.mem_filter]
  exact and_iff_left (h v)

theorem get?_pop (d : OrderedDict K V) (k k' : K) :
    (d.pop k).get? k' = if k' = k then none else d.get? k' := by
  by_cases h : k' = k
  · rw [if_pos h, get?_eq_none_iff, h]
    exact not_mem_keys_pop d k
  · rw [if_neg h]
    exact get?_filter_of_key fun v => decide_eq_true h

theorem mem_keys_set {d : OrderedDict K V} {k k' : K} {v : V} :
    k' ∈ (d.set k v).entries.map Prod.fst ↔ k' ∈ d.entries.map Prod.fst ∨ k' = k := by
  rw [← not_iff_not, not_or, ← get?_eq_none_iff, ← get?_eq_none_iff]
  by_cases h : k' = k
  · simp [h, get?_set_self]
  · rw [get?_set_of_ne d v h]
    exact (and_iff_left h).symm

/-- Only the last of two assignments to one key counts. -/
theorem set_set (d : OrderedDict K V) (k : K) (v v' : V) : (d.set k v).set k v' = d.set k v' := by
  have hmem : k ∈ (d.set k v).entries.map Prod.fst := mem_keys_set.mpr (.inr rfl)
  refine ext_entries ?_
  rw [entries_set_of_mem hmem]
  by_cases h : k ∈ d.entries.map Prod.fst
  · rw [entries_set_of_mem h, entries_set_of_mem h, List.map_map]
    refine List.map_congr_left fun e _ => ?_
    by_cases he : e.1 = k <;> simp [he]
  · rw [entries_set_of_not_mem h, entries_set_of_not_mem h, List.map_append]
    congr 1
    · conv_rhs => rw [← List.map_id d.entries]
      refine List.map_congr_left fun e he => if_neg fun hk => h ?_
      exact List.mem_map.mpr ⟨e, he, hk⟩
    · simp

/-- Assigning the value a key has changes nothing. -/
theorem set_of_get? {d : OrderedDict K V} {k : K} {v : V} (h : d.get? k = some v) :
    d.set k v = d := by
  have hmem : (k, v) ∈ d.entries := get?_eq_some_iff.mp h
  refine ext_entries ?_
  rw [entries_set_of_mem (List.mem_map.mpr ⟨_, hmem, rfl⟩)]
  conv_rhs => rw [← List.map_id d.entries]
  refine List.map_congr_left fun e he => ?_
  split
  · next hk => rw [← hk, value_unique (hk ▸ hmem : (e.1, v) ∈ d.entries) he, id]
  · rfl

/-- `dict(entries)`. -/
def ofEntries (entries : List (K × V)) : OrderedDict K V :=
  entries.foldl (fun d e => d.set e.1 e.2) empty

theorem ofEntries_concat (entries : List (K × V)) (e : K × V) :
    ofEntries (entries ++ [e]) = (ofEntries entries).set e.1 e.2 := by
  rw [ofEntries, List.foldl_append]
  rfl

theorem mem_keys_ofEntries {entries : List (K × V)} {k : K} :
    k ∈ (ofEntries entries).entries.map Prod.fst ↔ k ∈ entries.map Prod.fst := by
  induction entries using List.reverseRecOn with
  | nil => exact Iff.rfl
  | append_singleton entries e ih =>
    rw [ofEntries_concat, mem_keys_set, ih, List.map_append, List.mem_append]
    simp

/-- Entries with distinct keys are the entries of their dictionary. -/
theorem entries_ofEntries {entries : List (K × V)} (h : (entries.map Prod.fst).Nodup) :
    (ofEntries entries).entries = entries := by
  induction entries using List.reverseRecOn with
  | nil => rfl
  | append_singleton entries e ih =>
    rw [List.map_append, List.nodup_append] at h
    have hfresh : e.1 ∉ (ofEntries entries).entries.map Prod.fst := by
      rw [mem_keys_ofEntries]
      intro hmem
      exact h.2.2 _ hmem _ (by simp) rfl
    rw [ofEntries_concat, entries_set_of_not_mem hfresh, ih h.1]

end Keys

section Map

variable {W : Type*}

/-- Apply a function to every value. -/
def map (f : V → W) (d : OrderedDict K V) : OrderedDict K W :=
  ⟨d.entries.map fun e => (e.1, f e.2), by simpa [Function.comp_def] using d.nodup⟩

@[simp] theorem keys_map (f : V → W) (d : OrderedDict K V) :
    (d.map f).entries.map Prod.fst = d.entries.map Prod.fst := by
  simp [map, Function.comp_def]

@[simp] theorem map_empty (f : V → W) : (empty : OrderedDict K V).map f = empty := rfl

theorem map_set [DecidableEq K] (f : V → W) (d : OrderedDict K V) (k : K) (v : V) :
    (d.set k v).map f = (d.map f).set k (f v) := by
  refine ext_entries ?_
  by_cases h : k ∈ d.entries.map Prod.fst
  · rw [entries_set_of_mem (by rwa [keys_map])]
    simp only [map, entries_set_of_mem h, List.map_map]
    refine List.map_congr_left fun e _ => ?_
    by_cases he : e.1 = k <;> simp [he]
  · rw [entries_set_of_not_mem (by rwa [keys_map])]
    simp [map, entries_set_of_not_mem h]

theorem get?_map [DecidableEq K] (f : V → W) (d : OrderedDict K V) (k : K) :
    (d.map f).get? k = (d.get? k).map f := by
  refine Option.ext fun w => ?_
  rw [get?_eq_some_iff, Option.map_eq_some_iff]
  simp only [map, List.mem_map, get?_eq_some_iff, Prod.mk.injEq]
  constructor
  · rintro ⟨e, hmem, rfl, rfl⟩
    exact ⟨e.2, hmem, rfl⟩
  · rintro ⟨v, hmem, rfl⟩
    exact ⟨_, hmem, rfl, rfl⟩

end Map

end OrderedDict

end WeaponDetection.Foundations
