import WeaponDetection.Foundations.Substring

/-!
# Masking a pattern

`replaceAll pattern marker text` is `text.replace(pattern, marker)` for a pattern that is not empty.  A
pattern that overlaps the marker nowhere is gone afterwards, and no other such pattern comes into being
(`not_infix_replaceAll`, `not_infix_replaceAll_of_absent`).
-/

namespace WeaponDetection.Foundations

variable {α : Type*}

/-- In some text an occurrence of the one shares an element with an occurrence of the other. -/
def Overlaps (a b : List α) : Prop :=
  ∃ p x q y, p ++ a ++ x = q ++ b ++ y ∧ p.length < q.length + b.length ∧ q.length < p.length + a.length

/-- What overlaps the marker nowhere lies on one side of it. -/
theorem infix_marker_iff {pattern marker before after : List α} (h : ¬ Overlaps pattern marker) (hne : pattern ≠ []) :
    pattern <:+: before ++ marker ++ after ↔ pattern <:+: before ∨ pattern <:+: after := by
  have hpos := List.length_pos_of_ne_nil hne
  constructor
  · rintro ⟨p, x, heq⟩
    have hapart : before.length + marker.length ≤ p.length ∨ p.length + pattern.length ≤ before.length := by
      by_contra hcon
      exact h ⟨p, x, before, after, heq, by omega, by omega⟩
    rcases hapart with hright | hleft
    · -- the occurrence begins behind the marker
      right
      have hdrop := congrArg (List.drop (before ++ marker).length) heq
      rw [List.drop_left, List.append_assoc, List.drop_append_of_le_length
        (by rw [List.length_append]; exact hright)] at hdrop
      exact ⟨_, x, by rw [List.append_assoc]; exact hdrop⟩
    · -- the occurrence ends before the marker
      left
      have htake := congrArg (List.take before.length) heq
      rw [List.append_assoc before, List.take_left, List.take_append, List.take_of_length_le
        (by rw [List.length_append]; exact hleft)] at htake
      exact ⟨p, _, htake⟩
  · rintro (hleft | hright)
    · exact (hleft.trans (List.infix_append_left)).trans List.infix_append_left
    · exact hright.trans List.infix_append_right

theorem getElem?_middle {p a x : List α} {i : ℕ} (hlo : p.length ≤ i) (hhi : i < p.length + a.length) :
    ∃ c ∈ a, (p ++ a ++ x)[i]? = some c := by
  have hlt : i - p.length < a.length := by omega
  refine ⟨a[i - p.length], List.getElem_mem hlt, ?_⟩
  rw [List.append_assoc, List.getElem?_append_right hlo, List.getElem?_append_left hlt, List.getElem?_eq_getElem hlt]

/-- Lists without a common element do not overlap. -/
theorem not_overlaps_of_disjoint {a b : List α} (ha : a ≠ []) (hb : b ≠ []) (h : ∀ c ∈ a, c ∉ b) : ¬ Overlaps a b := by
  rintro ⟨p, x, q, y, heq, hleft, hright⟩
  have hapos := List.length_pos_of_ne_nil ha
  have hbpos := List.length_pos_of_ne_nil hb
  -- the first element both of them cover
  obtain ⟨c, hca, hc⟩ := getElem?_middle (x := x) (le_max_left p.length q.length) (by omega : _ < p.length + a.length)
  obtain ⟨d, hdb, hd⟩ := getElem?_middle (x := y) (le_max_right p.length q.length) (by omega : _ < q.length + b.length)
  rw [heq, hd] at hc
  obtain rfl := Option.some.inj hc
  exact h _ hca hdb
section Replace

variable [DecidableEq α] {pattern marker : List α}

/-- `text.replace(pattern, marker)`: leftmost, non-overlapping.  `skip` counts the elements of a match
still to drop. -/
def replaceFrom (pattern marker : List α) : ℕ → List α → List α
  | _, [] => []
  | skip + 1, _ :: rest => replaceFrom pattern marker skip rest
  | 0, c :: rest =>
    if pattern <+: c :: rest then marker ++ replaceFrom pattern marker (pattern.length - 1) rest
    else c :: replaceFrom pattern marker 0 rest

/-- `text.replace(pattern, marker)`. -/
def replaceAll (pattern marker text : List α) : List α := replaceFrom pattern marker 0 text

theorem replaceFrom_drop (skip : ℕ) (text : List α) :
    replaceFrom pattern marker skip text = replaceAll pattern marker (text.drop skip) := by
  induction text generalizing skip with
  | nil => cases skip <;> rfl
  | cons c rest ih =>
    cases skip with
    | zero => rfl
    | succ skip => exact ih skip

/-- A text without the pattern is left as it is. -/
theorem replaceAll_of_absent {text : List α} (h : ¬ pattern <:+: text) : replaceAll pattern marker text = text := by
  induction text with
  | nil => rfl
  | cons c rest ih =>
    rw [List.infix_cons_iff, not_or] at h
    have hrest : replaceFrom pattern marker 0 rest = rest := ih h.2
    rw [replaceAll, replaceFrom, if_neg h.1, hrest]

/-- The first occurrence is replaced and the rest goes on behind it. -/
theorem replaceAll_append (hne : pattern ≠ []) {p x : List α} (h : NoneBefore pattern p) :
    replaceAll pattern marker (p ++ pattern ++ x) = p ++ marker ++ replaceAll pattern marker x := by
  induction p with
  | nil =>
    obtain ⟨c, rest, hpattern⟩ := List.exists_cons_of_ne_nil hne
    have hstart : pattern <+: c :: (rest ++ x) := ⟨x, by rw [hpattern]; rfl⟩
    have hlength : pattern.length - 1 = rest.length := by simp [hpattern]
    have htext : [] ++ pattern ++ x = c :: (rest ++ x) := by simp [hpattern]
    rw [htext, replaceAll, replaceFrom, if_pos hstart, hlength, replaceFrom_drop, List.drop_left]
    rfl
  | cons c p ih =>
    have hfirst : ¬ pattern <+: c :: (p ++ pattern ++ x) := fun hstart =>
      h 0 (Nat.zero_lt_succ _) ((prefix_drop_iff (Nat.zero_lt_succ _)).mp hstart)
    have hrest := ih (NoneBefore.of_append (q := [c]) h)
    rw [replaceAll] at hrest
    rw [List.cons_append, List.cons_append, replaceAll, replaceFrom, if_neg hfirst, hrest]
    rfl

omit [DecidableEq α] in
theorem NoneBefore.not_infix (hne : pattern ≠ []) {p : List α} (h : NoneBefore pattern p) : ¬ pattern <:+: p := by
  rintro ⟨s, t, rfl⟩
  have hpos := List.length_pos_of_ne_nil hne
  refine h s.length (by simp only [List.length_append]; omega) ?_
  rw [List.append_assoc, List.append_assoc, List.drop_left]
  exact List.prefix_append _ _

/-- **A pattern that does not overlap the marker is gone.** -/
theorem not_infix_replaceAll (hne : pattern ≠ []) (h : ¬ Overlaps pattern marker) (text : List α) :
    ¬ pattern <:+: replaceAll pattern marker text := by
  induction hn : text.length using Nat.strongRecOn generalizing text with
  | ind n ih =>
    by_cases hfix : pattern <:+: text
    · obtain ⟨p, x, rfl, hp⟩ := exists_of_infix hfix
      have hpos := List.length_pos_of_ne_nil hne
      rw [replaceAll_append hne hp, infix_marker_iff h hne]
      rintro (hleft | hright)
      · exact hp.not_infix hne hleft
      · refine ih x.length ?_ x rfl hright
        simp only [List.length_append] at hn
        omega
    · rwa [replaceAll_of_absent hfix]

/-- **Nor does another such pattern come into being.** -/
theorem not_infix_replaceAll_of_absent (hne : pattern ≠ []) {other : List α} (hother : other ≠ [])
    (h : ¬ Overlaps other marker) {text : List α} (htext : ¬ other <:+: text) :
    ¬ other <:+: replaceAll pattern marker text := by
  induction hn : text.length using Nat.strongRecOn generalizing text with
  | ind n ih =>
    by_cases hfix : pattern <:+: text
    · obtain ⟨p, x, rfl, hp⟩ := exists_of_infix hfix
      have hpos := List.length_pos_of_ne_nil hne
      rw [replaceAll_append hne hp, infix_marker_iff h hother]
      rintro (hleft | hright)
      · exact htext ((hleft.trans List.infix_append_left).trans List.infix_append_left)
      · refine ih x.length ?_ (fun hx => htext (hx.trans List.infix_append_right)) rfl hright
        simp only [List.length_append] at hn
        omega
    · rwa [replaceAll_of_absent hfix]

end Replace

end WeaponDetection.Foundations
