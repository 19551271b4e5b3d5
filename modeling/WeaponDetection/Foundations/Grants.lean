import Mathlib.Data.List.Basic

/-!
# Grants that are closed

Rows are granted once under a key of their own and later closed.  The rows after a history of such events are the
granted ones, closed where the history says so (`mem_rowsAfter_iff`).
-/

namespace WeaponDetection.Foundations

/-- What happens to the rows. -/
inductive GrantEvent (Row Key : Type*) where
  | granted (row : Row)
  | closed (key : Key)
  deriving DecidableEq

section Grants

variable {Row Key : Type*} (key : Row → Key) (close : Row → Row)

/-- The row, closed if it is the one under the key. -/
def closeUnder [DecidableEq Key] (k : Key) (row : Row) : Row := if key row = k then close row else row

/-- The rows after a history, the last event first. -/
def rowsAfter [DecidableEq Key] : List (GrantEvent Row Key) → List Row
  | [] => []
  | .granted row :: older => rowsAfter older ++ [row]
  | .closed k :: older => (rowsAfter older).map (closeUnder key close k)

/-- Each key was granted once, and closed only after that. -/
inductive LawfulGrants : List (GrantEvent Row Key) → Prop where
  | nil : LawfulGrants []
  | granted {row : Row} {older : List (GrantEvent Row Key)} : LawfulGrants older →
      (∀ other, .granted other ∈ older → key other ≠ key row) → LawfulGrants (.granted row :: older)
  | closed {row : Row} {k : Key} {older : List (GrantEvent Row Key)} : LawfulGrants older → .granted row ∈ older →
      key row = k → LawfulGrants (.closed k :: older)

variable {key close} {h : List (GrantEvent Row Key)}

/-- What was closed had been granted. -/
theorem LawfulGrants.exists_granted (hl : LawfulGrants key h) {k : Key} (hk : .closed k ∈ h) :
    ∃ row, .granted row ∈ h ∧ key row = k := by
  induction hl with
  | nil => cases hk
  | granted _ _ ih =>
    rcases List.mem_cons.1 hk with heq | hk
    · cases heq
    · obtain ⟨row, hrow, heq⟩ := ih hk
      exact ⟨row, List.mem_cons_of_mem _ hrow, heq⟩
  | closed hl hrow heq ih =>
    rcases List.mem_cons.1 hk with hsame | hk
    · cases hsame
      exact ⟨_, List.mem_cons_of_mem _ hrow, heq⟩
    · obtain ⟨row, hrow, heq⟩ := ih hk
      exact ⟨row, List.mem_cons_of_mem _ hrow, heq⟩

/-- One row was granted under a key. -/
theorem LawfulGrants.eq_of_key_eq (hl : LawfulGrants key h) {a b : Row} (ha : .granted a ∈ h) (hb : .granted b ∈ h)
    (heq : key a = key b) : a = b := by
  induction hl with
  | nil => cases ha
  | granted _ hfresh ih =>
    rcases List.mem_cons.1 ha with hnew | hold
    · cases hnew
      rcases List.mem_cons.1 hb with hnew' | hold'
      · cases hnew'
        rfl
      · exact absurd heq.symm (hfresh b hold')
    · rcases List.mem_cons.1 hb with hnew' | hold'
      · cases hnew'
        exact absurd heq (hfresh a hold)
      · exact ih hold hold'
  | closed _ _ _ ih =>
    rcases List.mem_cons.1 ha with hnew | hold
    · cases hnew
    · rcases List.mem_cons.1 hb with hnew' | hold'
      · cases hnew'
      · exact ih hold hold'

variable [DecidableEq Row] [DecidableEq Key]

/-- A granted row as the history leaves it. -/
def asLeft (key : Row → Key) (close : Row → Row) (h : List (GrantEvent Row Key)) (row : Row) : Row :=
  if GrantEvent.closed (key row) ∈ h then close row else row

/-- **The rows are the granted ones, closed where the history says so.** -/
theorem mem_rowsAfter_iff (hl : LawfulGrants key h) (hkey : ∀ row, key (close row) = key row)
    (hclose : ∀ row, close (close row) = close row) {row : Row} :
    row ∈ rowsAfter key close h ↔ ∃ granted, .granted granted ∈ h ∧ row = asLeft key close h granted := by
  induction hl generalizing row with
  | nil =>
    refine iff_of_false List.not_mem_nil ?_
    rintro ⟨granted, hgranted, -⟩
    cases hgranted
  | @granted new older hl hfresh ih =>
    have hleft : ∀ granted, asLeft key close (.granted new :: older) granted = asLeft key close older granted := by
      intro granted
      unfold asLeft
      simp only [List.mem_cons, reduceCtorEq, false_or]
    -- a key that is granted only now was not closed before
    have hopen : asLeft key close older new = new := by
      refine if_neg fun hclosed => ?_
      obtain ⟨other, hother, heq⟩ := hl.exists_granted hclosed
      exact hfresh other hother heq
    rw [rowsAfter, List.mem_append, List.mem_singleton, ih]
    constructor
    · rintro (⟨granted, hgranted, rfl⟩ | rfl)
      · exact ⟨granted, List.mem_cons_of_mem _ hgranted, (hleft granted).symm⟩
      · exact ⟨row, List.mem_cons_self, (hopen.symm.trans (hleft row).symm)⟩
    · rintro ⟨granted, hgranted, rfl⟩
      rw [hleft]
      rcases List.mem_cons.1 hgranted with heq | hgranted
      · cases heq
        exact .inr hopen
      · exact .inl ⟨granted, hgranted, rfl⟩
  | @closed _ k older hl _ _ ih =>
    -- a row of the key is closed, however often it was before
    have hleft : ∀ granted, asLeft key close (.closed k :: older) granted =
        closeUnder key close k (asLeft key close older granted) := by
      intro granted
      have hsame : key (asLeft key close older granted) = key granted := by
        unfold asLeft
        split
        · exact hkey granted
        · rfl
      unfold closeUnder
      rw [hsame]
      by_cases hk : key granted = k
      · rw [if_pos hk, asLeft, if_pos (hk ▸ List.mem_cons_self), asLeft]
        split
        · exact (hclose granted).symm
        · rfl
      · rw [if_neg hk, asLeft, asLeft]
        simp only [List.mem_cons, GrantEvent.closed.injEq, hk, false_or]
    rw [rowsAfter, List.mem_map]
    constructor
    · rintro ⟨before, hbefore, rfl⟩
      obtain ⟨granted, hgranted, rfl⟩ := ih.1 hbefore
      exact ⟨granted, List.mem_cons_of_mem _ hgranted, (hleft granted).symm⟩
    · rintro ⟨granted, hgranted, rfl⟩
      rcases List.mem_cons.1 hgranted with heq | hgranted
      · cases heq
      · exact ⟨_, ih.2 ⟨granted, hgranted, rfl⟩, (hleft granted).symm⟩

end Grants

end WeaponDetection.Foundations
