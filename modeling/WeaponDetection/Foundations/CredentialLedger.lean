import Mathlib.Data.List.Basic
import Mathlib.Algebra.Order.Group.Nat
import Mathlib.Data.Option.Basic

/-!
# Ledgers of one-time keys and the credentials they buy

Slots are opened and closed.  An open slot holds at most one redeemable key, the identity it was given
at its first redemption, and the secret issued at its last one.  Giving a slot another key revokes the
secret.

The ledger of a history says what each slot holds after it.  For histories each event of which was
admissible when it happened, it is compared with what the history says directly: which secret is the
last one issued to an identity and not revoked since (`credited_iff_current`), that a redeemed key is
the last one its slot was given (`redeemed_latest`), and that a key is redeemed at most as often as it
was given out (`redeemed_le_issued`).
-/

namespace WeaponDetection.Foundations

/-- What happens to a slot. -/
inductive LedgerEvent (Slot Identity Key Secret : Type) where
  | opened (slot : Slot) (key : Key)
  | rekeyed (slot : Slot) (key : Key)
  | redeemed (slot : Slot) (identity : Identity) (key : Key) (secret : Secret)
  | closed (slot : Slot)

/-- What an open slot holds. -/
structure LedgerEntry (Identity Key Secret : Type) where
  identity : Option Identity
  secret : Option Secret
  key : Option Key

namespace LedgerEvent

variable {Slot Identity Key Secret : Type}

/-- The slot of an event. -/
def slot : LedgerEvent Slot Identity Key Secret → Slot
  | opened slot _ | rekeyed slot _ | redeemed slot _ _ _ | closed slot => slot

/-- What an event makes of its slot. -/
def entry (e : LedgerEvent Slot Identity Key Secret)
    (before : Option (LedgerEntry Identity Key Secret)) : Option (LedgerEntry Identity Key Secret) :=
  match e with
  | opened _ key => some ⟨none, none, some key⟩
  | rekeyed _ key => before.map fun entry => { entry with secret := none, key := some key }
  | redeemed _ identity _ secret => before.map fun _ => ⟨some identity, some secret, none⟩
  | closed _ => none

/-- The event gives the slot this key. -/
def Issues (e : LedgerEvent Slot Identity Key Secret) (s : Slot) (k : Key) : Prop :=
  e = opened s k ∨ e = rekeyed s k

/-- The event issues a secret to the identity. -/
def IssuesTo (e : LedgerEvent Slot Identity Key Secret) (i : Identity) : Prop :=
  ∃ slot key secret, e = redeemed slot i key secret

/-- The event revokes the secret of the slot. -/
def Revokes (e : LedgerEvent Slot Identity Key Secret) (s : Slot) : Prop :=
  (∃ key, e = rekeyed s key) ∨ e = closed s

end LedgerEvent

section Ledger

variable {Slot Identity Key Secret : Type} [DecidableEq Slot]

/-- What the slots hold after a history, the last event first. -/
def ledger : List (LedgerEvent Slot Identity Key Secret) → Slot →
    Option (LedgerEntry Identity Key Secret)
  | [], _ => none
  | e :: older, s => if e.slot = s then e.entry (ledger older s) else ledger older s

/-- The event may happen after this history. -/
def Admissible (older : List (LedgerEvent Slot Identity Key Secret)) :
    LedgerEvent Slot Identity Key Secret → Prop
  | .opened s _ => ledger older s = none
  | .rekeyed s _ | .closed s => ledger older s ≠ none
  | .redeemed s i k _ => (∃ entry, ledger older s = some entry ∧ entry.key = some k ∧
      (entry.identity = none ∨ entry.identity = some i)) ∧
      ∀ s' entry', s' ≠ s → ledger older s' = some entry' → entry'.identity ≠ some i

/-- Every event was admissible when it happened. -/
inductive Lawful : List (LedgerEvent Slot Identity Key Secret) → Prop where
  | nil : Lawful []
  | cons {e : LedgerEvent Slot Identity Key Secret}
      {older : List (LedgerEvent Slot Identity Key Secret)} :
      Lawful older → Admissible older e → Lawful (e :: older)

variable {e : LedgerEvent Slot Identity Key Secret}
  {h older newer : List (LedgerEvent Slot Identity Key Secret)} {s : Slot} {i : Identity} {k : Key}
  {secret : Secret} {entry : LedgerEntry Identity Key Secret}

theorem ledger_cons_self (e : LedgerEvent Slot Identity Key Secret)
    (older : List (LedgerEvent Slot Identity Key Secret)) :
    ledger (e :: older) e.slot = e.entry (ledger older e.slot) := if_pos rfl

theorem ledger_cons_of_ne (hne : e.slot ≠ s) : ledger (e :: older) s = ledger older s := if_neg hne

theorem Lawful.tail (hl : Lawful (e :: older)) : Lawful older := by
  cases hl with
  | cons hl _ => exact hl

theorem Lawful.admissible (hl : Lawful (e :: older)) : Admissible older e := by
  cases hl with
  | cons _ ha => exact ha

theorem Lawful.suffix (hl : Lawful (newer ++ older)) : Lawful older := by
  induction newer with
  | nil => exact hl
  | cons e newer ih => exact ih hl.tail

/-! ## Identities -/

/-- An identity, once given to a slot, stays until the slot is closed. -/
theorem identity_kept (ha : Admissible older e) (hentry : ledger older s = some entry)
    (hi : entry.identity = some i) {entry' : LedgerEntry Identity Key Secret}
    (hentry' : ledger (e :: older) s = some entry') : entry'.identity = some i := by
  by_cases hs : e.slot = s
  · subst hs
    rw [ledger_cons_self, hentry] at hentry'
    cases e with
    | opened slot key =>
      have hnone : ledger older slot = none := ha
      exact absurd (hnone.symm.trans hentry) nofun
    | rekeyed slot key =>
      cases hentry'
      exact hi
    | redeemed slot identity key issued =>
      cases hentry'
      obtain ⟨⟨before, hbefore, -, hidentity⟩, -⟩ := ha
      cases hbefore.symm.trans hentry
      rw [hi] at hidentity
      exact (hidentity.resolve_left nofun).symm
    | closed slot => cases hentry'
  · rw [ledger_cons_of_ne hs, hentry] at hentry'
    cases hentry'
    exact hi

/-! ## The last secret issued -/

/-- The secret of the last redemption of the identity, not revoked since. -/
def Credited (h : List (LedgerEvent Slot Identity Key Secret)) (i : Identity) (secret : Secret) : Prop :=
  ∃ newer slot key older, h = newer ++ .redeemed slot i key secret :: older ∧
    ∀ e ∈ newer, ¬ e.IssuesTo i ∧ ¬ e.Revokes slot

/-- A slot that holds the secret for the identity. -/
def Current (h : List (LedgerEvent Slot Identity Key Secret)) (i : Identity) (secret : Secret) : Prop :=
  ∃ slot entry, ledger h slot = some entry ∧ entry.identity = some i ∧ entry.secret = some secret

theorem current_of_credited (hl : Lawful h) (hc : Credited h i secret) : Current h i secret := by
  obtain ⟨newer, slot, key, older, rfl, hnewer⟩ := hc
  suffices ∃ entry, ledger (newer ++ .redeemed slot i key secret :: older) slot = some entry ∧
      entry.identity = some i ∧ entry.secret = some secret from
    this.elim fun entry hentry => ⟨slot, entry, hentry⟩
  induction newer with
  | nil =>
    obtain ⟨⟨before, hbefore, -⟩, -⟩ := hl.admissible
    refine ⟨⟨some i, some secret, none⟩, ?_, rfl, rfl⟩
    exact (ledger_cons_self _ _).trans (congrArg (Option.map _) hbefore)
  | cons e newer ih =>
    rw [List.forall_mem_cons] at hnewer
    obtain ⟨⟨hnot, hrevokes⟩, hrest⟩ := hnewer
    obtain ⟨entry, hentry, hi, hsecret⟩ := ih hrest hl.tail
    by_cases hs : e.slot = slot
    · -- an event on the slot would have issued to the identity, or revoked the secret
      have ha := hl.admissible
      cases e with
      | opened s k =>
        cases hs
        exact absurd ((show ledger _ _ = none from ha).symm.trans hentry) nofun
      | rekeyed s k =>
        cases hs
        exact absurd (.inl ⟨k, rfl⟩) hrevokes
      | redeemed s j k issued =>
        cases hs
        obtain ⟨⟨before, hbefore, -, hidentity⟩, -⟩ := ha
        cases hbefore.symm.trans hentry
        rw [hi] at hidentity
        cases hidentity.resolve_left nofun
        exact absurd ⟨_, _, _, rfl⟩ hnot
      | closed s =>
        cases hs
        exact absurd (.inr rfl) hrevokes
    · exact ⟨entry, (ledger_cons_of_ne hs).trans hentry, hi, hsecret⟩

theorem credited_of_current (hl : Lawful h) (hc : Current h i secret) : Credited h i secret := by
  obtain ⟨slot, entry, hentry, hi, hsecret⟩ := hc
  suffices ∃ newer key older, h = newer ++ .redeemed slot i key secret :: older ∧
      ∀ e ∈ newer, ¬ e.IssuesTo i ∧ ¬ e.Revokes slot by
    obtain ⟨newer, key, older, hh⟩ := this
    exact ⟨newer, slot, key, older, hh⟩
  induction h generalizing entry with
  | nil => cases hentry
  | cons e older ih =>
    by_cases hs : e.slot = slot
    · subst hs
      rw [ledger_cons_self] at hentry
      cases e with
      | opened s k =>
        cases hentry
        cases hsecret
      | rekeyed s k =>
        obtain ⟨before, -, rfl⟩ := Option.map_eq_some_iff.1 hentry
        cases hsecret
      | redeemed s j k issued =>
        obtain ⟨before, -, rfl⟩ := Option.map_eq_some_iff.1 hentry
        cases hi
        cases hsecret
        exact ⟨[], k, older, rfl, nofun⟩
      | closed s => cases hentry
    · rw [ledger_cons_of_ne hs] at hentry
      obtain ⟨newer, key, rest, rfl, hnewer⟩ := ih hl.tail entry hentry hi hsecret
      refine ⟨e :: newer, key, rest, rfl, ?_⟩
      rw [List.forall_mem_cons]
      refine ⟨⟨?_, ?_⟩, hnewer⟩
      · -- another slot cannot be given the identity this one has
        rintro ⟨s', k', issued, rfl⟩
        exact hl.admissible.2 slot entry (Ne.symm hs) hentry hi
      · rintro (⟨k', rfl⟩ | rfl)
        · exact hs rfl
        · exact hs rfl

/-- **What the history says of an identity is what its slot holds.** -/
theorem credited_iff_current (hl : Lawful h) : Credited h i secret ↔ Current h i secret :=
  ⟨current_of_credited hl, credited_of_current hl⟩

/-! ## Keys -/

/-- The key a slot holds was given to it by the last event on it. -/
theorem issued_last (hl : Lawful h) (hentry : ledger h s = some entry) (hk : entry.key = some k) :
    ∃ newer e older, h = newer ++ e :: older ∧ e.Issues s k ∧ ∀ e' ∈ newer, e'.slot ≠ s := by
  induction h generalizing entry with
  | nil => cases hentry
  | cons e older ih =>
    by_cases hs : e.slot = s
    · subst hs
      rw [ledger_cons_self] at hentry
      cases e with
      | opened s' k' =>
        cases hentry
        cases hk
        exact ⟨[], _, older, rfl, .inl rfl, nofun⟩
      | rekeyed s' k' =>
        obtain ⟨before, -, rfl⟩ := Option.map_eq_some_iff.1 hentry
        cases hk
        exact ⟨[], _, older, rfl, .inr rfl, nofun⟩
      | redeemed s' j k' issued =>
        obtain ⟨before, -, rfl⟩ := Option.map_eq_some_iff.1 hentry
        cases hk
      | closed s' => cases hentry
    · rw [ledger_cons_of_ne hs] at hentry
      obtain ⟨newer, e', rest, rfl, hissues, hnewer⟩ := ih hl.tail hentry hk
      exact ⟨e :: newer, e', rest, rfl, hissues, List.forall_mem_cons.2 ⟨hs, hnewer⟩⟩

/-- **A redeemed key is the last one its slot was given, and nothing happened to the slot since.** -/
theorem redeemed_latest (hl : Lawful (newer ++ .redeemed s i k secret :: older)) :
    ∃ between e rest, older = between ++ e :: rest ∧ e.Issues s k ∧ ∀ e' ∈ between, e'.slot ≠ s := by
  have hl' := hl.suffix
  obtain ⟨⟨entry, hentry, hk, -⟩, -⟩ := hl'.admissible
  exact issued_last hl'.tail hentry hk

variable [DecidableEq Key]

/-- The keys an event gives to a slot. -/
def issued (e : LedgerEvent Slot Identity Key Secret) (s : Slot) (k : Key) : Bool :=
  match e with
  | .opened s' k' | .rekeyed s' k' => s' = s && k' = k
  | _ => false

/-- The keys an event redeems for a slot. -/
def redeemed (e : LedgerEvent Slot Identity Key Secret) (s : Slot) (k : Key) : Bool :=
  match e with
  | .redeemed s' _ k' _ => s' = s && k' = k
  | _ => false

/-- The key can be redeemed once more. -/
def redeemable (h : List (LedgerEvent Slot Identity Key Secret)) (s : Slot) (k : Key) : Bool :=
  (ledger h s).bind LedgerEntry.key = some k

/-- An event redeems what could be redeemed, and lets be redeemed what it issues. -/
theorem redeemed_add_redeemable_le (ha : Admissible older e) (s : Slot) (k : Key) :
    (redeemed e s k).toNat + (redeemable (e :: older) s k).toNat ≤
      (redeemable older s k).toNat + (issued e s k).toNat := by
  by_cases hs : e.slot = s
  · subst hs
    cases e with
    | opened s' k' =>
      simp only [redeemed, redeemable, issued, ledger, LedgerEvent.slot, LedgerEvent.entry, if_true,
        Option.bind_some, Option.some.injEq, decide_true, Bool.true_and, Bool.toNat_false, zero_add]
      exact Nat.le_add_left _ _
    | rekeyed s' k' =>
      simp only [redeemed, redeemable, issued, ledger, LedgerEvent.slot, LedgerEvent.entry, if_true,
        decide_true, Bool.true_and, Bool.toNat_false, zero_add]
      refine le_trans ?_ (Nat.le_add_left _ _)
      cases ledger older s' with
      | none => exact Nat.zero_le _
      | some before => simp
    | redeemed s' j k' issued' =>
      obtain ⟨⟨before, hbefore, hkey, -⟩, -⟩ := ha
      simp only [redeemed, redeemable, issued, ledger, LedgerEvent.slot, LedgerEvent.entry, if_true,
        decide_true, Bool.true_and, hbefore, hkey, Option.bind_some, Option.map_some,
        Option.some.injEq, reduceCtorEq, decide_false, Bool.toNat_false, add_zero]
      exact le_rfl
    | closed s' =>
      simp only [redeemed, redeemable, ledger, LedgerEvent.slot, LedgerEvent.entry, if_true,
        Option.bind_none, reduceCtorEq, decide_false, Bool.toNat_false, add_zero]
      exact Nat.zero_le _
  · have hsame : redeemable (e :: older) s k = redeemable older s k := by
      rw [redeemable, redeemable, ledger_cons_of_ne hs]
    have hnone : redeemed e s k = false := by
      cases e with
      | redeemed s' j k' issued' => simp [redeemed, show s' ≠ s from hs]
      | _ => rfl
    rw [hsame, hnone, Bool.toNat_false, zero_add]
    exact Nat.le_add_right _ _

/-- What has been redeemed and what can be is covered by what was issued. -/
theorem count_redeemed_add_le (hl : Lawful h) (s : Slot) (k : Key) :
    h.countP (redeemed · s k) + (redeemable h s k).toNat ≤ h.countP (issued · s k) := by
  induction h with
  | nil => exact le_rfl
  | cons e older ih =>
    have ihl := ih hl.tail
    have hstep := redeemed_add_redeemable_le hl.admissible s k
    have htoNat : ∀ b : Bool, (if b = true then 1 else 0) = b.toNat := by decide
    simp only [List.countP_cons, htoNat]
    omega

/-- **A key is redeemed at most as often as it was given to the slot.** -/
theorem redeemed_le_issued (hl : Lawful h) (s : Slot) (k : Key) :
    h.countP (redeemed · s k) ≤ h.countP (issued · s k) :=
  le_trans (Nat.le_add_right _ _) (count_redeemed_add_le hl s k)

end Ledger

end WeaponDetection.Foundations
