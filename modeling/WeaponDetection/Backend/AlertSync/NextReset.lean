import WeaponDetection.Contract.IsoOrder
import Mathlib.Data.List.Dedup
import Mathlib.Order.Bounds.Defs

/-!
# The next quota reset

Models `ResolveNextResetUtc` of `BranchLocalDateResolver.cs`, which the dashboard shows beside the quota
of a Branch.  The quota is charged to `ResolveLocalDate`, so the reset is due at the first instant that
has another local date.  `ResolveNextResetUtc` converts the next local midnight instead, which a
transition may skip, repeat or leave behind (`nextReset_agrees_iff`).
-/

namespace WeaponDetection.Backend.AlertSync

open WeaponDetection.Foundations
open WeaponDetection.Foundations.TextOrder
open WeaponDetection.Contract

/-! ## Local time and back -/

/-- The offsets, out of a list, at which a zone shows a local time. -/
def occurrences (zone : TimeZone) (offsets : List ℤ) (localTicks : ℤ) : List ℤ :=
  offsets.dedup.filter fun offset => zone.offset (localTicks - offset) = offset

/-- `TimeZoneInfo`, with what the way back from local time needs: the offsets it ever has, and the one of
them an ambiguous local time takes, the offset of standard time.  Offsets are whole minutes, and a
transition falls on a whole millisecond. -/
structure BranchZone extends TimeZone where
  offsets : List ℤ
  standardOffset : ℤ → ℤ
  complete : ∀ ticks, offset ticks ∈ offsets
  wholeMinutes : ∀ o ∈ offsets, 600000000 ∣ o
  wholeMilliseconds : ∀ ticks, ¬ 10000 ∣ ticks → offset ticks = offset (ticks - 1)
  standardOffset_mem : ∀ localTicks, 2 ≤ (occurrences toTimeZone offsets localTicks).length →
    standardOffset localTicks ∈ occurrences toTimeZone offsets localTicks

variable {zone : BranchZone}

/-- A tick within the range of `DateTime`. -/
def InRange (ticks : ℤ) : Prop := 0 ≤ ticks ∧ ticks ≤ maxTicks

/-- `TimeZoneInfo.ConvertTimeToUtc` of an unspecified local time; `none` where it throws, on a local time
the zone never shows. -/
def BranchZone.convertTimeToUtc (zone : BranchZone) (localTicks : ℤ) : Option ℤ :=
  match occurrences zone.toTimeZone zone.offsets localTicks with
  | [] => none
  | [offset] => some (max 0 (min maxTicks (localTicks - offset)))
  | _ => some (max 0 (min maxTicks (localTicks - zone.standardOffset localTicks)))

/-- `DateTime.Date.AddDays(1)`: the midnight after a local time. -/
def nextMidnight (localTicks : ℤ) : ℤ := (localTicks / ticksPerDay + 1) * ticksPerDay

/-- `ResolveNextResetUtc`; `none` where it throws. -/
def resolveNextResetUtc (nowUtc : ℤ) (zone : BranchZone) : Option ℤ :=
  let localNow := clock zone.toTimeZone nowUtc
  if maxTicks < nextMidnight localNow then none
  else zone.convertTimeToUtc (nextMidnight localNow)

/-! ## The local date -/

/-- The local day of an instant, counted from 0001-01-01. -/
def BranchZone.day (zone : BranchZone) (ticks : ℤ) : ℤ := clock zone.toTimeZone ticks / ticksPerDay

theorem clock_inRange (zone : TimeZone) (ticks : ℤ) : InRange (clock zone ticks) := by
  unfold InRange clock maxTicks
  omega

theorem day_lt (zone : BranchZone) (ticks : ℤ) : 0 ≤ zone.day ticks ∧ zone.day ticks < 3652059 := by
  obtain ⟨hnonneg, hle⟩ := clock_inRange zone.toTimeZone ticks
  unfold maxTicks at hle
  unfold BranchZone.day ticksPerDay
  omega

/-- Dates are the same on the same day. -/
theorem resolveLocalDate_eq_iff {t u : ℤ} :
    resolveLocalDate ⟨t, .utc⟩ zone.toTimeZone = resolveLocalDate ⟨u, .utc⟩ zone.toTimeZone ↔
      zone.day t = zone.day u := by
  obtain ⟨hnonneg, hlt⟩ := day_lt zone t
  obtain ⟨hnonneg', hlt'⟩ := day_lt zone u
  rw [resolveLocalDate_eq, resolveLocalDate_eq]
  constructor
  · intro h
    have htext : dateText (zone.day t).toNat = dateText (zone.day u).toNat := congrArg String.toList h
    have hdays := fixedField_dateText.strictMonoOn.injOn (show (zone.day t).toNat < 3652059 by omega)
      (show (zone.day u).toNat < 3652059 by omega) htext
    omega
  · intro h
    exact congrArg (fun d : ℤ => formatDate (dateOfDay d.toNat)) h

/-! ## The midnight -/

theorem mem_occurrences {localTicks o : ℤ} :
    o ∈ occurrences zone.toTimeZone zone.offsets localTicks ↔ zone.offset (localTicks - o) = o := by
  simp only [occurrences, List.mem_filter, List.mem_dedup, decide_eq_true_eq, and_iff_right_iff_imp]
  intro h
  rw [← h]
  exact zone.complete _

theorem nodup_occurrences (zone : BranchZone) (localTicks : ℤ) :
    (occurrences zone.toTimeZone zone.offsets localTicks).Nodup :=
  (List.nodup_dedup zone.offsets).filter _

/-- The offset a local time is converted back with: its only one, or that of standard time. -/
def BranchZone.Picks (zone : BranchZone) (localTicks o : ℤ) : Prop :=
  o ∈ occurrences zone.toTimeZone zone.offsets localTicks ∧
    ((∀ o' ∈ occurrences zone.toTimeZone zone.offsets localTicks, o' = o) ∨ zone.standardOffset localTicks = o)

theorem convertTimeToUtc_eq_some_iff {localTicks t : ℤ} :
    zone.convertTimeToUtc localTicks = some t ↔
      ∃ o, zone.Picks localTicks o ∧ max 0 (min maxTicks (localTicks - o)) = t := by
  have hnodup := nodup_occurrences zone localTicks
  have hstandard := zone.standardOffset_mem localTicks
  unfold BranchZone.convertTimeToUtc BranchZone.Picks
  generalize occurrences zone.toTimeZone zone.offsets localTicks = found at hnodup hstandard
  match found with
  | [] => simp
  | [o] =>
    simp only [List.mem_singleton, forall_eq, Option.some.injEq]
    constructor
    · rintro rfl
      exact ⟨o, ⟨rfl, .inl rfl⟩, rfl⟩
    · rintro ⟨o', ⟨rfl, -⟩, ht⟩
      exact ht
  | o :: o' :: rest =>
    have hmem := hstandard (by simp)
    simp only [Option.some.injEq]
    constructor
    · rintro rfl
      exact ⟨_, ⟨hmem, .inr rfl⟩, rfl⟩
    · rintro ⟨p, ⟨hp, hall | hpick⟩, ht⟩
      · -- two different offsets are not all the same one
        have hne : o ≠ o' := by
          rintro rfl
          simp at hnodup
        exact absurd ((hall o (by simp)).trans (hall o' (by simp)).symm) hne
      · rw [hpick]
        exact ht

theorem midnight_of_clock {t m : ℤ} (hm : ticksPerDay ∣ m) (hpos : 0 < m) (hclock : clock zone.toTimeZone t = m) :
    t + zone.offset t = m := by
  unfold clock maxTicks at hclock
  unfold ticksPerDay at hm
  omega

theorem dvd_nextMidnight (localTicks : ℤ) : ticksPerDay ∣ nextMidnight localTicks := Int.dvd_mul_left _ _

theorem day_of_clock {t now : ℤ} (h : clock zone.toTimeZone t = nextMidnight (clock zone.toTimeZone now)) :
    zone.day t = zone.day now + 1 := by
  rw [BranchZone.day, h, nextMidnight, Int.mul_ediv_cancel _ (by decide)]
  rfl

/-- The last instant of `DateTime` begins no day. -/
theorem day_maxTicks {zone : BranchZone} : zone.day maxTicks = zone.day (maxTicks - 1) := by
  have hoffset := zone.wholeMilliseconds maxTicks (by decide)
  have hminutes := zone.wholeMinutes _ (zone.complete maxTicks)
  unfold BranchZone.day clock
  rw [← hoffset]
  generalize zone.offset maxTicks = o at hminutes
  unfold maxTicks ticksPerDay
  omega

/-! ## When the reset is the one shown -/

/-- `ResolveNextResetUtc` returns, and it is the first instant behind now with another local date. -/
def ResetsOnTime (nowUtc : ℤ) (zone : BranchZone) : Prop :=
  ∃ reset, resolveNextResetUtc nowUtc zone = some reset ∧
    IsLeast {t | InRange t ∧ nowUtc < t ∧
      resolveLocalDate ⟨t, .utc⟩ zone.toTimeZone ≠ resolveLocalDate ⟨nowUtc, .utc⟩ zone.toTimeZone} reset

/-- The clock of the Branch stays on its day until it shows the next midnight, and it does not show that
midnight another time, or this one is the one of standard time. -/
def ReachesMidnight (nowUtc : ℤ) (zone : BranchZone) : Prop :=
  ∃ t, InRange t ∧ nowUtc < t ∧ clock zone.toTimeZone t = nextMidnight (clock zone.toTimeZone nowUtc) ∧
    (∀ u, nowUtc < u → u < t → zone.day u = zone.day nowUtc) ∧
    zone.Picks (nextMidnight (clock zone.toTimeZone nowUtc)) (zone.offset t)

theorem resolveNextResetUtc_eq_some_iff {nowUtc t : ℤ} :
    resolveNextResetUtc nowUtc zone = some t ↔ nextMidnight (clock zone.toTimeZone nowUtc) ≤ maxTicks ∧
      zone.convertTimeToUtc (nextMidnight (clock zone.toTimeZone nowUtc)) = some t := by
  unfold resolveNextResetUtc
  simp only
  split_ifs with hlt
  · simp [Int.not_le.2 hlt]
  · simp [Int.not_lt.1 hlt]

/-- The clock shows the midnight the reset was converted from, or the reset is cut off at the end of time. -/
theorem clock_of_converted {m o t : ℤ} (hm : 0 < m) (hmax : m ≤ maxTicks) (hpick : zone.Picks m o)
    (ht : max 0 (min maxTicks (m - o)) = t) (hpos : 0 < t) (hlt : t < maxTicks) :
    zone.offset t = o ∧ clock zone.toTimeZone t = m := by
  have htick : t = m - o := by
    unfold maxTicks at *
    omega
  have hoffset : zone.offset t = o := by
    rw [htick]
    exact mem_occurrences.1 hpick.1
  refine ⟨hoffset, ?_⟩
  rw [clock, hoffset]
  unfold maxTicks at *
  omega

/-- **When the reset shown is the one the quota follows.** -/
theorem next_reset_iff {nowUtc : ℤ} (hnow : InRange nowUtc) :
    ResetsOnTime nowUtc zone ↔ ReachesMidnight nowUtc zone := by
  obtain ⟨hclock, -⟩ := clock_inRange zone.toTimeZone nowUtc
  have hpos : 0 < nextMidnight (clock zone.toTimeZone nowUtc) := by
    unfold nextMidnight ticksPerDay
    omega
  constructor
  · rintro ⟨reset, hreset, ⟨hrange, hlater, hdate⟩, hfirst⟩
    obtain ⟨hmax, hconvert⟩ := resolveNextResetUtc_eq_some_iff.1 hreset
    obtain ⟨o, hpick, ht⟩ := convertTimeToUtc_eq_some_iff.1 hconvert
    have hsame : ∀ u, nowUtc < u → u < reset → zone.day u = zone.day nowUtc := by
      intro u hu hbefore
      by_contra hne
      have hle := hfirst ⟨⟨by have := hnow.1; omega, by have := hrange.2; omega⟩, hu,
        fun h => hne (resolveLocalDate_eq_iff.1 h)⟩
      omega
    have hend : reset ≠ maxTicks := by
      rintro rfl
      -- the day of the last instant began before it
      have hbefore : zone.day (maxTicks - 1) = zone.day nowUtc := by
        rcases (show nowUtc ≤ maxTicks - 1 by omega).lt_or_eq with hlt | heq
        · exact hsame _ hlt (by omega)
        · rw [heq]
      exact hdate (resolveLocalDate_eq_iff.2 (day_maxTicks.trans hbefore))
    obtain ⟨hoffset, hshows⟩ := clock_of_converted hpos hmax hpick ht (by have := hnow.1; omega)
      (lt_of_le_of_ne hrange.2 hend)
    exact ⟨reset, hrange, hlater, hshows, hsame, hoffset ▸ hpick⟩
  · rintro ⟨t, hrange, hlater, hshows, hsame, hpick⟩
    have hmax : nextMidnight (clock zone.toTimeZone nowUtc) ≤ maxTicks := by
      rw [← hshows]
      exact (clock_inRange zone.toTimeZone t).2
    have hmidnight := midnight_of_clock (dvd_nextMidnight _) hpos hshows
    have hconvert : max 0 (min maxTicks (nextMidnight (clock zone.toTimeZone nowUtc) - zone.offset t)) = t := by
      obtain ⟨hnonneg, hle⟩ := hrange
      omega
    refine ⟨t, resolveNextResetUtc_eq_some_iff.2 ⟨hmax, ?_⟩, ⟨hrange, hlater, ?_⟩, ?_⟩
    · exact convertTimeToUtc_eq_some_iff.2 ⟨_, hpick, hconvert⟩
    · intro h
      have hday := day_of_clock hshows
      rw [resolveLocalDate_eq_iff.1 h] at hday
      omega
    · rintro u ⟨-, hu, hdate⟩
      by_contra hbefore
      exact hdate (resolveLocalDate_eq_iff.2 (hsame u hu (not_le.1 hbefore)))

/-- Without a transition until the midnight, which is shown once, the reset is on time. -/
theorem reachesMidnight_of_steady {nowUtc o : ℤ} (hlocal : InRange (nowUtc + o))
    (hsteady : ∀ t, nowUtc ≤ t → t ≤ nextMidnight (nowUtc + o) - o → zone.offset t = o)
    (honce : ∀ o' ∈ occurrences zone.toTimeZone zone.offsets (nextMidnight (nowUtc + o)), o' = o)
    (hrange : InRange (nextMidnight (nowUtc + o) - o)) (hmax : nextMidnight (nowUtc + o) ≤ maxTicks) :
    ReachesMidnight nowUtc zone := by
  obtain ⟨hnonneg, hle⟩ := hlocal
  have hbetween : nowUtc + o < nextMidnight (nowUtc + o) := by
    unfold nextMidnight ticksPerDay
    omega
  have hclock : ∀ t, nowUtc ≤ t → t ≤ nextMidnight (nowUtc + o) - o → clock zone.toTimeZone t = t + o := by
    intro t hfrom hto
    rw [clock, hsteady t hfrom hto]
    omega
  have hnow : clock zone.toTimeZone nowUtc = nowUtc + o := hclock nowUtc le_rfl (by omega)
  have hshows := hclock (nextMidnight (nowUtc + o) - o) (by omega) le_rfl
  have hoffset := hsteady (nextMidnight (nowUtc + o) - o) (by omega) le_rfl
  refine ⟨nextMidnight (nowUtc + o) - o, hrange, by omega, ?_, ?_, ?_⟩
  · rw [hshows, hnow, Int.sub_add_cancel]
  · intro u hu hbefore
    rw [BranchZone.day, BranchZone.day, hclock u (by omega) (by omega), hnow]
    unfold nextMidnight ticksPerDay at *
    omega
  · rw [hnow, hoffset]
    exact ⟨mem_occurrences.2 hoffset, .inl honce⟩

/-! ## A zone with one transition -/

/-- The offset before and from an instant on. -/
def transitionOffset (before after instant ticks : ℤ) : ℤ := if ticks < instant then before else after

theorem transitionOffset_mem (before after instant ticks : ℤ) :
    transitionOffset before after instant ticks ∈ [before, after] := by
  unfold transitionOffset
  split <;> simp

theorem transitionOffset_sub_one {before after minute ticks : ℤ} (h : ¬ 10000 ∣ ticks) :
    transitionOffset before after (600000000 * minute) ticks =
      transitionOffset before after (600000000 * minute) (ticks - 1) := by
  unfold transitionOffset
  split_ifs <;> first | rfl | omega

theorem first_mem_occurrences {zone : TimeZone} {a b localTicks : ℤ}
    (h : 2 ≤ (occurrences zone [a, b] localTicks).length) : a ∈ occurrences zone [a, b] localTicks := by
  by_contra hnot
  have hsub : occurrences zone [a, b] localTicks ⊆ [b] := by
    intro o ho
    have hmem : o ∈ [a, b] := List.mem_dedup.1 (List.mem_of_mem_filter ho)
    rcases List.mem_pair.1 hmem with rfl | rfl
    · exact absurd ho hnot
    · exact List.mem_cons_self
  have hlength := (List.subperm_of_subset ((List.nodup_dedup [a, b]).filter _) hsub).length_le
  exact absurd (h.trans hlength) (by simp)

theorem dvd_of_mem_minutes {before after o : ℤ} (h : o ∈ [600000000 * before, 600000000 * after]) :
    600000000 ∣ o := by
  rcases List.mem_pair.1 h with rfl | rfl <;> exact Int.dvd_mul_right _ _

/-- A zone with one transition at a minute, between two offsets in minutes; standard time is before it. -/
def transitionZone (before after minute : ℤ) : BranchZone where
  offset := transitionOffset (600000000 * before) (600000000 * after) (600000000 * minute)
  offsets := [600000000 * before, 600000000 * after]
  standardOffset _ := 600000000 * before
  complete := transitionOffset_mem _ _ _
  wholeMinutes _ := dvd_of_mem_minutes
  wholeMilliseconds _ := transitionOffset_sub_one
  standardOffset_mem _ := first_mem_occurrences

/-- 23:30 on the evening before the clocks go from 00:00 to 01:00, three hours west of UTC. -/
def beforeSkip : ℤ := 600000000 * (737001 * 1440 + 150)

/-- Two days before the transition the reset is on time. -/
theorem next_reset_ordinary_day : ResetsOnTime (beforeSkip - 2 * ticksPerDay)
    (transitionZone (-180) (-120) (737001 * 1440 + 180)) := by
  refine (next_reset_iff ⟨by decide, by decide⟩).2 (reachesMidnight_of_steady (o := 600000000 * -180) ?_ ?_ ?_ ?_ ?_)
  · exact ⟨by decide, by decide⟩
  · intro t _ hto
    have hbefore : t < 600000000 * (737001 * 1440 + 180) := lt_of_le_of_lt hto (by decide)
    exact if_pos hbefore
  · decide
  · exact ⟨by decide, by decide⟩
  · decide

/-- The next local midnight does not exist: the call throws, and the dashboard with it. -/
theorem skipped_midnight_throws :
    ¬ ∀ (nowUtc : ℤ) (zone : BranchZone), InRange nowUtc → ResetsOnTime nowUtc zone := by
  intro h
  obtain ⟨reset, hreset, -⟩ := h beforeSkip (transitionZone (-180) (-120) (737001 * 1440 + 180))
    ⟨by decide, by decide⟩
  have hthrows : resolveNextResetUtc beforeSkip (transitionZone (-180) (-120) (737001 * 1440 + 180)) = none := by
    decide
  rw [hthrows] at hreset
  cases hreset

end WeaponDetection.Backend.AlertSync
