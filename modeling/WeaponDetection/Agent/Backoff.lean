import WeaponDetection.Foundations.Python

/-!
# The three background loops and their backoff

Models `_run`, `_sleep_backoff` and `_reset_backoff` of `DetectionEventSyncWorker`,
`SnapshotUploadWorker` and `DeviceConfigurationCoordinator`.  An iteration is seen by its result
only; what matters here is where the loop sleeps its backoff (inside the `try` whose handler is the
backstop, or after it) and what resets the failure counter.

The delay is computed from the counter *before* it is capped, as `float * int`, and Python converts
the integer first.  From the 1025th consecutive backoff on `2 ** attempt` has no `float`, the
handler's own backoff raises as well, and the task ends: `loop_survives_iff`.
-/

namespace WeaponDetection.Agent

open WeaponDetection.Foundations (Double)
open WeaponDetection.Foundations.Python

/-! ## The backoff -/

/-- The backoff arguments the constructors accept, as finite doubles. -/
structure BackoffConfig where
  initialBackoff : ℚ
  maxBackoff : ℚ
  initialBackoff_pos : 0 < initialBackoff
  initialBackoff_le : initialBackoff ≤ maxBackoff
  maxBackoff_finite : maxBackoff < Double.overflowBound

/-- A value of `random.random()`. -/
abbrev Jitter := {j : ℚ // 0 ≤ j ∧ j < 1}

/-- `_sleep_backoff`: the delay slept and the counter after it. -/
def sleepBackoff (cfg : BackoffConfig) (backoffAttempt : ℕ) (jitter : Jitter) :
    Except PyError (Double × ℕ) := do
  let factor ← floatOfInt (2 ^ backoffAttempt)
  let delay := ((Double.finite cfg.initialBackoff).mul (.finite factor)).min (.finite cfg.maxBackoff)
  let jittered :=
    delay.mul ((Double.finite (1 / 2)).add ((Double.finite jitter.val).mul (.finite (1 / 2))))
  return (jittered, backoffAttempt + 1)

/-- The cap of the `k`-th consecutive backoff: `min(initial_backoff * 2 ** k, max_backoff)`. -/
def BackoffConfig.cap (cfg : BackoffConfig) (k : ℕ) : ℚ :=
  min (cfg.initialBackoff * 2 ^ k) cfg.maxBackoff

theorem floatOfInt_two_pow (k : ℕ) :
    floatOfInt (2 ^ k) = if k < 1024 then .ok (2 ^ k) else .error .overflowError := by
  have hpow : ((2 : ℤ) ^ k).natAbs = 2 ^ k := by rw [Int.natAbs_pow]; rfl
  have hlimit : 2 ^ k < floatLimit ↔ k < 1024 := Nat.pow_lt_pow_iff_right Nat.one_lt_two
  unfold floatOfInt
  simp only [hpow, hlimit]
  split <;> simp

/-- The one place where `_sleep_backoff` can raise, before it touches the counter. -/
theorem sleepBackoff_of_le {cfg : BackoffConfig} {k : ℕ} {jitter : Jitter} (hk : 1024 ≤ k) :
    sleepBackoff cfg k jitter = .error .overflowError := by
  unfold sleepBackoff
  rw [floatOfInt_two_pow, if_neg (not_lt.mpr hk)]
  rfl

/-- Below the overflow the delay is the capped power, scaled into its upper half by the jitter. -/
theorem sleepBackoff_of_lt {cfg : BackoffConfig} {k : ℕ} {jitter : Jitter} (hk : k < 1024) :
    sleepBackoff cfg k jitter =
      .ok (.finite (cfg.cap k * (1 / 2 + jitter.val * (1 / 2))), k + 1) := by
  obtain ⟨j, hj0, hj1⟩ := jitter
  have hinit := cfg.initialBackoff_pos
  have hmax := cfg.maxBackoff_finite
  have hcap0 : 0 < cfg.cap k := by
    refine lt_min (by positivity) ?_
    linarith [cfg.initialBackoff_le]
  have hcap : cfg.cap k ≤ cfg.maxBackoff := min_le_right _ _
  have hone : (1 : ℚ) < Double.overflowBound := by
    unfold Double.overflowBound
    exact one_lt_pow₀ (by norm_num) (by norm_num)
  have hfinite : ∀ q : ℚ, 0 ≤ q → q < Double.overflowBound → Double.ofRat q = .finite q :=
    fun q h0 h1 => Double.ofRat_of_lt (by rwa [abs_of_nonneg h0])
  unfold sleepBackoff
  rw [floatOfInt_two_pow, if_pos hk]
  simp only [bind, Except.bind, pure, Except.pure, Double.mul_finite]
  rw [Double.min_ofRat_finite (by positivity) hmax, hfinite (j * (1 / 2)) (by positivity)
    (by linarith), Double.add_finite, hfinite (1 / 2 + j * (1 / 2)) (by positivity) (by linarith),
    Double.mul_finite]
  change Except.ok (Double.ofRat (cfg.cap k * (1 / 2 + j * (1 / 2))), k + 1) = _
  rw [hfinite _ (by positivity)]
  calc cfg.cap k * (1 / 2 + j * (1 / 2)) ≤ cfg.cap k * 1 :=
        mul_le_mul_of_nonneg_left (by linarith) hcap0.le
    _ ≤ cfg.maxBackoff := by linarith
    _ < Double.overflowBound := hmax

/-! ## The loops -/

/-- What one iteration came to. -/
inductive IterationResult where
  /-- The Backend did not answer the iteration: it backs off. -/
  | failure
  /-- An exception reached the handler of `_run`. -/
  | raised
  /-- The iteration went through. -/
  | success
  /-- There was nothing to do. -/
  | idle
  deriving DecidableEq

/-- One iteration, with the jitter its backoff draws. -/
structure Iteration where
  result : IterationResult
  jitter : Jitter

/-- The three background tasks. -/
inductive Loop where
  | sync
  | snapshot
  | configuration
  deriving DecidableEq

/-- The backoff of a failed iteration is slept inside the `try` of `_run`: the two workers sleep it
in `_drain_once`, the coordinator after `_poll_once` returned. -/
def Loop.backsOffInsideTry : Loop → Bool
  | .sync => true
  | .snapshot => true
  | .configuration => false

/-- An idle iteration resets the counter: only the coordinator does that. -/
def Loop.resetsWhenIdle : Loop → Bool
  | .sync => false
  | .snapshot => false
  | .configuration => true

/-- One pass of `_run`: the delay slept, if any, and the counter after it.  An error is an exception
that leaves `_run`, so the end of the task. -/
def iterate (loop : Loop) (cfg : BackoffConfig) (backoffAttempt : ℕ) (x : Iteration) :
    Except PyError (Option Double × ℕ) :=
  let handler := (sleepBackoff cfg backoffAttempt x.jitter).map fun r => (some r.1, r.2)
  match x.result with
  | .raised => handler
  | .failure =>
    match sleepBackoff cfg backoffAttempt x.jitter with
    | .ok r => .ok (some r.1, r.2)
    | .error e => if loop.backsOffInsideTry then handler else .error e
  | .success => .ok (none, 0)
  | .idle => .ok (none, if loop.resetsWhenIdle then 0 else backoffAttempt)

/-- `_run` over a list of iterations: what each of them slept. -/
def runLoop (loop : Loop) (cfg : BackoffConfig) (backoffAttempt : ℕ) :
    List Iteration → Except PyError (List (Option Double))
  | [] => .ok []
  | x :: xs => do
    let (delay, backoffAttempt) ← iterate loop cfg backoffAttempt x
    let delays ← runLoop loop cfg backoffAttempt xs
    return delay :: delays

/-! ## Consecutive backoffs -/

/-- The iteration ends in a backoff. -/
def Iteration.BacksOff (x : Iteration) : Prop := x.result = .failure ∨ x.result = .raised

instance (x : Iteration) : Decidable x.BacksOff := inferInstanceAs (Decidable (_ ∨ _))

/-- The number of backoffs since the last reset, after `n` of them and one more iteration. -/
def countBackoff (loop : Loop) (n : ℕ) (x : Iteration) : ℕ :=
  match x.result with
  | .failure => n + 1
  | .raised => n + 1
  | .success => 0
  | .idle => if loop.resetsWhenIdle then 0 else n

/-- The number of consecutive backoffs at the end of a run. -/
def consecutiveBackoffs (loop : Loop) (xs : List Iteration) : ℕ := xs.foldl (countBackoff loop) 0

/-- The task survives a run, and the `k`-th consecutive backoff sleeps between half of and all of
its cap. -/
def Survives (loop : Loop) (cfg : BackoffConfig) (xs : List Iteration) : Prop :=
  ∃ delays, runLoop loop cfg 0 xs = .ok delays ∧
    ∀ i d, delays[i]? = some (some d) → ∃ q, d = .finite q ∧
      cfg.cap (consecutiveBackoffs loop (xs.take i)) / 2 ≤ q ∧
        q ≤ cfg.cap (consecutiveBackoffs loop (xs.take i))

/-- Everything a pass of `_run` does: it follows the count of consecutive backoffs, and it raises
exactly when a backoff starts at 1024. -/
theorem iterate_eq (loop : Loop) (cfg : BackoffConfig) (n : ℕ) (x : Iteration) :
    iterate loop cfg n x =
      if x.BacksOff then
        if n < 1024 then
          .ok (some (.finite (cfg.cap n * (1 / 2 + x.jitter.val * (1 / 2)))), countBackoff loop n x)
        else .error .overflowError
      else .ok (none, countBackoff loop n x) := by
  obtain ⟨result, jitter⟩ := x
  unfold iterate countBackoff Iteration.BacksOff
  by_cases hn : n < 1024
  · rw [sleepBackoff_of_lt hn]
    cases result <;> simp [hn, Except.map]
  · rw [sleepBackoff_of_le (not_lt.mp hn)]
    cases result <;> simp [hn, Except.map]

/-- A delay of a pass lies in the upper half of its cap. -/
theorem cap_half_le_delay (cfg : BackoffConfig) (n : ℕ) (jitter : Jitter) :
    cfg.cap n / 2 ≤ cfg.cap n * (1 / 2 + jitter.val * (1 / 2)) ∧
      cfg.cap n * (1 / 2 + jitter.val * (1 / 2)) ≤ cfg.cap n := by
  obtain ⟨j, hj0, hj1⟩ := jitter
  have hinit := cfg.initialBackoff_pos
  have hcap0 : 0 ≤ cfg.cap n := le_min (by positivity) (by linarith [cfg.initialBackoff_le])
  constructor <;> nlinarith

/-- The run from a count `n`: it goes through exactly when no backoff starts at 1024, and then every
delay lies in the upper half of the cap of its count. -/
theorem runLoop_spec (loop : Loop) (cfg : BackoffConfig) (n : ℕ) (hn : n ≤ 1024)
    (xs : List Iteration) :
    (∃ delays, runLoop loop cfg n xs = .ok delays ∧
      ∀ i d, delays[i]? = some (some d) → ∃ q, d = .finite q ∧
        cfg.cap ((xs.take i).foldl (countBackoff loop) n) / 2 ≤ q ∧
          q ≤ cfg.cap ((xs.take i).foldl (countBackoff loop) n)) ↔
      ∀ i, (xs.take i).foldl (countBackoff loop) n ≤ 1024 := by
  induction xs generalizing n with
  | nil => simp [runLoop, hn]
  | cons x xs ih =>
    have hsplit : (∀ i, ((x :: xs).take i).foldl (countBackoff loop) n ≤ 1024) ↔
        ∀ i, (xs.take i).foldl (countBackoff loop) (countBackoff loop n x) ≤ 1024 := by
      constructor
      · intro h i
        exact h (i + 1)
      · intro h i
        cases i with
        | zero => exact hn
        | succ i => exact h i
    rw [hsplit]
    unfold runLoop
    rw [iterate_eq]
    by_cases hover : x.BacksOff ∧ n = 1024
    · -- The 1025th consecutive backoff.
      obtain ⟨hx, rfl⟩ := hover
      have hcount : countBackoff loop 1024 x = 1025 := by
        rcases hx with hx | hx <;> simp [countBackoff, hx]
      refine iff_of_false ?_ fun h => absurd (h 0) (by simp [hcount])
      simp [hx, bind, Except.bind]
    · have hnext : countBackoff loop n x ≤ 1024 := by
        obtain ⟨result, jitter⟩ := x
        have hlt : result = .failure ∨ result = .raised → n ≠ 1024 := fun hx h => hover ⟨hx, h⟩
        cases result with
        | failure => have := hlt (.inl rfl); simp only [countBackoff]; omega
        | raised => have := hlt (.inr rfl); simp only [countBackoff]; omega
        | success => exact Nat.zero_le _
        | idle => simp only [countBackoff]; split <;> omega
      rw [← ih _ hnext]
      have hdelay : ∃ delay, (if x.BacksOff then
            if n < 1024 then
              .ok (some (.finite (cfg.cap n * (1 / 2 + x.jitter.val * (1 / 2)))),
                countBackoff loop n x)
            else .error .overflowError
          else .ok (none, countBackoff loop n x) : Except PyError (Option Double × ℕ)) =
            .ok (delay, countBackoff loop n x) ∧
          ∀ d, delay = some d → ∃ q, d = .finite q ∧ cfg.cap n / 2 ≤ q ∧ q ≤ cfg.cap n := by
        by_cases hx : x.BacksOff
        · have hlt : n < 1024 := lt_of_le_of_ne hn fun h => hover ⟨hx, h⟩
          refine ⟨_, by rw [if_pos hx, if_pos hlt], fun d hd => ?_⟩
          rw [Option.some.injEq] at hd
          exact ⟨_, hd.symm, cap_half_le_delay cfg n x.jitter⟩
        · exact ⟨_, by rw [if_neg hx], by simp⟩
      obtain ⟨delay, heq, hbound⟩ := hdelay
      rw [heq]
      constructor
      · rintro ⟨delays, hrun, hall⟩
        obtain ⟨r, hr, hrun⟩ := bind_eq_ok_iff.mp hrun
        cases hr
        obtain ⟨rest, hrest, hcons⟩ := bind_eq_ok_iff.mp hrun
        cases hcons
        exact ⟨rest, hrest, fun i d hd => hall (i + 1) d (by simpa using hd)⟩
      · rintro ⟨rest, hrest, hall⟩
        refine ⟨delay :: rest,
          bind_eq_ok_iff.mpr ⟨_, rfl, bind_eq_ok_iff.mpr ⟨rest, hrest, rfl⟩⟩, fun i d hd => ?_⟩
        cases i with
        | zero => exact hbound d (by simpa using hd)
        | succ i => exact hall i d (by simpa using hd)

/-- A loop survives a run, with every delay in its bounds, exactly when the run never backs off more
than 1024 times in a row. -/
theorem loop_survives_iff (loop : Loop) (cfg : BackoffConfig) (xs : List Iteration) :
    Survives loop cfg xs ↔ ∀ i, consecutiveBackoffs loop (xs.take i) ≤ 1024 :=
  runLoop_spec loop cfg 0 (Nat.zero_le _) xs

/-! ## An outage that ends the task -/

/-- A second of initial backoff, a minute at most. -/
def minuteBackoff : BackoffConfig :=
  { initialBackoff := 1, maxBackoff := 60, initialBackoff_pos := by norm_num
    initialBackoff_le := by norm_num
    maxBackoff_finite := by
      unfold Double.overflowBound
      calc (60 : ℚ) < 2 ^ 6 := by norm_num
        _ < 2 ^ 1024 := pow_lt_pow_right₀ (by norm_num) (by norm_num) }

theorem foldl_countBackoff_replicate (loop : Loop) (jitter : Jitter) (n m : ℕ) :
    (List.replicate n ⟨.failure, jitter⟩).foldl (countBackoff loop) m = m + n := by
  induction n generalizing m with
  | zero => rfl
  | succ n ih => rw [List.replicate_succ, List.foldl_cons, ih]; simp only [countBackoff]; omega

/-- An outage of 1025 failed iterations ends every loop with an exception. -/
theorem long_outage_ends_loop :
    ¬ ∀ (loop : Loop) (cfg : BackoffConfig) (xs : List Iteration), Survives loop cfg xs := by
  intro h
  have hall := (runLoop_spec .sync minuteBackoff 0 (Nat.zero_le _) _).mp
    (h .sync minuteBackoff (List.replicate 1025 ⟨.failure, ⟨0, by norm_num⟩⟩)) 1025
  rw [List.take_of_length_le List.length_replicate.le, foldl_countBackoff_replicate] at hall
  omega

end WeaponDetection.Agent
