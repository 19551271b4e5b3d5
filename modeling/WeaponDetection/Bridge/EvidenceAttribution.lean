import WeaponDetection.Bridge.SnapshotBranch

/-!
# Which frame a JPEG is submitted for

The appsink callback takes frame numbers off the front of a queue the valve probe fills.  That is the
number of the buffer the JPEG was made of as long as every buffer the valve lets through arrives.
After the first loss the queue is one number ahead for good: every later JPEG of the source goes out
under the number of an earlier detection.
-/

namespace WeaponDetection.Bridge

open WeaponDetection.Foundations (TransitionSystem)

/-! ## What a step does to the two queues -/

/-- The frame numbers waiting for a source are those of the buffers behind its valve, in order. -/
def PipelineState.InStep (st : PipelineState) : Prop :=
  ∀ i, (st.downstream i).map frameNumberFromBuffer = (st.pendingSnapshotFrames i).map some

/-- Every JPEG went out under the number of the frame it was encoded from. -/
def PipelineState.WellAttributed (st : PipelineState) : Prop :=
  ∀ s ∈ st.submissions, frameNumberFromBuffer s.encodedFrom = some s.frameNumber

/-- A buffer at the probe is pushed on both queues or on neither. -/
theorem probe_queues (st : PipelineState) (now : ℚ) (sourceIndex : ℤ) (buffer : Buffer) :
    let st' := ((st.logProbe now sourceIndex buffer).onSnapshotValveProbe now sourceIndex
      buffer).passValve sourceIndex buffer
    st'.submissions = st.submissions ∧
      (st'.downstream = st.downstream ∧ st'.pendingSnapshotFrames = st.pendingSnapshotFrames ∨
        ∃ f, frameNumberFromBuffer buffer = some f ∧
          st'.downstream = Function.update st.downstream sourceIndex
            (st.downstream sourceIndex ++ [buffer]) ∧
          st'.pendingSnapshotFrames = Function.update st.pendingSnapshotFrames sourceIndex
            (st.pendingSnapshotFrames sourceIndex ++ [f])) := by
  intro st'
  simp only [st']
  cases hframe : frameNumberFromBuffer buffer with
  | none =>
    rw [probe_noFrame _ now sourceIndex hframe]
    exact ⟨rfl, .inl ⟨rfl, rfl⟩⟩
  | some f =>
    cases hfound : ((st.logProbe now sourceIndex buffer).rendezvous.consumeCandidate now sourceIndex
        f).2 with
    | false =>
      rw [probe_turnedAway _ now sourceIndex hframe hfound]
      exact ⟨rfl, .inl ⟨rfl, rfl⟩⟩
    | true =>
      rw [probe_found _ now sourceIndex hframe hfound]
      exact ⟨rfl, .inr ⟨f, rfl, rfl, rfl⟩⟩

/-- The callback of the appsink takes one number, if there is one, and submits under it. -/
theorem newSample_queues (st : PipelineState) (now : ℚ) (sourceIndex : ℤ) (buffer : Buffer)
    (mapped : Option Bytes) :
    let st' := st.onSnapshotNewSample now sourceIndex buffer mapped
    st'.downstream = st.downstream ∧
      st'.pendingSnapshotFrames = Function.update st.pendingSnapshotFrames sourceIndex
        (st.pendingSnapshotFrames sourceIndex).tail ∧
      (st'.submissions = st.submissions ∨
        ∃ f jpegBytes, (st.pendingSnapshotFrames sourceIndex).head? = some f ∧
          st'.submissions = st.submissions ++ [⟨sourceIndex, f, jpegBytes, buffer⟩]) := by
  intro st'
  simp only [st', PipelineState.onSnapshotNewSample]
  cases hpending : st.pendingSnapshotFrames sourceIndex with
  | nil =>
    have hsame : Function.update st.pendingSnapshotFrames sourceIndex [] =
        st.pendingSnapshotFrames := by
      rw [← hpending, Function.update_eq_self]
    exact ⟨rfl, hsame.symm, .inl rfl⟩
  | cons f pending =>
    cases mapped with
    | none => exact ⟨rfl, rfl, .inl rfl⟩
    | some jpegBytes => exact ⟨rfl, rfl, .inr ⟨f, jpegBytes, rfl, rfl⟩⟩

/-! ## Runs without loss -/

/-- Without loss a step keeps the queues in step and submits under the right number. -/
theorem attribution_step {cfg : BridgeConfig} {st st' : PipelineState} {action : PipelineAction}
    (hqueues : st.InStep) (hright : st.WellAttributed) (hlossless : Lossless st action)
    (hstep : pipelineStep cfg st action = some st') : st'.InStep ∧ st'.WellAttributed := by
  cases action with
  | recordDetection now batch d =>
    simp only [pipelineStep] at hstep
    split at hstep
    · obtain rfl := Option.some.inj hstep
      exact ⟨hqueues, hright⟩
    · cases hstep
  | valveProbe now sourceIndex batch buffer =>
    simp only [pipelineStep] at hstep
    split at hstep
    · obtain rfl := Option.some.inj hstep
      obtain ⟨hsubmissions, hcase⟩ := probe_queues st now sourceIndex buffer
      refine ⟨fun i => ?_, fun s hs => hright s (hsubmissions ▸ hs)⟩
      rcases hcase with ⟨hdown, hpending⟩ | ⟨f, hframe, hdown, hpending⟩
      · rw [hdown, hpending]
        exact hqueues i
      · rw [hdown, hpending]
        by_cases hi : i = sourceIndex
        · subst hi
          simp [hqueues i, hframe]
        · simp [hi, hqueues i]
    · cases hstep
  | newSample now sourceIndex skipped mapped =>
    obtain rfl : skipped = 0 := hlossless
    simp only [pipelineStep, List.drop_zero] at hstep
    have hsource := hqueues sourceIndex
    cases hdown : st.downstream sourceIndex with
    | nil =>
      rw [hdown] at hstep
      cases hstep
    | cons buffer rest =>
      rw [hdown] at hstep hsource
      obtain rfl := Option.some.inj hstep
      obtain ⟨hdown', hpending', hsubmit⟩ := newSample_queues
        { st with downstream := Function.update st.downstream sourceIndex rest } now sourceIndex
        buffer mapped
      constructor
      · intro i
        rw [hdown', hpending']
        by_cases hi : i = sourceIndex
        · subst hi
          have htail := congrArg List.tail hsource
          simpa using htail
        · simpa [hi] using hqueues i
      · rcases hsubmit with hsame | ⟨f, jpegBytes, hhead, hnew⟩
        · rw [PipelineState.WellAttributed, hsame]
          exact hright
        · intro s hs
          rw [hnew, List.mem_append, List.mem_singleton] at hs
          rcases hs with hs | rfl
          · exact hright s hs
          · -- the number at the front is that of the oldest buffer
            have hfront := congrArg List.head? hsource
            rw [List.head?_map, List.head?_map] at hfront
            simp only [List.head?_cons, Option.map_some] at hfront
            rw [hhead] at hfront
            exact Option.some.inj hfront
  | emptyPull sourceIndex =>
    obtain rfl := Option.some.inj hstep
    exact ⟨hqueues, hright⟩
  | submitAck now messageId outcome eventId snapshotRequired =>
    obtain rfl := Option.some.inj hstep
    exact ⟨hqueues, hright⟩

/-- **As long as no buffer is lost behind a valve, every JPEG is submitted for the frame it was
encoded from.** -/
theorem evidence_attributed (cfg : BridgeConfig) (st : PipelineState)
    (h : (pipelineSystem cfg).ReachableUnder Lossless st) :
    ∀ s ∈ st.submissions, frameNumberFromBuffer s.encodedFrom = some s.frameNumber := by
  have hinv : st.InStep ∧ st.WellAttributed := by
    induction h with
    | init hinit =>
      obtain rfl := hinit
      exact ⟨fun _ => rfl, fun s hs => absurd hs List.not_mem_nil⟩
    | step _ hguard hstep ih => exact attribution_step ih.1 ih.2 hguard hstep
  exact hinv.2

/-- One camera with an output of its own. -/
def oneCamera : BridgeConfig :=
  ⟨[⟨0, some "camera-0"⟩], true, true, .sixtyFour⟩

/-- A detection on the first frame and one on the second, both let through. -/
def twoCandidates : List PipelineAction :=
  let gun : Buffer := [⟨0, 1, ["gun"]⟩]
  let knife : Buffer := [⟨0, 2, ["knife"]⟩]
  [.recordDetection 0 gun ⟨0, "gun", 1⟩, .recordDetection 0 knife ⟨0, "knife", 2⟩,
    .valveProbe 1 0 gun gun, .valveProbe 1 0 knife knife]

theorem evidence_attributed_twoCandidates :
    ∃ st, (pipelineSystem oneCamera).ReachableUnder Lossless st ∧ st.submissions.length = 2 ∧
      ∀ s ∈ st.submissions, frameNumberFromBuffer s.encodedFrom = some s.frameNumber := by
  let actions := twoCandidates ++ [.newSample 2 0 0 (some [1]), .newSample 2 0 0 (some [2])]
  have hcount : ((pipelineSystem oneCamera).exec .fresh actions).map (·.submissions.length) =
      some 2 := by decide +kernel
  obtain ⟨st, hrun, hlength⟩ := Option.map_eq_some_iff.mp hcount
  have hreach : (pipelineSystem oneCamera).ReachableUnder Lossless st :=
    .exec (.init rfl) (by decide +kernel) hrun
  exact ⟨st, hreach, hlength, evidence_attributed oneCamera st hreach⟩

/-- The encoder drops the first frame: the JPEG of the second goes out under the first's number. -/
theorem lost_buffer_shifts_evidence :
    ∃ st, (pipelineSystem oneCamera).Reachable st ∧
      ∃ s ∈ st.submissions, frameNumberFromBuffer s.encodedFrom ≠ some s.frameNumber := by
  have hshift : ((pipelineSystem oneCamera).exec .fresh
      (twoCandidates ++ [.newSample 2 0 1 (some [2])])).map
      (fun st => st.submissions.map fun s => (s.frameNumber, frameNumberFromBuffer s.encodedFrom)) =
        some [(1, some 2)] := by decide +kernel
  obtain ⟨st, hrun, hsubmissions⟩ := Option.map_eq_some_iff.mp hshift
  have hmem : ((1 : ℤ), some (2 : ℤ)) ∈
      st.submissions.map fun s => (s.frameNumber, frameNumberFromBuffer s.encodedFrom) := by
    rw [hsubmissions]
    exact List.mem_singleton_self _
  obtain ⟨s, hs, hpair⟩ := List.mem_map.mp hmem
  obtain ⟨hnumber, hframe⟩ := Prod.mk.inj hpair
  refine ⟨st, .exec (.init rfl) hrun, s, hs, ?_⟩
  rw [hnumber, hframe]
  decide

end WeaponDetection.Bridge
