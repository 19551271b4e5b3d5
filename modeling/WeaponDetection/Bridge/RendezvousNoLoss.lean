import WeaponDetection.Bridge.RendezvousExactlyOnce

/-!
# When no snapshot is lost

`_by_frame` is meant to be the image of `_by_message`: one entry per candidate, from its frame to
its message, in the same order.  A run keeps that as long as no detection is recorded on a frame that
still has a live candidate (`FrameFree`).  Under it the JPEG of a frame always reaches the candidate
of that frame, so a detection whose JPEG and acknowledgement arrive before its time is up, and that
is not evicted, completes: `rendezvous_exactly_once`.
-/

namespace WeaponDetection.Bridge

open WeaponDetection.Foundations (OrderedDict)

/-! ## The second index as the image of the first -/

/-- The index entry of a candidate. -/
def indexEntry (e : String × Candidate) : FrameKey × String := (e.2.frame, e.1)

/-- The second index is the image of the first, in the same order. -/
def Rendezvous.Indexed (st : Rendezvous) : Prop :=
  st.byFrame.entries = st.byMessage.entries.map indexEntry

theorem Rendezvous.Indexed.mem {st : Rendezvous} (h : st.Indexed) {m : String} {c : Candidate}
    (hmem : (m, c) ∈ st.byMessage.entries) : (c.frame, m) ∈ st.byFrame.entries := by
  rw [h]
  exact List.mem_map.mpr ⟨(m, c), hmem, rfl⟩

/-- A message's entries in the second index are its candidate's frame. -/
theorem Rendezvous.Indexed.frame_eq {st : Rendezvous} (h : st.Indexed) {m : String} {c : Candidate}
    (hmem : (m, c) ∈ st.byMessage.entries) {k : FrameKey} (hk : (k, m) ∈ st.byFrame.entries) :
    k = c.frame := by
  rw [h] at hk
  obtain ⟨⟨m', c'⟩, hc', heq⟩ := List.mem_map.mp hk
  obtain ⟨rfl, rfl⟩ := Prod.mk.inj heq
  rw [OrderedDict.value_unique hc' hmem]

/-- Candidates of one frame are one candidate. -/
theorem Rendezvous.Indexed.frame_inj {st : Rendezvous} (h : st.Indexed) {m m' : String}
    {c c' : Candidate} (hc : (m, c) ∈ st.byMessage.entries) (hc' : (m', c') ∈ st.byMessage.entries)
    (hframe : c.frame = c'.frame) : m = m' :=
  OrderedDict.value_unique (h.mem hc) (hframe ▸ h.mem hc')

/-- Removal keeps the image when frame and message name the same entry. -/
theorem Rendezvous.Indexed.remove {st : Rendezvous} (h : st.Indexed) {c : Candidate}
    (hc : ∀ e ∈ st.byMessage.entries, e.2.frame = c.frame ↔ e.1 = c.messageId) :
    (st.remove c).Indexed := by
  simp only [Rendezvous.Indexed, Rendezvous.remove, OrderedDict.pop, OrderedDict.filter]
  rw [h, List.filter_map]
  congr 1
  refine List.filter_congr fun e he => ?_
  simp [indexEntry, hc e he]

/-- A live candidate's frame and message name the same entry. -/
theorem Rendezvous.Indexed.frame_iff {st : Rendezvous} (h : st.Indexed) {c : Candidate}
    {m : String} (hmem : (m, c) ∈ st.byMessage.entries) :
    ∀ e ∈ st.byMessage.entries, e.2.frame = c.frame ↔ e.1 = m := by
  rintro ⟨m', c'⟩ he
  constructor
  · exact fun hframe => h.frame_inj he hmem hframe
  · rintro rfl
    rw [OrderedDict.value_unique he hmem]

theorem Rendezvous.Indexed.foldl_remove {st : Rendezvous} (h : st.Indexed) (cs : List Candidate)
    (hcs : ∀ c ∈ cs, ∀ e ∈ st.byMessage.entries, e.2.frame = c.frame ↔ e.1 = c.messageId) :
    (cs.foldl Rendezvous.remove st).Indexed := by
  induction cs generalizing st with
  | nil => exact h
  | cons c cs ih =>
    rw [List.forall_mem_cons] at hcs
    exact ih (h.remove hcs.1) fun c' hc' e he =>
      hcs.2 c' hc' e ((shrinks_remove st c).byMessage e he)

theorem Rendezvous.Indexed.expire {st : Rendezvous} (h : st.Indexed) (hk : st.Keyed) (now : ℚ) :
    (st.expire now).Indexed := by
  refine h.foldl_remove _ fun c hc => ?_
  obtain ⟨⟨m, c'⟩, hmem, rfl⟩ := List.mem_map.mp (List.mem_filter.mp hc).1
  rw [(hk m c' hmem).1]
  exact h.frame_iff hmem

/-- Changing fields other than frame and message keeps the image. -/
theorem Rendezvous.Indexed.store {st : Rendezvous} (h : st.Indexed) {c c' : Candidate}
    (hmem : (c.messageId, c) ∈ st.byMessage.entries) (hid : c'.messageId = c.messageId)
    (hframe : c'.frame = c.frame) : (st.store c').Indexed := by
  simp only [Rendezvous.Indexed, Rendezvous.store]
  rw [OrderedDict.entries_set_of_mem (List.mem_map.mpr ⟨_, hmem, hid.symm⟩), List.map_map, h]
  refine List.map_congr_left fun e he => ?_
  by_cases hkey : e.1 = c'.messageId
  · obtain ⟨m, d⟩ := e
    obtain rfl : m = c.messageId := hkey.trans hid
    obtain rfl := OrderedDict.value_unique hmem he
    simp [indexEntry, hid, hframe]
  · simp [hkey]

/-- Dropping the oldest message drops the oldest frame. -/
theorem Rendezvous.Indexed.evictOldest {st : Rendezvous} (h : st.Indexed) :
    st.evictOldest.Indexed ∧ st.evictOldest.byMessage.entries = st.byMessage.entries.tail := by
  unfold Rendezvous.evictOldest
  cases hentries : st.byMessage.entries with
  | nil => exact ⟨h, hentries⟩
  | cons e rest =>
    obtain ⟨m, c⟩ := e
    refine ⟨?_, by simp [OrderedDict.popFirst, hentries]⟩
    have hframes : st.byFrame.entries = (c.frame, m) :: rest.map indexEntry := by
      rw [h, hentries]
      rfl
    have hfresh : ∀ e ∈ rest.map indexEntry, e.1 ≠ c.frame := by
      have hnodup := st.byFrame.nodup
      rw [hframes, List.map_cons, List.nodup_cons] at hnodup
      exact fun e he heq => hnodup.1 (List.mem_map.mpr ⟨e, he, heq⟩)
    simp only [Rendezvous.Indexed, List.head?_cons, OrderedDict.popFirst, OrderedDict.pop,
      OrderedDict.filter, hentries, List.tail_cons]
    rw [hframes, List.filter_cons, if_neg (by simp)]
    exact List.filter_eq_self.mpr fun e he => by simpa using hfresh e he

theorem Rendezvous.Indexed.iterate_evictOldest {st : Rendezvous} (h : st.Indexed) (n : ℕ) :
    (Rendezvous.evictOldest^[n] st).Indexed ∧
      (Rendezvous.evictOldest^[n] st).byMessage.entries = st.byMessage.entries.drop n := by
  induction n generalizing st with
  | zero => exact ⟨h, rfl⟩
  | succ n ih =>
    obtain ⟨hindexed, htail⟩ := h.evictOldest
    have ih := ih hindexed
    rw [htail, List.drop_tail] at ih
    exact ih

/-- The frame loop of the eviction has nothing to do. -/
theorem Rendezvous.Indexed.evict {st : Rendezvous} (h : st.Indexed) (cfg : RendezvousConfig) :
    (st.evict cfg).Indexed := by
  obtain ⟨hindexed, hdrop⟩ :=
    h.iterate_evictOldest (st.byMessage.entries.length - cfg.maxRetained)
  have hzero : (Rendezvous.evictOldest^[st.byMessage.entries.length - cfg.maxRetained]
      st).byFrame.entries.length - cfg.maxRetained = 0 := by
    rw [hindexed, List.length_map, hdrop, List.length_drop]
    omega
  unfold Rendezvous.evict
  simp only [hzero, Function.iterate_zero, id_eq]
  exact hindexed

/-- Recording a new message on a free frame extends both indexes by the same entry. -/
theorem Rendezvous.Indexed.insert {st : Rendezvous} (h : st.Indexed) (cfg : RendezvousConfig)
    (now : ℚ) {s : ℤ} {m : String} {f : ℤ} (hnew : ∀ c, (m, c) ∉ st.byMessage.entries)
    (hfree : ∀ m' c, (m', c) ∈ st.byMessage.entries → c.frame ≠ (s, f)) :
    (st.insert cfg now s m f).Indexed := by
  simp only [Rendezvous.Indexed, Rendezvous.insert, OrderedDict.entries_moveToEnd_set,
    OrderedDict.pop, OrderedDict.filter]
  rw [h, List.map_append, List.filter_eq_self.mpr, List.filter_eq_self.mpr]
  · rfl
  · rintro ⟨m', c⟩ he
    have : m' ≠ m := fun heq => hnew c (heq ▸ he)
    simpa using this
  · intro e he
    obtain ⟨⟨m', c⟩, hmem, rfl⟩ := List.mem_map.mp he
    exact decide_eq_true (hfree m' c hmem)

/-- A recording is made on a frame without a live candidate. -/
def FrameFree (st : Rendezvous) (x : TimedCall) : Prop :=
  match x.call with
  | .recordDetection sourceId _ frameNumber =>
    ∀ m c, (m, c) ∈ (st.expire x.now).byMessage.entries → c.frame ≠ (sourceId, frameNumber)
  | _ => True

/-- The step lemma of the image. -/
theorem Rendezvous.Indexed.step {cfg : RendezvousConfig} {st : Rendezvous} (h : st.Indexed)
    (hk : st.Keyed) {x : TimedCall} (hfree : FrameFree st x)
    (hnew : ∀ s m f, x.call = .recordDetection s m f → ∀ c, (m, c) ∉ st.byMessage.entries) :
    (step cfg st x).1.Indexed := by
  have h1 : (st.expire x.now).Indexed := h.expire hk x.now
  have hk1 : (st.expire x.now).Keyed := (shrinks_expire st x.now).keyed hk
  have hcase := step_case cfg hk x
  generalize (Bridge.step cfg st x).1 = st' at hcase ⊢
  generalize (Bridge.step cfg st x).2 = out at hcase
  cases hcase with
  | keep _ => exact h1
  | discard hmem _ _ => exact h1.remove (h1.frame_iff hmem)
  | @record sourceId messageId frameNumber hcall =>
    rw [FrameFree, hcall] at hfree
    refine Rendezvous.Indexed.evict (h1.insert cfg x.now (fun c hc => ?_) hfree) cfg
    exact hnew _ _ _ hcall c ((shrinks_expire st x.now).byMessage _ hc)
  | update hmem hbrings _ => exact h1.store hmem hbrings.messageId hbrings.frame
  | @complete c c' _ _ hmem hbrings _ _ _ =>
    refine h1.remove fun e he => ?_
    rw [hbrings.frame, hbrings.messageId]
    exact h1.frame_iff hmem e he

/-- A recorded candidate survives its own recording: the bound evicts older ones. -/
theorem Rendezvous.Indexed.mem_record {st : Rendezvous} (h : st.Indexed) (cfg : RendezvousConfig)
    (now : ℚ) {s : ℤ} {m : String} {f : ℤ} (hnew : ∀ c, (m, c) ∉ st.byMessage.entries)
    (hfree : ∀ m' c, (m', c) ∈ st.byMessage.entries → c.frame ≠ (s, f)) :
    (m, newCandidate cfg now s m f) ∈
      ((st.insert cfg now s m f).evict cfg).byMessage.entries := by
  have hins := h.insert cfg now hnew hfree
  obtain ⟨-, hdrop⟩ := hins.iterate_evictOldest
    ((st.insert cfg now s m f).byMessage.entries.length - cfg.maxRetained)
  have hframes : ∀ (n : ℕ) (st : Rendezvous),
      (Rendezvous.evictFrame^[n] st).byMessage = st.byMessage := fun n => by
    induction n with
    | zero => exact fun _ => rfl
    | succ n ih => exact fun st => ih st.evictFrame
  unfold Rendezvous.evict
  rw [hframes, hdrop]
  have hlast : (st.insert cfg now s m f).byMessage.entries =
      (st.byMessage.pop m).entries ++ [(m, newCandidate cfg now s m f)] :=
    OrderedDict.entries_moveToEnd_set _ _ _
  have hpos := cfg.maxRetained_pos
  rw [hlast, List.drop_append_of_le_length (by simp only [List.length_append, List.length_singleton]
                                               omega)]
  exact List.mem_append_right _ (List.mem_singleton_self _)

/-! ## Following one message -/

/-- The call brings a JPEG of the frame. -/
def IsJpeg (s f : ℤ) (bytes : Bytes) (x : TimedCall) : Prop := x.call = .submitJpeg s f bytes

/-- The call brings an accepted acknowledgement of the message that asks for a snapshot. -/
def IsAccept (m eventId : String) (x : TimedCall) : Prop :=
  x.call = .submitAck m (some "accepted") (some eventId) true

/-- Every acknowledgement of the message is accepted and asks for a snapshot. -/
def AcksAccept (m : String) (x : TimedCall) : Prop :=
  ∀ outcome eventId snapshotRequired, x.call = .submitAck m outcome eventId snapshotRequired →
    ∃ e, IsAccept m e x

/-- The call records another message and the bound drops this one. -/
def Evicts (cfg : RendezvousConfig) (st : Rendezvous) (m : String) (x : TimedCall) : Prop :=
  (∃ c, (m, c) ∈ (st.expire x.now).byMessage.entries) ∧
    (∃ s m' f, x.call = .recordDetection s m' f) ∧
    ∀ c, (m, c) ∉ (step cfg st x).1.byMessage.entries

/-- A candidate holds exactly the halves that have been submitted since its recording. -/
structure Candidate.Holds (seen : List TimedCall) (s f : ℤ) (m : String) (c : Candidate) :
    Prop where
  jpeg : (∃ y ∈ seen, ∃ b, IsJpeg s f b y) → c.jpegBytes.isSome = true
  ack : (∃ y ∈ seen, ∃ e, IsAccept m e y) →
    c.ackOutcome = some "accepted" ∧ c.snapshotRequired = true ∧ c.eventId.isSome = true
  jpegFrom : ∀ b, c.jpegBytes = some b → ∃ y ∈ seen, IsJpeg s f b y
  ackFrom : ∀ e, c.eventId = some e → ∃ y ∈ seen, IsAccept m e y

/-- A message is waiting with the halves it has, or has been answered with two of them. -/
inductive Tracked (s f : ℤ) (m : String) (expiresAt : ℚ) (seen : List TimedCall) (st : Rendezvous)
    (outs : List Completion) : Prop where
  | waiting (c : Candidate) : (m, c) ∈ st.byMessage.entries → c.frame = (s, f) →
      c.expiresAt = expiresAt → c.Holds seen s f m → Tracked s f m expiresAt seen st outs
  | answered (o : Completion) : o ∈ outs → o.messageId = m →
      (∃ y ∈ seen, IsJpeg s f o.jpegBytes y) → (∃ y ∈ seen, IsAccept m o.eventId y) →
      Tracked s f m expiresAt seen st outs

theorem exists_mem_append_singleton {P : TimedCall → Prop} {seen : List TimedCall} {x : TimedCall} :
    (∃ y ∈ seen ++ [x], P y) ↔ (∃ y ∈ seen, P y) ∨ P x := by
  simp only [List.mem_append, List.mem_singleton]
  constructor
  · rintro ⟨y, hy | rfl, hP⟩
    · exact .inl ⟨y, hy, hP⟩
    · exact .inr hP
  · rintro (⟨y, hy, hP⟩ | hP)
    · exact ⟨y, .inl hy, hP⟩
    · exact ⟨x, .inr rfl, hP⟩

/-- A call that is no half of the message changes nothing about what it holds. -/
theorem Candidate.Holds.skip {seen : List TimedCall} {s f : ℤ} {m : String} {c : Candidate}
    (h : c.Holds seen s f m) {x : TimedCall} (hjpeg : ∀ b, ¬ IsJpeg s f b x)
    (hack : ∀ e, ¬ IsAccept m e x) : c.Holds (seen ++ [x]) s f m where
  jpeg := fun hsub => h.jpeg <| (exists_mem_append_singleton.mp hsub).resolve_right
    fun ⟨b, hb⟩ => hjpeg b hb
  ack := fun hsub => h.ack <| (exists_mem_append_singleton.mp hsub).resolve_right
    fun ⟨e, he⟩ => hack e he
  jpegFrom := fun b hb => exists_mem_append_singleton.mpr (.inl (h.jpegFrom b hb))
  ackFrom := fun e he => exists_mem_append_singleton.mpr (.inl (h.ackFrom e he))

/-- A half that is brought to the candidate is held. -/
theorem Brings.holds {seen : List TimedCall} {s f : ℤ} {m : String} {st : Rendezvous}
    {x : TimedCall} {c c' : Candidate} (hb : Brings x st c c') (h : c.Holds seen s f m)
    (hid : c.messageId = m) (hframe : ∀ k, (k, m) ∈ st.byFrame.entries → k = (s, f))
    (hacks : AcksAccept m x) : c'.Holds (seen ++ [x]) s f m := by
  cases hb with
  | valve hcall =>
    have hskip := h.skip (x := x) (fun b hb => by simp [IsJpeg, hcall] at hb)
      fun e he => by simp [IsAccept, hcall] at he
    exact ⟨hskip.jpeg, hskip.ack, hskip.jpegFrom, hskip.ackFrom⟩
  | @jpeg sourceId frameNumber jpegBytes hcall hmem =>
    obtain ⟨rfl, rfl⟩ := Prod.mk.inj (hframe _ (hid ▸ hmem))
    refine ⟨fun _ => rfl, fun hsub => h.ack ?_, fun b hb => ?_, fun e he => ?_⟩
    · refine (exists_mem_append_singleton.mp hsub).resolve_right ?_
      rintro ⟨e, he⟩
      simp [IsAccept, hcall] at he
    · rw [Option.some.injEq] at hb
      exact exists_mem_append_singleton.mpr (.inr (hb ▸ hcall))
    · exact exists_mem_append_singleton.mpr (.inl (h.ackFrom e he))
  | @ack eventId hcall =>
    obtain ⟨e, he⟩ := hacks _ _ _ (hid ▸ hcall)
    have hevent : eventId = some e := by
      have := (hid ▸ hcall).symm.trans he
      simpa using this
    refine ⟨fun hsub => h.jpeg ?_, fun _ => ⟨rfl, rfl, by simp [hevent]⟩, fun b hb => ?_,
      fun e' he' => ?_⟩
    · refine (exists_mem_append_singleton.mp hsub).resolve_right ?_
      rintro ⟨b, hb⟩
      simp [IsJpeg, hcall] at hb
    · exact exists_mem_append_singleton.mpr (.inl (h.jpegFrom b hb))
    · obtain rfl : e = e' := by simpa [hevent] using he'
      exact exists_mem_append_singleton.mpr (.inr he)

/-- A field brought to another candidate is no half of this message. -/
theorem Brings.other {s f : ℤ} {m : String} {st : Rendezvous} {x : TimedCall} {c c' : Candidate}
    (hb : Brings x st c c') (hne : c.messageId ≠ m) (hmem : ((s, f), m) ∈ st.byFrame.entries) :
    (∀ b, ¬ IsJpeg s f b x) ∧ ∀ e, ¬ IsAccept m e x := by
  cases hb with
  | valve hcall => exact ⟨fun b hb => by simp [IsJpeg, hcall] at hb,
      fun e he => by simp [IsAccept, hcall] at he⟩
  | jpeg hcall hmem' =>
    refine ⟨fun b hb => ?_, fun e he => by simp [IsAccept, hcall] at he⟩
    simp only [IsJpeg, hcall, Call.submitJpeg.injEq] at hb
    obtain ⟨rfl, rfl, -⟩ := hb
    exact hne (OrderedDict.value_unique hmem' hmem)
  | ack hcall =>
    refine ⟨fun b hb => by simp [IsJpeg, hcall] at hb, fun e he => ?_⟩
    simp only [IsAccept, hcall, Call.submitAck.injEq] at he
    exact hne he.1

/-- The step lemma of one message. -/
theorem Tracked.step {cfg : RendezvousConfig} {s f : ℤ} {m : String} {expiresAt : ℚ}
    {seen : List TimedCall} {st : Rendezvous} {outs : List Completion}
    (h : Tracked s f m expiresAt seen st outs) (hk : st.Keyed) (hi : st.Indexed) {x : TimedCall}
    (hnow : x.now < expiresAt) (hevict : ¬ Evicts cfg st m x) (hacks : AcksAccept m x)
    (hnew : ∀ s' f', x.call ≠ .recordDetection s' m f') :
    Tracked s f m expiresAt (seen ++ [x]) (step cfg st x).1 (outs ++ (step cfg st x).2.toList) := by
  cases h with
  | answered o ho hid hjpeg hack =>
    exact .answered o (List.mem_append_left _ ho) hid
      (exists_mem_append_singleton.mpr (.inl hjpeg)) (exists_mem_append_singleton.mpr (.inl hack))
  | waiting c hmem hframe hexp hholds =>
    have hk1 : (st.expire x.now).Keyed := (shrinks_expire st x.now).keyed hk
    have hi1 : (st.expire x.now).Indexed := hi.expire hk x.now
    have hmem1 : (m, c) ∈ (st.expire x.now).byMessage.entries :=
      (mem_expire hk x.now m c).mpr ⟨hmem, hexp ▸ hnow⟩
    have hentry : ((s, f), m) ∈ (st.expire x.now).byFrame.entries := hframe ▸ hi1.mem hmem1
    have hcase := step_case cfg hk x
    rw [Evicts, not_and] at hevict
    have hevict := hevict ⟨c, hmem1⟩
    generalize (Bridge.step cfg st x).1 = st' at hcase hevict ⊢
    generalize (Bridge.step cfg st x).2 = out at hcase ⊢
    cases hcase with
    | keep hmiss =>
      refine .waiting c hmem1 hframe hexp (hholds.skip (fun b hb => ?_) fun e he => ?_)
      · rw [hb] at hmiss
        exact hmiss m c hentry hmem1
      · rw [he] at hmiss
        exact hmiss c hmem1
    | @discard d outcome eventId snapshotRequired hd hcall hbad =>
      have hne : d.messageId ≠ m := by
        rintro rfl
        obtain ⟨e, he⟩ := hacks _ _ _ hcall
        simp only [IsAccept, hcall, Call.submitAck.injEq] at he
        rcases hbad with hbad | hbad
        · exact hbad he.2.1
        · exact absurd he.2.2.2 (by simp [hbad])
      refine .waiting c (OrderedDict.mem_entries_pop.mpr ⟨hmem1, fun h => hne h.symm⟩) hframe hexp
        (hholds.skip (fun b hb => by simp [IsJpeg, hcall] at hb) fun e he => ?_)
      simp only [IsAccept, hcall, Call.submitAck.injEq] at he
      exact hne he.1
    | @record s' m' f' hcall =>
      obtain ⟨c', hc'⟩ : ∃ c', (m, c') ∈ (((st.expire x.now).insert cfg x.now s' m' f').evict
          cfg).byMessage.entries := by
        by_contra hnone
        exact hevict ⟨⟨s', m', f', hcall⟩, fun c' hc' => hnone ⟨c', hc'⟩⟩
      have hold : (m, c') ∈ (st.expire x.now).byMessage.entries := by
        refine ((mem_insert_evict cfg (st.expire x.now) x.now s' m' f').1 _ hc').resolve_right ?_
        intro heq
        obtain ⟨rfl, -⟩ := Prod.mk.inj heq
        exact hnew s' f' hcall
      obtain rfl := OrderedDict.value_unique hmem1 hold
      exact .waiting c hc' hframe hexp (hholds.skip (fun b hb => by simp [IsJpeg, hcall] at hb)
        fun e he => by simp [IsAccept, hcall] at he)
    | @update d d' hd hbrings _ =>
      by_cases hid : d.messageId = m
      · subst hid
        obtain rfl := OrderedDict.value_unique hmem1 hd
        refine .waiting d' (OrderedDict.mem_entries_set.mpr (.inr (by rw [hbrings.messageId])))
          (hbrings.frame.trans hframe) (hbrings.expiresAt.trans hexp)
          (hbrings.holds hholds rfl (fun k hentry' => ?_) hacks)
        exact (hi1.frame_eq hmem1 hentry').trans hframe
      · obtain ⟨hjpeg, hack⟩ := hbrings.other hid hentry
        refine .waiting c (OrderedDict.mem_entries_set.mpr (.inl ⟨hmem1, ?_⟩)) hframe hexp
          (hholds.skip hjpeg hack)
        rw [hbrings.messageId]
        exact fun h => hid h.symm
    | @complete d d' eventId jpegBytes hd hbrings _ hevent hbytes =>
      by_cases hid : d.messageId = m
      · subst hid
        obtain rfl := OrderedDict.value_unique hmem1 hd
        have hholds' := hbrings.holds hholds rfl
          (fun k hentry' => (hi1.frame_eq hmem1 hentry').trans hframe) hacks
        exact .answered _ (List.mem_append_right _ (List.mem_singleton_self _)) rfl
          (hholds'.jpegFrom _ hbytes) (hholds'.ackFrom _ hevent)
      · obtain ⟨hjpeg, hack⟩ := hbrings.other hid hentry
        refine .waiting c (OrderedDict.mem_entries_pop.mpr ⟨hmem1, ?_⟩) hframe hexp
          (hholds.skip hjpeg hack)
        rw [hbrings.messageId]
        exact fun h => hid h.symm

/-! ## Whole runs -/

/-- Every recording of a list of calls is made on a frame without a live candidate. -/
def FramesFree (cfg : RendezvousConfig) (st : Rendezvous) : List TimedCall → Prop
  | [] => True
  | x :: xs => FrameFree st x ∧ FramesFree cfg (step cfg st x).1 xs

instance (st : Rendezvous) (x : TimedCall) : Decidable (FrameFree st x) := by
  unfold FrameFree
  exact match x.call with
  | .recordDetection sourceId _ frameNumber =>
    decidable_of_iff (∀ e ∈ (st.expire x.now).byMessage.entries, e.2.frame ≠ (sourceId, frameNumber))
      ⟨fun h m c hmem => h (m, c) hmem, fun h e he => h e.1 e.2 he⟩
  | .consumeCandidate _ _ => isTrue trivial
  | .submitJpeg _ _ _ => isTrue trivial
  | .submitAck _ _ _ _ => isTrue trivial

instance decidableFramesFree (cfg : RendezvousConfig) (st : Rendezvous) :
    (calls : List TimedCall) → Decidable (FramesFree cfg st calls)
  | [] => isTrue trivial
  | x :: xs => @instDecidableAnd _ _ inferInstance (decidableFramesFree cfg (step cfg st x).1 xs)

theorem framesFree_append {cfg : RendezvousConfig} {st : Rendezvous} {xs ys : List TimedCall} :
    FramesFree cfg st (xs ++ ys) ↔ FramesFree cfg st xs ∧ FramesFree cfg (run cfg st xs) ys := by
  induction xs generalizing st with
  | nil => simp [FramesFree, run]
  | cons x xs ih => simp only [List.cons_append, FramesFree, run, ih, and_assoc]

/-- A message that has not been recorded has no candidate. -/
theorem not_mem_of_not_recorded {cfg : RendezvousConfig} {calls : List TimedCall} {m : String}
    (hids : (recordedIds calls).Nodup) (hm : m ∉ recordedIds calls) (c : Candidate) :
    (m, c) ∉ (run cfg .fresh calls).byMessage.entries := by
  intro hmem
  have hsafe := safeInv_run cfg calls hids
  obtain ⟨y, hy, hcall⟩ := (hsafe.history m c hmem).recorded
  rw [(hsafe.keyed m c hmem).1] at hcall
  exact hm (mem_recordedIds hy hcall)

/-- Messages recorded later are new. -/
theorem not_recorded_before {pre post : List TimedCall} {x : TimedCall} {s f : ℤ} {m : String}
    (hids : (recordedIds (pre ++ x :: post)).Nodup) (hx : x.call = .recordDetection s m f) :
    m ∉ recordedIds pre ∧ m ∉ recordedIds post := by
  have hsplit : recordedIds (pre ++ x :: post) = recordedIds pre ++ m :: recordedIds post := by
    simp [recordedIds, List.filterMap_append, hx]
  rw [hsplit, List.nodup_append, List.nodup_cons] at hids
  exact ⟨fun hm => hids.2.2 _ hm _ (List.mem_cons_self ..) rfl, hids.2.1.1⟩

/-- The image is kept by every run without shared frames. -/
theorem indexed_run {cfg : RendezvousConfig} {calls : List TimedCall}
    (hids : (recordedIds calls).Nodup) (hfree : FramesFree cfg .fresh calls) :
    (run cfg .fresh calls).Indexed := by
  induction calls using List.reverseRecOn with
  | nil => rfl
  | append_singleton calls x ih =>
    have hids' := hids.sublist ((List.sublist_append_left calls [x]).filterMap _)
    rw [framesFree_append] at hfree
    rw [run_append]
    refine (ih hids' hfree.1).step (safeInv_run cfg calls hids').keyed hfree.2.1 ?_
    intro s m f hcall
    exact not_mem_of_not_recorded hids' (not_recorded_before hids hcall).1

/-- No snapshot is lost in a list of calls: wherever a message is recorded and the calls `during` that
follow in time bring a JPEG of its frame and an acknowledgement of it, in either order, while the
message is not evicted and no acknowledgement of it discards it, exactly one call returns a result
for it: one of `during`, with a JPEG and an event submitted in `during`. -/
def NoLoss (cfg : RendezvousConfig) (calls : List TimedCall) : Prop :=
  ∀ pre x during rest s m f, calls = pre ++ x :: (during ++ rest) →
    x.call = .recordDetection s m f →
    (∀ y ∈ during, y.now < x.now + cfg.ttlSeconds) →
    (∀ done y todo, during = done ++ y :: todo →
      ¬ Evicts cfg (run cfg .fresh (pre ++ x :: done)) m y) →
    (∀ y ∈ during, AcksAccept m y) →
    (∃ y ∈ during, ∃ bytes, IsJpeg s f bytes y) →
    (∃ y ∈ during, ∃ eventId, IsAccept m eventId y) →
    ∃ o, (completions cfg .fresh calls).filter (fun o => o.messageId = m) = [o] ∧
      o ∈ completions cfg (run cfg .fresh (pre ++ [x])) during ∧
      (∃ y ∈ during, IsJpeg s f o.jpegBytes y) ∧ ∃ y ∈ during, IsAccept m o.eventId y

/-- The run lemma of one message, from its recording on. -/
theorem tracked_run {cfg : RendezvousConfig} {pre during : List TimedCall} {x : TimedCall} {s f : ℤ}
    {m : String} (hids : (recordedIds (pre ++ x :: during)).Nodup)
    (hfree : FramesFree cfg .fresh (pre ++ x :: during)) (hx : x.call = .recordDetection s m f)
    (hnow : ∀ y ∈ during, y.now < x.now + cfg.ttlSeconds)
    (hevict : ∀ done y todo, during = done ++ y :: todo →
      ¬ Evicts cfg (run cfg .fresh (pre ++ x :: done)) m y)
    (hacks : ∀ y ∈ during, AcksAccept m y) :
    Tracked s f m (x.now + cfg.ttlSeconds) during (run cfg .fresh (pre ++ x :: during))
      (completions cfg (run cfg .fresh (pre ++ [x])) during) := by
  induction during using List.reverseRecOn with
  | nil =>
    have hids' := hids.sublist ((List.sublist_append_left pre [x]).filterMap _)
    rw [framesFree_append] at hfree
    have hnew : ∀ c, (m, c) ∉ ((run cfg .fresh pre).expire x.now).byMessage.entries := fun c hc =>
      not_mem_of_not_recorded hids' (not_recorded_before hids hx).1 c
        ((shrinks_expire _ x.now).byMessage _ hc)
    have hindexed := (indexed_run hids' hfree.1).expire (safeInv_run cfg pre hids').keyed x.now
    have hframe := hfree.2.1
    rw [FrameFree, hx] at hframe
    refine .waiting (newCandidate cfg x.now s m f) ?_ rfl rfl
      ⟨by simp, by simp, by simp [newCandidate], by simp [newCandidate]⟩
    rw [run_append]
    simp only [run, step, hx]
    exact hindexed.mem_record cfg x.now hnew hframe
  | append_singleton during y ih =>
    have hcut : pre ++ x :: (during ++ [y]) = (pre ++ x :: during) ++ [y] := by simp
    rw [hcut] at hids hfree
    have hids' := hids.sublist ((List.sublist_append_left (pre ++ x :: during) [y]).filterMap _)
    rw [framesFree_append] at hfree
    have ih := ih hids' hfree.1 (fun z hz => hnow z (List.mem_append_left _ hz))
      (fun done z todo h => hevict done z (todo ++ [y]) (by simp [h]))
      (fun z hz => hacks z (List.mem_append_left _ hz))
    have hrun : run cfg (run cfg .fresh (pre ++ [x])) during = run cfg .fresh (pre ++ x :: during) := by
      rw [← run_append, List.append_assoc, List.singleton_append]
    rw [hcut, run_append, completions_append, hrun]
    simp only [run, completions, List.append_nil]
    have hy : y ∈ during ++ [y] := by simp
    refine ih.step (safeInv_run cfg _ hids').keyed (indexed_run hids' hfree.1) (hnow y hy)
      (hevict during y [] rfl) (hacks y hy) fun s' f' hcall => ?_
    rw [List.append_assoc, List.cons_append] at hids
    exact (not_recorded_before hids hx).2 (mem_recordedIds hy hcall)

/-- A message's results are one result when there is one at all. -/
theorem filter_eq_singleton {outs : List Completion} (h : (outs.map Completion.messageId).Nodup)
    {o : Completion} (ho : o ∈ outs) :
    outs.filter (fun o' => o'.messageId = o.messageId) = [o] := by
  have hnodup : outs.Nodup := h.of_map _
  refine List.perm_singleton.mp ?_
  refine (List.perm_ext_iff_of_nodup (hnodup.filter _) (List.nodup_singleton o)).mpr fun o' => ?_
  rw [List.mem_filter, List.mem_singleton, decide_eq_true_eq]
  constructor
  · exact fun ⟨ho', heq⟩ => List.inj_on_of_nodup_map h ho' ho heq
  · rintro rfl
    exact ⟨ho, rfl⟩

/-- Distinct messages and free frames: no message gets two results, every result carries a JPEG
submitted for its own frame and the event of its own acknowledgement, and no snapshot is lost.  The
first two need no free frames. -/
theorem rendezvous_exactly_once (cfg : RendezvousConfig) (calls : List TimedCall)
    (hids : (recordedIds calls).Nodup) :
    ((completions cfg .fresh calls).map Completion.messageId).Nodup ∧
      (∀ o ∈ completions cfg .fresh calls, o.Earned calls) ∧
      (FramesFree cfg .fresh calls → NoLoss cfg calls) := by
  have hsafe := safeInv_run cfg calls hids
  refine ⟨hsafe.once, hsafe.earned, fun hfree => ?_⟩
  rintro pre x during rest s m f rfl hx hnow hevict hacks hjpeg hack
  have hcut : pre ++ x :: (during ++ rest) = (pre ++ x :: during) ++ rest := by simp
  have hids' : (recordedIds (pre ++ x :: during)).Nodup := by
    rw [hcut] at hids
    exact hids.sublist ((List.sublist_append_left (pre ++ x :: during) rest).filterMap _)
  rw [hcut, framesFree_append] at hfree
  have houts : completions cfg .fresh (pre ++ x :: (during ++ rest)) =
      completions cfg .fresh (pre ++ [x]) ++ (completions cfg (run cfg .fresh (pre ++ [x])) during ++
        completions cfg (run cfg .fresh (pre ++ x :: during)) rest) := by
    rw [show pre ++ x :: (during ++ rest) = (pre ++ [x]) ++ (during ++ rest) by simp,
      completions_append cfg _ (pre ++ [x]), completions_append cfg _ during, ← run_append,
      show (pre ++ [x]) ++ during = pre ++ x :: during by simp]
  cases tracked_run hids' hfree.1 hx hnow hevict hacks with
  | waiting c hmem _ _ hholds =>
    -- Both halves are held, so the candidate should have completed.
    obtain ⟨haccepted, hrequired, hevent⟩ := hholds.ack hack
    exact absurd ⟨haccepted, hrequired, hevent, hholds.jpeg hjpeg⟩
      ((safeInv_run cfg _ hids').waiting m c hmem)
  | answered o ho hid hbytes hevent =>
    refine ⟨o, ?_, ho, hbytes, hevent⟩
    subst hid
    refine filter_eq_singleton hsafe.once ?_
    rw [houts]
    exact List.mem_append_right _ (List.mem_append_left _ ho)

/-- A Bridge's settings. -/
def sampleConfig : RendezvousConfig := .sixtyFour

/-- Two cameras' detections whose halves interleave, in both orders. -/
def sampleCalls : List TimedCall :=
  [⟨0, .recordDetection 0 "gun-0" 7⟩, ⟨1, .recordDetection 1 "knife-1" 7⟩,
    ⟨2, .submitJpeg 0 7 [1]⟩, ⟨2, .submitAck "knife-1" (some "accepted") (some "event-1") true⟩,
    ⟨3, .submitAck "gun-0" (some "accepted") (some "event-0") true⟩, ⟨4, .submitJpeg 1 7 [2]⟩]

theorem rendezvous_exactly_once_sampleCalls : NoLoss sampleConfig sampleCalls ∧
    completions sampleConfig .fresh sampleCalls =
      [⟨"gun-0", "event-0", [1]⟩, ⟨"knife-1", "event-1", [2]⟩] :=
  ⟨(rendezvous_exactly_once sampleConfig sampleCalls (by decide)).2.2 (by decide +kernel),
    by decide +kernel⟩

/-- Two objects of one frame: the answer to the first disconnects the second from the frame. -/
def sharedFrameCalls : List TimedCall :=
  [⟨0, .recordDetection 0 "gun" 7⟩, ⟨0, .recordDetection 0 "knife" 7⟩,
    ⟨1, .submitAck "gun" (some "suppressed") none false⟩, ⟨2, .submitJpeg 0 7 [1]⟩,
    ⟨3, .submitAck "knife" (some "accepted") (some "event") true⟩]

/-- On a shared frame the snapshot of the second object is lost. -/
theorem shared_frame_loses_snapshot :
    ¬ ∀ (cfg : RendezvousConfig) (calls : List TimedCall), (recordedIds calls).Nodup →
      (calls.map TimedCall.now).Pairwise (· ≤ ·) → NoLoss cfg calls := by
  intro h
  have hnever : (completions sampleConfig .fresh sharedFrameCalls).filter
      (fun o => o.messageId = "knife") = [] := by decide +kernel
  have hloss := h sampleConfig sharedFrameCalls (by decide) (by decide +kernel)
    [⟨0, .recordDetection 0 "gun" 7⟩] ⟨0, .recordDetection 0 "knife" 7⟩
    [⟨1, .submitAck "gun" (some "suppressed") none false⟩, ⟨2, .submitJpeg 0 7 [1]⟩,
      ⟨3, .submitAck "knife" (some "accepted") (some "event") true⟩] [] 0 "knife" 7 rfl rfl
  have hcalls : ∀ y ∈ ([⟨1, .submitAck "gun" (some "suppressed") none false⟩,
      ⟨2, .submitJpeg 0 7 [1]⟩, ⟨3, .submitAck "knife" (some "accepted") (some "event") true⟩] :
        List TimedCall), ∀ s m f, y.call ≠ .recordDetection s m f := by simp
  obtain ⟨o, ho, -⟩ := hloss (by decide +kernel)
    (fun done y todo heq hevict => by
      obtain ⟨-, ⟨s, m, f, hcall⟩, -⟩ := hevict
      exact hcalls y (by simp [heq]) s m f hcall)
    (by simp [AcksAccept, IsAccept]) (by simp [IsJpeg]) (by simp [IsAccept])
  rw [hnever] at ho
  simp at ho

end WeaponDetection.Bridge
