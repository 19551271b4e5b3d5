import WeaponDetection.Bridge.EvidenceAttribution
import WeaponDetection.Bridge.RendezvousExactlyOnce
import Mathlib.Data.List.Perm.Subperm

/-!
# Candidates are found at the probe

With an output for each camera, a branch carries the frames of one source and looks them up under the
index the metadata probe recorded them under.  A live candidate is then found unless its frame was
disconnected: `_by_frame` holds one message for each frame, so taking one candidate of a frame out of
the rendezvous takes the frame's entry away from the others (`candidates_found`).

The shared output looks every buffer up under source `-1`, which no detection is recorded under: it
never lets a buffer through (`shared_output_admits_nothing`).
-/

namespace WeaponDetection.Bridge

open WeaponDetection.Foundations (OrderedDict TransitionSystem)

/-! ## The frame index points at live candidates -/

/-- Every frame of the second index leads to a live candidate of that frame. -/
def Rendezvous.Rooted (st : Rendezvous) : Prop :=
  ∀ k m, (k, m) ∈ st.byFrame.entries → ∃ c, (m, c) ∈ st.byMessage.entries ∧ c.frame = k

/-- Every live candidate's frame is in the second index. -/
def Rendezvous.Connected (st : Rendezvous) : Prop :=
  ∀ m c, (m, c) ∈ st.byMessage.entries → ∃ m', (c.frame, m') ∈ st.byFrame.entries

theorem Rendezvous.Rooted.remove {st : Rendezvous} (h : st.Rooted) {c : Candidate}
    (hc : ∀ d, (c.messageId, d) ∈ st.byMessage.entries → d.frame = c.frame) :
    (st.remove c).Rooted := by
  intro k m hmem
  obtain ⟨hframe, hne⟩ := OrderedDict.mem_entries_pop.mp hmem
  obtain ⟨d, hd, rfl⟩ := h k m hframe
  refine ⟨d, OrderedDict.mem_entries_pop.mpr ⟨hd, ?_⟩, rfl⟩
  rintro rfl
  exact hne (hc d hd)

theorem Rendezvous.Rooted.foldl_remove {st : Rendezvous} (h : st.Rooted) (cs : List Candidate)
    (hcs : ∀ c ∈ cs, ∀ d, (c.messageId, d) ∈ st.byMessage.entries → d.frame = c.frame) :
    (cs.foldl Rendezvous.remove st).Rooted := by
  induction cs generalizing st with
  | nil => exact h
  | cons c cs ih =>
    rw [List.forall_mem_cons] at hcs
    exact ih (h.remove hcs.1) fun c' hc' d hd =>
      hcs.2 c' hc' d ((shrinks_remove st c).byMessage _ hd)

theorem Rendezvous.Rooted.expire {st : Rendezvous} (h : st.Rooted) (hk : st.Keyed) (now : ℚ) :
    (st.expire now).Rooted := by
  refine h.foldl_remove _ fun c hc d hd => ?_
  obtain ⟨⟨m, c'⟩, hmem, rfl⟩ := List.mem_map.mp (List.mem_filter.mp hc).1
  rw [(hk m c' hmem).1] at hd
  rw [OrderedDict.value_unique hd hmem]

theorem Rendezvous.Rooted.store {st : Rendezvous} (h : st.Rooted) {c c' : Candidate}
    (hmem : (c.messageId, c) ∈ st.byMessage.entries) (hid : c'.messageId = c.messageId)
    (hframe : c'.frame = c.frame) : (st.store c').Rooted := by
  intro k m hm
  obtain ⟨d, hd, rfl⟩ := h k m hm
  by_cases hkey : m = c'.messageId
  · obtain rfl : d = c := OrderedDict.value_unique (hid ▸ hkey ▸ hd) hmem
    exact ⟨c', OrderedDict.mem_entries_set.mpr (.inr (by rw [hkey])), hframe⟩
  · exact ⟨d, OrderedDict.mem_entries_set.mpr (.inl ⟨hd, hkey⟩), rfl⟩

/-! ## Eviction -/

theorem entries_evictOldest (st : Rendezvous) :
    st.evictOldest.byMessage.entries = st.byMessage.entries.tail := by
  unfold Rendezvous.evictOldest
  cases hentries : st.byMessage.entries with
  | nil => exact hentries
  | cons e rest => simp [OrderedDict.popFirst, hentries]

theorem mem_byFrame_evictOldest (st : Rendezvous) (e : FrameKey × String) :
    e ∈ st.evictOldest.byFrame.entries ↔
      e ∈ st.byFrame.entries ∧ ∀ x ∈ st.byMessage.entries.take 1, e.1 ≠ x.2.frame := by
  unfold Rendezvous.evictOldest
  cases hentries : st.byMessage.entries with
  | nil => simp
  | cons x rest => simp

theorem entries_iterate_evictOldest (n : ℕ) (st : Rendezvous) :
    (Rendezvous.evictOldest^[n] st).byMessage.entries = st.byMessage.entries.drop n := by
  induction n generalizing st with
  | zero => rfl
  | succ n ih =>
    rw [Function.iterate_succ_apply, ih, entries_evictOldest, List.drop_tail]

/-- Evicting the oldest messages takes their frames out, and no others. -/
theorem mem_byFrame_iterate_evictOldest (n : ℕ) (st : Rendezvous) (e : FrameKey × String) :
    e ∈ (Rendezvous.evictOldest^[n] st).byFrame.entries ↔
      e ∈ st.byFrame.entries ∧ ∀ x ∈ st.byMessage.entries.take n, e.1 ≠ x.2.frame := by
  induction n generalizing st with
  | zero => simp
  | succ n ih =>
    rw [Function.iterate_succ_apply, ih, mem_byFrame_evictOldest, entries_evictOldest]
    cases st.byMessage.entries with
    | nil => simp
    | cons x rest => simp [and_assoc]

theorem Rendezvous.Rooted.iterate_evictOldest {st : Rendezvous} (h : st.Rooted) (n : ℕ) :
    (Rendezvous.evictOldest^[n] st).Rooted := by
  intro k m hm
  obtain ⟨hmem, hkept⟩ := (mem_byFrame_iterate_evictOldest n st (k, m)).mp hm
  obtain ⟨c, hc, rfl⟩ := h k m hmem
  refine ⟨c, ?_, rfl⟩
  rw [entries_iterate_evictOldest]
  rw [← List.take_append_drop n st.byMessage.entries, List.mem_append] at hc
  exact hc.resolve_left fun htake => hkept _ htake rfl

/-- A rooted frame index is no longer than the message index. -/
theorem Rendezvous.Rooted.length_le {st : Rendezvous} (h : st.Rooted) :
    st.byFrame.entries.length ≤ st.byMessage.entries.length := by
  have hinj : (st.byFrame.entries.map Prod.snd).Nodup := by
    refine List.Nodup.map_on ?_ (List.Nodup.of_map _ st.byFrame.nodup)
    rintro ⟨k, m⟩ hkm ⟨k', m'⟩ hkm' (rfl : m = m')
    obtain ⟨c, hc, rfl⟩ := h k m hkm
    obtain ⟨c', hc', rfl⟩ := h k' m hkm'
    rw [OrderedDict.value_unique hc hc']
  have hsub : st.byFrame.entries.map Prod.snd ⊆ st.byMessage.entries.map Prod.fst := by
    intro m hm
    obtain ⟨⟨k, m'⟩, hkm, rfl⟩ := List.mem_map.mp hm
    obtain ⟨c, hc, -⟩ := h k m' hkm
    exact List.mem_map.mpr ⟨_, hc, rfl⟩
  simpa using (hinj.subperm hsub).length_le

/-- The frame loop of the eviction has nothing to do. -/
theorem Rendezvous.Rooted.evict_eq {st : Rendezvous} (h : st.Rooted) (cfg : RendezvousConfig) :
    st.evict cfg =
      Rendezvous.evictOldest^[st.byMessage.entries.length - cfg.maxRetained] st := by
  have hle := (h.iterate_evictOldest
    (st.byMessage.entries.length - cfg.maxRetained)).length_le
  rw [entries_iterate_evictOldest, List.length_drop] at hle
  have hzero : (Rendezvous.evictOldest^[st.byMessage.entries.length - cfg.maxRetained]
      st).byFrame.entries.length - cfg.maxRetained = 0 := by omega
  unfold Rendezvous.evict
  simp only [hzero, Function.iterate_zero, id_eq]

theorem Rendezvous.Rooted.insert {st : Rendezvous} (h : st.Rooted) (cfg : RendezvousConfig)
    (now : ℚ) {s : ℤ} {m : String} {f : ℤ} (hnew : ∀ c, (m, c) ∉ st.byMessage.entries) :
    (st.insert cfg now s m f).Rooted := by
  intro k m' hm
  simp only [Rendezvous.insert, OrderedDict.entries_moveToEnd_set] at hm ⊢
  rw [List.mem_append, List.mem_singleton] at hm
  rcases hm with hm | heq
  · obtain ⟨c, hc, rfl⟩ := h k m' (OrderedDict.mem_entries_pop.mp hm).1
    refine ⟨c, List.mem_append_left _ (OrderedDict.mem_entries_pop.mpr ⟨hc, ?_⟩), rfl⟩
    rintro rfl
    exact hnew c hc
  · obtain ⟨rfl, rfl⟩ := Prod.mk.inj heq
    exact ⟨_, List.mem_append_right _ (List.mem_singleton_self _), rfl⟩

/-! ## A recording -/

section Recording

variable {st : Rendezvous} {m : String}

/-- The messages after a recording: the newest of the old ones, and the new one. -/
theorem entries_record (cfg : RendezvousConfig) (now : ℚ) (s f : ℤ) (h : st.Rooted)
    (hnew : ∀ c, (m, c) ∉ st.byMessage.entries) :
    ∃ n, ((st.insert cfg now s m f).evict cfg).byMessage.entries =
        (st.byMessage.pop m).entries.drop n ++ [(m, newCandidate cfg now s m f)] ∧
      ∀ e, e ∈ ((st.insert cfg now s m f).evict cfg).byFrame.entries ↔
        (e ∈ (st.byFrame.pop (s, f)).entries ∨ e = ((s, f), m)) ∧
          ∀ x ∈ (st.byMessage.pop m).entries.take n, e.1 ≠ x.2.frame := by
  have hlast : (st.insert cfg now s m f).byMessage.entries =
      (st.byMessage.pop m).entries ++ [(m, newCandidate cfg now s m f)] :=
    OrderedDict.entries_moveToEnd_set _ _ _
  have hframes : (st.insert cfg now s m f).byFrame.entries =
      (st.byFrame.pop (s, f)).entries ++ [((s, f), m)] :=
    OrderedDict.entries_moveToEnd_set _ _ _
  have hpos := cfg.maxRetained_pos
  have hle : (st.insert cfg now s m f).byMessage.entries.length - cfg.maxRetained ≤
      (st.byMessage.pop m).entries.length := by
    rw [hlast, List.length_append, List.length_singleton]
    omega
  refine ⟨(st.insert cfg now s m f).byMessage.entries.length - cfg.maxRetained, ?_, fun e => ?_⟩
  · rw [(h.insert cfg now hnew).evict_eq, entries_iterate_evictOldest, hlast,
      List.drop_append_of_le_length (hlast ▸ hle)]
  · rw [(h.insert cfg now hnew).evict_eq, mem_byFrame_iterate_evictOldest, hframes, List.mem_append,
      List.mem_singleton, hlast, List.take_append_of_le_length (hlast ▸ hle)]

/-- A message that was there before a recording and not evicted by it. -/
theorem mem_pop_of_mem {c : Candidate} {m' : String} (hnew : ∀ c, (m, c) ∉ st.byMessage.entries)
    (hc : (m', c) ∈ st.byMessage.entries) : (m', c) ∈ (st.byMessage.pop m).entries := by
  refine OrderedDict.mem_entries_pop.mpr ⟨hc, ?_⟩
  rintro rfl
  exact hnew c hc

/-- An evicted message is gone. -/
theorem gone_of_evicted {cfg : RendezvousConfig} {now : ℚ} {s f : ℤ} {n : ℕ}
    {x : String × Candidate}
    (hx : x ∈ (st.byMessage.pop m).entries.take n) (d : Candidate) :
    (x.1, d) ∉ (st.byMessage.pop m).entries.drop n ++ [(m, newCandidate cfg now s m f)] := by
  have hmem := (OrderedDict.mem_entries_pop.mp (List.mem_of_mem_take hx))
  rw [List.mem_append, List.mem_singleton]
  rintro (hdrop | heq)
  · -- the keys of one dictionary are distinct
    have hnodup := (st.byMessage.pop m).nodup
    rw [← List.take_append_drop n (st.byMessage.pop m).entries, List.map_append,
      List.nodup_append] at hnodup
    exact hnodup.2.2 x.1 (List.mem_map.mpr ⟨x, hx, rfl⟩) x.1 (List.mem_map.mpr ⟨_, hdrop, rfl⟩) rfl
  · exact hmem.2 (Prod.mk.inj heq).1

end Recording

/-! ## A call -/

/-- The messages in the rendezvous. -/
def Rendezvous.messages (st : Rendezvous) : List String := st.byMessage.entries.map Prod.fst

theorem mem_messages {st : Rendezvous} {m : String} :
    m ∈ st.messages ↔ ∃ c, (m, c) ∈ st.byMessage.entries := by
  simp [Rendezvous.messages]

/-- A call takes no candidate out of the rendezvous while another candidate of its frame stays, unless
it was the new one that was recorded after the old one's time. -/
def KeepsFrames (cfg : RendezvousConfig) (st : Rendezvous) (x : TimedCall) : Prop :=
  ∀ e ∈ st.byMessage.entries, e.1 ∉ (step cfg st x).1.messages →
    ∀ e' ∈ (step cfg st x).1.byMessage.entries, e'.2.frame = e.2.frame →
      e.2.expiresAt ≤ x.now ∧ e'.1 ∉ st.messages

instance (cfg : RendezvousConfig) (st : Rendezvous) (x : TimedCall) :
    Decidable (KeepsFrames cfg st x) := inferInstanceAs (Decidable (∀ e ∈ _, _ → ∀ e' ∈ _, _ → _))

/-- A recording brings a message the rendezvous does not hold. -/
def FreshMessage (st : Rendezvous) (x : TimedCall) : Prop :=
  ∀ s m f, x.call = .recordDetection s m f → ∀ c, (m, c) ∉ st.byMessage.entries

section Call

variable {cfg : RendezvousConfig} {st : Rendezvous} {x : TimedCall}

/-- Where the candidates after a call come from. -/
theorem candidate_origin (hk : st.Keyed) {m : String} {d : Candidate}
    (hd : (m, d) ∈ (step cfg st x).1.byMessage.entries) :
    (∃ d₀, (m, d₀) ∈ (st.expire x.now).byMessage.entries ∧ d₀.frame = d.frame ∧
        ((∀ s f, x.call ≠ .consumeCandidate s f) → d₀.valveMatched = d.valveMatched)) ∨
      ∃ s f, x.call = .recordDetection s m f ∧ d = newCandidate cfg x.now s m f := by
  have hcase := step_case cfg hk x
  generalize (Bridge.step cfg st x).1 = st' at hcase hd
  generalize (Bridge.step cfg st x).2 = out at hcase
  cases hcase with
  | keep _ => exact .inl ⟨d, hd, rfl, fun _ => rfl⟩
  | discard _ _ _ => exact .inl ⟨d, (OrderedDict.mem_entries_pop.mp hd).1, rfl, fun _ => rfl⟩
  | @record s messageId f hcall =>
    rcases (mem_insert_evict cfg (st.expire x.now) x.now s messageId f).1 _ hd with hold | hnew
    · exact .inl ⟨d, hold, rfl, fun _ => rfl⟩
    · obtain ⟨rfl, rfl⟩ := Prod.mk.inj hnew
      exact .inr ⟨s, f, hcall, rfl⟩
  | @update c c' hmem hbrings _ =>
    rcases OrderedDict.mem_entries_set.mp hd with ⟨hold, -⟩ | hnew
    · exact .inl ⟨d, hold, rfl, fun _ => rfl⟩
    · obtain ⟨rfl, rfl⟩ := Prod.mk.inj hnew
      refine .inl ⟨c, hbrings.messageId ▸ hmem, hbrings.frame.symm, fun hother => ?_⟩
      cases hbrings with
      | valve hcall => exact absurd hcall (hother _ _)
      | jpeg _ _ => rfl
      | ack _ => rfl
  | complete _ _ _ _ _ => exact .inl ⟨d, (OrderedDict.mem_entries_pop.mp hd).1, rfl, fun _ => rfl⟩

theorem Rendezvous.Rooted.step (cfg : RendezvousConfig) (h : st.Rooted) (hk : st.Keyed)
    (hnew : FreshMessage st x) :
    (step cfg st x).1.Rooted := by
  have h1 : (st.expire x.now).Rooted := h.expire hk x.now
  have hcase := step_case cfg hk x
  generalize (Bridge.step cfg st x).1 = st' at hcase ⊢
  generalize (Bridge.step cfg st x).2 = out at hcase
  cases hcase with
  | keep _ => exact h1
  | discard hmem _ _ => exact h1.remove fun d hd => by rw [OrderedDict.value_unique hd hmem]
  | @record s messageId f hcall =>
    have hfresh : ∀ c, (messageId, c) ∉ (st.expire x.now).byMessage.entries := fun c hc =>
      hnew s messageId f hcall c ((shrinks_expire st x.now).byMessage _ hc)
    have hins := h1.insert cfg x.now (s := s) (f := f) hfresh
    rw [hins.evict_eq]
    exact hins.iterate_evictOldest _
  | update hmem hbrings _ => exact h1.store hmem hbrings.messageId hbrings.frame
  | @complete c c' _ _ hmem hbrings _ _ _ =>
    refine h1.remove fun d hd => ?_
    rw [hbrings.messageId] at hd
    rw [OrderedDict.value_unique hd hmem, hbrings.frame]

/-- An expired candidate is gone after the call. -/
theorem gone_of_expired (hk : st.Keyed) (hnew : FreshMessage st x) {m : String} {c : Candidate}
    (hc : (m, c) ∈ st.byMessage.entries) (hexpired : c.expiresAt ≤ x.now) :
    m ∉ (step cfg st x).1.messages := by
  intro hm
  obtain ⟨d, hd⟩ := mem_messages.mp hm
  rcases candidate_origin hk hd with ⟨d₀, hd₀, -⟩ | ⟨s, f, hcall, -⟩
  · obtain ⟨hmem, hlive⟩ := (mem_expire hk x.now m d₀).mp hd₀
    rw [OrderedDict.value_unique hmem hc] at hlive
    exact absurd hexpired (not_le.mpr hlive)
  · exact hnew s m f hcall c hc

/-- A frame that a removal takes out of the second index took the candidate with it. -/
theorem frame_gone_remove {c : Candidate} {k : FrameKey} {m : String}
    (hm : (k, m) ∈ st.byFrame.entries) :
    (∃ m', (k, m') ∈ (st.remove c).byFrame.entries) ∨
      c.messageId ∉ (st.remove c).messages ∧ c.frame = k := by
  by_cases hk : k = c.frame
  · refine .inr ⟨?_, hk.symm⟩
    intro hmem
    obtain ⟨d, hd⟩ := mem_messages.mp hmem
    exact (OrderedDict.mem_entries_pop.mp hd).2 rfl
  · exact .inl ⟨m, OrderedDict.mem_entries_pop.mpr ⟨hm, hk⟩⟩

/-- A frame that leaves the second index took a candidate with it. -/
theorem frame_gone (h : st.Rooted) (hk : st.Keyed) (hnew : FreshMessage st x) {k : FrameKey}
    {m : String} (hm : (k, m) ∈ st.byFrame.entries) :
    (∃ m', (k, m') ∈ (step cfg st x).1.byFrame.entries) ∨
      ∃ e ∈ st.byMessage.entries, e.1 ∉ (step cfg st x).1.messages ∧ e.2.frame = k := by
  have hshrinks := shrinks_expire st x.now
  by_cases hkept : (k, m) ∈ (st.expire x.now).byFrame.entries
  · have hcase := step_case cfg hk x
    generalize (Bridge.step cfg st x).1 = st' at hcase ⊢
    generalize (Bridge.step cfg st x).2 = out at hcase
    cases hcase with
    | keep _ => exact .inl ⟨m, hkept⟩
    | @discard c _ _ _ hmem _ _ =>
      refine (frame_gone_remove (c := c) hkept).imp_right fun hgone => ?_
      exact ⟨_, hshrinks.byMessage _ hmem, hgone⟩
    | @record s messageId f hcall =>
      have hfresh : ∀ c, (messageId, c) ∉ (st.expire x.now).byMessage.entries := fun c hc =>
        hnew s messageId f hcall c (hshrinks.byMessage _ hc)
      obtain ⟨n, hmessages, hframes⟩ :=
        entries_record cfg x.now s f (h.expire hk x.now) hfresh
      by_cases hevicted : ∃ e ∈ ((st.expire x.now).byMessage.pop messageId).entries.take n,
          e.2.frame = k
      · obtain ⟨e, he, hframe⟩ := hevicted
        have hold := (OrderedDict.mem_entries_pop.mp (List.mem_of_mem_take he)).1
        refine .inr ⟨e, hshrinks.byMessage _ hold, ?_, hframe⟩
        intro hmem
        obtain ⟨d, hd⟩ := mem_messages.mp hmem
        rw [hmessages] at hd
        exact gone_of_evicted he d hd
      · left
        have hstays : ∀ e ∈ ((st.expire x.now).byMessage.pop messageId).entries.take n,
            k ≠ e.2.frame := fun e he heq => hevicted ⟨e, he, heq.symm⟩
        by_cases hkey : k = (s, f)
        · exact ⟨messageId, (hframes _).mpr ⟨.inr (by rw [hkey]), hstays⟩⟩
        · exact ⟨m, (hframes _).mpr ⟨.inl (OrderedDict.mem_entries_pop.mpr ⟨hkept, hkey⟩), hstays⟩⟩
    | update _ _ _ => exact .inl ⟨m, hkept⟩
    | @complete c c' _ _ hmem hbrings _ _ _ =>
      refine (frame_gone_remove (c := c') hkept).imp_right fun hgone => ?_
      rw [hbrings.messageId, hbrings.frame] at hgone
      exact ⟨_, hshrinks.byMessage _ hmem, hgone⟩
  · -- the frame of an expired candidate
    right
    rw [Rendezvous.expire, mem_byFrame_foldl_remove, not_and] at hkept
    obtain ⟨c, hc, hframe⟩ : ∃ c ∈ st.expired x.now, k = c.frame := by
      simpa using hkept hm
    obtain ⟨hvalue, hexpired⟩ := List.mem_filter.mp hc
    obtain ⟨⟨m₀, c⟩, hmem, rfl⟩ := List.mem_map.mp hvalue
    simp only [decide_eq_true_eq] at hexpired
    exact ⟨_, hmem, gone_of_expired hk hnew hmem hexpired.1, hframe.symm⟩

/-- **A call that keeps frames keeps the candidates connected.** -/
theorem Rendezvous.Connected.step (h : st.Connected) (hr : st.Rooted) (hk : st.Keyed)
    (hnew : FreshMessage st x) (hkeeps : KeepsFrames cfg st x) :
    (step cfg st x).1.Connected := by
  intro m d hd
  rcases candidate_origin hk hd with ⟨d₀, hd₀, hframe, -⟩ | ⟨s, f, hcall, rfl⟩
  · have hold := (shrinks_expire st x.now).byMessage _ hd₀
    obtain ⟨m', hm'⟩ := h m d₀ hold
    rw [← hframe]
    rcases frame_gone hr hk hnew hm' with hstays | ⟨e, he, hgone, heframe⟩
    · exact hstays
    · exact absurd (mem_messages.mpr ⟨d₀, hold⟩)
        (hkeeps e he hgone (m, d) hd (by rw [← hframe, heframe])).2
  · -- the new candidate: no older one of its frame was evicted
    have hfresh : ∀ c, (m, c) ∉ (st.expire x.now).byMessage.entries := fun c hc =>
      hnew s m f hcall c ((shrinks_expire st x.now).byMessage _ hc)
    have hstep : (Bridge.step cfg st x).1 =
        ((st.expire x.now).insert cfg x.now s m f).evict cfg := by
      rw [Bridge.step, hcall]
      rfl
    obtain ⟨n, hmessages, hframes⟩ :=
      entries_record cfg x.now s f (hr.expire hk x.now) hfresh
    refine ⟨m, ?_⟩
    rw [hstep, hframes]
    refine ⟨.inr rfl, fun e he heq => ?_⟩
    have hlive := (OrderedDict.mem_entries_pop.mp (List.mem_of_mem_take he)).1
    obtain ⟨hold, htime⟩ := (mem_expire hk x.now e.1 e.2).mp hlive
    have hgone : e.1 ∉ (Bridge.step cfg st x).1.messages := by
      intro hmem
      obtain ⟨c, hc⟩ := mem_messages.mp hmem
      rw [hstep, hmessages] at hc
      exact gone_of_evicted he c hc
    exact absurd (hkeeps e hold hgone (m, _) hd heq).1 (not_le.mpr htime)

/-- Where the frames after a call come from: the entry of a recorded frame is new. -/
theorem frame_origin (hk : st.Keyed) (h : st.Rooted) (hnew : FreshMessage st x) {k : FrameKey}
    {m : String} (hm : (k, m) ∈ (step cfg st x).1.byFrame.entries) :
    ((k, m) ∈ (st.expire x.now).byFrame.entries ∧
        ∀ s messageId f, x.call = .recordDetection s messageId f → k ≠ (s, f)) ∨
      ∃ s f, x.call = .recordDetection s m f ∧ k = (s, f) := by
  by_cases hrecord : ∃ s messageId f, x.call = .recordDetection s messageId f
  · obtain ⟨s, messageId, f, hcall⟩ := hrecord
    have hfresh : ∀ c, (messageId, c) ∉ (st.expire x.now).byMessage.entries := fun c hc =>
      hnew s messageId f hcall c ((shrinks_expire st x.now).byMessage _ hc)
    have hstep : (Bridge.step cfg st x).1 =
        ((st.expire x.now).insert cfg x.now s messageId f).evict cfg := by
      rw [Bridge.step, hcall]
      rfl
    obtain ⟨n, -, hframes⟩ :=
      entries_record cfg x.now s f (h.expire hk x.now) hfresh
    rw [hstep] at hm
    rcases ((hframes _).mp hm).1 with hold | heq
    · obtain ⟨hmem, hne⟩ := OrderedDict.mem_entries_pop.mp hold
      refine .inl ⟨hmem, fun s' m' f' hcall' => ?_⟩
      rw [hcall] at hcall'
      cases hcall'
      exact hne
    · obtain ⟨rfl, rfl⟩ := Prod.mk.inj heq
      exact .inr ⟨s, f, hcall, rfl⟩
  · have hother : ∀ s messageId f, x.call = .recordDetection s messageId f → k ≠ (s, f) :=
      fun s messageId f hcall => absurd ⟨s, messageId, f, hcall⟩ hrecord
    refine .inl ⟨?_, hother⟩
    have hcase := step_case cfg hk x
    generalize (Bridge.step cfg st x).1 = st' at hcase hm
    generalize (Bridge.step cfg st x).2 = out at hcase
    cases hcase with
    | keep _ => exact hm
    | discard _ _ _ => exact (OrderedDict.mem_entries_pop.mp hm).1
    | record hcall => exact absurd ⟨_, _, _, hcall⟩ hrecord
    | update _ _ _ => exact hm
    | complete _ _ _ _ _ => exact (OrderedDict.mem_entries_pop.mp hm).1

theorem Rendezvous.Keyed.step (cfg : RendezvousConfig) (x : TimedCall) (hk : st.Keyed) :
    (step cfg st x).1.Keyed := by
  have hk1 : (st.expire x.now).Keyed := (shrinks_expire st x.now).keyed hk
  have hcase := step_case cfg hk x
  generalize (Bridge.step cfg st x).1 = st' at hcase ⊢
  generalize (Bridge.step cfg st x).2 = out at hcase
  cases hcase with
  | keep _ => exact hk1
  | discard _ _ _ => exact (shrinks_remove _ _).keyed hk1
  | @record s messageId f hcall =>
    intro m c hc
    rcases (mem_insert_evict cfg (st.expire x.now) x.now s messageId f).1 _ hc with hold | hnew
    · exact hk1 m c hold
    · obtain ⟨rfl, rfl⟩ := Prod.mk.inj hnew
      exact ⟨rfl, rfl⟩
  | @update c c' hmem hbrings _ =>
    intro m d hd
    rcases OrderedDict.mem_entries_set.mp hd with ⟨hold, -⟩ | hnew
    · exact hk1 m d hold
    · obtain ⟨rfl, rfl⟩ := Prod.mk.inj hnew
      exact ⟨rfl, hbrings.completed.trans (hk1 _ _ hmem).2⟩
  | complete _ _ _ _ _ => exact (shrinks_remove _ _).keyed hk1

end Call

/-! ## The candidates whose buffer was let through -/

/-- The rendezvous as the probe needs it: both indexes lead to each other, and where the candidate of
a frame has met the valve, so have all the others of the frame. -/
structure Tracks (admitted : List String) (st : Rendezvous) : Prop where
  keyed : st.Keyed
  rooted : st.Rooted
  connected : st.Connected
  matched : ∀ k m' c', (k, m') ∈ st.byFrame.entries → (m', c') ∈ st.byMessage.entries →
    c'.valveMatched = true → ∀ m c, (m, c) ∈ st.byMessage.entries → c.frame = k → m ∈ admitted

theorem tracks_fresh : Tracks [] .fresh where
  keyed := fun _ _ h => absurd h List.not_mem_nil
  rooted := fun _ _ h => absurd h List.not_mem_nil
  connected := fun _ _ h => absurd h List.not_mem_nil
  matched := fun _ _ _ h => absurd h List.not_mem_nil

/-- A call other than the probe's keeps what was let through. -/
theorem Tracks.step {cfg : RendezvousConfig} {admitted : List String} {st : Rendezvous}
    {x : TimedCall} (h : Tracks admitted st) (hnew : FreshMessage st x)
    (hkeeps : KeepsFrames cfg st x) (hother : ∀ s f, x.call ≠ .consumeCandidate s f) :
    Tracks admitted (step cfg st x).1 where
  keyed := h.keyed.step cfg x
  rooted := h.rooted.step cfg h.keyed hnew
  connected := h.connected.step h.rooted h.keyed hnew hkeeps
  matched := by
    intro k m' c' hframe hc' hvalve m c hc hkey
    have hshrinks := shrinks_expire st x.now
    -- the leading candidate was there before: a new one has not met the valve
    rcases candidate_origin h.keyed hc' with ⟨d', hd', -, hsame⟩ | ⟨s, f, -, rfl⟩
    · rcases frame_origin h.keyed h.rooted hnew hframe with ⟨hold, hfree⟩ | ⟨s, f, hcall, -⟩
      · rcases candidate_origin h.keyed hc with ⟨d, hd, hdframe, -⟩ | ⟨s, f, hcall, rfl⟩
        · exact h.matched k m' d' (hshrinks.byFrame _ hold) (hshrinks.byMessage _ hd')
            ((hsame hother).trans hvalve) m d (hshrinks.byMessage _ hd) (hdframe.trans hkey)
        · exact absurd hkey.symm (hfree s m f hcall)
      · exact absurd (hshrinks.byMessage _ hd') (hnew s m' f hcall d')
    · cases hvalve

/-! ## The probe's lookup -/

/-- The lookup fails on a frame that leads to no candidate or to one that met the valve, and marks
the candidate it finds. -/
theorem consumeCandidate_cases {st : Rendezvous} (hk : st.Keyed) (now : ℚ) (s f : ℤ) :
    (st.consumeCandidate now s f = (st.expire now, false) ∧
        ∀ m c, ((s, f), m) ∈ (st.expire now).byFrame.entries →
          (m, c) ∈ (st.expire now).byMessage.entries → c.valveMatched = true) ∨
      ∃ c, ((s, f), c.messageId) ∈ (st.expire now).byFrame.entries ∧
        (c.messageId, c) ∈ (st.expire now).byMessage.entries ∧
        st.consumeCandidate now s f =
          ((st.expire now).store { c with valveMatched := true }, true) := by
  have hk1 : (st.expire now).Keyed := (shrinks_expire st now).keyed hk
  simp only [Rendezvous.consumeCandidate]
  cases hfind : ((st.expire now).byFrame.get? (s, f)).bind (st.expire now).byMessage.get? with
  | none => exact .inl ⟨rfl, fun m c hm hc => absurd hc (bind_get?_eq_none hfind m c hm)⟩
  | some c =>
    obtain ⟨hframe, hmem⟩ := bind_get?_eq_some hk1 hfind
    cases hvalve : c.valveMatched with
    | true =>
      refine .inl ⟨by simp [hvalve], fun m d hm hd => ?_⟩
      obtain rfl : m = c.messageId := OrderedDict.value_unique hm hframe
      rw [OrderedDict.value_unique hd hmem, hvalve]
    | false => exact .inr ⟨c, hframe, hmem, by simp [hvalve]⟩

/-- **The probe finds the frame of every live candidate whose buffer has not come yet**, and then all
candidates of the frame are let through with it. -/
theorem Tracks.probe {cfg : RendezvousConfig} {admitted admitted' : List String} {st : Rendezvous}
    {now : ℚ} {s f : ℤ} (h : Tracks admitted st)
    (hkeeps : KeepsFrames cfg st ⟨now, .consumeCandidate s f⟩) (hmore : admitted ⊆ admitted')
    (hnow : (st.consumeCandidate now s f).2 = true → ∀ m c, (m, c) ∈ st.byMessage.entries →
      now < c.expiresAt → c.frame = (s, f) → m ∈ admitted') :
    Tracks admitted' (st.consumeCandidate now s f).1 ∧
      ∀ m c, (m, c) ∈ st.byMessage.entries → now < c.expiresAt → c.frame = (s, f) →
        m ∉ admitted → (st.consumeCandidate now s f).2 = true := by
  have hfresh : FreshMessage st ⟨now, .consumeCandidate s f⟩ := fun _ _ _ hcall => by cases hcall
  have hshrinks := shrinks_expire st now
  have hrooted1 : (st.expire now).Rooted := h.rooted.expire h.keyed now
  have hrooted : (st.consumeCandidate now s f).1.Rooted :=
    h.rooted.step cfg h.keyed hfresh
  have hconnected : (st.consumeCandidate now s f).1.Connected :=
    h.connected.step h.rooted h.keyed hfresh hkeeps
  have hkeyed : (st.consumeCandidate now s f).1.Keyed :=
    h.keyed.step cfg ⟨now, .consumeCandidate s f⟩
  rcases consumeCandidate_cases h.keyed now s f with ⟨heq, hmatched⟩ | ⟨c, hframe, hmem, heq⟩
  · rw [heq] at hrooted hconnected hkeyed ⊢
    refine ⟨⟨hkeyed, hrooted, hconnected, ?_⟩, ?_⟩
    · intro k m' c' hk hc' hvalve m c hc hkey
      exact hmore (h.matched k m' c' (hshrinks.byFrame _ hk) (hshrinks.byMessage _ hc') hvalve m c
        (hshrinks.byMessage _ hc) hkey)
    · -- the frame leads to a candidate, which met the valve with all the others of the frame
      intro m c hc hlive hkey hnot
      have hc1 := (mem_expire h.keyed now m c).mpr ⟨hc, hlive⟩
      obtain ⟨m', hm'⟩ := hconnected m c hc1
      obtain ⟨c', hc', -⟩ := hrooted _ m' hm'
      rw [hkey] at hm'
      exact absurd (h.matched (s, f) m' c' (hshrinks.byFrame _ hm') (hshrinks.byMessage _ hc')
        (hmatched m' c' hm' hc') m c hc hkey) hnot
  · rw [heq] at hrooted hconnected hkeyed hnow ⊢
    refine ⟨⟨hkeyed, hrooted, hconnected, ?_⟩, fun _ _ _ _ _ _ => rfl⟩
    intro k m' c' hk hc' hvalve m d hd hkey
    have hkframe : c.frame = (s, f) := by
      obtain ⟨d', hd', hd'frame⟩ := hrooted1 _ _ hframe
      rw [← OrderedDict.value_unique hd' hmem, hd'frame]
    -- the candidate before the lookup marked its leader
    obtain ⟨d₀, hd₀, hd₀frame⟩ : ∃ d₀, (m, d₀) ∈ (st.expire now).byMessage.entries ∧
        d₀.frame = k := by
      rcases OrderedDict.mem_entries_set.mp hd with ⟨hold, -⟩ | hnew
      · exact ⟨d, hold, hkey⟩
      · obtain ⟨rfl, rfl⟩ := Prod.mk.inj hnew
        exact ⟨c, hmem, hkey⟩
    rcases OrderedDict.mem_entries_set.mp hc' with ⟨hold, -⟩ | hnew
    · exact hmore (h.matched k m' c' (hshrinks.byFrame _ hk) (hshrinks.byMessage _ hold) hvalve m d₀
        (hshrinks.byMessage _ hd₀) hd₀frame)
    · obtain ⟨rfl, rfl⟩ := Prod.mk.inj hnew
      obtain ⟨e, he, rfl⟩ := hrooted1 _ _ hk
      rw [OrderedDict.value_unique he hmem, hkframe] at hd₀frame
      obtain ⟨hst, hlive⟩ := (mem_expire h.keyed now m d₀).mp hd₀
      exact hnow rfl m d₀ hst hlive hd₀frame

/-! ## Runs of the pipeline -/

/-- The call of the rendezvous an action makes. -/
def rendezvousCall (st : PipelineState) : PipelineAction → Option TimedCall
  | .recordDetection now _ d => some ⟨now, .recordDetection d.sourceId d.messageId d.frameNumber⟩
  | .valveProbe now sourceIndex _ buffer =>
    (frameNumberFromBuffer buffer).map fun f => ⟨now, .consumeCandidate sourceIndex f⟩
  | .newSample now sourceIndex _ mapped =>
    match st.pendingSnapshotFrames sourceIndex, mapped with
    | f :: _, some jpegBytes => some ⟨now, .submitJpeg sourceIndex f jpegBytes⟩
    | _, _ => none
  | .emptyPull _ => none
  | .submitAck now messageId outcome eventId snapshotRequired =>
    some ⟨now, .submitAck messageId outcome eventId snapshotRequired⟩

/-- No buffer is lost behind a valve, and no call of the rendezvous disconnects a frame. -/
def FramesKept (cfg : BridgeConfig) (st : PipelineState) (action : PipelineAction) : Prop :=
  Lossless st action ∧
    ∀ x ∈ rendezvousCall st action, KeepsFrames cfg.rendezvous st.rendezvous x

instance (cfg : BridgeConfig) (st : PipelineState) (action : PipelineAction) :
    Decidable (FramesKept cfg st action) := inferInstanceAs (Decidable (_ ∧ ∀ x ∈ _, _))

/-- Every buffer behind a valve, and every buffer a JPEG was made of, is one frame of the branch's
source. -/
structure PipelineState.Demuxed (st : PipelineState) : Prop where
  downstream : ∀ i, ∀ buffer ∈ st.downstream i, ∃ frame : FrameMeta, buffer = [frame] ∧
    (frame.sourceId : ℤ) = i
  submissions : ∀ s ∈ st.submissions, ∃ frame : FrameMeta, s.encodedFrom = [frame] ∧
    (frame.sourceId : ℤ) = s.sourceIndex

/-- What holds in every state of a run that keeps frames. -/
structure PipelineInv (st : PipelineState) : Prop where
  tracks : Tracks st.admitted st.rendezvous
  known : ∀ m c, (m, c) ∈ st.rendezvous.byMessage.entries → m ∈ st.recorded
  missed : st.missed = []
  inStep : st.InStep
  attributed : st.WellAttributed
  demuxed : st.Demuxed

/-- With outputs for each camera a branch sees one frame of its source at a time. -/
theorem mem_buffersAt {cfg : BridgeConfig} (hdynamic : cfg.dynamicOutputs = true) {branch : ℤ}
    {batch buffer : Buffer} (h : buffer ∈ cfg.buffersAt branch batch) :
    ∃ frame : FrameMeta, buffer = [frame] ∧ (frame.sourceId : ℤ) = branch := by
  rw [BridgeConfig.buffersAt, if_pos hdynamic] at h
  obtain ⟨frame, hframe, rfl⟩ := List.mem_map.mp h
  exact ⟨frame, rfl, by simpa using (List.mem_filter.mp hframe).2⟩

/-- The messages a call leaves in the rendezvous were there, or the call recorded them. -/
theorem known_step {cfg : RendezvousConfig} {st : Rendezvous} {x : TimedCall} (hk : st.Keyed)
    {recorded : List String} (h : ∀ m c, (m, c) ∈ st.byMessage.entries → m ∈ recorded)
    {m : String} {c : Candidate} (hc : (m, c) ∈ (step cfg st x).1.byMessage.entries) :
    m ∈ recorded ∨ ∃ s f, x.call = .recordDetection s m f := by
  rcases candidate_origin hk hc with ⟨d, hd, -, -⟩ | ⟨s, f, hcall, -⟩
  · exact .inl (h m d ((shrinks_expire st x.now).byMessage _ hd))
  · exact .inr ⟨s, f, hcall⟩

/-- A call that records nothing leaves no message that was not recorded. -/
theorem known_other (cfg : RendezvousConfig) {st : Rendezvous} (x : TimedCall) (hk : st.Keyed)
    {recorded : List String} (h : ∀ m c, (m, c) ∈ st.byMessage.entries → m ∈ recorded)
    (hother : ∀ s m f, x.call ≠ .recordDetection s m f) {m : String} {c : Candidate}
    (hc : (m, c) ∈ (step cfg st x).1.byMessage.entries) : m ∈ recorded := by
  rcases known_step hk h hc with hm | ⟨s, f, hcall⟩
  · exact hm
  · exact absurd hcall (hother s m f)

/-- What the probe records of a buffer of one frame. -/
theorem PipelineInv.probe {cfg : BridgeConfig} {st : PipelineState} (h : PipelineInv st) {now : ℚ}
    {frame : FrameMeta}
    (hkeeps : KeepsFrames cfg.rendezvous st.rendezvous
      ⟨now, .consumeCandidate frame.sourceId frame.frameNum⟩) :
    Tracks (st.logProbe now frame.sourceId [frame]).admitted
        (st.rendezvous.consumeCandidate now frame.sourceId frame.frameNum).1 ∧
      (st.logProbe now frame.sourceId [frame]).missed = [] := by
  have hawaits : ∀ c, c ∈ st.awaiting now [frame] ↔
      (∃ m, (m, c) ∈ st.rendezvous.byMessage.entries) ∧ now < c.expiresAt ∧
        c.messageId ∉ st.admitted ∧ c.frame = ((frame.sourceId : ℤ), frame.frameNum) := by
    intro c
    simp [PipelineState.awaiting, PipelineState.Awaits, FrameMeta.key]
  have hmore : st.admitted ⊆ (st.logProbe now frame.sourceId [frame]).admitted :=
    fun m hm => List.mem_append_left _ hm
  obtain ⟨htracks, hfinds⟩ := h.tracks.probe hkeeps hmore (by
    intro hfound m c hc hlive hframe
    by_cases hold : m ∈ st.admitted
    · exact hmore hold
    · have hid := (h.tracks.keyed m c hc).1
      refine List.mem_append_right _ (List.mem_map.mpr ⟨c, List.mem_filter.mpr ⟨?_, ?_⟩, hid⟩)
      · exact (hawaits c).mpr ⟨⟨m, hc⟩, hlive, hid.symm ▸ hold, hframe⟩
      · simp [PipelineState.probeKey, frameNumberFromBuffer, hfound, hframe])
  refine ⟨htracks, ?_⟩
  show st.missed ++ _ = []
  rw [h.missed, List.nil_append, List.filter_eq_nil_iff]
  intro c hc
  obtain ⟨⟨m, hmem⟩, hlive, hnot, hframe⟩ := (hawaits c).mp hc
  have hid := (h.tracks.keyed m c hmem).1
  have hfound := hfinds m c hmem hlive hframe (hid ▸ hnot)
  simp [PipelineState.probeKey, frameNumberFromBuffer, hfound, hframe]

/-- The rendezvous, and the record, after a buffer of one frame came to a branch. -/
theorem probe_rendezvous (st : PipelineState) (now : ℚ) (sourceIndex : ℤ) (frame : FrameMeta) :
    let st' := ((st.logProbe now sourceIndex [frame]).onSnapshotValveProbe now sourceIndex
      [frame]).passValve sourceIndex [frame]
    st'.rendezvous = (st.rendezvous.consumeCandidate now sourceIndex frame.frameNum).1 ∧
      st'.admitted = (st.logProbe now sourceIndex [frame]).admitted ∧
      st'.recorded = st.recorded ∧ st'.missed = (st.logProbe now sourceIndex [frame]).missed := by
  intro st'
  simp only [st']
  have hframe : frameNumberFromBuffer [frame] = some frame.frameNum := rfl
  cases hfound : ((st.logProbe now sourceIndex [frame]).rendezvous.consumeCandidate now sourceIndex
      frame.frameNum).2 with
  | false =>
    rw [probe_turnedAway _ now sourceIndex hframe hfound]
    exact ⟨rfl, rfl, rfl, rfl⟩
  | true =>
    rw [probe_found _ now sourceIndex hframe hfound]
    exact ⟨rfl, rfl, rfl, rfl⟩

/-- A frame that comes to the branch of its source goes behind that branch's valve, if anywhere. -/
theorem PipelineState.Demuxed.probe {st : PipelineState} (h : st.Demuxed) (now : ℚ)
    (frame : FrameMeta) :
    (((st.logProbe now frame.sourceId [frame]).onSnapshotValveProbe now frame.sourceId
      [frame]).passValve frame.sourceId [frame]).Demuxed := by
  obtain ⟨hsubmissions, hcase⟩ := probe_queues st now frame.sourceId [frame]
  refine ⟨?_, hsubmissions ▸ h.submissions⟩
  rcases hcase with ⟨hdown, -⟩ | ⟨f, -, hdown, -⟩
  · rw [hdown]
    exact h.downstream
  · rw [hdown]
    intro i buffer hbuffer
    by_cases hi : i = frame.sourceId
    · subst hi
      rw [Function.update_self, List.mem_append, List.mem_singleton] at hbuffer
      rcases hbuffer with hold | rfl
      · exact h.downstream _ buffer hold
      · exact ⟨frame, rfl, rfl⟩
    · rw [Function.update_of_ne hi] at hbuffer
      exact h.downstream i buffer hbuffer

/-- A JPEG is submitted with a buffer that was behind the branch's valve. -/
theorem PipelineState.Demuxed.sample {st : PipelineState} (h : st.Demuxed) (now : ℚ)
    {sourceIndex : ℤ} {buffer : Buffer} {rest : List Buffer} (mapped : Option Bytes)
    (hdown : st.downstream sourceIndex = buffer :: rest) :
    (({ st with downstream := Function.update st.downstream sourceIndex rest }
      : PipelineState).onSnapshotNewSample now sourceIndex buffer mapped).Demuxed := by
  obtain ⟨hdown', -, hsubmit⟩ := newSample_queues
    { st with downstream := Function.update st.downstream sourceIndex rest } now sourceIndex
    buffer mapped
  constructor
  · rw [hdown']
    intro i b hb
    by_cases hi : i = sourceIndex
    · subst hi
      simp only [Function.update_self] at hb
      exact h.downstream i b (hdown ▸ List.mem_cons_of_mem _ hb)
    · simp only [Function.update_of_ne hi] at hb
      exact h.downstream i b hb
  · rcases hsubmit with hsame | ⟨f, jpegBytes, -, hnew⟩
    · rw [hsame]
      exact h.submissions
    · rw [hnew]
      intro s hs
      rw [List.mem_append, List.mem_singleton] at hs
      rcases hs with hs | rfl
      · exact h.submissions s hs
      · exact h.downstream sourceIndex buffer (hdown ▸ List.mem_cons_self)

/-- A sample at the appsink leaves what the probe needs. -/
theorem PipelineInv.sample {cfg : BridgeConfig} {st : PipelineState} (h : PipelineInv st) {now : ℚ}
    {sourceIndex : ℤ} {skipped : ℕ} {mapped : Option Bytes} (buffer : Buffer) (rest : List Buffer)
    (hkeeps : ∀ x ∈ rendezvousCall st (.newSample now sourceIndex skipped mapped),
      KeepsFrames cfg.rendezvous st.rendezvous x) :
    let st' := ({ st with downstream := Function.update st.downstream sourceIndex rest }
      : PipelineState).onSnapshotNewSample now sourceIndex buffer mapped
    Tracks st'.admitted st'.rendezvous ∧
      (∀ m c, (m, c) ∈ st'.rendezvous.byMessage.entries → m ∈ st'.recorded) ∧ st'.missed = [] := by
  intro st'
  simp only [st', PipelineState.onSnapshotNewSample]
  cases hpending : st.pendingSnapshotFrames sourceIndex with
  | nil => exact ⟨h.tracks, h.known, h.missed⟩
  | cons f pending =>
    cases mapped with
    | none => exact ⟨h.tracks, h.known, h.missed⟩
    | some jpegBytes =>
      have hcall := hkeeps ⟨now, .submitJpeg sourceIndex f jpegBytes⟩
        (by simp [rendezvousCall, hpending])
      have hfresh : FreshMessage st.rendezvous ⟨now, .submitJpeg sourceIndex f jpegBytes⟩ :=
        fun _ _ _ hcall => by cases hcall
      refine ⟨h.tracks.step hfresh hcall (fun _ _ hcall => by cases hcall), ?_, h.missed⟩
      intro m c hc
      exact known_other cfg.rendezvous ⟨now, .submitJpeg sourceIndex f jpegBytes⟩ h.tracks.keyed
        h.known (fun _ _ _ hcall => by cases hcall) hc

/-- The step lemma of a run that keeps frames. -/
theorem PipelineInv.step {cfg : BridgeConfig} (hdynamic : cfg.dynamicOutputs = true)
    {st st' : PipelineState} {action : PipelineAction} (h : PipelineInv st)
    (hguard : FramesKept cfg st action) (hstep : pipelineStep cfg st action = some st') :
    PipelineInv st' := by
  obtain ⟨hinStep, hattributed⟩ := attribution_step h.inStep h.attributed hguard.1 hstep
  obtain ⟨hlossless, hkeeps⟩ := hguard
  cases action with
  | recordDetection now batch d =>
    simp only [pipelineStep] at hstep
    split at hstep
    · rename_i hnew
      obtain rfl := Option.some.inj hstep
      have hfresh : FreshMessage st.rendezvous
          ⟨now, .recordDetection d.sourceId d.messageId d.frameNumber⟩ := by
        intro s m f hcall c hc
        cases hcall
        exact hnew.2 (h.known _ c hc)
      refine ⟨h.tracks.step hfresh (hkeeps _ rfl) (fun _ _ hcall => by cases hcall), ?_,
        h.missed, hinStep, hattributed, ⟨h.demuxed.downstream, h.demuxed.submissions⟩⟩
      intro m c hc
      rcases known_step (x := ⟨now, .recordDetection d.sourceId d.messageId d.frameNumber⟩)
        h.tracks.keyed h.known hc with hold | ⟨s, f, hcall⟩
      · exact List.mem_append_left _ hold
      · cases hcall
        exact List.mem_append_right _ (List.mem_singleton_self _)
    · cases hstep
  | valveProbe now sourceIndex batch buffer =>
    simp only [pipelineStep] at hstep
    split at hstep
    · rename_i hbranch
      obtain ⟨frame, rfl, rfl⟩ := mem_buffersAt hdynamic hbranch.2
      obtain rfl := Option.some.inj hstep
      obtain ⟨hrendezvous, hadmitted, hrecorded, hmissed⟩ :=
        probe_rendezvous st now frame.sourceId frame
      obtain ⟨htracks, hnone⟩ := h.probe (hkeeps _ rfl)
      refine ⟨?_, ?_, hmissed.trans hnone, hinStep, hattributed, h.demuxed.probe now frame⟩
      · rw [hrendezvous, hadmitted]
        exact htracks
      · rw [hrendezvous, hrecorded]
        intro m c hc
        exact known_other cfg.rendezvous ⟨now, .consumeCandidate frame.sourceId frame.frameNum⟩
          h.tracks.keyed h.known (fun _ _ _ hcall => by cases hcall) hc
    · cases hstep
  | newSample now sourceIndex skipped mapped =>
    obtain rfl : skipped = 0 := hlossless
    simp only [pipelineStep, List.drop_zero] at hstep
    cases hdown : st.downstream sourceIndex with
    | nil =>
      rw [hdown] at hstep
      cases hstep
    | cons buffer rest =>
      rw [hdown] at hstep
      obtain rfl := Option.some.inj hstep
      obtain ⟨htracks, hknown, hmissed⟩ := h.sample buffer rest hkeeps
      exact ⟨htracks, hknown, hmissed, hinStep, hattributed, h.demuxed.sample now mapped hdown⟩
  | emptyPull sourceIndex =>
    obtain rfl := Option.some.inj hstep
    exact h
  | submitAck now messageId outcome eventId snapshotRequired =>
    obtain rfl := Option.some.inj hstep
    have hfresh : FreshMessage st.rendezvous
        ⟨now, .submitAck messageId outcome eventId snapshotRequired⟩ :=
      fun _ _ _ hcall => by cases hcall
    exact ⟨h.tracks.step hfresh (hkeeps _ rfl) (fun _ _ hcall => by cases hcall),
      fun m c hc => known_other cfg.rendezvous ⟨now, .submitAck messageId outcome eventId
        snapshotRequired⟩ h.tracks.keyed h.known (fun _ _ _ hcall => by cases hcall) hc,
      h.missed, hinStep, hattributed, ⟨h.demuxed.downstream, h.demuxed.submissions⟩⟩

theorem pipelineInv_fresh : PipelineInv .fresh where
  tracks := tracks_fresh
  known := fun _ _ h => absurd h List.not_mem_nil
  missed := rfl
  inStep := fun _ => rfl
  attributed := fun _ h => absurd h List.not_mem_nil
  demuxed := ⟨fun _ _ h => absurd h List.not_mem_nil, fun _ h => absurd h List.not_mem_nil⟩

/-- **With outputs for each camera, a candidate that is still there is found when its buffer comes to
the probe, and every JPEG is submitted under the key of the frame it was encoded from**, as long as
no call disconnects a frame and no buffer is lost behind a valve. -/
theorem candidates_found (cfg : BridgeConfig) (hdynamic : cfg.dynamicOutputs = true)
    (st : PipelineState) (h : (pipelineSystem cfg).ReachableUnder (FramesKept cfg) st) :
    st.missed = [] ∧
      ∀ s ∈ st.submissions, (s.sourceIndex, s.frameNumber) ∈ s.encodedFrom.map FrameMeta.key := by
  have hinv : PipelineInv st := by
    induction h with
    | init hinit =>
      obtain rfl := hinit
      exact pipelineInv_fresh
    | step _ hguard hstep ih => exact ih.step hdynamic hguard hstep
  refine ⟨hinv.missed, fun s hs => ?_⟩
  obtain ⟨frame, hframe, hsource⟩ := hinv.demuxed.submissions s hs
  have hnumber := hinv.attributed s hs
  rw [hframe] at hnumber ⊢
  have hnumber' : frame.frameNum = s.frameNumber := Option.some.inj hnumber
  rw [List.map_singleton, List.mem_singleton, FrameMeta.key, hsource, hnumber']

/-- Two objects on one frame, whose buffer then comes to the probe; the first of them is
acknowledged. -/
def twoObjects : List PipelineAction :=
  let batch : Buffer := [⟨0, 1, ["gun", "knife"]⟩]
  [.recordDetection 0 batch ⟨0, "gun", 1⟩, .recordDetection 0 batch ⟨0, "knife", 1⟩,
    .valveProbe 1 0 batch batch, .submitAck 2 "gun" (some "accepted") (some "event") true]

theorem candidates_found_twoObjects :
    ∃ st, (pipelineSystem oneCamera).ReachableUnder (FramesKept oneCamera) st ∧
      st.admitted = ["gun", "knife"] ∧ st.submissions.length = 1 ∧ st.missed = [] ∧
      ∀ s ∈ st.submissions, (s.sourceIndex, s.frameNumber) ∈ s.encodedFrom.map FrameMeta.key := by
  let actions := twoObjects ++ [.newSample 3 0 0 (some [1])]
  have hend : ((pipelineSystem oneCamera).exec .fresh actions).map
      (fun st => (st.admitted, st.submissions.length)) = some (["gun", "knife"], 1) := by
    decide +kernel
  obtain ⟨st, hrun, hpair⟩ := Option.map_eq_some_iff.mp hend
  obtain ⟨hadmitted, hlength⟩ := Prod.mk.inj hpair
  have hreach : (pipelineSystem oneCamera).ReachableUnder (FramesKept oneCamera) st :=
    .exec (.init rfl) (by decide +kernel) hrun
  exact ⟨st, hreach, hadmitted, hlength, candidates_found oneCamera rfl st hreach⟩

/-- Where the acknowledgement of one object discards it before the buffer comes, the other object of
the frame is lost with it. -/
theorem discarded_object_disconnects_frame :
    ∃ st, (pipelineSystem oneCamera).Reachable st ∧ st.missed.map Candidate.messageId = ["gun"] := by
  let batch : Buffer := [⟨0, 1, ["gun", "knife"]⟩]
  have hend : ((pipelineSystem oneCamera).exec .fresh
      [.recordDetection 0 batch ⟨0, "gun", 1⟩, .recordDetection 0 batch ⟨0, "knife", 1⟩,
        .submitAck 1 "knife" (some "cooldown") none false, .valveProbe 2 0 batch batch]).map
      (fun st => st.missed.map Candidate.messageId) = some ["gun"] := by decide +kernel
  obtain ⟨st, hrun, hmissed⟩ := Option.map_eq_some_iff.mp hend
  exact ⟨st, .exec (.init rfl) hrun, hmissed⟩

/-! ## The shared output -/

/-- The rendezvous only knows frames of real sources. -/
def Rendezvous.RealSources (st : Rendezvous) : Prop := ∀ k m, (k, m) ∈ st.byFrame.entries → 0 ≤ k.1

theorem Rendezvous.RealSources.shrinks {st st' : Rendezvous} (h : st.RealSources)
    (hshrinks : Shrinks st st') : st'.RealSources :=
  fun k m hm => h k m (hshrinks.byFrame _ hm)

/-- Only a recording brings a frame. -/
theorem Rendezvous.RealSources.step {st : Rendezvous} (h : st.RealSources) (cfg : RendezvousConfig)
    (x : TimedCall) (hk : st.Keyed)
    (hrecord : ∀ s m f, x.call = .recordDetection s m f → 0 ≤ s) :
    (step cfg st x).1.RealSources := by
  have h1 : (st.expire x.now).RealSources := h.shrinks (shrinks_expire st x.now)
  have hcase := step_case cfg hk x
  generalize (Bridge.step cfg st x).1 = st' at hcase ⊢
  generalize (Bridge.step cfg st x).2 = out at hcase
  cases hcase with
  | keep _ => exact h1
  | discard _ _ _ => exact h1.shrinks (shrinks_remove _ _)
  | @record s messageId f hcall =>
    intro k m hm
    rcases (mem_insert_evict cfg (st.expire x.now) x.now s messageId f).2 _ hm with hold | hnew
    · exact h1 k m hold
    · obtain ⟨rfl, rfl⟩ := Prod.mk.inj hnew
      exact hrecord s m f hcall
  | update _ _ _ => exact h1
  | complete _ _ _ _ _ => exact h1.shrinks (shrinks_remove _ _)

/-- The index of the shared output is the source of no frame. -/
theorem Rendezvous.RealSources.consumeCandidate {st : Rendezvous} (h : st.RealSources)
    (hk : st.Keyed) (now : ℚ) (f : ℤ) :
    (st.consumeCandidate now sharedOutputSourceIndex f).2 = false := by
  rcases consumeCandidate_cases hk now sharedOutputSourceIndex f with ⟨heq, -⟩ | ⟨c, hframe, -, -⟩
  · rw [heq]
  · have hpos : 0 ≤ sharedOutputSourceIndex :=
      h _ _ ((shrinks_expire st now).byFrame _ hframe)
    exact absurd hpos (by decide)

/-- Nothing was let through the valves. -/
structure PipelineState.Shut (st : PipelineState) : Prop where
  keyed : st.rendezvous.Keyed
  realSources : st.rendezvous.RealSources
  downstream : ∀ i, st.downstream i = []
  admitted : st.admitted = []
  submissions : st.submissions = []

/-- The step lemma of the shared output. -/
theorem PipelineState.Shut.step {cfg : BridgeConfig} (hshared : cfg.dynamicOutputs = false)
    {st st' : PipelineState} {action : PipelineAction} (h : st.Shut)
    (hstep : pipelineStep cfg st action = some st') : st'.Shut := by
  cases action with
  | recordDetection now batch d =>
    simp only [pipelineStep] at hstep
    split at hstep
    · rename_i hnew
      obtain rfl := Option.some.inj hstep
      have hsource : 0 ≤ d.sourceId := by
        obtain ⟨frame, -, hd⟩ := List.mem_flatMap.mp hnew.1
        obtain ⟨messageId, -, rfl⟩ := List.mem_map.mp hd
        exact Int.natCast_nonneg _
      exact ⟨h.keyed.step cfg.rendezvous ⟨now, .recordDetection d.sourceId d.messageId d.frameNumber⟩,
        h.realSources.step cfg.rendezvous
          ⟨now, .recordDetection d.sourceId d.messageId d.frameNumber⟩ h.keyed
          (fun s m f hcall => by cases hcall; exact hsource),
        h.downstream, h.admitted, h.submissions⟩
    · cases hstep
  | valveProbe now sourceIndex batch buffer =>
    simp only [pipelineStep] at hstep
    split at hstep
    · rename_i hbranch
      obtain rfl := Option.some.inj hstep
      obtain rfl : sourceIndex = sharedOutputSourceIndex := by
        have hmem := hbranch.1
        rw [BridgeConfig.snapshotBranches, hshared] at hmem
        cases hsnapshot : cfg.snapshotEnabled with
        | false => simp [hsnapshot] at hmem
        | true => simpa [hsnapshot] using hmem
      have hturned : ∀ f, (st.rendezvous.consumeCandidate now sharedOutputSourceIndex f).2 = false :=
        fun f => h.realSources.consumeCandidate h.keyed now f
      have hkey : st.probeKey now sharedOutputSourceIndex buffer = none := by
        simp [PipelineState.probeKey, hturned]
      have hadmitted : (st.logProbe now sharedOutputSourceIndex buffer).admitted = [] := by
        simp [PipelineState.logProbe, hkey, h.admitted]
      cases hframe : frameNumberFromBuffer buffer with
      | none =>
        rw [probe_noFrame _ now _ hframe]
        exact ⟨h.keyed, h.realSources, h.downstream, hadmitted, h.submissions⟩
      | some f =>
        rw [probe_turnedAway (st.logProbe now sharedOutputSourceIndex buffer) now _ hframe
          (hturned f)]
        exact ⟨h.keyed.step cfg.rendezvous ⟨now, .consumeCandidate sharedOutputSourceIndex f⟩,
          h.realSources.step cfg.rendezvous
            ⟨now, .consumeCandidate sharedOutputSourceIndex f⟩ h.keyed
            (fun _ _ _ hcall => by cases hcall),
          h.downstream, hadmitted, h.submissions⟩
    · cases hstep
  | newSample now sourceIndex skipped mapped =>
    simp only [pipelineStep, h.downstream, List.drop_nil] at hstep
    cases hstep
  | emptyPull sourceIndex =>
    obtain rfl := Option.some.inj hstep
    exact h
  | submitAck now messageId outcome eventId snapshotRequired =>
    obtain rfl := Option.some.inj hstep
    exact ⟨h.keyed.step cfg.rendezvous ⟨now, .submitAck messageId outcome eventId snapshotRequired⟩,
      h.realSources.step cfg.rendezvous
        ⟨now, .submitAck messageId outcome eventId snapshotRequired⟩ h.keyed
        (fun _ _ _ hcall => by cases hcall),
      h.downstream, h.admitted, h.submissions⟩

/-- **The shared output lets no buffer through**: no candidate is ever found, and no JPEG submitted. -/
theorem shared_output_admits_nothing {cfg : BridgeConfig} (hshared : cfg.dynamicOutputs = false)
    {st : PipelineState} (h : (pipelineSystem cfg).Reachable st) :
    st.admitted = [] ∧ st.submissions = [] := by
  have hshut : st.Shut := by
    refine h.invariant ?_ fun s a s' hs hstep => hs.step hshared hstep
    rintro s rfl
    exact ⟨fun _ _ hm => absurd hm List.not_mem_nil, fun _ _ hm => absurd hm List.not_mem_nil,
      fun _ => rfl, rfl, rfl⟩
  exact ⟨hshut.admitted, hshut.submissions⟩

/-- One camera on the shared output: its candidate is there when the buffer comes, and missed. -/
theorem shared_output_misses_candidate :
    ∃ cfg : BridgeConfig, cfg.snapshotEnabled = true ∧
      ∃ st, (pipelineSystem cfg).Reachable st ∧ st.missed ≠ [] := by
  let cfg : BridgeConfig := { oneCamera with sources := [⟨0, none⟩] }
  let batch : Buffer := [⟨0, 1, ["gun"]⟩]
  have hend : ((pipelineSystem cfg).exec .fresh
      [.recordDetection 0 batch ⟨0, "gun", 1⟩,
        .valveProbe 1 sharedOutputSourceIndex batch batch]).map
      (fun st => st.missed.map Candidate.messageId) = some ["gun"] := by decide +kernel
  obtain ⟨st, hrun, hmissed⟩ := Option.map_eq_some_iff.mp hend
  refine ⟨cfg, rfl, st, .exec (.init rfl) hrun, fun hnil => ?_⟩
  rw [hnil] at hmissed
  cases hmissed

end WeaponDetection.Bridge
