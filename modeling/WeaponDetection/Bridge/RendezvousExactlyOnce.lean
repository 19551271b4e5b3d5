import WeaponDetection.Bridge.SnapshotRendezvous

/-!
# Exactly one snapshot per detection

The run theory of the rendezvous: what each call does to the two indexes, the invariants every run
keeps, the invariant only a run without shared frames keeps, and from both the statement that a
detection whose JPEG and acknowledgement arrive in time completes exactly once.
-/

namespace WeaponDetection.Bridge

open WeaponDetection.Foundations (OrderedDict)

/-! ## The first index under removal and expiry -/

/-- Every candidate is stored under its own message and is not completed: completing removes it. -/
def Rendezvous.Keyed (st : Rendezvous) : Prop :=
  ∀ m c, (m, c) ∈ st.byMessage.entries → c.messageId = m ∧ c.completed = false

theorem mem_foldl_remove (cs : List Candidate) (st : Rendezvous) (e : String × Candidate) :
    e ∈ (cs.foldl Rendezvous.remove st).byMessage.entries ↔
      e ∈ st.byMessage.entries ∧ ∀ c ∈ cs, e.1 ≠ c.messageId := by
  induction cs generalizing st with
  | nil => simp
  | cons c cs ih =>
    rw [List.foldl_cons, ih, Rendezvous.remove, OrderedDict.mem_entries_pop, List.forall_mem_cons,
      and_assoc]

theorem mem_byFrame_foldl_remove (cs : List Candidate) (st : Rendezvous) (e : FrameKey × String) :
    e ∈ (cs.foldl Rendezvous.remove st).byFrame.entries ↔
      e ∈ st.byFrame.entries ∧ ∀ c ∈ cs, e.1 ≠ c.frame := by
  induction cs generalizing st with
  | nil => simp
  | cons c cs ih =>
    rw [List.foldl_cons, ih, Rendezvous.remove, OrderedDict.mem_entries_pop, List.forall_mem_cons,
      and_assoc]

/-- Expiry keeps exactly the candidates whose time has not come. -/
theorem mem_expire {st : Rendezvous} (hk : st.Keyed) (now : ℚ) (m : String) (c : Candidate) :
    (m, c) ∈ (st.expire now).byMessage.entries ↔
      (m, c) ∈ st.byMessage.entries ∧ now < c.expiresAt := by
  unfold Rendezvous.expire Rendezvous.expired
  rw [mem_foldl_remove]
  refine and_congr_right fun hmem => ?_
  constructor
  · intro h
    by_contra hle
    refine h c (List.mem_filter.mpr ⟨List.mem_map.mpr ⟨_, hmem, rfl⟩, ?_⟩) (hk m c hmem).1.symm
    simp [not_lt.mp hle, (hk m c hmem).2]
  · intro hlt c' hc' hm
    obtain ⟨hval, hexp⟩ := List.mem_filter.mp hc'
    obtain ⟨⟨m', c''⟩, hmem', rfl⟩ := List.mem_map.mp hval
    obtain rfl : m' = m := (hk m' c'' hmem').1.symm.trans hm.symm
    obtain rfl := OrderedDict.value_unique hmem hmem'
    simp only [decide_eq_true_eq] at hexp
    exact absurd hexp.1 (not_le.mpr hlt)

/-! ## Steps that only shrink -/

/-- Both indexes lose entries and gain none. -/
structure Shrinks (st st' : Rendezvous) : Prop where
  byMessage : ∀ e ∈ st'.byMessage.entries, e ∈ st.byMessage.entries
  byFrame : ∀ e ∈ st'.byFrame.entries, e ∈ st.byFrame.entries

theorem Shrinks.refl (st : Rendezvous) : Shrinks st st := ⟨fun _ => id, fun _ => id⟩

theorem Shrinks.trans {a b c : Rendezvous} (h : Shrinks a b) (h' : Shrinks b c) : Shrinks a c :=
  ⟨fun e he => h.1 e (h'.1 e he), fun e he => h.2 e (h'.2 e he)⟩

theorem shrinks_remove (st : Rendezvous) (c : Candidate) : Shrinks st (st.remove c) :=
  ⟨fun _ he => (OrderedDict.mem_entries_pop.mp he).1,
    fun _ he => (OrderedDict.mem_entries_pop.mp he).1⟩

theorem shrinks_expire (st : Rendezvous) (now : ℚ) : Shrinks st (st.expire now) :=
  ⟨fun e he => ((mem_foldl_remove _ _ e).mp he).1,
    fun e he => ((mem_byFrame_foldl_remove _ _ e).mp he).1⟩

theorem shrinks_evictOldest (st : Rendezvous) : Shrinks st st.evictOldest := by
  unfold Rendezvous.evictOldest
  split
  · exact ⟨fun e he => List.mem_of_mem_tail he, fun e he => (OrderedDict.mem_entries_pop.mp he).1⟩
  · exact .refl st

theorem shrinks_evictFrame (st : Rendezvous) : Shrinks st st.evictFrame :=
  ⟨fun _ => id, fun _ he => List.mem_of_mem_tail he⟩

theorem shrinks_iterate {f : Rendezvous → Rendezvous} (hf : ∀ st, Shrinks st (f st)) (n : ℕ)
    (st : Rendezvous) : Shrinks st (f^[n] st) := by
  induction n generalizing st with
  | zero => exact .refl st
  | succ n ih => exact (hf st).trans (ih (f st))

theorem shrinks_evict (cfg : RendezvousConfig) (st : Rendezvous) : Shrinks st (st.evict cfg) :=
  (shrinks_iterate shrinks_evictOldest _ st).trans (shrinks_iterate shrinks_evictFrame _ _)

theorem Shrinks.keyed {st st' : Rendezvous} (h : Shrinks st st') (hk : st.Keyed) : st'.Keyed :=
  fun m c hmem => hk m c (h.byMessage _ hmem)

/-! ## What a call does -/

/-- Both halves of a candidate are there. -/
structure Candidate.Ready (c : Candidate) : Prop where
  accepted : c.ackOutcome = some "accepted"
  required : c.snapshotRequired = true
  eventId : c.eventId.isSome = true
  jpegBytes : c.jpegBytes.isSome = true

/-- The field a call adds to a candidate it finds through the indexes. -/
inductive Brings (x : TimedCall) (st : Rendezvous) (c : Candidate) : Candidate → Prop where
  | valve {sourceId frameNumber : ℤ} : x.call = .consumeCandidate sourceId frameNumber →
      Brings x st c { c with valveMatched := true }
  | jpeg {sourceId frameNumber : ℤ} {jpegBytes : Bytes} :
      x.call = .submitJpeg sourceId frameNumber jpegBytes →
      ((sourceId, frameNumber), c.messageId) ∈ st.byFrame.entries →
      Brings x st c { c with jpegBytes := some jpegBytes }
  | ack {eventId : Option String} :
      x.call = .submitAck c.messageId (some "accepted") eventId true →
      Brings x st c
        { c with ackOutcome := some "accepted", eventId := eventId, snapshotRequired := true }

/-- A call that finds no candidate to work on. -/
def Misses (st : Rendezvous) : Call → Prop
  | .recordDetection _ _ _ => False
  | .consumeCandidate _ _ => True
  | .submitJpeg sourceId frameNumber _ => ∀ m c, ((sourceId, frameNumber), m) ∈ st.byFrame.entries →
      (m, c) ∉ st.byMessage.entries
  | .submitAck messageId _ _ _ => ∀ c, (messageId, c) ∉ st.byMessage.entries

/-- Everything a call can do, seen from the state `st` after expiry. -/
inductive StepCase (cfg : RendezvousConfig) (st : Rendezvous) (x : TimedCall) :
    Rendezvous → Option Completion → Prop where
  | keep : Misses st x.call → StepCase cfg st x st none
  | discard {c : Candidate} {outcome eventId : Option String} {snapshotRequired : Bool} :
      (c.messageId, c) ∈ st.byMessage.entries →
      x.call = .submitAck c.messageId outcome eventId snapshotRequired →
      outcome ≠ some "accepted" ∨ snapshotRequired = false →
      StepCase cfg st x (st.remove c) none
  | record {sourceId : ℤ} {messageId : String} {frameNumber : ℤ} :
      x.call = .recordDetection sourceId messageId frameNumber →
      StepCase cfg st x ((st.insert cfg x.now sourceId messageId frameNumber).evict cfg) none
  | update {c c' : Candidate} :
      (c.messageId, c) ∈ st.byMessage.entries → Brings x st c c' → (c'.Ready → c.Ready) →
      StepCase cfg st x (st.store c') none
  | complete {c c' : Candidate} {eventId : String} {jpegBytes : Bytes} :
      (c.messageId, c) ∈ st.byMessage.entries → Brings x st c c' → c'.Ready →
      c'.eventId = some eventId → c'.jpegBytes = some jpegBytes →
      StepCase cfg st x (st.remove c') (some { messageId := c.messageId, eventId, jpegBytes })

theorem Brings.messageId {x : TimedCall} {st : Rendezvous} {c c' : Candidate}
    (h : Brings x st c c') : c'.messageId = c.messageId := by
  cases h <;> rfl

theorem Brings.frame {x : TimedCall} {st : Rendezvous} {c c' : Candidate}
    (h : Brings x st c c') : c'.frame = c.frame := by
  cases h <;> rfl

theorem Brings.expiresAt {x : TimedCall} {st : Rendezvous} {c c' : Candidate}
    (h : Brings x st c c') : c'.expiresAt = c.expiresAt := by
  cases h <;> rfl

theorem Brings.completed {x : TimedCall} {st : Rendezvous} {c c' : Candidate}
    (h : Brings x st c c') : c'.completed = c.completed := by
  cases h <;> rfl

/-- A candidate with a new field completes exactly when it is ready. -/
theorem tryComplete_cases (st : Rendezvous) {c : Candidate} (hc : c.completed = false) :
    (¬ c.Ready ∧ st.tryComplete c = (st.store c, none)) ∨
      ∃ eventId jpegBytes, c.Ready ∧ c.eventId = some eventId ∧ c.jpegBytes = some jpegBytes ∧
        st.tryComplete c = (st.remove c, some { messageId := c.messageId, eventId, jpegBytes }) := by
  unfold Rendezvous.tryComplete
  simp only [hc, Bool.false_eq_true, ↓reduceIte]
  by_cases hack : c.ackOutcome ≠ some "accepted" ∨ c.snapshotRequired = false
  · rw [if_pos hack]
    refine .inl ⟨fun h => ?_, rfl⟩
    rcases hack with hne | hreq
    · exact hne h.accepted
    · exact absurd h.required (by simp [hreq])
  · rw [if_neg hack]
    rw [not_or, not_not, Bool.not_eq_false] at hack
    cases hevent : c.eventId with
    | none => exact .inl ⟨fun h => by simpa [hevent] using h.eventId, rfl⟩
    | some eventId =>
      cases hjpeg : c.jpegBytes with
      | none => exact .inl ⟨fun h => by simpa [hjpeg] using h.jpegBytes, rfl⟩
      | some jpegBytes =>
        exact .inr ⟨eventId, jpegBytes, ⟨hack.1, hack.2, by simp [hevent], by simp [hjpeg]⟩, rfl,
          rfl, rfl⟩

/-- The candidate a frame leads to. -/
theorem bind_get?_eq_some {st : Rendezvous} (hk : st.Keyed) {k : FrameKey} {c : Candidate}
    (h : (st.byFrame.get? k).bind st.byMessage.get? = some c) :
    (k, c.messageId) ∈ st.byFrame.entries ∧ (c.messageId, c) ∈ st.byMessage.entries := by
  obtain ⟨m, hm, hc⟩ := Option.bind_eq_some_iff.mp h
  have hmem := OrderedDict.get?_eq_some_iff.mp hc
  rw [(hk m c hmem).1]
  exact ⟨OrderedDict.get?_eq_some_iff.mp hm, hmem⟩

/-- A frame without a candidate. -/
theorem bind_get?_eq_none {st : Rendezvous} {k : FrameKey}
    (h : (st.byFrame.get? k).bind st.byMessage.get? = none) (m : String) (c : Candidate)
    (hm : (k, m) ∈ st.byFrame.entries) : (m, c) ∉ st.byMessage.entries := fun hc => by
  rw [OrderedDict.get?_eq_some_iff.mpr hm, Option.bind_some,
    OrderedDict.get?_eq_some_iff.mpr hc] at h
  simp at h

/-- The step lemma: every call is one of the five cases. -/
theorem step_case (cfg : RendezvousConfig) {st : Rendezvous} (hk : st.Keyed) (x : TimedCall) :
    StepCase cfg (st.expire x.now) x (step cfg st x).1 (step cfg st x).2 := by
  have hk1 : (st.expire x.now).Keyed := (shrinks_expire st x.now).keyed hk
  unfold step
  cases hcall : x.call with
  | recordDetection sourceId messageId frameNumber => exact .record hcall
  | consumeCandidate sourceId frameNumber =>
    have hmiss : Misses (st.expire x.now) x.call := by rw [hcall]; trivial
    simp only [Rendezvous.consumeCandidate]
    cases hfind : ((st.expire x.now).byFrame.get? (sourceId, frameNumber)).bind
        (st.expire x.now).byMessage.get? with
    | none => exact .keep hmiss
    | some c =>
      simp only
      split
      · exact .keep hmiss
      · exact .update (bind_get?_eq_some hk1 hfind).2 (.valve hcall) fun h => ⟨h.1, h.2, h.3, h.4⟩
  | submitJpeg sourceId frameNumber jpegBytes =>
    simp only [Rendezvous.submitJpeg]
    cases hfind : ((st.expire x.now).byFrame.get? (sourceId, frameNumber)).bind
        (st.expire x.now).byMessage.get? with
    | none => exact .keep (by rw [hcall]; exact bind_get?_eq_none hfind)
    | some c =>
      obtain ⟨hframe, hmem⟩ := bind_get?_eq_some hk1 hfind
      have hcompleted := (hk1 _ _ hmem).2
      have hbrings : Brings x (st.expire x.now) c { c with jpegBytes := some jpegBytes } :=
        .jpeg hcall hframe
      simp only [if_neg (show ¬ c.completed = true by simp [hcompleted])]
      rcases tryComplete_cases (st.expire x.now) (hbrings.completed.trans hcompleted) with
        ⟨hready, heq⟩ | ⟨eventId, bytes, hready, hevent, hjpeg, heq⟩
      · rw [heq]
        exact .update hmem hbrings fun h => absurd h hready
      · rw [heq]
        exact StepCase.complete (c := c) hmem hbrings hready hevent hjpeg
  | submitAck messageId outcome eventId snapshotRequired =>
    simp only [Rendezvous.submitAck]
    cases hfind : (st.expire x.now).byMessage.get? messageId with
    | none =>
      refine .keep ?_
      rw [hcall]
      intro c hc
      rw [OrderedDict.get?_eq_some_iff.mpr hc] at hfind
      simp at hfind
    | some c =>
      have hmem' := OrderedDict.get?_eq_some_iff.mp hfind
      obtain ⟨hid, hcompleted⟩ := hk1 _ _ hmem'
      have hmem : (c.messageId, c) ∈ (st.expire x.now).byMessage.entries := hid ▸ hmem'
      simp only [if_neg (show ¬ c.completed = true by simp [hcompleted])]
      split
      · rename_i hack
        exact .discard hmem (by rw [hcall, hid]) hack
      · rename_i hack
        rw [not_or, not_not, Bool.not_eq_false] at hack
        obtain ⟨rfl, rfl⟩ := hack
        have hbrings : Brings x (st.expire x.now) c
            { c with ackOutcome := some "accepted", eventId, snapshotRequired := true } :=
          .ack (by rw [hcall, hid])
        rcases tryComplete_cases (st.expire x.now) (hbrings.completed.trans hcompleted) with
          ⟨hready, heq⟩ | ⟨event, bytes, hready, hevent, hjpeg, heq⟩
        · rw [heq]
          exact .update hmem hbrings fun h => absurd h hready
        · rw [heq]
          exact StepCase.complete (c := c) hmem hbrings hready hevent hjpeg

/-- Where the entries after a recording come from. -/
theorem mem_insert_evict (cfg : RendezvousConfig) (st : Rendezvous) (now : ℚ) (s : ℤ)
    (m : String) (f : ℤ) :
    (∀ e ∈ ((st.insert cfg now s m f).evict cfg).byMessage.entries,
      e ∈ st.byMessage.entries ∨ e = (m, newCandidate cfg now s m f)) ∧
    (∀ e ∈ ((st.insert cfg now s m f).evict cfg).byFrame.entries,
      e ∈ st.byFrame.entries ∨ e = ((s, f), m)) := by
  refine ⟨fun e he => ?_, fun e he => ?_⟩
  · have hmem := (shrinks_evict cfg _).byMessage e he
    rw [Rendezvous.insert, OrderedDict.entries_moveToEnd_set, List.mem_append,
      List.mem_singleton] at hmem
    exact hmem.imp_left fun h => (OrderedDict.mem_entries_pop.mp h).1
  · have hmem := (shrinks_evict cfg _).byFrame e he
    rw [Rendezvous.insert, OrderedDict.entries_moveToEnd_set, List.mem_append,
      List.mem_singleton] at hmem
    exact hmem.imp_left fun h => (OrderedDict.mem_entries_pop.mp h).1

/-! ## The invariant of every run -/

/-- The messages a list of calls records. -/
def recordedIds (calls : List TimedCall) : List String :=
  calls.filterMap fun x =>
    match x.call with
    | .recordDetection _ messageId _ => some messageId
    | _ => none

theorem mem_recordedIds {calls : List TimedCall} {x : TimedCall} (hx : x ∈ calls)
    {sourceId : ℤ} {messageId : String} {frameNumber : ℤ}
    (h : x.call = .recordDetection sourceId messageId frameNumber) :
    messageId ∈ recordedIds calls :=
  List.mem_filterMap.mpr ⟨x, hx, by rw [h]⟩

/-- A message is recorded on one frame only. -/
theorem recorded_unique {calls : List TimedCall} (hids : (recordedIds calls).Nodup)
    {x y : TimedCall} (hx : x ∈ calls) (hy : y ∈ calls) {m : String} {s f s' f' : ℤ}
    (hxm : x.call = .recordDetection s m f) (hym : y.call = .recordDetection s' m f') :
    s = s' ∧ f = f' := by
  induction calls with
  | nil => simp at hx
  | cons a calls ih =>
    have htail : (recordedIds calls).Nodup := by
      refine hids.sublist ?_
      exact (List.sublist_cons_self a calls).filterMap _
    have hhead : ∀ {z : TimedCall} {s f s' f' : ℤ}, z ∈ calls →
        z.call = .recordDetection s m f → a.call ≠ .recordDetection s' m f' := by
      intro z s f s' f' hz hzm ha
      rw [recordedIds, List.filterMap_cons, ha] at hids
      exact (List.nodup_cons.mp hids).1 (mem_recordedIds hz hzm)
    rcases List.mem_cons.mp hx with rfl | hx' <;> rcases List.mem_cons.mp hy with rfl | hy'
    · rw [hxm] at hym
      cases hym
      exact ⟨rfl, rfl⟩
    · exact absurd hxm (hhead hy' hym)
    · exact absurd hym (hhead hx' hxm)
    · exact ih htail hx' hy'

/-- The calls a candidate's fields come from. -/
structure CandidateHistory (calls : List TimedCall) (c : Candidate) : Prop where
  recorded : ∃ x ∈ calls, x.call = .recordDetection c.sourceId c.messageId c.frameNumber
  jpeg : ∀ b, c.jpegBytes = some b →
    ∃ x ∈ calls, x.call = .submitJpeg c.sourceId c.frameNumber b
  ack : ∀ e, c.eventId = some e →
    ∃ x ∈ calls, x.call = .submitAck c.messageId (some "accepted") (some e) true

theorem CandidateHistory.mono {calls : List TimedCall} {c : Candidate}
    (h : CandidateHistory calls c) (x : TimedCall) : CandidateHistory (calls ++ [x]) c := by
  have hmono : ∀ {P : TimedCall → Prop}, (∃ y ∈ calls, P y) → ∃ y ∈ calls ++ [x], P y :=
    fun ⟨y, hy, hP⟩ => ⟨y, List.mem_append_left _ hy, hP⟩
  exact ⟨hmono h.recorded, fun b hb => hmono (h.jpeg b hb), fun e he => hmono (h.ack e he)⟩

/-- A result was earned: its message was recorded on a frame whose JPEG it carries, and its event is
the one the message was acknowledged with. -/
def Completion.Earned (calls : List TimedCall) (o : Completion) : Prop :=
  ∃ s f, (∃ x ∈ calls, x.call = .recordDetection s o.messageId f) ∧
    (∃ x ∈ calls, x.call = .submitJpeg s f o.jpegBytes) ∧
    ∃ x ∈ calls, x.call = .submitAck o.messageId (some "accepted") (some o.eventId) true

theorem Completion.Earned.mono {calls : List TimedCall} {o : Completion} (h : o.Earned calls)
    (x : TimedCall) : o.Earned (calls ++ [x]) := by
  have hmono : ∀ {P : TimedCall → Prop}, (∃ y ∈ calls, P y) → ∃ y ∈ calls ++ [x], P y :=
    fun ⟨y, hy, hP⟩ => ⟨y, List.mem_append_left _ hy, hP⟩
  obtain ⟨s, f, hrec, hjpeg, hack⟩ := h
  exact ⟨s, f, hmono hrec, hmono hjpeg, hmono hack⟩

/-- What holds after every list of calls with distinct messages. -/
structure SafeInv (calls : List TimedCall) (st : Rendezvous) (outs : List Completion) : Prop where
  keyed : st.Keyed
  waiting : ∀ m c, (m, c) ∈ st.byMessage.entries → ¬ c.Ready
  history : ∀ m c, (m, c) ∈ st.byMessage.entries → CandidateHistory calls c
  frames : ∀ k m, (k, m) ∈ st.byFrame.entries →
    ∃ x ∈ calls, x.call = .recordDetection k.1 m k.2
  gone : ∀ o ∈ outs, ∀ c, (o.messageId, c) ∉ st.byMessage.entries
  earned : ∀ o ∈ outs, o.Earned calls
  once : (outs.map Completion.messageId).Nodup

/-- A candidate's history after a call that brings it a field. -/
theorem Brings.history {calls : List TimedCall} (hids : (recordedIds calls).Nodup)
    {st : Rendezvous} (hframes : ∀ k m, (k, m) ∈ st.byFrame.entries →
      ∃ x ∈ calls, x.call = .recordDetection k.1 m k.2)
    {x : TimedCall} {c c' : Candidate} (hc : CandidateHistory calls c) (h : Brings x st c c') :
    CandidateHistory (calls ++ [x]) c' := by
  have hmono := hc.mono x
  cases h with
  | valve _ => exact ⟨hmono.recorded, hmono.jpeg, hmono.ack⟩
  | @jpeg sourceId frameNumber jpegBytes hcall hframe =>
    obtain ⟨y, hy, hyc⟩ := hframes _ _ hframe
    obtain ⟨z, hz, hzc⟩ := hc.recorded
    obtain ⟨rfl, rfl⟩ := recorded_unique hids hy hz hyc hzc
    refine ⟨hmono.recorded, fun b hb => ?_, hmono.ack⟩
    rw [Option.some.injEq] at hb
    exact ⟨x, by simp, hb ▸ hcall⟩
  | ack hcall =>
    refine ⟨hmono.recorded, hmono.jpeg, fun e he => ?_⟩
    exact ⟨x, by simp, by rw [hcall]; exact congrArg (Call.submitAck _ _ · _) he⟩

theorem safeInv_fresh : SafeInv [] .fresh [] where
  keyed := fun _ _ h => absurd h List.not_mem_nil
  waiting := fun _ _ h => absurd h List.not_mem_nil
  history := fun _ _ h => absurd h List.not_mem_nil
  frames := fun _ _ h => absurd h List.not_mem_nil
  gone := fun _ h => absurd h List.not_mem_nil
  earned := fun _ h => absurd h List.not_mem_nil
  once := List.nodup_nil

/-- Losing entries keeps the invariant. -/
theorem SafeInv.shrink {calls : List TimedCall} {st st' : Rendezvous} {outs : List Completion}
    (h : SafeInv calls st outs) (hs : Shrinks st st') (x : TimedCall) :
    SafeInv (calls ++ [x]) st' outs where
  keyed := hs.keyed h.keyed
  waiting := fun m c hmem => h.waiting m c (hs.byMessage _ hmem)
  history := fun m c hmem => (h.history m c (hs.byMessage _ hmem)).mono x
  frames := fun k m hmem => by
    obtain ⟨y, hy, hcall⟩ := h.frames k m (hs.byFrame _ hmem)
    exact ⟨y, List.mem_append_left _ hy, hcall⟩
  gone := fun o ho c hmem => h.gone o ho c (hs.byMessage _ hmem)
  earned := fun o ho => (h.earned o ho).mono x
  once := h.once

/-- The step lemma of the invariant. -/
theorem SafeInv.step {cfg : RendezvousConfig} {calls : List TimedCall} {st : Rendezvous}
    {outs : List Completion} (h : SafeInv calls st outs) {x : TimedCall}
    (hids : (recordedIds (calls ++ [x])).Nodup) :
    SafeInv (calls ++ [x]) (step cfg st x).1 (outs ++ (step cfg st x).2.toList) := by
  have hids' : (recordedIds calls).Nodup :=
    hids.sublist ((List.sublist_append_left calls [x]).filterMap _)
  have h1 : SafeInv (calls ++ [x]) (st.expire x.now) outs := h.shrink (shrinks_expire st x.now) x
  have hframes1 : ∀ k m, (k, m) ∈ (st.expire x.now).byFrame.entries →
      ∃ y ∈ calls, y.call = .recordDetection k.1 m k.2 :=
    fun k m hmem => h.frames k m ((shrinks_expire st x.now).byFrame _ hmem)
  have hhistory1 : ∀ m c, (m, c) ∈ (st.expire x.now).byMessage.entries →
      CandidateHistory calls c :=
    fun m c hmem => h.history m c ((shrinks_expire st x.now).byMessage _ hmem)
  have hcase := step_case cfg h.keyed x
  generalize (Bridge.step cfg st x).1 = st' at hcase ⊢
  generalize (Bridge.step cfg st x).2 = out at hcase ⊢
  cases hcase with
  | keep _ =>
    simp only [Option.toList_none, List.append_nil]
    exact h1
  | discard _ _ _ =>
    simp only [Option.toList_none, List.append_nil]
    exact h.shrink ((shrinks_expire st x.now).trans (shrinks_remove _ _)) x
  | @record sourceId messageId frameNumber hcall =>
    simp only [Option.toList_none, List.append_nil]
    obtain ⟨hmsg, hfrm⟩ :=
      mem_insert_evict cfg (st.expire x.now) x.now sourceId messageId frameNumber
    have hnew : messageId ∉ recordedIds calls := by
      have : recordedIds (calls ++ [x]) = recordedIds calls ++ [messageId] := by
        simp [recordedIds, List.filterMap_append, hcall]
      rw [this, List.nodup_append] at hids
      exact fun hmem => hids.2.2 _ hmem _ (by simp) rfl
    refine ⟨fun m c hmem => ?_, fun m c hmem => ?_, fun m c hmem => ?_, fun k m hmem => ?_,
      fun o ho c hmem => ?_, h1.earned, h1.once⟩
    · rcases hmsg _ hmem with hold | heq
      · exact h1.keyed m c hold
      · cases heq
        exact ⟨rfl, rfl⟩
    · rcases hmsg _ hmem with hold | heq
      · exact h1.waiting m c hold
      · cases heq
        exact fun hready => by simpa [newCandidate] using hready.jpegBytes
    · rcases hmsg _ hmem with hold | heq
      · exact h1.history m c hold
      · cases heq
        exact ⟨⟨x, by simp, hcall⟩, fun b hb => by simp [newCandidate] at hb,
          fun e he => by simp [newCandidate] at he⟩
    · rcases hfrm _ hmem with hold | heq
      · exact h1.frames k m hold
      · cases heq
        exact ⟨x, by simp, hcall⟩
    · rcases hmsg _ hmem with hold | heq
      · exact h1.gone o ho c hold
      · -- A completed message was recorded before; this one is new.
        obtain ⟨s, f, ⟨y, hy, hyc⟩, -, -⟩ := h.earned o ho
        have hid : o.messageId = messageId := (Prod.mk.inj heq).1
        exact hnew (hid ▸ mem_recordedIds hy hyc)
  | @update c c' hmem hbrings hready =>
    simp only [Option.toList_none, List.append_nil]
    have hset : ∀ {m : String} {d : Candidate},
        (m, d) ∈ ((st.expire x.now).store c').byMessage.entries →
        (m, d) ∈ (st.expire x.now).byMessage.entries ∨ (m = c.messageId ∧ d = c') := by
      intro m d hd
      rcases OrderedDict.mem_entries_set.mp hd with ⟨hold, -⟩ | heq
      · exact .inl hold
      · exact .inr ⟨(Prod.mk.inj heq).1.trans hbrings.messageId, (Prod.mk.inj heq).2⟩
    refine ⟨fun m d hd => ?_, fun m d hd => ?_, fun m d hd => ?_, h1.frames,
      fun o ho d hd => ?_, h1.earned, h1.once⟩
    · rcases hset hd with hold | ⟨rfl, rfl⟩
      · exact h1.keyed m d hold
      · exact ⟨hbrings.messageId, hbrings.completed.trans (h1.keyed _ _ hmem).2⟩
    · rcases hset hd with hold | ⟨rfl, rfl⟩
      · exact h1.waiting m d hold
      · exact fun hr => h1.waiting _ _ hmem (hready hr)
    · rcases hset hd with hold | ⟨rfl, rfl⟩
      · exact h1.history m d hold
      · exact hbrings.history hids' hframes1 (hhistory1 _ _ hmem)
    · rcases hset hd with hold | ⟨heq, -⟩
      · exact h1.gone o ho d hold
      · exact h1.gone o ho c (heq ▸ hmem)
  | @complete c c' eventId jpegBytes hmem hbrings hready hevent hjpeg =>
    simp only [Option.toList_some]
    have hrem : Shrinks (st.expire x.now) ((st.expire x.now).remove c') := shrinks_remove _ _
    have hhist : CandidateHistory (calls ++ [x]) c' :=
      hbrings.history hids' hframes1 (hhistory1 _ _ hmem)
    refine ⟨hrem.keyed h1.keyed, fun m d hd => h1.waiting m d (hrem.byMessage _ hd),
      fun m d hd => h1.history m d (hrem.byMessage _ hd),
      fun k m hd => h1.frames k m (hrem.byFrame _ hd), fun o ho d hd => ?_, fun o ho => ?_, ?_⟩
    · rcases List.mem_append.mp ho with hold | hnew
      · exact h1.gone o hold d (hrem.byMessage _ hd)
      · rw [List.mem_singleton] at hnew
        subst hnew
        exact (OrderedDict.mem_entries_pop.mp hd).2 hbrings.messageId.symm
    · rcases List.mem_append.mp ho with hold | hnew
      · exact h1.earned o hold
      · rw [List.mem_singleton] at hnew
        subst hnew
        refine ⟨c'.sourceId, c'.frameNumber, ?_, hhist.jpeg _ hjpeg, ?_⟩
        · simpa only [hbrings.messageId] using hhist.recorded
        · simpa only [hbrings.messageId] using hhist.ack _ hevent
    · rw [List.map_append, List.nodup_append]
      refine ⟨h1.once, List.nodup_singleton _, fun m hm m' hm' heq => ?_⟩
      obtain ⟨o, ho, rfl⟩ := List.mem_map.mp hm
      rw [List.map_singleton, List.mem_singleton] at hm'
      exact h1.gone o ho c ((heq.trans hm') ▸ hmem)

/-- The invariant holds after every list of calls with distinct messages. -/
theorem safeInv_run (cfg : RendezvousConfig) (calls : List TimedCall)
    (hids : (recordedIds calls).Nodup) :
    SafeInv calls (run cfg .fresh calls) (completions cfg .fresh calls) := by
  induction calls using List.reverseRecOn with
  | nil => exact safeInv_fresh
  | append_singleton calls x ih =>
    have ih := ih (hids.sublist ((List.sublist_append_left calls [x]).filterMap _))
    rw [run_append, completions_append]
    simpa only [run, completions, List.append_nil] using ih.step hids

end WeaponDetection.Bridge
