import WeaponDetection.Agent.Sync.Worker
import WeaponDetection.Foundations.TimeOrder

/-!
# Rows that block the head of the outbox

`_drain_once` reads the oldest pending rows under a `LIMIT` and drops those of another device only
afterwards, so a row of the current device is sent as long as it is among the oldest `batch_size`.
-/

namespace WeaponDetection.Agent.Sync

open WeaponDetection.Foundations
open WeaponDetection.Foundations.Python
open WeaponDetection.Agent.Detection (DetectionEvent)
open WeaponDetection.Agent.Persistence

/-! ## Ranks in the outbox -/

/-- The row comes before the other in the order of `list_pending`. -/
def Precedes (a b : OutboxRow) : Prop :=
  a.event.detectedAtUtc < b.event.detectedAtUtc ∨
    (a.event.detectedAtUtc = b.event.detectedAtUtc ∧ a.eventId < b.eventId)

instance : DecidableRel Precedes := fun _ _ => inferInstanceAs (Decidable (_ ∨ _))

/-- The pending rows. -/
def pendingRows (table : DetectionEventTable) : List OutboxRow :=
  table.rows.filter fun r => decide (r.deliveryStatus = .pending)

/-- How many pending rows precede a row. -/
def rank (table : DetectionEventTable) (r : OutboxRow) : ℕ := (pendingRows table).countP fun a => Precedes a r

/-- The sorted rows are strictly sorted: identifiers are unique. -/
theorem pairwise_precedes (table : DetectionEventTable) :
    ((pendingRows table).insertionSort pendingOrder).Pairwise
      (TimeOrder.Before (fun r => r.event.detectedAtUtc) OutboxRow.eventId) :=
  TimeOrder.pairwise_before_insertionSort (fun _ _ => Iff.rfl)
    (table.nodup.sublist (List.filter_sublist.map _))

/-- A pending row is listed when fewer rows than the limit precede it. -/
theorem mem_listPending_iff {table : DetectionEventTable} {limit : ℕ} {r : OutboxRow} :
    r ∈ listPending table limit ↔ r ∈ table ∧ r.deliveryStatus = .pending ∧ rank table r < limit := by
  have hperm := List.perm_insertionSort pendingOrder (pendingRows table)
  constructor
  · intro h
    obtain ⟨hmem, hpending⟩ := mem_listPending h
    have hsorted : r ∈ (pendingRows table).insertionSort pendingOrder := List.mem_of_mem_take h
    refine ⟨hmem, hpending, ?_⟩
    rw [rank, ← hperm.countP_eq]
    exact (TimeOrder.mem_take_iff_countP_lt (pairwise_precedes table) hsorted limit).mp h
  · rintro ⟨hmem, hpending, hrank⟩
    have hsorted : r ∈ (pendingRows table).insertionSort pendingOrder :=
      hperm.mem_iff.mpr (List.mem_filter.mpr ⟨hmem, decide_eq_true hpending⟩)
    rw [rank, ← hperm.countP_eq] at hrank
    exact (TimeOrder.mem_take_iff_countP_lt (pairwise_precedes table) hsorted limit).mpr hrank

/-! ## When a batch is sent -/

/-- A pending detection of the device. -/
def IsSendable (table : DetectionEventTable) (identity : DeviceIdentity) (r : OutboxRow) : Prop :=
  r ∈ table ∧ r.deliveryStatus = .pending ∧ r.event.deviceId = identity.deviceId

/-- With a sendable row in the outbox, the iteration sends something. -/
def SendsWhenItCan (cfg : SyncConfig) (table : DetectionEventTable) (identity : DeviceIdentity) : Prop :=
  (∃ r, IsSendable table identity r) → batchToSend cfg table (some identity) ≠ []

/-- **An iteration of the operational worker sends something when it can if and only if no row is
sendable, or one is that fewer pending rows than a batch precede.** -/
theorem sends_when_it_can_iff (cfg : SyncConfig) (table : DetectionEventTable) (identity : DeviceIdentity)
    (hoperational : identity.operational = true) :
    SendsWhenItCan cfg table identity ↔
      (∃ r, IsSendable table identity r) →
        ∃ r, IsSendable table identity r ∧ rank table r < cfg.batchSize := by
  have hbatch : batchToSend cfg table (some identity) ≠ [] ↔
      ∃ r, IsSendable table identity r ∧ rank table r < cfg.batchSize := by
    simp only [batchToSend, hoperational, if_true, ne_eq, List.filter_eq_nil_iff, decide_eq_true_eq,
      not_forall, not_not, exists_prop, mem_listPending_iff, IsSendable]
    constructor
    · rintro ⟨r, ⟨hmem, hpending, hrank⟩, hdevice⟩
      exact ⟨r, ⟨hmem, hpending, hdevice⟩, hrank⟩
    · rintro ⟨r, ⟨hmem, hpending, hdevice⟩, hrank⟩
      exact ⟨r, ⟨hmem, hpending, hrank⟩, hdevice⟩
  rw [SendsWhenItCan, hbatch]

/-- The device of `twoPending` is sent its first row. -/
theorem sends_when_it_can_twoPending : SendsWhenItCan oneByOne twoPending.detectionEvents sampleIdentity := by
  refine (sends_when_it_can_iff oneByOne twoPending.detectionEvents sampleIdentity rfl).mpr fun _ => ?_
  exact ⟨newRow (sampleEvent 1) 0, ⟨by decide +kernel, rfl, rfl⟩, by decide +kernel⟩

/-- A detection from before the device was given another identity. -/
def staleEvent : DetectionEvent :=
  { eventId := 1, deviceId := "device-0", cameraId := "camera-1", sourceId := 0, classId := 0
    className := "gun", confidence := 9 / 10, frameNumber := 7, detectedAtUtc := 0
    frameWidth := 1920, frameHeight := 1080, bboxLeft := 10, bboxTop := 10, bboxWidth := 20
    bboxHeight := 20, wellFormed := by constructor <;> norm_num }

/-- One stale row in front of a row of the current device. -/
def staleFirst : DetectionEventTable := ⟨[newRow staleEvent 0, newRow (sampleEvent 2) 0], by decide⟩

/-- With batches of one, the stale row is all that the worker ever looks at. -/
theorem stale_row_blocks :
    (∃ r, IsSendable staleFirst sampleIdentity r) ∧ ¬ SendsWhenItCan oneByOne staleFirst sampleIdentity := by
  have hrow : ∃ r, IsSendable staleFirst sampleIdentity r :=
    ⟨newRow (sampleEvent 2) 0, by decide +kernel, rfl, rfl⟩
  exact ⟨hrow, fun h => h hrow (by decide +kernel)⟩

end WeaponDetection.Agent.Sync
