import Mathlib.Logic.Function.Defs

/-!
# Components that answer requests

A component answers one request after another: each request takes its state to another one and gives an
answer.  `serve_share` is the rule for a part of the state that can be looked at on its own: where every
step on the whole is a step on the part, so is every run, and two states with the same part cannot be told
apart.
-/

namespace WeaponDetection.Foundations

variable {State Part Request Answer : Type*}

/-- The state after some requests, and the answers to them. -/
def serve (step : State → Request → State × Answer) : State → List Request → State × List Answer
  | s, [] => (s, [])
  | s, request :: requests =>
    ((serve step (step s request).1 requests).1, (step s request).2 :: (serve step (step s request).1 requests).2)

section Rules

variable {step : State → Request → State × Answer}

/-- What every admitted request keeps stays. -/
theorem serve_keeps {Inv : State → Prop} {requests : List Request}
    (hstep : ∀ s, Inv s → ∀ request ∈ requests, Inv (step s request).1) {s : State} (h : Inv s) :
    Inv (serve step s requests).1 := by
  induction requests generalizing s with
  | nil => exact h
  | cons request requests ih =>
    refine ih (fun s hs other hother => hstep s hs other (List.mem_cons_of_mem _ hother)) ?_
    exact hstep s h request List.mem_cons_self

/-- Where each request acts on a part as it acts on the whole, so do all of them. -/
theorem serve_share {partStep : Part → Request → Part × Answer} {share : State → Part} {Inv : State → Prop}
    {requests : List Request} (hkeep : ∀ s, Inv s → ∀ request ∈ requests, Inv (step s request).1)
    (hstep : ∀ s, Inv s → ∀ request ∈ requests,
      partStep (share s) request = (share (step s request).1, (step s request).2)) {s : State} (h : Inv s) :
    serve partStep (share s) requests = (share (serve step s requests).1, (serve step s requests).2) := by
  induction requests generalizing s with
  | nil => rfl
  | cons request requests ih =>
    have hhead := hstep s h request List.mem_cons_self
    have htail := ih (fun s hs other hother => hkeep s hs other (List.mem_cons_of_mem _ hother))
      (fun s hs other hother => hstep s hs other (List.mem_cons_of_mem _ hother))
      (hkeep s h request List.mem_cons_self)
    simp only [serve, hhead, htail]

/-- Two states with the same part give the same answers and end with the same part. -/
theorem serve_eq_of_share_eq {partStep : Part → Request → Part × Answer} {share : State → Part} {Inv : State → Prop}
    {requests : List Request} (hkeep : ∀ s, Inv s → ∀ request ∈ requests, Inv (step s request).1)
    (hstep : ∀ s, Inv s → ∀ request ∈ requests,
      partStep (share s) request = (share (step s request).1, (step s request).2)) {s t : State} (hs : Inv s)
    (ht : Inv t) (h : share s = share t) :
    (serve step s requests).2 = (serve step t requests).2 ∧
      share (serve step s requests).1 = share (serve step t requests).1 := by
  have hleft := serve_share hkeep hstep hs
  have hright := serve_share hkeep hstep ht
  rw [h, hright] at hleft
  exact ⟨(congrArg Prod.snd hleft).symm, (congrArg Prod.fst hleft).symm⟩

end Rules

end WeaponDetection.Foundations
