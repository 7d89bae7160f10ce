/-
Who unloads a model. A launch that meets another version unloads the model itself, and a session does when it is closed.
Between the two the launch sizes the staging: where that stops it there is no session yet, and the model stays loaded.

- `runBatch_requests`, `runs_requests`: batches ask for nothing but predictions.
- `life_opened`, `life_stopped`: what the engine sees of a life that the sizing lets through, and of one that it stops.
- `unloads_eq_one_iff`: which models that were loaded are unloaded.
-/
import BatchEval.Proofs.Lifecycle
import BatchEval.Proofs.Limits

namespace BatchEval.Session

variable {π : Type} {e : Engine π} {context : Context} {h : Handle} {engine loaded : π}

/-! ## Batches -/

/-- whatever a batch is cut from, it adds requests to the record and nothing else -/
theorem runBatch_requests (e : Engine π) (s : Session (π × List EngineCall)) (h : Handle) (v : Inputs) :
    ∃ requests : List Request, (runBatch e.recording s h v).state.engine.2 = s.engine.2 ++ requests.map .predict := by
  cases hstart : s.staging.start v.batch with
  | error error => exact ⟨[], by simp [runBatch, hstart]⟩
  | ok staging =>
    cases hr : request h v with
    | error f => exact ⟨[], by simp [runBatch, hstart, hr]⟩
    | ok r =>
      refine ⟨[r], ?_⟩
      rcases hanswer : e.predict s.engine.1 r with ⟨engine, error | tensors⟩
      · simp [runBatch, hstart, hr, Engine.recording, hanswer]
      · simp [runBatch, hstart, hr, Engine.recording, hanswer]

theorem runs_requests (e : Engine π) (s : Session (π × List EngineCall)) (calls : List (Handle × Inputs)) :
    ∃ requests : List Request, (runs e.recording s calls).engine.2 = s.engine.2 ++ requests.map .predict := by
  induction calls generalizing s with
  | nil => exact ⟨[], by simp [runs]⟩
  | cons call calls ih =>
    obtain ⟨first, hfirst⟩ := runBatch_requests e s call.1 call.2
    obtain ⟨later, hlater⟩ := ih (runBatch e.recording s call.1 call.2).state
    refine ⟨first ++ later, ?_⟩
    rw [List.map_append, ← List.append_assoc, ← hfirst]
    exact hlater

/-! ## Lives -/

/-- how often the model is unloaded in a life -/
def unloads (e : Engine π) (context : Context) (h : Handle) (engine : π) (calls : List (Handle × Inputs)) : Nat :=
  (life e.recording context h (engine, []) calls).2.count .unload

/-- the record of a life whose staging could be sized -/
theorem life_opened (hl : loading e context h engine = (loaded, .ok ())) (hv : e.version loaded = h.model.version)
    {staging : Staging} (hs : Staging.ofHandle h = .ok staging) (calls : List (Handle × Inputs)) :
    ∃ requests : List Request, (life e.recording context h (engine, []) calls).2 =
      opening context h ++ requests.map .predict ++ [.unload] := by
  have hrec := loading_recorded hl
  obtain ⟨hengine, hout⟩ := launch_loaded hrec hv
  rw [hs] at hout
  obtain ⟨requests, hseen⟩ := runs_requests e ⟨(loaded, opening context h), staging⟩ calls
  refine ⟨requests, ?_⟩
  rw [life_of_ok hout, hengine, ← hseen]
  rfl

/-- where the staging cannot be sized the launch stops, and nothing comes after the load -/
theorem life_stopped (hl : loading e context h engine = (loaded, .ok ())) (hv : e.version loaded = h.model.version)
    {f : Fault} (hs : Staging.ofHandle h = .error f) (calls : List (Handle × Inputs)) :
    (launch e context h engine).outcome = .error (.fault f) ∧
      (life e.recording context h (engine, []) calls).2 = opening context h := by
  have hrec := loading_recorded hl
  obtain ⟨-, hout⟩ := launch_loaded hl hv
  obtain ⟨hengine, hout'⟩ := launch_loaded hrec hv
  rw [hs] at hout hout'
  rw [life_of_error hout', hengine]
  exact ⟨hout, rfl⟩

theorem unload_count_opening (context : Context) (h : Handle) : (opening context h).count .unload = 0 := by
  simp [opening]

/-- **Who unloads what was loaded.** Once its model is loaded, a life unloads it once or never, whatever batches it is
asked for. It does exactly if the engine reports another version, or each head of the launched handle's largest batch is no
more than one buffer can hold. Otherwise the launch ends in a fault while the staging is sized, and the engine has seen the
device and the load and sees nothing more; no other launch ends in a fault. -/
theorem unloads_eq_one_iff (hl : (loading e context h engine).2 = .ok ()) (calls : List (Handle × Inputs)) :
    unloads e context h engine calls ≤ 1 ∧
      (unloads e context h engine calls = 1 ↔
        e.version (loading e context h engine).1 ≠ h.model.version ∨ h.HoldsRaw) ∧
      ((∃ f, (launch e context h engine).outcome = .error (.fault f)) ↔
        e.version (loading e context h engine).1 = h.model.version ∧ ¬h.HoldsRaw) ∧
      ∀ f, (launch e context h engine).outcome = .error (.fault f) →
        (life e.recording context h (engine, []) calls).2 = opening context h := by
  rcases hload : loading e context h engine with ⟨loaded, outcome⟩
  rw [hload] at hl
  obtain rfl : outcome = .ok () := hl
  -- the launch has three ends left: a session, a fault of the sizing, and another version
  by_cases hv : e.version loaded = h.model.version
  · cases hs : Staging.ofHandle h with
    | ok staging =>
      have hraw : h.HoldsRaw := Staging.ofHandle_ok_iff.1 ⟨staging, hs⟩
      obtain ⟨requests, hseen⟩ := life_opened hload hv hs calls
      have hcount : unloads e context h engine calls = 1 := by
        simp [unloads, hseen, unload_count_opening, List.count_eq_zero]
      have hout : (launch e context h engine).outcome = .ok staging := by
        rw [(launch_loaded hload hv).2, hs]
        rfl
      simp [hcount, hraw, hout]
    | error f =>
      have hraw : ¬h.HoldsRaw := by
        intro hraw
        obtain ⟨staging, hok⟩ := Staging.ofHandle_ok_iff.2 hraw
        rw [hs] at hok
        cases hok
      obtain ⟨hout, hseen⟩ := life_stopped hload hv hs calls
      have hcount : unloads e context h engine calls = 0 := by
        rw [unloads, hseen, unload_count_opening]
      simp [hcount, hraw, hout, hseen, hv]
  · have hcount : unloads e context h engine calls = 1 := by
      simp [unloads, life_mismatched hload hv calls, unload_count_opening]
    have hout := congrArg Launch.outcome (launch_mismatched hload hv)
    simp [hcount, hv, hout]

/-- a session for two rows, which is closed without a batch -/
theorem unloads_eq_one_iff_oneCell :
    let h := Handle.oneCell (Descriptor.oldest "m" 2 (by decide)) 2 (by decide)
    (loading prepared Context.default.value h []).2 = .ok () ∧ unloads prepared Context.default.value h [] [] = 1 := by
  intro h
  have hraw : h.HoldsRaw := by
    intro k
    cases k <;> decide
  have hload : (loading prepared Context.default.value h []).2 = .ok () := rfl
  obtain ⟨-, hone, -⟩ := unloads_eq_one_iff hload []
  exact ⟨hload, hone.2 (.inr hraw)⟩

/-- one row of 2^61 misc channels is more than one buffer can hold: the model is loaded, its version is the descriptor's,
and it is never unloaded -/
theorem unloads_oneCell_wide :
    let h := Handle.oneCell (Descriptor.oldest "m" (2 ^ 61) (by decide)) 1 (by decide)
    (loading prepared Context.default.value h []).2 = .ok () ∧
      (launch prepared Context.default.value h []).outcome = .error (.fault .capacityTooLarge) ∧
      (life prepared.recording Context.default.value h ([], []) []).2 = [.setAccelerator .cpu, .load "m"] ∧
      unloads prepared Context.default.value h [] [] = 0 :=
  ⟨rfl, rfl, rfl, rfl⟩

end BatchEval.Session
