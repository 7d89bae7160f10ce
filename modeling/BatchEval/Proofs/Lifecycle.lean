/-
The life of a session as its engine sees it. The device is selected and the model is loaded before anything else, every
batch that is not too large is one request, and what was loaded is unloaded once: by the launch if the versions differ,
else when the session is closed.

- `EngineCall.Bracketed`, `bracketed_of_shape`: what needs a model comes between a load that succeeded and the unload.
- `runBatch_recording`, `runs_recording`: an engine that keeps its calls answers as before, and what it keeps.
- `life_bracketed`: the calls of every life, in their order.
-/
import BatchEval.Proofs.Session

namespace BatchEval

/-! ## Calls that need a model -/

namespace EngineCall

/-- the call makes sense only while a model is loaded -/
def needsModel : EngineCall → Bool
  | .predict _ | .unload => true
  | .setAccelerator _ | .load _ => false

/-- every call that needs a model comes after a load, which succeeded, and before it nothing was unloaded -/
def Bracketed (loaded : Prop) (seen : List EngineCall) : Prop :=
  ∀ before call after, seen = before ++ call :: after → call.needsModel →
    loaded ∧ (∃ name, .load name ∈ before) ∧ .unload ∉ before

/-- nothing is unloaded before a call of a list that unloads in its last place only -/
theorem unload_not_mem_before {asked last before after : List EngineCall} {call : EngineCall} (hasked : .unload ∉ asked)
    (hlast : last = [] ∨ last = [.unload]) (hsplit : asked ++ last = before ++ call :: after) : .unload ∉ before := by
  rcases List.append_eq_append_iff.1 hsplit with ⟨more, hbefore, hmore⟩ | ⟨more, hall, -⟩
  · rcases hlast with hnil | hunload
    · rw [hnil] at hmore
      simp at hmore
    · -- the call is the last one, so all before it are requests
      rw [hunload] at hmore
      have hnone : more = [] := by
        cases more with
        | nil => rfl
        | cons c more => simp at hmore
      rw [hbefore, hnone, List.append_nil]
      exact hasked
  · intro hmem
    exact hasked (hall ▸ List.mem_append_left more hmem)

/-- requests between a load and at most one unload -/
theorem bracketed_of_shape {loaded : Prop} {a : Accelerator} {name : String} (asked last : List EngineCall)
    (hloaded : asked ++ last ≠ [] → loaded) (hasked : .unload ∉ asked) (hlast : last = [] ∨ last = [.unload]) :
    Bracketed loaded (.setAccelerator a :: .load name :: (asked ++ last)) := by
  intro before call after hseen hneeds
  match before with
  | [] =>
    cases hseen
    cases hneeds
  | [_] =>
    cases hseen
    cases hneeds
  | first :: second :: before =>
    simp only [List.cons_append, List.cons.injEq] at hseen
    obtain ⟨hfirst, hsecond, hsplit⟩ := hseen
    have hbefore := unload_not_mem_before hasked hlast hsplit
    refine ⟨hloaded (by simp [hsplit]), ⟨name, by simp [hsecond]⟩, ?_⟩
    rw [← hfirst, ← hsecond]
    simpa using hbefore

end EngineCall

namespace Session

variable {π : Type} {e : Engine π} {context : Context} {A h : Handle} {engine loaded : π} {v : Inputs}
  {seen : List EngineCall}

/-! ## Requests -/

/-- a view of an arena of whatever model, with any history -/
def Viewed (v : Inputs) : Prop := ∃ (a : Arena) (model : Descriptor) (n : Nat), a.OfModel model ∧ a.inputs n = .ok v

/-- the request for a batch, whether or not its cells can be counted -/
def requestOf (h : Handle) (v : Inputs) : Request where
  batch := v.batch
  area := v.x * v.y
  spatialChannels := h.model.channels.spatial
  globalChannels := h.model.channels.global
  spatial := v.spatial
  global := v.global

theorem request_eq_ok_iff {r : Request} : request h v = .ok r ↔ v.x * v.y < Size.limit ∧ requestOf h v = r := by
  simp only [request, Checked.bind_eq_ok_iff, Size.mul_eq_ok_iff, pure, Except.pure, Except.ok.injEq]
  refine ⟨fun ⟨_, ⟨hfit, harea⟩, hr⟩ => ?_, fun ⟨hfit, hr⟩ => ⟨_, ⟨hfit, rfl⟩, hr⟩⟩
  subst harea
  exact ⟨hfit, hr⟩

theorem Viewed.request_eq (hv : Viewed v) (h : Handle) : request h v = .ok (requestOf h v) := by
  obtain ⟨a, model, n, ha, hin⟩ := hv
  obtain ⟨-, r, hr⟩ := request_ok ha.madeFor hin h
  rw [(request_eq_ok_iff.1 hr).2, hr]

/-- what a batch asks of the engine of a session of `A` -/
def asked (A : Handle) (call : Handle × Inputs) : List EngineCall :=
  if call.2.batch ≤ A.rows then [.predict (requestOf call.1 call.2)] else []

/-! ## An engine that keeps its calls -/

/-- the session on the engine without its record -/
def unrecorded (s : Session (π × List EngineCall)) : Session π := ⟨s.engine.1, s.staging⟩

/-- one batch: it goes as without the record, which then has the request of the batch at its end -/
theorem runBatch_recording {s : Session (π × List EngineCall)} (hs : s.staging.MadeFor A) (hv : Viewed v) (h : Handle) :
    (runBatch e.recording s h v).state.unrecorded = (runBatch e s.unrecorded h v).state ∧
      (runBatch e.recording s h v).state.engine.2 = s.engine.2 ++ asked A (h, v) := by
  have hstart := Staging.start_eq hs v.batch
  by_cases hn : A.rows < v.batch
  · rw [if_pos hn] at hstart
    simp only [runBatch, unrecorded, hstart, asked, Nat.not_le.2 hn, if_false, List.append_nil, and_self]
  · rw [if_neg hn] at hstart
    simp only [runBatch, unrecorded, hstart, hv.request_eq h, Engine.recording, asked, Nat.le_of_not_lt hn, if_true]
    cases hanswer : e.predict s.engine.1 (requestOf h v) with
    | mk engine answer =>
      cases answer with
      | error error => simp only [hanswer, and_self]
      | ok tensors => simp only [hanswer, and_self]

theorem runs_recording {s : Session (π × List EngineCall)} (hs : s.staging.MadeFor A) {calls : List (Handle × Inputs)}
    (hviews : ∀ call ∈ calls, Viewed call.2) :
    (runs e.recording s calls).unrecorded = runs e s.unrecorded calls ∧
      (runs e.recording s calls).engine.2 = s.engine.2 ++ calls.flatMap (asked A) := by
  induction calls generalizing s with
  | nil => exact ⟨rfl, by simp [runs]⟩
  | cons call calls ih =>
    have hrun := runBatch_recording (e := e) hs (hviews call List.mem_cons_self) call.1
    have hmade := runBatch_madeFor (e := e.recording) hs call.1 call.2
    obtain ⟨hplain, hseen⟩ := ih hmade fun c hc => hviews c (List.mem_cons_of_mem _ hc)
    refine ⟨?_, ?_⟩
    · rw [hrun.1] at hplain
      exact hplain
    · rw [hrun.2, List.append_assoc] at hseen
      rw [List.flatMap_cons]
      exact hseen

/-! ## Launching -/

/-- what a launch asks of the engine before anything depends on an answer -/
def opening (context : Context) (h : Handle) : List EngineCall :=
  [.setAccelerator context.accelerator, .load h.model.name]

/-- how the engine loads the model of a handle -/
def loading (e : Engine π) (context : Context) (h : Handle) (engine : π) : π × Except ProviderError Unit :=
  e.load (e.setAccelerator engine context.accelerator) h.model.name

theorem launch_failed {error : ProviderError} (hl : loading e context h engine = (loaded, .error error)) :
    launch e context h engine =
      ⟨loaded, [.loadFailed h.model.name error.message], .error (.refused error)⟩ := by
  unfold loading at hl
  simp only [launch, hl]

theorem launch_mismatched (hl : loading e context h engine = (loaded, .ok ())) (hv : e.version loaded ≠ h.model.version) :
    launch e context h engine =
      ⟨e.unload loaded, [], .error (.refused (versionError h.model (e.version loaded)))⟩ := by
  unfold loading at hl
  simp only [launch, hl, if_pos hv]

theorem launch_loaded (hl : loading e context h engine = (loaded, .ok ())) (hv : e.version loaded = h.model.version) :
    (launch e context h engine).engine = loaded ∧
      (launch e context h engine).outcome = Halt.ofFault (Staging.ofHandle h) := by
  unfold loading at hl
  simp only [launch, hl, if_neg (not_not_intro hv), and_self]

/-! ## A whole life -/

/-- the engine after a session that is launched, asked for batches and closed; a launch that gives no session leaves
nothing to ask or to close -/
def life (e : Engine π) (context : Context) (h : Handle) (engine : π) (calls : List (Handle × Inputs)) : π :=
  match (launch e context h engine).session with
  | .error _ => (launch e context h engine).engine
  | .ok s => close e (runs e s calls)

theorem life_of_error {stop : Halt ProviderError} (hl : (launch e context h engine).outcome = .error stop)
    (calls : List (Handle × Inputs)) : life e context h engine calls = (launch e context h engine).engine := by
  simp only [life, Launch.session, hl, Except.map]

theorem life_of_ok {staging : Staging} (hl : (launch e context h engine).outcome = .ok staging)
    (calls : List (Handle × Inputs)) :
    life e context h engine calls = close e (runs e ⟨(launch e context h engine).engine, staging⟩ calls) := by
  simp only [life, Launch.session, hl, Except.map]

/-- loading is asked for as without the record, which then has the opening of the session -/
theorem loading_recording (e : Engine π) (context : Context) (h : Handle) (engine : π) :
    loading e.recording context h (engine, []) =
      (((loading e context h engine).1, opening context h), (loading e context h engine).2) := rfl

theorem loading_recorded {outcome : Except ProviderError Unit} (hl : loading e context h engine = (loaded, outcome)) :
    loading e.recording context h (engine, []) = ((loaded, opening context h), outcome) := by
  rw [loading_recording, hl]

theorem life_failed {error : ProviderError} (hl : loading e context h engine = (loaded, .error error))
    (calls : List (Handle × Inputs)) :
    life e.recording context h (engine, []) calls = (life e context h engine calls, opening context h) := by
  have hrec := loading_recorded hl
  have hplain := life_of_error (congrArg Launch.outcome (launch_failed hl)) calls
  have hkept := life_of_error (congrArg Launch.outcome (launch_failed hrec)) calls
  rw [hplain, hkept, launch_failed hl, launch_failed hrec]

theorem life_mismatched (hl : loading e context h engine = (loaded, .ok ())) (hv : e.version loaded ≠ h.model.version)
    (calls : List (Handle × Inputs)) : life e.recording context h (engine, []) calls =
      (life e context h engine calls, opening context h ++ [.unload]) := by
  have hrec := loading_recorded hl
  have hplain := life_of_error (congrArg Launch.outcome (launch_mismatched hl hv)) calls
  have hkept := life_of_error (congrArg Launch.outcome (launch_mismatched hrec hv)) calls
  rw [hplain, hkept, launch_mismatched hl hv, launch_mismatched hrec hv]
  rfl

theorem life_loaded (hl : loading e context h engine = (loaded, .ok ())) (hv : e.version loaded = h.model.version)
    {staging : Staging} (hs : Staging.ofHandle h = .ok staging) {calls : List (Handle × Inputs)}
    (hviews : ∀ call ∈ calls, Viewed call.2) : life e.recording context h (engine, []) calls =
      (life e context h engine calls, opening context h ++ (calls.flatMap (asked h) ++ [.unload])) := by
  have hrec := loading_recorded hl
  obtain ⟨hengine, hout⟩ := launch_loaded hl hv
  obtain ⟨hengine', hout'⟩ := launch_loaded hrec hv
  rw [hs] at hout hout'
  obtain ⟨hplain, hseen⟩ := runs_recording (e := e) (s := ⟨(loaded, opening context h), staging⟩)
    (Staging.ofHandle_madeFor hs) hviews
  rw [life_of_ok hout, life_of_ok hout', hengine, hengine', ← List.append_assoc]
  refine Prod.ext ?_ ?_
  · exact congrArg (fun s : Session π => e.unload s.engine) hplain
  · exact congrArg (· ++ [.unload]) hseen

theorem unload_not_mem_asked (A : Handle) (calls : List (Handle × Inputs)) : .unload ∉ calls.flatMap (asked A) := by
  intro hmem
  obtain ⟨call, -, hcall⟩ := List.mem_flatMap.1 hmem
  unfold asked at hcall
  split at hcall
  · simp at hcall
  · simp at hcall

/-- **Loading and unloading are paired.** For every launch that returns, and every list of batches whose views come from
arenas, the engine sees: the device and the model's name; no more if loading fails; an unload if it reports another
version; and otherwise one request for each batch that is not larger than the launched handle's, in their order, and an
unload at the end. So no request is made before a load that succeeded or after the unload, and nothing is unloaded twice
or without such a load. -/
theorem life_bracketed {π : Type} (e : Engine π) (context : Context) (h : Handle) (engine : π)
    (hreturns : ∀ f, (launch e context h engine).outcome ≠ .error (.fault f)) {calls : List (Handle × Inputs)}
    (hviews : ∀ call ∈ calls, Viewed call.2) :
    ∃ seen, life e.recording context h (engine, []) calls = (life e context h engine calls, seen) ∧
      EngineCall.Bracketed ((loading e context h engine).2 = .ok ()) seen ∧
      (∀ error, (loading e context h engine).2 = .error error →
        (launch e context h engine).outcome = .error (.refused error) ∧ seen = opening context h) ∧
      ((loading e context h engine).2 = .ok () → e.version (loading e context h engine).1 ≠ h.model.version →
        (launch e context h engine).outcome =
            .error (.refused (versionError h.model (e.version (loading e context h engine).1))) ∧
          seen = opening context h ++ [.unload]) ∧
      ((loading e context h engine).2 = .ok () → e.version (loading e context h engine).1 = h.model.version →
        (∃ staging, (launch e context h engine).outcome = .ok staging) ∧
          seen = opening context h ++ (calls.flatMap (asked h) ++ [.unload])) := by
  cases hl : loading e context h engine with
  | mk loaded outcome =>
    cases outcome with
    | error error =>
      refine ⟨_, life_failed hl calls, ?_, fun error' herror => ?_, fun hok => ?_, fun hok => ?_⟩
      · exact EngineCall.bracketed_of_shape [] [] (fun hne => absurd rfl hne) List.not_mem_nil (Or.inl rfl)
      · cases herror
        exact ⟨by rw [launch_failed hl], rfl⟩
      · cases hok
      · cases hok
    | ok u =>
      by_cases hv : e.version loaded = h.model.version
      · obtain ⟨-, hout⟩ := launch_loaded hl hv
        cases hs : Staging.ofHandle h with
        | error f =>
          rw [hs] at hout
          exact absurd hout (hreturns f)
        | ok staging =>
          rw [hs] at hout
          refine ⟨_, life_loaded hl hv hs hviews, ?_, fun error herror => ?_, fun _ hne => ?_, fun _ _ => ?_⟩
          · exact EngineCall.bracketed_of_shape _ [.unload] (fun _ => rfl) (unload_not_mem_asked h calls) (Or.inr rfl)
          · cases herror
          · exact absurd hv hne
          · exact ⟨⟨staging, hout⟩, rfl⟩
      · refine ⟨_, life_mismatched hl hv calls, ?_, fun error herror => ?_, fun _ _ => ?_, fun _ heq => ?_⟩
        · exact EngineCall.bracketed_of_shape [] [.unload] (fun _ => rfl) List.not_mem_nil (Or.inr rfl)
        · cases herror
        · exact ⟨by rw [launch_mismatched hl hv], rfl⟩
        · exact absurd heq hv

/-- a session for batches of one row, which is asked for two rows first -/
theorem life_bracketed_oneCell :
    let h := Handle.oneCell (Descriptor.oldest "m" 2 (by decide)) 1 (by decide)
    let calls := [(h, Arena.oneCell.view 2), (h, Arena.oneCell.view 1)]
    (∀ f, (launch prepared Context.default.value h [.ok []]).outcome ≠ .error (.fault f)) ∧
      (∀ call ∈ calls, Viewed call.2) ∧ life prepared.recording Context.default.value h ([.ok []], []) calls =
        ([], [.setAccelerator .cpu, .load "m", .predict (requestOf h (Arena.oneCell.view 1)), .unload]) := by
  intro h calls
  have hmodel : (Arena.oneCell.run []).OfModel h.model := Arena.run_oneCell_ofModel "m" Nat.two_pos []
  have hreturns : ∀ f, (launch prepared Context.default.value h [.ok []]).outcome ≠ .error (.fault f) := by
    intro f hf
    cases hf
  have hviews : ∀ call ∈ calls, Viewed call.2 := by
    intro call hcall
    simp only [calls, List.mem_cons, List.not_mem_nil, or_false] at hcall
    rcases hcall with htwo | hone
    · exact htwo ▸ ⟨_, _, 2, hmodel, rfl⟩
    · exact hone ▸ ⟨_, _, 1, hmodel, rfl⟩
  obtain ⟨seen, hlife, -, -, -, hloaded⟩ := life_bracketed prepared Context.default.value h [.ok []] hreturns hviews
  refine ⟨hreturns, hviews, ?_⟩
  rw [hlife, (hloaded rfl rfl).2]
  rfl

end Session

end BatchEval
