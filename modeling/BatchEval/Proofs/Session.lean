/-
Batches of a session. The staging of a session is used by one batch after another, refused and half-written ones among
them, yet what a batch comes to is decided by its size and the engine's answer alone.

- `Session.runs`, `Session.OfHandle`: the histories of a session.
- `verdict`: what an answer comes to; `verdict_ok_iff`, `verdict_filter`: when it is taken, and what is not looked at.
- `runBatch_eq_verdict`: after every history a batch comes to the verdict on its answer.
-/
import BatchEval.Proofs.Arena
import BatchEval.Proofs.Staging

namespace BatchEval.Session

open Word (zero one)

variable {π : Type} {e : Engine π} {s : Session π} {A h : Handle} {v : Inputs} {n : Nat}

/-! ## Histories -/

/-- the session after a list of batches, each of whatever handle and inputs -/
def runs (e : Engine π) (s : Session π) (calls : List (Handle × Inputs)) : Session π :=
  calls.foldl (fun s call => (runBatch e s call.1 call.2).state) s

/-- the sessions of a handle: launched for it, with any history -/
def OfHandle (e : Engine π) (A : Handle) (s : Session π) : Prop :=
  ∃ context engine start calls, (launch e context A engine).session = .ok start ∧ runs e start calls = s

theorem ofHandle_of_launch {context : Context} {engine : π} {staging : Staging}
    (hl : (launch e context A engine).outcome = .ok staging) : Staging.ofHandle A = .ok staging := by
  unfold launch at hl
  simp only at hl
  split at hl
  · cases hl
  · split at hl
    · cases hl
    · exact Halt.ofFault_eq_ok_iff.1 hl

theorem launch_madeFor {context : Context} {engine : π} (hl : (launch e context A engine).session = .ok s) :
    s.staging.MadeFor A := by
  unfold Launch.session at hl
  cases hout : (launch e context A engine).outcome with
  | error stop =>
    rw [hout] at hl
    cases hl
  | ok staging =>
    rw [hout] at hl
    cases hl
    exact Staging.ofHandle_madeFor (ofHandle_of_launch hout)

/-- a batch of whatever handle leaves the sizes of the staging, however it ends -/
theorem runBatch_madeFor (hs : s.staging.MadeFor A) (h : Handle) (v : Inputs) :
    (runBatch e s h v).state.staging.MadeFor A := by
  unfold runBatch
  rw [Staging.start_eq hs]
  split
  · exact hs
  · rename_i staging hstart
    split at hstart
    · cases hstart
    · rename_i hn
      cases hstart
      split
      · exact hs.clear
      · split
        · exact hs.clear
        · exact (Staging.collect_spec hs.clear (Nat.le_of_not_lt hn) (Staging.holds_clear _ _ _) _).1

theorem runs_madeFor (hs : s.staging.MadeFor A) (calls : List (Handle × Inputs)) :
    (runs e s calls).staging.MadeFor A := by
  induction calls generalizing s with
  | nil => exact hs
  | cons call calls ih => exact ih (runBatch_madeFor hs call.1 call.2)

theorem OfHandle.madeFor (hs : OfHandle e A s) : s.staging.MadeFor A := by
  obtain ⟨context, engine, start, calls, hl, hruns⟩ := hs
  rw [← hruns]
  exact runs_madeFor (launch_madeFor hl) calls

/-! ## The verdict on an answer -/

/-- what the engine's answer to a batch of `n` rows comes to: its error, or the error of the first tensor that does not
fit, or the first head that no tensor is for, or else the last tensor of each head -/
def verdict (A : Handle) (n : Nat) : Except ProviderError (List NamedTensor) → Except (Halt ProviderError) RawBatch
  | .error error => .error (.refused error)
  | .ok tensors =>
    match tensors.findSome? (Staging.misfit? A.rawWidths n) with
    | some error => .error (.refused (.ofStaging error))
    | none =>
      match Head.all.find? fun k => (lastFor k tensors).isNone with
      | some k => .error (.refused (.ofStaging (.missing k)))
      | none => .ok (PerHead.ofFn fun k => (lastFor k tensors).getD #[])

/-- an answer is taken exactly when every decoded tensor has the rows of the batch and every head has a tensor -/
theorem verdict_ok_iff {answer : Except ProviderError (List NamedTensor)} {raw : RawBatch} :
    verdict A n answer = .ok raw ↔ ∃ tensors, answer = .ok tensors ∧
      (∀ t ∈ tensors, ∀ k, t.name = k.tensorName → t.data.size = n * A.rawWidths.get k) ∧
      ∀ k, lastFor k tensors = some (raw.get k) := by
  cases answer with
  | error error =>
    refine ⟨?_, ?_⟩
    · intro hv
      cases hv
    · intro hcond
      obtain ⟨tensors, ht, _⟩ := hcond
      cases ht
  | ok tensors =>
    have hfits : tensors.findSome? (Staging.misfit? A.rawWidths n) = none ↔
        ∀ t ∈ tensors, ∀ k, t.name = k.tensorName → t.data.size = n * A.rawWidths.get k := by
      rw [List.findSome?_eq_none_iff]
      exact forall₂_congr fun t _ => Staging.misfit?_eq_none_iff
    refine ⟨?_, ?_⟩
    · intro hv
      simp only [verdict] at hv
      split at hv
      · cases hv
      · rename_i hnone
        split at hv
        · cases hv
        · rename_i hall
          cases hv
          refine ⟨tensors, rfl, hfits.1 hnone, fun k => ?_⟩
          have hk := List.find?_eq_none.1 hall k (Head.mem_all k)
          rw [PerHead.get_ofFn]
          cases hl : lastFor k tensors with
          | none => simp [hl] at hk
          | some data => rfl
    · intro hcond
      obtain ⟨ts, hts, hsizes, hlast⟩ := hcond
      cases hts
      have hall : (Head.all.find? fun k => (lastFor k tensors).isNone) = none :=
        List.find?_eq_none.2 fun k _ => by simp [hlast k]
      simp only [verdict, hfits.2 hsizes, hall]
      exact congrArg Except.ok (PerHead.ext_get fun k => by rw [PerHead.get_ofFn, hlast k]; rfl)

theorem lastFor_filter_decoded (k : Head) (tensors : List NamedTensor) :
    lastFor k (tensors.filter (·.decoded)) = lastFor k tensors := by
  induction tensors with
  | nil => rfl
  | cons t ts ih =>
    by_cases hdec : t.decoded = true
    · rw [List.filter_cons_of_pos hdec, lastFor_cons, lastFor_cons, ih]
    · have hne : t.name ≠ k.tensorName := by
        intro hk
        rw [NamedTensor.decoded, Head.ofTensorName?_eq_some_iff.2 hk] at hdec
        exact hdec rfl
      rw [List.filter_cons_of_neg hdec, lastFor_cons, if_neg hne, Option.or_none, ih]

theorem findSome?_filter_decoded (w : RawWidths) (n : Nat) (tensors : List NamedTensor) :
    (tensors.filter (·.decoded)).findSome? (Staging.misfit? w n) =
      tensors.findSome? (Staging.misfit? w n) := by
  induction tensors with
  | nil => rfl
  | cons t ts ih =>
    by_cases hdec : t.decoded = true
    · rw [List.filter_cons_of_pos hdec, List.findSome?_cons, List.findSome?_cons, ih]
    · have hnone : Staging.misfit? w n t = none := by
        rw [Staging.misfit?, Option.not_isSome_iff_eq_none.1 hdec]
      rw [List.filter_cons_of_neg hdec, List.findSome?_cons, hnone, ih]

/-- tensors with other names are not looked at -/
theorem verdict_filter (A : Handle) (n : Nat) (answer : Except ProviderError (List NamedTensor)) :
    verdict A n (answer.map (·.filter (·.decoded))) = verdict A n answer := by
  cases answer with
  | error error => rfl
  | ok tensors => simp only [Except.map, verdict, findSome?_filter_decoded, lastFor_filter_decoded]

/-! ## One batch -/

/-- a batch that is too large is refused, and the engine is not asked -/
theorem runBatch_too_large (hs : s.staging.MadeFor A) (hn : A.rows < v.batch) : runBatch e s h v =
    { state := s, outcome := .error (.refused (.ofStaging (.capacity v.batch A.rows))) } := by
  rw [runBatch, Staging.start_eq hs, if_pos hn]

/-- every other batch is asked about once and comes to the verdict on the answer -/
theorem runBatch_spec (hs : s.staging.MadeFor A) (hn : v.batch ≤ A.rows) {r : Request} (hr : request h v = .ok r) :
    (runBatch e s h v).state.engine = (e.predict s.engine r).1 ∧
      (runBatch e s h v).outcome = verdict A v.batch (e.predict s.engine r).2 := by
  rw [runBatch, Staging.start_eq hs, if_neg (Nat.not_lt.2 hn)]
  simp only [hr]
  cases hanswer : e.predict s.engine r with
  | mk engine answer =>
    cases answer with
    | error error => exact ⟨rfl, rfl⟩
    | ok tensors =>
      obtain ⟨hmade, hcollect⟩ := Staging.collect_spec hs.clear hn (Staging.holds_clear s.staging A v.batch) tensors
      refine ⟨rfl, ?_⟩
      simp only [verdict]
      cases hfind : tensors.findSome? (Staging.misfit? A.rawWidths v.batch) with
      | some error =>
        rw [hfind] at hcollect
        simp only at hcollect
        rw [hcollect]
        rfl
      | none =>
        rw [hfind] at hcollect
        obtain ⟨hok, hholds⟩ := hcollect
        rw [hok, Checked.ok_bind, view, Staging.view_eq hmade hn hholds]
        simp only [Option.or_none]
        cases Head.all.find? fun k => (lastFor k tensors).isNone with
        | some k => rfl
        | none => rfl

theorem runBatch_ok_iff (hs : s.staging.MadeFor A) {r : Request} (hr : request h v = .ok r) {raw : RawBatch} :
    (runBatch e s h v).outcome = .ok raw ↔ v.batch ≤ A.rows ∧ ∃ tensors, (e.predict s.engine r).2 = .ok tensors ∧
      (∀ t ∈ tensors, ∀ k, t.name = k.tensorName → t.data.size = v.batch * A.rawWidths.get k) ∧
      ∀ k, lastFor k tensors = some (raw.get k) := by
  by_cases hn : v.batch ≤ A.rows
  · rw [(runBatch_spec hs hn hr).2, verdict_ok_iff]
    simp only [hn, true_and]
  · rw [runBatch_too_large hs (Nat.lt_of_not_le hn)]
    refine ⟨fun hok => ?_, fun ⟨hle, _⟩ => absurd hle hn⟩
    cases hok

/-- a view of an arena can be requested, whatever handle it is passed with -/
theorem request_ok {a : Arena} {model : Descriptor} (ha : a.MadeFor model) (hv : a.inputs n = .ok v) (h : Handle) :
    v.batch = n ∧ ∃ r, request h v = .ok r := by
  obtain ⟨-, -, hview⟩ := (Arena.inputs_eq_ok_iff ha).1 hv
  subst hview
  have hlimit := Size.maxWords_lt_limit
  have harea : Size.mul a.x a.y = .ok (a.x * a.y) :=
    Size.mul_eq_ok_iff.2 ⟨Nat.lt_trans ha.area_lt hlimit, rfl⟩
  exact ⟨rfl, _, Checked.bind_eq_ok_iff.2 ⟨_, harea, rfl⟩⟩

/-- **A batch depends on the current call only.** After every history of a session of `A`, whatever handle a view of an
arena is passed with: a batch beyond the capacity is refused and the engine is not asked; every other batch comes to the
verdict on the answer to its one request. So it succeeds exactly when the answer has all heads, in tensors of the right
sizes, and it gives the last tensor of each head. -/
theorem runBatch_eq_verdict (hs : OfHandle e A s) (h : Handle) {a : Arena} {model : Descriptor} (ha : a.OfModel model)
    (hv : a.inputs n = .ok v) :
    (A.rows < n → runBatch e s h v =
      { state := s, outcome := .error (.refused (.ofStaging (.capacity n A.rows))) }) ∧
    ∃ r, request h v = .ok r ∧
      (n ≤ A.rows → (runBatch e s h v).state.engine = (e.predict s.engine r).1 ∧
        (runBatch e s h v).outcome = verdict A n (e.predict s.engine r).2 ∧
        (runBatch e s h v).outcome = verdict A n ((e.predict s.engine r).2.map (·.filter (·.decoded)))) ∧
      ∀ raw, (runBatch e s h v).outcome = .ok raw ↔ n ≤ A.rows ∧ ∃ tensors, (e.predict s.engine r).2 = .ok tensors ∧
        (∀ t ∈ tensors, ∀ k, t.name = k.tensorName → t.data.size = n * A.rawWidths.get k) ∧
        ∀ k, lastFor k tensors = some (raw.get k) := by
  have hmade := hs.madeFor
  obtain ⟨hbatch, r, hr⟩ := request_ok ha.madeFor hv h
  subst hbatch
  refine ⟨runBatch_too_large hmade, r, hr, fun hn => ?_, fun raw => runBatch_ok_iff hmade hr⟩
  obtain ⟨hengine, hout⟩ := runBatch_spec hmade hn hr
  exact ⟨hengine, hout, hout.trans (verdict_filter A v.batch _).symm⟩

/-- an engine that gives prepared answers, one after the other -/
def prepared : Engine (List (Except ProviderError (List NamedTensor))) where
  setAccelerator answers _ := answers
  load answers _ := (answers, .ok ())
  unload answers := answers
  version _ := oldestVersion
  predict answers _ :=
    match answers with
    | [] => ([], .ok [])
    | answer :: answers => (answers, answer)

/-- a batch after one that was half written and refused; its answer has a tensor to ignore and two for one head -/
theorem runBatch_eq_verdict_oneCell :
    let h := Handle.oneCell (Descriptor.oldest "m" 2 (by decide)) 2 (by decide)
    let policy : NamedTensor := ⟨Head.policy.tensorName, #[one, zero, one, zero]⟩
    let value : NamedTensor := ⟨Head.value.tensorName, #[zero, one, zero]⟩
    let misc : NamedTensor := ⟨Head.misc.tensorName, #[one, one]⟩
    let ownership : NamedTensor := ⟨Head.ownership.tensorName, #[zero]⟩
    let refused := [policy, ⟨Head.value.tensorName, #[one, one]⟩]
    let taken := [policy, ⟨TensorName.scoreBelief, #[one]⟩, value, misc, ⟨Head.policy.tensorName, misc.data ++ misc.data⟩,
      ownership]
    let v := Arena.oneCell.view 1
    ∃ start, (launch prepared Context.default.value h [.ok refused, .ok taken]).session = .ok start ∧
      Arena.oneCell.inputs 1 = .ok v ∧ (runBatch prepared (runs prepared start [(h, v)]) h v).outcome =
        .ok ⟨#[one, one, one, one], value.data, misc.data, ownership.data⟩ := by
  intro h policy value misc ownership refused taken v
  have hlaunch : (launch prepared Context.default.value h [.ok refused, .ok taken]).session = .ok _ := rfl
  have hs : OfHandle prepared h _ := ⟨_, _, _, [(h, v)], hlaunch, rfl⟩
  have hmodel : (Arena.oneCell.run []).OfModel h.model := Arena.run_oneCell_ofModel "m" Nat.two_pos []
  have hv : Arena.oneCell.inputs 1 = .ok v := rfl
  obtain ⟨-, r, hr, hverdict, -⟩ := runBatch_eq_verdict hs h hmodel hv
  exact ⟨_, hlaunch, hv, (hverdict (by decide)).2.1⟩

end BatchEval.Session
