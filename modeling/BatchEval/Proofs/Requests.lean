/-
What the engine is asked. A request is put together from three sources: the arrays come from the arena, which may have
been allocated for another model, the number of cells from the view of it, and the channel counts from the handle of the
evaluation. The checks of the arena make the three agree.

- `Request.Describes`: a request whose counts fit its arrays, whose rows are the rows of the arena.
- `requestOf_describes`: the request for a batch that suits describes it.
- `evaluate_request_describes`: every request of one evaluation, after every history of the session.
- `Job.Asked`, `Job.runs_asked`: the requests of a list of evaluations, in their order.
-/
import BatchEval.Proofs.Evaluation
import BatchEval.Proofs.Lifecycle

namespace BatchEval

open Word (zero one)

/-! ## Rows of a batch that suits -/

namespace Arena

variable {a : Arena} {model : Descriptor} {B : Handle} {n : Nat}

/-- the spatial rows of an arena, for whatever model, are as wide as those of a handle that it suits -/
theorem Suits.spatial_width (ha : a.MadeFor model) (hs : a.Suits model B n) :
    a.counts.spatial = B.x * B.y * B.model.channels.spatial := by
  rw [ha.spatial_eq, B.model.spatial_eq, hs.x_eq, hs.y_eq, Nat.mul_comm]

/-- so are the global rows, whose number of channels was compared -/
theorem Suits.global_width (ha : a.MadeFor model) (hs : a.Suits model B n) :
    a.counts.global = B.model.channels.global := ha.global_eq.trans hs.global_eq

/-- the front of a lane is as long as its rows are -/
theorem MadeFor.size_front (ha : a.MadeFor model) (hn : n ≤ a.rows) (k : Lane) :
    ((a.cells.get k).extract 0 (n * a.counts.get k)).size = n * a.counts.get k := by
  obtain ⟨hfront, -⟩ := ha.front_le hn k
  rw [Array.size_extract]
  omega

/-- and the rows that are cut out of it are the rows of the arena -/
theorem MadeFor.row_front (ha : a.MadeFor model) (hn : n ≤ a.rows) (k : Lane) {i : Nat} (hi : i < n) :
    a.row k i = .ok (Flat.block ((a.cells.get k).extract 0 (n * a.counts.get k)) (a.counts.get k) i) := by
  rw [row_eq_ok ha (Nat.lt_of_lt_of_le hi hn), Flat.block_front hi]
  rfl

end Arena

/-! ## Requests that describe a batch -/

/-- a request about the first `n` rows of an arena, for a handle: the counts are the handle's, the arrays are as long as
the counts say, and the rows that the counts cut out of them are the rows of the arena -/
structure Request.Describes (r : Request) (B : Handle) (a : Arena) (n : Nat) : Prop where
  batch_eq : r.batch = n
  /-- the cells of the board, whose product is no overflow -/
  area_ok : Size.mul B.x B.y = .ok r.area
  spatialChannels_eq : r.spatialChannels = B.model.channels.spatial
  globalChannels_eq : r.globalChannels = B.model.channels.global
  spatial_size : r.spatial.size = r.batch * r.area * r.spatialChannels
  global_size : r.global.size = r.batch * r.globalChannels
  spatial_row : ∀ i < n, a.row .spatial i = .ok (Flat.block r.spatial (r.area * r.spatialChannels) i)
  global_row : ∀ i < n, a.row .global i = .ok (Flat.block r.global r.globalChannels i)

theorem Session.requestOf_describes {a : Arena} {model : Descriptor} {B : Handle} {n : Nat} (ha : a.MadeFor model)
    (hs : a.Suits model B n) : (Session.requestOf B (a.view n)).Describes B a n := by
  have harea : (Session.requestOf B (a.view n)).area = B.x * B.y := by
    rw [← hs.x_eq, ← hs.y_eq]
    rfl
  have hspatial := hs.spatial_width ha
  have hglobal := hs.global_width ha
  refine ⟨rfl, Size.mul_eq_ok_iff.2 ⟨B.area_lt, harea.symm⟩, rfl, rfl, ?_, ?_, ?_, ?_⟩
  · calc
      (a.view n).spatial.size = n * a.counts.spatial := ha.size_front hs.le_rows .spatial
      _ = n * (B.x * B.y * B.model.channels.spatial) := by rw [hspatial]
      _ = n * (B.x * B.y) * B.model.channels.spatial := (Nat.mul_assoc _ _ _).symm
      _ = n * (Session.requestOf B (a.view n)).area * B.model.channels.spatial := by rw [harea]
  · calc
      (a.view n).global.size = n * a.counts.global := ha.size_front hs.le_rows .global
      _ = n * B.model.channels.global := by rw [hglobal]
  · intro i hi
    have hrow : a.row .spatial i = .ok (Flat.block (a.view n).spatial a.counts.spatial i) :=
      ha.row_front hs.le_rows .spatial hi
    rwa [hspatial, ← harea] at hrow
  · intro i hi
    have hrow : a.row .global i = .ok (Flat.block (a.view n).global a.counts.global i) :=
      ha.row_front hs.le_rows .global hi
    rwa [hglobal] at hrow

/-! ## One evaluation -/

section Evaluate

variable {π : Type} {e : Engine π} {A B : Handle} {a : Arena} {model : Descriptor} {n : Nat}

/-- an evaluation leaves the sizes of the staging, whether or not the engine is asked -/
theorem evaluate_madeFor {s : Session π} (hs : s.staging.MadeFor A) (ha : a.MadeFor model) (B : Handle) (n : Nat)
    (ps : List Prediction) :
    (evaluate (Session.provider e) s B a n ps).state.staging.MadeFor A := by
  cases hf : a.refusal? B n with
  | some f =>
    rw [evaluate_of_refusal ha hf]
    exact hs
  | none =>
    rw [(evaluate_follows ha ((Arena.refusal?_eq_none_iff ha).1 hf)).state_eq]
    exact Session.runBatch_madeFor hs B (a.view n)

variable {s : Session (π × List EngineCall)}

/-- a batch that suits, and that the staging can hold, is one request -/
theorem evaluate_requests (hs : s.staging.MadeFor A) (ha : a.OfModel model) (hsuits : a.Suits model B n)
    (hn : n ≤ A.rows) (ps : List Prediction) : (evaluate (Session.provider e.recording) s B a n ps).state.engine =
      ((e.predict s.engine.1 (Session.requestOf B (a.view n))).1,
        s.engine.2 ++ [.predict (Session.requestOf B (a.view n))]) := by
  have hview : Session.Viewed (a.view n) :=
    ⟨a, model, n, ha, (Arena.inputs_eq_ok_iff ha.madeFor).2 ⟨hsuits.pos, hsuits.le_rows, rfl⟩⟩
  rw [(evaluate_follows ha.madeFor hsuits).state_eq]
  exact (Session.runBatch_spec (e := e.recording) hs hn (hview.request_eq B)).1

/-- every other batch leaves the session as it is -/
theorem evaluate_requests_none (hs : s.staging.MadeFor A) (ha : a.MadeFor model)
    (hnot : ¬(a.Suits model B n ∧ n ≤ A.rows)) (ps : List Prediction) :
    (evaluate (Session.provider e.recording) s B a n ps).state = s := by
  cases hf : a.refusal? B n with
  | some f => rw [evaluate_of_refusal ha hf]
  | none =>
    have hsuits := (Arena.refusal?_eq_none_iff ha).1 hf
    have hn : A.rows < n := Nat.lt_of_not_le fun hle => hnot ⟨hsuits, hle⟩
    have hlarge := Session.runBatch_too_large (e := e.recording) (h := B) (v := a.view n) hs hn
    rw [(evaluate_follows ha hsuits).state_eq]
    exact congrArg Call.state hlarge

end Evaluate

/-- **A request describes its batch.** Take a session of `A` with any history, and an evaluation through it for `B`, with
an arena of whatever model. If the engine is asked, it is asked once, and the request has the size of the batch, the
cells of the board of `B` and the channels of its model; its arrays are as long as these counts say; and the rows that
they cut out of the arrays are the rows of the arena. It is asked exactly if the batch suits `B` and is not larger than
the batches of `A`. -/
theorem evaluate_request_describes {π : Type} {e : Engine π} {A B : Handle} {s : Session (π × List EngineCall)}
    (hs : Session.OfHandle e.recording A s) {a : Arena} {model : Descriptor} (ha : a.OfModel model) (n : Nat)
    (ps : List Prediction) :
    ∃ asked, (evaluate (Session.provider e.recording) s B a n ps).state.engine.2 = s.engine.2 ++ asked ∧
      (asked ≠ [] ↔ a.Suits model B n ∧ n ≤ A.rows) ∧
      (asked = [] → (evaluate (Session.provider e.recording) s B a n ps).state = s) ∧
      (asked ≠ [] → ∃ r, asked = [.predict r] ∧ r.Describes B a n ∧
        (evaluate (Session.provider e.recording) s B a n ps).state.engine.1 = (e.predict s.engine.1 r).1) := by
  by_cases hasks : a.Suits model B n ∧ n ≤ A.rows
  · obtain ⟨hsuits, hn⟩ := hasks
    have hengine := evaluate_requests (e := e) hs.madeFor ha hsuits hn ps
    refine ⟨[.predict (Session.requestOf B (a.view n))], congrArg Prod.snd hengine, ?_, nofun, ?_⟩
    · exact ⟨fun _ => ⟨hsuits, hn⟩, fun _ => List.cons_ne_nil _ _⟩
    · intro _
      exact ⟨_, rfl, Session.requestOf_describes ha.madeFor hsuits, congrArg Prod.fst hengine⟩
  · have hstate := evaluate_requests_none (e := e) hs.madeFor ha.madeFor hasks ps
    refine ⟨[], ?_, ?_, fun _ => hstate, fun hne => absurd rfl hne⟩
    · rw [hstate, List.append_nil]
    · exact ⟨fun hne => absurd rfl hne, fun hboth => absurd hboth hasks⟩

/-- a session with room for three rows, evaluated for a model with fewer misc channels: two rows are asked about as they
lie in the arena, three are not asked about -/
theorem evaluate_request_describes_oneCell :
    let A := Handle.oneCell (Descriptor.oldest "wide" 2 (by decide)) 3 (by decide)
    let B := Handle.oneCell (Descriptor.oldest "narrow" 1 (by decide)) 2 (by decide)
    let a := Arena.oneCell.run [.write .global 1 0 #[one]]
    ∃ s, (Session.launch Session.prepared.recording Context.default.value A ([], [])).session = .ok s ∧
      a.OfModel B.model ∧
      (∃ r, (evaluate (Session.provider Session.prepared.recording) s B a 2 []).state.engine.2 =
          s.engine.2 ++ [.predict r] ∧ r.batch = 2 ∧ r.area = 1 ∧ r.spatial.size = 44 ∧ r.global.size = 28 ∧
        (Flat.block r.global 14 1)[0]? = some one) ∧
      (evaluate (Session.provider Session.prepared.recording) s B a 3 []).state = s := by
  intro A B a
  have hlaunch : ∃ s, (Session.launch Session.prepared.recording Context.default.value A ([], [])).session = .ok s :=
    ⟨_, rfl⟩
  obtain ⟨s, hlaunched⟩ := hlaunch
  have hs : Session.OfHandle Session.prepared.recording A s := ⟨_, _, s, [], hlaunched, rfl⟩
  have ha : a.OfModel B.model := Arena.run_oneCell_ofModel "narrow" Nat.one_pos _
  have hsuits : a.Suits B.model B 2 ∧ 2 ≤ A.rows :=
    ⟨⟨rfl, rfl, Nat.le_refl 2, rfl, rfl, Nat.two_pos, Nat.le_refl 2⟩, Nat.le_succ 2⟩
  have hmany : ¬(a.Suits B.model B 3 ∧ 3 ≤ A.rows) := fun hboth => absurd hboth.1.le_rows (by decide)
  obtain ⟨two, hseen, hsome, -, hrequest⟩ := evaluate_request_describes (B := B) hs ha 2 []
  obtain ⟨three, -, hnone, hleft, -⟩ := evaluate_request_describes (B := B) hs ha 3 []
  obtain ⟨r, htwo, hr, -⟩ := hrequest (hsome.2 hsuits)
  have harea : r.area = 1 := (Except.ok.inj hr.area_ok).symm
  have hrow : Flat.block r.global 14 1 = a.rowOf .global 1 := by
    have hread := hr.global_row 1 Nat.one_lt_two
    rw [Arena.row_eq_ok ha.madeFor Nat.one_lt_two, hr.globalChannels_eq] at hread
    exact (Except.ok.inj hread).symm
  have hspatial : r.spatial.size = 44 := by
    rw [hr.spatial_size, hr.batch_eq, harea, hr.spatialChannels_eq]
    rfl
  have hglobal : r.global.size = 28 := by
    rw [hr.global_size, hr.batch_eq, hr.globalChannels_eq]
    rfl
  refine ⟨s, hlaunched, ha, ⟨r, by rw [hseen, htwo], hr.batch_eq, harea, hspatial, hglobal, ?_⟩, ?_⟩
  · rw [hrow]
    decide +kernel
  · exact hleft (Decidable.not_not.1 (mt hnone.1 hmany))

/-! ## A list of evaluations -/

/-- one evaluation that a session is used for, with an arena of whatever model -/
structure Job where
  handle : Handle
  arena : Arena
  model : Descriptor
  made : arena.OfModel model
  batch : Nat
  records : List Prediction

namespace Job

variable {π : Type} {e : Engine π} {A : Handle} {s : Session (π × List EngineCall)} {jobs : List Job}

/-- the evaluation gets as far as the engine of a session of `A` -/
def Reaches (A : Handle) (j : Job) : Prop := j.arena.Suits j.model j.handle j.batch ∧ j.batch ≤ A.rows

/-- the session after these evaluations -/
def runs (e : Engine π) (s : Session π) (jobs : List Job) : Session π :=
  jobs.foldl (fun s j => (evaluate (Session.provider e) s j.handle j.arena j.batch j.records).state) s

/-- one request for each evaluation that reaches the engine, in their order, and each describes its own batch -/
inductive Asked (A : Handle) : List Job → List EngineCall → Prop
  | nil : Asked A [] []
  | skip {j : Job} {jobs : List Job} {calls : List EngineCall} (h : ¬j.Reaches A) (rest : Asked A jobs calls) :
      Asked A (j :: jobs) calls
  | ask {j : Job} {jobs : List Job} {r : Request} {calls : List EngineCall} (h : j.Reaches A)
      (describes : r.Describes j.handle j.arena j.batch) (rest : Asked A jobs calls) :
      Asked A (j :: jobs) (.predict r :: calls)

/-- so it is after every list of evaluations, whatever the engine answers to them -/
theorem runs_asked (hs : s.staging.MadeFor A) (jobs : List Job) :
    ∃ calls, (runs e.recording s jobs).engine.2 = s.engine.2 ++ calls ∧ Asked A jobs calls := by
  induction jobs generalizing s with
  | nil => exact ⟨[], (List.append_nil _).symm, .nil⟩
  | cons j jobs ih =>
    have hmade := j.made.madeFor
    obtain ⟨calls, hcalls, hasked⟩ := ih (evaluate_madeFor (e := e.recording) hs hmade j.handle j.batch j.records)
    by_cases hreach : j.Reaches A
    · have hengine := evaluate_requests (e := e) hs j.made hreach.1 hreach.2 j.records
      refine ⟨_, ?_, .ask hreach (Session.requestOf_describes hmade hreach.1) hasked⟩
      rw [hengine, List.append_assoc] at hcalls
      exact hcalls
    · have hstate := evaluate_requests_none (e := e) hs hmade hreach j.records
      refine ⟨calls, ?_, .skip hreach hasked⟩
      calc
        (runs e.recording s (j :: jobs)).engine.2 = _ := hcalls
        _ = s.engine.2 ++ calls := by rw [hstate]

end Job

end BatchEval
