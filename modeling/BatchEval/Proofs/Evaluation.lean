/-
An evaluation seen from both of its sides. Towards the caller it checks the arena and the batch before it does anything
else; towards the provider it is one request about the front rows of the arena, and what follows is up to the answer.

- `Arena.Suits`, `Arena.refusal?`: what a batch needs, and what is found missing first.
- `admit_eq`, `refusal?_eq_none_iff`: a batch is viewed exactly when it suits, and refused otherwise.
- `evaluate_asks_once`: when the provider is asked, about what, and what its answer comes to.
- `SameBatch`, `run_sameBatch`: what an evaluation reads, and the histories that leave it alone.
- `evaluate_run_of_spares`, `evaluate_filled_rows`: nothing else of an arena has any influence.
-/
import BatchEval.Proofs.Batching
import BatchEval.Proofs.Store

namespace BatchEval

open Word (zero one)

/-! ## Row counts of two models -/

/-- on one board two models can differ in their global and score counts only -/
theorem Descriptor.rowCounts_eq_iff {d e : Descriptor} {x y : Nat} : d.rowCounts x y = e.rowCounts x y ↔
    d.channels.global = e.channels.global ∧ d.channels.score = e.channels.score := by
  refine ⟨?_, ?_⟩
  · intro heq
    exact ⟨congrArg PerLane.global heq, congrArg PerLane.score heq⟩
  · intro hcond
    obtain ⟨hglobal, hscore⟩ := hcond
    simp only [rowCounts, spatial_eq, value_eq, ownership_eq, hglobal, hscore]

/-- counts that fit for one model on a board fit for every model -/
theorem RowCounts.Fit.other {d : Descriptor} {x y : Nat} (h : RowCounts.Fit d x y) (e : Descriptor) :
    RowCounts.Fit e x y where
  area := h.area
  spatial := by
    have := h.spatial
    rwa [d.spatial_eq, ← e.spatial_eq] at this
  policy := h.policy
  ownership := by
    have := h.ownership
    rwa [d.ownership_eq, ← e.ownership_eq] at this

namespace Arena

variable {a b : Arena} {model other : Descriptor} {h : Handle} {n : Nat}

theorem MadeFor.fit (ha : a.MadeFor model) : RowCounts.Fit model a.x a.y :=
  (RowCounts.ofModel_eq_ok_iff.1 ha.counts_ok).1

/-! ## Which batches are admitted -/

/-- what a batch of an arena, which was made for some model, needs for a handle -/
structure Suits (a : Arena) (model : Descriptor) (h : Handle) (n : Nat) : Prop where
  x_eq : a.x = h.x
  y_eq : a.y = h.y
  rows_le : a.rows ≤ h.rows
  global_eq : model.channels.global = h.model.channels.global
  score_eq : model.channels.score = h.model.channels.score
  pos : 0 < n
  le_rows : n ≤ a.rows

/-- what is wrong with an arena or with the size of a batch, the first of the things that are looked at -/
def refusal? (a : Arena) (h : Handle) (n : Nat) : Option Fault :=
  if a.x ≠ h.x ∨ a.y ≠ h.y then some (.arenaBoard a.x a.y h.x h.y)
  else if h.rows < a.rows then some (.arenaTooLarge a.rows h.rows)
  else if a.counts ≠ h.model.rowCounts h.x h.y then some (.arenaCounts a.counts (h.model.rowCounts h.x h.y))
  else if n = 0 then some .emptyBatch
  else if a.rows < n then some (.batchTooLarge n a.rows)
  else none

/-- the row counts of the handle are computed on the way, for a board that an arena exists for: they are never too large -/
theorem checkFor_eq (ha : a.MadeFor model) (h : Handle) :
    a.checkFor h = if a.x ≠ h.x ∨ a.y ≠ h.y then .error (.arenaBoard a.x a.y h.x h.y)
      else if h.rows < a.rows then .error (.arenaTooLarge a.rows h.rows)
      else if a.counts ≠ h.model.rowCounts h.x h.y then .error (.arenaCounts a.counts (h.model.rowCounts h.x h.y))
      else .ok () := by
  unfold checkFor
  by_cases hboard : a.x ≠ h.x ∨ a.y ≠ h.y
  · rw [if_pos hboard, if_pos hboard]
    rfl
  · have hx : a.x = h.x := Decidable.not_not.1 (not_or.1 hboard).1
    have hy : a.y = h.y := Decidable.not_not.1 (not_or.1 hboard).2
    have hfit := ha.fit.other h.model
    rw [hx, hy] at hfit
    have hcounts : RowCounts.ofModel h.model h.x h.y = .ok (h.model.rowCounts h.x h.y) :=
      RowCounts.ofModel_eq_ok_iff.2 ⟨hfit, rfl⟩
    rw [if_neg hboard, if_neg hboard, hcounts]
    rfl

/-- a batch that nothing is wrong with is viewed -/
theorem admit_eq (ha : a.MadeFor model) (h : Handle) (n : Nat) :
    (do a.checkFor h; a.inputs n) = match a.refusal? h n with
      | some f => .error f
      | none => .ok (a.view n) := by
  rw [checkFor_eq ha, inputs_eq ha, refusal?]
  by_cases hboard : a.x ≠ h.x ∨ a.y ≠ h.y
  · rw [if_pos hboard, if_pos hboard, Checked.error_bind]
  rw [if_neg hboard, if_neg hboard]
  by_cases hrows : h.rows < a.rows
  · rw [if_pos hrows, if_pos hrows, Checked.error_bind]
  rw [if_neg hrows, if_neg hrows]
  by_cases hcounts : a.counts ≠ h.model.rowCounts h.x h.y
  · rw [if_pos hcounts, if_pos hcounts, Checked.error_bind]
  rw [if_neg hcounts, if_neg hcounts, Checked.ok_bind]
  by_cases hzero : n = 0
  · rw [if_pos hzero, if_pos hzero]
  rw [if_neg hzero, if_neg hzero]
  by_cases hn : a.rows < n
  · rw [if_pos hn, if_pos hn]
  · rw [if_neg hn, if_neg hn]

/-- nothing is wrong exactly with the batches that suit the handle -/
theorem refusal?_eq_none_iff (ha : a.MadeFor model) : a.refusal? h n = none ↔ a.Suits model h n := by
  have hcounts : a.x = h.x → a.y = h.y → (a.counts = h.model.rowCounts h.x h.y ↔
      model.channels.global = h.model.channels.global ∧ model.channels.score = h.model.channels.score) := by
    intro hx hy
    rw [ha.counts_eq, hx, hy]
    exact Descriptor.rowCounts_eq_iff
  simp only [refusal?, Checked.first_eq_none_iff, not_or, ne_eq, Decidable.not_not, Nat.not_lt, and_true]
  refine ⟨?_, ?_⟩
  · intro hnone
    obtain ⟨⟨hx, hy⟩, hrows, hsame, hzero, hn⟩ := hnone
    obtain ⟨hglobal, hscore⟩ := (hcounts hx hy).1 hsame
    exact ⟨hx, hy, hrows, hglobal, hscore, Nat.pos_of_ne_zero hzero, hn⟩
  · intro hsuits
    refine ⟨⟨hsuits.x_eq, hsuits.y_eq⟩, hsuits.rows_le, ?_, Nat.ne_of_gt hsuits.pos, hsuits.le_rows⟩
    exact (hcounts hsuits.x_eq hsuits.y_eq).2 ⟨hsuits.global_eq, hsuits.score_eq⟩

/-- a refusal is no matter of sizes that do not fit -/
theorem refusal?_not_overflow {f : Fault} (hf : a.refusal? h n = some f) :
    f ≠ .sumTooLarge ∧ f ≠ .productTooLarge ∧ f ≠ .capacityTooLarge := by
  unfold refusal? at hf
  repeat' split at hf
  all_goals cases hf
  all_goals simp

/-- an arena for the board exists, so the handle has a decoder -/
theorem Suits.decoder_eq (ha : a.MadeFor model) (hs : a.Suits model h n) : Decoder.ofHandle h = .ok h.decoder := by
  have harea := ha.area_lt
  have hlimit : 2 * Size.maxWords < Size.limit := by decide
  rw [hs.x_eq, hs.y_eq] at harea
  refine Decoder.ofHandle_eq_ok_iff.2 ⟨?_, rfl⟩
  calc
    2 * h.policySize ≤ 2 * Size.maxWords := Nat.mul_le_mul_left 2 harea
    _ < Size.limit := hlimit

end Arena

/-! ## What an answer comes to -/

/-- an evaluation that is settled by the answer to its request -/
structure Evaluation.Follows {σ : Type} (ev : Evaluation σ) (call : Call σ) (h : Handle) (n : Nat)
    (ps : List Prediction) (d : Decoder) : Prop where
  state_eq : ev.state = call.state
  /-- an error is given back as it is, with one entry more; no record is touched -/
  of_refused : ∀ e, call.outcome = .error (.refused e) → ev.outcome = .error (.refused e) ∧ ev.records = ps ∧
    ∃ entry, entry = .inferenceFailed h.model.name n e.message ∧ entry.level = .error ∧ ev.log = call.log ++ [entry]
  of_fault : ∀ f, call.outcome = .error (.fault f) → ev.outcome = .error (.fault f) ∧ ev.records = ps ∧ ev.log = call.log
  of_answer : ∀ raw, call.outcome = .ok raw →
    ev.outcome = Halt.ofFault (d.decode raw n ps).2 ∧ ev.records = (d.decode raw n ps).1 ∧ ev.log = call.log

section Evaluate

variable {σ : Type} {p : Provider σ} {s : σ} {h : Handle} {a : Arena} {model : Descriptor} {n : Nat}
  {ps : List Prediction}

theorem evaluate_of_refusal (ha : a.MadeFor model) {f : Fault} (hf : a.refusal? h n = some f) :
    evaluate p s h a n ps = ⟨s, ps, [], .error (.fault f)⟩ := by
  simp only [evaluate, Arena.admit_eq ha, hf]

theorem evaluate_follows (ha : a.MadeFor model) (hs : a.Suits model h n) :
    (evaluate p s h a n ps).Follows (p.runBatch s h (a.view n)) h n ps h.decoder := by
  have hin : (do a.checkFor h; a.inputs n) = .ok (a.view n) := by
    rw [Arena.admit_eq ha, (Arena.refusal?_eq_none_iff ha).2 hs]
  have hd := hs.decoder_eq ha
  refine ⟨?_, ?_, ?_, ?_⟩
  · simp only [evaluate, hin]
    split <;> rfl
  · intro e he
    simp only [evaluate, hin, he, true_and]
    exact ⟨_, rfl, rfl, rfl⟩
  · intro f hf
    simp only [evaluate, hin, hf, and_self]
  · intro raw hraw
    simp only [evaluate, hin, hraw, decodeFor, hd, and_self]

end Evaluate

/-- **An evaluation asks once, about a batch that suits.** Whatever the provider, its state and its answer, it is asked if
and only if the batch suits the handle, and then once, about the front rows of the arena. If it is not asked, the
evaluation stops with a fault, which is no overflow, and the provider and the records are as before. If it is asked, what
follows is decided by its answer: an error is given back, with the records as before, and an answer is decoded. -/
theorem evaluate_asks_once {σ : Type} (p : Provider σ) (s : σ) (asked : List Inputs) (h : Handle) {a : Arena}
    {model : Descriptor} (ha : a.OfModel model) (n : Nat) (ps : List Prediction) :
    ((∃ v, (evaluate p.recording (s, asked) h a n ps).state.2 = asked ++ [v]) ↔ a.Suits model h n) ∧
      (a.Suits model h n → ∃ v d, a.inputs n = .ok v ∧ Decoder.ofHandle h = .ok d ∧
        (evaluate p.recording (s, asked) h a n ps).state = ((p.runBatch s h v).state, asked ++ [v]) ∧
        (evaluate p s h a n ps).Follows (p.runBatch s h v) h n ps d) ∧
      (¬a.Suits model h n → ∃ f, evaluate p s h a n ps = ⟨s, ps, [], .error (.fault f)⟩ ∧
        (evaluate p.recording (s, asked) h a n ps).state = (s, asked) ∧
        f ≠ .sumTooLarge ∧ f ≠ .productTooLarge ∧ f ≠ .capacityTooLarge) := by
  have hmade := ha.madeFor
  have hasked : a.Suits model h n →
      (evaluate p.recording (s, asked) h a n ps).state = ((p.runBatch s h (a.view n)).state, asked ++ [a.view n]) :=
    fun hs => (evaluate_follows (p := p.recording) (s := (s, asked)) hmade hs).state_eq
  have hstopped : ¬a.Suits model h n → ∃ f, a.refusal? h n = some f := by
    intro hs
    exact Option.ne_none_iff_exists'.1 fun hnone => hs ((Arena.refusal?_eq_none_iff hmade).1 hnone)
  refine ⟨⟨?_, ?_⟩, ?_, ?_⟩
  · intro hcalled
    obtain ⟨v, hv⟩ := hcalled
    cases hf : a.refusal? h n with
    | none => exact (Arena.refusal?_eq_none_iff hmade).1 hf
    | some f =>
      rw [evaluate_of_refusal hmade hf] at hv
      simp at hv
  · intro hs
    exact ⟨a.view n, by rw [hasked hs]⟩
  · intro hs
    refine ⟨a.view n, h.decoder, ?_, hs.decoder_eq hmade, hasked hs, evaluate_follows hmade hs⟩
    exact (Arena.inputs_eq_ok_iff hmade).2 ⟨hs.pos, hs.le_rows, rfl⟩
  · intro hs
    obtain ⟨f, hf⟩ := hstopped hs
    refine ⟨f, evaluate_of_refusal hmade hf, ?_, Arena.refusal?_not_overflow hf⟩
    rw [evaluate_of_refusal hmade hf]

/-- a model with fewer misc channels suits; three rows are too many -/
theorem evaluate_asks_once_oneCell :
    let h := Handle.oneCell (Descriptor.oldest "m" 2 (by decide)) 2 (by decide)
    let p : Provider Nat :=
      { name := "down", runBatch := fun s _ _ => { state := s + 1, outcome := .error (.refused (.ofEngine "lost")) } }
    Arena.oneCell.OfModel (Descriptor.oldest "narrow" 1 (by decide)) ∧
      (∃ v, (evaluate p.recording (0, []) h Arena.oneCell 2 []).state = (1, [v])) ∧
      (evaluate p 0 h Arena.oneCell 2 []).outcome = .error (.refused (.ofEngine "lost")) ∧
      (evaluate p.recording (0, []) h Arena.oneCell 3 []).state = (0, []) := by
  intro h p
  have hmodel : (Arena.oneCell.run []).OfModel _ := Arena.run_oneCell_ofModel "narrow" Nat.one_pos []
  have hsuits : Arena.oneCell.Suits (Descriptor.oldest "narrow" 1 (by decide)) h 2 :=
    ⟨rfl, rfl, Nat.le_refl 2, rfl, rfl, Nat.two_pos, Nat.le_refl 2⟩
  have hmany : ¬Arena.oneCell.Suits (Descriptor.oldest "narrow" 1 (by decide)) h 3 :=
    fun hs => absurd hs.le_rows (by decide)
  obtain ⟨-, htwo, -⟩ := evaluate_asks_once p 0 [] h hmodel 2 []
  obtain ⟨-, -, hthree⟩ := evaluate_asks_once p 0 [] h hmodel 3 []
  obtain ⟨v, d, -, -, hstate, hfollows⟩ := htwo hsuits
  obtain ⟨f, -, hstate', -⟩ := hthree hmany
  exact ⟨hmodel, ⟨v, hstate⟩, (hfollows.of_refused _ rfl).1, hstate'⟩

/-! ## What an evaluation reads of an arena -/

namespace Arena

variable {a b : Arena} {model other : Descriptor} {h : Handle} {n : Nat}

/-- two arenas that agree on all that a batch of this size is made of -/
structure SameBatch (a b : Arena) (n : Nat) : Prop where
  x_eq : a.x = b.x
  y_eq : a.y = b.y
  counts_eq : a.counts = b.counts
  symmetries_eq : a.symmetries = b.symmetries
  spatial_eq : ∀ r < n, a.row .spatial r = b.row .spatial r
  global_eq : ∀ r < n, a.row .global r = b.row .global r

namespace SameBatch

theorem front_eq {k : Lane} (ha : a.MadeFor model) (hb : b.MadeFor other) (han : n ≤ a.rows) (hbn : n ≤ b.rows)
    (hrows : ∀ r < n, a.row k r = b.row k r) :
    (a.cells.get k).extract 0 (n * a.counts.get k) = (b.cells.get k).extract 0 (n * b.counts.get k) := by
  have hrowOf : ∀ r ∈ List.range n, a.rowOf k r = b.rowOf k r := by
    intro r hr
    have hrn := List.mem_range.1 hr
    have hrow := hrows r hrn
    rw [row_eq_ok ha (Nat.lt_of_lt_of_le hrn han), row_eq_ok hb (Nat.lt_of_lt_of_le hrn hbn)] at hrow
    exact Except.ok.inj hrow
  rw [ha.front_eq han, hb.front_eq hbn, List.map_congr_left hrowOf]

/-- one view for both, though their buffers differ in length and in all that lies behind -/
theorem view_eq (hsame : a.SameBatch b n) (ha : a.MadeFor model) (hb : b.MadeFor other) (han : n ≤ a.rows)
    (hbn : n ≤ b.rows) : a.view n = b.view n := by
  have hspatial := front_eq ha hb han hbn hsame.spatial_eq
  have hglobal := front_eq ha hb han hbn hsame.global_eq
  calc
    a.view n = ⟨n, a.x, a.y, (a.cells.get .spatial).extract 0 (n * a.counts.get .spatial),
        (a.cells.get .global).extract 0 (n * a.counts.get .global), a.symmetries⟩ := rfl
    _ = b.view n := by
      rw [hspatial, hglobal, hsame.x_eq, hsame.y_eq, hsame.symmetries_eq]
      rfl

theorem inputs_eq (hsame : a.SameBatch b n) (ha : a.MadeFor model) (hb : b.MadeFor other) (han : n ≤ a.rows)
    (hbn : n ≤ b.rows) : a.inputs n = b.inputs n := by
  rw [Arena.inputs_eq ha, Arena.inputs_eq hb, hsame.view_eq ha hb han hbn, if_neg (Nat.not_lt.2 han),
    if_neg (Nat.not_lt.2 hbn)]

theorem refusal?_eq (hsame : a.SameBatch b n) (han : n ≤ a.rows) (hbn : n ≤ b.rows) (hah : a.rows ≤ h.rows)
    (hbh : b.rows ≤ h.rows) : a.refusal? h n = b.refusal? h n := by
  simp only [refusal?, hsame.x_eq, hsame.y_eq, hsame.counts_eq, Nat.not_lt.2 han, Nat.not_lt.2 hbn, Nat.not_lt.2 hah,
    Nat.not_lt.2 hbh, if_false]

/-- the arenas are admitted alike, or refused alike -/
theorem evaluate_eq {σ : Type} (hsame : a.SameBatch b n) (ha : a.MadeFor model) (hb : b.MadeFor other)
    (han : n ≤ a.rows) (hbn : n ≤ b.rows) (hah : a.rows ≤ h.rows) (hbh : b.rows ≤ h.rows) (p : Provider σ) (s : σ)
    (ps : List Prediction) : evaluate p s h a n ps = evaluate p s h b n ps := by
  have hadmit : (do a.checkFor h; a.inputs n) = (do b.checkFor h; b.inputs n) := by
    rw [admit_eq ha, admit_eq hb, hsame.refusal?_eq han hbn hah hbh, hsame.view_eq ha hb han hbn]
  simp only [evaluate, hadmit]

end SameBatch

/-- the operation writes no input of the first `n` rows, and no flag -/
def Op.Spares (n : Nat) : Op → Prop
  | .write k r _ _ => (k ≠ .spatial ∧ k ≠ .global) ∨ n ≤ r
  | .flag _ => False
  | .stage _ _ _ => True

variable {c : Arena} {sh : Shape}

theorem SameBatch.trans (hab : a.SameBatch b n) (hbc : b.SameBatch c n) : a.SameBatch c n where
  x_eq := hab.x_eq.trans hbc.x_eq
  y_eq := hab.y_eq.trans hbc.y_eq
  counts_eq := hab.counts_eq.trans hbc.counts_eq
  symmetries_eq := hab.symmetries_eq.trans hbc.symmetries_eq
  spatial_eq r hr := (hab.spatial_eq r hr).trans (hbc.spatial_eq r hr)
  global_eq r hr := (hab.global_eq r hr).trans (hbc.global_eq r hr)

/-- arenas of one shape with the same input rows -/
theorem sameBatch_of_rowOf (ha : a.HasShape sh) (hb : b.HasShape sh) (hn : n ≤ sh.rows)
    (hflags : a.symmetries = b.symmetries)
    (hrows : ∀ k, k = .spatial ∨ k = .global → ∀ r < n, a.rowOf k r = b.rowOf k r) : a.SameBatch b n := by
  have hrow : ∀ k, k = .spatial ∨ k = .global → ∀ r < n, a.row k r = b.row k r := by
    intro k hk r hr
    have hlt : r < sh.rows := Nat.lt_of_lt_of_le hr hn
    rw [row_eq_ok ha.madeFor (by rwa [ha.rows_eq]), row_eq_ok hb.madeFor (by rwa [hb.rows_eq]), hrows k hk r hr]
  refine ⟨ha.x_eq.trans hb.x_eq.symm, ha.y_eq.trans hb.y_eq.symm, ?_, hflags, hrow .spatial (Or.inl rfl),
    hrow .global (Or.inr rfl)⟩
  rw [ha.madeFor.counts_eq, hb.madeFor.counts_eq, ha.x_eq, ha.y_eq, hb.x_eq, hb.y_eq]

/-- an operation that spares a batch leaves it as it is -/
theorem step_sameBatch (ha : a.HasShape sh) (hn : n ≤ sh.rows) {o : Op} (ho : o.Spares n) : (a.step o).SameBatch a n := by
  have hshape := step_hasShape ha o
  cases o with
  | flag s => exact absurd ho id
  | write j i offset data =>
    rw [step_write ha.madeFor] at hshape ⊢
    split at hshape
    · rename_i hfits
      rw [if_pos hfits]
      refine sameBatch_of_rowOf hshape ha hn rfl fun k hk r hr => ?_
      refine rowOf_splice_ne ha.madeFor hfits.1 hfits.2 ?_
      rcases ho with hlane | hrow
      · refine Or.inl fun hkj => ?_
        rcases hk with rfl | rfl
        · exact hlane.1 hkj.symm
        · exact hlane.2 hkj.symm
      · exact Or.inr (Nat.ne_of_lt (Nat.lt_of_lt_of_le hr hrow))
    · rename_i hno
      rw [if_neg hno]
      exact sameBatch_of_rowOf ha ha hn rfl fun k hk r hr => rfl
  | stage d raw m =>
    have hstage := stage_stagedBetween ha.madeFor d raw m
    refine sameBatch_of_rowOf hshape ha hn hstage.symmetries_eq fun k hk r hr => hstage.rowOf_eq k r ?_
    rcases hk with hk | hk
    · exact Or.inl hk
    · exact Or.inr (Or.inl hk)

/-- so does every history of such operations -/
theorem run_sameBatch (ha : a.HasShape sh) (hn : n ≤ sh.rows) {ops : List Op} (hops : ∀ o ∈ ops, o.Spares n) :
    (a.run ops).SameBatch a n := by
  induction ops generalizing a with
  | nil => exact sameBatch_of_rowOf ha ha hn rfl fun k hk r hr => rfl
  | cons o ops ih =>
    have hfirst := step_sameBatch ha hn (hops o List.mem_cons_self)
    have hrest := ih (step_hasShape ha o) fun x hx => hops x (List.mem_cons_of_mem o hx)
    exact hrest.trans hfirst

end Arena

/-- after a history that spares a batch its evaluation is the one that it was before -/
theorem evaluate_run_of_spares {σ : Type} (p : Provider σ) (s : σ) {h : Handle} {a : Arena} {model : Descriptor}
    (ha : a.OfModel model) {n : Nat} (hn : n ≤ a.rows) (hah : a.rows ≤ h.rows) {ops : List Arena.Op}
    (hops : ∀ o ∈ ops, o.Spares n) (ps : List Prediction) :
    evaluate p s h (a.run ops) n ps = evaluate p s h a n ps := by
  have hshape : a.HasShape ⟨model, a.rows, a.x, a.y⟩ := ⟨ha.madeFor, rfl, rfl, rfl⟩
  have hrun := Arena.run_hasShape hshape ops
  have hrows : (a.run ops).rows = a.rows := hrun.rows_eq
  refine (Arena.run_sameBatch hshape hn hops).evaluate_eq hrun.madeFor hshape.madeFor ?_ hn ?_ hah p s ps
  · rwa [hrows]
  · rwa [hrows]

/-- **Nothing but the filled rows counts.** Two arenas for the same board and counts, of whatever capacity, which agree on
the flags and on the inputs of the first `n` rows, give the provider the same inputs and the same evaluation, whatever lies
in their other rows and in their staged results. -/
theorem evaluate_filled_rows {σ : Type} (p : Provider σ) (s : σ) (asked : List Inputs) (h : Handle) {a b : Arena}
    {model other : Descriptor} (ha : a.OfModel model) (hb : b.OfModel other) {n : Nat} (hsame : a.SameBatch b n)
    (han : n ≤ a.rows) (hbn : n ≤ b.rows) (hah : a.rows ≤ h.rows) (hbh : b.rows ≤ h.rows) (ps : List Prediction) :
    a.inputs n = b.inputs n ∧ evaluate p s h a n ps = evaluate p s h b n ps ∧
      (evaluate p.recording (s, asked) h a n ps).state = (evaluate p.recording (s, asked) h b n ps).state := by
  have hma := ha.madeFor
  have hmb := hb.madeFor
  have hsee : ∀ {τ : Type} (q : Provider τ) (t : τ), evaluate q t h a n ps = evaluate q t h b n ps :=
    fun q t => hsame.evaluate_eq hma hmb han hbn hah hbh q t ps
  exact ⟨hsame.inputs_eq hma hmb han hbn, hsee p s, congrArg Evaluation.state (hsee p.recording (s, asked))⟩

/-- two rows, the second one filled and the first one with staged results, and a single row that never held anything -/
theorem evaluate_filled_rows_oneCell :
    let h := Handle.oneCell (Descriptor.oldest "m" 2 (by decide)) 2 (by decide)
    let raw : RawBatch := ⟨#[one, zero, zero, zero], #[one, zero, zero], #[one, zero], #[one]⟩
    let a := Arena.oneCell.run [.write .spatial 1 0 #[one], .stage h.decoder raw 1]
    let b : Arena :=
      { Arena.oneCell with
        rows := 1
        cells := ⟨Array.replicate 22 zero, Array.replicate 14 zero, Array.replicate 2 zero, Array.replicate 3 zero,
          Array.replicate 1 zero, Array.replicate 1 zero⟩ }
    let p : Provider Nat := { name := "echo", runBatch := fun s _ v => { state := s + v.batch, outcome := .ok raw } }
    a.OfModel h.model ∧ b.OfModel h.model ∧ a.cells ≠ b.cells ∧ ∀ ps, evaluate p 0 h a 1 ps = evaluate p 0 h b 1 ps := by
  intro h raw a b p
  have ha : a.OfModel h.model := Arena.run_oneCell_ofModel "m" Nat.two_pos _
  have hb : b.OfModel h.model := ⟨none, 1, 1, 1, b, [], rfl, rfl⟩
  have hshape : Arena.oneCell.HasShape ⟨h.model, 2, 1, 1⟩ :=
    ⟨(Arena.run_oneCell_ofModel "m" Nat.two_pos []).madeFor, rfl, rfl, rfl⟩
  have hspares : a.SameBatch Arena.oneCell 1 := by
    refine Arena.run_sameBatch hshape (Nat.le_succ 1) fun o ho => ?_
    simp only [List.mem_cons, List.not_mem_nil, or_false] at ho
    rcases ho with rfl | rfl
    · exact Or.inr (Nat.le_refl 1)
    · exact trivial
  have hempty : Arena.oneCell.SameBatch b 1 := by
    refine ⟨rfl, rfl, rfl, rfl, fun r hr => ?_, fun r hr => ?_⟩
    · rw [Nat.lt_one_iff.1 hr]
      rfl
    · rw [Nat.lt_one_iff.1 hr]
      rfl
  have hsame := hspares.trans hempty
  refine ⟨ha, hb, ?_, fun ps => ?_⟩
  · decide +kernel
  · exact (evaluate_filled_rows p 0 [] h ha hb hsame (by decide) (by decide) (by decide) (by decide) ps).2.1

end BatchEval
