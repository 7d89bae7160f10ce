/-
The memory of a batch over its life. An arena is allocated once for a model and then written, flagged and staged into,
in any order and any number of times, calls that stop with a fault among them.

- `Arena.step`, `Arena.run`, `Arena.OfModel`: the histories of an arena.
- `Arena.MadeFor`, `step_madeFor`, `run_madeFor`: what holds after the allocation holds after every history.
- `row_eq_ok`, `replaceRow_eq_ok_iff`, `rowOf_setRow`: rows are read and replaced one at a time.
- `replaceLanes_inv`, `stageRows_inv`: what each step keeps is kept by a row written lane by lane and by rows in turn,
  wherever they stop.
- `inputs_eq`, `inputs_eq_ok_iff`, `checkFor_eq_ok_iff`: which batches and which arenas are admitted.
-/
import BatchEval.Proofs.Blocks
import BatchEval.Proofs.Sizes
import BatchEval.Provider

namespace BatchEval.Arena

/-! ## Histories -/

/-- something done to the memory of a batch -/
inductive Op
  | write (k : Lane) (row offset : Nat) (data : Array Word)
  | flag (s : Symmetries)
  | stage (d : Decoder) (raw : RawBatch) (batch : Nat)

/-- one operation; a write that is refused or faults leaves the arena as it was -/
def step (a : Arena) : Op → Arena
  | .write k row offset data =>
    match a.write k row offset data with
    | .ok b => b
    | .error _ => a
  | .flag s => { a with symmetries := s }
  | .stage d raw batch => (d.stage raw batch a).1

def run (a : Arena) (ops : List Op) : Arena := ops.foldl step a

/-- the arenas of a model: allocated for it, with any history -/
def OfModel (a : Arena) (model : Descriptor) : Prop :=
  ∃ v rows x y start ops, (allocate v model rows x y).value = .ok start ∧ start.run ops = a

/-! ## The invariant -/

/-- what the allocation for a model fixes -/
structure MadeFor (a : Arena) (model : Descriptor) : Prop where
  layout_eq : a.layout = model.layout
  counts_ok : RowCounts.ofModel model a.x a.y = .ok a.counts
  rows_pos : 0 < a.rows
  x_pos : 0 < a.x
  y_pos : 0 < a.y
  size_eq : ∀ k, (a.cells.get k).size = a.rows * a.counts.get k
  words_le : ∀ k, a.rows * a.counts.get k ≤ Size.maxWords

variable {a b : Arena} {model : Descriptor} {k : Lane} {r n : Nat} {data : Array Word}

namespace MadeFor

theorem counts_eq (h : a.MadeFor model) : a.counts = model.rowCounts a.x a.y :=
  (RowCounts.ofModel_eq_ok_iff.1 h.counts_ok).2.symm

theorem spatial_eq (h : a.MadeFor model) : a.counts.spatial = 22 * (a.x * a.y) := by
  rw [h.counts_eq, Descriptor.rowCounts, model.spatial_eq]

theorem global_eq (h : a.MadeFor model) : a.counts.global = model.channels.global := by rw [h.counts_eq]; rfl

theorem policy_eq (h : a.MadeFor model) : a.counts.policy = 1 + a.x * a.y := by rw [h.counts_eq]; rfl

theorem value_eq (h : a.MadeFor model) : a.counts.value = 3 := by rw [h.counts_eq]; exact model.value_eq

theorem score_eq (h : a.MadeFor model) : a.counts.score = a.layout.channels := by
  rw [h.counts_eq, h.layout_eq]
  exact model.score_eq

theorem ownership_eq (h : a.MadeFor model) : a.counts.ownership = a.x * a.y := by
  rw [h.counts_eq]
  show model.channels.ownership * (a.x * a.y) = a.x * a.y
  rw [model.ownership_eq, Nat.one_mul]

/-- the policy lane, which has a word for every row, bounds the number of rows -/
theorem rows_le (h : a.MadeFor model) : a.rows ≤ Size.maxWords := by
  have hle := h.words_le .policy
  have hpolicy : a.counts.get .policy = 1 + a.x * a.y := h.policy_eq
  rw [hpolicy] at hle
  exact Nat.le_trans (Nat.le_mul_of_pos_right _ (by omega)) hle

/-- the policy lane, which has a word for every cell and one more, bounds the board -/
theorem area_lt (h : a.MadeFor model) : a.x * a.y < Size.maxWords := by
  have hle := h.words_le .policy
  have hpolicy : a.counts.get .policy = 1 + a.x * a.y := h.policy_eq
  rw [hpolicy] at hle
  have := Nat.le_mul_of_pos_left (1 + a.x * a.y) h.rows_pos
  omega

theorem end_le (h : a.MadeFor model) (hr : r < a.rows) (k : Lane) :
    (r + 1) * a.counts.get k ≤ (a.cells.get k).size := by
  rw [h.size_eq]
  exact Flat.row_end_le _ hr

/-- the front rows of a lane are there, and their number of words fits -/
theorem front_le (h : a.MadeFor model) (hn : n ≤ a.rows) (k : Lane) :
    n * a.counts.get k ≤ (a.cells.get k).size ∧ n * a.counts.get k < Size.limit := by
  have hle : n * a.counts.get k ≤ a.rows * a.counts.get k := Nat.mul_le_mul_right _ hn
  have hlimit := Size.maxWords_lt_limit
  have hwords := h.words_le k
  rw [h.size_eq k]
  omega

/-- a lane replaced by one of the same size -/
theorem set_cells (h : a.MadeFor model) (hd : data.size = (a.cells.get k).size) :
    { a with cells := a.cells.set k data }.MadeFor model := by
  refine { h with size_eq := fun j => ?_ }
  rw [PerLane.get_set]
  split
  · rename_i hj
    rw [hj, hd]
    exact h.size_eq k
  · exact h.size_eq j

theorem set_flags (h : a.MadeFor model) (s : Symmetries) : { a with symmetries := s }.MadeFor model := { h with }

end MadeFor

/-- an allocation that succeeds has passed every check; the entry it may tell of does not matter any more -/
theorem ofCounts_of_allocate {v : Verbosity} {rows x y : Nat} (h : (allocate v model rows x y).value = .ok a) :
    ∃ counts, checkExtents rows x y = .ok () ∧ RowCounts.ofModel model x y = .ok counts ∧
      ofCounts model.layout counts rows x y = .ok a := by
  unfold allocate at h
  split at h
  · cases h
  · rename_i counts hc
    obtain ⟨_, h1, h2⟩ := Checked.bind_eq_ok_iff.1 hc
    refine ⟨counts, h1, h2, ?_⟩
    split at h
    · split at h
      · cases h
      · exact h
    · exact h

theorem allocate_madeFor {v : Verbosity} {rows x y : Nat} (h : (allocate v model rows x y).value = .ok a) :
    a.MadeFor model ∧ a.rows = rows ∧ a.x = x ∧ a.y = y := by
  obtain ⟨counts, hext, hcounts, ha⟩ := ofCounts_of_allocate h
  obtain ⟨hrows, hx, hy⟩ := checkExtents_eq_ok_iff.1 hext
  simp only [ofCounts, Checked.bind_eq_ok_iff, pure, Except.pure, Except.ok.injEq] at ha
  obtain ⟨sizes, hsizes, rfl⟩ := ha
  have hlane := fun k => Size.rows_eq_ok_iff.1 (PerLane.build_eq_ok_iff.1 hsizes k)
  refine ⟨⟨rfl, hcounts, hrows, hx, hy, fun k => ?_, fun k => (hlane k).1⟩, rfl, rfl, rfl⟩
  rw [(hlane k).2]
  cases k <;> exact Array.size_replicate

/-- an allocated arena holds zeros, under no flags -/
theorem allocate_zeros {v : Verbosity} {rows x y : Nat} (h : (allocate v model rows x y).value = .ok a) :
    a.symmetries = {} ∧ ∀ k, a.cells.get k = Array.replicate (a.rows * a.counts.get k) .zero := by
  obtain ⟨counts, -, -, ha⟩ := ofCounts_of_allocate h
  simp only [ofCounts, Checked.bind_eq_ok_iff, pure, Except.pure, Except.ok.injEq] at ha
  obtain ⟨sizes, hsizes, rfl⟩ := ha
  refine ⟨rfl, fun k => ?_⟩
  rw [(Size.rows_eq_ok_iff.1 (PerLane.build_eq_ok_iff.1 hsizes k)).2]
  cases k <;> rfl

/-! ## Rows -/

/-- the words of a row -/
def rowOf (a : Arena) (k : Lane) (r : Nat) : Array Word := Flat.block (a.cells.get k) (a.counts.get k) r

/-- the arena with another row in the place of one -/
def setRow (a : Arena) (k : Lane) (r : Nat) (data : Array Word) : Arena :=
  { a with cells := a.cells.set k (Flat.overwrite (a.cells.get k) (r * a.counts.get k) data) }

@[simp] theorem rows_setRow : (a.setRow k r data).rows = a.rows := rfl

@[simp] theorem x_setRow : (a.setRow k r data).x = a.x := rfl

@[simp] theorem y_setRow : (a.setRow k r data).y = a.y := rfl

@[simp] theorem counts_setRow : (a.setRow k r data).counts = a.counts := rfl

@[simp] theorem layout_setRow : (a.setRow k r data).layout = a.layout := rfl

theorem size_rowOf (h : a.MadeFor model) (hr : r < a.rows) : (a.rowOf k r).size = a.counts.get k :=
  Flat.size_block (h.end_le hr k)

theorem span_eq_ok_iff (h : a.MadeFor model) {s : Nat × Nat} :
    a.span r (a.counts.get k) = .ok s ↔ r < a.rows ∧ (r * a.counts.get k, (r + 1) * a.counts.get k) = s := by
  unfold span
  split
  · rename_i hr
    have hwords := h.words_le k
    have hrows := h.rows_le
    have hend := Flat.row_end_le (a.counts.get k) hr
    have hsucc := Nat.add_one_mul r (a.counts.get k)
    have hlimit := Size.maxWords_lt_limit
    simp only [Checked.bind_eq_ok_iff, Size.mul_eq_ok_iff, Size.add_eq_ok_iff, pure, Except.pure, Except.ok.injEq]
    refine ⟨?_, ?_⟩
    · intro hok
      obtain ⟨_, ⟨-, rfl⟩, _, ⟨-, rfl⟩, _, ⟨-, rfl⟩, rfl⟩ := hok
      exact ⟨hr, rfl⟩
    · intro hcond
      obtain ⟨-, rfl⟩ := hcond
      exact ⟨_, ⟨by omega, rfl⟩, _, ⟨by omega, rfl⟩, _, ⟨by omega, rfl⟩, rfl⟩
  · rename_i hr
    simp [hr]

/-- an arena has exactly the rows below its capacity -/
theorem row_eq_ok_iff (h : a.MadeFor model) : a.row k r = .ok data ↔ r < a.rows ∧ a.rowOf k r = data := by
  simp only [row, Checked.bind_eq_ok_iff, span_eq_ok_iff h, Flat.slice_eq_ok_iff]
  refine ⟨?_, ?_⟩
  · intro hok
    obtain ⟨_, ⟨hr, rfl⟩, -, hdata⟩ := hok
    exact ⟨hr, hdata⟩
  · intro hcond
    obtain ⟨hr, hdata⟩ := hcond
    exact ⟨_, ⟨hr, rfl⟩, h.end_le hr k, hdata⟩

theorem row_eq_ok (h : a.MadeFor model) (hr : r < a.rows) : a.row k r = .ok (a.rowOf k r) :=
  (row_eq_ok_iff h).2 ⟨hr, rfl⟩

/-- a row that is there, and words that fill it -/
structure RowFits (a : Arena) (k : Lane) (r : Nat) (data : Array Word) : Prop where
  lt : r < a.rows
  size_eq : data.size = a.counts.get k

theorem RowFits.setRow {j : Lane} {i : Nat} {other : Array Word} (h : a.RowFits k r data) :
    (a.setRow j i other).RowFits k r data := ⟨h.lt, h.size_eq⟩

/-- a row is replaced exactly by words that fill it -/
theorem replaceRow_eq_ok_iff (h : a.MadeFor model) :
    a.replaceRow k r data = .ok b ↔ a.RowFits k r data ∧ a.setRow k r data = b := by
  simp only [replaceRow, Checked.bind_eq_ok_iff, span_eq_ok_iff h, row_eq_ok_iff h, Flat.replaceAll, pure, Except.pure,
    Except.ok.injEq]
  refine ⟨?_, ?_⟩
  · intro hok
    obtain ⟨_, ⟨hr, rfl⟩, _, ⟨-, rfl⟩, _, hnew, rfl⟩ := hok
    rw [size_rowOf h hr] at hnew
    split at hnew
    · rename_i hd
      cases hnew
      exact ⟨⟨hr, hd⟩, rfl⟩
    · cases hnew
  · intro hcond
    obtain ⟨⟨hr, hd⟩, rfl⟩ := hcond
    refine ⟨_, ⟨hr, rfl⟩, _, ⟨hr, rfl⟩, data, ?_, rfl⟩
    rw [size_rowOf h hr, if_pos hd]

theorem replaceRow_eq_ok (h : a.MadeFor model) (hf : a.RowFits k r data) :
    a.replaceRow k r data = .ok (a.setRow k r data) := (replaceRow_eq_ok_iff h).2 ⟨hf, rfl⟩

/-- a lane whose turn it is takes a row that fits -/
theorem replaceLanes_cons (h : a.MadeFor model) (hf : a.RowFits k r data)
    (rest : List (Lane × Except Fault (Array Word))) :
    a.replaceLanes r ((k, .ok data) :: rest) = (a.setRow k r data).replaceLanes r rest := by
  simp only [replaceLanes, Checked.ok_bind, replaceRow_eq_ok h hf]

theorem setRow_madeFor (h : a.MadeFor model) (hf : a.RowFits k r data) : (a.setRow k r data).MadeFor model := by
  have hend := h.end_le hf.lt k
  have hsucc := Nat.add_one_mul r (a.counts.get k)
  have hsize := hf.size_eq
  exact h.set_cells (Flat.size_overwrite (by omega))

/-- a replaced row reads as what replaced it, and every other row reads as before -/
theorem rowOf_setRow (h : a.MadeFor model) (hf : a.RowFits k r data) (j : Lane) (i : Nat) :
    (a.setRow k r data).rowOf j i = if j = k ∧ i = r then data else a.rowOf j i := by
  unfold rowOf setRow
  simp only [PerLane.get_set]
  by_cases hj : j = k
  · subst hj
    simp only [if_true, true_and]
    by_cases hir : i = r
    · rw [if_pos hir, hir]
      exact Flat.block_overwrite_self (h.end_le hf.lt j) hf.size_eq
    · rw [if_neg hir]
      exact Flat.block_overwrite_ne (h.end_le hf.lt j) hf.size_eq hir
  · simp [hj]

/-! ## Every history keeps the invariant -/

theorem write_madeFor {offset : Nat} (h : a.MadeFor model) (hw : a.write k r offset data = .ok b) :
    b.MadeFor model := by
  simp only [write, Checked.bind_eq_ok_iff, Halt.ofFault_eq_ok_iff, span_eq_ok_iff h, row_eq_ok_iff h] at hw
  obtain ⟨_, ⟨hr, rfl⟩, _, ⟨-, rfl⟩, hb⟩ := hw
  rw [size_rowOf h hr] at hb
  split at hb
  · rename_i hfit
    simp only [pure, Except.pure, Except.ok.injEq] at hb
    have hend := h.end_le hr k
    have hsucc := Nat.add_one_mul r (a.counts.get k)
    rw [← hb]
    exact h.set_cells (Flat.size_overwrite (by omega))
  · cases hb

theorem replaceRow_madeFor (h : a.MadeFor model) (hw : a.replaceRow k r data = .ok b) : b.MadeFor model := by
  obtain ⟨hf, rfl⟩ := (replaceRow_eq_ok_iff h).1 hw
  exact setRow_madeFor h hf

/-- what every replaced lane keeps is kept, also where a lane cannot be replaced -/
theorem replaceLanes_inv {P : Arena → Prop} {rows : List (Lane × Except Fault (Array Word))}
    (hlane : ∀ lane ∈ rows, ∀ data b c, P b → b.replaceRow lane.1 r data = .ok c → P c) (ha : P a) :
    P (a.replaceLanes r rows).1 := by
  induction rows generalizing a with
  | nil => exact ha
  | cons lane rest ih =>
    simp only [replaceLanes]
    split
    · exact ha
    · rename_i b hb
      obtain ⟨data, -, hrow⟩ := Checked.bind_eq_ok_iff.1 hb
      exact ih (fun other hmem => hlane other (List.mem_cons_of_mem lane hmem))
        (hlane lane List.mem_cons_self data a b ha hrow)

/-- what every row keeps is kept, also where a row is left half written -/
theorem stageRows_inv {P : Arena → Prop} {d : Decoder} {raw : RawBatch} {count : Nat}
    (hrow : ∀ i b, r ≤ i → i < r + count → P b → P (d.stageRow raw i b).1) (ha : P a) :
    P (d.stageRows raw r count a).1 := by
  induction count generalizing a r with
  | zero => exact ha
  | succ count ih =>
    have hfirst := hrow r a (Nat.le_refl r) (by omega) ha
    simp only [Decoder.stageRows]
    split
    · rename_i b f hb
      rwa [hb] at hfirst
    · rename_i b hb
      rw [hb] at hfirst
      exact ih (fun i c hlo hhi => hrow i c (by omega) (by omega)) hfirst

theorem stageRow_madeFor (h : a.MadeFor model) (d : Decoder) (raw : RawBatch) (r : Nat) :
    (d.stageRow raw r a).1.MadeFor model := by
  unfold Decoder.stageRow
  split
  · exact h
  · exact replaceLanes_inv (P := fun b => b.MadeFor model) (fun _ _ _ _ _ hb hc => replaceRow_madeFor hb hc) h

theorem stageRows_madeFor {d : Decoder} {raw : RawBatch} (h : a.MadeFor model) (count : Nat) :
    (d.stageRows raw r count a).1.MadeFor model :=
  stageRows_inv (P := fun b => b.MadeFor model) (fun i _ _ _ hb => stageRow_madeFor hb d raw i) h

theorem step_madeFor (h : a.MadeFor model) (o : Op) : (a.step o).MadeFor model := by
  cases o with
  | write k r offset data =>
    simp only [step]
    split
    · rename_i b hb
      exact write_madeFor h hb
    · exact h
  | flag s => exact h.set_flags s
  | stage d raw batch =>
    simp only [step, Decoder.stage]
    split
    · exact h
    · exact stageRows_madeFor h batch

theorem run_madeFor (h : a.MadeFor model) (ops : List Op) : (a.run ops).MadeFor model := by
  induction ops generalizing a with
  | nil => exact h
  | cons o ops ih => exact ih (step_madeFor h o)

theorem OfModel.madeFor (h : a.OfModel model) : a.MadeFor model := by
  obtain ⟨v, rows, x, y, start, ops, halloc, rfl⟩ := h
  exact run_madeFor (allocate_madeFor halloc).1 ops

/-! ## What stays an arena of the model -/

theorem OfModel.step (h : a.OfModel model) (o : Op) : (a.step o).OfModel model := by
  obtain ⟨v, rows, x, y, start, ops, halloc, hrun⟩ := h
  refine ⟨v, rows, x, y, start, ops ++ [o], halloc, ?_⟩
  rw [← hrun]
  exact List.foldl_append

/-- a whole row can be replaced by a write from its start on -/
theorem OfModel.setRow (h : a.OfModel model) (hf : a.RowFits k r data) : (a.setRow k r data).OfModel model := by
  have hmade := h.madeFor
  have hwrite : a.write k r 0 data = .ok (a.setRow k r data) := by
    simp only [write, Checked.bind_eq_ok_iff, Halt.ofFault_eq_ok_iff, span_eq_ok_iff hmade, row_eq_ok_iff hmade]
    refine ⟨_, ⟨hf.lt, rfl⟩, _, ⟨hf.lt, rfl⟩, ?_⟩
    rw [size_rowOf hmade hf.lt, if_pos (by rw [hf.size_eq]; omega)]
    rfl
  have hstep := h.step (.write k r 0 data)
  simp only [Arena.step, hwrite] at hstep
  exact hstep

theorem OfModel.flag (h : a.OfModel model) (s : Symmetries) : { a with symmetries := s }.OfModel model :=
  h.step (.flag s)

/-! ## Batches and handles -/

/-- the packed rows of a batch -/
def view (a : Arena) (n : Nat) : Inputs where
  batch := n
  x := a.x
  y := a.y
  spatial := a.cells.spatial.extract 0 (n * a.counts.spatial)
  global := a.cells.global.extract 0 (n * a.counts.global)
  symmetries := a.symmetries

/-- exactly the batches from one row up to the capacity are handed out -/
theorem inputs_eq_ok_iff (h : a.MadeFor model) {v : Inputs} :
    a.inputs n = .ok v ↔ 0 < n ∧ n ≤ a.rows ∧ a.view n = v := by
  simp only [inputs, Checked.refuse_bind_eq_ok_iff, Checked.bind_eq_ok_iff, Size.mul_eq_ok_iff, Flat.front,
    Flat.slice_eq_ok_iff, pure, Except.pure, Except.ok.injEq]
  refine ⟨?_, ?_⟩
  · intro hok
    obtain ⟨h0, hn, _, ⟨-, rfl⟩, _, ⟨-, rfl⟩, _, ⟨-, rfl⟩, _, ⟨-, rfl⟩, rfl⟩ := hok
    exact ⟨Nat.pos_of_ne_zero h0, Nat.le_of_not_lt hn, rfl⟩
  · intro hcond
    obtain ⟨h0, hn, rfl⟩ := hcond
    obtain ⟨hs, hs'⟩ := h.front_le hn .spatial
    obtain ⟨hg, hg'⟩ := h.front_le hn .global
    exact ⟨by omega, by omega, _, ⟨hs', rfl⟩, _, ⟨hs, rfl⟩, _, ⟨hg', rfl⟩, _, ⟨hg, rfl⟩, rfl⟩

theorem inputs_eq (h : a.MadeFor model) (n : Nat) :
    a.inputs n = if n = 0 then .error .emptyBatch else if a.rows < n then .error (.batchTooLarge n a.rows)
      else .ok (a.view n) := by
  by_cases h0 : n = 0
  · subst h0
    rfl
  · by_cases hn : a.rows < n
    · rw [if_neg h0, if_pos hn, inputs, if_neg h0, if_pos hn]
      rfl
    · rw [if_neg h0, if_neg hn]
      exact (inputs_eq_ok_iff h).2 ⟨Nat.pos_of_ne_zero h0, Nat.le_of_not_lt hn, rfl⟩

/-- the front of a lane is its front rows, one after the other -/
theorem MadeFor.front_eq (h : a.MadeFor model) (hn : n ≤ a.rows) (k : Lane) :
    (a.cells.get k).extract 0 (n * a.counts.get k) = Flat.join ((List.range n).map (a.rowOf k)) :=
  (Flat.join_blocks (h.front_le hn k).1).symm

/-- the spatial rows of a view are those of the arena -/
theorem block_view_spatial (hr : r < n) : Flat.block (a.view n).spatial a.counts.spatial r = a.rowOf .spatial r :=
  Flat.block_front hr

/-- the global rows of a view are those of the arena -/
theorem block_view_global (hr : r < n) : Flat.block (a.view n).global a.counts.global r = a.rowOf .global r :=
  Flat.block_front hr

theorem checkFor_eq_ok_iff {h : Handle} : a.checkFor h = .ok () ↔
    (a.x = h.x ∧ a.y = h.y) ∧ a.rows ≤ h.rows ∧ RowCounts.ofModel h.model h.x h.y = .ok a.counts := by
  simp only [checkFor, Checked.refuse_bind_eq_ok_iff, Checked.bind_eq_ok_iff, Checked.refuse_eq_ok_iff, pure,
    Except.pure, and_true, not_or, ne_eq, Decidable.not_not, Nat.not_lt]
  refine ⟨?_, ?_⟩
  · intro hok
    obtain ⟨hxy, hrows, c, hc, rfl⟩ := hok
    exact ⟨hxy, hrows, hc⟩
  · intro hcond
    obtain ⟨hxy, hrows, hc⟩ := hcond
    exact ⟨hxy, hrows, _, hc, rfl⟩

/-! ## The smallest arenas -/

/-- two rows of zeros for a board of one cell and a model of the oldest version -/
def oneCell : Arena where
  rows := 2
  x := 1
  y := 1
  layout := .meanOnly
  counts := ⟨22, 14, 2, 3, 1, 1⟩
  cells := ⟨Array.replicate 44 .zero, Array.replicate 28 .zero, Array.replicate 4 .zero, Array.replicate 6 .zero,
    Array.replicate 2 .zero, Array.replicate 2 .zero⟩
  symmetries := {}

theorem run_oneCell_ofModel (name : String) {misc : Nat} (hm : 0 < misc) (ops : List Op) :
    (oneCell.run ops).OfModel (Descriptor.oldest name misc hm) := ⟨none, 2, 1, 1, oneCell, ops, rfl, rfl⟩

end BatchEval.Arena
