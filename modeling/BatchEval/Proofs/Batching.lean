/-
Evaluating rows together and evaluating them one by one. A provider is row-wise if it answers each packed row by itself;
with such a provider a batch is nothing but its rows, each of which could have been evaluated alone.

- `evaluate_ok_iff`, `Answered.evaluate_eq`: when an evaluation succeeds, and which records it gives.
- `evaluate_rowWise`: with a row-wise provider each record is read from the answer for the row with its number.
- `evaluate_row_alone`: each record is the one that its row gives alone, or in any place of any other batch.
-/
import BatchEval.Proofs.Arena
import BatchEval.Proofs.Decoding

namespace BatchEval

open Word (zero one)

/-! ## Evaluations that succeed -/

section Evaluate

variable {σ : Type} {p : Provider σ} {s : σ} {h : Handle} {a : Arena} {n : Nat} {ps : List Prediction}
  {raw : RawBatch}

/-- the provider was asked about the batch and gave these outputs, which the handle has a decoder for -/
structure Answered (p : Provider σ) (s : σ) (h : Handle) (a : Arena) (n : Nat) (raw : RawBatch) : Prop where
  check : a.checkFor h = .ok ()
  answer : ∃ v, a.inputs n = .ok v ∧ (p.runBatch s h v).outcome = .ok raw
  decodable : 2 * h.policySize < Size.limit

theorem Answered.evaluate_eq (hans : Answered p s h a n raw) (ps : List Prediction) :
    (evaluate p s h a n ps).outcome = Halt.ofFault (h.decoder.decode raw n ps).2 ∧
      (evaluate p s h a n ps).records = (h.decoder.decode raw n ps).1 := by
  obtain ⟨v, hv, hraw⟩ := hans.answer
  have hin : (do a.checkFor h; a.inputs n) = .ok v := Checked.bind_eq_ok_iff.2 ⟨(), hans.check, hv⟩
  have hd : Decoder.ofHandle h = .ok h.decoder := Decoder.ofHandle_eq_ok_iff.2 ⟨hans.decodable, rfl⟩
  simp only [evaluate, hin, hraw, decodeFor, hd, and_self]

/-- nothing but an answer leads to success -/
theorem answered_of_ok (hok : (evaluate p s h a n ps).outcome = .ok ()) : ∃ raw, Answered p s h a n raw := by
  cases hin : (do a.checkFor h; a.inputs n) with
  | error f =>
    simp only [evaluate, hin] at hok
    cases hok
  | ok v =>
    obtain ⟨u, hcheck, hv⟩ := Checked.bind_eq_ok_iff.1 hin
    cases hraw : (p.runBatch s h v).outcome with
    | error stop =>
      cases stop with
      | fault f =>
        simp only [evaluate, hin, hraw] at hok
        cases hok
      | refused e =>
        simp only [evaluate, hin, hraw] at hok
        cases hok
    | ok raw =>
      cases hd : Decoder.ofHandle h with
      | error f =>
        simp only [evaluate, hin, hraw, decodeFor, hd] at hok
        cases hok
      | ok d => exact ⟨raw, hcheck, ⟨v, hv, hraw⟩, (Decoder.ofHandle_eq_ok_iff.1 hd).1⟩

/-- an evaluation succeeds exactly when it is answered and the answer is decoded -/
theorem evaluate_ok_iff : (evaluate p s h a n ps).outcome = .ok () ↔
    ∃ raw, Answered p s h a n raw ∧ (h.decoder.decode raw n ps).2 = .ok () := by
  refine ⟨?_, ?_⟩
  · intro hok
    obtain ⟨raw, hans⟩ := answered_of_ok hok
    rw [(hans.evaluate_eq ps).1] at hok
    exact ⟨raw, hans, Halt.ofFault_eq_ok_iff.1 hok⟩
  · intro hcond
    obtain ⟨raw, hans, hdecode⟩ := hcond
    rw [(hans.evaluate_eq ps).1]
    exact Halt.ofFault_eq_ok_iff.2 hdecode

end Evaluate

/-! ## Row-wise providers -/

/-- an answer to one packed row, a spatial and a global one, under symmetry flags -/
abbrev Network := Array Word → Array Word → Symmetries → RawBatch

/-- the answers to the rows of a view, one after the other -/
def Network.answer (f : Network) (h : Handle) (v : Inputs) : RawBatch :=
  RawBatch.ofRows <| (List.range v.batch).map fun r =>
    f (Flat.block v.spatial (h.model.rowCounts h.x h.y).spatial r)
      (Flat.block v.global (h.model.rowCounts h.x h.y).global r) v.symmetries

/-- a view of packed rows of a handle -/
structure Inputs.PackedFor (v : Inputs) (h : Handle) : Prop where
  batch_pos : 0 < v.batch
  batch_le : v.batch ≤ h.rows
  x_eq : v.x = h.x
  y_eq : v.y = h.y
  spatial_size : v.spatial.size = v.batch * (h.model.rowCounts h.x h.y).spatial
  global_size : v.global.size = v.batch * (h.model.rowCounts h.x h.y).global

/-- the provider answers every view row by row, in rows of the handle's raw widths -/
structure RowWise {σ : Type} (p : Provider σ) (h : Handle) (f : Network) : Prop where
  widths : ∀ spatial global flags k, ((f spatial global flags).get k).size = h.rawWidths.get k
  answers : ∀ s v, v.PackedFor h → (p.runBatch s h v).outcome = .ok (f.answer h v)

/-- a provider that asks a network about each row and keeps nothing -/
def Provider.ofNetwork (f : Network) : Provider Unit where
  name := "network"
  runBatch s h v := { state := s, outcome := .ok (f.answer h v) }

/-- the arenas of a handle: allocated for its model and board, with any history -/
structure Arena.AllocatedFor (a : Arena) (h : Handle) : Prop where
  ofModel : a.OfModel h.model
  x_eq : a.x = h.x
  y_eq : a.y = h.y
  rows_le : a.rows ≤ h.rows

/-- the network's answer to a row of an arena -/
def Arena.answerOf (f : Network) (a : Arena) (r : Nat) : RawBatch :=
  f (a.rowOf .spatial r) (a.rowOf .global r) a.symmetries

/-- a batch that nothing speaks against: its records fit, its raw outputs can be held and hold no NaN in their win places -/
structure Batch (h : Handle) (f : Network) (a : Arena) (n : Nat) (ps : List Prediction) : Prop where
  arena : a.AllocatedFor h
  pos : 0 < n
  le_rows : n ≤ a.rows
  le_records : n ≤ ps.length
  fits : ∀ r < n, ∀ q, ps[r]? = some q → q.Fits h
  words : ∀ k, n * h.rawWidths.get k ≤ Size.maxWords
  number : ∀ r < n, ∀ win, (a.answerOf f r).value[0]? = some win → win.isNaN = false

section Rows

variable {σ : Type} {p : Provider σ} {h : Handle} {f : Network} {a b : Arena} {n r : Nat} {ps : List Prediction}

namespace Arena.AllocatedFor

theorem counts_eq (ha : a.AllocatedFor h) : a.counts = h.model.rowCounts h.x h.y := by
  rw [ha.ofModel.madeFor.counts_eq, ha.x_eq, ha.y_eq]

theorem setRow {k : Lane} {data : Array Word} (ha : a.AllocatedFor h) (hf : a.RowFits k r data) :
    (a.setRow k r data).AllocatedFor h := by
  refine ⟨ha.ofModel.setRow hf, ?_, ?_, ?_⟩
  · rw [x_setRow, ha.x_eq]
  · rw [y_setRow, ha.y_eq]
  · rw [rows_setRow]
    exact ha.rows_le

theorem flag (ha : a.AllocatedFor h) (s : Symmetries) : { a with symmetries := s }.AllocatedFor h :=
  ⟨ha.ofModel.flag s, ha.x_eq, ha.y_eq, ha.rows_le⟩

theorem checkFor_eq_ok (ha : a.AllocatedFor h) : a.checkFor h = .ok () := by
  refine checkFor_eq_ok_iff.2 ⟨⟨ha.x_eq, ha.y_eq⟩, ha.rows_le, ?_⟩
  rw [← ha.x_eq, ← ha.y_eq]
  exact ha.ofModel.madeFor.counts_ok

theorem view_packedFor (ha : a.AllocatedFor h) (hpos : 0 < n) (hn : n ≤ a.rows) : (a.view n).PackedFor h := by
  have hmade := ha.ofModel.madeFor
  have hs : n * a.counts.spatial ≤ a.cells.spatial.size := (hmade.front_le hn .spatial).1
  have hg : n * a.counts.global ≤ a.cells.global.size := (hmade.front_le hn .global).1
  refine ⟨hpos, Nat.le_trans hn ha.rows_le, ha.x_eq, ha.y_eq, ?_, ?_⟩
  · rw [← ha.counts_eq]
    simp [view, hs]
  · rw [← ha.counts_eq]
    simp [view, hg]

/-- a view is answered as the rows of its arena are -/
theorem answer_view (ha : a.AllocatedFor h) (f : Network) (n : Nat) :
    f.answer h (a.view n) = RawBatch.ofRows ((List.range n).map (a.answerOf f)) := by
  have hrow : ∀ r ∈ List.range n, f (Flat.block (a.view n).spatial a.counts.spatial r)
      (Flat.block (a.view n).global a.counts.global r) a.symmetries = a.answerOf f r := by
    intro r hr
    rw [block_view_spatial (List.mem_range.1 hr), block_view_global (List.mem_range.1 hr), answerOf]
  unfold Network.answer
  rw [← ha.counts_eq]
  exact congrArg RawBatch.ofRows (List.map_congr_left hrow)

end Arena.AllocatedFor

/-- the rows of the answer to a batch -/
theorem RowWise.rows (hp : RowWise p h f) (a : Arena) (n : Nat) :
    ∀ row ∈ (List.range n).map (a.answerOf f), ∀ k, (row.get k).size = h.rawWidths.get k := by
  intro row hrow k
  obtain ⟨r, -, hr⟩ := List.mem_map.1 hrow
  rw [← hr]
  exact hp.widths _ _ _ k

theorem RowWise.blocks_eq (hp : RowWise p h f) (hr : r < n) :
    (RawBatch.ofRows ((List.range n).map (a.answerOf f))).blocks h.rawWidths r = a.answerOf f r := by
  have hlen : r < ((List.range n).map (a.answerOf f)).length := by simpa using hr
  rw [RawBatch.blocks_ofRows (hp.rows a n) hlen]
  simp

/-- the answer to a batch is admitted -/
theorem Batch.admits (hp : RowWise p h f) (hb : Batch h f a n ps) :
    Decoder.Admits h (RawBatch.ofRows ((List.range n).map (a.answerOf f))) n := by
  refine ⟨hb.pos, Nat.le_trans hb.le_rows hb.arena.rows_le, fun k => ⟨?_, ?_⟩, ?_⟩
  · exact Nat.lt_of_le_of_lt (hb.words k) Size.maxWords_lt_limit
  · have hsize := RawBatch.size_ofRows (hp.rows a n) k
    rw [List.length_map, List.length_range] at hsize
    exact Nat.le_of_eq hsize.symm
  · -- the first word of the value head is the first word of the first row
    have hvalue : Flat.block (RawBatch.ofRows ((List.range n).map (a.answerOf f))).value h.rawWidths.value 0 =
        (a.answerOf f 0).value := congrArg PerHead.value (hp.blocks_eq hb.pos)
    have hpos : 0 < h.rawWidths.value := h.rawWidths_pos .value
    have hsize : (a.answerOf f 0).value.size = h.rawWidths.value := hp.widths _ _ _ .value
    have hfirst : 0 < (a.answerOf f 0).value.size := by omega
    have hwin := Array.getElem?_eq_getElem hfirst
    refine ⟨_, ?_, hb.number 0 hb.pos _ hwin⟩
    rw [← hwin, ← hvalue, Flat.getElem?_block hpos, Nat.zero_mul, Nat.zero_add]

/-- a row-wise provider answers a batch -/
theorem Batch.answered (hp : RowWise p h f) (hb : Batch h f a n ps) (s : σ) :
    Answered p s h a n (RawBatch.ofRows ((List.range n).map (a.answerOf f))) := by
  refine ⟨hb.arena.checkFor_eq_ok, ⟨a.view n, ?_, ?_⟩, ?_⟩
  · exact (Arena.inputs_eq_ok_iff hb.arena.ofModel.madeFor).2 ⟨hb.pos, hb.le_rows, rfl⟩
  · rw [hp.answers s _ (hb.arena.view_packedFor hb.pos hb.le_rows), hb.arena.answer_view]
  · -- one row of the policy head is no longer than all of them
    calc
      2 * h.policySize ≤ n * (2 * h.policySize) := Nat.le_mul_of_pos_left _ hb.pos
      _ ≤ Size.maxWords := hb.words .policy
      _ < Size.limit := Size.maxWords_lt_limit

/-- with a row-wise provider each record is read from the answer to the row with its number -/
theorem evaluate_rowWise (hp : RowWise p h f) (hb : Batch h f a n ps) (s : σ) :
    (evaluate p s h a n ps).outcome = .ok () ∧
      (∀ r < n, ∀ old, ps[r]? = some old → ∃ q, (evaluate p s h a n ps).records[r]? = some q ∧
        old.ReadFrom h.model.layout (a.answerOf f r) q) ∧
      ∀ r, n ≤ r → (evaluate p s h a n ps).records[r]? = ps[r]? := by
  have hans := Batch.answered hp hb s
  have hdecode := Decoder.decode_ok_iff.2 ⟨Batch.admits hp hb, hb.le_records, hb.fits⟩
  obtain ⟨hreads, hrest⟩ := Decoder.decode_reads hdecode
  rw [(hans.evaluate_eq ps).2]
  refine ⟨evaluate_ok_iff.2 ⟨_, hans, hdecode⟩, fun r hr old hold => ?_, hrest⟩
  obtain ⟨-, q, hq, hread⟩ := hreads r hr old hold
  rw [hp.blocks_eq hr] at hread
  exact ⟨q, hq, hread⟩

/-- row `r` of one arena and row `i` of another hold the same inputs, under the same flags -/
structure SameRow (a : Arena) (r : Nat) (b : Arena) (i : Nat) : Prop where
  spatial : a.rowOf .spatial r = b.rowOf .spatial i
  global : a.rowOf .global r = b.rowOf .global i
  symmetries : a.symmetries = b.symmetries

theorem SameRow.answerOf_eq {i : Nat} (hsame : SameRow a r b i) (f : Network) : a.answerOf f r = b.answerOf f i := by
  rw [Arena.answerOf, Arena.answerOf, hsame.spatial, hsame.global, hsame.symmetries]

/-- copies the inputs of a row into the first row of another arena, with the flags -/
def Arena.copyInputs (a : Arena) (r : Nat) (b : Arena) : Except Fault Arena := do
  let spatial ← a.row .spatial r
  let global ← a.row .global r
  let b ← b.replaceRow .spatial 0 spatial
  let b ← b.replaceRow .global 0 global
  pure { b with symmetries := a.symmetries }

/-- between arenas of one handle a row can always be copied -/
theorem Arena.copyInputs_eq_ok (ha : a.AllocatedFor h) (hb : b.AllocatedFor h) (hr : r < a.rows) :
    ∃ c, a.copyInputs r b = .ok c ∧ c.AllocatedFor h ∧ SameRow a r c 0 := by
  have hma := ha.ofModel.madeFor
  have hmb := hb.ofModel.madeFor
  have hcounts : a.counts = b.counts := ha.counts_eq.trans hb.counts_eq.symm
  have hspatial : b.RowFits .spatial 0 (a.rowOf .spatial r) := ⟨hmb.rows_pos, by rw [size_rowOf hma hr, hcounts]⟩
  have hglobal : b.RowFits .global 0 (a.rowOf .global r) := ⟨hmb.rows_pos, by rw [size_rowOf hma hr, hcounts]⟩
  have hm1 := setRow_madeFor hmb hspatial
  have hcopy : a.copyInputs r b = .ok { (b.setRow .spatial 0 (a.rowOf .spatial r)).setRow .global 0
      (a.rowOf .global r) with symmetries := a.symmetries } := by
    rw [copyInputs, row_eq_ok hma hr, row_eq_ok hma hr, Checked.ok_bind, Checked.ok_bind, replaceRow_eq_ok hmb hspatial,
      Checked.ok_bind, replaceRow_eq_ok hm1 hglobal.setRow]
    rfl
  have hsrow := rowOf_setRow hm1 hglobal.setRow .spatial 0
  have hgrow := rowOf_setRow hm1 hglobal.setRow .global 0
  rw [if_neg (by simp), rowOf_setRow hmb hspatial, if_pos ⟨rfl, rfl⟩] at hsrow
  rw [if_pos ⟨rfl, rfl⟩] at hgrow
  exact ⟨_, hcopy, ((hb.setRow hspatial).setRow hglobal.setRow).flag a.symmetries, hsrow.symm, hgrow.symm, rfl⟩

/-- the same row gives the same prediction, in whatever batch, place and state of the provider -/
theorem evaluate_sameRow (hp : RowWise p h f) (hb : Batch h f a n ps) {m i : Nat} {qs : List Prediction}
    (hb' : Batch h f b m qs) (hsame : SameRow a r b i) (hr : r < n) (hi : i < m) {old old' q : Prediction}
    (hold : ps[r]? = some old) (hold' : qs[i]? = some old') (howner : old'.owner.isSome = old.owner.isSome) {s t : σ}
    (hq : (evaluate p s h a n ps).records[r]? = some q) : (evaluate p t h b m qs).records[i]? = some q := by
  obtain ⟨q₁, hq₁, hread⟩ := (evaluate_rowWise hp hb s).2.1 r hr old hold
  obtain ⟨q₂, hq₂, hread'⟩ := (evaluate_rowWise hp hb' t).2.1 i hi old' hold'
  rw [← hsame.answerOf_eq f] at hread'
  have hq₁q : q₁ = q := Option.some.inj (hq₁.symm.trans hq)
  rw [hq₂, ← hq₁q, (hread.of_fits (hb.fits r hr old hold) (hb'.fits i hi old' hold') howner).unique hread']

/-- a row of a batch is a batch of its own, with any record that fits -/
theorem Batch.alone (hb : Batch h f a n ps) (hbh : b.AllocatedFor h) (hsame : SameRow a r b 0) (hr : r < n)
    {alone : Prediction} (hfit : alone.Fits h) : Batch h f b 1 [alone] := by
  refine ⟨hbh, Nat.one_pos, hbh.ofModel.madeFor.rows_pos, Nat.le_refl 1, fun i hi q hq => ?_, fun k => ?_,
    fun i hi win hwin => ?_⟩
  · have hq' : q = alone := List.mem_singleton.1 (List.mem_of_getElem? hq)
    rw [hq']
    exact hfit
  · exact Nat.le_trans (Nat.mul_le_mul_right _ hb.pos) (hb.words k)
  · rw [Nat.lt_one_iff.1 hi, ← hsame.answerOf_eq f] at hwin
    exact hb.number r hr win hwin

end Rows

/-- **Batching is transparent.** Given a row-wise provider and a batch that nothing speaks against, the evaluation
succeeds. Its record with number `r` is the one that row `r` gives alone, in the first row of whatever other arena, and
the one that it gives in any other place of any other such batch: neither the other rows nor the place of a row counts,
nor what the provider did before. -/
theorem evaluate_row_alone {σ : Type} {p : Provider σ} {h : Handle} {f : Network} (hp : RowWise p h f) {a : Arena}
    {n : Nat} {ps : List Prediction} (hb : Batch h f a n ps) (s : σ) :
    (evaluate p s h a n ps).outcome = .ok () ∧
      ∀ r < n, ∀ old, ps[r]? = some old → ∃ q, (evaluate p s h a n ps).records[r]? = some q ∧
        (∀ b t alone, b.AllocatedFor h → alone.Fits h → alone.owner.isSome = old.owner.isSome →
          ∃ c, a.copyInputs r b = .ok c ∧ (evaluate p t h c 1 [alone]).outcome = .ok () ∧
            (evaluate p t h c 1 [alone]).records = [q]) ∧
        ∀ b t m qs, Batch h f b m qs → ∀ i < m, ∀ other, qs[i]? = some other → SameRow a r b i →
          other.owner.isSome = old.owner.isSome → (evaluate p t h b m qs).records[i]? = some q := by
  refine ⟨(evaluate_rowWise hp hb s).1, fun r hr old hold => ?_⟩
  obtain ⟨q, hq, -⟩ := (evaluate_rowWise hp hb s).2.1 r hr old hold
  refine ⟨q, hq, fun b t alone hbh hfit howner => ?_, fun b t m qs hb' i hi other hother hsame howner => ?_⟩
  · obtain ⟨c, hc, hch, hsame⟩ := Arena.copyInputs_eq_ok hb.arena hbh (Nat.lt_of_lt_of_le hr hb.le_rows)
    have halone := hb.alone hch hsame hr hfit
    obtain ⟨hok, -, hrest⟩ := evaluate_rowWise hp halone t
    refine ⟨c, hc, hok, ?_⟩
    apply List.ext_getElem?
    intro i
    cases i with
    | zero => exact evaluate_sameRow hp hb halone hsame hr Nat.one_pos hold rfl howner hq
    | succ i => exact hrest (i + 1) (Nat.le_add_left 1 i)
  · exact evaluate_sameRow hp hb hb' hsame hr hi hold hother howner hq

/-- two different rows of a one-cell board -/
theorem evaluate_row_alone_oneCell :
    let h := Handle.oneCell (Descriptor.oldest "m" 2 (by decide)) 2 (by decide)
    let f : Network := fun spatial global _ =>
      let w := (spatial[0]?).getD zero
      ⟨#[w, zero, w, zero], #[one, w, zero], #[w, (global[0]?).getD zero], #[w]⟩
    let p : Prediction := ⟨1, 1, zero, zero, zero, zero, zero, #[zero, zero], none⟩
    ∃ a : Arena, (a.rowOf .spatial 0)[0]? = some zero ∧ (a.rowOf .spatial 1)[0]? = some one ∧
      (evaluate (Provider.ofNetwork f) () h a 2 [p, p]).outcome = .ok () ∧
      ∃ q, (evaluate (Provider.ofNetwork f) () h a 2 [p, p]).records[1]? = some q ∧
        ∀ b, b.AllocatedFor h → ∃ c, a.copyInputs 1 b = .ok c ∧
          (evaluate (Provider.ofNetwork f) () h c 1 [p]).outcome = .ok () ∧
          (evaluate (Provider.ofNetwork f) () h c 1 [p]).records = [q] := by
  intro h f p
  have hp : RowWise (Provider.ofNetwork f) h f := by
    refine ⟨fun spatial global flags k => ?_, fun s v _ => rfl⟩
    cases k <;> rfl
  have hfits : ∀ r < 2, ∀ q, [p, p][r]? = some q → q.Fits h := by
    intro r hr q hq
    have hmem : q ∈ [p, p] := List.mem_of_getElem? hq
    have hqp : q = p := by simpa using hmem
    rw [hqp]
    exact ⟨rfl, rfl, rfl, fun map hmap => by cases hmap⟩
  have hb : Batch h f (Arena.oneCell.run [.write .spatial 1 0 #[one]]) 2 [p, p] := by
    refine ⟨⟨Arena.run_oneCell_ofModel "m" Nat.two_pos _, rfl, rfl, Nat.le_refl 2⟩, Nat.two_pos, Nat.le_refl 2,
      Nat.le_refl 2, hfits, fun k => ?_, fun r hr win hwin => ?_⟩
    · cases k <;> decide
    · have hone : one = win := Option.some.inj hwin
      rw [← hone]
      decide
  obtain ⟨hok, hrows⟩ := evaluate_row_alone hp hb ()
  obtain ⟨q, hq, halone, -⟩ := hrows 1 Nat.one_lt_two p rfl
  exact ⟨_, rfl, rfl, hok, q, hq, fun b hbh => halone b () p hbh (hfits 1 Nat.one_lt_two p rfl) rfl⟩

end BatchEval
