/-
Results decoded into an arena, and the two ways to decode a batch compared. `Decoder.decode` writes predictions and
`Decoder.stage` writes the result lanes of an arena: they go through the rows in loops of their own, copy from rows of
other widths, and keep the mean of squares in different ways.

- `stageRow_eq_ok`, `stageRows_reads`, `stage_reads`: each row of the arena is read from the raw rows with its number.
- `decode_stage_agree`: both stop with the same fault or with none, and then hold the same numbers.
-/
import BatchEval.Proofs.Arena
import BatchEval.Proofs.Decoding

namespace BatchEval

open Word (zero one infinity)

/-! ## Rows of results -/

namespace Arena

variable {a : Arena} {model : Descriptor} {r n : Nat}

/-- the results of a row -/
def stagedOf (a : Arena) (r : Nat) : StagedRow where
  policy := a.rowOf .policy r
  value := a.rowOf .value r
  score := a.rowOf .score r
  ownership := a.rowOf .ownership r
  layout := a.layout

theorem staged_eq_ok (h : a.MadeFor model) (hr : r < a.rows) : a.staged r = .ok (a.stagedOf r) := by
  simp only [staged, row_eq_ok h hr, Checked.ok_bind]
  rfl

/-- results read from raw rows; the mean of squares is there only if the layout has one -/
structure StagedRow.ReadFrom (s : StagedRow) (part : RawBatch) : Prop where
  value : s.value = part.value
  policy : ∀ i < s.policy.size, s.policy[i]? = part.policy[2 * i]?
  ownership : s.ownership = part.ownership
  mean : s.score[0]? = part.misc[0]?
  meanSq : s.layout = .meanAndSecondMoment → s.score[1]? = part.misc[1]?

/-- the four result rows with one number, replaced -/
def setResult (a : Arena) (r : Nat) (s : StagedRow) : Arena :=
  (((a.setRow .value r s.value).setRow .policy r s.policy).setRow .ownership r s.ownership).setRow .score r s.score

/-- only the words of the result lanes are replaced -/
theorem setResult_frame (a : Arena) (r : Nat) (s : StagedRow) :
    (a.setResult r s).rows = a.rows ∧ (a.setResult r s).counts = a.counts ∧ (a.setResult r s).layout = a.layout ∧
      (a.setResult r s).x = a.x ∧ (a.setResult r s).y = a.y := by
  simp only [setResult, rows_setRow, counts_setRow, layout_setRow, x_setRow, y_setRow, and_self]

/-- results that fill the row of an arena -/
structure StagedRow.Fills (s : StagedRow) (a : Arena) (r : Nat) : Prop where
  value : a.RowFits .value r s.value
  policy : a.RowFits .policy r s.policy
  ownership : a.RowFits .ownership r s.ownership
  score : a.RowFits .score r s.score

/-- results that fill a row are put into it, one lane after another, and show in that row and in the result lanes only -/
theorem setResult_spec {s : StagedRow} (h : a.MadeFor model) (hs : s.Fills a r) :
    (a.setResult r s).MadeFor model ∧
      a.replaceLanes r
        [(.value, .ok s.value), (.policy, .ok s.policy), (.ownership, .ok s.ownership), (.score, .ok s.score)] =
          (a.setResult r s, .ok ()) ∧
      ∀ i, (a.setResult r s).stagedOf i = if i = r then { s with layout := a.layout } else a.stagedOf i := by
  have h1 := setRow_madeFor h hs.value
  have h2 := setRow_madeFor h1 hs.policy.setRow
  have h3 := setRow_madeFor h2 hs.ownership.setRow.setRow
  refine ⟨setRow_madeFor h3 hs.score.setRow.setRow.setRow, ?_, fun i => ?_⟩
  · rw [replaceLanes_cons h hs.value, replaceLanes_cons h1 hs.policy.setRow,
      replaceLanes_cons h2 hs.ownership.setRow.setRow, replaceLanes_cons h3 hs.score.setRow.setRow.setRow]
    rfl
  · have hrow := fun k => calc
      (a.setResult r s).rowOf k i
        = if k = .score ∧ i = r then s.score else _ := rowOf_setRow h3 hs.score.setRow.setRow.setRow k i
      _ = if k = .score ∧ i = r then s.score else if k = .ownership ∧ i = r then s.ownership else _ := by
          rw [rowOf_setRow h2 hs.ownership.setRow.setRow k i]
      _ = if k = .score ∧ i = r then s.score else if k = .ownership ∧ i = r then s.ownership else
            if k = .policy ∧ i = r then s.policy else if k = .value ∧ i = r then s.value else a.rowOf k i := by
          rw [rowOf_setRow h1 hs.policy.setRow k i, rowOf_setRow h hs.value k i]
    have hlayout := (setResult_frame a r s).2.2.1
    by_cases hir : i = r
    · subst hir
      simp [stagedOf, hrow, hlayout]
    · rw [if_neg hir]
      simp [stagedOf, hrow, hlayout, hir]

end Arena

/-! ## Decoding into an arena -/

namespace Decoder

variable {h : Handle} {raw part : RawBatch} {a b : Arena} {model : Descriptor} {n r : Nat}

/-- an arena with a handle's board and score layout, of whatever model -/
structure Accepts (h : Handle) (a : Arena) : Prop where
  x_eq : a.x = h.x
  y_eq : a.y = h.y
  layout_eq : a.layout = h.model.layout

theorem checkArena_eq_ok_iff : h.decoder.checkArena n a = .ok () ↔ Accepts h a ∧ n ≤ a.rows := by
  simp only [checkArena, Checked.refuse_bind_eq_ok_iff, Checked.refuse_eq_ok_iff, pure, Except.pure, and_true]
  refine ⟨?_, ?_⟩
  · intro hok
    obtain ⟨hxy, hn, hl⟩ := hok
    obtain ⟨hx, hy⟩ := not_or.1 hxy
    exact ⟨⟨Decidable.not_not.1 hx, Decidable.not_not.1 hy, Decidable.not_not.1 hl⟩, Nat.le_of_not_lt hn⟩
  · intro hcond
    obtain ⟨hacc, hn⟩ := hcond
    exact ⟨not_or.2 ⟨not_not_intro hacc.x_eq, not_not_intro hacc.y_eq⟩, Nat.not_lt.2 hn, not_not_intro hacc.layout_eq⟩

/-- the score row of a layout takes the mean, and the mean of squares if it has a place for it -/
theorem scoreRow_eq_ok {layout : ScoreLayout} {old misc : Array Word} {mean meanSq : Word}
    (hold : old.size = layout.channels) (hscore : layout.decode misc = .ok (mean, meanSq)) :
    ∃ score, scoreRow old mean meanSq = .ok score ∧ score.size = old.size ∧ score[0]? = misc[0]? ∧
      (layout = .meanAndSecondMoment → score[1]? = misc[1]?) := by
  obtain ⟨hmean, hsq⟩ := ScoreLayout.decode_eq_ok_iff.1 hscore
  have h0 : 0 < old.size := by
    rw [hold]
    exact layout.channels_pos
  refine ⟨(old.setIfInBounds 0 mean).setIfInBounds 1 meanSq, ?_, by simp, ?_, fun hl => ?_⟩
  · simp only [scoreRow, Flat.item_eq_ok_iff.2 (Array.getElem?_eq_getElem h0), Checked.ok_bind]
    rfl
  · rw [hmean, Array.getElem?_setIfInBounds_ne (by decide), Array.getElem?_setIfInBounds_self_of_lt h0]
  · subst hl
    rw [show misc[1]? = some meanSq from hsq]
    exact Array.getElem?_setIfInBounds_self_of_lt (by rw [Array.size_setIfInBounds, hold]; decide)

/-- one row: its results are replaced by what its raw rows hold, and nothing can stop that -/
theorem stageRow_eq_ok (ha : a.MadeFor model) (hacc : Accepts h a) (hr : r < a.rows)
    (hrow : raw.row h.rawWidths r = .ok part) :
    ∃ s : Arena.StagedRow, h.decoder.stageRow raw r a = (a.setResult r s, .ok ()) ∧ s.Fills a r ∧
      s.layout = a.layout ∧ s.ReadFrom part := by
  obtain ⟨-, hsize⟩ := RawBatch.blocks_of_row_eq_ok hrow
  have hpolicy : (a.rowOf .policy r).size = a.counts.policy := Arena.size_rowOf ha hr
  have hvalue : part.value.size = a.counts.value := by
    rw [ha.value_eq]
    exact (hsize .value).trans h.model.value_eq
  have hown : part.ownership.size = a.counts.ownership := by
    rw [ha.ownership_eq, hacc.x_eq, hacc.y_eq]
    exact hsize .ownership
  have hwide : 2 * a.counts.policy = part.policy.size := by
    rw [ha.policy_eq, hacc.x_eq, hacc.y_eq, Nat.add_comm]
    exact (hsize .policy).symm
  have hold : (a.rowOf .score r).size = h.model.layout.channels := by
    rw [← hacc.layout_eq, ← ha.score_eq]
    exact Arena.size_rowOf ha hr
  obtain ⟨mean, meanSq, hscore⟩ : ∃ mean meanSq, h.decoder.layout.decode part.misc = .ok (mean, meanSq) :=
    ScoreLayout.decode_ok (Nat.le_trans h.model.layout_le_misc (Nat.le_of_eq (hsize .misc).symm))
  obtain ⟨score, hsr, hssize, hmean, hsq⟩ := scoreRow_eq_ok hold hscore
  have hfront : Flat.front part.value (a.rowOf .value r).size = .ok part.value := by
    have hv : (a.rowOf .value r).size = part.value.size := (Arena.size_rowOf ha hr).trans hvalue.symm
    rw [hv]
    exact Flat.slice_eq_ok_iff.2 ⟨Nat.le_refl _, Array.extract_size⟩
  obtain ⟨s, hsdef⟩ : ∃ s : Arena.StagedRow,
      s = ⟨Flat.takeEven part.policy (a.rowOf .policy r), part.value, score, part.ownership, a.layout⟩ := ⟨_, rfl⟩
  have hs : s.Fills a r := by
    rw [hsdef]
    exact ⟨⟨hr, hvalue⟩, ⟨hr, (Flat.size_takeEven _ _).trans hpolicy⟩, ⟨hr, hown⟩,
      ⟨hr, hssize.trans (Arena.size_rowOf ha hr)⟩⟩
  refine ⟨s, ?_, hs, ?_, ?_⟩
  · rw [← (Arena.setResult_spec ha hs).2.1, hsdef]
    have hread : (do pure (← raw.row h.decoder.widths r, ← a.staged r)) =
        (.ok (part, a.stagedOf r) : Except Fault (RawBatch × Arena.StagedRow)) := by
      rw [show raw.row h.decoder.widths r = .ok part from hrow, Arena.staged_eq_ok ha hr]
      rfl
    simp only [stageRow, hread, Arena.stagedOf, hfront, hscore, hsr, Checked.ok_bind]
    rfl
  · rw [hsdef]
  · rw [hsdef]
    refine ⟨rfl, fun i hi => ?_, rfl, hmean, fun hl => hsq (hacc.layout_eq.symm.trans hl)⟩
    have hi' : i < a.counts.policy := by
      rw [← hpolicy, ← Flat.size_takeEven part.policy (a.rowOf .policy r)]
      exact hi
    exact Flat.getElem?_takeEven (by omega) (by omega)

/-- staged rows: each row in the range is read from the raw rows with its number, and the rows before stay -/
theorem stageRows_reads (ha : a.MadeFor model) (hacc : Accepts h a) (count : Nat) (hle : r + count ≤ a.rows)
    (hrows : ∀ i, r ≤ i → i < r + count → raw.row h.rawWidths i = .ok (raw.blocks h.rawWidths i)) :
    ∃ b, h.decoder.stageRows raw r count a = (b, .ok ()) ∧ b.MadeFor model ∧ b.rows = a.rows ∧
      (∀ i, r ≤ i → i < r + count → (b.stagedOf i).policy.size = a.counts.policy ∧ (b.stagedOf i).layout = a.layout ∧
        (b.stagedOf i).ReadFrom (raw.blocks h.rawWidths i)) ∧
      ∀ i < r, b.stagedOf i = a.stagedOf i := by
  induction count generalizing r a with
  | zero => exact ⟨a, rfl, ha, rfl, fun i h1 h2 => absurd h1 (Nat.not_le.2 h2), fun i _ => rfl⟩
  | succ count ih =>
    have hr : r < a.rows := by omega
    obtain ⟨s, hs, hfills, hlayout, hread⟩ := stageRow_eq_ok ha hacc hr (hrows r (Nat.le_refl _) (by omega))
    obtain ⟨ha', -, hstaged⟩ := Arena.setResult_spec ha hfills
    obtain ⟨hrows', hcounts', hlayout', hx', hy'⟩ := Arena.setResult_frame a r s
    have hacc' : Accepts h (a.setResult r s) :=
      ⟨hx'.trans hacc.x_eq, hy'.trans hacc.y_eq, hlayout'.trans hacc.layout_eq⟩
    have hle' : r + 1 + count ≤ (a.setResult r s).rows := by omega
    obtain ⟨b, hb, hmade, hbrows, hin, hout⟩ := ih ha' hacc' hle' fun i h1 h2 => hrows i (by omega) (by omega)
    rw [hcounts', hlayout'] at hin
    refine ⟨b, ?_, hmade, hbrows.trans hrows', fun i h1 h2 => ?_, fun i hi => ?_⟩
    · simp only [stageRows, hs]
      exact hb
    · by_cases hir : i = r
      · -- the row just written is not touched again, so the rest of the loop leaves its results
        rw [hir, hout r (Nat.lt_succ_self r), hstaged, if_pos rfl, ← hlayout]
        exact ⟨hfills.policy.size_eq, rfl, hread⟩
      · exact hin i (by omega) (by omega)
    · rw [hout i (by omega), hstaged, if_neg (Nat.ne_of_lt hi)]

/-- an admitted batch is staged row by row into every arena that accepts it -/
theorem stage_reads (ha : a.MadeFor model) (hacc : Accepts h a) (had : Admits h raw n) (hn : n ≤ a.rows) :
    (h.decoder.stage raw n a).2 = .ok () ∧ ∀ r < n, ∃ s, (h.decoder.stage raw n a).1.staged r = .ok s ∧
      s.policy.size = a.counts.policy ∧ s.layout = a.layout ∧ s.ReadFrom (raw.blocks h.rawWidths r) := by
  have hcheck : (do h.decoder.checkBatch raw n; h.decoder.checkArena n a) = .ok () :=
    Checked.bind_eq_ok_iff.2 ⟨(), checkBatch_eq_ok_iff.2 had, checkArena_eq_ok_iff.2 ⟨hacc, hn⟩⟩
  obtain ⟨b, hb, hmade, hbrows, hin, -⟩ := stageRows_reads (r := 0) ha hacc n (by omega)
    fun i _ hi => had.row_eq_ok (by omega)
  have hstage : h.decoder.stage raw n a = (b, .ok ()) := by
    unfold stage
    rw [hcheck]
    exact hb
  rw [hstage]
  refine ⟨rfl, fun r hr => ⟨b.stagedOf r, Arena.staged_eq_ok hmade ?_, hin r (Nat.zero_le _) (by omega)⟩⟩
  exact Nat.lt_of_lt_of_le hr (Nat.le_trans hn (Nat.le_of_eq hbrows.symm))

end Decoder

/-! ## The two ways to decode -/

/-- a row of results and a prediction hold the same numbers -/
structure Arena.StagedRow.Agrees (s : StagedRow) (q : Prediction) : Prop where
  policy : s.policy = q.policy
  ownership : q.owner = some s.ownership
  win : s.win = .ok q.win
  loss : s.loss = .ok q.loss
  noResult : s.noResult = .ok q.noResult
  mean : s.mean = .ok q.mean
  meanSq : s.meanSq = .ok q.meanSq

/-- what is read from the same raw rows agrees, whichever way the mean of squares is kept -/
theorem Arena.StagedRow.ReadFrom.agrees {s : StagedRow} {part : RawBatch} {p q : Prediction}
    (hs : s.ReadFrom part) (hq : p.ReadFrom s.layout part q) (hsize : s.policy.size = p.policy.size)
    (howner : p.owner.isSome) : s.Agrees q := by
  have hmean : s.score[0]? = some q.mean := hs.mean.trans hq.mean
  refine ⟨?_, ?_, ?_, ?_, ?_, Flat.item_eq_ok_iff.2 hmean, ?_⟩
  · apply Array.ext_getElem?
    intro i
    by_cases hi : i < s.policy.size
    · rw [hs.policy i hi, hq.policy i (by omega)]
    · rw [Array.getElem?_eq_none (by omega), Array.getElem?_eq_none (by rw [hq.policy_size]; omega)]
  · obtain ⟨map, hmap⟩ := Option.isSome_iff_exists.1 howner
    rw [hq.owner, hmap, hs.ownership]
    rfl
  · exact Flat.item_eq_ok_iff.2 (by rw [hs.value]; exact hq.win)
  · exact Flat.item_eq_ok_iff.2 (by rw [hs.value]; exact hq.loss)
  · exact Flat.item_eq_ok_iff.2 (by rw [hs.value]; exact hq.noResult)
  · have hsq := hq.meanSq
    unfold Arena.StagedRow.meanSq
    cases hl : s.layout with
    | meanOnly =>
      rw [hl] at hsq
      simp only [Flat.item_eq_ok_iff.2 hmean, Functor.map, Except.map]
      exact congrArg Except.ok hsq.symm
    | meanAndSecondMoment =>
      rw [hl] at hsq
      exact Flat.item_eq_ok_iff.2 ((hs.meanSq hl).trans hsq)

/-- **Both ways to decode agree.** For predictions that fit the handle and want an ownership map, and any arena with the
handle's board and score layout that holds the batch, `decode` and `stage` stop with the same fault or with none. When
they stop with none, each staged row holds the numbers of the prediction with its number. -/
theorem decode_stage_agree {h : Handle} {model : Descriptor} {a : Arena} (ha : a.OfModel model) (hx : a.x = h.x)
    (hy : a.y = h.y) (hlayout : a.layout = h.model.layout) (raw : RawBatch) {n : Nat} (hn : n ≤ a.rows)
    {ps : List Prediction} (hlen : n ≤ ps.length)
    (hfit : ∀ r < n, ∀ p, ps[r]? = some p → p.Fits h ∧ p.owner.isSome) :
    ∃ d, Decoder.ofHandle h = .ok d ∧ (d.decode raw n ps).2 = (d.stage raw n a).2 ∧
      ((d.decode raw n ps).2 = .ok () → ∀ r < n, ∃ q s, (d.decode raw n ps).1[r]? = some q ∧
        (d.stage raw n a).1.staged r = .ok s ∧ s.Agrees q) := by
  have hmade := ha.madeFor
  have hacc : Decoder.Accepts h a := ⟨hx, hy, hlayout⟩
  have hpolicy : a.counts.policy = h.policySize := by
    rw [hmade.policy_eq, hx, hy, Nat.add_comm]
    rfl
  -- an arena for the board exists, so the doubled policy row of the handle fits
  have hwide : 2 * h.policySize < Size.limit := by
    have hlimit : 2 * Size.maxWords + 2 < Size.limit := by decide
    have harea := hmade.area_lt
    rw [← hpolicy, hmade.policy_eq]
    omega
  refine ⟨h.decoder, Decoder.ofHandle_eq_ok_iff.2 ⟨hwide, rfl⟩, ?_⟩
  cases hcheck : h.decoder.checkBatch raw n with
  | error f =>
    have hdecode : h.decoder.decode raw n ps = (ps, .error f) := by
      unfold Decoder.decode
      rw [hcheck]
    have hstage : h.decoder.stage raw n a = (a, .error f) := by
      unfold Decoder.stage
      rw [hcheck]
      rfl
    rw [hdecode, hstage]
    exact ⟨rfl, fun hok => by cases hok⟩
  | ok u =>
    have had := Decoder.checkBatch_eq_ok_iff.1 hcheck
    have hok : (h.decoder.decode raw n ps).2 = .ok () :=
      Decoder.decode_ok_iff.2 ⟨had, hlen, fun r hr p hp => (hfit r hr p hp).1⟩
    obtain ⟨hstage, hrows⟩ := Decoder.stage_reads hmade hacc had hn
    refine ⟨hok.trans hstage.symm, fun _ r hr => ?_⟩
    have hp := List.getElem?_eq_getElem (Nat.lt_of_lt_of_le hr hlen)
    obtain ⟨hpfit, howner⟩ := hfit r hr _ hp
    obtain ⟨-, q, hq, hread⟩ := (Decoder.decode_reads hok).1 r hr _ hp
    obtain ⟨s, hs, hsize, hsl, hsread⟩ := hrows r hr
    rw [← hlayout, ← hsl] at hread
    exact ⟨q, s, hq, hs, hsread.agrees hread ((hsize.trans hpolicy).trans hpfit.policy_size.symm) howner⟩

/-- two rows of a one-cell board and a model without a mean of squares -/
theorem decode_stage_agree_oneCell :
    let h := Handle.oneCell (Descriptor.oldest "m" 2 (by decide)) 2 (by decide)
    let raw : RawBatch := ⟨#[one, zero, one, one, zero, zero, one, zero], #[one, zero, zero, zero, one, zero],
      #[one, zero, infinity, zero], #[zero, one]⟩
    let p : Prediction := ⟨1, 1, zero, zero, zero, zero, zero, #[zero, zero], some #[zero]⟩
    ∃ a : Arena, a.OfModel h.model ∧ a.symmetries.flipX = true ∧ ∃ d, Decoder.ofHandle h = .ok d ∧
      (d.stage raw 2 a).2 = .ok () ∧ ∀ r < 2, ∃ q s, (d.decode raw 2 [p, p]).1[r]? = some q ∧
        (d.stage raw 2 a).1.staged r = .ok s ∧ s.Agrees q := by
  intro h raw p
  have hmodel : (Arena.oneCell.run [.flag { flipX := true }]).OfModel h.model := Arena.run_oneCell_ofModel "m" Nat.two_pos _
  have hfits : p.Fits h := ⟨rfl, rfl, rfl, fun map hmap => by cases hmap; rfl⟩
  have hps : ∀ r < 2, ∀ q, [p, p][r]? = some q → q.Fits h ∧ q.owner.isSome := by
    intro r hr q hq
    have hmem : q ∈ [p, p] := List.mem_of_getElem? hq
    have hqp : q = p := by simpa using hmem
    rw [hqp]
    exact ⟨hfits, rfl⟩
  have hlen : 2 ≤ [p, p].length := Nat.le_refl 2
  obtain ⟨d, hd, hsame, hagree⟩ := decode_stage_agree hmodel rfl rfl rfl raw (Nat.le_refl 2) hlen hps
  have hholds : raw.Holds h.rawWidths 2 := fun k => by cases k <;> decide
  have had : Decoder.Admits h raw 2 := ⟨Nat.two_pos, Nat.le_refl 2, hholds, one, rfl, by decide⟩
  have hdecode : (d.decode raw 2 [p, p]).2 = .ok () := by
    rw [← (Decoder.ofHandle_eq_ok_iff.1 hd).2]
    exact Decoder.decode_ok_iff.2 ⟨had, hlen, fun r hr q hq => (hps r hr q hq).1⟩
  exact ⟨_, hmodel, rfl, d, hd, hsame.symm.trans hdecode, hagree hdecode⟩

end BatchEval
