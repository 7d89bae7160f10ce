/-
Predictions decoded from raw rows. Each prediction is read from the rows with its own number and from nothing else; it
keeps its board, the length of its policy and the absence of an ownership map.

- `Prediction.ReadFrom`: what a prediction holds once its row was decoded; `ReadFrom.unique`: nothing is left open.
- `reads_of_decodeRow`, `decodeRow_ok`: one row is decoded exactly when its prediction fits the handle.
- `decode_ok_iff`, `decode_reads`: when a batch is decoded, and into what.
-/
import BatchEval.Proofs.Blocks
import BatchEval.Proofs.Sizes

namespace BatchEval

/-! ## What a decoded prediction holds -/

/-- how a misc row encodes the mean of squares that goes with a mean -/
def ScoreLayout.Second (layout : ScoreLayout) (misc : Array Word) (mean meanSq : Word) : Prop :=
  match layout with
  | .meanOnly => meanSq = mean.square
  | .meanAndSecondMoment => misc[1]? = some meanSq

namespace Prediction

/-- the prediction is one for the handle's board -/
structure Fits (p : Prediction) (h : Handle) : Prop where
  x_eq : p.x = h.x
  y_eq : p.y = h.y
  policy_size : p.policy.size = h.policySize
  owner_size : ∀ map, p.owner = some map → map.size = h.area

/-- `new` is `old` with every number read from the rows `part` -/
structure ReadFrom (old : Prediction) (layout : ScoreLayout) (part : RawBatch) (new : Prediction) : Prop where
  x_eq : new.x = old.x
  y_eq : new.y = old.y
  win : part.value[0]? = some new.win
  loss : part.value[1]? = some new.loss
  noResult : part.value[2]? = some new.noResult
  policy_size : new.policy.size = old.policy.size
  /-- the even places of the policy row -/
  policy : ∀ i < old.policy.size, new.policy[i]? = part.policy[2 * i]?
  owner : new.owner = old.owner.map fun _ => part.ownership
  mean : part.misc[0]? = some new.mean
  meanSq : layout.Second part.misc new.mean new.meanSq

/-- the rows and the prediction before decide the prediction after -/
theorem ReadFrom.unique {old new new' : Prediction} {layout : ScoreLayout} {part : RawBatch}
    (h : old.ReadFrom layout part new) (h' : old.ReadFrom layout part new') : new = new' := by
  have hwin : new.win = new'.win := Option.some.inj (h.win.symm.trans h'.win)
  have hloss : new.loss = new'.loss := Option.some.inj (h.loss.symm.trans h'.loss)
  have hno : new.noResult = new'.noResult := Option.some.inj (h.noResult.symm.trans h'.noResult)
  have hmean : new.mean = new'.mean := Option.some.inj (h.mean.symm.trans h'.mean)
  have hsq : new.meanSq = new'.meanSq := by
    have h1 := h.meanSq
    have h2 := h'.meanSq
    cases layout with
    | meanOnly => exact h1.trans ((congrArg Word.square hmean).trans h2.symm)
    | meanAndSecondMoment => exact Option.some.inj (h1.symm.trans h2)
  have hpolicy : new.policy = new'.policy := by
    apply Array.ext_getElem?
    intro i
    by_cases hi : i < old.policy.size
    · rw [h.policy i hi, h'.policy i hi]
    · rw [Array.getElem?_eq_none (by rw [h.policy_size]; omega), Array.getElem?_eq_none (by rw [h'.policy_size]; omega)]
  have howner : new.owner = new'.owner := h.owner.trans h'.owner.symm
  have hx : new.x = new'.x := h.x_eq.trans h'.x_eq.symm
  have hy : new.y = new'.y := h.y_eq.trans h'.y_eq.symm
  cases new
  cases new'
  simp_all

/-- of the prediction before only the shape counts: whether it fits a handle, and whether it wants an ownership map -/
theorem ReadFrom.of_fits {old old' new : Prediction} {h : Handle} {layout : ScoreLayout} {part : RawBatch}
    (hread : old.ReadFrom layout part new) (hfit : old.Fits h) (hfit' : old'.Fits h)
    (howner : old'.owner.isSome = old.owner.isSome) : old'.ReadFrom layout part new := by
  have hpolicy : old'.policy.size = old.policy.size := hfit'.policy_size.trans hfit.policy_size.symm
  refine ⟨hread.x_eq.trans (hfit.x_eq.trans hfit'.x_eq.symm), hread.y_eq.trans (hfit.y_eq.trans hfit'.y_eq.symm),
    hread.win, hread.loss, hread.noResult, hread.policy_size.trans hpolicy.symm, ?_, ?_, hread.mean, hread.meanSq⟩
  · rw [hpolicy]
    exact hread.policy
  · rw [hread.owner]
    cases ho : old.owner with
    | none =>
      rw [ho] at howner
      have hnone : old'.owner = none := by simpa using howner
      rw [hnone]
    | some map =>
      rw [ho] at howner
      obtain ⟨map', hmap'⟩ := Option.isSome_iff_exists.1 howner
      rw [hmap']
      rfl

end Prediction

/-! ## The parts of a row -/

theorem Flat.getElem?_takeEven {source target : Array Word} {i : Nat} (ht : i < target.size)
    (hs : 2 * i < source.size) : (takeEven source target)[i]? = source[2 * i]? := by
  simp [takeEven, ht, hs]

theorem outcomes_eq_ok_iff {value : Array Word} {win loss noResult : Word} :
    outcomes value = .ok (win, loss, noResult) ↔
      value[0]? = some win ∧ value[1]? = some loss ∧ value[2]? = some noResult := by
  simp only [outcomes, Checked.bind_eq_ok_iff, Flat.item_eq_ok_iff, pure, Except.pure, Except.ok.injEq, Prod.mk.injEq]
  refine ⟨fun ⟨a, ha, b, hb, c, hc, h1, h2, h3⟩ => ?_, fun ⟨h1, h2, h3⟩ => ⟨_, h1, _, h2, _, h3, rfl, rfl, rfl⟩⟩
  subst h1 h2 h3
  exact ⟨ha, hb, hc⟩

/-- a value row with its three channels can be decoded -/
theorem outcomes_ok {value : Array Word} (h : value.size = 3) :
    ∃ win loss noResult, outcomes value = .ok (win, loss, noResult) :=
  ⟨_, _, _, outcomes_eq_ok_iff.2
    ⟨Array.getElem?_eq_getElem (by omega), Array.getElem?_eq_getElem (by omega), Array.getElem?_eq_getElem (by omega)⟩⟩

theorem ScoreLayout.decode_eq_ok_iff {layout : ScoreLayout} {misc : Array Word} {mean meanSq : Word} :
    layout.decode misc = .ok (mean, meanSq) ↔ misc[0]? = some mean ∧ layout.Second misc mean meanSq := by
  cases layout with
  | meanOnly =>
    simp only [ScoreLayout.decode, Second, Checked.bind_eq_ok_iff, Flat.item_eq_ok_iff, pure, Except.pure,
      Except.ok.injEq, Prod.mk.injEq]
    refine ⟨fun ⟨m, hm, h1, h2⟩ => ?_, fun ⟨hm, h2⟩ => ⟨mean, hm, rfl, h2.symm⟩⟩
    subst h1
    exact ⟨hm, h2.symm⟩
  | meanAndSecondMoment =>
    simp only [ScoreLayout.decode, Second, Checked.bind_eq_ok_iff, Flat.item_eq_ok_iff, pure, Except.pure,
      Except.ok.injEq, Prod.mk.injEq]
    refine ⟨fun ⟨m, hm, s, hs, h1, h2⟩ => ?_, fun ⟨hm, hs⟩ => ⟨mean, hm, meanSq, hs, rfl, rfl⟩⟩
    subst h1 h2
    exact ⟨hm, hs⟩

/-- a misc row with the layout's channels can be decoded -/
theorem ScoreLayout.decode_ok {layout : ScoreLayout} {misc : Array Word} (h : layout.channels ≤ misc.size) :
    ∃ mean meanSq, layout.decode misc = .ok (mean, meanSq) := by
  have h0 : 0 < misc.size := Nat.lt_of_lt_of_le layout.channels_pos h
  cases layout with
  | meanOnly => exact ⟨_, _, ScoreLayout.decode_eq_ok_iff.2 ⟨Array.getElem?_eq_getElem h0, rfl⟩⟩
  | meanAndSecondMoment => exact ⟨_, _, ScoreLayout.decode_eq_ok_iff.2
      ⟨Array.getElem?_eq_getElem h0, Array.getElem?_eq_getElem (show 1 < misc.size from h)⟩⟩

namespace Decoder

variable {h : Handle} {raw part : RawBatch} {n r : Nat} {p q : Prediction}

theorem checkRecord_eq_ok_iff {d : Decoder} : d.checkRecord r p = .ok () ↔
    (p.x = d.handle.x ∧ p.y = d.handle.y) ∧ p.policy.size = d.handle.policySize := by
  simp [checkRecord, Checked.refuse_bind_eq_ok_iff, pure, Except.pure]

/-- every model has one ownership channel, so only the size of the map can be wrong -/
theorem decodeOwner_some {d : Decoder} {ownership map : Array Word} : d.decodeOwner r ownership (some map) =
    if map.size ≠ d.handle.area then .error (.ownershipSize r map.size d.handle.area)
    else some <$> Flat.replaceAll map ownership := by
  simp only [decodeOwner, d.handle.model.ownership_eq]
  rfl

theorem decodeOwner_eq_ok_iff {d : Decoder} {ownership : Array Word} {owner new : Option (Array Word)}
    (hsize : ownership.size = d.handle.area) : d.decodeOwner r ownership owner = .ok new ↔
      (∀ map, owner = some map → map.size = d.handle.area) ∧ new = owner.map fun _ => ownership := by
  cases owner with
  | none => simp [decodeOwner, pure, Except.pure, eq_comm]
  | some map =>
    by_cases hm : map.size = d.handle.area
    · simp [decodeOwner_some, Flat.replaceAll, hm, hsize, Functor.map, Except.map, eq_comm]
    · simp [decodeOwner_some, hm]

/-- a row that was decoded fitted, and its prediction was read from the rows with its number -/
theorem reads_of_decodeRow (hq : h.decoder.decodeRow raw r p = (q, .ok ())) :
    p.Fits h ∧ raw.row h.rawWidths r = .ok (raw.blocks h.rawWidths r) ∧
      p.ReadFrom h.model.layout (raw.blocks h.rawWidths r) q := by
  unfold decodeRow at hq
  split at hq
  · cases hq
  rename_i part hpart
  obtain ⟨_, hcheck, hrow⟩ := Checked.bind_eq_ok_iff.1 hpart
  obtain ⟨⟨hx, hy⟩, hpolicy⟩ := checkRecord_eq_ok_iff.1 hcheck
  obtain ⟨hpart, hsize⟩ := RawBatch.blocks_of_row_eq_ok hrow
  split at hq
  · cases hq
  rename_i win loss noResult hvalue
  obtain ⟨hwin, hloss, hno⟩ := outcomes_eq_ok_iff.1 hvalue
  simp only at hq
  split at hq
  · cases hq
  rename_i owner howner
  obtain ⟨hmap, hnew⟩ := (decodeOwner_eq_ok_iff (hsize .ownership)).1 howner
  split at hq
  · cases hq
  rename_i mean meanSq hscore
  obtain ⟨hmean, hsq⟩ := ScoreLayout.decode_eq_ok_iff.1 hscore
  simp only [Prod.mk.injEq, and_true] at hq
  subst hq hpart
  refine ⟨⟨hx, hy, hpolicy, hmap⟩, hrow,
    ⟨rfl, rfl, hwin, hloss, hno, Flat.size_takeEven _ _, fun i hi => ?_, hnew, hmean, hsq⟩⟩
  have hwide : 2 * p.policy.size = (raw.blocks h.rawWidths r).policy.size := by
    rw [hpolicy]
    exact (hsize .policy).symm
  exact Flat.getElem?_takeEven hi (show 2 * i < (raw.blocks h.rawWidths r).policy.size by omega)

/-- a row that is there can be decoded into every prediction that fits -/
theorem decodeRow_ok (hfit : p.Fits h) (hrow : raw.row h.rawWidths r = .ok part) :
    ∃ q, h.decoder.decodeRow raw r p = (q, .ok ()) := by
  obtain ⟨-, hsize⟩ := RawBatch.blocks_of_row_eq_ok hrow
  have hcheck : (do h.decoder.checkRecord r p; raw.row h.decoder.widths r) = .ok part :=
    Checked.bind_eq_ok_iff.2 ⟨(), checkRecord_eq_ok_iff.2 ⟨⟨hfit.x_eq, hfit.y_eq⟩, hfit.policy_size⟩, hrow⟩
  have h3 : part.value.size = 3 := (hsize .value).trans h.model.value_eq
  obtain ⟨win, loss, noResult, hvalue⟩ := outcomes_ok h3
  have howner : h.decoder.decodeOwner r part.ownership p.owner = .ok (p.owner.map fun _ => part.ownership) :=
    (decodeOwner_eq_ok_iff (hsize .ownership)).2 ⟨hfit.owner_size, rfl⟩
  obtain ⟨mean, meanSq, hscore⟩ : ∃ mean meanSq, h.decoder.layout.decode part.misc = .ok (mean, meanSq) :=
    ScoreLayout.decode_ok (Nat.le_trans h.model.layout_le_misc (Nat.le_of_eq (hsize .misc).symm))
  unfold decodeRow
  rw [hcheck]
  simp only [hvalue, howner, hscore]
  exact ⟨_, rfl⟩

/-! ## The rows of a batch -/

/-- the rows of a batch are decoded when each of them can be -/
theorem decodeRows_ok {d : Decoder} {count : Nat} {ps : List Prediction} (hlen : count ≤ ps.length)
    (hrows : ∀ i < count, ∀ p, ps[i]? = some p → ∃ q, d.decodeRow raw (r + i) p = (q, .ok ())) :
    (d.decodeRows raw r count ps).2 = .ok () := by
  induction count generalizing r ps with
  | zero => simp [decodeRows]
  | succ count ih =>
    cases ps with
    | nil => exact absurd hlen (Nat.not_succ_le_zero _)
    | cons p ps =>
      obtain ⟨q, hq⟩ := hrows 0 (Nat.succ_pos _) p rfl
      simp only [decodeRows, show d.decodeRow raw r p = (q, .ok ()) from hq]
      apply ih (Nat.le_of_succ_le_succ hlen)
      intro i hi p' hp'
      obtain ⟨q', hq'⟩ := hrows (i + 1) (Nat.succ_lt_succ hi) p' hp'
      exact ⟨q', by rw [Nat.add_right_comm, Nat.add_assoc]; exact hq'⟩

/-- decoded rows: the first `count` predictions each come from one row, the others stay -/
theorem decodeRows_reads {d : Decoder} {count : Nat} {ps : List Prediction}
    (hok : (d.decodeRows raw r count ps).2 = .ok ()) :
    (∀ i < count, ∀ p, ps[i]? = some p → ∃ q, (d.decodeRows raw r count ps).1[i]? = some q ∧
      d.decodeRow raw (r + i) p = (q, .ok ())) ∧
    ∀ i, count ≤ i → (d.decodeRows raw r count ps).1[i]? = ps[i]? := by
  induction count generalizing r ps with
  | zero => exact ⟨fun i hi => absurd hi (Nat.not_lt_zero i), fun i _ => by simp [decodeRows]⟩
  | succ count ih =>
    cases ps with
    | nil => exact ⟨fun i _ p hp => by simp at hp, fun i _ => by simp [decodeRows]⟩
    | cons p ps =>
      cases hrow : d.decodeRow raw r p with
      | mk q outcome =>
        cases outcome with
        | error f =>
          simp only [decodeRows, hrow] at hok
          cases hok
        | ok u =>
          simp only [decodeRows, hrow] at hok ⊢
          obtain ⟨hread, hrest⟩ := ih hok
          refine ⟨fun i hi p' hp' => ?_, fun i hi => ?_⟩
          · cases i with
            | zero =>
              cases hp'
              exact ⟨q, rfl, hrow⟩
            | succ i =>
              obtain ⟨q', hq', hd⟩ := hread i (Nat.lt_of_succ_lt_succ hi) p' hp'
              exact ⟨q', hq', by rw [← hd, Nat.add_right_comm, Nat.add_assoc]⟩
          · cases i with
            | zero => exact absurd hi (Nat.not_succ_le_zero _)
            | succ i => exact hrest i (Nat.le_of_succ_le_succ hi)

/-! ## A batch -/

/-- what a handle admits as the raw outputs of a batch -/
structure Admits (h : Handle) (raw : RawBatch) (n : Nat) : Prop where
  pos : 0 < n
  le_rows : n ≤ h.rows
  holds : raw.Holds h.rawWidths n
  /-- the first win probability is a number -/
  number : ∃ win, raw.value[0]? = some win ∧ win.isNaN = false

theorem checkHead_eq_ok_iff {d : Decoder} {k : Head} : d.checkHead raw n k = .ok () ↔
    n * d.widths.get k < Size.limit ∧ n * d.widths.get k ≤ (raw.get k).size := by
  unfold checkHead
  simp only [Checked.bind_eq_ok_iff, Size.mul_eq_ok_iff]
  refine ⟨fun ⟨_, ⟨hfit, hm⟩, hs⟩ => ?_, fun ⟨hfit, hs⟩ => ⟨_, ⟨hfit, rfl⟩, if_pos hs⟩⟩
  subst hm
  split at hs
  · exact ⟨hfit, by assumption⟩
  · cases hs

theorem checkBatch_eq_ok_iff : h.decoder.checkBatch raw n = .ok () ↔ Admits h raw n := by
  have hheads : (∃ u, PerHead.build (h.decoder.checkHead raw n) = .ok u) ↔ raw.Holds h.rawWidths n :=
    ⟨fun ⟨u, hu⟩ k => checkHead_eq_ok_iff.1 (PerHead.build_eq_ok_iff.1 hu k),
      fun hholds => ⟨PerHead.replicate (), PerHead.build_eq_ok_iff.2 fun k => checkHead_eq_ok_iff.2 (hholds k)⟩⟩
  simp only [checkBatch, Checked.refuse_bind_eq_ok_iff, Checked.refuse_eq_ok_iff, Checked.bind_eq_ok_iff,
    Flat.item_eq_ok_iff, pure, Except.pure, and_true]
  refine ⟨?_, ?_⟩
  · intro hok
    obtain ⟨hpos, hle, u, hu, win, hwin, hnan⟩ := hok
    exact ⟨Nat.pos_of_ne_zero hpos, Nat.le_of_not_lt hle, hheads.1 ⟨u, hu⟩, win, hwin, by simpa using hnan⟩
  · intro had
    obtain ⟨u, hu⟩ := hheads.2 had.holds
    obtain ⟨win, hwin, hnan⟩ := had.number
    exact ⟨Nat.ne_of_gt had.pos, Nat.not_lt.2 had.le_rows, u, hu, win, hwin, by simp [hnan]⟩

instance (h : Handle) (raw : RawBatch) (n : Nat) : Decidable (Admits h raw n) :=
  match hcheck : h.decoder.checkBatch raw n with
  | .ok () => isTrue (checkBatch_eq_ok_iff.1 hcheck)
  | .error _ => isFalse fun had => by
    rw [checkBatch_eq_ok_iff.2 had] at hcheck
    cases hcheck

theorem Admits.row_eq_ok (had : Admits h raw n) (hr : r < n) :
    raw.row h.rawWidths r = .ok (raw.blocks h.rawWidths r) :=
  RawBatch.row_eq_ok had.holds h.rawWidths_pos hr

/-- an admitted batch with enough predictions goes on to its rows -/
theorem decode_eq_decodeRows {ps : List Prediction} (had : Admits h raw n) (hlen : n ≤ ps.length) :
    h.decoder.decode raw n ps = h.decoder.decodeRows raw 0 n ps := by
  unfold decode
  rw [checkBatch_eq_ok_iff.2 had]
  exact if_neg (Nat.not_lt.2 hlen)

theorem admits_of_decode {ps : List Prediction} (hok : (h.decoder.decode raw n ps).2 = .ok ()) :
    Admits h raw n ∧ n ≤ ps.length := by
  unfold decode at hok
  split at hok
  · cases hok
  · rename_i hcheck
    split at hok
    · cases hok
    · rename_i hlen
      exact ⟨checkBatch_eq_ok_iff.1 hcheck, Nat.le_of_not_lt hlen⟩

/-- a decoded batch: each of its predictions fitted and is read from the rows with its number, and the others stay -/
theorem decode_reads {ps : List Prediction} (hok : (h.decoder.decode raw n ps).2 = .ok ()) :
    (∀ i < n, ∀ p, ps[i]? = some p → p.Fits h ∧ ∃ q, (h.decoder.decode raw n ps).1[i]? = some q ∧
      p.ReadFrom h.model.layout (raw.blocks h.rawWidths i) q) ∧
    ∀ i, n ≤ i → (h.decoder.decode raw n ps).1[i]? = ps[i]? := by
  obtain ⟨had, hlen⟩ := admits_of_decode hok
  rw [decode_eq_decodeRows had hlen] at hok ⊢
  obtain ⟨hread, hrest⟩ := decodeRows_reads hok
  refine ⟨fun i hi p hp => ?_, hrest⟩
  obtain ⟨q, hq, hd⟩ := hread i hi p hp
  rw [Nat.zero_add] at hd
  obtain ⟨hfit, -, hq'⟩ := reads_of_decodeRow hd
  exact ⟨hfit, q, hq, hq'⟩

/-- a batch is decoded exactly when it is admitted and its first predictions are there and fit -/
theorem decode_ok_iff {ps : List Prediction} : (h.decoder.decode raw n ps).2 = .ok () ↔
    Admits h raw n ∧ n ≤ ps.length ∧ ∀ i < n, ∀ p, ps[i]? = some p → p.Fits h := by
  refine ⟨?_, ?_⟩
  · intro hok
    obtain ⟨had, hlen⟩ := admits_of_decode hok
    exact ⟨had, hlen, fun i hi p hp => ((decode_reads hok).1 i hi p hp).1⟩
  · intro hcond
    obtain ⟨had, hlen, hfit⟩ := hcond
    rw [decode_eq_decodeRows had hlen]
    apply decodeRows_ok hlen
    intro i hi p hp
    rw [Nat.zero_add]
    exact decodeRow_ok (hfit i hi p hp) (had.row_eq_ok hi)

end Decoder

end BatchEval
