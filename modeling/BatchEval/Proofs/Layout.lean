/-
Where each number of a prediction comes from. The raw outputs of a batch are four flat lists with strides of their own;
after a batch was decoded every number of record `r` is the word at one place of one of them, and the place is a formula
in `r`, the board and the channel counts.

- `Prediction.OutcomeAt`, `Prediction.DecodedAt`: the places of the outcome and the policy, and of everything.
- `ReadFrom.decodedAt`: what is read from the rows with one number has these places.
- `decode_layout`: the records of a decoded batch, and that nothing else of them changes.
-/
import BatchEval.Proofs.Decoding

namespace BatchEval

open Word (zero one)

namespace Prediction

variable {old new : Prediction} {h : Handle} {raw : RawBatch} {r : Nat}

/-! ## Places -/

/-- `new` is `old` with the outcome and the policy of row `r` -/
structure OutcomeAt (old : Prediction) (h : Handle) (raw : RawBatch) (r : Nat) (new : Prediction) : Prop where
  x_eq : new.x = old.x
  y_eq : new.y = old.y
  win : raw.value[r * h.model.channels.value]? = some new.win
  loss : raw.value[r * h.model.channels.value + 1]? = some new.loss
  noResult : raw.value[r * h.model.channels.value + 2]? = some new.noResult
  policy_size : new.policy.size = old.policy.size
  /-- a policy row has two words for each entry, and the first counts -/
  policy : ∀ i < h.policySize, new.policy[i]? = raw.policy[r * (2 * h.policySize) + 2 * i]?

/-- `new` is `old` with every number of row `r` -/
structure DecodedAt (old : Prediction) (h : Handle) (raw : RawBatch) (r : Nat) (new : Prediction) : Prop
    extends OutcomeAt old h raw r new where
  mean : raw.misc[r * h.model.channels.misc]? = some new.mean
  meanSq : match h.model.layout with
    | .meanOnly => new.meanSq = new.mean.square
    | .meanAndSecondMoment => raw.misc[r * h.model.channels.misc + 1]? = some new.meanSq
  owner_none : old.owner = none → new.owner = none
  owner : ∀ map, old.owner = some map → ∃ map', new.owner = some map' ∧ map'.size = map.size ∧
    ∀ i < h.area, map'[i]? = raw.ownership[r * h.area + i]?

/-! ## Places of the rows that are read -/

theorem value_block {i : Nat} (hi : i < 3) : (raw.blocks h.rawWidths r).value[i]? =
    raw.value[r * h.model.channels.value + i]? :=
  Flat.getElem?_block (Nat.lt_of_lt_of_le hi (Nat.le_of_eq h.model.value_eq.symm))

theorem policy_block {i : Nat} (hi : i < h.policySize) : (raw.blocks h.rawWidths r).policy[2 * i]? =
    raw.policy[r * (2 * h.policySize) + 2 * i]? :=
  Flat.getElem?_block (Nat.mul_lt_mul_of_pos_left hi Nat.two_pos)

theorem misc_block {i : Nat} (hi : i < h.model.layout.channels) : (raw.blocks h.rawWidths r).misc[i]? =
    raw.misc[r * h.model.channels.misc + i]? :=
  Flat.getElem?_block (Nat.lt_of_lt_of_le hi h.model.layout_le_misc)

theorem ownership_block {i : Nat} (hi : i < h.area) : (raw.blocks h.rawWidths r).ownership[i]? =
    raw.ownership[r * h.area + i]? := Flat.getElem?_block hi

/-- what is read from the rows with a number has the places of that number -/
theorem ReadFrom.decodedAt (hread : old.ReadFrom h.model.layout (raw.blocks h.rawWidths r) new) (hfit : old.Fits h)
    (hsize : (raw.blocks h.rawWidths r).ownership.size = h.area) : old.DecodedAt h raw r new := by
  have hmean : raw.misc[r * h.model.channels.misc]? = some new.mean :=
    (misc_block h.model.layout.channels_pos).symm.trans hread.mean
  refine ⟨⟨hread.x_eq, hread.y_eq, ?_, ?_, ?_, hread.policy_size, fun i hi => ?_⟩, hmean, ?_, fun hnone => ?_,
    fun map hmap => ?_⟩
  · exact (value_block (by decide)).symm.trans hread.win
  · exact (value_block (by decide)).symm.trans hread.loss
  · exact (value_block (by decide)).symm.trans hread.noResult
  · rw [hread.policy i (by rw [hfit.policy_size]; exact hi), policy_block hi]
  · have hsecond := hread.meanSq
    cases hlayout : h.model.layout with
    | meanOnly =>
      rw [hlayout] at hsecond
      exact hsecond
    | meanAndSecondMoment =>
      have htwo : 1 < h.model.layout.channels := by
        rw [hlayout]
        decide
      rw [hlayout] at hsecond
      exact (misc_block htwo).symm.trans hsecond
  · rw [hread.owner, hnone]
    rfl
  · refine ⟨(raw.blocks h.rawWidths r).ownership, ?_, ?_, fun i hi => ownership_block hi⟩
    · rw [hread.owner, hmap]
      rfl
    · rw [hsize, hfit.owner_size map hmap]

end Prediction

/-! ## A decoded batch -/

namespace Decoder

variable {h : Handle} {raw : RawBatch} {n r : Nat} {old new : Prediction}

/-- the rows of an admitted batch are whole -/
theorem Admits.block_size (had : Admits h raw n) (hr : r < n) (k : Head) :
    ((raw.blocks h.rawWidths r).get k).size = h.rawWidths.get k :=
  (RawBatch.blocks_of_row_eq_ok (had.row_eq_ok hr)).2 k

end Decoder

/-- **The places of a decoded batch.** When a batch is decoded, record `r` holds the words at the places of row `r`: its
outcome in the value head, the even places of its policy row, its score in the misc head, and its ownership map if it
wants one. Its board, the length of its policy and of its map stay, and so does every record behind the batch. -/
theorem decode_layout {h : Handle} {d : Decoder} (hd : Decoder.ofHandle h = .ok d) {raw : RawBatch} {n : Nat}
    {ps : List Prediction} (hok : (d.decode raw n ps).2 = .ok ()) :
    (∀ r < n, ∃ old new, ps[r]? = some old ∧ (d.decode raw n ps).1[r]? = some new ∧ old.Fits h ∧
        old.DecodedAt h raw r new) ∧
      ∀ r, n ≤ r → (d.decode raw n ps).1[r]? = ps[r]? := by
  obtain ⟨-, hdecoder⟩ := Decoder.ofHandle_eq_ok_iff.1 hd
  subst hdecoder
  obtain ⟨had, hlen, hfits⟩ := Decoder.decode_ok_iff.1 hok
  obtain ⟨hreads, hrest⟩ := Decoder.decode_reads hok
  refine ⟨fun r hr => ?_, hrest⟩
  have hold : ps[r]? = some ps[r] := List.getElem?_eq_getElem (Nat.lt_of_lt_of_le hr hlen)
  obtain ⟨hfit, new, hnew, hread⟩ := hreads r hr _ hold
  exact ⟨_, new, hold, hnew, hfit, hread.decodedAt hfit (had.block_size hr .ownership)⟩

/-- two rows of a batch with three misc channels: means of -1.5 and 3 with squares of 2.25 and 9, a map for the second row
only, and a third record that stays -/
theorem decode_layout_oneCell :
    let h := Handle.oneCell (Descriptor.oldest "m" 3 (by decide)) 3 (by decide)
    let raw : RawBatch := ⟨#[one, zero, one, zero, zero, one, one, one], #[one, zero, zero, zero, one, zero],
      #[⟨0xbfc00000⟩, zero, zero, ⟨0x40400000⟩, one, one], #[zero, one]⟩
    let bare : Prediction := ⟨1, 1, zero, zero, zero, zero, zero, #[zero, zero], none⟩
    let p : Prediction := { bare with owner := some #[zero] }
    ∃ d, Decoder.ofHandle h = .ok d ∧ (d.decode raw 2 [bare, p, p]).2 = .ok () ∧
      (∃ new, (d.decode raw 2 [bare, p, p]).1[0]? = some new ∧ new.win = one ∧ new.mean = ⟨0xbfc00000⟩ ∧
        new.meanSq = ⟨0x40100000⟩ ∧ new.owner = none) ∧
      (∃ new map, (d.decode raw 2 [bare, p, p]).1[1]? = some new ∧ new.loss = one ∧ new.policy[1]? = some one ∧
        new.mean = ⟨0x40400000⟩ ∧ new.meanSq = ⟨0x41100000⟩ ∧ new.owner = some map ∧ map[0]? = some one) ∧
      (d.decode raw 2 [bare, p, p]).1[2]? = some p := by
  intro h raw bare p
  have hd : Decoder.ofHandle h = .ok h.decoder := rfl
  have hholds : raw.Holds h.rawWidths 2 := fun k => by cases k <;> decide
  have had : Decoder.Admits h raw 2 := ⟨Nat.two_pos, Nat.le_succ 2, hholds, one, rfl, by decide⟩
  have hfits : ∀ r < 2, ∀ q, [bare, p, p][r]? = some q → q.Fits h := by
    intro r hr q hq
    have hmem : q ∈ [bare, p, p] := List.mem_of_getElem? hq
    have hqp : q = bare ∨ q = p := by simpa using hmem
    rcases hqp with hbare | hp
    · exact hbare ▸ ⟨rfl, rfl, rfl, fun map hmap => by cases hmap⟩
    · exact hp ▸ ⟨rfl, rfl, rfl, fun map hmap => by cases hmap; rfl⟩
  have hok : (h.decoder.decode raw 2 [bare, p, p]).2 = .ok () :=
    Decoder.decode_ok_iff.2 ⟨had, Nat.le_succ 2, hfits⟩
  obtain ⟨hrows, hrest⟩ := decode_layout hd hok
  refine ⟨_, hd, hok, ?_, ?_, hrest 2 (Nat.le_refl 2)⟩
  · obtain ⟨old, new, hold, hnew, -, hat⟩ := hrows 0 Nat.two_pos
    cases hold
    have hmean : ⟨0xbfc00000⟩ = new.mean := Option.some.inj hat.mean
    have hsq : new.meanSq = new.mean.square := hat.meanSq
    refine ⟨new, hnew, (Option.some.inj hat.win).symm, hmean.symm, ?_, hat.owner_none rfl⟩
    rw [hsq, ← hmean]
    decide +kernel
  · obtain ⟨old, new, hold, hnew, -, hat⟩ := hrows 1 Nat.one_lt_two
    cases hold
    obtain ⟨map, howner, -, hmap⟩ := hat.owner _ rfl
    have hmean : ⟨0x40400000⟩ = new.mean := Option.some.inj hat.mean
    have hsq : new.meanSq = new.mean.square := hat.meanSq
    refine ⟨new, map, hnew, (Option.some.inj hat.loss).symm, hat.policy 1 (by decide), hmean.symm, ?_, howner,
      hmap 0 (by decide)⟩
    rw [hsq, ← hmean]
    decide +kernel

end BatchEval
