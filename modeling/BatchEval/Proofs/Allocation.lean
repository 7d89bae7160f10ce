/-
Which sizes can be had. A model, a handle, an arena and records are each made exactly when their numbers are positive and
one product fits; every other sum or product on the way is smaller than that one.

- `Channels.ofVersion_eq_none_iff`, `Descriptor.ofVersion_ok`: the versions that a model can have.
- `Handle.create_eq_ok_iff`: the boards and capacities that a model can be bound to.
- `Arena.allocate_ok_iff`: the spatial lane is the widest, so it alone decides.
- `Prediction.blankBatch_eq_ok_iff`: the records that a handle can be given, and that they fit it.
-/
import BatchEval.Proofs.Arena
import BatchEval.Proofs.Decoding

namespace BatchEval

/-! ## Models -/

/-- the supported versions are those between the oldest and the newest -/
theorem Channels.ofVersion_eq_none_iff {v : Nat} :
    Channels.ofVersion v = none ↔ v < oldestVersion ∨ newestVersion < v := by
  constructor
  · intro hnone
    rcases Nat.lt_or_ge v oldestVersion with hold | hold
    · exact .inl hold
    rcases Nat.lt_or_ge newestVersion v with hnew | hnew
    · exact .inr hnew
    have hv : v = 3 ∨ v = 4 ∨ v = 5 ∨ v = 6 ∨ v = 7 ∨ v = 8 ∨ v = 9 ∨ v = 10 := by
      simp only [oldestVersion] at hold
      simp only [newestVersion] at hnew
      omega
    rcases hv with rfl | rfl | rfl | rfl | rfl | rfl | rfl | rfl <;> cases hnone
  · intro hout
    unfold Channels.ofVersion
    split
    all_goals first
      | rfl
      | exact absurd hout (by decide)

namespace Descriptor

variable {name : String} {v x y : Nat} {c : Channels}

/-- a version of the table gives a model with the counts of the table -/
theorem ofVersion_ok (hv : Channels.ofVersion v = some c) :
    ∃ d, (Descriptor.ofVersion name v).value = .ok d ∧ d.channels = c := by
  unfold Channels.ofVersion at hv
  split at hv
  all_goals first
    | cases hv; exact ⟨_, rfl, rfl⟩
    | cases hv

theorem ofVersion_error (hv : Channels.ofVersion v = none) :
    (Descriptor.ofVersion name v).value = .error (.unsupportedVersion name v) := by
  simp only [Descriptor.ofVersion, hv]

/-- no version has more global planes than spatial ones -/
theorem global_le (d : Descriptor) : d.channels.global ≤ 22 := by
  obtain ⟨table, ht, hc⟩ := d.fits.count_eq
  have htable : table.global ≤ 22 := by
    unfold Channels.ofVersion at ht
    split at ht
    all_goals first
      | cases ht; decide
      | cases ht
  exact Nat.le_trans (Nat.le_of_eq (hc .global)) htable

theorem score_le (d : Descriptor) : d.channels.score ≤ 2 := by
  rw [d.score_eq]
  cases d.layout <;> decide

/-- the spatial lane is the widest -/
theorem rowCounts_le (d : Descriptor) (hx : 0 < x) (hy : 0 < y) (k : Lane) :
    (d.rowCounts x y).get k ≤ 22 * (x * y) := by
  have hcell : 0 < x * y := Nat.mul_pos hx hy
  have hglobal := d.global_le
  have hscore := d.score_le
  cases k <;> simp only [PerLane.get, rowCounts, d.spatial_eq, d.value_eq, d.ownership_eq] <;> omega

/-- row counts fit when one row of the spatial lane does -/
theorem rowCounts_fit (d : Descriptor) (hx : 0 < x) (hy : 0 < y) (hrow : 22 * (x * y) ≤ Size.maxWords) :
    RowCounts.Fit d x y := by
  have hcell : 0 < x * y := Nat.mul_pos hx hy
  have hlimit := Size.maxWords_lt_limit
  refine ⟨?_, ?_, ?_, ?_⟩
  · omega
  · rw [d.spatial_eq]
    omega
  · omega
  · rw [d.ownership_eq]
    omega

end Descriptor

/-! ## Handles -/

theorem Handle.create_eq_ok_iff {context : Context} {model : Descriptor} {rows x y : Nat} {options : Options}
    {h : Handle} : (Handle.create context model rows x y options).value = .ok h ↔
      ∃ (hrows : 0 < rows) (hx : 0 < x) (hy : 0 < y) (hpolicy : x * y + 1 < Size.limit),
        Handle.mk model context.accelerator options rows x y hrows hx hy hpolicy = h := by
  unfold create
  split
  · rename_i f hcheck
    refine ⟨nofun, fun ⟨hrows, hx, hy, _⟩ => ?_⟩
    rw [checkExtents_eq_ok_iff.2 ⟨hrows, hx, hy⟩] at hcheck
    cases hcheck
  · rename_i hcheck
    obtain ⟨hrows, hx, hy⟩ := checkExtents_eq_ok_iff.1 hcheck
    dsimp only
    split
    · rename_i f hsize
      refine ⟨nofun, fun ⟨_, _, _, hpolicy, _⟩ => ?_⟩
      rw [policySize_eq_ok_iff.2 ⟨hpolicy, rfl⟩] at hsize
      cases hsize
    · rename_i n hsize
      obtain ⟨hpolicy, -⟩ := policySize_eq_ok_iff.1 hsize
      refine ⟨fun hok => ?_, fun ⟨_, _, _, _, hh⟩ => ?_⟩
      · exact ⟨hrows, hx, hy, hpolicy, Except.ok.inj hok⟩
      · rw [← hh]

/-! ## Arenas -/

namespace Arena

variable {model : Descriptor} {rows x y : Nat}

/-- lanes that can each be held make an arena -/
theorem ofCounts_ok {layout : ScoreLayout} {counts : RowCounts} (h : ∀ k, rows * counts.get k ≤ Size.maxWords) :
    ∃ a, ofCounts layout counts rows x y = .ok a := by
  let sizes : PerLane Nat := ⟨rows * counts.spatial, rows * counts.global, rows * counts.policy, rows * counts.value,
    rows * counts.score, rows * counts.ownership⟩
  have hsizes : (PerLane.build fun k => Size.rows rows (counts.get k)) = .ok sizes := by
    refine PerLane.build_eq_ok_iff.2 fun k => Size.rows_eq_ok_iff.2 ⟨h k, ?_⟩
    cases k <;> rfl
  simp only [ofCounts, hsizes, Checked.ok_bind, pure, Except.pure]
  exact ⟨_, rfl⟩

/-- without logging, memory can be had exactly when the words of the spatial lane can -/
theorem allocate_ok_iff : (∃ a, (allocate none model rows x y).value = .ok a) ↔
    0 < rows ∧ 0 < x ∧ 0 < y ∧ 22 * (x * y) * rows ≤ Size.maxWords := by
  constructor
  · intro hok
    obtain ⟨a, ha⟩ := hok
    obtain ⟨hmade, hrows, hx, hy⟩ := allocate_madeFor ha
    subst hrows hx hy
    refine ⟨hmade.rows_pos, hmade.x_pos, hmade.y_pos, ?_⟩
    have hwords : a.rows * a.counts.spatial ≤ Size.maxWords := hmade.words_le .spatial
    rw [hmade.spatial_eq] at hwords
    rwa [Nat.mul_comm]
  · intro hcond
    obtain ⟨hrows, hx, hy, hwords⟩ := hcond
    have hlanes : ∀ k, rows * (model.rowCounts x y).get k ≤ Size.maxWords := fun k =>
      calc
        rows * (model.rowCounts x y).get k ≤ rows * (22 * (x * y)) := Nat.mul_le_mul_left rows (model.rowCounts_le hx hy k)
        _ = 22 * (x * y) * rows := Nat.mul_comm _ _
        _ ≤ Size.maxWords := hwords
    have hrow : 22 * (x * y) ≤ Size.maxWords := Nat.le_trans (Nat.le_mul_of_pos_right _ hrows) hwords
    have hcounts : RowCounts.ofModel model x y = .ok (model.rowCounts x y) :=
      RowCounts.ofModel_eq_ok_iff.2 ⟨model.rowCounts_fit hx hy hrow, rfl⟩
    have hmade : ∃ a, ofCounts model.layout (model.rowCounts x y) rows x y = .ok a := ofCounts_ok hlanes
    obtain ⟨a, ha⟩ := hmade
    have hquiet : LogLevel.debug.shownAt none = false := rfl
    refine ⟨a, ?_⟩
    simp only [allocate, checkExtents_eq_ok_iff.2 ⟨hrows, hx, hy⟩, hcounts, Checked.ok_bind, hquiet]
    exact ha

end Arena

/-! ## Records -/

namespace Prediction

variable {h : Handle} {x y n : Nat} {owned : Bool} {p : Prediction} {ps : List Prediction}

/-- the prediction of zeros -/
def zeroed (x y : Nat) (owned : Bool) : Prediction where
  x := x
  y := y
  win := .zero
  loss := .zero
  noResult := .zero
  mean := .zero
  meanSq := .zero
  policy := Array.replicate (x * y + 1) .zero
  owner := if owned then some (Array.replicate (x * y) .zero) else none

theorem zeroed_fits (h : Handle) (owned : Bool) : (zeroed h.x h.y owned).Fits h := by
  refine ⟨rfl, rfl, Array.size_replicate, fun map hmap => ?_⟩
  cases owned with
  | false => cases hmap
  | true =>
    cases hmap
    exact Array.size_replicate

theorem zeros_eq_ok_iff {a : Array Word} : zeros n = .ok a ↔ n ≤ Size.maxWords ∧ Array.replicate n .zero = a := by
  simp only [zeros, Checked.bind_eq_ok_iff, Size.words_eq_ok_iff, pure, Except.pure, Except.ok.injEq]
  constructor
  · intro hok
    obtain ⟨_, ⟨hn, rfl⟩, ha⟩ := hok
    exact ⟨hn, ha⟩
  · intro hcond
    exact ⟨n, ⟨hcond.1, rfl⟩, hcond.2⟩

/-- the list of the policy decides: a map is shorter -/
theorem blank_eq_ok_iff : blank x y owned = .ok p ↔ x * y + 1 ≤ Size.maxWords ∧ zeroed x y owned = p := by
  have hlimit := Size.maxWords_lt_limit
  cases owned with
  | false =>
    have hsteps : blank x y false = .ok p ↔
        (x * y + 1 < Size.limit ∧ x * y + 1 ≤ Size.maxWords) ∧ zeroed x y false = p := by
      simp [blank, Checked.bind_eq_ok_iff, policySize_eq_ok_iff, zeros_eq_ok_iff, and_assoc, pure, Except.pure, zeroed]
    rw [hsteps]
    exact and_congr_left' (by omega)
  | true =>
    have hsteps : blank x y true = .ok p ↔ (x * y < Size.limit ∧ x * y ≤ Size.maxWords ∧ x * y + 1 < Size.limit ∧
        x * y + 1 ≤ Size.maxWords) ∧ zeroed x y true = p := by
      simp [blank, Checked.bind_eq_ok_iff, policySize_eq_ok_iff, Size.mul_eq_ok_iff, zeros_eq_ok_iff, and_assoc, pure,
        Except.pure, zeroed]
    rw [hsteps]
    exact and_congr_left' (by omega)

theorem blankBatch_eq_ok_iff : blankBatch h owned = .ok ps ↔
    h.rows * bytes ≤ Size.maxBytes ∧ h.policySize ≤ Size.maxWords ∧
      List.replicate h.rows (zeroed h.x h.y owned) = ps := by
  unfold blankBatch
  by_cases hbytes : h.rows * bytes ≤ Size.maxBytes
  · rw [if_pos hbytes]
    cases hblank : blank h.x h.y owned with
    | error f =>
      refine ⟨nofun, fun ⟨_, hwords, _⟩ => ?_⟩
      rw [blank_eq_ok_iff.2 ⟨hwords, rfl⟩] at hblank
      cases hblank
    | ok p =>
      obtain ⟨hwords, rfl⟩ := blank_eq_ok_iff.1 hblank
      refine ⟨fun hok => ⟨hbytes, hwords, Except.ok.inj hok⟩, fun ⟨_, _, hps⟩ => ?_⟩
      rw [← hps]
      rfl
  · rw [if_neg hbytes]
    exact ⟨nofun, fun hcond => absurd hcond.1 hbytes⟩

end Prediction

end BatchEval
