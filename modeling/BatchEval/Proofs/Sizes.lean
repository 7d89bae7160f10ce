/-
Sizes in exact arithmetic. The library computes each size step by step in 64 bits. Here each size has one formula over
the natural numbers, and the computation succeeds exactly when the formula's values fit.

- `Descriptor.spatial_eq`, `value_eq`, `ownership_eq`, `score_eq`, `misc_pos`: what the checks of a descriptor fix.
- `RawWidths.ofHandle_eq_ok_iff`: the raw row widths of a handle.
- `Decoder.ofHandle_eq_ok_iff`: a handle has one decoder, and when it has it.
- `RowCounts.ofModel_eq_ok_iff`: the row counts of a model on a board.
- `Descriptor.oldest`, `Handle.oneCell`: handles small enough to be looked at whole.
-/
import BatchEval.Decoder

namespace BatchEval

/-! ## What a descriptor fixes -/

namespace Descriptor

/-- every version has the same spatial planes -/
theorem spatial_eq (d : Descriptor) : d.channels.spatial = 22 := by
  obtain ⟨table, ht, hc⟩ := d.fits.count_eq
  have htable : table.spatial = 22 := by
    unfold Channels.ofVersion at ht
    split at ht
    all_goals first
      | exact Option.some.inj (congrArg (Option.map Channels.spatial) ht).symm
      | cases ht
  exact (hc .spatial).trans htable

theorem value_eq (d : Descriptor) : d.channels.value = 3 := by
  obtain ⟨table, -, hc⟩ := d.fits.count_eq
  exact hc .value

theorem ownership_eq (d : Descriptor) : d.channels.ownership = 1 := by
  obtain ⟨table, -, hc⟩ := d.fits.count_eq
  exact hc .ownership

theorem score_eq (d : Descriptor) : d.channels.score = d.layout.channels := by
  obtain ⟨table, -, hc⟩ := d.fits.count_eq
  exact hc .score

/-- a misc row holds every score channel of the layout -/
theorem layout_le_misc (d : Descriptor) : d.layout.channels ≤ d.channels.misc := by
  rw [← d.score_eq]
  exact d.fits.score_le_misc

theorem misc_pos (d : Descriptor) : 0 < d.channels.misc :=
  Nat.lt_of_lt_of_le d.layout.channels_pos d.layout_le_misc

/-- the row counts of a model on a board, whether or not they fit -/
def rowCounts (d : Descriptor) (x y : Nat) : RowCounts where
  spatial := d.channels.spatial * (x * y)
  global := d.channels.global
  policy := 1 + x * y
  value := d.channels.value
  score := d.channels.score
  ownership := d.channels.ownership * (x * y)

end Descriptor

/-- the four sizes that row counts are computed from fit -/
structure RowCounts.Fit (d : Descriptor) (x y : Nat) : Prop where
  area : x * y < Size.limit
  spatial : d.channels.spatial * (x * y) < Size.limit
  policy : 1 + x * y < Size.limit
  ownership : d.channels.ownership * (x * y) < Size.limit

theorem RowCounts.ofModel_eq_ok_iff {d : Descriptor} {x y : Nat} {c : RowCounts} :
    RowCounts.ofModel d x y = .ok c ↔ RowCounts.Fit d x y ∧ d.rowCounts x y = c := by
  simp only [RowCounts.ofModel, Checked.bind_eq_ok_iff, Size.mul_eq_ok_iff, Size.add_eq_ok_iff, pure, Except.pure,
    Except.ok.injEq]
  refine ⟨?_, ?_⟩
  · intro hok
    obtain ⟨_, ⟨h1, rfl⟩, _, ⟨h2, rfl⟩, _, ⟨h3, rfl⟩, _, ⟨h4, rfl⟩, rfl⟩ := hok
    exact ⟨⟨h1, h2, h3, h4⟩, rfl⟩
  · intro hcond
    obtain ⟨⟨h1, h2, h3, h4⟩, rfl⟩ := hcond
    exact ⟨_, ⟨h1, rfl⟩, _, ⟨h2, rfl⟩, _, ⟨h3, rfl⟩, _, ⟨h4, rfl⟩, rfl⟩

/-! ## Raw rows of a handle -/

namespace Handle

/-- the raw row widths of a handle, whether or not they fit -/
def rawWidths (h : Handle) : RawWidths where
  policy := 2 * h.policySize
  value := h.model.channels.value
  misc := h.model.channels.misc
  ownership := h.area

theorem area_lt (h : Handle) : h.area < Size.limit := by
  have := h.policy_fits
  unfold area
  omega

theorem x_le_area (h : Handle) : h.x ≤ h.area := Nat.le_mul_of_pos_right _ h.y_pos

/-- no raw row is empty -/
theorem rawWidths_pos (h : Handle) (k : Head) : 0 < h.rawWidths.get k := by
  cases k with
  | policy => exact Nat.mul_pos (by decide) (Nat.succ_pos _)
  | value =>
    have := h.model.value_eq
    simp only [PerHead.get, rawWidths]
    omega
  | misc => exact h.model.misc_pos
  | ownership => exact h.area_pos

/-- a policy row fits if it is no longer than rows of which the largest batch can be held -/
theorem policy_lt (h : Handle) {width : Nat} (hle : 2 * h.policySize ≤ width)
    (hwords : width * h.rows ≤ Size.maxWords) : 2 * h.policySize < Size.limit :=
  calc
    2 * h.policySize ≤ width := hle
    _ ≤ width * h.rows := Nat.le_mul_of_pos_right _ h.rows_pos
    _ ≤ Size.maxWords := hwords
    _ < Size.limit := Size.maxWords_lt_limit

/-- the decoder of a handle -/
def decoder (h : Handle) : Decoder := ⟨h, h.rawWidths⟩

end Handle

/-- only the doubled policy row can be too wide: the other widths are counts, or fit because the handle does -/
theorem RawWidths.ofHandle_eq_ok_iff {h : Handle} {w : RawWidths} :
    RawWidths.ofHandle h = .ok w ↔ 2 * h.policySize < Size.limit ∧ h.rawWidths = w := by
  have hx : h.model.channels.ownership * h.x < Size.limit := by
    rw [h.model.ownership_eq, Nat.one_mul]
    exact Nat.lt_of_le_of_lt h.x_le_area h.area_lt
  have harea : h.model.channels.ownership * h.x * h.y = h.area := by
    rw [h.model.ownership_eq, Nat.one_mul, Handle.area]
  simp only [RawWidths.ofHandle, Checked.bind_eq_ok_iff, Size.mul_eq_ok_iff, pure, Except.pure, Except.ok.injEq]
  refine ⟨?_, ?_⟩
  · intro hok
    obtain ⟨_, ⟨hp, rfl⟩, _, ⟨-, rfl⟩, _, ⟨-, rfl⟩, rfl⟩ := hok
    rw [harea]
    exact ⟨hp, rfl⟩
  · intro hcond
    obtain ⟨hp, rfl⟩ := hcond
    refine ⟨_, ⟨hp, rfl⟩, _, ⟨hx, rfl⟩, _, ⟨?_, harea⟩, rfl⟩
    rw [harea]
    exact h.area_lt

theorem Decoder.ofHandle_eq_ok_iff {h : Handle} {d : Decoder} :
    Decoder.ofHandle h = .ok d ↔ 2 * h.policySize < Size.limit ∧ h.decoder = d := by
  simp only [Decoder.ofHandle, Checked.bind_eq_ok_iff, RawWidths.ofHandle_eq_ok_iff, pure, Except.pure,
    Except.ok.injEq]
  refine ⟨?_, ?_⟩
  · intro hok
    obtain ⟨_, ⟨hp, rfl⟩, rfl⟩ := hok
    exact ⟨hp, rfl⟩
  · intro hcond
    obtain ⟨hp, rfl⟩ := hcond
    exact ⟨_, ⟨hp, rfl⟩, rfl⟩

/-! ## The smallest handles -/

/-- a model of the oldest version; only its name and its misc channels are left open -/
def Descriptor.oldest (name : String) (misc : Nat) (h : 0 < misc) : Descriptor where
  name := name
  version := oldestVersion
  layout := .meanOnly
  channels := ⟨22, 14, 3, 1, 1, misc⟩
  fits := ⟨rfl, ⟨_, rfl, fun k => by cases k <;> rfl⟩, h⟩

/-- a model on a board of one cell -/
def Handle.oneCell (model : Descriptor) (rows : Nat) (h : 0 < rows) : Handle where
  model := model
  accelerator := .cpu
  options := {}
  rows := rows
  x := 1
  y := 1
  rows_pos := h
  x_pos := Nat.one_pos
  y_pos := Nat.one_pos
  policy_fits := by decide

end BatchEval
