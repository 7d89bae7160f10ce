/-
The limit of every size. Buffers, row counts and raw rows are computed by formulas of their own, and each sum and product
in them could be too large. One of them is never the first to fit: when the words of the spatial lane do, so does all
that a handle needs, except for a model whose misc rows are wider than its spatial ones.

- `Handle.HoldsRaw`, `Uniform.ofHandle_ok_iff`, `Staging.ofHandle_ok_iff`: what the two buffers for raw outputs need.
- `Handle.holdsRaw_iff`: beside the spatial lane only the misc head matters.
- `Arena.lanes_ok`: what the allocation computes on its way.
- `sizing_exact`: the limit of the allocation, and what follows from it for a handle.
-/
import Mathlib.Algebra.Group.Nat.Defs
import BatchEval.Proofs.Allocation
import BatchEval.Proofs.Neutral
import BatchEval.Proofs.Staging

namespace BatchEval

/-! ## Raw outputs of the largest batch -/

namespace Handle

/-- each head of the largest batch is no more than one buffer can hold -/
def HoldsRaw (h : Handle) : Prop := ∀ k, h.rows * h.rawWidths.get k ≤ Size.maxWords

variable {h : Handle}

/-- a raw row of every head but misc is no longer than a spatial row, on a board of one cell too -/
theorem rawWidths_le (h : Handle) {k : Head} (hk : k ≠ .misc) : h.rawWidths.get k ≤ 22 * h.area := by
  have hcell := h.area_pos
  have hvalue := h.model.value_eq
  cases k with
  | policy =>
    show 2 * (h.area + 1) ≤ 22 * h.area
    omega
  | value =>
    show h.model.channels.value ≤ 22 * h.area
    omega
  | misc => exact absurd rfl hk
  | ownership =>
    show h.area ≤ 22 * h.area
    omega

/-- where the spatial lane can be held, the raw outputs can be held exactly if the misc head can -/
theorem holdsRaw_iff (hwords : 22 * h.area * h.rows ≤ Size.maxWords) :
    h.HoldsRaw ↔ h.model.channels.misc * h.rows ≤ Size.maxWords := by
  constructor
  · intro hraw
    have hmisc : h.rows * h.model.channels.misc ≤ Size.maxWords := hraw .misc
    rwa [Nat.mul_comm]
  · intro hmisc k
    by_cases hk : k = .misc
    · rw [hk, Nat.mul_comm]
      exact hmisc
    · calc
        h.rows * h.rawWidths.get k ≤ h.rows * (22 * h.area) := Nat.mul_le_mul_left _ (h.rawWidths_le hk)
        _ = 22 * h.area * h.rows := Nat.mul_comm _ _
        _ ≤ Size.maxWords := hwords

end Handle

variable {h : Handle}

/-- the one list of zeros is as long as the longest head, so it can be had exactly if every head can be held -/
theorem Uniform.ofHandle_ok_iff : (∃ u, Uniform.ofHandle h = .ok u) ↔ h.HoldsRaw := by
  simp only [Uniform.ofHandle_eq_ok_iff, exists_and_left, exists_eq', and_true]
  constructor
  · intro hwords k
    exact Nat.le_trans (Uniform.front_le (Nat.le_refl h.rows) k) hwords
  · intro hraw
    -- the widest row is a policy row or a misc row
    rw [Uniform.widest_rawWidths, Nat.mul_comm]
    rcases Nat.le_total (2 * h.policySize) h.model.channels.misc with hmisc | hpolicy
    · rw [Nat.max_eq_right hmisc]
      exact hraw .misc
    · rw [Nat.max_eq_left hpolicy]
      exact hraw .policy

/-- the staging has a buffer for each head -/
theorem Staging.ofHandle_ok_iff : (∃ s, Staging.ofHandle h = .ok s) ↔ h.HoldsRaw := by
  constructor
  · intro hok
    obtain ⟨s, hs⟩ := hok
    exact (Staging.ofHandle_madeFor hs).words_le
  · intro hraw
    have hsizes : (PerHead.build fun k => Size.rows h.rows (h.rawWidths.get k)) =
        .ok (PerHead.ofFn fun k => h.rows * h.rawWidths.get k) := by
      refine PerHead.build_eq_ok_iff.2 fun k => Size.rows_eq_ok_iff.2 ⟨hraw k, ?_⟩
      rw [PerHead.get_ofFn]
    have hpolicy : 2 * h.policySize < Size.limit := by
      refine h.policy_lt (Nat.le_refl _) ?_
      rw [Nat.mul_comm]
      exact hraw .policy
    simp only [Staging.ofHandle, RawWidths.ofHandle_eq_ok_iff.2 ⟨hpolicy, rfl⟩, Checked.ok_bind, hsizes, pure, Except.pure]
    exact ⟨_, rfl⟩

/-! ## What an allocation computes on its way -/

/-- the row counts are those of the arena, and each buffer is as long as the product that was computed for it -/
theorem Arena.lanes_ok {v : Verbosity} {model : Descriptor} {rows x y : Nat} {a : Arena}
    (ha : (Arena.allocate v model rows x y).value = .ok a) :
    RowCounts.ofModel model x y = .ok a.counts ∧
      ∀ k, Size.rows rows (a.counts.get k) = .ok (a.cells.get k).size := by
  obtain ⟨hmade, hrows, hx, hy⟩ := allocate_madeFor ha
  subst hrows hx hy
  exact ⟨hmade.counts_ok, fun k => Size.rows_eq_ok_iff.2 ⟨hmade.words_le k, (hmade.size_eq k).symm⟩⟩

/-! ## The limit -/

/-- **One product decides about every size.** With logging off, memory for a batch can be had exactly if the capacity and
the extents are positive and the words of the spatial lane are no more than one buffer can hold, in exact arithmetic; no
sum, product or buffer of the allocation fails before that. A handle for whose model, capacity and extents it can be had
has its raw row widths and its decoder. It also has the zeros of the provider without a network and the staging of a
session, exactly if its misc head can be held, and so always if a misc row is no longer than a spatial row. -/
theorem sizing_exact :
    (∀ (model : Descriptor) (rows x y : Nat),
      ((∃ a, (Arena.allocate none model rows x y).value = .ok a) ↔
        0 < rows ∧ 0 < x ∧ 0 < y ∧ 22 * (x * y) * rows ≤ 2 ^ 61 - 1) ∧
      ∀ a, (Arena.allocate none model rows x y).value = .ok a → RowCounts.ofModel model x y = .ok a.counts ∧
        ∀ k, Size.rows rows (a.counts.get k) = .ok (a.cells.get k).size) ∧
    ∀ h : Handle, (∃ a, (Arena.allocate none h.model h.rows h.x h.y).value = .ok a) →
      (∃ w, RawWidths.ofHandle h = .ok w) ∧ (∃ d, Decoder.ofHandle h = .ok d) ∧
      ((∃ u, Uniform.ofHandle h = .ok u) ↔ h.model.channels.misc * h.rows ≤ 2 ^ 61 - 1) ∧
      ((∃ s, Staging.ofHandle h = .ok s) ↔ h.model.channels.misc * h.rows ≤ 2 ^ 61 - 1) ∧
      (h.model.channels.misc ≤ 22 * (h.x * h.y) →
        (∃ u, Uniform.ofHandle h = .ok u) ∧ ∃ s, Staging.ofHandle h = .ok s) := by
  have hmax : Size.maxWords = 2 ^ 61 - 1 := by decide
  refine ⟨?_, ?_⟩
  · intro model rows x y
    rw [← hmax]
    exact ⟨Arena.allocate_ok_iff, fun a ha => Arena.lanes_ok ha⟩
  · intro h halloc
    obtain ⟨hrows, -, -, hwords⟩ := Arena.allocate_ok_iff.1 halloc
    have hpolicy := h.policy_lt (h.rawWidths_le (k := .policy) nofun) hwords
    have huniform := Uniform.ofHandle_ok_iff.trans (Handle.holdsRaw_iff hwords)
    have hstaging := Staging.ofHandle_ok_iff.trans (Handle.holdsRaw_iff hwords)
    rw [← hmax]
    refine ⟨⟨_, RawWidths.ofHandle_eq_ok_iff.2 ⟨hpolicy, rfl⟩⟩, ⟨_, Decoder.ofHandle_eq_ok_iff.2 ⟨hpolicy, rfl⟩⟩,
      huniform, hstaging, ?_⟩
    intro hmisc
    have hfits : h.model.channels.misc * h.rows ≤ Size.maxWords :=
      Nat.le_trans (Nat.mul_le_mul_right h.rows hmisc) hwords
    exact ⟨huniform.2 hfits, hstaging.2 hfits⟩

/-- on a board of one cell the largest capacity is 104811045873349725: with 22 misc channels all sizes can be had, with
23 the staging cannot, and for one row more there is no memory -/
theorem sizing_exact_oneCell :
    let h := Handle.oneCell (Descriptor.oldest "m" 22 (by decide)) 104811045873349725 (by decide)
    let wider := Handle.oneCell (Descriptor.oldest "wider" 23 (by decide)) 104811045873349725 (by decide)
    (∃ a, (Arena.allocate none h.model h.rows 1 1).value = .ok a) ∧ (∃ d, Decoder.ofHandle h = .ok d) ∧
      (∃ u, Uniform.ofHandle h = .ok u) ∧ (∃ s, Staging.ofHandle h = .ok s) ∧
      (∃ d, Decoder.ofHandle wider = .ok d) ∧ (¬∃ s, Staging.ofHandle wider = .ok s) ∧
      ¬∃ a, (Arena.allocate none h.model (h.rows + 1) 1 1).value = .ok a := by
  intro h wider
  obtain ⟨hlimit, hhandle⟩ := sizing_exact
  have hmemory : ∃ a, (Arena.allocate none h.model h.rows 1 1).value = .ok a := (hlimit _ _ _ _).1.2 (by decide)
  have hmemory' : ∃ a, (Arena.allocate none wider.model wider.rows 1 1).value = .ok a :=
    (hlimit _ _ _ _).1.2 (by decide)
  obtain ⟨-, hdecoder, -, -, hraw⟩ := hhandle h hmemory
  obtain ⟨-, hdecoder', -, hstaging', -⟩ := hhandle wider hmemory'
  obtain ⟨huniform, hstaging⟩ := hraw (by decide)
  refine ⟨hmemory, hdecoder, huniform, hstaging, hdecoder', ?_, ?_⟩
  · intro hok
    exact absurd (hstaging'.1 hok) (by decide)
  · intro hok
    exact absurd ((hlimit _ _ _ _).1.1 hok) (by decide)

end BatchEval
