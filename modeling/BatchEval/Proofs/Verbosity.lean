/-
What the verbosity decides. The entry of an allocation tells the bytes of all lanes, and they are counted only when it is
shown: six lanes, each of which can be held, may have more bytes together than can be counted. That needs a board of one
cell, and a model of version 6 or newer, which has more global planes than the older ones.

- `RowCounts.totalBytes_eq`: the bytes of all lanes; of all steps the last product is the first not to fit.
- `Arena.allocate_shown`, `Arena.allocate_hidden`: what showing the entry changes.
- `Arena.allocate_shown_ok_iff`: which allocations succeed under a verbosity.
- `Arena.allocate_agrees`, `Arena.allocate_differs`: the boards and versions for which it changes nothing, and the others.
- `Arena.allocate_verbosity`: the allocations that depend on it.
-/
import BatchEval.Proofs.Limits

namespace BatchEval

/-! ## The bytes of all lanes -/

namespace RowCounts

variable {c : RowCounts} {rows : Nat}

/-- the words of all lanes in one row, whether or not they can be counted -/
def words (c : RowCounts) : Nat := c.spatial + c.global + c.policy + c.value + c.score + c.ownership

theorem perRow_eq (hrow : c.words < Size.limit) : c.perRow = .ok c.words := by
  unfold words at hrow
  have hsteps : c.spatial + c.global < Size.limit ∧ c.spatial + c.global + c.policy < Size.limit ∧
      c.spatial + c.global + c.policy + c.value < Size.limit ∧
      c.spatial + c.global + c.policy + c.value + c.score < Size.limit := by omega
  obtain ⟨hglobal, hpolicy, hvalue, hscore⟩ := hsteps
  simp only [perRow, Size.add, hglobal, hpolicy, hvalue, hscore, if_true, Checked.ok_bind]
  exact if_pos hrow

theorem totalBytes_eq (hrow : c.words < Size.limit) (hwords : c.words * rows < Size.limit) :
    c.totalBytes rows =
      if c.words * rows * 4 < Size.limit then .ok (c.words * rows * 4) else .error .productTooLarge := by
  simp only [totalBytes, perRow_eq hrow, Checked.ok_bind, Size.mul, hwords, if_true]
  rfl

end RowCounts

/-! ## Models -/

namespace Descriptor

variable {d : Descriptor} {x y rows : Nat}

/-- the words of all lanes in one row of a board -/
def rowWords (d : Descriptor) (x y : Nat) : Nat := 24 * (x * y) + d.channels.global + d.channels.score + 4

theorem words_rowCounts (d : Descriptor) (x y : Nat) : (d.rowCounts x y).words = d.rowWords x y := by
  simp only [RowCounts.words, rowCounts, rowWords, d.spatial_eq, d.value_eq, d.ownership_eq]
  omega

theorem global_cases (d : Descriptor) :
    d.version ≤ 5 ∧ d.channels.global = 14 ∨ 5 < d.version ∧ 16 ≤ d.channels.global := by
  obtain ⟨table, ht, hc⟩ := d.fits.count_eq
  have hglobal : d.channels.global = table.global := hc .global
  rw [hglobal]
  generalize d.version = v at ht ⊢
  unfold Channels.ofVersion at ht
  split at ht
  all_goals first
    | cases ht; decide
    | cases ht

/-- more than two rows of the spatial lane are needed only on the smallest board, and by the newer versions there -/
theorem rowWords_le (d : Descriptor) (hcell : 0 < x * y) (hd : d.version ≤ 5 ∨ x * y ≠ 1) :
    d.rowWords x y ≤ 2 * (22 * (x * y)) := by
  have hglobal := d.global_le
  have hscore := d.score_le
  unfold rowWords
  rcases hd with hold | hcells
  · rcases d.global_cases with ⟨-, hplanes⟩ | ⟨hnew, -⟩
    · omega
    · omega
  · omega

theorem rowWords_lt (d : Descriptor) (hrows : 0 < rows) (hx : 0 < x) (hy : 0 < y)
    (hwords : 22 * (x * y) * rows ≤ Size.maxWords) :
    d.rowWords x y < Size.limit ∧ d.rowWords x y * rows < Size.limit := by
  have hcell : 0 < x * y := Nat.mul_pos hx hy
  have hglobal := d.global_le
  have hscore := d.score_le
  have hrow : d.rowWords x y ≤ 3 * (22 * (x * y)) := by
    unfold rowWords
    omega
  have hlimit : 3 * Size.maxWords < Size.limit := by decide
  have htotal : d.rowWords x y * rows < Size.limit :=
    calc
      d.rowWords x y * rows ≤ 3 * (22 * (x * y)) * rows := Nat.mul_le_mul_right rows hrow
      _ = 3 * (22 * (x * y) * rows) := Nat.mul_assoc _ _ _
      _ ≤ 3 * Size.maxWords := Nat.mul_le_mul_left 3 hwords
      _ < Size.limit := hlimit
  exact ⟨Nat.lt_of_le_of_lt (Nat.le_mul_of_pos_right _ hrows) htotal, htotal⟩

end Descriptor

/-! ## Allocations -/

namespace Arena

variable {model : Descriptor} {rows x y : Nat} {a : Arena} {v : Verbosity}

/-- an allocation that succeeds succeeds without the entry too, and gives the same arena -/
theorem allocate_hidden (ha : (allocate v model rows x y).value = .ok a) :
    (allocate none model rows x y).value = .ok a := by
  obtain ⟨counts, hext, hcounts, hmade⟩ := ofCounts_of_allocate ha
  have hquiet : LogLevel.debug.shownAt none = false := rfl
  simp only [allocate, hext, hcounts, Checked.ok_bind, hquiet]
  exact hmade

/-- where the entry is shown, the bytes that it tells must be counted first -/
theorem allocate_shown (ha : (allocate none model rows x y).value = .ok a) (v : Verbosity) :
    (allocate v model rows x y).value =
      if LogLevel.debug.shownAt v then (a.counts.totalBytes rows).map fun _ => a else .ok a := by
  obtain ⟨counts, hext, hcounts, hmade⟩ := ofCounts_of_allocate ha
  obtain rfl : counts = a.counts := Except.ok.inj (hcounts.symm.trans (lanes_ok ha).1)
  simp only [allocate, hext, hcounts, Checked.ok_bind]
  split
  · cases htotal : a.counts.totalBytes rows with
    | error f => rfl
    | ok bytes => exact hmade
  · exact hmade

/-- the lanes of an allocated arena are small enough for all steps of the count but the last -/
theorem totalBytes_of_allocate (ha : (allocate v model rows x y).value = .ok a) :
    a.counts.totalBytes rows = if model.rowWords x y * rows * 4 < Size.limit then .ok (model.rowWords x y * rows * 4)
      else .error .productTooLarge := by
  obtain ⟨hrows, hx, hy, hwords⟩ := allocate_ok_iff.1 ⟨a, allocate_hidden ha⟩
  obtain ⟨hrow, hall⟩ := model.rowWords_lt hrows hx hy hwords
  have hcounts := (RowCounts.ofModel_eq_ok_iff.1 (lanes_ok ha).1).2
  rw [← model.words_rowCounts] at hrow hall ⊢
  rw [← hcounts]
  exact RowCounts.totalBytes_eq hrow hall

/-- memory can be had when the words of the spatial lane can, and the bytes of all lanes can be counted if they are told -/
theorem allocate_shown_ok_iff : (∃ a, (allocate v model rows x y).value = .ok a) ↔
    (0 < rows ∧ 0 < x ∧ 0 < y ∧ 22 * (x * y) * rows ≤ Size.maxWords) ∧
      (LogLevel.debug.shownAt v = true → model.rowWords x y * rows * 4 < Size.limit) := by
  rw [← @allocate_ok_iff model]
  constructor
  · rintro ⟨a, ha⟩
    have hidden := allocate_hidden ha
    refine ⟨⟨a, hidden⟩, fun hshown => ?_⟩
    rw [allocate_shown hidden, if_pos hshown, totalBytes_of_allocate hidden] at ha
    split at ha
    · assumption
    · cases ha
  · rintro ⟨⟨a, ha⟩, hbytes⟩
    refine ⟨a, ?_⟩
    rw [allocate_shown ha]
    split
    · rename_i hshown
      rw [totalBytes_of_allocate ha, if_pos (hbytes hshown)]
      rfl
    · rfl

/-- where two rows of the spatial lane are as long as all lanes, the bytes can be counted -/
theorem allocate_agrees (hd : model.version ≤ 5 ∨ x * y ≠ 1) (ha : (allocate none model rows x y).value = .ok a)
    (v : Verbosity) : (allocate v model rows x y).value = .ok a := by
  obtain ⟨-, hx, hy, hwords⟩ := allocate_ok_iff.1 ⟨a, ha⟩
  have hall : model.rowWords x y * rows ≤ 2 * Size.maxWords :=
    calc
      model.rowWords x y * rows ≤ 2 * (22 * (x * y)) * rows :=
        Nat.mul_le_mul_right rows (model.rowWords_le (Nat.mul_pos hx hy) hd)
      _ = 2 * (22 * (x * y) * rows) := Nat.mul_assoc _ _ _
      _ ≤ 2 * Size.maxWords := Nat.mul_le_mul_left 2 hwords
  have hbytes : model.rowWords x y * rows * 4 < Size.limit :=
    Nat.lt_of_le_of_lt (Nat.mul_le_mul_right 4 hall) (by decide)
  rw [allocate_shown ha, totalBytes_of_allocate ha, if_pos hbytes]
  split
  · rfl
  · rfl

/-- the largest capacity of the smallest board: each lane can be held, and their bytes cannot be counted -/
theorem allocate_differs (hnew : 5 < model.version) : ∃ a,
    (allocate none model 104811045873349725 1 1).value = .ok a ∧
      a.counts.totalBytes 104811045873349725 = .error .productTooLarge ∧
      (allocate (some .debug) model 104811045873349725 1 1).value = .error .productTooLarge := by
  obtain ⟨a, ha⟩ : ∃ a, (allocate none model 104811045873349725 1 1).value = .ok a := allocate_ok_iff.2 (by decide)
  have hplanes : 16 ≤ model.channels.global := by
    rcases model.global_cases with ⟨hold, -⟩ | ⟨-, hplanes⟩
    · omega
    · exact hplanes
  have hscore : 0 < model.channels.score := by
    rw [model.score_eq]
    exact model.layout.channels_pos
  have hbytes : ¬model.rowWords 1 1 * 104811045873349725 * 4 < Size.limit := by
    simp only [Descriptor.rowWords, Size.limit]
    omega
  have htotal : a.counts.totalBytes 104811045873349725 = .error .productTooLarge := by
    rw [totalBytes_of_allocate ha, if_neg hbytes]
  refine ⟨a, ha, htotal, ?_⟩
  rw [allocate_shown ha, htotal]
  rfl

/-- **What is shown decides about an allocation on the smallest board only.** Take an allocation that succeeds with logging
off. The bytes of all its lanes can be counted exactly if they are less than 2^64, and of all sums and products the last one
is the first that does not fit. At a verbosity that shows the entry the allocation gives the same arena if they can be
counted, and otherwise stops with that fault; at any other verbosity it is as with logging off. No verbosity makes an
allocation succeed that fails with logging off. So the verbosity decides nothing, for any capacity, exactly if the model's
version is at most 5 or the board has not just one cell. -/
theorem allocate_verbosity (model : Descriptor) (x y : Nat) :
    (∀ rows a, (allocate none model rows x y).value = .ok a →
      a.counts.totalBytes rows =
        (if model.rowWords x y * rows * 4 < 2 ^ 64 then .ok (model.rowWords x y * rows * 4)
          else .error .productTooLarge) ∧
      ∀ v, (allocate v model rows x y).value =
        if LogLevel.debug.shownAt v then (a.counts.totalBytes rows).map fun _ => a else .ok a) ∧
    (∀ v rows a, (allocate v model rows x y).value = .ok a → (allocate none model rows x y).value = .ok a) ∧
    ((∀ v rows, (∃ a, (allocate v model rows x y).value = .ok a) ↔
      ∃ a, (allocate none model rows x y).value = .ok a) ↔ model.version ≤ 5 ∨ x * y ≠ 1) := by
  have hlimit : Size.limit = 2 ^ 64 := by decide
  rw [← hlimit]
  refine ⟨fun rows a ha => ⟨totalBytes_of_allocate ha, allocate_shown ha⟩, fun v rows a => allocate_hidden, ?_⟩
  constructor
  · intro hsame
    rcases Nat.lt_or_ge 5 model.version with hnew | hold
    · right
      intro hcell
      obtain rfl := Nat.eq_one_of_mul_eq_one_right hcell
      obtain rfl := Nat.eq_one_of_mul_eq_one_left hcell
      obtain ⟨a, ha, -, hshown⟩ := allocate_differs hnew
      obtain ⟨b, hb⟩ := (hsame (some .debug) _).2 ⟨a, ha⟩
      rw [hshown] at hb
      cases hb
    · exact .inl hold
  · intro hd v rows
    constructor
    · rintro ⟨a, ha⟩
      exact ⟨a, allocate_hidden ha⟩
    · rintro ⟨a, ha⟩
      exact ⟨a, allocate_agrees hd ha v⟩

/-- a model of version 7 on a board of one cell: with logging off its lanes can be held, and at debug level the product of
their bytes is too large -/
theorem allocate_verbosity_oneCell :
    ∃ d a, (Descriptor.ofVersion "m" 7).value = .ok d ∧
      (allocate none d 104811045873349725 1 1).value = .ok a ∧
      a.counts.totalBytes 104811045873349725 = .error .productTooLarge ∧
      (allocate (some .debug) d 104811045873349725 1 1).value = .error .productTooLarge := by
  have hd : ∃ d, (Descriptor.ofVersion "m" 7).value = .ok d ∧ 5 < d.version := ⟨_, rfl, by decide⟩
  obtain ⟨d, hd, hnew⟩ := hd
  obtain ⟨a, ha, htotal, hshown⟩ := allocate_differs hnew
  exact ⟨d, a, hd, ha, htotal, hshown⟩

end Arena

end BatchEval
