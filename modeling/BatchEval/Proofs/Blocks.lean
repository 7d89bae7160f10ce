/-
Equal rows in a flat buffer. Row `r` of a buffer of rows of width `w` is the block from place `r * w` up to place
`(r + 1) * w`, and blocks with different numbers share no place.

- `cut_eq_ok_iff`: when a raw output can be cut, and that what it gives is a block.
- `block_front`: the rows of a prefix are rows of the whole.
- `block_overwrite_self`, `block_overwrite_ne`: a row written over a row replaces that row and no other.
- `getElem?_block_overwrite`: a write inside a row, place by place.
- `block_join`, `join_blocks`: rows put one after the other, and cut apart again.
-/
import BatchEval.Raw

namespace BatchEval

namespace Flat

variable {a b : Array Word} {w r i n : Nat}

/-- row `r` of a buffer of rows of this width -/
def block (a : Array Word) (width r : Nat) : Array Word := a.extract (r * width) ((r + 1) * width)

theorem row_end_le (w : Nat) (h : r < n) : (r + 1) * w ≤ n * w := Nat.mul_le_mul_right w h

theorem size_block (h : (r + 1) * w ≤ a.size) : (block a w r).size = w := by
  have := Nat.add_one_mul r w
  simp only [block, Array.size_extract]
  omega

theorem getElem?_block (h : i < w) : (block a w r)[i]? = a[r * w + i]? := by
  have := Nat.add_one_mul r w
  simp only [block, Array.getElem?_extract]
  split
  · rfl
  · exact (Array.getElem?_eq_none (by omega)).symm

theorem size_block_le (a : Array Word) (w r : Nat) : (block a w r).size ≤ w := by
  have := Nat.add_one_mul r w
  simp only [block, Array.size_extract]
  omega

/-- two buffers no longer than `n` are the same when they agree on the places below `n` -/
theorem ext_of_size_le (ha : a.size ≤ n) (hb : b.size ≤ n) (h : ∀ i < n, a[i]? = b[i]?) : a = b := by
  apply Array.ext_getElem?
  intro i
  by_cases hi : i < n
  · exact h i hi
  · rw [Array.getElem?_eq_none (by omega), Array.getElem?_eq_none (by omega)]

/-- two buffers that agree on the places of a row have the same row, whole or not -/
theorem block_congr (h : ∀ i < w, a[r * w + i]? = b[r * w + i]?) : block a w r = block b w r := by
  refine ext_of_size_le (size_block_le a w r) (size_block_le b w r) fun i hi => ?_
  rw [getElem?_block hi, getElem?_block hi]
  exact h i hi

theorem block_front (hr : r < n) : block (a.extract 0 (n * w)) w r = block a w r := by
  have hend := row_end_le w hr
  have hsucc := Nat.add_one_mul r w
  apply block_congr
  intro i hi
  rw [Array.getElem?_extract]
  split
  · rw [Nat.zero_add]
  · exact (Array.getElem?_eq_none (by omega)).symm

theorem block_replicate {m : Nat} {z : Word} (hend : (r + 1) * w ≤ m) :
    block (Array.replicate m z) w r = Array.replicate w z := by
  have hsucc := Nat.add_one_mul r w
  refine ext_of_size_le (size_block_le _ w r) (Nat.le_of_eq Array.size_replicate) fun i hi => ?_
  rw [getElem?_block hi, Array.getElem?_replicate, Array.getElem?_replicate, if_pos (by omega), if_pos hi]

/-! ## Writing a row -/

theorem block_overwrite_self (hr : (r + 1) * w ≤ a.size) (hb : b.size = w) :
    block (overwrite a (r * w) b) w r = b := by
  have hsucc := Nat.add_one_mul r w
  have hfit : r * w + b.size ≤ a.size := by omega
  refine ext_of_size_le (size_block_le _ w r) (Nat.le_of_eq hb) fun i hi => ?_
  rw [getElem?_block hi, getElem?_overwrite hfit, if_pos (by omega), Nat.add_sub_cancel_left]

theorem block_overwrite_ne (hr : (r + 1) * w ≤ a.size) (hb : b.size = w) (h : i ≠ r) :
    block (overwrite a (r * w) b) w i = block a w i := by
  have hsucc := Nat.add_one_mul r w
  have hsucc' := Nat.add_one_mul i w
  apply block_congr
  intro j hj
  rw [getElem?_overwrite (by omega), if_neg]
  -- of two different rows one ends before the other starts
  rcases Nat.lt_or_gt_of_ne h with hlt | hgt
  · have := row_end_le w hlt
    omega
  · have := row_end_le w hgt
    omega

/-- a write inside a row changes the written places of that row and no other place of any row -/
theorem getElem?_block_overwrite {source : Array Word} {offset j : Nat} (hr : (r + 1) * w ≤ a.size)
    (hfit : offset + source.size ≤ w) (hj : j < w) :
    (block (overwrite a (r * w + offset) source) w i)[j]? =
      if i = r ∧ offset ≤ j ∧ j < offset + source.size then source[j - offset]? else (block a w i)[j]? := by
  have hsucc := Nat.add_one_mul r w
  have hsucc' := Nat.add_one_mul i w
  rw [getElem?_block hj, getElem?_block hj, getElem?_overwrite (by omega)]
  by_cases hir : i = r
  · subst hir
    have hplace : i * w + j - (i * w + offset) = j - offset := by omega
    rw [hplace]
    by_cases hin : offset ≤ j ∧ j < offset + source.size
    · rw [if_pos (by omega), if_pos ⟨rfl, hin⟩]
    · rw [if_neg (by omega), if_neg fun h => hin h.2]
  · rw [if_neg, if_neg fun h => hir h.1]
    -- of two different rows one ends before the other starts
    rcases Nat.lt_or_gt_of_ne hir with hlt | hgt
    · have := row_end_le w hlt
      omega
    · have := row_end_le w hgt
      omega

/-! ## Rows put one after the other -/

/-- the rows of a list, one after the other -/
def join : List (Array Word) → Array Word
  | [] => #[]
  | row :: rows => row ++ join rows

theorem size_join {rows : List (Array Word)} (h : ∀ row ∈ rows, row.size = w) :
    (join rows).size = rows.length * w := by
  induction rows with
  | nil => simp [join]
  | cons row rows ih =>
    rw [join, Array.size_append, ih fun x hx => h x (List.mem_cons_of_mem _ hx), h row List.mem_cons_self,
      List.length_cons, Nat.add_one_mul, Nat.add_comm]

theorem block_join {rows : List (Array Word)} (h : ∀ row ∈ rows, row.size = w) (hr : r < rows.length) :
    block (join rows) w r = rows[r] := by
  induction rows generalizing r with
  | nil => exact absurd hr (Nat.not_lt_zero r)
  | cons row rows ih =>
    have hrow : row.size = w := h row List.mem_cons_self
    have hrows : ∀ x ∈ rows, x.size = w := fun x hx => h x (List.mem_cons_of_mem _ hx)
    cases r with
    | zero =>
      rw [block, join, Nat.zero_mul, Nat.zero_add, Nat.one_mul, List.getElem_cons_zero, ← hrow]
      simp
    | succ r =>
      rw [List.getElem_cons_succ, ← ih hrows (Nat.lt_of_succ_lt_succ hr)]
      -- the places of row `r + 1` lie behind the first row, which is one width long
      have hsucc := Nat.add_one_mul r w
      have hsucc' := Nat.add_one_mul (r + 1) w
      have hstart : (r + 1) * w - row.size = r * w := by omega
      have hstop : (r + 1 + 1) * w - row.size = (r + 1) * w := by omega
      have hpast : row.size ≤ (r + 1) * w := by omega
      rw [block, block, join, Array.extract_append, hstart, hstop, Array.extract_empty_of_size_le_start hpast,
        Array.empty_append]

/-- two buffers of as many rows are the same when all their rows are -/
theorem ext_block (ha : a.size = n * w) (hb : b.size = n * w) (h : ∀ r < n, block a w r = block b w r) : a = b := by
  refine ext_of_size_le (Nat.le_of_eq ha) (Nat.le_of_eq hb) fun i hi => ?_
  -- place `i` is place `i % w` of row `i / w`
  have hw : 0 < w := Nat.pos_of_ne_zero fun h0 => by simp [h0] at hi
  have hplace : i / w * w + i % w = i := Nat.div_add_mod' i w
  have hrow := congrArg (fun row => row[i % w]?) (h (i / w) (Nat.div_lt_of_lt_mul (by rwa [Nat.mul_comm])))
  simpa only [getElem?_block (Nat.mod_lt i hw), hplace] using hrow

/-- the front rows of a buffer, put one after the other, are its front -/
theorem join_blocks (h : n * w ≤ a.size) : join ((List.range n).map (block a w)) = a.extract 0 (n * w) := by
  have hsizes : ∀ row ∈ (List.range n).map (block a w), row.size = w := by
    intro row hrow
    obtain ⟨r, hr, rfl⟩ := List.mem_map.1 hrow
    exact size_block (Nat.le_trans (row_end_le w (List.mem_range.1 hr)) h)
  have hlen : ((List.range n).map (block a w)).length = n := by simp
  refine ext_block (n := n) (w := w) ?_ ?_ fun r hr => ?_
  · rw [size_join hsizes, hlen]
  · simp [h]
  · rw [block_join hsizes (by rwa [hlen]), block_front hr]
    simp

end Flat

/-! ## Rows of a raw batch -/

namespace RawBatch

theorem cut_eq_ok_iff {a b : Array Word} {w r : Nat} :
    cut a w r = .ok b ↔ r * w < Size.limit ∧ r + 1 < Size.limit ∧ (r + 1) * w < Size.limit ∧ (r + 1) * w ≤ a.size ∧
      Flat.block a w r = b := by
  simp only [cut, Checked.bind_eq_ok_iff, Size.mul_eq_ok_iff, Size.add_eq_ok_iff, Flat.slice_eq_ok_iff]
  refine ⟨?_, ?_⟩
  · intro hok
    obtain ⟨_, ⟨h1, rfl⟩, _, ⟨h2, rfl⟩, _, ⟨h3, rfl⟩, h4, h5⟩ := hok
    exact ⟨h1, h2, h3, h4, h5⟩
  · intro hcond
    obtain ⟨h1, h2, h3, h4, h5⟩ := hcond
    exact ⟨_, ⟨h1, rfl⟩, _, ⟨h2, rfl⟩, _, ⟨h3, rfl⟩, h4, h5⟩

/-- the rows with number `r`, of all heads -/
def blocks (raw : RawBatch) (widths : RawWidths) (r : Nat) : RawBatch :=
  PerHead.ofFn fun k => Flat.block (raw.get k) (widths.get k) r

/-- the outputs of a batch whose rows these are -/
def ofRows (rows : List RawBatch) : RawBatch := PerHead.ofFn fun k => Flat.join (rows.map (·.get k))

/-- every head holds this many rows, and their number of words fits -/
def Holds (raw : RawBatch) (widths : RawWidths) (n : Nat) : Prop :=
  ∀ k, n * widths.get k < Size.limit ∧ n * widths.get k ≤ (raw.get k).size

/-- a row that the heads hold can be cut from all of them -/
theorem row_eq_ok {raw : RawBatch} {widths : RawWidths} {n r : Nat} (h : raw.Holds widths n)
    (hpos : ∀ k, 0 < widths.get k) (hr : r < n) : raw.row widths r = .ok (raw.blocks widths r) := by
  refine PerHead.build_eq_ok_iff.2 fun k => cut_eq_ok_iff.2 ?_
  obtain ⟨hfit, hsize⟩ := h k
  have hend := Flat.row_end_le (widths.get k) hr
  have hle : r + 1 ≤ (r + 1) * widths.get k := Nat.le_mul_of_pos_right _ (hpos k)
  have hsucc := Nat.add_one_mul r (widths.get k)
  rw [blocks, PerHead.get_ofFn]
  exact ⟨by omega, by omega, by omega, by omega, rfl⟩

theorem blocks_of_row_eq_ok {raw part : RawBatch} {widths : RawWidths} {r : Nat} (h : raw.row widths r = .ok part) :
    part = raw.blocks widths r ∧ ∀ k, (part.get k).size = widths.get k := by
  have hcut := fun k => cut_eq_ok_iff.1 (PerHead.build_eq_ok_iff.1 h k)
  refine ⟨PerHead.ext_get fun k => ?_, fun k => ?_⟩
  · rw [blocks, PerHead.get_ofFn]
    exact (hcut k).2.2.2.2.symm
  · rw [← (hcut k).2.2.2.2]
    exact Flat.size_block (hcut k).2.2.2.1

/-- putting rows together and cutting them apart gives the rows back -/
theorem blocks_ofRows {rows : List RawBatch} {widths : RawWidths} {r : Nat}
    (h : ∀ row ∈ rows, ∀ k, (row.get k).size = widths.get k) (hr : r < rows.length) :
    (ofRows rows).blocks widths r = rows[r] := by
  refine PerHead.ext_get fun k => ?_
  have hsizes : ∀ x ∈ rows.map (·.get k), x.size = widths.get k := by
    intro x hx
    obtain ⟨row, hmem, rfl⟩ := List.mem_map.1 hx
    exact h row hmem k
  rw [blocks, ofRows, PerHead.get_ofFn, PerHead.get_ofFn, Flat.block_join hsizes (by simpa using hr), List.getElem_map]

theorem size_ofRows {rows : List RawBatch} {widths : RawWidths}
    (h : ∀ row ∈ rows, ∀ k, (row.get k).size = widths.get k) (k : Head) :
    ((ofRows rows).get k).size = rows.length * widths.get k := by
  rw [ofRows, PerHead.get_ofFn, Flat.size_join, List.length_map]
  intro x hx
  obtain ⟨row, hmem, rfl⟩ := List.mem_map.1 hx
  exact h row hmem k

end RawBatch

end BatchEval
