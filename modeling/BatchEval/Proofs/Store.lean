/-
The rows of an arena as vectors of their own. An arena keeps every lane in one flat buffer and computes where a row lies;
a store has a vector for each lane and row, and knows of no places in buffers. After every history an arena reads as the
store does.

- `Op.word?`, `Store.step`, `Store.run`: what an operation writes at a place of a row, and what a history leaves.
- `Store.getElem?_run`: a vector holds at each place what was last written there, or zero.
- `write_eq`, `getElem?_rowOf_splice`, `StagedBetween`: what a write and a staged batch do to the flat buffers.
- `getElem?_rowOf_step`, `run_holds`: one operation, and then a history, does the same to both.
- `run_refines`: what is read, handed out and refused, and that no size involved is too large.
-/
import BatchEval.Proofs.History
import BatchEval.Proofs.StagedResults

namespace BatchEval

open Word (zero one)

/-! ## The store -/

/-- what an allocation fixes -/
structure Shape where
  model : Descriptor
  rows : Nat
  x : Nat
  y : Nat

namespace Shape

/-- the words in a row of a lane -/
def width (sh : Shape) (k : Lane) : Nat := (sh.model.rowCounts sh.x sh.y).get k

/-- a batch of a handle can be staged -/
structure Takes (sh : Shape) (h : Handle) (raw : RawBatch) (n : Nat) : Prop where
  admits : Decoder.Admits h raw n
  x_eq : sh.x = h.x
  y_eq : sh.y = h.y
  layout_eq : sh.model.layout = h.model.layout
  le_rows : n ≤ sh.rows

instance (sh : Shape) (h : Handle) (raw : RawBatch) (n : Nat) : Decidable (sh.Takes h raw n) :=
  decidable_of_iff (Decoder.Admits h raw n ∧ sh.x = h.x ∧ sh.y = h.y ∧ sh.model.layout = h.model.layout ∧ n ≤ sh.rows)
    ⟨fun ⟨h1, h2, h3, h4, h5⟩ => ⟨h1, h2, h3, h4, h5⟩, fun ⟨h1, h2, h3, h4, h5⟩ => ⟨h1, h2, h3, h4, h5⟩⟩

end Shape

/-- the word of a raw batch that a result row takes at a place: the even places of a policy row, the others as they are -/
def RawBatch.resultWord? (raw : RawBatch) (w : RawWidths) (r p : Nat) : Lane → Option Word
  | .spatial | .global => none
  | .policy => raw.policy[r * w.policy + 2 * p]?
  | .value => raw.value[r * w.value + p]?
  | .score => raw.misc[r * w.misc + p]?
  | .ownership => raw.ownership[r * w.ownership + p]?

namespace Arena.Op

/-- the word that an operation writes at a place of a row, if it writes one there; a write that does not fit its row and
a batch that cannot be staged write nothing -/
def word? (sh : Shape) (k : Lane) (r p : Nat) : Op → Option Word
  | .write j i offset data =>
    if (i < sh.rows ∧ offset + data.size ≤ sh.width j) ∧ k = j ∧ r = i ∧ offset ≤ p then data[p - offset]? else none
  | .flag _ => none
  | .stage d raw n => if sh.Takes d.handle raw n ∧ r < n then raw.resultWord? d.widths r p k else none

/-- the flags that an operation sets, if it sets them -/
def flags? : Op → Option Symmetries
  | .flag s => some s
  | _ => none

/-- staging is done by decoders that were made for a handle -/
def Made : Op → Prop
  | .stage d _ _ => ∃ h, Decoder.ofHandle h = .ok d
  | _ => True

end Arena.Op

/-- a vector for each lane and row, and the flags -/
structure Store where
  vector : Lane → Nat → Array Word
  symmetries : Symmetries

namespace Store

/-- vectors of zeros -/
def blank (sh : Shape) : Store := ⟨fun k _ => Array.replicate (sh.width k) zero, {}⟩

def step (sh : Shape) (s : Store) (o : Arena.Op) : Store where
  vector k r := (s.vector k r).mapIdx fun p old => (o.word? sh k r p).getD old
  symmetries := o.flags?.getD s.symmetries

def run (sh : Shape) (s : Store) (ops : List Arena.Op) : Store := ops.foldl (step sh) s

/-- the first `n` vectors of each input lane, one after the other, with the flags -/
def packed (sh : Shape) (s : Store) (n : Nat) : Inputs where
  batch := n
  x := sh.x
  y := sh.y
  spatial := Flat.join ((List.range n).map (s.vector .spatial))
  global := Flat.join ((List.range n).map (s.vector .global))
  symmetries := s.symmetries

/-- a vector that an operation writes nothing to stays as it is -/
theorem vector_step_of_none {sh : Shape} {o : Arena.Op} {k : Lane} {r : Nat} (h : ∀ p, o.word? sh k r p = none)
    (s : Store) : (s.step sh o).vector k r = s.vector k r := by
  apply Array.ext_getElem?
  simp [step, h]

theorem size_run (sh : Shape) (s : Store) (ops : List Arena.Op) (k : Lane) (r : Nat) :
    ((s.run sh ops).vector k r).size = (s.vector k r).size := by
  induction ops generalizing s with
  | nil => rfl
  | cons o ops ih =>
    calc
      ((s.run sh (o :: ops)).vector k r).size = ((s.step sh o).vector k r).size := ih (s.step sh o)
      _ = (s.vector k r).size := Array.size_mapIdx

/-- a vector holds at each place what was last written there, or zero -/
theorem getElem?_run (sh : Shape) (ops : List Arena.Op) (k : Lane) (r p : Nat) :
    (((blank sh).run sh ops).vector k r)[p]? =
      if p < sh.width k then some ((latest (·.word? sh k r p) ops).getD zero) else none := by
  have hblank : ((blank sh).vector k r).size = sh.width k := Array.size_replicate
  by_cases hp : p < sh.width k
  · have hstep : ∀ (s : Store) (o : Arena.Op), (s.vector k r).size = sh.width k →
        ((s.step sh o).vector k r)[p]? = (o.word? sh k r p).or (s.vector k r)[p]? := by
      intro s o hs
      simp only [step, Array.getElem?_mapIdx, Array.getElem?_eq_getElem (hs ▸ hp), Option.map_some, Option.or_some]
    have hread := read_foldl (fun s : Store => (s.vector k r).size = sh.width k) (fun s => (s.vector k r)[p]?)
      (fun s o hs => Array.size_mapIdx.trans hs) hstep hblank ops
    rw [if_pos hp, run, hread, show ((blank sh).vector k r)[p]? = some zero by simp [blank, hp], Option.or_some]
  · rw [if_neg hp]
    exact Array.getElem?_eq_none (by rw [size_run, hblank]; omega)

theorem symmetries_run (sh : Shape) (s : Store) (ops : List Arena.Op) :
    (s.run sh ops).symmetries = (latest (·.flags?) ops).getD s.symmetries := by
  have hstep : ∀ (s : Store) (o : Arena.Op), True →
      some (s.step sh o).symmetries = (o.flags?).or (some s.symmetries) := fun s o _ => Option.or_some.symm
  have hread := read_foldl (fun _ => True) (fun s => some s.symmetries) (fun s o _ => trivial) hstep (s := s) trivial ops
  rw [Option.or_some] at hread
  exact Option.some.inj hread

end Store

/-! ## Writes and staged batches in flat buffers -/

namespace Arena

variable {a b c : Arena} {model : Descriptor} {h : Handle} {k : Lane} {r n : Nat} {data : Array Word}

/-- the arena with words written into a row from `offset` on -/
def splice (a : Arena) (k : Lane) (r offset : Nat) (data : Array Word) : Arena :=
  { a with cells := a.cells.set k (Flat.overwrite (a.cells.get k) (r * a.counts.get k + offset) data) }

/-- a write is done exactly if there is the row and the words do not leave it -/
theorem write_eq (ha : a.MadeFor model) (k : Lane) (r offset : Nat) (data : Array Word) :
    a.write k r offset data =
      if r < a.rows then
        if offset + data.size ≤ a.counts.get k then .ok (a.splice k r offset data)
        else .error (.refused ⟨a.counts.get k⟩)
      else .error (.fault (.rowMissing r a.rows)) := by
  by_cases hr : r < a.rows
  · have hspan : a.span r (a.counts.get k) = .ok (r * a.counts.get k, (r + 1) * a.counts.get k) :=
      (span_eq_ok_iff ha).2 ⟨hr, rfl⟩
    rw [if_pos hr, write, hspan, row_eq_ok ha hr]
    simp only [Halt.ofFault, Checked.ok_bind, size_rowOf ha hr]
    rfl
  · rw [if_neg hr, write, span, if_neg hr]
    rfl

theorem step_write (ha : a.MadeFor model) (k : Lane) (r offset : Nat) (data : Array Word) :
    a.step (.write k r offset data) =
      if r < a.rows ∧ offset + data.size ≤ a.counts.get k then a.splice k r offset data else a := by
  simp only [step, write_eq ha]
  by_cases hr : r < a.rows
  · by_cases hfit : offset + data.size ≤ a.counts.get k
    · simp only [hr, hfit, if_true, and_self]
    · simp only [hr, hfit, if_true, if_false, and_false]
  · simp only [hr, if_false, false_and]

/-- words written into a row show at their places of that row, and nowhere else -/
theorem getElem?_rowOf_splice {offset p : Nat} (ha : a.MadeFor model) (hr : r < a.rows)
    (hfit : offset + data.size ≤ a.counts.get k) {j : Lane} {i : Nat} (hp : p < a.counts.get j) :
    ((a.splice k r offset data).rowOf j i)[p]? =
      if j = k ∧ i = r ∧ offset ≤ p ∧ p < offset + data.size then data[p - offset]? else (a.rowOf j i)[p]? := by
  unfold rowOf splice
  simp only [PerLane.get_set]
  by_cases hj : j = k
  · subst hj
    simp only [if_true, true_and]
    exact Flat.getElem?_block_overwrite (ha.end_le hr j) hfit hp
  · simp [hj]

theorem rowOf_splice_ne {offset : Nat} (ha : a.MadeFor model) (hr : r < a.rows)
    (hfit : offset + data.size ≤ a.counts.get k) {j : Lane} {i : Nat} (hne : j ≠ k ∨ i ≠ r) :
    (a.splice k r offset data).rowOf j i = a.rowOf j i := by
  have hnew : ((a.splice k r offset data).rowOf j i).size ≤ a.counts.get j := Flat.size_block_le _ _ _
  refine Flat.ext_of_size_le hnew (Flat.size_block_le _ _ _) fun p hp => ?_
  rw [getElem?_rowOf_splice ha hr hfit hp, if_neg]
  intro hin
  exact hne.elim (fun hj => hj hin.1) fun hi => hi hin.2.1

/-- `b` is `a` but for results in the rows from `lo` up to `hi` -/
structure StagedBetween (a b : Arena) (lo hi : Nat) : Prop where
  rows_eq : b.rows = a.rows
  x_eq : b.x = a.x
  y_eq : b.y = a.y
  symmetries_eq : b.symmetries = a.symmetries
  rowOf_eq : ∀ k i, k = .spatial ∨ k = .global ∨ i < lo ∨ hi ≤ i → b.rowOf k i = a.rowOf k i

namespace StagedBetween

theorem refl (a : Arena) (lo hi : Nat) : StagedBetween a a lo hi := ⟨rfl, rfl, rfl, rfl, fun _ _ _ => rfl⟩

theorem trans {lo hi : Nat} (hab : StagedBetween a b lo hi) (hbc : StagedBetween b c lo hi) :
    StagedBetween a c lo hi where
  rows_eq := hbc.rows_eq.trans hab.rows_eq
  x_eq := hbc.x_eq.trans hab.x_eq
  y_eq := hbc.y_eq.trans hab.y_eq
  symmetries_eq := hbc.symmetries_eq.trans hab.symmetries_eq
  rowOf_eq k i hi := (hbc.rowOf_eq k i hi).trans (hab.rowOf_eq k i hi)

theorem mono {lo hi lo' hi' : Nat} (h : StagedBetween a b lo hi) (hlo : lo' ≤ lo) (hhi : hi ≤ hi') :
    StagedBetween a b lo' hi' := by
  refine { h with rowOf_eq := fun k i hi => h.rowOf_eq k i ?_ }
  rcases hi with hk | hk | hlt | hle
  · exact Or.inl hk
  · exact Or.inr (Or.inl hk)
  · exact Or.inr (Or.inr (Or.inl (by omega)))
  · exact Or.inr (Or.inr (Or.inr (by omega)))

end StagedBetween

theorem stagedBetween_of_replaceRow (ha : a.MadeFor model) (hk : k ≠ .spatial ∧ k ≠ .global)
    (hb : a.replaceRow k r data = .ok b) : StagedBetween a b r (r + 1) := by
  obtain ⟨hf, rfl⟩ := (replaceRow_eq_ok_iff ha).1 hb
  refine ⟨rfl, rfl, rfl, rfl, fun j i hj => ?_⟩
  rw [rowOf_setRow ha hf, if_neg]
  intro hcase
  obtain ⟨rfl, rfl⟩ := hcase
  rcases hj with hj | hj | hlt | hle
  · exact hk.1 hj
  · exact hk.2 hj
  · exact Nat.lt_irrefl _ hlt
  · exact Nat.not_succ_le_self _ hle

/-- a row touches nothing but its own results, also if it is left half written -/
theorem stageRow_stagedBetween (ha : a.MadeFor model) (d : Decoder) (raw : RawBatch) (r : Nat) :
    StagedBetween a (d.stageRow raw r a).1 r (r + 1) := by
  unfold Decoder.stageRow
  split
  · exact .refl a r _
  · -- each lane is a result lane, and finds an arena of the model to be replaced in
    refine (replaceLanes_inv (P := fun b => b.MadeFor model ∧ StagedBetween a b r (r + 1)) ?_ ⟨ha, .refl a r _⟩).2
    intro lane hmem data b c hb hc
    have hlane : lane.1 ≠ .spatial ∧ lane.1 ≠ .global := by
      simp only [List.mem_cons, List.not_mem_nil, or_false] at hmem
      rcases hmem with rfl | rfl | rfl | rfl <;> exact ⟨nofun, nofun⟩
    exact ⟨replaceRow_madeFor hb.1 hc, hb.2.trans (stagedBetween_of_replaceRow hb.1 hlane hc)⟩

theorem stageRows_stagedBetween (ha : a.MadeFor model) (d : Decoder) (raw : RawBatch) (count : Nat) :
    StagedBetween a (d.stageRows raw r count a).1 r (r + count) := by
  refine (stageRows_inv (P := fun b => b.MadeFor model ∧ StagedBetween a b r (r + count)) ?_ ⟨ha, .refl a r _⟩).2
  intro i b hlo hhi hb
  exact ⟨stageRow_madeFor hb.1 d raw i, hb.2.trans ((stageRow_stagedBetween hb.1 d raw i).mono hlo hhi)⟩

/-- staging touches nothing but the results of the rows of its batch, however it ends -/
theorem stage_stagedBetween (ha : a.MadeFor model) (d : Decoder) (raw : RawBatch) (n : Nat) :
    StagedBetween a (d.stage raw n a).1 0 n := by
  unfold Decoder.stage
  split
  · exact .refl a 0 n
  · have hrows := stageRows_stagedBetween (r := 0) ha d raw n
    rwa [Nat.zero_add] at hrows

/-! ## One operation on both sides -/

/-- the arena was allocated with this shape -/
structure HasShape (a : Arena) (sh : Shape) : Prop where
  madeFor : a.MadeFor sh.model
  rows_eq : a.rows = sh.rows
  x_eq : a.x = sh.x
  y_eq : a.y = sh.y

variable {sh : Shape}

theorem HasShape.width_eq (hs : a.HasShape sh) (k : Lane) : a.counts.get k = sh.width k := by
  rw [hs.madeFor.counts_eq, hs.x_eq, hs.y_eq, Shape.width]

theorem step_hasShape (hs : a.HasShape sh) (o : Op) : (a.step o).HasShape sh := by
  have hmade := step_madeFor hs.madeFor o
  cases o with
  | write k r offset data =>
    rw [step_write hs.madeFor] at hmade ⊢
    split at hmade
    · rename_i hfits
      rw [if_pos hfits]
      exact ⟨hmade, hs.rows_eq, hs.x_eq, hs.y_eq⟩
    · rename_i hno
      rw [if_neg hno]
      exact hs
  | flag s => exact ⟨hmade, hs.rows_eq, hs.x_eq, hs.y_eq⟩
  | stage d raw n =>
    have hstage := stage_stagedBetween hs.madeFor d raw n
    exact ⟨hmade, hstage.rows_eq.trans hs.rows_eq, hstage.x_eq.trans hs.x_eq, hstage.y_eq.trans hs.y_eq⟩

theorem run_hasShape (hs : a.HasShape sh) (ops : List Op) : (a.run ops).HasShape sh := by
  induction ops generalizing a with
  | nil => exact hs
  | cons o ops ih => exact ih (step_hasShape hs o)

theorem size_rowOf_eq_width (hs : a.HasShape sh) (k : Lane) (hr : r < sh.rows) :
    (a.rowOf k r).size = sh.width k := by
  rw [size_rowOf hs.madeFor (by rwa [hs.rows_eq]), hs.width_eq]

theorem accepts_iff (hs : a.HasShape sh) {raw : RawBatch} :
    sh.Takes h raw n ↔ Decoder.Admits h raw n ∧ Decoder.Accepts h a ∧ n ≤ a.rows := by
  rw [hs.rows_eq]
  refine ⟨fun ht => ⟨ht.admits, ⟨hs.x_eq.trans ht.x_eq, hs.y_eq.trans ht.y_eq, ?_⟩, ht.le_rows⟩, ?_⟩
  · exact hs.madeFor.layout_eq.trans ht.layout_eq
  · rintro ⟨had, hacc, hn⟩
    exact ⟨had, hs.x_eq.symm.trans hacc.x_eq, hs.y_eq.symm.trans hacc.y_eq,
      hs.madeFor.layout_eq.symm.trans hacc.layout_eq, hn⟩

/-- a batch that cannot be staged leaves the arena as it was -/
theorem stage_eq_self (hs : a.HasShape sh) {raw : RawBatch} (hno : ¬sh.Takes h raw n) :
    (h.decoder.stage raw n a).1 = a := by
  unfold Decoder.stage
  split
  · rfl
  · rename_i hok
    obtain ⟨_, hbatch, harena⟩ := Checked.bind_eq_ok_iff.1 hok
    obtain ⟨hacc, hn⟩ := Decoder.checkArena_eq_ok_iff.1 harena
    exact absurd ((accepts_iff hs).2 ⟨Decoder.checkBatch_eq_ok_iff.1 hbatch, hacc, hn⟩) hno

/-- a score row has the first misc channel, and the second one if the layout has it -/
theorem StagedRow.ReadFrom.score_eq {t : StagedRow} {part : RawBatch} {p : Nat} (hread : t.ReadFrom part)
    (hp : p < t.layout.channels) : t.score[p]? = part.misc[p]? := by
  cases hlayout : t.layout with
  | meanOnly =>
    rw [hlayout] at hp
    rw [Nat.lt_one_iff.1 hp]
    exact hread.mean
  | meanAndSecondMoment =>
    have hp' : p < 2 := by rwa [hlayout] at hp
    rcases Nat.eq_zero_or_pos p with hzero | hpos
    · rw [hzero]
      exact hread.mean
    · have hone : p = 1 := by omega
      rw [hone]
      exact hread.meanSq hlayout

/-- a result row of a staged batch takes the words of the raw rows with its number -/
theorem getElem?_rowOf_stage (hs : a.HasShape sh) {raw : RawBatch} (ht : sh.Takes h raw n) (hr : r < n) {p : Nat}
    (hp : p < sh.width k) (hk : k ≠ .spatial ∧ k ≠ .global) :
    ((h.decoder.stage raw n a).1.rowOf k r)[p]? = raw.resultWord? h.rawWidths r p k := by
  obtain ⟨had, hacc, hn⟩ := (accepts_iff hs).1 ht
  obtain ⟨-, hrows⟩ := Decoder.stage_reads hs.madeFor hacc had hn
  obtain ⟨s, hstaged, hsize, hlayout, hread⟩ := hrows r hr
  have hshape : (h.decoder.stage raw n a).1.HasShape sh := step_hasShape hs (.stage h.decoder raw n)
  have hr' : r < (h.decoder.stage raw n a).1.rows := by
    rw [hshape.rows_eq, ← hs.rows_eq]
    omega
  rw [staged_eq_ok hshape.madeFor hr'] at hstaged
  cases hstaged
  have harea : sh.x * sh.y = h.x * h.y := by rw [ht.x_eq, ht.y_eq]
  cases k with
  | spatial => exact absurd rfl hk.1
  | global => exact absurd rfl hk.2
  | policy =>
    have hp' : p < 1 + sh.x * sh.y := hp
    have hwide : 2 * p < h.rawWidths.policy := by
      show 2 * p < 2 * (h.x * h.y + 1)
      omega
    have hread' := hread.policy p (by rw [hsize, hs.madeFor.policy_eq, hs.x_eq, hs.y_eq]; exact hp')
    exact hread'.trans (Flat.getElem?_block hwide)
  | value =>
    have hp' : p < h.rawWidths.value := by
      show p < h.model.channels.value
      rw [h.model.value_eq, ← sh.model.value_eq]
      exact hp
    exact (congrArg (·[p]?) hread.value).trans (Flat.getElem?_block hp')
  | ownership =>
    have hp' : p < h.rawWidths.ownership := by
      show p < h.x * h.y
      rw [← harea, ← Nat.one_mul (sh.x * sh.y), ← sh.model.ownership_eq]
      exact hp
    exact (congrArg (·[p]?) hread.ownership).trans (Flat.getElem?_block hp')
  | score =>
    have hp' : p < sh.model.layout.channels := by
      rw [← sh.model.score_eq]
      exact hp
    have hmisc : p < h.rawWidths.misc := by
      have := h.model.layout_le_misc
      rw [ht.layout_eq] at hp'
      exact Nat.lt_of_lt_of_le hp' this
    exact (hread.score_eq (by rwa [hlayout, hs.madeFor.layout_eq])).trans (Flat.getElem?_block hmisc)

theorem getElem?_rowOf_step_write (hs : a.HasShape sh) (j : Lane) (i offset : Nat) (data : Array Word) {p : Nat}
    (hp : p < sh.width k) : ((a.step (.write j i offset data)).rowOf k r)[p]? =
      (Op.word? sh k r p (.write j i offset data)).or (a.rowOf k r)[p]? := by
  rw [step_write hs.madeFor, hs.rows_eq, hs.width_eq]
  by_cases hfits : i < sh.rows ∧ offset + data.size ≤ sh.width j
  · have hi : i < a.rows := by rw [hs.rows_eq]; exact hfits.1
    have hfit : offset + data.size ≤ a.counts.get j := by rw [hs.width_eq]; exact hfits.2
    have hplace : p < a.counts.get k := by rw [hs.width_eq]; exact hp
    rw [if_pos hfits, getElem?_rowOf_splice hs.madeFor hi hfit hplace]
    simp only [Op.word?, hfits, and_self, true_and]
    by_cases hin : k = j ∧ r = i ∧ offset ≤ p
    · rw [if_pos hin]
      have hle := hin.2.2
      by_cases hend : p < offset + data.size
      · rw [if_pos ⟨hin.1, hin.2.1, hle, hend⟩, Array.getElem?_eq_getElem (by omega), Option.some_or]
      · have hnone : data[p - offset]? = none := Array.getElem?_eq_none (by omega)
        rw [if_neg fun h => hend h.2.2.2, hnone, Option.none_or]
    · rw [if_neg hin, if_neg fun h => hin ⟨h.1, h.2.1, h.2.2.1⟩, Option.none_or]
  · rw [if_neg hfits, Op.word?, if_neg fun h => hfits h.1, Option.none_or]

theorem getElem?_rowOf_step_stage (hs : a.HasShape sh) (h : Handle) (raw : RawBatch) (n : Nat) (hr : r < sh.rows)
    {p : Nat} (hp : p < sh.width k) : ((a.step (.stage h.decoder raw n)).rowOf k r)[p]? =
      (Op.word? sh k r p (.stage h.decoder raw n)).or (a.rowOf k r)[p]? := by
  have hshape := step_hasShape hs (.stage h.decoder raw n)
  have hframe := stage_stagedBetween hs.madeFor h.decoder raw n
  have hwords : Op.word? sh k r p (.stage h.decoder raw n) =
    if sh.Takes h raw n ∧ r < n then raw.resultWord? h.rawWidths r p k else none := rfl
  rw [hwords]
  simp only [step] at hshape ⊢
  by_cases ht : sh.Takes h raw n
  · by_cases hrn : r < n
    · rw [if_pos ⟨ht, hrn⟩]
      by_cases hk : k = .spatial ∨ k = .global
      · have hnone : raw.resultWord? h.rawWidths r p k = none := by rcases hk with rfl | rfl <;> rfl
        rw [hnone, Option.none_or, hframe.rowOf_eq k r (hk.imp_right Or.inl)]
      · have hthere : p < ((h.decoder.stage raw n a).1.rowOf k r).size := by
          rw [size_rowOf_eq_width hshape k hr]
          exact hp
        rw [← getElem?_rowOf_stage hs ht hrn hp (not_or.1 hk), Array.getElem?_eq_getElem hthere, Option.some_or]
    · rw [if_neg fun h => hrn h.2, Option.none_or,
        hframe.rowOf_eq k r (Or.inr (Or.inr (Or.inr (Nat.le_of_not_lt hrn))))]
  · rw [if_neg fun h => ht h.1, Option.none_or, stage_eq_self hs ht]

/-- one operation: a place of a row holds the word that it writes there, or else what it held before -/
theorem getElem?_rowOf_step (hs : a.HasShape sh) {o : Op} (ho : o.Made) (hr : r < sh.rows) {p : Nat}
    (hp : p < sh.width k) : ((a.step o).rowOf k r)[p]? = (o.word? sh k r p).or (a.rowOf k r)[p]? := by
  cases o with
  | write j i offset data => exact getElem?_rowOf_step_write hs j i offset data hp
  | flag s => rfl
  | stage d raw n =>
    obtain ⟨h, hd⟩ := ho
    obtain ⟨-, rfl⟩ := Decoder.ofHandle_eq_ok_iff.1 hd
    exact getElem?_rowOf_step_stage hs h raw n hr hp

theorem symmetries_step (hs : a.HasShape sh) (o : Op) : (a.step o).symmetries = o.flags?.getD a.symmetries := by
  cases o with
  | write k r offset data =>
    rw [step_write hs.madeFor]
    split <;> rfl
  | flag s => rfl
  | stage d raw n => exact (stage_stagedBetween hs.madeFor d raw n).symmetries_eq

/-- the rows of the arena are the vectors of the store -/
structure Holds (a : Arena) (sh : Shape) (s : Store) : Prop where
  shape : a.HasShape sh
  rowOf_eq : ∀ k r, r < sh.rows → a.rowOf k r = s.vector k r
  symmetries_eq : a.symmetries = s.symmetries

theorem step_holds {s : Store} (h : a.Holds sh s) {o : Op} (ho : o.Made) : (a.step o).Holds sh (s.step sh o) := by
  have hshape := step_hasShape h.shape o
  refine ⟨hshape, fun k r hr => ?_, ?_⟩
  · have hold : (s.vector k r).size = sh.width k := by
      rw [← h.rowOf_eq k r hr, size_rowOf_eq_width h.shape k hr]
    have hnew : ((s.step sh o).vector k r).size = sh.width k := Array.size_mapIdx.trans hold
    refine Flat.ext_of_size_le (Nat.le_of_eq (size_rowOf_eq_width hshape k hr)) (Nat.le_of_eq hnew) fun p hp => ?_
    rw [getElem?_rowOf_step h.shape ho hr hp, h.rowOf_eq k r hr]
    simp only [Store.step, Array.getElem?_mapIdx, Array.getElem?_eq_getElem (hold ▸ hp), Option.map_some, Option.or_some]
  · rw [symmetries_step h.shape, h.symmetries_eq]
    rfl

theorem run_holds {s : Store} (h : a.Holds sh s) {ops : List Op} (hops : ∀ o ∈ ops, o.Made) :
    (a.run ops).Holds sh (s.run sh ops) := by
  induction ops generalizing a s with
  | nil => exact h
  | cons o ops ih =>
    exact ih (step_holds h (hops o List.mem_cons_self)) fun x hx => hops x (List.mem_cons_of_mem o hx)

/-! ## What can be seen -/

/-- nothing that can be read, handed out or refused tells the arena from the store, and no size involved is too large -/
structure Refines (a : Arena) (sh : Shape) (s : Store) : Prop where
  size : ∀ k, (a.cells.get k).size = sh.rows * sh.width k
  read : ∀ k r, a.row k r = if r < sh.rows then .ok (s.vector k r) else .error (.rowMissing r sh.rows)
  write : ∀ k r offset data, a.write k r offset data =
    if r < sh.rows then
      if offset + data.size ≤ sh.width k then .ok (a.step (.write k r offset data))
      else .error (.refused ⟨sh.width k⟩)
    else .error (.fault (.rowMissing r sh.rows))
  flags : a.symmetries = s.symmetries
  inputs : ∀ n, a.inputs n =
    if n = 0 then .error .emptyBatch
    else if sh.rows < n then .error (.batchTooLarge n sh.rows)
    else .ok (s.packed sh n)
  staged : ∀ r, a.staged r =
    if r < sh.rows then
      .ok ⟨s.vector .policy r, s.vector .value r, s.vector .score r, s.vector .ownership r, sh.model.layout⟩
    else .error (.rowMissing r sh.rows)
  /-- where a row starts and stops -/
  places : ∀ k r, r < sh.rows → r * sh.width k < Size.limit ∧ (r + 1) * sh.width k < Size.limit
  bytes : ∀ k, Size.bytes (a.cells.get k).size = .ok (sh.rows * sh.width k * Size.wordBytes)

theorem row_of_rows_le (k : Lane) (hr : a.rows ≤ r) : a.row k r = .error (.rowMissing r a.rows) := by
  rw [row, span, if_neg (Nat.not_lt.2 hr)]
  rfl

theorem Holds.packed_eq {s : Store} (h : a.Holds sh s) (hn : n ≤ sh.rows) : a.view n = s.packed sh n := by
  have hlane : ∀ k, (a.cells.get k).extract 0 (n * a.counts.get k) = Flat.join ((List.range n).map (s.vector k)) := by
    intro k
    rw [h.shape.madeFor.front_eq (by rwa [h.shape.rows_eq])]
    exact congrArg Flat.join <| List.map_congr_left fun r hr =>
      h.rowOf_eq k r (Nat.lt_of_lt_of_le (List.mem_range.1 hr) hn)
  have hspatial := hlane .spatial
  have hglobal := hlane .global
  simp only [view, Store.packed, h.shape.x_eq, h.shape.y_eq, h.symmetries_eq]
  rw [← hspatial, ← hglobal]
  rfl

theorem HasShape.words_le (hs : a.HasShape sh) (k : Lane) : sh.rows * sh.width k ≤ Size.maxWords := by
  rw [← hs.rows_eq, ← hs.width_eq]
  exact hs.madeFor.words_le k

theorem HasShape.places (hs : a.HasShape sh) (k : Lane) (hr : r < sh.rows) :
    r * sh.width k < Size.limit ∧ (r + 1) * sh.width k < Size.limit := by
  have hend := Flat.row_end_le (sh.width k) hr
  have hsucc := Nat.add_one_mul r (sh.width k)
  have hwords := hs.words_le k
  have hlimit := Size.maxWords_lt_limit
  omega

theorem HasShape.bytes_eq (hs : a.HasShape sh) (k : Lane) :
    Size.bytes (a.cells.get k).size = .ok (sh.rows * sh.width k * Size.wordBytes) := by
  have hsmall : Size.maxWords * Size.wordBytes < Size.limit := by decide
  rw [hs.madeFor.size_eq, hs.rows_eq, hs.width_eq]
  exact Size.mul_eq_ok_iff.2 ⟨Nat.lt_of_le_of_lt (Nat.mul_le_mul_right _ (hs.words_le k)) hsmall, rfl⟩

theorem HasShape.write_eq (hs : a.HasShape sh) (k : Lane) (r offset : Nat) (data : Array Word) :
    a.write k r offset data =
      if r < sh.rows then
        if offset + data.size ≤ sh.width k then .ok (a.step (.write k r offset data))
        else .error (.refused ⟨sh.width k⟩)
      else .error (.fault (.rowMissing r sh.rows)) := by
  rw [Arena.write_eq hs.madeFor, step_write hs.madeFor, hs.rows_eq, hs.width_eq]
  by_cases hr : r < sh.rows
  · by_cases hfit : offset + data.size ≤ sh.width k
    · simp only [hr, hfit, if_true, and_self]
    · simp only [hr, hfit, if_true, if_false]
  · simp only [hr, if_false]

namespace Holds

variable {s : Store}

theorem row_eq (h : a.Holds sh s) (k : Lane) (r : Nat) :
    a.row k r = if r < sh.rows then .ok (s.vector k r) else .error (.rowMissing r sh.rows) := by
  have hrows := h.shape.rows_eq
  by_cases hr : r < sh.rows
  · rw [if_pos hr, row_eq_ok h.shape.madeFor (by rwa [hrows]), h.rowOf_eq k r hr]
  · rw [if_neg hr, ← hrows]
    exact row_of_rows_le k (by rw [hrows]; exact Nat.not_lt.1 hr)

theorem inputs_eq (h : a.Holds sh s) (n : Nat) :
    a.inputs n = if n = 0 then .error .emptyBatch else if sh.rows < n then .error (.batchTooLarge n sh.rows)
      else .ok (s.packed sh n) := by
  rw [Arena.inputs_eq h.shape.madeFor, h.shape.rows_eq]
  by_cases hn : sh.rows < n
  · simp only [hn, if_true]
  · rw [h.packed_eq (Nat.le_of_not_lt hn)]

theorem staged_eq (h : a.Holds sh s) (r : Nat) :
    a.staged r = if r < sh.rows then
      .ok ⟨s.vector .policy r, s.vector .value r, s.vector .score r, s.vector .ownership r, sh.model.layout⟩
    else .error (.rowMissing r sh.rows) := by
  simp only [staged, h.row_eq, h.shape.madeFor.layout_eq]
  by_cases hr : r < sh.rows
  · simp only [hr, if_true, Checked.ok_bind]
    rfl
  · simp only [hr, if_false, Checked.error_bind]

theorem refines (h : a.Holds sh s) : a.Refines sh s where
  size k := by rw [h.shape.madeFor.size_eq, h.shape.rows_eq, h.shape.width_eq]
  read := h.row_eq
  write := h.shape.write_eq
  flags := h.symmetries_eq
  inputs := h.inputs_eq
  staged := h.staged_eq
  places k _ hr := h.shape.places k hr
  bytes := h.shape.bytes_eq

end Holds

theorem blank_holds {v : Verbosity} {sh : Shape} {start : Arena}
    (halloc : (allocate v sh.model sh.rows sh.x sh.y).value = .ok start) : start.Holds sh (Store.blank sh) := by
  obtain ⟨hmade, hrows, hx, hy⟩ := allocate_madeFor halloc
  obtain ⟨hflags, hzeros⟩ := allocate_zeros halloc
  have hs : start.HasShape sh := ⟨hmade, hrows, hx, hy⟩
  refine ⟨hs, fun k r hr => ?_, hflags⟩
  rw [rowOf, hzeros, hrows, hs.width_eq]
  exact Flat.block_replicate (Flat.row_end_le _ hr)

/-- **An arena is its rows.** After every history of an allocated arena, calls that fail among them, all that can be read,
handed out or refused is what a store of separate vectors gives: vectors of zeros, each of which holds at each place what
was last written there. A write to one row changes no other row, and no flag. -/
theorem run_refines {v : Verbosity} {sh : Shape} {start : Arena}
    (halloc : (allocate v sh.model sh.rows sh.x sh.y).value = .ok start) {ops : List Op} (hops : ∀ o ∈ ops, o.Made) :
    (start.run ops).Refines sh ((Store.blank sh).run sh ops) ∧
      (∀ k r p, (((Store.blank sh).run sh ops).vector k r)[p]? =
        if p < sh.width k then some ((latest (·.word? sh k r p) ops).getD zero) else none) ∧
      ((Store.blank sh).run sh ops).symmetries = (latest (·.flags?) ops).getD {} ∧
      ∀ k r offset data, ((start.run ops).step (.write k r offset data)).symmetries = (start.run ops).symmetries ∧
        ∀ j i, j ≠ k ∨ i ≠ r → ((start.run ops).step (.write k r offset data)).row j i = (start.run ops).row j i := by
  have hholds := run_holds (blank_holds halloc) hops
  refine ⟨hholds.refines, Store.getElem?_run sh ops, Store.symmetries_run sh _ ops, fun k r offset data => ⟨?_, ?_⟩⟩
  · exact symmetries_step hholds.shape (.write k r offset data)
  · intro j i hne
    have hstep : ((start.run ops).step (.write k r offset data)).Holds sh _ := step_holds hholds trivial
    have hnone : ∀ p, Op.word? sh j i p (.write k r offset data) = none := by
      intro p
      rw [Op.word?, if_neg]
      intro hin
      exact hne.elim (fun hj => hj hin.2.1) fun hi => hi hin.2.2.1
    rw [hstep.refines.read, hholds.refines.read, Store.vector_step_of_none hnone]

/-- two rows of a one-cell board: words written twice, a write that leaves its row, a row that is not there, a flag and a
staged batch -/
theorem run_refines_oneCell :
    let sh : Shape := ⟨Descriptor.oldest "m" 2 (by decide), 2, 1, 1⟩
    let h := Handle.oneCell sh.model 2 (by decide)
    let raw : RawBatch := ⟨#[one, zero, zero, zero], #[one, zero, zero], #[one, zero], #[one]⟩
    let ops : List Op := [.write .spatial 0 20 #[one, one], .write .spatial 0 21 #[zero], .write .global 1 14 #[one],
      .write .spatial 2 0 #[one], .flag { flipY := true }, .stage h.decoder raw 1]
    ∃ start row value, (allocate none sh.model sh.rows sh.x sh.y).value = .ok start ∧
      (start.run ops).row .spatial 0 = .ok row ∧ row[20]? = some one ∧ row[21]? = some zero ∧
      (start.run ops).row .spatial 2 = .error (.rowMissing 2 2) ∧ (start.run ops).symmetries.flipY = true ∧
      (start.run ops).row .value 0 = .ok value ∧ value[0]? = some one ∧ value[1]? = some zero := by
  intro sh h raw ops
  have halloc : (allocate none sh.model sh.rows sh.x sh.y).value = .ok oneCell := rfl
  have hmade : ∀ o ∈ ops, o.Made := by
    intro o ho
    simp only [ops, List.mem_cons, List.not_mem_nil, or_false] at ho
    rcases ho with rfl | rfl | rfl | rfl | rfl | rfl
    all_goals first
      | exact trivial
      | exact ⟨h, Decoder.ofHandle_eq_ok_iff.2 ⟨by decide, rfl⟩⟩
  obtain ⟨hrefines, hplace, hflags, -⟩ := run_refines halloc hmade
  have hread := hrefines.read
  refine ⟨oneCell, _, _, halloc, hread .spatial 0, ?_, ?_, hread .spatial 2, ?_, hread .value 0, ?_, ?_⟩
  · rw [hplace]
    decide +kernel
  · rw [hplace]
    decide +kernel
  · rw [hrefines.flags, hflags]
    rfl
  · rw [hplace]
    decide +kernel
  · rw [hplace]
    decide +kernel

end Arena

end BatchEval
