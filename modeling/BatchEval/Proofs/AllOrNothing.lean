/-
A batch is staged whole or not at all. A row is written one lane after another, and a fault between them would leave it
half written; but everything that can stop the staging is looked at before the first row. Behind that every row can be
cut, decoded and put into the arena, whatever the models of the decoder and of the arena have in common beyond their board
and their score layout.

- `Decoder.Unstageable`, `Decoder.stageFault?`: what can be wrong with a batch and an arena, in exact numbers, and what is
  told.
- `Decoder.stage_eq`: a batch that nothing is wrong with is staged to its last row, every other one leaves the arena.
- `Arena.StagedFrom`: the arena after a batch was staged, and all that is as before.
- `stage_all_or_nothing`: which batches are staged, with what left of the arena.
-/
import BatchEval.Proofs.Refusal
import BatchEval.Proofs.Store

namespace BatchEval

open Word (zero one)

namespace Decoder

variable {h : Handle} {raw : RawBatch} {a : Arena} {model : Descriptor} {n : Nat} {f : Fault}

/-! ## What can be wrong -/

/-- what can be wrong with a batch of this size that is to be staged into an arena -/
inductive Unstageable (h : Handle) (raw : RawBatch) (n : Nat) (a : Arena) : Prop
  | empty (hn : n = 0)
  | tooLarge (hn : h.rows < n)
  | tooShort (k : Head) (hk : (raw.get k).size < n * h.rawWidths.get k)
  | notANumber (win : Word) (hwin : raw.value[0]? = some win) (hnan : win.isNaN = true)
  | otherBoard (hboard : a.x ≠ h.x ∨ a.y ≠ h.y)
  | tooSmall (hn : a.rows < n)
  | otherLayout (hlayout : a.layout ≠ h.model.layout)

/-- the first thing that is wrong: with the batch, with the board, with the capacity or with the score layout -/
def stageFault? (h : Handle) (raw : RawBatch) (n : Nat) (a : Arena) : Option Fault :=
  (batchFault? h raw n n).or <|
    if a.x ≠ h.x ∨ a.y ≠ h.y then some (.arenaBoard a.x a.y h.x h.y)
    else if a.rows < n then some (.arenaTooSmall n a.rows)
    else if a.layout ≠ h.model.layout then some (.arenaLayout a.layout h.model.layout)
    else none

theorem stageFault?_eq_none_iff : stageFault? h raw n a = none ↔ ¬Unstageable h raw n a := by
  simp only [stageFault?, Option.or_eq_none_iff, batchFault?_eq_none_iff, Checked.first_eq_none_iff, and_true]
  constructor
  · intro hnone hunstageable
    obtain ⟨hbatch, hboard, hrows, hlayout⟩ := hnone
    cases hunstageable with
    | empty hn => exact hbatch (.empty hn)
    | tooLarge hn => exact hbatch (.tooLarge hn)
    | tooShort k hk => exact hbatch (.tooShort k hk)
    | notANumber win hwin hnan => exact hbatch (.notANumber win hwin hnan)
    | otherBoard hother => exact hboard hother
    | tooSmall hn => exact hrows hn
    | otherLayout hother => exact hlayout hother
  · intro hsound
    refine ⟨fun hspoiled => ?_, fun hother => hsound (.otherBoard hother), fun hn => hsound (.tooSmall hn),
      fun hother => hsound (.otherLayout hother)⟩
    cases hspoiled with
    | empty hn => exact hsound (.empty hn)
    | tooLarge hn => exact hsound (.tooLarge hn)
    | tooShort k hk => exact hsound (.tooShort k hk)
    | notANumber win hwin hnan => exact hsound (.notANumber win hwin hnan)
    | recordsMissing hfew => exact Nat.lt_irrefl n hfew

/-- what is told is never that a place, a stretch or a row is missing, and a product that cannot be counted only of a head
that is too short -/
theorem inRange_of_stageFault (hf : stageFault? h raw n a = some f) : f.outOfRange = false ∧
    (f = .productTooLarge → ∃ k, (raw.get k).size < n * h.rawWidths.get k) := by
  unfold stageFault? at hf
  rcases Option.or_eq_some_iff.1 hf with hbatch | ⟨-, harena⟩
  · exact inRange_of_batchFault hbatch
  · repeat' split at harena
    all_goals cases harena
    all_goals exact ⟨rfl, nofun⟩

/-! ## The checks and the rows -/

theorem checkArena_eq : h.decoder.checkArena n a =
    if a.x ≠ h.x ∨ a.y ≠ h.y then .error (.arenaBoard a.x a.y h.x h.y)
    else if a.rows < n then .error (.arenaTooSmall n a.rows)
    else if a.layout ≠ h.model.layout then .error (.arenaLayout a.layout h.model.layout)
    else .ok () := by
  show (if a.x ≠ h.x ∨ a.y ≠ h.y then _ else if a.rows < n then _ else if a.layout ≠ h.model.layout then _ else _) = _
  rfl

theorem stageChecks_eq (hraw : Held raw) : (do h.decoder.checkBatch raw n; h.decoder.checkArena n a) =
    match stageFault? h raw n a with
    | some f => .error f
    | none => .ok () := by
  rw [checkBatch_eq hraw, checkArena_eq, stageFault?]
  cases batchFault? h raw n n with
  | some f => rfl
  | none =>
    by_cases hboard : a.x ≠ h.x ∨ a.y ≠ h.y
    · simp [hboard]
    by_cases hrows : a.rows < n
    · simp [hboard, hrows]
    by_cases hlayout : a.layout ≠ h.model.layout
    · simp [hboard, hrows, hlayout]
    · simp [hboard, hrows, hlayout]

end Decoder

/-! ## The arena behind a staged batch -/

namespace Arena

variable {a b : Arena} {h : Handle} {raw : RawBatch} {model : Descriptor} {k : Lane} {n r lo hi : Nat}

/-- `b` is `a` with the results of `n` raw rows in its first `n` rows -/
structure StagedFrom (a : Arena) (h : Handle) (raw : RawBatch) (n : Nat) (b : Arena) : Prop where
  rows_eq : b.rows = a.rows
  x_eq : b.x = a.x
  y_eq : b.y = a.y
  layout_eq : b.layout = a.layout
  counts_eq : b.counts = a.counts
  spatial_eq : b.cells.spatial = a.cells.spatial
  global_eq : b.cells.global = a.cells.global
  symmetries_eq : b.symmetries = a.symmetries
  result : ∀ r < n, ∃ s, b.staged r = .ok s ∧ s.policy.size = h.policySize ∧ s.layout = h.model.layout ∧
    s.ReadFrom (raw.blocks h.rawWidths r)
  later_eq : ∀ r, n ≤ r → b.staged r = a.staged r

/-- the results of a row are there exactly if the row is -/
theorem staged_eq (ha : a.MadeFor model) (r : Nat) :
    a.staged r = if r < a.rows then .ok (a.stagedOf r) else .error (.rowMissing r a.rows) := by
  by_cases hr : r < a.rows
  · rw [if_pos hr, staged_eq_ok ha hr]
  · rw [if_neg hr, staged, row_of_rows_le .policy (Nat.le_of_not_lt hr), Checked.error_bind]

namespace StagedBetween

theorem counts_eq (hab : StagedBetween a b lo hi) (ha : a.MadeFor model) (hb : b.MadeFor model) :
    b.counts = a.counts := by
  rw [hb.counts_eq, ha.counts_eq, hab.x_eq, hab.y_eq]

/-- the packed inputs are the same words, as they are the same rows -/
theorem cells_eq (hab : StagedBetween a b lo hi) (ha : a.MadeFor model) (hb : b.MadeFor model)
    (hk : k = .spatial ∨ k = .global) : b.cells.get k = a.cells.get k := by
  have hcounts := hab.counts_eq ha hb
  have hsize : (b.cells.get k).size = a.rows * a.counts.get k := by rw [hb.size_eq, hab.rows_eq, hcounts]
  refine Flat.ext_block hsize (ha.size_eq k) fun r _ => ?_
  have hlane : k = .spatial ∨ k = .global ∨ r < lo ∨ hi ≤ r := by
    rcases hk with hk | hk
    · exact Or.inl hk
    · exact Or.inr (Or.inl hk)
  have hrow := hab.rowOf_eq k r hlane
  unfold rowOf at hrow
  rwa [hcounts] at hrow

/-- the rows outside keep their results -/
theorem staged_eq (hab : StagedBetween a b lo hi) (ha : a.MadeFor model) (hb : b.MadeFor model)
    (hr : r < lo ∨ hi ≤ r) : b.staged r = a.staged r := by
  have hrow : ∀ k, b.rowOf k r = a.rowOf k r := fun k => hab.rowOf_eq k r (Or.inr (Or.inr hr))
  have hlayout : b.layout = a.layout := hb.layout_eq.trans ha.layout_eq.symm
  simp only [Arena.staged_eq ha, Arena.staged_eq hb, hab.rows_eq, stagedOf, hrow, hlayout]

end StagedBetween

end Arena

namespace Decoder

variable {h : Handle} {raw : RawBatch} {a : Arena} {model : Descriptor} {n : Nat}

/-- a batch and an arena that nothing is wrong with: no row can stop the staging, so none is left half written -/
theorem stage_of_sound (ha : a.MadeFor model) (hraw : Held raw) (hsound : ¬Unstageable h raw n a) :
    (h.decoder.stage raw n a).2 = .ok () ∧ a.StagedFrom h raw n (h.decoder.stage raw n a).1 := by
  have hchecks := stageChecks_eq (h := h) (n := n) (a := a) hraw
  rw [stageFault?_eq_none_iff.2 hsound] at hchecks
  obtain ⟨_, hbatch, harena⟩ := Checked.bind_eq_ok_iff.1 hchecks
  have had := checkBatch_eq_ok_iff.1 hbatch
  obtain ⟨hacc, hn⟩ := checkArena_eq_ok_iff.1 harena
  obtain ⟨hok, hrows⟩ := stage_reads ha hacc had hn
  have hframe := Arena.stage_stagedBetween ha h.decoder raw n
  have hmade : (h.decoder.stage raw n a).1.MadeFor model := Arena.step_madeFor ha (.stage h.decoder raw n)
  have hpolicy : a.counts.policy = h.policySize := by
    rw [ha.policy_eq, hacc.x_eq, hacc.y_eq, Nat.add_comm]
    rfl
  refine ⟨hok, hframe.rows_eq, hframe.x_eq, hframe.y_eq, hmade.layout_eq.trans ha.layout_eq.symm,
    hframe.counts_eq ha hmade, hframe.cells_eq ha hmade (Or.inl rfl), hframe.cells_eq ha hmade (Or.inr rfl),
    hframe.symmetries_eq, fun r hr => ?_, fun r hr => hframe.staged_eq ha hmade (Or.inr hr)⟩
  obtain ⟨s, hs, hsize, hlayout, hread⟩ := hrows r hr
  exact ⟨s, hs, hsize.trans hpolicy, hlayout.trans hacc.layout_eq, hread⟩

/-- a batch that nothing is wrong with is staged, every other one is told about and leaves the arena as it was -/
theorem stage_eq (ha : a.MadeFor model) (hraw : Held raw) (n : Nat) : h.decoder.stage raw n a =
    match stageFault? h raw n a with
    | some f => (a, .error f)
    | none => ((h.decoder.stageRows raw 0 n a).1, .ok ()) := by
  have hchecks := stageChecks_eq (h := h) (n := n) (a := a) hraw
  cases hfault : stageFault? h raw n a with
  | some f =>
    rw [hfault] at hchecks
    simp only [stage, hchecks]
  | none =>
    rw [hfault] at hchecks
    obtain ⟨hok, -⟩ := stage_of_sound ha hraw (stageFault?_eq_none_iff.1 hfault)
    simp only [stage, hchecks] at hok ⊢
    exact Prod.ext rfl hok

theorem stage_error_iff (ha : a.MadeFor model) (hraw : Held raw) {f : Fault} :
    (h.decoder.stage raw n a).2 = .error f ↔ stageFault? h raw n a = some f := by
  rw [stage_eq ha hraw]
  cases stageFault? h raw n a with
  | some g => simp
  | none => simp

end Decoder

/-- **Staging is all or nothing.** A batch is staged exactly if nothing is wrong with it or with the arena, whatever model
the arena was allocated for. One that is not staged leaves the arena as it was and is told why, and that is never a place
or a row that is missing. One that is staged puts all of its rows into the arena and touches nothing else: the packed
inputs, the flags and the results behind the batch stay. -/
theorem stage_all_or_nothing {h : Handle} {d : Decoder} (hd : Decoder.ofHandle h = .ok d) {a : Arena}
    {model : Descriptor} (ha : a.OfModel model) {raw : RawBatch} (hraw : ∀ k, (raw.get k).size < 2 ^ 61) (n : Nat) :
    ((∃ f, (d.stage raw n a).2 = .error f) ↔ Decoder.Unstageable h raw n a) ∧
      (∀ f, (d.stage raw n a).2 = .error f → (d.stage raw n a).1 = a ∧ Decoder.stageFault? h raw n a = some f ∧
        f.outOfRange = false ∧ (f = .productTooLarge → ∃ k, (raw.get k).size < n * h.rawWidths.get k)) ∧
      ((d.stage raw n a).2 = .ok () → a.StagedFrom h raw n (d.stage raw n a).1) := by
  obtain ⟨-, hdecoder⟩ := Decoder.ofHandle_eq_ok_iff.1 hd
  subst hdecoder
  have hmade := ha.madeFor
  refine ⟨⟨?_, ?_⟩, ?_, ?_⟩
  · intro hstopped
    obtain ⟨f, hf⟩ := hstopped
    rw [Decoder.stage_error_iff hmade hraw] at hf
    refine Classical.byContradiction fun hsound => ?_
    rw [Decoder.stageFault?_eq_none_iff.2 hsound] at hf
    cases hf
  · intro hunstageable
    have hsome : Decoder.stageFault? h raw n a ≠ none :=
      fun hnone => Decoder.stageFault?_eq_none_iff.1 hnone hunstageable
    obtain ⟨f, hf⟩ := Option.ne_none_iff_exists'.1 hsome
    exact ⟨f, (Decoder.stage_error_iff hmade hraw).2 hf⟩
  · intro f hf
    have hfault := (Decoder.stage_error_iff hmade hraw).1 hf
    refine ⟨?_, hfault, Decoder.inRange_of_stageFault hfault⟩
    rw [Decoder.stage_eq hmade hraw, hfault]
  · intro hok
    refine (Decoder.stage_of_sound hmade hraw fun hunstageable => ?_).2
    cases hfault : Decoder.stageFault? h raw n a with
    | none => exact Decoder.stageFault?_eq_none_iff.1 hfault hunstageable
    | some f =>
      rw [(Decoder.stage_error_iff hmade hraw).2 hfault] at hok
      cases hok

/-- an arena for a model with more global planes and wider misc rows than the decoder's: one row is staged, three are too
many -/
theorem stage_all_or_nothing_oneCell :
    let early : Descriptor := ⟨"early", 4, .meanAndSecondMoment, ⟨22, 14, 3, 1, 2, 2⟩,
      ⟨rfl, ⟨_, rfl, fun k => by cases k <;> rfl⟩, by decide⟩⟩
    let late : Descriptor := ⟨"late", 7, .meanAndSecondMoment, ⟨22, 19, 3, 1, 2, 6⟩,
      ⟨rfl, ⟨_, rfl, fun k => by cases k <;> rfl⟩, by decide⟩⟩
    let h := Handle.oneCell early 2 (by decide)
    let raw : RawBatch := ⟨#[one, zero, zero, zero, one, one, one, one], #[one, zero, zero, zero, one, zero],
      #[zero, one, one, one], #[one, zero]⟩
    let a : Arena :=
      { Arena.oneCell with
        layout := .meanAndSecondMoment
        counts := ⟨22, 19, 2, 3, 2, 1⟩
        cells := ⟨Array.replicate 44 zero, Array.replicate 38 zero, Array.replicate 4 zero, Array.replicate 6 zero,
          Array.replicate 4 zero, Array.replicate 2 zero⟩ }
    a.OfModel late ∧ ∃ d, Decoder.ofHandle h = .ok d ∧ (d.stage raw 1 a).2 = .ok () ∧
      (∃ s, (d.stage raw 1 a).1.staged 0 = .ok s ∧ s.score[1]? = some one) ∧
      (d.stage raw 1 a).1.staged 1 = a.staged 1 ∧ (d.stage raw 1 a).1.cells.global = a.cells.global ∧
      (d.stage raw 3 a).2 = .error (.batchTooLarge 3 2) ∧ (d.stage raw 3 a).1 = a := by
  intro early late h raw a
  have hmodel : a.OfModel late := ⟨none, 2, 1, 1, a, [], rfl, rfl⟩
  have hd : Decoder.ofHandle h = .ok h.decoder := rfl
  have hraw : ∀ k, (raw.get k).size < 2 ^ 61 := fun k => by cases k <;> decide
  obtain ⟨hone, -, hstaged⟩ := stage_all_or_nothing hd hmodel hraw 1
  obtain ⟨hthree, hleft, -⟩ := stage_all_or_nothing hd hmodel hraw 3
  have hsound : ¬Decoder.Unstageable h raw 1 a := Decoder.stageFault?_eq_none_iff.1 (by decide)
  have hok : (h.decoder.stage raw 1 a).2 = .ok () := by
    cases hout : (h.decoder.stage raw 1 a).2 with
    | ok u => rfl
    | error f => exact absurd (hone.1 ⟨f, hout⟩) hsound
  obtain ⟨f, hf⟩ := hthree.2 (.tooLarge (by decide))
  obtain ⟨hsame, hfault, -⟩ := hleft f hf
  have htold : f = .batchTooLarge 3 2 := Option.some.inj (hfault.symm.trans (by decide))
  obtain ⟨s, hs, -, hlayout, hread⟩ := (hstaged hok).result 0 Nat.one_pos
  refine ⟨hmodel, h.decoder, hd, hok, ⟨s, hs, ?_⟩, (hstaged hok).later_eq 1 (Nat.le_refl 1), (hstaged hok).global_eq, ?_,
    hsame⟩
  · rw [hread.meanSq hlayout]
    decide
  · rw [hf, htold]

end BatchEval
