/-
The staging of a handle under calls in any order. The size of a batch comes with each call and is kept nowhere, so the
words, the marks and the rows that are asked for may belong to batches of different sizes. After every history the buffer
of a head is an overlay of the tensors taken for it, and its mark tells of a tensor since the last batch was begun.

- `Op`, `step`, `run`: the calls of a staging; a call that fails leaves it as it was.
- `Op.data?`, `Op.starts`, `marked`, `overlay`: what a history comes to, told without a staging.
- `write_eq_ite`: when a tensor is taken, for every batch size, and what is wrong with one that is not.
- `run_left`: the marks and the words after a history.
- `run_overlays`: what every call gives after every history.
-/
import BatchEval.Proofs.History
import BatchEval.Proofs.Staging

namespace BatchEval.Staging

open Word (zero one)

/-! ## Calls -/

/-- a call, with the batch size it names -/
inductive Op
  | start (batch : Nat)
  | write (k : Head) (batch : Nat) (data : Array Word)
  | view (batch : Nat)

/-- one call; one that fails leaves the staging as it was -/
def step (s : Staging) : Op → Staging
  | .start n =>
    match s.start n with
    | .ok b => b
    | .error _ => s
  | .write k n data =>
    match s.write k n data with
    | .ok b => b
    | .error _ => s
  | .view _ => s

def run (s : Staging) (ops : List Op) : Staging := ops.foldl step s

/-! ## What a history comes to -/

/-- a tensor has the rows of its batch, and they are not too many -/
def Takes (h : Handle) (k : Head) (n : Nat) (data : Array Word) : Prop :=
  data.size = n * h.rawWidths.get k ∧ n ≤ h.rows

instance (h : Handle) (k : Head) (n : Nat) (data : Array Word) : Decidable (Takes h k n data) :=
  inferInstanceAs (Decidable (_ ∧ _))

/-- what is wrong with a tensor that is not taken -/
def refusal (h : Handle) (k : Head) (n size : Nat) : StagingError :=
  if size % h.rawWidths.get k ≠ 0 then .rowWidth k size (h.rawWidths.get k)
  else if size / h.rawWidths.get k ≠ n then .rowCount k (size / h.rawWidths.get k) n
  else .capacity n h.rows

namespace Op

/-- the tensor that a call gives to a head, if it is taken -/
def data? (h : Handle) (k : Head) : Op → Option (Array Word)
  | .write j n data => if j = k ∧ Takes h k n data then some data else none
  | _ => none

/-- the word that a call writes at a place of the buffer of a head, if it writes one there -/
def word? (h : Handle) (k : Head) (i : Nat) (o : Op) : Option Word := (o.data? h k).bind (·[i]?)

/-- the call begins a batch -/
def starts (h : Handle) : Op → Bool
  | .start n => decide (n ≤ h.rows)
  | _ => false

/-- the mark that a call sets or clears, if it does -/
def mark? (h : Handle) (k : Head) (o : Op) : Option Bool :=
  if o.starts h then some false else (o.data? h k).map fun _ => true

end Op

/-- a head was given a tensor since the last batch was begun -/
def marked (h : Handle) (ops : List Op) (k : Head) : Bool :=
  (ops.reverse.takeWhile fun o => !o.starts h).any fun o => (o.data? h k).isSome

/-- the front rows of a head: at each place the word of the last tensor that reaches it, or zero -/
def overlay (h : Handle) (ops : List Op) (n : Nat) (k : Head) : Array Word :=
  Array.ofFn fun i : Fin (n * h.rawWidths.get k) => (latest (·.word? h k i) ops).getD zero

variable {h : Handle} {s b : Staging} {k j : Head} {n i : Nat} {data : Array Word} {ops : List Op}

/-- a head is marked by the last call that begins a batch or gives it a tensor -/
theorem marked_eq (h : Handle) (ops : List Op) (k : Head) : marked h ops k = (latest (·.mark? h k) ops).getD false := by
  unfold marked latest
  induction ops.reverse with
  | nil => rfl
  | cons o later ih =>
    rw [List.findSome?_cons]
    by_cases hstart : o.starts h = true
    · simp [Op.mark?, hstart]
    · cases hdata : o.data? h k with
      | none => simpa [Op.mark?, hstart, hdata] using ih
      | some data => simp [Op.mark?, hstart, hdata]

theorem size_overlay : (overlay h ops n k).size = n * h.rawWidths.get k := Array.size_ofFn

theorem getElem?_overlay (hi : i < n * h.rawWidths.get k) :
    (overlay h ops n k)[i]? = some ((latest (·.word? h k i) ops).getD zero) := by
  simp [overlay, hi]

/-- a tensor that reaches as far is seen whole in front of what earlier ones left -/
theorem overlay_of_latest (hlast : latest (·.data? h k) ops = some data) (hn : n * h.rawWidths.get k ≤ data.size) :
    overlay h ops n k = data.extract 0 (n * h.rawWidths.get k) := by
  obtain ⟨earlier, o, later, hops, ho, hlater⟩ := latest_eq_some_iff.1 hlast
  refine Flat.ext_of_size_le (Nat.le_of_eq size_overlay) Array.size_extract_le fun i hi => ?_
  have hdata := Array.getElem?_eq_getElem (Nat.lt_of_lt_of_le hi hn)
  have hword : latest (·.word? h k i) ops = some (data[i]) := by
    refine latest_eq_some_iff.2 ⟨earlier, o, later, hops, ?_, fun x hx => ?_⟩
    · rw [Op.word?, ho, Option.bind_some, hdata]
    · rw [Op.word?, hlater x hx, Option.bind_none]
  rw [getElem?_overlay hi, hword, Option.getD_some, Array.getElem?_extract, if_pos (by omega), Nat.zero_add, hdata]

/-! ## One call -/

theorem ofHandle_blank (hs : ofHandle h = .ok s) :
    s.filled = PerHead.replicate false ∧ ∀ k, s.cells.get k = Array.replicate (h.rows * h.rawWidths.get k) zero := by
  simp only [ofHandle, Checked.bind_eq_ok_iff, RawWidths.ofHandle_eq_ok_iff, pure, Except.pure, Except.ok.injEq] at hs
  obtain ⟨widths, ⟨-, rfl⟩, sizes, hsizes, rfl⟩ := hs
  refine ⟨rfl, fun k => ?_⟩
  rw [PerHead.get_ofFn, ← (Size.rows_eq_ok_iff.1 (PerHead.build_eq_ok_iff.1 hsizes k)).2]

theorem filled_put : (s.put k data).filled.get j = if j = k then true else s.filled.get j := PerHead.get_set _ _ _ _

theorem getElem?_cells_put (hfit : data.size ≤ (s.cells.get k).size) :
    ((s.put k data).cells.get j)[i]? = if j = k ∧ i < data.size then data[i]? else (s.cells.get j)[i]? := by
  simp only [put, PerHead.get_set]
  by_cases hj : j = k
  · subst hj
    rw [if_pos rfl, Flat.getElem?_overwrite (by omega)]
    simp
  · simp [hj]

theorem Takes.size_le (ht : Takes h k n data) (hs : s.MadeFor h) : data.size ≤ (s.cells.get k).size := by
  rw [ht.1]
  exact hs.front_le ht.2 k

/-- a tensor without the rows of its batch is refused for that, whatever the capacity -/
theorem misfit_eq_refusal (hsize : data.size ≠ n * h.rawWidths.get k) :
    misfit k n (h.rawWidths.get k) data.size = refusal h k n data.size := by
  unfold misfit refusal
  by_cases hmod : data.size % h.rawWidths.get k = 0
  · have hrows : data.size / h.rawWidths.get k ≠ n := by
      intro hdiv
      have hsum := Nat.div_add_mod data.size (h.rawWidths.get k)
      rw [hmod, hdiv, Nat.add_zero, Nat.mul_comm] at hsum
      exact hsize hsum.symm
    simp only [hmod, hrows, ne_eq, not_true_eq_false, not_false_eq_true, if_true, if_false]
  · simp only [hmod, ne_eq, not_false_eq_true, if_true, if_false]

/-- a tensor is taken exactly when it has the rows of its batch and they are not too many -/
theorem write_eq_ite (hs : s.MadeFor h) (k : Head) (n : Nat) (data : Array Word) :
    s.write k n data = if Takes h k n data then .ok (s.put k data) else .error (.refused (refusal h k n data.size)) := by
  by_cases hn : n ≤ h.rows
  · rw [write_eq hs hn]
    by_cases hsize : data.size = n * h.rawWidths.get k
    · rw [if_pos hsize, if_pos ⟨hsize, hn⟩]
    · rw [if_neg hsize, if_neg fun ht => hsize ht.1, misfit_eq_refusal hsize]
  · -- the rows of the tensor are compared with the batch before the capacity is
    have hpos := h.rawWidths_pos k
    rw [if_neg fun ht => hn ht.2, write, hs.widths_eq, hs.rows_eq, if_neg (Nat.ne_of_gt hpos), refusal]
    by_cases hmod : data.size % h.rawWidths.get k = 0
    · rw [if_neg (not_not_intro hmod), if_neg (not_not_intro hmod)]
      by_cases hrows : data.size / h.rawWidths.get k = n
      · rw [if_neg (not_not_intro hrows), if_neg (not_not_intro hrows), hrows, if_pos (Nat.lt_of_not_le hn)]
        rfl
      · rw [if_pos hrows, if_pos hrows]
        rfl
    · rw [if_pos hmod, if_pos hmod]
      rfl

theorem step_start (hs : s.MadeFor h) (n : Nat) :
    s.step (.start n) = if n ≤ h.rows then { s with filled := PerHead.replicate false } else s := by
  simp only [step, start_eq hs]
  by_cases hn : n ≤ h.rows
  · simp only [hn, Nat.not_lt.2 hn, if_true, if_false]
  · simp only [hn, Nat.lt_of_not_le hn, if_true, if_false]

theorem step_write (hs : s.MadeFor h) (k : Head) (n : Nat) (data : Array Word) :
    s.step (.write k n data) = if Takes h k n data then s.put k data else s := by
  simp only [step, write_eq_ite hs]
  by_cases ht : Takes h k n data
  · simp only [ht, if_true]
  · simp only [ht, if_false]

theorem step_madeFor (hs : s.MadeFor h) (o : Op) : (s.step o).MadeFor h := by
  cases o with
  | start n =>
    rw [step_start hs]
    split
    · exact hs.clear
    · exact hs
  | write k n data =>
    rw [step_write hs]
    split
    · rename_i ht
      exact hs.put ht.2 ht.1
    · exact hs
  | view n => exact hs

/-- one call: a place holds the word that is written there, or else what it held before -/
theorem getElem?_cells_step (hs : s.MadeFor h) (o : Op) (k : Head) (i : Nat) :
    ((s.step o).cells.get k)[i]? = (o.word? h k i).or (s.cells.get k)[i]? := by
  cases o with
  | start n =>
    rw [step_start hs]
    split <;> rfl
  | write j n data =>
    rw [step_write hs]
    simp only [Op.word?, Op.data?]
    by_cases ht : Takes h j n data
    · rw [if_pos ht, getElem?_cells_put (ht.size_le hs)]
      by_cases hj : j = k
      · subst hj
        simp only [ht, and_self, true_and, if_true, Option.bind_some]
        by_cases hi : i < data.size
        · rw [if_pos hi, Array.getElem?_eq_getElem hi, Option.some_or]
        · rw [if_neg hi, Array.getElem?_eq_none (Nat.le_of_not_lt hi), Option.none_or]
      · rw [if_neg fun h => hj h.1.symm, if_neg fun h => hj h.1, Option.bind_none, Option.none_or]
    · have hnone : ¬(j = k ∧ Takes h k n data) := by
        intro hin
        exact ht (hin.1 ▸ hin.2)
      rw [if_neg ht, if_neg hnone, Option.bind_none, Option.none_or]
  | view n => rfl

/-- one call: a head has the mark that is set, or else the one that it had before -/
theorem filled_step (hs : s.MadeFor h) (o : Op) (k : Head) :
    some ((s.step o).filled.get k) = (o.mark? h k).or (some (s.filled.get k)) := by
  cases o with
  | start n =>
    rw [step_start hs]
    by_cases hn : n ≤ h.rows
    · simp [Op.mark?, Op.starts, hn]
    · simp [Op.mark?, Op.starts, Op.data?, hn]
  | write j n data =>
    rw [step_write hs]
    simp only [Op.mark?, Op.starts, Op.data?, Bool.false_eq_true, if_false]
    by_cases ht : Takes h j n data
    · rw [if_pos ht, filled_put]
      by_cases hj : j = k
      · subst hj
        simp [ht]
      · rw [if_neg fun h => hj h.symm, if_neg fun h => hj h.1]
        rfl
    · have hnone : ¬(j = k ∧ Takes h k n data) := by
        intro hin
        exact ht (hin.1 ▸ hin.2)
      rw [if_neg ht, if_neg hnone]
      rfl
  | view n => rfl

/-! ## Histories -/

theorem run_madeFor (hs : s.MadeFor h) (ops : List Op) : (s.run ops).MadeFor h := by
  induction ops generalizing s with
  | nil => exact hs
  | cons o ops ih => exact ih (step_madeFor hs o)

theorem getElem?_cells_run (hs : s.MadeFor h) (ops : List Op) (k : Head) (i : Nat) :
    ((s.run ops).cells.get k)[i]? = (latest (·.word? h k i) ops).or (s.cells.get k)[i]? :=
  read_foldl (fun s : Staging => s.MadeFor h) (fun s => (s.cells.get k)[i]?) (fun _ o hs => step_madeFor hs o)
    (fun _ o hs => getElem?_cells_step hs o k i) hs ops

theorem filled_run (hs : s.MadeFor h) (ops : List Op) (k : Head) :
    (s.run ops).filled.get k = (latest (·.mark? h k) ops).getD (s.filled.get k) := by
  have hread := read_foldl (fun s : Staging => s.MadeFor h) (fun s => some (s.filled.get k)) (fun _ o hs => step_madeFor hs o)
    (fun _ o hs => filled_step hs o k) hs ops
  rw [Option.or_some] at hread
  exact Option.some.inj hread

/-- what a history leaves in the staging of a handle -/
structure Left (s : Staging) (h : Handle) (ops : List Op) : Prop where
  madeFor : s.MadeFor h
  filled_eq : ∀ k, s.filled.get k = marked h ops k
  getElem?_cells : ∀ k i, i < h.rows * h.rawWidths.get k →
    (s.cells.get k)[i]? = some ((latest (·.word? h k i) ops).getD zero)

theorem run_left (hs : ofHandle h = .ok s) (ops : List Op) : (s.run ops).Left h ops := by
  have hmade := ofHandle_madeFor hs
  obtain ⟨hfilled, hcells⟩ := ofHandle_blank hs
  refine ⟨run_madeFor hmade ops, fun k => ?_, fun k i hi => ?_⟩
  · rw [filled_run hmade, hfilled, PerHead.get_replicate, marked_eq]
  · rw [getElem?_cells_run hmade, hcells, Array.getElem?_replicate, if_pos hi, Option.or_some]

namespace Left

theorem front_eq (hl : s.Left h ops) (hn : n ≤ h.rows) (k : Head) :
    (s.cells.get k).extract 0 (n * h.rawWidths.get k) = overlay h ops n k := by
  have hfront := hl.madeFor.front_le hn k
  have hall := Nat.mul_le_mul_right (h.rawWidths.get k) hn
  have hsize : ((s.cells.get k).extract 0 (n * h.rawWidths.get k)).size ≤ n * h.rawWidths.get k := by
    rw [Array.size_extract]
    omega
  refine Flat.ext_of_size_le hsize (Nat.le_of_eq size_overlay) fun i hi => ?_
  rw [getElem?_overlay hi, Array.getElem?_extract, if_pos (by omega), Nat.zero_add]
  exact hl.getElem?_cells k i (by omega)

theorem unfilled?_eq (hl : s.Left h ops) : s.unfilled? = Head.all.find? fun k => !marked h ops k := by
  have hmarks : (fun k => !s.filled.get k) = fun k => !marked h ops k := by
    funext k
    rw [hl.filled_eq]
  rw [unfilled?, hmarks]

/-- an unmarked head is missed before the size of the batch is looked at -/
theorem view_missing (hl : s.Left h ops) (hk : (Head.all.find? fun k => !marked h ops k) = some k) (n : Nat) :
    s.view n = .error (.refused (.missing k)) := by
  rw [view, hl.unfilled?_eq, hk]

theorem view_shown (hl : s.Left h ops) (hall : (Head.all.find? fun k => !marked h ops k) = none) (hn : n ≤ h.rows) :
    s.view n = .ok (PerHead.ofFn (overlay h ops n)) := by
  have hmarked : ∀ k, marked h ops k = true := by
    intro k
    simpa using List.find?_eq_none.1 hall k (Head.mem_all k)
  have hholds : s.Holds h n fun k => some (overlay h ops n k) := by
    intro k
    refine ⟨by rw [hl.filled_eq, hmarked]; rfl, fun data hdata => ?_⟩
    cases hdata
    exact hl.front_eq hn k
  rw [view_eq hl.madeFor hn hholds]
  rfl

theorem view_beyond (hl : s.Left h ops) (hall : (Head.all.find? fun k => !marked h ops k) = none) (hn : h.rows < n) :
    ∃ f, s.view n = .error (.fault f) := by
  rw [view, hl.unfilled?_eq, hall]
  simp only
  cases hbuild : PerHead.build fun k => do
      let size ← Size.mul n (s.widths.get k)
      Flat.front (s.cells.get k) size with
  | error f => exact ⟨f, rfl⟩
  | ok raw =>
    -- the policy buffer has no more than the rows of the capacity
    obtain ⟨size, hsize, hfront⟩ := Checked.bind_eq_ok_iff.1 (PerHead.build_eq_ok_iff.1 hbuild .policy)
    have hle := (Flat.slice_eq_ok_iff.1 hfront).1
    rw [← (Size.mul_eq_ok_iff.1 hsize).2, hl.madeFor.widths_eq, hl.madeFor.size_eq] at hle
    exact absurd (Nat.le_of_mul_le_mul_right hle (h.rawWidths_pos .policy)) (Nat.not_le.2 hn)

end Left

/-! ## What every call gives -/

/-- the calls of a staging with a history behind it -/
structure Overlays (s : Staging) (h : Handle) (ops : List Op) : Prop where
  size_eq : ∀ k, (s.cells.get k).size = h.rows * h.rawWidths.get k
  started : ∀ n ≤ h.rows, s.start n = .ok { s with filled := PerHead.replicate false }
  not_started : ∀ n, h.rows < n → s.start n = .error (.capacity n h.rows) ∧ s.step (.start n) = s
  /-- a tensor that is taken changes the words that it covers and the mark of its head -/
  taken : ∀ k n data, Takes h k n data → ∃ b, s.write k n data = .ok b ∧ s.step (.write k n data) = b ∧
    b.rows = s.rows ∧ b.widths = s.widths ∧ (∀ j, b.filled.get j = if j = k then true else s.filled.get j) ∧
    ∀ j i, (b.cells.get j)[i]? = if j = k ∧ i < data.size then data[i]? else (s.cells.get j)[i]?
  not_taken : ∀ k n data, ¬Takes h k n data →
    s.write k n data = .error (.refused (refusal h k n data.size)) ∧ s.step (.write k n data) = s
  missed : ∀ k, (Head.all.find? fun k => !marked h ops k) = some k → ∀ n, s.view n = .error (.refused (.missing k))
  shown : (Head.all.find? fun k => !marked h ops k) = none → ∀ n ≤ h.rows, s.view n = .ok (PerHead.ofFn (overlay h ops n))
  /-- rows beyond the capacity are neither missed nor shown -/
  beyond : (Head.all.find? fun k => !marked h ops k) = none → ∀ n, h.rows < n → ∃ f, s.view n = .error (.fault f)

theorem Left.overlays (hl : s.Left h ops) : s.Overlays h ops where
  size_eq := hl.madeFor.size_eq
  started n hn := by rw [start_eq hl.madeFor, if_neg (Nat.not_lt.2 hn)]
  not_started n hn := by
    refine ⟨?_, ?_⟩
    · rw [start_eq hl.madeFor, if_pos hn]
    · rw [step_start hl.madeFor, if_neg (Nat.not_le.2 hn)]
  taken k n data ht := by
    refine ⟨s.put k data, ?_, ?_, rfl, rfl, fun j => filled_put, fun j i => ?_⟩
    · rw [write_eq_ite hl.madeFor, if_pos ht]
    · rw [step_write hl.madeFor, if_pos ht]
    · exact getElem?_cells_put (ht.size_le hl.madeFor)
  not_taken k n data ht := by
    refine ⟨?_, ?_⟩
    · rw [write_eq_ite hl.madeFor, if_neg ht]
    · rw [step_write hl.madeFor, if_neg ht]
  missed _ hk n := hl.view_missing hk n
  shown hall _ hn := hl.view_shown hall hn
  beyond hall _ hn := hl.view_beyond hall hn

/-- **A staging is an overlay.** After every history of calls, whatever batch sizes they name, a batch is begun and a
tensor is taken exactly when they fit, whatever fails leaves the staging as it was, and the rows asked for are given when
every head is marked: at each place the word of the last tensor that reaches it. So a head whose last tensor has the rows
asked for is given exactly that tensor. -/
theorem run_overlays {h : Handle} {start : Staging} (hs : ofHandle h = .ok start) (ops : List Op) :
    (start.run ops).Overlays h ops ∧
      (∀ k n i, i < n * h.rawWidths.get k →
        (overlay h ops n k)[i]? = some ((latest (·.word? h k i) ops).getD zero)) ∧
      (∀ k n data, latest (·.data? h k) ops = some data → n * h.rawWidths.get k ≤ data.size →
        overlay h ops n k = data.extract 0 (n * h.rawWidths.get k)) ∧
      ∀ k n data, latest (·.data? h k) ops = some data → data.size = n * h.rawWidths.get k →
        overlay h ops n k = data := by
  refine ⟨(run_left hs ops).overlays, fun k n i => getElem?_overlay, fun k n data => overlay_of_latest, ?_⟩
  intro k n data hlast hsize
  rw [overlay_of_latest hlast (Nat.le_of_eq hsize.symm), ← hsize, Array.extract_size]

/-- two rows of ones under one row of zeros, with calls between them that fail -/
theorem run_overlays_oneCell :
    let h := Handle.oneCell (Descriptor.oldest "m" 2 (by decide)) 2 (by decide)
    let batch (n : Nat) (w : Word) : List Op :=
      .start n :: Head.all.map fun k => .write k n (Array.replicate (n * h.rawWidths.get k) w)
    let ops := batch 2 one ++ batch 3 zero ++ batch 1 zero ++ [.write .value 2 #[one], .view 2]
    ∃ start, ofHandle h = .ok start ∧
      (start.run ops).view 2 = .ok ⟨#[zero, zero, zero, zero, one, one, one, one], #[zero, zero, zero, one, one, one],
        #[zero, zero, one, one], #[zero, one]⟩ ∧
      (start.run ops).view 1 = .ok ⟨#[zero, zero, zero, zero], #[zero, zero, zero], #[zero, zero], #[zero]⟩ ∧
      (start.run ops).write .value 2 #[one] = .error (.refused (.rowWidth .value 1 3)) ∧
      (start.run (ops ++ [.start 2, .write .policy 1 #[one, one, one, one]])).view 3 = .error (.refused (.missing .value)) := by
  intro h batch ops
  have hstart : ofHandle h = .ok _ := rfl
  obtain ⟨hoverlays, -⟩ := run_overlays hstart ops
  obtain ⟨hnext, -⟩ := run_overlays hstart (ops ++ [.start 2, .write .policy 1 #[one, one, one, one]])
  have hall : (Head.all.find? fun k => !marked h ops k) = none := by decide +kernel
  refine ⟨_, hstart, ?_, ?_, ?_, hnext.missed .value ?_ 3⟩
  · rw [hoverlays.shown hall 2 (Nat.le_refl 2)]
    refine congrArg Except.ok ?_
    decide +kernel
  · rw [hoverlays.shown hall 1 (Nat.le_succ 1)]
    refine congrArg Except.ok ?_
    decide +kernel
  · exact (hoverlays.not_taken .value 2 #[one] (by decide)).1
  · decide +kernel

end BatchEval.Staging
