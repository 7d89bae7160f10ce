/-
The provider without a network. Its one list of zeros is as long as the longest head of the largest batch, so every front
that an answer needs is there, and a batch that suits the handle is always answered and decoded. It may be asked for a
handle that it was not made for: then the rows decide, of which its own must be as wide.

- `Uniform.ofHandle_eq_ok_iff`: when the zeros can be had.
- `Uniform.answer_eq`: the answer to a batch, four lists of zeros if it is within the capacity.
- `Decoder.decode_zeroed`, `Decoder.decode_zeroed_narrow`: zeros of one handle, decoded for another.
- `evaluate_uniform`: an evaluation with it succeeds, and records that fitted fit again.
- `evaluate_uniform_across`: an evaluation for another handle, and which of three ends it comes to.
-/
import BatchEval.Proofs.Allocation
import BatchEval.Proofs.Evaluation
import BatchEval.Proofs.Refusal
import BatchEval.Uniform

namespace BatchEval

/-! ## The zeros -/

namespace RawBatch

variable {v w : RawWidths} {n r i : Nat} {k : Head}

/-- zeros for a number of rows of each head -/
def zeroed (w : RawWidths) (n : Nat) : RawBatch := PerHead.ofFn fun k => Array.replicate (n * w.get k) .zero

@[simp] theorem size_zeroed : ((zeroed w n).get k).size = n * w.get k := by simp [zeroed]

theorem getElem?_zeroed (hi : i < n * w.get k) : ((zeroed w n).get k)[i]? = some .zero := by simp [zeroed, hi]

/-- rows that are no wider than those of the zeros are zeros too -/
theorem blocks_zeroed (hle : ∀ k, w.get k ≤ v.get k) (hr : r < n) : (zeroed v n).blocks w r = zeroed w 1 := by
  refine PerHead.ext_get fun k => ?_
  have hend : (r + 1) * w.get k ≤ n * v.get k := Nat.mul_le_mul hr (hle k)
  simp only [blocks, zeroed, PerHead.get_ofFn, Nat.one_mul]
  exact Flat.block_replicate hend

end RawBatch

namespace Uniform

variable {h : Handle} {u : Uniform} {n : Nat}

theorem le_widest (w : RawWidths) (k : Head) : w.get k ≤ widest w := by
  cases k <;> simp only [PerHead.get, widest] <;> omega

/-- value and ownership rows are shorter than policy rows -/
theorem widest_rawWidths (h : Handle) : widest h.rawWidths = max (2 * h.policySize) h.model.channels.misc := by
  have hvalue := h.model.value_eq
  have hcell := h.area_pos
  simp only [widest, Handle.rawWidths, Handle.policySize]
  simp only [Handle.area] at hcell ⊢
  omega

theorem ofHandle_eq_ok_iff : ofHandle h = .ok u ↔ widest h.rawWidths * h.rows ≤ Size.maxWords ∧
    ⟨h.rows, h.rawWidths, Array.replicate (widest h.rawWidths * h.rows) .zero⟩ = u := by
  simp only [ofHandle, Checked.bind_eq_ok_iff, RawWidths.ofHandle_eq_ok_iff, Size.rows_eq_ok_iff, pure, Except.pure,
    Except.ok.injEq]
  constructor
  · intro hok
    obtain ⟨_, ⟨-, rfl⟩, _, ⟨hwords, rfl⟩, hu⟩ := hok
    exact ⟨hwords, hu⟩
  · intro hcond
    obtain ⟨hwords, hu⟩ := hcond
    have hpolicy := h.policy_lt (le_widest h.rawWidths .policy) hwords
    exact ⟨_, ⟨hpolicy, rfl⟩, _, ⟨hwords, rfl⟩, hu⟩

/-- every front of a batch within the capacity is there -/
theorem front_le (hn : n ≤ h.rows) (k : Head) : n * h.rawWidths.get k ≤ widest h.rawWidths * h.rows :=
  calc
    n * h.rawWidths.get k ≤ h.rows * widest h.rawWidths := Nat.mul_le_mul hn (le_widest h.rawWidths k)
    _ = widest h.rawWidths * h.rows := Nat.mul_comm _ _

theorem answer_eq (hu : ofHandle h = .ok u) (hn : n ≤ h.rows) : u.answer n = .ok (RawBatch.zeroed h.rawWidths n) := by
  obtain ⟨hwords, rfl⟩ := ofHandle_eq_ok_iff.1 hu
  have hfronts : (PerHead.build fun k => do
      let size ← Size.mul n (h.rawWidths.get k)
      Flat.front (Array.replicate (widest h.rawWidths * h.rows) .zero) size) =
        .ok (RawBatch.zeroed h.rawWidths n) := by
    refine PerHead.build_eq_ok_iff.2 fun k => ?_
    have hfront := front_le hn k
    have hsize : Size.mul n (h.rawWidths.get k) = .ok (n * h.rawWidths.get k) :=
      Size.mul_eq_ok_iff.2 ⟨Nat.lt_of_le_of_lt (Nat.le_trans hfront hwords) Size.maxWords_lt_limit, rfl⟩
    rw [hsize, Checked.ok_bind]
    refine Flat.slice_eq_ok_iff.2 ⟨by rwa [Array.size_replicate], ?_⟩
    rw [RawBatch.zeroed, PerHead.get_ofFn, Array.extract_replicate]
    congr 1
    omega
  unfold answer
  rw [if_neg (Nat.not_lt.2 hn), hfronts]
  rfl

/-- whatever it is asked for, no front is missing and no product is too large: it refuses a batch, or answers with zeros -/
theorem answer_eq_ite (hu : ofHandle h = .ok u) (n : Nat) : u.answer n =
    if h.rows < n then .error (.refused { message := s!"batch size {n} exceeds provider capacity {h.rows}" })
    else .ok (RawBatch.zeroed h.rawWidths n) := by
  by_cases hn : h.rows < n
  · obtain ⟨-, rfl⟩ := ofHandle_eq_ok_iff.1 hu
    simp only [answer, if_pos hn]
  · rw [if_neg hn]
    exact answer_eq hu (Nat.le_of_not_lt hn)

end Uniform

/-! ## Records that fit -/

/-- the first `m` records are there, and each fits the handle -/
def Prediction.FrontFits (h : Handle) (m : Nat) (ps : List Prediction) : Prop :=
  ∀ i < m, ∃ p, ps[i]? = some p ∧ p.Fits h

theorem Prediction.FrontFits.le_length {h : Handle} {m : Nat} {ps : List Prediction} (hps : FrontFits h m ps) :
    m ≤ ps.length := by
  cases m with
  | zero => exact Nat.zero_le _
  | succ m =>
    obtain ⟨p, hp, -⟩ := hps m (Nat.lt_succ_self m)
    exact (List.getElem?_eq_some_iff.1 hp).1

theorem Prediction.FrontFits.fits {h : Handle} {m i : Nat} {ps : List Prediction} {p : Prediction}
    (hps : FrontFits h m ps) (hi : i < m) (hp : ps[i]? = some p) : p.Fits h := by
  obtain ⟨q, hq, hfit⟩ := hps i hi
  rw [hp] at hq
  cases hq
  exact hfit

/-! ## Zeros, decoded -/

/-- a record that is read from rows of zeros -/
theorem Prediction.readFrom_zeroed {h : Handle} {p : Prediction} (hfit : p.Fits h) :
    p.ReadFrom h.model.layout (RawBatch.zeroed h.rawWidths 1) (zeroed h.x h.y p.owner.isSome) := by
  have hword : ∀ k i, i < h.rawWidths.get k → ((RawBatch.zeroed h.rawWidths 1).get k)[i]? = some .zero := by
    intro k i hi
    exact RawBatch.getElem?_zeroed (by rwa [Nat.one_mul])
  have hvalue : h.rawWidths.get .value = 3 := h.model.value_eq
  have hmisc := h.model.layout_le_misc
  refine ⟨hfit.x_eq.symm, hfit.y_eq.symm, hword .value 0 (by omega), hword .value 1 (by omega), hword .value 2 (by omega),
    ?_, fun i hi => ?_, ?_, hword .misc 0 h.model.misc_pos, ?_⟩
  · exact Array.size_replicate.trans hfit.policy_size.symm
  · rw [hfit.policy_size] at hi
    have hwide : 2 * i < h.rawWidths.get .policy := Nat.mul_lt_mul_of_pos_left hi Nat.two_pos
    have hentry : (zeroed h.x h.y p.owner.isSome).policy[i]? = some .zero := Array.getElem?_replicate.trans (if_pos hi)
    exact hentry.trans (hword .policy (2 * i) hwide).symm
  · have hmap : (RawBatch.zeroed h.rawWidths 1).ownership = Array.replicate (h.x * h.y) .zero :=
      congrArg (Array.replicate · Word.zero) (Nat.one_mul _)
    cases p.owner with
    | none => rfl
    | some map => exact congrArg some hmap.symm
  · cases hlayout : h.model.layout with
    | meanOnly => exact (by decide +kernel : Word.zero = Word.zero.square)
    | meanAndSecondMoment =>
      rw [hlayout] at hmisc
      exact hword .misc 1 hmisc

namespace Decoder

variable {A B : Handle} {u : Uniform} {n : Nat} {ps : List Prediction}

/-- zeros that were made for one handle are admitted for another with rows no wider: zero is a number -/
theorem admits_zeroed (hu : Uniform.ofHandle A = .ok u) (hpos : 0 < n) (hA : n ≤ A.rows) (hB : n ≤ B.rows)
    (hle : ∀ k, B.rawWidths.get k ≤ A.rawWidths.get k) : Admits B (RawBatch.zeroed A.rawWidths n) n := by
  obtain ⟨hwords, -⟩ := Uniform.ofHandle_eq_ok_iff.1 hu
  refine ⟨hpos, hB, fun k => ?_, .zero, ?_, by decide⟩
  · have hneeded : n * B.rawWidths.get k ≤ n * A.rawWidths.get k := Nat.mul_le_mul_left n (hle k)
    have hheld : n * A.rawWidths.get k ≤ Size.maxWords := Nat.le_trans (Uniform.front_le hA k) hwords
    rw [RawBatch.size_zeroed]
    exact ⟨Nat.lt_of_le_of_lt (Nat.le_trans hneeded hheld) Size.maxWords_lt_limit, hneeded⟩
  · exact RawBatch.getElem?_zeroed (k := .value) (Nat.mul_pos hpos (A.rawWidths_pos .value))

theorem held_zeroed (hu : Uniform.ofHandle A = .ok u) (hA : n ≤ A.rows) : Held (RawBatch.zeroed A.rawWidths n) := by
  intro k
  obtain ⟨hwords, -⟩ := Uniform.ofHandle_eq_ok_iff.1 hu
  have hheld : n * A.rawWidths.get k ≤ Size.maxWords := Nat.le_trans (Uniform.front_le hA k) hwords
  have hmax : Size.maxWords < 2 ^ 61 := by decide
  rw [RawBatch.size_zeroed]
  omega

/-- the records of the batch become records of zeros, with a map if they had one -/
theorem decode_zeroed (hu : Uniform.ofHandle A = .ok u) (hpos : 0 < n) (hA : n ≤ A.rows) (hB : n ≤ B.rows)
    (hle : ∀ k, B.rawWidths.get k ≤ A.rawWidths.get k) (hps : Prediction.FrontFits B n ps) :
    (B.decoder.decode (RawBatch.zeroed A.rawWidths n) n ps).2 = .ok () ∧
      (∀ r < n, ∀ p, ps[r]? = some p → (B.decoder.decode (RawBatch.zeroed A.rawWidths n) n ps).1[r]? =
        some (Prediction.zeroed B.x B.y p.owner.isSome)) ∧
      ∀ r, n ≤ r → (B.decoder.decode (RawBatch.zeroed A.rawWidths n) n ps).1[r]? = ps[r]? := by
  have hok : (B.decoder.decode (RawBatch.zeroed A.rawWidths n) n ps).2 = .ok () :=
    decode_ok_iff.2 ⟨admits_zeroed hu hpos hA hB hle, hps.le_length, fun i hi p hp => hps.fits hi hp⟩
  obtain ⟨hreads, hrest⟩ := decode_reads hok
  refine ⟨hok, fun r hr p hp => ?_, hrest⟩
  obtain ⟨hfit, q, hq, hread⟩ := hreads r hr p hp
  rw [RawBatch.blocks_zeroed hle hr] at hread
  rw [hq, hread.unique (Prediction.readFrom_zeroed hfit)]

/-- a handle with a wider row is refused the batch: the zeros of that head are too few, if they can be counted -/
theorem decode_zeroed_narrow (hu : Uniform.ofHandle A = .ok u) (hpos : 0 < n) (hA : n ≤ A.rows) (hB : n ≤ B.rows)
    (hwide : ∃ k, A.rawWidths.get k < B.rawWidths.get k) (ps : List Prediction) :
    ∃ k, A.rawWidths.get k < B.rawWidths.get k ∧ B.decoder.decode (RawBatch.zeroed A.rawWidths n) n ps =
      (ps, .error (if n * B.rawWidths.get k < Size.limit then
        .rawTooShort k (n * A.rawWidths.get k) n (n * B.rawWidths.get k) else .productTooLarge)) := by
  have hshort : ∀ k, ((RawBatch.zeroed A.rawWidths n).get k).size < n * B.rawWidths.get k ↔
      A.rawWidths.get k < B.rawWidths.get k := by
    intro k
    rw [RawBatch.size_zeroed]
    exact Nat.mul_lt_mul_left hpos
  obtain ⟨j, hj⟩ := hwide
  obtain ⟨k, hk, hfault⟩ := batchFault?_of_tooShort ps.length hpos hB ((hshort j).2 hj)
  refine ⟨k, (hshort k).1 hk, ?_⟩
  rw [decode_eq (held_zeroed hu hA), hfault, RawBatch.size_zeroed]

end Decoder

/-! ## Evaluations -/

section Evaluate

variable {A B h : Handle} {u : Uniform} {a : Arena} {model : Descriptor} {n m : Nat} {ps : List Prediction}

/-- a batch within the capacity is decoded from zeros -/
theorem evaluate_zeroed (hu : Uniform.ofHandle A = .ok u) (ha : a.MadeFor model) (hs : a.Suits model B n)
    (hA : n ≤ A.rows) (ps : List Prediction) : (evaluate Uniform.provider u B a n ps).outcome =
        Halt.ofFault (B.decoder.decode (RawBatch.zeroed A.rawWidths n) n ps).2 ∧
      (evaluate Uniform.provider u B a n ps).records = (B.decoder.decode (RawBatch.zeroed A.rawWidths n) n ps).1 := by
  have hanswer : (Uniform.provider.runBatch u B (a.view n)).outcome = .ok (RawBatch.zeroed A.rawWidths n) :=
    Uniform.answer_eq hu hA
  have hfollows : (evaluate Uniform.provider u B a n ps).Follows (Uniform.provider.runBatch u B (a.view n)) B n ps
      B.decoder := evaluate_follows ha hs
  obtain ⟨houtcome, hrecords, -⟩ := hfollows.of_answer _ hanswer
  exact ⟨houtcome, hrecords⟩

/-- a batch beyond the capacity is refused -/
theorem evaluate_beyond (hu : Uniform.ofHandle A = .ok u) (ha : a.MadeFor model) (hs : a.Suits model B n)
    (hA : A.rows < n) (ps : List Prediction) : (evaluate Uniform.provider u B a n ps).outcome =
        .error (.refused { message := s!"batch size {n} exceeds provider capacity {A.rows}" }) ∧
      (evaluate Uniform.provider u B a n ps).records = ps := by
  have hanswer : (Uniform.provider.runBatch u B (a.view n)).outcome =
      .error (.refused { message := s!"batch size {n} exceeds provider capacity {A.rows}" }) :=
    (Uniform.answer_eq_ite hu n).trans (if_pos hA)
  have hfollows : (evaluate Uniform.provider u B a n ps).Follows (Uniform.provider.runBatch u B (a.view n)) B n ps
      B.decoder := evaluate_follows ha hs
  obtain ⟨houtcome, hrecords, -⟩ := hfollows.of_refused _ hanswer
  exact ⟨houtcome, hrecords⟩

/-- an evaluation without a network succeeds on every batch of its handle, and the records fit again -/
theorem evaluate_uniform (hu : Uniform.ofHandle h = .ok u) (ha : a.MadeFor h.model) (hs : a.Suits h.model h n)
    (hn : n ≤ m) (hps : Prediction.FrontFits h m ps) :
    (evaluate Uniform.provider u h a n ps).outcome = .ok () ∧ (evaluate Uniform.provider u h a n ps).state = u ∧
      Prediction.FrontFits h m (evaluate Uniform.provider u h a n ps).records := by
  have hrows : n ≤ h.rows := Nat.le_trans hs.le_rows hs.rows_le
  have hfront : Prediction.FrontFits h n ps := fun i hi => hps i (Nat.lt_of_lt_of_le hi hn)
  obtain ⟨houtcome, hrecords⟩ := evaluate_zeroed hu ha hs hrows ps
  obtain ⟨hok, hzeros, hrest⟩ := Decoder.decode_zeroed hu hs.pos hrows hrows (fun k => Nat.le_refl _) hfront
  refine ⟨?_, (evaluate_follows ha hs).state_eq, fun i hi => ?_⟩
  · rw [houtcome, hok]
    rfl
  · rw [hrecords]
    obtain ⟨p, hp, hfit⟩ := hps i hi
    rcases Nat.lt_or_ge i n with hin | hin
    · exact ⟨_, hzeros i hin p hp, Prediction.zeroed_fits h _⟩
    · exact ⟨p, (hrest i hin).trans hp, hfit⟩

end Evaluate

/-- **Zeros for another handle.** A provider of zeros made for `A` is asked about a batch that passed the checks for `B`,
into records that fit `B`. A batch beyond `A`'s capacity is refused. Otherwise, if none of `B`'s rows is wider than `A`'s,
it succeeds, and each record of the batch becomes one of zeros, with a map if it had one, while the others stay. If one is
wider it stops with a fault. Neither end but success touches a record, and for `A` itself there is no other. The provider
on its own never misses a place of its zeros and never computes a product that is too large. -/
theorem evaluate_uniform_across {A B : Handle} {u : Uniform} (hu : Uniform.ofHandle A = .ok u) {a : Arena}
    {model : Descriptor} (ha : a.OfModel model) {n : Nat} {v : Inputs} (hin : (do a.checkFor B; a.inputs n) = .ok v)
    {ps : List Prediction} (hlen : n ≤ ps.length) (hps : ∀ r < n, ∀ p, ps[r]? = some p → p.Fits B) :
    (A.rows < n → (evaluate Uniform.provider u B a n ps).outcome =
          .error (.refused { message := s!"batch size {n} exceeds provider capacity {A.rows}" }) ∧
        (evaluate Uniform.provider u B a n ps).records = ps) ∧
      (n ≤ A.rows → (∀ k, B.rawWidths.get k ≤ A.rawWidths.get k) →
        (evaluate Uniform.provider u B a n ps).outcome = .ok () ∧
        (∀ r < n, ∀ p, ps[r]? = some p → (evaluate Uniform.provider u B a n ps).records[r]? =
          some (Prediction.zeroed B.x B.y p.owner.isSome)) ∧
        ∀ r, n ≤ r → (evaluate Uniform.provider u B a n ps).records[r]? = ps[r]?) ∧
      (n ≤ A.rows → (∃ k, A.rawWidths.get k < B.rawWidths.get k) → ∃ k, A.rawWidths.get k < B.rawWidths.get k ∧
        (evaluate Uniform.provider u B a n ps).outcome = .error (.fault (if n * B.rawWidths.get k < Size.limit then
          .rawTooShort k (n * A.rawWidths.get k) n (n * B.rawWidths.get k) else .productTooLarge)) ∧
        (evaluate Uniform.provider u B a n ps).records = ps) ∧
      (A = B → (evaluate Uniform.provider u B a n ps).outcome = .ok ()) ∧
      ∀ (h : Handle) (v : Inputs), (Uniform.provider.runBatch u h v).outcome =
        if A.rows < v.batch then
          .error (.refused { message := s!"batch size {v.batch} exceeds provider capacity {A.rows}" })
        else .ok (RawBatch.zeroed A.rawWidths v.batch) := by
  have hmade := ha.madeFor
  have hs : a.Suits model B n := by
    cases hf : a.refusal? B n with
    | none => exact (Arena.refusal?_eq_none_iff hmade).1 hf
    | some f =>
      rw [Arena.admit_eq hmade, hf] at hin
      cases hin
  have hB : n ≤ B.rows := Nat.le_trans hs.le_rows hs.rows_le
  have hfront : Prediction.FrontFits B n ps := by
    intro r hr
    have hp : ps[r]? = some ps[r] := List.getElem?_eq_getElem (Nat.lt_of_lt_of_le hr hlen)
    exact ⟨_, hp, hps r hr _ hp⟩
  have hzeros : n ≤ A.rows → (∀ k, B.rawWidths.get k ≤ A.rawWidths.get k) →
      (evaluate Uniform.provider u B a n ps).outcome = .ok () ∧
        (∀ r < n, ∀ p, ps[r]? = some p → (evaluate Uniform.provider u B a n ps).records[r]? =
          some (Prediction.zeroed B.x B.y p.owner.isSome)) ∧
        ∀ r, n ≤ r → (evaluate Uniform.provider u B a n ps).records[r]? = ps[r]? := by
    intro hA hle
    obtain ⟨houtcome, hrecords⟩ := evaluate_zeroed hu hmade hs hA ps
    obtain ⟨hok, hrows⟩ := Decoder.decode_zeroed hu hs.pos hA hB hle hfront
    rw [houtcome, hrecords, hok]
    exact ⟨rfl, hrows⟩
  refine ⟨fun hA => evaluate_beyond hu hmade hs hA ps, hzeros, fun hA hwide => ?_, fun hAB => ?_,
    fun h v => Uniform.answer_eq_ite hu v.batch⟩
  · obtain ⟨houtcome, hrecords⟩ := evaluate_zeroed hu hmade hs hA ps
    obtain ⟨k, hk, hdecode⟩ := Decoder.decode_zeroed_narrow hu hs.pos hA hB hwide ps
    refine ⟨k, hk, ?_, ?_⟩
    · rw [houtcome, hdecode]
      rfl
    · rw [hrecords, hdecode]
  · subst hAB
    exact (hzeros hB fun k => Nat.le_refl _).1

/-- the zeros for two misc channels serve a handle with one, and not the other way round; one row is the capacity of a
third provider, which refuses two -/
theorem evaluate_uniform_across_oneCell :
    let wide := Handle.oneCell (Descriptor.oldest "wide" 2 (by decide)) 2 (by decide)
    let narrow := Handle.oneCell (Descriptor.oldest "narrow" 1 (by decide)) 2 (by decide)
    let single := Handle.oneCell (Descriptor.oldest "wide" 2 (by decide)) 1 (by decide)
    let p : Prediction := ⟨1, 1, .one, .one, .one, .one, .one, #[.one, .one], some #[.one]⟩
    ∃ u v w, Uniform.ofHandle wide = .ok u ∧ Uniform.ofHandle narrow = .ok v ∧ Uniform.ofHandle single = .ok w ∧
      (evaluate Uniform.provider u narrow Arena.oneCell 2 [p, p, p]).outcome = .ok () ∧
      (evaluate Uniform.provider u narrow Arena.oneCell 2 [p, p, p]).records[1]? = some (Prediction.zeroed 1 1 true) ∧
      (evaluate Uniform.provider u narrow Arena.oneCell 2 [p, p, p]).records[2]? = some p ∧
      (evaluate Uniform.provider v wide Arena.oneCell 2 [p, p, p]).outcome =
        .error (.fault (.rawTooShort .misc 2 2 4)) ∧
      (evaluate Uniform.provider w narrow Arena.oneCell 2 [p, p, p]).records = [p, p, p] := by
  intro wide narrow single p
  have hmodel : (Arena.oneCell.run []).OfModel narrow.model := Arena.run_oneCell_ofModel "narrow" Nat.one_pos []
  have hin : ∀ B ∈ [wide, narrow], (do Arena.oneCell.checkFor B; Arena.oneCell.inputs 2) = .ok (Arena.oneCell.view 2) := by
    intro B hB
    simp only [List.mem_cons, List.not_mem_nil, or_false] at hB
    rcases hB with rfl | rfl
    · rfl
    · rfl
  have hps : ∀ B ∈ [wide, narrow], ∀ r < 2, ∀ q, [p, p, p][r]? = some q → q.Fits B := by
    intro B hB r hr q hq
    have hqp : q = p := by simpa using List.mem_of_getElem? hq
    have howner : ∀ map, q.owner = some map → map.size = 1 := by
      intro map hmap
      rw [hqp] at hmap
      cases hmap
      rfl
    simp only [List.mem_cons, List.not_mem_nil, or_false] at hB
    rcases hB with rfl | rfl
    · exact hqp ▸ ⟨rfl, rfl, rfl, hqp ▸ howner⟩
    · exact hqp ▸ ⟨rfl, rfl, rfl, hqp ▸ howner⟩
  obtain ⟨-, hserved, -⟩ := evaluate_uniform_across (A := wide) rfl hmodel (hin narrow (by simp)) (by decide)
    (hps narrow (by simp))
  obtain ⟨-, -, hstopped, -⟩ := evaluate_uniform_across (A := narrow) rfl hmodel (hin wide (by simp)) (by decide)
    (hps wide (by simp))
  obtain ⟨hrefused, -⟩ := evaluate_uniform_across (A := single) rfl hmodel (hin narrow (by simp)) (by decide)
    (hps narrow (by simp))
  obtain ⟨hok, hzeros, hrest⟩ := hserved (by decide) (by intro k; cases k <;> decide)
  obtain ⟨k, hk, hfault, -⟩ := hstopped (by decide) ⟨.misc, by decide⟩
  have hmisc : k = .misc := by
    cases k with
    | misc => rfl
    | policy => exact absurd hk (by decide)
    | value => exact absurd hk (by decide)
    | ownership => exact absurd hk (by decide)
  subst hmisc
  exact ⟨_, _, _, rfl, rfl, rfl, hok, hzeros 1 (by decide) p rfl, hrest 2 (Nat.le_refl 2), hfault, (hrefused (by decide)).2⟩

end BatchEval
