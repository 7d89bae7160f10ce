/-
What a decoder refuses, and what it has written by then. A batch is refused as a whole before any record is touched, or
at its first record that does not fit; the records before that one are decoded, and it is written as far as it was
looked at.

- `Decoder.Spoiled`, `Decoder.batchFault?`: what is wrong with a batch as a whole, in exact numbers, and what is told.
- `Decoder.checkBatch_eq`, `Decoder.decode_eq`: the products that are computed refuse nothing else.
- `Decoder.recordFault?`, `Decoder.decodeRow_of_fault`: what is wrong with a record, and how far it is written.
- `Decoder.decodeRows_stops`: rows up to the first that cannot be decoded.
- `decode_refuses_iff`: which batches are refused, with what, and what is left of the records.
-/
import Mathlib.Algebra.Group.Nat.Defs
import BatchEval.Proofs.Layout

namespace BatchEval

open Word (zero one)

namespace Decoder

variable {h : Handle} {raw : RawBatch} {n r count : Nat} {p q : Prediction} {ps : List Prediction} {f : Fault}

/-! ## A batch as a whole -/

/-- what can be wrong with a batch of this size and this many records -/
inductive Spoiled (h : Handle) (raw : RawBatch) (n count : Nat) : Prop
  | empty (hn : n = 0)
  | tooLarge (hn : h.rows < n)
  | tooShort (k : Head) (hk : (raw.get k).size < n * h.rawWidths.get k)
  | notANumber (win : Word) (hwin : raw.value[0]? = some win) (hnan : win.isNaN = true)
  | recordsMissing (hcount : count < n)

/-- the first thing that is wrong with a batch; of a head that is too short by so much that the words it needs cannot be
counted, that is told instead -/
def batchFault? (h : Handle) (raw : RawBatch) (n count : Nat) : Option Fault :=
  if n = 0 then some .emptyBatch
  else if h.rows < n then some (.batchTooLarge n h.rows)
  else match Head.all.find? fun k => decide ((raw.get k).size < n * h.rawWidths.get k) with
    | some k =>
      if n * h.rawWidths.get k < Size.limit then some (.rawTooShort k (raw.get k).size n (n * h.rawWidths.get k))
      else some .productTooLarge
    | none =>
      if (raw.value[0]?).any (·.isNaN) then some .winNotANumber
      else if count < n then some (.recordsMissing count n)
      else none

/-- lists of words that can exist -/
def Held (raw : RawBatch) : Prop := ∀ k, (raw.get k).size < 2 ^ 61

theorem checkHead_eq (hraw : Held raw) (k : Head) : h.decoder.checkHead raw n k =
    if (raw.get k).size < n * h.rawWidths.get k then
      .error (if n * h.rawWidths.get k < Size.limit then
        .rawTooShort k (raw.get k).size n (n * h.rawWidths.get k) else .productTooLarge)
    else .ok () := by
  have hsize := hraw k
  have hlimit : 2 ^ 61 < Size.limit := by decide
  show (Size.mul n (h.rawWidths.get k) >>= fun needed => if needed ≤ (raw.get k).size then pure ()
    else throw (.rawTooShort k (raw.get k).size n needed)) = _
  by_cases hfit : n * h.rawWidths.get k < Size.limit
  · rw [Size.mul, if_pos hfit, if_pos hfit, Checked.ok_bind]
    by_cases hshort : (raw.get k).size < n * h.rawWidths.get k
    · rw [if_neg (Nat.not_le.2 hshort), if_pos hshort]
      rfl
    · rw [if_pos (Nat.le_of_not_lt hshort), if_neg hshort]
      rfl
  · -- a list that needs more words than can be counted is too short
    rw [Size.mul, if_neg hfit, if_neg hfit, Checked.error_bind, if_pos (by omega)]

end Decoder

/-- checks made head by head stop at the first head that is bad -/
theorem PerHead.build_checks {ε : Type} {f : Head → Except ε Unit} {bad : Head → Prop} [DecidablePred bad]
    {e : Head → ε} (hf : ∀ k, f k = if bad k then .error (e k) else .ok ()) : PerHead.build f =
      match Head.all.find? fun k => decide (bad k) with
      | some k => .error (e k)
      | none => .ok (PerHead.replicate ()) := by
  have hbad : ∀ k, bad k → f k = .error (e k) := by
    intro k hk
    rw [hf, if_pos hk]
  have hgood : ∀ k, ¬bad k → f k = .ok () := by
    intro k hk
    rw [hf, if_neg hk]
  unfold build
  by_cases hpolicy : bad .policy
  · simp [Head.all, hpolicy, hbad]
  by_cases hvalue : bad .value
  · simp [Head.all, hpolicy, hvalue, hbad, hgood]
  by_cases hmisc : bad .misc
  · simp [Head.all, hpolicy, hvalue, hmisc, hbad, hgood]
  by_cases hownership : bad .ownership
  · simp [Head.all, hpolicy, hvalue, hmisc, hownership, hbad, hgood, Functor.map, Except.map]
  · simp [Head.all, hpolicy, hvalue, hmisc, hownership, hgood, pure, Except.pure, replicate, ofFn]

namespace Decoder

variable {h : Handle} {raw : RawBatch} {n r count : Nat} {p q : Prediction} {ps : List Prediction} {f : Fault}

/-- heads that are all long enough hold the first win probability -/
theorem exists_win (hpos : 0 < n) (hlong : ∀ k, n * h.rawWidths.get k ≤ (raw.get k).size) :
    ∃ win, raw.value[0]? = some win := by
  have hvalue : n * h.model.channels.value ≤ raw.value.size := hlong .value
  rw [h.model.value_eq] at hvalue
  exact ⟨_, Array.getElem?_eq_getElem (show 0 < raw.value.size by omega)⟩

/-- the checks of a batch, for as many records as it has rows -/
theorem checkBatch_eq (hraw : Held raw) (n : Nat) : h.decoder.checkBatch raw n =
    match batchFault? h raw n n with
    | some f => .error f
    | none => .ok () := by
  have hbuild := PerHead.build_checks (checkHead_eq (h := h) (n := n) hraw)
  unfold checkBatch batchFault?
  by_cases hzero : n = 0
  · rw [if_pos hzero, if_pos hzero]
    rfl
  by_cases hlarge : h.rows < n
  · rw [if_neg hzero, if_neg hzero, if_pos hlarge, if_pos (show h.decoder.handle.rows < n from hlarge)]
    rfl
  rw [if_neg hzero, if_neg hzero, if_neg hlarge, if_neg (show ¬h.decoder.handle.rows < n from hlarge), hbuild]
  cases hfind : Head.all.find? fun k => decide ((raw.get k).size < n * h.rawWidths.get k) with
  | some k =>
    by_cases hfit : n * h.rawWidths.get k < Size.limit
    · simp [hfit]
    · simp [hfit]
  | none =>
    have hlong : ∀ k, n * h.rawWidths.get k ≤ (raw.get k).size := by
      intro k
      simpa using List.find?_eq_none.1 hfind k (Head.mem_all k)
    obtain ⟨win, hwin⟩ := exists_win (Nat.pos_of_ne_zero hzero) hlong
    simp only [Flat.item, hwin]
    by_cases hnan : win.isNaN = true
    · simp [hnan, throw, throwThe, MonadExceptOf.throw]
    · simp [hnan, pure, Except.pure]

/-- the records are counted last -/
theorem batchFault?_eq_or (h : Handle) (raw : RawBatch) (n count : Nat) : batchFault? h raw n count =
    (batchFault? h raw n n).or (if count < n then some (.recordsMissing count n) else none) := by
  unfold batchFault?
  by_cases hzero : n = 0
  · rw [if_pos hzero, if_pos hzero, Option.some_or]
  by_cases hlarge : h.rows < n
  · rw [if_neg hzero, if_neg hzero, if_pos hlarge, if_pos hlarge, Option.some_or]
  rw [if_neg hzero, if_neg hzero, if_neg hlarge, if_neg hlarge]
  cases Head.all.find? fun k => decide ((raw.get k).size < n * h.rawWidths.get k) with
  | some k => by_cases hfit : n * h.rawWidths.get k < Size.limit <;> simp [hfit]
  | none => by_cases hnan : (raw.value[0]?).any (·.isNaN) = true <;> simp [hnan]

/-- a batch is refused as a whole, or goes on to its rows -/
theorem decode_eq (hraw : Held raw) (n : Nat) (ps : List Prediction) : h.decoder.decode raw n ps =
    match batchFault? h raw n ps.length with
    | some f => (ps, .error f)
    | none => h.decoder.decodeRows raw 0 n ps := by
  rw [batchFault?_eq_or, decode, checkBatch_eq hraw]
  cases batchFault? h raw n n with
  | some f => rfl
  | none => by_cases hfew : ps.length < n <;> simp [hfew]

/-- a batch is refused as a whole exactly when something is wrong with it -/
theorem batchFault?_eq_none_iff : batchFault? h raw n count = none ↔ ¬Spoiled h raw n count := by
  simp only [batchFault?, Checked.first_eq_none_iff]
  cases hfind : Head.all.find? fun k => decide ((raw.get k).size < n * h.rawWidths.get k) with
  | some k =>
    have hshort : (raw.get k).size < n * h.rawWidths.get k := by simpa using List.find?_some hfind
    refine ⟨fun ⟨_, _, hnone⟩ => ?_, fun hsound => absurd (.tooShort k hshort) hsound⟩
    by_cases hfit : n * h.rawWidths.get k < Size.limit <;> simp [hfit] at hnone
  | none =>
    simp only [Checked.first_eq_none_iff, and_true]
    refine ⟨fun ⟨hpos, hle, hnumber, hcount⟩ hspoiled => ?_, fun hsound => ⟨fun hn => hsound (.empty hn),
      fun hn => hsound (.tooLarge hn), fun hany => ?_, fun hfew => hsound (.recordsMissing hfew)⟩⟩
    · cases hspoiled with
      | empty hn => exact hpos hn
      | tooLarge hn => exact hle hn
      | tooShort k hk => exact absurd hk (by simpa using List.find?_eq_none.1 hfind k (Head.mem_all k))
      | notANumber win hwin hnan => exact hnumber (by simpa [hwin] using hnan)
      | recordsMissing hfew => exact hcount hfew
    · obtain ⟨win, hwin, hnan⟩ := (Option.any_eq_true _ _).1 hany
      exact hsound (.notANumber win hwin hnan)

/-- of a batch of a right size with a head that is too short, the first such head is told -/
theorem batchFault?_of_tooShort (count : Nat) {j : Head} (hpos : 0 < n) (hle : n ≤ h.rows)
    (hj : (raw.get j).size < n * h.rawWidths.get j) : ∃ k, (raw.get k).size < n * h.rawWidths.get k ∧
      batchFault? h raw n count = some (if n * h.rawWidths.get k < Size.limit then
        .rawTooShort k (raw.get k).size n (n * h.rawWidths.get k) else .productTooLarge) := by
  unfold batchFault?
  rw [if_neg (Nat.ne_of_gt hpos), if_neg (Nat.not_lt.2 hle)]
  cases hfind : Head.all.find? fun k => decide ((raw.get k).size < n * h.rawWidths.get k) with
  | none => exact absurd hj (by simpa using List.find?_eq_none.1 hfind j (Head.mem_all j))
  | some k =>
    refine ⟨k, by simpa using List.find?_some hfind, ?_⟩
    by_cases hfit : n * h.rawWidths.get k < Size.limit <;> simp [hfit]

theorem admits_of_not_spoiled (hraw : Held raw) (hsound : ¬Spoiled h raw n count) : Admits h raw n ∧ n ≤ count := by
  have hpos : 0 < n := Nat.pos_of_ne_zero fun hzero => hsound (.empty hzero)
  have hlong : ∀ k, n * h.rawWidths.get k ≤ (raw.get k).size :=
    fun k => Nat.le_of_not_lt fun hshort => hsound (.tooShort k hshort)
  obtain ⟨win, hwin⟩ := exists_win hpos hlong
  refine ⟨⟨hpos, Nat.le_of_not_lt fun hlarge => hsound (.tooLarge hlarge), fun k => ⟨?_, hlong k⟩, win, hwin, ?_⟩,
    Nat.le_of_not_lt fun hfew => hsound (.recordsMissing hfew)⟩
  · have hsize := hraw k
    have hlimit : 2 ^ 61 < Size.limit := by decide
    have := hlong k
    omega
  · cases hnan : win.isNaN with
    | false => rfl
    | true => exact absurd (.notANumber win hwin hnan) hsound

/-! ## A record -/

/-- the first thing that is wrong with the record of row `r` -/
def recordFault? (h : Handle) (r : Nat) (p : Prediction) : Option Fault :=
  if p.x ≠ h.x ∨ p.y ≠ h.y then some (.recordBoard r p.x p.y h.x h.y)
  else if p.policy.size ≠ h.policySize then some (.policySize r p.policy.size h.policySize)
  else match p.owner with
    | none => none
    | some map => if map.size ≠ h.area then some (.ownershipSize r map.size h.area) else none

theorem recordFault?_eq_none_iff : recordFault? h r p = none ↔ p.Fits h := by
  simp only [recordFault?, Checked.first_eq_none_iff, not_or, ne_eq, Decidable.not_not]
  refine ⟨fun ⟨⟨hx, hy⟩, hpolicy, howner⟩ => ⟨hx, hy, hpolicy, fun map hmap => ?_⟩,
    fun hfit => ⟨⟨hfit.x_eq, hfit.y_eq⟩, hfit.policy_size, ?_⟩⟩
  · rw [hmap] at howner
    simpa using howner
  · cases howner : p.owner with
    | none => rfl
    | some map => simpa using hfit.owner_size map howner

end Decoder

/-- `new` is what is left of a record that does not fit: it is as before if its board or its policy does not fit, and has
the outcome and the policy of row `r` if only its map does not -/
structure Prediction.StoppedAt (old : Prediction) (h : Handle) (raw : RawBatch) (r : Nat) (new : Prediction) : Prop where
  untouched : ¬((old.x = h.x ∧ old.y = h.y) ∧ old.policy.size = h.policySize) → new = old
  half : (old.x = h.x ∧ old.y = h.y) ∧ old.policy.size = h.policySize →
    old.OutcomeAt h raw r new ∧ new.owner = old.owner ∧ new.mean = old.mean ∧ new.meanSq = old.meanSq

namespace Decoder

variable {h : Handle} {raw : RawBatch} {n r count : Nat} {p q : Prediction} {ps : List Prediction} {f : Fault}

theorem checkRecord_eq : h.decoder.checkRecord r p =
    if p.x ≠ h.x ∨ p.y ≠ h.y then .error (.recordBoard r p.x p.y h.x h.y)
    else if p.policy.size ≠ h.policySize then .error (.policySize r p.policy.size h.policySize)
    else .ok () := by
  show (if p.x ≠ h.x ∨ p.y ≠ h.y then _ else if p.policy.size ≠ h.policySize then _ else _) = _
  rfl

theorem checkRecord_of_fault (hshape : ¬((p.x = h.x ∧ p.y = h.y) ∧ p.policy.size = h.policySize))
    (hf : recordFault? h r p = some f) : h.decoder.checkRecord r p = .error f := by
  rw [checkRecord_eq]
  unfold recordFault? at hf
  by_cases hboard : p.x ≠ h.x ∨ p.y ≠ h.y
  · rw [if_pos hboard] at hf ⊢
    exact congrArg Except.error (Option.some.inj hf)
  · rw [if_neg hboard] at hf ⊢
    obtain ⟨hx, hy⟩ := not_or.1 hboard
    have hpolicy : p.policy.size ≠ h.policySize :=
      fun hsize => hshape ⟨⟨Decidable.not_not.1 hx, Decidable.not_not.1 hy⟩, hsize⟩
    rw [if_pos hpolicy] at hf ⊢
    exact congrArg Except.error (Option.some.inj hf)

theorem owner_of_fault (hshape : (p.x = h.x ∧ p.y = h.y) ∧ p.policy.size = h.policySize)
    (hf : recordFault? h r p = some f) :
    ∃ map, p.owner = some map ∧ map.size ≠ h.area ∧ f = .ownershipSize r map.size h.area := by
  obtain ⟨⟨hx, hy⟩, hpolicy⟩ := hshape
  rw [recordFault?, if_neg (not_or.2 ⟨not_not_intro hx, not_not_intro hy⟩), if_neg (not_not_intro hpolicy)] at hf
  cases howner : p.owner with
  | none =>
    rw [howner] at hf
    cases hf
  | some map =>
    rw [howner] at hf
    by_cases harea : map.size = h.area
    · simp [harea] at hf
    · exact ⟨map, rfl, harea, by simpa [harea] using hf.symm⟩

/-- a record that does not fit stops the decoder with what is wrong with it first -/
theorem decodeRow_of_fault (hrow : raw.row h.rawWidths r = .ok (raw.blocks h.rawWidths r))
    (hf : recordFault? h r p = some f) :
    ∃ q, h.decoder.decodeRow raw r p = (q, .error f) ∧ p.StoppedAt h raw r q := by
  by_cases hshape : (p.x = h.x ∧ p.y = h.y) ∧ p.policy.size = h.policySize
  · obtain ⟨map, howner, harea, hfault⟩ := owner_of_fault hshape hf
    have hsize := (RawBatch.blocks_of_row_eq_ok hrow).2
    have hcheck : (do h.decoder.checkRecord r p; raw.row h.decoder.widths r) = .ok (raw.blocks h.rawWidths r) :=
      Checked.bind_eq_ok_iff.2 ⟨(), checkRecord_eq_ok_iff.2 hshape, hrow⟩
    have h3 : (raw.blocks h.rawWidths r).value.size = 3 := (hsize .value).trans h.model.value_eq
    obtain ⟨win, loss, noResult, hvalue⟩ := outcomes_ok h3
    obtain ⟨hwin, hloss, hno⟩ := outcomes_eq_ok_iff.1 hvalue
    have hstop : h.decoder.decodeOwner r (raw.blocks h.rawWidths r).ownership p.owner = .error f := by
      rw [howner, hfault]
      exact decodeOwner_some.trans (if_pos harea)
    refine ⟨{ p with win, loss, noResult, policy := Flat.takeEven (raw.blocks h.rawWidths r).policy p.policy }, ?_,
      fun hs => absurd hshape hs, fun _ => ⟨⟨rfl, rfl, ?_, ?_, ?_, Flat.size_takeEven _ _, fun i hi => ?_⟩, rfl, rfl, rfl⟩⟩
    · simp only [decodeRow, hcheck, hvalue, hstop]
    · exact (Prediction.value_block (by decide)).symm.trans hwin
    · exact (Prediction.value_block (by decide)).symm.trans hloss
    · exact (Prediction.value_block (by decide)).symm.trans hno
    · have hwide : (raw.blocks h.rawWidths r).policy.size = 2 * h.policySize := hsize .policy
      rw [← Prediction.policy_block hi]
      exact Flat.getElem?_takeEven (by rw [hshape.2]; exact hi) (by omega)
  · refine ⟨p, ?_, fun _ => rfl, fun hs => absurd hs hshape⟩
    simp only [decodeRow, checkRecord_of_fault hshape hf, Checked.error_bind]

/-! ## Rows up to the first that stops -/

/-- rows that end at the first record that cannot be decoded: the records before it are decoded and those behind it stay -/
theorem decodeRows_stops {d : Decoder} {k : Nat} (hk : k < count) (hp : ps[k]? = some p)
    (hstop : d.decodeRow raw (r + k) p = (q, .error f))
    (hgood : ∀ i < k, ∀ old, ps[i]? = some old → ∃ new, d.decodeRow raw (r + i) old = (new, .ok ())) :
    (d.decodeRows raw r count ps).2 = .error f ∧
      (∀ i < k, ∀ old, ps[i]? = some old → ∃ new, (d.decodeRows raw r count ps).1[i]? = some new ∧
        d.decodeRow raw (r + i) old = (new, .ok ())) ∧
      (d.decodeRows raw r count ps).1[k]? = some q ∧
      ∀ i, k < i → (d.decodeRows raw r count ps).1[i]? = ps[i]? := by
  -- on the rows before the one that stops; each of them is decoded and moves the rest one row up
  induction k generalizing r count ps with
  | zero =>
    obtain ⟨count, rfl⟩ := Nat.exists_eq_add_one.2 hk
    obtain ⟨rest, rfl⟩ := List.head?_eq_some_iff.1 (List.head?_eq_getElem?.trans hp)
    have hrows : d.decodeRows raw r (count + 1) (p :: rest) = (q :: rest, .error f) := by
      simp only [decodeRows, show d.decodeRow raw r p = (q, .error f) from hstop]
    rw [hrows]
    refine ⟨rfl, fun i hi => absurd hi (Nat.not_lt_zero i), rfl, fun i hi => ?_⟩
    cases i with
    | zero => exact absurd hi (Nat.lt_irrefl 0)
    | succ i => rfl
  | succ k ih =>
    obtain ⟨count, rfl⟩ := Nat.exists_eq_add_one.2 (Nat.zero_lt_of_lt hk)
    cases ps with
    | nil => cases hp
    | cons p' ps =>
      obtain ⟨q', hq'⟩ := hgood 0 (Nat.succ_pos k) p' rfl
      have hrows : d.decodeRows raw r (count + 1) (p' :: ps) =
          (q' :: (d.decodeRows raw (r + 1) count ps).1, (d.decodeRows raw (r + 1) count ps).2) := by
        simp only [decodeRows, show d.decodeRow raw r p' = (q', .ok ()) from hq']
      have hstop' : d.decodeRow raw (r + 1 + k) p = (q, .error f) := by rwa [Nat.add_right_comm, Nat.add_assoc]
      obtain ⟨hout, hbefore, hat, hafter⟩ := ih (Nat.lt_of_succ_lt_succ hk) hp hstop' fun i hi old hold => by
        rw [Nat.add_right_comm, Nat.add_assoc]
        exact hgood (i + 1) (Nat.succ_lt_succ hi) old hold
      rw [hrows]
      refine ⟨hout, fun i hi old hold => ?_, hat, fun i hi => ?_⟩
      · cases i with
        | zero =>
          cases hold
          exact ⟨q', rfl, hq'⟩
        | succ i =>
          obtain ⟨new, hnew, hdecode⟩ := hbefore i (Nat.lt_of_succ_lt_succ hi) old hold
          exact ⟨new, hnew, by rw [← hdecode, Nat.add_right_comm, Nat.add_assoc]⟩
      · cases i with
        | zero => exact absurd hi (Nat.not_lt_zero _)
        | succ i => exact hafter i (Nat.lt_of_succ_lt_succ hi)

/-- rows that end with a fault end with that of one of them -/
theorem decodeRows_fault {d : Decoder} (hf : (d.decodeRows raw r count ps).2 = .error f) :
    ∃ k < count, ∃ p q, ps[k]? = some p ∧ d.decodeRow raw (r + k) p = (q, .error f) := by
  induction count generalizing r ps with
  | zero => cases hf
  | succ count ih =>
    match ps with
    | p :: ps =>
      cases hrow : d.decodeRow raw r p with
      | mk q outcome =>
        cases outcome with
        | error f' =>
          simp only [decodeRows, hrow] at hf
          cases hf
          exact ⟨0, Nat.succ_pos count, p, q, rfl, hrow⟩
        | ok u =>
          simp only [decodeRows, hrow] at hf
          obtain ⟨k, hk, p', q', hp', hrow'⟩ := ih hf
          exact ⟨k + 1, Nat.succ_lt_succ hk, p', q', hp', by rw [← hrow', Nat.add_right_comm, Nat.add_assoc]⟩

/-! ## A batch that is refused -/

/-- a spoiled batch stops before any record is touched -/
theorem decode_of_spoiled (hraw : Held raw) (hspoiled : Spoiled h raw n ps.length) :
    ∃ f, batchFault? h raw n ps.length = some f ∧ h.decoder.decode raw n ps = (ps, .error f) := by
  have hsome : batchFault? h raw n ps.length ≠ none := fun hnone => batchFault?_eq_none_iff.1 hnone hspoiled
  obtain ⟨f, hf⟩ := Option.ne_none_iff_exists'.1 hsome
  exact ⟨f, hf, by rw [decode_eq hraw, hf]⟩

/-- a batch that is not spoiled stops at its first record that does not fit -/
theorem decode_of_bad {k : Nat} (hraw : Held raw) (hsound : ¬Spoiled h raw n ps.length) (hk : k < n)
    (hp : ps[k]? = some p) (hbad : ¬p.Fits h) (hfirst : ∀ i < k, ∀ q, ps[i]? = some q → q.Fits h) :
    ∃ f, recordFault? h k p = some f ∧ (h.decoder.decode raw n ps).2 = .error f ∧
      (∀ i < k, ∀ old, ps[i]? = some old → ∃ new, (h.decoder.decode raw n ps).1[i]? = some new ∧
        old.DecodedAt h raw i new) ∧
      (∃ new, (h.decoder.decode raw n ps).1[k]? = some new ∧ p.StoppedAt h raw k new) ∧
      ∀ i, k < i → (h.decoder.decode raw n ps).1[i]? = ps[i]? := by
  obtain ⟨had, hlen⟩ := admits_of_not_spoiled hraw hsound
  have hsome : recordFault? h k p ≠ none := fun hnone => hbad (recordFault?_eq_none_iff.1 hnone)
  obtain ⟨f, hf⟩ := Option.ne_none_iff_exists'.1 hsome
  obtain ⟨q, hstop, hleft⟩ := decodeRow_of_fault (had.row_eq_ok hk) hf
  rw [decode_eq_decodeRows had hlen]
  obtain ⟨hout, hbefore, hat, hafter⟩ := decodeRows_stops (r := 0) hk hp (by rwa [Nat.zero_add]) fun i hi old hold => by
    rw [Nat.zero_add]
    exact decodeRow_ok (hfirst i hi old hold) (had.row_eq_ok (Nat.lt_trans hi hk))
  refine ⟨f, hf, hout, fun i hi old hold => ?_, ⟨q, hat, hleft⟩, hafter⟩
  obtain ⟨new, hnew, hdecode⟩ := hbefore i hi old hold
  rw [Nat.zero_add] at hdecode
  obtain ⟨hfit, -, hread⟩ := reads_of_decodeRow hdecode
  exact ⟨new, hnew, hread.decodedAt hfit (had.block_size (Nat.lt_trans hi hk) .ownership)⟩

/-- the fault of a batch is one of the batch as a whole, or that of its first record that does not fit -/
theorem fault_cases (hraw : Held raw) (hf : (h.decoder.decode raw n ps).2 = .error f) :
    batchFault? h raw n ps.length = some f ∨ ∃ k < n, ∃ p, ps[k]? = some p ∧ recordFault? h k p = some f := by
  by_cases hspoiled : Spoiled h raw n ps.length
  · obtain ⟨f', hf', hdecode⟩ := decode_of_spoiled hraw hspoiled
    rw [hdecode] at hf
    cases hf
    exact .inl hf'
  obtain ⟨had, hlen⟩ := admits_of_not_spoiled hraw hspoiled
  rw [decode_eq_decodeRows had hlen] at hf
  obtain ⟨k, hk, p, q, hp, hrow⟩ := decodeRows_fault hf
  rw [Nat.zero_add] at hrow
  cases hrecord : recordFault? h k p with
  | none =>
    obtain ⟨q', hq'⟩ := decodeRow_ok (recordFault?_eq_none_iff.1 hrecord) (had.row_eq_ok hk)
    rw [hq'] at hrow
    cases hrow
  | some f' =>
    obtain ⟨q', hq', -⟩ := decodeRow_of_fault (had.row_eq_ok hk) hrecord
    rw [hq'] at hrow
    cases hrow
    exact .inr ⟨k, hk, p, hp, hrecord⟩

end Decoder

/-! ## What is told -/

/-- what is told of a place, a stretch or a row that a buffer does not have -/
def Fault.outOfRange : Fault → Bool
  | .placeMissing .. | .endMissing .. | .copySize .. | .rowMissing .. => true
  | _ => false

namespace Decoder

variable {h : Handle} {raw : RawBatch} {n r count : Nat} {p q : Prediction} {ps : List Prediction} {f : Fault}

theorem inRange_of_recordFault (hf : recordFault? h r p = some f) : f.outOfRange = false ∧ f ≠ .productTooLarge := by
  unfold recordFault? at hf
  split at hf
  · cases hf
    exact ⟨rfl, Fault.noConfusion⟩
  split at hf
  · cases hf
    exact ⟨rfl, Fault.noConfusion⟩
  split at hf
  · cases hf
  split at hf
  · cases hf
    exact ⟨rfl, Fault.noConfusion⟩
  · cases hf

theorem inRange_of_batchFault (hf : batchFault? h raw n count = some f) : f.outOfRange = false ∧
    (f = .productTooLarge → ∃ k, (raw.get k).size < n * h.rawWidths.get k) := by
  unfold batchFault? at hf
  split at hf
  · cases hf
    exact ⟨rfl, nofun⟩
  split at hf
  · cases hf
    exact ⟨rfl, nofun⟩
  split at hf
  · rename_i k hfind
    have hshort : (raw.get k).size < n * h.rawWidths.get k := by simpa using List.find?_some hfind
    split at hf
    · cases hf
      exact ⟨rfl, nofun⟩
    · cases hf
      exact ⟨rfl, fun _ => ⟨k, hshort⟩⟩
  split at hf
  · cases hf
    exact ⟨rfl, nofun⟩
  split at hf
  · cases hf
    exact ⟨rfl, nofun⟩
  · cases hf

end Decoder

/-- **What a decoder refuses.** A batch is refused exactly when it is spoiled as a whole or has a record that does not
fit; it is never refused for a place that is missing, and for a product that cannot be counted only if a head is too short
indeed. A spoiled batch leaves every record as it was. Otherwise the first record that does not fit stops the decoder: the
records before it are decoded, those behind it stay, and it is written as far as it was looked at. -/
theorem decode_refuses_iff {h : Handle} {d : Decoder} (hd : Decoder.ofHandle h = .ok d) {raw : RawBatch}
    (hraw : ∀ k, (raw.get k).size < 2 ^ 61) (n : Nat) (ps : List Prediction) :
    ((∃ f, (d.decode raw n ps).2 = .error f) ↔
        Decoder.Spoiled h raw n ps.length ∨ ∃ r < n, ∃ p, ps[r]? = some p ∧ ¬p.Fits h) ∧
      (∀ f, (d.decode raw n ps).2 = .error f → f.outOfRange = false ∧
        (f = .productTooLarge → ∃ k, (raw.get k).size < n * h.rawWidths.get k)) ∧
      (Decoder.Spoiled h raw n ps.length → (d.decode raw n ps).1 = ps) ∧
      (¬Decoder.Spoiled h raw n ps.length → ∀ k < n, ∀ p, ps[k]? = some p → ¬p.Fits h →
        (∀ i < k, ∀ q, ps[i]? = some q → q.Fits h) →
        (∀ i < k, ∀ old, ps[i]? = some old → ∃ new, (d.decode raw n ps).1[i]? = some new ∧
          old.DecodedAt h raw i new) ∧
        (∃ new, (d.decode raw n ps).1[k]? = some new ∧ p.StoppedAt h raw k new) ∧
        ∀ i, k < i → (d.decode raw n ps).1[i]? = ps[i]?) := by
  obtain ⟨-, hdecoder⟩ := Decoder.ofHandle_eq_ok_iff.1 hd
  subst hdecoder
  refine ⟨⟨fun ⟨f, hf⟩ => ?_, fun hbad => ?_⟩, fun f hf => ?_, fun hspoiled => ?_, fun hsound k hk p hp hbad hfirst => ?_⟩
  · rcases Decoder.fault_cases hraw hf with hbatch | ⟨k, hk, p, hp, hrecord⟩
    · refine .inl (Classical.byContradiction fun hsound => ?_)
      rw [Decoder.batchFault?_eq_none_iff.2 hsound] at hbatch
      cases hbatch
    · refine .inr ⟨k, hk, p, hp, fun hfit => ?_⟩
      rw [Decoder.recordFault?_eq_none_iff.2 hfit] at hrecord
      cases hrecord
  · cases hout : (h.decoder.decode raw n ps).2 with
    | error f => exact ⟨f, rfl⟩
    | ok u =>
      obtain ⟨had, hlen, hfits⟩ := Decoder.decode_ok_iff.1 hout
      rcases hbad with hspoiled | ⟨r, hr, p, hp, hp'⟩
      · obtain ⟨f, -, hdecode⟩ := Decoder.decode_of_spoiled hraw hspoiled
        rw [hdecode] at hout
        cases hout
      · exact absurd (hfits r hr p hp) hp'
  · rcases Decoder.fault_cases hraw hf with hbatch | ⟨k, -, p, -, hrecord⟩
    · exact Decoder.inRange_of_batchFault hbatch
    · obtain ⟨hrange, hproduct⟩ := Decoder.inRange_of_recordFault hrecord
      exact ⟨hrange, fun hf => absurd hf hproduct⟩
  · obtain ⟨f, -, hdecode⟩ := Decoder.decode_of_spoiled hraw hspoiled
    rw [hdecode]
  · obtain ⟨f, -, -, hleft⟩ := Decoder.decode_of_bad hraw hsound hk hp hbad hfirst
    exact hleft

/-- three records, the second with a map of two cells; the first is decoded, the second gets its outcome and its policy, and
the third stays -/
theorem decode_refuses_iff_oneCell :
    let h := Handle.oneCell (Descriptor.oldest "m" 1 (by decide)) 3 (by decide)
    let raw : RawBatch := ⟨#[one, zero, one, zero, zero, one, one, one, zero, zero, zero, zero],
      #[zero, zero, one, one, zero, zero, zero, one, zero], #[one, one, one], #[one, one, one]⟩
    let p : Prediction := ⟨1, 1, zero, zero, zero, zero, zero, #[zero, zero], some #[zero]⟩
    let wide : Prediction := { p with owner := some #[zero, zero] }
    ∃ d, Decoder.ofHandle h = .ok d ∧ (∃ f, (d.decode raw 3 [p, wide, p]).2 = .error f ∧ f.outOfRange = false) ∧
      (∃ new, (d.decode raw 3 [p, wide, p]).1[0]? = some new ∧ new.noResult = one ∧ new.mean = one) ∧
      (∃ new, (d.decode raw 3 [p, wide, p]).1[1]? = some new ∧ new.win = one ∧ new.policy[1]? = some one ∧
        new.owner = wide.owner ∧ new.mean = zero) ∧
      (d.decode raw 3 [p, wide, p]).1[2]? = some p := by
  intro h raw p wide
  have hd : Decoder.ofHandle h = .ok h.decoder := rfl
  have hraw : ∀ k, (raw.get k).size < 2 ^ 61 := fun k => by cases k <;> decide
  have hlong : ∀ k, 3 * h.rawWidths.get k ≤ (raw.get k).size := fun k => by cases k <;> decide
  have hsound : ¬Decoder.Spoiled h raw 3 [p, wide, p].length := by
    intro hspoiled
    cases hspoiled with
    | empty hn => cases hn
    | tooLarge hn => exact absurd hn (Nat.lt_irrefl 3)
    | tooShort k hk => exact absurd hk (Nat.not_lt.2 (hlong k))
    | notANumber win hwin hnan =>
      cases hwin
      exact absurd hnan (by decide)
    | recordsMissing hcount => exact absurd hcount (Nat.lt_irrefl 3)
  have hfirst : ∀ i < 1, ∀ q, [p, wide, p][i]? = some q → q.Fits h := by
    intro i hi q hq
    obtain rfl : i = 0 := Nat.lt_one_iff.1 hi
    cases hq
    exact ⟨rfl, rfl, rfl, fun map hmap => by cases hmap; rfl⟩
  have hbad : ¬wide.Fits h := fun hfit => absurd (hfit.owner_size #[zero, zero] rfl) (by decide)
  obtain ⟨hiff, htold, -, hleft⟩ := decode_refuses_iff hd hraw 3 [p, wide, p]
  obtain ⟨f, hf⟩ := hiff.2 (.inr ⟨1, by decide, wide, rfl, hbad⟩)
  obtain ⟨hbefore, ⟨half, hhalf, hstopped⟩, hafter⟩ := hleft hsound 1 (by decide) wide rfl hbad hfirst
  obtain ⟨new, hnew, hat⟩ := hbefore 0 Nat.one_pos p rfl
  obtain ⟨houtcome, howner, hmean, -⟩ := hstopped.half ⟨⟨rfl, rfl⟩, rfl⟩
  exact ⟨_, hd, ⟨f, hf, (htold f hf).1⟩,
    ⟨new, hnew, (Option.some.inj hat.noResult).symm, (Option.some.inj hat.mean).symm⟩,
    ⟨half, hhalf, (Option.some.inj houtcome.win).symm, houtcome.policy 1 (by decide), howner, hmean⟩,
    hafter 2 (by decide)⟩

end BatchEval
