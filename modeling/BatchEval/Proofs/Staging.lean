/-
The staging of one handle, over all its batches. It is sized once and never cleared: the words of old batches stay behind
the marks, and a refused tensor leaves a batch half written.

- `Staging.MadeFor`: the sizes, which no tensor changes.
- `write_eq`: a tensor is taken exactly when it has the rows of the batch, and the error says what it has instead.
- `Staging.Holds`, `collect_spec`: a batch sees its own tensors only, and of each head the last one.
- `view_eq`: what is given back, or the first head that is missing.
-/
import BatchEval.Proofs.Blocks
import BatchEval.Proofs.Sizes
import BatchEval.Session

namespace BatchEval

/-! ## Names of tensors -/

namespace Head

theorem tensorName_inj {j k : Head} : j.tensorName = k.tensorName ↔ j = k := by
  refine ⟨fun h => ?_, fun h => by rw [h]⟩
  have hj := ofTensorName?_tensorName j
  rw [h, ofTensorName?_tensorName k] at hj
  exact (Option.some.inj hj).symm

/-- a tensor is decoded as the head whose name it has -/
theorem ofTensorName?_eq_some_iff {name : String} {k : Head} :
    ofTensorName? name = some k ↔ name = k.tensorName := by
  refine ⟨?_, ?_⟩
  · intro h
    have hname := List.find?_some (show all.find? (fun k => k.tensorName == name) = some k from h)
    exact (beq_iff_eq.1 hname).symm
  · intro h
    rw [h]
    exact ofTensorName?_tensorName k

end Head

/-- the tensor has the name of a head -/
def NamedTensor.decoded (t : NamedTensor) : Bool := (Head.ofTensorName? t.name).isSome

/-- the words of the last tensor that is decoded as a head -/
def lastFor (k : Head) (tensors : List NamedTensor) : Option (Array Word) :=
  (tensors.reverse.find? fun t => t.name == k.tensorName).map (·.data)

theorem lastFor_cons (k : Head) (t : NamedTensor) (ts : List NamedTensor) :
    lastFor k (t :: ts) = (lastFor k ts).or (if t.name = k.tensorName then some t.data else none) := by
  rw [lastFor, lastFor, List.reverse_cons, List.find?_append]
  by_cases hname : t.name = k.tensorName
  · cases ts.reverse.find? fun t => t.name == k.tensorName <;> simp [hname]
  · cases ts.reverse.find? fun t => t.name == k.tensorName <;> simp [hname]

theorem exists_mem_of_lastFor {k : Head} {tensors : List NamedTensor} {data : Array Word}
    (hlast : lastFor k tensors = some data) : ∃ t ∈ tensors, t.name = k.tensorName ∧ t.data = data := by
  obtain ⟨t, ht, hdata⟩ := Option.map_eq_some_iff.1 hlast
  have hname := List.find?_some ht
  simp only [beq_iff_eq] at hname
  exact ⟨t, List.mem_reverse.1 (List.mem_of_find?_eq_some ht), hname, hdata⟩

namespace Staging

variable {h : Handle} {s b : Staging} {k : Head} {n : Nat} {data : Array Word}

/-! ## Sizes -/

/-- what the staging of a handle keeps -/
structure MadeFor (s : Staging) (h : Handle) : Prop where
  rows_eq : s.rows = h.rows
  widths_eq : s.widths = h.rawWidths
  size_eq : ∀ k, (s.cells.get k).size = h.rows * h.rawWidths.get k
  words_le : ∀ k, h.rows * h.rawWidths.get k ≤ Size.maxWords

theorem ofHandle_madeFor (hs : ofHandle h = .ok s) : s.MadeFor h := by
  simp only [ofHandle, Checked.bind_eq_ok_iff, RawWidths.ofHandle_eq_ok_iff, pure, Except.pure, Except.ok.injEq] at hs
  obtain ⟨widths, ⟨-, hw⟩, sizes, hsizes, hs⟩ := hs
  subst hw
  subst hs
  have hlane := fun k => Size.rows_eq_ok_iff.1 (PerHead.build_eq_ok_iff.1 hsizes k)
  refine ⟨rfl, rfl, fun k => ?_, fun k => (hlane k).1⟩
  rw [PerHead.get_ofFn, Array.size_replicate]
  exact (hlane k).2.symm

theorem MadeFor.front_le (hs : s.MadeFor h) (hn : n ≤ h.rows) (k : Head) :
    n * h.rawWidths.get k ≤ (s.cells.get k).size := by
  rw [hs.size_eq]
  exact Nat.mul_le_mul_right _ hn

/-- a batch is begun exactly when it is not too large; it leaves the words -/
theorem start_eq (hs : s.MadeFor h) (n : Nat) :
    s.start n = if h.rows < n then .error (.capacity n h.rows)
      else .ok { s with filled := PerHead.replicate false } := by
  rw [start, hs.rows_eq]

theorem MadeFor.clear (hs : s.MadeFor h) : { s with filled := PerHead.replicate false }.MadeFor h := { hs with }

/-! ## Taking a tensor -/

/-- the staging with the words of a tensor in front of a head's buffer, and the head marked -/
def put (s : Staging) (k : Head) (data : Array Word) : Staging :=
  { s with cells := s.cells.set k (Flat.overwrite (s.cells.get k) 0 data), filled := s.filled.set k true }

/-- what is wrong with a tensor that has not the rows of the batch -/
def misfit (k : Head) (n width size : Nat) : StagingError :=
  if size % width = 0 then .rowCount k (size / width) n else .rowWidth k size width

/-- a tensor is taken exactly when it has the rows of the batch -/
theorem write_eq (hs : s.MadeFor h) (hn : n ≤ h.rows) (k : Head) (data : Array Word) :
    s.write k n data = if data.size = n * h.rawWidths.get k then .ok (s.put k data)
      else .error (.refused (misfit k n (h.rawWidths.get k) data.size)) := by
  have hpos := h.rawWidths_pos k
  have hfront := hs.front_le hn k
  have hdiv := Nat.div_add_mod data.size (h.rawWidths.get k)
  rw [write, hs.widths_eq, hs.rows_eq, if_neg (Nat.ne_of_gt hpos)]
  by_cases hmod : data.size % h.rawWidths.get k = 0
  · rw [if_neg (not_not_intro hmod)]
    by_cases hrows : data.size / h.rawWidths.get k = n
    · have hsize : data.size = n * h.rawWidths.get k := by
        rw [hmod, hrows, Nat.add_zero, Nat.mul_comm] at hdiv
        exact hdiv.symm
      have hle : data.size ≤ (s.cells.get k).size := by rw [hsize]; exact hfront
      have hold : Flat.front (s.cells.get k) data.size = .ok ((s.cells.get k).extract 0 data.size) :=
        Flat.slice_eq_ok_iff.2 ⟨hle, rfl⟩
      have hnew : Flat.replaceAll ((s.cells.get k).extract 0 data.size) data = .ok data :=
        if_pos (by rw [Array.size_extract, Nat.min_eq_left hle, Nat.sub_zero])
      rw [if_neg (not_not_intro hrows), if_neg (by omega), if_pos hsize, hold]
      simp only [Halt.ofFault, Checked.ok_bind, hnew, Staging.put, hs.rows_eq, hs.widths_eq]
      rfl
    · have hsize : data.size ≠ n * h.rawWidths.get k := fun hd => hrows (by rw [hd, Nat.mul_div_cancel _ hpos])
      rw [if_pos hrows, if_neg hsize, misfit, if_pos hmod]
      rfl
  · have hsize : data.size ≠ n * h.rawWidths.get k := fun hd => hmod (by rw [hd, Nat.mul_mod_left])
    rw [if_pos hmod, if_neg hsize, misfit, if_neg hmod]
    rfl

theorem MadeFor.put (hs : s.MadeFor h) (hn : n ≤ h.rows) (hd : data.size = n * h.rawWidths.get k) :
    (s.put k data).MadeFor h := by
  have hfront := hs.front_le hn k
  have hsize : (Flat.overwrite (s.cells.get k) 0 data).size = (s.cells.get k).size := Flat.size_overwrite (by omega)
  refine { hs with size_eq := fun j => ?_ }
  simp only [Staging.put, PerHead.get_set]
  by_cases hj : j = k
  · rw [if_pos hj, hsize, hj]
    exact hs.size_eq k
  · rw [if_neg hj]
    exact hs.size_eq j

/-! ## What a batch sees -/

/-- the marks and the words in front of the buffers are those of the tensors `got` -/
def Holds (s : Staging) (h : Handle) (n : Nat) (got : Head → Option (Array Word)) : Prop :=
  ∀ k, s.filled.get k = (got k).isSome ∧
    ∀ data, got k = some data → (s.cells.get k).extract 0 (n * h.rawWidths.get k) = data

/-- a batch that has just begun sees nothing of the batches before -/
theorem holds_clear (s : Staging) (h : Handle) (n : Nat) :
    { s with filled := PerHead.replicate false }.Holds h n fun _ => none :=
  fun k => ⟨PerHead.get_replicate false k, fun data hdata => by cases hdata⟩

/-- a tensor that is taken is seen in the place of an earlier one -/
theorem Holds.put {got : Head → Option (Array Word)} (hs : s.MadeFor h) (hn : n ≤ h.rows)
    (hd : data.size = n * h.rawWidths.get k) (hgot : s.Holds h n got) :
    (s.put k data).Holds h n fun j => if j = k then some data else got j := by
  intro j
  simp only [Staging.put, PerHead.get_set]
  by_cases hj : j = k
  · subst hj
    have hfront := hs.front_le hn j
    have hfit : 0 + data.size ≤ (s.cells.get j).size := by omega
    simp only [if_true]
    refine ⟨rfl, fun d hdata => ?_⟩
    cases hdata
    apply Array.ext_getElem?
    intro i
    rw [Array.getElem?_extract, Flat.size_overwrite hfit, Flat.getElem?_overwrite hfit]
    by_cases hi : i < data.size
    · rw [if_pos (by omega), if_pos (by omega)]
      simp
    · rw [if_neg (by omega), Array.getElem?_eq_none (by omega)]
  · simp only [hj, if_false]
    exact hgot j

/-! ## Taking the tensors of an answer -/

/-- what is wrong with a tensor of an answer; a tensor that is not decoded is never wrong -/
def misfit? (widths : RawWidths) (n : Nat) (t : NamedTensor) : Option StagingError :=
  match Head.ofTensorName? t.name with
  | none => none
  | some k => if t.data.size = n * widths.get k then none else some (misfit k n (widths.get k) t.data.size)

theorem misfit?_eq_none_iff {widths : RawWidths} {t : NamedTensor} :
    misfit? widths n t = none ↔ ∀ k, t.name = k.tensorName → t.data.size = n * widths.get k := by
  unfold misfit?
  cases hname : Head.ofTensorName? t.name with
  | none =>
    refine ⟨fun _ k hk => ?_, fun _ => rfl⟩
    rw [Head.ofTensorName?_eq_some_iff.2 hk] at hname
    cases hname
  | some j =>
    have hj := Head.ofTensorName?_eq_some_iff.1 hname
    refine ⟨fun hfit k hk => ?_, fun hfit => if_pos (hfit j hj)⟩
    have hjk : j = k := Head.tensorName_inj.1 (hj.symm.trans hk)
    subst hjk
    by_cases hd : t.data.size = n * widths.get j
    · exact hd
    · simp [hd] at hfit

/-- **The tensors of an answer.** The first tensor that does not fit ends it; if all fit, the batch sees of each head the
last tensor, or what it saw before if there is none. -/
theorem collect_spec {got : Head → Option (Array Word)} (hs : s.MadeFor h) (hn : n ≤ h.rows) (hgot : s.Holds h n got)
    (ts : List NamedTensor) : (Session.collect n s ts).1.MadeFor h ∧
      match ts.findSome? (misfit? h.rawWidths n) with
      | some e => (Session.collect n s ts).2.2 = .error (.refused (.ofStaging e))
      | none => (Session.collect n s ts).2.2 = .ok () ∧
          (Session.collect n s ts).1.Holds h n fun k => (lastFor k ts).or (got k) := by
  induction ts generalizing s got with
  | nil => exact ⟨hs, rfl, hgot⟩
  | cons t ts ih =>
    cases hname : Head.ofTensorName? t.name with
    | none =>
      -- a tensor that is not decoded is the last tensor of no head
      have hmisfit : misfit? h.rawWidths n t = none := by simp only [misfit?, hname]
      have hlast : ∀ k, lastFor k (t :: ts) = lastFor k ts := by
        intro k
        have hne : t.name ≠ k.tensorName := by
          intro hk
          rw [Head.ofTensorName?_eq_some_iff.2 hk] at hname
          cases hname
        rw [lastFor_cons, if_neg hne, Option.or_none]
      simp only [Session.collect, hname, List.findSome?_cons, hmisfit, hlast]
      exact ih hs hgot
    | some k =>
      have hk := Head.ofTensorName?_eq_some_iff.1 hname
      by_cases hd : t.data.size = n * h.rawWidths.get k
      · have hmisfit : misfit? h.rawWidths n t = none := by simp only [misfit?, hname, hd, if_true]
        have hwrite : s.write k n t.data = .ok (s.put k t.data) := by rw [write_eq hs hn, if_pos hd]
        have hlast : (fun j => (lastFor j (t :: ts)).or (got j)) =
            fun j => (lastFor j ts).or (if j = k then some t.data else got j) := by
          funext j
          rw [lastFor_cons, hk, Option.or_assoc]
          by_cases hj : j = k
          · rw [if_pos hj, if_pos (by rw [hj])]
            rfl
          · rw [if_neg hj, if_neg fun hn => hj (Head.tensorName_inj.1 hn).symm]
            rfl
        simp only [Session.collect, hname, List.findSome?_cons, hmisfit, hwrite, hlast]
        exact ih (hs.put hn hd) (hgot.put hs hn hd)
      · have hmisfit : misfit? h.rawWidths n t = some (misfit k n (h.rawWidths.get k) t.data.size) := by
          simp only [misfit?, hname, hd, if_false]
        have hwrite : s.write k n t.data = .error (.refused (misfit k n (h.rawWidths.get k) t.data.size)) := by
          rw [write_eq hs hn, if_neg hd]
        simp only [Session.collect, hname, List.findSome?_cons, hmisfit, hwrite]
        exact ⟨hs, rfl⟩

/-! ## Giving the outputs back -/

/-- the rows of the tensors that the batch sees are given back, or else the first head that it sees none of -/
theorem view_eq {got : Head → Option (Array Word)} (hs : s.MadeFor h) (hn : n ≤ h.rows) (hgot : s.Holds h n got) :
    s.view n = match Head.all.find? fun k => (got k).isNone with
      | some k => .error (.refused (.missing k))
      | none => .ok (PerHead.ofFn fun k => (got k).getD #[]) := by
  have hmarks : (fun k => !s.filled.get k) = fun k => (got k).isNone := by
    funext k
    rw [(hgot k).1, Option.not_isSome]
  rw [view, unfilled?, hmarks]
  cases hall : Head.all.find? fun k => (got k).isNone with
  | some k => rfl
  | none =>
    have hbuild : PerHead.build (fun k => do
        let size ← Size.mul n (s.widths.get k)
        Flat.front (s.cells.get k) size) = .ok (PerHead.ofFn fun k => (got k).getD #[]) := by
      refine PerHead.build_eq_ok_iff.2 fun k => ?_
      have hfront := hs.front_le hn k
      have hwords := hs.words_le k
      have hlimit := Size.maxWords_lt_limit
      have hsome : (got k).isSome :=
        Option.isSome_iff_ne_none.2 (by simpa using List.find?_eq_none.1 hall k (Head.mem_all k))
      obtain ⟨data, hdata⟩ := Option.isSome_iff_exists.1 hsome
      rw [hs.widths_eq, PerHead.get_ofFn, hdata]
      have hmul : Size.mul n (h.rawWidths.get k) = .ok (n * h.rawWidths.get k) := by
        rw [hs.size_eq] at hfront
        exact Size.mul_eq_ok_iff.2 ⟨by omega, rfl⟩
      rw [hmul]
      exact Flat.slice_eq_ok_iff.2 ⟨hfront, (hgot k).2 data hdata⟩
    simp only [hbuild]
    rfl

end Staging

end BatchEval
