/-
The two strides of a batch. A session stages tensors in rows of the widths of the handle it was launched for, and an
evaluation cuts them into rows of the widths of the handle it was called with. Nothing compares the two handles.

- `evaluate_session_ok_iff`: an evaluation through a session succeeds even if its handle's rows are narrower.
- `Decoder.OwnRows`, `ownRows_iff`: when the rows that are cut lie in the rows that were staged.
- `evaluate_ownRows_iff`: each record of an evaluation comes from its own row exactly if the handles have one layout, or
  the batch has one row.
- `evaluate_foreign_row`: two models that differ in their misc channels only, and a record decoded across rows.
-/
import BatchEval.Proofs.Batching
import BatchEval.Proofs.Session

namespace BatchEval

open Word (zero)

/-! ## Layouts of raw rows -/

/-- two handles have the same raw row widths exactly if their boards have as many cells and their models as many misc
channels -/
theorem Handle.rawWidths_eq_iff {A B : Handle} : A.rawWidths = B.rawWidths ↔
    A.area = B.area ∧ A.model.channels.misc = B.model.channels.misc := by
  refine ⟨fun h => ⟨congrArg PerHead.ownership h, congrArg PerHead.misc h⟩, fun ⟨harea, hmisc⟩ => ?_⟩
  have hcells : A.x * A.y = B.x * B.y := harea
  simp only [rawWidths, policySize, hcells, harea, hmisc, A.model.value_eq, B.model.value_eq]

/-- rows of width `v` lie in the rows of width `w` with the same numbers -/
theorem Flat.own_rows_iff {v w n : Nat} (hv : 0 < v) (hle : v ≤ w) (hn : 0 < n) :
    (∀ r < n, ∀ i, r * v ≤ i → i < (r + 1) * v → i / w = r) ↔ n = 1 ∨ v = w := by
  refine ⟨fun hown => ?_, fun hcase r hr i hstart hstop => ?_⟩
  · by_cases hone : n = 1
    · exact Or.inl hone
    · right
      -- the first word of row 1 is the one to look at
      have hrow : v / w = 1 := hown 1 (by omega) v (by omega) (by omega)
      by_cases hlt : v < w
      · rw [Nat.div_eq_of_lt hlt] at hrow
        cases hrow
      · exact Nat.le_antisymm hle (Nat.le_of_not_lt hlt)
  · rcases hcase with hone | heq
    · have hr0 : r = 0 := by omega
      subst hr0
      exact Nat.div_eq_of_lt (by omega)
    · rw [← heq]
      exact Nat.div_eq_of_lt_le hstart hstop

namespace Decoder

/-- every word of the rows that record `r` of `n` is decoded from, cut in rows of `B`, lies in row `r` of rows of `A` -/
def OwnRows (A B : Handle) (n : Nat) : Prop :=
  ∀ r < n, ∀ k i, r * B.rawWidths.get k ≤ i → i < (r + 1) * B.rawWidths.get k → i / A.rawWidths.get k = r

theorem ownRows_iff {A B : Handle} {n : Nat} (hle : ∀ k, B.rawWidths.get k ≤ A.rawWidths.get k) (hn : 0 < n) :
    OwnRows A B n ↔ n = 1 ∨ A.rawWidths = B.rawWidths := by
  have hhead := fun k => Flat.own_rows_iff (B.rawWidths_pos k) (hle k) hn
  refine ⟨fun hown => ?_, fun hcase r hr k => ?_⟩
  · by_cases hone : n = 1
    · exact Or.inl hone
    · refine Or.inr (PerHead.ext_get fun k => ?_)
      rcases (hhead k).1 fun r hr => hown r hr k with h1 | heq
      · exact absurd h1 hone
      · exact heq.symm
  · refine (hhead k).2 ?_ r hr
    rcases hcase with hone | heq
    · exact Or.inl hone
    · exact Or.inr (by rw [heq])

end Decoder

/-! ## Evaluations through a session -/

section Evaluate

variable {π : Type} {e : Engine π} {A B : Handle} {s : Session π} {a : Arena} {model : Descriptor} {n : Nat}
  {ps : List Prediction} {raw : RawBatch} {v : Inputs}

/-- what the engine answered to a view of `B`, asked by a session of `A`: the last tensors of its heads, which have as
many rows of `A` as the view has rows -/
structure Session.Answers (e : Engine π) (s : Session π) (A B : Handle) (v : Inputs) (raw : RawBatch) : Prop where
  batch_le : v.batch ≤ A.rows
  answer : ∃ r tensors, request B v = .ok r ∧ (e.predict s.engine r).2 = .ok tensors ∧
    (∀ t ∈ tensors, ∀ k, t.name = k.tensorName → t.data.size = v.batch * A.rawWidths.get k) ∧
    ∀ k, lastFor k tensors = some (raw.get k)

theorem Session.Answers.size_eq (h : Session.Answers e s A B v raw) (k : Head) :
    (raw.get k).size = v.batch * A.rawWidths.get k := by
  obtain ⟨r, tensors, -, -, hsizes, hlast⟩ := h.answer
  obtain ⟨t, ht, hname, hdata⟩ := exists_mem_of_lastFor (hlast k)
  rw [← hdata]
  exact hsizes t ht k hname

theorem Session.answers_iff (hs : s.staging.MadeFor A) {r : Request} (hr : Session.request B v = .ok r) :
    (Session.runBatch e s B v).outcome = .ok raw ↔ Session.Answers e s A B v raw := by
  rw [Session.runBatch_ok_iff hs hr]
  refine ⟨fun ⟨hle, tensors, h⟩ => ⟨hle, r, tensors, hr, h⟩, fun ⟨hle, r', tensors, hr', h⟩ => ?_⟩
  rw [hr] at hr'
  cases hr'
  exact ⟨hle, tensors, h⟩

/-- staged rows hold the rows of a handle exactly if those are not wider -/
theorem Session.Answers.holds_iff (h : Session.Answers e s A B v raw) (hs : s.staging.MadeFor A) (hn : 0 < v.batch) :
    raw.Holds B.rawWidths v.batch ↔ ∀ k, B.rawWidths.get k ≤ A.rawWidths.get k := by
  refine ⟨fun hholds k => ?_, fun hle k => ?_⟩
  · have hsize := (hholds k).2
    rw [h.size_eq k] at hsize
    exact Nat.le_of_mul_le_mul_left hsize hn
  · have hlimit := Size.maxWords_lt_limit
    have hrows := Nat.mul_le_mul h.batch_le (hle k)
    have hwords := hs.words_le k
    refine ⟨by omega, ?_⟩
    rw [h.size_eq k]
    exact Nat.mul_le_mul_left _ (hle k)

theorem answered_session_iff (hs : Session.OfHandle e A s) (ha : a.OfModel model) :
    Answered (Session.provider e) s B a n raw ↔ a.checkFor B = .ok () ∧
      (∃ v, a.inputs n = .ok v ∧ v.batch = n ∧ Session.Answers e s A B v raw) ∧ 2 * B.policySize < Size.limit := by
  refine ⟨?_, ?_⟩
  · intro hok
    obtain ⟨hcheck, ⟨v, hv, hraw⟩, hwide⟩ := hok
    obtain ⟨hbatch, r, hr⟩ := Session.request_ok ha.madeFor hv B
    exact ⟨hcheck, ⟨v, hv, hbatch, (Session.answers_iff hs.madeFor hr).1 hraw⟩, hwide⟩
  · intro hcond
    obtain ⟨hcheck, ⟨v, hv, _, hans⟩, hwide⟩ := hcond
    obtain ⟨-, r, hr⟩ := Session.request_ok ha.madeFor hv B
    exact ⟨hcheck, ⟨v, hv, (Session.answers_iff hs.madeFor hr).2 hans⟩, hwide⟩

/-- an evaluation through a session of another handle succeeds exactly if, besides what every evaluation asks for, the
rows of its handle are nowhere wider than the rows that are staged; they may be narrower -/
theorem evaluate_session_ok_iff (hs : Session.OfHandle e A s) (ha : a.OfModel model) :
    (evaluate (Session.provider e) s B a n ps).outcome = .ok () ↔ a.checkFor B = .ok () ∧
      ∃ v raw, a.inputs n = .ok v ∧ Session.Answers e s A B v raw ∧
        (∀ k, B.rawWidths.get k ≤ A.rawWidths.get k) ∧ (∃ win, raw.value[0]? = some win ∧ win.isNaN = false) ∧
        n ≤ ps.length ∧ ∀ i < n, ∀ p, ps[i]? = some p → p.Fits B := by
  have hmade := hs.madeFor
  refine ⟨?_, ?_⟩
  · intro hok
    obtain ⟨raw, hansd, hdecode⟩ := evaluate_ok_iff.1 hok
    obtain ⟨hcheck, ⟨v, hv, hbatch, hans⟩, -⟩ := (answered_session_iff hs ha).1 hansd
    obtain ⟨had, hlen, hfit⟩ := Decoder.decode_ok_iff.1 hdecode
    subst hbatch
    exact ⟨hcheck, v, raw, hv, hans, (hans.holds_iff hmade had.pos).1 had.holds, had.number, hlen, hfit⟩
  · intro hcond
    obtain ⟨hcheck, v, raw, hv, hans, hle, hnumber, hlen, hfit⟩ := hcond
    obtain ⟨hpos, hn, -⟩ := (Arena.inputs_eq_ok_iff ha.madeFor).1 hv
    obtain ⟨-, hrows, -⟩ := Arena.checkFor_eq_ok_iff.1 hcheck
    obtain ⟨hbatch, -⟩ := Session.request_ok ha.madeFor hv B
    subst hbatch
    have hholds := (hans.holds_iff hmade hpos).2 hle
    -- one row of the policy head is no longer than all rows of the batch, which fit
    have hwide : 2 * B.policySize < Size.limit := calc
      2 * B.policySize ≤ v.batch * (2 * B.policySize) := Nat.le_mul_of_pos_left _ hpos
      _ < Size.limit := (hholds .policy).1
    refine evaluate_ok_iff.2 ⟨raw, (answered_session_iff hs ha).2 ⟨hcheck, ⟨v, hv, rfl, hans⟩, hwide⟩, ?_⟩
    exact Decoder.decode_ok_iff.2 ⟨⟨hpos, Nat.le_trans hn hrows, hholds, hnumber⟩, hlen, hfit⟩

/-- the first words that a record is decoded from, for the policy and for the mean -/
theorem Prediction.ReadFrom.first_words {p q : Prediction} {layout : ScoreLayout} {i : Nat}
    (h : p.ReadFrom layout (raw.blocks B.rawWidths i) q) (hfit : p.Fits B) :
    q.policy[0]? = raw.policy[i * B.rawWidths.policy]? ∧ some q.mean = raw.misc[i * B.rawWidths.misc]? := by
  have hpolicy : 0 < p.policy.size := by
    rw [hfit.policy_size]
    exact Nat.succ_pos _
  refine ⟨?_, ?_⟩
  · rw [h.policy 0 hpolicy]
    exact Flat.getElem?_block (B.rawWidths_pos .policy)
  · rw [← h.mean]
    exact Flat.getElem?_block (B.rawWidths_pos .misc)

end Evaluate

/-- **Rows at a foreign stride.** Take a session of `A` with any history, and an evaluation for `B` through it that
succeeds. The records are decoded from the last tensors of their heads, cut into rows of `B`, which are nowhere wider than
the rows of `A` that the tensors consist of. Each record is decoded from its own row exactly if the batch has one row or
the boards have as many cells and the models as many misc channels. Otherwise record 1 takes its first policy entry or its
mean from row 0, and no error tells of it. -/
theorem evaluate_ownRows_iff {π : Type} {e : Engine π} {A B : Handle} {s : Session π} (hs : Session.OfHandle e A s)
    {a : Arena} {model : Descriptor} (ha : a.OfModel model) {n : Nat} {ps : List Prediction}
    (hok : (evaluate (Session.provider e) s B a n ps).outcome = .ok ()) :
    ∃ v raw, a.inputs n = .ok v ∧ Session.Answers e s A B v raw ∧
      (∀ k, (raw.get k).size = n * A.rawWidths.get k ∧ B.rawWidths.get k ≤ A.rawWidths.get k) ∧
      (∀ i < n, ∀ old, ps[i]? = some old → ∃ q, (evaluate (Session.provider e) s B a n ps).records[i]? = some q ∧
        old.ReadFrom B.model.layout (raw.blocks B.rawWidths i) q) ∧
      (Decoder.OwnRows A B n ↔ n = 1 ∨ A.area = B.area ∧ A.model.channels.misc = B.model.channels.misc) ∧
      (¬Decoder.OwnRows A B n → ∃ q, (evaluate (Session.provider e) s B a n ps).records[1]? = some q ∧
        ((B.rawWidths.policy < A.rawWidths.policy ∧ q.policy[0]? = raw.policy[B.rawWidths.policy]?) ∨
          (B.rawWidths.misc < A.rawWidths.misc ∧ some q.mean = raw.misc[B.rawWidths.misc]?))) := by
  obtain ⟨raw, hansd, hdecode⟩ := evaluate_ok_iff.1 hok
  obtain ⟨-, ⟨v, hv, hbatch, hans⟩, -⟩ := (answered_session_iff hs ha).1 hansd
  obtain ⟨had, hlen, hfit⟩ := Decoder.decode_ok_iff.1 hdecode
  subst hbatch
  have hle := (hans.holds_iff hs.madeFor had.pos).1 had.holds
  have hown := Decoder.ownRows_iff hle had.pos
  rw [Handle.rawWidths_eq_iff] at hown
  have hreads : ∀ i < v.batch, ∀ old, ps[i]? = some old →
      ∃ q, (evaluate (Session.provider e) s B a v.batch ps).records[i]? = some q ∧
        old.ReadFrom B.model.layout (raw.blocks B.rawWidths i) q := by
    intro i hi old hold
    rw [(hansd.evaluate_eq ps).2]
    exact ((Decoder.decode_reads hdecode).1 i hi old hold).2
  refine ⟨v, raw, hv, hans, fun k => ⟨hans.size_eq k, hle k⟩, hreads, hown, fun hforeign => ?_⟩
  obtain ⟨hone, hlayout⟩ := not_or.1 (mt hown.2 hforeign)
  have hrow : 1 < v.batch := by
    have := had.pos
    omega
  obtain ⟨q, hq, hread⟩ := hreads 1 hrow _ (List.getElem?_eq_getElem (Nat.lt_of_lt_of_le hrow hlen))
  obtain ⟨hpolicy, hmean⟩ := hread.first_words (hfit 1 hrow _ (List.getElem?_eq_getElem (Nat.lt_of_lt_of_le hrow hlen)))
  rw [Nat.one_mul] at hpolicy hmean
  refine ⟨q, hq, ?_⟩
  have hcells : B.area ≤ A.area := hle .ownership
  have hmisc : B.model.channels.misc ≤ A.model.channels.misc := hle .misc
  by_cases harea : A.area = B.area
  · have hne : A.model.channels.misc ≠ B.model.channels.misc := fun heq => hlayout ⟨harea, heq⟩
    exact Or.inr ⟨Nat.lt_of_le_of_ne hmisc fun heq => hne heq.symm, hmean⟩
  · refine Or.inl ⟨?_, hpolicy⟩
    -- a policy row is two words for each cell and for the pass
    have hlt : B.area < A.area := Nat.lt_of_le_of_ne hcells fun heq => harea heq.symm
    exact Nat.mul_lt_mul_of_pos_left (Nat.succ_lt_succ hlt) Nat.two_pos

/-! ## Two models that differ in their misc channels only -/

namespace Foreign

/-- the handle that the session is launched for, with two misc channels -/
def wide : Handle := .oneCell (.oldest "wide" 2 (by decide)) 2 (by decide)

/-- the handle that is evaluated, with one misc channel -/
def narrow : Handle := .oneCell (.oldest "narrow" 1 (by decide)) 2 (by decide)

/-- two rows of `wide`; the means are 1 and 3, and 2 and 4 are no scores at all -/
def raw : RawBatch where
  policy := #[⟨0x3f800000⟩, zero, ⟨0x40000000⟩, zero, ⟨0x40400000⟩, zero, ⟨0x40800000⟩, zero]
  value := #[⟨0x3f000000⟩, ⟨0x3e800000⟩, ⟨0x3e800000⟩, ⟨0x3e800000⟩, ⟨0x3f000000⟩, ⟨0x3e800000⟩]
  misc := #[⟨0x3f800000⟩, ⟨0x40000000⟩, ⟨0x40400000⟩, ⟨0x40800000⟩]
  ownership := #[⟨0xbf800000⟩, ⟨0x3f800000⟩]

def tensors : List NamedTensor := Head.all.map fun k => ⟨k.tensorName, raw.get k⟩

def session : Session (List (Except ProviderError (List NamedTensor))) where
  engine := [.ok tensors]
  staging :=
    { rows := 2
      widths := wide.rawWidths
      cells := ⟨Array.replicate 8 zero, Array.replicate 6 zero, Array.replicate 4 zero, Array.replicate 2 zero⟩
      filled := PerHead.replicate false }

def blank : Prediction := ⟨1, 1, zero, zero, zero, zero, zero, #[zero, zero], some #[zero]⟩

theorem session_ofHandle : Session.OfHandle Session.prepared wide session :=
  ⟨Context.default.value, [.ok tensors], session, [], rfl, rfl⟩

theorem arena_ofModel : Arena.oneCell.OfModel narrow.model := Arena.run_oneCell_ofModel "narrow" Nat.one_pos []

theorem inputs_eq_ok : Arena.oneCell.inputs 2 = .ok (Arena.oneCell.view 2) := rfl

theorem answers : Session.Answers Session.prepared session wide narrow (Arena.oneCell.view 2) raw := by
  refine ⟨Nat.le_refl 2, _, tensors, rfl, rfl, fun t ht k hname => ?_, fun k => ?_⟩
  · obtain ⟨j, -, hj⟩ := List.mem_map.1 ht
    subst hj
    have hjk : j = k := Head.tensorName_inj.1 hname
    subst hjk
    cases j <;> rfl
  · cases k <;> rfl

theorem blank_fits : ∀ i < 2, ∀ p, [blank, blank][i]? = some p → p.Fits narrow := by
  intro i hi p hp
  have hmem : p ∈ [blank, blank] := List.mem_of_getElem? hp
  have hpb : p = blank := by simpa using hmem
  rw [hpb]
  exact ⟨rfl, rfl, rfl, fun map hmap => by cases hmap; rfl⟩

theorem evaluate_ok :
    (evaluate (Session.provider Session.prepared) session narrow Arena.oneCell 2 [blank, blank]).outcome = .ok () := by
  refine (evaluate_session_ok_iff session_ofHandle arena_ofModel).2
    ⟨rfl, _, raw, inputs_eq_ok, answers, fun k => ?_, ⟨_, rfl, by decide⟩, Nat.le_refl 2, blank_fits⟩
  cases k <;> decide

/-- **A record across rows.** The second record gets the mean 2, which is the second misc channel of row 0. The mean of
its own row is 3. -/
theorem evaluate_foreign_row : ∃ q,
    (evaluate (Session.provider Session.prepared) session narrow Arena.oneCell 2 [blank, blank]).outcome = .ok () ∧
      (evaluate (Session.provider Session.prepared) session narrow Arena.oneCell 2 [blank, blank]).records[1]? = some q ∧
      (Flat.block raw.misc wide.rawWidths.misc 0)[1]? = some q.mean ∧
      (Flat.block raw.misc wide.rawWidths.misc 1)[0]? ≠ some q.mean ∧ ¬Decoder.OwnRows wide narrow 2 := by
  have hans : Answered (Session.provider Session.prepared) session narrow Arena.oneCell 2 raw :=
    (answered_session_iff session_ofHandle arena_ofModel).2 ⟨rfl, ⟨_, inputs_eq_ok, rfl, answers⟩, by decide⟩
  obtain ⟨hout, hrecords⟩ := hans.evaluate_eq [blank, blank]
  have hdecode : (narrow.decoder.decode raw 2 [blank, blank]).2 = .ok () :=
    Halt.ofFault_eq_ok_iff.1 (hout.symm.trans evaluate_ok)
  obtain ⟨-, q, hq, hread⟩ := (Decoder.decode_reads hdecode).1 1 Nat.one_lt_two blank rfl
  have hmean : some q.mean = some ⟨0x40000000⟩ := hread.mean.symm
  refine ⟨q, evaluate_ok, by rw [hrecords]; exact hq, ?_, ?_, fun hown => ?_⟩
  · rw [hmean]
    rfl
  · rw [hmean]
    decide
  · have hrow : 1 / 2 = 1 := hown 1 Nat.one_lt_two .misc 1 (by decide) (by decide)
    cases hrow

/-- the condition for rows of their own at this batch, which breaks it -/
theorem evaluate_ownRows_iff_narrow : ∃ (cut : RawBatch) (q : Prediction),
    (∀ k, (cut.get k).size = 2 * wide.rawWidths.get k) ∧
      (evaluate (Session.provider Session.prepared) session narrow Arena.oneCell 2 [blank, blank]).records[1]? = some q ∧
      some q.mean = cut.misc[1]? ∧ narrow.rawWidths.misc < wide.rawWidths.misc := by
  obtain ⟨v, cut, -, -, hsizes, -, hown, hforeign⟩ :=
    evaluate_ownRows_iff session_ofHandle arena_ofModel evaluate_ok
  have hlayout : ¬(2 = 1 ∨ wide.area = narrow.area ∧ wide.model.channels.misc = narrow.model.channels.misc) := by decide
  obtain ⟨q, hq, hfirst⟩ := hforeign (mt hown.1 hlayout)
  rcases hfirst with ⟨hpolicy, -⟩ | ⟨hmisc, hmean⟩
  · exact absurd hpolicy (by decide)
  · exact ⟨cut, q, fun k => (hsizes k).1, hq, hmean, hmisc⟩

end Foreign

end BatchEval
