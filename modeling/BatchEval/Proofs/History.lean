/-
Histories and what is left of them. Where every operation either answers a question anew or leaves the answer as it was,
the answer after a history is that of the last operation with an answer.

- `latest`: what the last operation of a history gives, among those that give something.
- `latest_eq_some_iff`: an operation gives it that none of the later ones takes the place of.
- `read_foldl`: after a history a read gives the latest answer, or what it gave before.
-/

namespace BatchEval

variable {ι σ α : Type}

/-- what the last operation that gives something gives -/
def latest (f : ι → Option α) (ops : List ι) : Option α := ops.reverse.findSome? f

theorem latest_cons (f : ι → Option α) (o : ι) (ops : List ι) : latest f (o :: ops) = (latest f ops).or (f o) := by
  rw [latest, List.reverse_cons, List.findSome?_append, List.findSome?_singleton]
  rfl

theorem latest_eq_some_iff {f : ι → Option α} {ops : List ι} {a : α} : latest f ops = some a ↔
    ∃ earlier o later, ops = earlier ++ o :: later ∧ f o = some a ∧ ∀ x ∈ later, f x = none := by
  rw [latest, List.findSome?_eq_some_iff]
  refine ⟨fun ⟨later, o, earlier, hops, ho, hlater⟩ => ?_, fun ⟨earlier, o, later, hops, ho, hlater⟩ => ?_⟩
  · refine ⟨earlier.reverse, o, later.reverse, ?_, ho, fun x hx => hlater x (List.mem_reverse.1 hx)⟩
    rw [← List.reverse_inj, hops]
    simp
  · refine ⟨later.reverse, o, earlier.reverse, ?_, ho, fun x hx => hlater x (List.mem_reverse.1 hx)⟩
    rw [hops]
    simp

/-- an invariant that the operations keep may be used where one of them is looked at -/
theorem read_foldl {step : σ → ι → σ} {f : ι → Option α} (Inv : σ → Prop) (read : σ → Option α)
    (hinv : ∀ s o, Inv s → Inv (step s o)) (hstep : ∀ s o, Inv s → read (step s o) = (f o).or (read s)) {s : σ}
    (hs : Inv s) (ops : List ι) : read (ops.foldl step s) = (latest f ops).or (read s) := by
  induction ops generalizing s with
  | nil => rfl
  | cons o ops ih =>
    calc
      read ((o :: ops).foldl step s)
        = (latest f ops).or (read (step s o)) := ih (hinv s o hs)
      _ = (latest f ops).or ((f o).or (read s)) := by rw [hstep s o hs]
      _ = (latest f (o :: ops)).or (read s) := by rw [latest_cons, Option.or_assoc]

end BatchEval
