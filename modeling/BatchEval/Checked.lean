/-
Steps in a row, each of which may stop with an error.

- `bind_eq_ok_iff`: two steps succeed exactly when the first does and the second does on its result.
- `bind_eq_error_iff`: the error of two steps is the first error.
- `refuse_eq_ok_iff`, `refuse_bind_eq_ok_iff`: a step behind a check succeeds exactly when the check does not refuse.
- `first_eq_none_iff`: the search for the first thing that is wrong finds none exactly when nothing is.
- `forM_eq_ok`: the same check for each member of a list.
-/

namespace BatchEval.Checked

variable {ε α β : Type}

theorem bind_eq_ok_iff {x : Except ε α} {f : α → Except ε β} {b : β} :
    (x >>= f) = .ok b ↔ ∃ a, x = .ok a ∧ f a = .ok b := by
  cases x <;> simp [bind, Except.bind]

theorem bind_eq_error_iff {x : Except ε α} {f : α → Except ε β} {e : ε} :
    (x >>= f) = .error e ↔ x = .error e ∨ ∃ a, x = .ok a ∧ f a = .error e := by
  cases x <;> simp [bind, Except.bind]

theorem refuse_eq_ok_iff {c : Prop} [Decidable c] {e : ε} {x : Except ε α} {a : α} :
    (if c then throw e else x) = .ok a ↔ ¬c ∧ x = .ok a := by
  by_cases h : c <;> simp [h, throw, throwThe, MonadExceptOf.throw]

theorem refuse_bind_eq_ok_iff {c : Prop} [Decidable c] {e : ε} {f : α → Except ε β} {x : Except ε β} {b : β} :
    (if c then (throw e : Except ε α) >>= f else x) = .ok b ↔ ¬c ∧ x = .ok b := by
  by_cases h : c <;> simp [h, throw, throwThe, MonadExceptOf.throw, bind, Except.bind]

theorem first_eq_none_iff {c : Prop} [Decidable c] {e : ε} {rest : Option ε} :
    (if c then some e else rest) = none ↔ ¬c ∧ rest = none := by
  by_cases h : c <;> simp [h]

/-- a check made for each member of a list passes when it passes for all of them -/
theorem forM_eq_ok {f : α → Except ε Unit} {l : List α} (h : ∀ a ∈ l, f a = .ok ()) : l.forM f = .ok () := by
  induction l with
  | nil => rfl
  | cons a l ih =>
    have hlater : l.forM f = .ok () := ih fun b hb => h b (List.mem_cons_of_mem a hb)
    show (f a >>= fun _ => l.forM f) = .ok ()
    rw [h a List.mem_cons_self, hlater]
    rfl

@[simp] theorem ok_bind (a : α) (f : α → Except ε β) : (Except.ok a >>= f) = f a := rfl

@[simp] theorem error_bind (e : ε) (f : α → Except ε β) : (Except.error e >>= f) = .error e := rfl

end BatchEval.Checked
