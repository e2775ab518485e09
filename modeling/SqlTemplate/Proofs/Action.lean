import SqlTemplate.Action

/-!
How actions run: what each combinator does to a state, and what actions end with.
-/
namespace SqlTemplate.Action

variable {ε ε' σ τ α β : Type}

theorem run_pure (a : α) (s : σ) : (pure a : Action ε σ α) s = .ok a s := rfl

theorem run_get (s : σ) : (get : Action ε σ σ) s = .ok s s := rfl

theorem run_modify (f : σ → σ) (s : σ) : (modify f : Action ε σ Unit) s = .ok () (f s) := rfl

theorem run_modifyGet (f : σ → α × σ) (s : σ) :
    (modifyGet f : Action ε σ α) s = .ok (f s).1 (f s).2 := rfl

theorem run_bind (m : Action ε σ α) (f : α → Action ε σ β) (s : σ) :
    (m >>= f) s =
      match m s with
      | .ok a t => f a t
      | .error e t => .error e t := rfl

theorem run_map (f : α → β) (m : Action ε σ α) (s : σ) :
    (f <$> m) s =
      match m s with
      | .ok a t => .ok (f a) t
      | .error e t => .error e t := by
  change (m >>= fun a => pure (f a)) s = _
  rw [run_bind]
  cases m s <;> rfl

theorem ofExcept_ok (a : α) : (ofExcept (.ok a) : Action ε σ α) = pure a := rfl

theorem bind_ok {m : Action ε σ α} {s t : σ} {a : α} (h : m s = .ok a t)
    (f : α → Action ε σ β) : (m >>= f) s = f a t := by
  rw [run_bind, h]

theorem bind_guard (b : Bool) {m : Action ε σ Unit} {s t : σ} (h : b = true → m s = .ok () t)
    (f : Unit → Action ε σ α) :
    (if b then m >>= f else f ()) s = f () (if b then t else s) := by
  cases b with
  | true => exact bind_ok (h rfl) f
  | false => rfl

theorem bind_error {m : Action ε σ α} {s t : σ} {e : ε} (h : m s = .error e t)
    (f : α → Action ε σ β) : (m >>= f) s = .error e t := by
  rw [run_bind, h]

theorem exists_of_bind_ok {m : Action ε σ α} {f : α → Action ε σ β} {s u : σ} {b : β}
    (h : (m >>= f) s = .ok b u) : ∃ a t, m s = .ok a t ∧ f a t = .ok b u := by
  rw [run_bind] at h
  cases run : m s with
  | ok a t => exact ⟨a, t, rfl, by rwa [run] at h⟩
  | error e t => rw [run] at h; contradiction

theorem recover_ok {m : Action ε σ α} {s t : σ} {a : α} (h : m s = .ok a t)
    (handler : ε → Action ε σ α) : m.recover handler s = .ok a t := by
  rw [recover, h]

theorem recover_error {m : Action ε σ α} {s t : σ} {e : ε} (h : m s = .error e t)
    (handler : ε → Action ε σ α) : m.recover handler s = handler e t := by
  rw [recover, h]

theorem ensuring_eq {m : Action ε σ α} {s t : σ} {outcome : Except ε α}
    (h : m s = ofExcept outcome t) (cleanup : Action ε σ Unit) :
    m.ensuring cleanup s =
      match cleanup t with
      | .ok _ u => ofExcept outcome u
      | .error e u => .error e u := by
  rw [ensuring, h]
  cases outcome <;> rfl

theorem after_ok {m : Action ε σ α} {s t : σ} {a : α} (h : m s = .ok a t) : m.after s = t := by
  rw [after, h]

theorem after_error {m : Action ε σ α} {s t : σ} {e : ε} (h : m s = .error e t) :
    m.after s = t := by
  rw [after, h]

theorem after_congr {m m' : Action ε σ α} {s s' : σ} (h : m s = m' s') :
    m.after s = m'.after s' := by
  rw [after, h, after]

theorem after_bind_ofExcept (m : Action ε σ α) (f : α → Except ε β) (s : σ) :
    (m >>= fun a => ofExcept (f a)).after s = m.after s := by
  simp only [after, run_bind]
  cases m s with
  | ok a t => simp only; cases f a <;> rfl
  | error e t => rfl

theorem after_ensuring (m : Action ε σ α) (cleanup : Action ε σ Unit) (s : σ) :
    (m.ensuring cleanup).after s = cleanup.after (m.after s) := by
  simp only [after, ensuring]
  cases m s with
  | ok a t => simp only; cases cleanup t <;> rfl
  | error e t => simp only; cases cleanup t <;> rfl

theorem after_ofExcept {m : Action ε σ α} {s t : σ} {outcome : Except ε α}
    (h : m s = ofExcept outcome t) : m.after s = t := by
  rw [after, h]
  cases outcome <;> rfl

theorem after_map (f : α → β) (m : Action ε σ α) (s : σ) : (f <$> m).after s = m.after s := by
  rw [after, run_map, after]
  cases m s <;> rfl

theorem outcome_ofExcept {m : Action ε σ α} {s t : σ} {outcome : Except ε α}
    (h : m s = ofExcept outcome t) : m.outcome s = outcome := by
  rw [Action.outcome, h]
  cases outcome <;> rfl

theorem outcome_ensuring (m : Action ε σ α) (cleanup : Action ε σ Unit) (s : σ) :
    (m.ensuring cleanup).outcome s =
      match cleanup.outcome (m.after s) with
      | .ok _ => m.outcome s
      | .error e => .error e := by
  simp only [Action.outcome, after, ensuring]
  cases m s with
  | ok a t => simp only; cases cleanup t <;> rfl
  | error e t => simp only; cases cleanup t <;> rfl

theorem exists_of_outcome_isOk {m : Action ε σ α} {s : σ} (h : (m.outcome s).isOk = true) :
    ∃ a, m.outcome s = .ok a := by
  cases ended : m.outcome s with
  | error e => rw [ended] at h; contradiction
  | ok a => exact ⟨a, rfl⟩

/-- The state after actions that ran one after the other, whatever came of each. -/
def afterAll {ι : Type} (run : ι → Action ε σ α) (s : σ) (is : List ι) : σ :=
  is.foldl (fun s i => (run i).after s) s

/-- What every action keeps is kept by a run of them. -/
theorem afterAll_kept {ι : Type} {run : ι → Action ε σ α} {P : σ → Prop}
    (step : ∀ i {s}, P s → P ((run i).after s)) {s : σ} (start : P s) (is : List ι) :
    P (afterAll run s is) := by
  induction is generalizing s with
  | nil => exact start
  | cons i is ih => exact ih (step i start)

theorem outcome_bind_ok {m : Action ε σ α} {s t : σ} {a : α} (h : m s = .ok a t)
    (f : α → Action ε σ β) : (m >>= f).outcome s = (f a).outcome t := by
  rw [outcome, bind_ok h, outcome]

theorem outcome_bind_error {m : Action ε σ α} {s : σ} {e : ε} (h : m.outcome s = .error e)
    (f : α → Action ε σ β) : (m >>= f).outcome s = .error e := by
  rw [outcome] at h ⊢
  rw [run_bind]
  cases run : m s with
  | ok a t => simp [run] at h
  | error e' t => simpa [run] using h

theorem outcome_bind_pure (m : Action ε σ α) (f : α → β) (s : σ) :
    (m >>= fun a => pure (f a)).outcome s = (m.outcome s).map f := by
  rw [outcome, run_bind, outcome]
  cases m s <;> rfl

end SqlTemplate.Action
