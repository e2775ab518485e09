import SqlTemplate.Proofs.Driver
import SqlTemplate.Proofs.Value.Plain
import SqlTemplate.Statement

/-!
What a statement does with its cursor. Parameters that are bound one after the other fill the
positions from one on, so an execution sends one value for each of them, in their order, or nothing.
-/
namespace SqlTemplate.Statement

open Driver (Ran)

/-! ## Positions -/

section
variable {α : Type}

def numberedFrom (n : Nat) : List α → List (Nat × α)
  | [] => []
  | x :: xs => (n, x) :: numberedFrom (n + 1) xs

theorem store_numberedFrom (n : Nat) (x : α) (xs : List α) :
    store (n + xs.length) x (numberedFrom n xs) = numberedFrom n (xs ++ [x]) := by
  induction xs generalizing n with
  | nil => rfl
  | cons y ys ih =>
    have beyond : n ≠ n + (y :: ys).length := by simp
    rw [numberedFrom, store, if_neg beyond, List.cons_append, numberedFrom, ← ih]
    simp [Nat.add_comm, Nat.add_left_comm]

theorem lookup_numberedFrom (n i : Nat) (xs : List α) :
    (numberedFrom n xs).lookup (n + i) = xs[i]? := by
  induction xs generalizing n i with
  | nil => rfl
  | cons x xs ih =>
    rw [numberedFrom, List.lookup_cons]
    cases i with
    | zero => simp
    | succ i =>
      have other : (n + (i + 1) == n) = false := by simp
      rw [other, List.getElem?_cons_succ, ← ih (n + 1) i, Nat.add_right_comm, Nat.add_assoc]

theorem lookup_cons (i : Nat) (p : Nat × α) (ps : List (Nat × α)) :
    (p :: ps).lookup i = if i = p.1 then some p.2 else ps.lookup i := by
  rw [List.lookup_cons]
  by_cases here : i = p.1
  · simp [here]
  · rw [beq_false_of_ne here, if_neg here]

theorem lookup_store (n i : Nat) (x : α) (xs : List (Nat × α)) :
    (store n x xs).lookup i = if i = n then some x else xs.lookup i := by
  induction xs with
  | nil => rw [store, lookup_cons]
  | cons y ys ih =>
    rw [store]
    by_cases stored : y.1 = n
    · rw [if_pos stored, lookup_cons, lookup_cons, stored]
      by_cases here : i = n <;> simp [here]
    · rw [if_neg stored, lookup_cons, lookup_cons, ih]
      by_cases here : i = y.1
      · have elsewhere : ¬ i = n := fun same => stored (here.symm.trans same)
        rw [if_pos here, if_neg elsewhere, if_pos here]
      · rw [if_neg here, if_neg here]

theorem mem_of_mem_store {n : Nat} {x : α} {xs : List (Nat × α)} {p : Nat × α}
    (mem : p ∈ store n x xs) : p = (n, x) ∨ p ∈ xs := by
  induction xs with
  | nil => exact .inl (List.mem_singleton.mp mem)
  | cons y ys ih =>
    rw [store] at mem
    split at mem
    · next same =>
      rcases List.mem_cons.mp mem with rfl | mem
      · exact .inl (by rw [same])
      · exact .inr (List.mem_cons_of_mem _ mem)
    · rcases List.mem_cons.mp mem with rfl | mem
      · exact .inr (List.mem_cons_self ..)
      · exact (ih mem).imp_right (List.mem_cons_of_mem _)

/-- What is bound without a gap is collected in the order of the positions. -/
theorem collect_numberedFrom (n : Nat) (before xs : List α) :
    collect (numberedFrom n (before ++ xs)) (n + before.length) xs.length = .ok xs := by
  induction xs generalizing before with
  | nil => rfl
  | cons x xs ih =>
    have rest := ih (before ++ [x])
    rw [List.append_assoc, List.singleton_append, List.length_append, List.length_singleton,
      ← Nat.add_assoc] at rest
    rw [List.length_cons, collect, lookup_numberedFrom, List.getElem?_append_right (Nat.le_refl _),
      Nat.sub_self, List.getElem?_cons_zero]
    simp only [rest, Except.map]

theorem exists_of_collect_succ {bound : List (Nat × α)} {n k : Nat} {xs : List α}
    (h : collect bound n (k + 1) = .ok xs) :
    ∃ y ys, bound.lookup n = some y ∧ collect bound (n + 1) k = .ok ys ∧ xs = y :: ys := by
  rw [collect] at h
  cases first : bound.lookup n with
  | none =>
    rw [first] at h
    contradiction
  | some y =>
    cases rest : collect bound (n + 1) k with
    | error missing =>
      rw [first, rest] at h
      contradiction
    | ok ys =>
      rw [first, rest] at h
      cases h
      exact ⟨y, ys, rfl, rfl, rfl⟩

theorem length_of_collect {bound : List (Nat × α)} {n k : Nat} {xs : List α}
    (h : collect bound n k = .ok xs) : xs.length = k := by
  induction k generalizing n xs with
  | zero =>
    cases h
    rfl
  | succ k ih =>
    obtain ⟨y, ys, _, rest, rfl⟩ := exists_of_collect_succ h
    rw [List.length_cons, ih rest]

theorem lookup_of_collect {bound : List (Nat × α)} {n k : Nat} {xs : List α}
    (h : collect bound n k = .ok xs) : ∀ i < k, bound.lookup (n + i) = xs[i]? := by
  induction k generalizing n xs with
  | zero =>
    intro i below
    contradiction
  | succ k ih =>
    obtain ⟨y, ys, first, rest, rfl⟩ := exists_of_collect_succ h
    intro i below
    cases i with
    | zero => exact first
    | succ i =>
      have next := ih rest i (Nat.lt_of_succ_lt_succ below)
      rw [List.getElem?_cons_succ, ← next, Nat.add_right_comm, Nat.add_assoc]

/-- Collecting stops at the first position that is free. -/
theorem free_of_collect {bound : List (Nat × α)} {n k m : Nat}
    (h : collect bound n k = .error m) :
    n ≤ m ∧ m < n + k ∧ bound.lookup m = none ∧
      ∀ i, n ≤ i → i < m → bound.lookup i ≠ none := by
  induction k generalizing n with
  | zero => contradiction
  | succ k ih =>
    rw [collect] at h
    cases first : bound.lookup n with
    | none =>
      rw [first] at h
      cases h
      exact ⟨Nat.le_refl _, by omega, first, fun i above below => by omega⟩
    | some y =>
      rw [first] at h
      cases rest : collect bound (n + 1) k with
      | ok ys =>
        rw [rest] at h
        contradiction
      | error missing =>
        rw [rest] at h
        cases h
        obtain ⟨above, below, free, taken⟩ := ih rest
        refine ⟨by omega, by omega, free, ?_⟩
        intro i from_n before
        by_cases here : i = n
        · rw [here, first]
          simp
        · exact taken i (by omega) before

/-- No position beyond the greatest one is bound, and this one is, unless it is the least allowed. -/
theorem greatest_spec (least : Nat) (bound : List (Nat × α)) :
    let greatest := bound.foldl (fun n p => max n p.1) least
    least ≤ greatest ∧ (∀ i, greatest < i → bound.lookup i = none) ∧
      (least < greatest → bound.lookup greatest ≠ none) := by
  induction bound generalizing least with
  | nil => simp
  | cons p ps ih =>
    intro greatest
    obtain ⟨most, beyond, reached⟩ := ih (max least p.1)
    have most : max least p.1 ≤ greatest := most
    refine ⟨by omega, ?_, ?_⟩
    · intro i above
      have elsewhere : ¬ i = p.1 := by omega
      rw [lookup_cons, if_neg elsewhere]
      exact beyond i above
    · intro above
      rw [lookup_cons]
      by_cases here : greatest = p.1
      · simp [here]
      · rw [if_neg here]
        exact reached (show max least p.1 < greatest by omega)

theorem greatest_numberedFrom (n : Nat) (xs : List α) :
    (numberedFrom (n + 1) xs).foldl (fun m p => max m p.1) n = n + xs.length := by
  induction xs generalizing n with
  | nil => rfl
  | cons x xs ih =>
    rw [numberedFrom, List.foldl_cons, Nat.max_eq_right (Nat.le_succ n), ih, List.length_cons]
    omega

end

theorem count_spec (s : Statement) :
    (∀ i, s.count < i → s.values.lookup i = none) ∧
      (0 < s.count → s.values.lookup s.count ≠ none) :=
  (greatest_spec 0 s.values).2

/-! ## Binding -/

/-- What is sent for a parameter that is bound at a position, with its length hint, or why it is
refused. -/
def encode (position : Nat) (p : BoundParameter) : Except Failure (Value × Value) := do
  let (v, size) ← (parameterValue p).mapError .conversion
  let sent ← (convert p.type.kind v).mapError (conversionFailure position)
  return (sent, size)

/-- What is sent for parameters that are bound from `position` on, or why the first of them that
cannot be bound is refused. -/
def encodeFrom (position : Nat) : List BoundParameter → Except Failure (List (Value × Value))
  | [] => .ok []
  | p :: ps =>
    match encode position p with
    | .error e => .error e
    | .ok x => (encodeFrom (position + 1) ps).map (x :: ·)

theorem encode_of_value {position : Nat} {p : BoundParameter} {x : Value × Value}
    (value : parameterValue p = .ok x) :
    encode position p =
      ((convert p.type.kind x.1).mapError (conversionFailure position)).map (·, x.2) := by
  rw [encode, value]
  cases converted : convert p.type.kind x.1 <;>
    simp only [Except.mapError, Except.map, Bind.bind, Except.bind, converted] <;> rfl

/-- An infinite number is the only value that a conversion fails on and that is not reported. -/
theorem conversionFailure_reported {e : ConversionError} (finite : e ≠ .infinite)
    (position : Int) : conversionFailure position e = troubleAt position (.unbindable position e) := by
  cases e with
  | infinite => contradiction
  | _ => rfl

section
variable {position : Int} (trouble : DriverTrouble)

theorem troubleAt_short (short : position.natAbs < 10 ^ Number.digitLimit) :
    troubleAt position trouble = .driver ⟨trouble, none⟩ := by
  have told : (Value.int position).overlong = false := by
    rw [← Bool.not_eq_true, Value.overlong_int_iff]
    omega
  exact Failure.showing_short told _

theorem troubleAt_overlong (long : 10 ^ Number.digitLimit ≤ position.natAbs) :
    troubleAt position trouble = .conversion .unwritten :=
  Failure.showing_overlong (Value.overlong_int_iff.mpr long) _

end

/-- The statement with values and length hints at the positions from one on, and no others. -/
def withBound (s : Statement) (xs : List (Value × Value)) : Statement :=
  { s with values := numberedFrom 1 (xs.map (·.1)), sizes := numberedFrom 1 (xs.map (·.2)) }

theorem withBound_nil {s : Statement} (values : s.values = []) (sizes : s.sizes = []) :
    s.withBound [] = s := by
  cases s
  cases values
  cases sizes
  rfl

section
variable {s : Statement} {d : Driver}

theorem checkOpen_eq (isOpen : s.closed = false) : checkOpen ⟨s, d⟩ = .ok () ⟨s, d⟩ := by
  simp only [checkOpen, Action.run_bind, Action.run_get, isOpen]
  rfl

theorem bind_eq (isOpen : s.closed = false) {position : Nat} (pos : 1 ≤ position) (v : Value)
    (kind : BindKind) (size : Value) :
    bind position v kind size ⟨s, d⟩ =
      match convert kind v with
      | .error e => .error (conversionFailure position e) ⟨s, d⟩
      | .ok sent =>
        .ok () ⟨{ s with
          values := store position sent s.values, sizes := store position size s.sizes }, d⟩ := by
  have valid : ¬ (position : Int) < 1 := by omega
  rw [bind, Action.bind_ok (checkOpen_eq isOpen)]
  simp only [if_neg valid]
  cases convert kind v <;> rfl

/-- A value is stored at its position, or it is refused and nothing changes. -/
theorem bind_cases (isOpen : s.closed = false) (position : Int) (v : Value) (kind : BindKind)
    (size : Value) :
    (position < 1 ∧ bind position v kind size ⟨s, d⟩ =
        .error (troubleAt position (.invalidPosition position)) ⟨s, d⟩) ∨
    (1 ≤ position ∧ ∃ e, convert kind v = .error e ∧
      bind position v kind size ⟨s, d⟩ = .error (conversionFailure position e) ⟨s, d⟩) ∨
    (1 ≤ position ∧ ∃ sent, convert kind v = .ok sent ∧
      bind position v kind size ⟨s, d⟩ = .ok () ⟨{ s with
        values := store position.toNat sent s.values
        sizes := store position.toNat size s.sizes }, d⟩) := by
  by_cases valid : position < 1
  · refine .inl ⟨valid, ?_⟩
    rw [bind, Action.bind_ok (checkOpen_eq isOpen)]
    simp only [if_pos valid]
    rfl
  · have natural : ((position.toNat : Nat) : Int) = position := by omega
    have pos : 1 ≤ position.toNat := by omega
    have bound := bind_eq (d := d) isOpen pos v kind size
    rw [natural] at bound
    cases converted : convert kind v with
    | error e =>
      rw [converted] at bound
      exact .inr (.inl ⟨by omega, e, rfl, bound⟩)
    | ok sent =>
      rw [converted] at bound
      exact .inr (.inr ⟨by omega, sent, rfl, bound⟩)

theorem bindParameter_eq (isOpen : s.closed = false) {position : Nat} (pos : 1 ≤ position)
    (p : BoundParameter) :
    bindParameter position p ⟨s, d⟩ =
      match encode position p with
      | .error e => .error e ⟨s, d⟩
      | .ok (sent, size) =>
        .ok () ⟨{ s with
          values := store position sent s.values, sizes := store position size s.sizes }, d⟩ := by
  simp only [bindParameter, encode]
  cases parameterValue p with
  | error e => rfl
  | ok x =>
    have bound := bind_eq (d := d) isOpen pos x.1 p.type.kind x.2
    refine bound.trans ?_
    simp only [Except.mapError, Bind.bind, Except.bind]
    cases convert p.type.kind x.1 <;> rfl

/-- Parameters are bound alike if their values are converted alike. -/
theorem bindParameter_congr {position : Nat} {v w : Value} {t : ValueType} {x y : Value × Value}
    (first : parameterValue ⟨v, t⟩ = .ok x) (second : parameterValue ⟨w, t⟩ = .ok y)
    (converted : convert t.kind x.1 = convert t.kind y.1) (size : x.2 = y.2) :
    bindParameter position ⟨v, t⟩ = bindParameter position ⟨w, t⟩ := by
  have run : bind position x.1 t.kind x.2 = bind position y.1 t.kind y.2 := by
    unfold bind
    rw [converted, size]
  unfold bindParameter
  rw [first, second]
  exact run

theorem bindFrom_cons (position : Nat) (p : BoundParameter) (ps : List BoundParameter) :
    bindFrom position (p :: ps) = bindParameter position p >>= fun _ => bindFrom (position + 1) ps :=
  rfl

/-- Parameters are bound behind those that are bound already, until one is refused. -/
theorem bindFrom_withBound (isOpen : s.closed = false) (ps : List BoundParameter)
    (xs : List (Value × Value)) :
    match encodeFrom (xs.length + 1) ps with
    | .ok ys => bindFrom (xs.length + 1) ps ⟨s.withBound xs, d⟩ = .ok () ⟨s.withBound (xs ++ ys), d⟩
    | .error e => ∃ ys, bindFrom (xs.length + 1) ps ⟨s.withBound xs, d⟩ =
        .error e ⟨s.withBound (xs ++ ys), d⟩ := by
  induction ps generalizing xs with
  | nil => simp [encodeFrom, bindFrom, Action.run_pure]
  | cons p ps ih =>
    have bound := bindParameter_eq (s := s.withBound xs) (d := d) isOpen
      (Nat.le_add_left 1 xs.length) p
    rw [encodeFrom, bindFrom_cons]
    cases encoded : encode (xs.length + 1) p with
    | error e =>
      rw [encoded] at bound
      refine ⟨[], ?_⟩
      rw [Action.bind_error bound, List.append_nil]
    | ok x =>
      obtain ⟨sent, size⟩ := x
      rw [encoded] at bound
      have next : bindParameter (xs.length + 1) p ⟨s.withBound xs, d⟩ =
          .ok () ⟨s.withBound (xs ++ [(sent, size)]), d⟩ := by
        have values := store_numberedFrom 1 sent (xs.map (·.1))
        have sizes := store_numberedFrom 1 size (xs.map (·.2))
        rw [List.length_map, Nat.add_comm] at values sizes
        rw [bound]
        simp only [withBound, values, sizes, List.map_append, List.map_cons, List.map_nil]
      have rest := ih (xs ++ [(sent, size)])
      rw [List.length_append, List.length_singleton] at rest
      rw [Action.bind_ok next]
      cases encoded : encodeFrom (xs.length + 1 + 1) ps with
      | ok ys =>
        rw [encoded] at rest
        simpa [Except.map] using rest
      | error e =>
        rw [encoded] at rest
        obtain ⟨ys, rest⟩ := rest
        exact ⟨_ :: ys, by simpa using rest⟩

/-- All parameters of a fresh statement are bound, or it fails with the first that is refused. -/
theorem bindAll_eq (isOpen : s.closed = false) (values : s.values = []) (sizes : s.sizes = [])
    (ps : List BoundParameter) :
    match encodeFrom 1 ps with
    | .ok xs => bindAll ps ⟨s, d⟩ = .ok () ⟨s.withBound xs, d⟩
    | .error e => ∃ xs, bindAll ps ⟨s, d⟩ = .error e ⟨s.withBound xs, d⟩ := by
  have bound := bindFrom_withBound (d := d) isOpen ps []
  rwa [withBound_nil values sizes] at bound

end

/-! ## Using the cursor -/

/-- The calls that send a statement: the driver is told the lengths first if it wants to be. -/
inductive Sends (n : Nat) (sql : String) (xs : List (Value × Value)) : Bool → List Exchange → Prop
  | refused (f : Fault) :
    Sends n sql xs true [⟨.setInputSizes n (xs.map (·.2)), some f⟩]
  | sized (failure : Option Fault) :
    Sends n sql xs true
      [⟨.setInputSizes n (xs.map (·.2)), none⟩, ⟨.execute n sql (some (xs.map (·.1))), failure⟩]
  | unsized (failure : Option Fault) :
    Sends n sql xs false [⟨.execute n sql (some (xs.map (·.1))), failure⟩]

theorem Sends.still {n : Nat} {sql : String} {xs : List (Value × Value)} {sized : Bool}
    {es : List Exchange} (h : Sends n sql xs sized es) : ∀ x ∈ es, x.call.operation ≠ .scroll := by
  cases h <;> simp [Call.operation]

/-- Where a call fails that sends a statement, the statement is not executed. -/
theorem Sends.executed_none {n : Nat} {sql : String} {xs : List (Value × Value)} {sized : Bool}
    {es : List Exchange} {f : Fault} (h : Sends n sql xs sized es) (failed : lastFailure es = some f)
    (sql' : String) (values : Option (List Value)) : ⟨.execute n sql' values, none⟩ ∉ es := by
  intro mem
  cases h with
  | refused => simp at mem
  | sized failure | unsized failure =>
    cases failure with
    | none => simp at failed
    | some f' => simp at mem

theorem Sends.countP_handsOut {n : Nat} {sql : String} {xs : List (Value × Value)} {sized : Bool}
    {es : List Exchange} (h : Sends n sql xs sized es) : es.countP Exchange.handsOut = 0 := by
  cases h <;> rfl

section
variable {s : Statement} {d : Driver}

theorem onCursor_eq {α : Type} (caught : List ErrorClass) (m : Action Fault (Live Cursor) α) :
    onCursor caught m ⟨s, d⟩ =
      match m ⟨s.cursor, d⟩ with
      | .ok a t => .ok a ⟨{ s with cursor := t.it }, t.driver⟩
      | .error f t => .error (Driver.handle caught f) ⟨{ s with cursor := t.it }, t.driver⟩ := by
  simp only [onCursor, Live.onPart, Action.mapFailure, Action.within]
  cases m ⟨s.cursor, d⟩ <;> rfl

/-- A statement whose positions up to the greatest are all bound is sent with what is bound there. -/
theorem execute_collected (isOpen : s.closed = false) (xs : List (Value × Value))
    (values : collect s.values 1 s.count = .ok (xs.map (·.1)))
    (sizes : collect s.sizes 1 s.count = .ok (xs.map (·.2))) :
    ∃ es c d', Ran d es d' ∧
      Sends s.cursor.number s.sql xs (d.features.hasSetInputSizes && !xs.isEmpty) es ∧
      c.number = s.cursor.number ∧
      execute ⟨s, d⟩ =
        Action.ended ((lastFailure es).map (Driver.handle (s.errorClass :: executionErrors)))
          ⟨{ s with cursor := c }, d'⟩ := by
  have run : execute ⟨s, d⟩ =
      onCursor (s.errorClass :: executionErrors) (do
        if d.features.hasSetInputSizes && !(xs.map (·.1)).isEmpty then
          Cursor.setInputSizes (xs.map (·.2))
        Cursor.execute s.sql (some (xs.map (·.1)))) ⟨s, d⟩ := by
    rw [execute, Action.bind_ok (checkOpen_eq isOpen), Action.bind_ok (Action.run_get _)]
    simp only [values, sizes]
  rw [run, onCursor_eq, List.isEmpty_map]
  cases sized : d.features.hasSetInputSizes && !xs.isEmpty with
  | false =>
    obtain ⟨failure, c, d', ran, same, sent⟩ :=
      Cursor.execute_ran s.sql (some (xs.map (·.1))) ⟨s.cursor, d⟩
    refine ⟨_, c, d', ran, .unsized failure, same, ?_⟩
    simp only [Bool.false_eq_true, if_false, sent, Action.ended, lastFailure_cons]
    cases failure <;> rfl
  | true =>
    obtain ⟨failure, d₁, told, run⟩ := Cursor.setInputSizes_ran (xs.map (·.2)) ⟨s.cursor, d⟩
    cases failure with
    | some f =>
      refine ⟨_, s.cursor, d₁, told, .refused f, rfl, ?_⟩
      simp only [if_true, Action.bind_error run]
      rfl
    | none =>
      obtain ⟨failure, c, d', ran, same, sent⟩ :=
        Cursor.execute_ran s.sql (some (xs.map (·.1))) ⟨s.cursor, d₁⟩
      refine ⟨_, c, d', told.trans ran, .sized failure, same, ?_⟩
      simp only [if_true, Action.bind_ok run, sent]
      cases failure <;> rfl

/-- A statement that is fully bound is sent with one value for each parameter. -/
theorem execute_withBound (isOpen : s.closed = false) (xs : List (Value × Value)) :
    ∃ es c d', Ran d es d' ∧
      Sends s.cursor.number s.sql xs (d.features.hasSetInputSizes && !xs.isEmpty) es ∧
      c.number = s.cursor.number ∧
      execute ⟨s.withBound xs, d⟩ =
        Action.ended ((lastFailure es).map (Driver.handle (s.errorClass :: executionErrors)))
          ⟨{ s with cursor := c }.withBound xs, d'⟩ := by
  have count : (s.withBound xs).count = xs.length := by
    have := greatest_numberedFrom 0 (xs.map (·.1))
    simpa [Statement.count, withBound] using this
  have values : collect (s.withBound xs).values 1 xs.length = .ok (xs.map (·.1)) := by
    simpa [withBound] using collect_numberedFrom 1 [] (xs.map (·.1))
  have sizes : collect (s.withBound xs).sizes 1 xs.length = .ok (xs.map (·.2)) := by
    simpa [withBound] using collect_numberedFrom 1 [] (xs.map (·.2))
  rw [← count] at values sizes
  exact execute_collected (s := s.withBound xs) isOpen xs values sizes

/-- An execution misses a position below the greatest one that is bound, or it sends what is bound. -/
theorem execute_cases (isOpen : s.closed = false) :
    (∃ position, (collect s.values 1 s.count = .error position ∨
        collect s.sizes 1 s.count = .error position) ∧
      execute ⟨s, d⟩ = .error (.driver ⟨.unbound position, none⟩) ⟨s, d⟩) ∨
    ∃ xs es c d', collect s.values 1 s.count = .ok (xs.map (·.1)) ∧
      collect s.sizes 1 s.count = .ok (xs.map (·.2)) ∧ Ran d es d' ∧
      Sends s.cursor.number s.sql xs (d.features.hasSetInputSizes && !xs.isEmpty) es ∧
      c.number = s.cursor.number ∧
      execute ⟨s, d⟩ =
        Action.ended ((lastFailure es).map (Driver.handle (s.errorClass :: executionErrors)))
          ⟨{ s with cursor := c }, d'⟩ := by
  cases values : collect s.values 1 s.count with
  | error missing =>
    refine .inl ⟨missing, .inl rfl, ?_⟩
    rw [execute, Action.bind_ok (checkOpen_eq isOpen), Action.bind_ok (Action.run_get _)]
    simp only [values]
    rfl
  | ok vs =>
    cases sizes : collect s.sizes 1 s.count with
    | error missing =>
      refine .inl ⟨missing, .inr rfl, ?_⟩
      rw [execute, Action.bind_ok (checkOpen_eq isOpen), Action.bind_ok (Action.run_get _)]
      simp only [values, sizes]
      rfl
    | ok ns =>
      have same : vs.length = ns.length :=
        (length_of_collect values).trans (length_of_collect sizes).symm
      have zipped : (vs.zip ns).map (·.1) = vs ∧ (vs.zip ns).map (·.2) = ns :=
        ⟨List.map_fst_zip (Nat.le_of_eq same), List.map_snd_zip (Nat.le_of_eq same.symm)⟩
      obtain ⟨es, c, d', ran, sends, number, run⟩ := execute_collected (d := d) isOpen (vs.zip ns)
        (by rw [values, zipped.1]) (by rw [sizes, zipped.2])
      exact .inr ⟨vs.zip ns, es, c, d', by rw [zipped.1], by rw [zipped.2], ran, sends, number, run⟩

/-- Whatever comes of an execution, nothing but the cursor changes. -/
theorem execute_after (isOpen : s.closed = false) :
    ∃ c, c.number = s.cursor.number ∧ (execute.after ⟨s, d⟩).it = { s with cursor := c } := by
  rcases execute_cases (d := d) isOpen with ⟨_, _, run⟩ | ⟨_, _, c, _, _, _, _, _, same, run⟩
  · exact ⟨s.cursor, rfl, by rw [Action.after, run]⟩
  · exact ⟨c, same, by rw [Action.after_ended run]⟩

theorem onCursor_ok {α : Type} {caught : List ErrorClass} {m : Action Fault (Live Cursor) α} {a : α}
    {u : Live Statement} (run : onCursor caught m ⟨s, d⟩ = .ok a u) :
    ∃ t, m ⟨s.cursor, d⟩ = .ok a t ∧ u = ⟨{ s with cursor := t.it }, t.driver⟩ := by
  rw [onCursor_eq] at run
  cases inner : m ⟨s.cursor, d⟩ with
  | ok b t =>
    rw [inner] at run
    cases run
    exact ⟨t, rfl, rfl⟩
  | error f t =>
    rw [inner] at run
    contradiction

/-- An execution that succeeds puts the next reply on the statement's cursor. -/
theorem execute_ok (isOpen : s.closed = false) {u : Live Statement}
    (run : execute ⟨s, d⟩ = .ok () u) :
    u.it.cursor = s.cursor.withReply (d.reply 0) ∧ ∀ i, u.driver.reply i = d.reply (i + 1) := by
  rw [execute, Action.bind_ok (checkOpen_eq isOpen), Action.bind_ok (Action.run_get _)] at run
  cases values : collect s.values 1 s.count with
  | error missing =>
    simp only [values] at run
    contradiction
  | ok vs =>
    cases sizes : collect s.sizes 1 s.count with
    | error missing =>
      simp only [values, sizes] at run
      contradiction
    | ok ns =>
      simp only [values, sizes] at run
      obtain ⟨t, sent, rfl⟩ := onCursor_ok run
      split at sent
      · obtain ⟨_, t₁, told, executed⟩ := Action.exists_of_bind_ok sent
        obtain ⟨same, still⟩ := Cursor.setInputSizes_ok told
        obtain ⟨cursor, replies⟩ := Cursor.execute_ok executed
        rw [same, still] at cursor
        exact ⟨cursor, fun i => (replies i).trans (still (i + 1))⟩
      · exact Cursor.execute_ok sent

theorem close_open (isOpen : s.closed = false) :
    close ⟨s, d⟩ = onCursor [s.errorClass] Cursor.close ⟨{ s with closed := true }, d⟩ := by
  rw [close, Action.bind_ok (Action.run_get _)]
  simp only [isOpen]
  rfl

theorem close_eq (isOpen : s.closed = false) :
    ∃ failure d', Ran d [⟨.closeCursor s.cursor.number, failure⟩] d' ∧
      close ⟨s, d⟩ =
        Action.ended (failure.map (Driver.handle [s.errorClass]))
          ⟨{ s with closed := true }, d'⟩ := by
  obtain ⟨failure, d', ran, run⟩ := Cursor.close_ran ⟨s.cursor, d⟩
  refine ⟨failure, d', ran, ?_⟩
  rw [close_open isOpen, onCursor_eq, run]
  cases failure <;> rfl

theorem clock_close (isOpen : s.closed = false) :
    (close.after ⟨s, d⟩).driver.clock = d.clock + d.ticks .closeCursor := by
  have clock := Cursor.clock_close ⟨s.cursor, d⟩
  rw [Action.after] at clock ⊢
  rw [close_open isOpen, onCursor_eq]
  cases run : Cursor.close ⟨s.cursor, d⟩ <;> rw [run] at clock <;> exact clock

/-- Giving the statement back comes last, and if it fails, this failure counts. -/
theorem ensuring_close {α : Type} {m : StatementAction α} {start : Live Statement}
    {outcome : Except Failure α} (isOpen : s.closed = false) {n : Nat}
    (number : s.cursor.number = n) (run : m start = Action.ofExcept outcome ⟨s, d⟩) :
    ∃ closing d', Ran d [⟨.closeCursor n, closing⟩] d' ∧
      m.ensuring close start =
        Action.ofExcept ((closing.map (Driver.handle [s.errorClass])).elim outcome .error)
          ⟨{ s with closed := true }, d'⟩ := by
  obtain ⟨closing, d', ran, closed⟩ := close_eq (d := d) isOpen
  refine ⟨closing, d', number ▸ ran, ?_⟩
  rw [Action.ensuring_eq run, closed]
  cases closing <;> rfl

theorem cells_error {v : Value} {o : OperandError} (h : cells v = .error o) :
    o = .notIterable v.typeName := by
  cases v <;> simp_all [cells]

theorem rowMapping_error {names : Option (List String)} {row : Value} {e : Failure}
    (h : rowMapping names row = .error e) :
    e = .driver ⟨.noDescription, none⟩ ∨ e = .operand (.notIterable row.typeName) := by
  unfold rowMapping at h
  split at h
  · contradiction
  · split at h
    · exact .inl (Except.error.inj h).symm
    · exact .inl (Except.error.inj h).symm
    · split at h
      · contradiction
      · next o unreadable =>
        rw [← cells_error unreadable]
        exact .inr (Except.error.inj h).symm

/-- A row that a driver handed out, as it is read: nothing at the end. -/
def readRow (names : List String) (v : Value) : Except Failure (Option Row) :=
  if v.isNull then .ok none else (rowMapping (some names) v).map some

/-- Reading a row makes one call, and if it succeeds, the cursor moves on. -/
theorem fetchOne_eq (isOpen : s.closed = false) {names : List String}
    (named : columns ⟨s, d⟩ = some names) :
    ∃ failure d', Ran d [⟨.fetchOne s.cursor.number, failure⟩] d' ∧
      fetchOne ⟨s, d⟩ =
        match failure with
        | none =>
          Action.ofExcept (readRow names ((s.cursor.rowAt? s.cursor.position).getD .null))
            ⟨{ s with cursor := s.cursor.passed }, d'⟩
        | some f => .error (Driver.handle [s.errorClass] f) ⟨s, d'⟩ := by
  obtain ⟨failure, d', ran, run⟩ := Cursor.fetchOne_ran ⟨s.cursor, d⟩
  refine ⟨failure, d', ran, ?_⟩
  have row := onCursor_eq (s := s) (d := d) [s.errorClass] Cursor.fetchOne
  rw [fetchOne, Action.bind_ok (checkOpen_eq isOpen), Action.bind_ok (Action.run_get _), named]
  simp only
  rw [run] at row
  cases failure with
  | some f => exact Action.bind_error row _
  | none =>
    rw [Action.bind_ok row, readRow]
    cases ((s.cursor.rowAt? s.cursor.position).getD .null).isNull with
    | true => rfl
    | false =>
      simp only [Bool.false_eq_true, if_false]
      cases rowMapping (some names) ((s.cursor.rowAt? s.cursor.position).getD .null) <;> rfl

/-- What the next row is read as if the driver hands it out; without columns there are no rows. -/
def nextRow (s : Live Statement) : Except Failure (Option Row) :=
  match columns s with
  | none => .ok none
  | some names => readRow names ((s.it.cursor.rowAt? s.it.cursor.position).getD .null)

/-- A row that is no mapping cannot always be made one. -/
theorem nextRow_error {s : Live Statement} {e : Failure} (h : nextRow s = .error e) :
    e = .driver ⟨.noDescription, none⟩ ∨ ∃ typeName, e = .operand (.notIterable typeName) := by
  rw [nextRow] at h
  split at h
  · contradiction
  · next names _ =>
    rw [readRow] at h
    split at h
    · contradiction
    · cases mapped : rowMapping (some names)
        ((s.it.cursor.rowAt? s.it.cursor.position).getD .null) with
      | ok row =>
        rw [mapped] at h
        contradiction
      | error e' =>
        rw [mapped] at h
        cases h
        exact (rowMapping_error mapped).imp_right fun same => ⟨_, same⟩

def firstRow (f : Features) (r : Reply) : Except Failure (Option Row) :=
  match if f.hasDescription then r.columns else none with
  | none => .ok none
  | some names => readRow names (r.rows.head?.getD .null)

/-- The next row of a statement that was just executed is the first one of its reply. -/
theorem nextRow_withReply {c : Cursor} {r : Reply} (replied : s.cursor = c.withReply r) :
    nextRow ⟨s, d⟩ = firstRow d.features r := by
  have row : s.cursor.rowAt? s.cursor.position = r.rows.head? := by
    rw [replied, List.head?_eq_getElem?]
    rfl
  have names : columns ⟨s, d⟩ = if d.features.hasDescription then r.columns else none := by
    rw [columns, replied]
    rfl
  rw [nextRow, names, row]
  rfl

/-- The number of rows that a reply tells, or -1. -/
def toldRows (f : Features) (r : Reply) : Int :=
  if f.hasRowCount then max (r.rowCount.getD (-1)) (-1) else -1

theorem rowCount_withReply {c : Cursor} {r : Reply} (replied : s.cursor = c.withReply r) :
    rowCount ⟨s, d⟩ = toldRows d.features r := by
  have count : s.cursor.rowCount = r.rowCount := by
    rw [replied]
    rfl
  simp only [rowCount, toldRows, count]
  cases r.rowCount with
  | none => rfl
  | some n =>
    simp only [Option.getD_some]
    split
    · split <;> omega
    · rfl

/-- The insert id that a reply tells, null if the driver has none. -/
def toldId (f : Features) (r : Reply) : Value :=
  if f.hasLastRowId then r.lastRowId else .null

theorem lastRowId_withReply {c : Cursor} {r : Reply} (replied : s.cursor = c.withReply r) :
    lastRowId ⟨s, d⟩ = toldId d.features r := by
  rw [lastRowId, toldId, replied]
  rfl

/-- Reading a row makes one call at most. It fails as that call does, or else comes to the row. -/
theorem fetchOne_cases (isOpen : s.closed = false) {n : Nat} (number : s.cursor.number = n) :
    ∃ es c d', Ran d es d' ∧ (es = [] ∨ ∃ f, es = [⟨.fetchOne n, f⟩]) ∧ c.number = n ∧
      fetchOne ⟨s, d⟩ = Action.ofExcept
        (((lastFailure es).map (Driver.handle [s.errorClass])).elim (nextRow ⟨s, d⟩) .error)
        ⟨{ s with cursor := c }, d'⟩ := by
  subst number
  cases named : columns ⟨s, d⟩ with
  | none =>
    refine ⟨[], s.cursor, d, .refl d, .inl rfl, rfl, ?_⟩
    rw [fetchOne, Action.bind_ok (checkOpen_eq isOpen), Action.bind_ok (Action.run_get _), nextRow,
      named]
    rfl
  | some names =>
    obtain ⟨failure, d', ran, run⟩ := fetchOne_eq isOpen named
    cases failure with
    | none =>
      refine ⟨_, s.cursor.passed, d', ran, .inr ⟨none, rfl⟩, s.cursor.passed_number, run.trans ?_⟩
      rw [nextRow, named]
      rfl
    | some f => exact ⟨_, s.cursor, d', ran, .inr ⟨some f, rfl⟩, rfl, run⟩

theorem scroll_refused (isOpen : s.closed = false) (still : canScroll ⟨s, d⟩ = false)
    (index : Int) :
    scroll index ⟨s, d⟩ = .error (.driver ⟨.noScroll, none⟩) ⟨s, d⟩ := by
  rw [scroll, Action.bind_ok (checkOpen_eq isOpen), Action.bind_ok (Action.run_get _)]
  simp only [still]
  rfl

/-- A statement on a cursor that can be moved makes one call to move it. -/
theorem scroll_eq (isOpen : s.closed = false) (moves : canScroll ⟨s, d⟩ = true) (index : Int) :
    ∃ failure d', Ran d [⟨.scroll s.cursor.number index, failure⟩] d' ∧
      (∀ f, failure = some f →
        d.Scripted f ∨ s.cursor.Beyond index ∧ f = Cursor.outOfRange) ∧
      (s.cursor.Beyond index → failure ≠ none) ∧
      scroll index ⟨s, d⟩ =
        match failure with
        | none => .ok () ⟨{ s with cursor.position := index }, d'⟩
        | some f => .error (Driver.handle [s.errorClass, .index] f) ⟨s, d'⟩ := by
  obtain ⟨failure, d', ran, met, refused, run⟩ := Cursor.scroll_ran index ⟨s.cursor, d⟩
  refine ⟨failure, d', ran, met, refused, ?_⟩
  have moving : scroll index ⟨s, d⟩ =
      onCursor [s.errorClass, .index] (Cursor.scroll index) ⟨s, d⟩ := by
    rw [scroll, Action.bind_ok (checkOpen_eq isOpen), Action.bind_ok (Action.run_get _)]
    simp only [moves]
    rfl
  rw [moving, onCursor_eq, run]
  cases failure <;> rfl

end

end SqlTemplate.Statement
