import SqlTemplate.Proofs.Connection.Cursors
import SqlTemplate.Proofs.Translation

/-!
Giving cursors back. A statement holds its cursor until it is closed. Whatever is asked of it, of the
rows that are read from it, or of the result that these belong to, the driver is asked to take the
cursor back just when it is held no longer.
-/
namespace SqlTemplate

open Driver (Ran)

def holds (m : Nat) (held : Option Nat) : Nat :=
  if held = some m then 1 else 0

/-- Calls of cursors, which give back what was held before and is not held after them. -/
structure GivesBack (held : Option Nat) (es : List Exchange) (held' : Option Nat) : Prop where
  own : ∀ x ∈ es, x.call.operation ≠ .cursor ∧ x.call.operation ≠ .close
  balance : ∀ m, holds m held' + closings m es = holds m held

/-- An action whose calls give back what it does not hold any more. -/
def Balanced {σ α : Type} (held : σ → Option Nat) (m : Action Failure (Live σ) α) (s : Live σ) :
    Prop :=
  ∃ es, Ran s.driver es (m.after s).driver ∧ GivesBack (held s.it) es (held (m.after s).it)

namespace GivesBack

variable {held held' held'' : Option Nat} {es es' : List Exchange}

theorem refl (held : Option Nat) : GivesBack held [] held where
  own _ mem := absurd mem List.not_mem_nil
  balance _ := rfl

theorem trans (first : GivesBack held es held') (next : GivesBack held' es' held'') :
    GivesBack held (es ++ es') held'' where
  own x mem := (List.mem_append.mp mem).elim (first.own x) (next.own x)
  balance m := by
    have before := first.balance m
    have after := next.balance m
    rw [closings_append]
    omega

/-- Calls that do not give a cursor back. -/
theorem uses (held : Option Nat)
    (uses : ∀ x ∈ es, x.call.operation ∈ [.setInputSizes, .execute, .fetchOne, .scroll]) :
    GivesBack held es held where
  own x mem := by
    have use := uses x mem
    revert use
    cases x.call <;> simp [Call.operation]
  balance m := by
    rw [closings_other, Nat.add_zero]
    intro x mem same
    have use := uses x mem
    rw [same] at use
    simp at use

theorem closes (n : Nat) (failure : Option Fault) :
    GivesBack (some n) [⟨.closeCursor n, failure⟩] none where
  own := by simp [Call.operation]
  balance m := by
    by_cases same : n = m <;> simp [holds, closings, same]

/-- What is given back is not held again, and not given back again. -/
theorem of_none (gives : GivesBack none es held') : held' = none ∧ ∀ m, closings m es = 0 := by
  have nothing (m : Nat) : holds m held' + closings m es = 0 := gives.balance m
  refine ⟨?_, fun m => (Nat.add_eq_zero_iff.mp (nothing m)).2⟩
  cases held' with
  | none => rfl
  | some m =>
    have none := (Nat.add_eq_zero_iff.mp (nothing m)).1
    rw [holds, if_pos rfl] at none
    contradiction

end GivesBack

namespace Balanced

variable {σ τ α β : Type} {held : σ → Option Nat} {m : Action Failure (Live σ) α} {s s' : Live σ}

theorem of_ran {es : List Exchange} (after : m.after s = s') (ran : Ran s.driver es s'.driver)
    (gives : GivesBack (held s.it) es (held s'.it)) : Balanced held m s := by
  subst after
  exact ⟨es, ran, gives⟩

theorem of_held (after : m.after s = s') (driver : s'.driver = s.driver)
    (same : held s'.it = held s.it) : Balanced held m s := by
  have ran : Ran s.driver [] s'.driver := by
    rw [driver]
    exact .refl _
  refine of_ran after ran ?_
  rw [same]
  exact .refl _

theorem of_after {m' : Action Failure (Live σ) β} (same : m.after s = m'.after s)
    (balanced : Balanced held m' s) : Balanced held m s :=
  have ⟨_, ran, gives⟩ := balanced
  of_ran same ran gives

theorem bind {f : α → Action Failure (Live σ) β} (first : Balanced held m s)
    (next : ∀ a t, m s = .ok a t → Balanced held (f a) t) : Balanced held (m >>= f) s := by
  obtain ⟨es, ran, gives⟩ := first
  cases run : m s with
  | ok a t =>
    obtain ⟨es', ran', gives'⟩ := next a t run
    rw [Action.after, run] at ran gives
    refine of_ran ?_ (ran.trans ran') (gives.trans gives')
    rw [Action.after, Action.bind_ok run, Action.after]
  | error e t =>
    rw [Action.after, run] at ran gives
    refine of_ran ?_ ran gives
    rw [Action.after, Action.bind_error run]

/-- What was given back is not held again. -/
theorem free (balanced : Balanced held m s) (free : held s.it = none) :
    held (m.after s).it = none := by
  obtain ⟨es, _, gives⟩ := balanced
  rw [free] at gives
  exact gives.of_none.1

theorem map (balanced : Balanced held m s) (g : α → β) : Balanced held (g <$> m) s :=
  balanced.of_after (Action.after_map g m s)

theorem onPart {heldτ : τ → Option Nat} {part : τ → σ} {put : σ → τ → τ} {t : Live τ}
    (balanced : Balanced held m ⟨part t.it, t.driver⟩) (before : heldτ t.it = held (part t.it))
    (after : ∀ x, heldτ (put x t.it) = held x) : Balanced heldτ (Live.onPart part put m) t := by
  obtain ⟨es, ran, gives⟩ := balanced
  refine of_ran (Live.onPart_after part put m t) ran ?_
  rw [before, after]
  exact gives

end Balanced

/-! ## Statements -/

namespace Statement

def cursor? (t : Statement) : Option Nat :=
  if t.closed then none else some t.cursor.number

section
variable {t : Statement} {d : Driver}

theorem cursor?_eq_none : t.cursor? = none ↔ t.closed = true := by
  unfold cursor?
  split <;> simp_all

theorem cursor?_withCursor {c : Cursor} (same : c.number = t.cursor.number) :
    cursor? { t with cursor := c } = t.cursor? := by
  simp only [cursor?, same]

theorem close_balanced (t : Statement) (d : Driver) : Balanced cursor? close ⟨t, d⟩ := by
  cases isOpen : t.closed with
  | true => exact .of_held (Action.after_ok (close_closed isOpen)) rfl rfl
  | false =>
    obtain ⟨failure, d', ran, run⟩ := close_eq (d := d) isOpen
    refine .of_ran (Action.after_ended run) ran ?_
    rw [cursor?, isOpen]
    exact .closes _ failure

/-- A statement keeps its cursor until it is closed. -/
theorem Request.run_balanced (request : Request) (t : Statement) (d : Driver) :
    Balanced cursor? request.run ⟨t, d⟩ := by
  cases isOpen : t.closed with
  | true =>
    by_cases closing : request = .close
    · rw [closing]
      exact (close_balanced t d).map _
    · exact .of_held (Action.after_error (Request.run_closed isOpen closing)) rfl rfl
  | false =>
    cases request with
    | close => exact (close_balanced t d).map _
    | bind position v kind size =>
      refine Balanced.map ?_ _
      rcases bind_cases (d := d) isOpen position v kind size with
        ⟨_, run⟩ | ⟨_, e, _, run⟩ | ⟨_, sent, _, run⟩
      · exact .of_held (Action.after_error run) rfl rfl
      · exact .of_held (Action.after_error run) rfl rfl
      · exact .of_held (Action.after_ok run) rfl rfl
    | execute =>
      refine Balanced.map ?_ _
      rcases execute_cases (d := d) isOpen with
        ⟨position, _, run⟩ | ⟨xs, es, c, d', _, _, ran, sends, same, run⟩
      · exact .of_held (Action.after_error run) rfl rfl
      · refine .of_ran (Action.after_ended run) ran ?_
        rw [cursor?_withCursor same]
        refine .uses _ fun x mem => ?_
        rcases sends_own sends x mem with own | own <;> simp [own]
    | fetchOne =>
      obtain ⟨es, c, d', ran, calls, same, run⟩ := fetchOne_cases (d := d) isOpen rfl
      refine .of_ran (Action.after_ofExcept run) ran ?_
      rw [cursor?_withCursor same]
      refine .uses _ ?_
      rcases calls with rfl | ⟨f, rfl⟩ <;> simp [Call.operation]
    | scroll index =>
      refine Balanced.map ?_ _
      cases moves : canScroll ⟨t, d⟩ with
      | false => exact .of_held (Action.after_error (scroll_refused isOpen moves index)) rfl rfl
      | true =>
        obtain ⟨failure, d', ran, _, _, run⟩ := scroll_eq (d := d) isOpen moves index
        cases failure with
        | none => exact .of_ran (Action.after_ok run) ran (.uses _ (by simp [Call.operation]))
        | some f => exact .of_ran (Action.after_error run) ran (.uses _ (by simp [Call.operation]))

end

end Statement

/-! ## Rows -/

namespace RowCursor

def held (c : RowCursor) : Option Nat :=
  c.statement.cursor?

section
variable {α : Type} {s : Live RowCursor}

theorem onStatement_balanced {m : Action Failure (Live Statement) α}
    (balanced : Balanced Statement.cursor? m ⟨s.it.statement, s.driver⟩) :
    Balanced held (onStatement m) s :=
  balanced.onPart rfl fun _ => rfl

theorem fetchOne_balanced (s : Live RowCursor) : Balanced held fetchOne s := by
  cases complete : s.it.complete with
  | true => exact .of_held (Action.after_ok (fetchOne_complete complete)) rfl rfl
  | false =>
    obtain ⟨es, ran, gives⟩ :=
      onStatement_balanced (Statement.Request.fetchOne.run_balanced s.it.statement s.driver)
    -- What is noted of the row that was read is not the statement.
    obtain ⟨c, last, same⟩ : ∃ c : RowCursor,
        fetchOne.after s = ⟨c, ((onStatement Statement.fetchOne).after s).driver⟩ ∧
          c.statement = ((onStatement Statement.fetchOne).after s).it.statement := by
      rw [Action.after, fetchOne, Action.bind_ok (Action.run_get s), complete]
      simp only [Bool.false_eq_true, if_false, Action.run_bind, Action.after]
      cases onStatement Statement.fetchOne s with
      | ok row t => cases row <;> exact ⟨_, rfl, rfl⟩
      | error e t => exact ⟨_, rfl, rfl⟩
    have unchanged : held c = held ((onStatement Statement.fetchOne).after s).it :=
      congrArg Statement.cursor? same
    exact .of_ran last ran (unchanged ▸ gives)

theorem fetchUpTo_balanced (n : Nat) (s : Live RowCursor) : Balanced held (fetchUpTo n) s := by
  induction n generalizing s with
  | zero => exact .of_held rfl rfl rfl
  | succ n ih =>
    refine (fetchOne_balanced s).bind fun row t _ => ?_
    cases row with
    | none => exact .of_held rfl rfl rfl
    | some row => exact (ih t).bind fun rows u _ => .of_held rfl rfl rfl

theorem readForward_balanced (n : Nat) (s : Live RowCursor) : Balanced held (readForward n) s := by
  induction n generalizing s with
  | zero => exact .of_held rfl rfl rfl
  | succ n ih =>
    refine (fetchOne_balanced s).bind fun row t _ => ?_
    cases row with
    | none => exact .of_held rfl rfl rfl
    | some row => exact ih t

theorem fetchMany_balanced (size : Value) (s : Live RowCursor) :
    Balanced held (fetchMany size) s := by
  unfold fetchMany
  split
  · exact fetchUpTo_balanced _ s
  · exact fetchUpTo_balanced s.it.bound s
  · exact .of_held rfl rfl rfl

theorem get?_balanced (index : Int) (s : Live RowCursor) : Balanced held (get? index) s := by
  by_cases valid : index < 0
  · exact .of_held (Action.after_ok (get?_neg valid)) rfl rfl
  cases kept : s.it.rows.lookup index.toNat with
  | some row => exact .of_held (Action.after_ok (get?_kept valid kept)) rfl rfl
  | none =>
    have run : get? index s = (if s.it.sequential then do
          if ← readForward (index.toNat + 1 - s.it.position) then
            return (← get).it.rows.lookup index.toNat
          else return none
        else do
          onStatement (Statement.scroll index)
          modify fun s => { s with it.position := index.toNat, it.complete := false }
          fetchOne : RowAction (Option Row)) s := by
      rw [get?, if_neg valid, Action.bind_ok (Action.run_get s)]
      simp only [kept]
    refine .of_after (Action.after_congr run) ?_
    split
    · refine (readForward_balanced _ s).bind fun enough t _ => ?_
      cases enough <;> exact .of_held rfl rfl rfl
    · have moved := (Statement.Request.scroll index).run_balanced s.it.statement s.driver
      refine Balanced.bind (onStatement_balanced ?_) fun _ t _ => ?_
      · exact moved.of_after (Action.after_map ..).symm
      · exact Balanced.bind (.of_held rfl rfl rfl) fun _ u _ => fetchOne_balanced u

theorem close_balanced (s : Live RowCursor) : Balanced held close s :=
  Balanced.bind (.of_held rfl rfl rfl) fun _ t _ =>
    onStatement_balanced (Statement.close_balanced t.it.statement t.driver)

theorem close_after (s : Live RowCursor) : (close.after s).it.statement.closed = true := by
  have run : close s = onStatement Statement.close ⟨{ s.it with rows := [] }, s.driver⟩ := by
    rw [close, Action.bind_ok (Action.run_modify _ s)]
  have same : close.after s =
      (onStatement Statement.close).after ⟨{ s.it with rows := [] }, s.driver⟩ := by
    rw [Action.after, run, Action.after]
  rw [same, onStatement, Live.onPart_after]
  exact Statement.close_after s.it.statement s.driver

/-- The rows of a closed statement are not read on. -/
theorem fetchOne_closed {c : RowCursor} (closed : c.statement.closed = true) (d : Driver) :
    ∃ outcome, fetchOne ⟨c, d⟩ = Action.ofExcept outcome ⟨c, d⟩ ∧
      ∀ row, outcome ≠ .ok (some row) := by
  cases complete : c.complete with
  | true => exact ⟨.ok none, fetchOne_complete complete, by simp⟩
  | false =>
    refine ⟨.error (.driver ⟨.statementClosed, none⟩), ?_, by simp⟩
    have refused : Statement.fetchOne ⟨c.statement, d⟩ =
        .error (.driver ⟨.statementClosed, none⟩) ⟨c.statement, d⟩ :=
      Action.bind_error (Statement.checkOpen_closed closed) _
    have onto := onStatement_eq (s := ⟨c, d⟩) Statement.fetchOne
    rw [refused] at onto
    rw [fetchOne, Action.bind_ok (Action.run_get _), complete]
    exact Action.bind_error onto _

end

end RowCursor

/-! ## Results -/

namespace QueryResult

def held (r : QueryResult) : Option Nat :=
  r.source.rows?.bind RowCursor.held

/-- What becomes of a result by reading: its rows are others, and nothing else changes. -/
structure Onward (r r' : QueryResult) : Prop where
  kept : { r' with source := r.source } = r
  rows : r'.source.rows?.isSome = r.source.rows?.isSome
  attached : r'.isAttached = r.isAttached

theorem Onward.refl (r : QueryResult) : Onward r r where
  kept := rfl
  rows := rfl
  attached := rfl

section
variable {α : Type} {s : Live QueryResult} {c : RowCursor}

theorem onward_withRows (r : QueryResult) (c : RowCursor) :
    Onward r { r with source := r.source.withRows c } := by
  constructor
  · rfl
  · cases source : r.source <;> rfl
  · unfold isAttached
    cases r.source <;> rfl

theorem rows?_withRows (source : RowSource) (c : RowCursor) :
    (source.withRows c).rows? = source.rows?.map fun _ => c := by
  cases source <;> rfl

/-- Work on the rows of a result. -/
theorem onCursor_balanced (known : s.it.source.rows? = some c)
    {m : Action Failure (Live RowCursor) α} (balanced : Balanced RowCursor.held m ⟨c, s.driver⟩) :
    Balanced held (onCursor c m) s ∧ Onward s.it ((onCursor c m).after s).it := by
  constructor
  · refine balanced.onPart ?_ fun c' => ?_
    · rw [held, known]
      rfl
    · rw [held, rows?_withRows, known]
      rfl
  · rw [onCursor, Live.onPart_after]
    exact onward_withRows s.it _

theorem onRows_balanced {m : Action Failure (Live RowCursor) α}
    (balanced : ∀ u, Balanced RowCursor.held m u) (s : Live QueryResult) :
    Balanced held (onRows m) s ∧ Onward s.it ((onRows m).after s).it := by
  by_cases attached : ∃ c, s.it.source = .attached c
  · obtain ⟨c, source⟩ := attached
    have run : onRows m s = onCursor c m s := by
      rw [onRows, Action.bind_ok (Action.run_get s)]
      simp only [source]
    obtain ⟨balanced, onward⟩ := onCursor_balanced (m := m) (s := s) (by rw [source]; rfl)
      (balanced _)
    have same := Action.after_congr run
    exact ⟨balanced.of_after same, same ▸ onward⟩
  · have same := Action.after_error (onRows_detached (not_exists.mp attached) s.driver m)
    exact ⟨.of_held same rfl rfl, by rw [same]; exact .refl _⟩

theorem step_after (c : RowCursor) (s : Live QueryResult) :
    (next.step c).after s = (onCursor c RowCursor.fetchOne).after s := by
  rw [Action.after, Action.after, next.step, Action.run_bind, Action.mapFailure]
  cases onCursor c RowCursor.fetchOne s with
  | ok row t => cases row <;> rfl
  | error e t => rfl

/-- Every access works on the rows of a result, if it has any, and on nothing else. -/
theorem access_reads (access : Access) (s : Live QueryResult) :
    ∃ (β : Type) (m : RowCursor.RowAction β), (∀ u, Balanced RowCursor.held m u) ∧
      access.run.after s = (onRows m).after s := by
  have item (key : Value) :
      (QueryResult.item key).after s = (onRows (RowCursor.get? (rowIndex key))).after s := by
    rw [item_eq, Action.after_bind_ofExcept]
  cases access with
  | fetchOne => exact ⟨_, _, RowCursor.fetchOne_balanced, Action.after_map ..⟩
  | fetchAll => exact ⟨_, _, fun u => RowCursor.fetchUpTo_balanced u.it.bound u, Action.after_map ..⟩
  | fetchMany size =>
    refine ⟨_, RowCursor.fetchMany (if size.isNull then s.it.arraySize else size),
      RowCursor.fetchMany_balanced _, (Action.after_map ..).trans ?_⟩
    exact Action.after_congr (Action.bind_ok (Action.run_get s) _)
  | walk =>
    refine ⟨_, _, RowCursor.fetchOne_balanced, (Action.after_map ..).trans ?_⟩
    cases source : s.it.source with
    | attached c =>
      have run : next .fresh s = next.step c s := by
        rw [next, Action.bind_ok (Action.run_get s)]
        simp only [source]
      have run' : onRows RowCursor.fetchOne s = onCursor c RowCursor.fetchOne s := by
        rw [onRows, Action.bind_ok (Action.run_get s)]
        simp only [source]
      rw [Action.after_congr run, step_after, Action.after_congr run']
    | absent | released =>
      simp only [Action.after, next, onRows, Action.run_bind, Action.run_get, source]
      rfl
  | item key => exact ⟨_, _, RowCursor.get?_balanced _, (Action.after_map ..).trans (item key)⟩
  | has key =>
    refine ⟨_, _, RowCursor.get?_balanced _, (Action.after_map ..).trans (.trans ?_ (item key))⟩
    rw [Action.after, Action.after, QueryResult.has, Action.recover, Action.run_bind]
    cases QueryResult.item key s with
    | ok v t => rfl
    | error e t =>
      simp only
      cases e.errorClass.isA .index || e.errorClass.isA .key <;> rfl

theorem access_balanced (access : Access) (s : Live QueryResult) :
    Balanced held access.run s ∧ Onward s.it (access.run.after s).it := by
  obtain ⟨_, m, balanced, same⟩ := access_reads access s
  obtain ⟨reads, onward⟩ := onRows_balanced balanced s
  exact ⟨reads.of_after same, same ▸ onward⟩

theorem next_balanced (i : Iteration) (s : Live QueryResult) :
    Balanced held (next i) s ∧ Onward s.it ((next i).after s).it := by
  have idle (same : (next i).after s = s) :
      Balanced held (next i) s ∧ Onward s.it ((next i).after s).it :=
    ⟨.of_held same rfl rfl, by rw [same]; exact .refl _⟩
  cases i with
  | ended => exact idle rfl
  | fresh =>
    have same := Action.after_map (fun _ => ()) (next .fresh) s
    obtain ⟨balanced, onward⟩ := access_balanced .walk s
    exact ⟨balanced.of_after same.symm, same ▸ onward⟩
  | running =>
    cases known : s.it.source.rows? with
    | none =>
      have run : next .running s = .ok (none, .ended) s := by
        rw [next, Action.bind_ok (Action.run_get s)]
        simp only [known]
        rfl
      exact idle (Action.after_ok run)
    | some c =>
      have run : next .running s = next.step c s := by
        rw [next, Action.bind_ok (Action.run_get s)]
        simp only [known]
      have same := (Action.after_congr run).trans (step_after c s)
      obtain ⟨balanced, onward⟩ := onCursor_balanced known (RowCursor.fetchOne_balanced _)
      exact ⟨balanced.of_after same, same ▸ onward⟩

theorem source_ne_attached {r : QueryResult} (detached : r.isAttached = false) (c : RowCursor) :
    r.source ≠ .attached c := by
  intro source
  rw [isAttached, source] at detached
  contradiction

/-- A result that has no rows says so, or says why. -/
theorem access_misuse {r : QueryResult} (detached : r.isAttached = false) (d : Driver)
    (access : Access) : ∃ e, access.run ⟨r, d⟩ = .error (.misuse e) ⟨r, d⟩ := by
  rw [access_detached (source_ne_attached detached), noRows]
  cases r.exception with
  | none => exact ⟨_, rfl⟩
  | some e => exact ⟨_, rfl⟩

theorem close_detached (detached : s.it.isAttached = false) : close s = .ok () s := by
  rw [close, Action.bind_ok (Action.run_get s)]
  cases source : s.it.source with
  | attached c => exact absurd source (source_ne_attached detached c)
  | absent | released => rfl

/-- What becomes of a result when it is closed: its rows are released, and nothing else changes. -/
structure Released (r r' : QueryResult) : Prop where
  kept : { r' with source := r.source } = r
  rows : r'.source.rows?.isSome = r.source.rows?.isSome
  detached : r'.isAttached = false
  free : r.isAttached = true → r'.held = none

/-- Closing a result gives the cursor of its rows back. -/
theorem close_balanced (s : Live QueryResult) :
    Balanced held close s ∧ Released s.it (close.after s).it := by
  cases attached : s.it.isAttached with
  | false =>
    have same := Action.after_ok (close_detached attached)
    refine ⟨.of_held same rfl rfl, ?_⟩
    rw [same]
    exact ⟨rfl, rfl, attached, fun still => absurd (still.symm.trans attached) nofun⟩
  | true =>
    obtain ⟨c, source⟩ : ∃ c, s.it.source = .attached c := by
      unfold isAttached at attached
      cases source : s.it.source with
      | attached c => exact ⟨c, rfl⟩
      | absent | released => rw [source] at attached; contradiction
    let s' : Live QueryResult := ⟨{ s.it with source := .released c }, s.driver⟩
    have run : close s = onCursor c RowCursor.close s' := by
      rw [close, Action.bind_ok (Action.run_get s)]
      simp only [source]
      rfl
    have same : close.after s = (onCursor c RowCursor.close).after s' := by
      rw [Action.after, run, Action.after]
    have before : held s.it = held s'.it := by rw [held, source]; rfl
    obtain ⟨⟨es, ran, gives⟩, onward⟩ :=
      onCursor_balanced (s := s') rfl (RowCursor.close_balanced ⟨c, s.driver⟩)
    refine ⟨.of_ran same ran (before ▸ gives), ?_⟩
    rw [same]
    refine ⟨?_, by rw [onward.rows, source]; rfl, onward.attached, fun _ => ?_⟩
    · exact congrArg (fun r : QueryResult => { r with source := s.it.source }) onward.kept
    · rw [onCursor, Live.onPart_after, held]
      exact Statement.cursor?_eq_none.mpr (RowCursor.close_after ⟨c, s.driver⟩)

/-- A closed result hands no row out, not even to those who began to walk over its rows before. -/
theorem next_closed {r : QueryResult} (detached : r.isAttached = false) (free : r.held = none)
    (i : Iteration) (d : Driver) :
    ∃ outcome, next i ⟨r, d⟩ = Action.ofExcept outcome ⟨r, d⟩ ∧
      ∀ row i', outcome ≠ .ok (some row, i') := by
  cases i with
  | ended => exact ⟨.ok (none, .ended), rfl, by simp⟩
  | fresh =>
    refine ⟨.error r.noRows, ?_, by simp⟩
    rw [next, Action.bind_ok (Action.run_get _)]
    cases source : r.source with
    | attached c => exact absurd source (source_ne_attached detached c)
    | absent | released => rfl
  | running =>
    cases source : r.source with
    | attached c => exact absurd source (source_ne_attached detached c)
    | absent =>
      refine ⟨.ok (none, .ended), ?_, by simp⟩
      rw [next, Action.bind_ok (Action.run_get _)]
      simp only [source]
      rfl
    | released c =>
      rw [held, source] at free
      obtain ⟨outcome, read, none⟩ :=
        RowCursor.fetchOne_closed (Statement.cursor?_eq_none.mp free) d
      have whole : onCursor c RowCursor.fetchOne ⟨r, d⟩ = Action.ofExcept outcome ⟨r, d⟩ := by
        have back : { r with source := r.source.withRows c } = r := by
          rw [source, RowSource.withRows, ← source]
        exact (Live.onPart_ofExcept read).trans (by rw [back])
      have run : next .running ⟨r, d⟩ = next.step c ⟨r, d⟩ := by
        rw [next, Action.bind_ok (Action.run_get _)]
        simp only [source, RowSource.rows?]
      rw [run, next.step, Action.run_bind, Action.mapFailure, whole]
      cases outcome with
      | error e => exact ⟨.error e.leaveWalk, rfl, by simp⟩
      | ok row =>
        cases row with
        | none => exact ⟨.ok (Option.none, .ended), rfl, by simp⟩
        | some row => exact absurd rfl (none row)

end

end QueryResult

end SqlTemplate
