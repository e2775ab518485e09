import SqlTemplate.Connection.RowCount
import SqlTemplate.Proofs.Statement

/-!
What a session does with its driver. Each operation makes a few calls on one cursor at most, and it
fails with the last of them that failed.
-/
namespace SqlTemplate

namespace Driver

/-- A failure that one of the calls met, as it leaves a handler that takes errors of a class. -/
def Handled (c : ErrorClass) (es : List Exchange) (e : Failure) : Prop :=
  ∃ x ∈ es, ∃ f caught, x.failure = some f ∧ c ∈ caught ∧ e = handle caught f

theorem handle_of_isA {c : ErrorClass} {caught : List ErrorClass} {f : Fault}
    (h : f.errorClass.isA c = true) (mem : c ∈ caught) :
    handle caught f = .driver (.wrap f) :=
  if_pos (List.any_eq_true.mpr ⟨c, mem, h⟩)

theorem handled_of_lastFailure {c : ErrorClass} {caught : List ErrorClass} {es : List Exchange}
    {f : Fault} (mem : c ∈ caught) (h : lastFailure es = some f) :
    Handled c es (handle caught f) := by
  obtain ⟨x, hx, failed⟩ := mem_of_lastFailure h
  exact ⟨x, hx, f, caught, failed, mem, rfl⟩

end Driver

theorem Classed.last {c : ErrorClass} {es : List Exchange} (h : Classed c es) {f : Fault}
    (failed : lastFailure es = some f) {caught : List ErrorClass} (mem : c ∈ caught) :
    Driver.handle caught f = .driver (.wrap f) := by
  obtain ⟨x, hx, failure⟩ := mem_of_lastFailure failed
  exact Driver.handle_of_isA (h x hx f failure) mem

namespace Session

open Driver (Ran Handled)

section
variable {s : Session} {d : Driver}

theorem checkOpen_eq (isOpen : s.closed = false) : checkOpen ⟨s, d⟩ = .ok () ⟨s, d⟩ := by
  simp only [checkOpen, Action.run_bind, Action.run_get, isOpen]
  rfl

theorem checkOpen_closed (closed : s.closed = true) :
    checkOpen ⟨s, d⟩ = .error (.driver ⟨.connectionClosed, none⟩) ⟨s, d⟩ := by
  simp only [checkOpen, Action.run_bind, Action.run_get, closed]
  rfl

/-- A session that was told of an insert id keeps it if it counts as given. -/
def noted (s : Session) (id : Value) : Session :=
  { s with lastInsertId := if id.truthy then id else s.lastInsertId }

theorem noteInsertId_eq (id : Value) : noteInsertId id ⟨s, d⟩ = .ok () ⟨s.noted id, d⟩ := by
  rw [noteInsertId, Action.run_modify, noted]
  split <;> rfl

theorem prepare_closed (closed : s.closed = true) (sql : String) :
    prepare sql ⟨s, d⟩ = .error (.driver ⟨.connectionClosed, none⟩) ⟨s, d⟩ := by
  rw [prepare, Action.bind_error (checkOpen_closed closed)]

theorem prepare_cases (isOpen : s.closed = false) (sql : String) :
    (∃ d', Ran d [⟨.cursor d.cursors, none⟩] d' ∧
      prepare sql ⟨s, d⟩ =
        .ok { cursor := { number := d.cursors }, sql, errorClass := s.errorClass } ⟨s, d'⟩) ∨
    ∃ f d', Ran d [⟨.cursor d.cursors, some f⟩] d' ∧
      prepare sql ⟨s, d⟩ = .error (Driver.handle [s.errorClass] f) ⟨s, d'⟩ := by
  rw [prepare, Action.bind_ok (checkOpen_eq isOpen)]
  rcases Driver.newCursor_ran d with ⟨d', ran, run⟩ | ⟨f, d', ran, run⟩
  · refine .inl ⟨d', ran, ?_⟩
    have asked : guarded (Live.onDriver Driver.newCursor) ⟨s, d⟩ =
        .ok { number := d.cursors } ⟨s, d'⟩ := by
      simp only [guarded, Action.mapFailure, Live.onDriver, Action.within, run]
    rw [Action.bind_ok asked]
    rfl
  · refine .inr ⟨f, d', ran, ?_⟩
    have asked : guarded (Live.onDriver Driver.newCursor) ⟨s, d⟩ =
        .error (Driver.handle [s.errorClass] f) ⟨s, d'⟩ := by
      simp only [guarded, Action.mapFailure, Live.onDriver, Action.within, run]
    rw [Action.bind_error asked]

theorem reply_prepare {sql : String} {t : Statement} {u : Live Session}
    (run : prepare sql ⟨s, d⟩ = .ok t u) (i : Nat) : u.driver.reply i = d.reply i := by
  obtain ⟨_, u₁, opened, rest⟩ := Action.exists_of_bind_ok run
  have same : u₁ = ⟨s, d⟩ := by
    cases closed : s.closed with
    | true =>
      rw [checkOpen_closed closed] at opened
      contradiction
    | false =>
      rw [checkOpen_eq closed] at opened
      cases opened
      rfl
  subst same
  obtain ⟨c, u₂, asked, rest⟩ := Action.exists_of_bind_ok rest
  cases rest
  simp only [guarded, Action.mapFailure, Live.onDriver, Action.within] at asked
  cases handed : Driver.newCursor d with
  | ok c' d' =>
    rw [handed] at asked
    cases asked
    exact Driver.reply_newCursor handed i
  | error f d' =>
    rw [handed] at asked
    contradiction

theorem guarded_call {c : Call} (other : c.operation ≠ .cursor) :
    ∃ failure d', Ran d [⟨c, failure⟩] d' ∧
      guarded (Live.onDriver (Driver.call c)) ⟨s, d⟩ =
        Action.ended (failure.map (Driver.handle [s.errorClass])) ⟨s, d'⟩ := by
  obtain ⟨failure, d', ran, run⟩ := Driver.call_ran other d
  refine ⟨failure, d', ran, ?_⟩
  simp only [guarded, Action.mapFailure, Live.onDriver, Action.within, run]
  cases failure <;> rfl

theorem settle_closed (closed : s.closed = true) (c : Call) :
    settle c ⟨s, d⟩ = .error (.driver ⟨.connectionClosed, none⟩) ⟨s, d⟩ := by
  rw [settle, Action.bind_error (checkOpen_closed closed)]

/-- The end of a transaction is one call, and the session takes it as ended in any case. -/
theorem settle_cases (isOpen : s.closed = false) {c : Call} (other : c.operation ≠ .cursor) :
    ∃ failure d', Ran d [⟨c, failure⟩] d' ∧
      settle c ⟨s, d⟩ = Action.ended (failure.map (Driver.handle [s.errorClass]))
        ⟨{ s with inTransaction := false }, d'⟩ := by
  obtain ⟨failure, d', ran, run⟩ := guarded_call (s := s) (d := d) other
  refine ⟨failure, d', ran, ?_⟩
  rw [settle, Action.bind_ok (checkOpen_eq isOpen)]
  simp only [Action.ensuring, run]
  cases failure <;> rfl

inductive Begins (n : Nat) : List Exchange → Prop
  | byCall (failure : Option Fault) : Begins n [⟨.begin, failure⟩]
  | noCursor (f : Fault) : Begins n [⟨.cursor n, some f⟩]
  | byStatement (failure closing : Option Fault) :
    Begins n [⟨.cursor n, none⟩, ⟨.execute n "BEGIN" none, failure⟩, ⟨.closeCursor n, closing⟩]

theorem Begins.still {n : Nat} {es : List Exchange} (h : Begins n es) :
    ∀ x ∈ es, x.call.operation ≠ .scroll := by
  cases h <;> simp [Call.operation]

theorem beginByStatement_cases :
    ∃ es d', Ran d es d' ∧ Begins d.cursors es ∧
      beginByStatement ⟨s, d⟩ = Action.ended (lastFailure es) ⟨s, d'⟩ := by
  rcases Driver.newCursor_ran d with ⟨d₁, asked, run⟩ | ⟨f, d₁, asked, run⟩
  · obtain ⟨failure, c, d₂, ran, same, sent⟩ :=
      Cursor.execute_ran "BEGIN" none ⟨{ number := d.cursors }, d₁⟩
    obtain ⟨closing, d₃, ran', closed⟩ := Cursor.close_ran ⟨c, d₂⟩
    rw [show c.number = d.cursors from same] at ran'
    refine ⟨_, d₃, (asked.trans ran).trans ran', .byStatement failure closing, ?_⟩
    have cursor : Live.onDriver Driver.newCursor (⟨s, d⟩ : Live Session) =
        .ok { number := d.cursors } ⟨s, d₁⟩ := by
      simp only [Live.onDriver, Action.within, run]
    rw [beginByStatement, Action.bind_ok cursor]
    simp only [Live.onNew, Action.within, Action.ensuring, sent]
    cases failure <;> simp only [Action.ended, closed] <;> cases closing <;> rfl
  · refine ⟨_, d₁, asked, .noCursor f, ?_⟩
    have cursor : Live.onDriver Driver.newCursor (⟨s, d⟩ : Live Session) = .error f ⟨s, d₁⟩ := by
      simp only [Live.onDriver, Action.within, run]
    rw [beginByStatement, Action.bind_error cursor]
    rfl

theorem begin_closed (closed : s.closed = true) :
    begin ⟨s, d⟩ = .error (.driver ⟨.connectionClosed, none⟩) ⟨s, d⟩ := by
  rw [begin, Action.bind_error (checkOpen_closed closed)]

theorem begin_nested (isOpen : s.closed = false) (nested : s.inTransaction = true) :
    begin ⟨s, d⟩ = .error (.driver ⟨.transactionActive, none⟩) ⟨s, d⟩ := by
  rw [begin, Action.bind_ok (checkOpen_eq isOpen), Action.bind_ok (Action.run_get _)]
  simp only [nested]
  rfl

theorem begin_cases (isOpen : s.closed = false) (outside : s.inTransaction = false) :
    ∃ es d', Ran d es d' ∧ Begins d.cursors es ∧
      begin ⟨s, d⟩ =
        Action.ended ((lastFailure es).map (Driver.handle [s.errorClass]))
          ⟨{ s with inTransaction := (lastFailure es).isNone }, d'⟩ := by
  have run : begin ⟨s, d⟩ =
      (do
        guarded do
          if (← get).driver.features.hasBegin then Live.onDriver (Driver.call .begin)
          else beginByStatement
        modify fun s => { s with it.inTransaction := true } : SessionAction Unit) ⟨s, d⟩ := by
    rw [begin, Action.bind_ok (checkOpen_eq isOpen), Action.bind_ok (Action.run_get _)]
    simp only [outside]
    rfl
  have started : ∃ es d', Ran d es d' ∧ Begins d.cursors es ∧
      guarded (do
        if (← get).driver.features.hasBegin then Live.onDriver (Driver.call .begin)
        else beginByStatement) ⟨s, d⟩ =
      Action.ended ((lastFailure es).map (Driver.handle [s.errorClass])) ⟨s, d'⟩ := by
    simp only [guarded, Action.mapFailure, Action.run_bind, Action.run_get]
    cases d.features.hasBegin with
    | true =>
      obtain ⟨failure, d', ran, run⟩ :=
        Driver.call_ran (c := .begin) (by simp [Call.operation]) d
      refine ⟨_, d', ran, .byCall failure, ?_⟩
      simp only [if_true, Live.onDriver, Action.within, run]
      cases failure <;> rfl
    | false =>
      obtain ⟨es, d', ran, begins, run⟩ := beginByStatement_cases (s := s) (d := d)
      refine ⟨es, d', ran, begins, ?_⟩
      simp only [Bool.false_eq_true, if_false, run]
      cases lastFailure es <;> rfl
  obtain ⟨es, d', ran, begins, guardedRun⟩ := started
  refine ⟨es, d', ran, begins, ?_⟩
  rw [run]
  cases failure : lastFailure es with
  | none =>
    rw [failure] at guardedRun
    rw [Action.bind_ok guardedRun]
    rfl
  | some f =>
    rw [failure] at guardedRun
    rw [Action.bind_error guardedRun]
    simp [Action.ended, ← outside]

theorem close_closed (closed : s.closed = true) : close ⟨s, d⟩ = .ok () ⟨s, d⟩ := by
  rw [close, Action.bind_ok (Action.run_get _)]
  simp only [closed]
  rfl

theorem close_cases (isOpen : s.closed = false) :
    ∃ failure d', Ran d [⟨.close, failure⟩] d' ∧
      close ⟨s, d⟩ = Action.ended (failure.map (Driver.handle [s.errorClass]))
        ⟨{ s with closed := true }, d'⟩ := by
  obtain ⟨failure, d', ran, run⟩ :=
    guarded_call (s := { s with closed := true }) (d := d) (c := .close) (by simp [Call.operation])
  refine ⟨failure, d', ran, ?_⟩
  rw [close, Action.bind_ok (Action.run_get _)]
  simp only [isOpen]
  exact run

end

end Session

namespace RowCount

open Driver (Ran Handled)
open Statement (Sends encodeFrom)

/-- The calls that count rows: all of them on a cursor of their own, which is given back. -/
inductive Counts (n : Nat) (sql : String) (xs : List (Value × Value)) (sized : Bool) :
    List Exchange → Prop
  | noCursor (f : Fault) : Counts n sql xs sized [⟨.cursor n, some f⟩]
  | sent {es : List Exchange} (sends : Sends n sql xs sized es) (closing : Option Fault) :
    Counts n sql xs sized (⟨.cursor n, none⟩ :: (es ++ [⟨.closeCursor n, closing⟩]))
  | read {es : List Exchange} (sends : Sends n sql xs sized es) (fetching closing : Option Fault) :
    Counts n sql xs sized
      (⟨.cursor n, none⟩ :: (es ++ [⟨.fetchOne n, fetching⟩, ⟨.closeCursor n, closing⟩]))

/-- What the calls `es` bring that count rows: the last failure among them, or else the first row of the
reply. -/
inductive Brings (c : ErrorClass) (f : Features) (reply : Reply) (es : List Exchange) :
    Except Failure (Option Row) → Prop
  | failed {fault : Fault} {caught : List ErrorClass} (last : lastFailure es = some fault)
      (mem : c ∈ caught) : Brings c f reply es (.error (Driver.handle caught fault))
  | passed (passed : lastFailure es = none) : Brings c f reply es (Statement.firstRow f reply)

theorem firstRow_error {f : Features} {reply : Reply} {e : Failure}
    (h : Statement.firstRow f reply = .error e) :
    e = .driver ⟨.noDescription, none⟩ ∨ ∃ typeName, e = .operand (.notIterable typeName) := by
  apply Statement.nextRow_error
    (s := ⟨{ cursor := Cursor.withReply {} reply, sql := "" }, { features := f }⟩)
  rw [← h]
  exact Statement.nextRow_withReply rfl

theorem Brings.error {c : ErrorClass} {f : Features} {reply : Reply} {es : List Exchange}
    {row : Except Failure (Option Row)} {e : Failure} (h : Brings c f reply es row)
    (failed : row = .error e) :
    Handled c es e ∨ e = .driver ⟨.noDescription, none⟩ ∨
      ∃ typeName, e = .operand (.notIterable typeName) := by
  cases h with
  | failed last mem =>
    cases failed
    exact .inl (Driver.handled_of_lastFailure mem last)
  | passed => exact .inr (firstRow_error failed)

/-- Counting works with the values of the statement whose rows are counted, and reads the first row of
the next reply. -/
theorem countingRow_cases {s : Session} {d : Driver} (isOpen : s.closed = false) (sql : String)
    {ps : List BoundParameter} {xs : List (Value × Value)} (encoded : encodeFrom 1 ps = .ok xs) :
    ∃ es d' row, Ran d es d' ∧
      Counts d.cursors (countingSql sql) xs (d.features.hasSetInputSizes && !xs.isEmpty) es ∧
      countingRow sql ps ⟨s, d⟩ = Action.ofExcept row ⟨s, d'⟩ ∧
      Brings s.errorClass d.features (d.reply 0) es row := by
  rcases Session.prepare_cases (d := d) isOpen (countingSql sql) with
    ⟨d₁, asked, prepared⟩ | ⟨f, d₁, asked, prepared⟩
  case inr =>
    exact ⟨_, d₁, .error _, asked, .noCursor f, Action.bind_error prepared _,
      .failed rfl (List.mem_singleton.mpr rfl)⟩
  case inl =>
    let t : Statement :=
      { cursor := { number := d.cursors }, sql := countingSql sql, errorClass := s.errorClass }
    have bound := Statement.bindAll_eq (s := t) (d := d₁) rfl rfl rfl ps
    rw [encoded] at bound
    obtain ⟨es, c, d₂, sent, sends, same, executed⟩ :=
      Statement.execute_withBound (s := t) (d := d₁) rfl xs
    rw [asked.features] at sends
    have whole {outcome : Except Failure (Option Row)} {t' : Live Statement}
        (run : Action.ensuring (do Statement.bindAll ps; Statement.execute; Statement.fetchOne)
          Statement.close ⟨t, d₁⟩ = Action.ofExcept outcome t') :
        countingRow sql ps ⟨s, d⟩ = Action.ofExcept outcome ⟨s, t'.driver⟩ := by
      rw [countingRow, Action.bind_ok prepared]
      simp only [Live.onNew, Action.within]
      rw [run]
      cases outcome <;> rfl
    cases failure : lastFailure es with
    | some f =>
      rw [failure] at executed
      have run : (do Statement.bindAll ps; Statement.execute; Statement.fetchOne) ⟨t, d₁⟩ =
          Action.ofExcept (.error (Driver.handle (s.errorClass :: Statement.executionErrors) f))
            ⟨{ t with cursor := c }.withBound xs, d₂⟩ := by
        rw [Action.bind_ok bound, Action.bind_error executed]
        rfl
      obtain ⟨closing, d₃, gave, closed⟩ :=
        Statement.ensuring_close (s := { t with cursor := c }.withBound xs) rfl same run
      refine ⟨_, d₃, _, (asked.trans sent).trans gave, .sent sends closing, whole closed, ?_⟩
      cases closing with
      | some f' => exact .failed (by simp) (List.mem_singleton.mpr rfl)
      | none => exact .failed (by simp [failure]) (List.mem_cons_self ..)
    | none =>
      rw [failure] at executed
      have replied := (Statement.execute_ok (s := t.withBound xs) rfl executed).1
      rw [Session.reply_prepare prepared] at replied
      obtain ⟨es', c', d₃, fetched, shape, same', read⟩ :=
        Statement.fetchOne_cases (s := { t with cursor := c }.withBound xs) (d := d₂) rfl same
      rw [Statement.nextRow_withReply replied, sent.features, asked.features] at read
      have run : (do Statement.bindAll ps; Statement.execute; Statement.fetchOne) ⟨t, d₁⟩ =
          Action.ofExcept (((lastFailure es').map (Driver.handle [s.errorClass])).elim
            (Statement.firstRow d.features (d.reply 0)) .error)
            ⟨{ t with cursor := c' }.withBound xs, d₃⟩ := by
        rw [Action.bind_ok bound, Action.bind_ok executed, read]
        rfl
      obtain ⟨closing, d₄, gave, closed⟩ :=
        Statement.ensuring_close (s := { t with cursor := c' }.withBound xs) rfl same' run
      refine ⟨_, d₄, _, ((asked.trans sent).trans fetched).trans gave, ?_, whole closed, ?_⟩
      · rcases shape with rfl | ⟨f, rfl⟩
        · simpa using Counts.sent sends closing
        · simpa using Counts.read sends f closing
      · cases closing with
        | some f' => exact .failed (by simp) (List.mem_singleton.mpr rfl)
        | none =>
          cases fetching : lastFailure es' with
          | some f' => exact .failed (by simp [fetching]) (List.mem_singleton.mpr rfl)
          | none => exact .passed (by simp [fetching, failure])

end RowCount

end SqlTemplate
