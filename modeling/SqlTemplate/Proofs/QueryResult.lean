import SqlTemplate.Proofs.RowCursor.Forward
import SqlTemplate.QueryResult

/-!
Reading the rows of a result. A result hands every request on to its row cursor, so what is said of
the cursor and of the calls that it makes holds behind the result as well, whichever way its rows are
asked for: forward, by index, or by the name of a column. A result that has no rows refuses all of
these.
-/
namespace SqlTemplate.QueryResult

open RowCursor (Forward Reading Reads)
open Statement (Brought allRows)

inductive Request
  | rows (request : RowCursor.Request)
  | item (key : Value)
  deriving Repr

inductive Answer
  | rows (reading : Reading)
  | value (value : Value)
  deriving Repr

/-- The index of the row that a key leads to: a number is one, anything else is looked up in the
first row. -/
def rowIndex : Value → Int
  | .int index => index
  | _ => 0

/-- What a key stands for, where its row is there or is missing. -/
def choose : Value → Option Row → Except Failure Value
  | .int _, some row => .ok (.dict row)
  | .int index, none => .error (.showing (.int index) (.noRow index))
  | key, some row => cell row key
  | key, none => .error (.noKey key)

def read : RowCursor.Request → ResultAction Reading
  | .fetchOne => .row <$> fetchOne
  | .fetchMany n => .rows <$> fetchMany (.int n)
  | .fetchAll => .rows <$> fetchAll
  | .get index => .row <$> onRows (RowCursor.get? index)

namespace Request

def run : Request → ResultAction Answer
  | rows request => .rows <$> read request
  | item key => .value <$> QueryResult.item key

/-- What a request ends with where `left` of all the rows are left to be read forward. -/
def answer (all left : List Row) : Request → Except Failure Answer
  | rows request => .ok (.rows (request.answer all left))
  | item key => (choose key (RowCursor.rowAt all (rowIndex key))).map .value

end Request

/-- A result that reads the rows of a statement `t` with the sequential cursor `c`, after the
calls. -/
structure ReadsForward (t : Live Statement) (calls : List Exchange) (s : Live QueryResult)
    (c : RowCursor) : Prop where
  source : s.it.source = .attached c
  forward : Forward t calls ⟨c, s.driver⟩

/-- How a request ends that makes the calls `es`. The cursor was `c`, and then it is `c'`. -/
inductive Ends (t : Live Statement) (request : Request) (s : Live QueryResult) (c : RowCursor)
    (es : List Exchange) (s' : Live QueryResult) (c' : RowCursor) : Prop
  /-- No call failed. What is read forward are the rows from the position on. -/
  | answered (undisturbed : lastFailure es = none)
    (run : request.run s =
      Action.ofExcept (request.answer (allRows t) ((allRows t).drop c.position)) s')
    (moved : ∀ r, request = .rows r → r.isForward = true → c'.position =
      c.position + (r.answer (allRows t) ((allRows t).drop c.position)).count)
  | failed (f : Fault) (caught : List ErrorClass) (disturbed : lastFailure es = some f)
    (mem : t.it.errorClass ∈ caught)
    (run : request.run s = Action.ofExcept (.error (Driver.handle caught f)) s')

section
variable {s : Live QueryResult} {c : RowCursor} {α : Type}

theorem onRows_eq (source : s.it.source = .attached c) (m : Action Failure (Live RowCursor) α) :
    onRows m s =
      match m ⟨c, s.driver⟩ with
      | .ok a u => .ok a ⟨{ s.it with source := .attached u.it }, u.driver⟩
      | .error e u => .error e ⟨{ s.it with source := .attached u.it }, u.driver⟩ := by
  rw [onRows, Action.bind_ok (Action.run_get s)]
  simp only [source, onCursor, Live.onPart, Action.within, RowSource.withRows]
  cases m ⟨c, s.driver⟩ <;> rfl

theorem onRows_map (source : s.it.source = .attached c) {β : Type} (g : α → β)
    (m : Action Failure (Live RowCursor) α) : (g <$> onRows m) s = onRows (g <$> m) s := by
  rw [Action.run_map, onRows_eq source, onRows_eq source, Action.run_map]
  cases m ⟨c, s.driver⟩ <;> rfl

theorem read_eq (source : s.it.source = .attached c) (request : RowCursor.Request) :
    read request s = onRows request.run s := by
  cases request <;> exact onRows_map source _ _

theorem item_eq (key : Value) :
    item key = onRows (RowCursor.get? (rowIndex key)) >>= fun row =>
      Action.ofExcept (choose key row) := by
  cases key <;>
  · refine bind_congr fun row => ?_
    cases row <;> rfl

end

section
variable {t : Live Statement} {calls : List Exchange} {s : Live QueryResult} {c : RowCursor}

theorem ReadsForward.history (h : ReadsForward t calls s c) :
    s.driver.history = t.driver.history ++ calls :=
  h.forward.ran.history

theorem onRows_reads {α : Type} {P : List Exchange → Live RowCursor → Prop}
    {m : Action Failure (Live RowCursor) α} {Q : α → Live RowCursor → Prop}
    (source : s.it.source = .attached c) (reads : Reads t P m calls ⟨c, s.driver⟩ Q) :
    ∃ es s' c', s'.it.source = .attached c' ∧ P (calls ++ es) ⟨c', s'.driver⟩ ∧
      ((lastFailure es = none ∧ ∃ a, onRows m s = .ok a s' ∧ Q a ⟨c', s'.driver⟩) ∨
        ∃ f caught, lastFailure es = some f ∧ t.it.errorClass ∈ caught ∧
          onRows m s = .error (Driver.handle caught f) s') := by
  obtain ⟨es, u, h, ends⟩ := reads
  refine ⟨es, ⟨{ s.it with source := .attached u.it }, u.driver⟩, u.it, rfl, h, ?_⟩
  rw [onRows_eq source]
  rcases ends with ⟨fine, a, run, q⟩ | ⟨f, caught, failed, mem, run⟩
  · exact .inl ⟨fine, a, by rw [run], q⟩
  · exact .inr ⟨f, caught, failed, mem, by rw [run]⟩

/-- What a row cursor is asked for rows, a result ends with as well; and so it does with what keys
stand for, if the rows that they lead to are found. -/
theorem run_reads {P : List Exchange → Live RowCursor → Prop} {left : List Row}
    {Moved : RowCursor.Request → Reading → Live RowCursor → Prop} (source : s.it.source = .attached c)
    (request : Request)
    (rows : ∀ r, request = .rows r → Reads t P r.run calls ⟨c, s.driver⟩ fun a u =>
      a = r.answer (allRows t) left ∧ Moved r a u)
    (found : ∀ key, request = .item key →
      Reads t P (RowCursor.get? (rowIndex key)) calls ⟨c, s.driver⟩ fun row _ =>
        row = RowCursor.rowAt (allRows t) (rowIndex key)) :
    ∃ es s' c', s'.it.source = .attached c' ∧ P (calls ++ es) ⟨c', s'.driver⟩ ∧
      ((lastFailure es = none ∧
          request.run s = Action.ofExcept (request.answer (allRows t) left) s' ∧
          ∀ r, request = .rows r → Moved r (r.answer (allRows t) left) ⟨c', s'.driver⟩) ∨
        ∃ f caught, lastFailure es = some f ∧ t.it.errorClass ∈ caught ∧
          request.run s = Action.ofExcept (.error (Driver.handle caught f)) s') := by
  cases request with
  | rows r =>
    obtain ⟨es, s', c', source', h', ends⟩ := onRows_reads source (rows r rfl)
    rw [← read_eq source] at ends
    refine ⟨es, s', c', source', h', ?_⟩
    rcases ends with ⟨fine, a, run, rfl, moved⟩ | ⟨f, caught, failed, mem, run⟩
    · refine .inl ⟨fine, Action.bind_ok run _, ?_⟩
      rintro _ ⟨⟩
      exact moved
    · exact .inr ⟨f, caught, failed, mem, Action.bind_error run _⟩
  | item key =>
    obtain ⟨es, s', c', source', h', ends⟩ := onRows_reads source (found key rfl)
    refine ⟨es, s', c', source', h', ?_⟩
    rcases ends with ⟨fine, row, run, rfl⟩ | ⟨f, caught, failed, mem, run⟩
    · refine .inl ⟨fine, ?_, fun r other => absurd other nofun⟩
      rw [Request.run, item_eq, Action.run_map, Action.bind_ok run, Request.answer]
      cases choose key (RowCursor.rowAt (allRows t) (rowIndex key)) <;> rfl
    · refine .inr ⟨f, caught, failed, mem, ?_⟩
      rw [Request.run, item_eq, Action.run_map, Action.bind_error run]
      rfl

/-- One request is answered or fails with a call, and the cursor reads forward from there. -/
theorem run_readsForward (brought : Brought t) (h : ReadsForward t calls s c) (request : Request) :
    ∃ es s' c', ReadsForward t (calls ++ es) s' c' ∧ Ends t request s c es s' c' := by
  obtain ⟨es, s', c', source', forward', ends⟩ := run_reads h.source request
    (fun r _ => RowCursor.run_forward brought r h.forward)
    (fun key _ => RowCursor.get?_forward brought h.forward (rowIndex key))
  refine ⟨es, s', c', ⟨source', forward'⟩, ?_⟩
  rcases ends with ⟨fine, run, moved⟩ | ⟨f, caught, failed, mem, run⟩
  · exact .answered fine run moved
  · exact .failed f caught failed mem run

theorem Ends.after {request : Request} {es : List Exchange} {s' : Live QueryResult}
    {c' : RowCursor} (h : Ends t request s c es s' c') : request.run.after s = s' := by
  cases h <;> exact Action.after_ofExcept ‹_›

theorem afterAll_readsForward (brought : Brought t) (r : QueryResult) {sequential : Bool}
    (forward : (RowCursor.ofStatement t sequential).sequential = true) (requests : List Request) :
    ∃ calls c, ReadsForward t calls
      (Action.afterAll Request.run ⟨r.attach t sequential, t.driver⟩ requests) c := by
  refine Action.afterAll_kept (P := fun s => ∃ calls c, ReadsForward t calls s c) ?_
    ⟨[], _, rfl, RowCursor.forward_start brought forward⟩ requests
  rintro request s ⟨calls, c, h⟩
  obtain ⟨es, s', c', h', ends⟩ := run_readsForward brought h request
  exact ⟨_, c', ends.after ▸ h'⟩

/-- The rows of a result that reads forward. Whatever was requested before, and whichever calls failed
meanwhile: the cursor's position is the number of rows that the driver handed out, these rows are
kept, and the driver is only asked for the next one, never after it came to the end. Of every request
the rows are right unless one of its own calls fails. -/
theorem rows_in_order (r : QueryResult) (brought : Brought t) (sequential : Bool)
    (forward : (RowCursor.ofStatement t sequential).sequential = true) (requests : List Request) :
    let s := Action.afterAll Request.run ⟨r.attach t sequential, t.driver⟩ requests
    ∃ calls c, ReadsForward t calls s c ∧
      ∀ request, ∃ es s' c', ReadsForward t (calls ++ es) s' c' ∧ Ends t request s c es s' c' := by
  intro s
  obtain ⟨calls, c, h⟩ := afterAll_readsForward brought r forward requests
  exact ⟨calls, c, h, run_readsForward brought h⟩

theorem rows_in_order_interrupted :
    let lost : Fault := ⟨.operational, some "lost"⟩
    let driver : Driver :=
      { features := { moduleName := "" }
        faults := fun o => if o = .fetchOne then [none, none, some lost] else [] }
    let cursor : Cursor :=
      { columns := some ["a", "b"]
        rows := [.tuple [.int 1, .null], .dict [(.text "a", .int 2)], .text "xy"] }
    let t : Live Statement := ⟨{ cursor, sql := "", errorClass := .driver }, driver⟩
    let s := Action.afterAll Request.run ⟨(ofTemplate "" []).attach t true, t.driver⟩
      [.rows (.fetchMany 5), .rows (.get 1)]
    ∃ calls c, ReadsForward t calls s c ∧ c.position = 2 ∧ calls.length = 3 ∧
      ∃ es s' c', ReadsForward t (calls ++ es) s' c' ∧ Ends t (.item (.text "b")) s c es s' c' := by
  intro lost driver cursor t s
  have brought : Brought t :=
    ⟨rfl, ⟨"a", ["b"], rfl⟩, by simp [t, cursor, Value.isRow], rfl⟩
  obtain ⟨calls, c, h, ends⟩ := rows_in_order (ofTemplate "" []) brought true rfl
    [.rows (.fetchMany 5), .rows (.get 1)]
  change ReadsForward t calls s c at h
  have position : s.it.source.rows?.map (·.position) = some 2 := by decide +kernel
  have made : s.driver.history.length = 3 := by decide +kernel
  rw [h.source] at position
  rw [h.history] at made
  exact ⟨calls, c, h, Option.some.inj position, made, ends _⟩

end

/-! ## Results without rows -/

inductive Access
  | fetchOne
  | fetchMany (size : Value)
  | fetchAll
  | walk
  | item (key : Value)
  | has (key : Value)

def Access.run : Access → ResultAction Unit
  | fetchOne => (fun _ => ()) <$> QueryResult.fetchOne
  | fetchMany size => (fun _ => ()) <$> QueryResult.fetchMany size
  | fetchAll => (fun _ => ()) <$> QueryResult.fetchAll
  | walk => (fun _ => ()) <$> next .fresh
  | item key => (fun _ => ()) <$> QueryResult.item key
  | has key => (fun _ => ()) <$> QueryResult.has key

section
variable {r : QueryResult}

theorem onRows_detached (detached : ∀ rows, r.source ≠ .attached rows) (d : Driver) {α : Type}
    (m : Action Failure (Live RowCursor) α) : onRows m ⟨r, d⟩ = .error r.noRows ⟨r, d⟩ := by
  rw [onRows, Action.bind_ok (Action.run_get _)]
  cases source : r.source with
  | attached rows => exact absurd source (detached rows)
  | absent | released => rfl

/-- A result that no rows belong to refuses every access, and asks the driver for nothing. -/
theorem access_detached (detached : ∀ rows, r.source ≠ .attached rows) (d : Driver)
    (access : Access) : access.run ⟨r, d⟩ = .error r.noRows ⟨r, d⟩ := by
  have item (key : Value) : QueryResult.item key ⟨r, d⟩ = .error r.noRows ⟨r, d⟩ := by
    rw [item_eq, Action.bind_error (onRows_detached detached d _)]
  cases access with
  | fetchOne | fetchAll => exact Action.bind_error (onRows_detached detached d _) _
  | fetchMany size =>
    have refused : QueryResult.fetchMany size ⟨r, d⟩ = .error r.noRows ⟨r, d⟩ := by
      rw [QueryResult.fetchMany, Action.bind_ok (Action.run_get _)]
      exact onRows_detached detached d _
    exact Action.bind_error refused _
  | walk =>
    have refused : next .fresh ⟨r, d⟩ = .error r.noRows ⟨r, d⟩ := by
      rw [next, Action.bind_ok (Action.run_get _)]
      cases source : r.source with
      | attached rows => exact absurd source (detached rows)
      | absent | released => rfl
    exact Action.bind_error refused _
  | item key => exact Action.bind_error (item key) _
  | has key =>
    have refused : QueryResult.has key ⟨r, d⟩ = .error r.noRows ⟨r, d⟩ := by
      refine (Action.recover_error (Action.bind_error (item key) _) _).trans ?_
      rw [noRows]
      cases r.exception <;> rfl
    exact Action.bind_error refused _

end

end SqlTemplate.QueryResult
