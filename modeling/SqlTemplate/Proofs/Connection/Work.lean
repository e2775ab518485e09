import SqlTemplate.Connection.Query
import SqlTemplate.Proofs.Connection.Report
import SqlTemplate.Proofs.Session

/-!
The work of a query: which calls it makes for the statement of its template, how far it comes with
them, what it makes of its result, and what it leaves alone.
-/
namespace SqlTemplate.QueryRun

open Driver (Ran)
open RowCount (Counts countingSql)
open Statement (Sends encodeFrom)

abbrev driver (r : QueryRun) : Driver :=
  r.client.outside.driver

/-- What a query leaves as it is, whatever becomes of it, until it reports its failure. -/
structure Stays (r r' : QueryRun) : Prop where
  settings : r'.client.connection.settings = r.client.connection.settings
  beforeHook : r'.client.connection.beforeHook = r.client.connection.beforeHook
  afterHook : r'.client.connection.afterHook = r.client.connection.afterHook
  caller : r'.client.outside.caller = r.client.outside.caller
  printed : r'.client.outside.printed = r.client.outside.printed
  files : r'.client.outside.files = r.client.outside.files
  parameters : r'.result.parameters = r.result.parameters

theorem Stays.refl (r : QueryRun) : Stays r r := by
  constructor <;> rfl

theorem Stays.trans {r r' r'' : QueryRun} (h : Stays r r') (h' : Stays r' r'') : Stays r r'' where
  settings := h'.settings.trans h.settings
  beforeHook := h'.beforeHook.trans h.beforeHook
  afterHook := h'.afterHook.trans h.afterHook
  caller := h'.caller.trans h.caller
  printed := h'.printed.trans h.printed
  files := h'.files.trans h.files
  parameters := h'.parameters.trans h.parameters

structure Keeps (r r' : QueryRun) : Prop extends Stays r r' where
  log : r'.client.connection.log = r.client.connection.log
  totalTime : r'.client.connection.totalTime = r.client.connection.totalTime
  sightings : r'.client.outside.sightings = r.client.outside.sightings
  parsed : r'.result.toParsedQuery = r.result.toParsedQuery
  exception : r'.result.exception = r.result.exception

theorem Keeps.refl (r : QueryRun) : Keeps r r where
  toStays := .refl r
  log := rfl
  totalTime := rfl
  sightings := rfl
  parsed := rfl
  exception := rfl

theorem Keeps.trans {r r' r'' : QueryRun} (h : Keeps r r') (h' : Keeps r' r'') : Keeps r r'' where
  toStays := h.toStays.trans h'.toStays
  log := h'.log.trans h.log
  totalTime := h'.totalTime.trans h.totalTime
  sightings := h'.sightings.trans h.sightings
  parsed := h'.parsed.trans h.parsed
  exception := h'.exception.trans h.exception

def putSession (r : QueryRun) (t : Live Session) : QueryRun :=
  { r with client.connection.session := some t.it, client.outside.driver := t.driver }

def putStatement (r : QueryRun) (t : Live Statement) : QueryRun :=
  { r with statement := some t.it, client.outside.driver := t.driver }

def putNotice (r : QueryRun) (n : Notice) : QueryRun :=
  { r with client.outside.notices := r.client.outside.notices ++ [n] }

theorem keeps_putSession (r : QueryRun) (t : Live Session) : Keeps r (r.putSession t) :=
  { Keeps.refl r with }

theorem keeps_putStatement (r : QueryRun) (t : Live Statement) : Keeps r (r.putStatement t) :=
  { Keeps.refl r with }

theorem keeps_putNotice (r : QueryRun) (n : Notice) : Keeps r (r.putNotice n) :=
  { Keeps.refl r with }

theorem notify_eq (n : Notice) (r : QueryRun) : notify n r = .ok () (r.putNotice n) := rfl

section
variable {r : QueryRun} {α : Type}

theorem onSession_eq {session : Session} (h : r.client.connection.session = some session)
    (m : Action Failure (Live Session) α) :
    onClient (Client.onSession m) r =
      match m ⟨session, r.driver⟩ with
      | .ok a t => .ok a (r.putSession t)
      | .error e t => .error e (r.putSession t) := by
  simp only [onClient, Action.within, Client.onSession, Action.run_bind, Action.run_get, h,
    QueryRun.driver]
  cases m ⟨session, r.client.outside.driver⟩ <;> rfl

theorem onStatement_eq (t : Statement) (m : Action Failure (Live Statement) α) :
    onStatement t m r =
      match m ⟨t, r.driver⟩ with
      | .ok a u => .ok a (r.putStatement u)
      | .error e u => .error e (r.putStatement u) := by
  simp only [onStatement, Action.within, QueryRun.driver]
  cases m ⟨t, r.client.outside.driver⟩ <;> rfl

theorem withStatement_eq {t : Statement} (h : r.statement = some t)
    (m : Action Failure (Live Statement) Unit) : withStatement m r = onStatement t m r := by
  simp only [withStatement, Action.run_bind, Action.run_get, h]

theorem withStatement_none (h : r.statement = none) (m : Action Failure (Live Statement) Unit) :
    withStatement m r = .ok () r := by
  simp only [withStatement, Action.run_bind, Action.run_get, h]
  rfl

end

/-- A part of the work of a query, with the calls that it makes: it leaves the session, the result
and the count of queries alone. -/
structure Sent (r : QueryRun) (es : List Exchange) (r' : QueryRun) : Prop extends Keeps r r' where
  ran : Ran r.driver es r'.driver
  session : r'.client.connection.session = r.client.connection.session
  result : r'.result = r.result
  queryCount : r'.client.connection.queryCount = r.client.connection.queryCount

theorem Sent.refl (r : QueryRun) : Sent r [] r where
  toKeeps := .refl r
  ran := .refl _
  session := rfl
  result := rfl
  queryCount := rfl

theorem Sent.trans {r r' r'' : QueryRun} {es es' : List Exchange} (h : Sent r es r')
    (h' : Sent r' es' r'') : Sent r (es ++ es') r'' where
  toKeeps := h.toKeeps.trans h'.toKeeps
  ran := h.ran.trans h'.ran
  session := h'.session.trans h.session
  result := h'.result.trans h.result
  queryCount := h'.queryCount.trans h.queryCount

theorem sent_putNotice (r : QueryRun) (n : Notice) : Sent r [] (r.putNotice n) where
  toKeeps := keeps_putNotice r n
  ran := .refl _
  session := rfl
  result := rfl
  queryCount := rfl

theorem sent_putStatement {r : QueryRun} {t : Live Statement} {es : List Exchange}
    (ran : Ran r.driver es t.driver) : Sent r es (r.putStatement t) where
  toKeeps := keeps_putStatement r t
  ran := ran
  session := rfl
  result := rfl
  queryCount := rfl

theorem sent_putSession {r : QueryRun} {s : Session} {d : Driver} {es : List Exchange}
    (connected : r.client.connection.session = some s) (ran : Ran r.driver es d) :
    Sent r es (r.putSession ⟨s, d⟩) where
  toKeeps := keeps_putSession r ⟨s, d⟩
  ran := ran
  session := connected.symm
  result := rfl
  queryCount := rfl

/-! ## The work of a query -/

/-- Why the rows of a statement stay uncounted, where it is no error of this library: what the
driver answers cannot be read, or it fails in a way that is not its own. -/
inductive Uncounted (c : ErrorClass) (es : List Exchange) : Failure → Prop
  | unread (e : ConversionError) : Uncounted c es (.conversion e)
  | unmapped (e : OperandError) : Uncounted c es (.operand e)
  | foreign {e : Failure} (met : Driver.Handled c es e) (other : ∀ x, e ≠ .driver x) :
    Uncounted c es e

/-- How far a query comes with the statement of its template: the calls it makes, the first of them
for cursor `n`, how it ends, and the statement that it still has to give back. -/
inductive Work (n : Nat) (session : Option Session) (q : ParsedQuery) :
    List Exchange → Except Failure Unit → Option Statement → Prop
  | notOpen (absent : session = none) : Work n session q [] (.error (.driver ⟨.notOpen, none⟩)) none
  | closed {s : Session} (connected : session = some s) (closed : s.closed = true) :
    Work n session q [] (.error (.driver ⟨.connectionClosed, none⟩)) none
  | noCursor {s : Session} (connected : session = some s) (isOpen : s.closed = false) (f : Fault) :
    Work n session q [⟨.cursor n, some f⟩] (.error (Driver.handle [s.errorClass] f)) none
  | unbound {s : Session} {t : Statement} {e : Failure} (connected : session = some s)
      (isOpen : s.closed = false) (tOpen : t.closed = false) (number : t.cursor.number = n)
      (errorClass : t.errorClass = s.errorClass) (refused : encodeFrom 1 q.parameters = .error e) :
    Work n session q [⟨.cursor n, none⟩] (.error e) (some t)
  | failed {s : Session} {t : Statement} {xs : List (Value × Value)} {sized : Bool}
      {es : List Exchange} {f : Fault} (connected : session = some s) (isOpen : s.closed = false)
      (tOpen : t.closed = false) (number : t.cursor.number = n)
      (errorClass : t.errorClass = s.errorClass) (bound : encodeFrom 1 q.parameters = .ok xs)
      (sends : Sends n q.sql xs sized es) (failure : lastFailure es = some f) :
    Work n session q (⟨.cursor n, none⟩ :: es)
      (.error (Driver.handle (s.errorClass :: Statement.executionErrors) f)) (some t)
  | done {s : Session} {xs : List (Value × Value)} {sized : Bool} {es es' : List Exchange}
      {outcome : Except Failure Unit} (connected : session = some s) (isOpen : s.closed = false)
      (bound : encodeFrom 1 q.parameters = .ok xs) (sends : Sends n q.sql xs sized es)
      (succeeds : lastFailure es = none)
      (counts : es' = [] ∧ outcome = .ok () ∨ Counts (n + 1) (countingSql q.sql) xs sized es')
      (ends : ∀ e, outcome = .error e → Uncounted s.errorClass es' e) :
    Work n session q (⟨.cursor n, none⟩ :: (es ++ es')) outcome none

theorem Uncounted.foreign_of {c : ErrorClass} {es : List Exchange} {e : Failure}
    (h : Uncounted c es e) : ∀ x, e ≠ .driver x := by
  cases h with
  | unread e => simp
  | unmapped e => simp
  | foreign _ other => exact other

structure Received (t : Statement) (r r' : QueryRun) : Prop where
  attached : ∃ rows : RowCursor, r'.result.source = .attached rows ∧ rows.statement = t
  counted : r'.client.connection.queryCount = r.client.connection.queryCount + 1

/-- What the work of a query makes of its result and of the count of queries, by how it ends. An error
of this library comes before anything of that kind. -/
inductive Yields (n : Nat) (r r' : QueryRun) : Except Failure Unit → Prop
  | received {t : Statement} (isOpen : t.closed = false) (number : t.cursor.number = n)
      (received : Received t r r') : Yields n r r' (.ok ())
  | refused {e : DriverError} (result : r'.result = r.result)
      (uncounted : r'.client.connection.queryCount = r.client.connection.queryCount) :
    Yields n r r' (.error (.driver e))
  | broken {e : Failure} (other : ∀ x, e ≠ .driver x) : Yields n r r' (.error e)

theorem Sent.yields {r r' : QueryRun} {es : List Exchange} (h : Sent r es r') (n : Nat)
    (e : Failure) : Yields n r r' (.error e) := by
  cases e with
  | driver e => exact .refused h.result h.queryCount
  | _ => exact .broken (by simp)

def ofCount : Except Failure (Option Row) → Except Failure Int
  | .ok row => (RowCount.ofRow row).mapError .conversion
  | .error (.driver _) => .ok (-1)
  | .error e => .error e

/-- The number of the rows of a statement of which the driver told `rows`, and the calls that it
takes to find it out: they are for the cursor `n`, and what they execute is answered with `reply`. -/
inductive Numbers (c : ErrorClass) (n : Nat) (f : Features) (reply : Reply) (sql : String)
    (xs : List (Value × Value)) (rows : Int) : List Exchange → Except Failure Int → Prop
  | told (known : 0 ≤ rows ∨ RowCount.selects sql = false) :
    Numbers c n f reply sql xs rows [] (.ok rows)
  | counted {es : List Exchange} {row : Except Failure (Option Row)} (untold : rows < 0)
      (selects : RowCount.selects sql = true)
      (counts : Counts n (countingSql sql) xs (f.hasSetInputSizes && !xs.isEmpty) es)
      (brings : RowCount.Brings c f reply es row) :
    Numbers c n f reply sql xs rows es (ofCount row)

section
variable {c : ErrorClass} {n : Nat} {f : Features} {reply : Reply} {sql : String}
  {xs : List (Value × Value)} {rows : Int} {es : List Exchange} {number : Except Failure Int}

theorem Numbers.calls (h : Numbers c n f reply sql xs rows es number) :
    es = [] ∧ number = .ok rows ∨
      Counts n (countingSql sql) xs (f.hasSetInputSizes && !xs.isEmpty) es := by
  cases h with
  | told => exact .inl ⟨rfl, rfl⟩
  | counted _ _ counts => exact .inr counts

/-- Counting rows never fails with an error of this library. -/
theorem Numbers.uncounted {e : Failure} (h : Numbers c n f reply sql xs rows es number)
    (failed : number = .error e) : Uncounted c es e := by
  cases h with
  | told => contradiction
  | @counted es row _ _ _ brings =>
    cases row with
    | ok row =>
      cases read : RowCount.ofRow row with
      | ok count =>
        rw [ofCount, read] at failed
        contradiction
      | error k =>
        rw [ofCount, read] at failed
        exact Except.error.inj failed ▸ .unread k
    | error e' =>
      by_cases reported : ∃ x, e' = .driver x
      · obtain ⟨x, rfl⟩ := reported
        contradiction
      have other : ∀ x, e' ≠ .driver x := fun x same => reported ⟨x, same⟩
      have same : e' = e := by
        cases e' <;> first | exact Except.error.inj failed | exact absurd rfl (other _)
      subst same
      rcases brings.error rfl with met | rfl | ⟨typeName, rfl⟩
      · exact .foreign met other
      · exact absurd rfl (other _)
      · exact .unmapped _

end

/-- An error of this library that counting rows comes to is only taken note of. -/
theorem countRows_cases {r : QueryRun} {s : Session} {xs : List (Value × Value)}
    (connected : r.client.connection.session = some s) (isOpen : s.closed = false)
    (bound : encodeFrom 1 r.result.parameters = .ok xs) (rows : Int) :
    ∃ es number r', Sent r es r' ∧
      Numbers s.errorClass r.driver.cursors r.driver.features (r.driver.reply 0) r.result.sql xs rows
        es number ∧
      r'.statement = r.statement ∧ countRows rows r = Action.ofExcept number r' := by
  rw [countRows, Action.bind_ok (Action.run_get r)]
  by_cases known : 0 ≤ rows ∨ !RowCount.selects r.result.sql
  · refine ⟨[], .ok rows, r, .refl r, .told (by simpa using known), rfl, ?_⟩
    simp only [if_pos known]
    rfl
  · obtain ⟨es, d, row, ran, counts, counted, brings⟩ :=
      RowCount.countingRow_cases (d := r.driver) isOpen r.result.sql bound
    have numbers : Numbers s.errorClass r.driver.cursors r.driver.features (r.driver.reply 0)
        r.result.sql xs rows es (ofCount row) := by
      rw [not_or, Int.not_le, Bool.not_eq_true', Bool.not_eq_false] at known
      exact .counted known.1 known.2 counts brings
    simp only [if_neg known]
    have asked := onSession_eq connected (RowCount.countingRow r.result.sql r.result.parameters)
    rw [counted] at asked
    have sent := sent_putSession connected ran
    cases row with
    | ok row =>
      exact ⟨es, _, r.putSession ⟨s, d⟩, sent, numbers, rfl,
        Action.bind_ok (Action.recover_ok asked _) _⟩
    | error e =>
      by_cases reported : ∃ x, e = .driver x
      · obtain ⟨x, rfl⟩ := reported
        have noted := sent.trans (sent_putNotice _ (.countFailed r.result.sql x))
        rw [List.append_nil] at noted
        refine ⟨es, _, (r.putSession ⟨s, d⟩).putNotice (.countFailed r.result.sql x), noted, numbers,
          rfl, ?_⟩
        refine Action.bind_ok (a := none) (t := (r.putSession ⟨s, d⟩).putNotice _)
          ((Action.recover_error asked _).trans ?_) _
        exact Action.bind_ok (notify_eq _ _) _
      · have other : ∀ x, e ≠ .driver x := fun x eq => reported ⟨x, eq⟩
        have same : ofCount (.error e) = .error e := by
          cases e <;> first | rfl | exact absurd rfl (other _)
        refine ⟨es, .error e, r.putSession ⟨s, d⟩, sent, same ▸ numbers, rfl, ?_⟩
        refine Action.bind_error ((Action.recover_error asked _).trans ?_) _
        cases e <;> first | rfl | exact absurd rfl (other _)

theorem attach_eq {r : QueryRun} {t : Statement} (h : r.statement = some t) (sequential : Bool) :
    attach sequential r =
      .ok () { r with result := r.result.attach ⟨t, r.driver⟩ sequential, statement := none } := by
  rw [attach, Action.run_modify, h]

/-- What an executed statement brings back is received, unless its rows cannot be numbered. -/
theorem receive_cases {r : QueryRun} {s : Session} {t : Statement} {xs : List (Value × Value)}
    (connected : r.client.connection.session = some s) (isOpen : s.closed = false)
    (executed : r.statement = some t) (bound : encodeFrom 1 r.result.parameters = .ok xs)
    (sequential : Bool) :
    ∃ es number r', Ran r.driver es r'.driver ∧
      Numbers s.errorClass r.driver.cursors r.driver.features (r.driver.reply 0) r.result.sql xs
        (Statement.rowCount ⟨t, r.driver⟩) es number ∧
      Keeps r r' ∧ r'.statement = none ∧
      (∀ k, number = .ok k → Received t r r' ∧ r'.result.numberOfRows = some k) ∧
      (∀ e, number = .error e →
        r'.client.connection.queryCount = r.client.connection.queryCount) ∧
      r'.client.connection.session = some (s.noted (Statement.lastRowId ⟨t, r.driver⟩)) ∧
      (∀ k, number = .ok k →
        r'.result.insertId = (s.noted (Statement.lastRowId ⟨t, r.driver⟩)).lastInsertId) ∧
      receive sequential r = Action.ofExcept (number.map fun _ => ()) r' := by
  let s' := s.noted (Statement.lastRowId ⟨t, r.driver⟩)
  have noted := onSession_eq connected (Session.noteInsertId (Statement.lastRowId ⟨t, r.driver⟩))
  rw [Session.noteInsertId_eq] at noted
  have attached := attach_eq (r := r.putSession ⟨s', r.driver⟩) executed sequential
  obtain ⟨es, number, r', sent, numbers, none, counted⟩ :=
    countRows_cases (r := { r.putSession ⟨s', r.driver⟩ with
        result := r.result.attach ⟨t, r.driver⟩ sequential
        statement := none })
      (s := s') rfl isOpen bound (Statement.rowCount ⟨t, r.driver⟩)
  have kept : Keeps r r' := by
    refine (keeps_putSession r ⟨s', r.driver⟩).trans (Keeps.trans ?_ sent.toKeeps)
    exact { Keeps.refl (r.putSession ⟨s', r.driver⟩) with }
  rw [receive, Action.bind_ok (Action.run_get r), executed]
  simp only
  rw [Action.bind_ok (Action.run_get r), Action.bind_ok noted, Action.bind_ok attached]
  cases number with
  | ok count =>
    refine ⟨es, .ok count, { r' with
        result.numberOfRows := some count
        result.insertId := (r'.client.connection.session.map (·.lastInsertId)).getD .null
        client.connection.queryCount := r'.client.connection.queryCount + 1 },
      sent.ran, numbers, kept.trans { Keeps.refl r' with }, none, ?_, ?_, sent.session, ?_,
      Action.bind_ok counted _⟩
    · intro k same
      refine ⟨⟨⟨RowCursor.ofStatement ⟨t, r.driver⟩ sequential, ?_, rfl⟩, ?_⟩, ?_⟩
      · exact congrArg QueryResult.source sent.result
      · exact congrArg (· + 1) sent.queryCount
      · exact congrArg some (Except.ok.inj same)
    · intro e failed
      contradiction
    · intro _ _
      exact congrArg (fun session => (session.map Session.lastInsertId).getD .null) sent.session
  | error e =>
    refine ⟨es, .error e, r', sent.ran, numbers, kept, none, ?_, fun _ _ => sent.queryCount,
      sent.session, ?_, Action.bind_error counted _⟩ <;>
    · intro k same
      contradiction

section
variable {r : QueryRun} {s : Session} {t : Statement}

theorem prepare_cases (connected : r.client.connection.session = some s)
    (isOpen : s.closed = false) {n : Nat} (number : r.driver.cursors = n) (sql : String) :
    (∃ r', Sent r [⟨.cursor n, none⟩] r' ∧ r'.statement = r.statement ∧
      (∀ i, r'.driver.reply i = r.driver.reply i) ∧
      onClient (Client.onSession (Session.prepare sql)) r =
        .ok { cursor := { number := n }, sql, errorClass := s.errorClass } r') ∨
    ∃ f r', Sent r [⟨.cursor n, some f⟩] r' ∧ r'.statement = r.statement ∧
      onClient (Client.onSession (Session.prepare sql)) r =
        .error (Driver.handle [s.errorClass] f) r' := by
  subst number
  rw [onSession_eq connected]
  rcases Session.prepare_cases (d := r.driver) isOpen sql with ⟨d, ran, run⟩ | ⟨f, d, ran, run⟩
  · have replies := Session.reply_prepare run
    rw [run]
    exact .inl ⟨_, sent_putSession connected ran, rfl, replies, rfl⟩
  · rw [run]
    exact .inr ⟨f, _, sent_putSession connected ran, rfl, rfl⟩

/-- The parameters of a statement are bound without a call. -/
theorem bindAll_cases (fresh : t.closed = false ∧ t.values = [] ∧ t.sizes = [])
    (ps : List BoundParameter) :
    ∃ xs r', Sent r [] r' ∧ r'.driver = r.driver ∧ r'.statement = some (t.withBound xs) ∧
      ((encodeFrom 1 ps = .ok xs ∧ onStatement t (Statement.bindAll ps) r = .ok () r') ∨
      ∃ e, encodeFrom 1 ps = .error e ∧ onStatement t (Statement.bindAll ps) r = .error e r') := by
  have bound := Statement.bindAll_eq (d := r.driver) fresh.1 fresh.2.1 fresh.2.2 ps
  rw [onStatement_eq]
  cases encoded : encodeFrom 1 ps with
  | ok xs =>
    rw [encoded] at bound
    rw [bound]
    exact ⟨xs, _, sent_putStatement (.refl _), rfl, rfl, .inl ⟨rfl, rfl⟩⟩
  | error e =>
    rw [encoded] at bound
    obtain ⟨xs, bound⟩ := bound
    rw [bound]
    exact ⟨xs, _, sent_putStatement (.refl _), rfl, rfl, .inr ⟨e, rfl, rfl⟩⟩

theorem executeStatement_cases {xs : List (Value × Value)} (isOpen : t.closed = false)
    (bound : r.statement = some (t.withBound xs)) :
    ∃ es c r', Sent r es r' ∧
      Sends t.cursor.number t.sql xs (r.driver.features.hasSetInputSizes && !xs.isEmpty) es ∧
      c.number = t.cursor.number ∧ r'.statement = some ({ t with cursor := c }.withBound xs) ∧
      (lastFailure es = none → c = t.cursor.withReply (r.driver.reply 0) ∧
        ∀ i, r'.driver.reply i = r.driver.reply (i + 1)) ∧
      withStatement Statement.execute r = Action.ended
        ((lastFailure es).map (Driver.handle (t.errorClass :: Statement.executionErrors))) r' := by
  obtain ⟨es, c, d, ran, sends, same, run⟩ :=
    Statement.execute_withBound (d := r.driver) isOpen xs
  refine ⟨es, c, _, sent_putStatement (t := ⟨{ t with cursor := c }.withBound xs, d⟩) ran, sends,
    same, rfl, ?_, ?_⟩
  · intro succeeds
    rw [succeeds] at run
    exact Statement.execute_ok (s := t.withBound xs) isOpen run
  · rw [withStatement_eq bound, onStatement_eq, run]
    cases lastFailure es <;> rfl

end

/-- Sending a statement comes to a point where the work of the query ends, or the statement was
executed with all its parameters. -/
theorem send_cases {r : QueryRun} {s : Session} (connected : r.client.connection.session = some s)
    (isOpen : s.closed = false) (fresh : r.statement = none) :
    (∃ es e r', Sent r es r' ∧ send r.result r = .error e r' ∧
      (∀ sql values, ⟨.execute r.driver.cursors sql values, none⟩ ∉ es) ∧
      Work r.driver.cursors (some s) r.result.toParsedQuery es (.error e) r'.statement) ∨
    ∃ xs es t r', Sent r (⟨.cursor r.driver.cursors, none⟩ :: es) r' ∧
      encodeFrom 1 r.result.parameters = .ok xs ∧
      Sends r.driver.cursors r.result.sql xs
        (r.driver.features.hasSetInputSizes && !xs.isEmpty) es ∧
      lastFailure es = none ∧ t.closed = false ∧
      t.cursor = Cursor.withReply { number := r.driver.cursors } (r.driver.reply 0) ∧
      (∀ i, r'.driver.reply i = r.driver.reply (i + 1)) ∧
      r'.statement = some t ∧ send r.result r = .ok () r' := by
  have noted := sent_putNotice r (.executing r.result.sql r.result.parameters.length)
  rw [send, Action.bind_ok (notify_eq _ r)]
  rcases prepare_cases (n := r.driver.cursors) (noted.session.trans connected) isOpen rfl
      r.result.sql with
    ⟨r₁, asked, statement, replies, prepared⟩ | ⟨f, r₁, asked, statement, prepared⟩
  case inr =>
    refine .inl ⟨_, _, r₁, noted.trans asked, Action.bind_error prepared _, by simp, ?_⟩
    rw [statement.trans fresh]
    exact .noCursor rfl isOpen f
  case inl =>
    let t : Statement :=
      { cursor := { number := r.driver.cursors }, sql := r.result.sql, errorClass := s.errorClass }
    rw [Action.bind_ok prepared]
    obtain ⟨xs, r₂, bound, still, statement, ⟨encoded, run⟩ | ⟨e, refused, run⟩⟩ :=
      bindAll_cases (r := r₁) (t := t) ⟨rfl, rfl, rfl⟩ r.result.parameters
    rw [← still] at replies
    case inr =>
      refine .inl ⟨_, e, r₂, (noted.trans asked).trans bound, Action.bind_error run _, by simp, ?_⟩
      rw [statement]
      exact .unbound rfl isOpen rfl rfl rfl refused
    case inl =>
      rw [Action.bind_ok run]
      have sofar := (noted.trans asked).trans bound
      obtain ⟨es, c, r₃, sent, sends, same, statement, replied, executed⟩ :=
        executeStatement_cases (t := t) rfl statement
      rw [sofar.ran.features] at sends
      rw [executed]
      cases failure : lastFailure es with
      | none =>
        obtain ⟨cursor, replies'⟩ := replied failure
        rw [replies] at cursor
        exact .inr ⟨xs, es, _, r₃, sofar.trans sent, encoded, sends, failure, rfl, cursor,
          fun i => (replies' i).trans (replies (i + 1)), statement, rfl⟩
      | some f =>
        refine .inl ⟨_, _, r₃, sofar.trans sent, rfl, ?_, ?_⟩
        · intro sql values mem
          have unsent := sends.executed_none failure sql values
          exact unsent (by simpa using mem)
        · rw [statement]
          exact .failed rfl isOpen rfl same rfl encoded sends failure

/-- The statement of a query is executed with the values `xs`, by the calls `es`. The calls `es'` then
find out how many rows there are, if that can be read as a number. -/
structure Carried (r : QueryRun) (s : Session) (xs : List (Value × Value)) (es es' : List Exchange)
    (number : Except Failure Int) (r' : QueryRun) : Prop where
  bound : encodeFrom 1 r.result.parameters = .ok xs
  sends : Sends r.driver.cursors r.result.sql xs
    (r.driver.features.hasSetInputSizes && !xs.isEmpty) es
  succeeds : lastFailure es = none
  numbers : Numbers s.errorClass (r.driver.cursors + 1) r.driver.features (r.driver.reply 1)
    r.result.sql xs (Statement.toldRows r.driver.features (r.driver.reply 0)) es' number
  ran : Ran r.driver (⟨.cursor r.driver.cursors, none⟩ :: (es ++ es')) r'.driver
  keeps : Keeps r r'
  statement : r'.statement = none
  received (k : Int) : number = .ok k → r'.result.numberOfRows = some k ∧
    ∃ t : Statement, t.closed = false ∧ t.cursor.number = r.driver.cursors ∧ Received t r r'
  uncounted (e : Failure) : number = .error e →
    r'.client.connection.queryCount = r.client.connection.queryCount
  session : r'.client.connection.session =
    some (s.noted (Statement.toldId r.driver.features (r.driver.reply 0)))
  insertId (k : Int) : number = .ok k → r'.result.insertId =
    (s.noted (Statement.toldId r.driver.features (r.driver.reply 0))).lastInsertId

/-- A query of an open session comes to a point where its work ends, or its statement is executed. -/
theorem execute_cases {r : QueryRun} {s : Session} (connected : r.client.connection.session = some s)
    (isOpen : s.closed = false) (fresh : r.statement = none) :
    (∃ es e r', Sent r es r' ∧ execute r = .error e r' ∧
      (∀ sql values, ⟨.execute r.driver.cursors sql values, none⟩ ∉ es) ∧
      Work r.driver.cursors (some s) r.result.toParsedQuery es (.error e) r'.statement) ∨
    ∃ xs es es' number r', Carried r s xs es es' number r' ∧
      execute r = Action.ofExcept (number.map fun _ => ()) r' := by
  rw [execute, Action.bind_ok (Action.run_get r), connected]
  simp only
  rw [Action.bind_ok (Action.run_get r)]
  rcases send_cases connected isOpen fresh with
    ⟨es, e, r', sent, run, unsent, work⟩ |
      ⟨xs, es, t, r', sent, encoded, sends, succeeds, tOpen, cursor, replies, executed, run⟩
  · exact .inl ⟨es, e, r', sent, Action.bind_error run _, unsent, work⟩
  · obtain ⟨es', number, r'', ran, numbers, keeps, none, gained, same, session, insertId,
        received⟩ :=
      receive_cases (sent.session.trans connected) isOpen executed
        (sent.result ▸ encoded) s.isSequential
    have cursors : r'.driver.cursors = r.driver.cursors + 1 := by
      rw [sent.ran.cursors, List.countP_cons, sends.countP_handsOut]
      rfl
    rw [Statement.rowCount_withReply cursor, cursors, sent.ran.features, sent.result,
      replies 0] at numbers
    rw [Statement.lastRowId_withReply cursor, sent.ran.features] at session insertId
    refine .inr ⟨xs, es, es', number, r'', ?_, (Action.bind_ok run _).trans received⟩
    exact {
      bound := encoded
      sends := sends
      succeeds := succeeds
      numbers := numbers
      ran := sent.ran.trans ran
      keeps := sent.toKeeps.trans keeps
      statement := none
      received := fun k counted => by
        obtain ⟨⟨attached, more⟩, rows⟩ := gained k counted
        rw [sent.queryCount] at more
        exact ⟨rows, t, tOpen, cursor ▸ rfl, attached, more⟩
      uncounted := fun e failed => (same e failed).trans sent.queryCount
      session := session
      insertId := insertId }

section
variable {r r' : QueryRun} {s : Session} {xs : List (Value × Value)} {es es' : List Exchange}
  {number : Except Failure Int}

theorem Carried.work (h : Carried r s xs es es' number r') (isOpen : s.closed = false) :
    Work r.driver.cursors (some s) r.result.toParsedQuery
      (⟨.cursor r.driver.cursors, none⟩ :: (es ++ es')) (number.map fun _ => ()) none := by
  apply Work.done rfl isOpen h.bound h.sends h.succeeds
  · refine h.numbers.calls.imp_left ?_
    rintro ⟨rfl, rfl⟩
    exact ⟨rfl, rfl⟩
  · intro e failed
    cases number with
    | ok k => contradiction
    | error e' => exact h.numbers.uncounted (congrArg Except.error (Except.error.inj failed))

theorem Carried.yields (h : Carried r s xs es es' number r') :
    Yields r.driver.cursors r r' (number.map fun _ => ()) := by
  cases number with
  | ok k =>
    obtain ⟨_, t, tOpen, same, received⟩ := h.received k rfl
    exact .received tOpen same received
  | error e => exact .broken (h.numbers.uncounted rfl).foreign_of

end

theorem execute_absent {r : QueryRun} (absent : r.client.connection.session = none) :
    execute r = .error (.driver ⟨.notOpen, none⟩) r := by
  rw [execute, Action.bind_ok (Action.run_get r), absent]
  rfl

theorem execute_closed {r : QueryRun} {s : Session}
    (connected : r.client.connection.session = some s) (closed : s.closed = true) :
    ∃ r', Sent r [] r' ∧ r'.statement = r.statement ∧
      execute r = .error (.driver ⟨.connectionClosed, none⟩) r' := by
  have noted := sent_putNotice r (.executing r.result.sql r.result.parameters.length)
  have asked := onSession_eq (noted.session.trans connected) (Session.prepare r.result.sql)
  rw [Session.prepare_closed closed] at asked
  have sent := noted.trans (sent_putSession (noted.session.trans connected) (.refl _))
  refine ⟨_, sent, rfl, ?_⟩
  rw [execute, Action.bind_ok (Action.run_get r), connected]
  simp only
  rw [Action.bind_ok (Action.run_get r)]
  exact Action.bind_error ((Action.bind_ok (notify_eq _ r) _).trans (Action.bind_error asked _)) _

/-- A query comes so far, and does nothing else than it says there. -/
theorem execute_work {r : QueryRun} (fresh : r.statement = none) :
    ∃ es outcome r', Ran r.driver es r'.driver ∧ Keeps r r' ∧
      Work r.driver.cursors r.client.connection.session r.result.toParsedQuery es outcome
        r'.statement ∧
      Yields r.driver.cursors r r' outcome ∧ execute r = Action.ofExcept outcome r' := by
  cases connected : r.client.connection.session with
  | none =>
    refine ⟨[], .error _, r, .refl _, .refl r, ?_, .refused rfl rfl, execute_absent connected⟩
    rw [fresh]
    exact .notOpen rfl
  | some s =>
    cases isOpen : s.closed with
    | true =>
      obtain ⟨r', sent, statement, run⟩ := execute_closed connected isOpen
      refine ⟨[], .error _, r', sent.ran, sent.toKeeps, ?_, sent.yields _ _, run⟩
      rw [statement, fresh]
      exact .closed rfl isOpen
    | false =>
      rcases execute_cases connected isOpen fresh with
        ⟨es, e, r', sent, run, _, work⟩ | ⟨xs, es, es', number, r', carried, run⟩
      · exact ⟨es, .error e, r', sent.ran, sent.toKeeps, work, sent.yields _ e, run⟩
      · refine ⟨_, _, r', carried.ran, carried.keeps, ?_, carried.yields, run⟩
        rw [carried.statement]
        exact carried.work isOpen

end SqlTemplate.QueryRun
