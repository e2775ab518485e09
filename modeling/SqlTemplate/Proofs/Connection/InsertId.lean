import SqlTemplate.Proofs.Connection.RowNumber

/-!
The insert id of a session. Each statement that a query executes tells one, and the last one that
counts as given is what results show from then on. Nothing else is heard: not the statements that
count rows, those that begin transactions, or those that fail.
-/
namespace SqlTemplate

open Driver (Ran)

def executedOn (n : Nat) (es : List Exchange) : Bool :=
  es.any fun x =>
    match x.call with
    | .execute k _ _ => k == n && x.failure.isNone
    | _ => false

section
variable {n : Nat} {es : List Exchange}

theorem executedOn_iff : executedOn n es = true ↔ ∃ sql, Executed n sql es := by
  rw [executedOn, List.any_eq_true]
  constructor
  · rintro ⟨⟨call, failure⟩, mem, same⟩
    cases call with
    | execute k sql values =>
      rw [Bool.and_eq_true, beq_iff_eq, Option.isNone_iff_eq_none] at same
      obtain ⟨rfl, rfl⟩ := same
      exact ⟨sql, values, mem⟩
    | _ => contradiction
  · rintro ⟨sql, values, mem⟩
    exact ⟨_, mem, by simp⟩

theorem executedOn_eq_false (unsent : ∀ sql, ¬ Executed n sql es) : executedOn n es = false := by
  rw [← Bool.not_eq_true, executedOn_iff]
  exact fun ⟨sql, executed⟩ => unsent sql executed

end

namespace QueryRun

section
variable {r r' : QueryRun} {es : List Exchange} {outcome : Except Failure Unit}

/-- Once a query was attempted, neither the hooks nor what is logged and reported changes what its
session and its result hold, but for the success, which is that no failure was recorded. -/
theorem run_of_attempt
    (before : ∀ h f, r.client.connection.beforeHook = some h → h.action ≠ .fail f)
    (attempted : attempt r.clock (r.hooked .before r.client.connection.beforeHook) =
      Action.ofExcept outcome r')
    (ran : Ran r.driver es r'.driver)
    (same : r'.client.connection.afterHook = r.client.connection.afterHook) :
    Ran r.driver es (run.after r).driver ∧
      (run.after r).client.connection.session = r'.client.connection.session ∧
      ∀ u, run r = .ok () u → outcome = .ok () ∧
        u.result.success = r'.result.exception.isNone ∧
        u.result.insertId = r'.result.insertId := by
  by_cases fails : ∃ h f, r.client.connection.afterHook = some h ∧ h.action = .fail f
  · obtain ⟨h, f, hook, action⟩ := fails
    have ended := run_interrupted before attempted (same.trans hook) action
    have quiet := ran.trans (ran_shown .after (some h) r')
    rw [List.append_nil] at quiet
    have last : QueryRun.run.after r = r'.shown .after (some h) := by rw [Action.after, ended]
    rw [last, ended]
    refine ⟨quiet, rfl, fun u run => ?_⟩
    contradiction
  · have after : ∀ h f, r.client.connection.afterHook = some h → h.action ≠ .fail f :=
      fun h f set action => fails ⟨h, f, set, action⟩
    have ended := run_calm before after attempted same
    obtain ⟨driver, finished, failed⟩ := run_concluded ended
    have quiet := ran.trans (ran_hooked .after r.client.connection.afterHook r')
    rw [List.append_nil, ← driver] at quiet
    have session := congrArg Connection.session
      (hooked_connection .after r.client.connection.afterHook r')
    have result := hooked_result .after r.client.connection.afterHook r'
    cases outcome with
    | error e =>
      obtain ⟨last, raised⟩ := failed e rfl
      refine ⟨quiet, by rw [last, session], fun u run => ?_⟩
      rw [Action.outcome, run] at raised
      contradiction
    | ok _ =>
      have ended := finished rfl
      refine ⟨quiet, (congrArg Connection.session ended.connection).trans session, fun u run => ?_⟩
      have last : QueryRun.run.after r = u := by rw [Action.after, run]
      rw [last] at ended
      refine ⟨rfl, ?_, ?_⟩
      · rw [ended.result, logged, result]
      · rw [ended.result, logged, result]

end

end QueryRun

namespace Client

/-- What becomes of the session of a query that makes the calls `es`, and what its result shows, if
there is one. The session is told an id if and only if the statement of the query is executed. -/
inductive Hears (n : Nat) (id : Value) (es : List Exchange) (session : Option Session)
    (outcome : Except Failure QueryResult) : Option Session → Prop
  | nothing (unexecuted : executedOn n es = false)
      (failed : ∀ result, outcome = .ok result → result.success = false) :
    Hears n id es session outcome session
  | told {s : Session} (connected : session = some s) (executed : executedOn n es = true)
      (succeeded : ∀ result, outcome = .ok result →
        result.success = true ∧ result.insertId = (s.noted id).lastInsertId) :
    Hears n id es session outcome (some (s.noted id))

def nextId (c : Client) : Value :=
  Statement.toldId c.outside.driver.features (c.outside.driver.reply 0)

def QueryHears (c : Client) (given : List Value) : Prop :=
  Hears c.outside.driver.cursors c.nextId (calls c given) c.connection.session
    ((query given).outcome c) ((query given).after c).connection.session

section
variable {c : Client} {given : List Value} {q : ParsedQuery}

/-- The calls of a query that was attempted, its session, and what its result shows. -/
theorem query_attempted (read : parse c.connection given = .ok q)
    (before : ∀ h f, c.connection.beforeHook = some h → h.action ≠ .fail f)
    {es : List Exchange} {outcome : Except Failure Unit} {r' : QueryRun} :
    let r : QueryRun := { client := c, result := .ofParsed q }
    let r₁ := r.hooked .before c.connection.beforeHook
    QueryRun.attempt r.clock r₁ = Action.ofExcept outcome r' →
    Ran r₁.driver es r'.driver → QueryRun.Stays r₁ r' →
    calls c given = es ∧
      ((query given).after c).connection.session = r'.client.connection.session ∧
      ∀ result, (query given).outcome c = .ok result → outcome = .ok () ∧
        result.success = r'.result.exception.isNone ∧
        result.insertId = r'.result.insertId := by
  intro r r₁ attempted ran stays
  have whole := (QueryRun.ran_hooked .before c.connection.beforeHook r).trans ran
  rw [List.nil_append] at whole
  obtain ⟨made, session, shows⟩ := QueryRun.run_of_attempt (r := r) before attempted whole
    (by rw [stays.afterHook, QueryRun.hooked_connection])
  refine ⟨calls_eq ?_, ?_, fun result ended => ?_⟩
  · rw [query_after read]
    exact made
  · rw [query_after read]
    exact session
  · rw [query_outcome read, Action.outcome, Action.after] at ended
    cases run : QueryRun.run r with
    | error e u => rw [run] at ended; contradiction
    | ok _ u =>
      rw [run] at ended
      cases ended
      exact shows u run

/-- A query that raises before it makes a call tells its session nothing. -/
theorem hears_idle (kept : ((query given).after c).connection.session = c.connection.session)
    (ran : Ran c.outside.driver [] ((query given).after c).outside.driver) {e : Failure}
    (raised : (query given).outcome c = .error e) : QueryHears c given := by
  rw [QueryHears, kept, calls_eq ran, raised]
  refine .nothing rfl fun result ended => ?_
  contradiction

theorem hears_unexecuted (read : parse c.connection given = .ok q)
    (before : ∀ h f, c.connection.beforeHook = some h → h.action ≠ .fail f)
    {es : List Exchange} {outcome : Except Failure Unit} {r' : QueryRun} :
    let r : QueryRun := { client := c, result := .ofParsed q }
    let r₁ := r.hooked .before c.connection.beforeHook
    QueryRun.attempt r.clock r₁ = Action.ofExcept outcome r' →
    QueryRun.Unexecuted r₁ es outcome r' →
    QueryHears c given := by
  intro r r₁ attempted without
  obtain ⟨made, session, shows⟩ :=
    query_attempted read before attempted without.ran without.stays
  have unsent := without.unsent
  rw [(QueryRun.ran_hooked ..).cursors] at unsent
  rw [QueryHears, session, without.session, QueryRun.hooked_connection, made]
  refine .nothing (executedOn_eq_false unsent) fun result ended => ?_
  obtain ⟨fine, success, _⟩ := shows result ended
  rw [success, Option.isNone_eq_false_iff]
  exact without.recorded fine

theorem hears_carried (read : parse c.connection given = .ok q)
    (before : ∀ h f, c.connection.beforeHook = some h → h.action ≠ .fail f) {s : Session}
    {xs : List (Value × Value)} {es es' : List Exchange} {number : Except Failure Int}
    {r' : QueryRun} (connected : c.connection.session = some s) :
    let r : QueryRun := { client := c, result := .ofParsed q }
    let r₁ := r.hooked .before c.connection.beforeHook
    QueryRun.attempt r.clock r₁ = Action.ofExcept (number.map fun _ => ()) r' →
    QueryRun.Carried r₁ s xs es es' number r' →
    QueryHears c given := by
  intro r r₁ attempted carried
  have quiet := QueryRun.ran_hooked .before c.connection.beforeHook r
  obtain ⟨made, session, shows⟩ :=
    query_attempted read before attempted carried.ran carried.keeps.toStays
  have id : Statement.toldId r₁.driver.features (r₁.driver.reply 0) = c.nextId := by
    rw [quiet.features, QueryRun.hooked_reply, nextId]
  have executed : executedOn c.outside.driver.cursors (calls c given) = true := by
    have sent := (executed_sends carried.sends).mpr carried.succeeds
    rw [quiet.cursors] at sent
    rw [made, executedOn_iff]
    exact ⟨_, (executed_cursor ..).mpr (executed_append.mpr (.inl sent))⟩
  have exception : r'.result.exception = none := by
    rw [carried.keeps.exception, QueryRun.hooked_result]
    rfl
  rw [QueryHears, session, carried.session, id]
  refine .told connected executed fun result ended => ?_
  obtain ⟨fine, success, insertId⟩ := shows result ended
  cases number with
  | error e => contradiction
  | ok k =>
    refine ⟨by rw [success, exception]; rfl, ?_⟩
    rw [insertId, carried.insertId k rfl, id]

/-- A query tells its session the id of its own statement, if that is executed, and nothing else. -/
theorem query_hears (c : Client) (given : List Value) : QueryHears c given := by
  cases read : parse c.connection given with
  | error e =>
    have ended := query_refused read
    have last : (query given).after c = c := by rw [Action.after, ended]
    exact hears_idle (by rw [last]) (by rw [last]; exact .refl _) (by rw [Action.outcome, ended])
  | ok q =>
    let r : QueryRun := { client := c, result := .ofParsed q }
    by_cases prevented : ∃ h f, c.connection.beforeHook = some h ∧ h.action = .fail f
    · obtain ⟨h, f, hook, action⟩ := prevented
      have ended : QueryRun.run r = .error (.ofFault f) (r.shown .before (some h)) :=
        QueryRun.run_prevented hook action
      have last : (query given).after c = (r.shown .before (some h)).client := by
        rw [query_after read, Action.after, ended]
      refine hears_idle (e := .ofFault f) ?_ ?_ ?_
      · rw [last]
        rfl
      · rw [last]
        exact QueryRun.ran_shown .before (some h) r
      · rw [query_outcome read, Action.outcome, ended]
        rfl
    · have before : ∀ h f, c.connection.beforeHook = some h → h.action ≠ .fail f :=
        fun h f set action => prevented ⟨h, f, set, action⟩
      have connection := QueryRun.hooked_connection .before c.connection.beforeHook r
      rcases QueryRun.attempt_executes (r := r.hooked .before c.connection.beforeHook)
          ((QueryRun.hooked_statement ..).trans rfl) r.clock with
        ⟨es, outcome, r', without, attempted⟩ |
          ⟨s, xs, es, es', number, r', connected, _, carried, attempted⟩
      · exact hears_unexecuted read before attempted without
      · rw [connection] at connected
        exact hears_carried read before connected attempted carried

end

def lastId (c : Client) : Value :=
  (c.connection.session.map (·.lastInsertId)).getD .null

/-! ## Other operations -/

section
variable {m : Session.SessionAction Unit}

theorem lastId_onSession
    (keeps : ∀ s d, (m.after ⟨s, d⟩).it.lastInsertId = s.lastInsertId) (c : Client) :
    lastId ((onSession m).after c) = lastId c := by
  rw [lastId, onSession_session, Option.map_map, lastId]
  congr 2
  exact funext fun s => keeps s c.outside.driver

/-- A report of a failure leaves the session alone. -/
theorem lastId_reporting (m : ClientAction Unit) (c : Client) :
    lastId ((reporting m).after c) = lastId (m.after c) := by
  rw [lastId, (reporting_after m c).1, lastId]

theorem lastId_asked (keeps : ∀ s d, (m.after ⟨s, d⟩).it.lastInsertId = s.lastInsertId)
    (c : Client) : lastId ((reporting (onSession m)).after c) = lastId c :=
  (lastId_reporting _ c).trans (lastId_onSession keeps c)

end

end Client

namespace Session

variable (s : Session) (d : Driver)

theorem lastInsertId_begin : (begin.after ⟨s, d⟩).it.lastInsertId = s.lastInsertId := by
  cases isOpen : s.closed with
  | true => rw [Action.after, begin_closed isOpen]
  | false =>
    cases outside : s.inTransaction with
    | true => rw [Action.after, begin_nested isOpen outside]
    | false =>
      obtain ⟨es, d', _, _, run⟩ := begin_cases (d := d) isOpen outside
      rw [Action.after_ended run]

theorem lastInsertId_settle {c : Call} (other : c.operation ≠ .cursor) :
    ((settle c).after ⟨s, d⟩).it.lastInsertId = s.lastInsertId := by
  cases isOpen : s.closed with
  | true => rw [Action.after, settle_closed isOpen]
  | false =>
    obtain ⟨failure, d', _, run⟩ := settle_cases (d := d) isOpen other
    rw [Action.after_ended run]

theorem lastInsertId_close : (close.after ⟨s, d⟩).it.lastInsertId = s.lastInsertId := by
  cases isOpen : s.closed with
  | true => rw [Action.after, close_closed isOpen]
  | false =>
    obtain ⟨failure, d', _, run⟩ := close_cases (d := d) isOpen
    rw [Action.after_ended run]

end Session

/-! ## Runs -/

namespace Request

/-- The id that a request tells its session: that of a query whose statement is executed. -/
def toldId? (c : Client) : Request → Option Value
  | query given =>
    if executedOn c.outside.driver.cursors (c.calls given) then some c.nextId else none
  | _ => none

end Request

/-- The last of the ids that counts as given, or else the one before them. -/
def latestId (before : Value) (ids : List Value) : Value :=
  (ids.filter (·.truthy)).getLast?.getD before

theorem latestId_append (before : Value) (ids more : List Value) :
    latestId before (ids ++ more) = latestId (latestId before ids) more := by
  rw [latestId, latestId, latestId, List.filter_append, List.getLast?_append]
  cases (more.filter (·.truthy)).getLast? <;> rfl

theorem latestId_noted (s : Session) (id : Value) :
    (s.noted id).lastInsertId = latestId s.lastInsertId [id] := by
  rw [Session.noted, latestId, List.filter_singleton]
  cases id.truthy <;> rfl

namespace Client

theorem Hears.lastId {n : Nat} {id : Value} {es : List Exchange} {session session' : Option Session}
    {outcome : Except Failure QueryResult} (h : Hears n id es session outcome session') :
    (session'.map (·.lastInsertId)).getD .null =
      latestId ((session.map (·.lastInsertId)).getD .null)
        (if executedOn n es then some id else none).toList := by
  cases h with
  | nothing unexecuted => rw [unexecuted]; rfl
  | told connected executed => rw [executed, connected]; exact latestId_noted _ id

/-- A result shows success if the session was told an id, and then the id that the session has. -/
theorem Hears.shows {n : Nat} {id : Value} {es : List Exchange} {session session' : Option Session}
    {result : QueryResult} (h : Hears n id es session (.ok result) session') :
    result.success = executedOn n es ∧ (result.success = true →
      result.insertId = (session'.map (·.lastInsertId)).getD .null) := by
  cases h with
  | nothing unexecuted failed =>
    have failed := failed result rfl
    exact ⟨failed.trans unexecuted.symm, fun success => by simp [failed] at success⟩
  | told _ executed succeeded =>
    obtain ⟨success, insertId⟩ := succeeded result rfl
    exact ⟨success.trans executed.symm, fun _ => insertId⟩

theorem lastId_query (c : Client) (given : List Value) :
    lastId ((query given).after c) =
      latestId (lastId c) ((Request.query given).toldId? c).toList :=
  (query_hears c given).lastId

/-- A request leaves the insert id as it is, unless it tells the session another one. -/
theorem lastId_request (c : Client) (request : Request) :
    lastId (request.run.after c) = latestId (lastId c) (request.toldId? c).toList := by
  cases request with
  | query given =>
    rw [Request.run, Action.after_map]
    exact lastId_query c given
  | startTransaction =>
    rw [Request.run, Action.after_map]
    exact lastId_asked Session.lastInsertId_begin c
  | commit =>
    rw [Request.run, Action.after_map]
    exact lastId_asked (fun s d => Session.lastInsertId_settle s d (by simp [Call.operation])) c
  | rollback =>
    rw [Request.run, Action.after_map]
    exact lastId_asked (fun s d => Session.lastInsertId_settle s d (by simp [Call.operation])) c
  | close =>
    rw [Request.run, Action.after_map]
    have run : Client.close c = (if c.connection.session.isSome then
        reporting (onSession Session.close) else pure () : ClientAction Unit) c := by
      rw [Client.close, Action.bind_ok (Action.run_get c)]
    rw [Action.after, run, ← Action.after]
    split
    · exact lastId_asked Session.lastInsertId_close c
    · rfl

end Client

/-- What happens to a client: a request, or anything else that leaves its session as it is, such as
a change of settings or hooks, or the step to another connection on the same session. -/
inductive Turn
  | request (request : Request)
  | other (change : Client → Client)
      (keeps : ∀ c, (change c).connection.session = c.connection.session)

namespace Turn

def after : Turn → Client → Client
  | request r, c => r.run.after c
  | other change _, c => change c

def toldId? (c : Client) : Turn → Option Value
  | request r => r.toldId? c
  | other _ _ => none

def afterAll : Client → List Turn → Client
  | c, [] => c
  | c, t :: ts => afterAll (t.after c) ts

def toldIds : Client → List Turn → List Value
  | _, [] => []
  | c, t :: ts => (t.toldId? c).toList ++ toldIds (t.after c) ts

theorem lastId_after (c : Client) (t : Turn) :
    (t.after c).lastId = latestId c.lastId (t.toldId? c).toList := by
  cases t with
  | request r => exact c.lastId_request r
  | other change keeps =>
    rw [after, Client.lastId, keeps]
    rfl

theorem lastId_afterAll (c : Client) (ts : List Turn) :
    (afterAll c ts).lastId = latestId c.lastId (toldIds c ts) := by
  induction ts generalizing c with
  | nil => rfl
  | cons t ts ih => rw [afterAll, ih, lastId_after, toldIds, latestId_append]

end Turn

namespace Client

/-- The insert id belongs to the session. In a session that has none yet, whatever requests are made
and however they end, a result of a query shows the last id that counts as given among those that
the statements of queries were told, its own included, and none if there was none. A query is told
an id if and only if it succeeds, or else raises although its statement was executed. -/
theorem insertId_latest {c : Client} (new : c.lastId = .null) (turns : List Turn) :
    let c' := Turn.afterAll c turns
    let ids := Turn.toldIds c turns
    c'.lastId = latestId .null ids ∧
      ∀ given result c'', query given c' = .ok result c'' →
        let id := (Request.query given).toldId? c'
        result.success = id.isSome ∧
          (result.success = true → result.insertId = latestId .null (ids ++ id.toList)) := by
  intro c' ids
  have last : c'.lastId = latestId .null ids := new ▸ Turn.lastId_afterAll c turns
  refine ⟨last, ?_⟩
  intro given result c'' run id
  have hears := query_hears c' given
  have later := lastId_query c' given
  rw [QueryHears, Action.after, Action.outcome, run] at hears
  rw [Action.after, run] at later
  obtain ⟨success, insertId⟩ := hears.shows
  refine ⟨?_, fun succeeded => ?_⟩
  · rw [success]
    simp only [id, Request.toldId?]
    cases executedOn c'.outside.driver.cursors (calls c' given) <;> rfl
  · rw [latestId_append, ← last]
    exact (insertId succeeded).trans later

theorem insertId_latest_counted :
    let locked : Fault := ⟨.operational, some "database is locked"⟩
    let driver : Driver :=
      { features := { moduleName := "" }
        replies :=
          [{ rowCount := some 1, lastRowId := .int 7 }, { lastRowId := .int 99 },
            { lastRowId := .int 55, error := some locked },
            { lastRowId := .int 0, columns := some ["a"], rows := [.tuple [.int 1]] },
            { lastRowId := .int 5, columns := some ["c"], rows := [.tuple [.int 1]] }] }
    let c : Client :=
      { connection :=
          { settings := { errorReporting := .int Settings.ignoreErrors }
            session := some { engine := .null, paramstyle := .text "qmark", errorClass := .driver } }
        outside := { driver, caller := ⟨"", 0⟩ } }
    let c' := Turn.afterAll c
      [.request (.query [.text "INSERT"]), .request .startTransaction,
        .request (.query [.text "UPDATE"])]
    c.lastId = .null ∧ ∃ result c'', query [.text "SELECT 1"] c' = .ok result c'' ∧
      result.success = true ∧ result.insertId.integer? = some 7 := by
  intro locked driver c c'
  have new : c.lastId = .null := rfl
  obtain ⟨_, shown⟩ := insertId_latest new
    [.request (.query [.text "INSERT"]), .request .startTransaction,
      .request (.query [.text "UPDATE"])]
  have answered : ((query [.text "SELECT 1"]).outcome c').isOk = true := by decide +kernel
  cases run : query [.text "SELECT 1"] c' with
  | error e t =>
    rw [Action.outcome, run] at answered
    contradiction
  | ok result c'' =>
    obtain ⟨success, insertId⟩ := shown _ _ _ run
    have told : ((Request.query [.text "SELECT 1"]).toldId? c').isSome = true := by decide +kernel
    refine ⟨new, result, c'', rfl, success.trans told, ?_⟩
    rw [insertId (success.trans told)]
    decide +kernel

end Client

end SqlTemplate
