import SqlTemplate.Connection.Open
import SqlTemplate.Proofs.Connection.Policy
import SqlTemplate.Proofs.Number.Order

/-!
What queries leave in the books of a connection: its log, the time spent and the number of queries
that succeeded. A failed query is logged twice, its time counts once.
-/
namespace SqlTemplate

open Driver (Ran)
open Number (Binary64)

/-- A query that was carried out: what became of it and how long it took. -/
structure Passage where
  result : QueryResult
  elapsed : Ticks

namespace Passage

def duration (p : Passage) : Binary64 :=
  p.elapsed.milliseconds

def entry (p : Passage) (message : Option String) (elapsed : Ticks) : LogRecord :=
  ⟨message, elapsed, some p.result.template⟩

/-- What a query adds to the log: an entry for its failure, if it failed, and one for all of it. -/
inductive Logged (p : Passage) : List LogRecord → Prop
  | passed (exception : p.result.exception = none) (success : p.result.success = true) :
    Logged p [p.entry none p.elapsed]
  | failed {e : DriverError} {elapsed : Ticks} (exception : p.result.exception = some e)
      (success : p.result.success = false)
      (within : (p.entry (some e.message) elapsed).duration.AtMost
        (p.entry none p.elapsed).duration) :
    Logged p [p.entry (some e.message) elapsed, p.entry none p.elapsed]

end Passage

namespace Client

/-- The books of a client after some queries. -/
structure Balanced (c c' : Client) (ps : List Passage) : Prop where
  log : ∃ entries, List.Forall₂ Passage.Logged ps entries ∧
    c'.connection.log = if c.connection.settings.logQueries.truthy then
      c.connection.log ++ entries.flatten else c.connection.log
  totalTime : c'.connection.totalTime =
    (ps.map Passage.duration).foldl Binary64.add c.connection.totalTime
  queryCount : c'.connection.queryCount = c.connection.queryCount + ps.countP (·.result.success)

/-- What a query of a client comes to, if its template can be read. -/
def passage? (c : Client) (given : List Value) : Option Passage :=
  ((Request.query given).result? c).map fun result =>
    ⟨result, ((query given).after c).outside.driver.clock - c.outside.driver.clock⟩

def passages (c : Client) : List (List Value) → List Passage
  | [] => []
  | given :: rest => (passage? c given).toList ++ passages ((query given).after c) rest

/-- The clock goes on while a query gives its statement back and while a hook looks on. -/
structure Onward (c : Client) : Prop where
  closing : 0 ≤ c.outside.driver.ticks .closeCursor
  watching : ∀ h, c.connection.afterHook = some h → 0 ≤ h.ticks

/-- A query whose template can be read returns, or it raises the error in its result. An error of
giving its statement back would be another one, even if it said the same. -/
def Completes (c : Client) (given : List Value) : Prop :=
  ∀ result, (Request.query given).result? c = some result →
    ((query given).outcome c).isOk = true ∨
      ∃ e, (query given).outcome c = .error (.driver e) ∧ result.exception = some e ∧
        firstFailure c.outside.driver.cursors [.closeCursor] (calls c given) = none

/-- What a client keeps that the accounting depends on. -/
structure SameTerms (c c' : Client) : Prop where
  settings : c'.connection.settings = c.connection.settings
  beforeHook : c'.connection.beforeHook = c.connection.beforeHook
  afterHook : c'.connection.afterHook = c.connection.afterHook
  ticks : c'.outside.driver.ticks = c.outside.driver.ticks

section
variable {c c' c'' : Client} {ps ps' : List Passage}

theorem Balanced.refl (c : Client) : Balanced c c [] where
  log := ⟨[], .nil, by simp⟩
  totalTime := rfl
  queryCount := rfl

theorem Balanced.trans (h : Balanced c c' ps) (h' : Balanced c' c'' ps')
    (same : SameTerms c c') : Balanced c c'' (ps ++ ps') := by
  obtain ⟨entries, logged, log⟩ := h.log
  obtain ⟨entries', logged', log'⟩ := h'.log
  constructor
  · refine ⟨entries ++ entries', List.rel_append logged logged', ?_⟩
    rw [log', log, same.settings]
    split
    · rw [List.flatten_append, List.append_assoc]
    · rfl
  · rw [h'.totalTime, h.totalTime, List.map_append, List.foldl_append]
  · rw [h'.queryCount, h.queryCount, List.countP_append, Nat.add_assoc]

theorem SameTerms.observing (h : SameTerms c c') (observing : c.Observing) : c'.Observing := by
  intro hook set
  rw [h.beforeHook, h.afterHook] at set
  exact observing hook set

theorem SameTerms.onward (h : SameTerms c c') (onward : c.Onward) : c'.Onward where
  closing := by
    rw [h.ticks]
    exact onward.closing
  watching := by
    rw [h.afterHook]
    exact onward.watching

end

/-! ## One query -/

section
variable {c : Client} {given : List Value} {q : ParsedQuery}

/-- An error that is raised although one is recorded comes from giving the statement back. -/
theorem closing_of_attempted {n : Nat} {session : Option Session} {es : List Exchange}
    {recorded : Option DriverError} {outcome : Except Failure Unit} {x : DriverError} {e : Failure}
    (attempted : QueryRun.Attempted n session q es recorded outcome) (exception : recorded = some x)
    (raised : outcome = .error e) : firstFailure n [.closeCursor] es ≠ none := by
  cases attempted with
  | passed => contradiction
  | recorded => contradiction
  | gaveBack work closing =>
    cases closing with
    | none => contradiction
    | some f =>
      rw [firstFailure_append]
      simp [firstFailure_cons, Call.cursor?, Call.operation]

/-- The work of a query that completes is booked without a failure that is left to raise, and then
the query is shown, logged and reported. -/
theorem run_completed (observing : c.Observing) (read : parse c.connection given = .ok q)
    (completes : c.Completes given) :
    let r : QueryRun := { client := c, result := .ofParsed q }
    ∃ r', Ran c.outside.driver (calls c given) r'.driver ∧
      QueryRun.Stays (r.shown .before c.connection.beforeHook) r' ∧
      QueryRun.Booked c.outside.driver.cursors r.clock (r.shown .before c.connection.beforeHook) r'
        (.ok ()) ∧
      QueryRun.Finished r.clock (r'.shown .after c.connection.afterHook) (QueryRun.run.after r) := by
  intro r
  obtain ⟨outcome, r', ran, stays, attempted, booked, ends⟩ := query_observed observing read
  cases outcome with
  | ok _ => exact ⟨r', ran, stays, booked, ends⟩
  | error e =>
    obtain ⟨after, raised⟩ := ends
    have result : (Request.query given).result? c = some r'.result := by
      rw [result?_query read, after, QueryRun.shown_result]
    obtain returns | ⟨x, raises, exception, closed⟩ := completes _ result
    · rw [raised] at returns
      contradiction
    · exact absurd closed (closing_of_attempted attempted exception rfl)

theorem query_same_terms (observing : c.Observing) (completes : c.Completes given) :
    SameTerms c ((query given).after c) := by
  cases read : parse c.connection given with
  | error e =>
    have unchanged : (query given).after c = c := by
      rw [Action.after, query_refused read]
    rw [unchanged]
    constructor <;> rfl
  | ok q =>
    obtain ⟨r', ran, stays, _, finished⟩ := run_completed observing read completes
    have whole := ran.trans (QueryRun.ran_shown .after c.connection.afterHook r')
    have connection := QueryRun.shown_connection .before c.connection.beforeHook
      { client := c, result := .ofParsed q }
    rw [query_after read]
    constructor
    · rw [finished.connection, QueryRun.logged, Connection.addToLog, QueryRun.shown_connection,
        stays.settings, connection]
    · rw [finished.connection, QueryRun.logged, Connection.addToLog, QueryRun.shown_connection,
        stays.beforeHook, connection]
    · rw [finished.connection, QueryRun.logged, Connection.addToLog, QueryRun.shown_connection,
        stays.afterHook, connection]
    · exact (congrArg Driver.ticks finished.driver).trans whole.ticks

theorem clock_le_shown {hook : Option Hook} (watching : ∀ h, hook = some h → 0 ≤ h.ticks)
    (time : HookTime) (r : QueryRun) : r.clock ≤ (r.shown time hook).clock := by
  cases hook with
  | none => exact Int.le_refl _
  | some h => exact Int.le_add_of_nonneg_right (watching h rfl)

/-- The books after a query that was booked and finished. -/
theorem finished_balanced (onward : c.Onward) {r r' final : QueryRun} (own : r.client = c)
    (blank : r.result.exception = none)
    (booked : QueryRun.Booked c.outside.driver.cursors r.clock
      (r.shown .before c.connection.beforeHook) r' (.ok ()))
    (stays : QueryRun.Stays (r.shown .before c.connection.beforeHook) r')
    (finished : QueryRun.Finished r.clock (r'.shown .after c.connection.afterHook) final) :
    Balanced c final.client [⟨final.result, final.clock - r.clock⟩] := by
  subst own
  let p : Passage := ⟨final.result, final.clock - r.clock⟩
  have clock : final.clock = (r'.shown .after r.client.connection.afterHook).clock :=
    congrArg Driver.clock finished.driver
  have result : final.result = { r'.result with success := r'.result.exception.isNone } := by
    rw [finished.result, QueryRun.logged, QueryRun.shown_result]
  have connection : final.client.connection =
      r'.client.connection.addToLog (p.entry none p.elapsed) := by
    rw [finished.connection, QueryRun.logged, QueryRun.shown_connection, QueryRun.shown_result]
    simp only [p, Passage.entry, clock, result]
  have settings : r'.client.connection.settings = r.client.connection.settings := by
    rw [stays.settings, QueryRun.shown_connection]
  have start := QueryRun.shown_connection .before r.client.connection.beforeHook r
  have unseen := QueryRun.shown_result .before r.client.connection.beforeHook r
  cases booked with
  | received keeps isOpen number received =>
    have exception : r'.result.exception = none := by
      rw [keeps.exception, unseen, blank]
    constructor
    · refine ⟨[[p.entry none p.elapsed]], .cons (.passed ?_ ?_) .nil, ?_⟩
      · rw [result, exception]
      · rw [result, exception]
        rfl
      · rw [connection, Connection.addToLog, settings, keeps.log, start]
        rfl
    · rw [connection, Connection.addToLog, keeps.totalTime, start]
      rfl
    · rw [connection, Connection.addToLog, received.counted, start]
      simp [result, exception]
  | @recorded failed e _ recorded =>
    have exception : r'.result.exception = some e := by
      rw [recorded.result]
    have template : r'.result.template = r.result.template := by
      rw [recorded.result, unseen]
    have within : failed - r.clock ≤ p.elapsed := by
      have ticks := (QueryRun.ran_shown .before r.client.connection.beforeHook r).ticks
      have closed := recorded.later (ticks ▸ onward.closing)
      have shown := clock_le_shown onward.watching .after r'
      rw [← clock] at shown
      exact Int.sub_le_sub_right (Int.le_trans closed shown) _
    constructor
    · refine ⟨[[p.entry (some e.message) (failed - r.clock), p.entry none p.elapsed]],
        .cons (.failed ?_ ?_ (Ticks.milliseconds_mono within)) .nil, ?_⟩
      · rw [result, exception]
      · rw [result, exception]
        rfl
      · have logged : r'.client.connection.log = (r.client.connection.addToLog
            (p.entry (some e.message) (failed - r.clock)) false).log := by
          rw [recorded.log, start, unseen]
          simp only [p, Passage.entry, result, template]
        rw [connection, Connection.addToLog, settings, logged, Connection.addToLog]
        split
        · rw [List.append_assoc]
          rfl
        · rfl
    · rw [connection, Connection.addToLog, recorded.totalTime, start]
      rfl
    · rw [connection, Connection.addToLog, recorded.queryCount, start]
      simp [result, exception]

/-- A query that completes is booked once, however it ends. -/
theorem query_balanced (observing : c.Observing) (onward : c.Onward)
    (completes : c.Completes given) :
    Balanced c ((query given).after c) (passage? c given).toList := by
  cases read : parse c.connection given with
  | error e =>
    have unchanged : (query given).after c = c := by
      rw [Action.after, query_refused read]
    have nothing : passage? c given = none := by
      simp [passage?, Request.result?, read, Except.toOption]
    rw [unchanged, nothing]
    exact .refl c
  | ok q =>
    obtain ⟨r', _, stays, booked, finished⟩ := run_completed observing read completes
    have passage : passage? c given = some
        ⟨(QueryRun.run.after { client := c, result := .ofParsed q }).result,
          ((query given).after c).outside.driver.clock - c.outside.driver.clock⟩ := by
      rw [passage?, result?_query read]
      rfl
    rw [passage, query_after read]
    exact finished_balanced onward rfl rfl booked stays finished

/-! ## Queries one after the other -/

/-- A client whose connection was just made. Its hooks and its settings may have been set since. -/
def Opened (settings : Settings) (origin : Origin) (s : Surroundings) (c : Client) : Prop :=
  ∃ connection, Connection.new settings origin s = .ok connection c.outside ∧
    c.connection = { connection with
      settings := c.connection.settings
      beforeHook := c.connection.beforeHook
      afterHook := c.connection.afterHook }

/-- The time that it took to connect, if a client had to and could. -/
def connecting (s : Surroundings) (c : Client) : Origin → List Ticks
  | .engine =>
    if c.connection.session.isSome then [c.outside.driver.clock - s.driver.clock] else []
  | _ => []

theorem connect_totalTime {connection opened : Connection} {s s' : Surroundings}
    (new : connection.session = none ∧ connection.totalTime = ⟨0⟩)
    (connected : connection.connect s = .ok opened s') :
    opened.totalTime = ((connecting s ⟨opened, s'⟩ .engine).map Ticks.milliseconds).foldl
      Binary64.add ⟨0⟩ := by
  rw [Connection.connect, Action.bind_ok (Action.run_get s)] at connected
  obtain ⟨tried, s₁, attempt, rest⟩ := Action.exists_of_bind_ok connected
  cases run : Connection.openSession connection.settings s with
  | ok session s₂ =>
    have fine : (Except.ok <$> Connection.openSession connection.settings : Action Failure
        Surroundings (Except DriverError Session)) s = .ok (.ok session) s₂ := by
      rw [Action.run_map, run]
    rw [Action.recover_ok fine] at attempt
    cases attempt
    cases rest
    simp only [Connection.addToLog, new.2, connecting, Option.isSome_some, if_true, List.map_cons,
      List.map_nil, List.foldl_cons, List.foldl_nil]
    rfl
  | error e s₂ =>
    have broken : (Except.ok <$> Connection.openSession connection.settings : Action Failure
        Surroundings (Except DriverError Session)) s = .error e s₂ := by
      rw [Action.run_map, run]
    rw [Action.recover_error broken] at attempt
    cases e with
    | driver e =>
      cases attempt
      obtain ⟨_, s₃, _, rest⟩ := Action.exists_of_bind_ok rest
      obtain ⟨_, s₄, _, rest⟩ := Action.exists_of_bind_ok rest
      cases rest
      simp [connecting, new.1, new.2]
    | _ => contradiction

theorem opened_totalTime {settings : Settings} {origin : Origin} {s : Surroundings}
    (opened : Opened settings origin s c) : c.connection.totalTime =
      ((connecting s c origin).map Ticks.milliseconds).foldl Binary64.add ⟨0⟩ := by
  obtain ⟨connection, made, same⟩ := opened
  have session : c.connection.session = connection.session := by
    rw [same]
  have totalTime : c.connection.totalTime = connection.totalTime := by
    rw [same]
  obtain ⟨valid, s₁, validated, rest⟩ := Action.exists_of_bind_ok made
  cases outcome : settings.validated with
  | error e =>
    rw [outcome] at validated
    contradiction
  | ok valid =>
    rw [outcome] at validated
    cases validated
    rw [totalTime]
    cases origin with
    | engine =>
      have total := connect_totalTime ⟨rfl, rfl⟩ rest
      simp only [connecting, session] at total ⊢
      exact total
    | session given =>
      cases rest
      rfl
    | «open» =>
      obtain ⟨_, _, got, rest⟩ := Action.exists_of_bind_ok rest
      cases got
      obtain ⟨_, _, _, rest⟩ := Action.exists_of_bind_ok rest
      cases rest
      rfl

theorem queries_balanced {queries : List (List Value)} (observing : c.Observing)
    (onward : c.Onward) (complete : ∀ before given after, queries = before ++ given :: after →
      (Action.afterAll query c before).Completes given) :
    Balanced c (Action.afterAll query c queries) (passages c queries) := by
  induction queries generalizing c with
  | nil => exact .refl c
  | cons given rest ih =>
    have completes : c.Completes given := complete [] given rest rfl
    have same := query_same_terms observing completes
    have later := ih (same.observing observing) (same.onward onward) fun before given' after split =>
      complete (given :: before) given' after (congrArg (given :: ·) split)
    exact (query_balanced observing onward completes).trans later same

/-- The books of a client after any queries. Hooks look on only, the clock goes on, and a query whose
template can be read returns or raises the error in its result; others change nothing. Then each
query that was carried out has one entry in the log, behind one for its failure if it failed, its time
counts once, and it is counted if it succeeded. So the total is the time it took to connect, if the
client did, and then the times of its queries. -/
theorem queries_accounted {queries : List (List Value)} (observing : c.Observing)
    (onward : c.Onward) (complete : ∀ before given after, queries = before ++ given :: after →
      (Action.afterAll query c before).Completes given) :
    Balanced c (Action.afterAll query c queries) (passages c queries) ∧
    ∀ settings origin s, Opened settings origin s c →
      (Action.afterAll query c queries).connection.totalTime =
        ((connecting s c origin).map Ticks.milliseconds ++
          (passages c queries).map Passage.duration).foldl Binary64.add ⟨0⟩ := by
  have balanced := queries_balanced observing onward complete
  refine ⟨balanced, ?_⟩
  intro settings origin s opened
  rw [balanced.totalTime, opened_totalTime opened, List.foldl_append]

end

theorem queries_accounted_suppressed :
    let broken : Fault := ⟨.operational, some "broken"⟩
    let driver : Driver :=
      { features := { moduleName := "" }
        ticks := fun _ => 3
        faults := fun o => if o = .execute then [some broken] else [] }
    let c : Client :=
      { connection :=
          { settings := { errorReporting := .int Settings.ignoreErrors }
            session := some { engine := .null, paramstyle := .text "qmark", errorClass := .driver }
            afterHook := some { ticks := 5 } }
        outside := { driver, caller := ⟨"", 0⟩ } }
    let given : List Value := [.text "SELECT 1"]
    (passages c [given, [], given]).map (fun p => (p.result.success, p.elapsed)) =
        [(false, 14), (true, 20)] ∧
      Balanced c (Action.afterAll query c [given, [], given]) (passages c [given, [], given]) := by
  intro broken driver c given
  have observing : c.Observing := by
    rintro h (hook | hook) <;> cases hook
    rfl
  have onward : c.Onward := by
    constructor
    · decide
    · rintro h ⟨⟩
      decide
  have returns {c : Client} (ok : ((query given).outcome c).isOk = true) : c.Completes given :=
    fun _ _ => .inl ok
  have complete : ∀ before request after, [given, [], given] = before ++ request :: after →
      (Action.afterAll query c before).Completes request := by
    rintro (_ | ⟨_, _ | ⟨_, _ | ⟨_, before⟩⟩⟩) request after split
    · cases split
      exact returns (by decide +kernel)
    · cases split
      rintro result ⟨⟩
    · cases split
      exact returns (by decide +kernel)
    · simp at split
  exact ⟨by decide +kernel, (queries_accounted observing onward complete).1⟩

end Client

end SqlTemplate
