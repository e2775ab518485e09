import SqlTemplate.Proofs.Connection.Work

/-!
What a query does around its work: it records a failure and gives the statement back, shows its result
to the hooks, and at last logs and reports what became of it.
-/
namespace SqlTemplate.QueryRun

open Driver (Ran)

/-! ## Failures and hooks -/

/-- What becomes of the work of a query: the calls, the error that is recorded in the result, and
how it ends. -/
inductive Attempted (n : Nat) (session : Option Session) (q : ParsedQuery) :
    List Exchange → Option DriverError → Except Failure Unit → Prop
  | passed {es : List Exchange} {outcome : Except Failure Unit} {t : Option Statement}
      (work : Work n session q es outcome t) (ends : ∀ e, outcome ≠ .error (.driver e)) :
    Attempted n session q es none outcome
  | recorded {es : List Exchange} {e : DriverError}
      (work : Work n session q es (.error (.driver e)) none) :
    Attempted n session q es (some e) (.ok ())
  /-- The statement is given back, and if that fails, this failure is what remains. -/
  | gaveBack {es : List Exchange} {e : DriverError} {t : Statement}
      (work : Work n session q es (.error (.driver e)) (some t)) (closing : Option Fault) :
    Attempted n session q (es ++ [⟨.closeCursor n, closing⟩]) (some e)
      ((closing.map (Driver.handle [t.errorClass])).elim (.ok ()) .error)

theorem Work.statement {n : Nat} {session : Option Session} {q : ParsedQuery} {es : List Exchange}
    {outcome : Except Failure Unit} {t : Statement} (h : Work n session q es outcome (some t)) :
    t.closed = false ∧ t.cursor.number = n ∧
      ∃ s, session = some s ∧ t.errorClass = s.errorClass := by
  cases h with
  | unbound connected _ tOpen number same => exact ⟨tOpen, number, _, connected, same⟩
  | failed connected _ tOpen number same => exact ⟨tOpen, number, _, connected, same⟩

/-- A failure at the time `failed` of a query that began at `start` is in its result and, as a step
that is part of a later one, in the log. -/
structure Recorded (start failed : Ticks) (e : DriverError) (r r' : QueryRun) : Prop
    extends Stays r r' where
  result : r'.result = { r.result with exception := some e, success := false }
  log : r'.client.connection.log = (r.client.connection.addToLog
    ⟨some e.message, failed - start, some r.result.template⟩ false).log
  totalTime : r'.client.connection.totalTime = r.client.connection.totalTime
  queryCount : r'.client.connection.queryCount = r.client.connection.queryCount
  sightings : r'.client.outside.sightings = r.client.outside.sightings
  later : 0 ≤ r.driver.ticks .closeCursor → failed ≤ r'.clock

/-- A failure counts for the whole query, of whose result the work before it made nothing. -/
theorem Recorded.whole {r r₁ r' : QueryRun} {start failed : Ticks} {e : DriverError}
    {es : List Exchange} (h : Recorded start failed e r₁ r') (keeps : Keeps r r₁)
    (ran : Ran r.driver es r₁.driver) (result : r₁.result = r.result)
    (uncounted : r₁.client.connection.queryCount = r.client.connection.queryCount) :
    Recorded start failed e r r' where
  toStays := keeps.toStays.trans h.toStays
  result := by rw [h.result, result]
  log := by rw [h.log, Connection.addToLog, Connection.addToLog, keeps.log, keeps.settings, result]
  totalTime := h.totalTime.trans keeps.totalTime
  queryCount := h.queryCount.trans uncounted
  sightings := h.sightings.trans keeps.sightings
  later := by
    rw [← ran.ticks]
    exact h.later

/-- A failure is recorded before the statement is given back. -/
theorem recordFailure_cases {r : QueryRun} (start : Ticks) (e : DriverError)
    (isOpen : ∀ t, r.statement = some t → t.closed = false) :
    ∃ r', Recorded start r.clock e r r' ∧
      r'.client.connection.session = r.client.connection.session ∧
      ((r.statement = none ∧ Ran r.driver [] r'.driver ∧ recordFailure start e r = .ok () r') ∨
      ∃ t closing, r.statement = some t ∧
        Ran r.driver [⟨.closeCursor t.cursor.number, closing⟩] r'.driver ∧
        recordFailure start e r = Action.ofExcept
          ((closing.map (Driver.handle [t.errorClass])).elim (.ok ()) .error) r') := by
  let r₁ : QueryRun :=
    { r.putNotice (.queryFailed e) with
      client.connection := r.client.connection.addToLog
        ⟨some e.message, r.clock - start, some r.result.template⟩ false
      result.exception := some e
      result.success := false }
  have run : recordFailure start e r = withStatement Statement.close r₁ := by
    rw [recordFailure, Action.bind_ok (Action.run_get r), Action.bind_ok (notify_eq _ r),
      Action.bind_ok (Action.run_modify _ _)]
    rfl
  have stays : Stays r r₁ := by constructor <;> rfl
  have recorded : Recorded start r.clock e r r₁ :=
    { stays with
      result := rfl
      log := rfl
      totalTime := rfl
      queryCount := rfl
      sightings := rfl
      later := fun _ => Int.le_refl _ }
  rw [run]
  cases statement : r.statement with
  | none =>
    exact ⟨r₁, recorded, rfl, .inl ⟨rfl, .refl _, withStatement_none (r := r₁) statement _⟩⟩
  | some t =>
    obtain ⟨closing, d, ran, closed⟩ :=
      Statement.close_eq (d := r₁.driver) (isOpen t statement)
    have clock := Statement.clock_close (d := r₁.driver) (isOpen t statement)
    rw [Action.after_ended closed] at clock
    refine ⟨r₁.putStatement ⟨{ t with closed := true }, d⟩,
      { recorded with
        toStays := stays.trans (keeps_putStatement r₁ _).toStays
        later := fun steady => ?_ }, rfl, .inr ⟨t, closing, rfl, ran, ?_⟩⟩
    · exact Int.le_trans (Int.le_add_of_nonneg_right steady) (Int.le_of_eq clock.symm)
    · rw [withStatement_eq (r := r₁) statement, onStatement_eq, closed]
      cases closing <;> rfl

/-- What a query that began at `start` has made of its result, of the log and of the counts when its
work is over, by how that ended. -/
inductive Booked (n : Nat) (start : Ticks) (r r' : QueryRun) : Except Failure Unit → Prop
  | received {t : Statement} (keeps : Keeps r r') (isOpen : t.closed = false)
      (number : t.cursor.number = n) (received : Received t r r') : Booked n start r r' (.ok ())
  | recorded {failed : Ticks} {e : DriverError} {outcome : Except Failure Unit}
      (recorded : Recorded start failed e r r') : Booked n start r r' outcome
  | broken {e : Failure} (other : ∀ x, e ≠ .driver x) : Booked n start r r' (.error e)

theorem attempt_cases {r : QueryRun} (fresh : r.statement = none)
    (blank : r.result.exception = none) (start : Ticks) :
    ∃ es outcome r', Ran r.driver es r'.driver ∧ Stays r r' ∧
      Attempted r.driver.cursors r.client.connection.session r.result.toParsedQuery es
        r'.result.exception outcome ∧
      Booked r.driver.cursors start r r' outcome ∧
      attempt start r = Action.ofExcept outcome r' := by
  obtain ⟨es, outcome, r₁, ran, keeps, work, yields, run⟩ := execute_work fresh
  by_cases own : ∃ e, outcome = .error (.driver e)
  · obtain ⟨e, rfl⟩ := own
    have isOpen : ∀ t, r₁.statement = some t → t.closed = false :=
      fun t statement => (Work.statement (statement ▸ work)).1
    obtain ⟨r₂, recorded, _, ends⟩ := recordFailure_cases start e isOpen
    have exception : r₂.result.exception = some e := by rw [recorded.result]
    have booked (outcome : Except Failure Unit) :
        Booked r.driver.cursors start r r₂ outcome := by
      cases yields with
      | refused result uncounted => exact .recorded (recorded.whole keeps ran result uncounted)
      | broken other => exact absurd rfl (other e)
    rcases ends with ⟨statement, ran', run'⟩ | ⟨t, closing, statement, ran', run'⟩
    · rw [statement] at work
      refine ⟨es, .ok (), r₂, ?_, keeps.toStays.trans recorded.toStays, ?_, booked _,
        (Action.recover_error run _).trans run'⟩
      · simpa using ran.trans ran'
      · rw [exception]
        exact .recorded work
    · rw [statement] at work
      rw [work.statement.2.1] at ran'
      refine ⟨_, _, r₂, ran.trans ran', keeps.toStays.trans recorded.toStays, ?_, booked _,
        (Action.recover_error run _).trans run'⟩
      rw [exception]
      exact .gaveBack work closing
  · have ends : ∀ e, outcome ≠ .error (.driver e) := fun e eq => own ⟨e, eq⟩
    refine ⟨es, outcome, r₁, ran, keeps.toStays, ?_, ?_, ?_⟩
    · rw [keeps.exception, blank]
      exact .passed work ends
    · cases yields with
      | received isOpen number received => exact .received keeps isOpen number received
      | refused => exact absurd rfl (ends _)
      | broken other => exact .broken other
    · cases outcome with
      | ok _ => exact Action.recover_ok run _
      | error e =>
        refine (Action.recover_error run _).trans ?_
        cases e <;> first | rfl | exact absurd rfl (ends _)

def shown (r : QueryRun) (time : HookTime) : Option Hook → QueryRun
  | none => r
  | some h =>
    { r with
      client.outside.driver := r.client.outside.driver.advance h.ticks
      client.outside.sightings := r.client.outside.sightings ++ [(time, r.result)] }

section
variable (time : HookTime) (hook : Option Hook) (r : QueryRun)

theorem stays_shown : Stays r (r.shown time hook) := by
  cases hook <;> constructor <;> rfl

theorem ran_shown : Ran r.driver [] (r.shown time hook).driver := by
  cases hook with
  | none => exact .refl _
  | some h => exact Driver.ran_advance _ _

theorem shown_statement : (r.shown time hook).statement = r.statement := by
  cases hook <;> rfl

theorem shown_result : (r.shown time hook).result = r.result := by
  cases hook <;> rfl

theorem shown_connection : (r.shown time hook).client.connection = r.client.connection := by
  cases hook <;> rfl

theorem shown_sightings : (r.shown time hook).client.outside.sightings =
    r.client.outside.sightings ++ (hook.map fun _ => (time, r.result)).toList := by
  cases hook with
  | none => exact (List.append_nil _).symm
  | some h => rfl

end

/-- The statement to be run after a hook, which may put another one in place. -/
def substituted (hook : Option Hook) (sql : String) : String :=
  match hook.map Hook.action with
  | some (.substitute sql') => sql'
  | _ => sql

def hooked (r : QueryRun) (time : HookTime) (hook : Option Hook) : QueryRun :=
  { r.shown time hook with result.sql := substituted hook (r.shown time hook).result.sql }

section
variable (time : HookTime) (hook : Option Hook) (r : QueryRun)

theorem stays_hooked : Stays r (r.hooked time hook) :=
  { stays_shown time hook r with }

theorem ran_hooked : Ran r.driver [] (r.hooked time hook).driver :=
  ran_shown time hook r

theorem hooked_statement : (r.hooked time hook).statement = r.statement :=
  shown_statement ..

theorem hooked_result : (r.hooked time hook).result =
    { r.result with sql := substituted hook r.result.sql } := by
  rw [hooked, shown_result]

theorem hooked_connection : (r.hooked time hook).client.connection = r.client.connection :=
  shown_connection ..

theorem hooked_reply (i : Nat) : (r.hooked time hook).driver.reply i = r.driver.reply i := by
  cases hook <;> rfl

end

theorem hooked_observing {hook : Option Hook}
    (observing : ∀ h, hook = some h → h.action = .observe) (time : HookTime) (r : QueryRun) :
    r.hooked time hook = r.shown time hook := by
  cases hook with
  | none => rfl
  | some h =>
    have same : substituted (some h) (r.shown time (some h)).result.sql =
        (r.shown time (some h)).result.sql := by
      rw [substituted, Option.map_some, observing h rfl]
    rw [hooked, same]

theorem callHook_calm {hook : Option Hook} (calm : ∀ h f, hook = some h → h.action ≠ .fail f)
    (time : HookTime) (r : QueryRun) : callHook time hook r = .ok () (r.hooked time hook) := by
  cases hook with
  | none => rfl
  | some h =>
    simp only [callHook, Action.run_bind, Action.run_modify, hooked, substituted, Option.map_some]
    cases action : h.action with
    | observe | substitute q => rfl
    | fail f => exact absurd action (calm h f rfl)

theorem callHook_fails {h : Hook} {f : Fault} (action : h.action = .fail f) (time : HookTime)
    (r : QueryRun) : callHook time (some h) r = .error (.ofFault f) (r.shown time (some h)) := by
  simp only [callHook, Action.run_bind, Action.run_modify, action]
  rfl

/-- A hook makes no call. What it changes is at most the statement to be run. -/
theorem callHook_cases (time : HookTime) (hook : Option Hook) (r : QueryRun) :
    ∃ r', Stays r r' ∧ Ran r.driver [] r'.driver ∧ r'.statement = r.statement ∧
      r'.client.connection.session = r.client.connection.session ∧
      r'.result.exception = r.result.exception ∧
      ((∀ h, hook = some h → ∀ q, h.action ≠ .substitute q) → r'.result = r.result) ∧
      (callHook time hook r = .ok () r' ∨ ∃ h f, hook = some h ∧ h.action = .fail f ∧
        callHook time hook r = .error (.ofFault f) r') := by
  by_cases fails : ∃ h f, hook = some h ∧ h.action = .fail f
  · obtain ⟨h, f, rfl, action⟩ := fails
    exact ⟨r.shown time (some h), stays_shown time _ r, ran_shown time _ r, rfl, rfl, rfl,
      fun _ => rfl, .inr ⟨h, f, rfl, action, callHook_fails action time r⟩⟩
  · have calm : ∀ h f, hook = some h → h.action ≠ .fail f :=
      fun h f set action => fails ⟨h, f, set, action⟩
    refine ⟨r.hooked time hook, stays_hooked .., ran_hooked .., hooked_statement ..,
      congrArg Connection.session (hooked_connection ..), ?_, ?_, .inl (callHook_calm calm time r)⟩
    · rw [hooked_result]
    · intro keeps
      rw [hooked_result, substituted]
      split
      · next sql set =>
        obtain ⟨h, rfl, action⟩ := Option.map_eq_some_iff.mp set
        exact absurd action (keeps h rfl sql)
      · rfl

def logged (r : QueryRun) (start : Ticks) : QueryRun :=
  { r with
    result.success := r.result.exception.isNone
    client.connection := r.client.connection.addToLog
      ⟨none, r.clock - start, some r.result.template⟩ }

theorem logged_exception (r : QueryRun) (start : Ticks) :
    (r.logged start).result.exception = r.result.exception := rfl

theorem finish_eq (r : QueryRun) (start : Ticks) :
    finish start r =
      match r.result.exception with
      | none => .ok () (r.logged start)
      | some e =>
        match Surroundings.report r.client.connection.settings e r.client.outside with
        | .ok _ s => .ok () { r.logged start with client.outside := s }
        | .error e s => .error e { r.logged start with client.outside := s } := by
  rw [finish, Action.bind_ok (Action.run_get r)]
  refine .trans (Action.bind_ok (t := r.logged start) rfl _) ?_
  rw [Action.bind_ok (Action.run_get _), logged_exception]
  cases r.result.exception with
  | none => rfl
  | some e =>
    have reported : Surroundings.report (r.logged start).client.connection.settings e
        (r.logged start).client.outside =
      Surroundings.report r.client.connection.settings e r.client.outside := rfl
    simp only [onClient, Action.within, Client.report_eq]
    rw [reported]
    cases Surroundings.report r.client.connection.settings e r.client.outside with
    | ok => rfl
    | error => rfl

/-- A query that was over in the state `r` is also logged and reported. -/
structure Finished (start : Ticks) (r r' : QueryRun) : Prop where
  result : r'.result = (r.logged start).result
  connection : r'.client.connection = (r.logged start).client.connection
  driver : r'.driver = r.driver
  sightings : r'.client.outside.sightings = r.client.outside.sightings

/-- Once the work of a query is over, no call is made any more. -/
theorem finished (r : QueryRun) (start : Ticks) : Finished start r ((finish start).after r) := by
  rw [Action.after, finish_eq]
  cases r.result.exception with
  | none => exact ⟨rfl, rfl, rfl, rfl⟩
  | some e =>
    have silent := Surroundings.silent_report r.client.connection.settings e r.client.outside
    rw [Action.after] at silent
    simp only
    cases report : Surroundings.report r.client.connection.settings e r.client.outside <;>
      rw [report] at silent <;> exact ⟨rfl, rfl, silent.1, silent.2⟩

/-- A query that was over in the state `r₁` made its last call before. It is finished then, or it ends
with the failure that its work left to raise. -/
theorem run_concluded {r r₁ : QueryRun} {start : Ticks} {outcome : Except Failure Unit}
    (ends : run r = (Action.ofExcept outcome >>= fun _ => finish start) r₁) :
    (run.after r).driver = r₁.driver ∧
      (outcome = .ok () → Finished start r₁ (run.after r)) ∧
      ∀ e, outcome = .error e → run.after r = r₁ ∧ run.outcome r = .error e := by
  cases outcome with
  | ok _ =>
    have after : run.after r = (finish start).after r₁ := by
      rw [Action.after, ends]
      rfl
    rw [after]
    refine ⟨(finished r₁ start).driver, fun _ => finished r₁ start, ?_⟩
    intro e failed
    contradiction
  | error e =>
    have after : run.after r = r₁ := by
      rw [Action.after, ends]
      rfl
    refine ⟨congrArg QueryRun.driver after, ?_, ?_⟩
    · intro ok
      contradiction
    · rintro _ ⟨⟩
      refine ⟨after, ?_⟩
      rw [Action.outcome, ends]
      rfl

/-- A query is over when a hook fails; else its work is done between the hooks, and what is left is
to log and to report it. -/
theorem run_cases {r : QueryRun} (fresh : r.statement = none) (blank : r.result.exception = none) :
    (∃ h f r', r.client.connection.beforeHook = some h ∧ h.action = .fail f ∧
      Ran r.driver [] r'.driver ∧ run r = .error (.ofFault f) r') ∨
    ∃ es q outcome r', q.parameters = r.result.parameters ∧
      ((∀ h, r.client.connection.beforeHook = some h → ∀ sql, h.action ≠ .substitute sql) →
        q = r.result.toParsedQuery) ∧
      Attempted r.driver.cursors r.client.connection.session q es r'.result.exception outcome ∧
      Stays r r' ∧ Ran r.driver es r'.driver ∧
      ((run r = match outcome with
        | .ok _ => finish r.clock r'
        | .error e => .error e r') ∨
      ∃ h f, r.client.connection.afterHook = some h ∧ h.action = .fail f ∧
        run r = .error (.ofFault f) r') := by
  rw [run, Action.bind_ok (Action.run_get r), Action.bind_ok (Action.run_get r)]
  obtain ⟨r₁, stays, quiet, statement, session, exception, same,
      shown | ⟨h, f, hook, action, failed⟩⟩ :=
    callHook_cases .before r.client.connection.beforeHook r
  case inr => exact .inl ⟨h, f, r₁, hook, action, quiet, Action.bind_error failed _⟩
  case inl =>
    obtain ⟨es, outcome, r₂, ran, stays', attempted, _, attempt⟩ :=
      attempt_cases (statement.trans fresh) (exception.trans blank) r.clock
    rw [session, quiet.cursors] at attempted
    obtain ⟨r₃, stays'', quiet', _, _, exception', _, hooked⟩ :=
      callHook_cases .after r₂.client.connection.afterHook r₂
    have whole := (quiet.trans ran).trans quiet'
    rw [List.nil_append, List.append_nil] at whole
    rw [← exception'] at attempted
    refine .inr ⟨es, r₁.result.toParsedQuery, outcome, r₃, stays.parameters, ?_, attempted,
      (stays.trans stays').trans stays'', whole, ?_⟩
    · intro keeps
      rw [same keeps]
    rw [Action.bind_ok shown]
    have ensured := Action.ensuring_eq attempt do
      callHook .after (← get).client.connection.afterHook
    rw [Action.bind_ok (Action.run_get r₂)] at ensured
    rcases hooked with ok | ⟨h, f, hook, action, failed⟩
    · rw [ok] at ensured
      cases outcome with
      | ok _ => exact .inl (Action.bind_ok ensured _)
      | error e => exact .inl (Action.bind_error ensured _)
    · rw [failed] at ensured
      refine .inr ⟨h, f, ?_, action, Action.bind_error ensured _⟩
      rw [← stays.afterHook, ← stays'.afterHook, hook]

/-- A query of which no hook fails: its work is done between them, and what is left is to log and to
report it. -/
theorem run_calm {r r' : QueryRun} {outcome : Except Failure Unit}
    (before : ∀ h f, r.client.connection.beforeHook = some h → h.action ≠ .fail f)
    (after : ∀ h f, r.client.connection.afterHook = some h → h.action ≠ .fail f)
    (attempted : attempt r.clock (r.hooked .before r.client.connection.beforeHook) =
      Action.ofExcept outcome r')
    (same : r'.client.connection.afterHook = r.client.connection.afterHook) :
    run r = (Action.ofExcept outcome >>= fun _ => finish r.clock)
      (r'.hooked .after r.client.connection.afterHook) := by
  have ensured := Action.ensuring_eq attempted do
    callHook .after (← get).client.connection.afterHook
  rw [Action.bind_ok (Action.run_get r'), same, callHook_calm after] at ensured
  rw [run, Action.bind_ok (Action.run_get r), Action.bind_ok (Action.run_get r),
    Action.bind_ok (callHook_calm before .before r)]
  cases outcome with
  | ok _ => exact Action.bind_ok ensured _
  | error e => exact Action.bind_error ensured _

/-- A query that a hook ends before its work begins. -/
theorem run_prevented {r : QueryRun} {h : Hook} {f : Fault}
    (hook : r.client.connection.beforeHook = some h) (action : h.action = .fail f) :
    run r = .error (.ofFault f) (r.shown .before (some h)) := by
  rw [run, Action.bind_ok (Action.run_get r), Action.bind_ok (Action.run_get r), hook]
  exact Action.bind_error (callHook_fails action .before r) _

/-- A query that a hook ends once its work is done. -/
theorem run_interrupted {r r' : QueryRun} {outcome : Except Failure Unit} {h : Hook} {f : Fault}
    (before : ∀ h f, r.client.connection.beforeHook = some h → h.action ≠ .fail f)
    (attempted : attempt r.clock (r.hooked .before r.client.connection.beforeHook) =
      Action.ofExcept outcome r')
    (hook : r'.client.connection.afterHook = some h) (action : h.action = .fail f) :
    run r = .error (.ofFault f) (r'.shown .after (some h)) := by
  have ensured := Action.ensuring_eq attempted do
    callHook .after (← get).client.connection.afterHook
  rw [Action.bind_ok (Action.run_get r'), hook, callHook_fails action] at ensured
  rw [run, Action.bind_ok (Action.run_get r), Action.bind_ok (Action.run_get r),
    Action.bind_ok (callHook_calm before .before r)]
  exact Action.bind_error ensured _

/-- A query that hooks only look on. -/
theorem run_observed {r : QueryRun} (fresh : r.statement = none) (blank : r.result.exception = none)
    (before : ∀ h, r.client.connection.beforeHook = some h → h.action = .observe)
    (after : ∀ h, r.client.connection.afterHook = some h → h.action = .observe) :
    ∃ es outcome r', Ran r.driver es r'.driver ∧
      Stays (r.shown .before r.client.connection.beforeHook) r' ∧
      Attempted r.driver.cursors r.client.connection.session r.result.toParsedQuery es
        r'.result.exception outcome ∧
      Booked r.driver.cursors r.clock (r.shown .before r.client.connection.beforeHook) r' outcome ∧
      run r = (Action.ofExcept outcome >>= fun _ => finish r.clock)
        (r'.shown .after r.client.connection.afterHook) := by
  have quiet := ran_shown .before r.client.connection.beforeHook r
  have connection := shown_connection .before r.client.connection.beforeHook r
  obtain ⟨es, outcome, r', ran, stays, attempted, booked, attempt⟩ :=
    attempt_cases (r := r.shown .before r.client.connection.beforeHook)
      ((shown_statement ..).trans fresh) (by rw [shown_result, blank]) r.clock
  rw [quiet.cursors, connection, shown_result] at attempted
  rw [quiet.cursors] at booked
  refine ⟨es, outcome, r', quiet.trans ran, stays, attempted, booked, ?_⟩
  rw [← hooked_observing before] at attempt
  have calm {hook : Option Hook} (observing : ∀ h, hook = some h → h.action = .observe) (h : Hook)
      (f : Fault) (set : hook = some h) : h.action ≠ .fail f := by
    rw [observing h set]
    simp
  rw [run_calm (calm before) (calm after) attempt (by rw [stays.afterHook, connection]),
    hooked_observing after]

/-- The calls of a query are those of its work: its hooks and its report make none. -/
theorem run_calls {r : QueryRun} (fresh : r.statement = none) (blank : r.result.exception = none) :
    ∃ es, Ran r.driver es (run.after r).driver ∧
      (es = [] ∨ ∃ q recorded outcome, q.parameters = r.result.parameters ∧
        ((∀ h, r.client.connection.beforeHook = some h → ∀ sql, h.action ≠ .substitute sql) →
          q = r.result.toParsedQuery) ∧
        Attempted r.driver.cursors r.client.connection.session q es recorded outcome) := by
  rcases run_cases fresh blank with
    ⟨_, f, r', _, _, quiet, failed⟩ |
      ⟨es, q, outcome, r', parameters, same, attempted, _, ran, ends⟩
  · refine ⟨[], ?_, .inl rfl⟩
    rw [Action.after, failed]
    exact quiet
  · refine ⟨es, ?_, .inr ⟨q, _, outcome, parameters, same, attempted⟩⟩
    rcases ends with whole | ⟨_, f, _, _, failed⟩
    · rw [Action.after, whole]
      cases outcome with
      | ok _ => exact (finished r' r.clock).driver ▸ ran
      | error e => exact ran
    · rw [Action.after, failed]
      exact ran

end SqlTemplate.QueryRun

namespace SqlTemplate.Client

open Driver (Ran)

/-- The hooks of a client look on and do nothing else. -/
def Observing (c : Client) : Prop :=
  ∀ h, c.connection.beforeHook = some h ∨ c.connection.afterHook = some h → h.action = .observe

def calls (c : Client) (given : List Value) : List Exchange :=
  ((query given).after c).outside.driver.history.drop c.outside.driver.history.length

section
variable {c : Client} {given : List Value} {q : ParsedQuery}

theorem query_eq (read : parse c.connection given = .ok q) :
    query given c =
      match QueryRun.run { client := c, result := .ofParsed q } with
      | .ok _ r => .ok r.result r.client
      | .error e r => .error e r.client := by
  rw [query, Action.bind_ok (Action.run_get c), read]
  exact Action.bind_ok (Action.run_pure q c) _

theorem query_after (read : parse c.connection given = .ok q) :
    (query given).after c = (QueryRun.run.after { client := c, result := .ofParsed q }).client := by
  rw [Action.after, query_eq read, Action.after]
  cases QueryRun.run { client := c, result := .ofParsed q } <;> rfl

theorem query_outcome (read : parse c.connection given = .ok q) :
    (query given).outcome c =
      (QueryRun.run.outcome { client := c, result := .ofParsed q }).map fun _ =>
        (QueryRun.run.after { client := c, result := .ofParsed q }).result := by
  rw [Action.outcome, query_eq read, Action.outcome, Action.after]
  cases QueryRun.run { client := c, result := .ofParsed q } <;> rfl

theorem query_refused {e : Failure} (read : parse c.connection given = .error e) :
    query given c = .error e c := by
  rw [query, Action.bind_ok (Action.run_get c), read]
  rfl

theorem calls_eq {es : List Exchange}
    (ran : Ran c.outside.driver es ((query given).after c).outside.driver) :
    calls c given = es := by
  rw [calls, ran.history, List.drop_left]

/-- A query makes all its calls before it is over. -/
theorem calls_of_run (read : parse c.connection given = .ok q) {es : List Exchange}
    {outcome : Except Failure Unit} {r' : QueryRun} {start : Ticks}
    (ends : QueryRun.run { client := c, result := .ofParsed q } =
      (Action.ofExcept outcome >>= fun _ => QueryRun.finish start) r')
    (ran : Ran c.outside.driver es r'.driver) : calls c given = es := by
  apply calls_eq
  rw [query_after read]
  change Ran _ _ (QueryRun.run.after _).driver
  rw [(QueryRun.run_concluded ends).1]
  exact ran

/-- A query of a client whose hooks look on: its work makes all its calls, and unless that fails, the
query is then shown, logged and reported. -/
theorem query_observed (observing : c.Observing) (read : parse c.connection given = .ok q) :
    let r : QueryRun := { client := c, result := .ofParsed q }
    ∃ outcome r', Ran c.outside.driver (calls c given) r'.driver ∧
      QueryRun.Stays (r.shown .before c.connection.beforeHook) r' ∧
      QueryRun.Attempted c.outside.driver.cursors c.connection.session q (calls c given)
        r'.result.exception outcome ∧
      QueryRun.Booked c.outside.driver.cursors r.clock (r.shown .before c.connection.beforeHook) r'
        outcome ∧
      match outcome with
      | .ok _ => QueryRun.Finished r.clock (r'.shown .after c.connection.afterHook)
          (QueryRun.run.after r)
      | .error e => QueryRun.run.after r = r'.shown .after c.connection.afterHook ∧
          (query given).outcome c = .error e := by
  intro r
  obtain ⟨es, outcome, r', ran, stays, attempted, booked, run⟩ :=
    QueryRun.run_observed (r := r) rfl rfl (fun h hook => observing h (.inl hook))
      (fun h hook => observing h (.inr hook))
  have whole := ran.trans (QueryRun.ran_shown .after c.connection.afterHook r')
  rw [List.append_nil] at whole
  have made := calls_of_run read run whole
  obtain ⟨_, finished, failed⟩ := QueryRun.run_concluded run
  subst made
  refine ⟨outcome, r', ran, stays, attempted, booked, ?_⟩
  cases outcome with
  | ok _ => exact finished rfl
  | error e =>
    obtain ⟨after, raised⟩ := failed e rfl
    refine ⟨after, ?_⟩
    rw [query_outcome read, raised]
    rfl

end

end SqlTemplate.Client
