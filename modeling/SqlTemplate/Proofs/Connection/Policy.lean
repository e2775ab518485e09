import SqlTemplate.Connection.Transaction
import SqlTemplate.Proofs.Connection.Failure

/-!
When an operation of a connection fails, and what becomes of its failure. Whatever calls fail, and
however many of them, a failure is printed, written and raised exactly as the settings ask for, with
two exceptions. A query that cannot give its cursor back after a failure says nothing and raises, and so
does one with a value that cannot be written out, which keeps its cursor.
-/
namespace SqlTemplate

open Driver (Ran)

/-! ## Requests -/

inductive Request
  | query (given : List Value)
  | startTransaction
  | commit
  | rollback
  | close

namespace Request

open Client (ClientAction)

def run : Request → ClientAction (Option QueryResult)
  | query given => some <$> Client.query given
  | startTransaction => (fun _ => none) <$> Client.startTransaction
  | commit => (fun _ => none) <$> Client.commit
  | rollback => (fun _ => none) <$> Client.rollback
  | close => (fun _ => none) <$> Client.close

def result? (c : Client) : Request → Option QueryResult
  | query given =>
    (Client.parse c.connection given).toOption.map fun q =>
      (QueryRun.run.after { client := c, result := .ofParsed q }).result
  | _ => none

def parameters (c : Connection) : Request → List BoundParameter
  | query given => (Client.parse c given).toOption.elim [] (·.parameters)
  | _ => []

def refusal? (session : Option Session) : Request → Option DriverError
  | close => none
  | startTransaction =>
    (unusable? session).or
      (if session.any (·.inTransaction) then some ⟨.transactionActive, none⟩ else none)
  | _ => unusable? session

/-- The failure among the calls that are a request's own work. Of a query they are those that send
its statement, which has cursor `n`. -/
def callFailure? (n : Nat) (es : List Exchange) : Request → Option Fault
  | query _ => firstFailure n sending es
  | _ => lastFailure es

def closingFailure? (n : Nat) (es : List Exchange) : Request → Option Fault
  | query _ => firstFailure n [.closeCursor] es
  | _ => none

/-- The error that a request fails with which makes the calls `es`, if it fails: it is not taken, or
a call of its own work fails, or a value cannot be sent. -/
def failure? (c : Client) (es : List Exchange) (request : Request) : Option DriverError :=
  (request.refusal? c.connection.session).or
    (((request.callFailure? c.outside.driver.cursors es).map .wrap).or
      (unconvertible? (request.parameters c.connection)))

/-- A query is of a template that can be read with its arguments. -/
def Readable (c : Connection) : Request → Prop
  | query given => ∃ q, Client.parse c given = .ok q
  | _ => True

end Request

namespace Client

def asks (c : Client) (flag : Int) : Bool :=
  c.connection.settings.asks flag

/-- A client prints and writes nothing on its way to another state. -/
structure Unreported (c c' : Client) : Prop where
  printed : c'.outside.printed = c.outside.printed
  files : c'.outside.files = c.outside.files

/-- A client prints and writes one report of an error, as its settings ask for. -/
structure Reported (c : Client) (place : Place) (e : DriverError) (c' : Client) : Prop where
  printed : c'.outside.printed =
    if c.asks Settings.echoErrors then c.outside.printed ++ c.outside.reportText e ++ "\n"
    else c.outside.printed
  files : c'.outside.files =
    if c.asks Settings.fileErrors then c.outside.files.append place (c.outside.reportText e ++ "\n")
    else c.outside.files

/-- How a request ends that binds the parameters `ps` and made the calls `es`, by the error that it
failed with and by the failure to give its cursor back. -/
inductive Answered (c : Client) (place : Place) (ps : List BoundParameter) (es : List Exchange)
    (result : Option QueryResult) :
    Option DriverError → Option Fault → Except Failure (Option QueryResult) → Client → Prop
  | succeeded {c' : Client} (unreported : Unreported c c') (written : ¬ Unwritten ps) :
    Answered c place ps es result none none (.ok result) c'
  | uncounted {c' : Client} {e : Failure} (unreported : Unreported c c')
      (written : ¬ Unwritten ps) (unread : QueryRun.Unread c.outside.driver.cursors es e) :
    Answered c place ps es result none none (.error e) c'
  /-- A value cannot be written out. That is raised whatever the settings say, and the cursor is not
  given back. -/
  | unwritten {c' : Client} (unreported : Unreported c c') (unwritten : Unwritten ps)
      (calls : es = [⟨.cursor c.outside.driver.cursors, none⟩]) :
    Answered c place ps es result none none (.error (.conversion .unwritten)) c'
  | failed {c' : Client} {e : DriverError} (reported : Reported c place e c') :
    Answered c place ps es result (some e) none
      (if c.asks Settings.raiseErrors then .error (.driver e) else .ok result) c'
  /-- Nothing is said of the error, and the other failure is raised whatever the settings say. -/
  | unclosed {c' : Client} {e : DriverError} {f : Fault} (unreported : Unreported c c') :
    Answered c place ps es result (some e) (some f) (.error (.driver (.wrap f))) c'

/-! ## Reports -/

/-- What work on the driver leaves as it is. -/
structure Untouched (c c' : Client) : Prop extends Unreported c c' where
  settings : c'.connection.settings = c.connection.settings
  caller : c'.outside.caller = c.outside.caller

theorem Untouched.refl (c : Client) : Untouched c c := by
  constructor
  · constructor <;> rfl
  · rfl
  · rfl

section
variable {c c₁ : Client} {place : Place}

theorem report_reported (valid : c.connection.settings.Valid)
    (openable : c.asks Settings.fileErrors = true →
      c.outside.files.locate c.connection.settings.errorLog = .ok place)
    (same : Untouched c c₁) (e : DriverError) :
    ∃ s, s.driver = c₁.outside.driver ∧ (∀ c' : Client, c'.outside = s → Reported c place e c') ∧
      Surroundings.report c₁.connection.settings e c₁.outside =
        Action.ofExcept (if c.asks Settings.raiseErrors then .error (.driver e) else .ok ()) s := by
  have run := Surroundings.report_eq (e := e) (s := c₁.outside) valid place (by
    rw [same.files]
    exact openable)
  rw [same.settings, run]
  refine ⟨_, ?_, ?_, rfl⟩
  · rfl
  · intro c' outside
    have text : c₁.outside.reportText e = c.outside.reportText e := by
      rw [Surroundings.reportText, same.caller, Surroundings.reportText]
    constructor
    · rw [outside, ← text, ← same.printed]
      rfl
    · rw [outside, ← text, ← same.files]
      rfl

/-- An action whose failure is reported, if it has one. -/
theorem reporting_answered (valid : c.connection.settings.Valid)
    (openable : c.asks Settings.fileErrors = true →
      c.outside.files.locate c.connection.settings.errorLog = .ok place)
    (same : Untouched c c₁) {m : ClientAction Unit} {failure : Option DriverError}
    (run : m c = Action.ended (failure.map .driver) c₁) (es : List Exchange) :
    ∃ outcome c', c'.outside.driver = c₁.outside.driver ∧
      Answered c place [] es none failure none outcome c' ∧
      ((fun _ => none) <$> reporting m : ClientAction (Option QueryResult)) c =
        Action.ofExcept outcome c' := by
  cases failure with
  | none =>
    refine ⟨.ok none, c₁, rfl, .succeeded same.toUnreported not_unwritten_nil, ?_⟩
    exact Action.bind_ok (Action.recover_ok run _) _
  | some e =>
    obtain ⟨s, driver, reported, report⟩ := report_reported valid openable same e
    refine ⟨_, { c₁ with outside := s }, driver, .failed (reported _ rfl), ?_⟩
    have ends : reporting m c =
        Action.ofExcept (if c.asks Settings.raiseErrors then .error (.driver e) else .ok ())
          { c₁ with outside := s } := by
      refine (Action.recover_error run _).trans ?_
      change Client.report e c₁ = _
      rw [Client.report_eq, report]
      cases c.asks Settings.raiseErrors <;> rfl
    cases raises : c.asks Settings.raiseErrors with
    | true =>
      rw [raises] at ends
      exact Action.bind_error ends _
    | false =>
      rw [raises] at ends
      exact Action.bind_ok ends _

end

/-- A report of a failure leaves the connection and its driver alone. -/
theorem reporting_after (m : ClientAction Unit) (c : Client) :
    ((reporting m).after c).connection = (m.after c).connection ∧
      ((reporting m).after c).outside.driver = (m.after c).outside.driver := by
  rw [Action.after, Action.after, reporting, Action.recover]
  cases m c with
  | ok _ t => exact ⟨rfl, rfl⟩
  | error e t =>
    cases e with
    | driver e =>
      have silent := (Surroundings.silent_report t.connection.settings e t.outside).1
      rw [Action.after] at silent
      simp only [report_eq]
      cases run : Surroundings.report t.connection.settings e t.outside <;> rw [run] at silent <;>
        exact ⟨rfl, silent⟩
    | _ => exact ⟨rfl, rfl⟩

/-! ## Transactions and the end -/

section
variable {c : Client} {s : Session}

theorem onSession_none (absent : c.connection.session = none) (m : Session.SessionAction Unit) :
    onSession m c = .error (.driver ⟨.notOpen, none⟩) c := by
  simp only [onSession, Action.run_bind, Action.run_get, absent]
  rfl

theorem onSession_ended (connected : c.connection.session = some s) {m : Session.SessionAction Unit}
    {failure : Option Failure} {t : Live Session}
    (run : m ⟨s, c.outside.driver⟩ = Action.ended failure t) :
    onSession m c = Action.ended failure
      { c with connection.session := some t.it, outside.driver := t.driver } := by
  simp only [onSession, Action.run_bind, Action.run_get, connected, Action.within, run]
  cases failure <;> rfl

theorem onSession_session (m : Session.SessionAction Unit) (c : Client) :
    ((onSession m).after c).connection.session =
      c.connection.session.map fun s => (m.after ⟨s, c.outside.driver⟩).it := by
  cases connected : c.connection.session with
  | none => rw [Action.after, onSession_none connected]; exact connected
  | some s =>
    simp only [Action.after, onSession, Action.run_bind, Action.run_get, connected, Action.within,
      Option.map_some]
    cases m ⟨s, c.outside.driver⟩ <;> rfl

theorem untouched_session (t : Live Session) :
    Untouched c { c with connection.session := some t.it, outside.driver := t.driver } :=
  { Untouched.refl c with }

/-- Failures of a class that is caught all become errors of this library. -/
theorem handled_last {es : List Exchange} {k : ErrorClass} {caught : List ErrorClass}
    (classed : Classed k es) (mem : k ∈ caught) :
    (lastFailure es).map (Driver.handle caught) =
      ((lastFailure es).map DriverError.wrap).map Failure.driver := by
  cases failure : lastFailure es with
  | none => rfl
  | some f => exact congrArg some (classed.last failure mem)

/-- The errors that a driver's script can bring up are those of the session's class. -/
def Scripted (c : Client) : Prop :=
  ∀ s, c.connection.session = some s →
    ∀ f, c.outside.driver.Scripted f → f.errorClass.isA s.errorClass = true

/-- The work of a request that needs a session. -/
theorem work_cases {request : Request} {m : Session.SessionAction Unit}
    (needs : request.refusal? none = some ⟨.notOpen, none⟩)
    (work : ∀ s, c.connection.session = some s → ∃ es failure t, Ran c.outside.driver es t.driver ∧
      m ⟨s, c.outside.driver⟩ = Action.ended failure t ∧
      failure = (request.failure? c es).map .driver) :
    ∃ es c₁, Ran c.outside.driver es c₁.outside.driver ∧ Untouched c c₁ ∧
      onSession m c = Action.ended ((request.failure? c es).map .driver) c₁ := by
  cases connected : c.connection.session with
  | none =>
    refine ⟨[], c, .refl _, .refl c, ?_⟩
    rw [onSession_none connected, Request.failure?, connected, needs]
    rfl
  | some s =>
    obtain ⟨es, failure, t, ran, run, eq⟩ := work s connected
    refine ⟨es, _, ran, untouched_session t, ?_⟩
    rw [onSession_ended connected run, eq]

/-- What a request fails with that binds nothing and is taken. -/
theorem failure?_taken {request : Request} {es : List Exchange}
    (taken : request.refusal? c.connection.session = none)
    (plain : request.callFailure? c.outside.driver.cursors es = lastFailure es ∧
      request.parameters c.connection = []) :
    request.failure? c es = (lastFailure es).map .wrap := by
  rw [Request.failure?, taken, plain.1, plain.2]
  cases lastFailure es <;> rfl

theorem failure?_refused {request : Request} {es : List Exchange} {e : DriverError}
    (refused : request.refusal? c.connection.session = some e) :
    request.failure? c es = some e := by
  rw [Request.failure?, refused]
  rfl

theorem settle_work (scripted : c.Scripted) {request : Request} {call : Call}
    (kind : request = .commit ∧ call = .commit ∨ request = .rollback ∧ call = .rollback)
    (connected : c.connection.session = some s) :
    ∃ es failure t, Ran c.outside.driver es t.driver ∧
      Session.settle call ⟨s, c.outside.driver⟩ = Action.ended failure t ∧
      failure = (request.failure? c es).map .driver := by
  have refusal : request.refusal? c.connection.session = unusable? (some s) := by
    rw [connected]
    rcases kind with ⟨rfl, rfl⟩ | ⟨rfl, rfl⟩ <;> rfl
  cases isOpen : s.closed with
  | true =>
    refine ⟨[], some (.driver ⟨.connectionClosed, none⟩), _, .refl _,
      Session.settle_closed isOpen call, ?_⟩
    rw [failure?_refused (e := ⟨.connectionClosed, none⟩)]
    · rfl
    · rw [refusal, unusable?, isOpen]
      rfl
  | false =>
    have single : call.operation ≠ .cursor ∧ call.operation ≠ .scroll := by
      rcases kind with ⟨rfl, rfl⟩ | ⟨rfl, rfl⟩ <;> simp [Call.operation]
    obtain ⟨failure, d, ran, run⟩ := Session.settle_cases (d := c.outside.driver) isOpen single.1
    have classed : Classed s.errorClass [⟨call, failure⟩] :=
      ran.classed (by simpa using single.2) (scripted s connected)
    refine ⟨_, _, _, ran, run, ?_⟩
    have last : lastFailure [⟨call, failure⟩] = failure := by simp
    have handled := handled_last classed (List.mem_singleton.mpr rfl)
    rw [last] at handled
    rw [handled, failure?_taken, last]
    · rw [refusal, unusable?, isOpen]
      rfl
    · rcases kind with ⟨rfl, rfl⟩ | ⟨rfl, rfl⟩ <;> exact ⟨rfl, rfl⟩

theorem begin_work (scripted : c.Scripted) (connected : c.connection.session = some s) :
    ∃ es failure t, Ran c.outside.driver es t.driver ∧
      Session.begin ⟨s, c.outside.driver⟩ = Action.ended failure t ∧
      failure = (Request.startTransaction.failure? c es).map .driver := by
  cases isOpen : s.closed with
  | true =>
    refine ⟨[], some (.driver ⟨.connectionClosed, none⟩), _, .refl _,
      Session.begin_closed isOpen, ?_⟩
    rw [failure?_refused (e := ⟨.connectionClosed, none⟩)]
    · rfl
    · simp [Request.refusal?, unusable?, connected, isOpen]
  | false =>
    cases nested : s.inTransaction with
    | true =>
      refine ⟨[], some (.driver ⟨.transactionActive, none⟩), _, .refl _,
        Session.begin_nested isOpen nested, ?_⟩
      rw [failure?_refused (e := ⟨.transactionActive, none⟩)]
      · rfl
      · simp [Request.refusal?, unusable?, connected, isOpen, nested]
    | false =>
      obtain ⟨es, d, ran, begins, run⟩ :=
        Session.begin_cases (d := c.outside.driver) isOpen nested
      have classed : Classed s.errorClass es :=
        ran.classed begins.still (scripted s connected)
      refine ⟨es, _, _, ran, run, ?_⟩
      rw [handled_last classed (List.mem_singleton.mpr rfl), failure?_taken]
      · simp [Request.refusal?, unusable?, connected, isOpen, nested]
      · exact ⟨rfl, rfl⟩

theorem close_work (scripted : c.Scripted) (connected : c.connection.session = some s) :
    ∃ es failure t, Ran c.outside.driver es t.driver ∧
      Session.close ⟨s, c.outside.driver⟩ = Action.ended failure t ∧
      failure = (Request.close.failure? c es).map .driver := by
  have taken (es : List Exchange) : Request.close.failure? c es = (lastFailure es).map .wrap :=
    failure?_taken rfl ⟨rfl, rfl⟩
  cases isOpen : s.closed with
  | true =>
    refine ⟨[], none, _, .refl _, Session.close_closed isOpen, ?_⟩
    rw [taken]
    rfl
  | false =>
    obtain ⟨failure, d, ran, run⟩ := Session.close_cases (d := c.outside.driver) isOpen
    have classed : Classed s.errorClass [⟨.close, failure⟩] :=
      ran.classed (by simp [Call.operation]) (scripted s connected)
    refine ⟨_, _, _, ran, run, ?_⟩
    have handled := handled_last classed (List.mem_singleton.mpr rfl)
    rw [taken, ← handled]
    simp

end

/-! ## Queries -/

section
variable {c : Client} {place : Place}

theorem checked_of_parse {given : List Value} {q : ParsedQuery}
    (read : parse c.connection given = .ok q) : ∀ p ∈ q.parameters, p.Checked := by
  simp only [parse, Bind.bind, Except.bind] at read
  split at read
  · contradiction
  · next v _ =>
    split at read
    · contradiction
    · next d _ =>
      obtain ⟨template, rest⟩ := v
      cases template with
      | text s => exact Template.checked_of_parse read
      | _ => cases read

theorem Untouched.of_stays {r r' : QueryRun} (h : QueryRun.Stays r r') :
    Untouched r.client r'.client where
  printed := h.printed
  files := h.files
  settings := h.settings
  caller := h.caller

def Calm (c : Client) : Prop :=
  ∀ h f, c.connection.beforeHook = some h ∨ c.connection.afterHook = some h → h.action ≠ .fail f

theorem result?_query {given : List Value} {q : ParsedQuery}
    (read : parse c.connection given = .ok q) :
    (Request.query given).result? c =
      some (QueryRun.run.after { client := c, result := .ofParsed q }).result := by
  simp only [Request.result?, read, Except.toOption, Option.map_some]

/-- A query ends as its run does, and its result is the one that the run leaves. -/
theorem query_ends {given : List Value} {q : ParsedQuery} (read : parse c.connection given = .ok q)
    {outcome : Except Failure Unit} {r : QueryRun}
    (ends : QueryRun.run { client := c, result := .ofParsed q } = Action.ofExcept outcome r) :
    (Request.query given).result? c = some r.result ∧
      (Request.query given).run c =
        Action.ofExcept (outcome.map fun _ => some r.result) r.client := by
  have asked := query_eq read
  rw [ends] at asked
  constructor
  · rw [result?_query read, Action.after_ofExcept ends]
  · cases outcome with
    | ok _ => exact Action.bind_ok asked _
    | error e => exact Action.bind_error asked _

/-- A query that failed, and could give its cursor back, ends with one report. -/
theorem finish_answered (valid : c.connection.settings.Valid)
    (openable : c.asks Settings.fileErrors = true →
      c.outside.files.locate c.connection.settings.errorLog = .ok place)
    {r : QueryRun} {e : DriverError} (untouched : Untouched c r.client)
    (failed : r.result.exception = some e) (start : Ticks) (ps : List BoundParameter)
    (es : List Exchange) :
    ∃ outcome last, last.driver = r.driver ∧ last.result.exception = some e ∧
      QueryRun.finish start r = Action.ofExcept outcome last ∧
      Answered c place ps es (some last.result) (some e) none
        (outcome.map fun _ => some last.result) last.client := by
  obtain ⟨s, driver, reported, report⟩ := report_reported valid openable untouched e
  let last : QueryRun := { r.logged start with client.outside := s }
  have answered : Answered c place ps es (some last.result) (some e) none _ last.client :=
    .failed (reported last.client rfl)
  cases raises : c.asks Settings.raiseErrors with
  | true =>
    rw [raises] at answered report
    refine ⟨.error (.driver e), last, driver, failed, ?_, answered⟩
    simp only [QueryRun.finish_eq, failed, report]
    rfl
  | false =>
    rw [raises] at answered report
    refine ⟨.ok (), last, driver, failed, ?_, answered⟩
    simp only [QueryRun.finish_eq, failed, report]
    rfl

theorem query_answered (valid : c.connection.settings.Valid)
    (openable : c.asks Settings.fileErrors = true →
      c.outside.files.locate c.connection.settings.errorLog = .ok place)
    (scripted : c.Scripted) (calm : c.Calm) {given : List Value} {q : ParsedQuery}
    (read : parse c.connection given = .ok q) :
    ∃ es outcome r, Ran c.outside.driver es r.driver ∧
      QueryRun.run { client := c, result := .ofParsed q } = Action.ofExcept outcome r ∧
      r.result.exception = (Request.query given).failure? c es ∧
      Answered c place q.parameters es (some r.result) r.result.exception
        (firstFailure c.outside.driver.cursors [.closeCursor] es)
        (outcome.map fun _ => some r.result) r.client := by
  let r : QueryRun := { client := c, result := .ofParsed q }
  rcases QueryRun.run_cases (r := r) rfl rfl with
    ⟨h, f, _, hook, action, _⟩ |
      ⟨es, q', outcome, r', parameters, _, attempted, stays, ran, whole | ⟨h, f, hook, action, _⟩⟩
  case inl => exact absurd action (calm h f (.inl hook))
  case inr.inr => exact absurd action (calm h f (.inr hook))
  case inr.inl =>
    have same := parameters.trans (show r.result.parameters = q.parameters from rfl)
    have checked : ∀ p ∈ q'.parameters, p.Checked := same ▸ checked_of_parse read
    have classed : ∀ s, c.connection.session = some s → Classed s.errorClass es :=
      fun s connected => ran.classed attempted.still (scripted s connected)
    obtain ⟨recorded, verdict⟩ := attempted.verdict checked classed
    have failure : r'.result.exception = (Request.query given).failure? c es := by
      rw [recorded, QueryRun.workFailure?, same]
      simp only [Request.failure?, Request.parameters, read]
      rfl
    have untouched : Untouched c r'.client := .of_stays stays
    rw [same] at verdict
    rcases verdict with ⟨exception, closing, unfailed⟩ | ⟨exception, closing, rfl⟩ |
        ⟨exception, f, closing, rfl⟩
    · cases unfailed with
      | done written =>
        have ends : QueryRun.run r = .ok () (r'.logged r.clock) := by
          rw [whole]
          simp only [QueryRun.finish_eq, exception]
        refine ⟨es, .ok (), r'.logged r.clock, ran, ends, failure, ?_⟩
        rw [show (r'.logged r.clock).result.exception = none from exception, closing]
        exact .succeeded ⟨untouched.printed, untouched.files⟩ written
      | uncounted written unread =>
        refine ⟨es, .error _, r', ran, whole, failure, ?_⟩
        rw [exception, closing]
        exact .uncounted untouched.toUnreported written unread
      | unwritten unwritten calls =>
        refine ⟨es, .error _, r', ran, whole, failure, ?_⟩
        rw [exception, closing]
        exact .unwritten untouched.toUnreported unwritten calls
    · obtain ⟨e, exception⟩ := Option.ne_none_iff_exists'.mp exception
      obtain ⟨outcome, last, driver, kept, ends, answered⟩ :=
        finish_answered valid openable untouched exception r.clock q.parameters es
      have recorded : last.result.exception = (Request.query given).failure? c es :=
        kept.trans (exception.symm.trans failure)
      refine ⟨es, outcome, last, driver ▸ ran, whole.trans ends, recorded, ?_⟩
      rw [kept, closing]
      exact answered
    · obtain ⟨e, exception⟩ := Option.ne_none_iff_exists'.mp exception
      refine ⟨es, .error (.driver (.wrap f)), r', ran, whole, failure, ?_⟩
      rw [exception, closing]
      exact .unclosed untouched.toUnreported

/-- A request that needs only the session ends as the work on it does, with its failure reported. -/
theorem session_answered (valid : c.connection.settings.Valid)
    (openable : c.asks Settings.fileErrors = true →
      c.outside.files.locate c.connection.settings.errorLog = .ok place)
    {request : Request} {m : Session.SessionAction Unit}
    (run : request.run c =
      ((fun _ => none) <$> reporting (onSession m) : ClientAction (Option QueryResult)) c)
    (worked : ∃ es c₁, Ran c.outside.driver es c₁.outside.driver ∧ Untouched c c₁ ∧
      onSession m c = Action.ended ((request.failure? c es).map .driver) c₁) :
    ∃ es outcome c', Ran c.outside.driver es c'.outside.driver ∧
      request.run c = Action.ofExcept outcome c' ∧
      Answered c place [] es none (request.failure? c es) none outcome c' := by
  obtain ⟨es, c₁, ran, same, work⟩ := worked
  obtain ⟨outcome, c', driver, answered, reported⟩ :=
    reporting_answered valid openable same work es
  exact ⟨es, outcome, c', driver ▸ ran, run.trans reported, answered⟩

theorem close_answered (valid : c.connection.settings.Valid)
    (openable : c.asks Settings.fileErrors = true →
      c.outside.files.locate c.connection.settings.errorLog = .ok place)
    (scripted : c.Scripted) :
    ∃ es outcome c', Ran c.outside.driver es c'.outside.driver ∧
      Request.close.run c = Action.ofExcept outcome c' ∧
      Answered c place [] es none (Request.close.failure? c es) none outcome c' := by
  cases connected : c.connection.session with
  | none =>
    have nothing : Client.close c = .ok () c := by
      rw [Client.close, Action.bind_ok (Action.run_get c), connected]
      rfl
    exact ⟨[], .ok none, c, .refl _, Action.bind_ok nothing _,
      .succeeded (Untouched.refl c).toUnreported not_unwritten_nil⟩
  | some s =>
    have closing : Client.close c = reporting (onSession Session.close) c := by
      rw [Client.close, Action.bind_ok (Action.run_get c), connected]
      rfl
    have run : Request.close.run c =
        ((fun _ => none) <$> reporting (onSession Session.close) :
          ClientAction (Option QueryResult)) c := by
      rw [Request.run, Action.run_map, Action.run_map, closing]
    obtain ⟨es, failure, t, ran, ended, rfl⟩ := close_work scripted connected
    exact session_answered valid openable run
      ⟨es, _, ran, untouched_session t, onSession_ended connected ended⟩

theorem request_answered {request : Request} (valid : c.connection.settings.Valid)
    (openable : c.asks Settings.fileErrors = true →
      c.outside.files.locate c.connection.settings.errorLog = .ok place)
    (scripted : c.Scripted) (calm : c.Calm) (readable : request.Readable c.connection) :
    ∃ es outcome c', Ran c.outside.driver es c'.outside.driver ∧
      request.run c = Action.ofExcept outcome c' ∧
      (∀ result, request.result? c = some result → result.exception = request.failure? c es) ∧
      Answered c place (request.parameters c.connection) es (request.result? c)
        (request.failure? c es) (request.closingFailure? c.outside.driver.cursors es) outcome c' := by
  have resultless {request : Request} (none : request.result? c = none) (es : List Exchange) :
      ∀ result, request.result? c = some result → result.exception = request.failure? c es := by
    rw [none]
    simp
  cases request with
  | query given =>
    obtain ⟨q, read⟩ := readable
    obtain ⟨es, outcome, r, ran, ends, exception, answered⟩ :=
      query_answered valid openable scripted calm read
    obtain ⟨result, run⟩ := query_ends read ends
    refine ⟨es, _, r.client, ran, run, ?_, ?_⟩
    · intro _ same
      rw [result] at same
      exact Option.some.inj same ▸ exception
    · have binds : (Request.query given).parameters c.connection = q.parameters := by
        rw [Request.parameters, read]
        rfl
      rw [result, ← exception, binds]
      exact answered
  | startTransaction =>
    have asked : Request.startTransaction.run c =
        ((fun _ => none) <$> reporting (onSession Session.begin) :
          ClientAction (Option QueryResult)) c := rfl
    obtain ⟨es, outcome, c', ran, run, answered⟩ :=
      session_answered valid openable asked (work_cases rfl fun s => begin_work scripted)
    exact ⟨es, outcome, c', ran, run, resultless rfl es, answered⟩
  | commit =>
    have asked : Request.commit.run c =
        ((fun _ => none) <$> reporting (onSession Session.commit) :
          ClientAction (Option QueryResult)) c := rfl
    obtain ⟨es, outcome, c', ran, run, answered⟩ :=
      session_answered valid openable asked
        (work_cases rfl fun s => settle_work scripted (.inl ⟨rfl, rfl⟩))
    exact ⟨es, outcome, c', ran, run, resultless rfl es, answered⟩
  | rollback =>
    have asked : Request.rollback.run c =
        ((fun _ => none) <$> reporting (onSession Session.rollback) :
          ClientAction (Option QueryResult)) c := rfl
    obtain ⟨es, outcome, c', ran, run, answered⟩ :=
      session_answered valid openable asked
        (work_cases rfl fun s => settle_work scripted (.inr ⟨rfl, rfl⟩))
    exact ⟨es, outcome, c', ran, run, resultless rfl es, answered⟩
  | close =>
    obtain ⟨es, outcome, c', ran, run, answered⟩ := close_answered valid openable scripted
    exact ⟨es, outcome, c', ran, run, resultless rfl es, answered⟩

end

/-- What becomes of a failure. The settings are valid, a file that they ask for can be appended to,
no hook fails, a query can be read, and what the driver's script brings up belongs to the session's
class of errors. Then the result of a query records the first error that it failed with, and the
request ends with no report if it did not fail and with one report as the settings ask for if it
failed, whichever and however many calls failed; unless it is a query that could not give its cursor
back either, or one whose parameters could not be written out. -/
theorem failures_answered {c : Client} {place : Place} {request : Request}
    (valid : c.connection.settings.Valid)
    (openable : c.asks Settings.fileErrors = true →
      c.outside.files.locate c.connection.settings.errorLog = .ok place)
    (scripted : c.Scripted) (calm : c.Calm) (readable : request.Readable c.connection) :
    ∃ es, (request.run.after c).outside.driver.history = c.outside.driver.history ++ es ∧
      (∀ result, request.result? c = some result → result.exception = request.failure? c es) ∧
      Answered c place (request.parameters c.connection) es (request.result? c)
        (request.failure? c es) (request.closingFailure? c.outside.driver.cursors es)
        (request.run.outcome c) (request.run.after c) := by
  obtain ⟨es, outcome, c', ran, run, recorded, answered⟩ :=
    request_answered valid openable scripted calm readable
  rw [Action.after_ofExcept run, Action.outcome_ofExcept run]
  exact ⟨es, ran.history, recorded, answered⟩

theorem failures_answered_unclosed :
    let broken : Fault := ⟨.operational, some "broken"⟩
    let lost : Fault := ⟨.operational, some "lost"⟩
    let driver : Driver :=
      { features := { moduleName := "" }
        faults := fun o =>
          if o = .execute then [some broken] else if o = .closeCursor then [some lost] else [] }
    let c : Client :=
      { connection :=
          { settings := { errorReporting := .int Settings.ignoreErrors }
            session :=
              some { engine := .null, paramstyle := .text "qmark", errorClass := .driver } }
        outside := { driver, caller := ⟨"", 0⟩ } }
    let request : Request := .query [.text "SELECT 1"]
    (c.asks Settings.raiseErrors = false ∧ (request.run.outcome c).isOk = false) ∧
      ∃ es, (request.run.after c).outside.driver.history = es ∧
        Answered c ⟨.root, []⟩ (request.parameters c.connection) es (request.result? c)
          (request.failure? c es) (request.closingFailure? 0 es) (request.run.outcome c)
          (request.run.after c) := by
  intro broken lost driver c request
  have scripted : c.Scripted := by
    rintro s connected f (⟨o, mem⟩ | ⟨r, mem, _⟩)
    · cases connected
      simp only [c, driver] at mem
      split at mem
      · cases List.mem_singleton.mp mem
        rfl
      · split at mem
        · cases List.mem_singleton.mp mem
          rfl
        · cases mem
    · cases mem
  have calm : c.Calm := by
    rintro h f (hook | hook) <;> cases hook
  have readable : request.Readable c.connection := by
    have fits : (parse c.connection [.text "SELECT 1"]).isOk = true := by decide +kernel
    cases read : parse c.connection [.text "SELECT 1"] with
    | ok q => exact ⟨q, read⟩
    | error e =>
      rw [read] at fits
      contradiction
  have valid : c.connection.settings.Valid := rfl
  have openable : c.asks Settings.fileErrors = true →
      c.outside.files.locate c.connection.settings.errorLog = .ok ⟨.root, []⟩ :=
    fun asked => absurd asked (by decide)
  obtain ⟨es, history, _, answered⟩ := failures_answered valid openable scripted calm readable
  exact ⟨⟨by decide, by decide +kernel⟩, es, history, answered⟩

end Client

end SqlTemplate
