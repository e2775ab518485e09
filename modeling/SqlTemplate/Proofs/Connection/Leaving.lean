import SqlTemplate.Proofs.Connection.InsertId

/-!
The end of a block of work. Whatever fails on the way, a transaction that is open is ended by one
call and an open session is closed by another one. After that there is nothing left to end.
-/
namespace SqlTemplate

open Driver (Ran)

def Session.left (s : Session) : Session :=
  if s.closed then s else { s with closed := true, inTransaction := false }

theorem Session.left_closed (s : Session) : s.left.closed = true := by
  unfold left
  split
  · next closed => exact closed
  · rfl

def leavingCalls (failed : Bool) : Option Session → List Call
  | none => []
  | some s =>
    if s.closed then []
    else (if s.inTransaction then [if failed then .rollback else .commit] else []) ++ [.close]

inductive Ending
  | close
  | leave (failed : Bool)

def Ending.run : Ending → Client.ClientAction Unit
  | close => Client.close
  | leave failed => Client.leave failed

namespace Client

/-! ## The calls -/

/-- On the way from `c`, which has the session `s`, an action makes the calls `es` and leaves the
connection with the session `s'`. Where errors are ignored, the driver's do not leave the action. -/
structure Made (c : Client) (s : Session) (m : ClientAction Unit) (es : List Exchange)
    (s' : Session) : Prop where
  ran : Ran c.outside.driver es (m.after c).outside.driver
  connection : (m.after c).connection = { c.connection with session := some s' }
  ignored : c.connection.settings.errorReporting.equals (.int Settings.ignoreErrors) = true →
    Classed s.errorClass es → m.outcome c = .ok ()

section
variable {c : Client} {s s' : Session}

theorem Made.of_eq {m m' : ClientAction Unit} {es : List Exchange} (same : m c = m' c)
    (made : Made c s m' es s') : Made c s m es s' := by
  have after : m.after c = m'.after c := Action.after_congr same
  have outcome : m.outcome c = m'.outcome c := by rw [Action.outcome, same, Action.outcome]
  exact ⟨after ▸ made.ran, after ▸ made.connection, outcome ▸ made.ignored⟩

/-- What follows is done whether or not what came before failed. -/
theorem Made.ensuring {m m' : ClientAction Unit} {es es' : List Exchange} {s'' : Session}
    (first : Made c s m es s') (same : s'.errorClass = s.errorClass)
    (next : Made (m.after c) s' m' es' s'') : Made c s (m.ensuring m') (es ++ es') s'' := by
  constructor
  · rw [Action.after_ensuring]
    exact first.ran.trans next.ran
  · rw [Action.after_ensuring, next.connection, first.connection]
  · intro ignores classed
    have firstly := first.ignored ignores fun x mem => classed x (List.mem_append_left _ mem)
    have lastly := next.ignored (by rw [first.connection]; exact ignores)
      (same ▸ fun x mem => classed x (List.mem_append_right _ mem))
    rw [Action.outcome_ensuring, lastly]
    exact firstly

theorem report_ignored
    (ignores : c.connection.settings.errorReporting.equals (.int Settings.ignoreErrors) = true)
    (e : DriverError) : report e c = .ok () c := by
  rw [report_eq, Surroundings.report, if_pos ignores]
  rfl

/-- A call of the session is made whatever comes of it, and its failure is reported. -/
theorem made_call (connected : c.connection.session = some s) {m : Session.SessionAction Unit}
    {call : Call} {failure : Option Fault} {d : Driver}
    (ran : Ran c.outside.driver [⟨call, failure⟩] d)
    (run : m ⟨s, c.outside.driver⟩ =
      Action.ended (failure.map (Driver.handle [s.errorClass])) ⟨s', d⟩) :
    Made c s (reporting (onSession m)) [⟨call, failure⟩] s' := by
  have ended := onSession_ended connected run
  obtain ⟨connection, driver⟩ := reporting_after (onSession m) c
  rw [Action.after_ended ended] at connection driver
  refine ⟨driver ▸ ran, connection, fun ignores classed => ?_⟩
  cases failure with
  | none => rw [Action.outcome, reporting, Action.recover_ok ended]
  | some f =>
    have handled : Driver.handle [s.errorClass] f = .driver (.wrap f) :=
      classed.last rfl (List.mem_singleton.mpr rfl)
    rw [Option.map_some, handled] at ended
    have told := report_ignored ignores (.wrap f)
      (c := { c with connection.session := some s', outside.driver := d })
    have run : reporting (onSession m) c = .ok () _ := (Action.recover_error ended _).trans told
    rw [Action.outcome, run]

theorem made_close (connected : c.connection.session = some s) (isOpen : s.closed = false) :
    ∃ failure, Made c s close [⟨.close, failure⟩] { s with closed := true } := by
  obtain ⟨failure, d, ran, run⟩ := Session.close_cases (d := c.outside.driver) isOpen
  refine ⟨failure, (made_call connected ran run).of_eq ?_⟩
  rw [close, Action.bind_ok (Action.run_get c), connected]
  rfl

theorem made_settle (failed : Bool) (connected : c.connection.session = some s)
    (isOpen : s.closed = false) (active : s.inTransaction = true) :
    ∃ failure, Made c s (settle failed) [⟨if failed then .rollback else .commit, failure⟩]
      { s with inTransaction := false } := by
  obtain ⟨failure, d, ran, run⟩ := Session.settle_cases (d := c.outside.driver) isOpen
    (c := if failed then .rollback else .commit) (by cases failed <;> simp [Call.operation])
  refine ⟨failure, (made_call connected ran run).of_eq ?_⟩
  rw [settle, Action.bind_ok (Action.run_get c), connected]
  simp only [isOpen, active]
  cases failed <;> rfl

theorem settle_idle {failed : Bool} (connected : c.connection.session = some s)
    (idle : (!s.closed && s.inTransaction) = false) : settle failed c = .ok () c := by
  rw [settle, Action.bind_ok (Action.run_get c), connected]
  simp only [idle]
  rfl

/-- An open session is left by the calls that are due. -/
theorem made_leave (failed : Bool) (connected : c.connection.session = some s)
    (isOpen : s.closed = false) :
    ∃ es, Made c s (leave failed) es s.left ∧ es.map (·.call) = leavingCalls failed (some s) := by
  cases active : s.inTransaction with
  | false =>
    obtain ⟨failure, made⟩ := made_close connected isOpen
    have left : s.left = { s with closed := true } := by simp [Session.left, isOpen, ← active]
    refine ⟨_, left ▸ made.of_eq ?_, by simp [leavingCalls, isOpen, active]⟩
    have idle : settle failed c = Action.ofExcept (.ok ()) c :=
      settle_idle connected (by rw [active, Bool.and_false])
    rw [leave, Action.ensuring_eq idle]
    cases close c <;> rfl
  | true =>
    obtain ⟨failure, settled⟩ := made_settle failed connected isOpen active
    obtain ⟨failure', closed⟩ := made_close (c := (settle failed).after c)
      (congrArg Connection.session settled.connection) isOpen
    have left : s.left = { s with closed := true, inTransaction := false } := by
      simp [Session.left, isOpen]
    exact ⟨_, left ▸ settled.ensuring rfl closed, by simp [leavingCalls, isOpen, active]⟩

end

/-! ## Finality -/

def Ended (c : Client) : Prop :=
  ∀ s, c.connection.session = some s → s.closed = true

theorem Ended.close {c : Client} (ended : c.Ended) : close c = .ok () c := by
  rw [Client.close, Action.bind_ok (Action.run_get c)]
  cases connected : c.connection.session with
  | none => rfl
  | some s =>
    have closed : Session.close ⟨s, c.outside.driver⟩ =
        Action.ended none ⟨s, c.outside.driver⟩ := Session.close_closed (ended s connected)
    refine (Action.recover_ok (onSession_ended connected closed) _).trans ?_
    rw [← connected]

/-- Where no session is open, nothing is left to end. -/
theorem Ended.run {c : Client} (ended : c.Ended) (ending : Ending) : ending.run c = .ok () c := by
  cases ending with
  | close => exact ended.close
  | leave failed =>
    have idle : settle failed c = Action.ofExcept (.ok ()) c := by
      cases connected : c.connection.session with
      | none => rw [settle, Action.bind_ok (Action.run_get c), connected]; rfl
      | some s => exact settle_idle connected (by rw [ended s connected]; rfl)
    rw [Ending.run, leave, Action.ensuring_eq idle, ended.close]
    rfl

theorem Ended.reporting {c : Client} (ended : c.Ended) {m : Session.SessionAction Unit}
    (keeps : ∀ s d, s.closed = true → (m.after ⟨s, d⟩).it.closed = true) :
    Ended ((reporting (onSession m)).after c) := by
  intro s connected
  rw [(reporting_after _ c).1, onSession_session] at connected
  obtain ⟨s', connected', rfl⟩ := Option.map_eq_some_iff.mp connected
  exact keeps s' _ (ended s' connected')

theorem Ended.settle {c : Client} (ended : c.Ended) (call : Call) :
    Ended ((Client.reporting (onSession (Session.settle call))).after c) := by
  apply ended.reporting
  intro s d closed
  rw [Action.after, Session.settle_closed closed]
  exact closed

theorem Ended.query {c : Client} (ended : c.Ended) (given : List Value) :
    Ended ((query given).after c) := by
  have hears := query_hears c given
  rw [QueryHears] at hears
  intro s connected
  rw [connected] at hears
  generalize session : c.connection.session = before at hears
  cases hears with
  | nothing => exact ended s session
  | told connected' =>
    have closed := ended _ (session.trans connected')
    exact closed

/-- A connection is not opened again. -/
theorem Ended.after {c : Client} (ended : c.Ended) (t : Turn) : (t.after c).Ended := by
  cases t with
  | other change keeps =>
    intro s connected
    exact ended s ((keeps c).symm.trans connected)
  | request request =>
    cases request with
    | query given =>
      rw [Turn.after, Request.run, Action.after_map]
      exact ended.query given
    | startTransaction =>
      rw [Turn.after, Request.run, Action.after_map]
      apply ended.reporting
      intro s d closed
      rw [Action.after, Session.begin_closed closed]
      exact closed
    | commit =>
      rw [Turn.after, Request.run, Action.after_map]
      exact ended.settle .commit
    | rollback =>
      rw [Turn.after, Request.run, Action.after_map]
      exact ended.settle .rollback
    | close =>
      rw [Turn.after, Request.run, Action.after_map, Action.after, ended.close]
      exact ended

theorem Ended.afterAll {c : Client} (ended : c.Ended) (turns : List Turn) :
    (Turn.afterAll c turns).Ended := by
  induction turns generalizing c with
  | nil => exact ended
  | cons t ts ih => exact ih (ended.after t)

/-- A connection in any state, whatever the settings are and whatever calls fail, is left by the
calls that are due and by no other, and then its session is closed and outside any transaction.
Where errors are ignored and all that the driver fails with are errors of its class, nothing is
raised. From then on, whatever else happens, nothing that ends a connection does anything. -/
theorem leave_ends (c : Client) (failed : Bool) :
    let c' := (leave failed).after c
    ∃ es, c'.outside.driver.history = c.outside.driver.history ++ es ∧
      es.map (·.call) = leavingCalls failed c.connection.session ∧
      c'.connection = { c.connection with session := c.connection.session.map Session.left } ∧
      (c.connection.settings.errorReporting.equals (.int Settings.ignoreErrors) = true →
        (∀ s, c.connection.session = some s → Classed s.errorClass es) →
        (leave failed).outcome c = .ok ()) ∧
      ∀ turns (ending : Ending),
        ending.run (Turn.afterAll c' turns) = .ok () (Turn.afterAll c' turns) := by
  intro c'
  have final (closed : c'.Ended) (turns : List Turn) (ending : Ending) :
      ending.run (Turn.afterAll c' turns) = .ok () (Turn.afterAll c' turns) :=
    (closed.afterAll turns).run ending
  by_cases idle : c.Ended
  · have run : leave failed c = .ok () c := idle.run (.leave failed)
    have same : c' = c := by simp only [c', Action.after, run]
    have kept : c.connection.session.map Session.left = c.connection.session := by
      cases connected : c.connection.session with
      | none => rfl
      | some s => rw [Option.map_some, Session.left, if_pos (idle s connected)]
    refine ⟨[], by rw [same, List.append_nil], ?_, by rw [same, kept], fun _ _ => ?_,
      final (same ▸ idle)⟩
    · cases connected : c.connection.session with
      | none => rfl
      | some s => rw [leavingCalls, if_pos (idle s connected)]; rfl
    · rw [Action.outcome, run]
  · obtain ⟨s, connected, isOpen⟩ : ∃ s, c.connection.session = some s ∧ s.closed = false := by
      simpa [Ended] using idle
    obtain ⟨es, made, calls⟩ := made_leave failed connected isOpen
    refine ⟨es, made.ran.history, by rw [connected, calls], by rw [made.connection, connected]; rfl,
      fun ignores classed => made.ignored ignores (classed s connected), final ?_⟩
    intro s' connected'
    rw [made.connection] at connected'
    cases connected'
    exact s.left_closed

theorem leave_ends_failing :
    let lost : Fault := ⟨.operational, some "server has gone away"⟩
    let driver : Driver :=
      { features := { moduleName := "" }
        faults := fun o => if o = .rollback ∨ o = .close then [some lost] else [] }
    let c : Client :=
      { connection :=
          { settings := { errorReporting := .int Settings.ignoreErrors }
            session := some
              { engine := .null, paramstyle := .text "qmark", errorClass := .driver
                inTransaction := true } }
        outside := { driver, caller := ⟨"", 0⟩ } }
    let c' := (leave true).after c
    c'.outside.driver.history = [⟨.rollback, some lost⟩, ⟨.close, some lost⟩] ∧
      (leave true).outcome c = .ok () ∧ leave false c' = .ok () c' := by
  intro lost driver c c'
  obtain ⟨es, history, -, -, ignored, final⟩ := leave_ends c true
  have made : es = [⟨.rollback, some lost⟩, ⟨.close, some lost⟩] := history.symm
  subst made
  refine ⟨history, ignored (by decide) ?_, final [] (.leave false)⟩
  intro s connected
  cases connected
  have fails : lost.errorClass.isA .driver = true := by decide
  intro x mem f failed
  rcases List.mem_cons.mp mem with rfl | mem
  · cases failed
    exact fails
  · rw [List.mem_singleton.mp mem] at failed
    cases failed
    exact fails

end Client

end SqlTemplate
