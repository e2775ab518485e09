import SqlTemplate.Proofs.Transaction

/-!
How a driver's errors leave a session. Whatever is asked of a session and of the statements that were
prepared in it, and whichever calls fail meanwhile, an operation in which a call failed raises this
library's error for the last call that did, and any other operation raises one of its own checks, if
it raises an error of this library at all.
-/
namespace SqlTemplate

open Driver (Ran)

/-! ## Translated failures -/

/-- The troubles that the library finds out for itself while it works with an open connection. -/
def DriverTrouble.isCheck : DriverTrouble → Bool
  | .notOpen | .reported _ | .announced _ => false
  | _ => true

/-- How an operation ends that made the calls `es`: as the last call that failed has it end, or else on
its own account. -/
inductive Translated {α : Type} (es : List Exchange) : Except Failure α → Prop
  | returned (passed : lastFailure es = none) (a : α) : Translated es (.ok a)
  | reported {f : Fault} {e : DriverError} (last : lastFailure es = some f)
      (trouble : e.trouble = .reported f) (raisedFrom : e.raisedFrom = some f)
      (message : e.message = if f.message = "" then f.errorClass.name
        else f.errorClass.name ++ ": " ++ f.message) :
    Translated es (.error (.driver e))
  | refused {trouble : DriverTrouble} (passed : lastFailure es = none)
      (check : trouble.isCheck = true) : Translated es (.error (.driver ⟨trouble, none⟩))
  /-- An infinite number was bound, a position is too long to be told, or what the driver handed out is
  no row. -/
  | unusable {e : Failure} (passed : lastFailure es = none)
      (general : e = .conversion .infinite ∨ e = .conversion .unwritten ∨
        ∃ typeName, e = .operand (.notIterable typeName)) : Translated es (.error e)

/-- Every failure that a driver's script can bring up is an error of a class. -/
def Driver.Raises (d : Driver) (c : ErrorClass) : Prop :=
  ∀ f, d.Scripted f → f.errorClass.isA c = true

theorem Driver.Raises.after {d d' : Driver} {c : ErrorClass} {es : List Exchange}
    (raises : d.Raises c) (ran : Ran d es d') : d'.Raises c :=
  fun f scripted => raises f (ran.scripted f scripted)

/-- What an operation does to `u`: it makes its calls, keeps `P`, and ends translated. -/
def Translates {σ α : Type} (P : σ → Prop) (m : Action Failure (Live σ) α) (u : Live σ) : Prop :=
  ∃ es outcome u', Ran u.driver es u'.driver ∧ P u'.it ∧ m u = Action.ofExcept outcome u' ∧
    Translated es outcome

theorem ne_driverFailure {c : ErrorClass} {f : Fault}
    (ours : ErrorClass.driverFailure.isA c = false) (known : f.errorClass.isA c = true) :
    f.errorClass ≠ .driverFailure := by
  intro same
  rw [same, ours] at known
  contradiction

section
variable {σ τ α β : Type} {c : ErrorClass} {f : Fault} {es : List Exchange}
  {P : σ → Prop} {Q : τ → Prop} {u u' : Live σ}

/-- A failure that a handler takes is reported, unless it is one of this library. -/
theorem Translated.handled {caught : List ErrorClass} (last : lastFailure es = some f)
    (taken : caught.any f.errorClass.isA = true) (other : f.errorClass ≠ .driverFailure) :
    Translated (α := α) es (.error (Driver.handle caught f)) := by
  have reported : DriverError.wrap f = ⟨.reported f, some f⟩ := by
    rw [DriverError.wrap, DriverError.ofFault, if_neg other]
  rw [Driver.handle, if_pos taken, reported]
  exact .reported last rfl rfl rfl

theorem Translated.map {outcome : Except Failure α} (h : Translated es outcome) (g : α → β) :
    Translated es (outcome.map g) := by
  cases h with
  | returned passed a => exact .returned passed (g a)
  | reported last trouble raisedFrom message => exact .reported last trouble raisedFrom message
  | refused passed check => exact .refused passed check
  | unusable passed general => exact .unusable passed general

theorem Translates.map {m : Action Failure (Live σ) α} (h : Translates P m u) (g : α → β) :
    Translates P (g <$> m) u := by
  obtain ⟨es, outcome, u', ran, kept, run, translated⟩ := h
  refine ⟨es, outcome.map g, u', ran, kept, ?_, translated.map g⟩
  rw [Action.run_map, run]
  cases outcome <;> rfl

/-- An operation of a part keeps what the whole keeps when the part is put back. -/
theorem Translates.onPart {part : τ → σ} {put : σ → τ → τ} {t : Live τ}
    {m : Action Failure (Live σ) α} (h : Translates P m ⟨part t.it, t.driver⟩)
    (kept : ∀ x, P x → Q (put x t.it)) : Translates Q (Live.onPart part put m) t := by
  obtain ⟨es, outcome, u', ran, part', run, translated⟩ := h
  exact ⟨es, outcome, ⟨put u'.it t.it, u'.driver⟩, ran, kept u'.it part', Live.onPart_ofExcept run,
    translated⟩

theorem Translates.returned {m : Action Failure (Live σ) α} {a : α} (run : m u = .ok a u')
    (kept : P u'.it) (same : u'.driver = u.driver) : Translates P m u :=
  ⟨[], .ok a, u', same ▸ .refl _, kept, run, .returned rfl a⟩

theorem Translates.refused {m : Action Failure (Live σ) α} {trouble : DriverTrouble}
    (run : m u = .error (.driver ⟨trouble, none⟩) u) (kept : P u.it)
    (check : trouble.isCheck = true) : Translates P m u :=
  ⟨[], .error _, u, .refl _, kept, run, .refused rfl check⟩

/-- An operation that lets its last failure through a handler of the driver's class. -/
theorem Translates.ended {m : Action Failure (Live σ) Unit} {caught : List ErrorClass}
    (raises : u.driver.Raises c) (ours : ErrorClass.driverFailure.isA c = false) (mem : c ∈ caught)
    (ran : Ran u.driver es u'.driver) (still : ∀ x ∈ es, x.call.operation ≠ .scroll)
    (run : m u = Action.ended ((lastFailure es).map (Driver.handle caught)) u') (kept : P u'.it) :
    Translates P m u := by
  cases last : lastFailure es with
  | none =>
    rw [last] at run
    exact ⟨es, .ok (), u', ran, kept, run, .returned last ()⟩
  | some f =>
    rw [last] at run
    refine ⟨es, .error (Driver.handle caught f), u', ran, kept, run, ?_⟩
    obtain ⟨x, hx, failed⟩ := mem_of_lastFailure last
    have known := ran.classed still raises x hx f failed
    exact .handled last (List.any_eq_true.mpr ⟨c, mem, known⟩) (ne_driverFailure ours known)

end

/-! ## Statements -/

namespace Statement

inductive Request
  | bind (position : Int) (v : Value) (kind : BindKind) (size : Value)
  | execute
  | fetchOne
  | scroll (index : Int)
  | close

def Request.run : Request → StatementAction (Option Row)
  | bind position v kind size => (fun _ => none) <$> Statement.bind position v kind size
  | execute => (fun _ => none) <$> Statement.execute
  | fetchOne => Statement.fetchOne
  | scroll index => (fun _ => none) <$> Statement.scroll index
  | close => (fun _ => none) <$> Statement.close

/-- The driver's errors are of class `c`. -/
def OfClass (c : ErrorClass) (t : Statement) : Prop :=
  t.errorClass = c

/-- Trouble with a bind is told by the position, unless that is too long. -/
theorem troubleAt_translates {P : Statement → Prop} {m : StatementAction Unit}
    {u : Live Statement} {position : Int} {trouble : DriverTrouble}
    (run : m u = .error (troubleAt position trouble) u) (kept : P u.it)
    (check : trouble.isCheck = true) : Translates P m u := by
  rcases Nat.lt_or_ge position.natAbs (10 ^ Number.digitLimit) with short | long
  · rw [troubleAt_short _ short] at run
    exact .refused run kept check
  · rw [troubleAt_overlong _ long] at run
    exact ⟨[], .error _, u, .refl _, kept, run, .unusable rfl (.inr (.inl rfl))⟩

section
variable {t : Statement} {d : Driver} {c : ErrorClass}

theorem checkOpen_closed (closed : t.closed = true) :
    checkOpen ⟨t, d⟩ = .error (.driver ⟨.statementClosed, none⟩) ⟨t, d⟩ := by
  simp only [checkOpen, Action.run_bind, Action.run_get, closed]
  rfl

/-- A closed statement refuses everything but to be closed again. -/
theorem Request.run_closed (closed : t.closed = true) {request : Request}
    (other : request ≠ .close) :
    request.run ⟨t, d⟩ = .error (.driver ⟨.statementClosed, none⟩) ⟨t, d⟩ := by
  have refused {α : Type} (rest : Unit → StatementAction α) :
      (checkOpen >>= rest) ⟨t, d⟩ = .error (.driver ⟨.statementClosed, none⟩) ⟨t, d⟩ :=
    Action.bind_error (checkOpen_closed closed) rest
  cases request with
  | bind => exact Action.bind_error (refused _) _
  | execute => exact Action.bind_error (refused _) _
  | fetchOne => exact refused _
  | scroll => exact Action.bind_error (refused _) _
  | close => exact absurd rfl other

theorem close_closed (closed : t.closed = true) : close ⟨t, d⟩ = .ok () ⟨t, d⟩ := by
  rw [close, Action.bind_ok (Action.run_get _)]
  simp only [closed]
  rfl

theorem close_after (t : Statement) (d : Driver) : (close.after ⟨t, d⟩).it.closed = true := by
  cases isOpen : t.closed with
  | true => rw [Action.after, close_closed isOpen, isOpen]
  | false =>
    obtain ⟨failure, d', _, run⟩ := close_eq (d := d) isOpen
    rw [Action.after_ended run]

theorem bind_translates (ofClass : t.OfClass c) (isOpen : t.closed = false) (position : Int)
    (v : Value) (kind : BindKind) (size : Value) :
    Translates (OfClass c) (bind position v kind size) ⟨t, d⟩ := by
  rcases bind_cases (d := d) isOpen position v kind size with
    ⟨_, run⟩ | ⟨_, e, _, run⟩ | ⟨_, sent, _, run⟩
  · exact troubleAt_translates run ofClass rfl
  · by_cases infinite : e = .infinite
    · rw [infinite] at run
      exact ⟨[], .error _, ⟨t, d⟩, .refl d, ofClass, run, .unusable rfl (.inl rfl)⟩
    · rw [conversionFailure_reported infinite] at run
      exact troubleAt_translates run ofClass rfl
  · exact .returned run ofClass rfl

theorem execute_translates (ofClass : t.OfClass c) (isOpen : t.closed = false)
    (raises : d.Raises c) (ours : ErrorClass.driverFailure.isA c = false) :
    Translates (OfClass c) execute ⟨t, d⟩ := by
  rcases execute_cases (d := d) isOpen with
    ⟨position, _, run⟩ | ⟨xs, es, cursor, d', _, _, ran, sends, _, run⟩
  · exact .refused run ofClass rfl
  · have mem : c ∈ t.errorClass :: executionErrors := by
      rw [ofClass]
      exact List.mem_cons_self ..
    exact .ended raises ours mem ran sends.still run ofClass

theorem fetchOne_translates (ofClass : t.OfClass c) (isOpen : t.closed = false)
    (raises : d.Raises c) (ours : ErrorClass.driverFailure.isA c = false) :
    Translates (OfClass c) fetchOne ⟨t, d⟩ := by
  obtain ⟨es, cursor, d', ran, calls, _, run⟩ := fetchOne_cases (d := d) isOpen rfl
  have still : ∀ x ∈ es, x.call.operation ≠ .scroll := by
    rcases calls with rfl | ⟨f, rfl⟩ <;> simp [Call.operation]
  refine ⟨es, _, ⟨{ t with cursor }, d'⟩, ran, ofClass, run, ?_⟩
  cases last : lastFailure es with
  | some f =>
    obtain ⟨x, hx, failed⟩ := mem_of_lastFailure last
    have known := ran.classed still raises x hx f failed
    refine .handled last ?_ (ne_driverFailure ours known)
    exact List.any_eq_true.mpr ⟨t.errorClass, List.mem_singleton.mpr rfl, ofClass ▸ known⟩
  | none =>
    cases next : nextRow ⟨t, d⟩ with
    | ok row => exact .returned last row
    | error e =>
      rcases nextRow_error next with rfl | ⟨typeName, rfl⟩
      · exact .refused last rfl
      · exact .unusable last (.inr (.inr ⟨typeName, rfl⟩))

/-- Besides the driver's errors a movement may meet the one for a target outside of the rows. -/
theorem scroll_translates (ofClass : t.OfClass c) (isOpen : t.closed = false)
    (raises : d.Raises c) (ours : ErrorClass.driverFailure.isA c = false) (index : Int) :
    Translates (OfClass c) (scroll index) ⟨t, d⟩ := by
  cases moves : canScroll ⟨t, d⟩ with
  | false => exact .refused (scroll_refused isOpen moves index) ofClass rfl
  | true =>
    obtain ⟨failure, d', ran, met, _, run⟩ := scroll_eq (d := d) isOpen moves index
    cases failure with
    | none => exact ⟨_, .ok (), _, ran, ofClass, run, .returned rfl ()⟩
    | some f =>
      refine ⟨_, .error _, ⟨t, d'⟩, ran, ofClass, run, .handled rfl ?_ ?_⟩
      · rcases met f rfl with scripted | ⟨_, rfl⟩
        · have known := raises f scripted
          exact List.any_eq_true.mpr ⟨t.errorClass, List.mem_cons_self .., ofClass ▸ known⟩
        · exact List.any_eq_true.mpr ⟨.index, by simp, by decide⟩
      · rcases met f rfl with scripted | ⟨_, rfl⟩
        · exact ne_driverFailure ours (raises f scripted)
        · decide

theorem close_translates (ofClass : t.OfClass c) (raises : d.Raises c)
    (ours : ErrorClass.driverFailure.isA c = false) : Translates (OfClass c) close ⟨t, d⟩ := by
  cases isOpen : t.closed with
  | true => exact .returned (close_closed isOpen) ofClass rfl
  | false =>
    obtain ⟨failure, d', ran, run⟩ := close_eq (d := d) isOpen
    have last : lastFailure [⟨.closeCursor t.cursor.number, failure⟩] = failure := by simp
    rw [← last] at run
    exact .ended raises ours (List.mem_singleton.mpr ofClass.symm) ran (by simp [Call.operation]) run
      ofClass

theorem Request.run_translates (ofClass : t.OfClass c) (raises : d.Raises c)
    (ours : ErrorClass.driverFailure.isA c = false) (request : Request) :
    Translates (OfClass c) request.run ⟨t, d⟩ := by
  cases isOpen : t.closed with
  | true =>
    by_cases closing : request = .close
    · rw [closing]
      exact (close_translates ofClass raises ours).map _
    · exact .refused (Request.run_closed isOpen closing) ofClass rfl
  | false =>
    cases request with
    | bind position v kind size =>
      exact (bind_translates ofClass isOpen position v kind size).map _
    | execute => exact (execute_translates ofClass isOpen raises ours).map _
    | fetchOne => exact fetchOne_translates ofClass isOpen raises ours
    | scroll index => exact (scroll_translates ofClass isOpen raises ours index).map _
    | close => exact (close_translates ofClass raises ours).map _

end

end Statement

/-! ## Sessions -/

namespace Session

def OfClass (c : ErrorClass) (s : Session) : Prop :=
  s.errorClass = c

section
variable {s : Session} {d : Driver} {c : ErrorClass}

theorem begin_translates (ofClass : s.OfClass c) (raises : d.Raises c)
    (ours : ErrorClass.driverFailure.isA c = false) : Translates (OfClass c) begin ⟨s, d⟩ := by
  cases isOpen : s.closed with
  | true => exact .refused (begin_closed isOpen) ofClass rfl
  | false =>
    cases nested : s.inTransaction with
    | true => exact .refused (begin_nested isOpen nested) ofClass rfl
    | false =>
      obtain ⟨es, d', ran, begins, run⟩ := begin_cases (d := d) isOpen nested
      exact .ended raises ours (List.mem_singleton.mpr ofClass.symm) ran begins.still run ofClass

theorem settle_translates (ofClass : s.OfClass c) (raises : d.Raises c)
    (ours : ErrorClass.driverFailure.isA c = false) {call : Call}
    (ending : call = .commit ∨ call = .rollback) :
    Translates (OfClass c) (settle call) ⟨s, d⟩ := by
  have kind : call.operation ≠ .cursor ∧ call.operation ≠ .scroll := by
    rcases ending with rfl | rfl <;> simp [Call.operation]
  cases isOpen : s.closed with
  | true => exact .refused (settle_closed isOpen call) ofClass rfl
  | false =>
    obtain ⟨failure, d', ran, run⟩ := settle_cases (d := d) isOpen kind.1
    have last : lastFailure [⟨call, failure⟩] = failure := by simp
    rw [← last] at run
    exact .ended raises ours (List.mem_singleton.mpr ofClass.symm) ran (by simpa using kind.2) run
      ofClass

theorem close_translates (ofClass : s.OfClass c) (raises : d.Raises c)
    (ours : ErrorClass.driverFailure.isA c = false) : Translates (OfClass c) close ⟨s, d⟩ := by
  cases isOpen : s.closed with
  | true => exact .returned (close_closed isOpen) ofClass rfl
  | false =>
    obtain ⟨failure, d', ran, run⟩ := close_cases (d := d) isOpen
    have last : lastFailure [⟨.close, failure⟩] = failure := by simp
    rw [← last] at run
    exact .ended raises ours (List.mem_singleton.mpr ofClass.symm) ran (by simp [Call.operation]) run
      ofClass

theorem Request.run_translates (ofClass : s.OfClass c) (raises : d.Raises c)
    (ours : ErrorClass.driverFailure.isA c = false) (request : Request) :
    Translates (OfClass c) request.run ⟨s, d⟩ := by
  cases request with
  | begin => exact begin_translates ofClass raises ours
  | commit => exact settle_translates ofClass raises ours (.inl rfl)
  | rollback => exact settle_translates ofClass raises ours (.inr rfl)

end

end Session

/-! ## A session and its statements -/

/-- A session and the statements that were prepared in it, the first one first. -/
structure Prepared where
  session : Session
  statements : List Statement := []

namespace Prepared

inductive Request
  | prepare (sql : String)
  | transaction (request : Session.Request)
  | close
  | statement (index : Nat) (request : Statement.Request)

def onSession {α : Type} (m : Session.SessionAction α) : Action Failure (Live Prepared) α :=
  Live.onPart (·.session) (fun s p => { p with session := s }) m

def Request.run : Request → Action Failure (Live Prepared) (Option Row)
  | prepare sql => do
    let t ← onSession (Session.prepare sql)
    modify fun p => { p with it.statements := p.it.statements ++ [t] }
    return none
  | transaction request => (fun _ => none) <$> onSession request.run
  | close => (fun _ => none) <$> onSession Session.close
  | statement index request => fun p =>
    match p.it.statements[index]? with
    | none => .ok none p
    | some t =>
      Live.onPart (fun _ => t) (fun t p => { p with statements := p.statements.set index t })
        request.run p

structure OfClass (c : ErrorClass) (p : Prepared) : Prop where
  session : p.session.OfClass c
  statements : ∀ t ∈ p.statements, t.OfClass c

section
variable {p : Live Prepared} {c : ErrorClass}

theorem prepare_translates (ofClass : p.it.OfClass c) (raises : p.driver.Raises c)
    (ours : ErrorClass.driverFailure.isA c = false) (sql : String) :
    Translates (OfClass c) (Request.prepare sql).run p := by
  have onto (outcome : Except Failure Statement) (u : Live Session)
      (run : Session.prepare sql ⟨p.it.session, p.driver⟩ = Action.ofExcept outcome u) :
      onSession (Session.prepare sql) p =
        Action.ofExcept outcome ⟨{ p.it with session := u.it }, u.driver⟩ :=
    Live.onPart_ofExcept run
  cases isOpen : p.it.session.closed with
  | true =>
    have refused := onto (.error _) _ (Session.prepare_closed isOpen sql)
    exact .refused (Action.bind_error refused _) ofClass rfl
  | false =>
    rcases Session.prepare_cases (d := p.driver) isOpen sql with ⟨d, ran, run⟩ | ⟨f, d, ran, run⟩
    · let t : Statement :=
        { cursor := { number := p.driver.cursors }, sql, errorClass := p.it.session.errorClass }
      have prepared := onto (.ok t) _ run
      refine ⟨_, .ok none, ⟨{ p.it with statements := p.it.statements ++ [t] }, d⟩, ran,
        ⟨ofClass.session, ?_⟩, Action.bind_ok prepared _, .returned rfl none⟩
      intro t' mem
      rcases List.mem_append.mp mem with mem | mem
      · exact ofClass.statements t' mem
      · rw [List.mem_singleton.mp mem]
        exact ofClass.session
    · have failed := onto (.error _) _ run
      have known : f.errorClass.isA c = true :=
        ran.classed (by simp [Call.operation]) raises _ (List.mem_singleton.mpr rfl) f rfl
      refine ⟨_, .error _, ⟨p.it, d⟩, ran, ofClass, Action.bind_error failed _,
        .handled rfl ?_ (ne_driverFailure ours known)⟩
      exact List.any_eq_true.mpr ⟨_, List.mem_singleton.mpr rfl, ofClass.session ▸ known⟩

theorem Request.run_translates (ofClass : p.it.OfClass c) (raises : p.driver.Raises c)
    (ours : ErrorClass.driverFailure.isA c = false) (request : Request) :
    Translates (OfClass c) request.run p := by
  have put (s : Session) (same : s.OfClass c) : OfClass c { p.it with session := s } :=
    ⟨same, ofClass.statements⟩
  cases request with
  | prepare sql => exact prepare_translates ofClass raises ours sql
  | transaction request =>
    exact ((request.run_translates ofClass.session raises ours).onPart put).map _
  | close => exact ((Session.close_translates ofClass.session raises ours).onPart put).map _
  | statement index request =>
    cases found : p.it.statements[index]? with
    | none =>
      have nothing : (Request.statement index request).run p = .ok none p := by
        simp only [Request.run, found]
      exact .returned nothing ofClass rfl
    | some t =>
      have translates := request.run_translates (ofClass.statements t (List.mem_of_getElem? found))
        raises ours
      have run : (Request.statement index request).run p =
          Live.onPart (fun _ => t) (fun t p => { p with statements := p.statements.set index t })
            request.run p := by
        simp only [Request.run, found]
      rw [Translates, run]
      refine translates.onPart (P := Statement.OfClass c) fun t' same => ⟨ofClass.session, ?_⟩
      intro u mem
      rcases List.mem_or_eq_of_mem_set mem with mem | rfl
      · exact ofClass.statements u mem
      · exact same

/-- An operation that ends translated raises no error of a driver's class. -/
theorem not_isA_of_translated {α : Type} {es : List Exchange} {outcome : Except Failure α}
    {e : Failure} (h : Translated es outcome) (failed : outcome = .error e)
    (ours : ErrorClass.driverFailure.isA c = false) (special : c ∉ ErrorClass.generalClasses) :
    e.errorClass.isA c = false := by
  have general : ∀ k ∈ [ErrorClass.overflow, .value, .type],
      ∀ a ∈ k.lineage, a ∈ ErrorClass.generalClasses := by
    decide
  have outside : ∀ k ∈ [ErrorClass.overflow, .value, .type], k.isA c = false := by
    intro k mem
    rw [ErrorClass.isA, List.contains_eq_mem, decide_eq_false_iff_not]
    intro above
    exact special (general k mem c above)
  cases h with
  | returned => contradiction
  | reported | refused =>
    cases failed
    exact ours
  | unusable passed kind =>
    cases failed
    rcases kind with rfl | rfl | ⟨typeName, rfl⟩
    · exact outside .overflow (by simp)
    · exact outside .value (by simp)
    · exact outside .type (by simp)

end

/-- Whatever was asked of a session and of the statements prepared in it, and whichever calls failed and
are yet to fail, as long as the driver raises errors of the session's class only, to which no error of
this library belongs. If calls of the next operation fail, it raises this library's error, made of the
last of them and raised from it. If none fails, it raises no error of this library but for its own
checks. An error of the driver's class it never raises. -/
theorem errors_translated {s : Session} {d : Driver} (raises : d.Raises s.errorClass)
    (ours : ∀ k ∈ ErrorClass.ownClasses, k.isA s.errorClass = false) (earlier : List Request)
    (request : Request) :
    let p := Action.afterAll Request.run ⟨{ session := s }, d⟩ earlier
    ∃ es, (request.run.after p).driver.history = p.driver.history ++ es ∧
      Translated es (request.run.outcome p) ∧
      (s.errorClass ∉ ErrorClass.generalClasses →
        ∀ e, request.run.outcome p = .error e → e.errorClass.isA s.errorClass = false) := by
  intro p
  have own : ErrorClass.driverFailure.isA s.errorClass = false := ours _ (by decide)
  have kept : p.it.OfClass s.errorClass ∧ p.driver.Raises s.errorClass := by
    apply Action.afterAll_kept
      (P := fun p : Live Prepared => p.it.OfClass s.errorClass ∧ p.driver.Raises s.errorClass)
    · rintro request p ⟨ofClass, raises⟩
      obtain ⟨es, outcome, p', ran, ofClass', run, _⟩ := request.run_translates ofClass raises own
      rw [Action.after_ofExcept run]
      exact ⟨ofClass', raises.after ran⟩
    · exact ⟨⟨rfl, by simp⟩, raises⟩
  obtain ⟨es, outcome, p', ran, _, run, translated⟩ := request.run_translates kept.1 kept.2 own
  rw [Action.after_ofExcept run, Action.outcome_ofExcept run]
  refine ⟨es, ran.history, translated, ?_⟩
  intro special e failed
  exact not_isA_of_translated translated failed own special

theorem errors_translated_twice :
    let first : Fault := ⟨.operational, some "disk I/O error"⟩
    let second : Fault := ⟨.programming, none⟩
    let driver : Driver :=
      { features := { moduleName := "" }
        faults := fun o =>
          if o = .execute then [none, some first] else if o = .closeCursor then [some second] else [] }
    let s : Session := { engine := .null, paramstyle := .text "qmark", errorClass := .driver }
    let p := Action.afterAll Request.run ⟨{ session := s }, driver⟩
      [.prepare "SELECT ?", .statement 0 (.bind 1 (.int 7) .number .null), .statement 0 .execute]
    (driver.Raises s.errorClass ∧ s.errorClass ∉ ErrorClass.generalClasses ∧
        ∀ k ∈ ErrorClass.ownClasses, k.isA s.errorClass = false) ∧
      ∃ es e, lastFailure es = some second ∧
        Translated es ((Request.transaction .begin).run.outcome p) ∧
        (Request.transaction .begin).run.outcome p = .error e ∧
        e.errorClass.isA s.errorClass = false ∧ e.message = "ProgrammingError" := by
  intro first second driver s p
  have raises : driver.Raises s.errorClass := by
    rintro f (⟨o, mem⟩ | ⟨r, mem, _⟩)
    · simp only [driver] at mem
      split at mem
      · obtain rfl : f = first := by simpa using mem
        rfl
      · split at mem
        · cases List.mem_singleton.mp mem
          rfl
        · cases mem
    · cases mem
  have ours : ∀ k ∈ ErrorClass.ownClasses, k.isA s.errorClass = false := by decide
  have special : s.errorClass ∉ ErrorClass.generalClasses := by decide
  obtain ⟨es, history, translated, never⟩ := errors_translated raises ours
    [.prepare "SELECT ?", .statement 0 (.bind 1 (.int 7) .number .null), .statement 0 .execute]
    (.transaction .begin)
  have made : es = ((Request.transaction .begin).run.after p).driver.history.drop
      p.driver.history.length := by
    rw [history, List.drop_left]
  have raised : (Request.transaction .begin).run.outcome p =
      .error (.driver ⟨.reported second, some second⟩) := rfl
  refine ⟨⟨raises, special, ours⟩, es, _, ?_, translated, raised, never special _ raised, by decide⟩
  rw [made]
  decide +kernel

end Prepared

end SqlTemplate
