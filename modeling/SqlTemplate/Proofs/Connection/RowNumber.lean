import SqlTemplate.Proofs.Connection.Cursors

/-!
The number of rows that a query comes to, once its statement was executed. Either the driver tells it,
or a second statement counts the rows. Whichever calls of that one fail, the number is then unknown and
nothing else is wrong; but what it brings back is read as a number, and where it is none, the query
ends with the failure of reading it, although its statement was executed.
-/
namespace SqlTemplate

open Driver (Ran)
open RowCount (Counts countingSql)
open Statement (Sends encodeFrom)

namespace RowCount

/-- The rows of a statement need to be counted that was answered with `reply`. -/
def Untold (f : Features) (sql : String) (reply : Reply) : Prop :=
  Statement.toldRows f reply < 0 ∧ selects sql = true

instance (f : Features) (sql : String) (reply : Reply) : Decidable (Untold f sql reply) :=
  inferInstanceAs (Decidable (_ ∧ _))

/-- The number of the rows of a statement that was answered with `reply`. If they need to be counted,
that took the calls `es` and was answered with `counting`. -/
def number (f : Features) (sql : String) (reply counting : Reply) (es : List Exchange) :
    Except Failure Int :=
  if Untold f sql reply then
    match lastFailure es with
    | some _ => .ok (-1)
    | none => QueryRun.ofCount (Statement.firstRow f counting)
  else .ok (Statement.toldRows f reply)

section
variable {c : ErrorClass} {n : Nat} {f : Features} {reply counting : Reply} {sql : String}
  {xs : List (Value × Value)} {es : List Exchange} {number : Except Failure Int}

theorem ofCount_brings {row : Except Failure (Option Row)} (brings : Brings c f counting es row)
    (classed : Classed c es) :
    QueryRun.ofCount row =
      match lastFailure es with
      | some _ => .ok (-1)
      | none => QueryRun.ofCount (Statement.firstRow f counting) := by
  cases brings with
  | failed last mem => rw [classed.last last mem, last, QueryRun.ofCount]
  | passed fine => rw [fine]

/-- Where only calls fail that the session's class of errors is for, numbers are found in this way. -/
theorem number_eq
    (h : QueryRun.Numbers c n f counting sql xs (Statement.toldRows f reply) es number)
    (classed : Classed c es) :
    number = RowCount.number f sql reply counting es ∧
      if Untold f sql reply then
        Counts n (countingSql sql) xs (f.hasSetInputSizes && !xs.isEmpty) es
      else es = [] := by
  cases h with
  | told known =>
    have enough : ¬ Untold f sql reply := by
      rintro ⟨untold, selects⟩
      rcases known with told | other
      · omega
      · rw [selects] at other
        contradiction
    rw [RowCount.number, if_neg enough, if_neg enough]
    exact ⟨rfl, rfl⟩
  | counted untold selects counts brings =>
    have untold : Untold f sql reply := ⟨untold, selects⟩
    rw [RowCount.number, if_pos untold, if_pos untold]
    exact ⟨ofCount_brings brings classed, counts⟩

/-- A number is only missing where no call failed, and then what was brought is not one. -/
theorem number_error {e : Failure} (h : RowCount.number f sql reply counting es = .error e) :
    lastFailure es = none ∧ ((∃ k, e = .conversion k) ∨ ∃ o, e = .operand o) := by
  rw [RowCount.number] at h
  split at h
  case isFalse => contradiction
  case isTrue =>
    split at h
    · contradiction
    · next fine =>
      refine ⟨fine, ?_⟩
      cases first : Statement.firstRow f counting with
      | ok row =>
        rw [first, QueryRun.ofCount] at h
        cases read : ofRow row with
        | ok k =>
          rw [read] at h
          contradiction
        | error k =>
          rw [read] at h
          exact .inl ⟨k, (Except.error.inj h).symm⟩
      | error x =>
        rw [first] at h
        rcases firstRow_error first with rfl | ⟨typeName, rfl⟩
        · contradiction
        · exact .inr ⟨_, (Except.error.inj h).symm⟩

end

end RowCount

namespace QueryRun

section
variable {r : QueryRun}

/-- The attempt of a query ends without its statement being executed. If it ends well, that is since
the failure is recorded in the result. -/
structure Unexecuted (r : QueryRun) (es : List Exchange) (outcome : Except Failure Unit)
    (r' : QueryRun) : Prop where
  ran : Ran r.driver es r'.driver
  stays : Stays r r'
  session : r'.client.connection.session = r.client.connection.session
  unsent : ∀ sql, ¬ Executed r.driver.cursors sql es
  recorded : outcome = .ok () → r'.result.exception.isSome = true

theorem attempt_unexecuted {es : List Exchange} {e : Failure} {r₁ : QueryRun}
    (sent : Sent r es r₁) (run : execute r = .error e r₁)
    (isOpen : ∀ t, r₁.statement = some t → t.closed = false)
    (unsent : ∀ sql, ¬ Executed r.driver.cursors sql es) (start : Ticks) :
    ∃ es outcome r', Unexecuted r es outcome r' ∧
      attempt start r = Action.ofExcept outcome r' := by
  by_cases own : ∃ x, e = .driver x
  · obtain ⟨x, rfl⟩ := own
    obtain ⟨r₂, failed, session, ends⟩ := recordFailure_cases start x isOpen
    have stays := sent.toStays.trans failed.toStays
    have recorded : r₂.result.exception.isSome = true := by
      rw [failed.result]
      rfl
    rcases ends with ⟨_, ran, run'⟩ | ⟨t, closing, _, ran, run'⟩
    · refine ⟨es, .ok (), r₂, ⟨?_, stays, session.trans sent.session, unsent, fun _ => recorded⟩,
        (Action.recover_error run _).trans run'⟩
      rw [← List.append_nil es]
      exact sent.ran.trans ran
    · refine ⟨_, _, r₂, ⟨sent.ran.trans ran, stays, session.trans sent.session, ?_,
        fun _ => recorded⟩, (Action.recover_error run _).trans run'⟩
      intro sql executed
      rw [executed_append] at executed
      rcases executed with before | ⟨values, closing⟩
      · exact unsent sql before
      · simp at closing
  · refine ⟨es, .error e, r₁, ⟨sent.ran, sent.toStays, sent.session, unsent, nofun⟩,
      (Action.recover_error run _).trans ?_⟩
    cases e <;> first | rfl | exact absurd ⟨_, rfl⟩ own

/-- The attempt of a query executes its statement, or it ends without that. -/
theorem attempt_executes (fresh : r.statement = none) (start : Ticks) :
    (∃ es outcome r', Unexecuted r es outcome r' ∧
      attempt start r = Action.ofExcept outcome r') ∨
    ∃ s xs es es' number r', r.client.connection.session = some s ∧ s.closed = false ∧
      Carried r s xs es es' number r' ∧
      attempt start r = Action.ofExcept (number.map fun _ => ()) r' := by
  have nothing (sql : String) : ¬ Executed r.driver.cursors sql [] := by simp [Executed]
  cases connected : r.client.connection.session with
  | none =>
    refine .inl (attempt_unexecuted (.refl r) (execute_absent connected) ?_ nothing start)
    simp [fresh]
  | some s =>
    cases isOpen : s.closed with
    | true =>
      obtain ⟨r', sent, statement, run⟩ := execute_closed connected isOpen
      refine .inl (attempt_unexecuted sent run ?_ nothing start)
      simp [statement, fresh]
    | false =>
      rcases execute_cases connected isOpen fresh with
        ⟨es, e, r', sent, run, unsent, work⟩ | ⟨xs, es, es', number, r', carried, run⟩
      · refine .inl (attempt_unexecuted sent run ?_ ?_ start)
        · exact fun t statement => (Work.statement (statement ▸ work)).1
        · rintro sql ⟨values, mem⟩
          exact unsent sql values mem
      · refine .inr ⟨s, xs, es, es', number, r', rfl, isOpen, carried, ?_⟩
        cases number with
        | ok k => exact Action.recover_ok run _
        | error e =>
          refine (Action.recover_error run _).trans ?_
          have other := (carried.numbers.uncounted rfl).foreign_of
          cases e <;> first | rfl | exact absurd rfl (other _)

/-- The attempt of a query executes its statement, or it ends without that. -/
theorem attempt_carried (fresh : r.statement = none) (start : Ticks) :
    (∃ es outcome r', Ran r.driver es r'.driver ∧ Stays r r' ∧
      attempt start r = Action.ofExcept outcome r' ∧
      ∀ sql, ¬ Executed r.driver.cursors sql es) ∨
    ∃ s xs es es' number r', r.client.connection.session = some s ∧ s.closed = false ∧
      Carried r s xs es es' number r' ∧
      attempt start r = Action.ofExcept (number.map fun _ => ()) r' := by
  refine (attempt_executes fresh start).imp_left ?_
  rintro ⟨es, outcome, r', without, run⟩
  exact ⟨es, outcome, r', without.ran, without.stays, run, without.unsent⟩

end

end QueryRun

namespace Client

open QueryRun (substituted)

/-- The calls `es` of a query execute its statement `sql` with the values `xs` on the driver `d`. Where
its rows need to be counted, the calls `counting` among them do that, with the same values. -/
structure Executes (d : Driver) (sql : String) (xs : List (Value × Value))
    (counting es : List Exchange) : Prop where
  calls : ∃ own, Sends d.cursors sql xs (d.features.hasSetInputSizes && !xs.isEmpty) own ∧
    es = ⟨.cursor d.cursors, none⟩ :: (own ++ counting)
  counts : if RowCount.Untold d.features sql (d.reply 0) then
      Counts (d.cursors + 1) (countingSql sql) xs (d.features.hasSetInputSizes && !xs.isEmpty)
        counting
    else counting = []

/-- How a query ends whose statement was executed, by the number of the rows. -/
inductive Concluded (c : Client) (given : List Value) : Except Failure Int → Prop
  | numbered {k : Int} {result : QueryResult} {c' : Client} (run : query given c = .ok result c')
      (success : result.success = true) (exception : result.exception = none)
      (attached : result.isAttached = true) (rows : result.numberOfRows = some k)
      (counted : c'.connection.queryCount = c.connection.queryCount + 1)
      (unreported : Unreported c c') : Concluded c given (.ok k)
  /-- Nothing is made of the execution, and nobody is told but the caller. -/
  | unread {e : Failure} {c' : Client} (run : query given c = .error e c')
      (uncounted : c'.connection.queryCount = c.connection.queryCount)
      (unreported : Unreported c c') : Concluded c given (.error e)

section
variable {c : Client} {given : List Value} {q : ParsedQuery}

/-- A query of which no hook fails: its attempt makes all its calls. -/
theorem query_calm (calm : c.Calm) (read : parse c.connection given = .ok q)
    {es : List Exchange} {outcome : Except Failure Unit} {r' : QueryRun} :
    let r : QueryRun := { client := c, result := .ofParsed q }
    let r₁ := r.hooked .before c.connection.beforeHook
    Ran r₁.driver es r'.driver → QueryRun.Stays r₁ r' →
    QueryRun.attempt r.clock r₁ = Action.ofExcept outcome r' →
    calls c given = es ∧
      QueryRun.run r = (Action.ofExcept outcome >>= fun _ => QueryRun.finish r.clock)
        (r'.hooked .after c.connection.afterHook) := by
  intro r r₁ ran stays attempted
  have same : r'.client.connection.afterHook = c.connection.afterHook := by
    rw [stays.afterHook, QueryRun.hooked_connection]
  have run := QueryRun.run_calm (r := r) (fun h f set => calm h f (.inl set))
    (fun h f set => calm h f (.inr set)) attempted same
  refine ⟨calls_of_run read run ?_, run⟩
  have whole := ((QueryRun.ran_hooked .before c.connection.beforeHook r).trans ran).trans
    (QueryRun.ran_hooked .after c.connection.afterHook r')
  rwa [List.nil_append, List.append_nil] at whole

/-- What is carried out is concluded. -/
theorem concluded_of_carried (read : parse c.connection given = .ok q) {s : Session}
    {xs : List (Value × Value)} {es es' : List Exchange} {number : Except Failure Int}
    {r' : QueryRun} :
    let r : QueryRun := { client := c, result := .ofParsed q }
    let r₁ := r.hooked .before c.connection.beforeHook
    QueryRun.Carried r₁ s xs es es' number r' →
    QueryRun.run r = (Action.ofExcept (number.map fun _ => ()) >>= fun _ => QueryRun.finish r.clock)
      (r'.hooked .after c.connection.afterHook) →
    Concluded c given number := by
  intro r r₁ carried run
  let r₂ := r'.hooked .after c.connection.afterHook
  have asked := query_eq read
  have stays : QueryRun.Stays r r₂ := ((QueryRun.stays_hooked ..).trans
    carried.keeps.toStays).trans (QueryRun.stays_hooked ..)
  have before : r₁.client.connection = c.connection := QueryRun.hooked_connection ..
  have after : r₂.client.connection = r'.client.connection := QueryRun.hooked_connection ..
  have result := QueryRun.hooked_result .after c.connection.afterHook r'
  cases number with
  | ok k =>
    obtain ⟨rows, t, _, _, ⟨cursor, source, _⟩, counted⟩ := carried.received k rfl
    have exception : r'.result.exception = none := by
      rw [carried.keeps.exception, QueryRun.hooked_result]
      rfl
    have exception : r₂.result.exception = none :=
      (congrArg QueryResult.exception result).trans exception
    have rows : r₂.result.numberOfRows = some k :=
      (congrArg QueryResult.numberOfRows result).trans rows
    have source : r₂.result.source = .attached cursor :=
      (congrArg QueryResult.source result).trans source
    have finished : QueryRun.run r = .ok () (r₂.logged r.clock) := by
      refine run.trans ?_
      change QueryRun.finish r.clock r₂ = _
      simp only [QueryRun.finish_eq, exception]
    rw [finished] at asked
    refine .numbered asked ?_ exception ?_ rows ?_ ⟨stays.printed, stays.files⟩
    · rw [QueryRun.logged, exception]
      rfl
    · simp only [QueryRun.logged, QueryResult.isAttached, source]
    · rw [← before, ← counted, ← after]
      rfl
  | error e =>
    have failed : QueryRun.run r = .error e r₂ := run
    rw [failed] at asked
    refine .unread asked ?_ ⟨stays.printed, stays.files⟩
    rw [after, carried.uncounted e rfl, before]

/-- A query whose statement is executed, whatever the driver does of the calls that count its rows. It
comes to the number that the driver tells, or else to the one that is counted, or to none. It only fails
where no call did and what was brought cannot be read as a number. -/
theorem executed_query_numbered (scripted : c.Scripted) (calm : c.Calm)
    (read : parse c.connection given = .ok q)
    (executed : Executed c.outside.driver.cursors (substituted c.connection.beforeHook q.sql)
      (calls c given)) :
    let d := c.outside.driver
    let sql := substituted c.connection.beforeHook q.sql
    ∃ xs counting, encodeFrom 1 q.parameters = .ok xs ∧
      Executes d sql xs counting (calls c given) ∧
      let number := RowCount.number d.features sql (d.reply 0) (d.reply 1) counting
      Concluded c given number ∧
        ∀ e, number = .error e →
          lastFailure counting = none ∧ ((∃ k, e = .conversion k) ∨ ∃ o, e = .operand o) := by
  intro d sql
  let r : QueryRun := { client := c, result := .ofParsed q }
  let r₁ := r.hooked .before c.connection.beforeHook
  have quiet := QueryRun.ran_hooked .before c.connection.beforeHook r
  have result : r₁.result = { QueryResult.ofParsed q with sql } := QueryRun.hooked_result ..
  have connection : r₁.client.connection = c.connection := QueryRun.hooked_connection ..
  rcases QueryRun.attempt_carried (r := r₁) ((QueryRun.hooked_statement ..).trans rfl) r.clock with
    ⟨es, outcome, r', ran, stays, attempted, unsent⟩ |
      ⟨s, xs, es, es', number, r', connected, isOpen, carried, attempted⟩
  · obtain ⟨made, _⟩ := query_calm calm read ran stays attempted
    rw [made] at executed
    rw [quiet.cursors] at unsent
    exact absurd executed (unsent _)
  · obtain ⟨made, run⟩ := query_calm calm read carried.ran carried.keeps.toStays attempted
    have classed : Classed s.errorClass (⟨.cursor r₁.driver.cursors, none⟩ :: (es ++ es')) := by
      refine carried.ran.classed (carried.work isOpen).still fun f left => ?_
      exact scripted s (connection ▸ connected) f (quiet.scripted f left)
    have numbers := carried.numbers
    have bound := carried.bound
    have sends := carried.sends
    rw [result] at numbers bound sends
    rw [quiet.cursors, quiet.features, QueryRun.hooked_reply, QueryRun.hooked_reply] at numbers
    rw [quiet.cursors, quiet.features] at sends
    rw [quiet.cursors] at made
    obtain ⟨found, counts⟩ := RowCount.number_eq numbers
      fun x mem => classed x (List.mem_cons_of_mem _ (List.mem_append_right _ mem))
    refine ⟨xs, es', bound, ⟨⟨es, sends, made⟩, counts⟩, ?_, ?_⟩
    · rw [← found]
      exact concluded_of_carried read carried run
    · exact fun e failed => RowCount.number_error failed

theorem executed_query_numbered_unread :
    let driver : Driver :=
      { features := { moduleName := "" }
        replies :=
          [{ columns := some ["a"], rows := [.tuple [.int 1]] },
            { columns := some ["c"], rows := [.tuple [.text "many"]] }] }
    let c : Client :=
      { connection :=
          { settings := {}
            session := some { engine := .null, paramstyle := .text "qmark", errorClass := .driver } }
        outside := { driver, caller := ⟨"", 0⟩ } }
    let given : List Value := [.text "SELECT 1"]
    Executed 0 "SELECT 1" (calls c given) ∧
      ∃ xs counting e, Executes driver "SELECT 1" xs counting (calls c given) ∧
        RowCount.number driver.features "SELECT 1" (driver.reply 0) (driver.reply 1) counting =
          .error e ∧ Concluded c given (.error e) := by
  intro driver c given
  have quiet : driver.Quiet := Driver.quiet_of_nil (fun _ => rfl) rfl
  have scripted : c.Scripted := fun s _ f left => absurd left (quiet f)
  have calm : c.Calm := by
    rintro h f (hook | hook) <;> cases hook
  have executed : Executed 0 "SELECT 1" (calls c given) := by decide +kernel
  have sql : (parse c.connection given).toOption.map (·.sql) = some "SELECT 1" := by decide +kernel
  have raised : ((query given).outcome c).isOk = false := by decide +kernel
  cases read : parse c.connection given with
  | error e =>
    rw [read] at sql
    contradiction
  | ok q =>
    rw [read] at sql
    have sql : substituted c.connection.beforeHook q.sql = "SELECT 1" := Option.some.inj sql
    obtain ⟨xs, counting, _, executes, concluded, _⟩ :=
      executed_query_numbered scripted calm read (sql ▸ executed)
    rw [sql] at executes concluded
    cases number : RowCount.number driver.features "SELECT 1" (driver.reply 0) (driver.reply 1)
        counting with
    | error e =>
      rw [number] at concluded
      exact ⟨executed, xs, counting, e, executes, number, concluded⟩
    | ok k =>
      rw [number] at concluded
      cases concluded with
      | numbered run =>
        rw [Action.outcome, run] at raised
        contradiction

end

end Client

end SqlTemplate
