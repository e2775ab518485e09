import SqlTemplate.Proofs.Connection.Policy
import SqlTemplate.Proofs.Connection.Texts
import SqlTemplate.Proofs.QueryResult

/-!
The cursors of a query and the result that it comes to. Whichever calls fail, every cursor that a
query asked for is given back once, but for the one whose rows belong to the result, and the result
says in each of its parts whether the statement was executed.
-/
namespace SqlTemplate

open RowCount (Counts countingSql)
open Statement (Sends)

/-! ## Calls for cursors -/

def closings (m : Nat) (es : List Exchange) : Nat :=
  es.countP fun x =>
    match x.call with
    | .closeCursor k => k == m
    | _ => false

def Executed (n : Nat) (sql : String) (es : List Exchange) : Prop :=
  ∃ values, ⟨.execute n sql values, none⟩ ∈ es

instance (n : Nat) (sql : String) (es : List Exchange) : Decidable (Executed n sql es) :=
  decidable_of_iff
    (es.any fun x =>
      match x.call with
      | .execute k text _ => k = n ∧ text = sql ∧ x.failure.isNone
      | _ => false) <| by
    rw [List.any_eq_true]
    constructor
    · rintro ⟨⟨call, failure⟩, mem, same⟩
      cases call with
      | execute k text values =>
        obtain ⟨rfl, rfl, none⟩ := of_decide_eq_true same
        cases Option.isNone_iff_eq_none.mp none
        exact ⟨values, mem⟩
      | _ => contradiction
    · rintro ⟨values, mem⟩
      exact ⟨_, mem, by simp⟩

/-- Among calls, each cursor that was handed out is given back once; only `n` is kept. -/
def GivenBack (n : Nat) (kept : Prop) [Decidable kept] (es : List Exchange) : Prop :=
  ∀ m, ⟨.cursor m, none⟩ ∈ es → closings m es = if m = n ∧ kept then 0 else 1

section
variable {n m : Nat} {sql : String} {xs : List (Value × Value)} {sized : Bool}
  {es es' : List Exchange}

theorem closings_append : closings m (es ++ es') = closings m es + closings m es' :=
  List.countP_append

theorem closings_cursor (k : Nat) (failure : Option Fault) :
    closings m (⟨.cursor k, failure⟩ :: es) = closings m es := by
  simp [closings]

theorem closings_other (other : ∀ x ∈ es, x.call.operation ≠ .closeCursor) : closings m es = 0 := by
  apply List.countP_eq_zero.mpr
  intro x hx
  have kind := other x hx
  cases call : x.call <;> simp_all [Call.operation]

theorem sends_own (h : Sends n sql xs sized es) :
    ∀ x ∈ es, x.call.operation = .setInputSizes ∨ x.call.operation = .execute := by
  cases h <;> simp [Call.operation]

theorem closings_sends (h : Sends n sql xs sized es) : closings m es = 0 := by
  apply closings_other
  intro x hx
  rcases sends_own h x hx with own | own <;> simp [own]

theorem handed_sends (h : Sends n sql xs sized es) : ⟨.cursor m, none⟩ ∉ es := by
  intro mem
  have own := sends_own h _ mem
  simp [Call.operation] at own

/-- A statement was executed if and only if no call to send it failed. -/
theorem executed_sends (h : Sends n sql xs sized es) :
    Executed n sql es ↔ lastFailure es = none := by
  cases h with
  | refused f => simp [Executed]
  | sized failure => cases failure <;> simp [Executed]
  | unsized failure => cases failure <;> simp [Executed]

theorem closings_counts_other (h : Counts n sql xs sized es) (other : m ≠ n) :
    closings m es = 0 := by
  apply List.countP_eq_zero.mpr
  intro x hx
  have about := (counts_calls h x hx).1
  cases call : x.call <;> simp_all [Call.cursor?]
  exact fun same => other same.symm

/-- Counting rows gives its cursor back, if it got one. -/
theorem givenBack_counts (h : Counts n sql xs sized es) (handed : ⟨.cursor m, none⟩ ∈ es) :
    m = n ∧ closings n es = 1 := by
  have about := (counts_calls h _ handed).1
  have own : m = n := Option.some.inj about
  have closing (failure : Option Fault) : closings n [⟨.closeCursor n, failure⟩] = 1 := by
    simp [closings]
  have fetching (failure closed : Option Fault) :
      closings n [⟨.fetchOne n, failure⟩, ⟨.closeCursor n, closed⟩] = 1 := by
    simp [closings]
  refine ⟨own, ?_⟩
  cases h with
  | noCursor f => simp at handed
  | sent sends failure =>
    rw [closings_cursor, closings_append, closings_sends sends, closing]
  | read sends fetched failure =>
    rw [closings_cursor, closings_append, closings_sends sends, fetching]

theorem executed_cursor (k : Nat) (failure : Option Fault) :
    Executed n sql (⟨.cursor k, failure⟩ :: es) ↔ Executed n sql es := by
  simp [Executed]

theorem executed_append : Executed n sql (es ++ es') ↔ Executed n sql es ∨ Executed n sql es' := by
  simp [Executed, exists_or]

end

/-! ## The cursors of a query -/

section
variable {n : Nat} {session : Option Session} {q : ParsedQuery} {es : List Exchange}
  {outcome : Except Failure Unit} {t : Option Statement} {recorded : Option DriverError}

/-- The work of a query keeps its own cursor and gives back the one that counts its rows. -/
theorem work_givenBack (work : QueryRun.Work n session q es outcome t) : GivenBack n True es := by
  intro m handed
  cases work with
  | notOpen | closed => contradiction
  | noCursor _ _ f => simp at handed
  | unbound =>
    have own : m = n := by simpa using handed
    rw [own, if_pos ⟨rfl, trivial⟩]
    rfl
  | failed _ _ _ _ _ _ sends =>
    have own : m = n := by simpa [handed_sends sends] using handed
    rw [if_pos ⟨own, trivial⟩, closings_cursor, closings_sends sends]
  | @done _ _ _ es es' _ _ _ _ sends _ counts =>
    rw [closings_cursor, closings_append, closings_sends sends, Nat.zero_add]
    by_cases own : m = n
    · rw [if_pos ⟨own, trivial⟩]
      rcases counts with ⟨rfl, _⟩ | counts
      · rfl
      · exact closings_counts_other counts (by omega)
    · rw [if_neg (fun both => own both.1)]
      have other : ⟨.cursor m, none⟩ ∈ es' := by simpa [own, handed_sends sends] using handed
      rcases counts with ⟨rfl, _⟩ | counts
      · contradiction
      · obtain ⟨rfl, once⟩ := givenBack_counts counts other
        exact once

/-- The work of a query comes to the execution of its statement, unless an error of this library or a
foreign one comes first. -/
theorem work_executed (work : QueryRun.Work n session q es outcome t) :
    (outcome = .ok () → Executed n q.sql es) ∧
      ∀ e, outcome = .error (.driver e) → ¬ Executed n q.sql es := by
  cases work with
  | notOpen | closed | noCursor | unbound => simp [Executed]
  | failed _ _ _ _ _ _ sends failure =>
    refine ⟨nofun, ?_⟩
    intro e _
    rw [executed_cursor, executed_sends sends, failure]
    simp
  | done _ _ _ sends succeeds _ ends =>
    constructor
    · intro _
      rw [executed_cursor, executed_append]
      exact .inl ((executed_sends sends).mpr succeeds)
    · intro e broken
      exact absurd rfl ((ends _ broken).foreign_of e)

/-- Where the work fails, it has its own cursor at most, and the statement on it is yet to be given
back. -/
theorem work_handed (work : QueryRun.Work n session q es outcome t) {e : DriverError}
    (failed : outcome = .error (.driver e)) {m : Nat} (handed : ⟨.cursor m, none⟩ ∈ es) :
    m = n ∧ t ≠ none := by
  cases work with
  | notOpen | closed => contradiction
  | noCursor _ _ f => simp at handed
  | unbound => exact ⟨by simpa using handed, by simp⟩
  | failed _ _ _ _ _ _ sends => exact ⟨by simpa [handed_sends sends] using handed, by simp⟩
  | done _ _ _ _ _ _ ends => exact absurd rfl ((ends _ failed).foreign_of e)

/-- A query that records no error keeps the cursor of its statement. One that does gives it back. -/
theorem attempted_givenBack (attempted : QueryRun.Attempted n session q es recorded outcome) :
    GivenBack n (recorded = none) es := by
  intro m handed
  cases attempted with
  | passed work =>
    rw [work_givenBack work m handed]
    simp
  | recorded work => exact absurd rfl (work_handed work rfl handed).2
  | @gaveBack es e t work closing =>
    have before : ⟨.cursor m, none⟩ ∈ es := by simpa using handed
    have own : m = n := (work_handed work rfl before).1
    have last : closings m [⟨.closeCursor n, closing⟩] = 1 := by simp [closings, own]
    rw [closings_append, work_givenBack work m before, last]
    simp [own]

/-- A query records no error if and only if its statement was executed. -/
theorem attempted_executed (attempted : QueryRun.Attempted n session q es recorded outcome)
    (ends : outcome = .ok () ∨ ∃ e, outcome = .error (.driver e)) :
    recorded = none ↔ Executed n q.sql es := by
  cases attempted with
  | passed work other =>
    have finished : outcome = .ok () := by
      rcases ends with ok | ⟨e, broken⟩
      · exact ok
      · exact absurd broken (other e)
    simp only [true_iff]
    exact (work_executed work).1 finished
  | recorded work =>
    have unexecuted := (work_executed work).2 _ rfl
    simpa using unexecuted
  | gaveBack work closing =>
    have unexecuted := (work_executed work).2 _ rfl
    simpa [Executed] using unexecuted

end

/-! ## The result of a query -/

/-- A result agrees in all of its parts on whether the statement `sql`, which has the cursor `n`, was
executed. -/
structure Coherent (n : Nat) (sql : String) (es : List Exchange) (r : QueryResult) : Prop where
  executed : r.exception = none ↔ Executed n sql es
  attached : r.exception = none ↔ r.isAttached = true
  isOpen : ∀ rows, r.source = .attached rows →
    rows.statement.closed = false ∧ rows.statement.cursor.number = n
  failed : ∀ e, r.exception = some e → r.numberOfRows = none ∧ r.insertId = .null
  refused : ∀ e, r.exception = some e → ∀ (access : QueryResult.Access) (d : Driver),
    access.run ⟨r, d⟩ = .error (.misuse (.queryFailed e)) ⟨r, d⟩

section
variable {n : Nat} {q : ParsedQuery} {es : List Exchange} {outcome : Except Failure Unit}

theorem refused_of_detached {r : QueryResult} {e : DriverError} (exception : r.exception = some e)
    (detached : r.isAttached = false) (access : QueryResult.Access) (d : Driver) :
    access.run ⟨r, d⟩ = .error (.misuse (.queryFailed e)) ⟨r, d⟩ := by
  have noRows : r.noRows = .misuse (.queryFailed e) := by
    rw [QueryResult.noRows, exception]
  rw [← noRows]
  apply QueryResult.access_detached
  intro rows source
  rw [QueryResult.isAttached, source] at detached
  contradiction

theorem Coherent.withSuccess {r : QueryResult} (h : Coherent n q.sql es r) (success : Bool) :
    Coherent n q.sql es { r with success } where
  executed := h.executed
  attached := h.attached
  isOpen := h.isOpen
  failed := h.failed
  refused := by
    intro e exception
    apply refused_of_detached exception
    cases attached : r.isAttached with
    | false => exact attached
    | true =>
      have none := h.attached.mpr attached
      rw [show r.exception = some e from exception] at none
      contradiction

/-- What a query books is coherent, unless the query ends with a foreign failure. -/
theorem booked_coherent {start : Ticks} {r r' : QueryRun} (fresh : r.result = .ofParsed q)
    (booked : QueryRun.Booked n start r r' outcome)
    (ends : outcome = .ok () ∨ ∃ e, outcome = .error (.driver e))
    (executed : r'.result.exception = none ↔ Executed n q.sql es) :
    Coherent n q.sql es r'.result := by
  cases booked with
  | received keeps isOpen number received =>
    obtain ⟨rows, source, same⟩ := received.attached
    have none : r'.result.exception = none := by
      rw [keeps.exception, fresh]
      rfl
    have some_ {e : DriverError} : r'.result.exception ≠ some e := by
      rw [none]
      simp
    refine ⟨executed, ?_, ?_, fun e failed => absurd failed some_,
      fun e failed => absurd failed some_⟩
    · simp [none, QueryResult.isAttached, source]
    · intro rows' source'
      rw [source] at source'
      cases source'
      rw [same]
      exact ⟨isOpen, number⟩
  | @recorded failed e _ recorded =>
    have exception : r'.result.exception = some e := by
      rw [recorded.result]
    have detached : r'.result.isAttached = false := by
      rw [recorded.result, fresh]
      rfl
    refine ⟨executed, ?_, ?_, ?_, ?_⟩
    · simp [exception, detached]
    · intro rows source
      rw [QueryResult.isAttached, source] at detached
      contradiction
    · intro _ _
      rw [recorded.result, fresh]
      exact ⟨rfl, rfl⟩
    · intro e' same
      exact refused_of_detached same detached
  | broken other =>
    rcases ends with ok | ⟨e, own⟩
    · contradiction
    · exact absurd (Except.error.inj own) (other e)

/-- What is booked shows nothing to a hook, and a failure that is left to raise comes behind one that is
recorded. -/
theorem booked_unseen {start : Ticks} {r r' : QueryRun}
    (booked : QueryRun.Booked n start r r' outcome)
    (ends : outcome = .ok () ∨ ∃ e, outcome = .error (.driver e)) :
    r'.client.outside.sightings = r.client.outside.sightings ∧
      ∀ e, outcome = .error e → r'.result.success = r'.result.exception.isNone := by
  cases booked with
  | received keeps =>
    refine ⟨keeps.sightings, ?_⟩
    intro e failed
    contradiction
  | recorded recorded =>
    refine ⟨recorded.sightings, ?_⟩
    intro e _
    rw [recorded.result]
    rfl
  | broken other =>
    rcases ends with ok | ⟨e, own⟩
    · contradiction
    · exact absurd (Except.error.inj own) (other e)

end

namespace Client

/-- The results that hooks are shown in the course of a query, as they find them. -/
def sightings (c : Client) (given : List Value) : List (HookTime × QueryResult) :=
  ((query given).after c).outside.sightings.drop c.outside.sightings.length

/-- What a query of the statement `sql` leaves behind, with the result that it comes to. -/
structure Settled (c : Client) (given : List Value) (sql : String) (result : QueryResult) :
    Prop where
  returned : ∀ r, (query given).outcome c = .ok r → r = result
  success : result.success = result.exception.isNone
  cursors : GivenBack c.outside.driver.cursors (result.exception = none) (calls c given)
  once : (texts (calls c given)).count sql ≤ 1
  coherent : Coherent c.outside.driver.cursors sql (calls c given) result
  shown : ∀ r, (.after, r) ∈ sightings c given →
    Coherent c.outside.driver.cursors sql (calls c given) r

section
variable {c : Client} {given : List Value} {q : ParsedQuery}

theorem countingSql_ne (sql : String) : countingSql sql ≠ sql := by
  have wrapped (before after : String) (longer : after ≠ "") : before ++ sql ++ after ≠ sql := by
    intro same
    have lengths := congrArg (fun s : String => s.toList.length) same
    have some_ : 0 < after.toList.length := by
      apply List.length_pos_iff.mpr
      intro none
      exact longer (String.toList_inj.mp none)
    simp only [String.toList_append, List.length_append] at lengths
    omega
  exact wrapped _ _ (by decide)

theorem sql_once {session : Option Session} {n : Nat} {es : List Exchange}
    {recorded : Option DriverError} {outcome : Except Failure Unit}
    (attempted : QueryRun.Attempted n session q es recorded outcome) :
    (texts es).count q.sql ≤ 1 := by
  have sublist := (texts_attempted attempted).sublist
  have count := sublist.count_le q.sql
  rw [List.count_cons_self, List.count_singleton] at count
  simpa [countingSql_ne] using count

/-- A query that returns or fails with an error of this library comes to the result of its work, of
which it has noted whether it succeeded, and its hooks have seen the one that it was given and the one
that its work left. -/
theorem query_concluded (observing : c.Observing) (read : parse c.connection given = .ok q)
    (ends : ((query given).outcome c).isOk = true ∨
      ∃ e, (query given).outcome c = .error (.driver e)) :
    let r : QueryRun := { client := c, result := .ofParsed q }
    ∃ outcome r', (outcome = .ok () ∨ ∃ e, outcome = .error (.driver e)) ∧
      QueryRun.Attempted c.outside.driver.cursors c.connection.session q (calls c given)
        r'.result.exception outcome ∧
      QueryRun.Booked c.outside.driver.cursors r.clock (r.shown .before c.connection.beforeHook) r'
        outcome ∧
      (QueryRun.run.after r).result =
        { r'.result with success := r'.result.exception.isNone } ∧
      sightings c given =
        (c.connection.beforeHook.map fun _ => (HookTime.before, r.result)).toList ++
          (c.connection.afterHook.map fun _ => (HookTime.after, r'.result)).toList := by
  intro r
  obtain ⟨outcome, r', _, _, attempted, booked, finish⟩ := query_observed observing read
  have own : outcome = .ok () ∨ ∃ e, outcome = .error (.driver e) := by
    cases outcome with
    | ok _ => exact .inl rfl
    | error e =>
      rcases ends with ok | ⟨x, raised⟩
      · rw [finish.2] at ok
        contradiction
      · rw [finish.2] at raised
        exact .inr ⟨x, congrArg Except.error (Except.error.inj raised)⟩
  obtain ⟨unseen, failed⟩ := booked_unseen booked own
  have before := unseen.trans (QueryRun.shown_sightings .before c.connection.beforeHook r)
  have after := QueryRun.shown_sightings .after c.connection.afterHook r'
  have seen : (QueryRun.run.after r).client.outside.sightings =
      (r'.shown .after c.connection.afterHook).client.outside.sightings := by
    cases outcome with
    | ok _ => exact finish.sightings
    | error e => exact congrArg (·.client.outside.sightings) finish.1
  refine ⟨outcome, r', own, attempted, booked, ?_, ?_⟩
  · cases outcome with
    | ok _ => rw [finish.result, QueryRun.logged, QueryRun.shown_result]
    | error e => rw [finish.1, QueryRun.shown_result, ← failed e rfl]
  · rw [sightings, query_after read, seen, after, before, List.append_assoc]
    exact List.drop_left

/-- Whichever calls fail, a query that returns or fails with an error of this library gives every
cursor back that it asked for, but for the one whose rows its result has; it executes its statement
once at most; and its result, also as a hook finds it after the work, has an error if and only if it has
no rows, which is if and only if the statement was not executed. -/
theorem query_settled (observing : c.Observing) (read : parse c.connection given = .ok q)
    (ends : ((query given).outcome c).isOk = true ∨
      ∃ e, (query given).outcome c = .error (.driver e)) :
    ∃ result, (Request.query given).result? c = some result ∧ Settled c given q.sql result := by
  let r : QueryRun := { client := c, result := .ofParsed q }
  obtain ⟨outcome, r', own, attempted, booked, result, seen⟩ :=
    query_concluded observing read ends
  have fresh : (r.shown .before c.connection.beforeHook).result = .ofParsed q :=
    QueryRun.shown_result ..
  have coherent := booked_coherent fresh booked own (attempted_executed attempted own)
  have exception : (QueryRun.run.after r).result.exception = r'.result.exception := by
    rw [result]
  refine ⟨(QueryRun.run.after r).result, result?_query read, ?_⟩
  constructor
  · intro returned same
    rw [query_outcome read] at same
    cases run : QueryRun.run.outcome r with
    | ok _ =>
      rw [run] at same
      exact (Except.ok.inj same).symm
    | error e =>
      rw [run] at same
      contradiction
  · rw [result]
  · intro m handed
    simp only [exception]
    exact attempted_givenBack attempted m handed
  · exact sql_once attempted
  · rw [result]
    exact coherent.withSuccess _
  · intro found mem
    rw [seen] at mem
    obtain ⟨_, same⟩ : (∃ hook, c.connection.afterHook = some hook) ∧ r'.result = found := by
      simpa using mem
    exact same ▸ coherent

end

theorem query_settled_counted :
    let lost : Fault := ⟨.operational, some "lost"⟩
    let driver : Driver :=
      { features := { moduleName := "" }
        faults := fun o => if o = .closeCursor then [some lost] else [] }
    let c : Client :=
      { connection :=
          { settings := {}
            session := some { engine := .null, paramstyle := .text "qmark", errorClass := .driver }
            afterHook := some {} }
        outside := { driver, caller := ⟨"", 0⟩ } }
    let given : List Value := [.text "SELECT 1"]
    (closings 0 (calls c given) = 0 ∧ closings 1 (calls c given) = 1) ∧
      ∃ q result, parse c.connection given = .ok q ∧
        (Request.query given).result? c = some result ∧ Settled c given q.sql result := by
  intro lost driver c given
  have observing : c.Observing := by
    rintro h (hook | hook) <;> cases hook
    rfl
  have fits : (parse c.connection given).isOk = true := by decide +kernel
  cases read : parse c.connection given with
  | error e =>
    rw [read] at fits
    contradiction
  | ok q =>
    obtain ⟨result, same, settled⟩ := query_settled observing read (.inl (by decide +kernel))
    exact ⟨⟨by decide +kernel, by decide +kernel⟩, q, result, rfl, same, settled⟩

end Client

end SqlTemplate
