import SqlTemplate.Proofs.Connection.Policy
import SqlTemplate.Proofs.Connection.Refusal
import SqlTemplate.Proofs.Finality

/-!
What a query was asked, as its result, the log and the hooks tell it, at once and later. The arguments
are told as they were given. The template is told as it was cleaned, which is as it was given only if
there was nothing to clean.
-/
namespace SqlTemplate

/-! ## Templates -/

namespace Template

/-- A template that is as it was before it was cleaned. -/
theorem clean_eq_self_iff (s : String) :
    String.ofList (clean s) = s ↔ Text.IsTrimmed s.toList ∧ s.toList.getLast? ≠ some ';' := by
  constructor
  · intro same
    have same : clean s = s.toList := by rw [← String.toList_ofList (l := clean s), same]
    obtain ⟨before, core, after, eq, _, _, trimmed, ends⟩ := (cleaned_clean s).trimmed
    rcases ends with rfl | ⟨rfl, other⟩
    · have lengths := congrArg List.length (same.trans eq)
      simp only [List.length_append, List.length_singleton] at lengths
      omega
    · rw [← same]
      exact ⟨trimmed, other⟩
  · rintro ⟨trimmed, other⟩
    rw [clean, trimmed.trim_self]
    simp only [if_neg other, String.ofList_toList]

end Template

theorem Parser.parse_kept {parser : Parser} {s : String} {arguments : List Value} {q : ParsedQuery}
    (read : (parse (.text s) arguments).outcome parser = .ok q) :
    q.template = String.ofList (Template.clean s) ∧ q.arguments = arguments := by
  rw [parse_outcome] at read
  cases rendered : (Template.render parser.marker arguments
      (Template.pieces parser.dialect (Template.clean s))).outcome {} with
  | error e => rw [rendered] at read; contradiction
  | ok r =>
    rw [rendered] at read
    cases read
    exact ⟨rfl, rfl⟩

/-! ## Results -/

namespace QueryResult

structure Tells (r : QueryResult) (template : String) (arguments : List Value) : Prop where
  template : r.template = template
  arguments : r.arguments = arguments

/-- A result tells what it was asked, and goes on to do so while it is used, beside a session, its
statements and their results, and whatever fails of that. -/
structure Remembers (r : QueryResult) (template : String) (arguments : List Value) : Prop where
  now : r.Tells template arguments
  later : ∀ (w : Live Holdings) (i : Nat) (walks : List Iteration),
    w.it.items[i]? = some (.result r walks) → ∀ requests, ∃ r' walks',
      (Action.afterAll Holdings.Request.run w requests).it.items[i]? = some (.result r' walks') ∧
        r'.Tells template arguments

theorem Tells.remembers {r : QueryResult} {template : String} {arguments : List Value}
    (tells : r.Tells template arguments) : r.Remembers template arguments := by
  refine ⟨tells, fun w i walks found later => ?_⟩
  obtain ⟨h, found', onward⟩ := (Holdings.afterAll_grows w later).item i _ found
  have told := onward.told _ rfl
  cases h with
  | statement t => exact absurd told (Holding.told?_statement t _)
  | result r' walks' =>
    have same := congrArg (·.toParsedQuery) (Option.some.inj told)
    refine ⟨r', walks', found', ⟨?_, ?_⟩⟩
    · exact (congrArg ParsedQuery.template same).trans tells.template
    · exact (congrArg ParsedQuery.arguments same).trans tells.arguments

end QueryResult

/-! ## Queries -/

/-- A history that gains entries of one kind. -/
def Gains {α : Type} (own : α → Prop) (xs xs' : List α) : Prop :=
  ∃ gained, xs' = xs ++ gained ∧ ∀ x ∈ gained, own x

namespace Gains

variable {α : Type} {own : α → Prop} {xs xs' xs'' : List α}

theorem of_eq (same : xs' = xs) : Gains own xs xs' :=
  ⟨[], by rw [same, List.append_nil], fun _ mem => absurd mem List.not_mem_nil⟩

theorem trans (first : Gains own xs xs') (next : Gains own xs' xs'') : Gains own xs xs'' := by
  obtain ⟨gained, rfl, all⟩ := first
  obtain ⟨gained', rfl, all'⟩ := next
  exact ⟨gained ++ gained', List.append_assoc .., fun x mem =>
    (List.mem_append.mp mem).elim (all x) (all' x)⟩

end Gains

namespace QueryRun

/-- What a part of a query leaves behind tells what its result was asked: the result, what is logged
and the results that hooks are shown. -/
structure Tells (r r' : QueryRun) : Prop where
  result : r'.result.Tells r.result.template r.result.arguments
  log : Gains (fun e => e.query = some r.result.template) r.client.connection.log
    r'.client.connection.log
  sightings : Gains (fun x => x.2.Tells r.result.template r.result.arguments)
    r.client.outside.sightings r'.client.outside.sightings

section
variable {α β : Type} {r r' r'' : QueryRun} {start : Ticks}

theorem Tells.trans (first : Tells r r') (next : Tells r' r'') : Tells r r'' := by
  obtain ⟨⟨template, arguments⟩, log, sightings⟩ := first
  obtain ⟨result, log', sightings'⟩ := next
  rw [template] at result log' sightings'
  rw [arguments] at result sightings'
  exact ⟨result, log.trans log', sightings.trans sightings'⟩

theorem Tells.bind {m : RunAction α} {f : α → RunAction β} (first : Tells r (m.after r))
    (next : ∀ a r', m r = .ok a r' → Tells r' ((f a).after r')) : Tells r ((m >>= f).after r) := by
  cases run : m r with
  | ok a t =>
    rw [Action.after_ok run] at first
    rw [Action.after_congr (Action.bind_ok run f)]
    exact first.trans (next a t run)
  | error e t =>
    rw [Action.after_error run] at first
    rwa [Action.after_error (Action.bind_error run f)]

theorem Keeps.tells (keeps : Keeps r r') : Tells r r' where
  result := ⟨congrArg (·.template) keeps.parsed, congrArg (·.arguments) keeps.parsed⟩
  log := .of_eq keeps.log
  sightings := .of_eq keeps.sightings

/-- An entry goes to the log, if one is kept. -/
theorem gains_addToLog (c : Connection) (entry : LogRecord) (counts : Bool) :
    Gains (fun e => e.query = entry.query) c.log (c.addToLog entry counts).log := by
  rw [Connection.addToLog]
  by_cases kept : c.settings.logQueries.truthy
  · rw [if_pos kept]
    exact ⟨[entry], rfl, fun e mem => congrArg LogRecord.query (List.mem_singleton.mp mem)⟩
  · rw [if_neg kept]
    exact .of_eq rfl

theorem Recorded.tells {failed : Ticks} {e : DriverError} (recorded : Recorded start failed e r r') :
    Tells r r' where
  result := by
    rw [recorded.result]
    exact ⟨rfl, rfl⟩
  log := by
    rw [recorded.log]
    exact gains_addToLog r.client.connection _ false
  sightings := .of_eq recorded.sightings

theorem Finished.tells (finished : Finished start r r') : Tells r r' where
  result := by
    rw [finished.result]
    exact ⟨rfl, rfl⟩
  log := by
    rw [finished.connection]
    exact gains_addToLog r.client.connection _ true
  sightings := .of_eq finished.sightings

theorem tells_shown (time : HookTime) (hook : Option Hook) (r : QueryRun) :
    Tells r (r.shown time hook) where
  result := by
    rw [shown_result]
    exact ⟨rfl, rfl⟩
  log := .of_eq (congrArg Connection.log (shown_connection ..))
  sightings := by
    refine ⟨_, shown_sightings time hook r, fun x mem => ?_⟩
    obtain ⟨_, _, rfl⟩ := Option.map_eq_some_iff.mp (Option.mem_toList.mp mem)
    exact ⟨rfl, rfl⟩

/-- A hook changes no more of what a query was asked than the statement to be run. -/
theorem tells_callHook (time : HookTime) (hook : Option Hook) (r : QueryRun) :
    Tells r ((callHook time hook).after r) := by
  have tells := tells_shown time hook r
  by_cases fails : ∃ h f, hook = some h ∧ h.action = .fail f
  · obtain ⟨h, f, rfl, action⟩ := fails
    rw [Action.after_error (callHook_fails action time r)]
    exact tells
  · have calm : ∀ h f, hook = some h → h.action ≠ .fail f :=
      fun h f set action => fails ⟨h, f, set, action⟩
    rw [Action.after_ok (callHook_calm calm time r)]
    refine ⟨?_, tells.log, tells.sightings⟩
    rw [hooked_result]
    exact ⟨rfl, rfl⟩

/-- The work of a query, with the failure that it records if it fails. -/
theorem tells_attempt (fresh : r.statement = none) (start : Ticks) :
    Tells r ((attempt start).after r) := by
  obtain ⟨es, outcome, r₁, _, keeps, work, _, run⟩ := execute_work fresh
  by_cases own : ∃ e, outcome = .error (.driver e)
  · obtain ⟨e, rfl⟩ := own
    obtain ⟨r₂, recorded, _, ends⟩ := recordFailure_cases start e fun t statement =>
      (Work.statement (statement ▸ work)).1
    have last : (attempt start).after r = r₂ := by
      rcases ends with ⟨_, _, run'⟩ | ⟨_, _, _, _, run'⟩
      · exact Action.after_ok ((Action.recover_error run _).trans run')
      · exact Action.after_ofExcept ((Action.recover_error run _).trans run')
    rw [last]
    exact keeps.tells.trans recorded.tells
  · have last : (attempt start).after r = r₁ := by
      cases outcome with
      | ok _ => exact Action.after_ok (Action.recover_ok run _)
      | error e =>
        refine Action.after_error (e := e) ((Action.recover_error run _).trans ?_)
        cases e <;> first | rfl | exact absurd ⟨_, rfl⟩ own
    rw [last]
    exact keeps.tells

/-- A whole query, however it ends. -/
theorem tells_run (fresh : r.statement = none) : Tells r (run.after r) := by
  rw [run, Action.after_congr (Action.bind_ok (Action.run_get r) _),
    Action.after_congr (Action.bind_ok (Action.run_get r) _)]
  refine (tells_callHook ..).bind fun _ r₁ shown => ?_
  obtain ⟨r', _, _, same, _, _, _, ends⟩ :=
    callHook_cases .before r.client.connection.beforeHook r
  have still : r₁.statement = none := by
    have last := (Action.after_ok shown).symm
    rcases ends with run | ⟨_, _, _, _, run⟩
    · rw [last, Action.after_ok run, same, fresh]
    · rw [last, Action.after_error run, same, fresh]
  refine .bind ?_ fun _ r₂ _ => (finished r₂ r.clock).tells
  rw [Action.after_ensuring]
  refine (tells_attempt still r.clock).trans ?_
  rw [Action.after_congr (Action.bind_ok (Action.run_get _) _)]
  exact tells_callHook ..

end

end QueryRun

namespace Client

section
variable {c : Client} {given arguments : List Value} {s : String} {q : ParsedQuery}
  {result : QueryResult}

theorem parse_kept (gives : Gives given (.text s) arguments)
    (read : parse c.connection given = .ok q) :
    q.template = String.ofList (Template.clean s) ∧ q.arguments = arguments := by
  rw [parse_gives gives] at read
  cases known : Dialect.ofMode c.connection.settings.queryMode with
  | error e => rw [known] at read; contradiction
  | ok d =>
    rw [known] at read
    have read : (Parser.parse (.text s) arguments).outcome
        { dialect := d, marker := marker c.connection } = .ok q := read
    exact Parser.parse_kept read

theorem exists_of_result? (asked : (Request.query given).result? c = some result) :
    ∃ q, parse c.connection given = .ok q ∧
      result = (QueryRun.run.after { client := c, result := .ofParsed q }).result := by
  cases read : parse c.connection given with
  | error e => rw [Request.result?, read] at asked; contradiction
  | ok q =>
    rw [result?_query read] at asked
    exact ⟨q, rfl, (Option.some.inj asked).symm⟩

/-- A query that returns hands its result out. -/
theorem result?_of_returned (returned : (query given).outcome c = .ok result) :
    (Request.query given).result? c = some result := by
  cases read : parse c.connection given with
  | error e =>
    rw [Action.outcome, query_refused read] at returned
    contradiction
  | ok q =>
    rw [query_outcome read] at returned
    rw [result?_query read]
    cases ended : QueryRun.run.outcome { client := c, result := .ofParsed q } with
    | error e => rw [ended] at returned; contradiction
    | ok _ =>
      rw [ended] at returned
      exact congrArg some (Except.ok.inj returned)

/-- A query tells what it was asked as its template was read. -/
theorem query_tells (gives : Gives given (.text s) arguments)
    (asked : (Request.query given).result? c = some result) :
    let kept := String.ofList (Template.clean s)
    result.Tells kept arguments ∧
      Gains (fun e => e.query = some kept) c.connection.log
        ((query given).after c).connection.log ∧
      Gains (fun x => x.2.Tells kept arguments) c.outside.sightings
        ((query given).after c).outside.sightings := by
  intro kept
  obtain ⟨q, read, rfl⟩ := exists_of_result? asked
  obtain ⟨template, same⟩ := parse_kept gives read
  obtain ⟨result, log, sightings⟩ :=
    QueryRun.tells_run (r := { client := c, result := .ofParsed q }) rfl
  simp only [QueryResult.ofParsed, template, same] at result log sightings
  rw [query_after read]
  exact ⟨result, log, sightings⟩

end

/-- What a query was asked is told as the template without the white space around it and without one
semicolon at its end, and as the arguments that it was given. That is so in the result, which goes on
to tell it whatever becomes of its rows, in every entry that the query adds to the log, and in the
results that hooks are shown, whatever the settings and the driver are and whatever fails. The
template is told as it was given if and only if there was nothing to take away. -/
theorem asked_cleaned (s : String) (arguments : List Value) :
    let kept := String.ofList (Template.clean s)
    (kept = s ↔ Text.IsTrimmed s.toList ∧ s.toList.getLast? ≠ some ';') ∧
      (∀ parser q, (Parser.parse (.text s) arguments).outcome parser = .ok q →
        (QueryResult.ofParsed q).Remembers kept arguments) ∧
      ∀ (c : Client) (given : List Value) (result : QueryResult),
        Gives given (.text s) arguments → (Request.query given).result? c = some result →
          result.Remembers kept arguments ∧
            Gains (fun e => e.query = some kept) c.connection.log
              ((query given).after c).connection.log ∧
            Gains (fun x => x.2.Tells kept arguments) c.outside.sightings
              ((query given).after c).outside.sightings := by
  intro kept
  refine ⟨Template.clean_eq_self_iff s, ?_, ?_⟩
  · intro parser q read
    obtain ⟨template, same⟩ := Parser.parse_kept read
    exact QueryResult.Tells.remembers ⟨template, same⟩
  · intro c given result gives asked
    obtain ⟨tells, log, sightings⟩ := query_tells gives asked
    exact ⟨tells.remembers, log, sightings⟩

/-- A query of a template that has something to take away. Its statement fails, which is logged beside
the query and not reported. -/
theorem asked_cleaned_failing :
    let driver : Driver :=
      { features := { moduleName := "" }
        faults := fun o => if o = .execute then [some ⟨.operational, some "broken"⟩] else [] }
    let c : Client :=
      { connection :=
          { settings := { errorReporting := .int Settings.ignoreErrors }
            session :=
              some { engine := .null, paramstyle := .text "qmark", errorClass := .driver } }
        outside := { driver, caller := ⟨"", 0⟩ } }
    let s := "  SELECT {s}; "
    let given : List Value := [.text s, .text "a"]
    let log := ((query given).after c).connection.log
    ∃ result, (query given).outcome c = .ok result ∧ result.template ≠ s ∧
      result.Remembers "SELECT {s}" [.text "a"] ∧ log.length = 2 ∧
      ∀ e ∈ log, e.query = some "SELECT {s}" := by
  intro driver c s given log
  have gives : Gives given (.text s) [.text "a"] := .separate (by simp)
  have kept : String.ofList (Template.clean s) = "SELECT {s}" := by decide +kernel
  have two : log.length = 2 := by decide +kernel
  have returns : ((query given).outcome c).isOk = true := by decide +kernel
  obtain ⟨result, returned⟩ := Action.exists_of_outcome_isOk returns
  obtain ⟨remembers, log', _⟩ :=
    (asked_cleaned s [.text "a"]).2.2 c given result gives (result?_of_returned returned)
  rw [kept] at remembers log'
  obtain ⟨entries, all, own⟩ := log'
  refine ⟨result, returned, ?_, remembers, two, ?_⟩
  · rw [remembers.now.template]
    decide
  · rw [show log = entries from all]
    exact own

end Client

end SqlTemplate
