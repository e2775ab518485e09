import SqlTemplate.Proofs.Connection.Query
import SqlTemplate.Proofs.Template.Shape

/-!
The texts that a query has the driver execute: its statement, and one that counts the rows of it.
Whatever the arguments contain, it does not come into them.
-/
namespace SqlTemplate

open RowCount (Counts countingSql)
open Statement (Sends)

def texts (es : List Exchange) : List String :=
  es.filterMap fun e =>
    match e.call with
    | .execute _ sql _ => some sql
    | _ => none

theorem texts_append (es es' : List Exchange) : texts (es ++ es') = texts es ++ texts es' :=
  List.filterMap_append ..

section
variable {n : Nat} {sql : String} {xs : List (Value × Value)} {sized : Bool} {es : List Exchange}

theorem texts_sends (h : Sends n sql xs sized es) :
    texts es = [sql] ∨ texts es = [] ∧ lastFailure es ≠ none := by
  cases h with
  | refused f => exact .inr ⟨rfl, by simp⟩
  | sized failure => exact .inl rfl
  | unsized failure => exact .inl rfl

theorem texts_counts (h : Counts n sql xs sized es) : texts es <+: [sql] := by
  have around {es' : List Exchange} (sends : Sends n sql xs sized es') : texts es' <+: [sql] := by
    rcases texts_sends sends with same | ⟨none, _⟩
    · exact same ▸ List.prefix_refl _
    · exact none ▸ List.nil_prefix
  cases h with
  | noCursor f => exact List.nil_prefix
  | sent sends closing => simpa [texts] using around sends
  | read sends fetching closing => simpa [texts] using around sends

end

theorem texts_work {n : Nat} {session : Option Session} {q : ParsedQuery} {es : List Exchange}
    {outcome : Except Failure Unit} {t : Option Statement}
    (h : QueryRun.Work n session q es outcome t) : texts es <+: [q.sql, countingSql q.sql] := by
  cases h with
  | notOpen => exact List.nil_prefix
  | closed => exact List.nil_prefix
  | noCursor => exact List.nil_prefix
  | unbound => exact List.nil_prefix
  | @failed _ _ _ _ es' _ _ _ _ _ _ _ sends =>
    have skip : texts (⟨.cursor n, none⟩ :: es') = texts es' := rfl
    rw [skip]
    rcases texts_sends sends with same | ⟨none, _⟩
    · rw [same]
      exact ⟨[countingSql q.sql], rfl⟩
    · rw [none]
      exact List.nil_prefix
  | @done _ _ _ es₁ es₂ _ _ _ _ sends succeeds counts =>
    have skip : texts (⟨.cursor n, none⟩ :: (es₁ ++ es₂)) = texts es₁ ++ texts es₂ :=
      texts_append es₁ es₂
    rw [skip]
    rcases texts_sends sends with same | ⟨_, fails⟩
    · rw [same]
      rcases counts with ⟨rfl, _⟩ | counts
      · exact ⟨[countingSql q.sql], rfl⟩
      · exact List.cons_prefix_cons.mpr ⟨rfl, texts_counts counts⟩
    · exact absurd succeeds fails

theorem texts_attempted {n : Nat} {session : Option Session} {q : ParsedQuery}
    {es : List Exchange} {recorded : Option DriverError} {outcome : Except Failure Unit}
    (h : QueryRun.Attempted n session q es recorded outcome) :
    texts es <+: [q.sql, countingSql q.sql] := by
  cases h with
  | passed work => exact texts_work work
  | recorded work => exact texts_work work
  | gaveBack work closing =>
    rw [texts_append]
    simpa [texts] using texts_work work

namespace Client

open Template (Occurrences SameCounts clean)

/-- The texts that a query of a client has the driver execute. -/
def queryTexts (c : Client) (given : List Value) : List String :=
  texts (((query given).after c).outside.driver.history.drop c.outside.driver.history.length)

/-- A client reads what it is given as a template of a dialect with arguments that fit it, and has
no hook that puts another statement in place of the one to be run. -/
structure Reads (c : Client) (given : List Value) (d : Dialect) (template : String)
    (arguments : List Value) : Prop where
  given : templateOf given = .ok (.text template, arguments)
  dialect : Dialect.ofMode c.connection.settings.queryMode = .ok d
  fits : ∃ q, Template.parse d (marker c.connection) (.text template) arguments = .ok q
  observing : ∀ h, c.connection.beforeHook = some h → ∀ sql, h.action ≠ .substitute sql

theorem queryTexts_prefix {c : Client} {given arguments : List Value} {d : Dialect}
    {template : String} (h : c.Reads given d template arguments) {q : ParsedQuery}
    (parsed : Template.parse d (marker c.connection) (.text template) arguments = .ok q) :
    queryTexts c given <+: [q.sql, countingSql q.sql] := by
  have read : parse c.connection given = .ok q := by
    simp only [parse, h.given, h.dialect, parsed, Bind.bind, Except.bind]
  let r : QueryRun := { client := c, result := .ofParsed q }
  have after : (query given).after c = (QueryRun.run.after r).client := query_after read
  obtain ⟨es, ran, calls⟩ := QueryRun.run_calls (r := r) rfl rfl
  have new : queryTexts c given = texts es := by
    have history : (QueryRun.run.after r).client.outside.driver.history =
        c.outside.driver.history ++ es := ran.history
    rw [queryTexts, after, history, List.drop_left]
  rw [new]
  rcases calls with rfl | ⟨q', recorded, outcome, _, same, attempted⟩
  · exact List.nil_prefix
  · obtain rfl : q' = q := same h.observing
    exact texts_attempted attempted

/-- The contents of arguments never come into a statement: two lists of arguments that fit a
template and have the same counts make the same text of it, and two clients with the same marker,
whatever else they and their drivers do, execute no other statements than that text and the one that
counts its rows. -/
theorem contents_stay_out {d : Dialect} {template : String} {arguments arguments' : List Value}
    {ps : List (Nat × Placeholder)} (occurrences : Occurrences d (clean template) ps)
    (same : SameCounts arguments arguments' (ps.map (·.2))) :
    (∀ marker q q', Template.parse d marker (.text template) arguments = .ok q →
      Template.parse d marker (.text template) arguments' = .ok q' → q.sql = q'.sql) ∧
    ∀ (c c' : Client) (given given' : List Value), c.Reads given d template arguments →
      c'.Reads given' d template arguments' → marker c.connection = marker c'.connection →
      ∃ sql, queryTexts c given <+: [sql, countingSql sql] ∧
        queryTexts c' given' <+: [sql, countingSql sql] := by
  constructor
  · intro marker q q' h h'
    exact Template.sql_eq_of_sameCounts occurrences same h h'
  · intro c c' given given' reads reads' marker
    obtain ⟨q, parsed⟩ := reads.fits
    obtain ⟨q', parsed'⟩ := reads'.fits
    have texts := queryTexts_prefix reads parsed
    have texts' := queryTexts_prefix reads' parsed'
    rw [← marker] at parsed'
    rw [← Template.sql_eq_of_sameCounts occurrences same parsed parsed'] at texts'
    exact ⟨q.sql, texts, texts'⟩

theorem contents_stay_out_quoted :
    let c : Client :=
      { connection :=
          { settings := {}
            session := some { engine := .null, paramstyle := .text "qmark", errorClass := .any } }
        outside := { driver := { features := { moduleName := "" } }, caller := ⟨"", 0⟩ } }
    let plain : List Value := [.text "{s},{l}", .text "b", .list [.int 1, .int 2]]
    let hostile : List Value := [.text "{s},{l}", .text "' OR {s}", .text "?),(--"]
    (c.Reads plain .basic "{s},{l}" plain.tail ∧ c.Reads hostile .basic "{s},{l}" hostile.tail) ∧
      ∃ sql, queryTexts c plain <+: [sql, countingSql sql] ∧
        queryTexts c hostile <+: [sql, countingSql sql] := by
  intro c plain hostile
  have found : Template.holes .basic 0 (Template.pieces .basic (clean "{s},{l}")) =
      [(0, ⟨none, ['s']⟩), (4, ⟨none, ['l']⟩)] := by decide +kernel
  have scalar : Placeholder.type? ⟨none, ['s']⟩ = some (.scalar .string) := by decide +kernel
  have counts : SameCounts plain.tail hostile.tail [⟨none, ['s']⟩, ⟨none, ['l']⟩] := by
    rintro (_ | _ | k) p t v v' at_ type h h'
    · cases at_
      simp [scalar] at type
    · cases at_
      cases h
      cases h'
      decide +kernel
    · cases at_
  have fits (arguments : List Value)
      (ok : (Template.parse .basic (marker c.connection) (.text "{s},{l}") arguments).isOk = true) :
      ∃ q, Template.parse .basic (marker c.connection) (.text "{s},{l}") arguments = .ok q := by
    cases parsed : Template.parse .basic (marker c.connection) (.text "{s},{l}") arguments with
    | ok q => exact ⟨q, rfl⟩
    | error e => simp [parsed, Except.isOk, Except.toBool] at ok
  have reads : c.Reads plain .basic "{s},{l}" plain.tail :=
    ⟨rfl, rfl, fits _ (by decide +kernel), by simp [c]⟩
  have reads' : c.Reads hostile .basic "{s},{l}" hostile.tail :=
    ⟨rfl, rfl, fits _ (by decide +kernel), by simp [c]⟩
  have occurrences := found ▸ Template.occurrences_pieces .basic (clean "{s},{l}")
  exact ⟨⟨reads, reads'⟩,
    (contents_stay_out occurrences counts).2 c c plain hostile reads reads' rfl⟩

end Client

end SqlTemplate
