import SqlTemplate.Proofs.Connection.Query
import SqlTemplate.Proofs.Template.Overlong

/-!
Queries that are refused before anything is run: what they are given is no template with arguments, or
its placeholders cannot be bound. They leave no trace, neither at once nor later. Where a query mode or
an argument is or holds an integer too long to be written out, the failure to write it is the reason.
-/
namespace SqlTemplate.Client

open Template (LacksText Occurrences Overlong clean firstLocated refusal?)

/-! ## Why a query is refused -/

/-- What a query is given, as a template and its arguments: one after the other, or together in one
sequence. -/
inductive Gives : List Value → Value → List Value → Prop
  | separate {template : Value} {arguments : List Value}
      (single : ∀ vs, template ≠ .list vs ∧ template ≠ .tuple vs) :
    Gives (template :: arguments) template arguments
  | list {template : Value} {arguments : List Value} :
    Gives [.list (template :: arguments)] template arguments
  | tuple {template : Value} {arguments : List Value} :
    Gives [.tuple (template :: arguments)] template arguments

inductive Malformed : List Value → ArgumentError → Prop
  | nothing : Malformed [] .noQuery
  | emptyList : Malformed [.list []] .noQuery
  | emptyTuple : Malformed [.tuple []] .noQuery
  | listAnd {vs rest : List Value} {v : Value} :
    Malformed (.list vs :: v :: rest) .sequenceAndArguments
  | tupleAnd {vs rest : List Value} {v : Value} :
    Malformed (.tuple vs :: v :: rest) .sequenceAndArguments

/-- Why a value is no query mode. It is looked up as a key, and the message that refuses it shows it. -/
inductive NoMode (mode : Value) : Failure → Prop
  | unhashable {typeName : String} (noKey : mode.unhashable? = some typeName) :
    NoMode mode (.operand (.unhashable typeName))
  | unshown {e : OperandError} (key : mode.unhashable? = none)
      (other : mode.equals (.int 0) = false ∧ mode.equals (.int 1) = false)
      (unshown : mode.formatArgument = .error e) : NoMode mode (.operand e)
  | unknown {shown : Value} (key : mode.unhashable? = none)
      (other : mode.equals (.int 0) = false ∧ mode.equals (.int 1) = false)
      (shows : mode.formatArgument = .ok shown) (short : shown.overlong = false) :
    NoMode mode (.argument (.invalidMode shown))
  | unwritten {shown : Value} (key : mode.unhashable? = none)
      (other : mode.equals (.int 0) = false ∧ mode.equals (.int 1) = false)
      (shows : mode.formatArgument = .ok shown) (long : shown.overlong = true) :
    NoMode mode (.conversion .unwritten)

theorem ofMode_noMode {mode : Value} {e : Failure} (noMode : NoMode mode e) :
    Dialect.ofMode mode = .error e := by
  cases noMode with
  | unhashable noKey => simp only [Dialect.ofMode, noKey]
  | unshown key other unshown => simp [Dialect.ofMode, key, other, unshown]
  | unknown key other shows short =>
    simp [Dialect.ofMode, key, other, shows, Failure.showing_short short]
  | unwritten key other shows long =>
    simp [Dialect.ofMode, key, other, shows, Failure.showing_overlong long]

theorem ofMode_or_noMode (mode : Value) :
    (∃ d, Dialect.ofMode mode = .ok d) ∨ ∃ e, NoMode mode e := by
  cases key : mode.unhashable? with
  | some typeName => exact .inr ⟨_, .unhashable key⟩
  | none =>
    cases basic : mode.equals (.int 0) with
    | true => exact .inl ⟨.basic, by simp [Dialect.ofMode, key, basic]⟩
    | false =>
      cases classic : mode.equals (.int 1) with
      | true => exact .inl ⟨.classic, by simp [Dialect.ofMode, key, basic, classic]⟩
      | false =>
        have other := And.intro basic classic
        cases shows : mode.formatArgument with
        | error e => exact .inr ⟨_, .unshown key other shows⟩
        | ok shown =>
          cases long : shown.overlong with
          | false => exact .inr ⟨_, .unknown key other shows long⟩
          | true => exact .inr ⟨_, .unwritten key other shows long⟩

theorem ofMode_error_iff {mode : Value} {e : Failure} :
    Dialect.ofMode mode = .error e ↔ NoMode mode e := by
  constructor
  · intro failed
    rcases ofMode_or_noMode mode with ⟨d, known⟩ | ⟨e', noMode⟩
    · rw [known] at failed
      contradiction
    · obtain rfl := Except.error.inj ((ofMode_noMode noMode).symm.trans failed)
      exact noMode
  · exact ofMode_noMode

/-- Why a query is refused in a query mode: for its form, for the mode, for a template that is no text,
or for the first of its placeholders that cannot be bound. That is an error of this library, unless too
many digits are to be read for a location, or to be written for an argument. -/
inductive Refused (mode : Value) (given : List Value) : Failure → Prop
  | malformed {e : ArgumentError} (form : Malformed given e) : Refused mode given (.argument e)
  | noMode {template : Value} {arguments : List Value} {e : Failure}
      (gives : Gives given template arguments) (noMode : NoMode mode e) : Refused mode given e
  | noText {template : Value} {arguments : List Value} {d : Dialect}
      (gives : Gives given template arguments) (known : Dialect.ofMode mode = .ok d)
      (other : ∀ s, template ≠ .text s) : Refused mode given (.argument .noQuery)
  | unbound {s : String} {arguments : List Value} {d : Dialect} {ps : List (Nat × Placeholder)}
      {e : Failure} (gives : Gives given (.text s) arguments) (known : Dialect.ofMode mode = .ok d)
      (occurrences : Occurrences d (clean s) ps)
      (first : refusal? arguments (firstLocated (ps.map (·.2))) 0 (ps.map (·.2)) = some e)
      (own : ¬ e.IsForeign) : Refused mode given e
  | unread {s : String} {arguments : List Value} {d : Dialect} {ps : List (Nat × Placeholder)}
      {n : Nat} (gives : Gives given (.text s) arguments) (known : Dialect.ofMode mode = .ok d)
      (occurrences : Occurrences d (clean s) ps) (long : Overlong arguments n (ps.map (·.2))) :
    Refused mode given (.conversion (.tooManyDigits n))
  | unwritten {s : String} {arguments : List Value} {d : Dialect} {ps : List (Nat × Placeholder)}
      (gives : Gives given (.text s) arguments) (known : Dialect.ofMode mode = .ok d)
      (occurrences : Occurrences d (clean s) ps) (lacks : LacksText arguments (ps.map (·.2))) :
    Refused mode given (.argument (.noText .unwritten))

theorem templateOf_gives {given arguments : List Value} {template : Value}
    (gives : Gives given template arguments) : templateOf given = .ok (template, arguments) := by
  cases gives with
  | separate single =>
    cases template with
    | list vs => exact absurd rfl (single vs).1
    | tuple vs => exact absurd rfl (single vs).2
    | _ => rfl
  | list | tuple => rfl

theorem templateOf_malformed {given : List Value} {e : ArgumentError} (form : Malformed given e) :
    templateOf given = .error (.argument e) := by
  cases form <;> rfl

theorem gives_or_malformed (given : List Value) :
    (∃ template arguments, Gives given template arguments) ∨ ∃ e, Malformed given e := by
  cases given with
  | nil => exact .inr ⟨_, .nothing⟩
  | cons v rest =>
    by_cases sequence : ∃ vs, v = .list vs ∨ v = .tuple vs
    · obtain ⟨vs, rfl | rfl⟩ := sequence
      · cases rest with
        | cons => exact .inr ⟨_, .listAnd⟩
        | nil =>
          cases vs with
          | nil => exact .inr ⟨_, .emptyList⟩
          | cons => exact .inl ⟨_, _, .list⟩
      · cases rest with
        | cons => exact .inr ⟨_, .tupleAnd⟩
        | nil =>
          cases vs with
          | nil => exact .inr ⟨_, .emptyTuple⟩
          | cons => exact .inl ⟨_, _, .tuple⟩
    · refine .inl ⟨v, rest, .separate ?_⟩
      intro vs
      constructor
      · intro same
        exact sequence ⟨vs, .inl same⟩
      · intro same
        exact sequence ⟨vs, .inr same⟩

section
variable {c : Connection} {given arguments : List Value} {template : Value} {d : Dialect}
  {e : Failure}

theorem parse_malformed {x : ArgumentError} (form : Malformed given x) :
    parse c given = .error (.argument x) := by
  rw [parse, templateOf_malformed form]
  rfl

theorem parse_gives (gives : Gives given template arguments) :
    parse c given = (Dialect.ofMode c.settings.queryMode).bind fun d =>
      Template.parse d (marker c) template arguments := by
  rw [parse, templateOf_gives gives]
  rfl

theorem parse_noText (other : ∀ s, template ≠ .text s) (marker : String) :
    Template.parse d marker template arguments = .error (.argument .noQuery) := by
  cases template with
  | text s => exact absurd rfl (other s)
  | _ => rfl

theorem parse_text_error_iff {s : String} {ps : List (Nat × Placeholder)}
    (occurrences : Occurrences d (clean s) ps) (marker : String) :
    Template.parse d marker (.text s) arguments = .error e ↔
      refusal? arguments (firstLocated (ps.map (·.2))) 0 (ps.map (·.2)) = some e := by
  have all : Parser.occurrencesIn d s = ps :=
    (Template.occurrences_pieces d (clean s)).unique occurrences
  have outcome := Parser.parse_eq { dialect := d, marker } s arguments
  simp only [all] at outcome
  rw [Template.parse, outcome]
  cases refusal? arguments (firstLocated (ps.map (·.2))) 0 (ps.map (·.2)) <;> simp

/-- What a query is given cannot be read if and only if the query is refused, and for that reason. -/
theorem parse_error_iff : parse c given = .error e ↔ Refused c.settings.queryMode given e := by
  constructor
  · intro failed
    rcases gives_or_malformed given with ⟨template, arguments, gives⟩ | ⟨x, form⟩
    · rw [parse_gives gives] at failed
      cases mode : Dialect.ofMode c.settings.queryMode with
      | error x =>
        rw [mode] at failed
        obtain rfl := Except.error.inj failed
        exact .noMode gives (ofMode_error_iff.mp mode)
      | ok d =>
        rw [mode] at failed
        by_cases text : ∃ s, template = .text s
        · obtain ⟨s, rfl⟩ := text
          have occurrences := Template.occurrences_pieces d (clean s)
          have first := (parse_text_error_iff occurrences _).mp failed
          by_cases foreign : e.IsForeign
          · rcases Template.refusal?_foreign_iff.mp ⟨first, foreign⟩ with
              ⟨n, long, rfl⟩ | ⟨lacks, rfl⟩
            · exact .unread gives mode occurrences long
            · exact .unwritten gives mode occurrences lacks
          · exact .unbound gives mode occurrences first foreign
        · have other : ∀ s, template ≠ .text s := fun s same => text ⟨s, same⟩
          have refused : Template.parse d (marker c) template arguments =
              .error (.argument .noQuery) := parse_noText other (marker c)
          obtain rfl := Except.error.inj (refused.symm.trans failed)
          exact .noText gives mode other
    · obtain rfl := Except.error.inj ((parse_malformed form).symm.trans failed)
      exact .malformed form
  · intro refused
    cases refused with
    | malformed form => exact parse_malformed form
    | noMode gives noMode =>
      rw [parse_gives gives, ofMode_error_iff.mpr noMode]
      rfl
    | noText gives known other =>
      rw [parse_gives gives, known]
      exact parse_noText other _
    | unbound gives known occurrences first =>
      rw [parse_gives gives, known]
      exact (parse_text_error_iff occurrences _).mpr first
    | unread gives known occurrences long =>
      have first := Template.refusal?_foreign_iff.mpr (.inl ⟨_, long, rfl⟩)
      rw [parse_gives gives, known]
      exact (parse_text_error_iff occurrences _).mpr first.1
    | unwritten gives known occurrences lacks =>
      have first := Template.refusal?_foreign_iff.mpr (.inr ⟨lacks, rfl⟩)
      rw [parse_gives gives, known]
      exact (parse_text_error_iff occurrences _).mpr first.1

end

/-! ## Histories with refusals -/

section
variable {ι α : Type} (other : ι → ClientAction α)

def perform : List Value ⊕ ι → ClientAction (QueryResult ⊕ α)
  | .inl given => Sum.inl <$> query given
  | .inr i => Sum.inr <$> other i

structure Event (ι α : Type) where
  before : Client
  operation : List Value ⊕ ι
  outcome : Except Failure (QueryResult ⊕ α)

def events (c : Client) : List (List Value ⊕ ι) → List (Event ι α)
  | [] => []
  | o :: os => ⟨c, o, (perform other o).outcome c⟩ :: events ((perform other o).after c) os

def Event.isRefused (x : Event ι α) : Bool :=
  match x.operation with
  | .inl given => (parse x.before.connection given).toOption.isNone
  | .inr _ => false

/-- What comes of the operations that are no refused queries. -/
def heard (c : Client) (operations : List (List Value ⊕ ι)) : List (Event ι α) :=
  (events other c operations).filter fun x => !x.isRefused

variable {c : Client}

theorem perform_refused {given : List Value} {e : Failure}
    (failed : parse c.connection given = .error e) :
    perform other (.inl given) c = .error e c :=
  Action.bind_error (query_refused failed) _

/-- Without the queries that are refused, the same comes of all other operations, and the client comes
to the same state. -/
theorem events_without_refused (operations : List (List Value ⊕ ι)) :
    events other c ((heard other c operations).map (·.operation)) = heard other c operations ∧
      Action.afterAll (perform other) c ((heard other c operations).map (·.operation)) =
        Action.afterAll (perform other) c operations := by
  induction operations generalizing c with
  | nil => exact ⟨rfl, rfl⟩
  | cons o os ih =>
    let x : Event ι α := ⟨c, o, (perform other o).outcome c⟩
    obtain ⟨same, state⟩ := ih (c := (perform other o).after c)
    simp only [heard, events] at same state ⊢
    cases refused : x.isRefused with
    | false =>
      rw [List.filter_cons_of_pos (by simpa [x] using refused)]
      refine ⟨?_, state⟩
      rw [List.map_cons, events, same]
    | true =>
      rw [List.filter_cons_of_neg (by simpa [x] using refused)]
      have unchanged : (perform other o).after c = c := by
        cases o with
        | inr i => contradiction
        | inl given =>
          cases read : parse c.connection given with
          | ok q => simp [x, Event.isRefused, read, Except.toOption] at refused
          | error e => rw [Action.after, perform_refused other read]
      rw [unchanged] at same state ⊢
      refine ⟨same, ?_⟩
      rw [state, Action.afterAll, Action.afterAll, List.foldl_cons, unchanged]

end

/-- A query that is refused fails for the reason of its refusal, whatever the settings say of errors,
and leaves the client and all around it as they were: nothing is called, shown, printed, written or
logged. Without such queries the same comes of all other operations, whatever these are. And it is
the same whether a template and its arguments are given one after the other or in one sequence. -/
theorem refused_without_trace {ι α : Type} (other : ι → ClientAction α) (c : Client)
    (operations : List (List Value ⊕ ι)) :
    (∀ (c : Client) given e,
      (parse c.connection given = .error e ↔ Refused c.connection.settings.queryMode given e) ∧
        (Refused c.connection.settings.queryMode given e → query given c = .error e c)) ∧
    (events other c ((heard other c operations).map (·.operation)) = heard other c operations ∧
      Action.afterAll (perform other) c ((heard other c operations).map (·.operation)) =
        Action.afterAll (perform other) c operations) ∧
    ∀ template arguments, (∀ vs, template ≠ .list vs ∧ template ≠ .tuple vs) →
      query [.list (template :: arguments)] = query (template :: arguments) ∧
        query [.tuple (template :: arguments)] = query (template :: arguments) := by
  refine ⟨?_, events_without_refused other operations, ?_⟩
  · intro c given e
    refine ⟨parse_error_iff, ?_⟩
    intro refused
    exact query_refused (parse_error_iff.mpr refused)
  · intro template arguments single
    have same {given : List Value} (gives : Gives given template arguments) :
        query given = query (template :: arguments) := by
      have read (c : Connection) : parse c given = parse c (template :: arguments) := by
        rw [parse_gives gives, parse_gives (.separate single)]
      simp only [query, read]
    exact ⟨same .list, same .tuple⟩

end SqlTemplate.Client
