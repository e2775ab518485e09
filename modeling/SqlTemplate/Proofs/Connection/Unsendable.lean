import SqlTemplate.Proofs.Connection.Query
import SqlTemplate.Proofs.Parameter

/-!
Which parameters of a template that could be read cannot be bound. Their values have been checked,
so only numerals of too many digits are left, and what binary placeholders take without a check. The
first of these is reported by its position before anything is executed; without one, all are bound.
-/
namespace SqlTemplate

open Driver (Ran)
open Statement (encodeFrom bindAll)
open BoundParameter (Checked Sound Unsendable)

/-! ## Arguments with integers that can be written -/

namespace Value

theorem overlongIn_eq_false_iff {vs : List Value} :
    overlongIn vs = false ↔ ∀ v ∈ vs, v.overlong = false := by
  induction vs with
  | nil => simp [overlongIn]
  | cons v vs ih => simp [overlongIn, ih]

theorem overlong_elements {v : Value} (short : v.overlong = false) :
    ∀ w ∈ v.elements, w.overlong = false := by
  cases split : v.split with
  | error e =>
    rw [elements_of_error split]
    simp
  | ok ws =>
    rw [elements_of_ok split]
    cases v with
    | list vs =>
      cases split
      exact overlongIn_eq_false_iff.mp (by rwa [overlong] at short)
    | tuple vs =>
      cases split
      exact overlongIn_eq_false_iff.mp (by rwa [overlong] at short)
    | _ =>
      -- All else is split at the commas of its text, into texts.
      simp only [Value.split, toText, short] at split
      cases split
      intro w mem
      obtain ⟨part, _, rfl⟩ := List.mem_map.mp mem
      rfl

end Value

theorem Binding.short_parameters {b : Binding} (short : b.value.overlong = false) :
    ∀ p ∈ b.parameters, p.value.overlong = false := by
  intro p hp
  obtain ⟨w, hw, rfl⟩ := List.mem_map.mp hp
  rw [values] at hw
  split at hw
  · rwa [List.mem_singleton.mp hw]
  · exact Value.overlong_elements short w hw

namespace Template

theorem value_mem_arguments {arguments : List Value} {k : Nat} {ps : List Placeholder} :
    ∀ b ∈ bindings arguments k ps, b.value ∈ arguments := by
  induction ps generalizing k with
  | nil => simp [bindings]
  | cons p ps ih =>
    intro b hb
    rw [bindings] at hb
    split at hb
    · next argument =>
      rcases List.mem_cons.mp hb with rfl | hb
      · exact List.mem_of_getElem? argument
      · exact ih b hb
    · exact ih b hb

theorem short_of_parse {d : Dialect} {marker template : String} {arguments : List Value}
    {q : ParsedQuery} (parsed : parse d marker (.text template) arguments = .ok q)
    (short : ∀ v ∈ arguments, v.overlong = false) :
    ∀ p ∈ q.parameters, p.value.overlong = false := by
  obtain ⟨_, rfl⟩ := Parser.parse_ok parsed
  intro p hp
  obtain ⟨b, hb, hp⟩ := List.mem_flatMap.mp hp
  exact Binding.short_parameters (short b.value (value_mem_arguments b hb)) p hp

end Template

/-! ## Nothing is executed -/

namespace QueryRun

section
variable {n : Nat} {session : Option Session} {q : ParsedQuery} {es : List Exchange}
  {outcome : Except Failure Unit} {e : Failure}

theorem Work.unexecuted {t : Option Statement} (h : Work n session q es outcome t)
    (refused : encodeFrom 1 q.parameters = .error e) :
    ∀ x ∈ es, x.call.operation ≠ .execute := by
  cases h with
  | notOpen | closed => simp
  | noCursor | unbound => simp [Call.operation]
  | failed _ _ _ _ _ bound =>
    rw [refused] at bound
    contradiction
  | done _ _ bound =>
    rw [refused] at bound
    contradiction

theorem Attempted.unexecuted {recorded : Option DriverError}
    (h : Attempted n session q es recorded outcome)
    (refused : encodeFrom 1 q.parameters = .error e) :
    ∀ x ∈ es, x.call.operation ≠ .execute := by
  cases h with
  | passed work => exact work.unexecuted refused
  | recorded work => exact work.unexecuted refused
  | gaveBack work closing =>
    intro x hx
    rcases List.mem_append.mp hx with hx | hx
    · exact work.unexecuted refused x hx
    · cases List.mem_singleton.mp hx
      simp [Call.operation]

end

end QueryRun

/-- A query executes nothing if one of its parameters is refused, whatever its hooks put in place of
the statement. -/
theorem Client.calls_unexecuted {c : Client} {given : List Value} {q : ParsedQuery} {e : Failure}
    (read : parse c.connection given = .ok q) (refused : encodeFrom 1 q.parameters = .error e) :
    ∀ x ∈ calls c given, x.call.operation ≠ .execute := by
  obtain ⟨es, ran, work⟩ :=
    QueryRun.run_calls (r := { client := c, result := .ofParsed q }) rfl rfl
  have made : calls c given = es := by
    apply calls_eq
    rw [query_after read]
    exact ran
  rw [made]
  rcases work with rfl | ⟨q', _, _, parameters, _, attempted⟩
  · simp
  · exact attempted.unexecuted ((congrArg _ parameters).trans refused)

/-! ## Binding what was parsed -/

/-- The parameters of a template that could be read, with no integer too long to be written among
its arguments, are bound to a new statement at the positions from one on, in their order, unless one
of them cannot be sent. Then this library's error names the first of these by its position, as long as
there are not so many parameters that the position is itself too long to be written, and no query with
these parameters executes anything. -/
theorem Statement.bound_unless_unsendable {d : Dialect} {marker template : String}
    {arguments : List Value} {q : ParsedQuery}
    (parsed : Template.parse d marker (.text template) arguments = .ok q)
    (short : ∀ v ∈ arguments, v.overlong = false) (cursor : Cursor) (errorClass : ErrorClass)
    (driver : Driver) :
    let s : Statement := { cursor, sql := q.sql, errorClass }
    (∃ before p after e, q.parameters = before ++ p :: after ∧
      (∀ p' ∈ before, ¬ p'.Unsendable) ∧ p.Unsendable ∧
      (before.length + 1 < 10 ^ Number.digitLimit →
        (bindAll q.parameters).outcome ⟨s, driver⟩ =
          .error (.driver ⟨.unbindable (before.length + 1 : Nat) e, none⟩)) ∧
      (10 ^ Number.digitLimit ≤ before.length + 1 →
        (bindAll q.parameters).outcome ⟨s, driver⟩ = .error (.conversion .unwritten)) ∧
      ∀ c given, Client.parse c.connection given = .ok q →
        ∀ x ∈ Client.calls c given, x.call.operation ≠ .execute) ∨
    ((∀ p ∈ q.parameters, ¬ p.Unsendable) ∧
      ∃ xs, List.Forall₂ Sound q.parameters xs ∧
        bindAll q.parameters ⟨s, driver⟩ = .ok () ⟨s.withBound xs, driver⟩) := by
  intro s
  have bound := bindAll_eq (s := s) (d := driver) rfl rfl rfl q.parameters
  rcases BoundParameter.encodeFrom_first (Template.checked_of_parse parsed) 1 with
    ⟨xs, encoded, sound, sendable⟩ | ⟨before, p, after, f, split, sendable, reason, refused⟩
  · rw [encoded] at bound
    exact .inr ⟨fun p mem => (sendable p mem).1, xs, sound, bound⟩
  · have written : p.value.overlong = false := by
      apply Template.short_of_parse parsed short
      rw [split]
      exact List.mem_append_right _ (List.mem_cons_self ..)
    rw [refused] at bound
    obtain ⟨xs, failed⟩ := bound
    have outcome : (bindAll q.parameters).outcome ⟨s, driver⟩ = .error f := by
      rw [Action.outcome, failed]
    rw [Nat.add_comm] at reason
    cases reason with
    | unwritten unwritten =>
      rw [unwritten.2] at written
      contradiction
    | unsendable e unsendable =>
      refine .inl ⟨before, p, after, e, split, fun p' mem => (sendable p' mem).1, unsendable,
        ?_, ?_, ?_⟩
      · intro few
        exact outcome.trans (congrArg Except.error (troubleAt_short _ few))
      · intro many
        exact outcome.trans (congrArg Except.error (troubleAt_overlong _ many))
      · intro c given read
        exact Client.calls_unexecuted read refused

theorem Statement.bound_unless_unsendable_third :
    let arguments : List Value := [.text "a", .text "\u00ff", .int 7]
    let parsed := Template.parse .basic "?" (.text "{s} {b} {b}") arguments
    let start (q : ParsedQuery) : Live Statement :=
      ⟨{ cursor := {}, sql := q.sql }, { features := { moduleName := "" } }⟩
    (∀ v ∈ arguments, v.overlong = false) ∧
      ∃ q before p after e, parsed = .ok q ∧ q.parameters = before ++ p :: after ∧ p.Unsendable ∧
        (bindAll q.parameters).outcome (start q) = .error (.driver e) ∧
        e.message = "cannot bind parameter 3: cannot convert int to Binary" := by
  intro arguments parsed start
  have short : ∀ v ∈ arguments, v.overlong = false := by decide +kernel
  have readable : parsed.isOk = true := by decide +kernel
  cases read : parsed with
  | error e =>
    rw [read] at readable
    contradiction
  | ok q =>
    have told : ((parsed.bind fun q => (bindAll q.parameters).outcome (start q)).mapError
        Failure.message) = .error "cannot bind parameter 3: cannot convert int to Binary" := by
      decide +kernel
    rw [read, Except.bind] at told
    rcases bound_unless_unsendable read short {} .any { features := { moduleName := "" } } with
      ⟨before, p, after, e, split, _, unsendable, named, unnamed, _⟩ | ⟨_, xs, _, bound⟩
    · rcases Nat.lt_or_ge (before.length + 1) (10 ^ Number.digitLimit) with few | many
      · have outcome : (bindAll q.parameters).outcome (start q) = .error (.driver _) := named few
        rw [outcome] at told
        exact ⟨short, q, before, p, after, _, rfl, split, unsendable, outcome,
          Except.error.inj told⟩
      · have outcome : (bindAll q.parameters).outcome (start q) = .error _ := unnamed many
        rw [outcome] at told
        exact absurd (Except.error.inj told) (by decide)
    · have run : bindAll q.parameters (start q) = .ok () _ := bound
      have outcome : (bindAll q.parameters).outcome (start q) = .ok () := by
        rw [Action.outcome, run]
      rw [outcome] at told
      cases told

end SqlTemplate
