import SqlTemplate.Proofs.Connection.Query
import SqlTemplate.Proofs.Parameter

/-!
Which failure a query fails with, as its session, its calls and its parameters tell: there is no
session to work with, or a call that sends its statement fails, or a value cannot be sent. Parameters
that cannot be written out end the query as well, but not with an error of this library.
-/
namespace SqlTemplate

open Driver (Ran)
open RowCount (Counts)
open Statement (Sends encodeFrom)

/-! ## Failures among calls -/

def Call.cursor? : Call → Option Nat
  | .cursor n => some n
  | .execute n _ _ => some n
  | .setInputSizes n _ => some n
  | .fetchOne n => some n
  | .scroll n _ => some n
  | .closeCursor n => some n
  | _ => none

/-- The first failure among the calls of some operations for the cursor `n`. -/
def firstFailure (n : Nat) (operations : List Operation) (es : List Exchange) : Option Fault :=
  es.findSome? fun x =>
    if x.call.cursor? = some n ∧ x.call.operation ∈ operations then x.failure else none

def sending : List Operation := [.cursor, .setInputSizes, .execute]

section
variable {n : Nat} {operations : List Operation} {sql : String} {xs : List (Value × Value)}
  {sized : Bool} {c : ErrorClass} {es es' : List Exchange}

theorem firstFailure_append :
    firstFailure n operations (es ++ es') =
      (firstFailure n operations es).or (firstFailure n operations es') :=
  List.findSome?_append

theorem firstFailure_other (other : ∀ x ∈ es, x.call.cursor? ≠ some n) :
    firstFailure n operations es = none := by
  apply List.findSome?_eq_none_iff.mpr
  intro x hx
  rw [if_neg]
  rintro ⟨same, _⟩
  exact other x hx same

theorem firstFailure_cons (x : Exchange) :
    firstFailure n operations (x :: es) =
      (if x.call.cursor? = some n ∧ x.call.operation ∈ operations then x.failure else none).or
        (firstFailure n operations es) := by
  rw [← List.singleton_append, firstFailure_append]
  simp [firstFailure]

theorem firstFailure_nil : firstFailure n operations [] = none := rfl

theorem sends_calls (h : Sends n sql xs sized es) :
    ∀ x ∈ es, x.call.cursor? = some n ∧ x.call.operation ∈ sending := by
  cases h <;> simp [Call.cursor?, Call.operation, sending]

theorem firstFailure_sends (h : Sends n sql xs sized es) :
    firstFailure n sending es = lastFailure es := by
  cases h <;> simp [firstFailure_cons, firstFailure_nil, Call.cursor?, Call.operation, sending]

theorem closing_sends (h : Sends n sql xs sized es) : firstFailure n [.closeCursor] es = none := by
  cases h <;> simp [firstFailure_cons, firstFailure_nil, Call.operation]

theorem counts_calls (h : Counts n sql xs sized es) :
    ∀ x ∈ es, x.call.cursor? = some n ∧ x.call.operation ≠ .scroll := by
  have sent {es' : List Exchange} (sends : Sends n sql xs sized es') :
      ∀ x ∈ es', x.call.cursor? = some n ∧ x.call.operation ≠ .scroll :=
    fun x hx => ⟨(sends_calls sends x hx).1, sends.still x hx⟩
  intro x hx
  cases h with
  | noCursor f =>
    obtain rfl := List.mem_singleton.mp hx
    exact ⟨rfl, by simp [Call.operation]⟩
  | sent sends closing =>
    simp only [List.mem_cons, List.mem_append, List.not_mem_nil, or_false] at hx
    rcases hx with rfl | hx | rfl
    · exact ⟨rfl, by simp [Call.operation]⟩
    · exact sent sends x hx
    · exact ⟨rfl, by simp [Call.operation]⟩
  | read sends fetching closing =>
    simp only [List.mem_cons, List.mem_append, List.not_mem_nil, or_false] at hx
    rcases hx with rfl | hx | rfl | rfl
    · exact ⟨rfl, by simp [Call.operation]⟩
    · exact sent sends x hx
    · exact ⟨rfl, by simp [Call.operation]⟩
    · exact ⟨rfl, by simp [Call.operation]⟩

theorem counts_head (h : Counts n sql xs sized es) : ∃ x ∈ es, x.call = .cursor n := by
  cases h <;> exact ⟨_, List.mem_cons_self .., rfl⟩

theorem firstFailure_counts (h : Counts (n + 1) sql xs sized es) :
    firstFailure n operations es = none := by
  apply firstFailure_other
  intro x hx
  rw [(counts_calls h x hx).1]
  simp

end

/-! ## The failure of a query -/

def unusable? : Option Session → Option DriverError
  | none => some ⟨.notOpen, none⟩
  | some s => if s.closed then some ⟨.connectionClosed, none⟩ else none

def unconvertible? (ps : List BoundParameter) : Option DriverError :=
  match encodeFrom 1 ps with
  | .error (.driver e) => some e
  | _ => none

/-- The first parameter that is refused has no text, or its position is too long to be told. -/
def Unwritten (ps : List BoundParameter) : Prop :=
  ∃ before p after, ps = before ++ p :: after ∧ (∀ q ∈ before, q.Sendable) ∧
    p.RefusedAt (before.length + 1) (.conversion .unwritten)

section
variable {ps : List BoundParameter}

theorem not_unwritten_nil : ¬ Unwritten [] := by
  rintro ⟨before, p, after, split, _⟩
  simp at split

theorem not_unwritten_of_encodeFrom (checked : ∀ p ∈ ps, p.Checked) {xs : List (Value × Value)}
    (bound : encodeFrom 1 ps = .ok xs) : ¬ Unwritten ps := by
  rcases BoundParameter.encodeFrom_first checked 1 with
    ⟨_, _, _, sendable⟩ | ⟨_, _, _, f, _, _, _, failed⟩
  · rintro ⟨before, p, after, rfl, _, refused⟩
    exact refused.not_sendable (sendable p (by simp))
  · rw [bound] at failed
    contradiction

/-- Where a parameter is refused, this library's error says so, or it is one of those that cannot be
written out. -/
theorem refused_cases (checked : ∀ p ∈ ps, p.Checked) {e : Failure}
    (refused : encodeFrom 1 ps = .error e) :
    (∃ d, e = .driver d ∧ unconvertible? ps = some d) ∨
      e = .conversion .unwritten ∧ unconvertible? ps = none ∧ Unwritten ps := by
  rcases BoundParameter.encodeFrom_first checked 1 with
    ⟨_, encoded, _, _⟩ | ⟨before, p, after, f, split, sendable, why, failed⟩
  · rw [refused] at encoded
    contradiction
  · rw [refused] at failed
    cases failed
    rw [Nat.add_comm] at why
    have told : (∃ d, e = .driver d) ∨ e = .conversion .unwritten := by
      cases why with
      | unsendable k =>
        rcases Nat.lt_or_ge (before.length + 1) (10 ^ Number.digitLimit) with short | long
        · exact .inl ⟨_, Statement.troubleAt_short _ short⟩
        · exact .inr (Statement.troubleAt_overlong _ long)
      | unwritten => exact .inr rfl
    rcases told with ⟨d, rfl⟩ | rfl
    · exact .inl ⟨d, rfl, by rw [unconvertible?, refused]⟩
    · exact .inr ⟨rfl, by rw [unconvertible?, refused], before, p, after, split, sendable, why⟩

end

namespace QueryRun

/-- What the statement that counts the rows of a query brought back cannot be read. -/
def Unread (n : Nat) (es : List Exchange) (e : Failure) : Prop :=
  (∃ x ∈ es, x.call = .cursor (n + 1)) ∧ ((∃ k, e = .conversion k) ∨ ∃ o, e = .operand o)

/-- How the work of a query ends that met no error of this library. -/
inductive Unfailed (n : Nat) (ps : List BoundParameter) (es : List Exchange) :
    Except Failure Unit → Prop
  | done (written : ¬ Unwritten ps) : Unfailed n ps es (.ok ())
  | uncounted {e : Failure} (written : ¬ Unwritten ps) (unread : Unread n es e) :
    Unfailed n ps es (.error e)
  /-- The cursor is taken, and nothing is done with it. -/
  | unwritten (unwritten : Unwritten ps) (calls : es = [⟨.cursor n, none⟩]) :
    Unfailed n ps es (.error (.conversion .unwritten))

section
variable {n : Nat} {session : Option Session} {q : ParsedQuery} {es : List Exchange}
  {outcome : Except Failure Unit}

theorem Unfailed.not_driver {ps : List BoundParameter} {e : DriverError} :
    ¬ Unfailed n ps es (.error (.driver e)) := by
  intro unfailed
  cases unfailed with
  | uncounted _ unread => simp [Unread] at unread

/-- The error that the work of a query fails with, if it does. -/
def workFailure? (n : Nat) (session : Option Session) (ps : List BoundParameter)
    (es : List Exchange) : Option DriverError :=
  (unusable? session).or
    (((firstFailure n sending es).map .wrap).or (unconvertible? ps))

theorem workFailure?_taken {s : Session} (connected : session = some s) (isOpen : s.closed = false)
    (ps : List BoundParameter) :
    workFailure? n session ps es =
      ((firstFailure n sending es).map .wrap).or (unconvertible? ps) := by
  simp [workFailure?, unusable?, connected, isOpen]

theorem firstFailure_cursor (failure : Option Fault) :
    firstFailure n sending (⟨.cursor n, failure⟩ :: es) =
      failure.or (firstFailure n sending es) := by
  simp [firstFailure_cons, Call.cursor?, Call.operation, sending]

theorem closing_cursor (failure : Option Fault) :
    firstFailure n [.closeCursor] (⟨.cursor n, failure⟩ :: es) =
      firstFailure n [.closeCursor] es := by
  simp [firstFailure_cons, Call.operation]

theorem unconvertible?_ok {ps : List BoundParameter} {xs : List (Value × Value)}
    (bound : encodeFrom 1 ps = .ok xs) : unconvertible? ps = none := by
  rw [unconvertible?, bound]

theorem Work.still {t : Option Statement} (work : Work n session q es outcome t) :
    ∀ x ∈ es, x.call.operation ≠ .scroll := by
  have cursor : Operation.cursor ≠ .scroll := by decide
  cases work with
  | notOpen | closed => simp
  | noCursor | unbound => simp [Call.operation]
  | failed _ _ _ _ _ _ sends =>
    rintro x (_ | ⟨_, hx⟩)
    · exact cursor
    · exact sends.still x hx
  | done _ _ _ sends _ counts =>
    rintro x (_ | ⟨_, hx⟩)
    · exact cursor
    · rcases List.mem_append.mp hx with hx | hx
      · exact sends.still x hx
      · rcases counts with ⟨rfl, _⟩ | counts
        · cases hx
        · exact (counts_calls counts x hx).2

/-- The work of a query ends with the error that its calls and its parameters say, and no call gives
its cursor back meanwhile. -/
theorem Work.verdict {t : Option Statement} (work : Work n session q es outcome t)
    (checked : ∀ p ∈ q.parameters, p.Checked)
    (classed : ∀ s, session = some s → Classed s.errorClass es) :
    firstFailure n [.closeCursor] es = none ∧
    ((∃ e, workFailure? n session q.parameters es = some e ∧ outcome = .error (.driver e)) ∨
      workFailure? n session q.parameters es = none ∧ Unfailed n q.parameters es outcome) := by
  cases work with
  | notOpen absent =>
    refine ⟨rfl, .inl ⟨_, ?_, rfl⟩⟩
    rw [workFailure?, absent]
    rfl
  | closed connected closed =>
    refine ⟨rfl, .inl ⟨⟨.connectionClosed, none⟩, ?_, rfl⟩⟩
    simp [workFailure?, unusable?, connected, closed]
  | noCursor connected isOpen f =>
    refine ⟨closing_cursor _, .inl ⟨.wrap f, ?_, ?_⟩⟩
    · rw [workFailure?_taken connected isOpen, firstFailure_cursor]
      rfl
    · rw [(classed _ connected).last (f := f) (by simp) (List.mem_singleton.mpr rfl)]
  | unbound connected isOpen _ _ _ refused =>
    refine ⟨closing_cursor _, ?_⟩
    rw [workFailure?_taken connected isOpen, firstFailure_cursor]
    rcases refused_cases checked refused with ⟨d, rfl, told⟩ | ⟨rfl, untold, unwritten⟩
    · exact .inl ⟨d, told, rfl⟩
    · exact .inr ⟨untold, .unwritten unwritten rfl⟩
  | @failed _ _ _ _ es f connected isOpen _ _ _ _ sends failure =>
    refine ⟨(closing_cursor _).trans (closing_sends sends), .inl ⟨.wrap f, ?_, ?_⟩⟩
    · rw [workFailure?_taken connected isOpen, firstFailure_cursor, firstFailure_sends sends,
        failure]
      rfl
    · have last : lastFailure (⟨.cursor n, none⟩ :: es) = some f := by
        rw [lastFailure_cons, failure]
        rfl
      rw [(classed _ connected).last last (List.mem_cons_self ..)]
  | @done s _ _ es es' _ connected isOpen bound sends succeeds counts ends =>
    have other (operations : List Operation) : firstFailure n operations es' = none := by
      rcases counts with ⟨rfl, _⟩ | counts
      · rfl
      · exact firstFailure_counts counts
    refine ⟨?_, .inr ⟨?_, ?_⟩⟩
    · rw [closing_cursor, firstFailure_append, closing_sends sends, other]
      rfl
    · rw [workFailure?_taken connected isOpen, firstFailure_cursor, firstFailure_append,
        firstFailure_sends sends, succeeds, other, unconvertible?_ok bound]
      rfl
    · have written := not_unwritten_of_encodeFrom checked bound
      rcases counts with ⟨_, rfl⟩ | counts
      · exact .done written
      · have asked : ∃ x ∈ (⟨.cursor n, none⟩ :: (es ++ es') : List Exchange),
            x.call = .cursor (n + 1) := by
          obtain ⟨x, hx, call⟩ := counts_head counts
          exact ⟨x, List.mem_cons_of_mem _ (List.mem_append_right _ hx), call⟩
        cases outcome with
        | ok _ => exact .done written
        | error e =>
          refine .uncounted written ⟨asked, ?_⟩
          cases ends e rfl with
          | unread k => exact .inl ⟨k, rfl⟩
          | unmapped o => exact .inr ⟨o, rfl⟩
          | foreign met other =>
            obtain ⟨x, hx, f, caught, failed, mem, rfl⟩ := met
            have known := classed s connected x
              (List.mem_cons_of_mem _ (List.mem_append_right _ hx)) f failed
            exact absurd (Driver.handle_of_isA known mem) (other _)

theorem Attempted.still {recorded : Option DriverError}
    (attempted : Attempted n session q es recorded outcome) :
    ∀ x ∈ es, x.call.operation ≠ .scroll := by
  cases attempted with
  | passed work | recorded work => exact work.still
  | gaveBack work closing =>
    intro x hx
    rcases List.mem_append.mp hx with hx | hx
    · exact work.still x hx
    · obtain rfl := List.mem_singleton.mp hx
      simp [Call.operation]

/-- The result records the error of the work. An error that is recorded is not raised yet, unless
the cursor cannot be given back. -/
theorem Attempted.verdict {recorded : Option DriverError}
    (attempted : Attempted n session q es recorded outcome)
    (checked : ∀ p ∈ q.parameters, p.Checked)
    (classed : ∀ s, session = some s → Classed s.errorClass es) :
    recorded = workFailure? n session q.parameters es ∧
    ((recorded = none ∧ firstFailure n [.closeCursor] es = none ∧
        Unfailed n q.parameters es outcome) ∨
      recorded ≠ none ∧ firstFailure n [.closeCursor] es = none ∧ outcome = .ok () ∨
      recorded ≠ none ∧ ∃ f, firstFailure n [.closeCursor] es = some f ∧
        outcome = .error (.driver (.wrap f))) := by
  cases attempted with
  | passed work ends =>
    obtain ⟨closing, ⟨e, _, bad⟩ | ⟨failure, rest⟩⟩ := work.verdict checked classed
    · exact absurd bad (ends e)
    · exact ⟨failure.symm, .inl ⟨rfl, closing, rest⟩⟩
  | recorded work =>
    obtain ⟨closing, ⟨e, failure, same⟩ | ⟨_, unfailed⟩⟩ := work.verdict checked classed
    · cases same
      exact ⟨failure.symm, .inr (.inl ⟨by simp, closing, rfl⟩)⟩
    · exact absurd unfailed Unfailed.not_driver
  | @gaveBack es e t work closing =>
    obtain ⟨_, number, s, connected, same⟩ := work.statement
    have before : ∀ s, session = some s → Classed s.errorClass es :=
      fun s hs x hx => classed s hs x (List.mem_append_left _ hx)
    obtain ⟨still, ⟨e', failure, same'⟩ | ⟨_, unfailed⟩⟩ := work.verdict checked before
    · cases same'
      have own : firstFailure n sending (es ++ [⟨.closeCursor n, closing⟩]) =
          firstFailure n sending es := by
        rw [firstFailure_append]
        simp [firstFailure_cons, firstFailure_nil, Call.operation, sending]
      have last : firstFailure n [.closeCursor] (es ++ [⟨.closeCursor n, closing⟩]) = closing := by
        rw [firstFailure_append, still]
        simp [firstFailure_cons, firstFailure_nil, Call.cursor?, Call.operation]
      refine ⟨?_, .inr ?_⟩
      · rw [workFailure?, own]
        exact failure.symm
      · rw [last]
        cases closing with
        | none => exact .inl ⟨by simp, rfl, rfl⟩
        | some f =>
          have known : f.errorClass.isA s.errorClass = true :=
            classed s connected ⟨.closeCursor n, some f⟩ (by simp) f rfl
          refine .inr ⟨by simp, f, rfl, ?_⟩
          rw [same]
          exact congrArg Except.error (Driver.handle_of_isA known (List.mem_singleton.mpr rfl))
    · exact absurd unfailed Unfailed.not_driver

end

end QueryRun

end SqlTemplate
