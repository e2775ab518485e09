import SqlTemplate.Proofs.Session

/-!
What a session knows of the driver's transaction. The driver's calls tell when a transaction is open
there; the session keeps a flag of its own, which it sets and clears by what it asked for. Both agree
until a call fails that was to end the transaction, or that was to give back the cursor which started
it: from then on the session takes an open transaction as ended.
-/
namespace SqlTemplate

namespace Exchange

def starts (e : Exchange) : Bool :=
  match e.call with
  | .begin => e.failure.isNone
  | .execute _ sql _ => sql == "BEGIN" && e.failure.isNone
  | _ => false

/-- A call that ended the transaction, if there was one. -/
def ends (e : Exchange) : Bool :=
  match e.call with
  | .commit | .rollback => e.failure.isNone
  | _ => false

/-- A call that failed and after which a session takes the transaction as ended. -/
def unsettles (e : Exchange) : Bool :=
  match e.call with
  | .commit | .rollback | .closeCursor _ => e.failure.isSome
  | _ => false

end Exchange

namespace Driver

/-- Whether a transaction is open after calls: one was started, and none of the later calls ended it.
A call that fails changes nothing. -/
def hasTransaction (es : List Exchange) : Bool :=
  es.foldl (fun inside e => if e.starts then true else if e.ends then false else inside) false

/-- Whether a session can have lost sight of the transaction: after the last start there was a call
that failed to end it, or to give a cursor back. -/
def isUnsettled (es : List Exchange) : Bool :=
  es.foldl (fun unsettled e => if e.starts then false else unsettled || e.unsettles) false

@[simp] theorem hasTransaction_snoc (es : List Exchange) (e : Exchange) :
    hasTransaction (es ++ [e]) =
      if e.starts then true else if e.ends then false else hasTransaction es := by
  rw [hasTransaction, List.foldl_append]
  rfl

@[simp] theorem isUnsettled_snoc (es : List Exchange) (e : Exchange) :
    isUnsettled (es ++ [e]) = if e.starts then false else isUnsettled es || e.unsettles := by
  rw [isUnsettled, List.foldl_append]
  rfl

end Driver

namespace Session

open Driver (hasTransaction isUnsettled hasTransaction_snoc isUnsettled_snoc)

inductive Request
  | begin
  | commit
  | rollback
  deriving DecidableEq, Repr

def Request.run : Request → SessionAction Unit
  | begin => Session.begin
  | commit => Session.commit
  | rollback => Session.rollback

/-- An open session that takes itself to be in a transaction just when the driver has one open and
nothing failed since it was started. -/
structure Aware (u : Live Session) : Prop where
  isOpen : u.it.closed = false
  told : u.it.inTransaction = (hasTransaction u.driver.history && !isUnsettled u.driver.history)

section
variable {s : Session} {d : Driver}

/-- Where the session and the driver agree that there is no transaction, the calls that start one
bring the session into one just when none of them fails. -/
theorem told_begins {n : Nat} {h es : List Exchange} (begins : Begins n es)
    (outside : (hasTransaction h && !isUnsettled h) = false) :
    (lastFailure es).isNone = (hasTransaction (h ++ es) && !isUnsettled (h ++ es)) := by
  cases begins with
  | byCall failure =>
    rw [hasTransaction_snoc, isUnsettled_snoc]
    cases failure with
    | none => rfl
    | some f => simpa [Exchange.starts, Exchange.ends, Exchange.unsettles] using outside.symm
  | noCursor f =>
    rw [hasTransaction_snoc, isUnsettled_snoc]
    simpa [Exchange.starts, Exchange.ends, Exchange.unsettles] using outside.symm
  | byStatement failure closing =>
    rw [List.append_cons, List.append_cons, hasTransaction_snoc, isUnsettled_snoc,
      hasTransaction_snoc, isUnsettled_snoc, hasTransaction_snoc, isUnsettled_snoc]
    cases failure with
    -- The transaction is open now, even if the cursor that opened it cannot be given back.
    | none => cases closing <;> rfl
    | some f =>
      cases closing with
      | none => simpa [Exchange.starts, Exchange.ends, Exchange.unsettles] using outside.symm
      | some f' => simp [Exchange.starts, Exchange.ends, Exchange.unsettles]

theorem begin_aware (aware : Aware ⟨s, d⟩) : Aware (begin.after ⟨s, d⟩) := by
  cases inside : s.inTransaction with
  | true =>
    rw [Action.after, begin_nested aware.isOpen inside]
    exact aware
  | false =>
    obtain ⟨es, d', ran, begins, run⟩ := begin_cases (d := d) aware.isOpen inside
    have told := told_begins begins (aware.told.symm.trans inside)
    rw [← ran.history] at told
    rw [Action.after, run]
    cases failure : lastFailure es <;>
    · rw [failure] at told
      exact ⟨aware.isOpen, told⟩

theorem settle_aware {c : Call} (ending : c = .commit ∨ c = .rollback) (aware : Aware ⟨s, d⟩) :
    Aware ((settle c).after ⟨s, d⟩) := by
  have other : c.operation ≠ .cursor := by rcases ending with rfl | rfl <;> nofun
  obtain ⟨failure, d', ran, run⟩ := settle_cases (d := d) aware.isOpen other
  have told : false = (hasTransaction d'.history && !isUnsettled d'.history) := by
    rw [ran.history, hasTransaction_snoc, isUnsettled_snoc]
    rcases ending with rfl | rfl <;>
      cases failure <;> simp [Exchange.starts, Exchange.ends, Exchange.unsettles]
  rw [Action.after, run]
  cases failure <;> exact ⟨aware.isOpen, told⟩

theorem run_aware (request : Request) {u : Live Session} (aware : Aware u) :
    Aware (request.run.after u) := by
  cases request with
  | begin => exact begin_aware aware
  | commit => exact settle_aware (.inl rfl) aware
  | rollback => exact settle_aware (.inr rfl) aware

/-- A nested start is refused by the session itself; any other one reaches the driver. -/
theorem begin_refused_iff {u : Live Session} (isOpen : u.it.closed = false) :
    begin u = .error (.driver ⟨.transactionActive, none⟩) u ↔ u.it.inTransaction = true := by
  constructor
  · intro refused
    cases inside : u.it.inTransaction with
    | true => rfl
    | false =>
      obtain ⟨es, d', ran, begins, run⟩ := begin_cases (d := u.driver) isOpen inside
      have stays : begin.after u = u := by rw [Action.after, refused]
      have reached : (begin.after u).driver = d' := by
        rw [Action.after, run]
        cases lastFailure es <;> rfl
      have history := ran.history
      rw [← reached, stays] at history
      have none : es = [] := List.append_right_eq_self.mp history.symm
      subst none
      cases begins
  · exact begin_nested isOpen

end

/-- The flag of a session, whatever was requested of it and whichever calls failed. It says that a
transaction is open just when the driver has one open and, since its start, no call failed that was to
end it or to give a cursor back; and a start is refused without a call just when the flag says so. -/
theorem flag_iff {s : Session} {d : Driver} (isOpen : s.closed = false)
    (outside : s.inTransaction = false) (idle : hasTransaction d.history = false)
    (requests : List Request) :
    let u := Action.afterAll Request.run ⟨s, d⟩ requests
    (u.it.inTransaction = true ↔
      hasTransaction u.driver.history = true ∧ isUnsettled u.driver.history = false) ∧
      (begin u = .error (.driver ⟨.transactionActive, none⟩) u ↔ u.it.inTransaction = true) := by
  intro u
  have aware : Aware u := Action.afterAll_kept run_aware ⟨isOpen, by simp [outside, idle]⟩ requests
  refine ⟨?_, begin_refused_iff aware.isOpen⟩
  rw [aware.told, Bool.and_eq_true, Bool.not_eq_true']

theorem flag_iff_unsettled :
    let lost : Fault := ⟨.operational, some "lost"⟩
    let driver : Driver :=
      { features := { moduleName := "" }
        faults := fun o => if o = .closeCursor ∨ o = .commit then [some lost] else [] }
    let s : Session := { engine := .null, paramstyle := .text "qmark", errorClass := .driver }
    ∀ requests ∈ [[Request.begin], [.begin, .begin, .commit]],
      let u := Action.afterAll Request.run ⟨s, driver⟩ requests
      hasTransaction u.driver.history = true ∧ isUnsettled u.driver.history = true ∧
        begin u ≠ .error (.driver ⟨.transactionActive, none⟩) u := by
  intro lost driver s requests mem u
  have cleared : u.it.inTransaction = false ∧ hasTransaction u.driver.history = true := by
    rcases List.mem_cons.mp mem with rfl | mem
    · decide +kernel
    · cases List.mem_singleton.mp mem
      decide +kernel
  obtain ⟨flag, refused⟩ := flag_iff (s := s) (d := driver) rfl rfl rfl requests
  refine ⟨cleared.2, ?_, ?_⟩
  · rw [← Bool.not_eq_false]
    intro settled
    exact Bool.false_ne_true (cleared.1.symm.trans (flag.mpr ⟨cleared.2, settled⟩))
  · intro nested
    exact Bool.false_ne_true (cleared.1.symm.trans (refused.mp nested))

end Session

end SqlTemplate
