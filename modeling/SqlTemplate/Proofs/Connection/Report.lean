import Mathlib.Tactic.IntervalCases
import SqlTemplate.Connection.Basic
import SqlTemplate.Proofs.Settings.Validation

/-!
How errors are reported. Valid settings hold three bits, and each of them asks for one thing: a
message on the output, a message in a file, or a failure.
-/
namespace SqlTemplate

namespace Settings

def asks (s : Settings) (flag : Int) : Bool :=
  s.errorReporting.integer?.any fun n => n / flag % 2 == 1

/-- Settings that validation leaves as they are. -/
def Valid (s : Settings) : Prop :=
  s.validated = .ok s

theorem Valid.errorReporting {s : Settings} (h : s.Valid) :
    ∃ n : Int, s.errorReporting = .int n ∧ 0 ≤ n ∧ n ≤ 7 := by
  obtain ⟨n, _, lower, upper, value⟩ := (validated_eq_ok_iff.mp h).settled .errorReporting
  exact ⟨n, value, lower, upper⟩

/-- In valid settings, an error is reported in a way if and only if the bit for it is set. -/
theorem Valid.reports_eq {s : Settings} (h : s.Valid) {flag : Int}
    (known : flag = echoErrors ∨ flag = raiseErrors ∨ flag = fileErrors) :
    s.reports (.int flag) = .ok (s.asks flag) := by
  obtain ⟨n, eq, lower, upper⟩ := h.errorReporting
  rw [reports, asks, eq]
  rcases known with rfl | rfl | rfl <;> interval_cases n <;> rfl

end Settings

namespace Surroundings

/-- An action that makes no call of the driver and shows nothing to a hook. -/
def Silent {α : Type} (m : SurroundingsAction α) : Prop :=
  ∀ s, (m.after s).driver = s.driver ∧ (m.after s).sightings = s.sightings

theorem Silent.bind {α β : Type} {m : SurroundingsAction α} {f : α → SurroundingsAction β}
    (hm : Silent m) (hf : ∀ a, Silent (f a)) : Silent (m >>= f) := by
  intro s
  have here := hm s
  rw [Action.after] at here ⊢
  rw [Action.run_bind]
  cases run : m s with
  | ok a t =>
    rw [run] at here
    exact ⟨(hf a t).1.trans here.1, (hf a t).2.trans here.2⟩
  | error e t =>
    rw [run] at here
    exact here

theorem Silent.guard {b : Prop} [Decidable b] {α : Type} {m : SurroundingsAction Unit}
    {f : Unit → SurroundingsAction α} (hm : Silent m) (hf : ∀ u, Silent (f u)) :
    Silent (if b then m >>= f else f ()) := by
  split
  · exact hm.bind hf
  · exact hf ()

theorem silent_ofExcept {α : Type} (outcome : Except Failure α) :
    Silent (Action.ofExcept outcome) := by
  intro s
  cases outcome <;> exact ⟨rfl, rfl⟩

theorem silent_print (line : String) : Silent (print line) := fun _ => ⟨rfl, rfl⟩

theorem silent_appendLine (path : Value) (line : String) : Silent (appendLine path line) := by
  apply Silent.bind
  · intro s
    exact ⟨rfl, rfl⟩
  · intro s
    apply (silent_ofExcept _).bind
    intro place s
    exact ⟨rfl, rfl⟩

/-- Reporting an error makes no call of the driver. -/
theorem silent_report (settings : Settings) (e : DriverError) : Silent (report settings e) := by
  unfold report
  split
  · intro s
    exact ⟨rfl, rfl⟩
  · apply Silent.bind (fun _ => ⟨rfl, rfl⟩)
    intro s
    apply (silent_ofExcept _).bind
    intro echo
    apply (silent_print _).guard
    intro _
    apply (silent_ofExcept _).bind
    intro file
    apply (silent_appendLine _ _).guard
    intro _
    apply (silent_ofExcept _).bind
    intro raise
    split <;> exact fun _ => ⟨rfl, rfl⟩

/-- What a report leaves behind and ends with. -/
theorem report_eq {settings : Settings} (valid : settings.Valid) {e : DriverError}
    {s : Surroundings} (place : Place) (openable : settings.asks Settings.fileErrors = true →
      s.files.locate settings.errorLog = .ok place) :
    report settings e s =
      Action.ofExcept
        (if settings.asks Settings.raiseErrors then .error (.driver e) else .ok ())
        { s with
          printed := if settings.asks Settings.echoErrors then
            s.printed ++ s.reportText e ++ "\n" else s.printed
          files := if settings.asks Settings.fileErrors then
            s.files.append place (s.reportText e ++ "\n") else s.files } := by
  have flag {f : Int} (known : f = Settings.echoErrors ∨ f = Settings.raiseErrors ∨
      f = Settings.fileErrors) (s : Surroundings) :
      flagSet settings f s = .ok (settings.asks f) s := by
    rw [flagSet, valid.reports_eq known]
    rfl
  unfold report
  split
  · next ignored =>
    obtain ⟨n, eq, -⟩ := valid.errorReporting
    have zero : 0 = n := by
      simpa [eq, Value.equals, Value.integer?, Settings.ignoreErrors] using ignored
    have asks (f : Int) : settings.asks f = false := by
      simp [Settings.asks, eq, ← zero, Value.integer?]
    simp only [asks]
    rfl
  · let printed : Surroundings :=
      if settings.asks Settings.echoErrors then
        { s with printed := s.printed ++ s.reportText e ++ "\n" } else s
    have echoed (_ : settings.asks Settings.echoErrors = true) :
        print (s.reportText e) s =
          .ok () { s with printed := s.printed ++ s.reportText e ++ "\n" } := rfl
    have files : printed.files = s.files := by
      simp only [printed]
      split <;> rfl
    have written (asked : settings.asks Settings.fileErrors = true) :
        appendLine settings.errorLog (s.reportText e) printed =
          .ok () { printed with files := s.files.append place (s.reportText e ++ "\n") } := by
      rw [appendLine, Action.bind_ok (Action.run_get _), files, openable asked, ← files]
      rfl
    rw [Action.bind_ok (Action.run_get s), Action.bind_ok (flag (.inl rfl) s)]
    refine (Action.bind_guard _ echoed _).trans ?_
    refine (Action.bind_ok (flag (.inr (.inr rfl)) _) _).trans ?_
    refine (Action.bind_guard _ written _).trans ?_
    refine (Action.bind_ok (flag (.inr (.inl rfl)) _) _).trans ?_
    simp only [printed]
    cases settings.asks Settings.raiseErrors <;> cases settings.asks Settings.fileErrors <;>
      cases settings.asks Settings.echoErrors <;> rfl

end Surroundings

theorem Client.report_eq (e : DriverError) (c : Client) :
    Client.report e c =
      match Surroundings.report c.connection.settings e c.outside with
      | .ok _ s => .ok () { c with outside := s }
      | .error e s => .error e { c with outside := s } := by
  rw [Client.report, Action.bind_ok (Action.run_get c)]
  simp only [Client.onOutside, Action.within]
  cases Surroundings.report c.connection.settings e c.outside <;> rfl

end SqlTemplate
