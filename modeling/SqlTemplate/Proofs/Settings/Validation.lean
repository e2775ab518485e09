import SqlTemplate.Proofs.Action
import SqlTemplate.Proofs.Value.Conversion
import SqlTemplate.Settings.Basic

/-!
Validation of settings. It settles one setting after the other and stops at the first one that it
refuses, so what it settled before stays. A value that is settled is settled to itself: validation
comes to the same end when it runs again, wherever it stopped.
-/
namespace SqlTemplate

namespace Settings

/-! ## Settling one setting -/

theorem number_eq_ok_iff {setting : Setting} {v : Value} {n : Int} :
    number setting v = .ok n ↔ v.StandsFor n := by
  constructor
  · intro read
    cases v with
    | bool b => simp [number] at read
    | float x =>
      cases converted : (Value.float x).toInteger with
      | error e =>
        simp only [number, converted] at read
        split at read <;> contradiction
      | ok m =>
        simp only [number, converted] at read
        split at read
        · next whole =>
          cases read
          exact ⟨converted, nofun, fun y same => by cases same; exact whole⟩
        · contradiction
    | _ =>
      simp only [number] at read
      split at read
      · next converted =>
        cases read
        exact ⟨converted, nofun, nofun⟩
      · split at read <;> contradiction
  · intro stands
    have converted := stands.converted
    cases v with
    | bool b => exact absurd rfl (stands.noSwitch b)
    | float x => simp only [number, converted, stands.whole x rfl, if_true]
    | _ => simp only [number, converted]

/-- A number setting, if it is at most the greatest one. -/
def bounded (setting : Setting) (greatest : Int) (v : Value) : Except Failure Int :=
  match number setting v with
  | .ok n => if n < 0 ∨ greatest < n then .error (invalid setting) else .ok n
  | .error e => .error e

/-- What validation makes of the value of a setting. -/
def settle (setting : Setting) (v : Value) : Except Failure Value :=
  match setting with
  | .errorReporting => (bounded setting 7 v).map .int
  | .queryMode => (bounded setting 1 v).map .int
  | .logQueries => (switch setting v).map .bool
  | _ => .ok v

/-- A value is settled to another: a number to what it stands for, within its bounds, a switch to
its position, and anything else to itself. -/
def Settles : Setting → Value → Value → Prop
  | .errorReporting, v, w => ∃ n, v.StandsFor n ∧ 0 ≤ n ∧ n ≤ 7 ∧ w = .int n
  | .queryMode, v, w => ∃ n, v.StandsFor n ∧ 0 ≤ n ∧ n ≤ 1 ∧ w = .int n
  | .logQueries, v, w => ∃ b, w = .bool b ∧ (v = .bool b ∨
      ∃ s, v = .text s ∧ switchWords.lookup (Text.lower (Text.trimmed s)) = some b)
  | _, v, w => w = v

theorem bounded_eq_ok_iff {setting : Setting} {greatest : Int} {v : Value} {n : Int} :
    bounded setting greatest v = .ok n ↔ v.StandsFor n ∧ 0 ≤ n ∧ n ≤ greatest := by
  rw [bounded]
  cases read : number setting v with
  | error e =>
    have none : ¬ v.StandsFor n := by
      intro stands
      have accepted : number setting v = .ok n := number_eq_ok_iff.mpr stands
      rw [read] at accepted
      contradiction
    simp [none]
  | ok m =>
    have stands := number_eq_ok_iff.mp read
    simp only
    constructor
    · intro within
      split at within
      · contradiction
      · cases within
        exact ⟨stands, by omega, by omega⟩
    · rintro ⟨stands', lower, upper⟩
      cases stands.unique stands'
      exact if_neg (by omega)

theorem switch_eq_ok_iff {setting : Setting} {v : Value} {b : Bool} :
    switch setting v = .ok b ↔ v = .bool b ∨
      ∃ s, v = .text s ∧ switchWords.lookup (Text.lower (Text.trimmed s)) = some b := by
  cases v with
  | text s =>
    rw [switch]
    cases found : switchWords.lookup (Text.lower (Text.trimmed s)) <;> simp [found]
  | _ => simp [switch]

theorem settle_eq_ok_iff {setting : Setting} {v w : Value} :
    settle setting v = .ok w ↔ Settles setting v w := by
  have mapped {α : Type} (f : α → Value) (x : Except Failure α) :
      x.map f = .ok w ↔ ∃ a, x = .ok a ∧ w = f a := by
    cases x <;> simp [Except.map, eq_comm]
  cases setting with
  | errorReporting => simp only [settle, mapped, bounded_eq_ok_iff, Settles, and_assoc]
  | queryMode => simp only [settle, mapped, bounded_eq_ok_iff, Settles, and_assoc]
  | logQueries => simp only [settle, mapped, switch_eq_ok_iff, Settles, and_comm]
  | _ => simp only [settle, Settles, Except.ok.injEq, eq_comm]

section
variable {setting : Setting} {v w w' : Value}

theorem Settles.unique (h : Settles setting v w) (h' : Settles setting v w') : w = w' :=
  Except.ok.inj ((settle_eq_ok_iff.mpr h).symm.trans (settle_eq_ok_iff.mpr h'))

/-- What is settled stays as it is. -/
theorem Settles.again (h : Settles setting v w) : Settles setting w w := by
  cases setting with
  | errorReporting =>
    obtain ⟨n, _, lower, upper, rfl⟩ := h
    exact ⟨n, Value.standsFor_int n, lower, upper, rfl⟩
  | queryMode =>
    obtain ⟨n, _, lower, upper, rfl⟩ := h
    exact ⟨n, Value.standsFor_int n, lower, upper, rfl⟩
  | logQueries =>
    obtain ⟨b, rfl, _⟩ := h
    exact ⟨b, rfl, .inl rfl⟩
  | _ => rfl

end

/-! ## Settling all of them -/

def settleIn (setting : Setting) : SettingsAction Unit := fun s =>
  match settle setting (s.valueOf setting) with
  | .ok v => .ok () (s.assign setting v)
  | .error e => .error e s

theorem validateNumber_eq {setting : Setting} {greatest : Int}
    (number : ∀ v, settle setting v = (bounded setting greatest v).map .int) :
    validateNumber setting greatest = settleIn setting := by
  funext s
  rw [validateNumber, Action.bind_ok (Action.run_get s), settleIn, number, bounded]
  cases Settings.number setting (s.valueOf setting) with
  | error e => rfl
  | ok n =>
    rw [Action.ofExcept_ok, Action.bind_ok (Action.run_pure n s)]
    by_cases outside : n < 0 ∨ greatest < n
    · simp only [if_pos outside]
      rfl
    · simp only [if_neg outside]
      rfl

theorem validateSwitch_eq {setting : Setting}
    (switch : ∀ v, settle setting v = (Settings.switch setting v).map .bool) :
    validateSwitch setting = settleIn setting := by
  funext s
  rw [validateSwitch, Action.bind_ok (Action.run_get s), settleIn, switch]
  cases Settings.switch setting (s.valueOf setting) <;> rfl

theorem validate_eq :
    validate = (do
      settleIn .errorReporting
      settleIn .logQueries
      validateFile
      settleIn .queryMode) := by
  have reporting : validateNumber .errorReporting (echoErrors + raiseErrors + fileErrors) =
      settleIn .errorReporting := validateNumber_eq fun _ => rfl
  have log : validateSwitch .logQueries = settleIn .logQueries := validateSwitch_eq fun _ => rfl
  have mode : validateNumber .queryMode 1 = settleIn .queryMode := validateNumber_eq fun _ => rfl
  rw [validate, reporting, log, mode]

section
variable {s t : Settings} {setting : Setting} {e : Failure}

theorem settleIn_ok {v : Value} (settles : Settles setting (s.valueOf setting) v) :
    settleIn setting s = .ok () (s.assign setting v) := by
  rw [settleIn, settle_eq_ok_iff.mpr settles]

theorem settleIn_error (refused : settle setting (s.valueOf setting) = .error e) :
    settleIn setting s = .error e s := by
  rw [settleIn, refused]

/-- If errors go to a file, there is one. -/
def FileGiven (s : Settings) : Prop :=
  s.reports (.int fileErrors) = .ok true → s.errorLog.truthy = true

theorem validateFile_ok (readable : ∃ b, s.reports (.int fileErrors) = .ok b) (file : s.FileGiven) :
    validateFile s = .ok () s := by
  obtain ⟨b, reports⟩ := readable
  rw [validateFile, Action.bind_ok (Action.run_get s), reports]
  cases b with
  | false => rfl
  | true =>
    change (if !s.errorLog.truthy then _ else _ : SettingsAction Unit) s = _
    rw [file reports]
    rfl

theorem validateFile_error (asked : s.reports (.int fileErrors) = .ok true)
    (absent : s.errorLog.truthy = false) :
    validateFile s = .error (.argument .noErrorFile) s := by
  rw [validateFile, Action.bind_ok (Action.run_get s), asked]
  change (if !s.errorLog.truthy then _ else _ : SettingsAction Unit) s = _
  rw [absent]
  rfl

/-- The settings that the file is looked for in: error reporting and log are settled. -/
def Begun (s t : Settings) : Prop :=
  ∃ r l, Settles .errorReporting s.errorReporting r ∧ Settles .logQueries s.logQueries l ∧
    t = { s with errorReporting := r, logQueries := l }

theorem Begun.readable (begun : Begun s t) : ∃ b, t.reports (.int fileErrors) = .ok b := by
  obtain ⟨_, l, ⟨n, _, _, _, rfl⟩, _, rfl⟩ := begun
  exact ⟨_, rfl⟩

theorem Begun.again (begun : Begun s t) : Begun t t := by
  obtain ⟨r, l, reporting, log, rfl⟩ := begun
  exact ⟨r, l, reporting.again, log.again, rfl⟩

/-- Where validation can stop, and the settings that it leaves there. -/
inductive Validation (s : Settings) : EStateM.Result Failure Settings Unit → Prop
  | reporting {e : Failure} (refused : settle .errorReporting s.errorReporting = .error e) :
      Validation s (.error e s)
  | log {e : Failure} {r : Value} (reporting : Settles .errorReporting s.errorReporting r)
      (refused : settle .logQueries s.logQueries = .error e) :
      Validation s (.error e { s with errorReporting := r })
  | file {t : Settings} (begun : Begun s t) (asked : t.reports (.int fileErrors) = .ok true)
      (absent : t.errorLog.truthy = false) : Validation s (.error (.argument .noErrorFile) t)
  | mode {e : Failure} {t : Settings} (begun : Begun s t) (file : t.FileGiven)
      (refused : settle .queryMode s.queryMode = .error e) : Validation s (.error e t)
  | valid {t : Settings} {m : Value} (begun : Begun s t) (file : t.FileGiven)
      (mode : Settles .queryMode s.queryMode m) : Validation s (.ok () { t with queryMode := m })

theorem Begun.run (begun : Begun s t) :
    validate s = (do validateFile; settleIn .queryMode : SettingsAction Unit) t := by
  obtain ⟨r, l, reporting, log, rfl⟩ := begun
  rw [validate_eq, Action.bind_ok (settleIn_ok reporting)]
  exact Action.bind_ok (settleIn_ok (s := s.assign .errorReporting r) log) _

theorem Validation.eq {result : EStateM.Result Failure Settings Unit}
    (h : Validation s result) : validate s = result := by
  cases h with
  | reporting refused => rw [validate_eq, Action.bind_error (settleIn_error refused)]
  | @log _ r reporting refused =>
    rw [validate_eq, Action.bind_ok (settleIn_ok reporting)]
    exact Action.bind_error (settleIn_error (s := s.assign .errorReporting r) refused) _
  | file begun asked absent =>
    rw [begun.run, Action.bind_error (validateFile_error asked absent)]
  | mode begun file refused =>
    rw [begun.run, Action.bind_ok (validateFile_ok begun.readable file)]
    obtain ⟨r, l, _, _, rfl⟩ := begun
    exact settleIn_error refused
  | valid begun file mode =>
    rw [begun.run, Action.bind_ok (validateFile_ok begun.readable file)]
    obtain ⟨r, l, _, _, rfl⟩ := begun
    exact settleIn_ok mode

end

theorem validation (s : Settings) : Validation s (validate s) := by
  have named {result} (h : Validation s result) : Validation s (validate s) := h.eq ▸ h
  cases reporting : settle .errorReporting s.errorReporting with
  | error e => exact named (.reporting reporting)
  | ok r =>
    rw [settle_eq_ok_iff] at reporting
    cases log : settle .logQueries s.logQueries with
    | error e => exact named (.log reporting log)
    | ok l =>
      rw [settle_eq_ok_iff] at log
      have begun : Begun s _ := ⟨r, l, reporting, log, rfl⟩
      by_cases file : FileGiven { s with errorReporting := r, logQueries := l }
      · cases mode : settle .queryMode s.queryMode with
        | error e => exact named (.mode begun file mode)
        | ok m => exact named (.valid begun file (settle_eq_ok_iff.mp mode))
      · rw [FileGiven, Classical.not_imp, Bool.not_eq_true] at file
        exact named (.file begun file.1 file.2)

/-- Where validation has stopped, it stops again. -/
theorem Validation.again_error {s t : Settings} {e : Failure} (h : Validation s (.error e t)) :
    Validation t (.error e t) := by
  cases h with
  | reporting refused => exact .reporting refused
  | @log _ r reporting refused =>
    exact .log (s := { s with errorReporting := r }) reporting.again refused
  | file begun asked absent => exact .file begun.again asked absent
  | mode begun file refused =>
    refine .mode begun.again file ?_
    obtain ⟨r, l, _, _, rfl⟩ := begun
    exact refused

/-! ## Valid settings -/

/-- Settings in which every value is what the one supplied for it is settled to, with a file for
errors if they go to one. -/
structure Sound (supplied : Setting → Value) (t : Settings) : Prop where
  settled : ∀ setting, Settles setting (supplied setting) (t.valueOf setting)
  file : t.FileGiven

theorem ext_valueOf {s t : Settings} (same : ∀ setting, s.valueOf setting = t.valueOf setting) :
    s = t := by
  cases s
  cases t
  rw [mk.injEq]
  exact ⟨same .hostname, same .engine, same .database, same .username, same .password,
    same .errorReporting, same .errorLog, same .logQueries, same .queryMode⟩

/-- Validation succeeds with exactly the settings that are sound. -/
theorem validate_eq_ok_iff {s t : Settings} : validate s = .ok () t ↔ Sound s.valueOf t := by
  constructor
  · intro valid
    have h := validation s
    rw [valid] at h
    cases h with
    | valid begun file mode =>
      obtain ⟨r, l, reporting, log, rfl⟩ := begun
      refine ⟨fun setting => ?_, file⟩
      cases setting with
      | errorReporting => exact reporting
      | logQueries => exact log
      | queryMode => exact mode
      | _ => rfl
  · intro ⟨settled, file⟩
    let u : Settings := { s with errorReporting := t.errorReporting, logQueries := t.logQueries }
    have same : { u with queryMode := t.queryMode } = t := by
      refine ext_valueOf fun setting => ?_
      have kept := settled setting
      cases setting with
      | errorReporting | logQueries | queryMode => rfl
      | _ => exact Eq.symm kept
    have begun : Begun s u := ⟨_, _, settled .errorReporting, settled .logQueries, rfl⟩
    rw [← same] at file ⊢
    exact (Validation.valid begun file (settled .queryMode)).eq

theorem validated_eq_ok_iff {s t : Settings} : s.validated = .ok t ↔ Sound s.valueOf t := by
  rw [← validate_eq_ok_iff, validated]
  cases validate s <;> simp

/-- What is sound for what was supplied is sound for itself. -/
theorem Sound.self {supplied : Setting → Value} {t : Settings} (sound : Sound supplied t) :
    Sound t.valueOf t :=
  ⟨fun setting => (sound.settled setting).again, sound.file⟩

/-- Validation has the same outcome when it runs again, and then changes nothing. -/
theorem validate_again (s : Settings) : validate (validate.after s) = validate s := by
  rw [Action.after]
  cases run : validate s with
  | ok _ t =>
    exact validate_eq_ok_iff.mpr (validate_eq_ok_iff.mp run).self
  | error e t =>
    have stopped := validation s
    rw [run] at stopped
    exact stopped.again_error.eq

end Settings

end SqlTemplate
