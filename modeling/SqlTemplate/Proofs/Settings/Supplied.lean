import SqlTemplate.Proofs.Settings.Validation
import SqlTemplate.Settings.Ini

/-!
Settings from their making on. Whatever they are made from, and whatever is assigned to them later,
a setting holds the value that was supplied for it last, or what that one was settled to. So
validation judges what was supplied, no matter how often and how far it ran before.
-/
namespace SqlTemplate.Settings

/-! ## Settings from values -/

theorem valueOf_assign (s : Settings) (setting other : Setting) (v : Value) :
    (s.assign setting v).valueOf other = if other = setting then v else s.valueOf other := by
  cases setting <;> cases other <;> rfl

/-- The value that settings are made with: the one given, or else the default. -/
def supplied (given : Setting → Option Value) (setting : Setting) : Value :=
  (given setting).getD (({} : Settings).valueOf setting)

theorem valueOf_give (s : Settings) (given : Setting → Option Value) (setting other : Setting) :
    ((given setting).elim s (s.assign setting)).valueOf other =
      if other = setting then (given other).getD (s.valueOf other) else s.valueOf other := by
  cases value : given setting with
  | none =>
    split
    · next same => rw [same, value]; rfl
    · rfl
  | some v =>
    rw [Option.elim_some, valueOf_assign]
    split
    · next same => rw [same, value]; rfl
    · rfl

theorem valueOf_foldl (s : Settings) (given : Setting → Option Value) (settings : List Setting)
    (setting : Setting) :
    (settings.foldl (fun s k => (given k).elim s (s.assign k)) s).valueOf setting =
      if setting ∈ settings then (given setting).getD (s.valueOf setting)
      else s.valueOf setting := by
  induction settings generalizing s with
  | nil => rfl
  | cons k ks ih =>
    rw [List.foldl_cons, ih, valueOf_give]
    by_cases here : setting = k
    · cases given setting <;> simp [here]
    · simp [here]

theorem valueOf_all (given : Setting → Option Value) :
    (Setting.all.foldl (fun s k => (given k).elim s (s.assign k)) ({} : Settings)).valueOf =
      supplied given := by
  funext setting
  have listed : setting ∈ Setting.all := by cases setting <;> decide
  rw [valueOf_foldl, if_pos listed, supplied]

theorem ofValues_eq_ok_iff {given : Setting → Option Value} {c : Settings} :
    ofValues given = .ok c ↔ Sound (supplied given) c := by
  rw [ofValues, validated_eq_ok_iff, valueOf_all]

theorem ofDict_eq_ok_iff {given : String → Option Value} {c : Settings} :
    ofDict given = .ok c ↔ Sound (supplied fun k => (given k.key).filter (!·.isNull)) c :=
  ofValues_eq_ok_iff

/-! ## Settings from texts -/

/-- The text that is read for a section, and the name of the section in it. -/
def headed (text : String) : Option String → String × String
  | some name => (text, name)
  | none => ("[" ++ rootSection ++ "]\n" ++ text, rootSection)

theorem ofIni_blank {text : String} (blank : (Text.trimmed text).isEmpty = true)
    (sectionName : Option String) :
    ofIni (some text) sectionName = .error (.misuse .noSettingsText) := by
  have none : (some text).filter (fun s => !(Text.trimmed s).isEmpty) = none := by
    rw [Option.filter, blank]
    rfl
  rw [ofIni, none]

theorem ofIni_eq {text : String} (written : (Text.trimmed text).isEmpty = false)
    (sectionName : Option String) :
    ofIni (some text) sectionName =
      match Ini.Document.read (headed text sectionName).1 with
      | .error e => .error (.argument (.unreadableSettings e))
      | .ok d =>
        let name := (headed text sectionName).2
        if d.hasSection name then
          ofDict fun key => (d.value? name key).map fun v => .text (unquote v)
        else .error (.argument (.noSection name)) := by
  have kept : (some text).filter (fun s => !(Text.trimmed s).isEmpty) = some text := by
    rw [Option.filter, written]
    rfl
  rw [ofIni, kept]
  cases sectionName <;> rfl

/-- A text that can be read gives settings what stands in its section. -/
theorem ofIni_of_read {text : String} (written : (Text.trimmed text).isEmpty = false)
    {sectionName : Option String} {d : Ini.Document}
    (read : Ini.Document.read (headed text sectionName).1 = .ok d)
    (has : d.hasSection (headed text sectionName).2 = true) :
    ofIni (some text) sectionName =
      ofDict fun key => (d.value? (headed text sectionName).2 key).map fun v => .text (unquote v) := by
  rw [ofIni_eq written]
  simp only [read, has, if_true]

/-- The value that a text gives a key, if the text can be read. -/
def textValue? (sectionName : Option String) (key : String) (text : String) : Option Value :=
  match Ini.Document.read (headed text sectionName).1 with
  | .error _ => none
  | .ok d => (d.value? (headed text sectionName).2 key).map fun v => .text (unquote v)

theorem filter_textValue? (content sectionName : Option String) (key : String) :
    (content.bind (textValue? sectionName key)).filter (!·.isNull) =
      content.bind (textValue? sectionName key) := by
  cases content with
  | none => rfl
  | some text =>
    rw [Option.bind_some, textValue?]
    split
    · rfl
    · next d _ => cases d.value? (headed text sectionName).2 key <;> rfl

theorem ofDict_of_ofIni {content sectionName : Option String} {c : Settings}
    (built : ofIni content sectionName = .ok c) :
    ofDict (fun key => content.bind (textValue? sectionName key)) = .ok c := by
  cases content with
  | none => contradiction
  | some text =>
    cases written : (Text.trimmed text).isEmpty with
    | true =>
      rw [ofIni_blank written] at built
      exact nomatch built
    | false =>
      rw [ofIni_eq written] at built
      simp only [Option.bind_some, textValue?]
      cases read : Ini.Document.read (headed text sectionName).1 with
      | error e =>
        rw [read] at built
        exact nomatch built
      | ok d =>
        simp only [read] at built ⊢
        split at built
        · exact built
        · exact nomatch built

/-! ## What was supplied first -/

inductive Source
  | arguments (given : Arguments)
  | dictionary (given : String → Option Value)
  | text (content sectionName : Option String)

namespace Source

def build : Source → Except Failure Settings
  | arguments given => ofArguments given
  | dictionary given => ofDict given
  | text content sectionName => ofIni content sectionName

def given? : Source → Setting → Option Value
  | arguments given, setting => given.lookup setting.fieldName
  | dictionary given, setting => (given setting.key).filter (!·.isNull)
  | text content sectionName, setting => content.bind (textValue? sectionName setting.key)

theorem sound_of_build {source : Source} {c : Settings} (built : source.build = .ok c) :
    Sound (supplied source.given?) c := by
  cases source with
  | arguments given =>
    rw [build, ofArguments] at built
    split at built
    · contradiction
    · exact ofValues_eq_ok_iff.mp built
  | dictionary given => exact ofDict_eq_ok_iff.mp built
  | text content sectionName =>
    have sound := ofDict_eq_ok_iff.mp (ofDict_of_ofIni built)
    -- The values of a text are texts, and none of them is taken for an absent one.
    simp only [filter_textValue?] at sound
    exact sound

end Source

/-! ## What was supplied later -/

inductive Step
  | assign (name : String) (v : Value)
  | validate

namespace Step

def run : Step → SettingsAction Unit
  | assign name v => modify (·.assignField name v)
  | validate => Settings.validate

def given? (setting : Setting) : Step → Option Value
  | assign name v => if Setting.ofFieldName? name = some setting then some v else none
  | validate => none

/-- The last value that steps give a setting. -/
def lastGiven? (setting : Setting) : List Step → Option Value
  | [] => none
  | step :: steps => (lastGiven? setting steps).or (step.given? setting)

end Step

/-- Every setting holds what was supplied for it, or what that one is settled to. -/
def Tracks (supplied : Setting → Value) (s : Settings) : Prop :=
  ∀ setting, s.valueOf setting = supplied setting ∨
    Settles setting (supplied setting) (s.valueOf setting)

section
variable {s t : Settings} {values : Setting → Value}

theorem Sound.tracks (sound : Sound values t) : Tracks values t :=
  fun setting => .inr (sound.settled setting)

theorem Begun.tracks (begun : Begun s t) : Tracks s.valueOf t := by
  obtain ⟨r, l, reporting, log, rfl⟩ := begun
  intro setting
  cases setting with
  | errorReporting => exact .inr reporting
  | logQueries => exact .inr log
  | _ => exact .inl rfl

/-- Validation leaves a setting as it is or settles it, wherever it stops. -/
theorem validate_tracks (s : Settings) : Tracks s.valueOf (validate.after s) := by
  rw [Action.after]
  cases run : validate s with
  | ok _ t => exact (validate_eq_ok_iff.mp run).tracks
  | error e t =>
    have stopped := validation s
    rw [run] at stopped
    intro setting
    cases stopped with
    | reporting => exact .inl rfl
    | log reporting =>
      cases setting with
      | errorReporting => exact .inr reporting
      | _ => exact .inl rfl
    | file begun => exact begun.tracks setting
    | mode begun => exact begun.tracks setting

/-- What tracks settings that track what was supplied, tracks that itself. -/
theorem Tracks.trans (first : Tracks values s) (second : Tracks s.valueOf t) : Tracks values t := by
  intro setting
  rcases first setting with same | settled
  · rw [← same]
    exact second setting
  · refine .inr ?_
    rcases second setting with same | again
    · rwa [same]
    · rwa [← settled.again.unique again]

theorem Tracks.step (tracks : Tracks values s) (step : Step) :
    Tracks (fun setting => (step.given? setting).getD (values setting)) (step.run.after s) := by
  cases step with
  | validate => exact tracks.trans (validate_tracks s)
  | assign name v =>
    intro setting
    have assigned : (Step.run (.assign name v)).after s = s.assignField name v := rfl
    simp only [assigned, assignField, Step.given?]
    cases field : Setting.ofFieldName? name with
    | none => exact tracks setting
    | some other =>
      simp only [Option.elim_some, valueOf_assign, Option.some_inj]
      by_cases here : setting = other
      · simp only [if_pos here, if_pos here.symm]
        exact .inl rfl
      · simp only [if_neg here, if_neg (Ne.symm here)]
        exact tracks setting

theorem Tracks.steps (tracks : Tracks values s) (steps : List Step) :
    Tracks (fun setting => (Step.lastGiven? setting steps).getD (values setting))
      (Action.afterAll Step.run s steps) := by
  -- `values` is general: the steps after the first one start from what that one supplied.
  induction steps generalizing s values with
  | nil => exact tracks
  | cons step steps ih =>
    have rest := ih (tracks.step step)
    simp only [← Option.getD_or] at rest
    exact rest

/-- Validation judges what was supplied: settings that track it are as valid as it is. -/
theorem Tracks.validate_eq_ok_iff (tracks : Tracks values s) :
    validate s = .ok () t ↔ Sound values t := by
  rw [Settings.validate_eq_ok_iff]
  constructor
  · intro ⟨settled, file⟩
    refine ⟨fun setting => ?_, file⟩
    rcases tracks setting with same | before
    · rw [← same]
      exact settled setting
    · rwa [← before.again.unique (settled setting)]
  · intro ⟨settled, file⟩
    refine ⟨fun setting => ?_, file⟩
    rcases tracks setting with same | before
    · rw [same]
      exact settled setting
    · rw [before.unique (settled setting)]
      exact (settled setting).again

end

/-- Settings are made only if what was supplied for them is valid, and then they hold what it is
settled to. Whatever is assigned later, and however often they are validated meanwhile, a validation
succeeds exactly if what was supplied or assigned last is valid, and it leaves what that is settled
to. Wherever it stops, it stops there again, and changes nothing more. -/
theorem valid_for_supplied {source : Source} {c : Settings} (built : source.build = .ok c)
    (steps : List Step) :
    Sound (supplied source.given?) c ∧
      (∀ t, validate (Action.afterAll Step.run c steps) = .ok () t ↔
        Sound (supplied fun setting =>
          (Step.lastGiven? setting steps).or (source.given? setting)) t) ∧
      ∀ s, validate (validate.after s) = validate s := by
  have sound := Source.sound_of_build built
  refine ⟨sound, fun t => ?_, validate_again⟩
  have last : (fun setting => (Step.lastGiven? setting steps).getD
      (supplied source.given? setting)) =
      supplied fun setting => (Step.lastGiven? setting steps).or (source.given? setting) := by
    funext setting
    rw [supplied, supplied, Option.getD_or]
  rw [← last]
  exact (sound.tracks.steps steps).validate_eq_ok_iff

theorem valid_for_supplied_respelled :
    let source : Source :=
      .text (some "LogQueries: ' yEs '\nErrorReporting = +0_6\nErrorLog=e") none
    let c : Settings :=
      { errorReporting := .int 6, errorLog := .text "e", logQueries := .bool true }
    let steps : List Step :=
      [.assign "error_reporting" (.text " 0_1 "), .assign "query_mode" (.text "one"), .validate,
        .assign "query_mode" (.bytes .plain [32, 49])]
    let t : Settings := { c with errorReporting := .int 1, queryMode := .int 1 }
    source.build = .ok c ∧ Sound (supplied source.given?) c ∧
      validate (Action.afterAll Step.run c steps) = .ok () t ∧
      Sound (supplied fun setting =>
        (Step.lastGiven? setting steps).or (source.given? setting)) t := by
  intro source c steps t
  have built : source.build = .ok c := by rfl
  obtain ⟨sound, valid, _⟩ := valid_for_supplied built steps
  have ended : validate (Action.afterAll Step.run c steps) = .ok () t := by rfl
  exact ⟨built, sound, ended, (valid t).mp ended⟩

end SqlTemplate.Settings
