import SqlTemplate.Action
import SqlTemplate.Error.Failure
import SqlTemplate.Number.Bits
import SqlTemplate.Signature
import SqlTemplate.Text.Blank
import SqlTemplate.Text.Lowercase

/-!
The settings of a connection, and what makes them valid. A setting may be given in more than one
form; validation replaces numbers and switches by what they stand for.
-/
namespace SqlTemplate

inductive Setting
  | hostname
  | engine
  | database
  | username
  | password
  | errorReporting
  | errorLog
  | logQueries
  | queryMode
  deriving DecidableEq, Repr

namespace Setting

def all : List Setting :=
  [hostname, engine, database, username, password, errorReporting, errorLog, logQueries, queryMode]

/-- The key of a setting in dictionaries and texts. -/
def key : Setting → String
  | hostname => "Hostname"
  | engine => "Engine"
  | database => "Database"
  | username => "Username"
  | password => "Password"
  | errorReporting => "ErrorReporting"
  | errorLog => "ErrorLog"
  | logQueries => "LogQueries"
  | queryMode => "QueryMode"

/-- The name of a setting as a field and as an argument. -/
def fieldName : Setting → String
  | hostname => "hostname"
  | engine => "engine"
  | database => "database"
  | username => "username"
  | password => "password"
  | errorReporting => "error_reporting"
  | errorLog => "error_log_file"
  | logQueries => "maintain_query_log"
  | queryMode => "query_mode"

/-- The setting that a field holds. -/
def ofFieldName? (name : String) : Option Setting :=
  all.find? (·.fieldName == name)

end Setting

structure Settings where
  hostname : Value := .text "localhost"
  engine : Value := .text "mysql"
  database : Value := .text ""
  username : Value := .text ""
  password : Value := .text ""
  /-- What is done about errors, as a set of the flags below. -/
  errorReporting : Value := .int 2
  /-- The file that errors are appended to. -/
  errorLog : Value := .null
  /-- Whether a log of all queries is kept. -/
  logQueries : Value := .bool true
  /-- The dialect of the templates. -/
  queryMode : Value := .int 0
  deriving Repr

namespace Settings

/-- Nothing is done about errors. -/
def ignoreErrors : Int := 0

def echoErrors : Int := 1

def raiseErrors : Int := 2

def fileErrors : Int := 4

def valueOf (s : Settings) : Setting → Value
  | .hostname => s.hostname
  | .engine => s.engine
  | .database => s.database
  | .username => s.username
  | .password => s.password
  | .errorReporting => s.errorReporting
  | .errorLog => s.errorLog
  | .logQueries => s.logQueries
  | .queryMode => s.queryMode

def assign (s : Settings) (setting : Setting) (v : Value) : Settings :=
  match setting with
  | .hostname => { s with hostname := v }
  | .engine => { s with engine := v }
  | .database => { s with database := v }
  | .username => { s with username := v }
  | .password => { s with password := v }
  | .errorReporting => { s with errorReporting := v }
  | .errorLog => { s with errorLog := v }
  | .logQueries => { s with logQueries := v }
  | .queryMode => { s with queryMode := v }

/-- All settings under their keys. -/
def toDict (s : Settings) : List (String × Value) :=
  Setting.all.map fun setting => (setting.key, s.valueOf setting)

def invalid (setting : Setting) : Failure :=
  .argument (.invalidSetting setting.key)

/-- A setting that is a number: any form of a whole number except a truth value. -/
def number (setting : Setting) (v : Value) : Except Failure Int :=
  match v with
  | .bool _ => .error (invalid setting)
  | _ =>
    match v.toInteger with
    | .ok n =>
      match v with
      | .float x => if x.equalsInt n then .ok n else .error (invalid setting)
      | _ => .ok n
    | .error e =>
      if e.errorClass.isA .type || e.errorClass.isA .value then .error (invalid setting)
      else .error (.conversion e)

/-- The words for the two positions of a switch. -/
def switchWords : List (String × Bool) :=
  [("1", true), ("yes", true), ("true", true), ("on", true),
    ("0", false), ("no", false), ("false", false), ("off", false)]

/-- A setting that is a switch: a truth value or a word for one. -/
def switch (setting : Setting) (v : Value) : Except Failure Bool :=
  match v with
  | .bool b => .ok b
  | .text s =>
    match switchWords.lookup (Text.lower (Text.trimmed s)) with
    | some b => .ok b
    | none => .error (invalid setting)
  | _ => .error (invalid setting)

/-- Whether all bits of a flag are set. No flag at all never is. -/
def reports (s : Settings) (flag : Value) : Except OperandError Bool :=
  match s.errorReporting.integer?, flag.integer? with
  | some n, some m => .ok (Number.bitAnd n m == m && m != ignoreErrors)
  | _, _ => .error (.noBitwiseAnd s.errorReporting.typeName flag.typeName)

/-- An action on settings; what was put in order before a failure stays so. -/
abbrev SettingsAction := Action Failure Settings

/-- Puts the number that a setting stands for in its place, if it is at most the greatest one. -/
def validateNumber (setting : Setting) (greatest : Int) : SettingsAction Unit := do
  let n ← Action.ofExcept (number setting ((← get).valueOf setting))
  if n < 0 ∨ greatest < n then throw (invalid setting)
  modify (·.assign setting (.int n))

/-- Puts the position of a switch in its place. -/
def validateSwitch (setting : Setting) : SettingsAction Unit := do
  let b ← Action.ofExcept (switch setting ((← get).valueOf setting))
  modify (·.assign setting (.bool b))

/-- Checks that there is a file for errors if they are to go to one. -/
def validateFile : SettingsAction Unit := do
  let s ← get
  let toFile ← Action.ofExcept ((s.reports (.int fileErrors)).mapError .operand)
  if toFile && !s.errorLog.truthy then throw (.argument .noErrorFile)

/-- Checks that the settings are consistent. -/
def validate : SettingsAction Unit := do
  validateNumber .errorReporting (echoErrors + raiseErrors + fileErrors)
  validateSwitch .logQueries
  validateFile
  validateNumber .queryMode 1

/-- The settings once they are found valid. -/
def validated (s : Settings) : Except Failure Settings :=
  match validate s with
  | .ok _ t => .ok t
  | .error e _ => .error e

/-- Settings from given values; what is not given keeps its default. -/
def ofValues (given : Setting → Option Value) : Except Failure Settings :=
  validated <| Setting.all.foldl (fun s setting => (given setting).elim s (s.assign setting)) {}

def signature : Signature where
  callee := "Configuration.__init__"
  given := ["self"]
  free := Setting.all.map (·.fieldName)

/-- Settings from named arguments. Names are looked at before values are. -/
def ofArguments (arguments : Arguments) : Except Failure Settings :=
  match signature.refusal? arguments with
  | some e => .error (.operand e)
  | none => ofValues fun setting => arguments.lookup setting.fieldName

/-- Gives a field a value; a field that holds no setting has no effect. -/
def assignField (s : Settings) (name : String) (v : Value) : Settings :=
  (Setting.ofFieldName? name).elim s (s.assign · v)

/-- Settings from a dictionary. Other keys are ignored, and so are absent values. -/
def ofDict (given : String → Option Value) : Except Failure Settings :=
  ofValues fun setting => (given setting.key).filter (!·.isNull)

end Settings

namespace Value

/-- Lower case of a text, or of the ASCII letters among bytes. -/
def lowered : Value → Except OperandError Value
  | text s => .ok (text (Text.lower s))
  | bytes .view data => .error (.noMember (bytes .view data).typeName "lower")
  | bytes kind data =>
    .ok (bytes (if kind = .mutable then .mutable else .plain)
      (data.map fun b => if 65 ≤ b && b ≤ 90 then b + 32 else b))
  | v => .error (.noMember v.typeName "lower")

/-- The value itself if it counts as given, or else another. -/
def orElse (v w : Value) : Value :=
  if v.truthy then v else w

end Value

namespace Settings

/-- The engine in lower case; none given is an empty one. -/
def engineName (s : Settings) : Except OperandError Value :=
  (s.engine.orElse (.text "")).lowered

/-- The failure for an engine that is not supported. -/
def unsupported (s : Settings) : Failure :=
  match s.engine.formatArgument with
  | .ok shown => .misuse (.unsupportedEngine shown)
  | .error e => .operand e

/-- The database, or the one in memory if none is given. -/
def databaseName (s : Settings) : Value :=
  s.database.orElse (.text ":memory:")

/-- What the connection is made to, on one line. -/
def connectionString (s : Settings) : Except Failure String :=
  match s.engineName with
  | .error e => .error (.operand e)
  | .ok engine =>
    if engine.equals (.text "mysql") then
      match s.hostname.toText, s.database.toText with
      | .ok host, .ok database => .ok ("mysql:host=" ++ host ++ ";dbname=" ++ database)
      | .error e, _ => .error (.conversion e)
      | _, .error e => .error (.conversion e)
    else if engine.equals (.text "sqlite") then
      match s.databaseName.formatArgument with
      | .ok shown => (shown.toText.mapError .conversion).map ("sqlite:" ++ ·)
      | .error e => .error (.operand e)
    else .error s.unsupported

/-- The settings as messages show them. -/
def quote (s : Settings) : String :=
  "Configuration(engine=" ++ s.engine.quote ++ ", hostname=" ++ s.hostname.quote ++
    ", database=" ++ s.database.quote ++ ")"

end Settings

end SqlTemplate
