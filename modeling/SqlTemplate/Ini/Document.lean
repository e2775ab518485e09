import SqlTemplate.Ini.Line
import SqlTemplate.Text.Quoted

/-!
Settings texts as sections of options, read line by line. Sections and options may be given once;
the default section lends its options to all others.
-/
namespace SqlTemplate.Ini

/-- Keys with the lines of their values. -/
abbrev Options := List (String × List String)

inductive Error
  | duplicateSection (name : String) (line : Nat)
  | duplicateOption (key sectionName : String) (line : Nat)
  /-- A line before the first header, as it was read. -/
  | missingHeader (line : Nat) (text : String)
  /-- Lines that are neither headers nor options, with their numbers. -/
  | unreadable (lines : List (Nat × String))
  deriving DecidableEq, Repr

namespace Error

/-- The name of the text in messages. -/
def source : String :=
  Text.quoted "<string>"

def lineNumber (n : Nat) : String :=
  "[line " ++ (if n < 10 then " " else "") ++ toString n ++ "]"

def message : Error → String
  | duplicateSection name line =>
    "While reading from " ++ source ++ " " ++ lineNumber line ++ ": section " ++ Text.quoted name ++
      " already exists"
  | duplicateOption key sectionName line =>
    "While reading from " ++ source ++ " " ++ lineNumber line ++ ": option " ++ Text.quoted key ++
      " in section " ++ Text.quoted sectionName ++ " already exists"
  | missingHeader line text =>
    "File contains no section headers.\nfile: " ++ source ++ ", line: " ++ toString line ++ "\n" ++
      Text.quoted text
  | unreadable lines =>
    "Source contains parsing errors: " ++ source ++
      String.join (lines.map fun l => "\n\t" ++ lineNumber l.1 ++ ": " ++ Text.quoted l.2)

end Error

/-- The section whose options every section has unless it gives its own. -/
def defaultSection : String := "DEFAULT"

/-- What has been read of a text so far. -/
structure Document where
  /-- The sections in the order of their headers, the default section not among them. -/
  sections : List (String × Options) := []
  defaults : Options := []
  /-- The section being read. -/
  current : Option String := none
  /-- The option that a further indented line continues. -/
  option : Option String := none
  /-- The indentation of the last line that continued nothing. -/
  indent : Nat := 0
  unreadable : List (Nat × String) := []

namespace Document

def hasSection (d : Document) (name : String) : Bool :=
  d.sections.any (·.1 == name)

/-- The options given in a section itself. -/
def ownOptions (d : Document) (name : String) : Options :=
  if name = defaultSection then d.defaults
  else (d.sections.find? (·.1 == name)).elim [] (·.2)

/-- Changes the options of the section being read. -/
def modifyOptions (d : Document) (f : Options → Options) : Document :=
  match d.current with
  | none => d
  | some name =>
    if name = defaultSection then { d with defaults := f d.defaults }
    else { d with sections := d.sections.map fun s => if s.1 = name then (s.1, f s.2) else s }

/-- Adds a line to the value of the option being read. -/
def continueValue (d : Document) (line : String) : Document :=
  match d.option with
  | none => d
  | some key =>
    d.modifyOptions fun os => os.map fun o => if o.1 = key then (o.1, o.2 ++ [line]) else o

/-- The option that a line may continue: one with a name, in a section. -/
def continued? (d : Document) : Option String :=
  if d.current.isSome then d.option.filter (· ≠ "") else none

def openSection (d : Document) (number : Nat) (name : String) : Except Error Document :=
  if d.hasSection name then .error (.duplicateSection name number)
  else
    let sections := if name = defaultSection then d.sections else d.sections ++ [(name, [])]
    .ok { d with sections, current := some name, option := none }

def rejectLine (d : Document) (number : Nat) (text : String) : Document :=
  { d with unreadable := d.unreadable ++ [(number, text)] }

def addOption (d : Document) (number : Nat) (sectionName key value : String) :
    Except Error Document :=
  if (d.ownOptions sectionName).any (·.1 == key) then
    .error (.duplicateOption key sectionName number)
  else .ok { d.modifyOptions (· ++ [(key, [value])]) with option := some key }

/-- Reads one line, with its number and as it stands in the text. -/
def readLine (d : Document) (number : Nat) (cs : List Char) : Except Error Document :=
  match Line.read cs with
  | .comment => .ok d
  | .blank => .ok (if d.continued?.isSome then d.continueValue "" else d)
  | line =>
    if d.continued?.isSome ∧ d.indent < indentation cs then
      .ok (d.continueValue (String.ofList (Text.trim cs)))
    else
      let d := { d with indent := indentation cs }
      match line, d.current with
      | .header name, _ => d.openSection number (String.ofList name)
      | _, none => .error (.missingHeader number (String.ofList cs))
      | .option key value, some sectionName =>
        let d := if key.isEmpty then d.rejectLine number (String.ofList cs) else d
        d.addOption number sectionName (String.ofList key) (String.ofList value)
      | _, some _ => .ok (d.rejectLine number (String.ofList cs))

def readLines (d : Document) (number : Nat) : List (List Char) → Except Error Document
  | [] => .ok d
  | l :: ls => do (← d.readLine number l).readLines (number + 1) ls

/-- Reads a whole text. Lines that could not be read are reported at its end. -/
def read (text : String) : Except Error Document := do
  let d ← ({} : Document).readLines 1 (lines text.toList)
  if d.unreadable.isEmpty then .ok d else .error (.unreadable d.unreadable)

/-- The value of an option: its lines, without white space at the end. -/
def joinValue (parts : List String) : String :=
  String.ofList (Text.trimRight ("\n".intercalate parts).toList)

/-- The value of an option in a section, or else in the default section. -/
def value? (d : Document) (sectionName key : String) : Option String :=
  let given := (d.ownOptions sectionName).find? (·.1 == key)
  (given.or (d.defaults.find? (·.1 == key))).map fun o => joinValue o.2

end Document

end SqlTemplate.Ini
