import SqlTemplate.Ini.Document
import SqlTemplate.Settings.Basic
import SqlTemplate.Text.LineEnd

/-!
Settings from a settings text, in which values may stand in quotation marks.
-/
namespace SqlTemplate.Settings

/-- The section of a text that has no headers. -/
def rootSection : String := "typedquery"

/-- A value without white space around it and without one pair of quotation marks. -/
def unquote (s : String) : String :=
  let cs := Text.trim s.toList
  match cs with
  | mark :: c :: rest =>
    if (mark = '"' ∨ mark = '\'') ∧ (c :: rest).getLast? = some mark then
      String.ofList (c :: rest).dropLast
    else String.ofList cs
  | _ => String.ofList cs

/-- Settings from a section of a text, or from a text that has no headers. -/
def ofIni (text : Option String) (sectionName : Option String) : Except Failure Settings :=
  match text.filter fun s => !(Text.trimmed s).isEmpty with
  | none => .error (.misuse .noSettingsText)
  | some s =>
    let (whole, name) := match sectionName with
      | some name => (s, name)
      | none => ("[" ++ rootSection ++ "]\n" ++ s, rootSection)
    match Ini.Document.read whole with
    | .error e => .error (.argument (.unreadableSettings e))
    | .ok d =>
      if d.hasSection name then ofDict fun key => (d.value? name key).map fun v => .text (unquote v)
      else .error (.argument (.noSection name))

/-- Settings from a file, of which the content is given if there is one. -/
def ofIniFile (path : String) (content : Option String) (sectionName : Option String) :
    Except Failure Settings :=
  match content with
  | none => .error (.misuse (.noSettingsFile path))
  | some s => ofIni (Text.readContent s) sectionName

end SqlTemplate.Settings
