import SqlTemplate.Error.Failure
import SqlTemplate.Text.LineEnd
import SqlTemplate.Text.Split

/-!
Files that error reports are appended to. A path is walked part by part from the working directory,
in which there are files but no directories.
-/
namespace SqlTemplate

/-- A directory that a walk can come to. -/
inductive Directory
  | root
  /-- The working directory, or one so many levels above it. -/
  | above (levels : Nat)
  deriving DecidableEq, Repr

def Directory.parent : Directory → Directory
  | root => root
  | above levels => above (levels + 1)

/-- A path, or one part of it, as the bytes that spell it. -/
abbrev Path := List UInt8

namespace Path

def separator : UInt8 := 47

/-- The part that stays where it is. -/
def here : Path := [46]

/-- The part that goes to the directory above. -/
def up : Path := [46, 46]

def greatestLength : Nat := 4095

def greatestPartLength : Nat := 255

/-- The bytes of a text. -/
def ofText (s : String) : Path :=
  s.toList.flatMap String.utf8EncodeChar

end Path

/-- The place of a file: a directory and a name in it. -/
structure Place where
  directory : Directory
  name : Path
  deriving DecidableEq, Repr

/-- Files by their places, with their content. -/
abbrev Files := List (Place × String)

namespace Files

/-- The directory that a part of a path leads to. -/
def enter (files : Files) (d : Directory) (part : Path) : Except PathError Directory :=
  if part.isEmpty ∨ part = Path.here then .ok d
  else if part = Path.up then .ok d.parent
  else if Path.greatestPartLength < part.length then .error .nameTooLong
  else if (files.lookup ⟨d, part⟩).isSome then .error .notDirectory
  else .error .missing

/-- The place of a file by its last part. A separator after it asks for a directory. -/
def place (d : Directory) (name : Path) (separated : Bool) : Except PathError Place :=
  if separated ∨ name = Path.here ∨ name = Path.up then .error .isDirectory
  else if Path.greatestPartLength < name.length then .error .nameTooLong
  else .ok ⟨d, name⟩

/-- The place that a path leads to. -/
def walk (files : Files) (path : Path) : Except PathError Place :=
  let start := if path.head? = some Path.separator then .root else .above 0
  let parts := (Text.splitOn Path.separator path).reverse
  match parts.dropWhile (·.isEmpty) with
  | [] => .error .isDirectory
  | name :: parents => do
    let d ← parents.reverse.foldlM files.enter start
    place d name (parts.head? = some [])

/-- The place that a path leads to, if it is a path at all. -/
def resolve (files : Files) (path : Path) : Except PathError Place :=
  if path.contains 0 then .error .nulInName
  else if path.isEmpty then .error .missing
  else if Path.greatestLength < path.length then .error .nameTooLong
  else files.walk path

/-- The path that a value spells: a text, or bytes that do not change. -/
def path? : Value → Option Path
  | .text s => some (Path.ofText s)
  | .bytes .plain data => some data
  | .bytes .binary data => some data
  | _ => none

/-- What a number leads to that stands for a file: no file is open. -/
def descriptorError (n : Int) : Failure :=
  let limit : Int := Number.pow2 31
  if n < -limit ∨ limit ≤ n then .operand (.notPath (Value.int n).typeName)
  else .file (if n < 0 then .negativeDescriptor else .badDescriptor)

/-- The place that a value names. -/
def locate (files : Files) (v : Value) : Except Failure Place :=
  match path? v, v.integer? with
  | some path, _ => (files.resolve path).mapError fun e => .file (.path e v.quote)
  | none, some n => .error (descriptorError n)
  | none, none => .error (.operand (.notPath v.typeName))

/-- The content of the file that a path leads to, with its ends of lines as line feeds. -/
def read? (files : Files) (path : String) : Option String :=
  match files.resolve (Path.ofText path) with
  | .ok p => (files.lookup p).map Text.readContent
  | .error _ => none

/-- Adds text to the end of a file, which is created if it is not there. -/
def append (p : Place) (text : String) : Files → Files
  | [] => [(p, text)]
  | (q, content) :: files =>
    if q = p then (q, content ++ text) :: files else (q, content) :: append p text files

end Files

end SqlTemplate
