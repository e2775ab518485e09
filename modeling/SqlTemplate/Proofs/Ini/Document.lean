import SqlTemplate.Ini.Document
import SqlTemplate.Proofs.Ini.Line

/-!
Texts as they are written: one section with options in any order, each on a line of its own. Read
line by line, the document holds at each point just the options written so far.
-/
namespace SqlTemplate.Ini.Document

open Line (IsEnded headerLine optionLine quoted)

/-- A document of one section, which is still being read. -/
structure Holds (d : Document) (name : String) (os : Options) : Prop where
  sections : d.sections = [(name, os)]
  defaults : d.defaults = []
  current : d.current = some name
  readable : d.unreadable = []

/-- An option as it is kept: the line of its value, with the quotation marks. -/
def kept (o : List Char × List Char) : String × List String :=
  (String.ofList o.1, [String.ofList (quoted o.2)])

section
variable {d : Document} {name : String} {os : Options} {line : List Char}

theorem Holds.ownOptions (holds : Holds d name os) (other : name ≠ defaultSection) :
    d.ownOptions name = os := by
  rw [Document.ownOptions, if_neg other, holds.sections]
  simp

theorem Holds.hasSection (holds : Holds d name os) : d.hasSection name = true := by
  simp [Document.hasSection, holds.sections]

/-- The value of an option is found under its key. -/
theorem Holds.value? (holds : Holds d name os) (other : name ≠ defaultSection) (key : String) :
    d.value? name key = (os.find? (·.1 == key)).map fun o => joinValue o.2 := by
  rw [Document.value?, holds.ownOptions other, holds.defaults]
  simp

theorem readLine_header (number : Nat) {name : List Char} (nonempty : name ≠ [])
    (other : String.ofList name ≠ defaultSection) (ended : IsEnded (headerLine name) line) :
    ∃ d, readLine {} number line = .ok d ∧ Holds d (String.ofList name) [] := by
  have first : ¬ ((({} : Document).continued?).isSome = true ∧ 0 < indentation line) :=
    fun h => absurd h.1 (by decide)
  rw [readLine, Line.read_header nonempty ended]
  simp only [if_neg first, openSection, if_neg other]
  exact ⟨_, rfl, rfl, rfl, rfl, rfl⟩

/-- An option that is not there yet is added to the section. -/
theorem Holds.addOption (holds : Holds d name os) (other : name ≠ defaultSection) (number : Nat)
    {key : String} (fresh : ∀ o ∈ os, o.1 ≠ key) (value : String) :
    ∃ d', d.addOption number name key value = .ok d' ∧ Holds d' name (os ++ [(key, [value])]) := by
  have absent : (d.ownOptions name).any (·.1 == key) = false := by
    rw [holds.ownOptions other, List.any_eq_false]
    exact fun o mem => by simpa using fresh o mem
  have modified : d.modifyOptions (· ++ [(key, [value])]) =
      { d with sections := [(name, os ++ [(key, [value])])] } := by
    simp [modifyOptions, holds.current, other, holds.sections]
  rw [Document.addOption, absent, modified]
  exact ⟨_, rfl, rfl, holds.defaults, holds.current, holds.readable⟩

theorem Holds.readLine (holds : Holds d name os) (other : name ≠ defaultSection) (number : Nat)
    {key value : List Char} (isKey : IsKey key) (fresh : ∀ o ∈ os, o.1 ≠ String.ofList key)
    (ended : IsEnded (optionLine key value) line) :
    ∃ d', d.readLine number line = .ok d' ∧ Holds d' name (os ++ [kept (key, value)]) := by
  have margin := Line.indentation_option value isKey ended
  have level : ¬ (d.continued?.isSome = true ∧ d.indent < indentation line) := by omega
  have named : key.isEmpty = false := by simpa using isKey.nonempty
  have started : Holds { d with indent := indentation line, current := some name } name os :=
    ⟨holds.sections, holds.defaults, rfl, holds.readable⟩
  obtain ⟨d', added, holds'⟩ := started.addOption other number fresh (String.ofList (quoted value))
  refine ⟨d', ?_, holds'⟩
  rw [Document.readLine, Line.read_option value isKey ended]
  simp only [if_neg level, holds.current, named]
  exact added

/-- A text of options is read to its end, and the section holds all of them. -/
theorem Holds.readLines (holds : Holds d name os) (other : name ≠ defaultSection) (number : Nat)
    {options : List (List Char × List Char)} (keys : ∀ o ∈ options, IsKey o.1)
    (distinct : (os ++ options.map kept).Pairwise (·.1 ≠ ·.1)) {lines : List (List Char)}
    (ended : List.Forall₂ IsEnded (options.map fun o => optionLine o.1 o.2) lines) :
    ∃ d', d.readLines number lines = .ok d' ∧ Holds d' name (os ++ options.map kept) := by
  induction options generalizing d os number lines with
  | nil =>
    cases ended
    exact ⟨d, rfl, by simpa using holds⟩
  | cons o options ih =>
    rw [List.map_cons] at ended distinct
    cases ended with
    | cons here rest =>
      have fresh : ∀ o' ∈ os, o'.1 ≠ String.ofList o.1 := fun o' mem =>
        (List.pairwise_append.mp distinct).2.2 o' mem (kept o) (List.mem_cons_self ..)
      obtain ⟨d₁, first, holds₁⟩ :=
        holds.readLine other number (keys o (List.mem_cons_self ..)) fresh here
      have grouped : os ++ kept o :: options.map kept = os ++ [kept o] ++ options.map kept := by simp
      rw [grouped] at distinct
      obtain ⟨d₂, later, holds₂⟩ := ih holds₁ (number + 1)
        (fun o' mem => keys o' (List.mem_cons_of_mem _ mem)) distinct rest
      refine ⟨d₂, ?_, ?_⟩
      · rw [Document.readLines, first]
        exact later
      · rw [List.map_cons, grouped]
        exact holds₂

end

/-- A text of a header and options is read, and the section of that name holds the options. -/
theorem read_written {name : String} (nonempty : name ≠ "") (single : '\n' ∉ name.toList)
    (other : name ≠ defaultSection) {options : List (List Char × List Char)}
    (keys : ∀ o ∈ options, IsKey o.1) (distinct : (options.map kept).Pairwise (·.1 ≠ ·.1))
    {body : List Char}
    (ended : List.Forall₂ IsEnded (options.map fun o => optionLine o.1 o.2) (lines body)) :
    ∃ d, read (String.ofList (headerLine name.toList ++ '\n' :: body)) = .ok d ∧
      Holds d name (options.map kept) := by
  have oneLine : '\n' ∉ headerLine name.toList := by simp [headerLine, single]
  have named : name.toList ≠ [] := by simpa using nonempty
  have same : String.ofList name.toList = name := String.ofList_toList
  obtain ⟨d₁, header, holds₁⟩ :=
    readLine_header 1 named (by rwa [same]) (.inr rfl)
  rw [same] at holds₁
  obtain ⟨d, rest, holds⟩ := holds₁.readLines other 2 keys (by simpa using distinct) ended
  rw [List.nil_append] at holds
  have all : ({} : Document).readLines 1 (lines (headerLine name.toList ++ '\n' :: body)) =
      .ok d := by
    rw [lines_append oneLine, Document.readLines, header]
    exact rest
  refine ⟨d, ?_, holds⟩
  rw [read, String.toList_ofList, all]
  change (if d.unreadable.isEmpty then Except.ok d else _) = _
  rw [holds.readable]
  rfl

end SqlTemplate.Ini.Document
