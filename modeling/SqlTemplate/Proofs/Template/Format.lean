import SqlTemplate.Proofs.Parameter

/-!
Statements for drivers that read them as format strings. Such a driver takes `%%` for a percent sign
and `%s` for a bind marker, so a statement must read back as the text of the template around exactly
the markers that were put in. Nothing else about the text changes: with question marks for markers it
is the statement that any other driver gets.
-/
namespace SqlTemplate

open Template (formatMarker literal placeholders fill pieces bindings)

inductive FormatPart
  | char (c : Char)
  | marker
  deriving DecidableEq, Repr

namespace FormatPart

/-- Reads a format string from left to right. A percent sign must be followed by another one, and then
both are one character, or by an `s`, which makes it a marker. -/
def read? : List Char → Option (List FormatPart)
  | [] => some []
  | c :: cs =>
    if c = '%' then
      match cs with
      | '%' :: rest => (read? rest).map (.char '%' :: ·)
      | 's' :: rest => (read? rest).map (.marker :: ·)
      | _ => none
    else (read? cs).map (.char c :: ·)

/-- A part as plain text, with a question mark for a marker. -/
def plain : FormatPart → Char
  | char c => c
  | marker => '?'

def write (mark : String) : FormatPart → List Char
  | char c => literal mark c
  | marker => mark.toList

/-- A part is read back wherever it stands: what follows a doubled percent sign or a marker cannot
change how it is read. -/
theorem read?_write (p : FormatPart) (cs : List Char) :
    read? (p.write formatMarker ++ cs) = (read? cs).map (p :: ·) := by
  cases p with
  | marker => rfl
  | char c =>
    by_cases percent : c = '%'
    · subst percent
      rfl
    · have alone : literal formatMarker c = [c] := if_neg fun h => percent h.2
      rw [write, alone, List.singleton_append]
      conv_lhs => unfold read?
      exact if_neg percent

theorem read?_flatMap_write (ps : List FormatPart) :
    read? (ps.flatMap (write formatMarker)) = some ps := by
  induction ps with
  | nil => rfl
  | cons p ps ih => rw [List.flatMap_cons, read?_write, ih, Option.map_some]

theorem flatMap_write_plain (ps : List FormatPart) : ps.flatMap (write "?") = ps.map plain := by
  induction ps with
  | nil => rfl
  | cons p ps ih =>
    have here : p.write "?" = [p.plain] := by
      cases p with
      | char c =>
        have undoubled : literal "?" c = [c] := if_neg fun h => absurd h.1 (by decide)
        exact undoubled
      | marker => rfl
    rw [List.flatMap_cons, here, ih, List.map_cons, List.singleton_append]

def markers (n : Nat) : List FormatPart :=
  [.char ','].intercalate (List.replicate n [.marker])

theorem flatMap_write_markers (mark : String) (n : Nat) :
    (markers n).flatMap (write mark) = (",".intercalate (List.replicate n mark)).toList := by
  rw [String.toList_intercalate, List.map_replicate, markers]
  induction n with
  | zero => rfl
  | succ n ih =>
    cases n with
    | zero => simp [write]
    | succ n =>
      have comma : literal mark ',' = ",".toList := if_neg (by simp)
      simp only [List.replicate_succ, List.intercalate_cons_cons] at ih ⊢
      simp only [List.flatMap_append, ih, List.flatMap_singleton, write, comma]

theorem count_markers (n : Nat) : (markers n).count .marker = n := by
  rw [markers]
  induction n with
  | zero => rfl
  | succ n ih =>
    cases n with
    | zero => rfl
    | succ n =>
      simp only [List.replicate_succ, List.intercalate_cons_cons] at ih ⊢
      rw [List.count_append, ih, List.count_append]
      exact Nat.add_comm _ _

end FormatPart

def Binding.parts (b : Binding) : List FormatPart :=
  match b.type with
  | .scalar _ => [.marker]
  | .list _ => .char '(' :: (FormatPart.markers b.markers ++ [.char ')'])

theorem Binding.flatMap_write_parts (mark : String) (b : Binding) :
    b.parts.flatMap (FormatPart.write mark) = (b.text mark).toList := by
  obtain ⟨type, value⟩ := b
  cases type with
  | scalar t => simp [parts, text, FormatPart.write]
  | list t =>
    have opening : literal mark '(' = "(".toList := if_neg (by simp)
    have closing : literal mark ')' = ")".toList := if_neg (by simp)
    simp only [parts, text, List.flatMap_cons, List.flatMap_append, List.flatMap_nil,
      FormatPart.flatMap_write_markers, FormatPart.write, opening, closing, String.toList_append,
      List.append_nil, List.append_assoc]

theorem Binding.count_parts (b : Binding) : b.parts.count .marker = b.markers := by
  obtain ⟨type, value⟩ := b
  cases type with
  | scalar t => rfl
  | list t => simp [parts, List.count_append, FormatPart.count_markers]

namespace Template

/-- Pieces with their placeholders replaced, as parts. -/
def parts : List Piece → List Binding → List FormatPart
  | [], _ => []
  | .char c :: xs, bs => .char c :: parts xs bs
  | .hole _ :: xs, [] => parts xs []
  | .hole _ :: xs, b :: bs => b.parts ++ parts xs bs

theorem flatMap_write_parts (mark : String) (xs : List Piece) (bs : List Binding) :
    (parts xs bs).flatMap (FormatPart.write mark) = fill mark xs bs := by
  induction xs generalizing bs with
  | nil => rfl
  | cons x xs ih =>
    cases x with
    | char c => rw [parts, fill, List.flatMap_cons, ih, FormatPart.write]
    | hole p =>
      cases bs with
      | nil => rw [parts, fill, ih]
      | cons b bs => rw [parts, fill, List.flatMap_append, ih, b.flatMap_write_parts]

theorem count_parts (xs : List Piece) (bs : List Binding)
    (enough : (placeholders xs).length = bs.length) :
    (parts xs bs).count .marker = (bs.flatMap Binding.parameters).length := by
  induction xs generalizing bs with
  | nil =>
    obtain rfl := List.length_eq_zero_iff.mp enough.symm
    rfl
  | cons x xs ih =>
    cases x with
    | char c =>
      rw [parts, List.count_cons_of_ne (by simp)]
      exact ih bs enough
    | hole p =>
      cases bs with
      | nil => simp [placeholders] at enough
      | cons b bs =>
        have rest := ih bs (by simpa [placeholders] using enough)
        rw [parts, List.count_append, rest, b.count_parts, List.flatMap_cons, List.length_append,
          b.length_parameters]

end Template

namespace Parser

/-- A statement for a driver of format strings is one: no percent sign in it is malformed, it has as
many markers as there are values to bind, and what it says, with question marks for markers, is what
the template becomes for a driver that takes question marks. -/
theorem format_reads_back {parser parser' : Parser} (format : parser.marker = formatMarker)
    (question : parser'.marker = "?") (same : parser'.dialect = parser.dialect) {template : Value}
    {arguments : List Value} {q : ParsedQuery}
    (parsed : (parse template arguments).outcome parser = .ok q) :
    ∃ parts, FormatPart.read? q.sql.toList = some parts ∧
      parts.count .marker = q.parameters.length ∧
      (parse template arguments).outcome parser' =
        .ok { q with sql := String.ofList (parts.map FormatPart.plain) } := by
  cases template with
  | text s =>
    rw [parse_pieces] at parsed ⊢
    rw [same, question]
    rw [format] at parsed
    simp only at parsed ⊢
    split at parsed
    · contradiction
    next fits =>
      cases Except.ok.inj parsed
      let xs := pieces parser.dialect (Template.clean s)
      let bs := bindings arguments 0 (placeholders xs)
      refine ⟨Template.parts xs bs, ?_, Template.count_parts xs bs (Template.length_bindings fits), ?_⟩
      · rw [String.toList_ofList, ← Template.flatMap_write_parts, FormatPart.read?_flatMap_write]
      · rw [← FormatPart.flatMap_write_plain, Template.flatMap_write_parts]
  | _ => contradiction

theorem format_reads_back_adjacent :
    let parser : Parser := { dialect := .classic, marker := formatMarker }
    let template : Value := .text "%%d 10%%s%ls"
    let arguments : List Value := [.int 7, .text "%s", .list [.text "%", .null]]
    ∃ q parts, (parse template arguments).outcome parser = .ok q ∧
      FormatPart.read? q.sql.toList = some parts ∧
      parts.count .marker = q.parameters.length ∧
      (parse template arguments).outcome { parser with marker := "?" } =
        .ok { q with sql := String.ofList (parts.map FormatPart.plain) } := by
  intro parser template arguments
  obtain ⟨q, parsed⟩ :=
    Action.exists_of_outcome_isOk (m := parse template arguments) (s := parser) (by decide +kernel)
  have format : parser.marker = formatMarker := rfl
  have question : ({ parser with marker := "?" } : Parser).marker = "?" := rfl
  obtain ⟨parts, reads, count, plain⟩ := format_reads_back format question rfl parsed
  exact ⟨q, parts, parsed, reads, count, plain⟩

end Parser

end SqlTemplate
