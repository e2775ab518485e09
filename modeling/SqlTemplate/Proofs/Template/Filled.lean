import SqlTemplate.Proofs.Template.Shape

/-!
No placeholder is left where placeholders have been replaced. A marker neither opens a placeholder nor
stands inside one, so a placeholder in the text of a statement would lie between two markers. There the
template has the same characters, and the scanner would have found it.
-/
namespace SqlTemplate.Template

open Text (isWord)

def Free (d : Dialect) (t : List Char) : Prop :=
  ∀ i p, ¬ Starts d p (t.drop i)

def Inner (c : Char) : Prop :=
  isWord c = true ∨ c = ':' ∨ c = '}'

/-- A marker that separates what stands around it: it opens no placeholder, and what comes before it
cannot go on into it. -/
structure Separates (d : Dialect) (marker : String) : Prop where
  closed : d.opening ∉ marker.toList
  start : ∃ c cs, marker.toList = c :: cs ∧ ¬ Inner c

theorem separates_question (d : Dialect) : Separates d "?" where
  closed := by cases d <;> decide
  start := ⟨'?', [], rfl, by unfold Inner; decide⟩

/-- The marker of format strings opens a placeholder of the classic dialect, but none of the basic
one. -/
theorem separates_format : Separates .basic formatMarker where
  closed := by decide
  start := ⟨'%', ['s'], rfl, by unfold Inner; decide⟩

/-! ## Texts without placeholders -/

section
variable {d : Dialect} {t : List Char}

theorem free_nil (d : Dialect) : Free d [] := by
  intro i p starts
  rw [List.drop_nil] at starts
  exact not_starts_nil starts

theorem Free.cons {c : Char} (free : Free d t) (missing : ∀ p, ¬ Starts d p (c :: t)) :
    Free d (c :: t) := by
  intro i p starts
  cases i with
  | zero => exact missing p starts
  | succ i => exact free i p starts

/-- A text without an opening character can be put in front. -/
theorem Free.append {u : List Char} (free : Free d t) (closed : d.opening ∉ u) :
    Free d (u ++ t) := by
  induction u with
  | nil => exact free
  | cons c u ih =>
    rw [List.mem_cons, not_or] at closed
    apply (ih closed.2).cons
    rintro p ⟨rest, starts⟩
    exact closed.1 (Option.some.inj (startsWith_opening starts)).symm

theorem Free.occurrences (free : Free d t) : Occurrences d t [] where
  ascending := .nil
  mem_iff i p := by
    constructor
    · intro mem
      contradiction
    · intro starts
      exact absurd starts (free i p)

end

/-! ## What takes the places of placeholders -/

theorem mem_literal {marker : String} {c x : Char} (mem : x ∈ literal marker c) : x = c := by
  unfold literal at mem
  split at mem
  · next percent => simpa [percent.2] using mem
  · simpa using mem

theorem literal_start (marker : String) (c : Char) : ∃ cs, literal marker c = c :: cs := by
  unfold literal
  split
  · next percent => exact ⟨['%'], by rw [percent.2]⟩
  · exact ⟨[], rfl⟩

/-- Only a percent sign is doubled. -/
theorem literal_eq {marker : String} {c : Char} (other : c ≠ '%' ∨ marker ≠ formatMarker) :
    literal marker c = [c] := by
  apply if_neg
  rintro ⟨format, percent⟩
  rcases other with other | other
  · exact other percent
  · exact other format

section
variable {d : Dialect} {marker : String}

theorem opening_not_mem_text (separates : Separates d marker) (b : Binding) :
    d.opening ∉ (b.text marker).toList := by
  intro mem
  rcases b.mem_text mem with mem | mem
  · exact separates.closed mem
  · cases d <;> exact absurd mem (by decide)

theorem text_start (separates : Separates d marker) (b : Binding) :
    ∃ c cs, (b.text marker).toList = c :: cs ∧ ¬ Inner c := by
  obtain ⟨type, value⟩ := b
  cases type with
  | scalar t => exact separates.start
  | list t =>
    have opening : ¬ Inner '(' := by
      unfold Inner
      decide
    exact ⟨'(', _, by rw [Binding.text, String.toList_append, String.toList_append]; rfl, opening⟩

/-- What can stand inside a placeholder and is found in front of the pieces with their placeholders
replaced was there in the text. -/
theorem prefix_of_fill (separates : Separates d marker) {u cs : List Char}
    (inner : ∀ c ∈ u, Inner c) {bs : List Binding}
    (enough : (placeholders (pieces d cs)).length = bs.length)
    (front : u <+: fill marker (pieces d cs) bs) : u <+: cs := by
  induction cs using pieces.induct d generalizing u bs with
  | case1 => simpa [pieces, fill] using front
  | case2 c cs p rest found _ =>
    rw [pieces_of_found found] at enough front
    cases bs with
    | nil => simp [placeholders] at enough
    | cons b bs =>
      obtain ⟨x, xs, text, outside⟩ := text_start separates b
      rw [fill, text] at front
      cases u with
      | nil => exact List.nil_prefix
      | cons a u =>
        obtain ⟨rfl, _⟩ := List.cons_prefix_cons.mp front
        exact absurd (inner a (List.mem_cons_self ..)) outside
  | case3 c cs missing ih =>
    rw [pieces_of_missing missing] at enough front
    cases u with
    | nil => exact List.nil_prefix
    | cons a u =>
      have first : Inner a := inner a (List.mem_cons_self ..)
      have later : ∀ x ∈ u, Inner x := fun x mem => inner x (List.mem_cons_of_mem _ mem)
      have same : a = c := by
        obtain ⟨cs', text⟩ := literal_start marker c
        rw [fill, text] at front
        exact (List.cons_prefix_cons.mp front).1
      subst same
      have single : literal marker a = [a] := by
        apply literal_eq
        left
        rintro rfl
        revert first
        unfold Inner
        decide
      rw [fill, single] at front
      exact List.cons_prefix_cons.mpr ⟨rfl, ih later enough (List.cons_prefix_cons.mp front).2⟩

/-- The pieces of a text with their placeholders replaced have no placeholder in them. The induction
is on the pieces: at one that stands for itself a placeholder would start in the text as well. -/
theorem free_fill (separates : Separates d marker) (cs : List Char) {bs : List Binding}
    (enough : (placeholders (pieces d cs)).length = bs.length) :
    Free d (fill marker (pieces d cs) bs) := by
  induction cs using pieces.induct d generalizing bs with
  | case1 =>
    rw [pieces, fill]
    exact free_nil d
  | case2 c cs p rest found ih =>
    rw [pieces_of_found found] at enough ⊢
    cases bs with
    | nil => simp [placeholders] at enough
    | cons b bs =>
      have free : Free d (fill marker (pieces d rest) bs) := ih (Nat.succ.inj enough)
      exact free.append (opening_not_mem_text separates b)
  | case3 c cs missing ih =>
    rw [pieces_of_missing missing] at enough ⊢
    have free : Free d (fill marker (pieces d cs) bs) := ih enough
    rw [fill]
    by_cases opens : c = d.opening
    · have single : literal marker c = [c] := by
        apply literal_eq
        by_contra doubled
        rw [not_or, not_not, not_not] at doubled
        apply separates.closed
        rw [← opens, doubled.1, doubled.2]
        decide
      rw [single, List.singleton_append]
      apply free.cons
      rintro p ⟨rest, starts⟩
      have text := starts.text
      rw [written_eq] at text
      obtain ⟨head, tail⟩ := List.cons.inj text
      have inside : (p.written d).tail <+: cs :=
        prefix_of_fill separates (fun x mem => mem_tail_written starts.wellFormed mem) enough
          ⟨rest, tail.symm⟩
      have whole : p.written d <+: c :: cs := by
        rw [written_eq, head]
        exact List.cons_prefix_cons.mpr ⟨rfl, inside⟩
      exact placeholder?_of_prefix starts.wellFormed whole missing
    · apply free.append
      intro mem
      exact opens (mem_literal mem).symm

end

end SqlTemplate.Template

namespace SqlTemplate.Parser

open Template

/-- A statement has no placeholder in it: none of those that were replaced is left, and no new one
comes about, neither in a marker nor where literal text and markers meet. This holds of the basic
dialect with either marker, and of the classic one with question marks; there the marker of format
strings is itself a placeholder. -/
theorem no_placeholder_left {parser : Parser}
    (marker : parser.marker = "?" ∨ parser.dialect = .basic ∧ parser.marker = formatMarker)
    {template : Value} {arguments : List Value} {q : ParsedQuery}
    (parsed : (parse template arguments).outcome parser = .ok q) :
    Occurrences parser.dialect q.sql.toList [] := by
  have separates : Separates parser.dialect parser.marker := by
    rcases marker with question | ⟨basic, format⟩
    · rw [question]
      exact separates_question _
    · rw [basic, format]
      exact separates_format
  cases template with
  | text s =>
    rw [parse_pieces] at parsed
    simp only at parsed
    split at parsed
    · contradiction
    · next fits =>
      cases parsed
      rw [String.toList_ofList]
      apply Free.occurrences
      exact free_fill separates (clean s) (length_bindings fits)
  | _ => contradiction

theorem no_placeholder_left_nested :
    let parser : Parser := { dialect := .basic, marker := formatMarker }
    let template : Value := .text "\x7b\x7bs\x7d\x7d \x7ba:\x7bld\x7d:b\x7d %\x7bs\x7ds \x7b%s\x7d"
    let sql := "\x7b%s\x7d \x7ba:(%s,%s):b\x7d %%%ss \x7b%%s\x7d"
    let arguments : List Value := [.text "\x7bs\x7d", .text "1,2", .text "%s"]
    ((parse template arguments).outcome parser).toOption.map (·.sql) = some sql ∧
      Occurrences .basic sql.toList [] := by
  intro parser template sql arguments
  have text : ((parse template arguments).outcome parser).toOption.map (·.sql) = some sql := by
    decide +kernel
  refine ⟨text, ?_⟩
  cases parsed : (parse template arguments).outcome parser with
  | error e =>
    rw [parsed] at text
    contradiction
  | ok q =>
    rw [parsed] at text
    have same : q.sql = sql := Option.some.inj text
    have marker : parser.marker = "?" ∨ parser.dialect = .basic ∧ parser.marker = formatMarker :=
      .inr ⟨rfl, rfl⟩
    exact same ▸ no_placeholder_left marker parsed

end SqlTemplate.Parser
