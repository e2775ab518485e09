import Mathlib.Data.List.Forall2
import SqlTemplate.Ini.Line
import SqlTemplate.Proofs.Text.Trim

/-!
Lines as they are written: headers, and options with a value in quotation marks. Whatever stands in
the name or in the value, a line is read back as what was written, since its first characters say
what it is and the quotation marks keep the ends of the value.
-/
namespace SqlTemplate.Ini

open Text (IsTrimmed isBlank isWord trim)

structure IsKey (cs : List Char) : Prop where
  nonempty : cs ≠ []
  word : ∀ c ∈ cs, isWord c = true

namespace Line

def headerLine (name : List Char) : List Char :=
  '[' :: (name ++ [']'])

def quoted (value : List Char) : List Char :=
  '"' :: (value ++ ['"'])

def optionLine (key value : List Char) : List Char :=
  key ++ ' ' :: '=' :: ' ' :: quoted value

/-- A line without or with the line feed that ends it. -/
def IsEnded (written line : List Char) : Prop :=
  line = written ∨ line = written ++ ['\n']

theorem trim_ended {written line : List Char} (trimmed : IsTrimmed written)
    (ended : IsEnded written line) : trim line = written := by
  rcases ended with rfl | rfl
  · exact trimmed.trim_self
  · have nothing : ∀ c ∈ [], isBlank c = true := nofun
    have feed : ∀ c ∈ ['\n'], isBlank c = true := List.forall_mem_singleton.mpr (by decide)
    simpa only [List.nil_append] using Text.trim_eq nothing feed trimmed

/-! ## Headers -/

theorem isTrimmed_headerLine (name : List Char) : IsTrimmed (headerLine name) :=
  Text.isTrimmed_of_ends (by decide) (by decide) name

theorem headerName?_headerLine {name : List Char} (nonempty : name ≠ []) :
    headerName? (headerLine name) = some name := by
  obtain ⟨c, cs, backwards⟩ := List.exists_cons_of_ne_nil (mt List.reverse_eq_nil_iff.mp nonempty)
  rw [headerLine, headerName?, List.reverse_append, List.reverse_singleton, List.singleton_append,
    List.dropWhile_cons_of_neg (by decide), backwards]
  simp only
  rw [← backwards, List.reverse_reverse]

/-- A header is read back, whatever its name holds. -/
theorem read_header {name line : List Char} (nonempty : name ≠ [])
    (ended : IsEnded (headerLine name) line) : read line = .header name := by
  rw [read, trim_ended (isTrimmed_headerLine name) ended, headerLine, ofTrimmed]
  · rw [← headerLine, headerName?_headerLine nonempty]
  all_goals simp

/-! ## Options -/

theorem isTrimmed_quoted (value : List Char) : IsTrimmed (quoted value) :=
  Text.isTrimmed_of_ends (by decide) (by decide) value

section
variable {key : List Char} (value : List Char)

theorem notBlank (isKey : IsKey key) : ∀ c ∈ key, isBlank c = false :=
  fun c hc => Text.isBlank_of_isWord (isKey.word c hc)

theorem notDelimiter (isKey : IsKey key) : ∀ c ∈ key, (!isDelimiter c) = true := by
  intro c hc
  have word := isKey.word c hc
  simp only [isDelimiter, Bool.not_eq_true', Bool.or_eq_false_iff, beq_eq_false_iff_ne]
  constructor <;> rintro rfl <;> exact absurd word (by decide)

theorem isTrimmed_optionLine (isKey : IsKey key) : IsTrimmed (optionLine key value) := by
  obtain ⟨c, cs, rfl⟩ := List.exists_cons_of_ne_nil isKey.nonempty
  have ends : optionLine (c :: cs) value =
      c :: ((cs ++ ' ' :: '=' :: ' ' :: '"' :: value) ++ ['"']) := by
    simp [optionLine, quoted]
  rw [ends]
  exact Text.isTrimmed_of_ends (notBlank isKey c (List.mem_cons_self ..)) (by decide) _

theorem keyValue?_optionLine (isKey : IsKey key) :
    keyValue? (optionLine key value) = some (key, quoted value) := by
  have space : ∀ c ∈ [' '], isBlank c = true := List.forall_mem_singleton.mpr (by decide)
  have rest : (optionLine key value).dropWhile (!isDelimiter ·) = '=' :: ' ' :: quoted value := by
    rw [optionLine, List.dropWhile_append_of_pos (notDelimiter isKey)]
    rfl
  have first : (optionLine key value).takeWhile (!isDelimiter ·) = key ++ [' '] := by
    rw [optionLine, List.takeWhile_append_of_pos (notDelimiter isKey)]
    rfl
  have trimmedKey : Text.trimRight (key ++ [' ']) = key :=
    Text.trimRight_append space fun c last => notBlank isKey c (List.mem_of_getLast? last)
  have trimmedValue : trim (' ' :: quoted value) = quoted value := by
    have nothing : ∀ c ∈ [], isBlank c = true := nofun
    simpa only [List.append_nil, List.singleton_append] using
      Text.trim_eq space nothing (isTrimmed_quoted value)
  rw [keyValue?, rest, first, trimmedKey]
  exact congrArg (fun v => some (key, v)) trimmedValue

/-- An option is read back, whatever its value holds. -/
theorem read_option (isKey : IsKey key) {line : List Char}
    (ended : IsEnded (optionLine key value) line) :
    read line = .option key (quoted value) := by
  have split := keyValue?_optionLine value isKey
  rw [read, trim_ended (isTrimmed_optionLine value isKey) ended]
  obtain ⟨c, cs, rfl⟩ := List.exists_cons_of_ne_nil isKey.nonempty
  have word := isKey.word c (List.mem_cons_self ..)
  -- A word character opens neither a comment nor a header.
  have other (mark : Char) (h : isWord mark = false) : c ≠ mark := by
    rintro rfl
    rw [h] at word
    contradiction
  have noHeader : headerName? (optionLine (c :: cs) value) = none := by
    rw [optionLine, List.cons_append, headerName?]
    exact fun _ => other '[' (by decide) ∘ fun h => (List.cons.inj h).1
  rw [optionLine, List.cons_append] at noHeader split ⊢
  rw [ofTrimmed]
  · rw [noHeader, split]
  · nofun
  · exact fun _ => other '#' (by decide) ∘ fun h => (List.cons.inj h).1
  · exact fun _ => other ';' (by decide) ∘ fun h => (List.cons.inj h).1

theorem indentation_option (isKey : IsKey key) {line : List Char}
    (ended : IsEnded (optionLine key value) line) : indentation line = 0 := by
  obtain ⟨c, cs, rfl⟩ := List.exists_cons_of_ne_nil isKey.nonempty
  have start := notBlank isKey c (List.mem_cons_self ..)
  rcases ended with rfl | rfl <;> simp [indentation, optionLine, start]

end

end Line

/-! ## The lines of a text -/

theorem lines_append {l : List Char} (single : '\n' ∉ l) (cs : List Char) :
    lines (l ++ '\n' :: cs) = (l ++ ['\n']) :: lines cs := by
  induction l with
  | nil => rfl
  | cons c l ih =>
    rw [List.mem_cons, not_or] at single
    rw [List.cons_append, lines, ih single.2]
    · rfl
    · exact Ne.symm single.1

theorem lines_eq {l : List Char} (single : '\n' ∉ l) (nonempty : l ≠ []) : lines l = [l] := by
  induction l with
  | nil => contradiction
  | cons c l ih =>
    rw [List.mem_cons, not_or] at single
    rw [lines]
    · cases l with
      | nil => rfl
      | cons d l => rw [ih single.2 (by simp)]
    · exact Ne.symm single.1

/-- The lines of a text are those that it was put together from. -/
theorem lines_intercalate {ls : List (List Char)} (started : ls ≠ []) (single : ∀ l ∈ ls, '\n' ∉ l)
    (nonempty : ∀ l ∈ ls, l ≠ []) {ending : List Char} (ended : Line.IsEnded [] ending) :
    List.Forall₂ Line.IsEnded ls (lines (['\n'].intercalate ls ++ ending)) := by
  induction ls with
  | nil => contradiction
  | cons l ls ih =>
    have here := single l (List.mem_cons_self ..)
    cases ls with
    | nil =>
      rw [List.intercalate_singleton]
      rcases ended with rfl | rfl
      · rw [List.append_nil, lines_eq here (nonempty l (List.mem_cons_self ..))]
        exact .cons (.inl rfl) .nil
      · rw [List.nil_append, lines_append here]
        exact .cons (.inr rfl) .nil
    | cons l' ls =>
      have rest := ih (by simp) (fun m hm => single m (List.mem_cons_of_mem _ hm))
        fun m hm => nonempty m (List.mem_cons_of_mem _ hm)
      rw [List.intercalate_cons_cons, List.append_assoc, List.append_assoc, List.singleton_append,
        lines_append here]
      exact .cons (.inr rfl) rest

end SqlTemplate.Ini
