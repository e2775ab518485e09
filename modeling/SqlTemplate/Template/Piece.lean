import SqlTemplate.Text.Blank
import SqlTemplate.Text.Word

/-!
The pieces of a query template: characters that stand for themselves, and placeholders for values.
-/
namespace SqlTemplate

/-- How placeholders are written. -/
inductive Dialect
  /-- `{code}`, or `{location:code}` with the position of the argument. -/
  | basic
  /-- `%code`, with the longest run of word characters as the code. -/
  | classic
  deriving DecidableEq, Repr

structure Placeholder where
  location : Option (List Char)
  code : List Char
  deriving DecidableEq, Repr

inductive Piece
  | char (c : Char)
  | hole (p : Placeholder)
  deriving DecidableEq, Repr

namespace Template

/-- The longest run of word characters in front, unless it is empty, and what follows it. -/
def word? (cs : List Char) : Option (List Char × List Char) :=
  match cs.takeWhile Text.isWord with
  | [] => none
  | c :: w => some (c :: w, cs.dropWhile Text.isWord)

/-- A placeholder whose opening character `c` has been read, and what follows it. -/
def placeholder? (d : Dialect) (c : Char) (cs : List Char) :
    Option (Placeholder × List Char) :=
  match d with
  | .basic =>
    if c = '{' then
      match word? cs with
      | some (w, '}' :: rest) => some (⟨none, w⟩, rest)
      | some (w, ':' :: cs) =>
        match word? cs with
        | some (code, '}' :: rest) => some (⟨some w, code⟩, rest)
        | _ => none
      | _ => none
    else none
  | .classic =>
    if c = '%' then (word? cs).map fun (w, rest) => (⟨none, w⟩, rest) else none

theorem word?_length {cs w rest : List Char} (h : word? cs = some (w, rest)) :
    rest.length ≤ cs.length := by
  unfold word? at h
  split at h
  · contradiction
  · obtain ⟨_, rfl⟩ := Prod.mk.inj (Option.some.inj h)
    exact (List.dropWhile_suffix _).length_le

theorem placeholder?_length {d : Dialect} {c : Char} {cs rest : List Char} {p : Placeholder}
    (h : placeholder? d c cs = some (p, rest)) : rest.length ≤ cs.length := by
  cases d with
  | basic =>
    simp only [placeholder?] at h
    split at h
    · split at h
      · next first =>
        obtain ⟨_, rfl⟩ := Prod.mk.inj (Option.some.inj h)
        have := word?_length first
        simp only [List.length_cons] at this
        omega
      · next first =>
        split at h
        · next second =>
          obtain ⟨_, rfl⟩ := Prod.mk.inj (Option.some.inj h)
          have := word?_length first
          have := word?_length second
          simp only [List.length_cons] at *
          omega
        · contradiction
      · contradiction
    · contradiction
  | classic =>
    simp only [placeholder?] at h
    split at h
    · obtain ⟨⟨w, r⟩, found, eq⟩ := Option.map_eq_some_iff.mp h
      obtain ⟨_, rfl⟩ := Prod.mk.inj eq
      exact word?_length found
    · contradiction

/-- The pieces of a text, from left to right: a placeholder wherever one starts. -/
def pieces (d : Dialect) : List Char → List Piece
  | [] => []
  | c :: cs =>
    match _ : placeholder? d c cs with
    | some (p, rest) => .hole p :: pieces d rest
    | none => .char c :: pieces d cs
  termination_by cs => cs.length
  decreasing_by
    · have := placeholder?_length (d := d) ‹_›
      simp only [List.length_cons]
      omega
    · simp

/-- A template without white space around it and without one semicolon at its end. -/
def clean (template : String) : List Char :=
  let cs := Text.trim template.toList
  if cs.getLast? = some ';' then cs.dropLast else cs

end Template

end SqlTemplate
