import Mathlib.Data.List.TakeWhile
import SqlTemplate.Number.Numeral
import SqlTemplate.ValueType

/-!
Numbers as they are written: the shapes that type codes ask for, said as grammars, and the integer
that a text of digits stands for.
-/
namespace SqlTemplate

namespace Number

/-- One or more ASCII digits. -/
structure IsDigits (cs : List Char) : Prop where
  nonempty : cs ≠ []
  digit : ∀ c ∈ cs, c.isDigit = true

def IsDecimal (cs : List Char) : Prop :=
  IsDigits cs ∨ ∃ whole part, IsDigits whole ∧ IsDigits part ∧ cs = whole ++ '.' :: part

/-- A text of a shape, with or without a sign before it. -/
def Signed (shape : List Char → Prop) (cs : List Char) : Prop :=
  shape cs ∨ ∃ body, shape body ∧ (cs = '+' :: body ∨ cs = '-' :: body)

/-- The integer that digits write, with or without a sign before them. -/
def written : List Char → Int
  | '-' :: digits => -(Nat.ofDigitChars 10 digits 0)
  | '+' :: digits => Nat.ofDigitChars 10 digits 0
  | digits => Nat.ofDigitChars 10 digits 0

theorem IsDigits.head {c : Char} {cs : List Char} (h : IsDigits (c :: cs)) : c.isDigit = true :=
  h.digit c (List.mem_cons_self ..)

theorem IsDecimal.head {c : Char} {cs : List Char} (h : IsDecimal (c :: cs)) :
    c.isDigit = true := by
  rcases h with h | ⟨whole, part, h, _, eq⟩
  · exact h.head
  · cases whole with
    | nil => exact absurd rfl h.nonempty
    | cons d whole =>
      obtain ⟨rfl, _⟩ := List.cons.inj eq
      exact h.head

theorem Signed.mem {cs : List Char} (h : Signed IsDigits cs) {c : Char} (hc : c ∈ cs) :
    c.isDigit = true ∨ c = '+' ∨ c = '-' := by
  rcases h with h | ⟨body, h, rfl | rfl⟩
  · exact .inl (h.digit c hc)
  · rcases List.mem_cons.mp hc with rfl | hc
    · exact .inr (.inl rfl)
    · exact .inl (h.digit c hc)
  · rcases List.mem_cons.mp hc with rfl | hc
    · exact .inr (.inr rfl)
    · exact .inl (h.digit c hc)

end Number

namespace ScalarType

open Number

/-- The shape that a type asks of a text. -/
def Shape : ScalarType → List Char → Prop
  | integer => Signed IsDigits
  | unsignedInteger => IsDigits
  | decimal => Signed IsDecimal
  | unsignedDecimal => IsDecimal
  | _ => fun _ => True

theorem isDigits_iff {cs : List Char} : isDigits cs = true ↔ IsDigits cs := by
  simp only [isDigits, Bool.and_eq_true, Bool.not_eq_true', List.isEmpty_eq_false_iff,
    List.all_eq_true]
  exact ⟨fun ⟨h, h'⟩ => ⟨h, h'⟩, fun ⟨h, h'⟩ => ⟨h, h'⟩⟩

theorem isDecimal_iff {cs : List Char} : isDecimal cs = true ↔ IsDecimal cs := by
  have split := List.takeWhile_append_dropWhile (p := Char.isDigit) (l := cs)
  have front := List.all_eq_true.mp (List.all_takeWhile (p := Char.isDigit) (l := cs))
  simp only [isDecimal, Bool.and_eq_true, Bool.not_eq_true', List.isEmpty_eq_false_iff]
  constructor
  · rintro ⟨nonempty, rest⟩
    cases left : cs.dropWhile Char.isDigit with
    | nil =>
      rw [left, List.append_nil] at split
      exact .inl (split ▸ ⟨nonempty, front⟩)
    | cons c part =>
      rw [left] at rest split
      simp only [Bool.and_eq_true, beq_iff_eq, isDigits_iff] at rest
      obtain ⟨rfl, part_digits⟩ := rest
      exact .inr ⟨_, part, ⟨nonempty, front⟩, part_digits, split.symm⟩
  · rintro (digits | ⟨whole, part, whole_digits, part_digits, rfl⟩)
    · rw [List.takeWhile_eq_self_iff.mpr digits.digit, List.dropWhile_eq_nil_iff.mpr digits.digit]
      exact ⟨digits.nonempty, rfl⟩
    · rw [List.takeWhile_append_of_pos whole_digits.digit,
        List.dropWhile_append_of_pos whole_digits.digit]
      simp [whole_digits.nonempty, isDigits_iff.mpr part_digits]

/-- Digits go on with a digit, so no sign is taken from them. -/
theorem dropSign_iff {shape : List Char → Prop}
    (digit : ∀ {c cs}, shape (c :: cs) → c.isDigit = true) {cs : List Char} :
    shape (dropSign cs) ↔ Signed shape cs := by
  have plus : ∀ {body}, ¬ shape ('+' :: body) := fun h => absurd (digit h) (by decide)
  have minus : ∀ {body}, ¬ shape ('-' :: body) := fun h => absurd (digit h) (by decide)
  unfold dropSign Signed
  split
  · simp [minus]
  · simp [plus]
  · next no_minus no_plus =>
    constructor
    · exact .inl
    · rintro (h | ⟨body, _, rfl | rfl⟩)
      · exact h
      · exact absurd rfl (no_plus body)
      · exact absurd rfl (no_minus body)

/-- A type accepts exactly the texts of its shape. -/
theorem acceptsText_iff {t : ScalarType} {cs : List Char} :
    t.acceptsText cs = true ↔ t.Shape cs := by
  cases t with
  | integer =>
    rw [acceptsText, isDigits_iff, dropSign_iff IsDigits.head, Shape]
  | unsignedInteger => exact isDigits_iff
  | decimal =>
    rw [acceptsText, isDecimal_iff, dropSign_iff IsDecimal.head, Shape]
  | unsignedDecimal => exact isDecimal_iff
  | string | escapedString | binary => simp [acceptsText, Shape]

section
variable {t : ScalarType} {v : Value} {inList : Bool}

/-- A value is what a type asks for: it has the shape, and if that is looked at, a text. -/
structure Fits (t : ScalarType) (v : Value) : Prop where
  shape : t.Shape v.plain.toList
  written : t.hasShape = true → v.overlong = false

theorem shape_free (free : t.hasShape = false) (cs : List Char) : t.Shape cs := by
  cases t with
  | string | escapedString | binary => trivial
  | _ => contradiction

theorem accepts_free (free : t.hasShape = false) (v : Value) : t.accepts v = .ok true := by
  rw [accepts, free]
  rfl

theorem accepts_short (shaped : t.hasShape = true) (short : v.overlong = false) :
    t.accepts v = .ok (t.acceptsText v.plain.toList) := by
  simp [accepts, Value.toText, shaped, short, Except.map]

theorem accepts_overlong (shaped : t.hasShape = true) (long : v.overlong = true) :
    t.accepts v = .error .unwritten := by
  simp [accepts, Value.toText, shaped, long, Except.map]

/-- What a type finds wrong with a value: it cannot be written out to be looked at, or its text does
not have the shape. -/
theorem check_eq_some_iff {e : ArgumentError} :
    t.check v inList = some e ↔
      t.hasShape = true ∧ v.overlong = true ∧ e = .noText .unwritten ∨
      ¬ t.Shape v.plain.toList ∧ v.overlong = false ∧ e = .invalidData t.description inList v := by
  unfold check
  cases shaped : t.hasShape with
  | false => simp [accepts_free shaped, shape_free shaped]
  | true =>
    cases long : v.overlong with
    | true => simp [accepts_overlong shaped long, eq_comm]
    | false =>
      rw [accepts_short shaped long, ← acceptsText_iff]
      cases t.acceptsText v.plain.toList <;> simp [eq_comm]

theorem check_eq_none_iff : t.check v inList = none ↔ t.Fits v := by
  unfold check
  cases shaped : t.hasShape with
  | false =>
    rw [accepts_free shaped]
    exact iff_of_true rfl ⟨shape_free shaped _, by simp [shaped]⟩
  | true =>
    cases long : v.overlong with
    | true =>
      rw [accepts_overlong shaped long]
      refine iff_of_false (by simp) ?_
      intro fits
      rw [fits.written shaped] at long
      contradiction
    | false =>
      rw [accepts_short shaped long]
      have text : t.acceptsText v.plain.toList = true ↔ t.Fits v := by
        rw [acceptsText_iff]
        exact ⟨fun shape => ⟨shape, fun _ => long⟩, Fits.shape⟩
      rw [← text]
      cases t.acceptsText v.plain.toList <;> simp

theorem check_foreign_iff {e : ArgumentError} :
    t.check v inList = some e ∧ e.errorClass ≠ .invalidArgument ↔
      t.hasShape = true ∧ v.overlong = true ∧ e = .noText .unwritten := by
  rw [check_eq_some_iff]
  constructor
  · rintro ⟨⟨shaped, long, rfl⟩ | ⟨_, _, rfl⟩, foreign⟩
    · exact ⟨shaped, long, rfl⟩
    · exact absurd rfl foreign
  · rintro ⟨shaped, long, rfl⟩
    exact ⟨.inl ⟨shaped, long, rfl⟩, by decide⟩

end

end ScalarType

namespace Number

/-! ## Reading digits -/

theorem digitValue?_of_isDigit {c : Char} (h : c.isDigit = true) :
    Text.digitValue? c = some (c.toNat - '0'.toNat) := by
  simp [Text.digitValue?, h]

theorem groupedDigits?_digits {cs : List Char} (h : IsDigits cs) :
    groupedDigits? cs = some (cs.map fun c => c.toNat - '0'.toNat) := by
  obtain ⟨nonempty, digit⟩ := h
  have not_underscore {c : Char} (hc : c.isDigit = true) : c ≠ '_' := by
    rintro rfl
    exact absurd hc (by decide)
  induction cs using groupedDigits?.induct with
  | case1 => exact absurd rfl nonempty
  | case2 cs => exact absurd rfl (not_underscore (digit '_' (by simp)))
  | case3 c hc => simp [groupedDigits?, digitValue?_of_isDigit (digit c (by simp))]
  | case4 c cs hc ih => exact absurd rfl (not_underscore (digit '_' (by simp)))
  | case5 c cs hc hcs hsep ih =>
    have first := digitValue?_of_isDigit (digit c (by simp))
    have rest := ih hcs fun x hx => digit x (List.mem_cons_of_mem _ hx)
    rw [groupedDigits?]
    · simp [first, rest]
    all_goals assumption

theorem ofDigits_digits (cs : List Char) :
    ofDigits (cs.map fun c => c.toNat - '0'.toNat) = Nat.ofDigitChars 10 cs 0 := by
  rw [ofDigits, Nat.ofDigitChars_eq_foldl, List.foldl_map]

theorem isNumeralChar_of_isDigit {c : Char} (h : c.isDigit = true) : isNumeralChar c = true := by
  simp [isNumeralChar, digitValue?_of_isDigit h]

theorem isNumeralBlank_of_isDigit {c : Char} (h : c.isDigit = true) : isNumeralBlank c = false := by
  have bounds : 48 ≤ c.toNat ∧ c.toNat ≤ 57 := by
    simpa [Char.isDigit, UInt32.le_iff_toNat_le] using h
  simp only [isNumeralBlank, Text.isBlank, Bool.and_eq_false_iff, Bool.or_eq_false_iff,
    decide_eq_false_iff_not, beq_eq_false_iff_ne, ne_eq]
  omega

theorem written_digits {cs : List Char} (h : IsDigits cs) :
    written cs = Nat.ofDigitChars 10 cs 0 := by
  unfold written
  split
  · exact absurd h.head (by decide)
  · exact absurd h.head (by decide)
  · rfl

theorem written_nonneg {cs : List Char} (h : IsDigits cs) : 0 ≤ written cs := by
  rw [written_digits h]
  exact Int.natCast_nonneg _

theorem takeSign_digits {cs : List Char} (h : IsDigits cs) : takeSign cs = (false, cs) := by
  unfold takeSign
  split
  · exact absurd h.head (by decide)
  · exact absurd h.head (by decide)
  · rfl

/-- The digits of a numeral are what follows its sign. -/
theorem length_takeSign {cs : List Char} (h : Signed IsDigits cs) :
    (takeSign cs).2.length = cs.countP Char.isDigit := by
  have all {body : List Char} (digits : IsDigits body) :
      body.length = body.countP Char.isDigit :=
    (List.countP_eq_length.mpr digits.digit).symm
  rcases h with h | ⟨body, h, rfl | rfl⟩
  · rw [takeSign_digits h]
    exact all h
  · rw [List.countP_cons_of_neg (by decide)]
    exact all h
  · rw [List.countP_cons_of_neg (by decide)]
    exact all h

theorem readInteger_body (negative : Bool) {cs body : List Char} (h : IsDigits body)
    (sign : takeSign (cs.dropWhile isNumeralBlank) = (negative, body)) :
    readInteger cs =
      if digitLimit < body.length then .error (.tooLong body.length)
      else .ok (if negative then -(Nat.ofDigitChars 10 body 0 : Int)
        else Nat.ofDigitChars 10 body 0) := by
  have digits := fun c hc => isNumeralChar_of_isDigit (h.digit c hc)
  rw [readInteger, sign]
  simp only
  rw [List.takeWhile_eq_self_iff.mpr digits, List.dropWhile_eq_nil_iff.mpr digits,
    groupedDigits?_digits h]
  simp only [List.length_map, ofDigits_digits, List.all_nil, if_true]

/-- Digits with or without a sign are read as the integer they write, unless they are too many. -/
theorem readInteger_signed {cs : List Char} (h : Signed IsDigits cs) :
    readInteger cs =
      if digitLimit < (takeSign cs).2.length then .error (.tooLong (takeSign cs).2.length)
      else .ok (written cs) := by
  rcases h with h | ⟨body, h, rfl | rfl⟩
  · rw [takeSign_digits h, written_digits h]
    refine (readInteger_body false h ?_).trans (by simp)
    obtain ⟨c, rest, rfl⟩ := List.exists_cons_of_ne_nil h.nonempty
    rw [List.dropWhile_cons_of_neg (by simp [isNumeralBlank_of_isDigit h.head])]
    exact takeSign_digits h
  · refine (readInteger_body false h ?_).trans (by simp [takeSign, written])
    rw [List.dropWhile_cons_of_neg (by decide)]
    rfl
  · refine (readInteger_body true h ?_).trans (by simp [takeSign, written])
    rw [List.dropWhile_cons_of_neg (by decide)]
    rfl

end Number

end SqlTemplate
