import SqlTemplate.Proofs.Number.Written

/-!
What the types accept, and how the numeric ones are related. A value is accepted for its text alone, so
the laws of the numeric types are laws of the shapes of texts: digits are a decimal without a point,
and a sign in front changes nothing about that. A list is accepted for its elements, one by one, so the
same laws hold of the types of lists.
-/
namespace SqlTemplate

namespace Number

variable {shape shape' : List Char → Prop} {cs : List Char}

theorem Signed.imp (weaken : ∀ {body}, shape body → shape' body) (signed : Signed shape cs) :
    Signed shape' cs := by
  rcases signed with bare | ⟨body, bare, sign⟩
  · exact .inl (weaken bare)
  · exact .inr ⟨body, weaken bare, sign⟩

/-- A sign is no point. -/
theorem signed_and_no_point_iff :
    Signed shape cs ∧ '.' ∉ cs ↔ Signed (fun body => shape body ∧ '.' ∉ body) cs := by
  constructor
  · rintro ⟨bare | ⟨body, bare, rfl | rfl⟩, no_point⟩
    · exact .inl ⟨bare, no_point⟩
    · exact .inr ⟨body, ⟨bare, List.not_mem_of_not_mem_cons no_point⟩, .inl rfl⟩
    · exact .inr ⟨body, ⟨bare, List.not_mem_of_not_mem_cons no_point⟩, .inr rfl⟩
  · rintro (bare | ⟨body, ⟨bare, no_point⟩, rfl | rfl⟩)
    · exact ⟨.inl bare.1, bare.2⟩
    · exact ⟨.inr ⟨body, bare, .inl rfl⟩, by simp [no_point]⟩
    · exact ⟨.inr ⟨body, bare, .inr rfl⟩, by simp [no_point]⟩

theorem IsDigits.no_point (digits : IsDigits cs) : '.' ∉ cs := by
  intro point
  exact absurd (digits.digit '.' point) (by decide)

theorem isDigits_iff_isDecimal : IsDigits cs ↔ IsDecimal cs ∧ '.' ∉ cs := by
  constructor
  · intro digits
    exact ⟨.inl digits, digits.no_point⟩
  · rintro ⟨digits | ⟨whole, part, _, _, rfl⟩, no_point⟩
    · exact digits
    · exact absurd (List.mem_append_right whole (List.mem_cons_self ..)) no_point

theorem signed_isDigits_iff : Signed IsDigits cs ↔ Signed IsDecimal cs ∧ '.' ∉ cs := by
  rw [signed_and_no_point_iff]
  constructor
  · exact Signed.imp isDigits_iff_isDecimal.mp
  · exact Signed.imp isDigits_iff_isDecimal.mpr

theorem isDigits_iff_signed : IsDigits cs ↔ Signed IsDigits cs ∧ IsDecimal cs := by
  constructor
  · intro digits
    exact ⟨.inl digits, .inl digits⟩
  · rintro ⟨signed, decimal⟩
    exact isDigits_iff_isDecimal.mpr ⟨decimal, (signed_isDigits_iff.mp signed).2⟩

end Number

open Number

theorem Value.split_eq_error_iff {v : Value} {e : ConversionError} :
    v.split = .error e ↔
      (∀ vs, v ≠ .list vs) ∧ (∀ vs, v ≠ .tuple vs) ∧ v.overlong = true ∧ e = .unwritten := by
  have unwritten : ∀ (f : String → List Value),
      v.toText.map f = .error e ↔ v.overlong = true ∧ e = .unwritten := by
    intro f
    unfold toText
    cases v.overlong <;> simp [Except.map, eq_comm]
  cases v with
  | list vs => simp [split]
  | tuple vs => simp [split]
  | _ => simp [split, unwritten]

namespace ValueType

def Accepts (t : ValueType) (v : Value) : Prop :=
  t.check v = none

theorem accepts_scalar_iff {t : ScalarType} {v : Value} : (scalar t).Accepts v ↔ t.Fits v :=
  ScalarType.check_eq_none_iff

variable {t : ListType} {v : Value}

/-- A list is refused if it cannot be split or has no element, or else for the first of its elements
that is refused. -/
theorem check_list_eq_some_iff {e : ArgumentError} :
    (list t).check v = some e ↔
      (∃ k, v.split = .error k ∧ e = .noText k) ∨
      v.split = .ok [] ∧ e = .noValues t.description ∨
      ∃ before w after, v.elements = before ++ w :: after ∧
        (∀ u ∈ before, (scalar t.element).Accepts u) ∧ (scalar t.element).check w true = some e := by
  unfold check
  cases split : v.split with
  | error k => simp [Value.elements_of_error split, eq_comm]
  | ok vs =>
    rw [Value.elements_of_ok split]
    cases vs with
    | nil => simp [eq_comm]
    | cons w ws =>
      simp only [List.findSome?_eq_some_iff, reduceCtorEq, Except.ok.injEq, false_and, exists_false,
        false_or]
      constructor
      · rintro ⟨before, u, after, split, refused, accepted⟩
        refine ⟨before, u, after, split, ?_, refused⟩
        intro x mem
        exact accepts_scalar_iff.mpr (ScalarType.check_eq_none_iff.mp (accepted x mem))
      · rintro ⟨before, u, after, split, accepted, refused⟩
        refine ⟨before, u, after, split, refused, ?_⟩
        intro x mem
        exact ScalarType.check_eq_none_iff.mpr (accepts_scalar_iff.mp (accepted x mem))

theorem accepts_list_iff :
    (list t).Accepts v ↔ v.elements ≠ [] ∧ ∀ w ∈ v.elements, (scalar t.element).Accepts w := by
  unfold Accepts check
  cases split : v.split with
  | error k => simp [Value.elements_of_error split]
  | ok vs =>
    rw [Value.elements_of_ok split]
    cases vs with
    | nil => simp
    | cons w ws =>
      simp only [List.findSome?_eq_none_iff, ne_eq, reduceCtorEq, not_false_eq_true, true_and,
        ScalarType.check_eq_none_iff]

/-- The type looks at the text of a value or of an element, and there is none: it is or holds an integer
too long to be written out. -/
def LacksText : ValueType → Value → Prop
  | scalar t, v => t.hasShape = true ∧ v.overlong = true
  | list t, v =>
    (∀ vs, v ≠ .list vs) ∧ (∀ vs, v ≠ .tuple vs) ∧ v.overlong = true ∨
    ∃ before w after, v.elements = before ++ w :: after ∧
      (∀ u ∈ before, (scalar t.element).Accepts u) ∧ t.element.hasShape = true ∧ w.overlong = true

/-- What a type finds wrong is a bad argument, unless it has no text to look at. -/
theorem check_foreign_iff {t : ValueType} {v : Value} {e : ArgumentError} :
    t.check v = some e ∧ e.errorClass ≠ .invalidArgument ↔
      t.LacksText v ∧ e = .noText .unwritten := by
  cases t with
  | scalar t => exact ScalarType.check_foreign_iff.trans and_assoc.symm
  | list t =>
    rw [check_list_eq_some_iff, LacksText]
    constructor
    · rintro ⟨⟨k, unsplit, rfl⟩ | ⟨_, rfl⟩ | ⟨before, w, after, split, accepted, refused⟩, foreign⟩
      · obtain ⟨noList, noTuple, long, rfl⟩ := Value.split_eq_error_iff.mp unsplit
        exact ⟨.inl ⟨noList, noTuple, long⟩, rfl⟩
      · exact absurd rfl foreign
      · obtain ⟨shaped, long, rfl⟩ := ScalarType.check_foreign_iff.mp ⟨refused, foreign⟩
        exact ⟨.inr ⟨before, w, after, split, accepted, shaped, long⟩, rfl⟩
    · rintro ⟨⟨noList, noTuple, long⟩ | ⟨before, w, after, split, accepted, shaped, long⟩, rfl⟩
      · have unsplit : v.split = .error .unwritten :=
          Value.split_eq_error_iff.mpr ⟨noList, noTuple, long, rfl⟩
        exact ⟨.inl ⟨.unwritten, unsplit, rfl⟩, by decide⟩
      · obtain ⟨refused, foreign⟩ :=
          ScalarType.check_foreign_iff.mpr ⟨shaped, long, rfl⟩
        exact ⟨.inr (.inr ⟨before, w, after, split, accepted, refused⟩), foreign⟩

/-- The laws of four numeric types on a value. `whole` says that the value has no decimal point. -/
structure NumericLaws (integer unsignedInteger decimal unsignedDecimal : ValueType) (v : Value)
    (whole : Prop) : Prop where
  unsignedInteger_iff : unsignedInteger.Accepts v ↔ integer.Accepts v ∧ unsignedDecimal.Accepts v
  decimal_of_integer : integer.Accepts v → decimal.Accepts v
  decimal_of_unsignedDecimal : unsignedDecimal.Accepts v → decimal.Accepts v
  integer_iff : integer.Accepts v ↔ decimal.Accepts v ∧ whole

theorem numericLaws_scalar (v : Value) :
    NumericLaws (scalar .integer) (scalar .unsignedInteger) (scalar .decimal)
      (scalar .unsignedDecimal) v ('.' ∉ v.plain.toList) := by
  -- Each of the four looks at the text, so all of them need the value to have one.
  have fits (t : ScalarType) (shaped : t.hasShape = true) :
      (scalar t).Accepts v ↔ v.overlong = false ∧ t.Shape v.plain.toList := by
    rw [accepts_scalar_iff]
    exact ⟨fun h => ⟨h.written shaped, h.shape⟩, fun h => ⟨h.2, fun _ => h.1⟩⟩
  constructor <;> simp only [fits .integer rfl, fits .unsignedInteger rfl, fits .decimal rfl,
    fits .unsignedDecimal rfl, ScalarType.Shape]
  case unsignedInteger_iff =>
    rw [isDigits_iff_signed]
    exact and_and_left
  case decimal_of_integer => exact And.imp_right fun integer => (signed_isDigits_iff.mp integer).1
  case decimal_of_unsignedDecimal => exact And.imp_right .inl
  case integer_iff =>
    rw [signed_isDigits_iff]
    exact and_assoc.symm

/-- The laws of the types of elements are those of the types of lists. -/
theorem numericLaws_list (v : Value) :
    NumericLaws (list .integers) (list .unsignedIntegers) (list .decimals)
      (list .unsignedDecimals) v (∀ w ∈ v.elements, '.' ∉ w.plain.toList) := by
  constructor <;> simp only [accepts_list_iff, ListType.element]
  case unsignedInteger_iff =>
    constructor
    · rintro ⟨nonempty, each⟩
      have both := fun w mem => (numericLaws_scalar w).unsignedInteger_iff.mp (each w mem)
      exact ⟨⟨nonempty, fun w mem => (both w mem).1⟩, nonempty, fun w mem => (both w mem).2⟩
    · rintro ⟨⟨nonempty, integer⟩, _, unsigned⟩
      refine ⟨nonempty, fun w mem => ?_⟩
      exact (numericLaws_scalar w).unsignedInteger_iff.mpr ⟨integer w mem, unsigned w mem⟩
  case decimal_of_integer =>
    rintro ⟨nonempty, each⟩
    exact ⟨nonempty, fun w mem => (numericLaws_scalar w).decimal_of_integer (each w mem)⟩
  case decimal_of_unsignedDecimal =>
    rintro ⟨nonempty, each⟩
    exact ⟨nonempty, fun w mem => (numericLaws_scalar w).decimal_of_unsignedDecimal (each w mem)⟩
  case integer_iff =>
    constructor
    · rintro ⟨nonempty, each⟩
      have both := fun w mem => (numericLaws_scalar w).integer_iff.mp (each w mem)
      exact ⟨⟨nonempty, fun w mem => (both w mem).1⟩, fun w mem => (both w mem).2⟩
    · rintro ⟨⟨nonempty, decimal⟩, no_point⟩
      refine ⟨nonempty, fun w mem => ?_⟩
      exact (numericLaws_scalar w).integer_iff.mpr ⟨decimal w mem, no_point w mem⟩

/-- What the types accept. A single value is accepted for the shape of its text, which a value must
have if it is looked at; the unsigned integers are what is an integer and an unsigned decimal, both of
these are decimals, and the integers are the decimals without a point. A list, a tuple or a text with
commas is accepted if it has an element and each of them is accepted, so that the same laws hold of
lists; it is refused for having none, or as the first element is that is refused. What is no list and
has no text cannot be split. -/
theorem accepted_values (v : Value) :
    (∀ t, (scalar t).Accepts v ↔
      t.Shape v.plain.toList ∧ (t.hasShape = true → v.overlong = false)) ∧
    NumericLaws (scalar .integer) (scalar .unsignedInteger) (scalar .decimal)
      (scalar .unsignedDecimal) v ('.' ∉ v.plain.toList) ∧
    NumericLaws (list .integers) (list .unsignedIntegers) (list .decimals)
      (list .unsignedDecimals) v (∀ w ∈ v.elements, '.' ∉ w.plain.toList) ∧
    ∀ t : ListType,
      ((list t).Accepts v ↔ v.elements ≠ [] ∧ ∀ w ∈ v.elements, (scalar t.element).Accepts w) ∧
      ∀ e, (list t).check v = some e ↔
        (∃ k, v.split = .error k ∧ e = .noText k) ∨
        v.split = .ok [] ∧ e = .noValues t.description ∨
        ∃ before w after, v.elements = before ++ w :: after ∧
          (∀ u ∈ before, (scalar t.element).Accepts u) ∧
          (scalar t.element).check w true = some e := by
  refine ⟨fun t => ?_, numericLaws_scalar v, numericLaws_list v, fun t => ?_⟩
  · rw [accepts_scalar_iff]
    exact ⟨fun fits => ⟨fits.shape, fits.written⟩, fun h => ⟨h.1, h.2⟩⟩
  · exact ⟨accepts_list_iff, fun e => check_list_eq_some_iff⟩

end ValueType

end SqlTemplate
