import SqlTemplate.Proofs.Template.Respelled
import SqlTemplate.Proofs.ValueType.Numeric

/-!
The errors that reading a template can end with. They are errors of this library, with two exceptions,
both of numbers with more digits than are read or written: the first placeholder that cannot be bound
gives its location in so many digits, or the argument that it looks at is or holds such an integer.
-/
namespace SqlTemplate

namespace Template

/-- The first placeholder that cannot be bound gives its location, like all before it, and has `n`
digits for it, which are more than are read. -/
def Overlong (arguments : List Value) (n : Nat) (ps : List Placeholder) : Prop :=
  ∃ before p after l, ps = before ++ p :: after ∧ Bindable arguments before ∧
    (∀ q ∈ before, q.location ≠ none) ∧ p.location = some l ∧ (∀ c ∈ l, c.isDigit = true) ∧
    l.length = n ∧ Number.digitLimit < n

/-- The first placeholder that cannot be bound takes an argument which has no text, and its type looks
at that text. -/
def LacksText (arguments : List Value) (ps : List Placeholder) : Prop :=
  ∃ before p after t v, ps = before ++ p :: after ∧ Bindable arguments before ∧
    (∀ q ∈ before, q.location.isSome = p.location.isSome) ∧
    (∀ l, p.location = some l → (∀ c ∈ l, c.isDigit = true) ∧ l.length ≤ Number.digitLimit) ∧
    p.type? = some t ∧ arguments[p.index before.length]? = some v ∧ t.LacksText v

section
variable {arguments : List Value} {located : Bool} {k : Nat} {e : Failure}

/-- A list of placeholders is refused as the first one in it that is. -/
theorem refusal?_eq_some_iff {ps : List Placeholder} :
    refusal? arguments located k ps = some e ↔
      ∃ before p after, ps = before ++ p :: after ∧ refusal? arguments located k before = none ∧
        p.refusal? arguments located (k + before.length) = some e := by
  induction ps generalizing k with
  | nil => simp [refusal?]
  | cons q ps ih =>
    rw [refusal?]
    constructor
    · intro h
      cases first : q.refusal? arguments located k with
      | some e' =>
        rw [first, Option.some_or] at h
        exact ⟨[], q, ps, rfl, rfl, first.trans h⟩
      | none =>
        rw [first, Option.none_or, ih] at h
        obtain ⟨before, p, after, rfl, fine, refused⟩ := h
        refine ⟨q :: before, p, after, rfl, ?_, ?_⟩
        · rw [refusal?, first, fine]
          rfl
        · rw [List.length_cons, ← refused, Nat.add_assoc, Nat.add_comm 1]
    · rintro ⟨before, p, after, split, fine, refused⟩
      cases before with
      | nil =>
        obtain ⟨rfl, rfl⟩ := List.cons.inj split
        rw [show q.refusal? arguments located k = some e from refused]
        rfl
      | cons q' before =>
        obtain ⟨rfl, rfl⟩ := List.cons.inj split
        rw [refusal?, Option.or_eq_none_iff] at fine
        have rest := ih.mpr ⟨before, p, after, rfl, fine.2, by
          rw [← refused, List.length_cons, Nat.add_assoc, Nat.add_comm 1]⟩
        rw [fine.1, rest]
        rfl

end

end Template

/-- A failure that is not one of the two errors that templates are refused with. -/
def Failure.IsForeign (e : Failure) : Prop :=
  e.errorClass ≠ .invalidArgument ∧ e.errorClass ≠ .outOfBounds

namespace Placeholder

section
variable {arguments : List Value} {located : Bool} {k : Nat} {e : Failure} {p : Placeholder}

theorem unbound?_foreign_iff :
    p.unbound? arguments k = some e ∧ e.IsForeign ↔
      ∃ t v, p.type? = some t ∧ arguments[p.index k]? = some v ∧ t.LacksText v ∧
        e = .argument (.noText .unwritten) := by
  unfold unbound?
  constructor
  · rintro ⟨refused, notArgument, notIndex⟩
    split at refused
    · cases refused
      exact absurd rfl notIndex
    · cases refused
      exact absurd rfl notArgument
    · next v t argument type =>
      obtain ⟨a, checked, rfl⟩ := Option.map_eq_some_iff.mp refused
      obtain ⟨lacks, rfl⟩ := ValueType.check_foreign_iff.mp ⟨checked, notArgument⟩
      exact ⟨t, v, type, argument, lacks, rfl⟩
  · rintro ⟨t, v, type, argument, lacks, rfl⟩
    obtain ⟨refused, foreign⟩ := ValueType.check_foreign_iff.mpr ⟨lacks, rfl⟩
    rw [argument, type]
    refine ⟨congrArg (Option.map Failure.argument) refused, foreign, ?_⟩
    intro same
    cases same

theorem unreadable?_foreign {l : List Char} (h : unreadable? l = some e) (foreign : e.IsForeign) :
    (∀ c ∈ l, c.isDigit = true) ∧ Number.digitLimit < l.length ∧
      e = .conversion (.tooManyDigits l.length) := by
  unfold unreadable? at h
  split at h
  · cases h
    exact absurd rfl foreign.1
  · next digits =>
    split at h
    · next long =>
      cases h
      exact ⟨List.all_eq_true.mp (Bool.not_eq_false _ ▸ digits), long, rfl⟩
    · contradiction

theorem unnumbered?_foreign_iff :
    p.unnumbered? located = some e ∧ e.IsForeign ↔
      located = true ∧ ∃ l, p.location = some l ∧ (∀ c ∈ l, c.isDigit = true) ∧
        Number.digitLimit < l.length ∧ e = .conversion (.tooManyDigits l.length) := by
  unfold unnumbered?
  constructor
  · rintro ⟨refused, foreign⟩
    split at refused
    · cases refused
      exact absurd rfl foreign.1
    · next agrees =>
      obtain ⟨l, location, long⟩ := Option.bind_eq_some_iff.mp refused
      rw [location, ne_eq, not_not] at agrees
      exact ⟨agrees.symm, l, location, unreadable?_foreign long foreign⟩
  · rintro ⟨rfl, l, location, digits, long, rfl⟩
    constructor
    · simp [unreadable?, location, List.all_eq_true.mpr digits, long]
    · constructor <;> (intro same; cases same)

/-- A placeholder is refused with an error of this library, unless its location is overlong, or its type
looks at an argument that has no text. -/
theorem refusal?_foreign_iff :
    p.refusal? arguments located k = some e ∧ e.IsForeign ↔
      (located = true ∧ ∃ l, p.location = some l ∧ (∀ c ∈ l, c.isDigit = true) ∧
        Number.digitLimit < l.length ∧ e = .conversion (.tooManyDigits l.length)) ∨
      (p.unnumbered? located = none ∧
        ∃ t v, p.type? = some t ∧ arguments[p.index k]? = some v ∧ t.LacksText v ∧
          e = .argument (.noText .unwritten)) := by
  rw [← unnumbered?_foreign_iff, ← unbound?_foreign_iff, refusal?]
  cases p.unnumbered? located <;> simp

end

end Placeholder

namespace Template

section
variable {arguments : List Value} {e : Failure} {ps : List Placeholder}

/-- Placeholders that all give their location, or all do not, are refused as any of them are. -/
theorem refusal?_agreeing_iff {located : Bool} :
    refusal? arguments located 0 ps = none ↔
      Bindable arguments ps ∧ ∀ p ∈ ps, p.location.isSome = located := by
  constructor
  · intro fine
    have agrees : ∀ p ∈ ps, p.location.isSome = located := by
      intro p mem
      obtain ⟨i, found⟩ := List.getElem?_of_mem mem
      have here := refusal?_eq_none_iff.mp fine i p found
      rw [Placeholder.refusal?, Option.or_eq_none_iff, unnumbered?_eq_none_iff] at here
      exact here.1.1
    refine ⟨bindable_iff.mpr ?_, agrees⟩
    rw [refusal?_firstLocated agrees]
    exact fine
  · rintro ⟨bindable, agrees⟩
    rw [bindable_iff, refusal?_firstLocated agrees] at bindable
    exact bindable

theorem firstLocated_append {before after : List Placeholder} {p : Placeholder} {located : Bool}
    (agrees : ∀ q ∈ before, q.location.isSome = located) (own : p.location.isSome = located) :
    firstLocated (before ++ p :: after) = located := by
  cases before with
  | nil => exact own
  | cons q before => exact agrees q (List.mem_cons_self ..)

/-- Placeholders are refused with an error of this library, unless the first one refused has an overlong
location, or looks at an argument that has no text. -/
theorem refusal?_foreign_iff :
    refusal? arguments (firstLocated ps) 0 ps = some e ∧ e.IsForeign ↔
      (∃ n, Overlong arguments n ps ∧ e = .conversion (.tooManyDigits n)) ∨
      LacksText arguments ps ∧ e = .argument (.noText .unwritten) := by
  constructor
  · rintro ⟨refused, foreign⟩
    obtain ⟨before, p, after, rfl, fine, refused⟩ := refusal?_eq_some_iff.mp refused
    rw [Nat.zero_add] at refused
    rcases Placeholder.refusal?_foreign_iff.mp ⟨refused, foreign⟩ with
      ⟨located, l, location, digits, long, rfl⟩ | ⟨numbered, t, v, type, argument, lacks, rfl⟩
    · rw [located] at fine
      obtain ⟨bindable, agrees⟩ := refusal?_agreeing_iff.mp fine
      have all_located : ∀ q ∈ before, q.location ≠ none :=
        fun q mem => Option.isSome_iff_ne_none.mp (agrees q mem)
      exact .inl ⟨l.length, ⟨before, p, after, l, rfl, bindable, all_located, location, digits, rfl,
        long⟩, rfl⟩
    · obtain ⟨bindable, agrees⟩ := refusal?_agreeing_iff.mp fine
      obtain ⟨own, numeric⟩ := unnumbered?_eq_none_iff.mp numbered
      rw [← own] at agrees
      exact .inr ⟨⟨before, p, after, t, v, rfl, bindable, agrees, numeric, type, argument, lacks⟩, rfl⟩
  · rintro (⟨n, ⟨before, p, after, l, rfl, bindable, all_located, location, digits, rfl, long⟩, rfl⟩ |
      ⟨⟨before, p, after, t, v, rfl, bindable, agrees, numeric, type, argument, lacks⟩, rfl⟩)
    · have agrees : ∀ q ∈ before, q.location.isSome = true :=
        fun q mem => Option.isSome_iff_ne_none.mpr (all_located q mem)
      have own : p.location.isSome = true := by rw [location, Option.isSome_some]
      rw [firstLocated_append agrees own]
      have ends : p.refusal? arguments true before.length =
            some (.conversion (.tooManyDigits l.length)) ∧
          (Failure.conversion (.tooManyDigits l.length)).IsForeign :=
        Placeholder.refusal?_foreign_iff.mpr (.inl ⟨rfl, l, location, digits, long, rfl⟩)
      refine ⟨refusal?_eq_some_iff.mpr ⟨before, p, after, rfl, ?_, ?_⟩, ends.2⟩
      · exact refusal?_agreeing_iff.mpr ⟨bindable, agrees⟩
      · rw [Nat.zero_add]
        exact ends.1
    · rw [firstLocated_append agrees rfl]
      have numbered := unnumbered?_eq_none_iff.mpr ⟨rfl, numeric⟩
      have ends := Placeholder.refusal?_foreign_iff.mpr
        (.inr ⟨numbered, t, v, type, argument, lacks, rfl⟩)
      refine ⟨refusal?_eq_some_iff.mpr ⟨before, p, after, rfl, ?_, ?_⟩, ends.2⟩
      · exact refusal?_agreeing_iff.mpr ⟨bindable, agrees⟩
      · rw [Nat.zero_add]
        exact ends.1

end

end Template

namespace Parser

open Template

/-- A template is refused as its placeholders are, whatever the parser read before. -/
theorem parse_refused_iff (d : Dialect) (marker : String) (calls : List (Value × List Value))
    (s : String) (arguments : List Value) (e : Failure) :
    (parse (.text s) arguments).outcome (afterAll { dialect := d, marker } calls) = .error e ↔
      refusal? arguments (firstLocated (placeholders (pieces d s.toList))) 0
        (placeholders (pieces d s.toList)) = some e := by
  obtain ⟨dialect, _⟩ := afterAll_same { dialect := d, marker } calls
  simp only [parse_pieces, dialect, placeholders_clean]
  cases refusal? arguments (firstLocated (placeholders (pieces d s.toList))) 0
    (placeholders (pieces d s.toList)) <;> simp

/-- The errors that reading a template can end with, whatever the template and its arguments are and
whatever the parser read before. One that is neither of the two that templates are refused with is the
failure to read or to write a number: the first placeholder that cannot be bound has too many digits for
its location, or its type looks at an argument that is or holds an integer of too many digits. Where a
text has such a placeholder, that is how reading it ends. -/
theorem foreign_error_iff (d : Dialect) (marker : String) (calls : List (Value × List Value))
    (template : Value) (arguments : List Value) (e : Failure) :
    ((parse template arguments).outcome (afterAll { dialect := d, marker } calls) = .error e ∧
        e.errorClass ≠ .invalidArgument ∧ e.errorClass ≠ .outOfBounds) ↔
      ∃ s ps, template = .text s ∧ Occurrences d s.toList ps ∧
        ((∃ n, Overlong arguments n (ps.map (·.2)) ∧ e = .conversion (.tooManyDigits n)) ∨
          LacksText arguments (ps.map (·.2)) ∧ e = .argument (.noText .unwritten)) := by
  constructor
  · rintro ⟨failed, foreign⟩
    cases template with
    | text s =>
      have refused := (parse_refused_iff d marker calls s arguments e).mp failed
      refine ⟨s, _, rfl, occurrences_pieces d s.toList, ?_⟩
      rw [map_snd_holes]
      exact refusal?_foreign_iff.mp ⟨refused, foreign⟩
    | _ =>
      cases failed
      exact absurd rfl foreign.1
  · rintro ⟨s, ps, rfl, occurrences, stuck⟩
    rw [occurrences.unique (occurrences_pieces d s.toList), map_snd_holes] at stuck
    rw [parse_refused_iff]
    exact refusal?_foreign_iff.mpr stuck

/-- A placeholder with an overlong location is all it takes. -/
theorem parse_written (marker : String) (arguments : List Value) (l code : List Char)
    (digits : ∀ c ∈ l, c.isDigit = true) (long : Number.digitLimit < l.length)
    (word : Text.IsWordRun code) :
    (parse (.text (String.ofList (Placeholder.written .basic ⟨some l, code⟩))) arguments).outcome
        { dialect := .basic, marker } = .error (.conversion (.tooManyDigits l.length)) := by
  have run : Text.IsWordRun l := by
    constructor
    · rintro rfl
      exact absurd long (Nat.not_lt_zero _)
    · exact fun c mem => Text.isWord_of_isDigit (digits c mem)
  have starts : StartsWith .basic ⟨some l, code⟩ [] (Placeholder.written .basic ⟨some l, code⟩) := by
    refine ⟨⟨word, ?_⟩, (List.append_nil _).symm, nofun⟩
    rintro w ⟨⟩
    exact ⟨rfl, run⟩
  have refused := parse_refused_iff .basic marker []
    (String.ofList (Placeholder.written .basic ⟨some l, code⟩)) arguments
    (.conversion (.tooManyDigits l.length))
  rw [String.toList_ofList, pieces_of_startsWith starts] at refused
  refine refused.mpr (refusal?_foreign_iff.mpr (.inl ⟨l.length, ?_, rfl⟩)).1
  refine ⟨[], ⟨some l, code⟩, [], l, by simp [placeholders, pieces], ?_, by simp, rfl, digits, rfl,
    long⟩
  exact bindable_iff.mpr rfl

theorem parse_zeros :
    let zeros := List.replicate 4301 '0'
    (parse (.text (String.ofList ('{' :: (zeros ++ [':', 's', '}'])))) [.text "a"]).outcome
        { dialect := .basic } = .error (.conversion (.tooManyDigits 4301)) ∧
      (Failure.conversion (.tooManyDigits 4301)).errorClass = .value := by
  intro zeros
  have long : zeros.length = 4301 := List.length_replicate
  have digits : ∀ c ∈ zeros, c.isDigit = true := by
    intro c mem
    rw [List.eq_of_mem_replicate mem]
    decide
  have read := parse_written "?" [.text "a"] zeros ['s'] digits (by rw [long]; decide)
    ⟨by simp, by simp; decide⟩
  rw [long] at read
  exact ⟨read, rfl⟩

end Parser

end SqlTemplate
