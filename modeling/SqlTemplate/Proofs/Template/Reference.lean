import SqlTemplate.Proofs.Action
import SqlTemplate.Proofs.Number.Written
import SqlTemplate.Proofs.Template.Occurrence
import SqlTemplate.Proofs.Text.Trim
import SqlTemplate.Template.Binding

/-!
What reading a template means, said without a scanner and without a state: which placeholders can be
bound, why the first of the others is refused, and which text and parameters the placeholders of a
template become. `parse_reference` says that this is what a parser does, whatever it read before.
-/
namespace SqlTemplate

/-! ## What one placeholder stands for -/

namespace Placeholder

/-- The type that the lower-case form of the code names. -/
def type? (p : Placeholder) : Option ValueType :=
  ValueType.all.find? (·.code == Text.lower (String.ofList p.code))

def index (p : Placeholder) (k : Nat) : Nat :=
  match p.location with
  | none => k
  | some location => Nat.ofDigitChars 10 location 0

/-- Why a location is no number, or one that is not read. -/
def unreadable? (location : List Char) : Option Failure :=
  if location.all Char.isDigit = false then
    some (.argument (.invalidLocation (String.ofList location)))
  else if Number.digitLimit < location.length then
    some (.conversion (.tooManyDigits location.length))
  else none

/-- Why a placeholder takes no argument at all: it gives its location and the first one does not, or
the other way round, or the location cannot be read. -/
def unnumbered? (located : Bool) (p : Placeholder) : Option Failure :=
  if p.location.isSome ≠ located then some (.argument .mixedBinding)
  else p.location.bind unreadable?

/-- Why a placeholder cannot be bound to the argument that it takes. -/
def unbound? (arguments : List Value) (k : Nat) (p : Placeholder) : Option Failure :=
  match arguments[p.index k]?, p.type? with
  | none, _ => some (.outOfBounds (p.index k))
  | some _, none => some (.argument (.unknownType (String.ofList p.code)))
  | some v, some t => (t.check v).map .argument

/-- Why a placeholder is refused that has `k` others before it, if it is. -/
def refusal? (arguments : List Value) (located : Bool) (k : Nat) (p : Placeholder) :
    Option Failure :=
  (p.unnumbered? located).or (p.unbound? arguments k)

end Placeholder

structure Binding where
  type : ValueType
  value : Value

namespace Binding

/-- The values that are bound: of a list type one for each element. -/
def values (b : Binding) : List Value :=
  match b.type with
  | .scalar _ => [b.value]
  | .list _ => b.value.elements

def markers (b : Binding) : Nat :=
  match b.type with
  | .scalar _ => 1
  | .list _ => b.value.elements.length

/-- What takes the place of the placeholder: a marker, or a group of them in parentheses. -/
def text (marker : String) (b : Binding) : String :=
  match b.type with
  | .scalar _ => marker
  | .list _ => "(" ++ ",".intercalate (List.replicate b.markers marker) ++ ")"

def parameters (b : Binding) : List BoundParameter :=
  b.values.map (⟨·, .scalar b.type.element⟩)

end Binding

namespace Template

def refusal? (arguments : List Value) (located : Bool) (k : Nat) :
    List Placeholder → Option Failure
  | [] => none
  | p :: ps => (p.refusal? arguments located k).or (refusal? arguments located (k + 1) ps)

/-- What placeholders stand for that have `k` others before them. -/
def bindings (arguments : List Value) (k : Nat) : List Placeholder → List Binding
  | [] => []
  | p :: ps =>
    match p.type?, arguments[p.index k]? with
    | some t, some v => ⟨t, v⟩ :: bindings arguments (k + 1) ps
    | _, _ => bindings arguments (k + 1) ps

/-- The text from `start` on with each placeholder replaced, and with the text in between as the
driver must receive it. -/
def splice (d : Dialect) (marker : String) (t : List Char) (start : Nat) :
    List ((Nat × Placeholder) × Binding) → List Char
  | [] => (t.drop start).flatMap (literal marker)
  | ((i, p), b) :: rest =>
    ((t.take i).drop start).flatMap (literal marker) ++ (b.text marker).toList ++
      splice d marker t (i + (p.written d).length) rest

/-- A text without white space around it and without one semicolon at its end. -/
structure Cleaned (s t : List Char) : Prop where
  trimmed : ∃ before core after, s = before ++ core ++ after ∧
    (∀ c ∈ before, Text.isBlank c = true) ∧ (∀ c ∈ after, Text.isBlank c = true) ∧
    Text.IsTrimmed core ∧ (core = t ++ [';'] ∨ core = t ∧ t.getLast? ≠ some ';')

/-- When all placeholders of a template can be bound. -/
structure Bindable (arguments : List Value) (ps : List Placeholder) : Prop where
  /-- Either all placeholders give their location or none does. -/
  uniform : (∀ p ∈ ps, p.location = none) ∨ ∀ p ∈ ps, p.location ≠ none
  /-- A location is written in ASCII digits, of which no more are read than the limit allows. -/
  numeric : ∀ p ∈ ps, ∀ l, p.location = some l →
    (∀ c ∈ l, c.isDigit = true) ∧ l.length ≤ Number.digitLimit
  inBounds : ∀ (k : Nat) (p : Placeholder), ps[k]? = some p → p.index k < arguments.length
  typed : ∀ p ∈ ps, Text.lower (String.ofList p.code) ∈ ValueType.all.map ValueType.code
  accepted : ∀ (k : Nat) (p : Placeholder) (t : ValueType) (v : Value), ps[k]? = some p →
    p.type? = some t → arguments[p.index k]? = some v → t.check v = none

/-! ## Reading one placeholder -/

/-- What a parser knows after `k` placeholders, the first of which gave its location or did not. -/
def Numbering.after (located : Bool) (k : Nat) : Numbering :=
  if k = 0 then {} else { located, inferred := !located, next := if located then 0 else k }

theorem toInteger_digits {l : List Char} (h : Number.IsDigits l) :
    Value.toInteger (.text (String.ofList l)) =
      if Number.digitLimit < l.length then .error (.tooManyDigits l.length)
      else .ok (Nat.ofDigitChars 10 l 0) := by
  rw [Value.toInteger, String.toList_ofList, Number.readInteger_signed (.inl h),
    Number.takeSign_digits h, Number.written_digits h]
  split <;> rfl

theorem resolve_inferred {located : Bool} {k : Nat} (code : List Char)
    (k_pos : located = true → k ≠ 0) :
    resolve ⟨none, code⟩ (.after located k) =
      if located then
        .error (.argument .mixedBinding) { Numbering.after located k with inferred := true }
      else .ok k (.after located (k + 1)) := by
  cases located with
  | false => cases k <;> rfl
  | true =>
    rw [Numbering.after, if_neg (k_pos rfl)]
    rfl

theorem resolve_located {located : Bool} {k : Nat} (l code : List Char)
    (k_pos : located = false → k ≠ 0) :
    resolve ⟨some l, code⟩ (.after located k) =
      if located = false then
        .error (.argument .mixedBinding) { Numbering.after located k with located := true }
      else if l.all Char.isDigit = false then
        .error (.argument (.invalidLocation (String.ofList l))) (.after located (k + 1))
      else
        match Value.toInteger (.text (String.ofList l)) with
        | .ok n => .ok n.toNat (.after located (k + 1))
        | .error e => .error (.conversion e) (.after located (k + 1)) := by
  cases located with
  | false =>
    rw [Numbering.after, if_neg (k_pos rfl)]
    rfl
  | true =>
    have noted : { Numbering.after true k with located := true } =
        Numbering.after true (k + 1) := by cases k <;> rfl
    simp only [resolve, Action.run_bind, Action.run_modify, Action.run_get, noted]
    cases l.all Char.isDigit with
    | false => rfl
    | true => cases Value.toInteger (.text (String.ofList l)) <;> rfl

section
variable {located : Bool} {k : Nat} {p : Placeholder} {arguments : List Value} {e : Failure}

theorem resolve_refused (first : k = 0 → p.location.isSome = located)
    (written : ∀ l, p.location = some l → l ≠ []) (h : p.unnumbered? located = some e) :
    (resolve p).outcome (.after located k) = .error e := by
  obtain ⟨loc, code⟩ := p
  cases loc with
  | none =>
    rw [Action.outcome, resolve_inferred code fun here zero => by simp [here] at first; omega]
    cases located with
    | false => simp [Placeholder.unnumbered?] at h
    | true =>
      simp only [Placeholder.unnumbered?, Option.isSome_none] at h
      exact congrArg Except.error (Option.some.inj h)
  | some l =>
    rw [Action.outcome, resolve_located l code fun here zero => by simp [here] at first; omega]
    cases located with
    | false =>
      simp only [Placeholder.unnumbered?, Option.isSome_some] at h
      exact congrArg Except.error (Option.some.inj h)
    | true =>
      simp only [Placeholder.unnumbered?, Option.isSome_some, ne_eq, not_true, if_false,
        Option.bind_some, Placeholder.unreadable?] at h
      cases digits : l.all Char.isDigit with
      | false =>
        rw [digits] at h
        exact congrArg Except.error (Option.some.inj h)
      | true =>
        have shape : Number.IsDigits l := ⟨written l rfl, List.all_eq_true.mp digits⟩
        simp only [digits, Bool.true_eq_false, if_false] at h ⊢
        split at h
        · next long =>
          rw [toInteger_digits shape, if_pos long]
          exact congrArg Except.error (Option.some.inj h)
        · contradiction

/-- A placeholder that is not refused is given its index, and the parser knows of one more. -/
theorem resolve_numbered (first : k = 0 → p.location.isSome = located)
    (written : ∀ l, p.location = some l → l ≠ []) (h : p.unnumbered? located = none) :
    resolve p (.after located k) = .ok (p.index k) (.after located (k + 1)) := by
  obtain ⟨loc, code⟩ := p
  cases loc with
  | none =>
    rw [resolve_inferred code fun here zero => by simp [here] at first; omega]
    cases located with
    | false => rfl
    | true => simp [Placeholder.unnumbered?] at h
  | some l =>
    rw [resolve_located l code fun here zero => by simp [here] at first; omega]
    cases located with
    | false => simp [Placeholder.unnumbered?] at h
    | true =>
      simp only [Placeholder.unnumbered?, Option.isSome_some, ne_eq, not_true, if_false,
        Option.bind_some, Placeholder.unreadable?] at h
      cases digits : l.all Char.isDigit with
      | false => simp [digits] at h
      | true =>
        have shape : Number.IsDigits l := ⟨written l rfl, List.all_eq_true.mp digits⟩
        simp only [digits, Bool.true_eq_false, if_false] at h ⊢
        split at h
        · contradiction
        · next short =>
          rw [toInteger_digits shape, if_neg short]
          rfl

theorem ofCode_eq (word : ∀ c ∈ p.code, Text.isWord c = true) :
    ValueType.ofCode (String.ofList p.code) =
      match p.type? with
      | some t => .ok t
      | none => .error (.unknownType (String.ofList p.code)) := by
  rw [ValueType.ofCode, Text.trimmed, String.toList_ofList, Text.trim_word word]
  rfl

/-- A checked value is expanded as its binding says: a list that was accepted can be split, and not
into nothing. -/
theorem expand_of_check {t : ValueType} {v : Value} (marker : String)
    (accepted : t.check v = none) :
    expand t v marker = .ok (Binding.text marker ⟨t, v⟩, Binding.values ⟨t, v⟩) := by
  cases t with
  | scalar t => rfl
  | list t =>
    simp only [expand, Binding.text, Binding.markers, Binding.values]
    cases split : v.split with
    | error e => simp [ValueType.check, split] at accepted
    | ok vs =>
      rw [Value.elements_of_ok split]
      cases vs with
      | nil => simp [ValueType.check, split] at accepted
      | cons w ws => simp only [List.map_const']

theorem unbound?_eq_none_iff :
    p.unbound? arguments k = none ↔
      ∃ t v, p.type? = some t ∧ arguments[p.index k]? = some v ∧ t.check v = none := by
  unfold Placeholder.unbound?
  cases arguments[p.index k]? with
  | none => simp
  | some v => cases p.type? <;> simp

theorem bind_refused (marker : String) (word : ∀ c ∈ p.code, Text.isWord c = true)
    (h : p.unbound? arguments k = some e) :
    bind marker arguments (p.index k) p.code = .error e := by
  simp only [Placeholder.unbound?] at h
  simp only [Template.bind, ofCode_eq word]
  cases argument : arguments[p.index k]? with
  | none =>
    rw [argument] at h
    exact congrArg Except.error (Option.some.inj h)
  | some v =>
    rw [argument] at h
    cases type : p.type? with
    | none =>
      rw [type] at h
      exact congrArg Except.error (Option.some.inj h)
    | some t =>
      simp only [type] at h
      obtain ⟨e', refused, rfl⟩ := Option.map_eq_some_iff.mp h
      simp [refused, Except.mapError, Bind.bind, Except.bind]

theorem bind_accepted (marker : String) (word : ∀ c ∈ p.code, Text.isWord c = true)
    {t : ValueType} {v : Value} (type : p.type? = some t)
    (argument : arguments[p.index k]? = some v) (accepted : t.check v = none) :
    bind marker arguments (p.index k) p.code =
      .ok (Binding.text marker ⟨t, v⟩, Binding.parameters ⟨t, v⟩) := by
  simp [Template.bind, ofCode_eq word, argument, type, accepted, expand_of_check marker accepted,
    Except.mapError, Bind.bind, Except.bind, Binding.parameters]

end

/-! ## Reading a template -/

def placeholders : List Piece → List Placeholder
  | [] => []
  | .char _ :: xs => placeholders xs
  | .hole p :: xs => p :: placeholders xs

def fill (marker : String) : List Piece → List Binding → List Char
  | [], _ => []
  | .char c :: xs, bs => literal marker c ++ fill marker xs bs
  | .hole _ :: xs, [] => fill marker xs []
  | .hole _ :: xs, b :: bs => (b.text marker).toList ++ fill marker xs bs

theorem map_snd_holes (d : Dialect) (start : Nat) (xs : List Piece) :
    (holes d start xs).map (·.2) = placeholders xs := by
  induction xs generalizing start with
  | nil => rfl
  | cons x xs ih => cases x <;> simp [holes, placeholders, ih]

/-- What the pieces of a template give is what their placeholders stand for, or the first refusal
among them. The induction is on the pieces, with the number of placeholders passed so far. -/
theorem render_outcome {d : Dialect} (marker : String) (arguments : List Value) {located : Bool}
    {k : Nat} {xs : List Piece} (wellFormed : ∀ p ∈ placeholders xs, WellFormed d p)
    (first : k = 0 → ∀ p, (placeholders xs).head? = some p → p.location.isSome = located) :
    (render marker arguments xs).outcome (.after located k) =
      match refusal? arguments located k (placeholders xs) with
      | some e => .error e
      | none =>
        .ok (fill marker xs (bindings arguments k (placeholders xs)),
          (bindings arguments k (placeholders xs)).flatMap Binding.parameters) := by
  induction xs generalizing k with
  | nil => rfl
  | cons x xs ih =>
    cases x with
    | char c =>
      rw [render, Action.outcome_bind_pure, ih wellFormed first]
      simp only [placeholders]
      cases refusal? arguments located k (placeholders xs) <;> rfl
    | hole p =>
      have well := wellFormed p (List.mem_cons_self ..)
      have written : ∀ l, p.location = some l → l ≠ [] := fun l h => (well.location l h).2.nonempty
      have here := fun zero => first zero p rfl
      simp only [placeholders, refusal?, Placeholder.refusal?]
      cases numbered : p.unnumbered? located with
      | some e =>
        have refused := resolve_refused here written numbered
        rw [render, Action.outcome_bind_error refused]
        rfl
      | none =>
        rw [render, Action.outcome_bind_ok (resolve_numbered here written numbered)]
        cases bound : p.unbound? arguments k with
        | some e =>
          rw [bind_refused marker well.code.word bound]
          rfl
        | none =>
          obtain ⟨t, v, type, argument, accepted⟩ := unbound?_eq_none_iff.mp bound
          have rest := ih (k := k + 1) (fun q h => wellFormed q (List.mem_cons_of_mem _ h))
            (fun zero => absurd zero (by omega))
          rw [bind_accepted marker well.code.word type argument accepted]
          rw [Action.ofExcept_ok, Action.outcome_bind_ok (Action.run_pure _ _),
            Action.outcome_bind_pure, rest, bindings, type, argument, Option.none_or]
          cases refusal? arguments located (k + 1) (placeholders xs) <;> rfl

/-- Splicing replaces the placeholders that the pieces hold. `before` is what the pieces of `cs`
come after, and `start` is where the text in between began. -/
theorem splice_holes (d : Dialect) (marker : String) (cs : List Char) {before : List Char}
    {start : Nat} (le : start ≤ before.length) (bs : List Binding)
    (enough : (placeholders (pieces d cs)).length = bs.length) :
    splice d marker (before ++ cs) start ((holes d before.length (pieces d cs)).zip bs) =
      (before.drop start).flatMap (literal marker) ++ fill marker (pieces d cs) bs := by
  induction cs using pieces.induct d generalizing before start bs with
  | case1 => simp [pieces, holes, splice, fill]
  | case2 c cs p rest found ih =>
    have here := placeholder?_eq_some_iff.mp found
    rw [pieces_of_found found] at enough ⊢
    cases bs with
    | nil => simp [placeholders] at enough
    | cons b bs =>
      have position : before.length + (p.written d).length = (before ++ p.written d).length := by
        simp
      simp only [holes, List.zip_cons_cons, splice, List.take_left, fill]
      rw [position, here.text, ← List.append_assoc before,
        ih (Nat.le_refl _) bs (by simpa [placeholders] using enough), List.drop_length]
      simp
  | case3 c cs missing ih =>
    rw [pieces_of_missing missing] at enough ⊢
    have le' : start ≤ (before ++ [c]).length := by simp; omega
    have shift := ih le' bs enough
    rw [List.append_assoc, List.singleton_append, List.length_append, List.length_singleton,
      List.drop_append_of_le_length le, List.flatMap_append, List.append_assoc] at shift
    rw [holes, shift]
    simp [fill]

theorem refusal?_eq_none_iff {arguments : List Value} {located : Bool} {k : Nat}
    {ps : List Placeholder} :
    refusal? arguments located k ps = none ↔
      ∀ (i : Nat) (p : Placeholder), ps[i]? = some p →
        p.refusal? arguments located (k + i) = none := by
  induction ps generalizing k with
  | nil => simp [refusal?]
  | cons q ps ih =>
    rw [refusal?, Option.or_eq_none_iff, ih]
    constructor
    · rintro ⟨head, tail⟩ i p h
      cases i with
      | zero => exact Option.some.inj h ▸ head
      | succ i =>
        have := tail i p h
        rwa [Nat.add_assoc, Nat.add_comm 1 i] at this
    · intro h
      constructor
      · exact h 0 q rfl
      · intro i p hp
        have := h (i + 1) p hp
        rwa [Nat.add_assoc, Nat.add_comm 1 i]

theorem length_bindings {arguments : List Value} {located : Bool} {k : Nat}
    {ps : List Placeholder} (h : refusal? arguments located k ps = none) :
    ps.length = (bindings arguments k ps).length := by
  induction ps generalizing k with
  | nil => rfl
  | cons p ps ih =>
    rw [refusal?, Option.or_eq_none_iff, Placeholder.refusal?, Option.or_eq_none_iff] at h
    obtain ⟨⟨_, bound⟩, rest⟩ := h
    obtain ⟨t, v, type, argument, _⟩ := unbound?_eq_none_iff.mp bound
    rw [bindings, type, argument, List.length_cons, List.length_cons, ih rest]

/-- Bindings are what the placeholders name: a type, and the argument of their index. -/
theorem bindings_spec {arguments : List Value} {located : Bool} {k : Nat} {ps : List Placeholder}
    (fits : refusal? arguments located k ps = none) :
    ∀ (i : Nat) (p : Placeholder) (b : Binding), ps[i]? = some p →
      (bindings arguments k ps)[i]? = some b →
      p.type? = some b.type ∧ arguments[p.index (k + i)]? = some b.value := by
  induction ps generalizing k with
  | nil => simp
  | cons q ps ih =>
    rw [refusal?, Option.or_eq_none_iff, Placeholder.refusal?, Option.or_eq_none_iff] at fits
    obtain ⟨⟨_, bound⟩, rest⟩ := fits
    obtain ⟨t, v, type, argument, _⟩ := unbound?_eq_none_iff.mp bound
    intro i p b hp hb
    rw [bindings, type, argument] at hb
    cases i with
    | zero =>
      cases hp
      cases hb
      exact ⟨type, argument⟩
    | succ i =>
      have later := ih rest i p b hp hb
      rwa [Nat.add_assoc, Nat.add_comm 1] at later

def firstLocated (ps : List Placeholder) : Bool :=
  ps.head?.any (·.location.isSome)

theorem uniform_iff {ps : List Placeholder} :
    ((∀ p ∈ ps, p.location = none) ∨ ∀ p ∈ ps, p.location ≠ none) ↔
      ∀ p ∈ ps, p.location.isSome = firstLocated ps := by
  cases ps with
  | nil => simp
  | cons q ps =>
    cases first : q.location with
    | none => simp [firstLocated, first]
    | some l => simp [firstLocated, first, Option.isSome_iff_ne_none]

theorem unnumbered?_eq_none_iff {located : Bool} {p : Placeholder} :
    p.unnumbered? located = none ↔ p.location.isSome = located ∧
      ∀ l, p.location = some l → (∀ c ∈ l, c.isDigit = true) ∧ l.length ≤ Number.digitLimit := by
  obtain ⟨location, code⟩ := p
  by_cases agrees : location.isSome = located
  · subst agrees
    cases location with
    | none => simp [Placeholder.unnumbered?]
    | some l =>
      cases digits : l.all Char.isDigit with
      | false =>
        have : ¬ ∀ c ∈ l, c.isDigit = true := fun h => by simp [List.all_eq_true.mpr h] at digits
        simp [Placeholder.unnumbered?, Placeholder.unreadable?, digits, this]
      | true =>
        have digit := List.all_eq_true.mp digits
        simpa [Placeholder.unnumbered?, Placeholder.unreadable?, digits] using fun _ => digit
  · simp [Placeholder.unnumbered?, agrees]

theorem type?_ne_none_iff {p : Placeholder} :
    p.type? ≠ none ↔ Text.lower (String.ofList p.code) ∈ ValueType.all.map ValueType.code := by
  rw [← Option.isSome_iff_ne_none, Placeholder.type?, List.find?_isSome, List.mem_map]
  simp

/-- Placeholders can be bound if and only if none of them is refused. -/
theorem bindable_iff {arguments : List Value} {ps : List Placeholder} :
    Bindable arguments ps ↔ refusal? arguments (firstLocated ps) 0 ps = none := by
  rw [refusal?_eq_none_iff]
  simp only [Nat.zero_add, Placeholder.refusal?, Option.or_eq_none_iff, unnumbered?_eq_none_iff,
    unbound?_eq_none_iff]
  constructor
  · intro h i p hp
    have mem := List.mem_of_getElem? hp
    obtain ⟨t, type⟩ := Option.ne_none_iff_exists'.mp (type?_ne_none_iff.mpr (h.typed p mem))
    have argument := List.getElem?_eq_getElem (h.inBounds i p hp)
    exact ⟨⟨uniform_iff.mp h.uniform p mem, h.numeric p mem⟩, t, _, type, argument,
      h.accepted i p t _ hp type argument⟩
  · intro h
    have each {p : Placeholder} (mem : p ∈ ps) := List.getElem?_of_mem mem
    constructor
    · apply uniform_iff.mpr
      intro p mem
      obtain ⟨i, hp⟩ := each mem
      exact (h i p hp).1.1
    · intro p mem
      obtain ⟨i, hp⟩ := each mem
      exact (h i p hp).1.2
    · intro i p hp
      obtain ⟨_, _, _, _, argument, _⟩ := h i p hp
      exact (List.getElem?_eq_some_iff.mp argument).1
    · intro p mem
      obtain ⟨i, hp⟩ := each mem
      obtain ⟨_, t, _, type, _⟩ := h i p hp
      exact type?_ne_none_iff.mp (by simp [type])
    · intro i p t v hp type argument
      obtain ⟨_, t', v', type', argument', accepted⟩ := h i p hp
      rw [type] at type'
      rw [argument] at argument'
      cases type'
      cases argument'
      exact accepted

theorem cleaned_clean (template : String) : Cleaned template.toList (clean template) := by
  obtain ⟨before, after, eq, before_blank, after_blank, trimmed⟩ := Text.trim_spec template.toList
  refine ⟨before, _, after, eq, before_blank, after_blank, trimmed, ?_⟩
  rw [clean]
  by_cases ends : (Text.trim template.toList).getLast? = some ';'
  · obtain ⟨front, split⟩ := List.getLast?_eq_some_iff.mp ends
    simp [split]
  · simp [ends]

theorem wellFormed_placeholders (d : Dialect) (t : List Char) :
    ∀ p ∈ placeholders (pieces d t), WellFormed d p := by
  intro p hp
  rw [← map_snd_holes d 0] at hp
  obtain ⟨⟨i, q⟩, mem, rfl⟩ := List.mem_map.mp hp
  obtain ⟨rest, starts⟩ := ((occurrences_pieces d t).mem_iff i q).mp mem
  exact starts.wellFormed

/-- What a parser makes of a template whose placeholders are given. -/
def reference (d : Dialect) (marker : String) (t : List Char) (arguments : List Value)
    (ps : List (Nat × Placeholder)) : ParsedQuery :=
  let bs := bindings arguments 0 (ps.map (·.2))
  { template := String.ofList t
    arguments
    sql := String.ofList (splice d marker t 0 (ps.zip bs))
    parameters := bs.flatMap Binding.parameters }

end Template

namespace Parser

open Template

/-- A parser after it has read templates with their arguments, whatever came of them. -/
def afterAll (parser : Parser) (calls : List (Value × List Value)) : Parser :=
  calls.foldl (fun parser call => (parse call.1 call.2).after parser) parser

theorem after_parse (parser : Parser) (template : Value) (arguments : List Value) :
    ((parse template arguments).after parser).dialect = parser.dialect ∧
      ((parse template arguments).after parser).marker = parser.marker := by
  cases template with
  | text s =>
    simp only [parse, Action.after, Action.run_bind, Action.run_modify, Action.run_get,
      Action.within]
    cases render parser.marker arguments (pieces parser.dialect (clean s)) {} <;> exact ⟨rfl, rfl⟩
  | _ => exact ⟨rfl, rfl⟩

theorem afterAll_same (parser : Parser) (calls : List (Value × List Value)) :
    (parser.afterAll calls).dialect = parser.dialect ∧
      (parser.afterAll calls).marker = parser.marker := by
  induction calls generalizing parser with
  | nil => exact ⟨rfl, rfl⟩
  | cons call calls ih =>
    obtain ⟨dialect, marker⟩ := ih ((parse call.1 call.2).after parser)
    obtain ⟨dialect', marker'⟩ := after_parse parser call.1 call.2
    exact ⟨dialect.trans dialect', marker.trans marker'⟩

theorem parse_outcome (parser : Parser) (template : String) (arguments : List Value) :
    (parse (.text template) arguments).outcome parser =
      ((render parser.marker arguments (pieces parser.dialect (clean template))).outcome {}).map
        fun r => { template := String.ofList (clean template), arguments,
                   sql := String.ofList r.1, parameters := r.2 } := by
  simp only [parse, Action.outcome, Action.run_bind, Action.run_modify, Action.run_get,
    Action.within]
  cases render parser.marker arguments (pieces parser.dialect (clean template)) {} <;> rfl

def occurrencesIn (d : Dialect) (template : String) : List (Nat × Placeholder) :=
  holes d 0 (pieces d (clean template))

/-- A template is read as its pieces say: with all its placeholders replaced, or as the first refusal
among them. -/
theorem parse_pieces (parser : Parser) (template : String) (arguments : List Value) :
    (parse (.text template) arguments).outcome parser =
      let xs := pieces parser.dialect (clean template)
      let bs := bindings arguments 0 (placeholders xs)
      match refusal? arguments (firstLocated (placeholders xs)) 0 (placeholders xs) with
      | some e => .error e
      | none =>
        .ok {
          template := String.ofList (clean template)
          arguments
          sql := String.ofList (fill parser.marker xs bs)
          parameters := bs.flatMap Binding.parameters } := by
  have first : ∀ p, (placeholders (pieces parser.dialect (clean template))).head? = some p →
      p.location.isSome =
        firstLocated (placeholders (pieces parser.dialect (clean template))) := by
    intro p hp
    rw [firstLocated, hp]
    rfl
  have rendered := render_outcome (k := 0) parser.marker arguments
    (wellFormed_placeholders parser.dialect (clean template)) fun _ => first
  rw [parse_outcome, show ({} : Numbering) = .after _ 0 from rfl, rendered]
  simp only
  cases refusal? arguments _ 0 (placeholders (pieces parser.dialect (clean template))) <;> rfl

theorem parse_eq (parser : Parser) (template : String) (arguments : List Value) :
    (parse (.text template) arguments).outcome parser =
      let ps := occurrencesIn parser.dialect template
      match refusal? arguments (firstLocated (ps.map (·.2))) 0 (ps.map (·.2)) with
      | some e => .error e
      | none => .ok (reference parser.dialect parser.marker (clean template) arguments ps) := by
  rw [parse_pieces]
  simp only [occurrencesIn, map_snd_holes, reference]
  cases refused :
      refusal? arguments _ 0 (placeholders (pieces parser.dialect (clean template))) with
  | some e => rfl
  | none =>
    have spliced := splice_holes parser.dialect parser.marker (clean template)
      (Nat.zero_le ([] : List Char).length) _ (length_bindings refused)
    simp only [List.nil_append, List.length_nil, List.drop_nil, List.flatMap_nil] at spliced
    rw [spliced]

theorem parse_ok {d : Dialect} {marker template : String} {arguments : List Value}
    {q : ParsedQuery} (h : Template.parse d marker (.text template) arguments = .ok q) :
    let ps := occurrencesIn d template
    refusal? arguments (firstLocated (ps.map (·.2))) 0 (ps.map (·.2)) = none ∧
      q = reference d marker (clean template) arguments ps := by
  rw [Template.parse, parse_eq] at h
  simp only at h ⊢
  split at h
  · contradiction
  · next fits => exact ⟨fits, (Except.ok.inj h).symm⟩

/-- A template is read as the reference says, whatever the parser read before: the placeholders are
all that the cleaned text has; either they can all be bound, and then the text is spliced, or the
first one that cannot decides the failure. -/
theorem parse_reference (d : Dialect) (marker : String) (calls : List (Value × List Value))
    (template : String) (arguments : List Value) :
    ∃ t ps, Cleaned template.toList t ∧ Occurrences d t ps ∧
      ((∃ q, (parse (.text template) arguments).outcome
          (afterAll { dialect := d, marker } calls) = .ok q) ↔
        Bindable arguments (ps.map (·.2))) ∧
      (∀ q, (parse (.text template) arguments).outcome
          (afterAll { dialect := d, marker } calls) = .ok q →
        q = reference d marker t arguments ps) ∧
      ∀ e, (parse (.text template) arguments).outcome
          (afterAll { dialect := d, marker } calls) = .error e ↔
        refusal? arguments (firstLocated (ps.map (·.2))) 0 (ps.map (·.2)) = some e := by
  obtain ⟨dialect, marker_eq⟩ := afterAll_same { dialect := d, marker } calls
  have outcome := parse_eq (afterAll { dialect := d, marker } calls) template arguments
  rw [dialect, marker_eq] at outcome
  refine ⟨clean template, occurrencesIn d template, cleaned_clean template,
    occurrences_pieces d (clean template), ?_⟩
  rw [bindable_iff]
  cases refused : refusal? arguments (firstLocated ((occurrencesIn d template).map (·.2))) 0
      ((occurrencesIn d template).map (·.2)) with
  | some e =>
    simp only [refused] at outcome
    simp [outcome]
  | none =>
    simp only [refused] at outcome
    simp [outcome, eq_comm]

end Parser

end SqlTemplate
