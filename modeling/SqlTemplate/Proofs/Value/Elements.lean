import Mathlib.Data.List.Forall2
import SqlTemplate.Proofs.Parameter
import SqlTemplate.Proofs.ValueType.Numeric

/-!
Lists of values and the texts they are joined to. Values with the same text are accepted by the same
types and sent alike, whatever they are: a number and its digits, binary content and its characters.
-/
namespace SqlTemplate

open Number (IsDigits Signed)
open Statement (bindParameter convert parameterValue)

/-- The parts of a text between separators are those of the library. -/
theorem Text.splitOn_eq {α : Type} [DecidableEq α] (separator : α) (xs : List α) :
    Text.splitOn separator xs = List.splitOn separator xs := by
  induction xs with
  | nil => rw [Text.splitOn, List.splitOn_nil]
  | cons x xs ih =>
    have rest : List.splitOn separator xs ≠ [] := List.splitOnP_ne_nil _ _
    rw [List.splitOn, List.splitOnP_cons_eq_if_modifyHead, ← List.splitOn, Text.splitOn, ih]
    by_cases here : x = separator
    · simp [here]
    · obtain ⟨part, parts, split⟩ := List.exists_cons_of_ne_nil rest
      simp [here, split]

namespace Value

/-- Values with the same text. Both are given, and the text of both can be written out. -/
structure Alike (v w : Value) : Prop where
  text : v.plain = w.plain
  given : v ≠ .null ∧ w ≠ .null
  short : v.overlong = false ∧ w.overlong = false

theorem Alike.symm {v w : Value} (h : v.Alike w) : w.Alike v :=
  ⟨h.text.symm, h.given.symm, h.short.symm⟩

theorem Alike.trans {u v w : Value} (h : u.Alike v) (h' : v.Alike w) : u.Alike w :=
  ⟨h.text.trans h'.text, ⟨h.given.1, h'.given.2⟩, ⟨h.short.1, h'.short.2⟩⟩

/-- A value that can stand in a text with commas between the values. -/
structure Joinable (v : Value) : Prop where
  given : v ≠ .null
  short : v.overlong = false
  no_comma : ',' ∉ v.plain.toList

def joined (vs : List Value) : String :=
  ",".intercalate (vs.map plain)

def spellings (vs : List Value) : List Value :=
  [.list vs, .tuple vs, .text (joined vs)]

theorem split_joined {vs : List Value} (nonempty : vs ≠ []) (joinable : ∀ v ∈ vs, v.Joinable) :
    (text (joined vs)).split = .ok (vs.map fun v => .text v.plain) := by
  have parts : Text.splitOn ',' (joined vs).toList = vs.map fun v => v.plain.toList := by
    rw [Text.splitOn_eq, joined, String.toList_intercalate, List.map_map]
    apply List.splitOn_intercalate
    · intro part mem
      obtain ⟨v, hv, rfl⟩ := List.mem_map.mp mem
      exact (joinable v hv).no_comma
    · exact fun none => nonempty (List.map_eq_nil_iff.mp none)
  have whole : (text (joined vs)).split = .ok
      ((Text.splitOn ',' (joined vs).toList).map fun part => text (String.ofList part)) := rfl
  simp only [whole, parts, List.map_map, Function.comp_def, String.ofList_toList]

/-- Values that are split into elements which are alike. -/
def SplitAlike (x y : Value) : Prop :=
  ∃ vs ws, x.split = .ok vs ∧ y.split = .ok ws ∧ List.Forall₂ Alike vs ws

theorem SplitAlike.symm {x y : Value} (alike : x.SplitAlike y) : y.SplitAlike x := by
  obtain ⟨vs, ws, split, split', each⟩ := alike
  exact ⟨ws, vs, split', split, each.flip.imp fun _ _ => Alike.symm⟩

theorem SplitAlike.elements {x y : Value} (alike : x.SplitAlike y) :
    List.Forall₂ Alike x.elements y.elements := by
  obtain ⟨vs, ws, split, split', each⟩ := alike
  rwa [elements_of_ok split, elements_of_ok split']

/-- However a list is given, its elements are alike. -/
theorem splitAlike_spellings {vs : List Value} (nonempty : vs ≠ [])
    (joinable : ∀ v ∈ vs, v.Joinable) {x y : Value} (hx : x ∈ spellings vs)
    (hy : y ∈ spellings vs) : x.SplitAlike y := by
  have each {x : Value} (mem : x ∈ spellings vs) :
      ∃ f : Value → Value, x.split = .ok (vs.map f) ∧ ∀ v ∈ vs, v.Alike (f v) := by
    have self : ∀ v ∈ vs, v.Alike v := fun v hv =>
      ⟨rfl, ⟨(joinable v hv).given, (joinable v hv).given⟩,
        ⟨(joinable v hv).short, (joinable v hv).short⟩⟩
    have same : vs.map id = vs := List.map_id vs
    simp only [spellings, List.mem_cons, List.not_mem_nil, or_false] at mem
    rcases mem with rfl | rfl | rfl
    · exact ⟨id, congrArg Except.ok same.symm, self⟩
    · exact ⟨id, congrArg Except.ok same.symm, self⟩
    · refine ⟨fun v => .text v.plain, split_joined nonempty joinable, ?_⟩
      intro v hv
      exact ⟨rfl, ⟨(joinable v hv).given, by simp⟩, ⟨(joinable v hv).short, rfl⟩⟩
  obtain ⟨f, split, alike⟩ := each hx
  obtain ⟨g, split', alike'⟩ := each hy
  refine ⟨vs.map f, vs.map g, split, split', ?_⟩
  rw [List.forall₂_map_left_iff, List.forall₂_map_right_iff, List.forall₂_same]
  exact fun v hv => (alike v hv).symm.trans (alike' v hv)

theorem short_of_alike {vs ws : List Value} (alike : List.Forall₂ Alike vs ws) :
    ∀ v ∈ vs, v.overlong = false := by
  induction alike with
  | nil => simp
  | cons head _ ih => exact List.forall_mem_cons.mpr ⟨head.short.1, ih⟩

/-- A value that can be split into elements with texts does not lack one. -/
theorem SplitAlike.not_lacksText {x y : Value} (alike : x.SplitAlike y) (t : ListType) :
    ¬ (ValueType.list t).LacksText x := by
  obtain ⟨vs, ws, split, _, each⟩ := alike
  have short := short_of_alike each
  rintro (⟨noList, noTuple, long⟩ | ⟨before, w, after, parts, _, _, long⟩)
  · have unsplit : x.split = .error .unwritten := split_eq_error_iff.mpr ⟨noList, noTuple, long, rfl⟩
    rw [split] at unsplit
    contradiction
  · rw [elements_of_ok split] at parts
    have mem : w ∈ vs := parts ▸ List.mem_append_right _ (List.mem_cons_self ..)
    rw [short w mem] at long
    contradiction

variable {v w : Value} {t : ScalarType}

theorem Alike.accepted_iff (alike : v.Alike w) :
    (ValueType.scalar t).Accepts v ↔ (ValueType.scalar t).Accepts w := by
  rw [ValueType.accepts_scalar_iff, ValueType.accepts_scalar_iff]
  constructor
  · exact fun fits => ⟨alike.text ▸ fits.shape, fun _ => alike.short.2⟩
  · exact fun fits => ⟨alike.text ▸ fits.shape, fun _ => alike.short.1⟩

/-- What a type accepts of values that are alike is bound alike, except for binary content. -/
theorem Alike.bindParameter_eq (alike : v.Alike w) (accepted : (ValueType.scalar t).Accepts v)
    (noBinary : t ≠ .binary) (position : Nat) :
    bindParameter position ⟨v, .scalar t⟩ = bindParameter position ⟨w, .scalar t⟩ := by
  have shape := (ValueType.accepts_scalar_iff.mp accepted).shape
  have present : v.isNull = false ∧ w.isNull = false :=
    ⟨BoundParameter.present alike.given.1, BoundParameter.present alike.given.2⟩
  have number (kind : t.kind = .number) (digits : Signed IsDigits v.plain.toList) :
      bindParameter position ⟨v, .scalar t⟩ = bindParameter position ⟨w, .scalar t⟩ := by
    have kind : (ValueType.scalar t).kind = .number := kind
    have read := toInteger_eq_text digits alike.short.1
    have read' := toInteger_eq_text (alike.text ▸ digits) alike.short.2
    apply Statement.bindParameter_congr (x := (v, .null)) (y := (w, .null))
    · simp only [parameterValue, kind]
    · simp only [parameterValue, kind]
    · simp [convert, kind, present, read, read', alike.text]
    · rfl
  have text (kind : t.kind = .text) :
      bindParameter position ⟨v, .scalar t⟩ = bindParameter position ⟨w, .scalar t⟩ := by
    have kind : (ValueType.scalar t).kind = .text := kind
    cases escapes : (ValueType.scalar t).escapes with
    | true =>
      simp only [bindParameter, parameterValue, kind, escapes, present, toText, alike.short,
        alike.text]
      rfl
    | false =>
      apply Statement.bindParameter_congr (x := (v, .int v.plain.length))
        (y := (w, .int w.plain.length))
      · simp [parameterValue, kind, escapes, present, toText, alike.short, Except.map]
      · simp [parameterValue, kind, escapes, present, toText, alike.short, Except.map]
      · simp [convert, kind, present, toText, alike.short, alike.text]
      · rw [alike.text]
  cases t with
  | integer => exact number rfl shape
  | unsignedInteger => exact number rfl (.inl shape)
  | binary => contradiction
  | _ => exact text rfl

/-- A list is accepted for the texts of its elements. -/
theorem accepts_list_congr {t : ListType} {x y : Value}
    (alike : List.Forall₂ Alike x.elements y.elements) :
    (ValueType.list t).Accepts x ↔ (ValueType.list t).Accepts y := by
  rw [ValueType.accepts_list_iff, ValueType.accepts_list_iff]
  generalize x.elements = vs, y.elements = ws at alike
  have each : (∀ v ∈ vs, (ValueType.scalar t.element).Accepts v) ↔
      ∀ w ∈ ws, (ValueType.scalar t.element).Accepts w := by
    induction alike with
    | nil => simp
    | cons head _ ih => rw [List.forall_mem_cons, List.forall_mem_cons, head.accepted_iff, ih]
  rw [each, ← List.length_pos_iff, ← List.length_pos_iff, alike.length_eq]

end Value

end SqlTemplate
