import Mathlib.Data.List.Forall2
import SqlTemplate.Proofs.Statement
import SqlTemplate.Proofs.Template.Reference
import SqlTemplate.Proofs.Value.Plain
import SqlTemplate.Proofs.ValueType.Numeric

/-!
What a driver receives for a parameter. The type of a placeholder is checked on the text of its
argument, the value is converted apart from that, and its length is taken by itself; still the value
that is sent has the type that was asked for, and the length belongs to it.
-/
namespace SqlTemplate

open Number (IsDecimal IsDigits Signed written)
open Statement (Sends encode encodeFrom)

namespace BoundParameter

/-- A parameter as parsing leaves it: a value that a type of single values accepts. -/
def Checked (p : BoundParameter) : Prop :=
  ∃ t : ScalarType, p.type = .scalar t ∧ t.Fits p.value

/-- What may be sent for a parameter, and the length that goes with it. -/
inductive Sound : BoundParameter → Value × Value → Prop
  | integer {v : Value} (digits : Signed IsDigits v.plain.toList) :
    Sound ⟨v, .scalar .integer⟩ (.int (written v.plain.toList), .null)
  | unsignedInteger {v : Value} (digits : IsDigits v.plain.toList)
      (nonneg : 0 ≤ written v.plain.toList) :
    Sound ⟨v, .scalar .unsignedInteger⟩ (.int (written v.plain.toList), .null)
  | decimal {v : Value} (decimal : Signed IsDecimal v.plain.toList) :
    Sound ⟨v, .scalar .decimal⟩ (.text v.plain, .int v.plain.length)
  | unsignedDecimal {v : Value} (decimal : IsDecimal v.plain.toList) :
    Sound ⟨v, .scalar .unsignedDecimal⟩ (.text v.plain, .int v.plain.length)
  | string {v : Value} (given : v ≠ .null) :
    Sound ⟨v, .scalar .string⟩ (.text v.plain, .int v.plain.length)
  | escapedString {v : Value} (given : v ≠ .null) :
    Sound ⟨v, .scalar .escapedString⟩
      (.text (Text.escapeMarkup v.plain), .int (Text.escapeMarkup v.plain).length)
  | binary {v : Value} (given : v ≠ .null) {data : List UInt8} (content : v.toBytes = .ok data) :
    Sound ⟨v, .scalar .binary⟩ (.bytes .plain data, .null)
  | absent {t : ScalarType} (optional : t = .string ∨ t = .escapedString ∨ t = .binary) :
    Sound ⟨.null, .scalar t⟩ (.null, .null)

/-- A parameter whose value cannot be sent: a numeral of more digits than are read, or for a binary
placeholder what is neither bytes nor a text in which each character has a byte. -/
inductive Unsendable : BoundParameter → Prop
  | number {t : ScalarType} {v : Value} (number : t = .integer ∨ t = .unsignedInteger)
      (long : v.LongNumeral) : Unsendable ⟨v, .scalar t⟩
  | binary {v : Value} (given : v ≠ .null) (noBytes : ∀ kind data, v ≠ .bytes kind data)
      (wide : ∀ s, v = .text s → ∃ c ∈ s.toList, 256 ≤ c.toNat) : Unsendable ⟨v, .scalar .binary⟩

/-- A parameter that is bound as text and has none. -/
def Unwritten (p : BoundParameter) : Prop :=
  p.type.kind = .text ∧ p.value.overlong = true

def Sendable (p : BoundParameter) : Prop :=
  ¬ p.Unsendable ∧ ¬ p.Unwritten

/-- How a parameter is refused at a position. That its value cannot be sent is reported, unless the
position is itself too long to be told; that it has no text is not. -/
inductive RefusedAt (p : BoundParameter) (position : Nat) : Failure → Prop
  | unsendable (e : ConversionError) (unsendable : p.Unsendable) :
    RefusedAt p position (Statement.troubleAt position (.unbindable position e))
  | unwritten (unwritten : p.Unwritten) : RefusedAt p position (.conversion .unwritten)

theorem RefusedAt.not_sendable {p : BoundParameter} {position : Nat} {f : Failure}
    (refused : p.RefusedAt position f) : ¬ p.Sendable := by
  rintro ⟨bound, written⟩
  cases refused with
  | unsendable e unsendable => exact bound unsendable
  | unwritten unwritten => exact written unwritten

theorem isNull_iff {v : Value} : v.isNull = true ↔ v = .null := by
  cases v <;> simp [Value.isNull]

section
variable {v : Value}

theorem present (given : v ≠ .null) : v.isNull = false :=
  Bool.eq_false_iff.mpr fun h => given (isNull_iff.mp h)

theorem sendable_text {t : ScalarType} (text : t.kind = .text) (short : v.overlong = false) :
    Sendable ⟨v, .scalar t⟩ := by
  constructor
  · intro unsendable
    cases unsendable with
    | number number => rcases number with rfl | rfl <;> contradiction
    | binary => contradiction
  · rintro ⟨_, long⟩
    rw [short] at long
    contradiction

theorem not_unwritten {t : ScalarType} (kind : t.kind ≠ .text) : ¬ Unwritten ⟨v, .scalar t⟩ :=
  fun unwritten => kind unwritten.1

section
variable {t : ScalarType} (position : Nat)

theorem encode_number (number : t.kind = .number) (given : v ≠ .null) :
    encode position ⟨v, .scalar t⟩ =
      (v.toInteger.mapError (Statement.conversionFailure position)).map
        fun n => (.int n, .null) := by
  have kind : (ValueType.scalar t).kind = .number := number
  have value : Statement.parameterValue ⟨v, .scalar t⟩ = .ok (v, .null) := by
    simp only [Statement.parameterValue, kind]
  rw [Statement.encode_of_value value]
  simp only [Statement.convert, kind, present given]
  cases v.toInteger <;> rfl

theorem encode_binary (given : v ≠ .null) :
    encode position ⟨v, .scalar .binary⟩ =
      (v.toBytes.mapError (Statement.conversionFailure position)).map
        fun data => (.bytes .plain data, .null) := by
  have value : Statement.parameterValue ⟨v, .scalar .binary⟩ = .ok (v, .null) := rfl
  have kind : (ValueType.scalar .binary).kind = .binary := rfl
  rw [Statement.encode_of_value value]
  simp only [Statement.convert, kind, present given]
  cases v.toBytes <;> rfl

/-- A value that is bound as text is sent as its text, escaped if its type asks for it, with the length
of what is sent. -/
theorem encode_text (text : t.kind = .text) (given : v ≠ .null) :
    encode position ⟨v, .scalar t⟩ =
      if v.overlong then .error (.conversion .unwritten)
      else if t.escapes then
        .ok (.text (Text.escapeMarkup v.plain), .int (Text.escapeMarkup v.plain).length)
      else .ok (.text v.plain, .int v.plain.length) := by
  have kind : (ValueType.scalar t).kind = .text := text
  have value : Statement.parameterValue ⟨v, .scalar t⟩ = v.toText.map fun s =>
      if t.escapes then (.text (Text.escapeMarkup s), .int (Text.escapeMarkup s).length)
      else (v, .int s.length) := by
    simp only [Statement.parameterValue, kind, present given]
    rfl
  cases long : v.overlong with
  | true =>
    rw [Value.toText, long] at value
    rw [encode, value]
    rfl
  | false =>
    rw [Value.toText, long] at value
    rw [Statement.encode_of_value value]
    simp only [Statement.convert, kind]
    cases t.escapes with
    | true => rfl
    | false => simp [present given, Value.toText, long, Except.map, Except.mapError]

end

theorem toBytes_error {e : ConversionError} (failed : v.toBytes = .error e) :
    e ≠ .infinite ∧ (∀ kind data, v ≠ .bytes kind data) ∧
      ∀ s, v = .text s → ∃ c ∈ s.toList, 256 ≤ c.toNat := by
  cases v with
  | text s =>
    simp only [Value.toBytes, Value.encodeLatin1] at failed
    split at failed
    · contradiction
    · next c rest beyond =>
      cases failed
      refine ⟨by simp, by simp, ?_⟩
      rintro _ ⟨⟩
      have wide := List.head?_dropWhile_not Value.isLatin1 s.toList
      rw [beyond] at wide
      refine ⟨c, (List.dropWhile_suffix _).subset (beyond ▸ List.mem_cons_self ..), ?_⟩
      simpa [Value.isLatin1] using wide
  | bytes kind data => contradiction
  | _ =>
    cases failed
    simp

theorem toBytes_ok {data : List UInt8} (read : v.toBytes = .ok data) :
    ¬ Unsendable ⟨v, .scalar .binary⟩ := by
  intro unsendable
  cases unsendable with
  | number number => rcases number with h | h <;> contradiction
  | binary given noBytes wide =>
    cases v with
    | text s =>
      obtain ⟨c, mem, beyond⟩ := wide s rfl
      simp only [Value.toBytes, Value.encodeLatin1] at read
      split at read
      · next latin1 =>
        have small := List.dropWhile_eq_nil_iff.mp latin1 c mem
        simp only [Value.isLatin1, decide_eq_true_eq] at small
        omega
      · contradiction
    | bytes kind data => exact noBytes kind data rfl
    | _ => contradiction

/-- Digits are sent as the number that they write, unless they are too many. -/
theorem encode_digits {t : ScalarType} (number : t.kind = .number)
    (digits : Signed IsDigits v.plain.toList) (position : Nat) :
    (encode position ⟨v, .scalar t⟩ = .ok (.int (written v.plain.toList), .null) ∧
      ¬ v.LongNumeral) ∨
    (v.LongNumeral ∧ ∃ e, encode position ⟨v, .scalar t⟩ =
      .error (Statement.troubleAt position (.unbindable position e))) := by
  have given : v ≠ .null := by
    rintro rfl
    rcases digits.mem (c := 'N') (by decide) with h | h | h <;> exact absurd h (by decide)
  rw [encode_number position number given]
  rcases Value.toInteger_of_digits digits with ⟨read, short⟩ | ⟨⟨n, failed⟩, long⟩
  · rw [read]
    exact .inl ⟨rfl, short⟩
  · rw [failed]
    exact .inr ⟨long, _, rfl⟩

/-- What becomes of a parameter at a position: a sound value is sent, or the parameter is refused. -/
def Encoded (p : BoundParameter) (position : Nat) : Prop :=
  (∃ x, encode position p = .ok x ∧ Sound p x ∧ p.Sendable) ∨
    ∃ f, encode position p = .error f ∧ p.RefusedAt position f

theorem encoded_absent {t : ScalarType} (optional : t = .string ∨ t = .escapedString ∨ t = .binary)
    (position : Nat) : Encoded ⟨.null, .scalar t⟩ position := by
  refine .inl ⟨(.null, .null), ?_, .absent optional, ?_, ?_⟩
  · rcases optional with rfl | rfl | rfl <;> rfl
  · intro unsendable
    cases unsendable with
    | number number => rcases number with rfl | rfl <;> simp at optional
    | binary given => exact given rfl
  · rintro ⟨_, long⟩
    contradiction

theorem encoded_text {t : ScalarType} (text : t.kind = .text) (given : v ≠ .null)
    (sound : Sound ⟨v, .scalar t⟩ (if t.escapes then
      (.text (Text.escapeMarkup v.plain), .int (Text.escapeMarkup v.plain).length)
      else (.text v.plain, .int v.plain.length))) (position : Nat) :
    Encoded ⟨v, .scalar t⟩ position := by
  unfold Encoded
  rw [encode_text position text given]
  cases long : v.overlong with
  | true => exact .inr ⟨_, rfl, .unwritten ⟨text, long⟩⟩
  | false =>
    refine .inl ⟨_, ?_, sound, sendable_text text long⟩
    cases t.escapes <;> rfl

theorem encoded_number {t : ScalarType} (numeric : t = .integer ∨ t = .unsignedInteger)
    (digits : Signed IsDigits v.plain.toList)
    (sound : Sound ⟨v, .scalar t⟩ (.int (written v.plain.toList), .null)) (position : Nat) :
    Encoded ⟨v, .scalar t⟩ position := by
  have number : t.kind = .number := by
    rcases numeric with rfl | rfl <;> rfl
  rcases encode_digits number digits position with ⟨sent, short⟩ | ⟨long, e, failed⟩
  · refine .inl ⟨_, sent, sound, ?_, not_unwritten (by rw [number]; decide)⟩
    intro unsendable
    cases unsendable with
    | number _ long => exact short long
    | binary => contradiction
  · exact .inr ⟨_, failed, .unsendable e (.number numeric long)⟩

theorem encoded_binary (given : v ≠ .null) (position : Nat) :
    Encoded ⟨v, .scalar .binary⟩ position := by
  unfold Encoded
  rw [encode_binary position given]
  cases content : v.toBytes with
  | ok data =>
    exact .inl ⟨_, rfl, .binary given content, toBytes_ok content, not_unwritten (by decide)⟩
  | error e =>
    obtain ⟨finite, noBytes, wide⟩ := toBytes_error content
    have refused := Statement.conversionFailure_reported finite (position : Int)
    exact .inr ⟨_, congrArg Except.error refused, .unsendable e (.binary given noBytes wide)⟩

/-- One case for each type. -/
theorem Checked.encoded {p : BoundParameter} (checked : p.Checked) (position : Nat) :
    p.Encoded position := by
  obtain ⟨v, type⟩ := p
  obtain ⟨t, rfl, fits⟩ := checked
  have shape : t.Shape v.plain.toList := fits.shape
  cases t with
  | integer => exact encoded_number (.inl rfl) shape (.integer shape) position
  | unsignedInteger =>
    exact encoded_number (.inr rfl) (.inl shape)
      (.unsignedInteger shape (Number.written_nonneg shape)) position
  | decimal =>
    have given : v ≠ .null := by
      rintro rfl
      exact absurd (ScalarType.acceptsText_iff.mpr shape) (by decide)
    exact encoded_text rfl given (.decimal shape) position
  | unsignedDecimal =>
    have given : v ≠ .null := by
      rintro rfl
      exact absurd (ScalarType.acceptsText_iff.mpr shape) (by decide)
    exact encoded_text rfl given (.unsignedDecimal shape) position
  | string =>
    by_cases given : v = .null
    · subst given
      exact encoded_absent (.inl rfl) position
    · exact encoded_text rfl given (.string given) position
  | escapedString =>
    by_cases given : v = .null
    · subst given
      exact encoded_absent (.inr (.inl rfl)) position
    · exact encoded_text rfl given (.escapedString given) position
  | binary =>
    by_cases given : v = .null
    · subst given
      exact encoded_absent (.inr (.inr rfl)) position
    · exact encoded_binary given position

end

/-- Checked parameters are all sent with sound values, or the first that cannot be is refused. -/
theorem encodeFrom_first {ps : List BoundParameter} (checked : ∀ p ∈ ps, p.Checked)
    (position : Nat) :
    (∃ xs, encodeFrom position ps = .ok xs ∧ List.Forall₂ Sound ps xs ∧ ∀ p ∈ ps, p.Sendable) ∨
      ∃ before p after f, ps = before ++ p :: after ∧ (∀ q ∈ before, q.Sendable) ∧
        p.RefusedAt (position + before.length) f ∧ encodeFrom position ps = .error f := by
  induction ps generalizing position with
  | nil => exact .inl ⟨[], rfl, .nil, by simp⟩
  | cons p ps ih =>
    rw [encodeFrom]
    rcases (checked p (List.mem_cons_self ..)).encoded position with
      ⟨x, sent, sound, sendable⟩ | ⟨f, failed, refused⟩
    · rw [sent]
      rcases ih (fun q hq => checked q (List.mem_cons_of_mem _ hq)) (position + 1) with
        ⟨xs, rest, sounds, others⟩ | ⟨before, q, after, f, rfl, others, refused, failed⟩
      · refine .inl ⟨x :: xs, by simp only [rest, Except.map], .cons sound sounds, ?_⟩
        exact List.forall_mem_cons.mpr ⟨sendable, others⟩
      · rw [Nat.add_assoc, Nat.add_comm 1] at refused
        refine .inr ⟨p :: before, q, after, f, rfl, List.forall_mem_cons.mpr ⟨sendable, others⟩,
          refused, ?_⟩
        simp only [failed, Except.map]
    · rw [failed]
      exact .inr ⟨[], p, ps, f, rfl, by simp, refused, rfl⟩

section
variable {ps : List BoundParameter} (checked : ∀ p ∈ ps, p.Checked)
include checked

theorem sound_of_encodeFrom {position : Nat} {xs : List (Value × Value)}
    (encoded : encodeFrom position ps = .ok xs) : List.Forall₂ Sound ps xs := by
  rcases encodeFrom_first checked position with ⟨ys, same, sound, _⟩ | ⟨_, _, _, _, _, _, _, failed⟩
  · rw [encoded] at same
    cases same
    exact sound
  · rw [encoded] at failed
    contradiction

theorem refused_of_encodeFrom {f : Failure} (failed : encodeFrom 1 ps = .error f) :
    ∃ (i : Nat) (p : BoundParameter), ps[i]? = some p ∧ p.RefusedAt (i + 1) f := by
  rcases encodeFrom_first checked 1 with
    ⟨xs, encoded, _, _⟩ | ⟨before, p, after, f', split, _, refused, failed'⟩
  · rw [failed] at encoded
    contradiction
  · rw [failed] at failed'
    cases failed'
    rw [Nat.add_comm] at refused
    exact ⟨before.length, p, by simp [split], refused⟩

end

end BoundParameter

open BoundParameter (Checked Sound)

namespace Binding

theorem length_parameters (b : Binding) : b.parameters.length = b.markers := by
  obtain ⟨type, value⟩ := b
  cases type <;> simp [parameters, values, markers]

theorem checked_parameters {b : Binding} (accepted : b.type.check b.value = none)
    {p : BoundParameter} (hp : p ∈ b.parameters) : p.Checked := by
  obtain ⟨type, value⟩ := b
  obtain ⟨w, hw, rfl⟩ := List.mem_map.mp hp
  cases type with
  | scalar t =>
    obtain rfl := List.mem_singleton.mp hw
    exact ⟨t, rfl, ValueType.accepts_scalar_iff.mp accepted⟩
  | list t =>
    have each := (ValueType.accepts_list_iff.mp accepted).2
    exact ⟨t.element, rfl, ValueType.accepts_scalar_iff.mp (each w hw)⟩

end Binding

namespace Template

theorem length_flatMap_parameters (bs : List Binding) :
    (bs.flatMap Binding.parameters).length = (bs.map Binding.markers).sum := by
  rw [List.length_flatMap]
  congr 1
  apply List.map_congr_left
  intro b _
  exact b.length_parameters

theorem check_bindings {arguments : List Value} {located : Bool} {k : Nat} {ps : List Placeholder}
    (fits : refusal? arguments located k ps = none) :
    ∀ b ∈ bindings arguments k ps, b.type.check b.value = none := by
  induction ps generalizing k with
  | nil =>
    intro b hb
    cases hb
  | cons p ps ih =>
    rw [refusal?, Option.or_eq_none_iff, Placeholder.refusal?, Option.or_eq_none_iff] at fits
    obtain ⟨⟨_, bound⟩, rest⟩ := fits
    obtain ⟨t, v, type, argument, accepted⟩ := unbound?_eq_none_iff.mp bound
    intro b hb
    rw [bindings, type, argument] at hb
    rcases List.mem_cons.mp hb with rfl | hb
    · exact accepted
    · exact ih rest b hb

theorem checked_of_parse {d : Dialect} {marker template : String} {arguments : List Value}
    {q : ParsedQuery} (parsed : parse d marker (.text template) arguments = .ok q) :
    ∀ p ∈ q.parameters, p.Checked := by
  obtain ⟨fits, rfl⟩ := Parser.parse_ok parsed
  intro p hp
  obtain ⟨b, hb, hp⟩ := List.mem_flatMap.mp hp
  exact Binding.checked_parameters (check_bindings fits b hb) hp

/-- What a template that could be read was made into: each of its placeholders names a type and an
argument, and shows in the text and in the parameters by these. -/
theorem bindings_of_parse {d : Dialect} {marker template : String} {arguments : List Value}
    {q : ParsedQuery} (parsed : parse d marker (.text template) arguments = .ok q) :
    ∃ (ps : List (Nat × Placeholder)) (bs : List Binding), Occurrences d (clean template) ps ∧
      ps.length = bs.length ∧
      (∀ (i j : Nat) (p : Placeholder) (b : Binding), ps[i]? = some (j, p) → bs[i]? = some b →
        p.type? = some b.type ∧ arguments[p.index i]? = some b.value) ∧
      q.sql = String.ofList (splice d marker (clean template) 0 (ps.zip bs)) ∧
      q.parameters = bs.flatMap Binding.parameters := by
  obtain ⟨fits, rfl⟩ := Parser.parse_ok parsed
  refine ⟨Parser.occurrencesIn d template, _, occurrences_pieces d _, ?_, ?_, rfl, rfl⟩
  · rw [← length_bindings fits, List.length_map]
  · intro i j p b hp hb
    have named : ((Parser.occurrencesIn d template).map (·.2))[i]? = some p := by
      rw [List.getElem?_map, hp]
      rfl
    have spec := bindings_spec fits i p b named hb
    rwa [Nat.zero_add] at spec

/-- The text of a template that could be read has a marker for each of its parameters. -/
theorem markers_of_parse {d : Dialect} {marker template : String} {arguments : List Value}
    {q : ParsedQuery} (parsed : parse d marker (.text template) arguments = .ok q) :
    ∃ ps bs, Occurrences d (clean template) ps ∧ ps.length = bs.length ∧
      q.sql = String.ofList (splice d marker (clean template) 0 (ps.zip bs)) ∧
      q.parameters.length = (bs.map Binding.markers).sum := by
  obtain ⟨ps, bs, occurrences, each, _, text, parameters⟩ := bindings_of_parse parsed
  exact ⟨ps, bs, occurrences, each, text, parameters ▸ length_flatMap_parameters bs⟩

end Template

namespace Statement

open Template (Occurrences clean splice)

/-- Binds parameters to a statement and executes it. -/
def executeWith (ps : List BoundParameter) : StatementAction Unit := do
  bindAll ps
  execute

/-- What a driver receives for a template that could be read, if its parameters are bound to a fresh
statement: either one of them is refused, and the driver hears nothing, or it receives one value for
each marker in the text, in their order, each of the type that its placeholder names, and with each
the length of it. -/
theorem sent_values_sound {d : Dialect} {marker template : String} {arguments : List Value}
    {q : ParsedQuery} (parsed : Template.parse d marker (.text template) arguments = .ok q)
    (cursor : Cursor) (errorClass : ErrorClass) (driver : Driver) :
    let start : Live Statement := ⟨{ cursor, sql := q.sql, errorClass }, driver⟩
    ∃ es, ((executeWith q.parameters).after start).driver.history = driver.history ++ es ∧
      ((es = [] ∧ ∃ (i : Nat) (p : BoundParameter) (f : Failure), q.parameters[i]? = some p ∧
          p.RefusedAt (i + 1) f ∧
          (executeWith q.parameters).outcome start = .error f) ∨
        ∃ ps bs xs, Occurrences d (clean template) ps ∧ ps.length = bs.length ∧
          q.sql = String.ofList (splice d marker (clean template) 0 (ps.zip bs)) ∧
          xs.length = (bs.map Binding.markers).sum ∧ List.Forall₂ Sound q.parameters xs ∧
          Sends cursor.number q.sql xs (driver.features.hasSetInputSizes && !xs.isEmpty) es) := by
  intro start
  let s : Statement := { cursor, sql := q.sql, errorClass }
  have bound := bindAll_eq (s := s) (d := driver) rfl rfl rfl q.parameters
  have checked := Template.checked_of_parse parsed
  cases encoded : encodeFrom 1 q.parameters with
  | ok xs =>
    rw [encoded] at bound
    have sound := BoundParameter.sound_of_encodeFrom checked encoded
    obtain ⟨es, c, d', ran, sends, _, executed⟩ := execute_withBound (s := s) (d := driver) rfl xs
    have run : executeWith q.parameters start = execute ⟨s.withBound xs, driver⟩ :=
      Action.bind_ok bound _
    refine ⟨es, ?_, .inr ?_⟩
    · rw [Action.after, run, executed]
      cases lastFailure es <;> exact ran.history
    · obtain ⟨ps, bs, occurrences, each, text, count⟩ := Template.markers_of_parse parsed
      exact ⟨ps, bs, xs, occurrences, each, text, sound.length_eq ▸ count, sound, sends⟩
  | error f =>
    rw [encoded] at bound
    obtain ⟨xs, bound⟩ := bound
    obtain ⟨i, p, here, refused⟩ := BoundParameter.refused_of_encodeFrom checked encoded
    have run : executeWith q.parameters start = .error f ⟨s.withBound xs, driver⟩ :=
      Action.bind_error bound _
    refine ⟨[], ?_, .inl ⟨rfl, i, p, f, here, refused, ?_⟩⟩
    · rw [Action.after, run]
      exact (List.append_nil _).symm
    · rw [Action.outcome, run]

theorem sent_values_sound_digits :
    let driver : Driver := { features := { moduleName := "", hasSetInputSizes := true } }
    let start (q : ParsedQuery) : Live Statement := ⟨{ cursor := {}, sql := q.sql }, driver⟩
    ∃ q, Template.parse .basic "?" (.text "{d} {les}")
        [.bytes .binary [52, 50], .list [.null, .text "<"]] = .ok q ∧
      ∃ es xs, ((executeWith q.parameters).after (start q)).driver.history = es ∧
        List.Forall₂ Sound q.parameters xs ∧ Sends 0 q.sql xs (!xs.isEmpty) es := by
  intro driver start
  have sent : ((Template.parse .basic "?" (.text "{d} {les}")
      [.bytes .binary [52, 50], .list [.null, .text "<"]]).bind fun q =>
        (executeWith q.parameters).outcome (start q)).isOk = true := by decide +kernel
  cases parsed : Template.parse .basic "?" (.text "{d} {les}")
      [.bytes .binary [52, 50], .list [.null, .text "<"]] with
  | error e =>
    rw [parsed] at sent
    contradiction
  | ok q =>
    rw [parsed] at sent
    obtain ⟨es, history, reached⟩ := sent_values_sound parsed {} .any driver
    rcases reached with ⟨_, _, _, _, _, _, failed⟩ | ⟨_, _, xs, _, _, _, _, sound, sends⟩
    · have error : ((Except.ok q).bind fun q =>
          (executeWith q.parameters).outcome (start q)) = .error _ := failed
      rw [error] at sent
      contradiction
    · exact ⟨q, rfl, es, xs, history, sound, sends⟩

end Statement

end SqlTemplate
