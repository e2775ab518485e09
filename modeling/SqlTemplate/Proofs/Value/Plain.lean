import Mathlib.Algebra.Group.Nat.Defs
import SqlTemplate.Proofs.Number.Written
import SqlTemplate.Value.Conversion

/-!
Values whose plain text is a run of digits: whatever holds the digits, the whole number that the
value is converted to is the one that they write.
-/
namespace SqlTemplate

open Number (IsDigits Signed written)

namespace Number

theorem isDigits_toDigits (n : Nat) : IsDigits (Nat.toDigits 10 n) :=
  ⟨Nat.toDigits_ne_nil, fun _ => Nat.isDigit_of_mem_toDigits (by decide) (by decide)⟩

theorem toList_ofNat (n : Nat) : (toString (Int.ofNat n)).toList = Nat.toDigits 10 n :=
  Nat.toList_repr

theorem toList_negSucc (n : Nat) :
    (toString (Int.negSucc n)).toList = '-' :: Nat.toDigits 10 (n + 1) := by
  rw [← Nat.toList_repr]
  exact String.toList_append

/-- A whole number is the one that its text writes. -/
theorem written_toString (n : Int) : written (toString n).toList = n := by
  cases n with
  | ofNat n =>
    rw [toList_ofNat, written_digits (isDigits_toDigits n), Nat.ofDigitChars_ten_toDigits]
    rfl
  | negSucc n =>
    rw [toList_negSucc, written, Nat.ofDigitChars_ten_toDigits]
    rfl

theorem countP_toString (n : Int) :
    (toString n).toList.countP Char.isDigit = (Nat.toDigits 10 n.natAbs).length := by
  have all (m : Nat) : (Nat.toDigits 10 m).countP Char.isDigit = (Nat.toDigits 10 m).length :=
    List.countP_eq_length.mpr (isDigits_toDigits m).digit
  cases n with
  | ofNat n =>
    rw [toList_ofNat]
    exact all n
  | negSucc n =>
    rw [toList_negSucc, List.countP_cons_of_neg (by decide)]
    exact all (n + 1)

/-! ## Floats -/

namespace Binary64

/-- Letters and points: a text that has one of these is no run of digits. -/
def isMark (c : Char) : Bool :=
  c == '.' || c == 'e' || c == 'n'

theorem write_mark (d : Decimal) : ∃ c ∈ (plainLayout.write d).toList, isMark c = true := by
  unfold DecimalLayout.write
  simp only
  split
  · split
    · exact ⟨'.', by simp, rfl⟩
    · refine ⟨'.', ?_, rfl⟩
      split <;> simp [plainLayout]
  · exact ⟨'e', by simp [plainLayout], rfl⟩

theorem text_mark (x : Binary64) : ∃ c ∈ x.text.toList, isMark c = true := by
  unfold text
  split
  · exact ⟨'n', by decide, rfl⟩
  · exact ⟨'n', by simp [plainLayout], rfl⟩
  · split
    · exact ⟨'.', by simp [plainLayout], rfl⟩
    · obtain ⟨c, hc, mark⟩ := write_mark (RoundingInterval.of _ _).shortest
      exact ⟨c, by rw [String.toList_append]; exact List.mem_append_right _ hc, mark⟩

theorem text_not_digits (x : Binary64) : ¬ Signed IsDigits x.text.toList := by
  intro digits
  obtain ⟨c, hc, mark⟩ := text_mark x
  rcases digits.mem hc with digit | rfl | rfl
  · simp only [isMark, Bool.or_eq_true, beq_iff_eq] at mark
    rcases mark with (rfl | rfl) | rfl <;> exact absurd digit (by decide)
  · exact absurd mark (by decide)
  · exact absurd mark (by decide)

end Binary64

end Number

/-! ## Bytes -/

namespace Text

/-- A character between quotation marks stands for itself, or an escape takes its place. -/
theorem quoteChar_cases (style : QuoteStyle) (mark c : Char) :
    quoteChar style mark c = [c] ∨ '\\' ∈ quoteChar style mark c := by
  unfold quoteChar codePointEscape
  simp only
  split_ifs <;> simp

/-- Text that is not escaped is the text that was quoted. -/
theorem flatMap_quoteChar {style : QuoteStyle} {mark : Char} {cs : List Char}
    (plain : '\\' ∉ cs.flatMap (quoteChar style mark)) :
    cs.flatMap (quoteChar style mark) = cs := by
  induction cs with
  | nil => rfl
  | cons c cs ih =>
    rw [List.flatMap_cons, List.mem_append, not_or] at plain
    obtain ⟨here, rest⟩ := plain
    have same : quoteChar style mark c = [c] := (quoteChar_cases style mark c).resolve_right here
    rw [List.flatMap_cons, same, ih rest, List.singleton_append]

end Text

namespace Value

open Text (byteChar quoteChar quoteMark)

theorem plain_binary (data : List UInt8) :
    (plain (.bytes .binary data)).toList =
      (data.map byteChar).flatMap (quoteChar .bytes (quoteMark (data.map byteChar))) := by
  simp [plain, Text.quotedBytes, Text.quoteWith]

theorem byteChar_toNat (b : UInt8) : (byteChar b).toNat = b.toNat := by
  have small : b.toNat < 256 := b.toNat_lt
  have valid : b.toNat.isValidChar := .inl (by omega)
  rw [byteChar, Char.ofNat, dif_pos valid]
  rfl

theorem numeralByte_eq {b : UInt8} (ascii : (byteChar b).toNat < 128) :
    numeralByte b = byteChar b := by
  rw [byteChar_toNat] at ascii
  exact if_pos (UInt8.lt_iff_toNat_lt.mpr ascii)

theorem plain_binary_digits {data : List UInt8}
    (digits : Signed IsDigits (plain (.bytes .binary data)).toList) :
    data.map numeralByte = (plain (.bytes .binary data)).toList := by
  have unescaped : (plain (.bytes .binary data)).toList = data.map byteChar := by
    rw [plain_binary]
    apply Text.flatMap_quoteChar
    rw [← plain_binary]
    intro backslash
    rcases digits.mem backslash with h | h | h <;> exact absurd h (by decide)
  rw [unescaped] at digits ⊢
  apply List.map_congr_left
  intro b hb
  apply numeralByte_eq
  rcases digits.mem (List.mem_map_of_mem hb) with digit | plus | minus
  · simp only [Char.isDigit, Bool.and_eq_true, decide_eq_true_eq] at digit
    have := UInt32.le_iff_toNat_le.mp digit.2
    exact Nat.lt_of_le_of_lt this (by decide)
  · rw [plus]
    decide
  · rw [minus]
    decide

/-! ## Conversion -/

theorem overlong_int_iff {n : Int} :
    (int n).overlong = true ↔ 10 ^ Number.digitLimit ≤ n.natAbs := by
  have few : (Nat.toDigits 10 n.natAbs).length ≤ Number.digitLimit ↔
      n.natAbs < 10 ^ Number.digitLimit :=
    Nat.length_toDigits_le_iff (by decide) (by decide)
  rw [overlong, decide_eq_true_eq]
  omega

theorem quote_tuple (vs : List Value) : '(' ∈ (quote (.tuple vs)).toList := by
  cases vs with
  | nil => simp [quote]
  | cons v vs => cases vs <;> simp [quote]

/-- A numeral, in a text or in binary content, that has more digits than are read. -/
inductive LongNumeral : Value → Prop
  | text {s : String} (long : Number.digitLimit < s.toList.countP Char.isDigit) :
    LongNumeral (.text s)
  | binary {data : List UInt8}
      (long : Number.digitLimit < (plain (.bytes .binary data)).toList.countP Char.isDigit) :
    LongNumeral (.bytes .binary data)

/-- The values that can have a run of digits as their text. -/
inductive HoldsDigits : Value → Prop
  | int (n : Int) : HoldsDigits (.int n)
  | text (s : String) : HoldsDigits (.text s)
  | binary (data : List UInt8) : HoldsDigits (.bytes .binary data)

theorem holdsDigits_of_digits {v : Value} (digits : Signed IsDigits v.plain.toList) :
    v.HoldsDigits := by
  have other {c : Char} (hc : c ∈ v.plain.toList)
      (h : ¬ (c.isDigit = true ∨ c = '+' ∨ c = '-')) : False := h (digits.mem hc)
  cases v with
  | int n => exact .int n
  | text s => exact .text s
  | null => exact (other (c := 'N') (by decide) (by decide)).elim
  | bool b =>
    cases b with
    | false => exact (other (c := 'F') (by decide) (by decide)).elim
    | true => exact (other (c := 'T') (by decide) (by decide)).elim
  | float x => exact absurd digits (Number.Binary64.text_not_digits x)
  | bytes kind data =>
    cases kind with
    | binary => exact .binary data
    | plain => exact (other (c := 'b') (by simp [plain, quote, BytesKind.quote, Text.quotedBytes])
        (by decide)).elim
    | mutable => exact (other (c := 'b') (by simp [plain, quote, BytesKind.quote]) (by decide)).elim
    | view => exact (other (c := '<') (by simp [plain, quote, BytesKind.quote]) (by decide)).elim
  | list vs => exact (other (c := '[') (by simp [plain, quote]) (by decide)).elim
  | tuple vs => exact (other (c := '(') (quote_tuple vs) (by decide)).elim
  | dict es => exact (other (c := '\x7b') (by simp [plain, quote]) (by decide)).elim

/-- A value whose text is a run of digits is converted to the number that they write, unless they
are too many. -/
theorem toInteger_of_digits {v : Value} (digits : Signed IsDigits v.plain.toList) :
    (v.toInteger = .ok (written v.plain.toList) ∧ ¬ v.LongNumeral) ∨
      (∃ n, v.toInteger = .error (.tooManyDigits n)) ∧ v.LongNumeral := by
  cases holdsDigits_of_digits digits with
  | int n =>
    have read : toInteger (.int n) = .ok (written (plain (.int n)).toList) :=
      congrArg Except.ok (Number.written_toString n).symm
    exact .inl ⟨read, fun long => nomatch long⟩
  | text s =>
    have same : (text s).plain = s := rfl
    rw [same] at digits ⊢
    rw [toInteger, Number.readInteger_signed digits, Number.length_takeSign digits]
    split
    · next long => exact .inr ⟨⟨_, rfl⟩, .text long⟩
    · next short =>
      refine .inl ⟨rfl, ?_⟩
      intro numeral
      cases numeral with
      | text long => exact short long
  | binary data =>
    rw [toInteger, plain_binary_digits digits, Number.readInteger_signed digits,
      Number.length_takeSign digits]
    split
    · next long => exact .inr ⟨⟨_, rfl⟩, .binary long⟩
    · next short =>
      refine .inl ⟨rfl, ?_⟩
      intro numeral
      cases numeral with
      | binary long => exact short long

/-- Digits are converted alike in whatever value they stand, if the value can be written out. -/
theorem toInteger_eq_text {v : Value} (digits : Signed IsDigits v.plain.toList)
    (short : v.overlong = false) : v.toInteger = (text v.plain).toInteger := by
  have read : (text v.plain).toInteger = if Number.digitLimit < v.plain.toList.countP Char.isDigit
      then .error (.tooManyDigits (v.plain.toList.countP Char.isDigit))
      else .ok (written v.plain.toList) := by
    rw [toInteger, Number.readInteger_signed digits, Number.length_takeSign digits]
    split <;> rfl
  cases holdsDigits_of_digits digits with
  | int n =>
    have few : ¬ Number.digitLimit < (plain (.int n)).toList.countP Char.isDigit := by
      have count : (plain (.int n)).toList.countP Char.isDigit =
          (Nat.toDigits 10 n.natAbs).length := Number.countP_toString n
      rw [count]
      simpa [overlong] using short
    rw [read, if_neg few]
    exact congrArg Except.ok (Number.written_toString n).symm
  | text s => rfl
  | binary data =>
    rw [read, toInteger, plain_binary_digits digits, Number.readInteger_signed digits,
      Number.length_takeSign digits]
    split <;> rfl

end Value

end SqlTemplate
