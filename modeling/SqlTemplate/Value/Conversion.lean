import SqlTemplate.Number.Numeral
import SqlTemplate.Value.Text

/-!
Conversions of values to the types that drivers bind: whole numbers, plain bytes and text.
-/
namespace SqlTemplate

inductive ConversionError
  | notNumber (typeName : String)
  /-- A text or bytes that write no whole number. -/
  | notNumeral (written : Value)
  | tooManyDigits (digits : Nat)
  /-- An integer has more digits than are written out. -/
  | unwritten
  | nan
  | infinite
  | notBinary (typeName : String)
  /-- A run of `length` characters from `position` on that have no single byte. -/
  | notLatin1 (first : Char) (position length : Nat)
  deriving Repr

namespace ConversionError

/-- How much of a quoted text a message shows. -/
def shownLength : Nat := 200

def message : ConversionError → String
  | notNumber typeName =>
    "int() argument must be a string, a bytes-like object or a real number, not '" ++ typeName ++
      "'"
  | notNumeral written =>
    "invalid literal for int() with base 10: " ++
      String.ofList (written.quote.toList.take shownLength)
  | tooManyDigits digits =>
    "Exceeds the limit (" ++ toString Number.digitLimit ++
      " digits) for integer string conversion: value has " ++ toString digits ++
      " digits; use sys.set_int_max_str_digits() to increase the limit"
  | unwritten =>
    "Exceeds the limit (" ++ toString Number.digitLimit ++
      " digits) for integer string conversion; " ++
      "use sys.set_int_max_str_digits() to increase the limit"
  | nan => "cannot convert float NaN to integer"
  | infinite => "cannot convert float infinity to integer"
  | notBinary typeName => "cannot convert " ++ typeName ++ " to Binary"
  | notLatin1 first position length =>
    "'latin-1' codec can't encode " ++
      (if length = 1 then
        "character '" ++ String.ofList (Text.codePointEscape first) ++ "' in position " ++
          toString position
      else
        "characters in position " ++ toString position ++ "-" ++
          toString (position + length - 1)) ++
      ": ordinal not in range(256)"

end ConversionError

namespace Value

/-- A numeral's failure, shown with what was written. -/
def numeralFailure (written : Value) : Number.NumeralError → ConversionError
  | .malformed => .notNumeral written
  | .tooLong digits => .tooManyDigits digits

/-- The character a byte is read as in a numeral; bytes beyond ASCII belong to none. -/
def numeralByte (b : UInt8) : Char :=
  if b < 128 then Text.byteChar b else '\ufffd'

/-- The whole number a value stands for: a float is cut off toward zero, text and bytes are read. -/
def toInteger : Value → Except ConversionError Int
  | bool b => .ok (if b then 1 else 0)
  | int n => .ok n
  | float x =>
    match x.read with
    | .nan => .error .nan
    | .infinite _ => .error .infinite
    | .finite negative significand exponent =>
      .ok (Number.Binary64.truncate negative significand exponent)
  | text s => (Number.readInteger s.toList).mapError (numeralFailure (text s))
  | bytes _ data =>
    (Number.readInteger (data.map numeralByte)).mapError
      (numeralFailure (bytes .plain (data.take ConversionError.shownLength)))
  | v => .error (.notNumber v.typeName)

def isLatin1 (c : Char) : Bool :=
  c.toNat < 256

/-- One byte for each character of a text, as long as every character has one. -/
def encodeLatin1 (s : String) : Except ConversionError (List UInt8) :=
  let cs := s.toList
  let position := (cs.takeWhile isLatin1).length
  match cs.dropWhile isLatin1 with
  | [] => .ok (cs.map fun c => UInt8.ofNat c.toNat)
  | c :: rest => .error (.notLatin1 c position ((rest.takeWhile (!isLatin1 ·)).length + 1))

/-- The bytes a value stands for: of a text the byte of each character. -/
def toBytes : Value → Except ConversionError (List UInt8)
  | text s => encodeLatin1 s
  | bytes _ data => .ok data
  | v => .error (.notBinary v.typeName)

mutual

/-- Whether a value is or holds an integer with more digits than are written out. -/
def overlong : Value → Bool
  | int n => Number.digitLimit < (Nat.toDigits 10 n.natAbs).length
  | list vs => overlongIn vs
  | tuple vs => overlongIn vs
  | dict es => overlongEntries es
  | _ => false

def overlongIn : List Value → Bool
  | [] => false
  | v :: vs => overlong v || overlongIn vs

def overlongEntries : List (Value × Value) → Bool
  | [] => false
  | (k, v) :: es => overlong k || overlong v || overlongEntries es

end

/-- The text a value is bound as. -/
def toText (v : Value) : Except ConversionError String :=
  if v.overlong then .error .unwritten else .ok v.plain

end Value

end SqlTemplate
