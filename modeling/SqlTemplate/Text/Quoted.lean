import SqlTemplate.Text.Printable

/-!
Texts and bytes in quotation marks, as messages show them: one line of printable characters from
which the content can be read back.
-/
namespace SqlTemplate.Text

/-- An apostrophe, unless the content has one and has no double quote. -/
def quoteMark (cs : List Char) : Char :=
  if cs.contains '\'' && !cs.contains '"' then '"' else '\''

/-- At least `width` lower-case hexadecimal digits. -/
def hexDigits (width n : Nat) : List Char :=
  let digits := Nat.toDigits 16 n
  List.replicate (width - digits.length) '0' ++ digits

/-- The escape of a character by its code point, in the shortest of three widths. -/
def codePointEscape (c : Char) : List Char :=
  let n := c.toNat
  if n < 0x100 then '\\' :: 'x' :: hexDigits 2 n
  else if n < 0x10000 then '\\' :: 'u' :: hexDigits 4 n
  else '\\' :: 'U' :: hexDigits 8 n

/-- How quoted content is shown between its marks. -/
structure QuoteStyle where
  /-- The characters that stand for themselves. -/
  shown : Char → Bool
  /-- Whether an apostrophe is escaped between marks of the other kind too. -/
  escapesApostrophe : Bool := false

def QuoteStyle.text : QuoteStyle where
  shown := isPrintable

/-- Bytes are shown as the ASCII characters they stand for, if they stand for one. -/
def QuoteStyle.bytes : QuoteStyle where
  shown c := 32 ≤ c.toNat && c.toNat < 127

def QuoteStyle.mutableBytes : QuoteStyle :=
  { bytes with escapesApostrophe := true }

/-- A character between the marks. -/
def quoteChar (style : QuoteStyle) (mark c : Char) : List Char :=
  if c = mark || c = '\\' || (style.escapesApostrophe && c = '\'') then ['\\', c]
  else if c = '\n' then ['\\', 'n']
  else if c = '\r' then ['\\', 'r']
  else if c = '\t' then ['\\', 't']
  else if style.shown c then [c]
  else codePointEscape c

def quoteWith (style : QuoteStyle) (cs : List Char) : List Char :=
  let mark := quoteMark cs
  mark :: (cs.flatMap (quoteChar style mark) ++ [mark])

/-- A text in quotation marks. -/
def quoted (s : String) : String :=
  String.ofList (quoteWith .text s.toList)

/-- The character whose code point is the byte. -/
def byteChar (b : UInt8) : Char :=
  Char.ofNat b.toNat

/-- Bytes in quotation marks. -/
def quotedBytes (data : List UInt8) (style : QuoteStyle := .bytes) : String :=
  String.ofList ('b' :: quoteWith style (data.map byteChar))

end SqlTemplate.Text
