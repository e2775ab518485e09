import SqlTemplate.Number.Decimal
import SqlTemplate.Text.Quoted
import SqlTemplate.Value.Basic

/-!
The texts of values: the plain text that a driver receives, and the quoted text that messages show.
-/
namespace SqlTemplate

open Text (quoted quotedBytes)

/-- The quoted text of bytes. A view shows nothing of what it looks at. -/
def BytesKind.quote (kind : BytesKind) (data : List UInt8) : String :=
  match kind with
  | .plain => quotedBytes data
  | .binary => quotedBytes data
  | .mutable => "bytearray(" ++ quotedBytes data .mutableBytes ++ ")"
  | .view => "<memory>"

namespace Value

mutual

/-- The text of a value as messages and containers show it. -/
def quote : Value → String
  | null => "None"
  | bool b => if b then "True" else "False"
  | int n => toString n
  | float x => x.text
  | text s => quoted s
  | bytes kind data => kind.quote data
  | list vs => "[" ++ ", ".intercalate (quoteAll vs) ++ "]"
  | tuple [v] => "(" ++ quote v ++ ",)"
  | tuple vs => "(" ++ ", ".intercalate (quoteAll vs) ++ ")"
  | dict es => "\x7b" ++ ", ".intercalate (quoteEntries es) ++ "\x7d"

def quoteAll : List Value → List String
  | [] => []
  | v :: vs => quote v :: quoteAll vs

def quoteEntries : List (Value × Value) → List String
  | [] => []
  | (k, v) :: es => (quote k ++ ": " ++ quote v) :: quoteEntries es

end

/-- The plain text of a value: a text is its own, binary content goes without its quotation marks,
and anything else is as it is quoted. -/
def plain : Value → String
  | text s => s
  | bytes .binary data =>
    let inner := (quotedBytes data).toList
    String.ofList ((inner.drop 2).take (inner.length - 3))
  | v => quote v

end Value

end SqlTemplate
