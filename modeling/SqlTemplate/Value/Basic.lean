import SqlTemplate.Number.Binary64

/-!
The values that templates bind, rows hold and settings take.
-/
namespace SqlTemplate

/-- What holds a sequence of bytes. `binary` is the kind made for binary placeholders. -/
inductive BytesKind
  | plain
  | mutable
  | view
  | binary
  deriving DecidableEq, Repr

inductive Value
  | null
  | bool (b : Bool)
  | int (n : Int)
  | float (x : Number.Binary64)
  | text (s : String)
  | bytes (kind : BytesKind) (data : List UInt8)
  | list (elements : List Value)
  | tuple (elements : List Value)
  /-- Pairs of a key and its value in order of insertion, no two keys equal. -/
  | dict (entries : List (Value × Value))
  deriving Repr, Inhabited

def BytesKind.typeName : BytesKind → String
  | .plain => "bytes"
  | .mutable => "bytearray"
  | .view => "memoryview"
  | .binary => "Binary"

namespace Value

/-- The name of a value's type in messages. -/
def typeName : Value → String
  | null => "NoneType"
  | bool _ => "bool"
  | int _ => "int"
  | float _ => "float"
  | text _ => "str"
  | bytes kind _ => kind.typeName
  | list _ => "list"
  | tuple _ => "tuple"
  | dict _ => "dict"

def isNull : Value → Bool
  | null => true
  | _ => false

/-- Whether a value counts as given: zeros and empty values do not. -/
def truthy : Value → Bool
  | null => false
  | bool b => b
  | int n => n != 0
  | float x => !x.isZero
  | text s => !s.isEmpty
  | bytes _ data => !data.isEmpty
  | list vs => !vs.isEmpty
  | tuple vs => !vs.isEmpty
  | dict es => !es.isEmpty

/-- The integer that a truth value or an integer stands for. -/
def integer? : Value → Option Int
  | bool b => some (if b then 1 else 0)
  | int n => some n
  | _ => none

/-- How many natural numbers are less than a number, absent if all are. What is no number fails with
its type. -/
def naturalsBelow : Value → Except String (Option Nat)
  | bool b => .ok (some (if b then 1 else 0))
  | int n => .ok (some n.toNat)
  | float x => .ok x.naturalsBelow
  | v => .error v.typeName

mutual

/-- Equality of values: numbers by what they stand for, bytes by their content whatever holds them,
dictionaries without regard to order. -/
def equals : Value → Value → Bool
  | null, null => true
  | text s, text t => s == t
  | bytes _ a, bytes _ b => a == b
  | list vs, list ws => equalsAll vs ws
  | tuple vs, tuple ws => equalsAll vs ws
  | dict es, dict fs => es.length == fs.length && entriesIn es fs
  | float x, float y => x.equals y
  | float x, w => (integer? w).any x.equalsInt
  | v, float y => (integer? v).any y.equalsInt
  | bool a, w => (integer? w).any (· == if a then 1 else 0)
  | int n, w => (integer? w).any (· == n)
  | _, _ => false

def equalsAll : List Value → List Value → Bool
  | [], [] => true
  | v :: vs, w :: ws => equals v w && equalsAll vs ws
  | _, _ => false

/-- Whether every entry has an equal one in the other dictionary. -/
def entriesIn : List (Value × Value) → List (Value × Value) → Bool
  | [], _ => true
  | (k, v) :: es, fs => (fs.any fun f => equals k f.1 && equals v f.2) && entriesIn es fs

end

mutual

/-- The type of the first part that cannot be a key, if there is one. -/
def unhashable? : Value → Option String
  | list vs => some (typeName (list vs))
  | dict es => some (typeName (dict es))
  | bytes .mutable data => some (typeName (bytes .mutable data))
  | tuple vs => unhashableIn? vs
  | _ => none

def unhashableIn? : List Value → Option String
  | [] => none
  | v :: vs => (unhashable? v).or (unhashableIn? vs)

end

/-- The value stored under a key. -/
def find? (key : Value) (entries : List (Value × Value)) : Option Value :=
  (entries.find? fun e => equals e.1 key).map (·.2)

/-- Stores a value under a key; a key that is there already keeps its place. -/
def insert (key value : Value) : List (Value × Value) → List (Value × Value)
  | [] => [(key, value)]
  | (k, v) :: es => if equals k key then (k, value) :: es else (k, v) :: insert key value es

/-- A dictionary of the given pairs; of two with equal keys the later value counts. -/
def ofPairs (pairs : List (Value × Value)) : Value :=
  dict (pairs.foldl (fun es p => insert p.1 p.2 es) [])

end Value

end SqlTemplate
