import SqlTemplate.Value.Conversion

/-!
Which values are converted to whole numbers, and which float is none.
-/
namespace SqlTemplate.Value

/-- A value writes or holds a whole number, and is no truth value. -/
structure StandsFor (v : Value) (n : Int) : Prop where
  converted : v.toInteger = .ok n
  noSwitch : ∀ b, v ≠ .bool b
  whole : ∀ x, v = .float x → x.equalsInt n = true

theorem standsFor_int (n : Int) : (int n).StandsFor n :=
  ⟨rfl, nofun, nofun⟩

theorem StandsFor.unique {v : Value} {n m : Int} (hn : v.StandsFor n) (hm : v.StandsFor m) :
    n = m :=
  Except.ok.inj (hn.converted.symm.trans hm.converted)

/-- A float without a finite value that is still a number. -/
def IsInfinite (v : Value) : Prop :=
  ∃ x negative, v = .float x ∧ x.read = .infinite negative

theorem readNumeral_ne_infinite (v : Value) (read : Except Number.NumeralError Int) :
    read.mapError (numeralFailure v) ≠ .error .infinite := by
  intro failed
  cases read with
  | ok n => cases failed
  | error e =>
    cases e with
    | malformed => cases failed
    | tooLong digits => cases failed

theorem toInteger_eq_infinite_iff {v : Value} : v.toInteger = .error .infinite ↔ v.IsInfinite := by
  cases v with
  | float x => cases read : x.read <;> simp [toInteger, IsInfinite, read]
  | text s => simp [toInteger, IsInfinite, readNumeral_ne_infinite]
  | bytes kind data => simp [toInteger, IsInfinite, readNumeral_ne_infinite]
  | _ => simp [toInteger, IsInfinite]

theorem toBytes_ne_infinite (v : Value) : v.toBytes ≠ .error .infinite := by
  cases v with
  | text s =>
    rw [toBytes, encodeLatin1]
    split <;> simp
  | _ => simp [toBytes]

theorem toText_ne_infinite (v : Value) : v.toText ≠ .error .infinite := by
  rw [toText]
  split <;> simp

end SqlTemplate.Value
