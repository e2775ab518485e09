import Mathlib.Logic.Function.Basic
import SqlTemplate.Proofs.Settings.Supplied

/-!
How invalid settings are refused. Every value that does not belong is refused with an error that
says which setting is invalid, with one exception: a float that is infinite is not taken for a
number that is invalid, and the failure of its conversion is what the caller sees.
-/
namespace SqlTemplate.Settings

/-! ## One setting -/

section
variable {setting : Setting} {v : Value} {e : Failure}

end

/-! ## All settings -/

/-- An infinite number is reached: one for the error reporting, or one for the dialect when
everything else is valid. -/
def Escapes (raw : Setting → Value) : Prop :=
  (raw .errorReporting).IsInfinite ∨
    (raw .queryMode).IsInfinite ∧ ∃ t, Sound (Function.update raw .queryMode (.int 0)) t

end SqlTemplate.Settings
