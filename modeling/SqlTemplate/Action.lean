/-!
Actions: steps that change a state and end with a value or a failure. The state that was reached is
kept either way.
-/
namespace SqlTemplate

/-- An action on `σ` that may fail with `ε`. -/
abbrev Action (ε σ α : Type) := EStateM ε σ α

namespace Action

variable {ε ε' σ τ α : Type}

/-- Runs an action on a part of the state. -/
def within (part : τ → σ) (put : σ → τ → τ) (m : Action ε σ α) : Action ε τ α := fun t =>
  match m (part t) with
  | .ok a s => .ok a (put s t)
  | .error e s => .error e (put s t)

/-- Runs an action and words its failure anew. -/
def mapFailure (f : ε → ε') (m : Action ε σ α) : Action ε' σ α := fun s =>
  match m s with
  | .ok a t => .ok a t
  | .error e t => .error (f e) t

/-- Goes on from a failure, in the state that it left. -/
def recover (m : Action ε σ α) (handle : ε → Action ε σ α) : Action ε σ α := fun s =>
  match m s with
  | .ok a t => .ok a t
  | .error e t => handle e t

/-- Runs an action and then another one, whether or not the first failed. If both fail, the later
failure counts. -/
def ensuring (m : Action ε σ α) (cleanup : Action ε σ Unit) : Action ε σ α := fun s =>
  match m s with
  | .ok a t =>
    match cleanup t with
    | .ok _ u => .ok a u
    | .error e u => .error e u
  | .error e t =>
    match cleanup t with
    | .ok _ u => .error e u
    | .error e' u => .error e' u

def ofExcept : Except ε α → Action ε σ α
  | .ok a => fun s => .ok a s
  | .error e => fun s => .error e s

/-- What an action ends with. -/
def outcome (m : Action ε σ α) (s : σ) : Except ε α :=
  match m s with
  | .ok a _ => .ok a
  | .error e _ => .error e

/-- The state that an action leaves behind. -/
def after (m : Action ε σ α) (s : σ) : σ :=
  match m s with
  | .ok _ t => t
  | .error _ t => t

end Action

end SqlTemplate
