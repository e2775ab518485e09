import SqlTemplate.Action
import SqlTemplate.Driver.Basic
import SqlTemplate.Error.Failure

/-!
Actions that work on a driver: calls of the driver itself, and actions of things that use it.
-/
namespace SqlTemplate

/-- Something together with the driver it works on. -/
structure Live (σ : Type) where
  it : σ
  driver : Driver

namespace Driver

/-- Ends a call, with a failure or without one. -/
def finish (c : Call) (failure : Option Fault) : Action Fault Driver Unit := fun d =>
  match failure with
  | none => .ok () (d.note ⟨c, none⟩)
  | some f => .error f (d.note ⟨c, some f⟩)

/-- Makes a call: time passes, and then it may fail. -/
def call (c : Call) : Action Fault Driver Unit := do
  finish c (← modifyGet (·.meet c.operation))

/-- A driver's failure as it leaves a handler of the given classes. -/
def handle (caught : List ErrorClass) (f : Fault) : Failure :=
  if caught.any f.errorClass.isA then .driver (.wrap f) else .ofFault f

end Driver

namespace Live

variable {ε σ τ α : Type}

/-- Runs an action of the driver beside any state. -/
def onDriver (m : Action ε Driver α) : Action ε (Live σ) α :=
  m.within (·.driver) (fun d t => { t with driver := d })

/-- Runs an action on a part of what works on the driver. -/
def onPart (part : τ → σ) (put : σ → τ → τ) (m : Action ε (Live σ) α) : Action ε (Live τ) α :=
  m.within (fun t => ⟨part t.it, t.driver⟩) (fun s t => ⟨put s.it t.it, s.driver⟩)

/-- Runs an action on something new that is forgotten afterwards; the driver stays. -/
def onNew (it : σ) (m : Action ε (Live σ) α) : Action ε (Live τ) α :=
  m.within (fun t => ⟨it, t.driver⟩) (fun s t => { t with driver := s.driver })

end Live

end SqlTemplate
