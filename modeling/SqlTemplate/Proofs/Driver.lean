import SqlTemplate.Driver.Cursor
import SqlTemplate.Proofs.Action

/-!
What a driver goes through while it takes calls. Each operation of a driver and of a cursor is
described once, by the calls that it adds to the history and by the failures that they met;
everything said about a run of operations is put together from these.
-/
namespace SqlTemplate

def Exchange.handsOut (e : Exchange) : Bool :=
  match e.call with
  | .cursor _ => e.failure.isNone
  | _ => false

def lastFailure (es : List Exchange) : Option Fault :=
  es.reverse.findSome? (·.failure)

@[simp] theorem lastFailure_nil : lastFailure [] = none := rfl

@[simp] theorem lastFailure_append (es es' : List Exchange) :
    lastFailure (es ++ es') = (lastFailure es').or (lastFailure es) := by
  simp [lastFailure, List.findSome?_append]

@[simp] theorem lastFailure_cons (e : Exchange) (es : List Exchange) :
    lastFailure (e :: es) = (lastFailure es).or e.failure := by
  rw [show e :: es = [e] ++ es from rfl, lastFailure_append]
  simp [lastFailure]

theorem mem_of_lastFailure {es : List Exchange} {f : Fault} (h : lastFailure es = some f) :
    ∃ e ∈ es, e.failure = some f := by
  obtain ⟨e, mem, failed⟩ := List.exists_of_findSome?_eq_some h
  exact ⟨e, List.mem_reverse.mp mem, failed⟩

def Classed (c : ErrorClass) (es : List Exchange) : Prop :=
  ∀ x ∈ es, ∀ f, x.failure = some f → f.errorClass.isA c = true

def Action.ended {ε σ : Type} (failure : Option ε) (s : σ) : EStateM.Result ε σ Unit :=
  match failure with
  | none => .ok () s
  | some f => .error f s

theorem Action.after_ended {ε σ : Type} {m : Action ε σ Unit} {s t : σ} {failure : Option ε}
    (h : m s = Action.ended failure t) : m.after s = t := by
  rw [Action.after, h]
  cases failure <;> rfl

namespace Live

variable {ε σ τ α : Type} {part : τ → σ} {put : σ → τ → τ} {m : Action ε (Live σ) α} {t : Live τ}

/-- An action on a part of something ends as it does on the part. -/
theorem onPart_ofExcept {u : Live σ} {outcome : Except ε α}
    (run : m ⟨part t.it, t.driver⟩ = Action.ofExcept outcome u) :
    onPart part put m t = Action.ofExcept outcome ⟨put u.it t.it, u.driver⟩ := by
  rw [onPart, Action.within, run]
  cases outcome <;> rfl

theorem onPart_after (part : τ → σ) (put : σ → τ → τ) (m : Action ε (Live σ) α) (t : Live τ) :
    (onPart part put m).after t =
      ⟨put (m.after ⟨part t.it, t.driver⟩).it t.it, (m.after ⟨part t.it, t.driver⟩).driver⟩ := by
  rw [Action.after, onPart, Action.within, Action.after]
  cases m ⟨part t.it, t.driver⟩ <;> rfl

end Live

namespace Driver

/-- A failure that the script can still bring up. -/
def Scripted (d : Driver) (f : Fault) : Prop :=
  (∃ o, some f ∈ d.faults o) ∨ ∃ r ∈ d.replies, r.error = some f

/-- A driver went on from `d` to `d'` and took the calls `es` meanwhile. -/
structure Ran (d : Driver) (es : List Exchange) (d' : Driver) : Prop where
  history : d'.history = d.history ++ es
  features : d'.features = d.features
  ticks : d'.ticks = d.ticks
  cursors : d'.cursors = d.cursors + es.countP Exchange.handsOut
  scripted : ∀ f, d'.Scripted f → d.Scripted f
  /-- Only a movement of rows fails beside the script. -/
  failures : ∀ e ∈ es, ∀ f, e.failure = some f → d.Scripted f ∨ e.call.operation = .scroll

theorem Ran.refl (d : Driver) : Ran d [] d where
  history := (List.append_nil _).symm
  features := rfl
  ticks := rfl
  cursors := rfl
  scripted _ h := h
  failures _ h := absurd h (List.not_mem_nil)

theorem Ran.trans {d d' d'' : Driver} {es es' : List Exchange} (h : Ran d es d')
    (h' : Ran d' es' d'') : Ran d (es ++ es') d'' where
  history := by rw [h'.history, h.history, List.append_assoc]
  features := h'.features.trans h.features
  ticks := h'.ticks.trans h.ticks
  cursors := by rw [h'.cursors, h.cursors, List.countP_append, Nat.add_assoc]
  scripted f hf := h.scripted f (h'.scripted f hf)
  failures e mem f hf := by
    rcases List.mem_append.mp mem with mem | mem
    · exact h.failures e mem f hf
    · exact (h'.failures e mem f hf).imp_left (h.scripted f)

theorem Ran.classed {d d' : Driver} {c : ErrorClass} {es : List Exchange} (ran : Ran d es d')
    (still : ∀ x ∈ es, x.call.operation ≠ .scroll)
    (scripted : ∀ f, d.Scripted f → f.errorClass.isA c = true) : Classed c es := by
  intro x hx f failed
  rcases ran.failures x hx f failed with known | moved
  · exact scripted f known
  · exact absurd moved (still x hx)

/-- Nothing of what the driver is asked for will fail by the script. -/
def Quiet (d : Driver) : Prop :=
  ∀ f, ¬ d.Scripted f

theorem quiet_of_nil {d : Driver} (faults : ∀ o, d.faults o = [])
    (replies : d.replies.all (·.error.isNone) = true) : d.Quiet := by
  rintro f (⟨o, mem⟩ | ⟨r, mem, fails⟩)
  · rw [faults o] at mem
    contradiction
  · have fine := List.all_eq_true.mp replies r mem
    rw [fails] at fine
    contradiction

theorem Ran.quiet {d d' : Driver} {es : List Exchange} (ran : Ran d es d') (quiet : d.Quiet) :
    d'.Quiet :=
  fun f left => quiet f (ran.scripted f left)

/-- Only a movement of rows can fail in a quiet driver. -/
theorem Ran.undisturbed {d d' : Driver} {es : List Exchange} (ran : Ran d es d') (quiet : d.Quiet)
    {x : Exchange} (mem : x ∈ es) (still : x.call.operation ≠ .scroll) : x.failure = none := by
  cases failed : x.failure with
  | none => rfl
  | some f => exact ((ran.failures x mem f failed).elim (quiet f) still).elim

theorem ran_advance (d : Driver) (ticks : Ticks) : Ran d [] (d.advance ticks) :=
  { Ran.refl d with }

theorem ran_meet (d : Driver) (o : Operation) :
    Ran d [] (d.meet o).2 ∧ ∀ f, (d.meet o).1 = some f → d.Scripted f := by
  constructor
  · refine { Ran.refl d with scripted := ?_ }
    rintro f (⟨p, mem⟩ | replies)
    · refine .inl ⟨p, ?_⟩
      simp only [meet, takeFault] at mem
      split at mem
      · exact List.mem_of_mem_drop mem
      · exact mem
    · exact .inr replies
  · intro f hf
    refine .inl ⟨o, ?_⟩
    simp only [meet, takeFault, advance, Option.join_eq_some_iff] at hf
    exact List.mem_of_head? hf

theorem ran_takeReply (d : Driver) :
    Ran d [] d.takeReply.2 ∧ ∀ f, d.takeReply.1.error = some f → d.Scripted f := by
  constructor
  · refine { Ran.refl d with scripted := ?_ }
    rintro f (faults | ⟨r, mem, hr⟩)
    · exact .inl faults
    · exact .inr ⟨r, List.mem_of_mem_drop mem, hr⟩
  · intro f hf
    simp only [takeReply] at hf
    cases head : d.replies.head? with
    | none => simp [head] at hf
    | some r =>
      rw [head] at hf
      exact .inr ⟨r, List.mem_of_head? head, hf⟩

theorem Ran.note {d d' : Driver} {e : Exchange} (h : Ran d [] d') (keeps : e.handsOut = false)
    (failure : ∀ f, e.failure = some f → d.Scripted f ∨ e.call.operation = .scroll) :
    Ran d [e] (d'.note e) :=
  { h with
    history := congrArg (· ++ [e]) (h.history.trans (List.append_nil _))
    cursors := h.cursors.trans (by simp [keeps])
    failures := fun e' mem => by
      rw [List.mem_singleton.mp mem]
      exact failure }

theorem finish_eq (c : Call) (failure : Option Fault) (d : Driver) :
    finish c failure d = Action.ended failure (d.note ⟨c, failure⟩) := by
  cases failure <;> rfl

theorem call_ran {c : Call} (other : c.operation ≠ .cursor) (d : Driver) :
    ∃ failure d', Ran d [⟨c, failure⟩] d' ∧ call c d = Action.ended failure d' := by
  obtain ⟨met, scripted⟩ := ran_meet d c.operation
  refine ⟨_, _, met.note ?_ fun f hf => .inl (scripted f hf), finish_eq c (d.meet c.operation).1 _⟩
  cases c <;> first | rfl | exact absurd rfl other

/-- A call takes its time whether it fails or not. -/
theorem clock_call (c : Call) (d : Driver) :
    ((call c).after d).clock = d.clock + d.ticks c.operation := by
  have run : call c d = Action.ended (d.meet c.operation).1
      ((d.meet c.operation).2.note ⟨c, (d.meet c.operation).1⟩) :=
    finish_eq c (d.meet c.operation).1 (d.meet c.operation).2
  rw [Action.after_ended run]
  rfl

def reply (d : Driver) (i : Nat) : Reply :=
  d.replies[i]?.getD {}

theorem reply_takeReply (d : Driver) (i : Nat) : d.takeReply.2.reply i = d.reply (i + 1) := by
  rw [reply, takeReply, List.getElem?_drop, Nat.add_comm]
  rfl

/-- Only executions use up replies. -/
theorem reply_call (c : Call) (d : Driver) (i : Nat) : ((call c).after d).reply i = d.reply i := by
  have run : call c d = Action.ended (d.meet c.operation).1
      ((d.meet c.operation).2.note ⟨c, (d.meet c.operation).1⟩) :=
    finish_eq c (d.meet c.operation).1 (d.meet c.operation).2
  rw [Action.after_ended run]
  rfl

/-- A cursor is asked for under the next number, which is used up if there is one. -/
theorem newCursor_ran (d : Driver) :
    (∃ d', Ran d [⟨.cursor d.cursors, none⟩] d' ∧ newCursor d = .ok { number := d.cursors } d') ∨
    ∃ f d', Ran d [⟨.cursor d.cursors, some f⟩] d' ∧ newCursor d = .error f d' := by
  obtain ⟨met, scripted⟩ := ran_meet d .cursor
  have run : newCursor d =
      match finish (.cursor d.cursors) (d.meet .cursor).1 (d.meet .cursor).2 with
      | .ok _ t => .ok { number := d.cursors } { t with cursors := d.cursors + 1 }
      | .error f t => .error f t := by
    simp only [newCursor, call, Action.run_bind, Action.run_get, Call.operation,
      Action.run_modifyGet]
    cases finish (.cursor d.cursors) (d.meet .cursor).1 (d.meet .cursor).2 <;> rfl
  rw [run, finish_eq]
  cases failure : (d.meet .cursor).1 with
  | none =>
    refine .inl ⟨_, ?_, rfl⟩
    exact { met with
      history := congrArg (· ++ _) (met.history.trans (List.append_nil _))
      cursors := rfl
      failures := by simp }
  | some f =>
    refine .inr ⟨f, _, met.note rfl fun f' hf => .inl (scripted f' ?_), rfl⟩
    exact failure.trans hf

theorem reply_newCursor {d d' : Driver} {c : Cursor} (run : newCursor d = .ok c d') (i : Nat) :
    d'.reply i = d.reply i := by
  obtain ⟨_, d₁, asked, rest⟩ := Action.exists_of_bind_ok run
  cases asked
  obtain ⟨_, d₂, called, rest⟩ := Action.exists_of_bind_ok rest
  have same := reply_call (.cursor d.cursors) d i
  rw [Action.after, called] at same
  cases rest
  exact same

end Driver

namespace Cursor

open Driver (Ran)

theorem setInputSizes_ran (sizes : List Value) (s : Live Cursor) :
    ∃ failure d', Ran s.driver [⟨.setInputSizes s.it.number sizes, failure⟩] d' ∧
      setInputSizes sizes s = Action.ended failure ⟨s.it, d'⟩ := by
  obtain ⟨failure, d', ran, run⟩ :=
    Driver.call_ran (c := .setInputSizes s.it.number sizes) (by simp [Call.operation]) s.driver
  refine ⟨failure, d', ran, ?_⟩
  simp only [setInputSizes, Action.run_bind, Action.run_get, Live.onDriver, Action.within, run]
  cases failure <;> rfl

theorem close_ran (s : Live Cursor) :
    ∃ failure d', Ran s.driver [⟨.closeCursor s.it.number, failure⟩] d' ∧
      close s = Action.ended failure ⟨s.it, d'⟩ := by
  obtain ⟨failure, d', ran, run⟩ :=
    Driver.call_ran (c := .closeCursor s.it.number) (by simp [Call.operation]) s.driver
  refine ⟨failure, d', ran, ?_⟩
  simp only [close, Action.run_bind, Action.run_get, Live.onDriver, Action.within, run]
  cases failure <;> rfl

theorem setInputSizes_ok {sizes : List Value} {s s' : Live Cursor}
    (run : setInputSizes sizes s = .ok () s') :
    s'.it = s.it ∧ ∀ i, s'.driver.reply i = s.driver.reply i := by
  have same := Driver.reply_call (.setInputSizes s.it.number sizes) s.driver
  simp only [setInputSizes, Action.run_bind, Action.run_get, Live.onDriver, Action.within] at run
  cases called : Driver.call (.setInputSizes s.it.number sizes) s.driver with
  | ok _ d' =>
    rw [called] at run
    cases run
    rw [Action.after, called] at same
    exact ⟨rfl, same⟩
  | error f d' =>
    rw [called] at run
    contradiction

theorem clock_close (s : Live Cursor) :
    (close.after s).driver.clock = s.driver.clock + s.driver.ticks .closeCursor := by
  have clock := Driver.clock_call (.closeCursor s.it.number) s.driver
  rw [Action.after] at clock
  simp only [Action.after, close, Action.run_bind, Action.run_get, Live.onDriver, Action.within]
  cases run : Driver.call (.closeCursor s.it.number) s.driver <;> rw [run] at clock <;> exact clock

/-- A cursor that handed its next row out. At the end it stays where it is. -/
def passed (c : Cursor) : Cursor :=
  match c.rowAt? c.position with
  | some _ => { c with position := c.position + 1 }
  | none => c

theorem passed_number (c : Cursor) : c.passed.number = c.number := by
  unfold passed
  split <;> rfl

/-- A call for a row that fails leaves the cursor where it is. -/
theorem fetchOne_ran (s : Live Cursor) :
    ∃ failure d', Ran s.driver [⟨.fetchOne s.it.number, failure⟩] d' ∧
      fetchOne s =
        match failure with
        | none => .ok ((s.it.rowAt? s.it.position).getD .null) ⟨s.it.passed, d'⟩
        | some f => .error f ⟨s.it, d'⟩ := by
  obtain ⟨failure, d', ran, run⟩ :=
    Driver.call_ran (c := .fetchOne s.it.number) (by simp [Call.operation]) s.driver
  refine ⟨failure, d', ran, ?_⟩
  simp only [fetchOne, Action.run_bind, Action.run_get, Live.onDriver, Action.within, run,
    Action.run_modifyGet]
  cases failure with
  | some f => rfl
  | none =>
    simp only [Action.ended, passed]
    cases s.it.rowAt? s.it.position <;> rfl

/-- A movement that a strict cursor refuses. -/
def Beyond (c : Cursor) (index : Int) : Prop :=
  c.strict = true ∧ (c.rows.length : Int) ≤ index

instance (c : Cursor) (index : Int) : Decidable (c.Beyond index) :=
  inferInstanceAs (Decidable (_ ∧ _))

/-- A movement fails by the script, or else just when a strict cursor refuses it. A call that fails
does not move the cursor. -/
theorem scroll_ran (index : Int) (s : Live Cursor) :
    ∃ failure d', Ran s.driver [⟨.scroll s.it.number index, failure⟩] d' ∧
      (∀ f, failure = some f → s.driver.Scripted f ∨ s.it.Beyond index ∧ f = outOfRange) ∧
      (s.it.Beyond index → failure ≠ none) ∧
      scroll index s =
        match failure with
        | none => .ok () ⟨{ s.it with position := index }, d'⟩
        | some f => .error f ⟨s.it, d'⟩ := by
  obtain ⟨met, scripted⟩ := Driver.ran_meet s.driver .scroll
  refine ⟨(s.driver.meet .scroll).1.or (if s.it.Beyond index then some outOfRange else none), _,
    met.note rfl fun f hf => .inr rfl, ?_, ?_, ?_⟩
  · intro f hf
    cases first : (s.driver.meet .scroll).1 with
    | some f' =>
      rw [first, Option.some_or] at hf
      exact .inl (scripted f (first.trans hf))
    | none =>
      rw [first, Option.none_or] at hf
      split at hf
      · next beyond => exact .inr ⟨beyond, (Option.some.inj hf).symm⟩
      · contradiction
  · intro beyond
    rw [if_pos beyond]
    cases (s.driver.meet .scroll).1 <;> simp
  · have refused : (if s.it.strict = true ∧ (s.it.rows.length : Int) ≤ index then some outOfRange
        else none) = if s.it.Beyond index then some outOfRange else none := rfl
    simp only [scroll, Action.run_bind, Action.run_get, Live.onDriver, Action.within,
      Action.run_modifyGet, refused, Driver.finish_eq]
    cases (s.driver.meet .scroll).1.or (if s.it.Beyond index then some outOfRange else none) <;> rfl

/-- A statement takes its reply even if it fails. -/
theorem execute_ran (sql : String) (values : Option (List Value)) (s : Live Cursor) :
    ∃ failure c d', Ran s.driver [⟨.execute s.it.number sql values, failure⟩] d' ∧
      c.number = s.it.number ∧ execute sql values s = Action.ended failure ⟨c, d'⟩ := by
  obtain ⟨took, replied⟩ := Driver.ran_takeReply s.driver
  obtain ⟨met, scripted⟩ := Driver.ran_meet s.driver.takeReply.2 .execute
  simp only [execute, Action.run_bind, Action.run_get, Live.onDriver, Action.within,
    Action.run_modifyGet]
  cases failure : (s.driver.takeReply.2.meet .execute).1 with
  | some f =>
    refine ⟨some f, s.it, _, (took.trans met).note rfl ?_, rfl, rfl⟩
    intro f' hf
    exact .inl (took.scripted f' (scripted f' (failure.trans hf)))
  | none =>
    have waited := (took.trans met).trans (Driver.ran_advance _ s.driver.takeReply.1.ticks)
    cases error : s.driver.takeReply.1.error with
    | some f =>
      refine ⟨some f, s.it, _, waited.note rfl ?_, rfl, rfl⟩
      intro f' hf
      exact .inl (replied f' (error.trans hf))
    | none =>
      exact ⟨none, s.it.withReply s.driver.takeReply.1, _, waited.note rfl (by simp), rfl, rfl⟩

/-- An execution that succeeds puts the next reply on the cursor. -/
theorem execute_ok {sql : String} {values : Option (List Value)} {s s' : Live Cursor}
    (run : execute sql values s = .ok () s') :
    s'.it = s.it.withReply (s.driver.reply 0) ∧
      ∀ i, s'.driver.reply i = s.driver.reply (i + 1) := by
  have next : s.driver.takeReply.1 = s.driver.reply 0 := by
    rw [Driver.takeReply, Driver.reply, List.head?_eq_getElem?]
  simp only [execute, Action.run_bind, Action.run_get, Live.onDriver, Action.within,
    Action.run_modifyGet] at run
  cases met : (s.driver.takeReply.2.meet .execute).1 with
  | some f =>
    rw [met] at run
    contradiction
  | none =>
    rw [met] at run
    cases error : s.driver.takeReply.1.error with
    | some f =>
      simp only [error] at run
      contradiction
    | none =>
      simp only [error] at run
      cases run
      exact ⟨congrArg s.it.withReply next, fun i => Driver.reply_takeReply s.driver i⟩

end Cursor

end SqlTemplate
