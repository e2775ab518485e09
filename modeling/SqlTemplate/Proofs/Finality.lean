import SqlTemplate.Proofs.Closing

/-!
Closing is final. A session, the statements that are prepared in it and the results that they are
given to share one driver and are used in any order, while any of the calls fail. Each cursor is
given back at most once and the connection is closed at most once; what was closed, even if that
failed, refuses all other work from then on.
-/
namespace SqlTemplate

open Driver (Ran)
open QueryResult (Access Iteration)

/-! ## Statements and results -/

/-- A statement, or the result that it was given to, with the walks over its rows. -/
inductive Holding
  | statement (t : Statement)
  | result (r : QueryResult) (walks : List Iteration)

namespace Holding

/-- The statement in a holding. It is still known after its result was closed. -/
def statement? : Holding → Option Statement
  | statement t => some t
  | result r _ => r.source.rows?.map (·.statement)

def withStatement (t : Statement) : Holding → Holding
  | statement _ => statement t
  | result r walks =>
    let source := r.source.rows?.elim r.source fun c => r.source.withRows { c with statement := t }
    result { r with source } walks

inductive Request
  | statement (request : Statement.Request)
  /-- Gives the statement to a result. -/
  | give (r : QueryResult) (sequential : Bool)
  | access (access : Access)
  | walk
  | next (walk : Nat)
  | close

/-- Asks a walk for its next row. A walk that failed is over. -/
def next (r : QueryResult) (walks : List Iteration) (j : Nat) :
    Action Failure (Live Holding) (Option Row) := fun h =>
  match walks[j]? with
  | none => .ok none h
  | some i =>
    match QueryResult.next i ⟨r, h.driver⟩ with
    | .ok (row, i) u => .ok row ⟨result u.it (walks.set j i), u.driver⟩
    | .error e u => .error e ⟨result u.it (walks.set j .ended), u.driver⟩

/-- Does what is asked for, which is nothing if there is no such thing. -/
def Request.run (request : Request) : Action Failure (Live Holding) (Option Row) := fun h =>
  match request, h.it with
  | statement request, it =>
    match it.statement? with
    | none => .ok none h
    | some t => Live.onPart (fun _ => t) withStatement request.run h
  | give r sequential, .statement t =>
    .ok none ⟨result (r.attach ⟨t, h.driver⟩ sequential) [], h.driver⟩
  | access a, result r walks =>
    Live.onPart (fun _ => r) (fun r _ => result r walks) ((fun _ => none) <$> a.run) h
  | walk, result r walks => .ok none ⟨result r (walks ++ [.fresh]), h.driver⟩
  | next j, result r walks => Holding.next r walks j h
  | close, result r walks =>
    Live.onPart (fun _ => r) (fun r _ => result r walks) ((fun _ => none) <$> QueryResult.close) h
  | _, _ => .ok none h

def held (h : Holding) : Option Nat :=
  h.statement?.bind Statement.cursor?

/-- A result whose rows can be read no longer, or that never had any. -/
def isReleased : Holding → Bool
  | statement _ => false
  | result r _ => !r.isAttached

/-- What a result tells beside its rows. -/
def told? : Holding → Option QueryResult
  | statement _ => none
  | result r _ => some { r with source := .absent }

/-- Work that keeps the statement of a holding, keeps its rows readable or not, and changes nothing
else that a result tells. -/
structure Keeps (h h' : Holding) : Prop where
  statement : h'.statement?.isSome = h.statement?.isSome
  released : h'.isReleased = h.isReleased
  told : ∀ q, h.told? = some q → h'.told? = some q

theorem Keeps.refl (h : Holding) : Keeps h h :=
  ⟨rfl, rfl, fun _ => id⟩

theorem told?_result {r r' : QueryResult} (kept : { r' with source := r.source } = r)
    (walks walks' : List Iteration) : told? (.result r' walks') = told? (.result r walks) :=
  congrArg some (congrArg (fun q : QueryResult => { q with source := .absent }) kept)

theorem told?_statement (t : Statement) (q : QueryResult) : told? (.statement t) ≠ some q :=
  (Option.some_ne_none q).symm

theorem Keeps.result {r r' : QueryResult} (onward : r.Onward r') (walks walks' : List Iteration) :
    Keeps (.result r walks) (.result r' walks') := by
  constructor
  · simp only [statement?, Option.isSome_map, onward.rows]
  · simp only [isReleased, onward.attached]
  · rw [told?_result onward.kept walks walks']
    exact fun _ => id

theorem held_result (r : QueryResult) (walks : List Iteration) :
    held (.result r walks) = r.held := by
  rw [held, statement?, QueryResult.held]
  cases r.source.rows? <;> rfl

theorem statement?_withStatement (h : Holding) (t : Statement) :
    (h.withStatement t).statement? = h.statement?.map fun _ => t := by
  cases h with
  | statement => rfl
  | result r walks =>
    simp only [withStatement, statement?]
    cases source : r.source <;> rfl

theorem withStatement_keeps (h : Holding) (t : Statement) : Keeps h (h.withStatement t) := by
  constructor
  · rw [statement?_withStatement, Option.isSome_map]
  · cases h with
    | statement => rfl
    | result r walks =>
      simp only [withStatement, isReleased, QueryResult.isAttached]
      cases r.source <;> rfl
  · cases h with
    | statement t' => exact fun q told => absurd told (told?_statement t' q)
    | result r walks => exact fun _ => id

section
variable {α : Type} {h : Live Holding} {r : QueryResult} {walks : List Iteration}

theorem onResult_balanced (known : h.it = .result r walks)
    {m : Action Failure (Live QueryResult) α} (balanced : Balanced QueryResult.held m ⟨r, h.driver⟩) :
    Balanced held (Live.onPart (fun _ => r) (fun r _ => .result r walks) m) h := by
  refine balanced.onPart ?_ fun r' => held_result r' walks
  rw [known, held_result]

theorem next_keeps (known : h.it = .result r walks) (j : Nat) :
    Balanced held (Holding.next r walks j) h ∧ Keeps h.it ((Holding.next r walks j).after h).it := by
  cases found : walks[j]? with
  | none =>
    have same : (Holding.next r walks j).after h = h := by
      rw [Action.after, Holding.next, found]
    exact ⟨.of_held same rfl rfl, by rw [same]; exact .refl _⟩
  | some i =>
    obtain ⟨⟨es, ran, gives⟩, onward⟩ := QueryResult.next_balanced i ⟨r, h.driver⟩
    obtain ⟨walks', same⟩ : ∃ walks', (Holding.next r walks j).after h =
        ⟨.result ((QueryResult.next i).after ⟨r, h.driver⟩).it walks',
          ((QueryResult.next i).after ⟨r, h.driver⟩).driver⟩ := by
      rw [Action.after, Holding.next, found]
      simp only [Action.after]
      cases QueryResult.next i ⟨r, h.driver⟩ <;> exact ⟨_, rfl⟩
    refine ⟨.of_ran same ran ?_, ?_⟩
    · rw [known, held_result, held_result]
      exact gives
    · rw [same, known]
      exact .result onward _ _

theorem statement_keeps (request : Statement.Request) (h : Live Holding) :
    Balanced held (Request.statement request).run h ∧
      Keeps h.it ((Request.statement request).run.after h).it := by
  cases known : h.it.statement? with
  | none =>
    have same : (Request.statement request).run.after h = h := by
      simp only [Action.after, Request.run, known]
    exact ⟨.of_held same rfl rfl, by rw [same]; exact .refl _⟩
  | some t =>
    have run : (Request.statement request).run h =
        Live.onPart (fun _ => t) withStatement request.run h := by
      simp only [Request.run, known]
    have same := Action.after_congr run
    constructor
    · refine .of_after same ((request.run_balanced t h.driver).onPart ?_ fun t' => ?_)
      · simp only [held, known, Option.bind_some]
      · rw [held, statement?_withStatement, known]
        rfl
    · rw [same, Live.onPart_after]
      exact withStatement_keeps h.it _

/-- Whatever is asked for but to close a result. -/
theorem Request.run_keeps {request : Request} (other : request ≠ .close) (h : Live Holding) :
    Balanced held request.run h ∧ Keeps h.it (request.run.after h).it := by
  obtain ⟨it, d⟩ := h
  have idle (run : request.run ⟨it, d⟩ = .ok none ⟨it, d⟩) :
      Balanced held request.run ⟨it, d⟩ ∧ Keeps it (request.run.after ⟨it, d⟩).it := by
    have same := Action.after_ok run
    exact ⟨.of_held same rfl rfl, by rw [same]; exact .refl _⟩
  cases request with
  | statement request => exact statement_keeps request _
  | give r sequential =>
    cases it with
    | result => exact idle rfl
    | statement t =>
      exact ⟨.of_held rfl rfl rfl, rfl, rfl, fun q told => absurd told (told?_statement t q)⟩
  | access a =>
    cases it with
    | statement => exact idle rfl
    | result r walks =>
      have run : (Request.access a).run ⟨.result r walks, d⟩ =
          Live.onPart (fun _ => r) (fun r _ => Holding.result r walks)
            ((fun _ => none) <$> a.run) ⟨.result r walks, d⟩ := rfl
      have same := Action.after_congr run
      obtain ⟨balanced, onward⟩ := QueryResult.access_balanced a ⟨r, d⟩
      refine ⟨.of_after same (onResult_balanced rfl (balanced.map _)), ?_⟩
      rw [same, Live.onPart_after, Action.after_map]
      exact .result onward walks walks
  | walk =>
    cases it with
    | statement => exact idle rfl
    | result r walks => exact ⟨.of_held rfl rfl rfl, rfl, rfl, fun _ => id⟩
  | next j =>
    cases it with
    | statement => exact idle rfl
    | result r walks =>
      have run : (Request.next j).run ⟨.result r walks, d⟩ =
          Holding.next r walks j ⟨.result r walks, d⟩ := rfl
      have same := Action.after_congr run
      obtain ⟨balanced, keeps⟩ := next_keeps (h := ⟨.result r walks, d⟩) rfl j
      exact ⟨balanced.of_after same, same ▸ keeps⟩
  | close => exact absurd rfl other

theorem close_result (r : QueryResult) (walks : List Iteration) (d : Driver) :
    ∃ r' d', Request.close.run.after ⟨.result r walks, d⟩ = ⟨.result r' walks, d'⟩ ∧
      Balanced held Request.close.run ⟨.result r walks, d⟩ ∧ r.Released r' := by
  have run : Request.close.run ⟨.result r walks, d⟩ =
      Live.onPart (fun _ => r) (fun r _ => Holding.result r walks)
        ((fun _ => none) <$> QueryResult.close) ⟨.result r walks, d⟩ := rfl
  have same := Action.after_congr run
  obtain ⟨balanced, released⟩ := QueryResult.close_balanced ⟨r, d⟩
  refine ⟨_, _, same.trans (Live.onPart_after ..), ?_, ?_⟩
  · exact .of_after same (onResult_balanced rfl (balanced.map _))
  rw [Action.after_map]
  exact released

/-- Whatever is asked for, a cursor is given back when it is held no longer. -/
theorem Request.run_balanced (request : Request) (h : Live Holding) :
    Balanced held request.run h := by
  by_cases closing : request = .close
  · subst closing
    obtain ⟨it, d⟩ := h
    cases it with
    | statement t => exact .of_held rfl rfl rfl
    | result r walks =>
      obtain ⟨_, _, _, balanced, _⟩ := close_result r walks d
      exact balanced
  · exact (run_keeps closing h).1

end

theorem withStatement_self {h : Holding} {t : Statement} (known : h.statement? = some t) :
    h.withStatement t = h := by
  cases h with
  | statement => exact congrArg statement (Option.some.inj known).symm
  | result r walks =>
    simp only [statement?, Option.map_eq_some_iff] at known
    obtain ⟨c, rows, rfl⟩ := known
    have back : r.source.withRows { c with statement := c.statement } = r.source := by
      cases source : r.source <;> rw [source] at rows <;> cases rows <;> rfl
    simp only [withStatement, rows, Option.elim_some, back]

theorem statement_same {h : Holding} {t : Statement} {d : Driver} (known : h.statement? = some t)
    {request : Statement.Request} {outcome : Except Failure (Option Row)}
    (run : request.run ⟨t, d⟩ = Action.ofExcept outcome ⟨t, d⟩) :
    (Request.statement request).run ⟨h, d⟩ = Action.ofExcept outcome ⟨h, d⟩ := by
  simp only [Request.run, known]
  refine (Live.onPart_ofExcept run).trans ?_
  rw [withStatement_self known]

theorem result_same {r : QueryResult} {d : Driver} {m : QueryResult.ResultAction Unit}
    {walks : List Iteration} (outcome : Except Failure Unit)
    (run : m ⟨r, d⟩ = Action.ofExcept outcome ⟨r, d⟩) :
    Live.onPart (fun _ => r) (fun r _ => Holding.result r walks)
        ((fun _ => none) <$> m : QueryResult.ResultAction (Option Row)) ⟨.result r walks, d⟩ =
      Action.ofExcept (outcome.map fun _ => none) ⟨.result r walks, d⟩ := by
  refine Live.onPart_ofExcept (u := ⟨r, d⟩) ?_
  rw [Action.run_map, run]
  cases outcome <;> rfl

theorem close_statement {h : Live Holding} (has : h.it.statement?.isSome = true) :
    ((Request.statement .close).run.after h).it.held = none := by
  obtain ⟨t, known⟩ := Option.isSome_iff_exists.mp has
  have run : (Request.statement .close).run h =
      Live.onPart (fun _ => t) withStatement (Statement.Request.run .close) h := by
    simp only [Request.run, known]
  rw [Action.after_congr run, Live.onPart_after, Statement.Request.run, Action.after_map, held,
    statement?_withStatement, known]
  exact Statement.cursor?_eq_none.mpr (Statement.close_after t h.driver)

/-- A walk over the rows of a closed result hands no row out and asks the driver for nothing. -/
theorem next_closed {r : QueryResult} (detached : r.isAttached = false) (free : r.held = none)
    (walks : List Iteration) (j : Nat) (d : Driver) :
    ∃ outcome h, (Request.next j).run ⟨.result r walks, d⟩ = Action.ofExcept outcome ⟨h, d⟩ ∧
      ∀ row, outcome ≠ .ok (some row) := by
  change ∃ outcome h, Holding.next r walks j _ = Action.ofExcept outcome ⟨h, d⟩ ∧ _
  rw [Holding.next]
  cases walks[j]? with
  | none => exact ⟨.ok none, _, rfl, by simp⟩
  | some i =>
    obtain ⟨outcome, run, none⟩ := QueryResult.next_closed detached free i d
    simp only [run]
    cases outcome with
    | error e => exact ⟨.error e, _, rfl, by simp⟩
    | ok answer =>
      obtain ⟨row, i'⟩ := answer
      refine ⟨.ok row, _, rfl, fun row' same => ?_⟩
      cases same
      exact none row' i' rfl

/-! What is closed stays closed. -/

/-- Rows that were released are those of a closed statement. -/
def Sound (h : Holding) : Prop :=
  h.isReleased = true → h.held = none

/-- What may become of a holding. -/
structure Onward (h h' : Holding) : Prop where
  statement : h'.statement?.isSome = h.statement?.isSome
  free : h.held = none → h'.held = none
  released : h.isReleased = true → h'.isReleased = true
  sound : h.Sound → h'.Sound
  told : ∀ q, h.told? = some q → h'.told? = some q

theorem Onward.refl (h : Holding) : Onward h h :=
  ⟨rfl, id, id, id, fun _ => id⟩

theorem Onward.trans {h h' h'' : Holding} (first : Onward h h') (next : Onward h' h'') :
    Onward h h'' where
  statement := next.statement.trans first.statement
  free := next.free ∘ first.free
  released := next.released ∘ first.released
  sound := next.sound ∘ first.sound
  told q told := next.told q (first.told q told)

theorem Request.run_onward (request : Request) (h : Live Holding) :
    Onward h.it (request.run.after h).it := by
  have free := (request.run_balanced h).free
  by_cases closing : request = .close
  · subst closing
    obtain ⟨it, d⟩ := h
    cases it with
    | statement t => exact .refl _
    | result r walks =>
      obtain ⟨r', d', after, _, released⟩ := close_result r walks d
      rw [after] at free ⊢
      refine ⟨?_, free, fun _ => ?_, fun sound _ => ?_, fun q told => ?_⟩
      · simp only [statement?, Option.isSome_map, released.rows]
      · simp only [isReleased, released.detached]
        rfl
      · cases attached : r.isAttached with
        | true => rw [held_result, released.free attached]
        | false => exact free (sound (by simp only [isReleased, attached]; rfl))
      · rwa [told?_result released.kept walks walks]
  · obtain ⟨_, keeps⟩ := run_keeps closing h
    exact ⟨keeps.statement, free, keeps.released.trans,
      fun sound still => free (sound (keeps.released.symm.trans still)), keeps.told⟩

end Holding

/-! ## Sessions -/

def disconnections (es : List Exchange) : Nat :=
  es.countP fun x => x.call.operation == .close

def handed (n n' m : Nat) : Nat :=
  if n ≤ m ∧ m < n' then 1 else 0

theorem handed_trans {n n' n'' : Nat} (first : n ≤ n') (next : n' ≤ n'') (m : Nat) :
    handed n n'' m = handed n n' m + handed n' n'' m := by
  unfold handed
  split <;> split <;> split <;> omega

/-- Who asks for one cursor holds that one. -/
theorem handed_succ (n m : Nat) : handed n (n + 1) m = holds m (some n) := by
  unfold handed holds
  by_cases same : n = m
  · rw [if_pos ⟨Nat.le_of_eq same, by omega⟩, if_pos (congrArg some same)]
  · rw [if_neg fun between => same (by omega), if_neg fun own => same (Option.some.inj own)]

theorem handed_self (n m : Nat) : handed n n m = 0 :=
  if_neg fun between => absurd between.2 (Nat.not_lt.mpr between.1)

theorem Exchange.handsOut_other {x : Exchange} (other : x.call.operation ≠ .cursor) :
    x.handsOut = false := by
  unfold handsOut
  split
  · next n call => exact absurd (congrArg Call.operation call) other
  · rfl

namespace Session

/-- How many connections a session has to close. -/
def connections (s : Session) : Nat :=
  if s.closed then 0 else 1

theorem closed_of_connections {s : Session} (none : s.connections = 0) : s.closed = true := by
  unfold connections at none
  split at none
  · assumption
  · contradiction

/-- An action of a session that gives back every cursor it was handed, and closes the connection just
if the session takes it as closed afterwards. -/
def Accounted {α : Type} (m : SessionAction α) (s : Live Session) : Prop :=
  ∃ es, Ran s.driver es (m.after s).driver ∧
    (∀ k, closings k es = handed s.driver.cursors (m.after s).driver.cursors k) ∧
    (m.after s).it.connections + disconnections es = s.it.connections

section
variable {α : Type} {m : SessionAction α} {s s' : Live Session} {es : List Exchange}

theorem Accounted.of_ran (after : m.after s = s') (ran : Ran s.driver es s'.driver)
    (cursors : ∀ k, closings k es = handed s.driver.cursors s'.driver.cursors k)
    (connections : s'.it.connections + disconnections es = s.it.connections) : Accounted m s := by
  subst after
  exact ⟨es, ran, cursors, connections⟩

/-- An action that hands no cursor out and takes none back. -/
theorem Accounted.of_calls (after : m.after s = s') (ran : Ran s.driver es s'.driver)
    (plain : ∀ x ∈ es, x.handsOut = false ∧ x.call.operation ≠ .closeCursor)
    (connections : s'.it.connections + disconnections es = s.it.connections) : Accounted m s := by
  refine of_ran after ran (fun k => ?_) connections
  have none : es.countP Exchange.handsOut = 0 :=
    List.countP_eq_zero.mpr fun x mem => by simp [(plain x mem).1]
  rw [ran.cursors, none, Nat.add_zero, handed_self]
  exact closings_other fun x mem => (plain x mem).2

theorem Accounted.of_same (same : m.after s = s) : Accounted m s :=
  of_calls same (.refl _) (by simp) rfl

end

theorem begin_accounted (s : Session) (d : Driver) : Accounted begin ⟨s, d⟩ := by
  cases isOpen : s.closed with
  | true => exact Accounted.of_same (Action.after_error (begin_closed isOpen))
  | false =>
    cases nested : s.inTransaction with
    | true => exact Accounted.of_same (Action.after_error (begin_nested isOpen nested))
    | false =>
      obtain ⟨es, d', ran, begins, run⟩ := begin_cases (d := d) isOpen nested
      have after := Action.after_ended run
      cases begins with
      | byCall failure =>
        exact Accounted.of_calls after ran (by simp [Exchange.handsOut, Call.operation]) rfl
      | noCursor f =>
        exact Accounted.of_calls after ran (by simp [Exchange.handsOut, Call.operation]) rfl
      | byStatement failure closing =>
        refine .of_ran after ran (fun k => ?_) rfl
        have cursors : d'.cursors = d.cursors + 1 := ran.cursors
        rw [cursors, handed_succ, ← (GivesBack.closes d.cursors closing).balance k]
        simp [closings, holds]

theorem settle_accounted {c : Call} (ending : c = .commit ∨ c = .rollback) (s : Session)
    (d : Driver) : Accounted (settle c) ⟨s, d⟩ := by
  have other : c.operation ≠ .cursor := by rcases ending with rfl | rfl <;> nofun
  cases isOpen : s.closed with
  | true => exact Accounted.of_same (Action.after_error (settle_closed isOpen c))
  | false =>
    obtain ⟨failure, d', ran, run⟩ := settle_cases (d := d) isOpen other
    refine Accounted.of_calls (Action.after_ended run) ran ?_ ?_ <;>
      rcases ending with rfl | rfl <;> first | rfl | simp [Exchange.handsOut, Call.operation]

theorem Request.run_accounted (request : Request) (s : Session) (d : Driver) :
    Accounted request.run ⟨s, d⟩ := by
  cases request with
  | begin => exact begin_accounted s d
  | commit => exact settle_accounted (.inl rfl) s d
  | rollback => exact settle_accounted (.inr rfl) s d

theorem close_accounted (s : Session) (d : Driver) : Accounted close ⟨s, d⟩ := by
  cases isOpen : s.closed with
  | true => exact Accounted.of_same (Action.after_ok (close_closed isOpen))
  | false =>
    obtain ⟨failure, d', ran, run⟩ := close_cases (d := d) isOpen
    refine Accounted.of_calls (Action.after_ended run) ran
      (by simp [Exchange.handsOut, Call.operation]) ?_
    simp [connections, disconnections, isOpen, Call.operation]

theorem noteInsertId_accounted (id : Value) (s : Session) (d : Driver) :
    Accounted (noteInsertId id) ⟨s, d⟩ :=
  Accounted.of_calls (Action.after_ok (noteInsertId_eq id)) (.refl d) (by simp) rfl

theorem close_after (s : Session) (d : Driver) : (close.after ⟨s, d⟩).it.closed = true := by
  cases isOpen : s.closed with
  | true => rw [Action.after, close_closed isOpen, isOpen]
  | false =>
    obtain ⟨failure, d', _, run⟩ := close_cases (d := d) isOpen
    rw [Action.after_ended run]

end Session

/-! ## All together -/

/-- A session and what was made in it, the first thing first. -/
structure Holdings where
  session : Session
  items : List Holding := []

namespace Holdings

inductive Request
  | prepare (sql : String)
  | transaction (request : Session.Request)
  | noteInsertId (id : Value)
  | close
  /-- Adds a result that has no rows. -/
  | record (r : QueryResult)
  | item (index : Nat) (request : Holding.Request)

def onSession {α : Type} (m : Session.SessionAction α) : Action Failure (Live Holdings) α :=
  Live.onPart (·.session) (fun s w => { w with session := s }) m

/-- Does what is asked for, which is nothing if there is no such thing. -/
def Request.run : Request → Action Failure (Live Holdings) (Option Row)
  | prepare sql => do
    let t ← onSession (Session.prepare sql)
    modify fun w => { w with it.items := w.it.items ++ [.statement t] }
    return none
  | transaction request => (fun _ => none) <$> onSession request.run
  | noteInsertId id => (fun _ => none) <$> onSession (Session.noteInsertId id)
  | close => (fun _ => none) <$> onSession Session.close
  | record r => fun w =>
    .ok none { w with it.items := w.it.items ++ [.result { r with source := .absent } []] }
  | item index request => fun w =>
    match w.it.items[index]? with
    | none => .ok none w
    | some h =>
      Live.onPart (fun _ => h) (fun h w => { w with items := w.items.set index h }) request.run w

def holding (w : Holdings) (m : Nat) : Nat :=
  w.items.countP (·.held == some m)

/-- From `w` to `w'` the calls `es` are made. What they give back is held no longer. -/
structure Accounts (w : Live Holdings) (es : List Exchange) (w' : Live Holdings) : Prop where
  ran : Ran w.driver es w'.driver
  cursors : ∀ m, w'.it.holding m + closings m es =
    w.it.holding m + handed w.driver.cursors w'.driver.cursors m
  connections : w'.it.session.connections + disconnections es = w.it.session.connections

theorem Accounts.refl (w : Live Holdings) : Accounts w [] w where
  ran := .refl _
  cursors m := by rw [handed_self]; rfl
  connections := rfl

theorem Accounts.trans {w w' w'' : Live Holdings} {es es' : List Exchange}
    (first : Accounts w es w') (next : Accounts w' es' w'') : Accounts w (es ++ es') w'' where
  ran := first.ran.trans next.ran
  cursors m := by
    have before := first.cursors m
    have after := next.cursors m
    have grown : w.driver.cursors ≤ w'.driver.cursors ∧ w'.driver.cursors ≤ w''.driver.cursors := by
      rw [next.ran.cursors, first.ran.cursors]
      omega
    rw [closings_append, handed_trans grown.1 grown.2]
    omega
  connections := by
    have before := first.connections
    have after := next.connections
    rw [disconnections, List.countP_append, ← disconnections, ← disconnections]
    omega

section
variable {w : Live Holdings}

theorem onSession_after {α : Type} (m : Session.SessionAction α) (w : Live Holdings) :
    (onSession m).after w =
      ⟨{ w.it with session := (m.after ⟨w.it.session, w.driver⟩).it },
        (m.after ⟨w.it.session, w.driver⟩).driver⟩ :=
  Live.onPart_after ..

theorem onSession_accounts {α : Type} {m : Session.SessionAction α}
    (accounted : Session.Accounted m ⟨w.it.session, w.driver⟩) :
    ∃ es, Accounts w es ((onSession m).after w) := by
  obtain ⟨es, ran, cursors, connections⟩ := accounted
  refine ⟨es, ?_⟩
  rw [onSession_after]
  exact ⟨ran, fun m => congrArg (w.it.holding m + ·) (cursors m), connections⟩

theorem holding_append (w : Holdings) (h : Holding) (m : Nat) :
    holding { w with items := w.items ++ [h] } m = w.holding m + holds m h.held := by
  simp only [holding, List.countP_append, List.countP_singleton, beq_iff_eq, holds]

theorem holding_set {w : Holdings} {index : Nat} {h : Holding} (found : w.items[index]? = some h)
    (h' : Holding) (m : Nat) :
    holding { w with items := w.items.set index h' } m + holds m h.held =
      w.holding m + holds m h'.held := by
  obtain ⟨within, rfl⟩ := List.getElem?_eq_some_iff.mp found
  have before : holds m w.items[index].held ≤ w.holding m := by
    rw [holding, holds]
    split
    · next own =>
      exact List.countP_pos_iff.mpr ⟨_, List.getElem_mem within, by simpa using own⟩
    · exact Nat.zero_le _
  simp only [holding, holds] at before ⊢
  rw [List.countP_set within]
  simp only [beq_iff_eq]
  omega

/-- A statement is added on the cursor that was handed out, or nothing changes. -/
theorem prepare_cases (sql : String) (w : Live Holdings) :
    (∃ t d, Ran w.driver [⟨.cursor w.driver.cursors, none⟩] d ∧
      t.cursor? = some w.driver.cursors ∧ (Request.prepare sql).run.after w =
        ⟨{ w.it with items := w.it.items ++ [.statement t] }, d⟩) ∨
    ∃ es d, Ran w.driver es d ∧ (∀ x ∈ es, ∃ n f, x = ⟨.cursor n, some f⟩) ∧
      (Request.prepare sql).run.after w = ⟨w.it, d⟩ := by
  have onto (outcome : Except Failure Statement) (u : Live Session)
      (run : Session.prepare sql ⟨w.it.session, w.driver⟩ = Action.ofExcept outcome u) :
      onSession (Session.prepare sql) w =
        Action.ofExcept outcome ⟨{ w.it with session := u.it }, u.driver⟩ :=
    Live.onPart_ofExcept run
  cases isOpen : w.it.session.closed with
  | true =>
    have refused := onto (.error _) _ (Session.prepare_closed isOpen sql)
    exact .inr ⟨[], w.driver, .refl _, by simp, Action.after_error (Action.bind_error refused _)⟩
  | false =>
    rcases Session.prepare_cases (d := w.driver) isOpen sql with ⟨d, ran, run⟩ | ⟨f, d, ran, run⟩
    · let t : Statement :=
        { cursor := { number := w.driver.cursors }, sql, errorClass := w.it.session.errorClass }
      have added : (Request.prepare sql).run w =
          .ok none ⟨{ w.it with items := w.it.items ++ [.statement t] }, d⟩ :=
        Action.bind_ok (onto (.ok t) _ run) _
      exact .inl ⟨t, d, ran, rfl, Action.after_ok added⟩
    · have failed := onto (.error _) _ run
      refine .inr ⟨_, d, ran, ?_, Action.after_error (Action.bind_error failed _)⟩
      intro x mem
      exact ⟨_, f, List.mem_singleton.mp mem⟩

theorem prepare_accounts (sql : String) (w : Live Holdings) :
    ∃ es, Accounts w es ((Request.prepare sql).run.after w) := by
  rcases prepare_cases sql w with ⟨t, d, ran, own, after⟩ | ⟨es, d, ran, refused, after⟩
  · rw [after]
    refine ⟨_, ran, fun m => ?_, rfl⟩
    have cursors : d.cursors = w.driver.cursors + 1 := ran.cursors
    rw [holding_append, cursors, handed_succ]
    exact congrArg (fun held => w.it.holding m + holds m held) own
  · rw [after]
    have kind : ∀ x ∈ es, x.handsOut = false ∧ x.call.operation = .cursor := by
      intro x mem
      obtain ⟨n, f, rfl⟩ := refused x mem
      exact ⟨rfl, rfl⟩
    have none : es.countP Exchange.handsOut = 0 :=
      List.countP_eq_zero.mpr fun x mem => by simp [(kind x mem).1]
    refine ⟨es, ran, fun m => ?_, ?_⟩
    · rw [closings_other fun x mem => by simp [(kind x mem).2]]
      simp only [ran.cursors, none, Nat.add_zero, handed_self]
    · rw [disconnections, List.countP_eq_zero.mpr fun x mem => by simp [(kind x mem).2]]
      rfl

theorem item_missing {index : Nat} (missing : w.it.items[index]? = none)
    (request : Holding.Request) : (Request.item index request).run.after w = w := by
  simp only [Action.after, Request.run, missing]

theorem item_after {index : Nat} {h : Holding} (found : w.it.items[index]? = some h)
    (request : Holding.Request) :
    (Request.item index request).run.after w =
      ⟨{ w.it with items := w.it.items.set index (request.run.after ⟨h, w.driver⟩).it },
        (request.run.after ⟨h, w.driver⟩).driver⟩ := by
  have run : (Request.item index request).run w =
      Live.onPart (fun _ => h) (fun h w => { w with items := w.items.set index h })
        request.run w := by
    simp only [Request.run, found]
  rw [Action.after_congr run, Live.onPart_after]

theorem item_accounts (index : Nat) (request : Holding.Request) (w : Live Holdings) :
    ∃ es, Accounts w es ((Request.item index request).run.after w) := by
  cases found : w.it.items[index]? with
  | none =>
    rw [item_missing found]
    exact ⟨[], .refl w⟩
  | some h =>
    obtain ⟨es, ran, gives⟩ := request.run_balanced ⟨h, w.driver⟩
    rw [item_after found]
    refine ⟨es, ran, fun m => ?_, ?_⟩
    · have balance : holds m (request.run.after ⟨h, w.driver⟩).it.held + closings m es =
          holds m h.held := gives.balance m
      have counted := holding_set found (request.run.after ⟨h, w.driver⟩).it m
      have none : es.countP Exchange.handsOut = 0 :=
        List.countP_eq_zero.mpr fun x mem => by
          simp [Exchange.handsOut_other (gives.own x mem).1]
      simp only [ran.cursors, none, Nat.add_zero, handed_self]
      omega
    · have none : disconnections es = 0 :=
        List.countP_eq_zero.mpr fun x mem => by simp [(gives.own x mem).2]
      rw [none]
      rfl

theorem Request.run_accounts (request : Request) (w : Live Holdings) :
    ∃ es, Accounts w es (request.run.after w) := by
  cases request with
  | prepare sql => exact prepare_accounts sql w
  | transaction request =>
    rw [Request.run, Action.after_map]
    exact onSession_accounts (request.run_accounted ..)
  | noteInsertId id =>
    rw [Request.run, Action.after_map]
    exact onSession_accounts (Session.noteInsertId_accounted ..)
  | close =>
    rw [Request.run, Action.after_map]
    exact onSession_accounts (Session.close_accounted ..)
  | record r =>
    refine ⟨[], .refl _, fun m => ?_, rfl⟩
    refine (holding_append w.it _ m).trans ?_
    rw [show (Action.after (record r).run w).driver = w.driver from rfl, handed_self]
    rfl
  | item index request => exact item_accounts index request w

theorem afterAll_accounts (w : Live Holdings) (requests : List Request) :
    ∃ es, Accounts w es (Action.afterAll Request.run w requests) := by
  apply Action.afterAll_kept (P := fun w' => ∃ es, Accounts w es w') _ ⟨[], .refl w⟩
  rintro request w' ⟨es, accounts⟩
  obtain ⟨es', accounts'⟩ := request.run_accounts w'
  exact ⟨es ++ es', accounts.trans accounts'⟩

end

/-! ## Finality -/

/-- What was made stays there, and what is made anew is sound. -/
structure Grows (w w' : Holdings) : Prop where
  item : ∀ (i : Nat) (h : Holding), w.items[i]? = some h →
    ∃ h', w'.items[i]? = some h' ∧ h.Onward h'
  added : ∀ (i : Nat) (h : Holding), w.items[i]? = none → w'.items[i]? = some h → h.Sound

namespace Grows

theorem of_items {w w' : Holdings} (same : w'.items = w.items) : Grows w w' where
  item i h found := ⟨h, same ▸ found, .refl h⟩
  added i h missing found := by
    rw [same, missing] at found
    contradiction

theorem trans {w w' w'' : Holdings} (first : Grows w w') (next : Grows w' w'') : Grows w w'' where
  item i h found := by
    obtain ⟨h', found', onward⟩ := first.item i h found
    obtain ⟨h'', found'', onward'⟩ := next.item i h' found'
    exact ⟨h'', found'', onward.trans onward'⟩
  added i h missing found := by
    cases between : w'.items[i]? with
    | none => exact next.added i h between found
    | some h' =>
      obtain ⟨h'', found'', onward⟩ := next.item i h' between
      rw [found] at found''
      cases found''
      exact onward.sound (first.added i h' missing between)

theorem append {w w' : Holdings} {new : Holding} (items : w'.items = w.items ++ [new])
    (sound : new.Sound) : Grows w w' where
  item i h found := by
    refine ⟨h, ?_, .refl h⟩
    rw [items, List.getElem?_append_left (List.getElem?_eq_some_iff.mp found).1, found]
  added i h missing found := by
    rw [items, List.getElem?_append_right (List.getElem?_eq_none_iff.mp missing)] at found
    rw [List.mem_singleton.mp (List.mem_of_getElem? found)]
    exact sound

theorem set {w w' : Holdings} {index : Nat} {h h' : Holding} (found : w.items[index]? = some h)
    (items : w'.items = w.items.set index h') (onward : h.Onward h') : Grows w w' where
  item i k known := by
    rw [items]
    by_cases same : index = i
    · subst same
      rw [found] at known
      cases known
      exact ⟨h', List.getElem?_set_self (List.getElem?_eq_some_iff.mp found).1, onward⟩
    · exact ⟨k, by rw [List.getElem?_set_ne same, known], .refl k⟩
  added i k missing known := by
    have beyond := List.getElem?_eq_none_iff.mp missing
    rw [items, List.getElem?_eq_none_iff.mpr (by rwa [List.length_set])] at known
    contradiction

end Grows

section
variable {w : Live Holdings}

theorem Request.run_grows (request : Request) (w : Live Holdings) :
    Grows w.it (request.run.after w).it := by
  cases request with
  | prepare sql =>
    rcases prepare_cases sql w with ⟨t, d, _, _, after⟩ | ⟨es, d, _, _, after⟩
    · rw [after]
      exact .append rfl nofun
    · rw [after]
      exact .of_items rfl
  | transaction request =>
    rw [Request.run, Action.after_map, onSession_after]
    exact .of_items rfl
  | noteInsertId id =>
    rw [Request.run, Action.after_map, onSession_after]
    exact .of_items rfl
  | close =>
    rw [Request.run, Action.after_map, onSession_after]
    exact .of_items rfl
  | record r => exact .append rfl fun _ => rfl
  | item index request =>
    cases found : w.it.items[index]? with
    | none =>
      rw [item_missing found]
      exact .of_items rfl
    | some h =>
      rw [item_after found]
      exact .set found rfl (request.run_onward ⟨h, w.driver⟩)

theorem afterAll_grows (w : Live Holdings) (requests : List Request) :
    Grows w.it (Action.afterAll Request.run w requests).it := by
  refine Action.afterAll_kept (P := fun w' : Live Holdings => Grows w.it w'.it) ?_ (.of_items rfl)
    requests
  intro request w' grows
  exact grows.trans (request.run_grows w')

end

structure SessionEnded (w : Live Holdings) : Prop where
  prepare : ∀ sql, (Request.prepare sql).run w = .error (.driver ⟨.connectionClosed, none⟩) w
  transaction : ∀ request,
    (Request.transaction request).run w = .error (.driver ⟨.connectionClosed, none⟩) w
  close : Request.close.run w = .ok none w

structure StatementEnded (i : Nat) (w : Live Holdings) : Prop where
  refused : ∀ request, request ≠ .close → (Request.item i (.statement request)).run w =
    .error (.driver ⟨.statementClosed, none⟩) w
  close : (Request.item i (.statement .close)).run w = .ok none w

/-- A result that has no statement, refuses every access and hands no row out to those who walk over
its rows. -/
structure ResultEnded (i : Nat) (w : Live Holdings) : Prop where
  detached : ∃ r walks, w.it.items[i]? = some (.result r walks) ∧ r.isAttached = false
  access : ∀ access, ∃ e, (Request.item i (.access access)).run w = .error (.misuse e) w
  walks : ∀ j, ∃ outcome w', (Request.item i (.next j)).run w = Action.ofExcept outcome w' ∧
    w'.driver = w.driver ∧ ∀ row, outcome ≠ .ok (some row)
  close : (Request.item i .close).run w = .ok none w

section
variable {w : Live Holdings} {i : Nat} {h : Holding}

theorem sessionEnded_of_closed (closed : w.it.session.closed = true) : SessionEnded w := by
  have same {α : Type} {m : Session.SessionAction α} (outcome : Except Failure α)
      (run : m ⟨w.it.session, w.driver⟩ = Action.ofExcept outcome ⟨w.it.session, w.driver⟩) :
      onSession m w = Action.ofExcept outcome w :=
    Live.onPart_ofExcept run
  constructor
  · intro sql
    exact Action.bind_error (same (.error _) (Session.prepare_closed closed sql)) _
  · intro request
    refine Action.bind_error (same (.error _) ?_) _
    cases request with
    | begin => exact Session.begin_closed closed
    | commit => exact Session.settle_closed closed .commit
    | rollback => exact Session.settle_closed closed .rollback
  · exact Action.bind_ok (same (.ok ()) (Session.close_closed closed)) _

/-- What is asked of an item ends as the item has it. -/
theorem item_ofExcept (found : w.it.items[i]? = some h) {request : Holding.Request}
    {outcome : Except Failure (Option Row)} {u : Live Holding}
    (run : request.run ⟨h, w.driver⟩ = Action.ofExcept outcome u) :
    (Request.item i request).run w =
      Action.ofExcept outcome ⟨{ w.it with items := w.it.items.set i u.it }, u.driver⟩ := by
  simp only [Request.run, found]
  exact Live.onPart_ofExcept run

/-- What leaves an item as it is leaves everything as it is. -/
theorem item_same (found : w.it.items[i]? = some h) {request : Holding.Request}
    {outcome : Except Failure (Option Row)}
    (run : request.run ⟨h, w.driver⟩ = Action.ofExcept outcome ⟨h, w.driver⟩) :
    (Request.item i request).run w = Action.ofExcept outcome w := by
  obtain ⟨within, own⟩ := List.getElem?_eq_some_iff.mp found
  have back : w.it.items.set i h = w.it.items := by rw [← own, List.set_getElem_self]
  refine (item_ofExcept found run).trans ?_
  simp only [back]

theorem statementEnded_of_free (found : w.it.items[i]? = some h)
    (has : h.statement?.isSome = true) (free : h.held = none) : StatementEnded i w := by
  obtain ⟨t, known⟩ := Option.isSome_iff_exists.mp has
  have closed : t.closed = true := by
    rw [Holding.held, known] at free
    exact Statement.cursor?_eq_none.mp free
  have same {request : Statement.Request} (outcome : Except Failure (Option Row))
      (run : request.run ⟨t, w.driver⟩ = Action.ofExcept outcome ⟨t, w.driver⟩) :
      (Request.item i (.statement request)).run w = Action.ofExcept outcome w :=
    item_same found (Holding.statement_same known run)
  constructor
  · intro request other
    exact same (.error _) (Statement.Request.run_closed closed other)
  · exact same (.ok none) (Action.bind_ok (Statement.close_closed closed) _)

/-- What leaves the driver alone within an item leaves it alone. -/
theorem walked (found : w.it.items[i]? = some h) {request : Holding.Request}
    (run : ∃ outcome h', request.run ⟨h, w.driver⟩ = Action.ofExcept outcome ⟨h', w.driver⟩ ∧
      ∀ row, outcome ≠ .ok (some row)) :
    ∃ outcome w', (Request.item i request).run w = Action.ofExcept outcome w' ∧
      w'.driver = w.driver ∧ ∀ row, outcome ≠ .ok (some row) := by
  obtain ⟨outcome, h', run, none⟩ := run
  exact ⟨outcome, _, item_ofExcept found run, rfl, none⟩

theorem resultEnded_of_released (found : w.it.items[i]? = some h)
    (released : h.isReleased = true) (free : h.held = none) : ResultEnded i w := by
  cases h with
  | statement t => contradiction
  | result r walks =>
    have detached : r.isAttached = false := by simpa [Holding.isReleased] using released
    rw [Holding.held_result] at free
    refine ⟨⟨r, walks, found, detached⟩, fun access => ?_, fun j => ?_, ?_⟩
    · obtain ⟨e, refused⟩ := QueryResult.access_misuse detached w.driver access
      have run : (Holding.Request.access access).run ⟨.result r walks, w.driver⟩ =
          Action.ofExcept (.error (.misuse e)) ⟨.result r walks, w.driver⟩ :=
        Holding.result_same (.error _) refused
      exact ⟨e, item_same found run⟩
    · exact walked found (Holding.next_closed detached free walks j w.driver)
    · have run : Holding.Request.close.run ⟨.result r walks, w.driver⟩ =
          Action.ofExcept (.ok none) ⟨.result r walks, w.driver⟩ :=
        Holding.result_same (.ok ()) (QueryResult.close_detached detached)
      exact item_same found run

end

/-- What becomes of an item while something is asked of it, and anything else afterwards. -/
theorem item_later {w : Live Holdings} {i : Nat} {h : Holding} (found : w.it.items[i]? = some h)
    (request : Holding.Request) (later : List Request) :
    ∃ h', (Action.afterAll Request.run w (.item i request :: later)).it.items[i]? = some h' ∧
      (request.run.after ⟨h, w.driver⟩).it.Onward h' := by
  refine (afterAll_grows ((Request.item i request).run.after w) later).item i _ ?_
  rw [item_after found]
  exact List.getElem?_set_self (List.getElem?_eq_some_iff.mp found).1

section
variable (w : Live Holdings) (later : List Request)

/-- A session that held no cursor gives each one back at most once and closes its connection at most
once, whatever is asked for. -/
theorem closed_once (s : Session) (d : Driver) (requests : List Request) :
    ∃ es, (Action.afterAll Request.run ⟨{ session := s }, d⟩ requests).driver.history =
        d.history ++ es ∧
      disconnections es ≤ 1 ∧ ∀ m, closings m es ≤ 1 := by
  let w := Action.afterAll Request.run ⟨{ session := s }, d⟩ requests
  obtain ⟨es, accounts⟩ := afterAll_accounts ⟨{ session := s }, d⟩ requests
  refine ⟨es, accounts.ran.history, ?_, fun m => ?_⟩
  · have connections : w.it.session.connections + disconnections es = s.connections :=
      accounts.connections
    have one : s.connections ≤ 1 := by
      unfold Session.connections
      split <;> omega
    omega
  · have cursors : w.it.holding m + closings m es = 0 + handed d.cursors w.driver.cursors m :=
      accounts.cursors m
    have one : handed d.cursors w.driver.cursors m ≤ 1 := by
      unfold handed
      split <;> omega
    omega

/-- A session that has no connection to close is never given one. -/
theorem session_ended : SessionEnded (Action.afterAll Request.run w (.close :: later)) := by
  refine sessionEnded_of_closed ?_
  obtain ⟨es, accounts⟩ := afterAll_accounts (Request.close.run.after w) later
  have connections := accounts.connections
  have closed : (Request.close.run.after w).it.session.connections = 0 := by
    rw [Request.run, Action.after_map, onSession_after]
    exact if_pos (Session.close_after w.it.session w.driver)
  rw [closed] at connections
  exact Session.closed_of_connections (Nat.add_eq_zero_iff.mp connections).1

variable {w} {i : Nat}

/-- A statement that holds no cursor is never given one. -/
theorem statement_ended {h : Holding} (found : w.it.items[i]? = some h)
    (has : h.statement?.isSome = true) :
    StatementEnded i (Action.afterAll Request.run w (.item i (.statement .close) :: later)) := by
  obtain ⟨h', found', onward⟩ := item_later found (.statement .close) later
  have closed := Holding.close_statement (h := ⟨h, w.driver⟩) has
  have onto := (Holding.Request.statement .close).run_onward ⟨h, w.driver⟩
  refine statementEnded_of_free found' ?_ (onward.free closed)
  rw [onward.statement, onto.statement]
  exact has

/-- Rows that were released are not attached again, and neither is their statement opened. -/
theorem result_ended {r : QueryResult} {walks : List Iteration}
    (found : w.it.items[i]? = some (.result r walks)) (sound : (Holding.result r walks).Sound) :
    ResultEnded i (Action.afterAll Request.run w (.item i .close :: later)) ∧
      (r.source.rows?.isSome = true →
        StatementEnded i (Action.afterAll Request.run w (.item i .close :: later))) := by
  obtain ⟨h', found', onward⟩ := item_later found .close later
  have onto := Holding.Request.close.run_onward ⟨.result r walks, w.driver⟩
  obtain ⟨r', d', after, _, released⟩ := Holding.close_result r walks w.driver
  have closed :
      (Holding.Request.close.run.after ⟨.result r walks, w.driver⟩).it.isReleased = true := by
    rw [after]
    simp only [Holding.isReleased, released.detached]
    rfl
  have free := onward.free (onto.sound sound closed)
  refine ⟨resultEnded_of_released found' (onward.released closed) free, fun has => ?_⟩
  refine statementEnded_of_free found' ?_ free
  rw [onward.statement, onto.statement]
  simpa only [Holding.statement?, Option.isSome_map] using has

end

/-- Closing is final. Whatever was asked of a session, of the statements that were prepared in it and
of the results that these were given to, in any order and with any calls failing, each cursor is given
back at most once and the connection is closed at most once. From when a session, a statement or a
result is first closed, even if that fails, and whatever is asked for later, it refuses all other work
and changes nothing by that, neither itself nor the driver; and to close it again does nothing. A closed
result has no rows and no statement that works, and who walks over its rows gets no other one. -/
theorem closing_final (s : Session) (d : Driver) (earlier later : List Request) :
    let w := Action.afterAll Request.run ⟨{ session := s }, d⟩ earlier
    (∃ es, w.driver.history = d.history ++ es ∧ disconnections es ≤ 1 ∧ ∀ m, closings m es ≤ 1) ∧
      SessionEnded (Action.afterAll Request.run w (.close :: later)) ∧
      (∀ (i : Nat) (h : Holding), w.it.items[i]? = some h → h.statement?.isSome = true →
        StatementEnded i (Action.afterAll Request.run w (.item i (.statement .close) :: later))) ∧
      ∀ i r walks, w.it.items[i]? = some (.result r walks) →
        ResultEnded i (Action.afterAll Request.run w (.item i .close :: later)) ∧
        (r.source.rows?.isSome = true →
          StatementEnded i (Action.afterAll Request.run w (.item i .close :: later))) := by
  intro w
  refine ⟨closed_once s d earlier, session_ended w later, ?_, ?_⟩
  · intro i h found has
    exact statement_ended later found has
  · intro i r walks found
    have sound := (afterAll_grows ⟨{ session := s }, d⟩ earlier).added i _ rfl found
    exact result_ended later found sound

/-- A result is closed while a walk over its rows is under way, and neither its cursor nor the
connection can be closed. -/
theorem closing_final_failing :
    let lost : Fault := ⟨.operational, some "server has gone away"⟩
    let driver : Driver :=
      { features := { moduleName := "" }
        faults := fun o => if o = .closeCursor ∨ o = .close then [some lost] else []
        replies := [{ columns := some ["n"], rows := [.tuple [.int 1], .tuple [.int 2]] }] }
    let s : Session := { engine := .null, paramstyle := .text "qmark", errorClass := .driver }
    let earlier : List Request :=
      [.prepare "SELECT n FROM t", .item 0 (.statement .execute),
        .item 0 (.give (.ofTemplate "SELECT n FROM t" []) true), .item 0 .walk, .item 0 (.next 0)]
    let w := Action.afterAll Request.run ⟨{ session := s }, driver⟩ earlier
    let u := Action.afterAll Request.run w [.item 0 .close, .close]
    (∃ r, w.it.items[0]? = some (.result r [.running]) ∧ r.source.rows?.isSome = true) ∧
      ((Request.item 0 .close).run.outcome w).isOk = false ∧
      (Request.close.run.outcome ((Request.item 0 .close).run.after w)).isOk = false ∧
      SessionEnded u ∧ StatementEnded 0 u ∧ ResultEnded 0 u := by
  intro lost driver s earlier w u
  have walking : (w.it.items[0]?.any fun
      | .result r walks => walks == [.running] && r.source.rows?.isSome
      | .statement _ => false) = true := by decide +kernel
  have fails : ((Request.item 0 .close).run.outcome w).isOk = false ∧
      (Request.close.run.outcome ((Request.item 0 .close).run.after w)).isOk = false := by
    decide +kernel
  -- What follows holds of every run, so that it is not evaluated any more.
  clear_value earlier s driver
  obtain ⟨r, found, rows⟩ : ∃ r, w.it.items[0]? = some (.result r [.running]) ∧
      r.source.rows?.isSome = true := by
    obtain ⟨h, found, running⟩ := (Option.any_eq_true ..).mp walking
    cases h with
    | statement t => contradiction
    | result r walks =>
      rw [Bool.and_eq_true, beq_iff_eq] at running
      exact ⟨r, running.1 ▸ found, running.2⟩
  obtain ⟨result, statement⟩ := (closing_final s driver earlier [.close]).2.2.2 0 r _ found
  have session := (closing_final s driver (earlier ++ [.item 0 .close]) []).2.1
  rw [show Action.afterAll Request.run _ (earlier ++ [.item 0 .close]) =
    (Request.item 0 .close).run.after w from List.foldl_append] at session
  exact ⟨⟨r, found, rows⟩, fails.1, fails.2, session, statement rows, result⟩

end Holdings

end SqlTemplate
