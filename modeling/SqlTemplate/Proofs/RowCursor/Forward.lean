import SqlTemplate.Proofs.RowCursor.Basic

/-!
A sequential row cursor: its driver hands every row out once, in order, and reports the end once. The
rows that it keeps are exactly those that were handed out, whichever way they were asked for and
however many calls failed in between.
-/
namespace SqlTemplate

open Driver (Ran)

/-- What a driver's cursor answers a call for a row with. -/
inductive Handout
  | row (index : Nat)
  | ended
  | failed
  deriving DecidableEq, Repr

namespace Handout

def row? : Handout → Option Nat
  | row index => some index
  | _ => none

/-- What a cursor with `n` rows answers calls for rows with, from the row at `position` on. -/
def ofCalls (n position : Nat) : List Exchange → List Handout
  | [] => []
  | e :: es =>
    if e.failure.isSome then failed :: ofCalls n position es
    else if position < n then row position :: ofCalls n (position + 1) es
    else ended :: ofCalls n position es

theorem ofCalls_append (n position : Nat) (es es' : List Exchange) :
    ofCalls n position (es ++ es') =
      ofCalls n position es ++
        ofCalls n (position + ((ofCalls n position es).filterMap row?).length) es' := by
  induction es generalizing position with
  | nil => rfl
  | cons e es ih =>
    simp only [List.cons_append, ofCalls]
    split
    · rw [ih]
      rfl
    · split
      · rw [ih, Nat.add_assoc, Nat.add_comm 1]
        rfl
      · rw [ih]
        rfl

end Handout

/-- On calls for rows a cursor with `n` rows handed out the first `position` of them, each once and in
order; the end was reported by the last of the calls, or not at all. -/
def HandedOut (n : Nat) (calls : List Exchange) (position : Nat) (complete : Bool) : Prop :=
  ∃ before, Handout.ofCalls n 0 calls = before ++ (if complete then [.ended] else []) ∧
    .ended ∉ before ∧ before.filterMap Handout.row? = List.range position

namespace HandedOut

variable {n position : Nat} {calls : List Exchange} {e : Exchange}

/-- Before the end is reported, the next call is answered from the row at `position`. -/
theorem next (h : HandedOut n calls position false) (e : Exchange) :
    ∃ before, Handout.ofCalls n 0 (calls ++ [e]) = before ++ Handout.ofCalls n position [e] ∧
      .ended ∉ before ∧ before.filterMap Handout.row? = List.range position := by
  obtain ⟨before, handed, running, rows⟩ := h
  simp only [Bool.false_eq_true, if_false, List.append_nil] at handed
  refine ⟨before, ?_, running, rows⟩
  rw [Handout.ofCalls_append, handed, rows, List.length_range, Nat.zero_add]

theorem failed (h : HandedOut n calls position false) (failure : e.failure.isSome = true) :
    HandedOut n (calls ++ [e]) position false := by
  obtain ⟨before, handed, running, rows⟩ := h.next e
  refine ⟨before ++ [.failed], ?_, by simp [running], ?_⟩
  · simp [handed, Handout.ofCalls, failure]
  · rw [List.filterMap_append, rows]
    exact List.append_nil _

theorem row (h : HandedOut n calls position false) (success : e.failure = none)
    (within : position < n) : HandedOut n (calls ++ [e]) (position + 1) false := by
  obtain ⟨before, handed, running, rows⟩ := h.next e
  refine ⟨before ++ [.row position], ?_, by simp [running], ?_⟩
  · simp [handed, Handout.ofCalls, success, within]
  · rw [List.filterMap_append, rows, List.range_succ]
    rfl

theorem ended (h : HandedOut n calls position false) (success : e.failure = none)
    (beyond : ¬ position < n) : HandedOut n (calls ++ [e]) position true := by
  obtain ⟨before, handed, running, rows⟩ := h.next e
  exact ⟨before, by simp [handed, Handout.ofCalls, success, beyond], running, rows⟩

end HandedOut

namespace RowCursor

open Statement (Brought allRows numberedFrom)

/-- A sequential row cursor on a statement `t` after the calls `calls`. Its position is the number of
rows that the driver has handed out, and it keeps just these, each by its own index. -/
structure Forward (t : Live Statement) (calls : List Exchange) (s : Live RowCursor) : Prop
    extends Follows t calls s where
  sequential : s.it.sequential = true
  kept : s.it.rows = numberedFrom 0 ((allRows t).take s.it.position)
  /-- The driver is only ever asked for the next row. -/
  asked : ∀ e ∈ calls, e.call = .fetchOne t.it.cursor.number
  handedOut : HandedOut (allRows t).length calls s.it.position s.it.complete
  inBounds : s.it.position ≤ (allRows t).length
  finished : s.it.complete = true → s.it.position = (allRows t).length

section
variable {t : Live Statement} {calls : List Exchange} {s : Live RowCursor}

theorem forward_start (brought : Brought t) {sequential : Bool}
    (forward : (ofStatement t sequential).sequential = true) :
    Forward t [] ⟨ofStatement t sequential, t.driver⟩ where
  ran := .refl _
  statement := (Statement.movedTo_zero brought).symm
  sequential := forward
  kept := rfl
  asked _ mem := absurd mem List.not_mem_nil
  handedOut := ⟨[], rfl, List.not_mem_nil, rfl⟩
  inBounds := Nat.zero_le _
  finished complete := absurd complete Bool.false_ne_true

theorem Forward.asked_snoc (h : Forward t calls s) (failure : Option Fault) :
    ∀ e ∈ calls ++ [⟨.fetchOne t.it.cursor.number, failure⟩],
      e.call = .fetchOne t.it.cursor.number := by
  intro e mem
  rcases List.mem_append.mp mem with mem | mem
  · exact h.asked e mem
  · rw [List.mem_singleton.mp mem]

/-- A row that is read next is kept behind those that are kept already. -/
theorem Forward.kept_succ (h : Forward t calls s) {row : Row}
    (next : (allRows t)[s.it.position]? = some row) :
    Statement.store s.it.position row s.it.rows =
      numberedFrom 0 ((allRows t).take (s.it.position + 1)) := by
  have length : ((allRows t).take s.it.position).length = s.it.position :=
    List.length_take_of_le h.inBounds
  have stored := Statement.store_numberedFrom 0 row ((allRows t).take s.it.position)
  rw [Nat.zero_add, length] at stored
  rw [h.kept, stored, List.take_add_one, next]
  rfl

theorem forward_keptByFetch (t : Live Statement) : KeptByFetch t (Forward t) where
  follows h := h.toFollows
  failed {calls s f d'} h more ran := by
    have handedOut := h.handedOut
    rw [more] at handedOut
    exact { h with
      ran := h.ran.trans ran
      asked := h.asked_snoc _
      handedOut := more ▸ handedOut.failed rfl }
  took {calls s d'} h more ran := by
    have handedOut := h.handedOut
    rw [more] at handedOut
    cases next : (allRows t)[s.it.position]? with
    | none =>
      have beyond := List.getElem?_eq_none_iff.mp next
      exact { h with
        ran := h.ran.trans ran
        asked := h.asked_snoc _
        handedOut := handedOut.ended rfl (Nat.not_lt.mpr beyond)
        finished := fun _ => Nat.le_antisymm h.inBounds beyond }
    | some row =>
      have within := (List.getElem?_eq_some_iff.mp next).1
      exact {
        ran := h.ran.trans ran
        statement := by rw [RowCursor.took, h.statement]; rfl
        sequential := h.sequential
        kept := h.kept_succ next
        asked := h.asked_snoc _
        handedOut := more ▸ handedOut.row rfl within
        inBounds := within
        finished := fun complete => absurd (more.symm.trans complete) Bool.false_ne_true }

theorem Forward.left_eq (h : Forward t calls s) : left t s.it = (allRows t).drop s.it.position := by
  unfold left
  split
  · next complete => rw [h.finished complete, List.drop_length]
  · rfl

theorem Forward.lookup (h : Forward t calls s) (i : Nat) :
    s.it.rows.lookup i = ((allRows t).take s.it.position)[i]? := by
  have found := Statement.lookup_numberedFrom 0 i ((allRows t).take s.it.position)
  rw [Nat.zero_add] at found
  rw [h.kept, found]

theorem get?_sequential {index : Int} (valid : ¬ index < 0)
    (missing : s.it.rows.lookup index.toNat = none) (sequential : s.it.sequential = true) :
    get? index s =
      (do
        if ← readForward (index.toNat + 1 - s.it.position) then
          return (← get).it.rows.lookup index.toNat
        else return none : RowAction (Option Row)) s := by
  rw [get?, if_neg valid, Action.bind_ok (Action.run_get s)]
  simp only [missing, sequential, if_true]

/-- The row of an index is kept already, or reading forward comes to it, unless it is beyond the end. -/
theorem get?_forward (brought : Brought t) (h : Forward t calls s) (index : Int) :
    Reads t (Forward t) (get? index) calls s fun row _ => row = rowAt (allRows t) index := by
  have kept := forward_keptByFetch t
  by_cases neg : index < 0
  · exact Reads.congr (get?_neg neg) (.pure h (if_pos neg).symm)
  have row : rowAt (allRows t) index = (allRows t)[index.toNat]? := if_neg neg
  cases found : s.it.rows.lookup index.toNat with
  | some r =>
    refine Reads.congr (get?_kept neg found) (.pure h ?_)
    rw [h.lookup, List.getElem?_take] at found
    split at found
    · rw [row, found]
    · contradiction
  | none =>
    refine Reads.congr (get?_sequential neg found h.sequential) ?_
    -- Every row before the position is kept, so a row that is not kept lies ahead.
    have ahead : s.it.position ≤ index.toNat := by
      rw [h.lookup, List.getElem?_eq_none_iff, List.length_take_of_le h.inBounds] at found
      exact found
    have length : (left t s.it).length = (allRows t).length - s.it.position := by
      rw [h.left_eq, List.length_drop]
    refine (readForward_reads brought kept _ h).bind ?_
    rintro es enough s' h' ⟨fits, rest⟩
    have position : s'.it.position = min (allRows t).length (index.toNat + 1) := by
      have lengths := congrArg List.length rest
      rw [List.length_drop, length, h'.left_eq, List.length_drop] at lengths
      have := h'.inBounds
      omega
    cases enough with
    | true =>
      have within := fits.mp rfl
      refine Reads.bind (Q := fun x s'' => x = s' ∧ s'' = s') ?_ ?_
      · exact ⟨[], s', by rwa [List.append_nil], .inl ⟨rfl, s', Action.run_get s', rfl, rfl⟩⟩
      · rintro es' _ _ h'' ⟨rfl, rfl⟩
        refine .pure h'' ?_
        rw [row, h'.lookup, List.getElem?_take, if_pos (by omega)]
    | false =>
      have beyond : (allRows t).length ≤ index.toNat := by
        have := mt fits.mpr Bool.false_ne_true
        omega
      refine .pure h' ?_
      rw [row, List.getElem?_eq_none beyond]

/-- Every request to a sequential row cursor is answered from the rows behind its position. -/
theorem run_forward (brought : Brought t) (request : Request) (h : Forward t calls s) :
    Reads t (Forward t) request.run calls s fun a s' =>
      a = request.answer (allRows t) ((allRows t).drop s.it.position) ∧
        (request.isForward = true → s'.it.position = s.it.position + a.count) := by
  have kept := forward_keptByFetch t
  refine (run_reads brought kept h request fun index _ => get?_forward brought h index).imp ?_
  rintro es a s' h' ⟨answer, rest⟩
  refine ⟨h.left_eq ▸ answer, fun forward => ?_⟩
  have few := request.count_answer_le forward (allRows t) (left t s.it)
  have lengths := congrArg List.length (rest forward)
  rw [← answer] at few
  rw [h.left_eq, h'.left_eq, List.length_drop, List.length_drop, List.length_drop] at lengths
  rw [h.left_eq, List.length_drop] at few
  have := h.inBounds
  have := h'.inBounds
  omega

theorem afterAll_forward (brought : Brought t) (sequential : Bool)
    (forward : (ofStatement t sequential).sequential = true) (requests : List Request) :
    ∃ calls, Forward t calls
      (Action.afterAll Request.run ⟨ofStatement t sequential, t.driver⟩ requests) :=
  Action.afterAll_kept (P := fun s => ∃ calls, Forward t calls s)
    (fun request _ ⟨_, h⟩ => (run_forward brought request h).after)
    ⟨[], forward_start brought forward⟩ requests

end

end RowCursor

end SqlTemplate
