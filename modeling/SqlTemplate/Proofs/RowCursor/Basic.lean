import SqlTemplate.Proofs.Statement
import SqlTemplate.RowCursor

/-!
Reading rows one after the other. What one request for a row does is said once; a run of requests is
put together from it for any invariant that such a request keeps, whether the rows are only read
forward or the driver's cursor is moved in between.
-/
namespace SqlTemplate

open Driver (Ran)

def Value.isRow : Value → Bool
  | .dict _ | .list _ | .tuple _ | .text _ | .bytes .. => true
  | _ => false

namespace Statement

def mapping (names : List String) (row : Value) : Row :=
  (rowMapping (some names) row).toOption.getD []

/-- An open statement that brought rows back: there are columns, each row is a mapping or a sequence,
and the first one is next. -/
structure Brought (t : Live Statement) : Prop where
  isOpen : t.it.closed = false
  named : ∃ name names, columns t = some (name :: names)
  readable : ∀ v ∈ t.it.cursor.rows, v.isRow = true
  first : t.it.cursor.position = 0

/-- The rows that a statement brought back, as mappings. -/
def allRows (t : Live Statement) : List Row :=
  t.it.cursor.rows.map (mapping ((columns t).getD []))

def movedTo (s : Statement) (position : Nat) : Statement :=
  { s with cursor.position := position }

theorem readRow_mapping {name : String} {names : List String} {v : Value} (row : v.isRow = true) :
    readRow (name :: names) v = .ok (some (mapping (name :: names) v)) := by
  cases v <;> first | contradiction | rfl

section
variable {t : Live Statement} {d : Driver}

theorem movedTo_zero (brought : Brought t) : t.it.movedTo 0 = t.it := by
  have first : t.it.cursor.position = ((0 : Nat) : Int) := brought.first
  rw [movedTo, ← first]

theorem columns_movedTo (features : d.features = t.driver.features) (p : Nat) :
    columns ⟨t.it.movedTo p, d⟩ = columns t := by
  simp only [columns, features, movedTo]

/-- A request for a row makes one call. It fails if the call does; otherwise it reads the row that
the cursor stands in front of, and the cursor moves on unless it is at the end. -/
theorem fetchOne_movedTo (brought : Brought t) (features : d.features = t.driver.features) (p : Nat) :
    ∃ failure d', Ran d [⟨.fetchOne t.it.cursor.number, failure⟩] d' ∧
      fetchOne ⟨t.it.movedTo p, d⟩ =
        match failure with
        | none =>
          .ok (allRows t)[p]? ⟨t.it.movedTo (if p < (allRows t).length then p + 1 else p), d'⟩
        | some f => .error (Driver.handle [t.it.errorClass] f) ⟨t.it.movedTo p, d'⟩ := by
  obtain ⟨name, names, named⟩ := brought.named
  have columns := (columns_movedTo features p).trans named
  obtain ⟨failure, d', ran, run⟩ := fetchOne_eq (s := t.it.movedTo p) brought.isOpen columns
  refine ⟨failure, d', ran, run.trans ?_⟩
  have next : (t.it.movedTo p).cursor.rowAt? (t.it.movedTo p).cursor.position =
      t.it.cursor.rows[p]? := by
    simp [Cursor.rowAt?, movedTo]
  have length : (allRows t).length = t.it.cursor.rows.length := List.length_map _
  cases failure with
  | some f => rfl
  | none =>
    simp only [next, Cursor.passed]
    cases found : t.it.cursor.rows[p]? with
    | none =>
      have beyond : ¬ p < (allRows t).length := by
        rw [length]
        exact Nat.not_lt.mpr (List.getElem?_eq_none_iff.mp found)
      have missing : (allRows t)[p]? = none := by
        rw [allRows, List.getElem?_map, found, Option.map_none]
      rw [if_neg beyond, missing]
      rfl
    | some v =>
      have within : p < (allRows t).length := by
        rw [length]
        exact (List.getElem?_eq_some_iff.mp found).1
      have row : (allRows t)[p]? = some (mapping (name :: names) v) := by
        rw [allRows, List.getElem?_map, found, named]
        rfl
      rw [if_pos within, row, Option.getD_some,
        readRow_mapping (brought.readable v (List.mem_of_getElem? found))]
      rfl

end

end Statement

namespace RowCursor

open Statement (Brought allRows)

/-- A row cursor after it asked for the row at its position: it keeps the row, or takes note of the
end. -/
def took (c : RowCursor) : Option Row → RowCursor
  | none => { c with complete := true }
  | some row =>
    { c with
      statement := c.statement.movedTo (c.position + 1)
      rows := Statement.store c.position row c.rows
      position := c.position + 1 }

/-- A row cursor on a statement `t` after the driver took the calls `calls`. Of the statement nothing
changes but the driver's position, which is the row cursor's. -/
structure Follows (t : Live Statement) (calls : List Exchange) (s : Live RowCursor) : Prop where
  ran : Ran t.driver calls s.driver
  statement : s.it.statement = t.it.movedTo s.it.position

/-- The rows that reading forward still gives. -/
def left (t : Live Statement) (c : RowCursor) : List Row :=
  if c.complete then [] else (allRows t).drop c.position

section
variable {t : Live Statement} {calls : List Exchange} {s : Live RowCursor}

theorem onStatement_eq {α : Type} (m : Action Failure (Live Statement) α) :
    onStatement m s =
      match m ⟨s.it.statement, s.driver⟩ with
      | .ok a t => .ok a ⟨{ s.it with statement := t.it }, t.driver⟩
      | .error e t => .error e ⟨{ s.it with statement := t.it }, t.driver⟩ := by
  simp only [onStatement, Live.onPart, Action.within]
  cases m ⟨s.it.statement, s.driver⟩ <;> rfl

theorem fetchOne_complete (complete : s.it.complete = true) : fetchOne s = .ok none s := by
  rw [fetchOne, Action.bind_ok (Action.run_get s), complete]
  rfl

theorem fetchOne_eq (brought : Brought t) (h : Follows t calls s) (more : s.it.complete = false) :
    ∃ failure d', Ran s.driver [⟨.fetchOne t.it.cursor.number, failure⟩] d' ∧
      fetchOne s =
        match failure with
        | none => .ok (allRows t)[s.it.position]? ⟨s.it.took (allRows t)[s.it.position]?, d'⟩
        | some f => .error (Driver.handle [t.it.errorClass] f) ⟨s.it, d'⟩ := by
  obtain ⟨failure, d', asked, run⟩ :=
    Statement.fetchOne_movedTo brought h.ran.features s.it.position
  refine ⟨failure, d', asked, ?_⟩
  have onto := onStatement_eq (s := s) Statement.fetchOne
  rw [h.statement, run] at onto
  rw [fetchOne, Action.bind_ok (Action.run_get s), more]
  simp only [Bool.false_eq_true, if_false]
  cases failure with
  | some f =>
    simp only at onto ⊢
    rw [← h.statement] at onto
    exact Action.bind_error onto _
  | none =>
    simp only at onto ⊢
    rw [Action.bind_ok onto]
    cases row : (allRows t)[s.it.position]? with
    | none =>
      have beyond : ¬ s.it.position < (allRows t).length :=
        Nat.not_lt.mpr (List.getElem?_eq_none_iff.mp row)
      rw [if_neg beyond, ← h.statement]
      rfl
    | some row =>
      have within : s.it.position < (allRows t).length := (List.getElem?_eq_some_iff.mp ‹_›).1
      rw [if_pos within, took, h.statement]
      rfl

end

/-! ## Runs of requests -/

/-- A request for the next row keeps what is said of a row cursor and of the calls that led to it,
whether the call fails or not. -/
structure KeptByFetch (t : Live Statement) (P : List Exchange → Live RowCursor → Prop) : Prop where
  follows {calls : List Exchange} {s : Live RowCursor} : P calls s → Follows t calls s
  failed {calls : List Exchange} {s : Live RowCursor} {f : Fault} {d' : Driver} :
    P calls s → s.it.complete = false →
    Ran s.driver [⟨.fetchOne t.it.cursor.number, some f⟩] d' →
    P (calls ++ [⟨.fetchOne t.it.cursor.number, some f⟩]) ⟨s.it, d'⟩
  took {calls : List Exchange} {s : Live RowCursor} {d' : Driver} :
    P calls s → s.it.complete = false → Ran s.driver [⟨.fetchOne t.it.cursor.number, none⟩] d' →
    P (calls ++ [⟨.fetchOne t.it.cursor.number, none⟩])
      ⟨s.it.took (allRows t)[s.it.position]?, d'⟩

/-- From a state that the calls `calls` led to, an action makes calls that keep `P`. If none of them
fails, it ends as `Q` says; otherwise it fails with the one that did. -/
def Reads {α : Type} (t : Live Statement) (P : List Exchange → Live RowCursor → Prop)
    (m : RowAction α) (calls : List Exchange) (s : Live RowCursor)
    (Q : α → Live RowCursor → Prop) : Prop :=
  ∃ es s', P (calls ++ es) s' ∧
    ((lastFailure es = none ∧ ∃ a, m s = .ok a s' ∧ Q a s') ∨
      ∃ f caught, lastFailure es = some f ∧ t.it.errorClass ∈ caught ∧
        m s = .error (Driver.handle caught f) s')

section
variable {α β : Type} {t : Live Statement} {P : List Exchange → Live RowCursor → Prop}
  {calls : List Exchange} {s : Live RowCursor}

theorem Reads.pure {a : α} {Q : α → Live RowCursor → Prop} (h : P calls s) (q : Q a s) :
    Reads t P (pure a) calls s Q :=
  ⟨[], s, by rwa [List.append_nil], .inl ⟨rfl, a, rfl, q⟩⟩

theorem Reads.bind {m : RowAction α} {k : α → RowAction β} {Q : α → Live RowCursor → Prop}
    {R : β → Live RowCursor → Prop} (first : Reads t P m calls s Q)
    (next : ∀ {es a s'}, P (calls ++ es) s' → Q a s' → Reads t P (k a) (calls ++ es) s' R) :
    Reads t P (m >>= k) calls s R := by
  obtain ⟨es, s', h, ⟨fine, a, run, q⟩ | ⟨f, caught, failed, mem, run⟩⟩ := first
  · obtain ⟨es', s'', h', rest⟩ := next h q
    refine ⟨es ++ es', s'', by rwa [← List.append_assoc], ?_⟩
    rw [lastFailure_append, fine, Option.or_none, Action.bind_ok run]
    exact rest
  · exact ⟨es, s', h, .inr ⟨f, caught, failed, mem, Action.bind_error run k⟩⟩

theorem Reads.map {m : RowAction α} {Q : α → Live RowCursor → Prop} (g : α → β)
    (h : Reads t P m calls s Q) :
    Reads t P (g <$> m) calls s fun b s' => ∃ a, b = g a ∧ Q a s' :=
  h.bind fun h' q => .pure h' ⟨_, rfl, q⟩

theorem Reads.imp {m : RowAction α} {Q R : α → Live RowCursor → Prop}
    (h : Reads t P m calls s Q) (imp : ∀ {es a s'}, P (calls ++ es) s' → Q a s' → R a s') :
    Reads t P m calls s R := by
  obtain ⟨es, s', h', ⟨fine, a, run, q⟩ | failed⟩ := h
  · exact ⟨es, s', h', .inl ⟨fine, a, run, imp h' q⟩⟩
  · exact ⟨es, s', h', .inr failed⟩

/-- The next row is the first of those that are left, and then one less is left. -/
theorem fetchOne_reads (brought : Brought t) (kept : KeptByFetch t P) (h : P calls s) :
    Reads t P fetchOne calls s fun row s' =>
      row = (left t s.it).head? ∧ left t s'.it = (left t s.it).tail := by
  cases complete : s.it.complete with
  | true =>
    refine ⟨[], s, by rwa [List.append_nil], .inl ⟨rfl, none, fetchOne_complete complete, ?_⟩⟩
    simp [left, complete]
  | false =>
    obtain ⟨failure, d', ran, run⟩ := fetchOne_eq brought (kept.follows h) complete
    cases failure with
    | some f =>
      exact ⟨_, _, kept.failed h complete ran,
        .inr ⟨f, [t.it.errorClass], rfl, List.mem_singleton.mpr rfl, run⟩⟩
    | none =>
      refine ⟨_, _, kept.took h complete ran, .inl ⟨rfl, _, run, ?_⟩⟩
      simp only [left, complete, Bool.false_eq_true, if_false, List.head?_drop, List.tail_drop]
      cases row : (allRows t)[s.it.position]? with
      | none =>
        have beyond := List.getElem?_eq_none_iff.mp row
        simp [RowCursor.took, List.drop_eq_nil_of_le (Nat.le_succ_of_le beyond)]
      | some row => simp [RowCursor.took, complete]

/-- Rows are fetched until there are enough or none is left, so they are the first of those that were
left. -/
theorem fetchUpTo_reads (brought : Brought t) (kept : KeptByFetch t P) (n : Nat) (h : P calls s) :
    Reads t P (fetchUpTo n) calls s fun rows s' =>
      rows = (left t s.it).take n ∧ left t s'.it = (left t s.it).drop n := by
  induction n generalizing calls s with
  | zero => exact .pure h ⟨rfl, rfl⟩
  | succ n ih =>
    refine (fetchOne_reads brought kept h).bind ?_
    rintro es row s' h' ⟨rfl, fewer⟩
    cases more : left t s.it with
    | nil =>
      rw [more] at fewer
      exact .pure h' ⟨rfl, fewer⟩
    | cons row rest =>
      rw [more] at fewer
      refine (ih h').bind ?_
      rintro es' rows s'' h'' ⟨rfl, fewest⟩
      rw [fewer] at fewest ⊢
      exact .pure h'' ⟨rfl, fewest⟩

theorem readForward_reads (brought : Brought t) (kept : KeptByFetch t P) (n : Nat)
    (h : P calls s) :
    Reads t P (readForward n) calls s fun enough s' =>
      (enough = true ↔ n ≤ (left t s.it).length) ∧ left t s'.it = (left t s.it).drop n := by
  induction n generalizing calls s with
  | zero => exact .pure h ⟨by simp, rfl⟩
  | succ n ih =>
    refine (fetchOne_reads brought kept h).bind ?_
    rintro es row s' h' ⟨rfl, fewer⟩
    cases more : left t s.it with
    | nil =>
      rw [more] at fewer
      exact .pure h' ⟨by simp, fewer⟩
    | cons row rest =>
      rw [more] at fewer
      refine (ih h').imp ?_
      rintro es' enough s'' h'' ⟨fits, fewest⟩
      rw [fewer] at fewest fits
      exact ⟨fits.trans Nat.succ_le_succ_iff.symm, fewest⟩

/-- What is fetched at once is all that is left, so many rows the driver can still hand out. -/
theorem fetchAll_reads (brought : Brought t) (kept : KeptByFetch t P) (h : P calls s) :
    Reads t P fetchAll calls s fun rows s' => rows = left t s.it ∧ left t s'.it = [] := by
  have few : (left t s.it).length ≤ s.it.bound := by
    have length : (allRows t).length = t.it.cursor.rows.length := List.length_map _
    have moved := (kept.follows h).statement
    rw [left, bound, moved]
    split
    · exact Nat.zero_le _
    · simp only [Statement.movedTo, List.length_drop, length]
      omega
  refine Reads.bind (Q := fun c s' => c = s ∧ s' = s) ?_ ?_
  · exact ⟨[], s, by rwa [List.append_nil], .inl ⟨rfl, s, Action.run_get s, rfl, rfl⟩⟩
  · rintro es _ _ h' ⟨rfl, rfl⟩
    refine (fetchUpTo_reads brought kept _ h').imp ?_
    rintro es' rows s' h'' ⟨rfl, rest⟩
    exact ⟨List.take_of_length_le few, rest.trans (List.drop_eq_nil_of_le few)⟩

theorem fetchMany_reads (brought : Brought t) (kept : KeptByFetch t P) (n : Int) (h : P calls s) :
    Reads t P (fetchMany (.int n)) calls s fun rows s' =>
      rows = (left t s.it).take n.toNat ∧ left t s'.it = (left t s.it).drop n.toNat :=
  fetchUpTo_reads brought kept n.toNat h

theorem Reads.congr {m m' : RowAction α} {Q : α → Live RowCursor → Prop} (same : m s = m' s)
    (h : Reads t P m' calls s Q) : Reads t P m calls s Q := by
  unfold Reads
  rw [same]
  exact h

end

/-! ## The row of an index -/

section
variable {s : Live RowCursor} {index : Int}

theorem get?_neg (neg : index < 0) : get? index s = .ok none s := by
  rw [get?, if_pos neg]
  rfl

theorem get?_kept (valid : ¬ index < 0) {row : Row}
    (kept : s.it.rows.lookup index.toNat = some row) : get? index s = .ok (some row) s := by
  rw [get?, if_neg valid, Action.bind_ok (Action.run_get s)]
  simp only [kept]
  rfl

end

/-! ## Requests and their answers -/

inductive Request
  | fetchOne
  | fetchMany (n : Int)
  | fetchAll
  | get (index : Int)
  deriving DecidableEq, Repr

inductive Reading
  | row (row : Option Row)
  | rows (rows : List Row)
  deriving Repr

def Reading.count : Reading → Nat
  | row r => r.toList.length
  | rows rs => rs.length

/-- The row of an index among all rows. -/
def rowAt (all : List Row) (index : Int) : Option Row :=
  if index < 0 then none else all[index.toNat]?

namespace Request

def isForward : Request → Bool
  | get _ => false
  | _ => true

def run : Request → RowAction Reading
  | fetchOne => Reading.row <$> RowCursor.fetchOne
  | fetchMany n => Reading.rows <$> RowCursor.fetchMany (.int n)
  | fetchAll => Reading.rows <$> RowCursor.fetchAll
  | get index => Reading.row <$> RowCursor.get? index

/-- What a request is answered with where `left` of all the rows are left to be read forward. -/
def answer (all left : List Row) : Request → Reading
  | fetchOne => .row left.head?
  | fetchMany n => .rows (left.take n.toNat)
  | fetchAll => .rows left
  | get index => .row (rowAt all index)

theorem count_answer_le (r : Request) (forward : r.isForward = true) (all left : List Row) :
    (r.answer all left).count ≤ left.length := by
  cases r with
  | fetchOne => cases left <;> simp [answer, Reading.count]
  | fetchMany n => exact List.length_take_le' ..
  | fetchAll => exact Nat.le_refl _
  | get index => exact absurd forward Bool.false_ne_true

end Request

section
variable {t : Live Statement} {P : List Exchange → Live RowCursor → Prop} {calls : List Exchange}
  {s : Live RowCursor}

/-- Requests are answered from the rows that are left, if the row of an index is found. What was read
forward is not left any more, and nothing else is missing. -/
theorem run_reads (brought : Brought t) (kept : KeptByFetch t P) (h : P calls s) (request : Request)
    (found : ∀ index, request = .get index →
      Reads t P (get? index) calls s fun row _ => row = rowAt (allRows t) index) :
    Reads t P request.run calls s fun a s' =>
      a = request.answer (allRows t) (left t s.it) ∧
        (request.isForward = true → left t s'.it = (left t s.it).drop a.count) := by
  cases request with
  | fetchOne =>
    refine ((fetchOne_reads brought kept h).map _).imp ?_
    rintro es _ s' _ ⟨_, rfl, rfl, rest⟩
    refine ⟨rfl, fun _ => rest.trans ?_⟩
    cases left t s.it <;> rfl
  | fetchMany n =>
    refine ((fetchMany_reads brought kept n h).map _).imp ?_
    rintro es _ s' _ ⟨_, rfl, rfl, rest⟩
    refine ⟨rfl, fun _ => rest.trans ?_⟩
    rw [Reading.count, List.length_take, List.drop_eq_drop_iff]
    omega
  | fetchAll =>
    refine ((fetchAll_reads brought kept h).map _).imp ?_
    rintro es _ s' _ ⟨_, rfl, rfl, rest⟩
    exact ⟨rfl, fun _ => rest.trans (List.drop_length ..).symm⟩
  | get index =>
    refine ((found index rfl).map _).imp ?_
    rintro es _ s' _ ⟨_, rfl, rfl⟩
    exact ⟨rfl, fun forward => absurd forward Bool.false_ne_true⟩

theorem Reads.after {α : Type} {m : RowAction α} {Q : α → Live RowCursor → Prop}
    (reads : Reads t P m calls s Q) : ∃ calls', P calls' (m.after s) := by
  obtain ⟨es, s', h, ⟨_, a, run, _⟩ | ⟨f, caught, _, _, run⟩⟩ := reads <;>
  · refine ⟨calls ++ es, ?_⟩
    rwa [Action.after, run]

end

end RowCursor

end SqlTemplate
