import SqlTemplate.Proofs.RowCursor.Forward

/-!
A row cursor that moves its driver's cursor. It jumps to the row of an index and reads on from there,
so the rows that it keeps have gaps, and the end that it met counts only until the next jump. By index
it still finds every row that a sequential cursor finds.
-/
namespace SqlTemplate.RowCursor

open Driver (Ran)
open Statement (Brought allRows)

/-- A statement that brought rows back and whose cursor can be moved. -/
structure Scrollable (t : Live Statement) : Prop extends Brought t where
  scrolls : Statement.canScroll t = true

/-- A statement that brought rows back and whose cursor can be moved anywhere, beyond the end too. -/
structure Movable (t : Live Statement) : Prop extends Brought t where
  scrolls : Statement.canScroll t = true
  lax : t.it.cursor.strict = false

theorem Movable.scrollable {t : Live Statement} (movable : Movable t) : Scrollable t :=
  { movable with }

/-- A row cursor that jumps on a statement `t`, after the calls `calls`. The driver stands where it
does, and what it keeps is found under the right index. -/
structure Placed (t : Live Statement) (calls : List Exchange) (s : Live RowCursor) : Prop
    extends Follows t calls s where
  moving : s.it.sequential = false
  sound : ∀ p ∈ s.it.rows, (allRows t)[p.1]? = some p.2

def jump (index : Int) : RowAction Unit := do
  onStatement (Statement.scroll index)
  modify fun s => { s with it.position := index.toNat, it.complete := false }

/-- A row cursor in front of a row that it did not ask for yet. -/
def jumped (c : RowCursor) (index : Nat) : RowCursor :=
  { c with statement := c.statement.movedTo index, position := index, complete := false }

section
variable {t : Live Statement} {calls : List Exchange} {s : Live RowCursor}

theorem placed_start (scrollable : Scrollable t) :
    Placed t [] ⟨ofStatement t false, t.driver⟩ where
  ran := .refl _
  statement := (Statement.movedTo_zero scrollable.toBrought).symm
  moving := by rw [ofStatement, scrollable.scrolls]; rfl
  sound _ mem := absurd mem List.not_mem_nil

theorem Placed.ran_on (h : Placed t calls s) {es : List Exchange} {d' : Driver}
    (ran : Ran s.driver es d') : Placed t (calls ++ es) ⟨s.it, d'⟩ :=
  { h with ran := h.ran.trans ran }

theorem placed_keptByFetch (t : Live Statement) : KeptByFetch t (Placed t) where
  follows h := h.toFollows
  failed h _ ran := h.ran_on ran
  took {calls s d'} h _ ran := by
    cases next : (allRows t)[s.it.position]? with
    | none => exact { h with ran := h.ran.trans ran }
    | some row =>
      refine ⟨⟨h.ran.trans ran, ?_⟩, h.moving, ?_⟩
      · rw [took, h.statement]
        rfl
      · intro p mem
        rcases Statement.mem_of_mem_store mem with rfl | mem
        · exact next
        · exact h.sound p mem

theorem Placed.lookup (h : Placed t calls s) {i : Nat} {row : Row}
    (kept : s.it.rows.lookup i = some row) : (allRows t)[i]? = some row := by
  obtain ⟨before, behind, rows, _⟩ := List.lookup_eq_some_iff.mp kept
  exact h.sound (i, row) (by simp [rows])

theorem Placed.jumped (h : Placed t calls s) {es : List Exchange} {d' : Driver}
    (ran : Ran s.driver es d') (index : Nat) : Placed t (calls ++ es) ⟨s.it.jumped index, d'⟩ where
  ran := h.ran.trans ran
  statement := by
    rw [RowCursor.jumped, h.statement]
    rfl
  moving := h.moving
  sound := h.sound

/-- A jump is one call. If it fails, nothing moved. (Between its two steps the cursor and the driver
stand apart, so no invariant is claimed there.) -/
theorem jump_eq (scrollable : Scrollable t) (h : Placed t calls s) {index : Int}
    (valid : ¬ index < 0) :
    ∃ failure d', Ran s.driver [⟨.scroll t.it.cursor.number index, failure⟩] d' ∧
      (∀ f, failure = some f →
        s.driver.Scripted f ∨ t.it.cursor.Beyond index ∧ f = Cursor.outOfRange) ∧
      (t.it.cursor.Beyond index → failure ≠ none) ∧
      jump index s =
        match failure with
        | none => .ok () ⟨s.it.jumped index.toNat, d'⟩
        | some f => .error (Driver.handle [t.it.errorClass, .index] f) ⟨s.it, d'⟩ := by
  have moves : Statement.canScroll ⟨t.it.movedTo s.it.position, s.driver⟩ = true := by
    rw [Statement.canScroll, h.ran.features]
    exact scrollable.scrolls
  obtain ⟨failure, d', ran, met, refused, run⟩ :=
    Statement.scroll_eq (s := t.it.movedTo s.it.position) scrollable.isOpen moves index
  refine ⟨failure, d', ran, met, refused, ?_⟩
  have onto := onStatement_eq (s := s) (Statement.scroll index)
  rw [h.statement, run] at onto
  cases failure with
  | some f =>
    have same : { s.it with statement := t.it.movedTo s.it.position } = s.it := by
      rw [← h.statement]
    refine Action.bind_error (onto.trans ?_) _
    exact congrArg (fun c => EStateM.Result.error _ (Live.mk c d')) same
  | none =>
    rw [jump, Action.bind_ok onto, Action.run_modify, RowCursor.jumped, h.statement,
      Statement.movedTo, Statement.movedTo, Int.toNat_of_nonneg (Int.not_lt.mp valid)]

theorem jump_reads (scrollable : Scrollable t) (h : Placed t calls s) {index : Int}
    (valid : ¬ index < 0) :
    Reads t (Placed t) (jump index) calls s fun _ s' => s'.it = s.it.jumped index.toNat := by
  obtain ⟨failure, d', ran, _, _, run⟩ := jump_eq scrollable h valid
  cases failure with
  | some f =>
    exact ⟨_, ⟨s.it, d'⟩, h.ran_on ran, .inr ⟨f, _, rfl, List.mem_cons_self .., run⟩⟩
  | none =>
    exact ⟨_, ⟨s.it.jumped index.toNat, d'⟩, h.jumped ran _, .inl ⟨rfl, (), run, rfl⟩⟩

theorem get?_moving {index : Int} (valid : ¬ index < 0)
    (missing : s.it.rows.lookup index.toNat = none) (moving : s.it.sequential = false) :
    get? index s = (jump index >>= fun _ => fetchOne) s := by
  rw [get?, if_neg valid, Action.bind_ok (Action.run_get s), jump, bind_assoc]
  simp only [missing, moving, Bool.false_eq_true, if_false]

/-- The row of an index is kept already, or it is the next one behind a jump. -/
theorem get?_jumping {P : List Exchange → Live RowCursor → Prop} (brought : Brought t)
    (kept : KeptByFetch t P) (placed : Placed t calls s) (h : P calls s) (index : Int)
    (jumps : ¬ index < 0 →
      Reads t P (jump index) calls s fun _ s' => s'.it = s.it.jumped index.toNat) :
    Reads t P (get? index) calls s fun row _ => row = rowAt (allRows t) index := by
  by_cases neg : index < 0
  · exact Reads.congr (get?_neg neg) (.pure h (if_pos neg).symm)
  have row : rowAt (allRows t) index = (allRows t)[index.toNat]? := if_neg neg
  cases found : s.it.rows.lookup index.toNat with
  | some r =>
    exact Reads.congr (get?_kept neg found) (.pure h ((placed.lookup found).symm.trans row.symm))
  | none =>
    refine Reads.congr (get?_moving neg found placed.moving) ?_
    refine (jumps neg).bind ?_
    rintro es _ s' h' there
    refine (fetchOne_reads brought kept h').imp ?_
    rintro es' _ s'' _ ⟨rfl, _⟩
    rw [row, there, left, RowCursor.jumped, if_neg Bool.false_ne_true, List.head?_drop]

theorem get?_placed (scrollable : Scrollable t) (h : Placed t calls s) (index : Int) :
    Reads t (Placed t) (get? index) calls s fun row _ => row = rowAt (allRows t) index :=
  get?_jumping scrollable.toBrought (placed_keptByFetch t) h h index (jump_reads scrollable h)

/-- Every request to a row cursor that jumps is answered from the rows that are left, and by index
from all rows. -/
theorem run_placed (scrollable : Scrollable t) (request : Request) (h : Placed t calls s) :
    Reads t (Placed t) request.run calls s fun a s' =>
      a = request.answer (allRows t) (left t s.it) ∧
        (request.isForward = true → left t s'.it = (left t s.it).drop a.count) :=
  run_reads scrollable.toBrought (placed_keptByFetch t) h request fun index _ =>
    get?_placed scrollable h index

theorem afterAll_placed (scrollable : Scrollable t) (requests : List Request) :
    ∃ calls, Placed t calls
      (Action.afterAll Request.run ⟨ofStatement t false, t.driver⟩ requests) :=
  Action.afterAll_kept (P := fun s => ∃ calls, Placed t calls s)
    (fun request _ ⟨_, h⟩ => (run_placed scrollable request h).after)
    ⟨[], placed_start scrollable⟩ requests

/-- A row that is found is the row of its index, in a state that keeps `P`. -/
theorem Reads.found {P : List Exchange → Live RowCursor → Prop} {index : Int}
    (reads : Reads t P (get? index) calls s fun row _ => row = rowAt (allRows t) index)
    {row : Option Row} (found : (get? index).outcome s = .ok row) :
    row = rowAt (allRows t) index := by
  obtain ⟨_, s', _, ⟨_, a, run, rfl⟩ | ⟨f, caught, _, _, run⟩⟩ := reads
  · rw [Action.outcome, run] at found
    exact (Except.ok.inj found).symm
  · rw [Action.outcome, run] at found
    contradiction

/-- A row cursor that jumps, whatever was requested before and whichever jumps and fetches failed
meanwhile. It stands where the driver does, and every row that it keeps is under its own index. What
it reads forward are the rows from its position on, unless it met the end there. By index it finds
what a sequential cursor finds on a statement of its own that brought the same rows back, whatever
that one was asked before. -/
theorem jumps_agree (movable : Movable t) (requests : List Request) :
    let s := Action.afterAll Request.run ⟨ofStatement t false, t.driver⟩ requests
    ∃ calls, Placed t calls s ∧
      (∀ request : Request, Reads t (Placed t) request.run calls s fun a s' =>
        a = request.answer (allRows t) (left t s.it) ∧
          (request.isForward = true → left t s'.it = (left t s.it).drop a.count)) ∧
      ∀ index row, (get? index).outcome s = .ok row →
        row = rowAt (allRows t) index ∧
          ∀ (t' : Live Statement) (requests' : List Request) (row' : Option Row),
            Brought t' → allRows t' = allRows t →
            (get? index).outcome
              (Action.afterAll Request.run ⟨ofStatement t' true, t'.driver⟩ requests') = .ok row' →
            row' = row := by
  intro s
  obtain ⟨calls, h⟩ := afterAll_placed movable.scrollable requests
  refine ⟨calls, h, fun request => run_placed movable.scrollable request h, ?_⟩
  intro index row found
  have right := (get?_placed movable.scrollable h index).found found
  refine ⟨right, ?_⟩
  intro t' requests' row' brought' same found'
  obtain ⟨calls', h'⟩ := afterAll_forward brought' true rfl requests'
  rw [right, (get?_forward brought' h' index).found found', same]

theorem jumps_agree_beyond :
    let lost : Fault := ⟨.operational, some "lost"⟩
    let driver : Driver :=
      { features := { moduleName := "", hasScroll := true }
        faults := fun o =>
          if o = .fetchOne then [none, none, some lost]
          else if o = .scroll then [none, some lost] else [] }
    let cursor : Cursor :=
      { columns := some ["a", "b"]
        rows := [.tuple [.int 1, .null], .dict [(.text "a", .int 2)], .text "xy"] }
    let t : Live Statement := ⟨{ cursor, sql := "", errorClass := .driver }, driver⟩
    let s := Action.afterAll Request.run ⟨ofStatement t false, t.driver⟩
      [.fetchOne, .get 7, .get 2, .fetchAll, .get 2, .get 7]
    let s' := Action.afterAll Request.run ⟨ofStatement t true, t.driver⟩ [.fetchOne]
    ∃ calls, Placed t calls s ∧ s.it.position = 7 ∧ s.it.complete = true ∧
      ∃ row, (get? 1).outcome s = .ok row ∧ (get? 1).outcome s' = .ok row := by
  intro lost driver cursor t s s'
  have brought : Brought t :=
    ⟨rfl, ⟨"a", ["b"], rfl⟩, by simp [t, cursor, Value.isRow], rfl⟩
  obtain ⟨calls, h, _, found⟩ := jumps_agree ⟨brought, rfl, rfl⟩
    [.fetchOne, .get 7, .get 2, .fetchAll, .get 2, .get 7]
  obtain ⟨row, ok⟩ := Action.exists_of_outcome_isOk (m := get? 1) (s := s) (by decide +kernel)
  obtain ⟨row', ok'⟩ := Action.exists_of_outcome_isOk (m := get? 1) (s := s') (by decide +kernel)
  refine ⟨calls, h, by decide +kernel, by decide +kernel, row, ok, ?_⟩
  rw [ok', (found 1 row ok).2 t [.fetchOne] row' brought rfl ok']

end

end SqlTemplate.RowCursor
