import SqlTemplate.Proofs.QueryResult
import SqlTemplate.Proofs.RowCursor.Absolute
import SqlTemplate.Proofs.Value.Plain

/-!
Rows behind the last one, on a driver whose cursors refuse to be moved there. What the driver refuses
is taken for a failure of the driver, so a row that is missing is not reported as such: neither as
nothing, nor as an index that is out of range. Apart from that nothing is lost. The cursor does not
move, and the rows that there are can be read as before.
-/
namespace SqlTemplate

open Driver (Ran)
open Statement (Brought allRows)

namespace RowCursor

/-- A statement whose cursor can be moved to its rows, but not behind the last of them. -/
structure Bounded (t : Live Statement) : Prop extends Scrollable t where
  strict : t.it.cursor.strict = true

/-- The call that moves the cursor to the row of an index, as a strict cursor refuses it. -/
def refusal (t : Live Statement) (index : Int) : Exchange :=
  ⟨.scroll t.it.cursor.number index, some Cursor.outOfRange⟩

/-- A row cursor that jumps, on a driver that has nothing left to fail with. Since the calls `before`
no call failed. -/
structure Undisturbed (t : Live Statement) (before calls : List Exchange) (s : Live RowCursor) : Prop
    extends Placed t calls s where
  quiet : s.driver.Quiet
  since : ∃ es, calls = before ++ es ∧ ∀ e ∈ es, e.failure = none

/-- A request that needs no row from the `n`-th on. -/
def Request.Within (n : Nat) : Request → Prop
  | get index => index < n
  | _ => True

section
variable {t : Live Statement} {before calls : List Exchange} {s : Live RowCursor} {index : Int}

theorem Bounded.beyond_iff (bounded : Bounded t) :
    t.it.cursor.Beyond index ↔ (allRows t).length ≤ index := by
  rw [Cursor.Beyond, allRows, List.length_map]
  exact and_iff_right bounded.strict

theorem Placed.undisturbed (h : Placed t calls s) (quiet : s.driver.Quiet) :
    Undisturbed t calls calls s :=
  { h with quiet, since := ⟨[], (List.append_nil _).symm, by simp⟩ }

theorem Undisturbed.since_snoc (h : Undisturbed t before calls s) (c : Call) :
    ∃ es, calls ++ [⟨c, none⟩] = before ++ es ∧ ∀ e ∈ es, e.failure = none := by
  obtain ⟨es, rfl, fine⟩ := h.since
  refine ⟨es ++ [⟨c, none⟩], List.append_assoc .., ?_⟩
  intro e mem
  rcases List.mem_append.mp mem with mem | mem
  · exact fine e mem
  · rw [List.mem_singleton.mp mem]

theorem undisturbed_keptByFetch (t : Live Statement) (before : List Exchange) :
    KeptByFetch t (Undisturbed t before) where
  follows h := h.toFollows
  failed {calls s f d'} h _ ran := by
    have fine := ran.undisturbed h.quiet (List.mem_singleton.mpr rfl) (by simp [Call.operation])
    contradiction
  took h more ran :=
    { (placed_keptByFetch t).took h.toPlaced more ran with
      quiet := ran.quiet h.quiet
      since := h.since_snoc _ }

/-- A jump that the cursor does not refuse succeeds. -/
theorem jump_undisturbed (scrollable : Scrollable t) (h : Undisturbed t before calls s)
    (valid : ¬ index < 0) (within : ¬ t.it.cursor.Beyond index) :
    Reads t (Undisturbed t before) (jump index) calls s fun _ s' =>
      s'.it = s.it.jumped index.toNat := by
  obtain ⟨failure, d', ran, met, _, run⟩ := jump_eq scrollable h.toPlaced valid
  cases failure with
  | some f =>
    rcases met f rfl with scripted | ⟨beyond, _⟩
    · exact absurd scripted (h.quiet f)
    · exact absurd beyond within
  | none =>
    have placed := h.toPlaced.jumped ran index.toNat
    exact ⟨_, _, { placed with quiet := ran.quiet h.quiet, since := h.since_snoc _ },
      .inl ⟨rfl, (), run, rfl⟩⟩

theorem get?_undisturbed (scrollable : Scrollable t) (h : Undisturbed t before calls s)
    (within : ¬ t.it.cursor.Beyond index) :
    Reads t (Undisturbed t before) (get? index) calls s fun row _ =>
      row = rowAt (allRows t) index :=
  get?_jumping scrollable.toBrought (undisturbed_keptByFetch t before) h.toPlaced h index
    fun valid => jump_undisturbed scrollable h valid within

theorem run_undisturbed (bounded : Bounded t) (h : Undisturbed t before calls s) (request : Request)
    (within : request.Within (allRows t).length) :
    Reads t (Undisturbed t before) request.run calls s fun a s' =>
      a = request.answer (allRows t) (left t s.it) ∧
        (request.isForward = true → left t s'.it = (left t s.it).drop a.count) := by
  refine run_reads bounded.toBrought (undisturbed_keptByFetch t before) h request ?_
  rintro index rfl
  refine get?_undisturbed bounded.toScrollable h ?_
  rw [bounded.beyond_iff]
  exact Int.not_le.mpr within

/-- A row behind the last one is not kept, so the cursor jumps there, and the jump is refused. -/
theorem get?_beyond (bounded : Bounded t) (h : Placed t calls s) (quiet : s.driver.Quiet)
    (beyond : (allRows t).length ≤ index) :
    ∃ d', Ran s.driver [refusal t index] d' ∧
      get? index s = .error (.driver (.wrap Cursor.outOfRange)) ⟨s.it, d'⟩ := by
  have valid : ¬ index < 0 := by omega
  have missing : s.it.rows.lookup index.toNat = none := by
    cases kept : s.it.rows.lookup index.toNat with
    | none => rfl
    | some row =>
      have inside := (List.getElem?_eq_some_iff.mp (h.lookup kept)).1
      omega
  obtain ⟨failure, d', ran, met, refused, run⟩ := jump_eq bounded.toScrollable h valid
  cases failure with
  | none => exact absurd rfl (refused (bounded.beyond_iff.mpr beyond))
  | some f =>
    obtain ⟨_, rfl⟩ := (met f rfl).resolve_left (quiet f)
    have handled : Driver.handle [t.it.errorClass, .index] Cursor.outOfRange =
        .driver (.wrap Cursor.outOfRange) := by
      have index : ErrorClass.isA .index .index = true := rfl
      simp [Driver.handle, Cursor.outOfRange, index]
    refine ⟨d', ran, ?_⟩
    rw [get?_moving valid missing h.moving, Action.bind_error run, handled]

end

end RowCursor

namespace QueryResult

open RowCursor (Scrollable Bounded Placed refusal)

/-- A result that reads the rows of a statement `t` with the cursor `c`, which jumps, after the
calls. -/
structure ReadsPlaced (t : Live Statement) (calls : List Exchange) (s : Live QueryResult)
    (c : RowCursor) : Prop where
  source : s.it.source = .attached c
  placed : Placed t calls ⟨c, s.driver⟩

def Request.Within (n : Nat) : Request → Prop
  | rows request => request.Within n
  | item key => rowIndex key < n

/-- The row that a key leads to is asked for in vain. The result was `s` with the cursor `c`, and then
it is `s'`. -/
structure FailsAt (t : Live Statement) (key : Value) (calls : List Exchange) (s : Live QueryResult)
    (c : RowCursor) (s' : Live QueryResult) : Prop where
  /-- One call is made, which the cursor refuses. -/
  asked : ReadsPlaced t (calls ++ [refusal t (rowIndex key)]) s' c
  unmoved : s'.it = s.it
  get : onRows (RowCursor.get? (rowIndex key)) s = .error (.driver (.wrap Cursor.outOfRange)) s'
  item : item key s = .error (.driver (.wrap Cursor.outOfRange)) s'
  has : has key s = .error (.driver (.wrap Cursor.outOfRange)) s'
  /-- The rows that there are can still be read. -/
  readable (request : Request) : request.Within (allRows t).length →
    ∃ es u c', ReadsPlaced t (calls ++ [refusal t (rowIndex key)] ++ es) u c' ∧ u.driver.Quiet ∧
      lastFailure es = none ∧
      request.run s' = Action.ofExcept (request.answer (allRows t) (RowCursor.left t c)) u

/-- The row that a key leads to is found to be missing. That an index is out of range is told with the
index, so one of more digits than are written ends as the failure to write it. -/
structure Misses (key : Value) (s s' : Live QueryResult) : Prop where
  get : onRows (RowCursor.get? (rowIndex key)) s = .ok none s'
  item : item key s = Action.ofExcept (choose key none) s'
  has : (rowIndex key).natAbs < 10 ^ Number.digitLimit → has key s = .ok false s'
  unwritten : 10 ^ Number.digitLimit ≤ (rowIndex key).natAbs →
    QueryResult.item key s = .error (.conversion .unwritten) s' ∧
      QueryResult.has key s = .error (.conversion .unwritten) s'

section
variable {t : Live Statement} {calls : List Exchange} {s : Live QueryResult} {c : RowCursor}
  {key : Value}

theorem afterAll_readsPlaced (scrollable : Scrollable t) (r : QueryResult)
    (requests : List Request) :
    ∃ calls c, ReadsPlaced t calls
      (Action.afterAll Request.run ⟨r.attach t false, t.driver⟩ requests) c := by
  refine Action.afterAll_kept (P := fun s => ∃ calls c, ReadsPlaced t calls s c) ?_
    ⟨[], _, rfl, RowCursor.placed_start scrollable⟩ requests
  rintro request s ⟨calls, c, h⟩
  obtain ⟨es, s', c', source', placed', ends⟩ := run_reads h.source request
    (fun r _ => RowCursor.run_placed scrollable r h.placed)
    (fun key _ => RowCursor.get?_placed scrollable h.placed (rowIndex key))
  have run : request.run.after s = s' := by
    rcases ends with ⟨_, run, _⟩ | ⟨_, _, _, _, run⟩ <;> exact Action.after_ofExcept run
  rw [run]
  exact ⟨_, c', source', placed'⟩

/-- On a quiet driver every request for rows that there are is answered. -/
theorem run_within (bounded : Bounded t) (h : ReadsPlaced t calls s c) (quiet : s.driver.Quiet)
    (request : Request) (within : request.Within (allRows t).length) :
    ∃ es s' c', ReadsPlaced t (calls ++ es) s' c' ∧ s'.driver.Quiet ∧ lastFailure es = none ∧
      request.run s =
        Action.ofExcept (request.answer (allRows t) (RowCursor.left t c)) s' := by
  have start := h.placed.undisturbed quiet
  obtain ⟨es, s', c', source', undisturbed, ends⟩ := run_reads h.source request
    (fun r is => RowCursor.run_undisturbed bounded start r (by rw [is] at within; exact within))
    (fun key is => RowCursor.get?_undisturbed bounded.toScrollable start (by
      rw [is] at within
      rw [bounded.beyond_iff]
      exact Int.not_le.mpr within))
  refine ⟨es, s', c', ⟨source', undisturbed.toPlaced⟩, undisturbed.quiet, ?_⟩
  rcases ends with ⟨fine, run, _⟩ | ⟨f, _, failed, _, _⟩
  · exact ⟨fine, run⟩
  · obtain ⟨es', same, fine⟩ := undisturbed.since
    rw [← List.append_cancel_left same] at fine
    obtain ⟨e, mem, met⟩ := mem_of_lastFailure failed
    rw [fine e mem] at met
    contradiction

theorem item_error {e : Failure} {s' : Live QueryResult}
    (run : onRows (RowCursor.get? (rowIndex key)) s = .error e s') : item key s = .error e s' := by
  rw [item_eq, Action.bind_error run]

theorem has_driver {e : DriverError} {s' : Live QueryResult}
    (run : item key s = .error (.driver e) s') : has key s = .error (.driver e) s' :=
  Action.recover_error (Action.bind_error run _) _

theorem choose_short (short : (Value.int (rowIndex key)).overlong = false) :
    ∃ e, choose key none = .error e ∧
      (e.errorClass.isA .index || e.errorClass.isA .key) = true := by
  cases key with
  | int n =>
    have short : (Value.int n).overlong = false := short
    exact ⟨.noRow n, by simp only [choose, Failure.showing_short short], rfl⟩
  | _ => exact ⟨_, rfl, rfl⟩

theorem choose_overlong (long : (Value.int (rowIndex key)).overlong = true) :
    choose key none = .error (.conversion .unwritten) := by
  cases key with
  | int n =>
    have long : (Value.int n).overlong = true := long
    simp only [choose, Failure.showing_overlong long]
  | _ => exact absurd (show (Value.int 0).overlong = true from long) (by decide)

/-- What a result says of a key, where the row that it leads to is missing. -/
theorem misses_of_get {s' : Live QueryResult}
    (found : onRows (RowCursor.get? (rowIndex key)) s = .ok none s') : Misses key s s' := by
  have item : item key s = Action.ofExcept (choose key none) s' := by
    rw [item_eq, Action.bind_ok found]
  constructor
  case get => exact found
  case item => exact item
  case has =>
    intro few
    have short : (Value.int (rowIndex key)).overlong = false := by
      rw [← Bool.not_eq_true, Value.overlong_int_iff]
      omega
    obtain ⟨e, missing, own⟩ := choose_short short
    rw [missing] at item
    rw [has, Action.recover_error (Action.bind_error item _), own]
    rfl
  case unwritten =>
    intro many
    rw [choose_overlong (Value.overlong_int_iff.mpr many)] at item
    exact ⟨item, Action.recover_error (Action.bind_error item _) _⟩

/-- A sequential result has no row behind the last one, whatever was requested before. -/
theorem missing_row_sequential (brought : Brought t) (r : QueryResult) (requests : List Request)
    (quiet : t.driver.Quiet) (beyond : (allRows t).length ≤ rowIndex key) :
    let s := Action.afterAll Request.run ⟨r.attach t true, t.driver⟩ requests
    ∃ s', Misses key s s' := by
  intro s
  have sequential : (RowCursor.ofStatement t true).sequential = true := rfl
  obtain ⟨calls, c, h⟩ := afterAll_readsForward brought r sequential requests
  obtain ⟨es, s', c', _, forward, ends⟩ := onRows_reads h.source
    (RowCursor.get?_forward brought h.forward (rowIndex key))
  have found : onRows (RowCursor.get? (rowIndex key)) s = .ok none s' := by
    rcases ends with ⟨_, row, run, right⟩ | ⟨f, _, failed, _, _⟩
    · have none : RowCursor.rowAt (allRows t) (rowIndex key) = none := by
        rw [RowCursor.rowAt, if_neg (by omega), List.getElem?_eq_none_iff]
        omega
      rw [run, right, none]
    · -- A sequential cursor is only asked for the next row, which a quiet driver always hands out.
      obtain ⟨e, mem, met⟩ := mem_of_lastFailure failed
      have mem := List.mem_append_right calls mem
      have fine := forward.ran.undisturbed quiet mem (by
        rw [forward.asked e mem]
        simp [Call.operation])
      rw [fine] at met
      contradiction
  exact ⟨s', misses_of_get found⟩

/-- A row behind the last one, on a statement whose cursor refuses to be moved there. Whatever was
requested before and failed meanwhile: with nothing left in the script to fail with, every way to ask
for the row makes one call, and the refusal of that call is what the caller gets. The cursor stays as
it is, and every request for rows that there are is answered from then on. A sequential result of the
same rows finds the row missing, by each of these ways, as far as its index can be told. -/
theorem missing_row_fails (bounded : Bounded t) (r : QueryResult) (requests : List Request)
    (beyond : (allRows t).length ≤ rowIndex key) :
    let s := Action.afterAll Request.run ⟨r.attach t false, t.driver⟩ requests
    s.driver.Quiet →
    (∃ calls c s', ReadsPlaced t calls s c ∧ FailsAt t key calls s c s') ∧
      ∀ (t' : Live Statement) (r' : QueryResult) (requests' : List Request),
        Brought t' → allRows t' = allRows t → t'.driver.Quiet →
        ∃ s', Misses key
          (Action.afterAll Request.run ⟨r'.attach t' true, t'.driver⟩ requests') s' := by
  intro s quiet
  obtain ⟨calls, c, h⟩ := afterAll_readsPlaced bounded.toScrollable r requests
  obtain ⟨d', ran, refused⟩ := RowCursor.get?_beyond bounded h.placed quiet beyond
  have still : ReadsPlaced t (calls ++ [refusal t (rowIndex key)]) ⟨s.it, d'⟩ c :=
    ⟨h.source, h.placed.ran_on ran⟩
  have asked : onRows (RowCursor.get? (rowIndex key)) s =
      .error (.driver (.wrap Cursor.outOfRange)) ⟨s.it, d'⟩ := by
    have same : { s.it with source := .attached c } = s.it := by
      rw [← h.source]
    rw [onRows_eq h.source, refused]
    exact congrArg (fun r => EStateM.Result.error _ (Live.mk r d')) same
  have missed := item_error asked
  refine ⟨⟨calls, c, ⟨s.it, d'⟩, h, still, rfl, asked, missed, has_driver missed, ?_⟩, ?_⟩
  · exact fun request within => run_within bounded still (ran.quiet quiet) request within
  · intro t' r' requests' brought' same quiet'
    exact missing_row_sequential brought' r' requests' quiet' (same ▸ beyond)

theorem missing_row_fails_after_failures :
    let lost : Fault := ⟨.operational, some "lost"⟩
    let quiet : Driver := { features := { moduleName := "", hasScroll := true } }
    let driver : Driver :=
      { quiet with faults := fun o => if o = .fetchOne then [none, some lost] else [] }
    let cursor : Cursor :=
      { columns := some ["a", "b"]
        rows := [.tuple [.int 1, .null], .dict [(.text "a", .int 2)], .text "xy"]
        strict := true }
    let it : Statement := { cursor, sql := "", errorClass := .driver }
    let t : Live Statement := ⟨it, driver⟩
    let t' : Live Statement := ⟨it, quiet⟩
    let s := Action.afterAll Request.run ⟨(ofTemplate "" []).attach t false, driver⟩
      [.rows .fetchOne, .item (.int 7), .rows .fetchAll]
    let s' := Action.afterAll Request.run ⟨(ofTemplate "" []).attach t' true, quiet⟩
      [.rows (.get 1)]
    (∃ calls c u, ReadsPlaced t calls s c ∧ c.position = 1 ∧ FailsAt t (.int 3) calls s c u) ∧
      ∃ u, Misses (.int 3) s' u := by
  intro lost quiet driver cursor it t t' s s'
  have readable : ∀ v ∈ cursor.rows, v.isRow = true := by simp [cursor, Value.isRow]
  have brought : Brought t := ⟨rfl, ⟨"a", ["b"], rfl⟩, readable, rfl⟩
  have brought' : Brought t' := ⟨rfl, ⟨"a", ["b"], rfl⟩, readable, rfl⟩
  have left : s.driver.Quiet :=
    Driver.quiet_of_nil (by intro o; cases o <;> decide +kernel) (by decide +kernel)
  have bounded : Bounded t := ⟨⟨brought, rfl⟩, rfl⟩
  have beyond : (allRows t).length ≤ rowIndex (.int 3) := by decide +kernel
  have both := missing_row_fails bounded (ofTemplate "" [])
    [.rows .fetchOne, .item (.int 7), .rows .fetchAll] beyond left
  obtain ⟨⟨calls, c, u, h, fails⟩, missing⟩ := both
  change ReadsPlaced t calls s c at h
  have position : s.it.source.rows?.map (·.position) = some 1 := by decide +kernel
  rw [h.source] at position
  refine ⟨⟨calls, c, u, h, Option.some.inj position, fails⟩, ?_⟩
  exact missing t' _ [.rows (.get 1)] brought' rfl
    (Driver.quiet_of_nil (fun _ => rfl) rfl)

end

end QueryResult

end SqlTemplate
