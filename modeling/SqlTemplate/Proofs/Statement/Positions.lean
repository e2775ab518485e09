import SqlTemplate.Proofs.Translation
import SqlTemplate.Proofs.Value.Conversion

/-!
What the positions of an open statement hold. Values and lengths are kept apart, but whatever was
asked of the statement so far, both are at the same positions and come from the same requests: at
each position from the last one that could be bound there. An execution sends just these, or else it
names the first position that is missing and the driver hears nothing.
-/
namespace SqlTemplate

open Driver (Ran)

namespace Statement

/-! ## Values that cannot be bound -/

theorem map_eq_error_iff {ε α β : Type} {f : α → β} {x : Except ε α} {e : ε} :
    x.map f = .error e ↔ x = .error e := by
  cases x <;> simp [Except.map]

/-- Only infinite numbers make a conversion fail with an error that is not reported. -/
theorem convert_eq_infinite_iff {kind : BindKind} {v : Value} :
    convert kind v = .error .infinite ↔ kind = .number ∧ v.IsInfinite := by
  unfold convert
  split
  · next null =>
    have finite : ¬ v.IsInfinite := by
      rintro ⟨x, negative, rfl, _⟩
      contradiction
    simp [finite]
  · cases kind with
    | number => simp [map_eq_error_iff, Value.toInteger_eq_infinite_iff]
    | binary => simp [map_eq_error_iff, Value.toBytes_ne_infinite]
    | text => simp [map_eq_error_iff, Value.toText_ne_infinite]

/-! ## Binding one value -/

/-- A value and its length were stored at a position, and nothing else changed. -/
structure Stored (position : Int) (sent size : Value) (t u : Live Statement) : Prop where
  rest : u = ⟨{ t.it with values := u.it.values, sizes := u.it.sizes }, t.driver⟩
  values : ∀ i : Nat, u.it.values.lookup i =
    if (i : Int) = position then some sent else t.it.values.lookup i
  sizes : ∀ i : Nat, u.it.sizes.lookup i =
    if (i : Int) = position then some size else t.it.sizes.lookup i

theorem stored_store {position : Int} (valid : 1 ≤ position) (sent size : Value)
    (t : Live Statement) :
    Stored position sent size t ⟨{ t.it with
      values := store position.toNat sent t.it.values
      sizes := store position.toNat size t.it.sizes }, t.driver⟩ := by
  have here (i : Nat) : i = position.toNat ↔ (i : Int) = position := by omega
  refine ⟨rfl, ?_, ?_⟩ <;> intro i <;> simp only [lookup_store, here]

/-- Why a bind ends with the error of a conversion, and not with one of this library: an infinite
number is to be sent as a whole one, or what is wrong cannot be told, since the position is itself
too long to be written. -/
inductive Unhandled (position : Int) (kind : BindKind) (v : Value) : ConversionError → Prop
  | infinite (valid : 1 ≤ position) (number : kind = .number) (infinite : v.IsInfinite) :
    Unhandled position kind v .infinite
  | untold (long : 10 ^ Number.digitLimit ≤ position.natAbs)
      (refused : position < 1 ∨ ∃ e, convert kind v = .error e ∧ e ≠ .infinite) :
    Unhandled position kind v .unwritten

theorem not_unhandled {position : Int} {kind : BindKind} {v : Value}
    (finite : 1 ≤ position → convert kind v ≠ .error .infinite)
    (told : 10 ^ Number.digitLimit ≤ position.natAbs →
      1 ≤ position ∧ ∃ sent, convert kind v = .ok sent) (e : ConversionError) :
    ¬ Unhandled position kind v e := by
  intro unhandled
  cases unhandled with
  | infinite valid number infinite =>
    exact finite valid (convert_eq_infinite_iff.mpr ⟨number, infinite⟩)
  | untold long refused =>
    obtain ⟨valid, sent, converted⟩ := told long
    rcases refused with invalid | ⟨e, refused, _⟩
    · exact absurd valid (Int.not_le.mpr invalid)
    · rw [converted] at refused
      cases refused

theorem Unhandled.of_short {position : Int} {kind : BindKind} {v : Value} {e : ConversionError}
    (unhandled : Unhandled position kind v e) (short : (Value.int position).overlong = false) :
    e = .infinite ∧ kind = .number := by
  cases unhandled with
  | infinite _ number _ => exact ⟨rfl, number⟩
  | untold long =>
    rw [Value.overlong_int_iff.mpr long] at short
    contradiction

/-- Binding a value to an open statement stores what is sent for it and its length, at its position
and nowhere else, or it changes nothing and raises an error of this library. Only two errors escape:
that of the conversion of an infinite number that is to be sent as a whole one, and the failure to write
a position of too many digits into the message of an error. Nothing changes then either. -/
theorem bind_settles {t : Live Statement} (isOpen : t.it.closed = false) (position : Int)
    (v : Value) (kind : BindKind) (size : Value) :
    (∃ e, Unhandled position kind v e ∧
      bind position v kind size t = .error (.conversion e) t) ∨
    ((∀ e, ¬ Unhandled position kind v e) ∧
      ((position < 1 ∧
          bind position v kind size t = .error (.driver ⟨.invalidPosition position, none⟩) t) ∨
        (1 ≤ position ∧ ∃ e, convert kind v = .error e ∧
          bind position v kind size t = .error (.driver ⟨.unbindable position e, none⟩) t) ∨
        (1 ≤ position ∧ ∃ sent u, convert kind v = .ok sent ∧
          bind position v kind size t = .ok () u ∧ Stored position sent size t u))) := by
  rcases bind_cases (d := t.driver) isOpen position v kind size with
    ⟨invalid, run⟩ | ⟨valid, e, refused, run⟩ | ⟨valid, sent, converted, run⟩
  · by_cases short : position.natAbs < 10 ^ Number.digitLimit
    · rw [troubleAt_short _ short] at run
      exact .inr ⟨not_unhandled (by omega) (by omega), .inl ⟨invalid, run⟩⟩
    · have long := Nat.le_of_not_lt short
      rw [troubleAt_overlong _ long] at run
      exact .inl ⟨.unwritten, .untold long (.inl invalid), run⟩
  · by_cases infinite : e = .infinite
    · rw [infinite] at refused run
      obtain ⟨number, infinite⟩ := convert_eq_infinite_iff.mp refused
      exact .inl ⟨.infinite, .infinite valid number infinite, run⟩
    · rw [conversionFailure_reported infinite] at run
      by_cases short : position.natAbs < 10 ^ Number.digitLimit
      · have finite : convert kind v ≠ .error .infinite := by
          rw [refused]
          exact fun same => infinite (Except.error.inj same)
        rw [troubleAt_short _ short] at run
        exact .inr ⟨not_unhandled (fun _ => finite) (by omega), .inr (.inl ⟨valid, e, refused, run⟩)⟩
      · have long := Nat.le_of_not_lt short
        rw [troubleAt_overlong _ long] at run
        exact .inl ⟨.unwritten, .untold long (.inr ⟨e, refused, infinite⟩), run⟩
  · have finite : convert kind v ≠ .error .infinite := by
      rw [converted]
      exact nofun
    refine .inr ⟨not_unhandled (fun _ => finite) fun _ => ⟨valid, sent, converted⟩,
      .inr (.inr ⟨valid, sent, _, converted, run, ?_⟩)⟩
    exact stored_store valid sent size t

theorem bind_settles_infinite :
    let s : Statement :=
      { cursor := {}, sql := "SELECT ?", values := [(1, .text "a")], sizes := [(1, .int 1)] }
    let t : Live Statement := ⟨s, { features := { moduleName := "" } }⟩
    let v : Value := .float (Number.Binary64.infinity true)
    s.closed = false ∧ v.IsInfinite ∧
      bind 1 v .number .null t = .error (.conversion .infinite) t ∧
      ∃ u, bind 1 v .text .null t = .ok () u ∧ Stored 1 (.text "-inf") .null t u := by
  intro s t v
  have infinite : v.IsInfinite := ⟨_, true, rfl, by decide⟩
  have short : (Value.int 1).overlong = false := by decide
  have escapes : bind 1 v .number .null t = .error (.conversion .infinite) t := by
    rcases bind_settles (t := t) rfl 1 v .number .null with ⟨e, unhandled, run⟩ | ⟨handled, _⟩
    · rw [(unhandled.of_short short).1] at run
      exact run
    · exact absurd (.infinite (Int.le_refl 1) rfl infinite) (handled .infinite)
  have written : convert .text v = .ok (.text "-inf") := rfl
  refine ⟨rfl, infinite, escapes, ?_⟩
  rcases bind_settles (t := t) rfl 1 v .text .null with
    ⟨_, unhandled, _⟩ |
      ⟨_, ⟨invalid, _⟩ | ⟨_, e, refused, _⟩ | ⟨_, sent, u, converted, run, stored⟩⟩
  · exact absurd (unhandled.of_short short).2 (by decide)
  · contradiction
  · rw [written] at refused
    contradiction
  · rw [written] at converted
    cases converted
    exact ⟨u, run, stored⟩

/-! ## The last value of each position -/

def Request.put? (i : Nat) : Request → Option (Value × Value)
  | bind position v kind size =>
    if 1 ≤ i ∧ position = i then (convert kind v).toOption.map (·, size) else none
  | _ => none

section
variable {position : Int} {v : Value} {kind : BindKind}

theorem put?_invalid (invalid : position < 1) (size : Value) (i : Nat) :
    (Request.bind position v kind size).put? i = none := by
  have elsewhere : ¬ (1 ≤ i ∧ position = i) := by omega
  rw [Request.put?, if_neg elsewhere]

theorem put?_refused {e : ConversionError} (refused : convert kind v = .error e) (size : Value)
    (i : Nat) : (Request.bind position v kind size).put? i = none := by
  rw [Request.put?, refused]
  split <;> rfl

theorem put?_converted (valid : 1 ≤ position) {sent : Value} (converted : convert kind v = .ok sent)
    (size : Value) (i : Nat) :
    (Request.bind position v kind size).put? i =
      if i = position.toNat then some (sent, size) else none := by
  have here : (1 ≤ i ∧ position = i) ↔ i = position.toNat := by omega
  rw [Request.put?, converted]
  simp only [here]
  rfl

end

/-- What the last request that puts something at a position puts there. -/
def lastPut (i : Nat) : List Request → Option (Value × Value)
  | [] => none
  | r :: rs => (lastPut i rs).or (r.put? i)

theorem lastPut_zero (rs : List Request) : lastPut 0 rs = none := by
  induction rs with
  | nil => rfl
  | cons r rs ih =>
    rw [lastPut, ih, Option.none_or]
    cases r <;> simp [Request.put?]

/-- The first position that is free below one that is not. -/
structure FirstGap (bound : Nat → Option (Value × Value)) (m : Nat) : Prop where
  positive : 1 ≤ m
  free : bound m = none
  before : ∀ i, 1 ≤ i → i < m → bound i ≠ none
  beyond : ∃ i, m < i ∧ bound i ≠ none

/-- Positions that are bound from one on, without a gap, have none. -/
theorem FirstGap.not_listed {bound : Nat → Option (Value × Value)} {m : Nat}
    (gap : FirstGap bound m) (xs : List (Value × Value)) : ¬ ∀ i, bound (i + 1) = xs[i]? := by
  intro listed
  obtain ⟨positive, free, _, j, above, taken⟩ := gap
  obtain ⟨i, rfl⟩ : ∃ i, m = i + 1 := ⟨m - 1, by omega⟩
  obtain ⟨k, rfl⟩ : ∃ k, j = k + 1 := ⟨j - 1, by omega⟩
  rw [listed, List.getElem?_eq_none_iff] at free
  rw [listed] at taken
  exact taken (List.getElem?_eq_none (by omega))

/-! ## What requests leave at the positions -/

/-- An open statement on the cursor of number `n`, with values and lengths at the same positions. -/
structure Holds (n : Nat) (sql : String) (bound : Nat → Option (Value × Value)) (t : Statement) :
    Prop where
  isOpen : t.closed = false
  number : t.cursor.number = n
  text : t.sql = sql
  values : ∀ i, t.values.lookup i = (bound i).map (·.1)
  sizes : ∀ i, t.sizes.lookup i = (bound i).map (·.2)

section
variable {n : Nat} {sql : String} {bound : Nat → Option (Value × Value)} {t : Live Statement}

theorem Holds.onCursor {s : Statement} (holds : Holds n sql bound s) {c : Cursor}
    (same : c.number = s.cursor.number) : Holds n sql bound { s with cursor := c } :=
  { holds with number := same.trans holds.number }

theorem Holds.congr {bound' : Nat → Option (Value × Value)} {s : Statement}
    (holds : Holds n sql bound s) (same : ∀ i, bound i = bound' i) : Holds n sql bound' s :=
  funext same ▸ holds

theorem Holds.bind (holds : Holds n sql bound t.it) (position : Int) (v : Value) (kind : BindKind)
    (size : Value) :
    Holds n sql (fun i => ((Request.bind position v kind size).put? i).or (bound i))
      ((bind position v kind size).after t).it := by
  rcases bind_cases (d := t.driver) holds.isOpen position v kind size with
    ⟨invalid, run⟩ | ⟨_, e, refused, run⟩ | ⟨valid, sent, converted, run⟩
  · rw [Action.after, run]
    apply holds.congr
    intro i
    rw [put?_invalid invalid, Option.none_or]
  · rw [Action.after, run]
    apply holds.congr
    intro i
    rw [put?_refused refused, Option.none_or]
  · rw [Action.after, run]
    refine { holds with values := ?_, sizes := ?_ }
    · intro i
      rw [lookup_store, put?_converted valid converted, holds.values]
      split <;> rfl
    · intro i
      rw [lookup_store, put?_converted valid converted, holds.sizes]
      split <;> rfl

theorem Holds.execute (holds : Holds n sql bound t.it) :
    Holds n sql bound (execute.after t).it := by
  obtain ⟨c, same, kept⟩ := execute_after (d := t.driver) holds.isOpen
  rw [kept]
  exact holds.onCursor same

theorem Holds.fetchOne (holds : Holds n sql bound t.it) :
    Holds n sql bound (fetchOne.after t).it := by
  obtain ⟨_, c, _, _, _, same, run⟩ := fetchOne_cases (d := t.driver) holds.isOpen rfl
  rw [Action.after_ofExcept run]
  exact holds.onCursor same

theorem Holds.scroll (holds : Holds n sql bound t.it) (index : Int) :
    Holds n sql bound ((scroll index).after t).it := by
  cases moves : canScroll t with
  | false =>
    rw [Action.after, scroll_refused holds.isOpen moves]
    exact holds
  | true =>
    obtain ⟨failure, _, _, _, _, run⟩ := scroll_eq holds.isOpen moves index
    rw [Action.after, run]
    cases failure with
    | none => exact holds.onCursor rfl
    | some f => exact holds

/-- A request puts its value where it is bound, if it can be, and every other position stays. -/
theorem Holds.request (holds : Holds n sql bound t.it) {r : Request} (stays : r ≠ .close) :
    Holds n sql (fun i => (r.put? i).or (bound i)) (r.run.after t).it := by
  cases r with
  | bind position v kind size =>
    rw [Request.run, Action.after_map]
    exact holds.bind position v kind size
  | execute =>
    rw [Request.run, Action.after_map]
    exact holds.execute
  | fetchOne => exact holds.fetchOne
  | scroll index =>
    rw [Request.run, Action.after_map]
    exact holds.scroll index
  | close => contradiction

theorem Holds.requests (holds : Holds n sql bound t.it) {rs : List Request}
    (stay : ∀ r ∈ rs, r ≠ .close) :
    Holds n sql (fun i => (lastPut i rs).or (bound i)) (Action.afterAll Request.run t rs).it := by
  -- `bound` is general: the requests after the first one start from what that one left.
  induction rs generalizing t bound with
  | nil => exact holds
  | cons r rs ih =>
    have first := holds.request (stay r (List.mem_cons_self ..))
    have rest := ih first fun r' mem => stay r' (List.mem_cons_of_mem r mem)
    apply rest.congr
    intro i
    rw [lastPut, Option.or_assoc]

/-! ## What an execution sends -/

theorem eq_of_map_eq {x y : Option (Value × Value)} (values : x.map (·.1) = y.map (·.1))
    (sizes : x.map (·.2) = y.map (·.2)) : x = y := by
  cases x with
  | none => cases y with
    | none => rfl
    | some y => contradiction
  | some x => cases y with
    | none => contradiction
    | some y => exact congrArg some (Prod.ext (Option.some.inj values) (Option.some.inj sizes))

/-- The values and lengths of an execution are those of the positions from one on. -/
theorem Holds.listed {s : Statement} (holds : Holds n sql bound s) {xs : List (Value × Value)}
    (values : collect s.values 1 s.count = .ok (xs.map (·.1)))
    (sizes : collect s.sizes 1 s.count = .ok (xs.map (·.2))) : ∀ i, bound (i + 1) = xs[i]? := by
  have length : xs.length = s.count := by
    rw [← length_of_collect values, List.length_map]
  intro i
  by_cases below : i < s.count
  · have value := lookup_of_collect values i below
    have size := lookup_of_collect sizes i below
    rw [Nat.add_comm, holds.values, List.getElem?_map] at value
    rw [Nat.add_comm, holds.sizes, List.getElem?_map] at size
    exact eq_of_map_eq value size
  · have above : s.count < i + 1 := by omega
    have free := (count_spec s).1 (i + 1) above
    rw [holds.values, Option.map_eq_none_iff] at free
    rw [free, List.getElem?_eq_none (by omega)]

/-- The position that an execution names is the first gap. -/
theorem Holds.firstGap {s : Statement} (holds : Holds n sql bound s) {m : Nat}
    (missing : collect s.values 1 s.count = .error m ∨ collect s.sizes 1 s.count = .error m) :
    FirstGap bound m := by
  have gap : 1 ≤ m ∧ m < 1 + s.count ∧ bound m = none ∧ ∀ i, 1 ≤ i → i < m → bound i ≠ none := by
    rcases missing with missing | missing
    · simpa only [holds.values, Option.map_eq_none_iff, ne_eq] using free_of_collect missing
    · simpa only [holds.sizes, Option.map_eq_none_iff, ne_eq] using free_of_collect missing
  obtain ⟨positive, below, free, before⟩ := gap
  have taken : bound s.count ≠ none := by
    have reached := (count_spec s).2 (show 0 < s.count by omega)
    rwa [ne_eq, holds.values, Option.map_eq_none_iff] at reached
  have other : m ≠ s.count := fun same => taken (same ▸ free)
  exact ⟨positive, free, before, s.count, by omega, taken⟩

/-- An execution sends `xs`, and fails if the last of its calls does. -/
def Transmits (n : Nat) (sql : String) (xs : List (Value × Value)) (t : Live Statement) : Prop :=
  ∃ es, Ran t.driver es (Statement.execute.after t).driver ∧
    Sends n sql xs (t.driver.features.hasSetInputSizes && !xs.isEmpty) es ∧
    Statement.execute t =
      Action.ended ((lastFailure es).map (Driver.handle (t.it.errorClass :: executionErrors)))
        (Statement.execute.after t)

/-- An execution names the first gap and does nothing, or there is none and it sends everything. -/
theorem Holds.execute_cases (holds : Holds n sql bound t.it) :
    (∃ m, FirstGap bound m ∧
      Statement.execute t = .error (.driver ⟨.unbound m, none⟩) t) ∨
    ∃ xs, (∀ i, bound (i + 1) = xs[i]?) ∧ Transmits n sql xs t := by
  rcases Statement.execute_cases (d := t.driver) holds.isOpen with
    ⟨m, missing, run⟩ | ⟨xs, es, c, d', values, sizes, ran, sends, _, run⟩
  · exact .inl ⟨m, holds.firstGap missing, run⟩
  · refine .inr ⟨xs, holds.listed values sizes, es, ?_, ?_, ?_⟩
    · rw [Action.after_ended run]
      exact ran
    · rw [holds.number, holds.text] at sends
      exact sends
    · rw [Action.after_ended run]
      exact run

/-- What has been sent once is sent again by the next execution. -/
theorem Holds.transmits_again (holds : Holds n sql bound t.it) {xs : List (Value × Value)}
    (listed : ∀ i, bound (i + 1) = xs[i]?) : Transmits n sql xs (Statement.execute.after t) := by
  rcases holds.execute.execute_cases with ⟨m, gap, _⟩ | ⟨ys, listed', sent⟩
  · exact absurd listed (gap.not_listed xs)
  · have same : xs = ys := List.ext_getElem? fun i => (listed i).symm.trans (listed' i)
    rw [same]
    exact sent

end

/-- What was asked of a new statement fixes what its positions hold: at each of them the last value
that could be bound there, with the length that came with it. A value that cannot be bound changes
nothing, and neither does an execution, whatever the driver does. An execution sends all of the
values, and sends them again the next time, unless a position below the greatest one is free: then
it names the first of these and makes no call. -/
theorem sends_last_bound (cursor : Cursor) (sql : String) (errorClass : ErrorClass) (d : Driver)
    {earlier : List Request} (stay : ∀ r ∈ earlier, r ≠ .close) :
    let t := Action.afterAll Request.run ⟨{ cursor, sql, errorClass }, d⟩ earlier
    (∀ i, t.it.values.lookup i = (lastPut i earlier).map (·.1) ∧
      t.it.sizes.lookup i = (lastPut i earlier).map (·.2)) ∧
    lastPut 0 earlier = none ∧
    (∀ position v kind size,
      (∃ e, bind position v kind size t = .error e t ∧
        ∀ i, (Request.bind position v kind size).put? i = none) ∨
      (1 ≤ position ∧ ∃ sent u, convert kind v = .ok sent ∧
        bind position v kind size t = .ok () u ∧ Stored position sent size t u ∧
        ∀ i : Nat, (Request.bind position v kind size).put? i =
          if i = position.toNat then some (sent, size) else none)) ∧
    (∃ c, (execute.after t).it = { t.it with cursor := c }) ∧
    ((∃ m, FirstGap (lastPut · earlier) m ∧
        execute t = .error (.driver ⟨.unbound m, none⟩) t) ∨
      ∃ xs, (∀ i, lastPut (i + 1) earlier = xs[i]?) ∧ Transmits cursor.number sql xs t ∧
        Transmits cursor.number sql xs (execute.after t)) := by
  intro t
  have start : Holds cursor.number sql (fun _ => none) { cursor, sql, errorClass } :=
    ⟨rfl, rfl, rfl, fun _ => rfl, fun _ => rfl⟩
  have holds : Holds cursor.number sql (lastPut · earlier) t.it :=
    (start.requests (t := ⟨_, d⟩) stay).congr fun i => Option.or_none
  refine ⟨fun i => ⟨holds.values i, holds.sizes i⟩, lastPut_zero earlier, ?_, ?_, ?_⟩
  · intro position v kind size
    rcases bind_cases (d := t.driver) holds.isOpen position v kind size with
      ⟨invalid, run⟩ | ⟨_, e, refused, run⟩ | ⟨valid, sent, converted, run⟩
    · exact .inl ⟨_, run, put?_invalid invalid size⟩
    · exact .inl ⟨_, run, put?_refused refused size⟩
    · exact .inr ⟨valid, sent, _, converted, run, stored_store valid sent size t,
        put?_converted valid converted size⟩
  · obtain ⟨c, _, kept⟩ := execute_after (d := t.driver) holds.isOpen
    exact ⟨c, kept⟩
  · rcases holds.execute_cases with gap | ⟨xs, listed, sent⟩
    · exact .inl gap
    · exact .inr ⟨xs, listed, sent, holds.transmits_again listed⟩

theorem sends_last_bound_after_failures :
    let sql := "INSERT INTO t VALUES (?, ?)"
    let driver : Driver :=
      { features := { moduleName := "", hasSetInputSizes := true }
        faults := fun o => if o = .execute then [some ⟨.operational, none⟩] else [] }
    let earlier : List Request :=
      [.bind 2 (.text "b") .text (.int 1), .bind 0 (.text "x") .text .null, .execute,
        .bind 1 (.text "12") .number .null, .bind 2 (.text "x") .number .null, .execute,
        .bind 2 .null .binary (.int 9)]
    let t := Action.afterAll Request.run ⟨{ cursor := {}, sql }, driver⟩ earlier
    (∀ r ∈ earlier, r ≠ .close) ∧
      Transmits 0 sql [(.int 12, .null), (.null, .int 9)] t ∧
      Transmits 0 sql [(.int 12, .null), (.null, .int 9)] (execute.after t) := by
  intro sql driver earlier t
  have stay : ∀ r ∈ earlier, r ≠ .close := by simp [earlier]
  have listed : ∀ i, lastPut (i + 1) earlier =
      [(Value.int 12, Value.null), (Value.null, Value.int 9)][i]? := by
    intro i
    match i with
    | 0 => rfl
    | 1 => rfl
    | i + 2 =>
      simp [earlier, lastPut, Request.put?]
      omega
  obtain ⟨_, _, _, _, gap | ⟨xs, bound, sent, again⟩⟩ := sends_last_bound {} sql .any driver stay
  · obtain ⟨m, gap, _⟩ := gap
    exact absurd listed (gap.not_listed _)
  · have same : xs = [(.int 12, .null), (.null, .int 9)] :=
      List.ext_getElem? fun i => (bound i).symm.trans (listed i)
    rw [same] at sent again
    exact ⟨stay, sent, again⟩

end Statement

end SqlTemplate
