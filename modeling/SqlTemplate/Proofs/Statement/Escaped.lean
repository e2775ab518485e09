import SqlTemplate.Proofs.Parameter
import SqlTemplate.Proofs.Text.Entity

/-!
Escaped strings on their way to a driver. The text of a value is escaped when the value is bound, after
lists are taken apart, and its length is that of the escaped text. This holds on every open statement,
whatever is bound to it already.
-/
namespace SqlTemplate

namespace Statement

open Driver (Ran)

/-! ## Parameters on any open statement -/

def held (s : Statement) (i : Nat) : Option Value × Option Value :=
  (s.values.lookup i, s.sizes.lookup i)

/-- Values with their lengths stand at the positions from `k` on; the positions below it and all else
are as they were. -/
structure BoundFrom (k : Nat) (ys : List (Value × Value)) (t u : Live Statement) : Prop where
  rest : u = ⟨{ t.it with values := u.it.values, sizes := u.it.sizes }, t.driver⟩
  reached : ∀ i y, ys[i]? = some y → u.it.held (k + i) = (some y.1, some y.2)
  below : ∀ i < k, u.it.held i = t.it.held i

theorem boundFrom_nil (k : Nat) (t : Live Statement) : BoundFrom k [] t t := by
  constructor <;> simp

theorem held_store (s : Statement) (k i : Nat) (y : Value × Value) :
    ({ s with values := store k y.1 s.values, sizes := store k y.2 s.sizes } : Statement).held i =
      if i = k then (some y.1, some y.2) else s.held i := by
  simp only [held, lookup_store]
  split <;> rfl

theorem BoundFrom.cons {k : Nat} {y : Value × Value} {ys : List (Value × Value)}
    {t u : Live Statement}
    (later : BoundFrom (k + 1) ys ⟨{ t.it with
      values := store k y.1 t.it.values, sizes := store k y.2 t.it.sizes }, t.driver⟩ u) :
    BoundFrom k (y :: ys) t u := by
  constructor
  case rest => exact later.rest
  case reached =>
    intro i x hx
    cases i with
    | zero =>
      -- What was stored first stands below the positions that were stored at later.
      cases hx
      rw [Nat.add_zero, later.below k (Nat.lt_succ_self k), held_store, if_pos rfl]
    | succ i =>
      have next := later.reached i x hx
      rwa [Nat.add_right_comm, Nat.add_assoc] at next
  case below =>
    intro i below
    have elsewhere : ¬ i = k := by omega
    rw [later.below i (by omega), held_store, if_neg elsewhere]

variable {t : Live Statement}

/-- Parameters are bound at the positions from `k` on, until one is refused. -/
theorem bindFrom_cases (isOpen : t.it.closed = false) {k : Nat} (pos : 1 ≤ k)
    (ps : List BoundParameter) :
    match encodeFrom k ps with
    | .ok ys => ∃ u, bindFrom k ps t = .ok () u ∧ BoundFrom k ys t u
    | .error e => ∃ u, bindFrom k ps t = .error e u ∧ u.driver = t.driver := by
  induction ps generalizing k t with
  | nil => exact ⟨t, rfl, boundFrom_nil k t⟩
  | cons p ps ih =>
    have bound := bindParameter_eq (s := t.it) (d := t.driver) isOpen pos p
    rw [encodeFrom, bindFrom_cons]
    cases own : encode k p with
    | error e =>
      rw [own] at bound
      exact ⟨t, Action.bind_error bound _, rfl⟩
    | ok y =>
      rw [own] at bound
      have rest := ih (t := ⟨{ t.it with
        values := store k y.1 t.it.values
        sizes := store k y.2 t.it.sizes }, t.driver⟩) isOpen (k := k + 1) (by omega)
      simp only [Except.map, Action.bind_ok bound]
      cases encoded : encodeFrom (k + 1) ps with
      | error e =>
        rw [encoded] at rest
        exact rest
      | ok ys =>
        rw [encoded] at rest
        obtain ⟨u, run, later⟩ := rest
        exact ⟨u, run, later.cons⟩

/-- The values that an execution collects begin with those that were bound from one on. -/
theorem BoundFrom.sent {ys xs : List (Value × Value)} {u : Live Statement}
    (bound : BoundFrom 1 ys t u) (values : collect u.it.values 1 u.it.count = .ok (xs.map (·.1)))
    (sizes : collect u.it.sizes 1 u.it.count = .ok (xs.map (·.2))) : ys <+: xs := by
  apply List.prefix_iff_getElem?.mpr
  intro i inside
  have here := bound.reached i ys[i] (List.getElem?_eq_getElem inside)
  obtain ⟨value, size⟩ := Prod.mk.inj here
  have counted : i < u.it.count := by
    by_contra beyond
    have free := (count_spec u.it).1 (1 + i) (by omega)
    rw [free] at value
    contradiction
  have value' := (lookup_of_collect values i counted).symm.trans value
  have size' := (lookup_of_collect sizes i counted).symm.trans size
  rw [List.getElem?_map] at value' size'
  obtain ⟨x, here, first⟩ := Option.map_eq_some_iff.mp value'
  rw [here] at size'
  rw [here, Prod.ext first (Option.some.inj size')]

theorem BoundFrom.missing {ys : List (Value × Value)} {u : Live Statement} {m : Nat}
    (bound : BoundFrom 1 ys t u)
    (missing : collect u.it.values 1 u.it.count = .error m ∨
      collect u.it.sizes 1 u.it.count = .error m) : ys.length < m := by
  by_contra inside
  have first : 1 ≤ m := by
    rcases missing with missing | missing
    · exact (free_of_collect missing).1
    · exact (free_of_collect missing).1
  have here := bound.reached (m - 1) ys[m - 1] (List.getElem?_eq_getElem (by omega))
  obtain ⟨value, size⟩ := Prod.mk.inj here
  have position : 1 + (m - 1) = m := by omega
  rw [position] at value size
  rcases missing with missing | missing
  · exact absurd (value.symm.trans (free_of_collect missing).2.2.1) (by simp)
  · exact absurd (size.symm.trans (free_of_collect missing).2.2.1) (by simp)

/-- Executing a statement with parameters, whatever is bound to it: a parameter is refused, a position
behind the parameters is free, or the values that are sent begin with those of the parameters. -/
theorem executeWith_cases (isOpen : t.it.closed = false) (ps : List BoundParameter) :
    match encodeFrom 1 ps with
    | .error e => ∃ u, executeWith ps t = .error e u ∧ u.driver = t.driver
    | .ok ys =>
      (∃ m u, ys.length < m ∧ executeWith ps t = .error (.driver ⟨.unbound m, none⟩) u ∧
        u.driver = t.driver) ∨
      ∃ xs es, ys <+: xs ∧ Ran t.driver es ((executeWith ps).after t).driver ∧
        Sends t.it.cursor.number t.it.sql xs (t.driver.features.hasSetInputSizes && !xs.isEmpty)
          es := by
  have bound := bindFrom_cases isOpen (Nat.le_refl 1) ps
  cases encoded : encodeFrom 1 ps with
  | error e =>
    rw [encoded] at bound
    obtain ⟨u, run, same⟩ := bound
    exact ⟨u, Action.bind_error run _, same⟩
  | ok ys =>
    rw [encoded] at bound
    obtain ⟨u, run, bound⟩ := bound
    have executed : executeWith ps t = execute u := Action.bind_ok run _
    have isOpen' : u.it.closed = false := by
      rw [bound.rest]
      exact isOpen
    have same : u.driver = t.driver := by rw [bound.rest]
    rcases execute_cases (d := u.driver) isOpen' with
      ⟨m, missing, failed⟩ | ⟨xs, es, c, d', values, sizes, ran, sends, _, ended⟩
    · exact .inl ⟨m, u, bound.missing missing, executed.trans failed, same⟩
    · refine .inr ⟨xs, es, bound.sent values sizes, ?_, ?_⟩
      · rw [Action.after, executed, ← Action.after, Action.after_ended ended, ← same]
        exact ran
      · rw [bound.rest] at sends
        exact sends

/-! ## Single parameters among all -/

theorem forall₂_encodeFrom {k : Nat} {ps : List BoundParameter} {ys : List (Value × Value)}
    (encoded : encodeFrom k ps = .ok ys) :
    List.Forall₂ (fun p y => ∃ position, encode position p = .ok y) ps ys := by
  induction ps generalizing k ys with
  | nil =>
    cases encoded
    exact .nil
  | cons q ps ih =>
    rw [encodeFrom] at encoded
    cases head : encode k q with
    | error e =>
      rw [head] at encoded
      contradiction
    | ok y =>
      cases tail : encodeFrom (k + 1) ps with
      | error f =>
        rw [head, tail] at encoded
        contradiction
      | ok ys' =>
        rw [head, tail] at encoded
        cases encoded
        exact .cons ⟨k, head⟩ (ih tail)

end Statement

open Statement (encode executeWith)

namespace Value

/-- A value is sent as the escaped form of its text, with the length of that. -/
def SentEscaped (v : Value) (x : Value × Value) : Prop :=
  ∃ sent, x = (.text sent, .int sent.length) ∧ Text.Escapes v.plain sent

theorem SentEscaped.unique {v w : Value} {x : Value × Value} (hv : v.SentEscaped x)
    (hw : w.SentEscaped x) : v.plain = w.plain := by
  obtain ⟨sent, rfl, escapes⟩ := hv
  obtain ⟨sent', same, escapes'⟩ := hw
  obtain ⟨text, _⟩ := Prod.mk.inj same
  cases text
  exact escapes.unique escapes'

end Value

namespace BoundParameter

/-- What may be sent for an escaped string that is given. Other parameters are not restricted. -/
def EscapedSafely (p : BoundParameter) (x : Value × Value) : Prop :=
  p.type = .scalar .escapedString → p.value ≠ .null → p.value.SentEscaped x

/-- An escaped string is refused for one reason only: it has no text. -/
theorem RefusedAt.escaped {p : BoundParameter} {position : Nat} {f : Failure}
    (refused : p.RefusedAt position f) (escaped : p.type = .scalar .escapedString) :
    p.value.overlong = true ∧ f = .conversion .unwritten := by
  cases refused with
  | unsendable e unsendable =>
    cases unsendable with
    | number number =>
      cases escaped
      rcases number with h | h <;> contradiction
    | binary => cases escaped
  | unwritten unwritten => exact ⟨unwritten.2, rfl⟩

theorem escapedSafely_of_encode {p : BoundParameter} {position : Nat} {x : Value × Value}
    (sent : encode position p = .ok x) : p.EscapedSafely x := by
  obtain ⟨v, type⟩ := p
  rintro rfl given
  rw [encode_text position rfl given] at sent
  split at sent
  · contradiction
  · cases sent
    exact ⟨_, rfl, Text.escapes_escapeMarkup v.plain⟩

end BoundParameter

namespace Statement

open Template (Occurrences clean)

/-- What a driver receives for the escaped strings of a template, alone or in a list, on any open
statement. If it receives anything, it receives for each that is given its text in a form that is safe
in markup and that is read back to it, escaped once and no more, with the length of this form. No two
texts have the same form. Parameters are refused for an escaped string only if it is or holds an
integer too long to be written out. -/
theorem sent_escaped {d : Dialect} {marker template : String} {arguments : List Value}
    {q : ParsedQuery} (parsed : Template.parse d marker (.text template) arguments = .ok q)
    {t : Live Statement} (isOpen : t.it.closed = false) :
    (∃ (ps : List (Nat × Placeholder)) (bs : List Binding), Occurrences d (clean template) ps ∧
      ps.length = bs.length ∧
      (∀ (i j : Nat) (p : Placeholder) (b : Binding), ps[i]? = some (j, p) → bs[i]? = some b →
        p.type? = some b.type ∧ arguments[p.index i]? = some b.value) ∧
      q.parameters = bs.flatMap Binding.parameters) ∧
    (∃ es, ((executeWith q.parameters).after t).driver.history = t.driver.history ++ es ∧
      ((es = [] ∧ ∃ (i : Nat) (p : BoundParameter) (f : Failure), q.parameters[i]? = some p ∧
          p.RefusedAt (i + 1) f ∧
          (p.type = .scalar .escapedString →
            p.value.overlong = true ∧ f = .conversion .unwritten) ∧
          (executeWith q.parameters).outcome t = .error f) ∨
        (es = [] ∧ ∃ position, q.parameters.length < position ∧
          (executeWith q.parameters).outcome t = .error (.driver ⟨.unbound position, none⟩)) ∨
        ∃ ys xs, List.Forall₂ BoundParameter.EscapedSafely q.parameters ys ∧ ys <+: xs ∧
          Sends t.it.cursor.number t.it.sql xs
            (t.driver.features.hasSetInputSizes && !xs.isEmpty) es)) ∧
    ∀ (v w : Value) (x : Value × Value), v.SentEscaped x → w.SentEscaped x → v.plain = w.plain := by
  have checked := Template.checked_of_parse parsed
  obtain ⟨ps, bs, occurrences, each, named, _, parameters⟩ := Template.bindings_of_parse parsed
  refine ⟨⟨ps, bs, occurrences, each, named, parameters⟩, ?_, fun _ _ _ =>
    Value.SentEscaped.unique⟩
  have cases := executeWith_cases isOpen q.parameters
  cases encoded : encodeFrom 1 q.parameters with
  | error f =>
    rw [encoded] at cases
    obtain ⟨u, run, same⟩ := cases
    obtain ⟨i, p, hp, refused⟩ := BoundParameter.refused_of_encodeFrom checked encoded
    refine ⟨[], ?_, .inl ⟨rfl, i, p, f, hp, refused, refused.escaped, ?_⟩⟩
    · rw [Action.after, run, List.append_nil]
      exact congrArg Driver.history same
    · rw [Action.outcome, run]
  | ok ys =>
    rw [encoded] at cases
    have each := forall₂_encodeFrom encoded
    rcases cases with ⟨position, u, beyond, run, same⟩ | ⟨xs, es, first, ran, sends⟩
    · refine ⟨[], ?_, .inr (.inl ⟨rfl, position, each.length_eq ▸ beyond, ?_⟩)⟩
      · rw [Action.after, run, List.append_nil]
        exact congrArg Driver.history same
      · rw [Action.outcome, run]
    · have safe : List.Forall₂ BoundParameter.EscapedSafely q.parameters ys := by
        refine each.imp ?_
        rintro p x ⟨position, sent⟩
        exact BoundParameter.escapedSafely_of_encode sent
      exact ⟨es, ran.history, .inr (.inr ⟨ys, xs, safe, first, sends⟩)⟩

theorem sent_escaped_entities :
    let arguments : List Value := [.text "&lt;", .list [.text "<a href='x'>", .null, .int 5]]
    let t : Live Statement := ⟨{ cursor := {}, sql := "INSERT INTO t VALUES (?, ?, ?, ?)" },
      { features := { moduleName := "", hasSetInputSizes := true } }⟩
    t.it.closed = false ∧ ∃ q es ys xs,
      Template.parse .basic "?" (.text "{es} {les}") arguments = .ok q ∧
      ((executeWith q.parameters).after t).driver.history = es ∧
      List.Forall₂ BoundParameter.EscapedSafely q.parameters ys ∧ ys <+: xs ∧
      Sends 0 t.it.sql xs (!xs.isEmpty) es := by
  intro arguments t
  refine ⟨rfl, ?_⟩
  have ran : ((Template.parse .basic "?" (.text "{es} {les}") arguments).bind fun q =>
      (executeWith q.parameters).outcome t).isOk = true := by decide +kernel
  cases parsed : Template.parse .basic "?" (.text "{es} {les}") arguments with
  | error e =>
    rw [parsed] at ran
    contradiction
  | ok q =>
    rw [parsed] at ran
    have sent : ((executeWith q.parameters).outcome t).isOk = true := ran
    obtain ⟨_, ⟨es, history, reached⟩, _⟩ := sent_escaped parsed (t := t) rfl
    rcases reached with ⟨_, _, _, _, _, _, _, failed⟩ | ⟨_, _, _, failed⟩ | ⟨ys, xs, safe, first, sends⟩
    · rw [failed] at sent
      contradiction
    · rw [failed] at sent
      contradiction
    · exact ⟨q, es, ys, xs, rfl, history, safe, first, sends⟩

end Statement

end SqlTemplate
