import SqlTemplate.Proofs.Template.Shape
import SqlTemplate.Proofs.Value.Elements

/-!
A list of values can be given to a template as a list, as a tuple or as a text with commas. Whether the
template can be read, the statement it makes and all that a driver receives are the same; only messages
show the difference.
-/
namespace SqlTemplate

open Statement (bindFrom bindParameter executeWith)

/-! ## Parameters that are sent alike -/

/-- Parameters of one type that are bound alike at every position: the same is sent for both, or the
same is wrong. -/
structure BoundParameter.SentAlike (p p' : BoundParameter) : Prop where
  type : p.type = p'.type
  bound : ∀ position, bindParameter position p = bindParameter position p'

namespace Statement

theorem bindFrom_congr {ps ps' : List BoundParameter}
    (alike : List.Forall₂ BoundParameter.SentAlike ps ps') (position : Nat) :
    bindFrom position ps = bindFrom position ps' := by
  induction alike generalizing position with
  | nil => rfl
  | cons head _ ih => rw [bindFrom_cons, bindFrom_cons, head.bound, ih]

/-- Parameters that are sent alike make the same run, on every statement and with every driver. -/
theorem executeWith_congr {ps ps' : List BoundParameter}
    (alike : List.Forall₂ BoundParameter.SentAlike ps ps') : executeWith ps = executeWith ps' := by
  unfold executeWith bindAll
  rw [bindFrom_congr alike]

end Statement

def Placeholder.taken? (p : Placeholder) (k : Nat) : Option Nat :=
  match p.location.bind unreadable? with
  | none => some (p.index k)
  | some _ => none

namespace Template

variable {located : Bool}

/-! ## Placeholders for lists -/

/-- Of placeholders with `k` others before them, those that take the argument at an index are of list
types, unless their code is of no type at all. -/
def OnlyLists (i k : Nat) (ps : List Placeholder) : Prop :=
  ∀ (j : Nat) (p : Placeholder) (t : ValueType), ps[j]? = some p → p.taken? (k + j) = some i →
    p.type? = some t → t.isList = true

theorem OnlyLists.tail {i k : Nat} {p : Placeholder} {ps : List Placeholder}
    (lists : OnlyLists i k (p :: ps)) : OnlyLists i (k + 1) ps := by
  intro j q t at_ taken
  rw [Nat.add_assoc, Nat.add_comm 1] at taken
  exact lists (j + 1) q t at_ taken

theorem OnlyLists.head {i k : Nat} {p : Placeholder} {ps : List Placeholder} {t : ValueType}
    (lists : OnlyLists i k (p :: ps)) (numbered : p.unnumbered? located = none)
    (here : p.index k = i) (type : p.type? = some t) : ∃ l, t = .list l := by
  have readable : p.location.bind Placeholder.unreadable? = none := by
    rw [Placeholder.unnumbered?] at numbered
    split at numbered
    · contradiction
    · exact numbered
  have taken : p.taken? k = some i := by rw [Placeholder.taken?, readable, here]
  have list := lists 0 p t rfl taken type
  cases t with
  | scalar t => contradiction
  | list l => exact ⟨l, rfl⟩

/-- Arguments that differ only at one index, where both have a list with elements that are alike. -/
structure SameLists (i : Nat) (arguments arguments' : List Value) : Prop where
  others : ∀ j, j ≠ i → arguments[j]? = arguments'[j]?
  elements : ∃ v v', arguments[i]? = some v ∧ arguments'[i]? = some v' ∧ v.SplitAlike v'

theorem sameLists_append (before after : List Value) {v v' : Value} (alike : v.SplitAlike v') :
    SameLists before.length (before ++ v :: after) (before ++ v' :: after) := by
  constructor
  case others =>
    intro j elsewhere
    by_cases front : j < before.length
    · rw [List.getElem?_append_left front, List.getElem?_append_left front]
    · obtain ⟨n, rfl⟩ : ∃ n, j = before.length + (n + 1) := ⟨j - before.length - 1, by omega⟩
      rw [List.getElem?_append_right (by omega), List.getElem?_append_right (by omega),
        Nat.add_sub_cancel_left, List.getElem?_cons_succ, List.getElem?_cons_succ]
  case elements => exact ⟨v, v', by simp, by simp, alike⟩

section
variable {i k : Nat} {arguments arguments' : List Value} {p : Placeholder}
  {ps : List Placeholder}

theorem SameLists.alike_or_eq (same : SameLists i arguments arguments') {j : Nat} {v v' : Value}
    (argument : arguments[j]? = some v) (argument' : arguments'[j]? = some v') :
    (j = i ∧ v.SplitAlike v') ∨ v = v' := by
  by_cases here : j = i
  · obtain ⟨w, w', given, given', alike⟩ := same.elements
    rw [here, given] at argument
    rw [here, given'] at argument'
    cases argument
    cases argument'
    exact .inl ⟨here, alike⟩
  · rw [same.others j here, argument'] at argument
    exact .inr (Option.some.inj argument).symm

theorem SameLists.length_elements (same : SameLists i arguments arguments') {j : Nat} {v v' : Value}
    (argument : arguments[j]? = some v) (argument' : arguments'[j]? = some v') :
    v.elements.length = v'.elements.length := by
  rcases same.alike_or_eq argument argument' with ⟨_, alike⟩ | rfl
  · exact alike.elements.length_eq
  · rfl

/-- A list is refused for its elements, and the class of the error does not depend on them. -/
theorem check_list_class {t : ListType} {v v' : Value} (alike : v.SplitAlike v') :
    (((ValueType.list t).check v).map Failure.argument).map Failure.errorClass =
      (((ValueType.list t).check v').map Failure.argument).map Failure.errorClass := by
  have accepted : (ValueType.list t).check v = none ↔ (ValueType.list t).check v' = none :=
    Value.accepts_list_congr alike.elements
  have own {x y : Value} (alike : x.SplitAlike y) {e : ArgumentError}
      (checked : (ValueType.list t).check x = some e) : e.errorClass = .invalidArgument := by
    by_contra foreign
    exact alike.not_lacksText t (ValueType.check_foreign_iff.mp ⟨checked, foreign⟩).1
  cases checked : (ValueType.list t).check v with
  | none => rw [accepted.mp checked]
  | some e =>
    cases checked' : (ValueType.list t).check v' with
    | none =>
      rw [accepted.mpr checked'] at checked
      contradiction
    | some e' => exact congrArg some ((own alike checked).trans (own alike.symm checked').symm)

theorem unbound?_class (same : SameLists i arguments arguments') (lists : OnlyLists i k (p :: ps))
    (numbered : p.unnumbered? located = none) :
    (p.unbound? arguments k).map Failure.errorClass =
      (p.unbound? arguments' k).map Failure.errorClass := by
  unfold Placeholder.unbound?
  by_cases here : p.index k = i
  · obtain ⟨v, v', argument, argument', alike⟩ := same.elements
    rw [here, argument, argument']
    cases type : p.type? with
    | none => rfl
    | some t =>
      obtain ⟨l, rfl⟩ := lists.head numbered here type
      exact check_list_class alike
  · rw [same.others _ here]

/-- Both or neither of the arguments are refused, and for both it is an error of one class. -/
theorem refusal?_class (same : SameLists i arguments arguments') (lists : OnlyLists i k ps) :
    (refusal? arguments located k ps).map Failure.errorClass =
      (refusal? arguments' located k ps).map Failure.errorClass := by
  induction ps generalizing k with
  | nil => rfl
  | cons p ps ih =>
    have here : (p.refusal? arguments located k).map Failure.errorClass =
        (p.refusal? arguments' located k).map Failure.errorClass := by
      unfold Placeholder.refusal?
      -- A placeholder without an argument of its own is refused before any value is looked at.
      cases numbered : p.unnumbered? located with
      | some e => rfl
      | none => exact unbound?_class same lists numbered
    rw [refusal?, refusal?, Option.map_or, Option.map_or, here, ih lists.tail]

/-- The elements of lists are bound with one type and sent alike. -/
theorem sentAlike_elements {t : ListType} {v v' : Value} (alike : v.SplitAlike v')
    (accepted : (ValueType.list t).check v = none) :
    List.Forall₂ BoundParameter.SentAlike (Binding.parameters ⟨.list t, v⟩)
      (Binding.parameters ⟨.list t, v'⟩) := by
  obtain ⟨_, each⟩ := ValueType.accepts_list_iff.mp accepted
  have bare : t.element ≠ .binary := by cases t <;> simp [ListType.element]
  simp only [Binding.parameters, Binding.values, ValueType.element, List.forall₂_map_left_iff,
    List.forall₂_map_right_iff]
  have alike := alike.elements
  generalize v.elements = vs, v'.elements = ws at alike each
  induction alike with
  | nil => exact .nil
  | cons head _ ih =>
    obtain ⟨here, rest⟩ := List.forall_mem_cons.mp each
    exact .cons ⟨rfl, head.bindParameter_eq here bare⟩ (ih rest)

theorem sentAlike_refl (ps : List BoundParameter) :
    List.Forall₂ BoundParameter.SentAlike ps ps :=
  List.forall₂_same.mpr fun _ _ => ⟨rfl, fun _ => rfl⟩

/-- What the placeholders bind is sent alike, with the one list or the other. -/
theorem sentAlike_bindings (same : SameLists i arguments arguments') (lists : OnlyLists i k ps)
    (fits : refusal? arguments located k ps = none)
    (fits' : refusal? arguments' located k ps = none) :
    List.Forall₂ BoundParameter.SentAlike
      ((bindings arguments k ps).flatMap Binding.parameters)
      ((bindings arguments' k ps).flatMap Binding.parameters) := by
  induction ps generalizing k with
  | nil => exact .nil
  | cons p ps ih =>
    rw [refusal?, Option.or_eq_none_iff, Placeholder.refusal?, Option.or_eq_none_iff] at fits fits'
    obtain ⟨⟨numbered, bound⟩, rest⟩ := fits
    obtain ⟨⟨_, bound'⟩, rest'⟩ := fits'
    obtain ⟨t, v, type, argument, accepted⟩ := unbound?_eq_none_iff.mp bound
    obtain ⟨t', v', type', argument', _⟩ := unbound?_eq_none_iff.mp bound'
    obtain rfl : t = t' := Option.some.inj (type.symm.trans type')
    have head : List.Forall₂ BoundParameter.SentAlike (Binding.parameters ⟨t, v⟩)
        (Binding.parameters ⟨t, v'⟩) := by
      rcases same.alike_or_eq argument argument' with ⟨here, alike⟩ | rfl
      · obtain ⟨l, rfl⟩ := lists.head numbered here type
        exact sentAlike_elements alike accepted
      · exact sentAlike_refl _
    rw [bindings, bindings, type, argument, argument', List.flatMap_cons, List.flatMap_cons]
    exact List.rel_append head (ih lists.tail rest rest')

end

/-! ## Reading a template -/

theorem types_of_sentAlike {ps ps' : List BoundParameter}
    (alike : List.Forall₂ BoundParameter.SentAlike ps ps') :
    ps.map (·.type) = ps'.map (·.type) := by
  induction alike with
  | nil => rfl
  | cons head _ ih => rw [List.map_cons, List.map_cons, head.type, ih]

/-- Two readings of a template that differ in nothing but what messages show. Both fail with an error of
one class; or both make one statement with parameters of the same types, and on any statement and with
any driver the parameters make the same run: they are refused at the same position, or the driver is
sent the same values and lengths. -/
inductive SameReading : Except Failure ParsedQuery → Except Failure ParsedQuery → Prop
  | refused {e e' : Failure} (errorClass : e.errorClass = e'.errorClass) :
    SameReading (.error e) (.error e')
  | read {q q' : ParsedQuery} (sql : q.sql = q'.sql)
      (types : q.parameters.map (·.type) = q'.parameters.map (·.type))
      (run : executeWith q.parameters = executeWith q'.parameters) :
    SameReading (.ok q) (.ok q')

theorem sameReading_of_sameLists (parser : Parser) (template : String) {i : Nat}
    {arguments arguments' : List Value} (same : SameLists i arguments arguments')
    (lists : OnlyLists i 0 ((Parser.occurrencesIn parser.dialect template).map (·.2))) :
    SameReading ((Parser.parse (.text template) arguments).outcome parser)
      ((Parser.parse (.text template) arguments').outcome parser) := by
  rw [Parser.parse_eq, Parser.parse_eq]
  simp only
  generalize Parser.occurrencesIn parser.dialect template = ps at lists ⊢
  generalize firstLocated (ps.map (·.2)) = located
  have classes : (refusal? arguments located 0 (ps.map (·.2))).map Failure.errorClass =
      (refusal? arguments' located 0 (ps.map (·.2))).map Failure.errorClass :=
    refusal?_class same lists
  cases fits : refusal? arguments located 0 (ps.map (·.2)) with
  | some e =>
    rw [fits] at classes
    obtain ⟨e', fits', errorClass⟩ := Option.map_eq_some_iff.mp classes.symm
    rw [fits']
    exact .refused errorClass.symm
  | none =>
    rw [fits] at classes
    have fits' := Option.map_eq_none_iff.mp classes.symm
    rw [fits']
    have alike := sentAlike_bindings same lists fits fits'
    have texts := text_bindings_eq parser.marker fits fits' fun _ _ _ _ _ _ _ argument argument' =>
      same.length_elements argument argument'
    refine .read ?_ ?_ (Statement.executeWith_congr alike)
    · exact congrArg String.ofList (splice_congr parser.dialect parser.marker _ 0 _ texts)
    · exact types_of_sentAlike alike

/-- A list of values, none of them absent and none with a comma in its text, can be given as a list, as
a tuple or as its texts with commas between them wherever a template has it for placeholders of list
types. Whichever it is, the reading is the same. -/
theorem sameReading_of_spellings (parser : Parser) (template : String)
    {ps : List (Nat × Placeholder)} (occurrences : Occurrences parser.dialect (clean template) ps)
    (before after : List Value) (lists : OnlyLists before.length 0 (ps.map (·.2))) {vs : List Value}
    (nonempty : vs ≠ []) (joinable : ∀ v ∈ vs, v.Joinable) :
    ∀ x ∈ Value.spellings vs, ∀ y ∈ Value.spellings vs,
      SameReading ((Parser.parse (.text template) (before ++ x :: after)).outcome parser)
        ((Parser.parse (.text template) (before ++ y :: after)).outcome parser) := by
  intro x hx y hy
  have holes : ps = Parser.occurrencesIn parser.dialect template :=
    occurrences.unique (occurrences_pieces parser.dialect (clean template))
  rw [holes] at lists
  have same := sameLists_append before after (Value.splitAlike_spellings nonempty joinable hx hy)
  exact sameReading_of_sameLists parser template same lists

theorem sameReading_of_spellings_numbers :
    let template := "SELECT * FROM t WHERE a = {0:s} AND b IN {1:ld} AND c IN {1:l}"
    let ps := Parser.occurrencesIn .basic template
    let vs : List Value := [.int 5, .bytes .binary [45, 55], .text "+3"]
    Occurrences .basic (clean template) ps ∧ OnlyLists 1 0 (ps.map (·.2)) ∧
      (∀ v ∈ vs, v.Joinable) ∧ ∃ q q',
        parse .basic "?" (.text template) [.text "x", .list vs] = .ok q ∧
        parse .basic "?" (.text template) [.text "x", .text "5,-7,+3"] = .ok q' ∧
        executeWith q.parameters = executeWith q'.parameters := by
  intro template ps vs
  have occurrences : Occurrences .basic (clean template) ps := occurrences_pieces _ _
  have lists : OnlyLists 1 0 (ps.map (·.2)) := by
    have read : ps.map (·.2) = [⟨some ['0'], ['s']⟩, ⟨some ['1'], ['l', 'd']⟩,
        ⟨some ['1'], ['l']⟩] := by decide +kernel
    rw [read]
    intro j p t at_ taken type
    rcases j with _ | _ | _ | j <;> cases at_
    · exact absurd taken (by decide)
    · have integers : Placeholder.type? ⟨some ['1'], ['l', 'd']⟩ = some (.list .integers) := by
        decide +kernel
      cases integers.symm.trans type
      rfl
    · have any : Placeholder.type? ⟨some ['1'], ['l']⟩ = some (.list .any) := by decide +kernel
      cases any.symm.trans type
      rfl
  have joinable : ∀ v ∈ vs, v.Joinable := by
    intro v hv
    simp only [vs, List.mem_cons, List.not_mem_nil, or_false] at hv
    rcases hv with rfl | rfl | rfl <;> exact ⟨by simp, by decide, by decide +kernel⟩
  refine ⟨occurrences, lists, joinable, ?_⟩
  have joined : Value.joined vs = "5,-7,+3" := by decide +kernel
  have fits : (parse .basic "?" (.text template) [.text "x", .list vs]).isOk = true := by
    decide +kernel
  have same := sameReading_of_spellings { dialect := .basic } template occurrences [.text "x"] []
    lists (by decide) joinable (.list vs) (by simp [Value.spellings]) (.text (Value.joined vs))
    (by simp [Value.spellings])
  rw [joined] at same
  change SameReading (parse .basic "?" (.text template) [.text "x", .list vs])
    (parse .basic "?" (.text template) [.text "x", .text "5,-7,+3"]) at same
  generalize parse .basic "?" (.text template) [.text "x", .list vs] = reading at same fits ⊢
  generalize parse .basic "?" (.text template) [.text "x", .text "5,-7,+3"] = reading' at same ⊢
  cases same with
  | refused => contradiction
  | read sql types run => exact ⟨_, _, rfl, rfl, run⟩

end Template

end SqlTemplate
