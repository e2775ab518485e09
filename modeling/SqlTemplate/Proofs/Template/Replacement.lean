import SqlTemplate.Proofs.Template.Shape

/-!
Splicing and searching come to the same text. A parser replaces placeholders where they stand; one
can as well look for each of them in the text that has been rewritten so far and replace the first
occurrence. What has been rewritten never holds the text of a placeholder, alone or together with
what follows, so the first occurrence is always the placeholder itself.
-/
namespace SqlTemplate.Template

/-! ## Rewriting by search -/

def replaceFirst (old new : List Char) : List Char → List Char
  | [] => if old = [] then new else []
  | c :: cs =>
    if old <+: c :: cs then new ++ (c :: cs).drop old.length else c :: replaceFirst old new cs

/-- A text in which, one placeholder after the other, the first occurrence of the placeholder has
been replaced. -/
def replaceInTurn (d : Dialect) (marker : String) (cs : List Char)
    (ps : List (Placeholder × Binding)) : List Char :=
  ps.foldl (fun cs p => replaceFirst (p.1.written d) (p.2.text marker).toList cs) cs

theorem replaceFirst_append {old new before after : List Char}
    (first : ∀ k < before.length, ¬ old <+: (before ++ (old ++ after)).drop k) :
    replaceFirst old new (before ++ (old ++ after)) = before ++ (new ++ after) := by
  induction before with
  | nil =>
    have here : old <+: old ++ after := List.prefix_append old after
    rw [List.nil_append, List.nil_append]
    cases text : old ++ after with
    | nil =>
      obtain ⟨rfl, rfl⟩ := List.append_eq_nil_iff.mp text
      simp [replaceFirst]
    | cons c cs =>
      rw [replaceFirst, ← text, if_pos here, List.drop_left]
  | cons c before ih =>
    have notHere : ¬ old <+: c :: (before ++ (old ++ after)) := first 0 (Nat.succ_pos _)
    have rest := ih fun k below => first (k + 1) (Nat.succ_lt_succ below)
    rw [List.cons_append, replaceFirst, if_neg notHere, rest, List.cons_append]

/-! ## What replacements are made of -/

/-- The characters of markers and of groups of markers. -/
def markCharacters : List Char :=
  ['(', ',', '?', ')']

theorem inert_mark {c : Char} (mark : c ∈ markCharacters) : Inert c := by
  simp only [markCharacters, List.mem_cons, List.not_mem_nil, or_false] at mark
  rcases mark with rfl | rfl | rfl | rfl <;> exact inert_of_not_mark (by decide) (by decide)

theorem mem_text {b : Binding} : ∀ c ∈ (b.text "?").toList, c ∈ markCharacters := by
  intro c mem
  rcases b.mem_text mem with question | bracket
  · simp_all [markCharacters]
  · simp only [List.mem_cons, List.not_mem_nil, or_false] at bracket
    rcases bracket with rfl | rfl | rfl <;> simp [markCharacters]

theorem text_ne_nil (b : Binding) : (b.text "?").toList ≠ [] := by
  rw [Binding.text]
  split <;> simp

/-! ## What has been rewritten -/

/-- The text of no placeholder starts in `before`, if `after` follows it. -/
def Behind (d : Dialect) (before after : List Char) : Prop :=
  ∀ p, WellFormed d p → ∀ k < before.length, ¬ p.written d <+: (before ++ after).drop k

section
variable {d : Dialect} {before after : List Char}

theorem behind_nil (d : Dialect) (after : List Char) : Behind d [] after := by
  intro p _ k below
  contradiction

/-- A character that stands for itself can be passed. -/
theorem Behind.char {c : Char} (behind : Behind d before (c :: after))
    (missing : placeholder? d c after = none) : Behind d (before ++ [c]) after := by
  intro p well k below starts
  rw [List.append_assoc, List.singleton_append] at starts
  by_cases inside : k < before.length
  · exact behind p well k inside starts
  · have here : k = before.length := by
      rw [List.length_append, List.length_singleton] at below
      omega
    rw [here, List.drop_left] at starts
    exact placeholder?_of_prefix well starts missing

/-- A marker or a group of markers can take the place of a placeholder: a placeholder would have to
hold one of its characters. -/
theorem Behind.replaced {old : List Char} (behind : Behind d before (old ++ after)) (b : Binding) :
    Behind d (before ++ (b.text "?").toList) after := by
  intro p well k below starts
  have nonempty := written_pos d p
  have filled := List.length_pos_iff.mpr (text_ne_nil b)
  rw [List.length_append] at below
  rw [List.append_assoc] at starts
  -- Either the placeholder ends within `before`, or it reaches into the marks: the character at `j`
  -- is one of them and belongs to the placeholder.
  by_cases clear : k + (p.written d).length ≤ before.length
  · have inside : p.written d <+: before.drop k := by
      rw [List.drop_append_of_le_length (by omega)] at starts
      apply List.prefix_of_prefix_length_le starts (List.prefix_append _ _)
      rw [List.length_drop]
      omega
    apply behind p well k (by omega)
    rw [List.drop_append_of_le_length (by omega)]
    exact inside.trans (List.prefix_append _ _)
  · obtain ⟨j, above, beyond, within, reached⟩ : ∃ j, k ≤ j ∧ before.length ≤ j ∧
        j < before.length + (b.text "?").toList.length ∧ j < k + (p.written d).length :=
      ⟨max k before.length, by omega, by omega, by omega, by omega⟩
    have shared := List.prefix_iff_getElem?.mp starts (j - k) (by omega)
    have position : k + (j - k) = j := by omega
    rw [List.getElem?_drop, position, List.getElem?_append_right beyond,
      List.getElem?_append_left (by omega)] at shared
    have inert := inert_mark (mem_text _ (List.mem_of_getElem? shared))
    exact inert d p well (List.getElem_mem _)

/-- Rewriting by search what pieces were read from comes to the pieces with their placeholders
replaced. The induction is on the pieces of what is left, `before` being the part that is done. -/
theorem replaceInTurn_pieces (cs : List Char) {before : List Char} (behind : Behind d before cs)
    {bs : List Binding} (enough : (placeholders (pieces d cs)).length = bs.length) :
    replaceInTurn d "?" (before ++ cs) ((placeholders (pieces d cs)).zip bs) =
      before ++ fill "?" (pieces d cs) bs := by
  induction cs using pieces.induct d generalizing before bs with
  | case1 => simp [pieces, placeholders, replaceInTurn, fill]
  | case2 c cs p rest found ih =>
    have here := placeholder?_eq_some_iff.mp found
    rw [pieces_of_found found, placeholders] at enough ⊢
    cases bs with
    | nil => simp at enough
    | cons b bs =>
      rw [here.text] at behind ⊢
      have step : replaceFirst (p.written d) (b.text "?").toList
          (before ++ (p.written d ++ rest)) = before ++ ((b.text "?").toList ++ rest) :=
        replaceFirst_append (behind p here.wellFormed)
      have done := ih (behind.replaced b) (Nat.succ.inj enough)
      rw [replaceInTurn, List.zip_cons_cons, List.foldl_cons, step, ← List.append_assoc]
      rw [fill, ← List.append_assoc]
      exact done
  | case3 c cs missing ih =>
    rw [pieces_of_missing missing, placeholders] at enough ⊢
    have alone : literal "?" c = [c] := if_neg fun h => absurd h.1 (by decide)
    have done := ih (behind.char missing) enough
    rw [List.append_assoc, List.singleton_append] at done
    rw [done, fill, alone, List.append_assoc]

end

/-- The text of a template that could be read for a driver with question marks is also come to by
search: its placeholders are all that the cleaned text has, each of them names a type and an
argument, and one after the other the first occurrence of it in the text so far is replaced by a
marker, or by a group of markers with one for each element. -/
theorem sql_eq_replaced {d : Dialect} {template : String} {arguments : List Value} {q : ParsedQuery}
    (parsed : parse d "?" (.text template) arguments = .ok q) :
    ∃ (ps : List (Nat × Placeholder)) (bs : List Binding), Occurrences d (clean template) ps ∧
      ps.length = bs.length ∧
      (∀ (i j : Nat) (p : Placeholder) (b : Binding), ps[i]? = some (j, p) → bs[i]? = some b →
        p.type? = some b.type ∧ arguments[p.index i]? = some b.value) ∧
      q.sql = String.ofList (replaceInTurn d "?" (clean template) ((ps.map (·.2)).zip bs)) := by
  let xs := pieces d (clean template)
  have holes_eq : (holes d 0 xs).map (·.2) = placeholders xs := map_snd_holes d 0 xs
  have read : (Parser.parse (.text template) arguments).outcome { dialect := d } = .ok q := parsed
  rw [Parser.parse_pieces] at read
  simp only at read
  split at read
  · contradiction
  · next fits =>
    cases read
    have enough : (placeholders xs).length = (bindings arguments 0 (placeholders xs)).length :=
      length_bindings fits
    refine ⟨holes d 0 xs, bindings arguments 0 (placeholders xs), occurrences_pieces d _,
      ?_, ?_, ?_⟩
    · rw [← enough, ← holes_eq, List.length_map]
    · intro i j p b hp hb
      have named : (placeholders xs)[i]? = some p := by
        rw [← holes_eq, List.getElem?_map, hp]
        rfl
      have spec := bindings_spec fits i p b named hb
      rwa [Nat.zero_add] at spec
    · rw [holes_eq]
      have rewritten := replaceInTurn_pieces (clean template) (behind_nil d _) enough
      rw [List.nil_append, List.nil_append] at rewritten
      rw [rewritten]

theorem sql_eq_replaced_repeated :
    let template := "SELECT 5 % 2, '%%s' FROM t WHERE a = %s AND b IN %ld OR c IN %ls;"
    let sql := "SELECT 5 % 2, '%?' FROM t WHERE a = ? AND b IN (?,?) OR c IN (?)"
    let arguments : List Value := [.text "a", .text "%s", .text "1,2", .list [.null]]
    ∃ q ps bs, parse .classic "?" (.text template) arguments = .ok q ∧ q.sql = sql ∧
      Occurrences .classic (clean template) ps ∧ ps.length = bs.length ∧
      sql =
        String.ofList (replaceInTurn .classic "?" (clean template) ((ps.map (·.2)).zip bs)) := by
  intro template sql arguments
  have text : (parse .classic "?" (.text template) arguments).toOption.map (·.sql) = some sql := by
    decide +kernel
  cases parsed : parse .classic "?" (.text template) arguments with
  | error e =>
    rw [parsed] at text
    contradiction
  | ok q =>
    rw [parsed] at text
    have same : q.sql = sql := Option.some.inj text
    obtain ⟨ps, bs, occurrences, length, _, rewritten⟩ := sql_eq_replaced parsed
    exact ⟨q, ps, bs, rfl, same, occurrences, length, same ▸ rewritten⟩

end SqlTemplate.Template
