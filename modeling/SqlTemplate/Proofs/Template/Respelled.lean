import Mathlib.Data.Nat.Digits.Defs
import SqlTemplate.Proofs.Template.Shape
import SqlTemplate.Proofs.Value.Plain

/-!
The ways to write a template agree. A placeholder that leaves its location to be inferred takes the
argument that counting the placeholders gives it, and the classic dialect only writes it another way.

The placeholders of a text are rewritten one by one, where they stand. The scanner finds the new ones
in their places and no others (`pieces_respelled`), and what cleaning takes away is not part of any
placeholder (`clean_respelled`). What is left to compare are placeholders: the same ones, or the same
ones with their numbers (`refusal?_numbered`).
-/
namespace SqlTemplate

def Placeholder.numbered (k : Nat) (p : Placeholder) : Placeholder :=
  { p with location := some (Nat.toDigits 10 k) }

namespace Template

open Text (IsWordRun EndsWord isWord isBlank)

/-- The text from `start` on with each placeholder rewritten, if `k` others stand before them: what
`change` makes of it is written in the basic dialect. -/
def rewriteFrom (d : Dialect) (change : Nat → Placeholder → Placeholder) (t : List Char)
    (start k : Nat) : List (Nat × Placeholder) → List Char
  | [] => t.drop start
  | (i, p) :: ps =>
    (t.take i).drop start ++ (change k p).written .basic ++
      rewriteFrom d change t (i + (p.written d).length) (k + 1) ps

/-- A template with its placeholders rewritten, of which the first has the number 0. -/
def rewrite (d : Dialect) (change : Nat → Placeholder → Placeholder) (template : String)
    (ps : List (Nat × Placeholder)) : Value :=
  .text (String.ofList (rewriteFrom d change template.toList 0 0 ps))

/-- What a template makes: the text of a statement and its parameters, or a failure. -/
def made : Except Failure ParsedQuery → Except Failure (String × List BoundParameter) :=
  Except.map fun q => (q.sql, q.parameters)

/-! ## Pieces and their text -/

def text (d : Dialect) : List Piece → List Char
  | [] => []
  | .char c :: xs => c :: text d xs
  | .hole p :: xs => p.written d ++ text d xs

theorem text_append (d : Dialect) (xs ys : List Piece) :
    text d (xs ++ ys) = text d xs ++ text d ys := by
  induction xs with
  | nil => rfl
  | cons x xs ih => cases x <;> simp [text, ih]

theorem text_chars (d : Dialect) (cs : List Char) : text d (cs.map .char) = cs := by
  induction cs with
  | nil => rfl
  | cons c cs ih => simp [text, ih]

theorem text_pieces (d : Dialect) (cs : List Char) : text d (pieces d cs) = cs := by
  induction cs using pieces.induct d with
  | case1 => simp [pieces, text]
  | case2 c cs p rest found ih =>
    have here := placeholder?_eq_some_iff.mp found
    rw [pieces_of_found found, text, ih, here.text]
  | case3 c cs missing ih => rw [pieces_of_missing missing, text, ih]

def relabel (change : Nat → Placeholder → Placeholder) (k : Nat) : List Piece → List Piece
  | [] => []
  | .char c :: xs => .char c :: relabel change k xs
  | .hole p :: xs => .hole (change k p) :: relabel change (k + 1) xs

section
variable {d : Dialect} {change : Nat → Placeholder → Placeholder}

theorem relabel_append (k : Nat) (xs ys : List Piece) :
    relabel change k (xs ++ ys) =
      relabel change k xs ++ relabel change (k + (placeholders xs).length) ys := by
  induction xs generalizing k with
  | nil => rfl
  | cons x xs ih =>
    cases x with
    | char c => simp [relabel, placeholders, ih]
    | hole p => simp [relabel, placeholders, ih, Nat.add_assoc, Nat.add_comm 1]

theorem relabel_chars (k : Nat) (cs : List Char) :
    relabel change k (cs.map .char) = cs.map .char := by
  induction cs with
  | nil => rfl
  | cons c cs ih => simp [relabel, ih]

theorem placeholders_chars (cs : List Char) : placeholders (cs.map .char) = [] := by
  induction cs with
  | nil => rfl
  | cons c cs ih => simpa [placeholders] using ih

/-- A text with its placeholders rewritten, if `k` others stand before them. -/
def respelled (d : Dialect) (change : Nat → Placeholder → Placeholder) (k : Nat)
    (cs : List Char) : List Char :=
  text .basic (relabel change k (pieces d cs))

/-- Rewriting goes from one placeholder to the next. `before` is what `cs` comes after, and `start`
is where the text in between began. -/
theorem rewriteFrom_holes (d : Dialect) (change : Nat → Placeholder → Placeholder)
    (cs : List Char) {before : List Char} {start : Nat} (le : start ≤ before.length) (k : Nat) :
    rewriteFrom d change (before ++ cs) start k (holes d before.length (pieces d cs)) =
      before.drop start ++ respelled d change k cs := by
  induction cs using pieces.induct d generalizing before start k with
  | case1 => simp [pieces, holes, rewriteFrom, respelled, relabel, text]
  | case2 c cs p rest found ih =>
    have here := placeholder?_eq_some_iff.mp found
    have position : before.length + (p.written d).length = (before ++ p.written d).length := by
      simp
    rw [respelled, pieces_of_found found, holes, rewriteFrom, List.take_left, position, here.text,
      ← List.append_assoc before, ih (Nat.le_refl _), List.drop_length]
    simp [relabel, text, respelled]
  | case3 c cs missing ih =>
    have le' : start ≤ (before ++ [c]).length := by simp; omega
    have shift := ih le' k
    rw [List.append_assoc, List.singleton_append, List.length_append, List.length_singleton,
      List.drop_append_of_le_length le, List.append_assoc] at shift
    rw [respelled, pieces_of_missing missing, holes, shift]
    rfl

/-! ## Scanning what was rewritten -/

theorem written_basic (p : Placeholder) :
    ∃ inner, p.written .basic = '{' :: (inner ++ ['}']) := by
  obtain ⟨location, code⟩ := p
  cases location with
  | none => exact ⟨code, rfl⟩
  | some l => exact ⟨l ++ ':' :: code, by simp [Placeholder.written]⟩

theorem startsWith_written {p : Placeholder} (wellFormed : WellFormed .basic p)
    (rest : List Char) : StartsWith .basic p rest (p.written .basic ++ rest) where
  wellFormed := wellFormed
  text := rfl
  longest := by simp

/-- What comes before the first placeholder is not rewritten. -/
theorem text_before {w rest : List Char} {k : Nat} {xs : List Piece} (outside : '{' ∉ w)
    (h : text .basic (relabel change k xs) = w ++ rest) :
    ∃ rest', text .basic xs = w ++ rest' := by
  induction w generalizing xs with
  | nil => exact ⟨_, rfl⟩
  | cons a w ih =>
    rw [List.mem_cons, not_or] at outside
    cases xs with
    | nil => simp [relabel, text] at h
    | cons x xs =>
      cases x with
      | char c =>
        obtain ⟨rfl, later⟩ := List.cons.inj h
        obtain ⟨rest', same⟩ := ih outside.2 later
        exact ⟨rest', by rw [text, same, List.cons_append]⟩
      | hole p =>
        obtain ⟨inner, written⟩ := written_basic (change k p)
        rw [relabel, text, written] at h
        exact absurd (List.cons.inj h).1 outside.1

/-- The scanner finds the new placeholders in the places of the old ones. It finds no others: the text
of one that does not start at an old one would have no second brace to open it, so it was there
before. -/
theorem pieces_respelled
    (wellFormed : ∀ k p, WellFormed d p → WellFormed .basic (change k p)) {cs : List Char}
    (plain : d = .classic → '{' ∉ cs) (k : Nat) :
    pieces .basic (respelled d change k cs) = relabel change k (pieces d cs) := by
  induction cs using pieces.induct d generalizing k with
  | case1 => simp [respelled, pieces, relabel, text]
  | case2 c cs p rest found ih =>
    have here := placeholder?_eq_some_iff.mp found
    have starts := startsWith_written (wellFormed k p here.wellFormed)
      (respelled d change (k + 1) rest)
    have plain' : d = .classic → '{' ∉ rest := fun classic brace =>
      plain classic (here.text ▸ List.mem_append_right _ brace)
    rw [respelled, pieces_of_found found, relabel, text]
    exact (pieces_of_startsWith starts).trans (congrArg _ (ih plain' (k + 1)))
  | case3 c cs missing ih =>
    have plain' : d = .classic → '{' ∉ cs := fun classic brace =>
      plain classic (List.mem_cons_of_mem _ brace)
    have missing' : placeholder? .basic c (respelled d change k cs) = none := by
      apply placeholder?_eq_none_iff.mpr
      intro q rest starts
      have opened : c = '{' := Option.some.inj (startsWith_opening starts)
      cases d with
      | classic => exact plain rfl (opened ▸ List.mem_cons_self ..)
      | basic =>
        obtain ⟨inner, written⟩ := written_basic q
        have outside := not_opening_of_mem_tail starts.wellFormed
        have split := starts.text
        rw [written] at outside split
        obtain ⟨rest', same⟩ := text_before (fun brace => outside _ brace rfl)
          (List.cons.inj split).2
        rw [text_pieces] at same
        have there := startsWith_written starts.wellFormed rest'
        rw [written] at there
        apply placeholder?_eq_none_iff.mp missing q rest'
        rw [opened, same]
        exact there
    rw [respelled, pieces_of_missing missing, relabel, text]
    exact (pieces_of_missing missing').trans (congrArg _ (ih plain' k))

/-! ## Cleaning what was rewritten -/

theorem inert_of_isBlank {c : Char} (blank : isBlank c = true) : Inert c := by
  apply inert_of_not_mark (Text.isWord_of_isBlank blank)
  intro mark
  simp only [List.mem_cons, List.not_mem_nil, or_false] at mark
  rcases mark with rfl | rfl | rfl | rfl <;> contradiction

theorem inert_semicolon : Inert ';' :=
  inert_of_not_mark (by decide) (by decide)

theorem Inert.not_word {c : Char} (inert : Inert c) : isWord c = false := by
  by_contra word
  have run : IsWordRun [c] := ⟨by simp, by simpa using word⟩
  exact inert .classic ⟨none, [c]⟩ ⟨run, by simp⟩ (by simp [Placeholder.written])

theorem Inert.ne_opening {c : Char} (inert : Inert c) (d : Dialect) : c ≠ d.opening := by
  rintro rfl
  have run : IsWordRun ['s'] := ⟨by simp, List.forall_mem_singleton.mpr rfl⟩
  have opened : d.opening ∈ Placeholder.written d ⟨none, ['s']⟩ := by
    cases d <;> exact List.mem_cons_self ..
  exact inert d ⟨none, ['s']⟩ ⟨run, by simp⟩ opened

theorem pieces_inert_append {u : List Char} (inert : ∀ c ∈ u, Inert c) (t : List Char) :
    pieces d (u ++ t) = u.map .char ++ pieces d t := by
  induction u with
  | nil => rfl
  | cons c u ih =>
    have missing : placeholder? d c (u ++ t) = none := by
      apply placeholder?_eq_none_iff.mpr
      intro p rest starts
      exact (inert c (List.mem_cons_self ..)).ne_opening d
        (Option.some.inj (startsWith_opening starts))
    rw [List.cons_append, pieces_of_missing missing,
      ih fun c mem => inert c (List.mem_cons_of_mem _ mem)]
    rfl

/-- A placeholder at the start of a text ends before characters that it cannot contain. -/
theorem StartsWith.of_append_inert {p : Placeholder} {rest t u : List Char}
    (inert : ∀ c ∈ u, Inert c) (starts : StartsWith d p rest (t ++ u)) :
    ∃ rest', StartsWith d p rest' t := by
  obtain ⟨wellFormed, text, longest⟩ := starts
  rcases List.append_eq_append_iff.mp text with ⟨excess, written, _⟩ | ⟨rest', split, left⟩
  · cases excess with
    | nil => exact ⟨[], wellFormed, by simpa using written.symm, fun _ => by simp [EndsWord]⟩
    | cons c excess =>
      exfalso
      have inside : c ∈ u := by simp_all
      exact inert c inside d p wellFormed (by simp [written])
  · refine ⟨rest', wellFormed, split, fun classic c head => longest classic c ?_⟩
    rw [left, List.head?_append, head]
    rfl

theorem pieces_append_inert {u : List Char} (inert : ∀ c ∈ u, Inert c) (t : List Char) :
    pieces d (t ++ u) = pieces d t ++ u.map .char := by
  induction t using pieces.induct d with
  | case1 => simpa [pieces] using pieces_inert_append (d := d) inert []
  | case2 c cs p rest found ih =>
    have here := placeholder?_eq_some_iff.mp found
    have starts : StartsWith d p (rest ++ u) (c :: cs ++ u) := by
      refine ⟨here.wellFormed, by rw [here.text, List.append_assoc], fun classic a head => ?_⟩
      cases rest with
      | nil => exact (inert a (List.mem_of_head? head)).not_word
      | cons b rest => exact here.longest classic a head
    rw [pieces_of_startsWith starts, pieces_of_found found, ih]
    rfl
  | case3 c cs missing ih =>
    have missing' : placeholder? d c (cs ++ u) = none := by
      apply placeholder?_eq_none_iff.mpr
      intro p rest starts
      obtain ⟨rest', here⟩ := starts.of_append_inert (t := c :: cs) inert
      exact placeholder?_eq_none_iff.mp missing p rest' here
    rw [List.cons_append, pieces_of_missing missing', pieces_of_missing missing, ih]
    rfl

theorem pieces_between {before after : List Char} (before_inert : ∀ c ∈ before, Inert c)
    (after_inert : ∀ c ∈ after, Inert c) (t : List Char) :
    pieces d (before ++ t ++ after) = before.map .char ++ pieces d t ++ after.map .char := by
  rw [pieces_append_inert after_inert, pieces_inert_append before_inert]

theorem respelled_between (d : Dialect) (change : Nat → Placeholder → Placeholder)
    {before after : List Char} (before_inert : ∀ c ∈ before, Inert c)
    (after_inert : ∀ c ∈ after, Inert c) (t : List Char) (k : Nat) :
    respelled d change k (before ++ t ++ after) = before ++ respelled d change k t ++ after := by
  simp only [respelled, pieces_between before_inert after_inert, relabel_append, relabel_chars,
    placeholders_chars, text_append, text_chars, List.length_nil, Nat.add_zero]

theorem head?_relabel {k : Nat} {xs : List Piece} {c : Char}
    (h : (text .basic (relabel change k xs)).head? = some c) :
    c = '{' ∨ (text d xs).head? = some c := by
  cases xs with
  | nil => contradiction
  | cons x xs =>
    cases x with
    | char a => exact .inr h
    | hole p =>
      obtain ⟨inner, written⟩ := written_basic (change k p)
      rw [relabel, text, written] at h
      exact .inl (Option.some.inj h).symm

theorem getLast?_relabel {k : Nat} {xs : List Piece} {c : Char}
    (h : (text .basic (relabel change k xs)).getLast? = some c) :
    c = '}' ∨ (text d xs).getLast? = some c := by
  rcases List.eq_nil_or_concat xs with rfl | ⟨ys, x, rfl⟩
  · contradiction
  · rw [List.concat_eq_append] at h ⊢
    rw [relabel_append, text_append] at h
    cases x with
    | char a =>
      right
      rw [text_append]
      simpa [relabel, text] using h
    | hole p =>
      obtain ⟨inner, written⟩ := written_basic (change (k + (placeholders ys).length) p)
      rw [relabel, relabel, text, text, written, List.append_nil, ← List.cons_append,
        ← List.append_assoc, List.getLast?_concat] at h
      exact .inl (Option.some.inj h).symm

theorem Cleaned.inert {s t : List Char} (h : Cleaned s t) :
    ∃ before after, s = before ++ t ++ after ∧ (∀ c ∈ before, Inert c) ∧ ∀ c ∈ after, Inert c := by
  obtain ⟨before, core, after, rfl, before_blank, after_blank, _, ends⟩ := h.trimmed
  have before_inert := fun c mem => inert_of_isBlank (before_blank c mem)
  have after_inert := fun c mem => inert_of_isBlank (after_blank c mem)
  rcases ends with rfl | ⟨rfl, _⟩
  · refine ⟨before, ';' :: after, by simp, before_inert, ?_⟩
    exact List.forall_mem_cons.mpr ⟨inert_semicolon, after_inert⟩
  · exact ⟨before, after, rfl, before_inert, after_inert⟩

theorem Cleaned.clean_eq {s : String} {t : List Char} (h : Cleaned s.toList t) : clean s = t := by
  obtain ⟨before, core, after, eq, before_blank, after_blank, trimmed, ends⟩ := h.trimmed
  rw [clean, eq, Text.trim_eq before_blank after_blank trimmed]
  rcases ends with rfl | ⟨rfl, other⟩
  · simp
  · simp [other]

/-- What cleaning takes away stands outside the placeholders and stays where it is, and new text at an
end of a template is a brace, which cleaning leaves alone. -/
theorem Cleaned.respelled {s t : List Char} (h : Cleaned s t) (k : Nat) :
    Cleaned (respelled d change k s) (respelled d change k t) := by
  obtain ⟨before, core, after, rfl, before_blank, after_blank, trimmed, ends⟩ := h.trimmed
  have split := respelled_between d change
    (fun c mem => inert_of_isBlank (before_blank c mem))
    (fun c mem => inert_of_isBlank (after_blank c mem)) core k
  have head {c : Char} (h : (Template.respelled d change k core).head? = some c) :
      c = '{' ∨ core.head? = some c := by
    simpa only [text_pieces] using head?_relabel (d := d) h
  have last {cs : List Char} {c : Char} (h : (Template.respelled d change k cs).getLast? = some c) :
      c = '}' ∨ cs.getLast? = some c := by
    simpa only [text_pieces] using getLast?_relabel (d := d) h
  refine ⟨before, Template.respelled d change k core, after, split, before_blank, after_blank,
    ⟨?start, ?finish⟩, ?ends⟩
  case start =>
    intro c h
    rcases head h with rfl | h
    · decide
    · exact trimmed.start c h
  case finish =>
    intro c h
    rcases last h with rfl | h
    · decide
    · exact trimmed.finish c h
  case ends =>
    rcases ends with rfl | ⟨rfl, other⟩
    · left
      have semicolon : ∀ c ∈ [';'], Inert c := by simpa using inert_semicolon
      have nothing : ∀ c ∈ ([] : List Char), Inert c := by simp
      exact respelled_between d change nothing semicolon t k
    · right
      refine ⟨rfl, fun h => ?_⟩
      rcases last h with h | h
      · contradiction
      · exact other h

theorem clean_respelled (s : String) (k : Nat) :
    clean (String.ofList (respelled d change k s.toList)) = respelled d change k (clean s) := by
  apply Cleaned.clean_eq
  rw [String.toList_ofList]
  exact (cleaned_clean s).respelled k

end

/-! ## Placeholders and their numbers -/

theorem placeholders_append (xs ys : List Piece) :
    placeholders (xs ++ ys) = placeholders xs ++ placeholders ys := by
  induction xs with
  | nil => rfl
  | cons x xs ih => cases x <;> simp [placeholders, ih]

/-- Cleaning takes no placeholder away. -/
theorem placeholders_clean (d : Dialect) (s : String) :
    placeholders (pieces d (clean s)) = placeholders (pieces d s.toList) := by
  obtain ⟨before, after, eq, before_inert, after_inert⟩ := (cleaned_clean s).inert
  rw [eq, pieces_between before_inert after_inert, placeholders_append, placeholders_append,
    placeholders_chars, placeholders_chars, List.nil_append, List.append_nil]

section
variable {arguments : List Value}

theorem index_numbered (k j : Nat) (p : Placeholder) : (p.numbered k).index j = k := by
  exact Nat.ofDigitChars_ten_toDigits

theorem isWordRun_toDigits (k : Nat) : IsWordRun (Nat.toDigits 10 k) := by
  obtain ⟨nonempty, digit⟩ := Number.isDigits_toDigits k
  exact ⟨nonempty, fun c mem => Text.isWord_of_isDigit (digit c mem)⟩

theorem unnumbered?_numbered (p : Placeholder) {k : Nat} (few : k < 10 ^ Number.digitLimit) :
    (p.numbered k).unnumbered? true = none := by
  apply unnumbered?_eq_none_iff.mpr
  refine ⟨rfl, ?_⟩
  rintro _ ⟨⟩
  exact ⟨(Number.isDigits_toDigits k).digit, Nat.toDigits_length 10 k _ (by decide) few⟩

/-- A placeholder that takes the argument with its own number is refused for that argument or not
at all, whether it gives the number or not. -/
theorem refusal?_numbered_one {p : Placeholder} (inferred : p.location = none) {k : Nat}
    (few : k < 10 ^ Number.digitLimit) :
    (p.numbered k).refusal? arguments true k = p.refusal? arguments false k := by
  have own : p.index k = k := by rw [Placeholder.index, inferred]
  have free : p.unnumbered? false = none := by simp [unnumbered?_eq_none_iff, inferred]
  have same : (p.numbered k).unbound? arguments k = p.unbound? arguments k := by
    rw [Placeholder.unbound?, Placeholder.unbound?, index_numbered, own]
    rfl
  rw [Placeholder.refusal?, Placeholder.refusal?, unnumbered?_numbered p few, free, same]

/-- A placeholder that no argument is left for is refused. -/
theorem refusal?_beyond {p : Placeholder} (inferred : p.location = none) {k : Nat}
    (beyond : arguments.length ≤ k) :
    p.refusal? arguments false k = some (.outOfBounds k) := by
  have own : p.index k = k := by rw [Placeholder.index, inferred]
  have free : p.unnumbered? false = none := by simp [unnumbered?_eq_none_iff, inferred]
  rw [Placeholder.refusal?, free, Placeholder.unbound?, own, List.getElem?_eq_none beyond]
  rfl

/-- Placeholders that take the arguments in turn are refused alike with their numbers and without.
The first one that no argument is left for is refused either way, so all numbers before it are short
enough to be read. -/
theorem refusal?_numbered (few : arguments.length < 10 ^ Number.digitLimit) {k : Nat}
    (le : k ≤ arguments.length) {xs : List Piece}
    (inferred : ∀ p ∈ placeholders xs, p.location = none) :
    refusal? arguments true k (placeholders (relabel Placeholder.numbered k xs)) =
      refusal? arguments false k (placeholders xs) := by
  induction xs generalizing k with
  | nil => rfl
  | cons x xs ih =>
    cases x with
    | char c => exact ih le inferred
    | hole p =>
      have inferred_here : p.location = none := inferred p (List.mem_cons_self ..)
      have inferred_rest : ∀ q ∈ placeholders xs, q.location = none :=
        fun q mem => inferred q (List.mem_cons_of_mem _ mem)
      have here : (p.numbered k).refusal? arguments true k = p.refusal? arguments false k :=
        refusal?_numbered_one inferred_here (Nat.lt_of_le_of_lt le few)
      rw [relabel, placeholders, placeholders, refusal?, refusal?, here]
      by_cases left : k < arguments.length
      · rw [ih left inferred_rest]
      · rw [refusal?_beyond inferred_here (Nat.le_of_not_lt left)]
        rfl

theorem bindings_numbered (k : Nat) {xs : List Piece}
    (inferred : ∀ p ∈ placeholders xs, p.location = none) :
    bindings arguments k (placeholders (relabel Placeholder.numbered k xs)) =
      bindings arguments k (placeholders xs) := by
  induction xs generalizing k with
  | nil => rfl
  | cons x xs ih =>
    cases x with
    | char c => exact ih k inferred
    | hole p =>
      have own : p.index k = k := by rw [Placeholder.index, inferred p (List.mem_cons_self ..)]
      have rest := ih (k + 1) fun q mem => inferred q (List.mem_cons_of_mem _ mem)
      rw [relabel, placeholders, placeholders, bindings, bindings, index_numbered, own, rest]
      rfl

theorem located_numbered (k : Nat) (xs : List Piece) :
    ∀ p ∈ placeholders (relabel Placeholder.numbered k xs), p.location.isSome = true := by
  induction xs generalizing k with
  | nil => simp [relabel, placeholders]
  | cons x xs ih =>
    cases x with
    | char c => exact ih k
    | hole p => exact List.forall_mem_cons.mpr ⟨rfl, ih (k + 1)⟩

theorem refusal?_firstLocated {located : Bool} {ps : List Placeholder}
    (uniform : ∀ p ∈ ps, p.location.isSome = located) (k : Nat) :
    refusal? arguments (firstLocated ps) k ps = refusal? arguments located k ps := by
  cases ps with
  | nil => rfl
  | cons p ps =>
    have first : firstLocated (p :: ps) = p.location.isSome := rfl
    rw [first, uniform p (List.mem_cons_self ..)]

end

/-! ## Reading what was rewritten -/

theorem relabel_same (k : Nat) (xs : List Piece) : relabel (fun _ p => p) k xs = xs := by
  induction xs generalizing k with
  | nil => rfl
  | cons x xs ih => cases x <;> rw [relabel, ih]

theorem fill_relabel (marker : String) (change : Nat → Placeholder → Placeholder) (k : Nat)
    (xs : List Piece) (bs : List Binding) :
    fill marker (relabel change k xs) bs = fill marker xs bs := by
  induction xs generalizing k bs with
  | nil => rfl
  | cons x xs ih =>
    cases x with
    | char c => rw [relabel, fill, fill, ih]
    | hole p => cases bs <;> rw [relabel, fill, fill, ih]

/-- What pieces make that are those of a whole template. -/
def makes (marker : String) (arguments : List Value) (xs : List Piece) :
    Except Failure (String × List BoundParameter) :=
  let bs := bindings arguments 0 (placeholders xs)
  match refusal? arguments (firstLocated (placeholders xs)) 0 (placeholders xs) with
  | some e => .error e
  | none => .ok (String.ofList (fill marker xs bs), bs.flatMap Binding.parameters)

theorem made_parse (parser : Parser) (template : String) (arguments : List Value) :
    made ((Parser.parse (.text template) arguments).outcome parser) =
      makes parser.marker arguments (pieces parser.dialect (clean template)) := by
  rw [Parser.parse_pieces, makes]
  simp only
  cases refusal? arguments _ 0 (placeholders (pieces parser.dialect (clean template))) <;> rfl

theorem makes_numbered (marker : String) {arguments : List Value} {xs : List Piece}
    (few : arguments.length < 10 ^ Number.digitLimit)
    (inferred : ∀ p ∈ placeholders xs, p.location = none) :
    makes marker arguments (relabel Placeholder.numbered 0 xs) = makes marker arguments xs := by
  have unlocated : ∀ p ∈ placeholders xs, p.location.isSome = false :=
    fun p mem => Option.isSome_eq_false_iff.mpr (Option.isNone_iff_eq_none.mpr (inferred p mem))
  rw [makes, makes, refusal?_firstLocated (located_numbered 0 xs), refusal?_firstLocated unlocated,
    refusal?_numbered few (Nat.zero_le _) inferred, bindings_numbered 0 inferred, fill_relabel]

section
variable {d : Dialect} {change : Nat → Placeholder → Placeholder} {template : String}
  {ps : List (Nat × Placeholder)}

/-- A rewritten template has the pieces of the template with other placeholders. -/
theorem pieces_rewrite (wellFormed : ∀ k p, WellFormed d p → WellFormed .basic (change k p))
    (plain : d = .classic → '{' ∉ template.toList) (occurrences : Occurrences d template.toList ps) :
    ∃ t, rewrite d change template ps = .text t ∧
      pieces .basic (clean t) = relabel change 0 (pieces d (clean template)) := by
  obtain rfl := occurrences.unique (occurrences_pieces d template.toList)
  have plain' : d = .classic → '{' ∉ clean template := fun classic brace => by
    obtain ⟨before, after, eq, _⟩ := (cleaned_clean template).inert
    apply plain classic
    simp [eq, brace]
  have rewritten := rewriteFrom_holes d change template.toList
    (Nat.zero_le ([] : List Char).length) 0
  refine ⟨String.ofList (respelled d change 0 template.toList), ?text, ?pieces⟩
  case text => exact congrArg (Value.text ∘ String.ofList) rewritten
  case pieces => rw [clean_respelled, pieces_respelled wellFormed plain']

end

/-- The ways to write a template agree: they make the same text and parameters, or fail alike. A
template whose placeholders give no locations means what it means with the locations 0, 1 and so on,
and a template of the classic dialect without an opening brace what it means in the basic one, whatever
the parsers read before. The only bound is that locations of more than `Number.digitLimit` digits
are not read: no list of arguments is long enough to need one. -/
theorem spellings_agree (marker : String) (arguments : List Value) (numbering numbering' : Numbering)
    (template : String) (ps : List (Nat × Placeholder)) :
    (arguments.length < 10 ^ Number.digitLimit → Occurrences .basic template.toList ps →
      (∀ q ∈ ps, q.2.location = none) →
      made ((Parser.parse (rewrite .basic Placeholder.numbered template ps) arguments).outcome
          ⟨.basic, marker, numbering'⟩) =
        made ((Parser.parse (.text template) arguments).outcome ⟨.basic, marker, numbering⟩)) ∧
    (Occurrences .classic template.toList ps → '{' ∉ template.toList →
      made ((Parser.parse (rewrite .classic (fun _ p => p) template ps) arguments).outcome
          ⟨.basic, marker, numbering'⟩) =
        made ((Parser.parse (.text template) arguments).outcome ⟨.classic, marker, numbering⟩)) := by
  constructor
  · intro few occurrences inferred
    have wellFormed (k : Nat) (p : Placeholder) (h : WellFormed .basic p) :
        WellFormed .basic (p.numbered k) := by
      refine ⟨h.code, ?_⟩
      rintro _ ⟨⟩
      exact ⟨rfl, isWordRun_toDigits k⟩
    obtain ⟨t, text, scanned⟩ := pieces_rewrite wellFormed (by simp) occurrences
    have inferred' : ∀ p ∈ placeholders (pieces .basic (clean template)), p.location = none := by
      obtain rfl := occurrences.unique (occurrences_pieces .basic template.toList)
      rw [placeholders_clean, ← map_snd_holes .basic 0]
      intro p mem
      obtain ⟨q, occurs, rfl⟩ := List.mem_map.mp mem
      exact inferred q occurs
    rw [text, made_parse, made_parse, scanned]
    exact makes_numbered marker few inferred'
  · intro occurrences plain
    have wellFormed (k : Nat) (p : Placeholder) (h : WellFormed .classic p) :
        WellFormed .basic p :=
      ⟨h.code, fun w location => ⟨rfl, (h.location w location).2⟩⟩
    obtain ⟨t, text, scanned⟩ := pieces_rewrite wellFormed (fun _ => plain) occurrences
    rw [relabel_same] at scanned
    rw [text, made_parse, made_parse, scanned]

theorem spellings_agree_beside_marks :
    let arguments : List Value := [.text "a", .int 7]
    let read (d : Dialect) (template : String) :=
      made ((Parser.parse (.text template) arguments).outcome ⟨d, "?", {}⟩)
    read .basic " \x7b%\x7b0:s\x7d,\x7b1:ud\x7d; " = read .basic " \x7b%\x7bs\x7d,\x7bud\x7d; " ∧
      read .basic " %\x7bs\x7d,\x7bud\x7d ; " = read .classic " %%s,%ud ; " := by
  intro arguments read
  have few : arguments.length < 10 ^ Number.digitLimit :=
    Nat.lt_of_lt_of_le (by decide : 2 < 10 ^ 1) (Nat.pow_le_pow_right (by decide) (by decide))
  have basic : holes .basic 0 (pieces .basic " \x7b%\x7bs\x7d,\x7bud\x7d; ".toList) =
      [(3, ⟨none, ['s']⟩), (7, ⟨none, ['u', 'd']⟩)] := by decide +kernel
  have classic : holes .classic 0 (pieces .classic " %%s,%ud ; ".toList) =
      [(2, ⟨none, ['s']⟩), (5, ⟨none, ['u', 'd']⟩)] := by decide +kernel
  have numbered : rewrite .basic Placeholder.numbered " \x7b%\x7bs\x7d,\x7bud\x7d; "
      [(3, ⟨none, ['s']⟩), (7, ⟨none, ['u', 'd']⟩)] = .text " \x7b%\x7b0:s\x7d,\x7b1:ud\x7d; " :=
    congrArg Value.text (by decide +kernel)
  have braced : rewrite .classic (fun _ p => p) " %%s,%ud ; "
      [(2, ⟨none, ['s']⟩), (5, ⟨none, ['u', 'd']⟩)] = .text " %\x7bs\x7d,\x7bud\x7d ; " :=
    congrArg Value.text (by decide +kernel)
  constructor
  · have agree := (spellings_agree "?" arguments {} {} _ _).1 few
      (basic ▸ occurrences_pieces _ _) (by decide)
    rwa [numbered] at agree
  · have agree := (spellings_agree "?" arguments {} {} _ _).2
      (classic ▸ occurrences_pieces _ _) (by decide +kernel)
    rwa [braced] at agree

end Template

end SqlTemplate
