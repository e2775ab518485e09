import SqlTemplate.Template.Piece

/-!
Where placeholders stand in a text. `Starts` says it without a scanner: the text from a position on
is a placeholder as it is written, and then anything. The pieces of a text hold exactly these, each
at its own position (`occurrences_pieces`).
-/
namespace SqlTemplate

namespace Text

structure IsWordRun (w : List Char) : Prop where
  nonempty : w ≠ []
  word : ∀ c ∈ w, isWord c = true

/-- A text that no word goes on into. -/
def EndsWord (rest : List Char) : Prop :=
  ∀ c, rest.head? = some c → isWord c = false

theorem endsWord_cons {c : Char} {cs : List Char} : EndsWord (c :: cs) ↔ isWord c = false := by
  simp [EndsWord]

theorem takeWhile_word {w rest : List Char} (hw : ∀ c ∈ w, isWord c = true) (hr : EndsWord rest) :
    (w ++ rest).takeWhile isWord = w ∧ (w ++ rest).dropWhile isWord = rest := by
  rw [List.takeWhile_append_of_pos hw, List.dropWhile_append_of_pos hw]
  cases rest with
  | nil => simp
  | cons c rest => simp [endsWord_cons.mp hr]

theorem endsWord_dropWhile (cs : List Char) : EndsWord (cs.dropWhile isWord) := by
  intro c hc
  have h := List.head?_dropWhile_not isWord cs
  simp only [hc] at h
  exact h

end Text

def Placeholder.written (d : Dialect) (p : Placeholder) : List Char :=
  match d, p.location with
  | .basic, none => '{' :: (p.code ++ ['}'])
  | .basic, some location => '{' :: (location ++ ':' :: (p.code ++ ['}']))
  | .classic, _ => '%' :: p.code

/-- The character that every placeholder of a dialect starts with. -/
def Dialect.opening : Dialect → Char
  | .basic => '{'
  | .classic => '%'

namespace Template

open Text (IsWordRun EndsWord isWord)

/-- A placeholder that can be written in a dialect. -/
structure WellFormed (d : Dialect) (p : Placeholder) : Prop where
  code : IsWordRun p.code
  location : ∀ w, p.location = some w → d = .basic ∧ IsWordRun w

/-- A text starts with a placeholder, and `rest` follows it. In the classic dialect the code is the
longest run of word characters there is. -/
structure StartsWith (d : Dialect) (p : Placeholder) (rest cs : List Char) : Prop where
  wellFormed : WellFormed d p
  text : cs = p.written d ++ rest
  longest : d = .classic → EndsWord rest

def Starts (d : Dialect) (p : Placeholder) (cs : List Char) : Prop :=
  ∃ rest, StartsWith d p rest cs

/-- All placeholders of a text with their positions, from left to right. -/
structure Occurrences (d : Dialect) (t : List Char) (ps : List (Nat × Placeholder)) : Prop where
  ascending : ps.Pairwise (·.1 < ·.1)
  mem_iff : ∀ i p, (i, p) ∈ ps ↔ Starts d p (t.drop i)

/-! ## One placeholder -/

theorem endsWord_closing (cs : List Char) : EndsWord ('}' :: cs) :=
  Text.endsWord_cons.mpr (by decide)

theorem endsWord_colon (cs : List Char) : EndsWord (':' :: cs) :=
  Text.endsWord_cons.mpr (by decide)

theorem word?_eq_some_iff {cs w rest : List Char} :
    word? cs = some (w, rest) ↔ IsWordRun w ∧ cs = w ++ rest ∧ EndsWord rest := by
  constructor
  · intro h
    have split := List.takeWhile_append_dropWhile (p := isWord) (l := cs)
    have word := List.all_takeWhile (p := isWord) (l := cs)
    unfold word? at h
    cases taken : cs.takeWhile isWord with
    | nil => simp [taken] at h
    | cons c w' =>
      simp only [taken, Option.some.injEq, Prod.mk.injEq] at h
      obtain ⟨rfl, rfl⟩ := h
      rw [taken] at split word
      exact ⟨⟨by simp, List.all_eq_true.mp word⟩, split.symm, Text.endsWord_dropWhile cs⟩
  · rintro ⟨run, rfl, stops⟩
    obtain ⟨taken, left⟩ := Text.takeWhile_word run.word stops
    unfold word?
    rw [taken, left]
    cases w with
    | nil => exact absurd rfl run.nonempty
    | cons c w => rfl

theorem word?_append {w rest : List Char} (run : IsWordRun w) (stops : EndsWord rest) :
    word? (w ++ rest) = some (w, rest) :=
  word?_eq_some_iff.mpr ⟨run, rfl, stops⟩

/-- The scanner finds a placeholder at the start of a text just if the text starts with it. -/
theorem placeholder?_eq_some_iff {d : Dialect} {c : Char} {cs rest : List Char} {p : Placeholder} :
    placeholder? d c cs = some (p, rest) ↔ StartsWith d p rest (c :: cs) := by
  constructor
  · intro h
    cases d with
    | basic =>
      simp only [placeholder?] at h
      split at h
      case isFalse => contradiction
      case isTrue open_ =>
        subst open_
        split at h
        · next w rest' first =>
          obtain ⟨rfl, rfl⟩ := Prod.mk.inj (Option.some.inj h)
          obtain ⟨run, rfl, _⟩ := word?_eq_some_iff.mp first
          exact ⟨⟨run, by simp⟩, by simp [Placeholder.written], by simp⟩
        · next w cs' first =>
          split at h
          · next code rest' second =>
            obtain ⟨rfl, rfl⟩ := Prod.mk.inj (Option.some.inj h)
            obtain ⟨run, rfl, _⟩ := word?_eq_some_iff.mp first
            obtain ⟨run', rfl, _⟩ := word?_eq_some_iff.mp second
            exact ⟨⟨run', by simp [run]⟩, by simp [Placeholder.written], by simp⟩
          · contradiction
        · contradiction
    | classic =>
      simp only [placeholder?] at h
      split at h
      case isFalse => contradiction
      case isTrue open_ =>
        subst open_
        obtain ⟨⟨w, r⟩, found, eq⟩ := Option.map_eq_some_iff.mp h
        obtain ⟨rfl, rfl⟩ := Prod.mk.inj eq
        obtain ⟨run, rfl, stops⟩ := word?_eq_some_iff.mp found
        exact ⟨⟨run, by simp⟩, by simp [Placeholder.written], fun _ => stops⟩
  · rintro ⟨⟨code, location⟩, text, longest⟩
    obtain ⟨loc, w⟩ := p
    cases d with
    | basic =>
      cases loc with
      | none =>
        simp only [Placeholder.written, List.cons_append, List.cons.injEq, List.append_assoc,
          List.nil_append] at text
        obtain ⟨rfl, rfl⟩ := text
        simp [placeholder?, word?_append code (endsWord_closing rest)]
      | some l =>
        simp only [Placeholder.written, List.cons_append, List.cons.injEq, List.append_assoc,
          List.nil_append] at text
        obtain ⟨rfl, rfl⟩ := text
        have first := word?_append (location l rfl).2 (endsWord_colon (w ++ '}' :: rest))
        simp [placeholder?, first, word?_append code (endsWord_closing rest)]
    | classic =>
      cases loc with
      | none =>
        simp only [Placeholder.written, List.cons_append, List.cons.injEq] at text
        obtain ⟨rfl, rfl⟩ := text
        simp [placeholder?, word?_append code (longest rfl)]
      | some l => exact absurd (location l rfl).1 (by simp)

theorem placeholder?_eq_none_iff {d : Dialect} {c : Char} {cs : List Char} :
    placeholder? d c cs = none ↔ ∀ p rest, ¬ StartsWith d p rest (c :: cs) := by
  rw [Option.eq_none_iff_forall_ne_some, Prod.forall]
  simp only [ne_eq, placeholder?_eq_some_iff]

/-- The text of a placeholder starts a text only where the scanner finds one. -/
theorem placeholder?_of_prefix {d : Dialect} {p : Placeholder} (well : WellFormed d p) {c : Char}
    {cs : List Char} (starts : p.written d <+: c :: cs) : placeholder? d c cs ≠ none := by
  obtain ⟨rest, text⟩ := starts
  cases d with
  | basic =>
    have here : StartsWith .basic p rest (c :: cs) := ⟨well, text.symm, by simp⟩
    rw [placeholder?_eq_some_iff.mpr here]
    simp
  | classic =>
    obtain ⟨rfl, rfl⟩ := List.cons.inj text
    obtain ⟨x, w, code⟩ := List.exists_cons_of_ne_nil well.code.nonempty
    have word : isWord x = true := well.code.word x (by simp [code])
    simp [placeholder?, word?, code, word]

theorem written_pos (d : Dialect) (p : Placeholder) : 0 < (p.written d).length := by
  unfold Placeholder.written
  split <;> simp

theorem written_eq (d : Dialect) (p : Placeholder) :
    p.written d = d.opening :: (p.written d).tail := by
  unfold Placeholder.written
  split <;> rfl

theorem startsWith_opening {d : Dialect} {p : Placeholder} {rest cs : List Char}
    (h : StartsWith d p rest cs) : cs.head? = some d.opening := by
  rw [h.text, written_eq]
  rfl

theorem mem_tail_written {d : Dialect} {p : Placeholder} (h : WellFormed d p) {c : Char}
    (hc : c ∈ (p.written d).tail) : isWord c = true ∨ c = ':' ∨ c = '}' := by
  obtain ⟨location, code⟩ := p
  cases d with
  | basic =>
    cases location with
    | none =>
      rcases List.mem_append.mp hc with hc | hc
      · exact .inl (h.code.word c hc)
      · exact .inr (.inr (List.mem_singleton.mp hc))
    | some l =>
      rcases List.mem_append.mp hc with hc | hc
      · exact .inl ((h.location l rfl).2.word c hc)
      · rcases List.mem_cons.mp hc with rfl | hc
        · exact .inr (.inl rfl)
        · rcases List.mem_append.mp hc with hc | hc
          · exact .inl (h.code.word c hc)
          · exact .inr (.inr (List.mem_singleton.mp hc))
  | classic => exact .inl (h.code.word c hc)

/-- A placeholder opens only once. -/
theorem not_opening_of_mem_tail {d : Dialect} {p : Placeholder} (h : WellFormed d p) :
    ∀ c ∈ (p.written d).tail, c ≠ d.opening := by
  rintro c hc rfl
  rcases mem_tail_written h hc with word | colon | closing
  · cases d <;> exact absurd word (by decide)
  · cases d <;> exact absurd colon (by decide)
  · cases d <;> exact absurd closing (by decide)

/-- A character that no placeholder contains. -/
def Inert (c : Char) : Prop :=
  ∀ d p, WellFormed d p → c ∉ p.written d

theorem inert_of_not_mark {c : Char} (word : isWord c = false)
    (mark : c ∉ ['{', '}', ':', '%']) : Inert c := by
  intro d p wellFormed mem
  rw [written_eq] at mem
  rcases List.mem_cons.mp mem with rfl | mem
  · cases d <;> simp [Dialect.opening] at mark
  · rcases mem_tail_written wellFormed mem with inside | rfl | rfl
    · rw [word] at inside
      contradiction
    · simp at mark
    · simp at mark

/-- No placeholder starts inside another one. -/
theorem not_starts_inside {d : Dialect} {p q : Placeholder} {rest cs : List Char}
    (h : StartsWith d p rest cs) {k : Nat} (pos : 0 < k) (inside : k < (p.written d).length) :
    ¬ Starts d q (cs.drop k) := by
  rintro ⟨after, hq⟩
  have head := startsWith_opening hq
  rw [h.text, List.head?_drop, List.getElem?_append_left inside] at head
  obtain ⟨k, rfl⟩ := Nat.exists_eq_succ_of_ne_zero (Nat.ne_of_gt pos)
  have tail : (p.written d).tail[k]? = some d.opening := by
    rw [List.getElem?_tail]
    exact head
  exact not_opening_of_mem_tail h.wellFormed _ (List.mem_of_getElem? tail) rfl

/-! ## All placeholders of a text -/

/-- The placeholders among pieces, by the positions they have where the pieces start at `start`. -/
def holes (d : Dialect) (start : Nat) : List Piece → List (Nat × Placeholder)
  | [] => []
  | .char _ :: rest => holes d (start + 1) rest
  | .hole p :: rest => (start, p) :: holes d (start + (p.written d).length) rest

theorem pieces_of_found {d : Dialect} {c : Char} {cs rest : List Char} {p : Placeholder}
    (found : placeholder? d c cs = some (p, rest)) :
    pieces d (c :: cs) = .hole p :: pieces d rest := by
  rw [pieces]
  split <;> simp_all

theorem pieces_of_missing {d : Dialect} {c : Char} {cs : List Char}
    (missing : placeholder? d c cs = none) : pieces d (c :: cs) = .char c :: pieces d cs := by
  rw [pieces]
  split <;> simp_all

theorem not_starts_nil {d : Dialect} {p : Placeholder} : ¬ Starts d p [] := by
  rintro ⟨rest, h⟩
  exact absurd (startsWith_opening h) (by simp)

theorem pieces_of_startsWith {d : Dialect} {p : Placeholder} {rest cs : List Char}
    (h : StartsWith d p rest cs) : pieces d cs = .hole p :: pieces d rest := by
  cases cs with
  | nil => exact absurd ⟨rest, h⟩ not_starts_nil
  | cons c cs => exact pieces_of_found (placeholder?_eq_some_iff.mpr h)

theorem mem_holes_pieces {d : Dialect} {cs : List Char} {start i : Nat} {q : Placeholder} :
    (i, q) ∈ holes d start (pieces d cs) ↔ start ≤ i ∧ Starts d q (cs.drop (i - start)) := by
  induction cs using pieces.induct d generalizing start with
  | case1 => simp [pieces, holes, not_starts_nil]
  | case2 c cs p rest found ih =>
    have here := placeholder?_eq_some_iff.mp found
    have left : (c :: cs).drop (p.written d).length = rest := by
      rw [here.text, List.drop_left]
    have nonempty := written_pos d p
    rw [pieces_of_found found, holes, List.mem_cons, ih, Prod.mk.injEq]
    constructor
    · rintro (⟨rfl, rfl⟩ | ⟨le, h⟩)
      · exact ⟨Nat.le_refl _, rest, by simpa using here⟩
      · refine ⟨by omega, ?_⟩
        rw [← left, List.drop_drop] at h
        rwa [show i - start = (p.written d).length + (i - (start + (p.written d).length)) by omega]
    · rintro ⟨le, h⟩
      by_cases first : i = start
      · obtain ⟨after, h⟩ := h
        subst first
        rw [Nat.sub_self, List.drop_zero, ← placeholder?_eq_some_iff, found] at h
        exact .inl ⟨rfl, (Prod.mk.inj (Option.some.inj h)).1.symm⟩
      · have beyond : ¬ i - start < (p.written d).length := fun inside =>
          not_starts_inside here (by omega) inside h
        refine .inr ⟨by omega, ?_⟩
        rw [← left, List.drop_drop]
        rwa [show (p.written d).length + (i - (start + (p.written d).length)) = i - start by omega]
  | case3 c cs missing ih =>
    rw [pieces_of_missing missing, holes, ih]
    constructor
    · rintro ⟨le, h⟩
      refine ⟨by omega, ?_⟩
      rwa [show i - start = (i - (start + 1)) + 1 by omega, List.drop_succ_cons]
    · rintro ⟨le, h⟩
      by_cases first : i = start
      · obtain ⟨after, h⟩ := h
        subst first
        rw [Nat.sub_self, List.drop_zero, ← placeholder?_eq_some_iff, missing] at h
        contradiction
      · refine ⟨by omega, ?_⟩
        rwa [show i - start = (i - (start + 1)) + 1 by omega, List.drop_succ_cons] at h

theorem le_of_mem_holes {d : Dialect} {xs : List Piece} {start i : Nat} {p : Placeholder}
    (h : (i, p) ∈ holes d start xs) : start ≤ i := by
  induction xs generalizing start with
  | nil => contradiction
  | cons x xs ih =>
    cases x with
    | char c => exact Nat.le_of_succ_le (ih h)
    | hole q =>
      rcases List.mem_cons.mp h with eq | h
      · exact Nat.le_of_eq (Prod.mk.inj eq).1.symm
      · have := ih h
        omega

theorem holes_ascending (d : Dialect) (start : Nat) (xs : List Piece) :
    (holes d start xs).Pairwise (·.1 < ·.1) := by
  induction xs generalizing start with
  | nil => exact .nil
  | cons x xs ih =>
    cases x with
    | char c => exact ih (start + 1)
    | hole p =>
      refine .cons ?_ (ih _)
      rintro ⟨i, q⟩ h
      have := le_of_mem_holes h
      have nonempty := written_pos d p
      simp only
      omega

/-- The pieces of a text hold all its placeholders, at their own positions. -/
theorem occurrences_pieces (d : Dialect) (t : List Char) :
    Occurrences d t (holes d 0 (pieces d t)) where
  ascending := holes_ascending d 0 _
  mem_iff i p := by simp [mem_holes_pieces]

end Template

end SqlTemplate
