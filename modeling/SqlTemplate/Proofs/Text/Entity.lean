import Mathlib.Data.List.Basic
import SqlTemplate.Text.Entity

/-!
Escaping for markup. An entity brings an ampersand into the text, and ampersands are escaped too; still
one replacement after the other gives what the map of single characters gives, as the ampersands are
replaced first. What comes of it can be read back, so no two texts are escaped alike.
-/
namespace SqlTemplate.Text

/-- The characters with a meaning in markup and their entities, in the order of their replacement. -/
def replacements : List (Char × String) :=
  [('&', "&amp;"), ('<', "&lt;"), ('>', "&gt;"), ('"', "&quot;"), ('\'', "&#x27;")]

def entities : List String :=
  replacements.map (·.2)

def replaceAll (c : Char) (new : String) (cs : List Char) : List Char :=
  cs.flatMap fun x => if x = c then new.toList else [x]

/-- Makes one replacement after the other, each in all of the text that the last one left. -/
def replaceInTurn (rs : List (Char × String)) (cs : List Char) : List Char :=
  rs.foldl (fun cs r => replaceAll r.1 r.2 cs) cs

/-- Reads the entities back, from left to right. An ampersand that begins none stays. -/
def unescape : List Char → List Char
  | '&' :: 'a' :: 'm' :: 'p' :: ';' :: cs => '&' :: unescape cs
  | '&' :: 'l' :: 't' :: ';' :: cs => '<' :: unescape cs
  | '&' :: 'g' :: 't' :: ';' :: cs => '>' :: unescape cs
  | '&' :: 'q' :: 'u' :: 'o' :: 't' :: ';' :: cs => '"' :: unescape cs
  | '&' :: '#' :: 'x' :: '2' :: '7' :: ';' :: cs => '\'' :: unescape cs
  | c :: cs => c :: unescape cs
  | [] => []

/-- A text is sent in this form for a markup text: none of its characters has a meaning of its own, all
ampersands belong to entities, and reading the entities once gives the text back. -/
structure Escapes (text sent : String) : Prop where
  inTurn : sent.toList = replaceInTurn replacements text.toList
  plain : ∀ c ∈ ['<', '>', '"', '\''], c ∉ sent.toList
  ampersand : ∀ rest, '&' :: rest <:+ sent.toList → ∃ e ∈ entities, e.toList <+: '&' :: rest
  readBack : unescape sent.toList = text.toList

/-- No two texts are sent alike. -/
theorem Escapes.unique {text text' sent : String} (h : Escapes text sent)
    (h' : Escapes text' sent) : text = text' :=
  String.toList_injective (h.readBack.symm.trans h'.readBack)

/-! ## One character -/

section
variable {c : Char}

/-- A character is replaced by its entity, or it stays and has no meaning in markup. -/
theorem entity_cases (c : Char) :
    (∃ e, (c, e) ∈ replacements ∧ entity c = e.toList) ∨
      (∀ r ∈ replacements, c ≠ r.1) ∧ entity c = [c] := by
  by_cases mark : ∃ r ∈ replacements, c = r.1
  · obtain ⟨⟨_, e⟩, mem, rfl⟩ := mark
    refine .inl ⟨e, mem, ?_⟩
    have all : ∀ r ∈ replacements, entity r.1 = r.2.toList := by decide
    exact all (c, e) mem
  · push Not at mark
    refine .inr ⟨mark, ?_⟩
    simp only [replacements, List.forall_mem_cons] at mark
    obtain ⟨amp, lt, gt, quot, apos, -⟩ := mark
    simp only [entity, if_neg amp, if_neg lt, if_neg gt, if_neg quot, if_neg apos]

theorem plain_entity (c : Char) : ∀ x ∈ ['<', '>', '"', '\''], x ∉ entity c := by
  rcases entity_cases c with ⟨e, mem, same⟩ | ⟨unmarked, same⟩ <;> rw [same]
  · have all : ∀ r ∈ replacements, ∀ x ∈ ['<', '>', '"', '\''], x ∉ r.2.toList := by
      simp [replacements]
    exact all (c, e) mem
  · have marks : ∀ x ∈ ['<', '>', '"', '\''], ∃ r ∈ replacements, x = r.1 := by simp [replacements]
    intro x hx here
    obtain rfl := List.mem_singleton.mp here
    obtain ⟨r, hr, same⟩ := marks x hx
    exact unmarked r hr same

/-- An ampersand is the first character of an entity and no other. -/
theorem entity_eq_cons (c : Char) :
    ∃ x body, entity c = x :: body ∧ '&' ∉ body ∧
      (x = '&' → ∃ e ∈ entities, e.toList = x :: body) := by
  rcases entity_cases c with ⟨e, mem, same⟩ | ⟨unmarked, same⟩
  · have all : ∀ e ∈ entities, e.toList = '&' :: e.toList.tail ∧ '&' ∉ e.toList.tail := by decide
    have named : e ∈ entities := List.mem_map_of_mem mem
    obtain ⟨shape, single⟩ := all e named
    exact ⟨'&', e.toList.tail, same.trans shape, single, fun _ => ⟨e, named, shape⟩⟩
  · refine ⟨c, [], same, by simp, ?_⟩
    intro amp
    exact absurd amp (unmarked ('&', "&amp;") (by decide))

theorem unescape_cons (other : c ≠ '&') (cs : List Char) :
    unescape (c :: cs) = c :: unescape cs := by
  conv_lhs => unfold unescape
  split <;> simp_all

theorem unescape_entity (c : Char) (cs : List Char) :
    unescape (entity c ++ cs) = c :: unescape cs := by
  rcases entity_cases c with ⟨e, mem, same⟩ | ⟨unmarked, same⟩ <;> rw [same]
  · simp only [replacements, List.mem_cons, Prod.mk.injEq, List.not_mem_nil, or_false] at mem
    rcases mem with ⟨rfl, rfl⟩ | ⟨rfl, rfl⟩ | ⟨rfl, rfl⟩ | ⟨rfl, rfl⟩ | ⟨rfl, rfl⟩ <;>
      simp [unescape]
  · exact unescape_cons (unmarked ('&', "&amp;") (by decide)) cs

end

/-! ## Whole texts -/

theorem replaceAll_append (c : Char) (new : String) (as bs : List Char) :
    replaceAll c new (as ++ bs) = replaceAll c new as ++ replaceAll c new bs :=
  List.flatMap_append

theorem replaceInTurn_append (rs : List (Char × String)) (as bs : List Char) :
    replaceInTurn rs (as ++ bs) = replaceInTurn rs as ++ replaceInTurn rs bs := by
  induction rs generalizing as bs with
  | nil => rfl
  | cons r rs ih =>
    have first := replaceAll_append r.1 r.2 as bs
    exact (congrArg (replaceInTurn rs) first).trans (ih _ _)

theorem replaceInTurn_other {rs : List (Char × String)} {c : Char} (other : ∀ r ∈ rs, c ≠ r.1) :
    replaceInTurn rs [c] = [c] := by
  induction rs with
  | nil => rfl
  | cons r rs ih =>
    obtain ⟨here, rest⟩ := List.forall_mem_cons.mp other
    have kept : replaceAll r.1 r.2 [c] = [c] := by simp [replaceAll, here]
    exact (congrArg (replaceInTurn rs) kept).trans (ih rest)

/-- The replacements after one another come to the map of single characters: no entity but the one
of the ampersand has a character that is still to be replaced. -/
theorem replaceInTurn_eq (cs : List Char) :
    replaceInTurn replacements cs = cs.flatMap entity := by
  have single (c : Char) : replaceInTurn replacements [c] = entity c := by
    rcases entity_cases c with ⟨e, mem, same⟩ | ⟨unmarked, same⟩ <;> rw [same]
    · have all : ∀ r ∈ replacements, replaceInTurn replacements [r.1] = r.2.toList := by decide
      exact all (c, e) mem
    · exact replaceInTurn_other unmarked
  induction cs with
  | nil => rfl
  | cons c cs ih =>
    rw [← List.singleton_append, replaceInTurn_append, single, ih, List.singleton_append,
      List.flatMap_cons]

theorem unescape_flatMap (cs : List Char) : unescape (cs.flatMap entity) = cs := by
  induction cs with
  | nil => simp [unescape]
  | cons c cs ih => rw [List.flatMap_cons, unescape_entity, ih]

/-- What begins with an ampersand does not begin within characters that are none. -/
theorem suffix_of_not_mem {body cs rest : List Char} (none_of : '&' ∉ body)
    (suffix : '&' :: rest <:+ body ++ cs) : '&' :: rest <:+ cs := by
  induction body with
  | nil => exact suffix
  | cons x body ih =>
    rcases List.suffix_cons_iff.mp suffix with whole | behind
    · exact absurd (List.cons.inj whole).1 (List.ne_of_not_mem_cons none_of)
    · exact ih (List.not_mem_of_not_mem_cons none_of) behind

theorem ampersand_flatMap {cs rest : List Char} (suffix : '&' :: rest <:+ cs.flatMap entity) :
    ∃ e ∈ entities, e.toList <+: '&' :: rest := by
  induction cs with
  | nil => simp at suffix
  | cons c cs ih =>
    obtain ⟨x, body, shape, single, named⟩ := entity_eq_cons c
    rw [List.flatMap_cons, shape, List.cons_append] at suffix
    rcases List.suffix_cons_iff.mp suffix with whole | behind
    · obtain ⟨e, mem, same⟩ := named (List.cons.inj whole).1.symm
      refine ⟨e, mem, ?_⟩
      rw [whole, same, ← List.cons_append]
      exact List.prefix_append ..
    · exact ih (suffix_of_not_mem single behind)

theorem escapes_escapeMarkup (s : String) : Escapes s (escapeMarkup s) := by
  have sent : (escapeMarkup s).toList = s.toList.flatMap entity := String.toList_ofList
  constructor <;> rw [sent]
  case inTurn => exact (replaceInTurn_eq _).symm
  case plain =>
    intro c special mem
    obtain ⟨x, _, here⟩ := List.mem_flatMap.mp mem
    exact plain_entity x c special here
  case ampersand => exact fun rest => ampersand_flatMap
  case readBack => exact unescape_flatMap _

example : escapeMarkup "&lt;" = "&amp;lt;" ∧ unescape "&amp;lt;".toList = "&lt;".toList := by decide

end SqlTemplate.Text
