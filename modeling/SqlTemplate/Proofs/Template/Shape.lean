import SqlTemplate.Proofs.Template.Reference

/-!
What the text of a statement depends on. Each placeholder is replaced by a marker or by a group of
markers, so of an argument only the number of its elements shows, and only for a list type.
-/
namespace SqlTemplate

theorem Text.mem_intercalate {separator : List Char} {parts : List (List Char)} {c : Char}
    (mem : c ∈ separator.intercalate parts) : c ∈ separator ∨ ∃ part ∈ parts, c ∈ part := by
  induction parts with
  | nil => contradiction
  | cons part parts ih =>
    cases parts with
    | nil => exact .inr ⟨part, List.mem_singleton_self _, by simpa using mem⟩
    | cons part' parts =>
      rw [List.intercalate_cons_cons, List.mem_append, List.mem_append] at mem
      rcases mem with (here | between) | later
      · exact .inr ⟨part, List.mem_cons_self .., here⟩
      · exact .inl between
      · exact (ih later).imp_right fun ⟨x, mem, inside⟩ => ⟨x, List.mem_cons_of_mem _ mem, inside⟩

/-- What takes the place of a placeholder is made of the marker and, for a group, of parentheses and
commas. -/
theorem Binding.mem_text {marker : String} (b : Binding) {c : Char}
    (mem : c ∈ (b.text marker).toList) : c ∈ marker.toList ∨ c ∈ ['(', ',', ')'] := by
  obtain ⟨type, value⟩ := b
  cases type with
  | scalar t => exact .inl mem
  | list t =>
    simp only [text, String.toList_append, List.mem_append, String.toList_intercalate,
      List.map_replicate] at mem
    rcases mem with (opening | group) | closing
    · simp_all
    · rcases Text.mem_intercalate group with comma | ⟨part, among, inside⟩
      · simp_all
      · exact .inl (List.eq_of_mem_replicate among ▸ inside)
    · simp_all

namespace Template

/-- The placeholders of a text are determined by it. -/
theorem Occurrences.unique {d : Dialect} {t : List Char} {ps ps' : List (Nat × Placeholder)}
    (h : Occurrences d t ps) (h' : Occurrences d t ps') : ps = ps' := by
  have nodup {qs : List (Nat × Placeholder)} (h : Occurrences d t qs) : qs.Nodup :=
    h.ascending.imp fun {x y} lt (eq : x = y) => Nat.lt_irrefl _ (eq ▸ lt)
  have perm : ps.Perm ps' := (List.perm_ext_iff_of_nodup (nodup h) (nodup h')).mpr fun ⟨i, p⟩ =>
    (h.mem_iff i p).trans (h'.mem_iff i p).symm
  apply perm.eq_of_pairwise _ h.ascending h'.ascending
  intro x y _ _ lt gt
  exact absurd (Nat.lt_trans lt gt) (Nat.lt_irrefl _)

/-- Two lists of arguments give each placeholder of a list type the same number of elements. -/
def SameCounts (arguments arguments' : List Value) (ps : List Placeholder) : Prop :=
  ∀ (k : Nat) (p : Placeholder) (t : ListType) (v v' : Value), ps[k]? = some p →
    p.type? = some (.list t) → arguments[p.index k]? = some v →
    arguments'[p.index k]? = some v' → v.elements.length = v'.elements.length

theorem text_bindings_eq (marker : String) {arguments arguments' : List Value}
    {located located' : Bool} {k : Nat} {ps : List Placeholder}
    (h : refusal? arguments located k ps = none) (h' : refusal? arguments' located' k ps = none)
    (same : ∀ (i : Nat) (p : Placeholder) (t : ListType) (v v' : Value), ps[i]? = some p →
      p.type? = some (.list t) → arguments[p.index (k + i)]? = some v →
      arguments'[p.index (k + i)]? = some v' → v.elements.length = v'.elements.length) :
    (bindings arguments k ps).map (Binding.text marker) =
      (bindings arguments' k ps).map (Binding.text marker) := by
  induction ps generalizing k with
  | nil => rfl
  | cons p ps ih =>
    rw [refusal?, Option.or_eq_none_iff, Placeholder.refusal?, Option.or_eq_none_iff] at h h'
    obtain ⟨⟨_, bound⟩, rest⟩ := h
    obtain ⟨⟨_, bound'⟩, rest'⟩ := h'
    obtain ⟨t, v, type, argument, _⟩ := unbound?_eq_none_iff.mp bound
    obtain ⟨t', v', type', argument', _⟩ := unbound?_eq_none_iff.mp bound'
    rw [type] at type'
    cases type'
    have here : Binding.text marker ⟨t, v⟩ = Binding.text marker ⟨t, v'⟩ := by
      cases t with
      | scalar t => rfl
      | list t =>
        have length := same 0 p t v v' rfl type argument argument'
        simp only [Binding.text, Binding.markers, length]
    have later := ih rest rest' fun i q t w w' at_ => by
      have := same (i + 1) q t w w' at_
      rwa [show k + (i + 1) = k + 1 + i by omega] at this
    rw [bindings, bindings, type, argument, argument', List.map_cons, List.map_cons, here, later]

/-- Bindings show in the text by what takes the places of their placeholders. -/
theorem splice_congr (d : Dialect) (marker : String) (t : List Char) (start : Nat)
    (ps : List (Nat × Placeholder)) {bs bs' : List Binding}
    (same : bs.map (Binding.text marker) = bs'.map (Binding.text marker)) :
    splice d marker t start (ps.zip bs) = splice d marker t start (ps.zip bs') := by
  induction ps generalizing start bs bs' with
  | nil => rfl
  | cons q ps ih =>
    cases bs with
    | nil =>
      cases bs' with
      | nil => rfl
      | cons b' bs' => simp at same
    | cons b bs =>
      cases bs' with
      | nil => simp at same
      | cons b' bs' =>
        obtain ⟨here, later⟩ := List.cons.inj same
        rw [List.zip_cons_cons, List.zip_cons_cons, splice, splice, here, ih _ later]

/-- Two lists of arguments with the same counts make the same text of a template. -/
theorem sql_eq_of_sameCounts {d : Dialect} {marker template : String}
    {arguments arguments' : List Value} {ps : List (Nat × Placeholder)}
    (occurrences : Occurrences d (clean template) ps)
    (same : SameCounts arguments arguments' (ps.map (·.2))) {q q' : ParsedQuery}
    (h : parse d marker (.text template) arguments = .ok q)
    (h' : parse d marker (.text template) arguments' = .ok q') : q.sql = q'.sql := by
  obtain rfl := occurrences.unique (occurrences_pieces d (clean template))
  obtain ⟨fits, rfl⟩ := Parser.parse_ok h
  obtain ⟨fits', rfl⟩ := Parser.parse_ok h'
  have texts := text_bindings_eq marker fits fits' fun i p t v v' at_ => by
    rw [Nat.zero_add]
    exact same i p t v v' at_
  exact congrArg String.ofList (splice_congr d marker _ 0 _ texts)

end Template

end SqlTemplate
