import Mathlib.Data.List.TakeWhile
import Mathlib.Tactic.IntervalCases
import SqlTemplate.Text.Blank
import SqlTemplate.Text.Word

/-!
Texts without white space at their ends, and words, which have none at all.
-/
namespace SqlTemplate.Text

structure IsTrimmed (cs : List Char) : Prop where
  start : ∀ c, cs.head? = some c → isBlank c = false
  finish : ∀ c, cs.getLast? = some c → isBlank c = false

theorem trimLeft_spec (cs : List Char) :
    ∃ before, cs = before ++ trimLeft cs ∧ (∀ c ∈ before, isBlank c = true) ∧
      ∀ c, (trimLeft cs).head? = some c → isBlank c = false := by
  refine ⟨cs.takeWhile isBlank, List.takeWhile_append_dropWhile.symm,
    List.all_eq_true.mp List.all_takeWhile, ?_⟩
  intro c hc
  have h := List.head?_dropWhile_not isBlank cs
  rw [trimLeft] at hc
  simp only [hc] at h
  exact h

theorem trimRight_eq (cs : List Char) : trimRight cs = (trimLeft cs.reverse).reverse := rfl

/-- Trimming takes white space away at both ends, and all of it. -/
theorem trim_spec (cs : List Char) :
    ∃ before after, cs = before ++ trim cs ++ after ∧ (∀ c ∈ before, isBlank c = true) ∧
      (∀ c ∈ after, isBlank c = true) ∧ IsTrimmed (trim cs) := by
  obtain ⟨before, eq, before_blank, start⟩ := trimLeft_spec cs
  obtain ⟨after, eq', after_blank, finish⟩ := trimLeft_spec (trimLeft cs).reverse
  have left : trimLeft cs = trim cs ++ after.reverse := by
    rw [trim, trimRight_eq, ← List.reverse_append, ← eq', List.reverse_reverse]
  refine ⟨before, after.reverse, ?_, before_blank, ?_, ?_, ?_⟩
  · rw [List.append_assoc, ← left]
    exact eq
  · intro c hc
    exact after_blank c (List.mem_reverse.mp hc)
  · intro c hc
    refine start c ?_
    rw [left, List.head?_append, hc]
    rfl
  · intro c hc
    refine finish c ?_
    rw [trim, trimRight_eq, List.getLast?_reverse] at hc
    exact hc

theorem trimLeft_append {before cs : List Char} (blank : ∀ c ∈ before, isBlank c = true) :
    trimLeft (before ++ cs) = trimLeft cs :=
  List.dropWhile_append_of_pos blank

theorem trimLeft_of_head {cs : List Char} (start : ∀ c, cs.head? = some c → isBlank c = false) :
    trimLeft cs = cs := by
  cases cs with
  | nil => rfl
  | cons c cs => exact List.dropWhile_cons_of_neg (by simp [start c rfl])

theorem trimRight_append {core after : List Char} (after_blank : ∀ c ∈ after, isBlank c = true)
    (finish : ∀ c, core.getLast? = some c → isBlank c = false) :
    trimRight (core ++ after) = core := by
  have kept : trimLeft core.reverse = core.reverse := trimLeft_of_head fun c head => by
    rw [List.head?_reverse] at head
    exact finish c head
  rw [trimRight_eq, List.reverse_append,
    trimLeft_append fun c hc => after_blank c (List.mem_reverse.mp hc), kept, List.reverse_reverse]

theorem IsTrimmed.trimRight_self {cs : List Char} (trimmed : IsTrimmed cs) : trimRight cs = cs := by
  have nothing : ∀ c ∈ [], isBlank c = true := nofun
  simpa only [List.append_nil] using trimRight_append nothing trimmed.finish

/-- What is left after trimming is determined by its ends. -/
theorem trim_eq {before core after : List Char} (before_blank : ∀ c ∈ before, isBlank c = true)
    (after_blank : ∀ c ∈ after, isBlank c = true) (trimmed : IsTrimmed core) :
    trim (before ++ core ++ after) = core := by
  rw [trim, List.append_assoc, trimLeft_append before_blank]
  cases core with
  | nil =>
    have gone : trimLeft ([] ++ after) = [] := List.dropWhile_eq_nil_iff.mpr after_blank
    rw [gone]
    rfl
  | cons c cs =>
    have left : trimLeft (c :: cs ++ after) = c :: cs ++ after :=
      trimLeft_of_head fun d head => trimmed.start d head
    rw [left, trimRight_append after_blank trimmed.finish]

/-- Nothing is trimmed from a trimmed text. -/
theorem IsTrimmed.trim_self {cs : List Char} (trimmed : IsTrimmed cs) : trim cs = cs := by
  rw [trim, trimLeft_of_head trimmed.start, trimmed.trimRight_self]

theorem isTrimmed_of_ends {first last : Char} (start : isBlank first = false)
    (finish : isBlank last = false) (cs : List Char) : IsTrimmed (first :: (cs ++ [last])) where
  start := by
    rintro _ ⟨⟩
    exact start
  finish := by
    rw [← List.cons_append, List.getLast?_concat]
    rintro _ ⟨⟩
    exact finish

theorem isWord_of_isBlank {c : Char} (h : isBlank c = true) : isWord c = false := by
  have points : (9 ≤ c.toNat ∧ c.toNat ≤ 32) ∨ c.toNat = 0x85 ∨ c.toNat = 0xa0 ∨
      c.toNat = 0x1680 ∨ (0x2000 ≤ c.toNat ∧ c.toNat ≤ 0x200a) ∨ c.toNat = 0x2028 ∨
      c.toNat = 0x2029 ∨ c.toNat = 0x202f ∨ c.toNat = 0x205f ∨ c.toNat = 0x3000 := by
    simp only [isBlank, Bool.or_eq_true, Bool.and_eq_true, decide_eq_true_eq, beq_iff_eq] at h
    omega
  rw [← Char.ofNat_toNat c]
  generalize c.toNat = n at points
  rcases points with ⟨low, high⟩ | rfl | rfl | rfl | ⟨low, high⟩ | rfl | rfl | rfl | rfl | rfl
  case inl => interval_cases n <;> decide
  case inr.inr.inr.inr.inl => interval_cases n <;> decide +kernel
  all_goals decide +kernel

theorem isBlank_of_isWord {c : Char} (word : isWord c = true) : isBlank c = false := by
  cases blank : isBlank c with
  | false => rfl
  | true => exact absurd word (by simp [isWord_of_isBlank blank])

theorem isWord_of_isDigit {c : Char} (h : c.isDigit = true) : isWord c = true := by
  have ascii : c.toNat < 128 := by
    simp only [Char.isDigit, Bool.and_eq_true, decide_eq_true_eq] at h
    exact Nat.lt_of_le_of_lt (UInt32.le_iff_toNat_le.mp h.2) (by decide)
  simp [isWord, ascii, Char.isAlphanum, h]

/-- Nothing is trimmed from a word. -/
theorem trim_word {w : List Char} (word : ∀ c ∈ w, isWord c = true) : trim w = w := by
  have notBlank (c : Char) (hc : c ∈ w) : isBlank c = false := isBlank_of_isWord (word c hc)
  exact IsTrimmed.trim_self ⟨fun c first => notBlank c (List.mem_of_head? first),
    fun c last => notBlank c (List.mem_of_getLast? last)⟩

end SqlTemplate.Text
