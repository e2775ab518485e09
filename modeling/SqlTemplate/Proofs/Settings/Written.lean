import Mathlib.Tactic.IntervalCases
import SqlTemplate.Proofs.Ini.Document
import SqlTemplate.Proofs.Settings.Supplied

/-!
Valid settings, written down and read back: as a dictionary, and as a text of one line for each
setting. A text has to be one line long to stand in a line; nothing else is asked of it.
-/
namespace SqlTemplate

open Ini (IsKey)
open Ini.Line (IsEnded headerLine optionLine quoted)

namespace Setting

theorem isKey (setting : Setting) : IsKey setting.key.toList := by
  refine ⟨by cases setting <;> decide, List.all_eq_true.mp ?_⟩
  cases setting <;> decide

theorem key_injective : Function.Injective key := by
  intro j k same
  cases j <;> cases k <;> first | rfl | exact absurd same (by decide)

end Setting

namespace Settings

def line (c : Settings) (setting : Setting) : String :=
  setting.key ++ " = \"" ++ (c.valueOf setting).plain ++ "\""

/-- The lines of all settings that hold a value, in an order. -/
def written (c : Settings) (order : List Setting) : String :=
  "\n".intercalate ((order.filter fun k => !(c.valueOf k).isNull).map c.line)

/-- Settings of which every text is one line long; there may be no file for errors. -/
def OneLine (c : Settings) : Prop :=
  ∀ setting ∈ [Setting.hostname, .engine, .database, .username, .password, .errorLog],
    (∃ s, c.valueOf setting = .text s ∧ '\n' ∉ s.toList) ∨
      setting = .errorLog ∧ c.errorLog = .null

/-! ## The values of a text -/

/-- A number that a setting may hold is written as one digit, and read back from it. -/
theorem digit_standsFor {n : Int} (lower : 0 ≤ n) (upper : n ≤ 7) :
    '\n' ∉ (Value.int n).plain.toList ∧ (Value.text (Value.int n).plain).StandsFor n := by
  interval_cases n <;> exact ⟨by decide, by rfl, nofun, nofun⟩

section
variable {c : Settings} {values : Setting → Value}

/-- What a setting holds is written on one line, and its text is settled to it. -/
theorem Sound.plain_settles (sound : Sound values c) (oneLine : c.OneLine) (setting : Setting)
    (given : (c.valueOf setting).isNull = false) :
    '\n' ∉ (c.valueOf setting).plain.toList ∧
      Settles setting (.text (c.valueOf setting).plain) (c.valueOf setting) := by
  have settled := sound.settled setting
  have texts := oneLine setting
  cases setting with
  | errorReporting =>
    obtain ⟨n, _, lower, upper, value⟩ := settled
    obtain ⟨single, stands⟩ := digit_standsFor lower upper
    rw [value]
    exact ⟨single, n, stands, lower, upper, rfl⟩
  | queryMode =>
    obtain ⟨n, _, lower, upper, value⟩ := settled
    obtain ⟨single, stands⟩ := digit_standsFor lower (by omega)
    rw [value]
    exact ⟨single, n, stands, lower, upper, rfl⟩
  | logQueries =>
    obtain ⟨b, value, _⟩ := settled
    rw [value]
    cases b with
    | false => exact ⟨by decide, false, rfl, .inr ⟨_, rfl, by rfl⟩⟩
    | true => exact ⟨by decide, true, rfl, .inr ⟨_, rfl, by rfl⟩⟩
  | errorLog =>
    rcases texts (by simp) with ⟨s, value, single⟩ | ⟨_, absent⟩
    · rw [value]
      exact ⟨single, rfl⟩
    · rw [valueOf, absent] at given
      contradiction
  | _ =>
    rcases texts (by simp) with ⟨s, value, single⟩ | ⟨other, _⟩
    · rw [value]
      exact ⟨single, rfl⟩
    · contradiction

/-- Only what is absent by default can be absent from settings that a dictionary made. -/
theorem absent_default {given : Setting → Option Value}
    (sound : Sound (supplied fun k => (given k).filter (!·.isNull)) c) {setting : Setting}
    (absent : (c.valueOf setting).isNull = true) :
    ({} : Settings).valueOf setting = c.valueOf setting := by
  have settled := sound.settled setting
  have kept (same : c.valueOf setting = supplied (fun k => (given k).filter (!·.isNull)) setting) :
      ({} : Settings).valueOf setting = c.valueOf setting := by
    rw [same] at absent ⊢
    rw [supplied] at absent ⊢
    cases value : (given setting).filter (!·.isNull) with
    | none => rfl
    | some v =>
      rw [value] at absent
      have present := (Option.filter_eq_some_iff.mp value).2
      rw [Option.getD_some] at absent
      simp [absent] at present
  cases setting with
  | errorReporting =>
    obtain ⟨n, _, _, _, value⟩ := settled
    rw [value] at absent
    contradiction
  | queryMode =>
    obtain ⟨n, _, _, _, value⟩ := settled
    rw [value] at absent
    contradiction
  | logQueries =>
    obtain ⟨b, value, _⟩ := settled
    rw [value] at absent
    contradiction
  | _ => exact kept settled

/-- Settings are made again from anything that gives each setting its value or a value that is
settled to it, and nothing for one that is absent. -/
theorem Sound.regiven {given : Setting → Option Value}
    (sound : Sound (supplied fun k => (given k).filter (!·.isNull)) c)
    {again : Setting → Option Value}
    (gives : ∀ k, (c.valueOf k).isNull = false →
      ∃ v, again k = some v ∧ v.isNull = false ∧ Settles k v (c.valueOf k))
    (absent : ∀ k, (c.valueOf k).isNull = true → (again k).filter (!·.isNull) = none) :
    Sound (supplied fun k => (again k).filter (!·.isNull)) c := by
  refine ⟨fun setting => ?_, sound.file⟩
  cases null : (c.valueOf setting).isNull with
  | true =>
    rw [supplied, absent setting null, Option.getD_none, absent_default sound null]
    exact (sound.settled setting).again
  | false =>
    obtain ⟨v, value, present, settles⟩ := gives setting null
    have kept : (some v).filter (!·.isNull) = some v := by rw [Option.filter, present]; rfl
    rw [supplied, value, kept]
    exact settles

/-! ## Dictionaries -/

theorem lookup_toDict (c : Settings) (setting : Setting) :
    c.toDict.lookup setting.key = some (c.valueOf setting) := by
  cases setting <;> rfl

end

/-! ## Texts -/

theorem joinValue_quoted (value : List Char) :
    Ini.Document.joinValue [String.ofList (quoted value)] = String.ofList (quoted value) := by
  rw [Ini.Document.joinValue, String.intercalate_singleton, String.toList_ofList,
    (Ini.Line.isTrimmed_quoted value).trimRight_self]

/-- One pair of quotation marks is taken away, whatever stands between them. -/
theorem unquote_quoted (value : List Char) :
    unquote (String.ofList (quoted value)) = String.ofList value := by
  have trimmed := (Ini.Line.isTrimmed_quoted value).trim_self
  obtain ⟨d, ds, rest⟩ : ∃ d ds, value ++ ['"'] = d :: ds := by cases value <;> simp
  rw [unquote, String.toList_ofList, trimmed, quoted, rest]
  have last : (d :: ds).getLast? = some '"' := by rw [← rest, List.getLast?_concat]
  simp only [last]
  rw [← rest]
  simp

theorem find?_key (settings : List Setting) (setting : Setting) :
    settings.find? (·.key == setting.key) = if setting ∈ settings then some setting else none := by
  induction settings with
  | nil => rfl
  | cons k ks ih =>
    rw [List.find?_cons]
    by_cases here : k = setting
    · simp [here]
    · have other : (k.key == setting.key) = false := by
        simpa using fun same => here (Setting.key_injective same)
      simp [other, ih, Ne.symm here]

def options (c : Settings) (order : List Setting) : List (List Char × List Char) :=
  (order.filter fun k => !(c.valueOf k).isNull).map fun k =>
    (k.key.toList, (c.valueOf k).plain.toList)

section
variable {c : Settings} {values : Setting → Value} {order : List Setting}

theorem toList_line (c : Settings) (setting : Setting) :
    (c.line setting).toList = optionLine setting.key.toList (c.valueOf setting).plain.toList := by
  simp [line, optionLine, quoted]

theorem toList_written (c : Settings) (order : List Setting) :
    (c.written order).toList =
      ['\n'].intercalate ((options c order).map fun o => optionLine o.1 o.2) := by
  have lines : (c.line · |>.toList) = fun k =>
      optionLine k.key.toList (c.valueOf k).plain.toList := funext (toList_line c)
  rw [written, String.toList_intercalate, options, List.map_map, List.map_map]
  simp only [Function.comp_def, lines]
  rfl

theorem isKey_options (c : Settings) (order : List Setting) : ∀ o ∈ options c order, IsKey o.1 := by
  intro o mem
  obtain ⟨k, _, rfl⟩ := List.mem_map.mp mem
  exact k.isKey

/-- No key is written twice. -/
theorem distinct_options (c : Settings) (perm : order.Perm Setting.all) :
    ((options c order).map Ini.Document.kept).Pairwise (·.1 ≠ ·.1) := by
  have nodup : order.Nodup := perm.nodup_iff.mpr (by decide)
  rw [options, List.map_map, List.pairwise_map]
  refine (nodup.filter _).imp fun differ same => differ ?_
  exact Setting.key_injective (by simpa [Ini.Document.kept] using same)

/-- Something is written, since the error reporting has a value. -/
theorem Sound.options_ne_nil (sound : Sound values c) (perm : order.Perm Setting.all) :
    options c order ≠ [] := by
  obtain ⟨n, _, _, _, value⟩ := sound.settled .errorReporting
  have reporting : Setting.errorReporting ∈ order.filter fun k => !(c.valueOf k).isNull := by
    rw [List.mem_filter, value]
    exact ⟨perm.mem_iff.mpr (by decide), rfl⟩
  exact List.ne_nil_of_mem (List.mem_map_of_mem reporting)

theorem Sound.mem_written (sound : Sound values c) (perm : order.Perm Setting.all) :
    '=' ∈ (c.written order).toList := by
  obtain ⟨o, os, first⟩ := List.exists_cons_of_ne_nil (sound.options_ne_nil perm)
  rw [toList_written, first, List.map_cons]
  cases os with
  | nil => simp [optionLine]
  | cons o' os =>
    rw [List.map_cons, List.intercalate_cons_cons]
    simp [optionLine]

theorem Sound.lines_written (sound : Sound values c) (oneLine : c.OneLine)
    (perm : order.Perm Setting.all) {ending : String} (ended : ending = "" ∨ ending = "\n") :
    List.Forall₂ IsEnded ((options c order).map fun o => optionLine o.1 o.2)
      (Ini.lines (c.written order ++ ending).toList) := by
  rw [String.toList_append, toList_written]
  refine Ini.lines_intercalate (by simpa using sound.options_ne_nil perm) ?_ ?_ ?_
  · intro l mem
    obtain ⟨o, listed, rfl⟩ := List.mem_map.mp mem
    obtain ⟨k, given, rfl⟩ := List.mem_map.mp listed
    have present : (c.valueOf k).isNull = false := by simpa using (List.mem_filter.mp given).2
    have single := (sound.plain_settles oneLine k present).1
    have key : '\n' ∉ k.key.toList := by cases k <;> decide
    simp [optionLine, quoted, single, key]
  · intro l mem
    obtain ⟨o, _, rfl⟩ := List.mem_map.mp mem
    simp [optionLine]
  · rcases ended with rfl | rfl
    · exact .inl rfl
    · exact .inr rfl

/-- Under the key of a setting stands its value in quotation marks. -/
theorem value?_written {d : Ini.Document} {name : String}
    (holds : d.Holds name ((options c order).map Ini.Document.kept))
    (other : name ≠ Ini.defaultSection) (perm : order.Perm Setting.all) (setting : Setting) :
    (d.value? name setting.key).map (fun v => Value.text (unquote v)) =
      if (c.valueOf setting).isNull then none else some (.text (c.valueOf setting).plain) := by
  have found : ((options c order).map Ini.Document.kept).find? (·.1 == setting.key) =
      if (c.valueOf setting).isNull then none else
        some (Ini.Document.kept (setting.key.toList, (c.valueOf setting).plain.toList)) := by
    have same : ((fun o : String × List String => o.1 == setting.key) ∘ Ini.Document.kept ∘
        fun k => (k.key.toList, (c.valueOf k).plain.toList)) = (·.key == setting.key) := by
      funext k
      simp [Ini.Document.kept]
    have listed : setting ∈ order := perm.mem_iff.mpr (by cases setting <;> decide)
    rw [options, List.map_map, List.find?_map, same, find?_key]
    cases null : (c.valueOf setting).isNull <;> simp [listed, null]
  rw [holds.value? other, found]
  split
  · rfl
  · rw [Option.map_some, Option.map_some, Ini.Document.kept, joinValue_quoted, unquote_quoted,
      String.ofList_toList]

end

/-! ## Reading back -/

theorem headed_eq (name text : String) :
    "[" ++ name ++ "]\n" ++ text =
      String.ofList (headerLine name.toList ++ '\n' :: text.toList) := by
  apply String.toList_injective
  simp [headerLine]

theorem trimmed_ne_empty {s : String} {c : Char} (mem : c ∈ s.toList)
    (notBlank : Text.isBlank c = false) : (Text.trimmed s).isEmpty = false := by
  obtain ⟨before, after, eq, before_blank, after_blank, _⟩ := Text.trim_spec s.toList
  cases trimmed : Text.trim s.toList with
  | cons d ds => simp [Text.trimmed, trimmed]
  | nil =>
    rw [trimmed, List.append_nil] at eq
    rw [eq, List.mem_append] at mem
    rcases mem with mem | mem
    · simp [before_blank c mem] at notBlank
    · simp [after_blank c mem] at notBlank

section
variable {c : Settings} {given : Setting → Option Value} {order : List Setting} {ending : String}

/-- The section of a written text holds the settings again, under a header of any name. -/
theorem Sound.read_section (sound : Sound (supplied fun k => (given k).filter (!·.isNull)) c)
    (oneLine : c.OneLine) (perm : order.Perm Setting.all) (ended : ending = "" ∨ ending = "\n")
    {name : String} (nonempty : name ≠ "") (single : '\n' ∉ name.toList)
    (other : name ≠ Ini.defaultSection) :
    ∃ d, Ini.Document.read ("[" ++ name ++ "]\n" ++ (c.written order ++ ending)) = .ok d ∧
      d.hasSection name = true ∧
      ofDict (fun key => (d.value? name key).map fun v => .text (unquote v)) = .ok c := by
  obtain ⟨d, read, holds⟩ := Ini.Document.read_written nonempty single other
    (isKey_options c order) (distinct_options c perm) (sound.lines_written oneLine perm ended)
  refine ⟨d, by rw [headed_eq, read], holds.hasSection, ofDict_eq_ok_iff.mpr ?_⟩
  have value := value?_written holds other perm
  refine sound.regiven (fun k present => ?_) fun k absent => ?_
  · rw [value, present]
    exact ⟨_, rfl, rfl, (sound.plain_settles oneLine k present).2⟩
  · rw [value, absent]
    rfl

end

/-- Settings that a dictionary made are made again from their own dictionary. If their texts are one
line long, they are also made again from a text with a line for each setting that has a value, in any
order: from the text alone, and from the section of any header that is put before it. -/
theorem read_back {given : String → Option Value} {c : Settings} (built : ofDict given = .ok c) :
    ofDict (c.toDict.lookup ·) = .ok c ∧
      (c.OneLine → ∀ order : List Setting, order.Perm Setting.all →
        ∀ ending, ending = "" ∨ ending = "\n" →
          let text := c.written order ++ ending
          ofIni (some text) none = .ok c ∧
            ∀ name : String, name ≠ "" → '\n' ∉ name.toList → name ≠ Ini.defaultSection →
              ofIni (some ("[" ++ name ++ "]\n" ++ text)) (some name) = .ok c) := by
  have sound := ofDict_eq_ok_iff.mp built
  constructor
  · refine ofDict_eq_ok_iff.mpr (sound.regiven (fun k present => ?_) fun k absent => ?_)
    · exact ⟨_, lookup_toDict c k, present, (sound.settled k).again⟩
    · rw [lookup_toDict, Option.filter, absent]
      rfl
  · intro oneLine order perm ending ended text
    constructor
    · have nonempty : rootSection ≠ "" := by decide
      obtain ⟨d, read, has, again⟩ :=
        sound.read_section oneLine perm ended nonempty (by decide) (by decide)
      have written : (Text.trimmed text).isEmpty = false :=
        trimmed_ne_empty (c := '=') (by simp [text, sound.mem_written perm]) (by decide)
      have inRoot : ofIni (some text) none = _ := ofIni_of_read written read has
      exact inRoot.trans again
    · intro name nonempty single other
      obtain ⟨d, read, has, again⟩ := sound.read_section oneLine perm ended nonempty single other
      have written : (Text.trimmed ("[" ++ name ++ "]\n" ++ text)).isEmpty = false :=
        trimmed_ne_empty (c := '[') (by simp) (by decide)
      have inNamed : ofIni (some _) (some name) = _ := ofIni_of_read written read has
      exact inNamed.trans again

theorem read_back_marks :
    let given : String → Option Value := fun key =>
      [("Hostname", .text " 'a' = b: \"c\" "), ("Password", .text "#;[x]\r"),
        ("ErrorReporting", Value.text " 0_3 "), ("LogQueries", .text "oFF")].lookup key
    let c : Settings :=
      { hostname := .text " 'a' = b: \"c\" ", password := .text "#;[x]\r"
        errorReporting := .int 3, logQueries := .bool false }
    let text := c.written Setting.all.reverse ++ "\n"
    ofDict given = .ok c ∧ c.OneLine ∧ ofDict (c.toDict.lookup ·) = .ok c ∧
      ofIni (some text) none = .ok c ∧
      ofIni (some ("[" ++ " # =\r" ++ "]\n" ++ text)) (some " # =\r") = .ok c := by
  intro given c text
  have built : ofDict given = .ok c := by rfl
  have oneLine : c.OneLine := by
    intro setting mem
    cases setting with
    | errorLog => exact .inr ⟨rfl, rfl⟩
    | errorReporting | logQueries | queryMode => simp at mem
    | _ => exact .inl ⟨_, rfl, by decide⟩
  obtain ⟨again, texts⟩ := read_back built
  obtain ⟨alone, under⟩ :=
    texts oneLine Setting.all.reverse (List.reverse_perm _) "\n" (.inr rfl)
  exact ⟨built, oneLine, again, alone, under _ (by decide) (by decide) (by decide)⟩

end Settings

end SqlTemplate
