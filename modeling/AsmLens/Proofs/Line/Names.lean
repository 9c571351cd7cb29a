import AsmLens.Document
import AsmLens.Proofs.Line.Kinds

/-!
# Names as words

An editor that has a column of a name looks for the word there, and the word need not be the name:
names may hold blanks or signs, and a directive may follow its variable without a blank. What is
known of every name is its left neighbour, which is a blank or the beginning of the line. A declared
label also has a blank or its colon to the right of it.

Results:
* `Defines.unique`: a line defines one name at most.
* `isWord_of_name`: a name of word characters is the word at its columns, unless it runs on.
* `extract_word_ne_name`: if it runs on, the word at its columns is another one.
* `not_wordCharAt_label_stop`: a declared label does not run on.
-/
namespace AsmLens
open Text (BlankBetween firstUnquoted?)
open Unicode (isBlank isWordChar)
open AsmLens.Span (IsWord WordCharAt)

/-! ## Word characters of a field -/

theorem Text.BlankBetween.not_wordCharAt {raw : Text} {start stop column : Nat}
    (h : BlankBetween raw start stop) (h1 : start ≤ column) (h2 : column < stop) :
    ¬ WordCharAt raw column := by
  intro hword
  obtain ⟨c, hc, hw⟩ := Span.wordCharAt_iff.mp hword
  rw [Unicode.not_wordChar_of_isBlank (h column c h1 h2 hc)] at hw
  cases hw

section
variable {raw : Text} {field : Field}

theorem Field.On.slice_eq (h : field.On raw) :
    Text.slice raw field.span.start field.span.stop = field.text := by
  have := h.extract
  rw [Span.extract?_of_le h.within.1] at this
  exact Option.some.inj this

theorem Field.On.length_text (h : field.On raw) :
    field.text.length = field.span.stop - field.span.start := by
  rw [← h.slice_eq, Text.length_slice, Nat.min_eq_left h.within.2]

theorem Field.On.wordCharAt (h : field.On raw) (hw : ∀ c ∈ field.text, isWordChar c = true) :
    ∀ k, field.span.start ≤ k → k < field.span.stop → WordCharAt raw k := by
  intro k h1 h2
  have hk : k < raw.length := Nat.lt_of_lt_of_le h2 h.within.2
  have hc := List.getElem?_eq_getElem hk
  refine Span.wordCharAt_iff.mpr ⟨_, hc, hw _ ?_⟩
  rw [← h.slice_eq]
  exact Text.mem_slice_iff.mpr ⟨k, h1, h2, hc⟩

theorem Field.On.isWord (h : field.On raw) (hw : ∀ c ∈ field.text, isWordChar c = true)
    (hlt : field.span.start < field.span.stop) (before : BlankBetween raw 0 field.span.start)
    (after : ¬ WordCharAt raw field.span.stop) : IsWord raw field.span where
  lt := hlt
  inside := h.wordCharAt hw
  before column hcolumn := before.not_wordCharAt (Nat.zero_le _) (by omega)
  after := after

end

namespace Line

/-- The line defines the name: it declares the label, or it assigns to the variable. -/
def Defines (line : Line) (kind : NameKind) (name : Text) : Prop :=
  match kind with
  | .label => line.kind = .label ∧ (line.part .label).text = name
  | .variableName => line.kind = .assignment ∧ (line.part .variableName).text = name

/-- The field in which a name of the kind stands. -/
def nameField (line : Line) : NameKind → Field
  | .label => line.part .label
  | .variableName => line.part .variableName

section
variable {line : Line} {kind other : NameKind} {name text : Text}

theorem definition?_eq_some_iff : line.definition? = some (kind, name) ↔ line.Defines kind name := by
  unfold definition? Defines
  cases line.kind <;> cases kind <;> simp

instance : Decidable (line.Defines kind name) := decidable_of_iff _ definition?_eq_some_iff

/-- A line defines one name at most. -/
theorem Defines.unique (h : line.Defines kind name) (h' : line.Defines other text) :
    kind = other ∧ name = text := by
  rw [← definition?_eq_some_iff] at h h'
  rw [h] at h'
  cases h'
  exact ⟨rfl, rfl⟩

theorem Defines.text_nameField (h : line.Defines kind name) : (line.nameField kind).text = name := by
  cases kind <;> exact h.2

end

/-! ## The names of a line -/

variable {raw : Text} {number : Nat} {kind : NameKind} {name : Text}

theorem on_nameField (raw : Text) (number : Nat) (kind : NameKind) :
    ((ofText raw number).nameField kind).On raw := by
  cases kind with
  | label => exact part_on raw number (p := .label) (by decide)
  | variableName => exact part_on raw number (p := .variableName) (by decide)

/-- What a declared label is cut from. -/
theorem exists_label_cut (hk : (ofText raw number).kind = .label) :
    ∃ colon, firstUnquoted? ':' raw = some colon ∧ Text.indentation raw < colon ∧
      Field.Cut raw (Text.indentation raw) colon ((ofText raw number).part .label) ∧
      ((ofText raw number).part .label).isAbsent = false := by
  obtain ⟨i, label, hc, hl⟩ := kind_eq_label_iff.mp hk
  have pieces := in_of_content hc
  obtain ⟨colon, hfirst, hlt, -, hcut⟩ := pieces.label_cut (codeStop_le raw) hl
  have hpart : (ofText raw number).part .label = label := by
    rw [part_of_instruction hc]
    simp only [Instruction.label, hl, Option.getD_some]
  rw [hpart]
  exact ⟨colon, hfirst, hlt, hcut, (pieces.label_start (codeStop_le raw) hl).1⟩

theorem blank_before_name (h : (ofText raw number).Defines kind name) :
    BlankBetween raw 0 ((ofText raw number).nameField kind).span.start := by
  cases kind with
  | label =>
    obtain ⟨colon, -, -, hcut, -⟩ := exists_label_cut h.1
    exact (Text.blankBetween_indentation raw).join hcut.blank_before
  | variableName =>
    obtain ⟨a, hc⟩ := kind_eq_assignment_iff.mp h.1
    have hanatomy := anatomy raw number
    rw [hc] at hanatomy
    cases hanatomy with
    | assignment pieces =>
      rw [nameField, part_of_assignment hc]
      exact pieces.variableName.blank_before

theorem not_wordCharAt_label_stop (hk : (ofText raw number).kind = .label) :
    ¬ WordCharAt raw ((ofText raw number).part .label).span.stop := by
  obtain ⟨colon, hfirst, -, hcut, hpresent⟩ := exists_label_cut hk
  rcases Nat.lt_or_eq_of_le hcut.bounds.2 with hlt | hstop
  · exact (hcut.blank_after hpresent).not_wordCharAt (Nat.le_refl _) hlt
  · have hcolon := ((Text.firstUnquoted?_eq_some_iff (by decide)).mp hfirst).1.1
    rw [hstop, WordCharAt, hcolon]
    decide

theorem isWord_of_name (h : (ofText raw number).Defines kind name)
    (hw : ∀ c ∈ name, isWordChar c = true) (hne : name ≠ [])
    (after : ¬ WordCharAt raw ((ofText raw number).nameField kind).span.stop) :
    IsWord raw ((ofText raw number).nameField kind).span := by
  have hon := on_nameField raw number kind
  rw [← h.text_nameField] at hw hne
  have hpos := List.length_pos_iff.mpr hne
  rw [hon.length_text] at hpos
  exact hon.isWord hw (by omega) (blank_before_name h) after

theorem extract_word_ne_name (h : (ofText raw number).Defines kind name)
    (hw : ∀ c ∈ name, isWordChar c = true)
    (after : WordCharAt raw ((ofText raw number).nameField kind).span.stop) {word : Span}
    {column : Nat} (hword : IsWord raw word) (hc : word.contains column = true)
    (hcolumn : ((ofText raw number).nameField kind).span.contains column = true) :
    word.extract raw ≠ name := by
  have hon := on_nameField raw number kind
  rw [← h.text_nameField] at hw ⊢
  obtain ⟨h1, h2⟩ := Span.contains_iff.mp hcolumn
  -- the name and the character behind it are one run
  obtain ⟨h3, h4⟩ := hword.covers hc h1 (Nat.lt_succ_of_lt h2) fun k hk1 hk2 => by
    rcases Nat.lt_or_eq_of_le (Nat.le_of_lt_succ hk2) with hlt | rfl
    · exact hon.wordCharAt hw k hk1 hlt
    · exact after
  have hlast := (hword.inside (word.stop - 1) (by have := hword.lt; omega)
    (by have := hword.lt; omega)).lt_length
  intro e
  have hlen := congrArg List.length e
  rw [Span.length_extract, hon.length_text] at hlen
  have := hword.lt
  omega

end Line
end AsmLens
