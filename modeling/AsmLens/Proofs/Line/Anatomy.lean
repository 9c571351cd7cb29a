import AsmLens.Line
import AsmLens.Proofs.Span
import AsmLens.Proofs.Text.Quotes

/-!
# Where the parts of a line are cut from

What is shown of a line are fields, and a field is what trimming leaves of a stretch of the line. `Cut`
says what becomes of one stretch, and `Anatomy` says for each kind of line which stretches there are.

Results:
* `cut_trimmed`: `Field.trimmed` cuts.
* `Cut.extract?_span`: a cut field is what its span covers.
* `Cut.tiled`: the part is tiled by the span of the field, if there is one.
* `ofText_eq`: the reading of a line, with one formula for lines with a comment and without.
* `anatomy`: the content of every line is one of the cases of `Anatomy`.
-/
namespace AsmLens.Field
open Text (BlankBetween slice)
open Unicode (isBlank)

/-!
## What trimming leaves of a part of a line

A field that is cut out of `[start, stop)` of a line is absent if that part is blank. Otherwise it
has a span in that part, its text is what the line has there, and what it leaves over at either end
is blank. `Cut` states both cases, so that a proof about a trimmed field is a proof by cases on it.
-/

/-- What the field at `[start, stop)` of a line can be. -/
inductive Cut (raw : Text) (start stop : Nat) : Field → Prop
  | absent (le : start ≤ stop) (blank : BlankBetween raw start stop) : Cut raw start stop absent
  | present {first last : Nat} (le_first : start ≤ first) (lt : first < last)
      (last_le : last ≤ stop) (before : BlankBetween raw start first) (after : BlankBetween raw last stop) :
      Cut raw start stop ⟨slice raw first last, ⟨first, last⟩⟩

/-- The span of the field, unless the field is absent. -/
def extent (field : Field) : List Span := if field.isAbsent then [] else [field.span]

theorem text_trimmed (raw : Text) (start stop : Nat) :
    (trimmed raw start stop).text = Text.trim (slice raw start stop) := by
  simp only [trimmed]
  split
  case isTrue h => exact (List.isEmpty_iff.mp h).symm
  case isFalse => rfl

theorem isAbsent_slice {raw : Text} {first last : Nat} (h : first < last)
    (hl : last ≤ raw.length) :
    (⟨slice raw first last, ⟨first, last⟩⟩ : Field).isAbsent = false := by
  have e := Text.length_slice raw first last
  unfold isAbsent
  cases hs : slice raw first last with
  | nil =>
    rw [hs] at e
    simp only [List.length_nil] at e
    omega
  | cons c rest => rfl

theorem trimmed_self (raw : Text) (column : Nat) : trimmed raw column column = absent := by
  rw [trimmed_eq_absent_iff, Text.slice_self]
  intro c hc
  cases hc

/-- Where the trimmed field of a part that is not blank stands. -/
theorem trimmed_of_not_blank {raw : Text} {start stop : Nat}
    (hb : ¬ BlankBetween raw start stop) : ∃ first last,
      first = start + Text.indentation (slice raw start stop) ∧
      last = first + (Text.trim (slice raw start stop)).length ∧ first < last ∧
      trimmed raw start stop = ⟨slice raw first last, ⟨first, last⟩⟩ := by
  have hne : (Text.trim (slice raw start stop)).isEmpty = false := by
    rw [List.isEmpty_eq_false_iff, ne_eq, trim_eq_nil_iff, ← Text.blankBetween_iff_slice]
    exact hb
  have hpos := List.length_pos_iff.mpr (List.isEmpty_eq_false_iff.mp hne)
  refine ⟨_, _, rfl, rfl, by omega, ?_⟩
  have hext := extract_trimmed raw start stop
  simp only [trimmed, hne, Bool.false_eq_true, if_false] at hext ⊢
  exact congrArg (Field.mk · _) hext.symm

theorem trim_append_of_blank {a b : Text} (h : ∀ c ∈ b, isBlank c = true) :
    Text.trim (a ++ b) = Text.trim a := by
  cases ha : a.all isBlank with
  | true =>
    have hblank := List.all_eq_true.mp ha
    rw [trim_eq_nil_iff.mpr hblank, trim_eq_nil_iff]
    intro c hc
    exact (List.mem_append.mp hc).elim (hblank c) (h c)
  | false =>
    rw [Text.trim_eq_drop, Text.trim_eq_drop, Text.trimEnd_append_of_blank h,
      Text.indentation_append b ha]

/-- Blanks at either end of a part do not matter to the field that is cut out of it. -/
theorem trimmed_eq_of_blankBetween {raw : Text} {start first last stop : Nat} (h1 : start ≤ first)
    (h2 : first ≤ last) (h3 : last ≤ stop) (h4 : first ≤ raw.length)
    (before : BlankBetween raw start first) (after : BlankBetween raw last stop) :
    trimmed raw start stop = trimmed raw first last := by
  have hbefore := Text.blankBetween_iff_slice.mp before
  have hafter := Text.blankBetween_iff_slice.mp after
  have hpieces : slice raw start stop =
      slice raw start first ++ slice raw first last ++ slice raw last stop := by
    rw [Text.slice_append_slice raw h1 h2, Text.slice_append_slice raw (by omega) h3]
  have htrim : Text.trim (slice raw start stop) = Text.trim (slice raw first last) := by
    rw [hpieces, trim_append_of_blank hafter, Text.trim, Text.trimStart_append_of_blank hbefore,
      Text.trim]
  simp only [trimmed, htrim]
  split
  case isTrue => rfl
  case isFalse hne =>
    have hall : (slice raw first last).all isBlank = false := by
      rw [Bool.eq_false_iff, ne_eq, List.all_eq_true]
      exact fun h => hne (List.isEmpty_iff.mpr (trim_eq_nil_iff.mpr h))
    have hlength : (slice raw start first).length = first - start := by
      rw [Text.length_slice, Nat.min_eq_left h4]
    have hindent : Text.indentation (slice raw start stop) =
        first - start + Text.indentation (slice raw first last) := by
      rw [hpieces, List.append_assoc, Text.indentation_append_of_blank hbefore, hlength,
        Text.indentation_append _ hall]
    have hfirst : start + Text.indentation (slice raw start stop) =
        first + Text.indentation (slice raw first last) := by omega
    rw [hfirst]

theorem cut_trimmed {raw : Text} {start stop : Nat} (h : start ≤ stop) (hs : stop ≤ raw.length) :
    Cut raw start stop (trimmed raw start stop) := by
  by_cases hb : BlankBetween raw start stop
  · rw [trimmed_eq_absent_iff.mpr (Text.blankBetween_iff_slice.mp hb)]
    exact Cut.absent h hb
  · obtain ⟨first, last, hf, hl, hlt, e⟩ := trimmed_of_not_blank hb
    have hle := indentation_add_length_trim_le (slice raw start stop)
    rw [Text.length_slice, Nat.min_eq_left hs] at hle
    have before := (Text.blankBetween_indentation (slice raw start stop)).of_slice (by omega)
    have after := Text.blankBetween_trimEnd (Text.trimStart (slice raw start stop))
    rw [← Text.drop_indentation, List.length_drop, Text.length_slice, Nat.min_eq_left hs,
      Text.drop_indentation, ← Text.trim, ← Text.drop_indentation] at after
    have after := after.of_drop.of_slice (by omega)
    rw [e]
    exact Cut.present (by omega) hlt (by omega) (before.mono (by omega) (by omega))
      (after.mono (by omega) (by omega))

variable {raw : Text} {start stop : Nat} {field : Field}

theorem Cut.bounds (h : Cut raw start stop field) :
    field.span.start ≤ field.span.stop ∧ field.span.stop ≤ stop := by
  cases h with
  | absent le => exact ⟨Nat.le_refl _, Nat.zero_le _⟩
  | present h1 h2 h3 => exact ⟨Nat.le_of_lt h2, h3⟩

theorem Cut.start_le (h : Cut raw start stop field) (hp : field.isAbsent = false) :
    start ≤ field.span.start ∧ field.span.start < field.span.stop := by
  cases h with
  | absent => cases hp
  | present h1 h2 => exact ⟨h1, h2⟩

theorem Cut.blank_before (h : Cut raw start stop field) :
    BlankBetween raw start field.span.start := by
  cases h with
  | absent => exact Text.blankBetween_of_le raw (Nat.zero_le start)
  | present h1 h2 h3 before => exact before

theorem Cut.blank_after (h : Cut raw start stop field) (hp : field.isAbsent = false) :
    BlankBetween raw field.span.stop stop := by
  cases h with
  | absent => cases hp
  | present h1 h2 h3 before after => exact after

/-- Where the part begins with a character that is not blank, so does the field. -/
theorem Cut.start_eq (h : Cut raw start stop field) (hs : stop ≤ raw.length) {c : Char}
    (hlt : start < stop) (hc : raw[start]? = some c) (hb : isBlank c = false) :
    field.isAbsent = false ∧ field.span.start = start := by
  cases h with
  | absent le blank =>
    have := blank.stop_le (Nat.le_refl _) hc hb
    omega
  | present h1 h2 h3 before =>
    have := before.stop_le (Nat.le_refl _) hc hb
    exact ⟨isAbsent_slice h2 (Nat.le_trans h3 hs), Nat.le_antisymm this h1⟩

theorem Cut.extract?_span (h : Cut raw start stop field) :
    field.span.extract? raw = some field.text := by
  rw [Span.extract?_of_le h.bounds.1]
  cases h with
  | absent => rw [Span.extract]; exact congrArg some (Text.slice_self raw 0)
  | present => rfl

theorem Cut.blank_of_isAbsent (h : Cut raw start stop field) (hs : stop ≤ raw.length)
    (ha : field.isAbsent = true) : BlankBetween raw start stop := by
  cases h with
  | absent le blank => exact blank
  | present h1 h2 h3 => rw [isAbsent_slice h2 (Nat.le_trans h3 hs)] at ha; cases ha

theorem Cut.tiled (h : Cut raw start stop field) (hs : stop ≤ raw.length) :
    Span.Tiled raw start field.extent stop := by
  cases h with
  | absent le blank => exact ⟨le, blank⟩
  | present h1 h2 h3 before after =>
    rw [extent, isAbsent_slice h2 (Nat.le_trans h3 hs)]
    exact ⟨h1, h2, before, h3, after⟩

end AsmLens.Field

/-!
## The stretches of a line

Reading a line cuts its code off at the comment and searches the code alone. `Anatomy` says of each
kind of content which stretches of the whole line its fields are cut from, so that nothing about a
line has to be proved by looking into the readers again.

* an assignment is a name, a directive and a value, side by side up to the end of the code;
* an instruction is what precedes the mnemonic, the mnemonic and the data, side by side from the
  first character that is not blank up to the end of the code; a label that is declared is cut from
  the code before the first unquoted colon, wherever the mnemonic stands.
-/

namespace AsmLens
open Text (BlankBetween slice Unquoted firstUnquoted?)
open Unicode (isBlank)

/-! ### Pieces of the code are pieces of the line -/

theorem Field.trimmed_take (raw : Text) {start stop n : Nat} (h : stop ≤ n) :
    Field.trimmed (raw.take n) start stop = Field.trimmed raw start stop := by
  unfold Field.trimmed
  rw [Text.slice_take raw h]

theorem Span.extract_take (raw : Text) {span : Span} {n : Nat} (h : span.stop ≤ n) :
    span.extract (raw.take n) = span.extract raw :=
  Text.slice_take raw h

/-! ### Assignments -/

/-- The assignment is cut from the code `[0, n)` of the line. -/
structure Assignment.In (raw : Text) (n : Nat) (a : Assignment) : Prop where
  stop_le : a.operator.span.stop ≤ n
  written : Text.asciiUpper (a.operator.span.extract raw) = a.operator.text
  variableName : Field.Cut raw 0 a.column a.variableName
  value : Field.Cut raw a.operator.span.stop n a.value

theorem Assignment.lt_stop (a : Assignment) : a.column < a.operator.span.stop := by
  have := List.length_pos_iff.mpr (Keyword.spelling_ne_nil a.directive)
  simp only [operator]
  omega

theorem Assignment.fields_of_ofCode? {code : Text} {a : Assignment} (h : ofCode? code = some a) :
    (∃ c, code[a.operator.span.stop]? = some c ∧ isBlank c = true) ∧
      a.variableName = Field.trimmed code 0 a.column ∧
      a.value = Field.trimmed code a.operator.span.stop code.length := by
  unfold ofCode? at h
  split at h
  case h_2 => cases h
  case h_1 column directive found =>
    split at h
    · cases h
    · cases h
      refine ⟨?_, rfl, rfl⟩
      have blank := (fits_of_directiveAt? (Text.firstMatch?_eq_some_iff.mp found).2.1).2
      obtain ⟨c, hc, hblank⟩ := (Option.any_eq_true _ _).mp blank
      rw [List.getElem?_drop] at hc
      exact ⟨c, hc, hblank⟩

theorem Assignment.in_of_ofCode? {raw : Text} {n : Nat} (hn : n ≤ raw.length) {a : Assignment}
    (h : ofCode? (raw.take n) = some a) : a.In raw n := by
  have written := asciiUpper_extract_operator h
  obtain ⟨⟨c, hc, -⟩, hname, hvalue⟩ := fields_of_ofCode? h
  -- the blank after the directive is code, so the directive ends before the code does
  have hstop := (List.getElem?_eq_some_iff.mp hc).1
  rw [List.length_take_of_le hn] at hstop hvalue
  have hlt := a.lt_stop
  rw [Span.extract_take raw (Nat.le_of_lt hstop)] at written
  refine ⟨Nat.le_of_lt hstop, written, ?_, ?_⟩
  · rw [hname, Field.trimmed_take raw (by omega)]
    exact Field.cut_trimmed (Nat.zero_le _) (by omega)
  · rw [hvalue, Field.trimmed_take raw (Nat.le_refl n)]
    exact Field.cut_trimmed (Nat.le_of_lt hstop) hn

/-! ### Instructions -/

theorem Mnemonic.not_isBlank_of_mem_spelling (m : Mnemonic) :
    ∀ c ∈ m.spelling, isBlank c = false ∧ c ≠ ':' := by
  have h : (m.spelling.all fun c => !isBlank c && c != ':') = true := by cases m <;> decide
  simpa using h

/-- The colon that declares the label of a line with the code `[0, n)`: the first one outside
literals, if it is code and not the first character that is not blank. -/
def Line.declaringColon? (raw : Text) (n : Nat) : Option Nat :=
  (firstUnquoted? ':' raw).filter fun colon => Text.indentation raw < colon ∧ colon < n

theorem Line.declaringColon?_eq_some_iff {raw : Text} {n colon : Nat} :
    declaringColon? raw n = some colon ↔
      firstUnquoted? ':' raw = some colon ∧ Text.indentation raw < colon ∧ colon < n := by
  rw [declaringColon?, Option.filter_eq_some_iff, decide_eq_true_eq]

/-- The instruction is cut from the code `[0, n)` of the line. -/
structure Instruction.In (raw : Text) (n : Nat) (i : Instruction) : Prop where
  indentation_le : Text.indentation raw ≤ i.column
  stop_le : i.span.stop ≤ n
  written : i.span.extract raw = i.mnemonic.spelling
  before : Field.Cut raw (Text.indentation raw) i.column i.before
  data : Field.Cut raw i.span.stop n i.data
  declared : i.declared =
    (Line.declaringColon? raw n).map (Field.trimmed raw (Text.indentation raw))

theorem Instruction.lt_stop (i : Instruction) : i.column < i.span.stop := by
  have := List.length_pos_iff.mpr (Keyword.spelling_ne_nil i.mnemonic)
  simp only [span]
  exact Nat.lt_add_of_pos_right this

/-- The mnemonic begins with a letter. -/
theorem Instruction.letter_at_column {raw : Text} {i : Instruction}
    (h : i.span.extract raw = i.mnemonic.spelling) :
    ∃ c, raw[i.column]? = some c ∧ isBlank c = false ∧ c ≠ ':' := by
  have e : (i.span.extract raw)[0]? = raw[i.column]? := by
    rw [Span.extract, Text.getElem?_slice]
    exact if_pos i.lt_stop
  rw [h] at e
  cases hs : i.mnemonic.spelling with
  | nil => exact absurd hs (Keyword.spelling_ne_nil i.mnemonic)
  | cons c rest =>
    rw [hs] at e
    refine ⟨c, e.symm, i.mnemonic.not_isBlank_of_mem_spelling c ?_⟩
    rw [hs]
    exact List.mem_cons_self

theorem Instruction.declared?_take {raw : Text} {n : Nat}
    (hind : Text.indentation (raw.take n) = Text.indentation raw) :
    declared? (raw.take n) =
      (Line.declaringColon? raw n).map (Field.trimmed raw (Text.indentation raw)) := by
  unfold declared? Line.declaringColon?
  simp only [hind, Text.firstUnquoted?_take (by decide : ':' ≠ '\'')]
  cases firstUnquoted? ':' raw with
  | none => rfl
  | some colon =>
    by_cases hn : colon < n
    · rw [Option.filter_some, if_pos (decide_eq_true hn)]
      by_cases hi : Text.indentation raw < colon
      · simp [Option.filter_some, hi, hn, Field.trimmed_take raw (Nat.le_of_lt hn)]
      · simp [Option.filter_some, hi]
    · simp [Option.filter_some, hn]

theorem Instruction.fields_of_ofCode? {code : Text} {i : Instruction} (h : ofCode? code = some i) :
    i.before = Field.trimmed code (Text.indentation code) i.column ∧
      i.data = Field.trimmed code i.span.stop code.length ∧ i.declared = declared? code := by
  obtain ⟨⟨column, mnemonic⟩, -, rfl⟩ := Option.map_eq_some_iff.mp h
  exact ⟨rfl, rfl, rfl⟩

theorem Instruction.in_of_ofCode? {raw : Text} {n : Nat} (hn : n ≤ raw.length) {i : Instruction}
    (h : ofCode? (raw.take n) = some i) : i.In raw n := by
  have hlen : (raw.take n).length = n := List.length_take_of_le hn
  have written := extract_span h
  have hlt := i.lt_stop
  have hstop : i.span.stop ≤ n := by
    have e := congrArg List.length written
    rw [Span.length_extract, hlen] at e
    simp only [span] at e hlt ⊢
    omega
  obtain ⟨c, hc, hb, -⟩ := letter_at_column written
  have hle := (Text.blankBetween_indentation (raw.take n)).stop_le (Nat.zero_le _) hc hb
  have hind : Text.indentation (raw.take n) = Text.indentation raw :=
    Text.indentation_take (Text.indentation_lt_length_iff.mp (by omega))
  obtain ⟨hbefore, hdata, hdeclared⟩ := fields_of_ofCode? h
  rw [Span.extract_take raw hstop] at written
  rw [hind] at hle hbefore
  rw [hlen] at hdata
  refine ⟨hle, hstop, written, ?_, ?_, hdeclared.trans (declared?_take hind)⟩
  · rw [hbefore, Field.trimmed_take raw (by omega)]
    exact Field.cut_trimmed hle (by omega)
  · rw [hdata, Field.trimmed_take raw (Nat.le_refl n)]
    exact Field.cut_trimmed hstop hn

/-! ### Lines -/

namespace Line

/-- Where the code of a line ends: at the comment, or else at the end of the line. -/
def codeStop (raw : Text) : Nat := (firstUnquoted? ';' raw).getD raw.length

theorem codeStop_le (raw : Text) : codeStop raw ≤ raw.length := by
  unfold codeStop
  cases h : firstUnquoted? ';' raw with
  | none => exact Nat.le_refl _
  | some column =>
    exact Nat.le_of_lt ((Text.firstUnquoted?_eq_some_iff (by decide)).mp h).1.lt_length

theorem ofText_eq (raw : Text) (number : Nat) : ofText raw number =
    { raw, number
      content := contentOf (raw.take (codeStop raw)) (firstUnquoted? ';' raw).isSome
      comment := Field.trimmed raw (codeStop raw) raw.length } := by
  unfold ofText codeStop
  cases firstUnquoted? ';' raw with
  | none =>
    simp only [Option.getD_none, List.take_length, Option.isSome_none, Field.trimmed_self]
  | some column => rfl

/-- What a line whose code is `[0, n)` can hold. -/
inductive Anatomy (raw : Text) (n : Nat) : Content → Prop
  | blank (blank : BlankBetween raw 0 n) (uncommented : firstUnquoted? ';' raw = none) :
      Anatomy raw n .blank
  | comment (blank : BlankBetween raw 0 n) (commented : firstUnquoted? ';' raw = some n) :
      Anatomy raw n .comment
  | assignment {a : Assignment} (pieces : a.In raw n) : Anatomy raw n (.assignment a)
  | instruction {i : Instruction} (pieces : i.In raw n) : Anatomy raw n (.instruction i)
  | unrecognised : Anatomy raw n .unrecognised

theorem anatomy (raw : Text) (number : Nat) :
    Anatomy raw (codeStop raw) (ofText raw number).content := by
  have hn := codeStop_le raw
  rw [ofText_eq]
  simp only [contentOf]
  split
  case isTrue hblank =>
    have blank : BlankBetween raw 0 (codeStop raw) := by
      rw [Text.blankBetween_iff_slice, Text.slice, List.drop_zero]
      exact List.all_eq_true.mp hblank
    cases h : firstUnquoted? ';' raw with
    | none => exact Anatomy.blank blank h
    | some column =>
      refine Anatomy.comment blank ?_
      rw [h, codeStop, h]
      rfl
  case isFalse =>
    cases ha : Assignment.ofCode? (raw.take (codeStop raw)) with
    | some a => exact Anatomy.assignment (Assignment.in_of_ofCode? hn ha)
    | none =>
      cases hi : Instruction.ofCode? (raw.take (codeStop raw)) with
      | some i => exact Anatomy.instruction (Instruction.in_of_ofCode? hn hi)
      | none => exact Anatomy.unrecognised

theorem in_of_content {raw : Text} {number : Nat} {i : Instruction}
    (hc : (ofText raw number).content = .instruction i) : i.In raw (codeStop raw) := by
  have h := anatomy raw number
  rw [hc] at h
  cases h with
  | instruction pieces => exact pieces

theorem ofCode?_of_content {raw : Text} {number : Nat} {a : Assignment}
    (hc : (ofText raw number).content = .assignment a) :
    Assignment.ofCode? (raw.take (codeStop raw)) = some a := by
  rw [ofText_eq] at hc
  simp only [contentOf] at hc
  split at hc
  · split at hc <;> cases hc
  · split at hc
    case h_1 found =>
      cases hc
      exact found
    case h_2 => split at hc <;> cases hc

theorem cut_comment (raw : Text) (number : Nat) :
    Field.Cut raw (codeStop raw) raw.length (ofText raw number).comment := by
  rw [ofText_eq]
  exact Field.cut_trimmed (codeStop_le raw) (Nat.le_refl _)

/-! ### Kind, parts and gaps by content -/

theorem kind_eq_assignment_iff {line : Line} :
    line.kind = .assignment ↔ ∃ a, line.content = .assignment a := by
  unfold kind
  cases line.content with
  | instruction i => cases h : i.declared <;> simp [h]
  | _ => simp

theorem kind_eq_instruction_iff {line : Line} :
    line.kind = .instruction ↔ ∃ i, line.content = .instruction i ∧ i.declared = none := by
  unfold kind
  cases line.content with
  | instruction i => cases h : i.declared <;> simp [h]
  | _ => simp

theorem kind_eq_label_iff {line : Line} :
    line.kind = .label ↔
      ∃ i label, line.content = .instruction i ∧ i.declared = some label := by
  unfold kind
  cases line.content with
  | instruction i => cases h : i.declared <;> simp [h]
  | _ => simp

theorem exists_instruction_of_kind {line : Line}
    (hk : line.kind = .instruction ∨ line.kind = .label) :
    ∃ i, line.content = .instruction i := by
  rcases hk with hk | hk
  · obtain ⟨i, hc, -⟩ := kind_eq_instruction_iff.mp hk
    exact ⟨i, hc⟩
  · obtain ⟨i, -, hc, -⟩ := kind_eq_label_iff.mp hk
    exact ⟨i, hc⟩

theorem part_of_assignment {line : Line} {a : Assignment} (h : line.content = .assignment a) :
    line.part = fun
      | .variableName => a.variableName
      | .operator => a.operator
      | .value => a.value
      | .comment => line.comment
      | _ => Field.absent := by
  funext p
  cases p <;> simp [part, instruction?, assignment?, h]

theorem directive?_of_assignment {line : Line} {a : Assignment}
    (h : line.content = .assignment a) : line.directive? = some a.directive := by
  rw [directive?, part_of_assignment h]
  exact Keyword.parse?_spelling a.directive

theorem part_of_instruction {line : Line} {i : Instruction} (h : line.content = .instruction i) :
    line.part = fun
      | .label => i.label
      | .instruction => i.keyword
      | .data => i.data
      | .comment => line.comment
      | _ => Field.absent := by
  funext p
  cases p <;> simp [part, instruction?, assignment?, h]

/-- A line without an assignment and an instruction has no part but its comment. -/
theorem part_of_none {line : Line} (hi : line.instruction? = none) (ha : line.assignment? = none) :
    line.part = fun
      | .comment => line.comment
      | _ => Field.absent := by
  funext p
  cases p <;> simp [part, hi, ha]

theorem gaps_of_instruction {line : Line} {i : Instruction} (h : line.content = .instruction i) :
    line.gaps =
      { beforeLabel := ⟨0, Text.indentation line.raw⟩
        labelToInstruction :=
          if i.before.isAbsent then Span.none else ⟨i.before.span.stop, i.column⟩
        instructionToData :=
          if i.data.isAbsent then Span.none else ⟨i.span.stop, i.data.span.start⟩
        dataToComment :=
          if line.comment.isAbsent then Span.none else ⟨i.stop, line.comment.span.start⟩ } := by
  simp only [gaps, h]

theorem gaps_of_none {line : Line} (hi : line.instruction? = none) :
    line.gaps = ⟨line.gaps.beforeLabel, Span.none, Span.none, Span.none⟩ := by
  unfold instruction? at hi
  unfold gaps
  split at hi
  · cases hi
  · rfl

end Line
end AsmLens
