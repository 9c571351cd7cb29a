import AsmLens.Proofs.Hover.Word

/-!
# Which constants lie in their field

The constant at a column is taken from the field of that column, apart from one case. The open literal ends
where the field does, and a minus sign counts only if it is in the field. The word, however, is looked for
in the whole line. A field ends where a word ends, but a mnemonic need not, and data that follow it without
a blank begin in the middle of a word. The constant is then a number with the mnemonic among its
hexadecimal digits, and no part of the data has so large a value.

Results:
* `Cut.not_wordCharAt_stop`: no word runs on behind a field.
* `data_of_run_on`: a word that runs on into a field contains a mnemonic, right before data.
* `mnemonic_in_number`: a number with a mnemonic in it is large, and short behind the mnemonic.
* `constant_in_field_iff`: the values that are shown are those of a part of the field exactly if the word at
  the column begins in the field.
-/
namespace AsmLens
open AsmLens.Span (IsWord WordCharAt)
open Text (slice)

/-! ## The ends of fields -/

theorem Line.not_wordCharAt_codeStop (raw : Text) : ¬ WordCharAt raw (codeStop raw) := by
  intro hword
  unfold codeStop at hword
  cases h : Text.firstUnquoted? ';' raw with
  | none =>
    rw [h, Option.getD_none] at hword
    exact Nat.lt_irrefl _ hword.lt_length
  | some p =>
    rw [h, Option.getD_some, WordCharAt, ((Text.firstUnquoted?_eq_some_iff (by decide)).mp h).1.1]
      at hword
    cases hword

namespace Field
variable {raw : Text} {start stop column : Nat} {field : Field} {word : Span}

theorem Cut.not_wordCharAt_stop (h : Cut raw start stop field) (hp : field.isAbsent = false)
    (hstop : ¬ WordCharAt raw stop) : ¬ WordCharAt raw field.span.stop := by
  rcases Nat.lt_or_eq_of_le h.bounds.2 with hlt | e
  · exact (h.blank_after hp).not_wordCharAt (Nat.le_refl _) hlt
  · rwa [e]

/-- A word that runs on into the field leaves no room for blanks before it. -/
theorem Cut.start_eq_of_run_on (h : Cut raw start stop field) (hp : field.isAbsent = false)
    (isWord : IsWord raw word) (hstart : word.start < field.span.start)
    (hstop : field.span.start < word.stop) : field.span.start = start := by
  obtain ⟨hle, -⟩ := h.start_le hp
  refine Nat.le_antisymm (Nat.le_of_not_lt fun hlt => ?_) hle
  have hblank := h.blank_before.not_wordCharAt (Nat.le_sub_one_of_lt hlt) (by omega)
  exact hblank (isWord.inside _ (by omega) (by omega))

end Field

/-! ## A mnemonic in a number -/

theorem Mnemonic.isWordChar_of_mem_spelling (m : Mnemonic) :
    ∀ c ∈ m.spelling, Unicode.isWordChar c = true := by
  have h : m.spelling.all Unicode.isWordChar = true := by cases m <;> decide +kernel
  exact List.all_eq_true.mp h

theorem Mnemonic.exists_letter (m : Mnemonic) : ∃ c ∈ m.spelling, c ∉ "-0123456789".toList := by
  have h : (m.spelling.any fun c => !"-0123456789".toList.contains c) = true := by
    cases m <;> decide
  obtain ⟨c, hc, hletter⟩ := List.any_eq_true.mp h
  refine ⟨c, hc, fun hmem => ?_⟩
  rw [List.contains_iff_mem.mpr hmem] at hletter
  cases hletter

/-- A mnemonic that can be read as a hexadecimal number is a large one. -/
theorem Mnemonic.large_of_hexadecimal {m : Mnemonic}
    (h : m.spelling ⊆ "0123456789ABCDEFabcdef".toList) :
    3 ≤ m.spelling.length ∧ 100 ≤ Text.positional 16 m.spelling := by
  have hall : m.spelling.all "0123456789ABCDEFabcdef".toList.contains = true :=
    List.all_eq_true.mpr fun c hc => List.contains_iff_mem.mpr (h hc)
  have hlarge : m.spelling.all "0123456789ABCDEFabcdef".toList.contains = true →
      3 ≤ m.spelling.length ∧ 100 ≤ Text.positional 16 m.spelling := by cases m <;> decide
  exact hlarge hall

namespace Constant

/-- A number with a mnemonic in it is hexadecimal, so few characters follow the mnemonic, and they count
less than it does. -/
theorem mnemonic_in_number {m : Mnemonic} {before after : Text} {v : Int}
    (h : Spells (before ++ m.spelling ++ after) v) (hne : after ≠ []) :
    after.length ≤ 2 ∧ 100 ≤ v ∧ v < 65536 := by
  have hdrop : (before ++ m.spelling ++ after).dropLast = before ++ m.spelling ++ after.dropLast :=
    List.dropLast_append_of_ne_nil hne
  obtain ⟨c, hc, letter⟩ := m.exists_letter
  have hmem : c ∈ (before ++ m.spelling ++ after).dropLast := by
    rw [hdrop]
    exact List.mem_append_left _ (List.mem_append_right _ hc)
  obtain ⟨digits, suffix, e, few, all, rfl⟩ := hexadecimal_of_mem_dropLast h hmem letter
  have hdigits : digits = before ++ m.spelling ++ after.dropLast := by
    rw [← hdrop, e, List.dropLast_concat]
  have hsub : m.spelling ⊆ digits := by
    rw [hdigits]
    exact fun c hc => List.mem_append_left _ (List.mem_append_right _ hc)
  obtain ⟨hlength, hvalue⟩ := Mnemonic.large_of_hexadecimal (List.Subset.trans hsub all)
  have hle : Text.positional 16 _ ≤ Text.positional 16 _ :=
    Text.positional_infix_le (by decide) before m.spelling after.dropLast
  have hlt : Text.positional 16 digits < 16 ^ digits.length :=
    Text.positional_lt (by decide) (by decide) all
  have hpow := Nat.pow_le_pow_right (by decide : 0 < 16) few
  rw [← hdigits] at hle
  rw [hdigits] at few
  simp only [List.length_append, List.length_dropLast] at few
  refine ⟨by omega, by omega, by omega⟩

end Constant

namespace Hover
open Constant (evaluate)
open Line (ofText)

variable {raw : Text} {number column : Nat} {p : Part} {word part field span : Span}
  {values : List Int}

/-- A constant that begins with a character of a word is a number without a sign that ends with the word or
before. -/
theorem number_in_word (isWord : IsWord raw word) (contains : word.contains column = true)
    (hpart : part.contains column = true) (hstart : word.start ≤ part.start)
    (hstop : part.stop ≤ raw.length) (hvalue : evaluate (part.extract raw) = some values) :
    ∃ w, Constant.Spells (part.extract raw) w ∧ (part.extract raw).head? ≠ some '-' ∧
      values = [MachineWord.signed w] ∧ part.stop ≤ word.stop := by
  obtain ⟨-, h1⟩ := Span.contains_iff.mp contains
  obtain ⟨h2, h3⟩ := Span.contains_iff.mp hpart
  obtain ⟨c, hc, hchar⟩ := Span.wordCharAt_iff.mp (isWord.inside part.start hstart (by omega))
  have hhead : (part.extract raw).head? = some c := by
    rw [List.head?_eq_getElem?, Span.extract, Text.getElem?_slice, if_pos (by omega)]
    exact hc
  rcases Constant.evaluate_eq_some_iff.mp hvalue with ⟨w, hw, e⟩ | ⟨body, hbody, -⟩
  · have hspells := (Constant.spells_of_written? hw).1
    have unsigned : (part.extract raw).head? ≠ some '-' := by
      rw [hhead]
      rintro ⟨rfl⟩
      cases hchar
    have hall := Constant.isWordChar_of_spells hspells unsigned
    have hrun : ∀ k, part.start ≤ k → k < part.stop → WordCharAt raw k := by
      intro k hk1 hk2
      have hk := List.getElem?_eq_getElem (Nat.lt_of_lt_of_le hk2 hstop)
      exact Span.wordCharAt_iff.mpr ⟨_, hk, hall _ (Text.mem_slice_iff.mpr ⟨k, hk1, hk2, hk⟩)⟩
    exact ⟨w, hspells, unsigned, e, (isWord.covers contains h2 h3 hrun).2⟩
  · rw [Constant.literal?_eq_some_iff.mp hbody] at hhead
    obtain rfl := Option.some.inj hhead
    cases hchar

/-- No part of what follows a mnemonic in a number has the value of that number. -/
theorem evaluate_part_ne {m : Mnemonic} {start stop : Nat} (isWord : IsWord raw word)
    (contains : word.contains column = true) (hstart : word.start ≤ start) (hle : start ≤ stop)
    (hspelled : slice raw start stop = m.spelling)
    (hword : evaluate (word.extract raw) = some values) (hpart : part.contains column = true)
    (h1 : stop ≤ part.start) (h2 : part.stop ≤ raw.length) :
    evaluate (part.extract raw) ≠ some values := by
  intro hvalue
  obtain ⟨h3, h4⟩ := Span.contains_iff.mp contains
  obtain ⟨h5, h6⟩ := Span.contains_iff.mp hpart
  obtain ⟨v, hv, rfl⟩ := (Constant.evaluate_eq_some_iff_of_not_mem
    (not_mem_extract_of_isWord isWord)).mp hword
  have htext : word.extract raw =
      slice raw word.start start ++ m.spelling ++ slice raw stop word.stop := by
    rw [← hspelled, Text.slice_append_slice raw hstart hle,
      Text.slice_append_slice raw (by omega) (by omega)]
    rfl
  have hafter := Text.length_slice raw stop word.stop
  have hne : slice raw stop word.stop ≠ [] := by
    rw [← List.length_pos_iff]
    omega
  have hspells := (Constant.spells_of_written? hv).1
  rw [htext] at hspells
  obtain ⟨hshort, hlow, hhigh⟩ := Constant.mnemonic_in_number hspells hne
  -- the part is a number too, and as short as what follows the mnemonic
  obtain ⟨w, hpartSpells, unsigned, e, hstop⟩ :=
    number_in_word isWord contains hpart (by omega) h2 hvalue
  have hlength : (part.extract raw).length ≤ 2 := by
    rw [Span.length_extract]
    omega
  obtain ⟨h7, h8⟩ := Constant.spells_lt_hundred hpartSpells unsigned hlength
  have hsame := (List.cons.inj e).1
  simp only [MachineWord.signed, MachineWord.hasSignBit, MachineWord.signBit, MachineWord.modulus,
    beq_iff_eq] at hsame
  split at hsame <;> split at hsame <;> omega

/-! ## What is chosen -/

/-- What is chosen contains the column, and it is in the field if the word at the column begins there. -/
theorem Choice.within (h : Choice raw field column span) (hc : field.contains column = true)
    (after : ¬ WordCharAt raw field.stop)
    (begins : ∀ word, IsWord raw word → word.contains column = true → field.start ≤ word.start) :
    field.start ≤ span.start ∧ span.stop ≤ field.stop ∧ span.contains column = true := by
  obtain ⟨h1, h2⟩ := Span.contains_iff.mp hc
  have hstop : ∀ {word}, IsWord raw word → word.contains column = true → word.stop ≤ field.stop := by
    intro word isWord contains
    obtain ⟨h3, h4⟩ := Span.contains_iff.mp contains
    exact Nat.le_of_not_lt fun hlt => after (isWord.inside _ (by omega) hlt)
  cases h with
  | literal opened inside =>
    obtain ⟨-, hlt, hfree⟩ := Text.openingQuote?_eq_some_iff.mp opened
    obtain ⟨h3, h4⟩ := literalEnd_bounds hfree h2
    exact ⟨inside, h4, Span.contains_iff.mpr ⟨Nat.le_of_lt hlt, h3⟩⟩
  | whole => exact ⟨Nat.le_refl _, Nat.le_refl _, hc⟩
  | word outside plain found =>
    cases signedWordAt?_eq_some_iff.mp found with
    | negative isWord contains sign inside =>
      obtain ⟨h3, h4⟩ := Span.contains_iff.mp contains
      have h5 := hstop isWord contains
      exact ⟨inside, h5, Span.contains_iff.mpr ⟨Nat.le_of_lt h3, h4⟩⟩
    | plain isWord contains => exact ⟨begins _ isWord contains, hstop isWord contains, contains⟩

/-- Where the word at the column begins before the field, it is what is chosen. -/
theorem Choice.eq_word (h : Choice raw field column span) (hc : field.contains column = true)
    (isWord : IsWord raw word) (contains : word.contains column = true)
    (hlt : word.start < field.start) : span = word := by
  obtain ⟨h1, h2⟩ := Span.contains_iff.mp hc
  obtain ⟨h3, h4⟩ := Span.contains_iff.mp contains
  cases h with
  | literal opened inside =>
    obtain ⟨opens, hopen, -⟩ := Text.openingQuote?_eq_some_iff.mp opened
    have := not_between_of_quote isWord opens.quote
    omega
  | whole outside looks =>
    obtain ⟨body, -, hbody⟩ := looksLiteral_iff.mp looks
    have := not_between_of_quote isWord (getElem?_of_quoted hbody (Nat.succ_pos _))
    omega
  | word outside plain found =>
    cases signedWordAt?_eq_some_iff.mp found with
    | negative other hother sign inside =>
      have hstart := congrArg Span.start (other.unique isWord hother contains)
      simp only at hstart
      omega
    | plain other hother => exact other.unique isWord hother contains

/-! ## Words that run on -/

/-- No word runs on behind the data or a value. -/
theorem not_wordCharAt_stop (hp : p = .data ∨ p = .value)
    (hc : ((ofText raw number).part p).span.contains column = true) :
    ¬ WordCharAt raw ((ofText raw number).part p).span.stop := by
  have hpresent := isAbsent_of_contains hc
  have hcode := Line.not_wordCharAt_codeStop raw
  rcases hp with rfl | rfl
  · obtain ⟨i, -, hcut⟩ := exists_data_cut hc
    exact hcut.not_wordCharAt_stop hpresent hcode
  · obtain ⟨a, -, hcut⟩ := exists_value_cut hc
    exact hcut.not_wordCharAt_stop hpresent hcode

/-- A value has a blank before it, so no word runs on into it. -/
theorem value_start_le (hc : ((ofText raw number).part .value).span.contains column = true)
    (isWord : IsWord raw word) (contains : word.contains column = true) :
    ((ofText raw number).part .value).span.start ≤ word.start := by
  obtain ⟨h1, -⟩ := Span.contains_iff.mp hc
  obtain ⟨-, h2⟩ := Span.contains_iff.mp contains
  obtain ⟨a, ha, hcut⟩ := exists_value_cut hc
  obtain ⟨c, hblank, hb⟩ := (Assignment.fields_of_ofCode? (Line.ofCode?_of_content ha)).1
  refine Nat.le_of_not_lt fun hlt => ?_
  have hstart := hcut.start_eq_of_run_on (isAbsent_of_contains hc) isWord hlt (by omega)
  have hword := isWord.inside a.operator.span.stop (by omega) (by omega)
  rw [List.getElem?_take] at hblank
  split at hblank
  · rw [WordCharAt, hblank, Option.any_some, Unicode.not_wordChar_of_isBlank hb] at hword
    cases hword
  · cases hblank

/-- A word that runs on into data contains the mnemonic, which the data follow without a blank. -/
theorem data_of_run_on (hp : p = .data ∨ p = .value)
    (hc : ((ofText raw number).part p).span.contains column = true) (isWord : IsWord raw word)
    (contains : word.contains column = true)
    (hlt : word.start < ((ofText raw number).part p).span.start) :
    ∃ i, (ofText raw number).content = .instruction i ∧ p = .data ∧
      ((ofText raw number).part p).span.start = i.span.stop ∧ word.start ≤ i.column := by
  rcases hp with rfl | rfl
  · obtain ⟨h1, -⟩ := Span.contains_iff.mp hc
    obtain ⟨h2, h3⟩ := Span.contains_iff.mp contains
    obtain ⟨i, hi, hcut⟩ := exists_data_cut hc
    have hstart := hcut.start_eq_of_run_on (isAbsent_of_contains hc) isWord hlt (by omega)
    have hcolumn := i.lt_stop
    have hmnemonic := ((Line.in_of_content hi).keyword_on (Line.codeStop_le raw)).wordCharAt
      i.mnemonic.isWordChar_of_mem_spelling
    have hrun : ∀ k, i.column ≤ k → k < column + 1 → WordCharAt raw k := by
      intro k hk1 hk2
      rcases Nat.lt_or_ge k i.span.stop with hk | hk
      · exact hmnemonic k hk1 hk
      · exact isWord.inside k (by omega) (by omega)
    exact ⟨i, hi, rfl, hstart, (isWord.covers contains (by omega) (Nat.lt_succ_self _) hrun).1⟩
  · exact absurd (value_start_le hc isWord contains) (Nat.not_le_of_lt hlt)

/-! ## What is shown -/

/-- Where values are shown at a column of the data or of a value, some part of the field at the column has
just these values, if and only if the word at the column does not begin before the field. If it does,
then the field is data that follow the mnemonic without a blank, the word contains the mnemonic, and the
values are those of the word. -/
theorem constant_in_field_iff (raw : Text) (number : Nat) (manual : Manual) {p : Part}
    (hp : p = .data ∨ p = .value) {column : Nat} {values : List Int}
    (hc : ((ofText raw number).part p).span.contains column = true)
    (shown : at? (ofText raw number) column manual = some (renderings values)) :
    let line := ofText raw number
    let field := (line.part p).span
    let mnemonic := (line.part .instruction).span
    ((∃ part : Span, field.start ≤ part.start ∧ part.stop ≤ field.stop ∧ part.contains column = true ∧
          evaluate (part.extract raw) = some values) ↔
        ∀ word, IsWord raw word → word.contains column = true → field.start ≤ word.start) ∧
      ∀ word, IsWord raw word → word.contains column = true → word.start < field.start →
        p = .data ∧ field.start = mnemonic.stop ∧ word.start ≤ mnemonic.start ∧
          evaluate (word.extract raw) = some values := by
  intro line field mnemonic
  obtain ⟨-, hconstant⟩ := (at?_eq_renderings_iff hp hc).mp shown
  obtain ⟨-, chosen, hchosen, hvalue⟩ := constantAt?_eq_some_iff.mp hconstant
  have choice := choice_of_constantSpanAt? hchosen
  have runOn : ∀ word, IsWord raw word → word.contains column = true → word.start < field.start →
      evaluate (word.extract raw) = some values := fun word isWord contains hlt =>
    choice.eq_word hc isWord contains hlt ▸ hvalue
  refine ⟨⟨fun ⟨part, h1, h2, hpart, h3⟩ word isWord contains => Nat.le_of_not_lt fun hlt => ?_,
    fun begins => ?_⟩, fun word isWord contains hlt => ?_⟩
  · obtain ⟨i, hi, -, hstart, hle⟩ := data_of_run_on hp hc isWord contains hlt
    have hstop := (Line.part_on raw number (p := p) (by rcases hp with rfl | rfl <;> decide)).within.2
    exact evaluate_part_ne isWord contains hle (Nat.le_of_lt i.lt_stop) (Line.in_of_content hi).written
      (runOn word isWord contains hlt) hpart (hstart ▸ h1) (Nat.le_trans h2 hstop) h3
  · obtain ⟨h1, h2, h3⟩ := choice.within hc (not_wordCharAt_stop hp hc) begins
    exact ⟨chosen, h1, h2, h3, hvalue⟩
  · obtain ⟨i, hi, hdata, hstart, hle⟩ := data_of_run_on hp hc isWord contains hlt
    have hmnemonic : mnemonic = i.span := by
      show ((ofText raw number).part .instruction).span = i.span
      rw [Line.part_of_instruction hi]
      rfl
    rw [hmnemonic]
    exact ⟨hdata, hstart, hle, runOn word isWord contains hlt⟩

/-- A negative number in a value, and data that complete the mnemonic to a number. -/
theorem constant_in_field_iff_both_ways :
    (∃ part : Span, 6 ≤ part.start ∧ part.stop ≤ 9 ∧ part.contains 8 = true ∧
        evaluate (part.extract "X EQU -12") = some [-12]) ∧
      ¬ ∃ part : Span, 4 ≤ part.start ∧ part.stop ≤ 6 ∧ part.contains 4 = true ∧
        evaluate (part.extract " ADD5h") = some [-21035] := by
  have hvalue : ((ofText "X EQU -12" 0).part .value).span = ⟨6, 9⟩ := by decide
  have hdata : ((ofText " ADD5h" 0).part .data).span = ⟨4, 6⟩ := by decide
  obtain ⟨hin, -⟩ := constant_in_field_iff "X EQU -12" 0 Manual.empty (Or.inr rfl)
    (show _ = true by decide) (show at? _ 8 _ = some (renderings [-12]) by decide)
  obtain ⟨hout, -⟩ := constant_in_field_iff " ADD5h" 0 Manual.empty (Or.inl rfl)
    (show _ = true by decide) (show at? _ 4 _ = some (renderings [-21035]) by decide)
  rw [hvalue] at hin
  rw [hdata] at hout
  refine ⟨hin.mpr fun word isWord contains => ?_, fun h => ?_⟩
  · -- the sign is not in the word
    have hword : Span.wordAt? "X EQU -12" 8 = some ⟨7, 9⟩ := by decide
    rw [Span.wordAt?_eq_some_iff.mpr ⟨isWord, contains⟩, Option.some.injEq] at hword
    rw [hword]
    decide
  · obtain ⟨isWord, contains⟩ := Span.wordAt?_eq_some_iff.mp
      (show Span.wordAt? " ADD5h" 4 = some ⟨1, 6⟩ by decide)
    exact absurd (hout.mp h _ isWord contains) (by decide)

/-- The data of the line are one letter, and the number that is shown for them is no value of that letter
but of the mnemonic together with it. -/
theorem constant_of_mnemonic :
    let raw : Text := " ADDCh"
    let line := ofText raw 0
    line.part .data = ⟨"h", ⟨5, 6⟩⟩ ∧ at? line 5 Manual.empty = some (renderings [-21028]) ∧
      ∀ part : Span, 5 ≤ part.start → part.stop ≤ 6 → part.contains 5 = true →
        evaluate (part.extract raw) ≠ some [-21028] := by
  refine ⟨by decide, by decide, fun part h1 h2 hpart => ?_⟩
  obtain ⟨h3, h4⟩ := Span.contains_iff.mp hpart
  have hwhole : part = ⟨5, 6⟩ := by
    cases part
    simp only [Span.mk.injEq] at *
    omega
  rw [hwhole]
  decide

end Hover
end AsmLens
