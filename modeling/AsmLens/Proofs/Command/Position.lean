import AsmLens.Command.Options
import AsmLens.Proofs.Text.Blanks
import AsmLens.Proofs.Text.Written

/-!
# Positions as they are written

A number is one or more digits, with a plus sign before them or not and with blanks around. So what is
read is below the limit, and a position below the limit is read back from its plain form, in which both
numbers are written with digits alone.

The first colon of a text parts the line from the column; a second one belongs to the column and spoils it.
The parts are read from left to right, so a bad line part is reported even if the column part is bad, too.

* `readNumber_eq_ok_iff`: the numbers that are accepted.
* `parse_eq_iff`: the four ways in which the reading of a text can end.
* `parse_eq_ok_iff`: the positions that are accepted.
* `parse_display`: the positions that are written are read.
* `parse_outcomes`: which texts are accepted, and what the others are refused for.
-/
namespace AsmLens.Position
open Text (decimal numeral)

/-! ## Numbers -/

/-- The text is a number: digits with a plus sign before them or not. -/
def IsNumber (text digits : Text) : Prop :=
  (text = digits ∨ text = '+' :: digits) ∧ digits ≠ [] ∧ ∀ c ∈ digits, c.isDigit = true

theorem readDigits_zero_eq_ok_iff {digits : Text} {n : Nat} :
    readDigits 0 digits = .ok n ↔
      (∀ c ∈ digits, c.isDigit = true) ∧ n < limit ∧ n = numeral 10 digits :=
  readDigits_eq_ok_iff (by decide)

/-- With a plus sign there is one reading of a number, without it there is another. -/
theorem isNumber_plus_iff {rest digits : Text} :
    IsNumber ('+' :: rest) digits ↔
      digits = rest ∧ digits ≠ [] ∧ ∀ c ∈ digits, c.isDigit = true := by
  constructor
  · rintro ⟨rfl | h, hne, hall⟩
    · exact absurd (hall '+' (List.mem_cons_self ..)) (by decide)
    · cases h
      exact ⟨rfl, hne, hall⟩
  · rintro ⟨rfl, h⟩
    exact ⟨Or.inr rfl, h⟩

theorem isNumber_iff_of_ne_plus {text digits : Text} (h : ∀ rest, text ≠ '+' :: rest) :
    IsNumber text digits ↔ digits = text ∧ digits ≠ [] ∧ ∀ c ∈ digits, c.isDigit = true := by
  constructor
  · rintro ⟨rfl | hplus, hdigits⟩
    · exact ⟨rfl, hdigits⟩
    · exact absurd hplus (h _)
  · rintro ⟨rfl, hdigits⟩
    exact ⟨Or.inl rfl, hdigits⟩

/-- The text is a number below the limit, with blanks around it or not, and `n` is its value. -/
def Spells (text : Text) (n : Nat) : Prop :=
  ∃ digits, IsNumber (Text.trim text) digits ∧ n < limit ∧ n = numeral 10 digits

theorem readNumber_eq_ok_iff {text : Text} {n : Nat} : readNumber text = .ok n ↔ Spells text n := by
  unfold readNumber Spells
  split
  case h_1 htrim =>
    rw [htrim]
    simp [isNumber_iff_of_ne_plus]
  case h_2 htrim =>
    rw [htrim]
    simp [isNumber_plus_iff]
  case h_3 digits hdigits htrim =>
    have hdigits : digits ≠ [] := hdigits
    rw [readDigits_zero_eq_ok_iff, htrim]
    simp [isNumber_plus_iff, hdigits, and_assoc]
  case h_4 hnil hsign hplus =>
    rw [readDigits_zero_eq_ok_iff]
    have hne : Text.trim text ≠ [] := hnil
    simp [isNumber_iff_of_ne_plus hplus, hne, and_assoc]

/-! ## Positions -/

/-- Both numbers are below the limit. -/
def InRange (position : Position) : Prop := position.line < limit ∧ position.column < limit

/-- The position as it is written: both numbers with a colon between them. -/
def display (position : Position) : Text := decimal position.line ++ ":" ++ decimal position.column

theorem isDigit_of_mem_decimal {n : Nat} {c : Char} (h : c ∈ decimal n) : c.isDigit = true :=
  Nat.isDigit_of_mem_toDigits (by decide) (by decide) h

theorem isBlank_of_isDigit {c : Char} (h : c.isDigit = true) : Unicode.isBlank c = false := by
  simp only [Char.isDigit, Bool.and_eq_true, decide_eq_true_eq, ge_iff_le,
    UInt32.le_iff_toNat_le] at h
  have hlow : 48 ≤ c.toNat := h.1
  have hhigh : c.toNat ≤ 57 := h.2
  simp [Unicode.isBlank, Unicode.blankRanges, Unicode.inRanges]
  omega

theorem readNumber_decimal {n : Nat} (h : n < limit) : readNumber (decimal n) = .ok n := by
  have hdigits : ∀ c ∈ decimal n, c.isDigit = true := fun c hc => isDigit_of_mem_decimal hc
  have htrim := Text.trim_of_not_blank fun c hc => isBlank_of_isDigit (hdigits c hc)
  refine readNumber_eq_ok_iff.mpr ⟨decimal n, ⟨Or.inl htrim, ?_, hdigits⟩, h, ?_⟩
  · exact Nat.toDigits_ne_nil
  · exact (Text.numeral_toDigits (by decide) (by decide) n).symm

/-- The text is the line part, a colon and the column part, and that colon is its first one. -/
def Parted (text linePart columnPart : Text) : Prop :=
  text = linePart ++ ':' :: columnPart ∧ ':' ∉ linePart

theorem exists_parted {text : Text} (h : ':' ∈ text) :
    ∃ linePart columnPart, Parted text linePart columnPart := by
  obtain ⟨linePart, columnPart, hparts⟩ := List.eq_append_cons_of_mem h
  exact ⟨linePart, columnPart, hparts⟩

theorem parse_of_not_mem {text : Text} (h : ':' ∉ text) : parse text = .error (.noColon text) := by
  have hall : ∀ c ∈ text, (c != ':') = true := by
    intro c hc
    simpa using ne_of_mem_of_not_mem hc h
  have hdrop : (text ++ []).dropWhile (· != ':') = [] := List.dropWhile_append_of_pos hall
  rw [List.append_nil] at hdrop
  rw [parse, hdrop]

theorem parse_of_parted {text linePart columnPart : Text} (h : Parted text linePart columnPart) :
    parse text =
      match readNumber linePart, readNumber columnPart with
      | .error cause, _ => .error (.badLine linePart cause)
      | .ok _, .error cause => .error (.badColumn columnPart cause)
      | .ok line, .ok column => .ok ⟨line, column⟩ := by
  obtain ⟨rfl, hnone⟩ := h
  have hall : ∀ c ∈ linePart, (c != ':') = true := by
    intro c hc
    simpa using ne_of_mem_of_not_mem hc hnone
  have htake : (linePart ++ ':' :: columnPart).takeWhile (· != ':') = linePart := by
    rw [List.takeWhile_append_of_pos hall]
    exact List.append_nil _
  have hdrop : (linePart ++ ':' :: columnPart).dropWhile (· != ':') = ':' :: columnPart := by
    rw [List.dropWhile_append_of_pos hall]
    rfl
  simp only [parse, htake, hdrop]
  cases readNumber linePart with
  | error cause => rfl
  | ok line => cases readNumber columnPart <;> rfl

/-- How the reading of a text can end. The line part is read first, whatever the column part is. -/
inductive Outcome (text : Text) : Except PositionError Position → Prop
  | noColon (none : ':' ∉ text) : Outcome text (.error (.noColon text))
  | badLine {linePart columnPart : Text} {cause : NumberError}
      (parts : Parted text linePart columnPart) (line : readNumber linePart = .error cause) :
      Outcome text (.error (.badLine linePart cause))
  | badColumn {linePart columnPart : Text} {n : Nat} {cause : NumberError}
      (parts : Parted text linePart columnPart) (line : readNumber linePart = .ok n)
      (column : readNumber columnPart = .error cause) :
      Outcome text (.error (.badColumn columnPart cause))
  | position {linePart columnPart : Text} {position : Position}
      (parts : Parted text linePart columnPart) (line : readNumber linePart = .ok position.line)
      (column : readNumber columnPart = .ok position.column) : Outcome text (.ok position)

theorem outcome_parse (text : Text) : Outcome text (parse text) := by
  by_cases hmem : ':' ∈ text
  · obtain ⟨linePart, columnPart, parts⟩ := exists_parted hmem
    rw [parse_of_parted parts]
    cases hline : readNumber linePart with
    | error cause => exact Outcome.badLine parts hline
    | ok line =>
      cases hcolumn : readNumber columnPart with
      | error cause => exact Outcome.badColumn parts hline hcolumn
      | ok column => exact Outcome.position parts hline hcolumn
  · rw [parse_of_not_mem hmem]
    exact Outcome.noColon hmem

theorem parse_eq_iff {text : Text} {outcome : Except PositionError Position} :
    parse text = outcome ↔ Outcome text outcome := by
  constructor
  · intro h
    rw [← h]
    exact outcome_parse text
  · intro h
    cases h with
    | noColon none => exact parse_of_not_mem none
    | badLine parts line => rw [parse_of_parted parts, line]
    | badColumn parts line column => rw [parse_of_parted parts, line, column]
    | position parts line column => rw [parse_of_parted parts, line, column]

/-! ## The outcomes by what the parts spell -/

variable {text part : Text} {position : Position}

theorem readNumber_fails_iff : (∃ cause, readNumber text = .error cause) ↔ ∀ n, ¬ Spells text n := by
  simp only [← readNumber_eq_ok_iff]
  cases readNumber text <;> simp

/-- A position is two numbers, parted at the first colon. -/
theorem parse_eq_ok_iff :
    parse text = .ok position ↔
      ∃ linePart columnPart, Parted text linePart columnPart ∧ Spells linePart position.line ∧
        Spells columnPart position.column := by
  rw [parse_eq_iff]
  constructor
  · intro h
    cases h with
    | position parts line column =>
      exact ⟨_, _, parts, readNumber_eq_ok_iff.mp line, readNumber_eq_ok_iff.mp column⟩
  · intro h
    obtain ⟨linePart, columnPart, parts, line, column⟩ := h
    exact Outcome.position parts (readNumber_eq_ok_iff.mpr line) (readNumber_eq_ok_iff.mpr column)

theorem parse_eq_noColon_iff {shown : Text} :
    parse text = .error (.noColon shown) ↔ shown = text ∧ ':' ∉ text := by
  rw [parse_eq_iff]
  constructor
  · intro h
    cases h with
    | noColon none => exact ⟨rfl, none⟩
  · intro h
    rw [h.1]
    exact Outcome.noColon h.2

theorem parse_fails_at_line_iff :
    (∃ cause, parse text = .error (.badLine part cause)) ↔
      ∃ columnPart, Parted text part columnPart ∧ ∀ n, ¬ Spells part n := by
  simp only [parse_eq_iff, ← readNumber_fails_iff]
  constructor
  · intro h
    obtain ⟨cause, outcome⟩ := h
    cases outcome with
    | badLine parts line => exact ⟨_, parts, cause, line⟩
  · intro h
    obtain ⟨columnPart, parts, cause, line⟩ := h
    exact ⟨cause, Outcome.badLine parts line⟩

theorem parse_fails_at_column_iff :
    (∃ cause, parse text = .error (.badColumn part cause)) ↔
      ∃ linePart, Parted text linePart part ∧ (∃ n, Spells linePart n) ∧ ∀ n, ¬ Spells part n := by
  simp only [parse_eq_iff, ← readNumber_fails_iff]
  constructor
  · intro h
    obtain ⟨cause, outcome⟩ := h
    cases outcome with
    | badColumn parts line column =>
      exact ⟨_, parts, ⟨_, readNumber_eq_ok_iff.mp line⟩, cause, column⟩
  · intro h
    obtain ⟨linePart, parts, ⟨n, line⟩, cause, column⟩ := h
    exact ⟨cause, Outcome.badColumn parts (readNumber_eq_ok_iff.mpr line) column⟩

/-! ## Positions as they are written -/

/-- What is written is read. -/
theorem parse_display (h : position.InRange) : parse position.display = .ok position := by
  have hline := readNumber_eq_ok_iff.mp (readNumber_decimal h.1)
  have hcolumn := readNumber_eq_ok_iff.mp (readNumber_decimal h.2)
  refine parse_eq_ok_iff.mpr ⟨_, _, ⟨List.append_assoc .., ?_⟩, hline, hcolumn⟩
  intro hmem
  have hdigit := isDigit_of_mem_decimal hmem
  cases hdigit

/-- A text is a position exactly if it has a colon and the parts before and behind its first one are
numbers. A text without a colon is refused for that, one with a bad line part for its line part, and any
other for its column part; the reason holds the part as it is written. What is written in plain digits is
read. -/
theorem parse_outcomes :
    (∀ text position, parse text = .ok position ↔
        ∃ linePart columnPart, Parted text linePart columnPart ∧ Spells linePart position.line ∧
          Spells columnPart position.column) ∧
      (∀ text shown, parse text = .error (.noColon shown) ↔ shown = text ∧ ':' ∉ text) ∧
      (∀ text part, (∃ cause, parse text = .error (.badLine part cause)) ↔
        ∃ columnPart, Parted text part columnPart ∧ ∀ n, ¬ Spells part n) ∧
      (∀ text part, (∃ cause, parse text = .error (.badColumn part cause)) ↔
        ∃ linePart, Parted text linePart part ∧ (∃ n, Spells linePart n) ∧ ∀ n, ¬ Spells part n) ∧
      ∀ line column, line < limit → column < limit →
        parse (decimal line ++ ":" ++ decimal column) = .ok ⟨line, column⟩ := by
  refine ⟨fun _ _ => parse_eq_ok_iff, fun _ _ => parse_eq_noColon_iff,
    fun _ _ => parse_fails_at_line_iff, fun _ _ => parse_fails_at_column_iff, ?_⟩
  intro line column hline hcolumn
  have hrange : InRange ⟨line, column⟩ := ⟨hline, hcolumn⟩
  exact parse_display hrange

/-- Blanks, a plus sign and leading zeros; a line part that is below zero; a second colon, which belongs
to the column part; and the greatest column. -/
theorem parse_outcomes_by_part :
    parse " +007 :\t4" = .ok ⟨7, 4⟩ ∧ (∃ cause, parse "-1:2:3" = .error (.badLine "-1" cause)) ∧
      (∃ cause, parse "1:2:3" = .error (.badColumn "2:3" cause)) ∧
      (0 < limit ∧ limit - 1 < limit ∧
        parse (decimal 0 ++ ":" ++ decimal (limit - 1)) = .ok ⟨0, limit - 1⟩) := by
  obtain ⟨accepted, -, line, column, written⟩ := parse_outcomes
  have hseven : Spells " +007 " 7 :=
    ⟨"007", ⟨Or.inr (by decide), by decide, List.all_eq_true.mp (by decide)⟩, by decide, rfl⟩
  have hfour : Spells "\t4" 4 :=
    ⟨"4", ⟨Or.inl (by decide), by decide, List.all_eq_true.mp (by decide)⟩, by decide, rfl⟩
  have hone : Spells "1" 1 :=
    ⟨"1", ⟨Or.inl (by decide), by decide, List.all_eq_true.mp (by decide)⟩, by decide, rfl⟩
  have hminus : ∀ n, ¬ Spells "-1" n := readNumber_fails_iff.mp ⟨.invalidDigit, rfl⟩
  have hcolon : ∀ n, ¬ Spells "2:3" n := readNumber_fails_iff.mp ⟨.invalidDigit, rfl⟩
  refine ⟨?_, ?_, ?_, by decide, by decide, written 0 (limit - 1) (by decide) (by decide)⟩
  · exact (accepted _ _).mpr ⟨" +007 ", "\t4", ⟨by decide, by decide⟩, hseven, hfour⟩
  · exact (line _ _).mpr ⟨"2:3", ⟨by decide, by decide⟩, hminus⟩
  · exact (column _ _).mpr ⟨"1", ⟨by decide, by decide⟩, ⟨1, hone⟩, hcolon⟩

end AsmLens.Position
