import AsmLens.Proofs.Constant.Language
import AsmLens.Proofs.Line.Kinds
import AsmLens.Query

/-!
# Hover text in a field

What is shown at a column of the data or of the value of an assignment, in terms of the constant that is
chosen there, and all of it for the columns of a literal.

Results:
* `at?_of_contains`: the text at a column of a field, in terms of the register and the constant there.
* `at?_eq_renderings_iff`: values are shown exactly where no register is described and the constant
  has these values.
* `choice_of_constantSpanAt?`: the piece of the line that was chosen for the constant.
* `literalEnd_of_isLiteral`, `literalEnd_of_quoteFree`: where a literal ends in its field.
* `constantAt?_of_isLiteral`, `constantAt?_of_unclosed`: the constant at the columns of a literal.
* `literal_shown`: what is shown there.
-/
namespace AsmLens.Hover
open Constant (Rendering evaluate)
open Line (ofText)

/-!
## The choice of a constant

The data of an instruction and the value of an assignment are the two fields with constants in them. At a
column of either, hover text is that of a described register or else that of a constant. The paragraphs
alone tell which: those on a register begin with the word for it, and those on a constant with its value.
So what is shown as a list of values is the constant that was chosen at the column.

The constant is chosen in one of three ways, of which `Choice` lists the conditions.
-/

/-! ### What is shown -/

/-- The values in every notation, one paragraph for each. -/
def renderings (values : List Int) : List Text :=
  values.map fun value => (Rendering.ofValue value).paragraph

theorem renderings_inj {values others : List Int} :
    renderings values = renderings others ↔ values = others :=
  List.map_inj_right fun _ _ => Constant.paragraph_injective

/-- The manual describes no register of the data at the column. -/
def NoRegisterAt (line : Line) (column : Nat) (manual : Manual) : Prop :=
  ∀ register ∈ line.registers, register.span.contains column = true →
    manual.register? register.text = none

section
variable {line : Line} {column : Nat} {manual : Manual}

theorem registerEntryAt?_eq_none_iff :
    registerEntryAt? line column manual = none ↔ NoRegisterAt line column manual := by
  simp [registerEntryAt?, NoRegisterAt, List.findSome?_eq_none_iff]

/-- What is said of a register is nothing that is said of values. -/
theorem paragraphs_ne_renderings (entry : Manual.RegisterEntry) (values : List Int) :
    entry.paragraphs ≠ renderings values := by
  intro e
  cases values with
  | nil => cases e
  | cons value rest =>
    obtain ⟨text, htext⟩ := Constant.exists_paragraph value
    have hhead : some 'R' = (Rendering.ofValue value).paragraph.head? :=
      congrArg List.head? (List.cons.inj e).1
    rw [htext] at hhead
    cases hhead

end

/-! ### Which field the column is in -/

variable {raw : Text} {number column : Nat} {manual : Manual} {p : Part} {values : List Int}

theorem isAbsent_of_contains (hc : ((ofText raw number).part p).span.contains column = true) :
    ((ofText raw number).part p).isAbsent = false := by
  refine List.isEmpty_eq_false_iff.mpr fun hnil => ?_
  rw [(Line.part_marked raw number p).mp hnil] at hc
  cases (Span.not_contains_of_isEmpty rfl column).symm.trans hc

theorem not_contains_absent (column : Nat) : Field.absent.span.contains column = false :=
  Span.not_contains_of_isEmpty rfl column

/-- Data are cut from the code behind the mnemonic. -/
theorem exists_data_cut (hc : ((ofText raw number).part .data).span.contains column = true) :
    ∃ i, (ofText raw number).content = .instruction i ∧
      Field.Cut raw i.span.stop (Line.codeStop raw) ((ofText raw number).part .data) := by
  obtain ⟨i, hi⟩ := Line.exists_instruction (Or.inr (Or.inr rfl)) (isAbsent_of_contains hc)
  refine ⟨i, hi, ?_⟩
  rw [Line.part_of_instruction hi]
  exact (Line.in_of_content hi).data

/-- A value is cut from the code behind the directive. -/
theorem exists_value_cut (hc : ((ofText raw number).part .value).span.contains column = true) :
    ∃ a, (ofText raw number).content = .assignment a ∧
      Field.Cut raw a.operator.span.stop (Line.codeStop raw) ((ofText raw number).part .value) := by
  obtain ⟨a, ha⟩ := Line.exists_assignment (Or.inr (Or.inr rfl)) (isAbsent_of_contains hc)
  refine ⟨a, ha, ?_⟩
  rw [Line.part_of_assignment ha]
  exact (Assignment.in_of_ofCode? (Line.codeStop_le raw) (Line.ofCode?_of_content ha)).value

/-- At a column of the data or of a value there is no mnemonic. -/
theorem not_contains_instruction (hp : p = .data ∨ p = .value)
    (hc : ((ofText raw number).part p).span.contains column = true) :
    ((ofText raw number).part .instruction).span.contains column = false := by
  rcases hp with rfl | rfl
  · obtain ⟨i, hi, hcut⟩ := exists_data_cut hc
    have hstart := (hcut.start_le (isAbsent_of_contains hc)).1
    have hcolumn := (Span.contains_iff.mp hc).1
    have hinstruction : (ofText raw number).part .instruction = i.keyword := by
      rw [Line.part_of_instruction hi]
    rw [hinstruction, Bool.eq_false_iff, ne_eq, Span.contains_iff]
    intro h
    have hstop : column < i.span.stop := h.2
    omega
  · obtain ⟨a, ha, -⟩ := exists_value_cut hc
    rw [Line.part_of_assignment ha]
    exact not_contains_absent column

/-- At a column of a value there are no data. -/
theorem not_contains_data (manual : Manual)
    (hc : ((ofText raw number).part .value).span.contains column = true) :
    ((ofText raw number).part .data).span.contains column = false ∧
      registerEntryAt? (ofText raw number) column manual = none := by
  obtain ⟨a, ha, -⟩ := exists_value_cut hc
  have hdata : (ofText raw number).part .data = Field.absent := by rw [Line.part_of_assignment ha]
  constructor
  · rw [hdata]
    exact not_contains_absent column
  · rw [registerEntryAt?_eq_none_iff, NoRegisterAt, Line.registers, hdata]
    intro register hregister
    cases hregister

/-- At a column of the data or of a value, a described register is shown, or else the constant. -/
theorem at?_of_contains (hp : p = .data ∨ p = .value)
    (hc : ((ofText raw number).part p).span.contains column = true) :
    at? (ofText raw number) column manual =
      match registerEntryAt? (ofText raw number) column manual with
      | some entry => some entry.paragraphs
      | none => (constantAt? raw ((ofText raw number).part p).span column).map renderings := by
  have hinstruction := not_contains_instruction hp hc
  unfold at?
  simp only [hinstruction, Bool.false_eq_true, if_false, Line.raw_ofText]
  rcases hp with rfl | rfl
  · rw [if_pos hc]
    rfl
  · obtain ⟨hdata, hregister⟩ := not_contains_data manual hc
    rw [hdata, if_neg Bool.false_ne_true, if_pos hc, hregister]
    rfl

theorem at?_of_noRegisterAt (hp : p = .data ∨ p = .value)
    (hc : ((ofText raw number).part p).span.contains column = true)
    (hno : NoRegisterAt (ofText raw number) column manual) :
    at? (ofText raw number) column manual =
      (constantAt? raw ((ofText raw number).part p).span column).map renderings := by
  rw [at?_of_contains hp hc, registerEntryAt?_eq_none_iff.mpr hno]

theorem at?_eq_renderings_iff (hp : p = .data ∨ p = .value)
    (hc : ((ofText raw number).part p).span.contains column = true) :
    at? (ofText raw number) column manual = some (renderings values) ↔
      NoRegisterAt (ofText raw number) column manual ∧
        constantAt? raw ((ofText raw number).part p).span column = some values := by
  rw [at?_of_contains hp hc, ← registerEntryAt?_eq_none_iff]
  cases registerEntryAt? (ofText raw number) column manual with
  | some entry => simp [paragraphs_ne_renderings]
  | none => simp [renderings_inj]

/-! ### How the constant is chosen -/

variable {field span : Span}

/-- The piece of the line that is chosen for the constant at a column of the field: the open literal, if
it opens in the field; else the field, if it looks like a literal; else the word, with its sign. -/
inductive Choice (raw : Text) (field : Span) (column : Nat) : Span → Prop
  | literal {o : Nat} (opened : Text.openingQuote? raw column = some o) (inside : field.start ≤ o) :
    Choice raw field column ⟨o, literalEnd raw field o⟩
  | whole (outside : ∀ o, Text.openingQuote? raw column = some o → o < field.start)
      (looks : looksLiteral (field.extract raw) = true) : Choice raw field column field
  | word {span : Span} (outside : ∀ o, Text.openingQuote? raw column = some o → o < field.start)
      (plain : looksLiteral (field.extract raw) = false)
      (found : signedWordAt? raw field column = some span) : Choice raw field column span

theorem constantSpanAt?_of_opening {o : Nat} (opened : Text.openingQuote? raw column = some o)
    (inside : field.start ≤ o) :
    constantSpanAt? raw field column = some ⟨o, literalEnd raw field o⟩ := by
  simp only [constantSpanAt?, opened, if_pos inside]

theorem constantSpanAt?_of_outside
    (outside : ∀ o, Text.openingQuote? raw column = some o → o < field.start) :
    constantSpanAt? raw field column =
      if looksLiteral (field.extract raw) then some field else signedWordAt? raw field column := by
  unfold constantSpanAt?
  cases hopen : Text.openingQuote? raw column with
  | none => rfl
  | some o =>
    have hlt := outside o hopen
    simp only [if_neg (Nat.not_le_of_lt hlt)]

theorem choice_of_constantSpanAt? (h : constantSpanAt? raw field column = some span) :
    Choice raw field column span := by
  by_cases hopen : ∃ o, Text.openingQuote? raw column = some o ∧ field.start ≤ o
  · obtain ⟨o, opened, inside⟩ := hopen
    rw [constantSpanAt?_of_opening opened inside] at h
    cases h
    exact Choice.literal opened inside
  · have outside : ∀ o, Text.openingQuote? raw column = some o → o < field.start :=
      fun o ho => Nat.lt_of_not_le fun hle => hopen ⟨o, ho, hle⟩
    rw [constantSpanAt?_of_outside outside] at h
    split at h
    case isTrue looks =>
      cases h
      exact Choice.whole outside looks
    case isFalse plain => exact Choice.word outside (Bool.eq_false_iff.mpr plain) h

theorem constantAt?_eq (raw : Text) (field : Span) (column : Nat) :
    constantAt? raw field column =
      ((constantSpanAt? raw field column).bind fun span => evaluate (span.extract raw)).filter
        fun values => !values.isEmpty := by
  unfold constantAt?
  cases constantSpanAt? raw field column with
  | none => rfl
  | some span =>
    simp only [Option.bind_eq_bind, Option.bind_some]
    cases evaluate (span.extract raw) with
    | none => rfl
    | some values => cases values <;> rfl

theorem constantAt?_eq_some_iff : constantAt? raw field column = some values ↔
    values ≠ [] ∧ ∃ span, constantSpanAt? raw field column = some span ∧
      evaluate (span.extract raw) = some values := by
  rw [constantAt?_eq, Option.filter_eq_some_iff, Option.bind_eq_some_iff, and_comm]
  simp

/-!
## Literals

At every column behind the opening quote of a literal, up to and including its closing quote, hover shows
the same: the characters between the quotes, one after the other. The quote that is open at the column and
the first quote that follows it in the field are just these two. A literal with nothing between its quotes
has no values to show, and one that is not closed in its field is no constant.
-/

open Text (slice slice_succ Opens IsLiteral QuoteFree)

variable {o c : Nat}

/-! ### Where a literal ends -/

theorem findIdx?_slice_eq_some_iff {start stop k : Nat} :
    (slice raw start stop).findIdx? (· == '\'') = some k ↔
      (start + k < stop ∧ raw[start + k]? = some '\'') ∧ QuoteFree raw start (start + k) := by
  have hquote : ∀ j, j ≤ k → start + k < stop → ((slice raw start stop)[j]? = some '\'' ↔
      raw[start + j]? = some '\'') := fun j hj hk => by
    rw [Text.getElem?_slice, if_pos (by omega)]
  rw [List.findIdx?_eq_some_iff_getElem]
  constructor
  · intro ⟨hk, hat, hbefore⟩
    have hlen := Text.length_slice raw start stop
    have hstop : start + k < stop := by omega
    have hhere : (slice raw start stop)[k]? = some '\'' := by
      rw [List.getElem?_eq_getElem hk, eq_of_beq hat]
    refine ⟨⟨hstop, (hquote k (Nat.le_refl k) hstop).mp hhere⟩, fun q h1 h2 hq => ?_⟩
    obtain ⟨j, rfl⟩ := Nat.exists_eq_add_of_le h1
    obtain ⟨hj, e⟩ := List.getElem?_eq_some_iff.mp ((hquote j (by omega) hstop).mpr hq)
    exact hbefore j (by omega) (beq_iff_eq.mpr e)
  · intro ⟨⟨hstop, hat⟩, hbefore⟩
    obtain ⟨hk, e⟩ := List.getElem?_eq_some_iff.mp ((hquote k (Nat.le_refl k) hstop).mpr hat)
    refine ⟨hk, beq_iff_eq.mpr e, fun j hj hquoted => ?_⟩
    have hhere := List.getElem?_eq_some_iff.mpr ⟨by omega, eq_of_beq hquoted⟩
    exact hbefore (start + j) (Nat.le_add_right start j) (by omega)
      ((hquote j (Nat.le_of_lt hj) hstop).mp hhere)

theorem findIdx?_slice_eq_none_iff {start stop : Nat} :
    (slice raw start stop).findIdx? (· == '\'') = none ↔ QuoteFree raw start stop := by
  rw [List.findIdx?_eq_none_iff]
  constructor
  · intro h q h1 h2 hq
    have := h '\'' (Text.mem_slice_iff.mpr ⟨q, h1, h2, hq⟩)
    cases this
  · intro h ch hch
    obtain ⟨q, h1, h2, hq⟩ := Text.mem_slice_iff.mp hch
    rw [beq_eq_false_iff_ne]
    intro e
    exact h q h1 h2 (e ▸ hq)

theorem literalEnd_of_isLiteral (h : IsLiteral raw o c) (hc : c < field.stop) :
    literalEnd raw field o = c + 1 := by
  have hlt := h.lt
  have hoffset : o + 1 + (c - (o + 1)) = c := by omega
  have hfind : (slice raw (o + 1) field.stop).findIdx? (· == '\'') = some (c - (o + 1)) := by
    rw [findIdx?_slice_eq_some_iff, hoffset]
    exact ⟨⟨hc, h.closing⟩, h.body⟩
  rw [literalEnd, hfind]
  exact congrArg (· + 1) hoffset

theorem literalEnd_of_quoteFree (h : QuoteFree raw (o + 1) field.stop) :
    literalEnd raw field o = field.stop := by
  rw [literalEnd, findIdx?_slice_eq_none_iff.mpr h]

/-- A literal that is open at a column of its field ends behind that column, in the field. -/
theorem literalEnd_bounds {o : Nat} (hfree : QuoteFree raw (o + 1) column)
    (hc : column < field.stop) :
    column < literalEnd raw field o ∧ literalEnd raw field o ≤ field.stop := by
  unfold literalEnd
  cases h : (slice raw (o + 1) field.stop).findIdx? (· == '\'') with
  | none => exact ⟨hc, Nat.le_refl _⟩
  | some k =>
    obtain ⟨⟨hlt, hquote⟩, -⟩ := findIdx?_slice_eq_some_iff.mp h
    have hle : column ≤ o + 1 + k :=
      Nat.le_of_not_lt fun hk => hfree _ (Nat.le_add_right _ _) hk hquote
    exact ⟨Nat.lt_succ_of_le hle, hlt⟩

/-! ### The constant that it is -/

theorem extract_literal (h : IsLiteral raw o c) :
    (⟨o, c + 1⟩ : Span).extract raw = '\'' :: slice raw (o + 1) c ++ ['\''] := by
  have hlt := h.lt
  have hopening : slice raw o (o + 1) = ['\''] := by rw [slice_succ, h.quote, Option.toList_some]
  have hclosing : slice raw c (c + 1) = ['\''] := by rw [slice_succ, h.closing, Option.toList_some]
  calc slice raw o (c + 1)
      = slice raw o (o + 1) ++ slice raw (o + 1) (c + 1) :=
        (Text.slice_append_slice raw (by omega) (by omega)).symm
    _ = slice raw o (o + 1) ++ (slice raw (o + 1) c ++ slice raw c (c + 1)) := by
        rw [Text.slice_append_slice raw (show o + 1 ≤ c by omega) (Nat.le_succ c)]
    _ = '\'' :: slice raw (o + 1) c ++ ['\''] := by rw [hopening, hclosing]; rfl

/-- The codes of the characters from column `start` up to but not including column `stop`. -/
def codes (raw : Text) (start stop : Nat) : List Int :=
  (slice raw start stop).map fun ch => (ch.toNat : Int)

theorem codes_isEmpty_iff (h : IsLiteral raw o c) :
    (codes raw (o + 1) c).isEmpty = true ↔ c = o + 1 := by
  have hlt := h.lt
  have hlen := (List.getElem?_eq_some_iff.mp h.closing).1
  rw [List.isEmpty_iff, ← List.length_eq_zero_iff, codes, List.length_map, Text.length_slice]
  omega

theorem constantAt?_of_isLiteral (h : IsLiteral raw o c) (ho : field.start ≤ o)
    (hc : c < field.stop) (h1 : o < column) (h2 : column ≤ c) :
    constantAt? raw field column = if c = o + 1 then none else some (codes raw (o + 1) c) := by
  rw [constantAt?_eq, constantSpanAt?_of_opening (h.openingQuote?_eq h1 h2) ho,
    literalEnd_of_isLiteral h hc, Option.bind_some, extract_literal h, Constant.evaluate_quoted,
    ← codes, Option.filter_some]
  by_cases hempty : c = o + 1
  · rw [if_pos hempty, (codes_isEmpty_iff h).mpr hempty]
    rfl
  · rw [if_neg hempty, Bool.eq_false_iff.mpr (mt (codes_isEmpty_iff h).mp hempty)]
    rfl

/-- A text that begins with a quote and has no other one is no constant. -/
theorem evaluate_unclosed {body : Text} (h : '\'' ∉ body) : evaluate ('\'' :: body) = none := by
  rcases List.eq_nil_or_concat' body with rfl | ⟨start, last, rfl⟩
  · decide
  · have hlast : last ≠ '\'' := fun e => h (by simp [e])
    rw [← List.cons_append]
    exact Constant.evaluate_concat_eq_none hlast (Constant.written?_quote start last)

theorem constantAt?_of_unclosed (h : Opens raw o) (hfree : QuoteFree raw (o + 1) field.stop)
    (ho : field.start ≤ o) (h1 : o < column) (h2 : column < field.stop) :
    constantAt? raw field column = none := by
  have hopen : Text.openingQuote? raw column = some o :=
    Text.openingQuote?_eq_some_iff.mpr ⟨h, h1, fun q hq1 hq2 => hfree q hq1 (by omega)⟩
  have hbody : '\'' ∉ slice raw (o + 1) field.stop := fun hmem => by
    obtain ⟨q, hq1, hq2, hq⟩ := Text.mem_slice_iff.mp hmem
    exact hfree q hq1 hq2 hq
  have hextract : (⟨o, field.stop⟩ : Span).extract raw = '\'' :: slice raw (o + 1) field.stop := by
    rw [Span.extract, ← Text.slice_append_slice raw (show o ≤ o + 1 by omega)
      (show o + 1 ≤ field.stop by omega), slice_succ, h.quote]
    rfl
  rw [constantAt?_eq, constantSpanAt?_of_opening hopen ho, literalEnd_of_quoteFree hfree,
    Option.bind_some, hextract, evaluate_unclosed hbody]
  rfl

/-! ### What is shown -/

/-- At each column behind the opening quote of a literal that lies in the data or in the value, up to and
including its closing quote, the characters between the quotes are shown, and nothing if there are none.
Behind the opening quote of a literal that is not closed in its field, nothing is shown. Both hold where
the manual describes no register of the data. -/
theorem literal_shown (raw : Text) (number : Nat) (manual : Manual) {p : Part}
    (hp : p = .data ∨ p = .value) :
    let line := ofText raw number
    let field := (line.part p).span
    (∀ o c column, IsLiteral raw o c → field.contains o = true → field.contains c = true →
        o < column → column ≤ c → NoRegisterAt line column manual →
        at? line column manual =
          if c = o + 1 then none
          else some (renderings ((slice raw (o + 1) c).map fun ch => (ch.toNat : Int)))) ∧
      (∀ o column, Opens raw o → field.start ≤ o → QuoteFree raw (o + 1) field.stop →
        o < column → field.contains column = true → NoRegisterAt line column manual →
        at? line column manual = none) := by
  intro line field
  constructor
  · intro o c column h ho hc h1 h2 hno
    obtain ⟨hstart, -⟩ := Span.contains_iff.mp ho
    obtain ⟨-, hstop⟩ := Span.contains_iff.mp hc
    have hcolumn : field.contains column = true := Span.contains_iff.mpr ⟨by omega, by omega⟩
    rw [at?_of_noRegisterAt hp hcolumn hno, constantAt?_of_isLiteral h hstart hstop h1 h2]
    split <;> rfl
  · intro o column h ho hfree h1 hcolumn hno
    have hstop := (Span.contains_iff.mp hcolumn).2
    rw [at?_of_noRegisterAt hp hcolumn hno, constantAt?_of_unclosed h hfree ho h1 hstop]
    rfl

/-- A value with a literal of two characters, an empty one, and one that is never closed. -/
theorem literal_shown_of_three :
    let raw : Text := "Mé STR 'é;', '', 'x"
    let line := ofText raw 0
    at? line 10 Manual.empty = some (renderings [233, 59]) ∧ at? line 14 Manual.empty = none ∧
      at? line 18 Manual.empty = none := by
  intro raw line
  have hno : ∀ column, NoRegisterAt line column Manual.empty := fun _ _ _ _ => rfl
  obtain ⟨hclosed, hopen⟩ :=
    literal_shown "Mé STR 'é;', '', 'x" 0 Manual.empty (p := .value) (Or.inr rfl)
  have hfirst : IsLiteral raw 7 10 := ⟨⟨by decide, by decide⟩, by decide, by decide, by decide⟩
  have hempty : IsLiteral raw 13 14 := ⟨⟨by decide, by decide⟩, by decide, by decide, by decide⟩
  refine ⟨?_, ?_, ?_⟩
  · exact (hclosed 7 10 10 hfirst (by decide) (by decide) (by decide) (by decide) (hno 10)).trans
      (by decide)
  · exact hclosed 13 14 14 hempty (by decide) (by decide) (by decide) (by decide) (hno 14)
  · exact hopen 17 18 ⟨by decide, by decide⟩ (by decide) (by decide) (by decide) (by decide) (hno 18)

end AsmLens.Hover
