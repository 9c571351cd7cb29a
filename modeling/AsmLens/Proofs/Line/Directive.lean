import AsmLens.Line.Bytes
import AsmLens.Proofs.Line.Anatomy
import AsmLens.Proofs.Vocabulary

/-!
# The directive of a line

A line gives a name a meaning if a directive stands in its code with a blank directly behind it and no
newline before it. The first one counts. What precedes it is the name and what follows it the value, so a
directive inside the value is text like any other. All this is settled at the blank behind the directive:
texts that agree up to there have the same name and the same directive, whatever follows.

Results:
* `directiveAt?_eq_some_iff`: no two directives stand at one place, so the look-up is a plain question.
* `ofCode?_eq_some_iff`, `ofCode?_eq_none_iff`: the assignment that code makes, by the first directive.
* `FirstIn.congr`: the first directive depends on the code up to its blank alone.
* `fields?_eq`: the pattern of an assignment separates what the first directive separates.
* `assignment_by_first_directive`: which lines are assignments, and what they hold.
-/
namespace AsmLens
open Unicode (isBlank)
open Keyword (OccursAt)

/-! ## Directives in code -/

namespace Directive

/-- The directive stands at column `p` of the code as that of an assignment: a blank follows it directly,
and no newline precedes it. -/
structure StandsAt (code : Text) (p : Nat) (d : Directive) : Prop where
  occurs : OccursAt d code p
  blank : code[p + (Keyword.spelling d).length]?.any isBlank = true
  no_newline : '\n' ∉ code.take p

/-- The directive stands at column `p` of the code, and none stands before. -/
structure FirstIn (code : Text) (p : Nat) (d : Directive) : Prop where
  stands : StandsAt code p d
  leftmost : ∀ q < p, ∀ e, ¬ StandsAt code q e

variable {code other : Text} {p q : Nat} {d e : Directive}

instance : Decidable (StandsAt code p d) :=
  decidable_of_iff (OccursAt d code p ∧
      code[p + (Keyword.spelling d).length]?.any isBlank = true ∧ '\n' ∉ code.take p)
    ⟨fun h => ⟨h.1, h.2.1, h.2.2⟩, fun h => ⟨h.occurs, h.blank, h.no_newline⟩⟩

instance : Decidable (FirstIn code p d) :=
  decidable_of_iff (StandsAt code p d ∧ ∀ q < p, ∀ e ∈ all, ¬ StandsAt code q e)
    ⟨fun h => ⟨h.1, fun q hq e => h.2 q hq e (mem_all e)⟩,
      fun h => ⟨h.stands, fun q hq e _ => h.leftmost q hq e⟩⟩

theorem length_spelling_bounds (d : Directive) :
    3 ≤ (Keyword.spelling d).length ∧ (Keyword.spelling d).length ≤ 4 := by
  cases d <;> decide

/-- Directives differ in their first letter. -/
theorem eq_of_head (h : (Keyword.spelling d)[0]? = (Keyword.spelling e)[0]?) : d = e := by
  have distinct : ∀ d ∈ all, ∀ e ∈ all, d.spelling[0]? = e.spelling[0]? → d = e := by decide
  exact distinct d (mem_all d) e (mem_all e) h

theorem unique_of_occursAt (h : OccursAt d code p) (h' : OccursAt e code p) : d = e :=
  eq_of_head (h.head.trans h'.head.symm)

theorem StandsAt.blank_lt (h : StandsAt code p d) :
    p + (Keyword.spelling d).length < code.length := by
  obtain ⟨c, hc, -⟩ := (Option.any_eq_true _ _).mp h.blank
  exact (List.getElem?_eq_some_iff.mp hc).1

/-- A directive begins with a letter. -/
theorem not_blank_of_occursAt (h : OccursAt d code p) :
    ∃ c, code[p]? = some c ∧ isBlank c = false := by
  have letter : ∀ d ∈ all, ∃ c, d.spelling[0]? = some c ∧ isBlank c = false := by
    intro d _
    cases d <;> exact ⟨_, rfl, by decide⟩
  obtain ⟨c, hc, hblank⟩ := letter d (mem_all d)
  obtain ⟨w, hw, hupper⟩ := Option.map_eq_some_iff.mp (h.head.symm.trans hc)
  rw [← hupper, Unicode.isBlank_toUpper] at hblank
  exact ⟨w, hw, hblank⟩

/-- A directive is no blank, so code with one is not blank. -/
theorem StandsAt.not_blank (h : StandsAt code p d) : code.all isBlank = false := by
  obtain ⟨w, hw, hblank⟩ := not_blank_of_occursAt h.occurs
  rw [Bool.eq_false_iff]
  intro hall
  rw [List.all_eq_true.mp hall w (List.mem_of_getElem? hw)] at hblank
  cases hblank

/-- Whether a directive stands at a column depends on the code up to the blank behind it alone. -/
theorem standsAt_congr {n : Nat} (h : other.take n = code.take n)
    (hn : p + (Keyword.spelling d).length < n) : StandsAt other p d ↔ StandsAt code p d := by
  have hoccurs : OccursAt d other p ↔ OccursAt d code p := Keyword.occursAt_congr h (by omega)
  have hblank : other[p + (Keyword.spelling d).length]? = code[p + (Keyword.spelling d).length]? := by
    rw [← List.getElem?_take_of_lt hn, h, List.getElem?_take_of_lt hn]
  have hbefore : other.take p = code.take p := by
    have e := congrArg (List.take p) h
    rwa [List.take_take, List.take_take, Nat.min_eq_left (by omega)] at e
  constructor
  · intro h
    exact ⟨hoccurs.mp h.occurs, hblank ▸ h.blank, hbefore ▸ h.no_newline⟩
  · intro h
    exact ⟨hoccurs.mpr h.occurs, hblank ▸ h.blank, hbefore ▸ h.no_newline⟩

/-- So does which directive is the first: one that begins earlier ends before that blank, too. -/
theorem FirstIn.congr (first : FirstIn code p d)
    (h : other.take (p + (Keyword.spelling d).length + 1) =
      code.take (p + (Keyword.spelling d).length + 1)) : FirstIn other p d := by
  refine ⟨(standsAt_congr h (by omega)).mpr first.stands, ?_⟩
  intro q hq e he
  have hd := length_spelling_bounds d
  have he4 := length_spelling_bounds e
  exact first.leftmost q hq e ((standsAt_congr h (by omega)).mp he)

end Directive

/-! ## The assignment that code makes -/

namespace Assignment
open Directive (StandsAt FirstIn)
variable {code : Text} {p : Nat} {d : Directive} {a : Assignment}

theorem directiveAt?_eq_some_iff : directiveAt? (code.drop p) = some d ↔
    OccursAt d code p ∧ code[p + (Keyword.spelling d).length]?.any isBlank = true := by
  rw [directiveAt?, Keyword.longest?_eq_some_iff]
  · simp only [Bool.and_eq_true, Keyword.beginsAnyCase_drop, List.getElem?_drop]
    refine ⟨fun h => h.1, fun h => ⟨h, fun e he => ?_⟩⟩
    have hsame : e = d := Directive.unique_of_occursAt he.1 h.1
    subst hsame
    exact Nat.le_refl _
  · intro i j hi hj _
    simp only [Bool.and_eq_true, Keyword.beginsAnyCase_drop] at hi hj
    exact Directive.unique_of_occursAt hi.1 hj.1

theorem standsAt_iff : StandsAt code p d ↔
    directiveAt? (code.drop p) = some d ∧ '\n' ∉ code.take p := by
  rw [directiveAt?_eq_some_iff]
  exact ⟨fun h => ⟨⟨h.occurs, h.blank⟩, h.no_newline⟩, fun h => ⟨h.1.1, h.1.2, h.2⟩⟩

/-- A newline before a column stands before every later column. -/
theorem newline_mem_take {q : Nat} (h : '\n' ∈ code.take q) (hq : q ≤ p) : '\n' ∈ code.take p :=
  (List.take_prefix_take_left hq).subset h

theorem firstIn_iff : FirstIn code p d ↔
    Text.firstMatch? directiveAt? code = some (p, d) ∧ '\n' ∉ code.take p := by
  rw [Text.firstMatch?_eq_some_iff]
  constructor
  · intro h
    obtain ⟨stands, leftmost⟩ := h
    obtain ⟨found, no_newline⟩ := standsAt_iff.mp stands
    have hlt := stands.blank_lt
    refine ⟨⟨by omega, found, ?_⟩, no_newline⟩
    intro q hq
    cases he : directiveAt? (code.drop q) with
    | none => rfl
    | some e =>
      have before : '\n' ∉ code.take q := fun h => no_newline (newline_mem_take h (Nat.le_of_lt hq))
      exact absurd (standsAt_iff.mpr ⟨he, before⟩) (leftmost q hq e)
  · intro h
    obtain ⟨⟨-, found, before⟩, no_newline⟩ := h
    refine ⟨standsAt_iff.mpr ⟨found, no_newline⟩, ?_⟩
    intro q hq e he
    have hsome := (standsAt_iff.mp he).1
    rw [before q hq] at hsome
    cases hsome

theorem ofCode?_eq_some_iff : ofCode? code = some a ↔
    FirstIn code a.column a.directive ∧
      a.variableName = Field.trimmed code 0 a.column ∧
      a.value = Field.trimmed code a.operator.span.stop code.length := by
  rw [firstIn_iff, ofCode?]
  cases hfind : Text.firstMatch? directiveAt? code with
  | none => simp
  | some found =>
    obtain ⟨column, directive⟩ := found
    by_cases hnewline : '\n' ∈ code.take column
    · simp only [hnewline, if_true]
      refine iff_of_false (fun h => by cases h) ?_
      intro h
      obtain ⟨⟨he, hnot⟩, -⟩ := h
      cases he
      exact hnot hnewline
    · simp only [hnewline, if_false, Option.some.injEq, Prod.mk.injEq]
      constructor
      · intro h
        subst h
        exact ⟨⟨⟨rfl, rfl⟩, hnewline⟩, rfl, rfl⟩
      · intro h
        obtain ⟨⟨⟨rfl, rfl⟩, -⟩, hname, hvalue⟩ := h
        rw [operator] at hvalue
        rw [← hname, ← hvalue]

theorem ofCode?_eq_none_iff : ofCode? code = none ↔ ∀ p d, ¬ StandsAt code p d := by
  rw [ofCode?]
  cases hfind : Text.firstMatch? directiveAt? code with
  | none =>
    refine iff_of_true rfl ?_
    intro p d h
    have hlt := h.blank_lt
    have hnone := Text.firstMatch?_eq_none_iff.mp hfind p (by omega)
    rw [(standsAt_iff.mp h).1] at hnone
    cases hnone
  | some found =>
    obtain ⟨column, directive⟩ := found
    by_cases hnewline : '\n' ∈ code.take column
    · simp only [hnewline, if_true, true_iff]
      intro p d h
      -- the newline stands before the first place that comes into question, and so before every other
      have hle : column ≤ p := by
        apply Nat.le_of_not_lt
        intro hlt
        have hnone := (Text.firstMatch?_eq_some_iff.mp hfind).2.2 p hlt
        rw [(standsAt_iff.mp h).1] at hnone
        cases hnone
      exact h.no_newline (newline_mem_take hnewline hle)
    · simp only [hnewline, if_false]
      refine iff_of_false (fun h => by cases h) ?_
      intro h
      exact h column directive (firstIn_iff.mpr ⟨hfind, hnewline⟩).stands

end Assignment

/-! ## The pattern of an assignment -/

namespace Assignment
variable {code text : Text} {p column n : Nat}

theorem operatorLength?_eq_some_iff : operatorLength? (code.drop p) = some n ↔
    ∃ d, directiveAt? (code.drop p) = some d ∧ (Keyword.spelling d).length = n := by
  have found : ∀ {n}, operatorLength? (code.drop p) = some n →
      ∃ d, directiveAt? (code.drop p) = some d ∧ (Keyword.spelling d).length = n := by
    intro n h
    obtain ⟨classes, hfind, rfl⟩ := Option.map_eq_some_iff.mp h
    have htaken := List.find?_some hfind
    rw [Bool.and_eq_true, List.getElem?_drop] at htaken
    obtain ⟨d, hlength, hoccurs⟩ := Pattern.directive_spells.begins_iff.mp
      ⟨classes, List.mem_of_find?_eq_some hfind, rfl, htaken.1⟩
    exact ⟨d, directiveAt?_eq_some_iff.mpr ⟨hoccurs, hlength ▸ htaken.2⟩, hlength⟩
  refine ⟨found, ?_⟩
  intro h
  obtain ⟨d, hd, rfl⟩ := h
  have hstands := directiveAt?_eq_some_iff.mp hd
  obtain ⟨classes, hmem, hlength, hbegins⟩ :=
    Pattern.directive_spells.begins_iff.mpr ⟨d, rfl, hstands.1⟩
  -- some alternative takes the directive, and whichever comes first takes as much
  cases hfirst : operatorLength? (code.drop p) with
  | none =>
    have hnot := List.find?_eq_none.mp (Option.map_eq_none_iff.mp hfirst) classes hmem
    rw [hbegins, List.getElem?_drop, hlength, hstands.2] at hnot
    exact absurd rfl hnot
  | some n =>
    obtain ⟨e, he, rfl⟩ := found hfirst
    rw [hd] at he
    cases he
    rfl

theorem lazyFrom_eq (column : Nat) (text : Text) : lazyFrom column text =
    match Text.firstMatchFrom directiveAt? column text with
    | some (p, d) =>
      if '\n' ∈ text.take (p - column) then none
      else some ⟨p, p + (Keyword.spelling d).length⟩
    | none => none := by
  induction text generalizing column with
  | nil => rfl
  | cons c rest ih =>
    have hoperator := @operatorLength?_eq_some_iff (c :: rest) 0
    rw [List.drop_zero] at hoperator
    unfold lazyFrom Text.firstMatchFrom
    cases hd : directiveAt? (c :: rest) with
    | some d => simp [hoperator.mpr ⟨d, hd, rfl⟩]
    | none =>
      have hnone : operatorLength? (c :: rest) = none := by
        rw [Option.eq_none_iff_forall_ne_some]
        intro n hn
        obtain ⟨d, hd', -⟩ := hoperator.mp hn
        rw [hd] at hd'
        cases hd'
      simp only [hnone, ih]
      cases hfind : Text.firstMatchFrom directiveAt? (column + 1) rest with
      | none => simp
      | some found =>
        obtain ⟨p, d⟩ := found
        obtain ⟨m, rfl, -⟩ := Text.firstMatchFrom_eq_some_iff.mp hfind
        have htake : (c :: rest).take (column + 1 + m - column) = c :: rest.take m := by
          rw [show column + 1 + m - column = m + 1 by omega, List.take_succ_cons]
        simp only [Nat.add_sub_cancel_left, htake, List.mem_cons]
        by_cases hc : c = '\n'
        · simp [hc]
        · simp [hc, Ne.symm hc]

/-- The pattern separates what the first directive separates. -/
theorem fields?_eq (code : Text) :
    fields? code = (ofCode? code).map fun a => (a.variableName, a.operator, a.value) := by
  rw [fields?, matchPattern?, lazyFrom_eq, ofCode?, Text.firstMatch?]
  cases hfind : Text.firstMatchFrom directiveAt? 0 code with
  | none => rfl
  | some found =>
    obtain ⟨p, d⟩ := found
    by_cases hnewline : '\n' ∈ code.take p
    · simp [hnewline]
    · have hat := (Text.firstMatch?_eq_some_iff.mp hfind).2.1
      have hstands := directiveAt?_eq_some_iff.mp hat
      have hstop := hstands.1.stop_le
      have hgap := (Text.blankBetween_indentation
        (code.drop (p + (Keyword.spelling d).length))).of_drop
      have hle := Text.indentation_le_length (code.drop (p + (Keyword.spelling d).length))
      rw [List.length_drop] at hle
      -- the value is trimmed, so the blanks that the pattern takes are none of it
      have hvalue := Field.trimmed_eq_of_blankBetween (Nat.le_add_right _ _) (by omega)
        (Nat.le_refl code.length) (by omega) hgap (Text.blankBetween_of_le _ (Nat.le_refl _))
      rw [Nat.add_zero] at hvalue
      have hoperator : Text.asciiUpper (Span.extract ⟨p, p + (Keyword.spelling d).length⟩ code) =
          Keyword.spelling d := hstands.1
      simp [hnewline, hoperator, operator, ← hvalue]

end Assignment

/-! ## Lines with a directive -/

namespace Line
open Directive (StandsAt FirstIn)
variable {raw other : Text} {number p : Nat} {d : Directive} {a : Assignment}

theorem content_eq_assignment_iff : (ofText raw number).content = .assignment a ↔
    Assignment.ofCode? (raw.take (codeStop raw)) = some a := by
  refine ⟨ofCode?_of_content, ?_⟩
  intro h
  have hcode := (Assignment.ofCode?_eq_some_iff.mp h).1.stands.not_blank
  rw [ofText_eq]
  simp only [contentOf, hcode, h, Bool.false_eq_true, if_false]

/-- What the pattern separates in the code of a line are its name, operator and value. -/
theorem fields?_code (raw : Text) (number : Nat) :
    Assignment.fields? (raw.take (codeStop raw)) =
      if (ofText raw number).kind = .assignment then
        some ((ofText raw number).part .variableName, (ofText raw number).part .operator,
          (ofText raw number).part .value)
      else none := by
  rw [Assignment.fields?_eq]
  cases h : Assignment.ofCode? (raw.take (codeStop raw)) with
  | some a =>
    have hcontent : (ofText raw number).content = .assignment a := content_eq_assignment_iff.mpr h
    rw [if_pos (kind_eq_assignment_iff.mpr ⟨a, hcontent⟩), part_of_assignment hcontent]
    rfl
  | none =>
    rw [if_neg, Option.map_none]
    rw [kind_eq_assignment_iff]
    intro hkind
    obtain ⟨a, ha⟩ := hkind
    rw [ofCode?_of_content ha] at h
    cases h

theorem content_of_firstIn (number : Nat) (h : FirstIn (raw.take (codeStop raw)) p d) :
    (ofText raw number).content = .assignment
      { variableName := Field.trimmed raw 0 p
        directive := d
        column := p
        value := Field.trimmed raw (p + (Keyword.spelling d).length) (codeStop raw) } := by
  have hblank := h.stands.blank_lt
  rw [List.length_take_of_le (codeStop_le raw)] at hblank
  rw [content_eq_assignment_iff, Assignment.ofCode?_eq_some_iff]
  refine ⟨h, ?_, ?_⟩
  · exact (Field.trimmed_take raw (by omega)).symm
  · rw [List.length_take_of_le (codeStop_le raw)]
    exact (Field.trimmed_take raw (Nat.le_refl _)).symm

/-- What a line holds whose first directive is known. -/
theorem parts_of_firstIn (number : Nat) (h : FirstIn (raw.take (codeStop raw)) p d) :
    (ofText raw number).kind = .assignment ∧
      (ofText raw number).part .operator =
        ⟨Keyword.spelling d, ⟨p, p + (Keyword.spelling d).length⟩⟩ ∧
      (ofText raw number).part .variableName = Field.trimmed raw 0 p ∧
      (ofText raw number).part .value =
        Field.trimmed raw (p + (Keyword.spelling d).length) (codeStop raw) := by
  have hcontent := content_of_firstIn number h
  rw [part_of_assignment hcontent]
  exact ⟨kind_eq_assignment_iff.mpr ⟨_, hcontent⟩, rfl, rfl, rfl⟩

/-- Where the code of a line goes on at least up to a column, so does that of every line with the same
beginning. -/
theorem le_codeStop_of_take_eq {n : Nat} (h : other.take n = raw.take n) (hn : n ≤ codeStop raw) :
    n ≤ codeStop other := by
  have hfirst := congrArg (Text.firstUnquoted? ';') h
  rw [Text.firstUnquoted?_take (by decide), Text.firstUnquoted?_take (by decide)] at hfirst
  have hraw : (Text.firstUnquoted? ';' raw).filter (· < n) = none := by
    rw [Option.filter_eq_none_iff]
    intro column hcolumn
    rw [codeStop, hcolumn, Option.getD_some] at hn
    simpa using hn
  rw [hraw, Option.filter_eq_none_iff] at hfirst
  rw [codeStop]
  cases hother : Text.firstUnquoted? ';' other with
  | none =>
    have hlength := congrArg List.length h
    have hle := codeStop_le raw
    simp only [List.length_take] at hlength
    simp only [Option.getD_none]
    omega
  | some column => simpa using hfirst column hother

/-- Lines that begin alike up to the blank behind their first directive have it in common. -/
theorem firstIn_of_take_eq (h : FirstIn (raw.take (codeStop raw)) p d)
    (hother : other.take (p + (Keyword.spelling d).length + 1) =
      raw.take (p + (Keyword.spelling d).length + 1)) : FirstIn (other.take (codeStop other)) p d := by
  have hblank := h.stands.blank_lt
  rw [List.length_take_of_le (codeStop_le raw)] at hblank
  have hstop := le_codeStop_of_take_eq hother hblank
  apply h.congr
  rw [List.take_take, List.take_take, Nat.min_eq_left hstop, Nat.min_eq_left hblank, hother]

/-- A line is an assignment exactly if a directive stands in its code with a blank directly behind it and no
newline before it; a blank line and a comment have no such directive. For the first one, the operator is
the directive in upper case where it stands, the name is what precedes it and the value what follows it in
the code, both trimmed and absent if they are blank. The pattern of an assignment matches exactly these
lines and separates the same three fields. A line that begins alike up to the blank behind the directive is
an assignment with this name and operator, whatever follows, and its value is what follows. -/
theorem assignment_by_first_directive (raw : Text) (number : Nat) :
    let line := ofText raw number
    let code := raw.take (codeStop raw)
    (line.kind = .assignment ↔ ∃ p d, StandsAt code p d) ∧
      Assignment.fields? code =
        (if line.kind = .assignment then
          some (line.part .variableName, line.part .operator, line.part .value)
        else none) ∧
      ∀ p d, FirstIn code p d →
        let stop := p + (Keyword.spelling d).length
        line.part .operator = ⟨Keyword.spelling d, ⟨p, stop⟩⟩ ∧
          line.part .variableName = Field.trimmed raw 0 p ∧
          line.part .value = Field.trimmed raw stop (codeStop raw) ∧
          ∀ other : Text, other.take (stop + 1) = raw.take (stop + 1) →
            let rewritten := ofText other number
            rewritten.kind = .assignment ∧
              rewritten.part .operator = line.part .operator ∧
              rewritten.part .variableName = line.part .variableName ∧
              rewritten.part .value = Field.trimmed other stop (codeStop other) := by
  intro line code
  refine ⟨?_, fields?_code raw number, ?_⟩
  · rw [kind_eq_assignment_iff]
    constructor
    · intro h
      obtain ⟨a, ha⟩ := h
      have first := (Assignment.ofCode?_eq_some_iff.mp (ofCode?_of_content ha)).1
      exact ⟨a.column, a.directive, first.stands⟩
    · intro h
      obtain ⟨p, d, stands⟩ := h
      cases hcode : Assignment.ofCode? code with
      | none => exact absurd stands (Assignment.ofCode?_eq_none_iff.mp hcode p d)
      | some a => exact ⟨a, content_eq_assignment_iff.mpr hcode⟩
  · intro p d first stop
    obtain ⟨-, hoperator, hname, hvalue⟩ := parts_of_firstIn number first
    refine ⟨hoperator, hname, hvalue, ?_⟩
    intro other hother rewritten
    obtain ⟨hkind', hoperator', hname', hvalue'⟩ :=
      parts_of_firstIn number (firstIn_of_take_eq first hother)
    have hbefore : Field.trimmed other 0 p = Field.trimmed raw 0 p := by
      rw [← Field.trimmed_take other (by omega : p ≤ stop + 1), hother,
        Field.trimmed_take raw (by omega)]
    exact ⟨hkind', hoperator'.trans hoperator.symm, hname'.trans (hbefore.trans hname.symm), hvalue'⟩

/-- The directive of `WORDS word 5 EQU 2` is the second thing that looks like one: no blank follows the
first. The name and the operator are those of every line that begins with `WORDS word` and a blank. -/
theorem assignment_by_first_directive_among_three :
    let raw : Text := "WORDS word 5 EQU 2 ; STR "
    let other : Text := "WORDS word 'tab ', TAB  "
    FirstIn (raw.take (codeStop raw)) 6 .word ∧ other.take 11 = raw.take 11 ∧
      (ofText raw 0).kind = .assignment ∧
      (ofText raw 0).part .variableName = ⟨"WORDS", ⟨0, 5⟩⟩ ∧
      (ofText raw 0).part .value = ⟨"5 EQU 2", ⟨11, 18⟩⟩ ∧
      (ofText other 0).part .operator = ⟨"WORD", ⟨6, 10⟩⟩ ∧
      (ofText other 0).part .value = ⟨"'tab ', TAB", ⟨11, 22⟩⟩ := by
  intro raw other
  have first : FirstIn (raw.take (codeStop raw)) 6 .word := by decide
  have begins : other.take 11 = raw.take 11 := by decide
  obtain ⟨hkind, -, hparts⟩ := assignment_by_first_directive raw 0
  obtain ⟨hoperator, hname, hvalue, hother⟩ := hparts 6 .word first
  obtain ⟨-, hoperator', -, hvalue'⟩ := hother other begins
  refine ⟨first, begins, hkind.mpr ⟨6, .word, first.stands⟩, hname.trans (by decide),
    hvalue.trans (by decide), hoperator'.trans (hoperator.trans (by decide)),
    hvalue'.trans (by decide)⟩

end Line
end AsmLens
